import Zet.Terminal.Emulation

/-!
# Wide characters in two halves

A wide character takes two cells: its head, of width 2, and behind it a cell of width 0. Every line
operation can part the two; each repairs what it parts, so in every line a head has its second half
behind it, and a second half its head in front (`WidePairs`). An operation is described by the widths
it leaves, column by column.
-/

namespace Zet.Terminal
open Zet.Core Zet.Lib

/-- The width of the cell in a column. -/
def Line.width (line : Line) (col : Nat) : Nat := (line.at col).width

/-- Widths in which heads and second halves stand together, and the first is no second half. -/
structure Pairs (w : Nat → Nat) : Prop where
  head : w 0 ≠ 0
  pair : ∀ col, w col = 2 ↔ w (col + 1) = 0

/-- The widths `w` with what stands from `a` up to `b` replaced by `m` others, and what is parted by
that made narrow. -/
def splice (a b m : Nat) (seg w : Nat → Nat) (col : Nat) : Nat :=
  if col < a then if col + 1 = a ∧ w col = 2 then 1 else w col
  else if col < a + m then seg (col - a)
  else if col = a + m ∧ w b = 0 then 1
  else w (b + (col - (a + m)))

/-- Narrow columns are pairs of nothing. -/
lemma Pairs.narrow : Pairs fun _ => 1 where
  head := Nat.one_ne_zero
  pair _ := by decide

/-- A whole piece put between two columns is cut to pairs at both ends. -/
lemma Pairs.spliced {w seg : Nat → Nat} (h : Pairs w) (a b : Nat) {m : Nat}
    (head : 0 < m → seg 0 ≠ 0) (pair : ∀ k, k + 1 < m → (seg k = 2 ↔ seg (k + 1) = 0))
    (last : ∀ k, k + 1 = m → seg k ≠ 2) : Pairs (splice a b m seg w) := by
  -- What follows the replaced columns does not start with a second half.
  have hafter : splice a b m seg w (a + m) ≠ 0 := by
    unfold splice
    rw [if_neg (by omega), if_neg (by omega), Nat.sub_self, Nat.add_zero]
    split
    · exact Nat.one_ne_zero
    · next hwidth => exact fun hzero => hwidth ⟨rfl, hzero⟩
  -- nor does what replaces them
  have hseg : splice a b m seg w a ≠ 0 := by
    rcases Nat.eq_zero_or_pos m with rfl | hpos
    · exact hafter
    · unfold splice
      rw [if_neg (by omega), if_pos (by omega), Nat.sub_self]
      exact head hpos
  refine ⟨?_, fun col => ?_⟩
  · rcases Nat.eq_zero_or_pos a with rfl | hpos
    · exact hseg
    · unfold splice
      rw [if_pos hpos]
      split
      · exact Nat.one_ne_zero
      · exact h.head
  rcases Nat.lt_trichotomy (col + 1) a with hlt | rfl | hgt
  · have hpair := h.pair col
    unfold splice
    rw [if_pos (by omega), if_neg (by omega), if_pos hlt]
    split
    · omega
    · exact hpair
  · refine iff_of_false ?_ hseg
    unfold splice
    rw [if_pos (by omega)]
    split
    · decide
    · next hwide => exact fun hwidth => hwide ⟨rfl, hwidth⟩
  rcases Nat.lt_trichotomy (col + 1) (a + m) with hlt | heq | hgt'
  · have hnext : col + 1 - a = col - a + 1 := by omega
    unfold splice
    rw [if_neg (by omega), if_pos (by omega), if_neg (by omega), if_pos hlt, hnext]
    exact pair (col - a) (by omega)
  · rw [heq]
    refine iff_of_false ?_ hafter
    unfold splice
    rw [if_neg (by omega), if_pos (by omega)]
    exact last (col - a) (by omega)
  · have hnext : b + (col + 1 - (a + m)) = b + (col - (a + m)) + 1 := by omega
    have hpair := h.pair (b + (col - (a + m)))
    unfold splice
    rw [if_neg (by omega), if_neg (by omega)]
    split
    · next hstart =>
      rw [if_neg (by omega), if_neg (by omega), if_neg (by omega), hnext, ← hpair, hstart.1,
        Nat.sub_self, Nat.add_zero, hstart.2]
      decide
    · rw [if_neg (by omega), if_neg (by omega), if_neg (by omega), hnext]
      exact hpair

/-- Heads and second halves stand together in a line of so many columns. -/
structure WidePairs (cols : Nat) (line : Line) : Prop where
  length : line.length = cols
  pairs : Pairs line.width

namespace Line

variable {line : Line} {cell : Cell}

/-- Behind the line there are narrow columns. -/
lemma width_of_le {col : Nat} (h : line.length ≤ col) : line.width col = 1 := by
  rw [width, Line.at, List.getD_eq_default _ _ h]

/-- The width of a column is that of its cell. -/
lemma width_eq {l : Line} {col : Nat} (h : col < l.length) : l.width col = l[col].width := by
  rw [width, Line.at, List.getD_eq_getElem _ _ h]

/-- Narrow cells make a narrow line. -/
lemma width_replicate (n : Nat) (hcell : cell.width = 1) (col : Nat) :
    Line.width (List.replicate n cell) col = 1 := by
  rcases Nat.lt_or_ge col n with hin | hout
  · rw [width_eq (by rw [List.length_replicate]; exact hin), List.getElem_replicate, hcell]
  · exact width_of_le (by rw [List.length_replicate]; exact hout)

/-- Setting a cell changes the width of its column. -/
lemma width_set (line : Line) (i : Nat) (cell : Cell) (col : Nat) :
    Line.width (line.set i cell) col =
      if col = i ∧ i < line.length then cell.width else line.width col := by
  unfold width Line.at
  rw [List.getD_eq_getElem?_getD, List.getD_eq_getElem?_getD, List.getElem?_set]
  by_cases here : i = col
  · subst here
    by_cases hin : i < line.length
    · rw [if_pos rfl, if_pos hin, if_pos ⟨rfl, hin⟩]
      rfl
    · rw [if_pos rfl, if_neg hin, if_neg fun h => hin h.2, List.getElem?_eq_none (by omega)]
  · rw [if_neg here, if_neg fun h => here h.1.symm]

/-- Changing every cell changes the widths with them. -/
lemma width_mapIdx (line : Line) (f : Nat → Cell → Cell) (col : Nat) :
    Line.width (line.mapIdx f) col =
      if col < line.length then (f col (line.at col)).width else 1 := by
  split
  · next hin =>
    rw [width_eq (by rw [List.length_mapIdx]; exact hin), List.getElem_mapIdx, Line.at,
      List.getD_eq_getElem _ _ hin]
  · next hout => exact width_of_le (by rw [List.length_mapIdx]; omega)

/-- Filling with a narrow cell makes the columns narrow. -/
lemma width_fillCells (start stop : Nat) (line : Line) (col : Nat) (hcell : cell.width = 1) :
    Line.width (Grid.fillCells start stop cell line) col =
      if start ≤ col ∧ col < stop then 1 else line.width col := by
  rw [Grid.fillCells, width_mapIdx]
  split
  · split
    · exact hcell
    · rfl
  · split
    · rfl
    · exact (width_of_le (by omega)).symm

/-- Cells take their widths with them. -/
lemma width_moveCells {dst src count : Nat} (h : dst + count ≤ line.length) (col : Nat) :
    Line.width (Grid.moveCells dst src count line) col =
      if dst ≤ col ∧ col < dst + count then line.width (src + (col - dst)) else line.width col := by
  rw [Grid.moveCells, width_mapIdx]
  split
  · split <;> rfl
  · rw [if_neg (by omega)]
    exact (width_of_le (by omega)).symm

/-- Blanking a cell of some width makes its column narrow. -/
lemma width_blankWhere (i k : Nat) (line : Line) (col : Nat) (hcell : cell.width = 1) (hk : k ≠ 1) :
    Line.width (Grid.blankWhere i k cell line) col =
      if col = i ∧ line.width col = k then 1 else line.width col := by
  unfold Grid.blankWhere
  split
  · next hwidth =>
    rw [width_set]
    by_cases here : col = i
    · subst here
      have hin : col < line.length := by
        by_contra hout
        exact hk (hwidth.symm.trans (width_of_le (by omega)))
      rw [if_pos ⟨rfl, hin⟩, if_pos ⟨rfl, hwidth⟩, hcell]
    · rw [if_neg fun h => here h.1, if_neg fun h => here h.1]
  · next hwidth =>
    rw [if_neg]
    rintro ⟨rfl, h⟩
    exact hwidth h

/-- Filling keeps the length. -/
@[simp] lemma length_fillCells (start stop : Nat) (cell : Cell) (line : Line) :
    (Grid.fillCells start stop cell line).length = line.length :=
  List.length_mapIdx

/-- Moving cells keeps it. -/
@[simp] lemma length_moveCells (dst src count : Nat) (line : Line) :
    (Grid.moveCells dst src count line).length = line.length :=
  List.length_mapIdx

/-- Blanking a cell keeps it. -/
@[simp] lemma length_blankWhere (i k : Nat) (cell : Cell) (line : Line) :
    (Grid.blankWhere i k cell line).length = line.length := by
  unfold Grid.blankWhere
  split
  · exact List.length_set
  · rfl

/-- Repairing orphans keeps it. -/
@[simp] lemma length_repair (g : Grid) (first last : Nat) (line : Line) :
    (g.repairWideOrphans first last line).length = line.length := by
  unfold Grid.repairWideOrphans
  dsimp only
  split <;> split <;> simp only [length_blankWhere]

/-- A repair makes the head in front of a range narrow, and the tail behind it. -/
lemma width_repair (g : Grid) (first last : Nat) (line : Line) (col : Nat) (hline : line.length = g.cols) :
    Line.width (g.repairWideOrphans first last line) col =
      if (col + 1 = first ∧ line.width col = 2) ∨ (col = last ∧ line.width col = 0) then 1
      else line.width col := by
  have hleft : ∀ col, Line.width
      (if first > 0 then Grid.blankWhere (first - 1) 2 g.blankCell line else line) col =
        if col + 1 = first ∧ line.width col = 2 then 1 else line.width col := by
    intro col
    split
    · rw [width_blankWhere _ _ _ _ rfl (by decide)]
      refine if_congr ?_ rfl rfl
      omega
    · rw [if_neg (by omega)]
  unfold Grid.repairWideOrphans
  dsimp only
  split
  · rw [width_blankWhere _ _ _ _ rfl (by decide), hleft]
    grind
  · next hlast =>
    rw [hleft]
    have hout : Line.width line last = 1 := width_of_le (by omega)
    grind

/-- Breaking a head keeps the length. -/
@[simp] lemma length_breakHead (g : Grid) (line : Line) : (g.breakHead line).length = line.length := by
  unfold Grid.breakHead
  dsimp only
  split
  · exact List.length_set
  · rfl

/-- It makes the head in front of the cursor narrow. -/
lemma width_breakHead (g : Grid) (line : Line) (col : Nat) :
    Line.width (g.breakHead line) col =
      if col + 1 = g.cursorCol ∧ line.width col = 2 then 1 else line.width col := by
  unfold Grid.breakHead
  dsimp only
  split
  · next hsplit =>
    have hwide : line.width (g.cursorCol - 1) = 2 := hsplit.2
    have hin : g.cursorCol - 1 < line.length := by
      by_contra hout
      rw [width_of_le (by omega)] at hwide
      cases hwide
    rw [width_set]
    grind
  · next hsplit =>
    have hwide : ¬(g.cursorCol > 0 ∧ line.width (g.cursorCol - 1) = 2) := hsplit
    grind

/-- Blanking a tail keeps the length. -/
@[simp] lemma length_blankTail (g : Grid) (at_ : Nat) (line : Line) :
    (g.blankTail at_ line).length = line.length := by
  unfold Grid.blankTail
  split
  · exact List.length_set
  · rfl

/-- It makes the tail of a head at that column narrow. -/
lemma width_blankTail {g : Grid} {line : Line} (at_ col : Nat) (hline : line.length = g.cols) :
    Line.width (g.blankTail at_ line) col =
      if col = at_ + 1 ∧ line.width at_ = 2 ∧ at_ + 1 < g.cols then 1 else line.width col := by
  have hblank : g.blankCell.width = 1 := rfl
  unfold Grid.blankTail
  split
  · next hsplit =>
    have hwide : line.width at_ = 2 := hsplit.1
    rw [width_set]
    grind
  · next hsplit =>
    have hwide : ¬(line.width at_ = 2 ∧ at_ + 1 < g.cols) := hsplit
    grind

/-- Blanking a cell of some width puts the blank there. -/
lemma at_blankWhere {i k : Nat} {line : Line} (hin : i < line.length) (col : Nat) :
    Line.at (Grid.blankWhere i k cell line) col =
      if col = i ∧ (line.at col).width = k then cell else line.at col := by
  unfold Grid.blankWhere
  split
  · next hwidth =>
    unfold Line.at at hwidth ⊢
    rw [List.getD_eq_getElem?_getD, List.getElem?_set]
    by_cases here : i = col
    · subst here
      rw [if_pos rfl, if_pos hin, if_pos ⟨rfl, hwidth⟩]
      rfl
    · rw [if_neg here, if_neg fun h => here h.1.symm, ← List.getD_eq_getElem?_getD]
  · next hwidth =>
    rw [if_neg]
    rintro ⟨rfl, h⟩
    exact hwidth h

/-- As many columns are kept as both sizes have. -/
lemma keptCols_eq (g : Grid) (newCols : Nat) : g.keptCols newCols = min newCols g.cols := by
  unfold Grid.keptCols
  split <;> omega

/-- A cut line has its length. -/
lemma length_cutLine (g : Grid) (newCols : Nat) (line : Line) :
    (g.cutLine newCols line).length = line.length := by
  unfold Grid.cutLine
  split
  · exact length_blankWhere ..
  · rfl

/-- A fitted line has the new length. -/
lemma length_fitLine {g : Grid} {line : Line} (h : line.length = g.cols) (newCols : Nat) :
    (g.fitLine newCols line).length = newCols := by
  rw [Grid.fitLine, Grid.copyLine, List.length_append, List.length_take, List.length_replicate,
    keptCols_eq, length_cutLine, h]
  omega

/-- A cell of a line in other columns: the same where it fits, blank where a narrower screen would cut
a wide character in half, and fresh beyond the old columns. -/
lemma at_fitLine {g : Grid} {line : Line} (h : line.length = g.cols) (newCols col : Nat) :
    Line.at (g.fitLine newCols line) col =
      if col < min newCols g.cols then
        if col + 1 = newCols ∧ newCols < g.cols ∧ (line.at col).width = 2 then g.blankCell else line.at col
      else {} := by
  have htake : (List.take (min newCols g.cols) (g.cutLine newCols line)).length = min newCols g.cols := by
    rw [List.length_take, length_cutLine, h]
    omega
  unfold Grid.fitLine Grid.copyLine
  rw [keptCols_eq]
  split
  · next hin =>
    have hcut : Line.at (List.take (min newCols g.cols) (g.cutLine newCols line) ++
        List.replicate (newCols - min newCols g.cols) ({} : Cell)) col = Line.at (g.cutLine newCols line) col := by
      unfold Line.at
      rw [List.getD_append _ _ _ _ (htake.symm ▸ hin), List.getD_eq_getElem?_getD,
        List.getElem?_take_of_lt hin, ← List.getD_eq_getElem?_getD]
    rw [hcut]
    unfold Grid.cutLine
    split
    · rw [at_blankWhere (by omega)]
      refine if_congr ?_ rfl rfl
      omega
    · next hkept => rw [if_neg fun hcut => hkept hcut.2.1]
  · next hout =>
    have hfresh : (List.replicate (newCols - min newCols g.cols) ({} : Cell)).getD
        (col - min newCols g.cols) {} = {} := by
      rw [List.getD_eq_getElem?_getD, List.getElem?_getD_replicate_default_eq]
    unfold Line.at
    rw [List.getD_append_right _ _ _ _ (htake.symm ▸ Nat.le_of_not_lt hout), htake, hfresh]

end Line

namespace WidePairs

variable {cols : Nat} {line line' : Line} {g : Grid}

/-- Behind the columns everything is narrow. -/
lemma out (h : WidePairs cols line) {col : Nat} (hcol : cols ≤ col) : line.width col = 1 :=
  Line.width_of_le (h.length.symm ▸ hcol)

/-- A line whose widths are those of another with some columns replaced. -/
lemma of_splice {newCols : Nat} (h : WidePairs cols line) (length : line'.length = newCols) (a b m : Nat) (seg : Nat → Nat)
    (width : ∀ col, line'.width col = splice a b m seg line.width col) (head : 0 < m → seg 0 ≠ 0)
    (pair : ∀ k, k + 1 < m → (seg k = 2 ↔ seg (k + 1) = 0)) (last : ∀ k, k + 1 = m → seg k ≠ 2) :
    WidePairs newCols line' :=
  ⟨length, funext width ▸ h.pairs.spliced a b head pair last⟩

/-- The same with columns of blanks. -/
lemma of_blanks {newCols : Nat} (h : WidePairs cols line) (length : line'.length = newCols) (a b m : Nat)
    (width : ∀ col, line'.width col = splice a b m (fun _ => 1) line.width col) :
    WidePairs newCols line' :=
  h.of_splice length a b m _ width (fun _ => Nat.one_ne_zero) (fun _ _ => by decide) fun _ _ => by decide

/-- Erasing a range and repairing its ends leaves whole pairs. -/
lemma erase (h : WidePairs cols line) (hcols : g.cols = cols) {first last stop : Nat}
    (hstop : first ≤ stop) (hlast : last = stop ∨ (last = first ∧ stop = cols)) :
    WidePairs cols (Grid.fillCells first stop g.blankCell (g.repairWideOrphans first last line)) := by
  have hline : line.length = g.cols := h.length.trans hcols.symm
  refine h.of_blanks ?_ first stop (stop - first) fun col => ?_
  · rw [Line.length_fillCells, Line.length_repair, h.length]
  · have hend : first + (stop - first) = stop := by omega
    rw [Line.width_fillCells _ _ _ _ rfl, Line.width_repair _ _ _ _ _ hline]
    unfold splice
    rw [hend]
    have hout : cols ≤ col → line.width col = 1 := h.out
    have hend' : cols ≤ stop → line.width stop = 1 := h.out
    grind

/-- A line with no second half under the cursor. -/
lemma freed (h : WidePairs cols line) (hcol : g.cursorCol < cols) :
    ∃ line' : Line, (if g.cursorCol > 0 ∧ (line.at g.cursorCol).width = 0 then
        (line.set (g.cursorCol - 1) g.blankCell).set g.cursorCol g.blankCell else line) = line' ∧
      WidePairs cols line' ∧ line'.width g.cursorCol ≠ 0 := by
  have hlength := h.length
  split
  · next hsplit =>
    have hwidth : line.width g.cursorCol = 0 := hsplit.2
    have hwide : line.width (g.cursorCol - 1) = 2 := by
      rw [h.pairs.pair, Nat.sub_add_cancel hsplit.1]
      exact hwidth
    have hset : ∀ col, Line.width
        ((line.set (g.cursorCol - 1) g.blankCell).set g.cursorCol g.blankCell) col =
          if col = g.cursorCol ∨ col + 1 = g.cursorCol then 1 else line.width col := by
      intro col
      rw [Line.width_set, Line.width_set, List.length_set]
      have hblank : g.blankCell.width = 1 := rfl
      grind
    refine ⟨_, rfl, h.of_blanks ?_ g.cursorCol (g.cursorCol + 1) 1 fun col => ?_, ?_⟩
    · rw [List.length_set, List.length_set, hlength]
    · have hnext : line.width (g.cursorCol + 1) ≠ 0 := by
        rw [ne_eq, ← h.pairs.pair, hwidth]
        decide
      rw [hset]
      unfold splice
      grind
    · rw [hset, if_pos (.inl rfl)]
      exact Nat.one_ne_zero
  · next hsplit =>
    refine ⟨line, rfl, h, fun hwidth => ?_⟩
    rcases Nat.eq_zero_or_pos g.cursorCol with hzero | hpos
    · exact h.pairs.head (hzero ▸ hwidth)
    · exact hsplit ⟨hpos, hwidth⟩

/-- Deleting cells does. -/
lemma deleteCells (h : WidePairs cols line) (hcols : g.cols = cols) (hcol : g.cursorCol < cols)
    {n : Nat} (hn : n ≤ cols - g.cursorCol) : WidePairs cols (g.deleteCells n line) := by
  obtain ⟨line', heq, h', hfree⟩ := h.freed hcol
  unfold Grid.deleteCells
  dsimp only
  rw [heq, hcols]
  have hlength := h'.length
  have hmoved : ∀ col, Line.width (Grid.blankWhere g.cursorCol 0 g.blankCell
      (Grid.fillCells (cols - n) cols g.blankCell
        (Grid.moveCells g.cursorCol (g.cursorCol + n) (cols - g.cursorCol - n) line'))) col =
      if col < g.cursorCol then line'.width col
      else if col = g.cursorCol ∧ line'.width (g.cursorCol + n) = 0 then 1
      else line'.width (g.cursorCol + n + (col - g.cursorCol)) := by
    intro col
    have hout : cols ≤ g.cursorCol + n + (col - g.cursorCol) →
        line'.width (g.cursorCol + n + (col - g.cursorCol)) = 1 := h'.out
    have hout' : cols ≤ col → line'.width col = 1 := h'.out
    rw [Line.width_blankWhere _ _ _ _ rfl (by decide), Line.width_fillCells _ _ _ _ rfl,
      Line.width_moveCells (by omega)]
    grind
  refine h'.of_blanks ?_ g.cursorCol (g.cursorCol + n) 0 fun col => ?_
  · split <;> simp [hlength]
  -- The last column holds no head, nor does the one in front of the cursor.
  have hlast : line'.width (cols - 1) ≠ 2 := by
    rw [ne_eq, h'.pairs.pair, h'.out (by omega)]
    exact Nat.one_ne_zero
  have hfront : 0 < g.cursorCol → line'.width (g.cursorCol - 1) ≠ 2 := by
    intro hpos
    rw [ne_eq, h'.pairs.pair, Nat.sub_add_cancel hpos]
    exact hfree
  have hfront' : col + 1 = g.cursorCol → line'.width col ≠ 2 := by
    rintro hcur
    exact Nat.eq_sub_of_add_eq hcur ▸ hfront (by omega)
  have hsame : splice g.cursorCol (g.cursorCol + n) 0 (fun _ => 1) line'.width col =
      if col < g.cursorCol then line'.width col
      else if col = g.cursorCol ∧ line'.width (g.cursorCol + n) = 0 then 1
      else line'.width (g.cursorCol + n + (col - g.cursorCol)) := by
    unfold splice
    grind
  rw [hsame]
  split
  · rw [Line.width_blankWhere _ _ _ _ rfl (by decide), hmoved, ite_eq_right_iff]
    rintro ⟨rfl, hwide⟩
    split at hwide
    · exact absurd hwide (hfront' (by omega))
    split at hwide
    · cases hwide
    · have hcur : g.cursorCol + n + (cols - n - 1 - g.cursorCol) = cols - 1 := by omega
      exact absurd (hcur ▸ hwide) hlast
  · exact hmoved col

/-- Inserting blanks does. -/
lemma insertCells (h : WidePairs cols line) (hcols : g.cols = cols) (hcol : g.cursorCol < cols)
    {n : Nat} (hn : n ≤ cols - g.cursorCol) : WidePairs cols (g.insertCells n line) := by
  have hlength := h.length
  -- The line as it would be without an end, cut off behind the last column.
  let wide := splice g.cursorCol g.cursorCol n (fun _ => 1) line.width
  have hwide : Pairs wide := h.pairs.spliced _ _ (fun _ => Nat.one_ne_zero) (fun _ _ => by decide)
    fun _ _ => by decide
  suffices hwidth : ∀ col, Line.width (g.insertCells n line) col =
      splice cols (cols + n) 0 (fun _ => 1) wide col by
    refine ⟨?_, funext hwidth ▸ hwide.spliced _ _ (fun _ => Nat.one_ne_zero) (fun _ _ => by decide)
      fun _ _ => by decide⟩
    unfold Grid.insertCells
    dsimp only
    split <;> split <;> simp [hlength]
  have hleft : ∀ col, Line.width
      (if g.cursorCol > 0 then Grid.blankWhere (g.cursorCol - 1) 2 g.blankCell
        (Grid.fillCells g.cursorCol (g.cursorCol + n) g.blankCell
          (Grid.moveCells (g.cursorCol + n) g.cursorCol (cols - g.cursorCol - n) line))
      else Grid.fillCells g.cursorCol (g.cursorCol + n) g.blankCell
        (Grid.moveCells (g.cursorCol + n) g.cursorCol (cols - g.cursorCol - n) line)) col =
        if col < g.cursorCol then if col + 1 = g.cursorCol ∧ line.width col = 2 then 1 else line.width col
        else if col < g.cursorCol + n ∨ cols ≤ col then 1
        else line.width (g.cursorCol + (col - (g.cursorCol + n))) := by
    intro col
    have hmoved : ∀ col, Line.width (Grid.fillCells g.cursorCol (g.cursorCol + n) g.blankCell
        (Grid.moveCells (g.cursorCol + n) g.cursorCol (cols - g.cursorCol - n) line)) col =
          if col < g.cursorCol then line.width col
          else if col < g.cursorCol + n ∨ cols ≤ col then 1
          else line.width (g.cursorCol + (col - (g.cursorCol + n))) := by
      intro col
      have hout : cols ≤ col → line.width col = 1 := h.out
      rw [Line.width_fillCells _ _ _ _ rfl, Line.width_moveCells (by omega)]
      grind
    split
    · rw [Line.width_blankWhere _ _ _ _ rfl (by decide), hmoved]
      grind
    · rw [hmoved]
      grind
  intro col
  unfold Grid.insertCells
  dsimp only
  rw [hcols]
  generalize (if g.cursorCol > 0 then Grid.blankWhere (g.cursorCol - 1) 2 g.blankCell
        (Grid.fillCells g.cursorCol (g.cursorCol + n) g.blankCell
          (Grid.moveCells (g.cursorCol + n) g.cursorCol (cols - g.cursorCol - n) line))
      else Grid.fillCells g.cursorCol (g.cursorCol + n) g.blankCell
        (Grid.moveCells (g.cursorCol + n) g.cursorCol (cols - g.cursorCol - n) line)) = left at hleft ⊢
  have hstart : ∀ col, Line.width (if g.cursorCol + n < cols then
      Grid.blankWhere (g.cursorCol + n) 0 g.blankCell left else left) col =
        if col < cols then wide col else 1 := by
    intro col
    change _ = if col < cols then splice g.cursorCol g.cursorCol n (fun _ => 1) line.width col else 1
    unfold splice
    split
    · rw [Line.width_blankWhere _ _ _ _ rfl (by decide), hleft]
      grind
    · rw [hleft]
      grind
  have hfar : ∀ far, cols + n ≤ far → wide far = 1 := by
    intro far hfar
    have hout : line.width (g.cursorCol + (far - (g.cursorCol + n))) = 1 := h.out (by omega)
    have hstart : cols ≤ g.cursorCol → line.width g.cursorCol = 1 := h.out
    change splice g.cursorCol g.cursorCol n (fun _ => 1) line.width far = 1
    unfold splice
    grind
  have hnext := hfar (cols + n) (Nat.le_refl _)
  have hrest := hfar (cols + n + (col - cols)) (by omega)
  rw [Line.width_blankWhere _ _ _ _ rfl (by decide), hstart]
  unfold splice
  grind

/-- What `PutChar` writes: the cells of one character, and narrow ones for what it parts. -/
lemma writeCells (h : WidePairs cols line) (hcols : g.cols = cols) (hcol : g.cursorCol < cols)
    {cp width : Nat} (hwidth : width = 1 ∨ width = 2) (hfits : width = 2 → g.cursorCol + 1 < cols) :
    WidePairs cols (g.writeCells cp width line) := by
  have hlength := h.length
  have hbroken : (g.breakHead line).length = cols := by rw [Line.length_breakHead, hlength]
  have htail : (g.blankTail g.cursorCol (g.breakHead line)).length = cols := by
    rw [Line.length_blankTail, hbroken]
  have hhead : ∀ col, Line.width (List.set (g.blankTail g.cursorCol (g.breakHead line)) g.cursorCol
      { codepoint := cp, width := width, pen := g.pen }) col =
        if col = g.cursorCol then width
        else if col + 1 = g.cursorCol ∧ line.width col = 2 then 1
        else if col = g.cursorCol + 1 ∧ line.width g.cursorCol = 2 then 1
        else line.width col := by
    intro col
    have hout : cols ≤ col → line.width col = 1 := h.out
    rw [Line.width_set, Line.width_blankTail _ _ (hbroken.trans hcols.symm), Line.width_breakHead,
      Line.width_breakHead, htail]
    grind
  have hnext : line.width g.cursorCol = 2 ↔ line.width (g.cursorCol + 1) = 0 := h.pairs.pair g.cursorCol
  unfold Grid.writeCells Grid.writeTail
  dsimp only
  rcases hwidth with rfl | rfl
  · rw [if_neg fun hwide => nomatch hwide.1]
    refine h.of_blanks ?_ g.cursorCol (g.cursorCol + 1) 1 fun col => ?_
    · rw [List.length_set, htail]
    · rw [hhead]
      unfold splice
      grind
  · have hfits' := hfits rfl
    rw [if_pos ⟨rfl, hcols ▸ hfits'⟩]
    refine h.of_splice ?_ g.cursorCol (g.cursorCol + 2) 2 (fun k => if k = 0 then 2 else 0)
      (fun col => ?_) (fun _ => by decide) ?_ ?_
    · rw [List.length_set, Line.length_blankTail, List.length_set, htail]
    · have hafter : line.width (g.cursorCol + 1) = 2 ↔ line.width (g.cursorCol + 2) = 0 :=
        h.pairs.pair (g.cursorCol + 1)
      have hend : cols ≤ g.cursorCol + 2 → line.width (g.cursorCol + 2) = 1 := h.out
      rw [Line.width_set, Line.width_blankTail _ _ (by rw [List.length_set, htail, hcols]), hhead,
        hhead, Line.length_blankTail, List.length_set, htail]
      have hshift : g.cursorCol + 2 + (col - (g.cursorCol + 2)) =
          if g.cursorCol + 2 ≤ col then col else g.cursorCol + 2 := by
        split <;> omega
      unfold splice
      rw [hshift]
      grind
    · intro k hk
      obtain rfl : k = 0 := by omega
      decide
    · intro k hk
      obtain rfl : k = 1 := by omega
      decide

/-- Fitting a line to another width does. -/
lemma fitLine (h : WidePairs g.cols line) (newCols : Nat) : WidePairs newCols (g.fitLine newCols line) := by
  refine h.of_blanks (Line.length_fitLine h.length newCols) newCols (g.cols + newCols) 0 fun col => ?_
  have hwidth : Line.width (g.fitLine newCols line) col =
      if col < min newCols g.cols then
        if col + 1 = newCols ∧ newCols < g.cols ∧ line.width col = 2 then 1 else line.width col
      else 1 := by
    unfold Line.width
    rw [Line.at_fitLine h.length]
    split
    · split <;> rfl
    · rfl
  -- A line that is not cut has no head in its last column.
  have hlast : col + 1 = g.cols → line.width col ≠ 2 := by
    rintro hcol hwide
    rw [h.pairs.pair, hcol, h.out (Nat.le_refl _)] at hwide
    cases hwide
  have hout : g.cols ≤ col → line.width col = 1 := h.out
  have hfar : line.width (g.cols + newCols) = 1 := h.out (by omega)
  have hfar' : line.width (g.cols + newCols + (col - newCols)) = 1 := h.out (by omega)
  rw [hwidth]
  unfold splice
  grind

end WidePairs

/-- Single lines keep wide characters whole. -/
theorem pairLaws (c : Nat) : LineLaws c Printed (WidePairs c) where
  blank bg :=
    { length := List.length_replicate
      pairs := by
        have hnarrow : Line.width (List.replicate c { pen := { bg := bg } }) = fun _ => 1 :=
          funext (Line.width_replicate c rfl)
        rw [hnarrow]
        exact .narrow }
  erase g line first last stop hcols hline hfirst hstop hlast := hline.erase hcols hfirst hlast
  delete g line n hcols hcol hline _ hn := hline.deleteCells hcols hcol hn
  insert g line n hcols hcol hline _ hn := hline.insertCells hcols hcol hn
  write g line cp width hcols hcol hline hok hfits := hline.writeCells hcols hcol hok.2 hfits
  translate := (cleanLaws c).translate
  space := (cleanLaws c).space

/-- Lines in other columns do too. -/
theorem pairFits (c c' : Nat) : FitLaws c c' (WidePairs c) (WidePairs c') where
  blank := (pairLaws c').blank {}
  same hsame _ hline := hsame ▸ hline
  fit _ _ hcols hline := WidePairs.fitLine (hcols ▸ hline) c'

/-- Every line of every screen. -/
lemma pairScreens : ScreenLaws WidePairs := ⟨pairLaws, pairFits⟩

end Zet.Terminal
