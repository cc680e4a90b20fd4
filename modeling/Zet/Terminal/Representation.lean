import Zet.Terminal.SavedCursors
import Zet.Terminal.WidePairs

/-!
# What a grid represents

`Grid.Represents` is the invariant that every mutator relies on: the cursor and the margins are on the
screen, a pending wrap stands in the last column, a restored cursor is on the screen, the history is
no longer than its limit, and no wide character is cut in half. It holds of every grid there is
(`representation`), and a resize builds it again (`resize_rebuilds`).
-/

namespace Zet.Terminal
open Zet.Core Zet.Lib

/-- A line of so many columns in which every head has its second half behind it, and every second
half its head in front. -/
structure Line.Whole (cols : Nat) (line : Line) : Prop where
  length : line.length = cols
  head : ∀ col, col < cols → (line.at col).width = 2 → col + 1 < cols ∧ (line.at (col + 1)).width = 0
  tail : ∀ col, col < cols → (line.at col).width = 0 → 0 < col ∧ (line.at (col - 1)).width = 2

/-- Wide pairs make a line whole. -/
lemma WidePairs.whole {cols : Nat} {line : Line} (h : WidePairs cols line) : line.Whole cols where
  length := h.length
  head col _ hwide := by
    have hzero : line.width (col + 1) = 0 := (h.pairs.pair col).mp hwide
    refine ⟨?_, hzero⟩
    by_contra hout
    rw [h.out (Nat.le_of_not_lt hout)] at hzero
    cases hzero
  tail col _ hzero := by
    cases col with
    | zero => exact absurd hzero h.pairs.head
    | succ col => exact ⟨Nat.succ_pos col, (h.pairs.pair col).mpr hzero⟩

/-- The representation invariant of a grid. -/
structure Grid.Represents (g : Grid) : Prop where
  row_lt : g.cursorRow < g.rows
  col_lt : g.cursorCol < g.cols
  margins : g.scrollTop ≤ g.scrollBot ∧ g.scrollBot < g.rows
  wrap : g.pendingWrap = true → g.cursorCol = g.cols - 1
  saved : g.SavedWithin
  restored : g.restoreCursor.cursorRow < g.rows ∧ g.restoreCursor.cursorCol < g.cols
  size_le : g.historySize ≤ g.scrollbackLimit
  main : g.main.length = g.rows ∧ ∀ line ∈ g.main, line.Whole g.cols
  alt : g.alt.length = g.rows ∧ ∀ line ∈ g.alt, line.Whole g.cols
  history : ∀ idx, idx < g.historySize → ∃ line, g.scrollbackLine idx = some line ∧ line.Whole g.cols

/-- A terminal that is kept, with its saved cursors on the grid, represents a screen. -/
lemma Kept.represents {t : Emulator} (kept : Kept WidePairs t) (saved : t.grid.SavedWithin) :
    t.grid.Represents where
  row_lt := kept.framed.row_lt
  col_lt := kept.framed.col_lt
  margins := ⟨kept.framed.top_le, kept.framed.bot_lt⟩
  wrap hpending := Nat.eq_sub_of_add_eq (kept.framed.wrap hpending)
  saved := saved
  restored := ⟨kept.framed.restoreCursor.row_lt, kept.framed.restoreCursor.col_lt⟩
  size_le := kept.stored.size_le
  main := ⟨kept.stored.main_length, fun line hmem => (kept.stored.main line hmem).whole⟩
  alt := ⟨kept.stored.alt_length, fun line hmem => (kept.stored.alt line hmem).whole⟩
  history idx hidx := by
    have hlength := kept.stored.ringed.length_scrollback
    have hline := kept.stored.ringed.scrollbackLine_eq idx
    rw [List.getElem?_eq_getElem (hlength.symm ▸ hidx)] at hline
    exact ⟨_, hline, (kept.stored.history _ (List.getElem_mem _)).whole⟩

/-- The representation invariant holds of every grid there is, whatever was written to it, in whatever
chunks, and however it was resized in between. -/
theorem representation {memory : Bool} {cols rows limit : Nat} {g₀ : Grid} {t : Emulator}
    (made : Grid.create memory cols rows limit = .ok g₀)
    (reach : Reachable Emulator.step Anywhere (.start g₀) t) : t.grid.Represents :=
  (Kept.of_reachable pairScreens made reach).represents (Emulator.savedWithin made reach)

/-- A wide character that wraps from the last column onto a second line. -/
theorem representation_wrapped :
    ((Emulator.start (.allocate 2 2 4)).feed [0x61, 0xE4, 0xB8, 0xAD]).grid.Represents :=
  representation (show Grid.create true 2 2 4 = .ok (.allocate 2 2 4) from rfl)
    ⟨[.output [0x61, 0xE4, 0xB8, 0xAD]], .cons trivial rfl (.nil _)⟩

namespace Grid

variable {g : Grid}

/-- A line fits its own width as it stands. -/
lemma fitLine_self {line : Line} (h : line.length = g.cols) : g.fitLine g.cols line = line := by
  have hsame : ¬g.cols < g.cols := Nat.lt_irrefl _
  rw [fitLine, copyLine, keptCols, cutLine, if_neg hsame, if_neg hsame, Nat.sub_self,
    List.replicate_zero, List.append_nil, List.take_of_length_le (Nat.le_of_eq h)]

/-- So do all lines of it. -/
lemma map_fitLine_self {lines : List Line} (h : ∀ line ∈ lines, line.length = g.cols) :
    lines.map (g.fitLine g.cols) = lines :=
  (List.map_congr_left fun line hmem => fitLine_self (h line hmem)).trans (List.map_id' lines)

/-- Refitting a line of the grid's width is fitting it. -/
lemma refitLine_eq {line : Line} (h : line.length = g.cols) (newCols : Nat) :
    g.refitLine newCols line = g.fitLine newCols line := by
  unfold refitLine
  split
  · next hsame => rw [hsame, fitLine_self h]
  · rfl

/-- What a grid has become in other dimensions. -/
structure Resized (g : Grid) (newCols newRows : Nat) (g' : Grid) : Prop where
  cols_eq : g'.cols = newCols
  rows_eq : g'.rows = newRows
  limit_eq : g'.scrollbackLimit = g.scrollbackLimit
  main : g'.main = (g.main.drop (g.rows - newRows)).map (g.fitLine newCols) ++
    List.replicate (newRows - g.rows) (List.replicate newCols ({} : Cell))
  alt : g'.alt = (g.alt.drop (g.rows - newRows)).map (g.fitLine newCols) ++
    List.replicate (newRows - g.rows) (List.replicate newCols ({} : Cell))
  history : g'.scrollback =
    ((g.scrollback ++ g.lostRows newRows).map (g.fitLine newCols)).rtake g.scrollbackLimit
  cursor : g.rows - newRows ≤ g.cursorRow → g'.cursorRow = g.cursorRow - (g.rows - newRows) ∧
    g'.activeLine g'.cursorRow = g.fitLine newCols (g.activeLine g.cursorRow)

/-- The rows a resize loses are rows of the screen. -/
lemma lostRows_mem {newRows : Nat} {line : Line} (h : line ∈ g.lostRows newRows) : line ∈ g.main := by
  unfold lostRows at h
  split at h
  · cases h
  · exact List.mem_of_mem_take h

/-- A resize leaves the screen that is active. -/
lemma isAltScreen_resizeTo (ringed : g.Ringed) (hmain : g.main.length = g.rows) (newCols newRows : Nat) :
    (g.resizeTo newCols newRows).isAltScreen = g.isAltScreen := by
  obtain ⟨ring, start, size, heq, -, -⟩ := ringed.trimFor_eq hmain newCols newRows
  unfold Grid.resizeTo
  rw [heq]
  rfl

/-- The cursor goes up with the rows, and stays on the screen. -/
lemma cursorRow_resizeTo (ringed : g.Ringed) (hmain : g.main.length = g.rows) (newCols newRows : Nat) :
    (g.resizeTo newCols newRows).cursorRow =
      if newRows < g.rows then
        if g.cursorRow ≥ g.rows - newRows then g.cursorRow - (g.rows - newRows) else 0
      else if g.cursorRow ≥ newRows then newRows - 1
      else g.cursorRow := by
  obtain ⟨ring, start, size, heq, -, -⟩ := ringed.trimFor_eq hmain newCols newRows
  unfold Grid.resizeTo
  rw [heq]
  rfl

section
variable {Last : Nat → Nat → Prop} (stored : Stored Last (WidePairs g.cols) g)

include stored

/-- The lines are cut from the top, fitted, and filled up below. -/
lemma activeLines_resizeTo (newCols newRows : Nat) :
    (g.resizeTo newCols newRows).activeLines =
      (g.activeLines.drop (g.rows - newRows)).map (g.fitLine newCols) ++
        List.replicate (newRows - g.rows) (List.replicate newCols ({} : Cell)) := by
  have halt := isAltScreen_resizeTo stored.ringed stored.main_length newCols newRows
  unfold activeLines
  rw [halt]
  split
  · exact stored.ringed.alt_resizeTo stored.main_length stored.alt_length newCols newRows
  · exact stored.ringed.main_resizeTo stored.main_length newCols newRows

/-- The same size is a size. -/
lemma Resized.same (hrow : g.cursorRow < g.rows) : g.Resized g.cols g.rows g := by
  have hfit : ∀ lines : List Line, (∀ line ∈ lines, WidePairs g.cols line) →
      lines.map (g.fitLine g.cols) = lines :=
    fun lines hlines => map_fitLine_self fun line hmem => (hlines line hmem).length
  have hactive : (g.activeLine g.cursorRow).length = g.cols := by
    have hin : g.cursorRow < g.activeLines.length := stored.active_length.symm ▸ hrow
    unfold activeLine
    rw [List.getD_eq_getElem _ _ hin]
    exact (stored.active _ (List.getElem_mem hin)).length
  refine ⟨rfl, rfl, rfl, ?_, ?_, ?_, fun _ => ⟨?_, (fitLine_self hactive).symm⟩⟩
  · rw [Nat.sub_self, List.drop_zero, List.replicate_zero, List.append_nil, hfit _ stored.main]
  · rw [Nat.sub_self, List.drop_zero, List.replicate_zero, List.append_nil, hfit _ stored.alt]
  · rw [lostRows_of_le (.inr (Nat.le_refl _)), List.append_nil, hfit _ stored.history,
      rtake_of_length_le]
    rw [stored.ringed.length_scrollback]
    exact stored.size_le
  · rw [Nat.sub_self, Nat.sub_zero]

/-- A resize is what `Resized` says. -/
lemma Resized.resizeTo (hrow : g.cursorRow < g.rows) (newCols newRows : Nat) :
    g.Resized newCols newRows (g.resizeTo newCols newRows) := by
  obtain ⟨-, hscroll⟩ := stored.ringed.resizeTo stored.main_length newCols newRows
  refine
    { cols_eq := rfl, rows_eq := rfl
      limit_eq := scrollbackLimit_resizeTo stored.ringed stored.main_length newCols newRows
      main := stored.ringed.main_resizeTo stored.main_length newCols newRows
      alt := stored.ringed.alt_resizeTo stored.main_length stored.alt_length newCols newRows
      history := hscroll.trans ?_, cursor := fun hkept => ?_ }
  · congr 1
    refine List.map_congr_left fun line hmem => refitLine_eq ?_ newCols
    rcases List.mem_append.mp hmem with hold | hlost
    · exact (stored.history line hold).length
    · exact (stored.main line (lostRows_mem hlost)).length
  · have hcursor : (g.resizeTo newCols newRows).cursorRow = g.cursorRow - (g.rows - newRows) := by
      rw [cursorRow_resizeTo stored.ringed stored.main_length]
      split
      · rfl
      · rw [if_neg (by omega)]
        omega
    have hlength := stored.active_length
    have hin : g.cursorRow - (g.rows - newRows) <
        ((g.activeLines.drop (g.rows - newRows)).map (g.fitLine newCols)).length := by
      rw [List.length_map, List.length_drop, hlength]
      omega
    have hback : g.rows - newRows + (g.cursorRow - (g.rows - newRows)) = g.cursorRow := by omega
    refine ⟨hcursor, ?_⟩
    unfold activeLine
    rw [hcursor, activeLines_resizeTo stored, List.getD_append _ _ _ _ hin, List.getD_eq_getElem _ _ hin,
      List.getElem_map, List.getElem_drop, List.getD_eq_getElem _ _ (hlength.symm ▸ hrow)]
    congr 2

end

end Grid

/-- A resize of any grid there is, to any size. Where it fails the grid is as it was. Where it does
not, the bottom rows of both screens, the history and the rows that fall off the top of an active main
screen behind it are there, each line cut or filled up to the new width; the cursor is on the line it
was on, if that is still there; and the representation invariant holds. -/
theorem resize_rebuilds {memory : Bool} {cols rows limit : Nat} {g₀ : Grid} {t : Emulator}
    (made : Grid.create memory cols rows limit = .ok g₀)
    (reach : Reachable Emulator.step Anywhere (.start g₀) t) (screens ring : Bool)
    (newCols newRows : Nat) :
    (∀ e, (t.grid.resize screens ring newCols newRows).1 = .error e →
      (t.grid.resize screens ring newCols newRows).2 = t.grid) ∧
    ((t.grid.resize screens ring newCols newRows).1 = .ok () →
      t.grid.Resized (clampScreenSize newCols newRows).1 (clampScreenSize newCols newRows).2
        (t.grid.resize screens ring newCols newRows).2) ∧
    (∀ line : Line, line.length = t.grid.cols → ∀ newCols col,
      Line.at (t.grid.fitLine newCols line) col =
        if col < min newCols t.grid.cols then
          if col + 1 = newCols ∧ newCols < t.grid.cols ∧ (line.at col).width = 2 then t.grid.blankCell
          else line.at col
        else {}) ∧
    (t.grid.resize screens ring newCols newRows).2.Represents := by
  have kept := Kept.of_reachable pairScreens made reach
  have hrow : t.grid.cursorRow < t.grid.rows := kept.framed.row_lt
  refine ⟨fun e herror => ?_, fun hok => ?_, fun line hline => Line.at_fitLine hline, ?_⟩
  · rcases t.grid.resize_cases screens ring newCols newRows with ⟨-, heq⟩ | heq | heq
    · rw [heq]
    · rw [heq]
    · rw [heq] at herror
      cases herror
  · rcases t.grid.resize_cases screens ring newCols newRows with ⟨hsize, heq⟩ | heq | heq
    · rw [heq, hsize]
      exact .same kept.stored hrow
    · rw [heq] at hok
      cases hok
    · rw [heq]
      exact .resizeTo kept.stored hrow _ _
  · have hsaved := (Emulator.savedWithin made reach).resize screens ring newCols newRows
    exact (kept.resize pairScreens screens ring newCols newRows).represents hsaved

/-- A wide character in the second column, cut off by a screen of two columns. -/
theorem resize_rebuilds_cut :
    ((Emulator.start (.allocate 3 1 4)).feed [0x61, 0xE4, 0xB8, 0xAD]).grid.Resized 2 1
      (((Emulator.start (.allocate 3 1 4)).feed [0x61, 0xE4, 0xB8, 0xAD]).grid.resize true true 2 1).2 :=
  (resize_rebuilds (show Grid.create true 3 1 4 = .ok (.allocate 3 1 4) from rfl)
    ⟨[.output [0x61, 0xE4, 0xB8, 0xAD]], .cons trivial rfl (.nil _)⟩ true true 2 1).2.1 (by decide +kernel)

end Zet.Terminal
