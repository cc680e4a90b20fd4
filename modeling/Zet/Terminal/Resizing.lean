import Zet.Terminal.History

/-!
# What a resize keeps

`Resize` trims the old buffers, pushes the rows that fall off the top of an active main screen into
the old ring and copies what is left into buffers of other dimensions. Here is what it comes to: each
screen is its bottom rows, the history is the old one with the lost rows behind it, and every line is
cut or filled up to the new width (`Grid.fitLine`).
-/

namespace Zet.Terminal
open Zet.Lib

namespace Grid

variable {g : Grid}

/-- How many cells of a line a resize copies. -/
def keptCols (g : Grid) (newCols : Nat) : Nat := if newCols < g.cols then newCols else g.cols

/-- A line with the head that a narrower screen would cut in half blanked. -/
def cutLine (g : Grid) (newCols : Nat) (line : Line) : Line :=
  if newCols < g.cols then blankWhere (newCols - 1) 2 g.blankCell line else line

/-- A line in other columns. -/
def fitLine (g : Grid) (newCols : Nat) (line : Line) : Line :=
  copyLine (g.keptCols newCols) newCols (g.cutLine newCols line)

/-- The rows that fall off the top of an active main screen. -/
def lostRows (g : Grid) (newRows : Nat) : List Line :=
  if g.isAltScreen then [] else g.main.take (g.rows - newRows)

/-- Copying a screen keeps its bottom rows. -/
lemma copyScreen_eq {oldRows newRows clampCols newCols : Nat} {lines : List Line}
    (hlength : lines.length = oldRows) :
    copyScreen oldRows newRows clampCols newCols lines =
      (lines.drop (oldRows - newRows)).map (copyLine clampCols newCols) ++
        List.replicate (newRows - oldRows) (List.replicate newCols ({} : Cell)) := by
  have hkept : ((lines.drop (oldRows - newRows)).map (copyLine clampCols newCols)).length =
      min newRows oldRows := by
    rw [List.length_map, List.length_drop]
    omega
  refine List.ext_getElem ?_ fun r hr _ => ?_
  · rw [List.length_append, hkept, List.length_replicate, copyScreen, List.length_map,
      List.length_range]
    omega
  · simp only [copyScreen, List.getElem_map, List.getElem_range]
    split
    · next hin =>
      rw [List.getElem_append_left (hkept ▸ hin), List.getElem_map, List.getElem_drop,
        List.getD_eq_getElem _ _ (by omega)]
    · next hout =>
      rw [List.getElem_append_right (by omega), List.getElem_replicate]

/-- The history is copied oldest line first. -/
lemma Ringed.copyHistory_eq (h : g.Ringed) (clampCols newCols : Nat) :
    g.copyHistory clampCols newCols =
      g.scrollback.map (copyLine clampCols newCols) ++
        List.replicate (g.scrollbackLimit - g.historySize) (List.replicate newCols ({} : Cell)) := by
  have hsize := h.size_le
  have hkept : (g.scrollback.map (copyLine clampCols newCols)).length = g.historySize := by
    rw [List.length_map, h.length_scrollback]
  refine List.ext_getElem ?_ fun i hi _ => ?_
  · rw [List.length_append, hkept, List.length_replicate, copyHistory, List.length_map,
      List.length_range]
    omega
  · simp only [copyHistory, List.getElem_map, List.getElem_range]
    split
    · next hin =>
      have hline := h.scrollbackLine_eq i
      rw [scrollbackLine, if_neg (Nat.not_le.mpr hin),
        List.getElem?_eq_getElem (h.length_scrollback.symm ▸ hin)] at hline
      rw [List.getElem_append_left (hkept.symm ▸ hin), List.getElem_map, Option.some.inj hline]
    · next hout =>
      rw [List.getElem_append_right (by omega), List.getElem_replicate]

/-- Pushes change the ring and nothing else. -/
lemma pushRows_eq (rows : List Nat) : ∃ ring start size,
    rows.foldl Grid.pushScrollback g =
      { g with history := ring, historyStart := start, historySize := size } := by
  induction rows generalizing g with
  | nil => exact ⟨_, _, _, rfl⟩
  | cons row rows ih =>
    obtain ⟨ring, start, size, heq⟩ := ih (g := g.pushScrollback row)
    rw [List.foldl_cons, heq]
    unfold Grid.pushScrollback
    split
    · exact ⟨_, _, _, rfl⟩
    · dsimp only
      split
      · exact ⟨_, _, _, rfl⟩
      · exact ⟨_, _, _, rfl⟩

/-- A grid with the heads that a narrower screen would cut in half blanked. -/
def cutTo (g : Grid) (newCols : Nat) : Grid := if newCols < g.cols then g.blankCut newCols else g

/-- Blanking cut heads changes the lines, each by itself. -/
lemma Ringed.cutTo_eq (h : g.Ringed) (newCols : Nat) : ∃ ring,
    g.cutTo newCols =
        { g with
          main := g.main.map (g.cutLine newCols), alt := g.alt.map (g.cutLine newCols)
          history := ring } ∧
      ring.length = g.scrollbackLimit ∧
      ringRead ring g.historyStart g.historySize = g.scrollback.map (g.cutLine newCols) := by
  unfold cutTo
  split
  · next hcut =>
    have heq : g.cutLine newCols = blankWhere (newCols - 1) 2 g.blankCell := by
      funext line
      exact if_pos hcut
    refine ⟨_, by rw [heq]; rfl, ?_, ?_⟩
    · exact (length_modifyTurns ..).trans h.length_eq
    · have hread := ringRead_modify g.historyStart (g.cutLine newCols)
        (h.length_eq ▸ h.size_le)
      rw [h.length_eq, heq] at hread
      exact heq ▸ hread
  · next hkeep =>
    have heq : g.cutLine newCols = id := by
      funext line
      exact if_neg hkeep
    refine ⟨g.history, by rw [heq, List.map_id, List.map_id], h.length_eq, ?_⟩
    rw [heq, List.map_id]
    rfl

/-- Rows read one by one are the first of the lines. -/
lemma map_getD_range {lines : List Line} {n : Nat} (h : n ≤ lines.length) :
    (List.range n).map (fun row => lines.getD row []) = lines.take n := by
  refine List.ext_getElem ?_ fun i hi _ => ?_
  · rw [List.length_map, List.length_range, List.length_take, Nat.min_eq_left h]
  · rw [List.getElem_map, List.getElem_range, List.getElem_take, List.getD_eq_getElem]

/-- A list within the limit is what its last elements are. -/
lemma rtake_of_length_le {lines : List Line} {limit : Nat} (h : lines.length ≤ limit) :
    lines.rtake limit = lines := by
  rw [List.rtake, Nat.sub_eq_zero_of_le h, List.drop_zero]

/-- What `Resize` does to the old buffers. -/
lemma Ringed.trimFor_eq (h : g.Ringed) (hmain : g.main.length = g.rows) (newCols newRows : Nat) :
    ∃ ring start size,
      g.trimFor newCols newRows =
          { g with
            main := g.main.map (g.cutLine newCols), alt := g.alt.map (g.cutLine newCols)
            history := ring, historyStart := start, historySize := size } ∧
        (g.trimFor newCols newRows).Ringed ∧
        (g.trimFor newCols newRows).scrollback =
          ((g.scrollback ++ g.lostRows newRows).map (g.cutLine newCols)).rtake g.scrollbackLimit := by
  obtain ⟨cutRing, hcut, hlength, hread⟩ := h.cutTo_eq newCols
  have hringed : (g.cutTo newCols).Ringed := by
    rw [hcut]
    exact ⟨hlength, h.size_le⟩
  have hscroll : (g.cutTo newCols).scrollback = g.scrollback.map (g.cutLine newCols) := by
    rw [hcut]
    exact hread
  have htrim : g.trimFor newCols newRows = (g.cutTo newCols).pushLost newRows := rfl
  have hlost : (g.cutTo newCols).rows = g.rows ∧ (g.cutTo newCols).isAltScreen = g.isAltScreen := by
    rw [hcut]
    exact ⟨rfl, rfl⟩
  rw [htrim, pushLost, hlost.1, hlost.2]
  split
  · next hfall =>
    obtain ⟨ring, start, size, heq⟩ :=
      pushRows_eq (g := g.cutTo newCols) (List.range (g.rows - newRows))
    refine ⟨ring, start, size, ?_, hringed.pushRows _, ?_⟩
    · rw [heq, hcut]
    · have hrows : (g.rows - newRows) ≤ (g.main.map (g.cutLine newCols)).length := by
        rw [List.length_map, hmain]
        omega
      rw [hringed.scrollback_pushRows, hscroll, hcut]
      dsimp only
      rw [map_getD_range hrows, lostRows, if_neg hfall.2, List.map_append, List.map_take]
  · next hkept =>
    refine ⟨cutRing, g.historyStart, g.historySize, ?_, hringed, ?_⟩
    · rw [hcut]
    · have hnone : g.lostRows newRows = [] := by
        unfold lostRows
        split
        · rfl
        · next hmainScreen =>
          have : g.rows - newRows = 0 := by
            by_contra hpos
            exact hkept ⟨by omega, hmainScreen⟩
          rw [this, List.take_zero]
      rw [hscroll, hnone, List.append_nil, rtake_of_length_le]
      rw [List.length_map, h.length_scrollback]
      exact h.size_le

/-- The main screen after a resize: its bottom rows, each fitted, and blank rows below. -/
lemma Ringed.main_resizeTo (h : g.Ringed) (hmain : g.main.length = g.rows) (newCols newRows : Nat) :
    (g.resizeTo newCols newRows).main =
      (g.main.drop (g.rows - newRows)).map (g.fitLine newCols) ++
        List.replicate (newRows - g.rows) (List.replicate newCols ({} : Cell)) := by
  obtain ⟨ring, start, size, heq, -, -⟩ := h.trimFor_eq hmain newCols newRows
  rw [resizeTo, heq]
  change copyScreen g.rows newRows (g.keptCols newCols) newCols (g.main.map (g.cutLine newCols)) = _
  rw [copyScreen_eq (by rw [List.length_map, hmain]), ← List.map_drop, List.map_map]
  rfl

/-- The alternate screen after a resize. -/
lemma Ringed.alt_resizeTo (h : g.Ringed) (hmain : g.main.length = g.rows)
    (halt : g.alt.length = g.rows) (newCols newRows : Nat) :
    (g.resizeTo newCols newRows).alt =
      (g.alt.drop (g.rows - newRows)).map (g.fitLine newCols) ++
        List.replicate (newRows - g.rows) (List.replicate newCols ({} : Cell)) := by
  obtain ⟨ring, start, size, heq, -, -⟩ := h.trimFor_eq hmain newCols newRows
  rw [resizeTo, heq]
  change copyScreen g.rows newRows (g.keptCols newCols) newCols (g.alt.map (g.cutLine newCols)) = _
  rw [copyScreen_eq (by rw [List.length_map, halt]), ← List.map_drop, List.map_map]
  rfl

/-- The ring in new columns holds the lines of the old one. -/
lemma Ringed.rebuild (h : g.Ringed) (newCols newRows : Nat) :
    (g.rebuild newCols newRows).Ringed ∧
      (g.rebuild newCols newRows).scrollback =
        if newCols = g.cols then g.scrollback
        else g.scrollback.map (copyLine (g.keptCols newCols) newCols) := by
  have hhistory : (g.rebuild newCols newRows).history =
      if newCols = g.cols then g.history else g.copyHistory (g.keptCols newCols) newCols := rfl
  have hstart : (g.rebuild newCols newRows).historyStart =
      if newCols = g.cols ∨ g.scrollbackLimit = 0 then g.historyStart else 0 := rfl
  have hsize : (g.rebuild newCols newRows).historySize = g.historySize := rfl
  have hlength := h.length_scrollback
  have hle := h.size_le
  by_cases hsame : newCols = g.cols
  · rw [if_pos hsame] at hhistory
    rw [if_pos (.inl hsame)] at hstart
    refine ⟨⟨hhistory ▸ h.length_eq, h.size_le⟩, ?_⟩
    rw [if_pos hsame, scrollback, hhistory, hstart, hsize]
    rfl
  · rw [if_neg hsame, h.copyHistory_eq] at hhistory
    refine ⟨⟨?_, h.size_le⟩, ?_⟩
    · rw [hhistory, List.length_append, List.length_map, List.length_replicate, hlength]
      change _ = g.scrollbackLimit
      omega
    · rw [if_neg hsame, scrollback, hhistory, hstart, hsize]
      by_cases hzero : g.scrollbackLimit = 0
      · have hsize' : g.historySize = 0 := by omega
        rw [scrollback_of_size hsize', hsize', List.map_nil]
        simp [ringRead]
      · have hcount : g.historySize =
            (g.scrollback.map (copyLine (g.keptCols newCols) newCols)).length := by
          rw [List.length_map, hlength]
        rw [if_neg (not_or.mpr ⟨hsame, hzero⟩), hcount, ringRead_front]

/-- A line of the history after a resize. -/
def refitLine (g : Grid) (newCols : Nat) (line : Line) : Line :=
  if newCols = g.cols then line else g.fitLine newCols line

/-- The history after a resize: the old one with the lost rows behind it, as far as the limit
allows. -/
lemma Ringed.resizeTo (h : g.Ringed) (hmain : g.main.length = g.rows) (newCols newRows : Nat) :
    (g.resizeTo newCols newRows).Ringed ∧
      (g.resizeTo newCols newRows).scrollback =
        ((g.scrollback ++ g.lostRows newRows).map (g.refitLine newCols)).rtake g.scrollbackLimit := by
  obtain ⟨ring, start, size, heq, hringed, hscroll⟩ := h.trimFor_eq hmain newCols newRows
  have hcols : (g.trimFor newCols newRows).cols = g.cols := by rw [heq]
  have hkept : (g.trimFor newCols newRows).keptCols newCols = g.keptCols newCols := by
    unfold keptCols
    rw [hcols]
  obtain ⟨hringed', hscroll'⟩ := hringed.rebuild newCols newRows
  refine ⟨hringed', hscroll'.trans ?_⟩
  rw [hcols, hkept, hscroll]
  by_cases hsame : newCols = g.cols
  · rw [if_pos hsame]
    congr 2
    funext line
    rw [refitLine, if_pos hsame, cutLine, if_neg (by omega)]
  · rw [if_neg hsame, List.rtake, List.rtake, List.length_map, List.length_map, List.map_drop,
      List.map_map]
    congr 2
    funext line
    rw [refitLine, if_neg hsame]
    rfl

/-- What `Resize` can do: nothing where the size is the same, fail and leave the grid alone, or take
the new size. -/
lemma resize_cases (g : Grid) (screens ring : Bool) (newCols newRows : Nat) :
    (clampScreenSize newCols newRows = (g.cols, g.rows) ∧
        g.resize screens ring newCols newRows = (.ok (), g)) ∨
      g.resize screens ring newCols newRows = (.error .allocationFailed, g) ∨
      g.resize screens ring newCols newRows =
        (.ok (), g.resizeTo (clampScreenSize newCols newRows).1
          (clampScreenSize newCols newRows).2) := by
  unfold resize
  dsimp only
  split
  · next hsame => exact .inl ⟨Prod.ext hsame.1 hsame.2, rfl⟩
  split
  · exact .inr (.inl rfl)
  split
  · exact .inr (.inl rfl)
  · exact .inr (.inr rfl)

/-- No row is lost on the alternate screen, or where the rows get no fewer. -/
lemma lostRows_of_le {newRows : Nat} (h : g.isAltScreen = true ∨ g.rows ≤ newRows) :
    g.lostRows newRows = [] := by
  unfold lostRows
  split
  · rfl
  · next hmain =>
    have hrows := h.resolve_left hmain
    rw [Nat.sub_eq_zero_of_le hrows, List.take_zero]

/-- Lines refitted to their own width are as they were. -/
lemma map_refitLine_self (g : Grid) (lines : List Line) : lines.map (g.refitLine g.cols) = lines := by
  have hid : g.refitLine g.cols = id := funext fun line => if_pos rfl
  rw [hid, List.map_id]

/-- A resize leaves the limit alone. -/
lemma scrollbackLimit_resizeTo (h : g.Ringed) (hmain : g.main.length = g.rows) (newCols newRows : Nat) :
    (g.resizeTo newCols newRows).scrollbackLimit = g.scrollbackLimit := by
  obtain ⟨ring, start, size, heq, -, -⟩ := h.trimFor_eq hmain newCols newRows
  unfold Grid.resizeTo
  rw [heq]
  rfl

end Grid

end Zet.Terminal
