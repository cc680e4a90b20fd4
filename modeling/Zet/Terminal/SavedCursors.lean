import Zet.Terminal.ScrollHistory

/-!
# Saved cursors

The two saved cursors are in bounds, whatever was called since they were saved: a save takes the
cursor, which is, a hard reset takes the corner, a resize moves them in, and nothing else touches them.
-/

namespace Zet.Terminal
open Zet.Core Zet.Lib

namespace Grid

variable {g g' : Grid}

/-- The saved cursors of the two screens. -/
def saves (g : Grid) : SavedCursor × SavedCursor := (g.savedMain, g.savedAlt)

/-- The saved cursors are no lines. -/
@[simp] lemma saves_setActiveLines (lines : List Line) : (g.setActiveLines lines).saves = g.saves := by
  unfold setActiveLines
  split <;> rfl

/-- Changing a line leaves the saved cursors alone. -/
@[simp] lemma saves_modifyLine (row : Nat) (f : Line → Line) : (g.modifyLine row f).saves = g.saves :=
  saves_setActiveLines _

/-- Pushing rows into the history does. -/
lemma saves_pushRegion (n : Nat) (push : Bool) : (g.pushRegion n push).saves = g.saves := by
  unfold pushRegion
  split
  · obtain ⟨ring, start, size, heq⟩ := pushRows_eq (g := g) (List.range n)
    rw [heq]
    rfl
  · rfl

/-- Scrolling a region up does. -/
lemma saves_scrollRegionUp (n : Nat) (push : Bool) : (g.scrollRegionUp n push).saves = g.saves := by
  unfold scrollRegionUp
  split
  · rfl
  · exact (saves_setActiveLines _).trans (saves_pushRegion _ _)

/-- Scrolling a region down does. -/
lemma saves_scrollRegionDown (n : Nat) : (g.scrollRegionDown n).saves = g.saves := by
  unfold scrollRegionDown
  split
  · rfl
  · exact saves_setActiveLines _

/-- Feeding a row does. -/
lemma saves_feedRow : g.feedRow.saves = g.saves := by
  unfold feedRow
  split
  · exact saves_scrollRegionUp 1 true
  · split <;> rfl

/-- A line feed does. -/
lemma saves_lineFeed : g.lineFeed.saves = g.saves := by
  unfold lineFeed
  split
  · exact saves_feedRow
  · exact saves_feedRow

/-- A reverse index does. -/
lemma saves_reverseIndex : g.reverseIndex.saves = g.saves := by
  unfold reverseIndex
  dsimp only
  split
  · exact saves_scrollRegionDown 1
  · split <;> rfl

/-- Making the pending wrap does. -/
lemma saves_wrapPending : g.wrapPending.saves = g.saves := by
  unfold wrapPending
  split
  · exact saves_lineFeed (g := g.toCol 0)
  · rfl

/-- Making room for a character does. -/
lemma saves_makeRoom (width : Nat) : (g.makeRoom width).saves = g.saves := by
  unfold makeRoom
  split
  · exact saves_modifyLine ..
  · rfl

/-- Moving on behind a character does. -/
lemma saves_advance (width : Nat) : (g.advance width).saves = g.saves := by
  unfold advance
  split <;> rfl

/-- Writing a character does. -/
lemma saves_printCell (cp width : Nat) : (g.printCell cp width).saves = g.saves :=
  (saves_advance width).trans (saves_modifyLine ..)

/-- Putting a character there is room for does. -/
lemma saves_putFitted (cp width : Nat) : (g.putFitted cp width).saves = g.saves := by
  unfold putFitted
  split
  · split
    · exact (saves_printCell ..).trans (saves_lineFeed (g := g.toCol 0))
    · rfl
  · exact saves_printCell ..

/-- Putting any character does. -/
lemma saves_putChar (cp width : Nat) : (g.putChar cp width).saves = g.saves := by
  unfold putChar
  dsimp only
  split
  · rfl
  · have hroom := (saves_makeRoom (g := g.wrapPending) width).trans saves_wrapPending
    split
    · exact (saves_putFitted ..).trans hroom
    · exact (saves_putFitted ..).trans hroom

/-- Repeating the last one does. -/
lemma saves_repeatChar (n : Nat) : (g.repeatChar n).saves = g.saves := by
  have hturns : ∀ (turns : List Nat) (g : Grid),
      (turns.foldl (fun g _ => g.putChar g.lastPrintedChar g.lastPrintedWidth) g).saves = g.saves := by
    intro turns
    induction turns with
    | nil => exact fun _ => rfl
    | cons _ turns ih => exact fun g => (ih _).trans (saves_putChar ..)
  unfold repeatChar
  split
  · rfl
  · exact hturns _ g

/-- Scrolling below the cursor does, when the scroll itself does. -/
lemma saves_scrollBelowCursor {scroll : Grid → Grid} (h : ∀ g, (scroll g).saves = g.saves) :
    (g.scrollBelowCursor scroll).saves = g.saves := by
  unfold scrollBelowCursor
  split
  · rfl
  · exact h _

/-- Erasing in a line does. -/
lemma saves_eraseInLine (param : Nat) : (g.eraseInLine param).saves = g.saves := by
  unfold eraseInLine
  dsimp only
  split
  · exact saves_modifyLine ..
  · exact saves_modifyLine ..
  · exact saves_modifyLine ..
  · rfl

/-- Erasing in the display does. -/
lemma saves_eraseInDisplay (param : Nat) : (g.eraseInDisplay param).saves = g.saves := by
  unfold eraseInDisplay
  dsimp only
  split
  · exact (saves_setActiveLines _).trans (saves_eraseInLine 0)
  · exact (saves_eraseInLine 1).trans (saves_setActiveLines _)
  · exact saves_setActiveLines _
  · split
    · exact saves_setActiveLines _
    · exact saves_setActiveLines (g := g.unpend) _
  · rfl

/-- Moving the cursor and dropping its pending wrap does. -/
lemma saves_moved (row col : Nat) : (((g.toRow row).toCol col).unpend).saves = g.saves :=
  rfl

/-- A saved cursor that is on the screen. -/
def Within (g : Grid) (saved : SavedCursor) : Prop := saved.row < g.rows ∧ saved.col < g.cols

/-- Both saved cursors are on the screen. -/
def SavedWithin (g : Grid) : Prop := g.Within g.savedMain ∧ g.Within g.savedAlt

/-- Saved cursors stay on a grid of the same size. -/
lemma SavedWithin.of_saves (h : g.SavedWithin) (same : g'.saves = g.saves) (hcols : g'.cols = g.cols)
    (hrows : g'.rows = g.rows) : g'.SavedWithin := by
  simp only [saves, Prod.mk.injEq] at same
  unfold SavedWithin Within
  rw [same.1, same.2, hcols, hrows]
  exact h

variable {c r : Nat}

/-- What leaves the saved cursors alone, on a screen that stays as large as it is. -/
lemma SavedWithin.kept (h : g.SavedWithin) (same : g'.saves = g.saves) (framed : g.Framed c r)
    (framed' : g'.Framed c r) : g'.SavedWithin :=
  h.of_saves same (framed'.cols_eq.trans framed.cols_eq.symm)
    (framed'.rows_eq.trans framed.rows_eq.symm)

/-- A cursor on the grid is saved on it. -/
lemma SavedWithin.saveCursor (h : g.SavedWithin) (framed : g.Framed c r) : g.saveCursor.SavedWithin := by
  unfold Grid.saveCursor
  dsimp only
  split
  · exact ⟨h.1, framed.row_lt, framed.col_lt⟩
  · exact ⟨⟨framed.row_lt, framed.col_lt⟩, h.2⟩

/-- The saved cursors stay on the grid when the cursor is put back, -/
lemma SavedWithin.restoreCursor (h : g.SavedWithin) : g.restoreCursor.SavedWithin :=
  h

/-- when one mode is put, -/
lemma SavedWithin.putMode (h : g.SavedWithin) (m : Mode) (value : Bool) :
    (g.putMode m value).SavedWithin :=
  h

/-- when the cursor moves to a row, -/
lemma SavedWithin.toRow (h : g.SavedWithin) (row : Nat) : (g.toRow row).SavedWithin :=
  h

/-- to a column, -/
lemma SavedWithin.toCol (h : g.SavedWithin) (col : Nat) : (g.toCol col).SavedWithin :=
  h

/-- or drops its pending wrap, -/
lemma SavedWithin.unpend (h : g.SavedWithin) : g.unpend.SavedWithin :=
  h

/-- and when any private mode is set. -/
lemma SavedWithin.setMode (h : g.SavedWithin) (framed : g.Framed c r) (param : Nat) (value : Bool) :
    (g.setMode param value).SavedWithin := by
  unfold Grid.setMode
  split
  case h_3 => exact (((h.putMode ..).toRow _).toCol 0).unpend
  case h_8 =>
    split
    · exact h
    · exact h
  case h_9 =>
    split
    · exact h.saveCursor framed
    · exact h.restoreCursor
  case h_17 =>
    split
    · exact h.saveCursor framed
    · exact (h.putMode ..).restoreCursor
  case h_20 => exact h
  all_goals exact h.putMode ..

/-- Every call. -/
theorem SavedWithin.apply (h : g.SavedWithin) (framed : g.Framed c r) (call : Call) :
    (call.apply g).SavedWithin := by
  have framed' := framed.apply call
  cases call with
  | putChar cp width => exact h.kept (saves_putChar cp width) framed framed'
  | lineFeed => exact h.kept saves_lineFeed framed framed'
  | reverseIndex => exact h.kept saves_reverseIndex framed framed'
  | index => exact h.kept (saves_feedRow (g := g.unpend)) framed framed'
  | saveCursor => exact h.saveCursor framed
  | eraseInDisplay param => exact h.kept (saves_eraseInDisplay param) framed framed'
  | eraseInLine param => exact h.kept (saves_eraseInLine param) framed framed'
  | eraseChars n => exact h.kept (saves_modifyLine (g := g.unpend) ..) framed framed'
  | deleteChars n => exact h.kept (saves_modifyLine (g := g.unpend) ..) framed framed'
  | insertChars n => exact h.kept (saves_modifyLine (g := g.unpend) ..) framed framed'
  | insertLines n =>
    exact h.kept (saves_scrollBelowCursor fun _ => saves_scrollRegionDown n) framed framed'
  | deleteLines n =>
    exact h.kept (saves_scrollBelowCursor fun _ => saves_scrollRegionUp n false) framed framed'
  | scrollDown n => exact h.kept (saves_scrollRegionDown n) framed framed'
  | scrollUp n => exact h.kept (saves_scrollRegionUp n true) framed framed'
  | repeatChar n => exact h.kept (saves_repeatChar n) framed framed'
  | setScrollRegion top1 bot1 =>
    refine h.kept ?_ framed framed'
    change (g.setScrollRegion top1 bot1).saves = g.saves
    unfold Grid.setScrollRegion
    extract_lets t b top bot
    split
    · rfl
    · exact saves_moved (g := g.setMargins top bot) ..
  | setMode param value => exact h.setMode framed param value
  | reset hard =>
    cases hard with
    | false => exact h
    | true =>
      have hcorner : g.Within {} := ⟨framed.rows_pos, framed.cols_pos⟩
      exact ⟨hcorner, hcorner⟩
  | setTabStop =>
    refine h.kept ?_ framed framed'
    change g.setTabStop.saves = g.saves
    unfold Grid.setTabStop
    split <;> rfl
  | clearTabStop param =>
    refine h.kept ?_ framed framed'
    change (g.clearTabStop param).saves = g.saves
    unfold Grid.clearTabStop
    split
    · split <;> rfl
    · rfl
    · rfl
  | designateCharset set designator =>
    refine h.kept ?_ framed framed'
    change (g.designateCharset set designator).saves = g.saves
    unfold Grid.designateCharset
    dsimp only
    split <;> rfl
  | _ => exact h

/-- They stay on the grid after any calls. -/
lemma SavedWithin.calls (h : g.SavedWithin) (framed : g.Framed c r) (calls : List Call) :
    (calls.foldl Call.apply g).SavedWithin := by
  induction calls generalizing g with
  | nil => exact h
  | cons call calls ih => exact ih (h.apply framed call) (framed.apply call)

/-- A saved cursor is clamped onto the new size. -/
lemma within_clampSaved (newCols newRows : Nat) (saved : SavedCursor) (hcols : 0 < newCols)
    (hrows : 0 < newRows) :
    (clampSaved newCols newRows saved).row < newRows ∧ (clampSaved newCols newRows saved).col < newCols := by
  unfold clampSaved
  dsimp only
  refine ⟨?_, ?_⟩ <;> split <;> omega

/-- They stay on the grid when it is resized. -/
lemma SavedWithin.resize (h : g.SavedWithin) (screens ring : Bool) (newCols newRows : Nat) :
    (g.resize screens ring newCols newRows).2.SavedWithin := by
  obtain ⟨hcols, -, hrows, -⟩ := clampScreenSize_bounds newCols newRows
  rcases g.resize_cases screens ring newCols newRows with ⟨-, heq⟩ | heq | heq
  · rw [heq]
    exact h
  · rw [heq]
    exact h
  · rw [heq]
    exact ⟨within_clampSaved _ _ _ hcols hrows, within_clampSaved _ _ _ hcols hrows⟩

/-- They start on the grid. -/
lemma savedWithin_create {memory : Bool} {cols rows limit : Nat}
    (made : Grid.create memory cols rows limit = .ok g) : g.SavedWithin := by
  have framed : g.Framed g.cols g.rows := .create made
  unfold Grid.create at made
  split at made
  · cases made
  · dsimp only at made
    split at made
    · cases made
    · cases made
      exact ⟨⟨framed.rows_pos, framed.cols_pos⟩, framed.rows_pos, framed.cols_pos⟩

end Grid

/-- Over every run. -/
theorem Emulator.savedWithin {memory : Bool} {cols rows limit : Nat} {g₀ : Grid} {t : Emulator}
    (made : Grid.create memory cols rows limit = .ok g₀)
    (reach : Reachable Emulator.step Anywhere (.start g₀) t) : t.grid.SavedWithin := by
  suffices hkept : Kept (fun _ _ => True) t ∧ t.grid.SavedWithin from hkept.2
  refine reach.inv (fun t => Kept (fun _ _ => True) t ∧ t.grid.SavedWithin) (fun t e t' h _ hstep => ?_)
    ⟨.start anyLine made, Grid.savedWithin_create made⟩
  obtain ⟨kept, within⟩ := h
  refine ⟨kept.step anyLine hstep, ?_⟩
  cases e with
  | output bytes =>
    cases hstep
    unfold Emulator.feed
    induction bytes generalizing t with
    | nil => exact within
    | cons raw bytes ih =>
      exact ih (t.feedByte raw) (kept.feedByte anyLine raw) (within.calls kept.framed _) trivial
  | resize screens ring cols rows =>
    cases hstep
    exact within.resize screens ring cols rows
  | forceGround =>
    cases hstep
    exact within

end Zet.Terminal
