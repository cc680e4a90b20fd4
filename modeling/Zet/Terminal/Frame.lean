import Zet.Lib.Run
import Zet.Terminal.VtParser

/-!
# The frame of a grid

What every mutator relies on about the numbers of a grid: the cursor is on the screen, the region is
a part of it, a pending wrap stands in the last column, and under origin mode the cursor is not below
the region. `Frame` is these numbers, `Frame.Sound` what holds of them; a mutator is described by
what it does to the frame, and those that only write cells leave it alone.

Nothing keeps the cursor from being *above* the region under origin mode: a restored cursor may stand
there.
-/

namespace Zet.Terminal
open Zet.Core Zet.Lib

/-- The dimensions, the cursor and the margins. -/
structure Frame where
  cols : Nat
  rows : Nat
  cursorRow : Nat
  cursorCol : Nat
  scrollTop : Nat
  scrollBot : Nat
  pendingWrap : Bool
  decom : Bool
deriving DecidableEq, Repr

namespace Frame

/-- What holds of the frame of every grid of `c` columns and `r` rows. -/
structure Sound (c r : Nat) (f : Frame) : Prop where
  cols_eq : f.cols = c
  rows_eq : f.rows = r
  cols_pos : 0 < f.cols
  cols_le : f.cols ≤ maxCols
  rows_pos : 0 < f.rows
  rows_le : f.rows ≤ maxRows
  row_lt : f.cursorRow < f.rows
  col_lt : f.cursorCol < f.cols
  top_le : f.scrollTop ≤ f.scrollBot
  bot_lt : f.scrollBot < f.rows
  wrap : f.pendingWrap = true → f.cursorCol + 1 = f.cols
  origin : f.decom = true → f.cursorRow ≤ f.scrollBot

variable {c r : Nat} {f : Frame}

/-- A cursor put somewhere else, on the screen and not below the region under origin mode. -/
lemma Sound.move (h : f.Sound c r) {row col : Nat} (hrow : row < f.rows) (hcol : col < f.cols)
    (horigin : f.decom = true → row ≤ f.scrollBot) :
    Sound c r { f with cursorRow := row, cursorCol := col, pendingWrap := false } where
  cols_eq := h.cols_eq
  rows_eq := h.rows_eq
  cols_pos := h.cols_pos
  cols_le := h.cols_le
  rows_pos := h.rows_pos
  rows_le := h.rows_le
  row_lt := hrow
  col_lt := hcol
  top_le := h.top_le
  bot_lt := h.bot_lt
  wrap := nofun
  origin := horigin

/-- A cursor in another column. -/
lemma Sound.column (h : f.Sound c r) {col : Nat} (hcol : col < f.cols) :
    Sound c r { f with cursorCol := col, pendingWrap := false } :=
  h.move h.row_lt hcol h.origin

/-- A cursor in another row. -/
lemma Sound.row (h : f.Sound c r) {row : Nat} (hrow : row < f.rows)
    (horigin : f.decom = true → row ≤ f.scrollBot) :
    Sound c r { f with cursorRow := row, pendingWrap := false } :=
  h.move hrow h.col_lt horigin

/-- No wrap pending. -/
lemma Sound.unpend (h : f.Sound c r) : Sound c r { f with pendingWrap := false } :=
  h.row h.row_lt h.origin

end Frame

namespace Grid

/-- The frame of a grid. -/
def frame (g : Grid) : Frame where
  cols := g.cols
  rows := g.rows
  cursorRow := g.cursorRow
  cursorCol := g.cursorCol
  scrollTop := g.scrollTop
  scrollBot := g.scrollBot
  pendingWrap := g.pendingWrap
  decom := g.modeSet .decom

/-- A grid of `c` columns and `r` rows whose frame is sound. -/
def Framed (c r : Nat) (g : Grid) : Prop := g.frame.Sound c r

variable {c r : Nat} {g : Grid}

/-- Clearing the pending wrap clears it in the frame. -/
@[simp] lemma frame_unpend : g.unpend.frame = { g.frame with pendingWrap := false } := rfl

/-- The cursor's column in the frame is the one it is put to. -/
@[simp] lemma frame_toCol (col : Nat) : (g.toCol col).frame = { g.frame with cursorCol := col } := rfl

/-- The cursor's row in the frame is the one it is put to. -/
@[simp] lemma frame_toRow (row : Nat) : (g.toRow row).frame = { g.frame with cursorRow := row } := rfl

/-- The margins in the frame are the ones they are set to. -/
@[simp] lemma frame_setMargins (top bot : Nat) :
    (g.setMargins top bot).frame = { g.frame with scrollTop := top, scrollBot := bot } := rfl

/-- The lines are no part of the frame. -/
@[simp] lemma frame_setActiveLines (lines : List Line) : (g.setActiveLines lines).frame = g.frame := by
  unfold setActiveLines
  split <;> rfl

/-- Changing a line leaves the frame alone. -/
@[simp] lemma frame_modifyLine (row : Nat) (f : Line → Line) :
    (g.modifyLine row f).frame = g.frame :=
  frame_setActiveLines _

/-- Clearing rows leaves the frame alone. -/
@[simp] lemma frame_clearActiveRows (first stop : Nat) :
    (g.clearActiveRows first stop).frame = g.frame :=
  frame_setActiveLines _

/-- Pushing a row into the history leaves the frame alone. -/
@[simp] lemma frame_pushScrollback (row : Nat) : (g.pushScrollback row).frame = g.frame := by
  unfold pushScrollback
  split
  · rfl
  · dsimp only
    split <;> rfl

/-- So does pushing several. -/
@[simp] lemma frame_pushRows (rows : List Nat) :
    (rows.foldl pushScrollback g).frame = g.frame := by
  induction rows generalizing g with
  | nil => rfl
  | cons row rows ih => rw [List.foldl_cons, ih, frame_pushScrollback]

/-- So does pushing the rows that leave a region. -/
@[simp] lemma frame_pushRegion (n : Nat) (push : Bool) : (g.pushRegion n push).frame = g.frame := by
  unfold pushRegion
  split
  · exact frame_pushRows _
  · rfl

/-- Scrolling a region up leaves the frame alone. -/
@[simp] lemma frame_scrollRegionUp (n : Nat) (push : Bool) :
    (g.scrollRegionUp n push).frame = g.frame := by
  unfold scrollRegionUp
  split
  · rfl
  · exact (frame_setActiveLines _).trans (frame_pushRegion ..)

/-- Scrolling a region down leaves the frame alone. -/
@[simp] lemma frame_scrollRegionDown (n : Nat) : (g.scrollRegionDown n).frame = g.frame := by
  unfold scrollRegionDown
  split
  · rfl
  · exact frame_setActiveLines _

/-- A mode other than the origin mode is no part of the frame. -/
@[simp] lemma frame_putMode (m : Mode) (value : Bool) (hm : m ≠ .decom) :
    (g.putMode m value).frame = g.frame := by
  have hdecom := modeSet_putMode g m .decom value
  rw [if_neg (Ne.symm hm)] at hdecom
  exact congrArg (fun d => { g.frame with decom := d }) hdecom

/-- Erasing in a line clears the pending wrap and nothing else of the frame. -/
lemma frame_eraseInLine (param : Nat) :
    (g.eraseInLine param).frame = { g.frame with pendingWrap := false } := by
  unfold eraseInLine
  dsimp only
  split
  · exact frame_modifyLine ..
  · exact frame_modifyLine ..
  · exact frame_modifyLine ..
  · rfl

/-- So does erasing in the display. -/
lemma frame_eraseInDisplay (param : Nat) :
    (g.eraseInDisplay param).frame = { g.frame with pendingWrap := false } := by
  unfold eraseInDisplay
  dsimp only
  split
  · rw [frame_clearActiveRows, frame_eraseInLine]
    rfl
  · rw [frame_eraseInLine, frame_clearActiveRows]
    rfl
  · exact frame_clearActiveRows ..
  · split
    · exact frame_clearActiveRows ..
    · exact frame_clearActiveRows (g := g.unpend) ..
  · rfl

/-- So does erasing characters. -/
lemma frame_eraseChars (n : Nat) :
    (g.eraseChars n).frame = { g.frame with pendingWrap := false } :=
  frame_modifyLine ..

/-- So does deleting characters. -/
lemma frame_deleteChars (n : Nat) :
    (g.deleteChars n).frame = { g.frame with pendingWrap := false } :=
  frame_modifyLine ..

/-- So does inserting blanks. -/
lemma frame_insertChars (n : Nat) :
    (g.insertChars n).frame = { g.frame with pendingWrap := false } :=
  frame_modifyLine ..

/-- A grid of the same frame is as sound. -/
lemma Framed.of_frame {g' : Grid} (h : g.Framed c r) (heq : g'.frame = g.frame) : g'.Framed c r := by
  unfold Framed
  rw [heq]
  exact h

/-- A grid stays in its frame when the pending wrap is cleared. -/
lemma Framed.unpend (h : g.Framed c r) : g.unpend.Framed c r := Frame.Sound.unpend h

/-- What a grid without a pending wrap becomes when only its cells are written. -/
lemma Framed.of_unpended {g' : Grid} (h : g.Framed c r)
    (heq : g'.frame = { g.frame with pendingWrap := false }) : g'.Framed c r :=
  h.unpend.of_frame heq

/-- It does when the cursor is put to a column of it. -/
lemma Framed.column (h : g.Framed c r) {col : Nat} (hcol : col < g.cols) :
    (g.unpend.toCol col).Framed c r :=
  Frame.Sound.column h hcol

/-- It does when the cursor is put to a row of it, within the margins where they bound it. -/
lemma Framed.row (h : g.Framed c r) {row : Nat} (hrow : row < g.rows)
    (horigin : g.modeSet .decom = true → row ≤ g.scrollBot) : (g.unpend.toRow row).Framed c r :=
  Frame.Sound.row h hrow horigin

/-- It does when the cursor moves behind a character. -/
lemma Framed.advance (h : g.Framed c r) (hwrap : g.pendingWrap = false) (width : Nat) :
    (g.advance width).Framed c r := by
  unfold Grid.advance
  have hpos := h.cols_pos
  split
  · exact
      { h with
        col_lt := Nat.sub_lt hpos Nat.one_pos
        wrap := fun _ => Nat.sub_add_cancel hpos }
  · next hfits =>
    exact
      { h with
        col_lt := Nat.lt_of_not_le hfits
        wrap := fun hpending => absurd (hwrap.symm.trans hpending) nofun }

/-- It does when a character is written. -/
lemma Framed.printCell (h : g.Framed c r) (hwrap : g.pendingWrap = false) (cp width : Nat) :
    (g.printCell cp width).Framed c r := by
  have heq : ((g.modifyLine g.cursorRow (g.writeCells cp width)).remember cp width).frame =
      g.frame := frame_modifyLine ..
  exact Framed.advance (h.of_frame heq) ((congrArg Frame.pendingWrap heq).trans hwrap) width

/-- The row a line feed leaves the cursor in. -/
def fedRow (f : Frame) : Nat :=
  if f.cursorRow = f.scrollBot then f.cursorRow
  else if f.cursorRow < f.rows - 1 then f.cursorRow + 1
  else f.cursorRow

/-- Feeding a row moves the cursor's row at most. -/
lemma frame_feedRow : g.feedRow.frame = { g.frame with cursorRow := fedRow g.frame } := by
  unfold feedRow fedRow
  split
  · next hbot =>
    rw [frame_scrollRegionUp, if_pos (show g.frame.cursorRow = g.frame.scrollBot from hbot)]
  · next hbot =>
    rw [if_neg (show ¬g.frame.cursorRow = g.frame.scrollBot from hbot)]
    split
    · next hlt =>
      rw [if_pos (show g.frame.cursorRow < g.frame.rows - 1 from hlt)]
      rfl
    · next hlt => rw [if_neg (show ¬g.frame.cursorRow < g.frame.rows - 1 from hlt)]

/-- A grid stays in its frame when a row is fed. -/
lemma Framed.feedRow (h : g.Framed c r) : g.feedRow.Framed c r := by
  unfold Framed
  rw [frame_feedRow]
  have hrow := h.row_lt
  have hrows := h.rows_pos
  refine { h with row_lt := ?_, origin := fun hdecom => ?_ }
  · change fedRow g.frame < g.frame.rows
    unfold fedRow
    split
    · exact hrow
    · split <;> omega
  · have horigin := h.origin hdecom
    change fedRow g.frame ≤ g.frame.scrollBot
    unfold fedRow
    split
    · exact horigin
    · split <;> omega

/-- A line feed that starts in column 0 needs no column of its own to be in range. -/
lemma Framed.feedFrom (h : g.Framed c r) : (g.toCol 0).lineFeed.Framed c r := by
  unfold Grid.lineFeed
  split <;> exact Framed.feedRow (h.column h.cols_pos)

/-- It does at a line feed. -/
lemma Framed.lineFeed (h : g.Framed c r) : g.lineFeed.Framed c r := by
  unfold Grid.lineFeed
  split
  · exact Framed.feedRow (h.column h.cols_pos)
  · exact h.unpend.feedRow

/-- A line feed moves the cursor's row at most, and clears the pending wrap. -/
lemma frame_lineFeed : g.lineFeed.frame =
    { g.frame with
      cursorRow := fedRow g.frame
      cursorCol := if g.modeSet .lnm then 0 else g.cursorCol
      pendingWrap := false } := by
  unfold Grid.lineFeed
  split <;> exact frame_feedRow

/-- No wrap is pending after a line feed. -/
@[simp] lemma pendingWrap_lineFeed : g.lineFeed.pendingWrap = false := by
  exact congrArg Frame.pendingWrap frame_lineFeed

/-- A grid stays in its frame when the pending wrap is made. -/
lemma Framed.wrapPending (h : g.Framed c r) : g.wrapPending.Framed c r := by
  unfold Grid.wrapPending
  split
  · exact h.feedFrom.unpend
  · exact h.unpend

/-- It does when room is made for a character. -/
lemma Framed.makeRoom (h : g.Framed c r) (width : Nat) : (g.makeRoom width).Framed c r := by
  unfold Grid.makeRoom
  split
  · exact h.of_unpended (frame_insertChars width)
  · exact h

/-- Making room leaves no wrap pending. -/
lemma pendingWrap_makeRoom (hwrap : g.pendingWrap = false) (width : Nat) :
    (g.makeRoom width).pendingWrap = false := by
  unfold Grid.makeRoom
  split
  · exact congrArg Frame.pendingWrap (frame_insertChars width)
  · exact hwrap

/-- A grid stays in its frame when a character there is room for is put. -/
lemma Framed.putFitted (h : g.Framed c r) (hwrap : g.pendingWrap = false) (cp width : Nat) :
    (g.putFitted cp width).Framed c r := by
  unfold Grid.putFitted
  split
  · split
    · exact h.feedFrom.printCell pendingWrap_lineFeed cp width
    · exact h
  · exact h.printCell hwrap cp width

/-- It does when any character is put. -/
lemma Framed.putChar (h : g.Framed c r) (cp width : Nat) : (g.putChar cp width).Framed c r := by
  unfold Grid.putChar
  dsimp only
  split
  · exact h
  · have hroom := h.wrapPending.makeRoom width
    have hwrap := pendingWrap_makeRoom (g := g.wrapPending) rfl width
    split
    · exact hroom.putFitted hwrap ..
    · exact hroom.putFitted hwrap ..

/-- It does when the last character is repeated. -/
lemma Framed.repeatChar (h : g.Framed c r) (n : Nat) : (g.repeatChar n).Framed c r := by
  have hturns : ∀ (turns : List Nat) (g : Grid), g.Framed c r →
      (turns.foldl (fun g _ => g.putChar g.lastPrintedChar g.lastPrintedWidth) g).Framed c r := by
    intro turns
    induction turns with
    | nil => exact fun _ h => h
    | cons _ turns ih => exact fun g h => ih _ (h.putChar ..)
  unfold Grid.repeatChar
  split
  · exact h
  · exact hturns _ g h

/-- It does at a reverse index. -/
lemma Framed.reverseIndex (h : g.Framed c r) : g.reverseIndex.Framed c r := by
  unfold Grid.reverseIndex
  dsimp only
  split
  · exact h.of_unpended (frame_scrollRegionDown 1)
  · split
    · have hrow := h.row_lt
      refine h.row (Nat.lt_of_le_of_lt (Nat.sub_le ..) hrow) fun hdecom => ?_
      exact (Nat.sub_le ..).trans (h.origin hdecom)
    · exact h.unpend

/-- What is found in a range lies in it. -/
lemma find?_range'_lt {p : Nat → Bool} {start count c : Nat}
    (h : (List.range' start count).find? p = some c) : c < start + count := by
  have hmem := List.mem_of_find?_eq_some h
  rw [List.mem_range'_1] at hmem
  exact hmem.2

/-- A grid stays in its frame at a tab. -/
lemma Framed.horizontalTab (h : g.Framed c r) : g.horizontalTab.Framed c r := by
  have hcol := h.col_lt
  change g.cursorCol < g.cols at hcol
  refine h.column ?_
  cases hfind : (List.range' (g.cursorCol + 1) (g.cols - (g.cursorCol + 1))).find? g.tabStops with
  | none => exact Nat.sub_lt h.cols_pos Nat.one_pos
  | some c =>
    have hlt := find?_range'_lt hfind
    change c < g.cols
    omega

/-- A tab back never moves forward. -/
lemma tabBack_le (tabStops : Nat → Bool) (n col : Nat) : tabBack tabStops n col ≤ col := by
  induction n generalizing col with
  | zero => exact Nat.le_refl _
  | succ n ih =>
    rw [tabBack]
    split
    · exact Nat.le_refl _
    · split
      · next stop hfind =>
        have hmem := List.mem_of_find?_eq_some hfind
        rw [List.mem_reverse, List.mem_range] at hmem
        exact (ih stop).trans (Nat.le_of_lt hmem)
      · exact Nat.zero_le _

/-- A clamped column is on the grid. -/
lemma clampCol_lt (h : g.Framed c r) (c : Nat) : g.clampCol c < g.cols := by
  have hpos : 0 < g.cols := h.cols_pos
  unfold clampCol
  split <;> omega

/-- A clamped row is on the grid. -/
lemma clampRow_lt (h : g.Framed c r) (r : Nat) : g.clampRow r < g.rows := by
  have hpos : 0 < g.rows := h.rows_pos
  unfold clampRow
  split <;> omega

/-- The row of an absolute motion is on the grid. -/
lemma absoluteRow_lt (h : g.Framed c r) (row1 : Nat) : g.absoluteRow row1 < g.rows := by
  have hpos : 0 < g.rows := h.rows_pos
  have hbot : g.scrollBot < g.rows := h.bot_lt
  unfold absoluteRow
  dsimp only
  split <;> split <;> omega

/-- In origin mode it is above the lower margin. -/
lemma absoluteRow_origin (row1 : Nat) (hdecom : g.modeSet .decom = true) :
    g.absoluteRow row1 ≤ g.scrollBot := by
  unfold absoluteRow
  simp only [hdecom, if_true]
  split <;> omega

/-- The topmost row is on the screen, and in the region or above it under origin mode. -/
lemma upLimit_le (h : g.Framed c r) : g.upLimit < g.rows ∧
    (g.modeSet .decom = true → g.upLimit ≤ g.scrollBot) := by
  have hrow : g.cursorRow < g.rows := h.row_lt
  have hrows : g.rows ≤ 1024 := h.rows_le
  have htop : g.scrollTop ≤ g.scrollBot := h.top_le
  have hbot : g.scrollBot < g.rows := h.bot_lt
  have horigin : g.modeSet .decom = true → g.cursorRow ≤ g.scrollBot := h.origin
  unfold upLimit u16
  split
  · exact ⟨by omega, fun _ => htop⟩
  · split
    · refine ⟨by omega, fun hdecom => ?_⟩
      have := horigin hdecom
      omega
    · split
      · exact ⟨by omega, fun _ => htop⟩
      · exact ⟨by omega, fun _ => Nat.zero_le _⟩

/-- What `MoveCursorUp` comes to, whether the subtractions wrap or not. -/
lemma moveCursorUp_row (h : g.Framed c r) (n : Nat) :
    (g.moveCursorUp n).cursorRow = max g.upLimit (g.cursorRow - n) := by
  have hrow : g.cursorRow < g.rows := h.row_lt
  have hrows : g.rows ≤ 1024 := h.rows_le
  have hlimit := (upLimit_le h).1
  change u16 (g.cursorRow - g.upSteps n) = _
  unfold upSteps u16
  split <;> omega

/-- The bottommost row is on the screen, and in the region under origin mode. -/
lemma downLimit_le (h : g.Framed c r) : g.downLimit < g.rows ∧
    (g.modeSet .decom = true → g.downLimit ≤ g.scrollBot) ∧ g.cursorRow ≤ g.downLimit := by
  have hrow : g.cursorRow < g.rows := h.row_lt
  have hrows : g.rows ≤ 1024 := h.rows_le
  have hbot : g.scrollBot < g.rows := h.bot_lt
  have horigin : g.modeSet .decom = true → g.cursorRow ≤ g.scrollBot := h.origin
  unfold downLimit u16
  split
  · next hin => exact ⟨hbot, fun _ => Nat.le_refl _, hin⟩
  · next hout =>
    split
    · next hdecom => exact absurd (horigin hdecom) hout
    · next hdecom => exact ⟨by omega, fun h => absurd h hdecom, by omega⟩

/-- The cursor goes down as far as its limit. -/
lemma moveCursorDown_row (h : g.Framed c r) (n : Nat) :
    (g.moveCursorDown n).cursorRow = min g.downLimit (g.cursorRow + n) := by
  have hrow : g.cursorRow < g.rows := h.row_lt
  have hrows : g.rows ≤ 1024 := h.rows_le
  have hlimit := (downLimit_le h).1
  change u16 (g.cursorRow + g.downSteps n) = _
  unfold downSteps u16
  split <;> omega

/-- A grid stays in its frame when the cursor moves up. -/
lemma Framed.moveCursorUp (h : g.Framed c r) (n : Nat) : (g.moveCursorUp n).Framed c r := by
  have heq : g.moveCursorUp n = g.unpend.toRow (max g.upLimit (g.cursorRow - n)) :=
    congrArg g.unpend.toRow (moveCursorUp_row h n)
  have hrow : g.cursorRow < g.rows := h.row_lt
  obtain ⟨hlimit, horigin⟩ := upLimit_le h
  rw [heq]
  refine h.row (by omega) fun hdecom => ?_
  have hcursor : g.cursorRow ≤ g.scrollBot := h.origin hdecom
  have := horigin hdecom
  omega

/-- It does when the cursor moves down. -/
lemma Framed.moveCursorDown (h : g.Framed c r) (n : Nat) : (g.moveCursorDown n).Framed c r := by
  have heq : g.moveCursorDown n = g.unpend.toRow (min g.downLimit (g.cursorRow + n)) :=
    congrArg g.unpend.toRow (moveCursorDown_row h n)
  obtain ⟨hlimit, horigin, -⟩ := downLimit_le h
  rw [heq]
  refine h.row (by omega) fun hdecom => ?_
  have := horigin hdecom
  omega

/-- A cursor sent to column 0 by a mutator that leaves no wrap pending. -/
lemma Framed.home (h : g.Framed c r) (hwrap : g.pendingWrap = false) : (g.toCol 0).Framed c r := by
  have heq : (g.toCol 0).frame = (g.unpend.toCol 0).frame :=
    congrArg (fun w => { g.frame with cursorCol := 0, pendingWrap := w }) hwrap
  exact (h.column h.cols_pos).of_frame heq

/-- It does when the region below the cursor is scrolled. -/
lemma Framed.scrollBelowCursor (h : g.Framed c r) {scroll : Grid → Grid}
    (hframe : ∀ g', (scroll g').frame = g'.frame) : (g.scrollBelowCursor scroll).Framed c r := by
  unfold Grid.scrollBelowCursor
  split
  · exact h
  · refine (h.column h.cols_pos).of_frame ?_
    simp only [frame_toCol, frame_setMargins, frame_unpend, hframe]
    rfl

/-- The origin mode in the frame is the one that is set. -/
lemma frame_putOrigin (value : Bool) :
    (g.putMode .decom value).frame = { g.frame with decom := value } := by
  have hdecom := modeSet_putMode g .decom .decom value
  rw [if_pos rfl] at hdecom
  exact congrArg (fun d => { g.frame with decom := d }) hdecom

/-- What a restored cursor does to the frame. -/
lemma frame_restoreCursor : g.restoreCursor.frame =
    { g.frame with
      cursorRow :=
        if g.activeSaved.decom ∧ g.clampRow g.activeSaved.row > g.scrollBot then g.scrollBot
        else g.clampRow g.activeSaved.row
      cursorCol := g.clampCol g.activeSaved.col
      pendingWrap :=
        g.activeSaved.pendingWrap && decide (g.clampCol g.activeSaved.col + 1 = g.cols)
      decom := g.activeSaved.decom } := by
  have hdecom := congrArg Frame.decom (frame_putOrigin (g := g) g.activeSaved.decom)
  unfold restoreCursor
  exact congrArg (Frame.mk _ _ _ _ _ _ _) hdecom

/-- A grid stays in its frame when the saved cursor is restored. -/
lemma Framed.restoreCursor (h : g.Framed c r) : g.restoreCursor.Framed c r := by
  have hrow := clampRow_lt h g.activeSaved.row
  have hcol := clampCol_lt h g.activeSaved.col
  have hbot : g.scrollBot < g.rows := h.bot_lt
  unfold Framed
  rw [frame_restoreCursor]
  refine { h with row_lt := ?_, col_lt := hcol, wrap := ?_, origin := ?_ }
  · dsimp only
    split
    · exact hbot
    · exact hrow
  · intro hpending
    exact of_decide_eq_true (Bool.and_eq_true_iff.mp hpending).2
  · intro hdecom
    dsimp only at hdecom ⊢
    split
    · exact Nat.le_refl _
    · next hin =>
      rw [not_and, Nat.not_lt] at hin
      exact hin hdecom

/-- Margins that leave two rows between them. -/
lemma Framed.margins (h : g.Framed c r) {t b : Nat} (htop : t ≤ b) (hbot : b < g.rows) :
    ((((g.setMargins t b).toRow (if g.modeSet .decom then t else 0)).toCol 0).unpend).Framed c r := by
  refine
    { h with
      row_lt := ?_, col_lt := h.cols_pos, top_le := htop, bot_lt := hbot
      wrap := nofun, origin := fun _ => ?_ }
  · change (if g.modeSet .decom then t else 0) < g.rows
    split <;> omega
  · change (if g.modeSet .decom then t else 0) ≤ b
    split <;> omega

/-- It does when the margins are set. -/
lemma Framed.setScrollRegion (h : g.Framed c r) (top1 bot1 : Nat) :
    (g.setScrollRegion top1 bot1).Framed c r := by
  have hrows : 0 < g.rows := h.rows_pos
  have hclamp : ∀ b, (if b ≥ g.rows then g.rows - 1 else b) < g.rows := by
    intro b
    split <;> omega
  unfold Grid.setScrollRegion
  dsimp only
  have hbot := hclamp (if bot1 > 0 then bot1 - 1 else g.rows - 1)
  generalize (if (if bot1 > 0 then bot1 - 1 else g.rows - 1) ≥ g.rows then g.rows - 1
    else if bot1 > 0 then bot1 - 1 else g.rows - 1) = b at hbot ⊢
  generalize (if top1 - 1 ≥ g.rows then 0 else top1 - 1) = t
  split
  · exact h
  · exact h.margins (by omega) hbot

/-- It does when a mode other than the origin mode is set. -/
lemma Framed.putMode (h : g.Framed c r) {m : Mode} (value : Bool) (hm : m ≠ .decom) :
    (g.putMode m value).Framed c r :=
  h.of_frame (frame_putMode m value hm)

/-- Saving the cursor leaves the frame alone. -/
lemma frame_saveCursor : g.saveCursor.frame = g.frame := by
  unfold saveCursor
  dsimp only
  split <;> rfl

/-- A grid stays in its frame when the origin mode is set, which sends the cursor home. -/
lemma Framed.originMode (h : g.Framed c r) (value : Bool) :
    ((((g.putMode .decom value).toRow (if value then g.scrollTop else 0)).toCol 0).unpend).Framed c r := by
  have htop : g.scrollTop ≤ g.scrollBot := h.top_le
  have hbot : g.scrollBot < g.rows := h.bot_lt
  unfold Framed
  rw [frame_unpend, frame_toCol, frame_toRow, frame_putOrigin]
  cases value with
  | true =>
    exact
      { h with
        row_lt := Nat.lt_of_le_of_lt htop hbot, col_lt := h.cols_pos
        wrap := nofun, origin := fun _ => htop }
  | false => exact { h with row_lt := h.rows_pos, col_lt := h.cols_pos, wrap := nofun, origin := nofun }

/-- It does when any private mode is set. -/
lemma Framed.setMode (h : g.Framed c r) (param : Nat) (value : Bool) : (g.setMode param value).Framed c r := by
  have hswitch : ∀ g' : Grid, g'.Framed c r → ∀ enter, (g'.switchAltScreen enter).Framed c r :=
    fun g' h' enter => h'.putMode enter (by decide)
  unfold Grid.setMode
  split
  case h_3 => exact h.originMode value
  case h_7 => exact hswitch g h value
  case h_8 =>
    refine hswitch _ ?_ value
    split
    · exact h.unpend
    · exact h
  case h_9 =>
    split
    · exact h.of_frame frame_saveCursor
    · exact h.restoreCursor
  case h_17 =>
    split
    · exact (hswitch _ (h.of_frame frame_saveCursor) true).unpend
    · exact (hswitch g h false).restoreCursor
  case h_20 => exact h
  all_goals exact h.putMode value (by decide)

/-- It does at a reset. -/
lemma Framed.reset (h : g.Framed c r) (hard : Bool) : (g.reset hard).Framed c r := by
  have hrows : 0 < g.rows := h.rows_pos
  have hrow : g.cursorRow < g.rows := h.row_lt
  have hlast : g.rows - 1 < g.rows := Nat.sub_lt hrows Nat.one_pos
  unfold Grid.reset
  dsimp only
  split
  · exact
      { h with
        row_lt := hrows, col_lt := h.cols_pos, top_le := Nat.zero_le _, bot_lt := hlast
        wrap := nofun, origin := fun _ => Nat.zero_le _ }
  · exact
      { h with
        top_le := Nat.zero_le _, bot_lt := hlast
        origin := fun _ => (show g.cursorRow ≤ g.rows - 1 by omega) }

/-- A grid keeps its frame whatever is called. -/
lemma Framed.apply (h : g.Framed c r) (call : Call) : (call.apply g).Framed c r := by
  have hpos : 0 < g.cols := h.cols_pos
  have hcol : g.cursorCol < g.cols := h.col_lt
  cases call with
  | putChar cp width => exact h.putChar cp width
  | carriageReturn => exact h.column hpos
  | lineFeed => exact h.lineFeed
  | reverseIndex => exact h.reverseIndex
  | index => exact h.unpend.feedRow
  | backspace => exact h.column (Nat.lt_of_le_of_lt (Nat.sub_le ..) hcol)
  | horizontalTab => exact h.horizontalTab
  | horizontalTabBack n => exact h.column (Nat.lt_of_le_of_lt (tabBack_le ..) hcol)
  | moveCursorUp n => exact h.moveCursorUp n
  | moveCursorDown n => exact h.moveCursorDown n
  | moveCursorRight n => exact h.column (by split <;> omega)
  | moveCursorLeft n => exact h.column (by split <;> omega)
  | moveCursorTo row1 col1 =>
    exact Frame.Sound.move h (absoluteRow_lt h row1) (clampCol_lt h _) (absoluteRow_origin row1)
  | moveCursorToCol col1 => exact h.column (clampCol_lt h _)
  | moveCursorToRow row1 => exact h.row (absoluteRow_lt h row1) (absoluteRow_origin row1)
  | cursorNextLine n => exact (h.moveCursorDown n).home rfl
  | cursorPrevLine n => exact (h.moveCursorUp n).home rfl
  | saveCursor => exact h.of_frame frame_saveCursor
  | restoreCursor => exact h.restoreCursor
  | eraseInDisplay param => exact h.of_unpended (frame_eraseInDisplay param)
  | eraseInLine param => exact h.of_unpended (frame_eraseInLine param)
  | eraseChars n => exact h.of_unpended (frame_eraseChars n)
  | deleteChars n => exact h.of_unpended (frame_deleteChars n)
  | insertChars n => exact h.of_unpended (frame_insertChars n)
  | insertLines n => exact h.scrollBelowCursor fun _ => frame_scrollRegionDown n
  | deleteLines n => exact h.scrollBelowCursor fun _ => frame_scrollRegionUp n false
  | scrollDown n => exact h.of_frame (frame_scrollRegionDown n)
  | scrollUp n => exact h.of_frame (frame_scrollRegionUp n true)
  | repeatChar n => exact h.repeatChar n
  | setScrollRegion top1 bot1 => exact h.setScrollRegion top1 bot1
  | setMode param value => exact h.setMode param value
  | applySgr params => exact h
  | reset hard => exact h.reset hard
  | setCursorStyle style => exact h
  | setTabStop =>
    change (Grid.setTabStop g).Framed c r
    unfold Grid.setTabStop
    split <;> exact h
  | clearTabStop param =>
    change (Grid.clearTabStop g param).Framed c r
    unfold Grid.clearTabStop
    split
    · split <;> exact h
    · exact h
    · exact h
  | shiftCharset out => exact h
  | designateCharset set designator =>
    change (Grid.designateCharset g set designator).Framed c r
    unfold Grid.designateCharset
    dsimp only
    split <;> exact h
  | setPossiblyDiverged v => exact h

/-- A grid that could be allocated has a sound frame. -/
lemma Framed.create {memory : Bool} {cols rows scrollbackLimit : Nat}
    (h : Grid.create memory cols rows scrollbackLimit = .ok g) : g.Framed g.cols g.rows := by
  unfold Grid.create at h
  split at h
  · cases h
  · dsimp only at h
    split at h
    · cases h
    · cases h
      obtain ⟨hcols, hcols', hrows, hrows'⟩ := clampScreenSize_bounds cols rows
      exact
        { cols_eq := rfl, rows_eq := rfl, cols_pos := hcols, cols_le := hcols', rows_pos := hrows, rows_le := hrows'
          row_lt := hrows, col_lt := hcols, top_le := Nat.zero_le _
          bot_lt := Nat.sub_lt hrows Nat.one_pos, wrap := nofun, origin := nofun }

/-- The rows a resize loses are no part of the frame. -/
lemma frame_pushLost (newRows : Nat) : (g.pushLost newRows).frame = g.frame := by
  unfold pushLost
  split
  · exact frame_pushRows _
  · rfl

/-- Trimming the screen for a resize leaves the frame alone. -/
lemma frame_trimFor (newCols newRows : Nat) : (g.trimFor newCols newRows).frame = g.frame := by
  unfold trimFor
  rw [frame_pushLost]
  split <;> rfl

/-- A resized grid is in the frame of its new size. -/
lemma Framed.rebuild (h : g.Framed c r) {newCols newRows : Nat} (hcols : 0 < newCols)
    (hcols' : newCols ≤ maxCols) (hrows : 0 < newRows) (hrows' : newRows ≤ maxRows) :
    (g.rebuild newCols newRows).Framed newCols newRows := by
  have hrow : g.cursorRow < g.rows := h.row_lt
  have hcursor : (g.rebuild newCols newRows).cursorRow < newRows := by
    change (if newRows < g.rows then if g.cursorRow ≥ g.rows - newRows then
      g.cursorRow - (g.rows - newRows) else 0
      else if g.cursorRow ≥ newRows then newRows - 1 else g.cursorRow) < newRows
    split <;> split <;> omega
  have hcol : (g.rebuild newCols newRows).cursorCol < newCols := by
    change (if g.cursorCol ≥ newCols then newCols - 1 else g.cursorCol) < newCols
    split <;> omega
  exact
    { cols_eq := rfl, rows_eq := rfl, cols_pos := hcols, cols_le := hcols', rows_pos := hrows, rows_le := hrows'
      row_lt := hcursor, col_lt := hcol, top_le := Nat.zero_le _
      bot_lt := Nat.sub_lt hrows Nat.one_pos, wrap := nofun
      origin := fun _ => Nat.le_sub_one_of_lt hcursor }

/-- A grid is sound in whatever dimensions a resize leaves it. -/
lemma Framed.resize (h : g.Framed c r) (screens ring : Bool) (newCols newRows : Nat) :
    ∃ c' r', (g.resize screens ring newCols newRows).2.Framed c' r' := by
  obtain ⟨hcols, hcols', hrows, hrows'⟩ := clampScreenSize_bounds newCols newRows
  unfold Grid.resize
  dsimp only
  split
  · exact ⟨c, r, h⟩
  split
  · exact ⟨c, r, h⟩
  split
  · exact ⟨c, r, h⟩
  · exact ⟨_, _, Framed.rebuild (h.of_frame (frame_trimFor ..)) hcols hcols' hrows hrows'⟩

end Grid

namespace Emulator

/-- Calls one after another. -/
lemma framed_of_calls {c r : Nat} {calls : List Call} {g : Grid} (h : g.Framed c r) :
    (calls.foldl Call.apply g).Framed c r := by
  induction calls generalizing g with
  | nil => exact h
  | cons call calls ih => exact ih (h.apply call)

/-- A terminal's grid stays in its frame, whatever is fed. -/
lemma framed_of_feed {c r : Nat} {t : Emulator} (h : t.grid.Framed c r) (bytes : Bytes) :
    (t.feed bytes).grid.Framed c r := by
  unfold feed
  induction bytes generalizing t with
  | nil => exact h
  | cons b bytes ih => exact ih (framed_of_calls h)

/-- An emulator's grid is sound, in some dimensions. -/
def Sized (t : Emulator) : Prop := ∃ c r, t.grid.Framed c r

/-- Every grid an emulator comes to has a sound frame. -/
lemma Sized.step {t t' : Emulator} {e : Event} (h : t.Sized) (hstep : t.step e = some t') :
    t'.Sized := by
  obtain ⟨c, r, h⟩ := h
  cases e with
  | output bytes =>
    cases hstep
    exact ⟨c, r, framed_of_feed h bytes⟩
  | resize screens ring cols rows =>
    cases hstep
    exact h.resize ..
  | forceGround =>
    cases hstep
    exact ⟨c, r, h⟩

end Emulator

end Zet.Terminal
