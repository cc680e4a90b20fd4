import Mathlib.Data.List.GetD
import Mathlib.Data.List.Rotate
import Zet.Terminal.Frame
import Zet.Terminal.Resizing

/-!
# What the lines of a grid keep

Scrolling, clearing, saving into the history and resizing move whole lines; the other mutators change
one line, the cursor's. So what every line has in common is kept by every mutator as soon as it is
kept by the few changes of one line: `LineLaws` lists them, and `Stored.apply` is the rule. What may
be printed is a parameter too, as the laws of printing depend on it.
-/

namespace Zet.Terminal
open Zet.Core Zet.Lib

/-- What keeps `L` for lines of `cols` cells, when the code points and widths that `Ok` admits are
printed. -/
structure LineLaws (cols : Nat) (Ok : Nat → Nat → Prop) (L : Line → Prop) : Prop where
  blank : ∀ bg : Color, L (List.replicate cols { pen := { bg := bg } })
  erase : ∀ (g : Grid) (line : Line) (first last stop : Nat), g.cols = cols → L line →
    first ≤ stop → stop ≤ cols → (last = stop ∨ (last = first ∧ stop = cols)) →
    L (Grid.fillCells first stop g.blankCell (g.repairWideOrphans first last line))
  delete : ∀ (g : Grid) (line : Line) (n : Nat), g.cols = cols → g.cursorCol < cols → L line →
    0 < n → n ≤ cols - g.cursorCol → L (g.deleteCells n line)
  insert : ∀ (g : Grid) (line : Line) (n : Nat), g.cols = cols → g.cursorCol < cols → L line →
    0 < n → n ≤ cols - g.cursorCol → L (g.insertCells n line)
  write : ∀ (g : Grid) (line : Line) (cp width : Nat), g.cols = cols → g.cursorCol < cols → L line →
    Ok cp width → (width = 2 → g.cursorCol + 1 < cols) → L (g.writeCells cp width line)
  translate : ∀ (g : Grid) (cp width : Nat), Ok cp width → Ok (g.translate cp) width
  space : Ok 0x20 1

/-- Fitting a line with `L` into other columns makes one with `L'`. -/
structure FitLaws (c c' : Nat) (L L' : Line → Prop) : Prop where
  blank : L' (List.replicate c' {})
  same : c' = c → ∀ line, L line → L' line
  fit : ∀ (g : Grid) (line : Line), g.cols = c → L line → L' (g.fitLine c' line)

/-- A line of a resized screen is an old one that was fitted, or blank. -/
lemma FitLaws.fitted {c c' : Nat} {L L' : Line → Prop} (laws : FitLaws c c' L L') {g : Grid}
    (hcols : g.cols = c) {lines : List Line} (hlines : ∀ line ∈ lines, L line) {count : Nat}
    {line : Line}
    (hmem : line ∈ lines.map (g.fitLine c') ++ List.replicate count (List.replicate c' ({} : Cell))) :
    L' line := by
  rcases List.mem_append.mp hmem with hfit | hblank
  · obtain ⟨old, hold, rfl⟩ := List.mem_map.mp hfit
    exact laws.fit g old hcols (hlines old hold)
  · rw [List.eq_of_mem_replicate hblank]
    exact laws.blank

/-- Every line of a grid, on either screen and in the history, is as `L` says, and what `RepeatChar`
would print as `Last` says. -/
structure Stored (Last : Nat → Nat → Prop) (L : Line → Prop) (g : Grid) : Prop where
  main_length : g.main.length = g.rows
  alt_length : g.alt.length = g.rows
  history_length : g.history.length = g.scrollbackLimit
  size_le : g.historySize ≤ g.scrollbackLimit
  main : ∀ line ∈ g.main, L line
  alt : ∀ line ∈ g.alt, L line
  history : ∀ line ∈ g.scrollback, L line
  last : Last g.lastPrintedChar g.lastPrintedWidth

namespace Stored

variable {Ok Last : Nat → Nat → Prop} {L : Line → Prop} {g : Grid}

/-- A history without lines. -/
lemma noHistory (hsize : g.historySize = 0) : ∀ line ∈ g.scrollback, L line := by
  rw [Grid.scrollback_of_size hsize]
  exact fun line hmem => nomatch hmem

/-- The active screen has a line for each row. -/
lemma active_length (h : Stored Last L g) : g.activeLines.length = g.rows := by
  unfold Grid.activeLines
  split
  · exact h.alt_length
  · exact h.main_length

/-- Every line of the active screen is good. -/
lemma active (h : Stored Last L g) : ∀ line ∈ g.activeLines, L line := by
  unfold Grid.activeLines
  split
  · exact h.alt
  · exact h.main

/-- The stored lines stay good when the active ones are replaced by good ones. -/
lemma setActiveLines (h : Stored Last L g) {lines : List Line} (hlength : lines.length = g.rows)
    (hlines : ∀ line ∈ lines, L line) : Stored Last L (g.setActiveLines lines) := by
  unfold Grid.setActiveLines
  split
  · exact { h with alt_length := hlength, alt := hlines }
  · exact { h with main_length := hlength, main := hlines }

/-- A line of a changed screen is an old one, or the change of one. -/
lemma mem_modify {lines : List Line} {row : Nat} {f : Line → Line} {line : Line}
    (h : line ∈ lines.modify row f) : line ∈ lines ∨ ∃ old ∈ lines, line = f old := by
  obtain ⟨i, hi⟩ := List.mem_iff_getElem?.mp h
  rw [List.getElem?_modify] at hi
  cases hold : lines[i]? with
  | none =>
    rw [hold] at hi
    cases hi
  | some old =>
    have hmem := List.mem_of_getElem? hold
    rw [hold] at hi
    change some (if row = i then f old else old) = some line at hi
    split at hi
    · exact .inr ⟨old, hmem, (Option.some.inj hi).symm⟩
    · exact .inl (Option.some.inj hi ▸ hmem)

/-- One line of the active screen changed in a way that keeps `L`. -/
lemma modifyLine (h : Stored Last L g) (row : Nat) {f : Line → Line}
    (hf : ∀ line, L line → L (f line)) : Stored Last L (g.modifyLine row f) := by
  refine h.setActiveLines (by rw [List.length_modify, h.active_length]) fun line hmem => ?_
  rcases mem_modify hmem with hold | ⟨old, hold, rfl⟩
  · exact h.active line hold
  · exact hf old (h.active old hold)

/-- A line of a screen with rows cleared is blank or an old one. -/
lemma mem_clearRows {first stop : Nat} {line blank : Line} {lines : List Line}
    (h : line ∈ Grid.clearRows first stop blank lines) : line = blank ∨ line ∈ lines := by
  obtain ⟨i, hi, heq⟩ := List.mem_mapIdx.mp h
  split at heq
  · exact .inl heq.symm
  · exact .inr (heq ▸ List.getElem_mem hi)

/-- Clearing rows keeps their number. -/
@[simp] lemma length_clearRows (first stop : Nat) (blank : Line) (lines : List Line) :
    (Grid.clearRows first stop blank lines).length = lines.length :=
  List.length_mapIdx

/-- Rows of the active screen cleared. -/
lemma clearActiveRows (h : Stored Last L g) (hblank : L g.blankLine) (first stop : Nat) :
    Stored Last L (g.clearActiveRows first stop) := by
  refine h.setActiveLines (by rw [length_clearRows, h.active_length]) fun line hmem => ?_
  rcases mem_clearRows hmem with rfl | hold
  · exact hblank
  · exact h.active line hold

/-- The history is a ring of its size. -/
lemma ringed (h : Stored Last L g) : g.Ringed := ⟨h.history_length, h.size_le⟩

/-- The last lines are lines. -/
lemma mem_rtake {lines : List Line} {n : Nat} {line : Line} (h : line ∈ lines.rtake n) :
    line ∈ lines := List.mem_of_mem_drop h

/-- Rows of the main screen saved. -/
lemma pushRows (h : Stored Last L g) {rows : List Nat} (hrows : ∀ row ∈ rows, row < g.rows) :
    Stored Last L (rows.foldl Grid.pushScrollback g) := by
  have hhistory : ∀ line ∈ (rows.foldl Grid.pushScrollback g).scrollback, L line := by
    intro line hmem
    rw [h.ringed.scrollback_pushRows] at hmem
    rcases List.mem_append.mp (mem_rtake hmem) with hold | hpushed
    · exact h.history line hold
    · obtain ⟨row, hrow, rfl⟩ := List.mem_map.mp hpushed
      have hin : row < g.main.length := by rw [h.main_length]; exact hrows row hrow
      rw [List.getD_eq_getElem _ _ hin]
      exact h.main _ (List.getElem_mem hin)
  obtain ⟨hlength, hsize⟩ := h.ringed.pushRows rows
  obtain ⟨ring, start, size, heq⟩ := Grid.pushRows_eq (g := g) rows
  rw [heq] at hhistory hlength hsize ⊢
  exact { h with history_length := hlength, size_le := hsize, history := hhistory }

/-- Rotating a region makes no new line. -/
lemma mem_rotateRegion {top bot n : Nat} {lines : List Line} {line : Line}
    (h : line ∈ Grid.rotateRegion top bot n lines) : line ∈ lines := by
  unfold Grid.rotateRegion at h
  rw [List.mem_append, List.mem_append, List.mem_rotate] at h
  rcases h with (h | h) | h
  · exact List.mem_of_mem_take h
  · exact List.mem_of_mem_drop (List.mem_of_mem_take h)
  · exact List.mem_of_mem_drop h

/-- Rotating a region keeps the number of lines. -/
lemma length_rotateRegion {top bot n : Nat} {lines : List Line} (htop : top ≤ bot)
    (hbot : bot < lines.length) : (Grid.rotateRegion top bot n lines).length = lines.length := by
  unfold Grid.rotateRegion
  rw [List.length_append, List.length_append, List.length_rotate, List.length_take,
    List.length_take, List.length_drop, List.length_drop]
  omega

/-- Copying rows down makes no new line. -/
lemma mem_copyRowsDown {n stop r : Nat} {lines : List Line} {line : Line}
    (h : line ∈ Grid.copyRowsDown n stop r lines) : line ∈ lines := by
  induction r generalizing lines with
  | zero => exact h
  | succ r ih =>
    rw [Grid.copyRowsDown] at h
    split at h
    · have hset := ih h
      rcases Nat.lt_or_ge (r + 1) lines.length with hin | hout
      · rcases List.mem_or_eq_of_mem_set hset with hold | rfl
        · exact hold
        · rw [List.getD_eq_getElem _ _ (Nat.lt_of_le_of_lt (Nat.sub_le ..) hin)]
          exact List.getElem_mem _
      · rw [List.set_eq_of_length_le hout] at hset
        exact hset
    · exact h

/-- Copying rows down keeps their number. -/
lemma length_copyRowsDown (n stop r : Nat) (lines : List Line) :
    (Grid.copyRowsDown n stop r lines).length = lines.length := by
  induction r generalizing lines with
  | zero => rfl
  | succ r ih =>
    rw [Grid.copyRowsDown]
    split
    · rw [ih, List.length_set]
    · rfl

/-- Clearing the pending wrap stores nothing. -/
lemma unpend (h : Stored Last L g) : Stored Last L g.unpend := { h with }

/-- Moving the cursor to a column stores nothing. -/
lemma toCol (h : Stored Last L g) (col : Nat) : Stored Last L (g.toCol col) := { h with }

/-- Moving the cursor to a row stores nothing. -/
lemma toRow (h : Stored Last L g) (row : Nat) : Stored Last L (g.toRow row) := { h with }

/-- Setting the margins stores nothing. -/
lemma setMargins (h : Stored Last L g) (top bot : Nat) : Stored Last L (g.setMargins top bot) := { h with }

/-- Moving on behind a character stores nothing. -/
lemma advance (h : Stored Last L g) (width : Nat) : Stored Last L (g.advance width) := by
  unfold Grid.advance
  split
  · exact { h with }
  · exact h.toCol _

/-- Setting a mode stores nothing. -/
lemma putMode (h : Stored Last L g) (m : Mode) (value : Bool) : Stored Last L (g.putMode m value) :=
  { h with }

section
variable {c r : Nat} (laws : LineLaws c Ok L) (framed : g.Framed c r)

/-- The rows that leave a region into the history are good there. -/
lemma pushRegion (h : Stored Last L g) (framed : g.Framed c r) {n : Nat}
    (hn : n ≤ g.scrollBot + 1 - g.scrollTop) (push : Bool) : Stored Last L (g.pushRegion n push) := by
  have hbot : g.scrollBot < g.rows := framed.bot_lt
  unfold Grid.pushRegion
  split
  · refine h.pushRows fun row hrow => ?_
    rw [List.mem_range] at hrow
    omega
  · exact h

include laws framed

/-- A blank line is good. -/
lemma blankLine : L g.blankLine := by
  have hcols : g.cols = c := framed.cols_eq
  unfold Grid.blankLine
  rw [hcols]
  exact laws.blank g.pen.bg

/-- Shifting the screen up keeps what is stored good. -/
lemma shiftUp (h : Stored Last L g) (n : Nat) : Stored Last L (g.shiftUp n) := by
  have hbot : g.scrollBot < g.activeLines.length := by
    rw [h.active_length]
    exact framed.bot_lt
  refine h.setActiveLines ?_ fun line hmem => ?_
  · have htop : g.scrollTop ≤ g.scrollBot := framed.top_le
    rw [length_clearRows, length_rotateRegion htop hbot, h.active_length]
  · rcases mem_clearRows hmem with rfl | hold
    · exact blankLine laws framed
    · exact h.active line (mem_rotateRegion hold)

/-- Scrolling a region up keeps what is stored good. -/
lemma scrollRegionUp (h : Stored Last L g) (n : Nat) (push : Bool) :
    Stored Last L (g.scrollRegionUp n push) := by
  unfold Grid.scrollRegionUp
  split
  · exact h
  · have hframe := Grid.frame_pushRegion (g := g) (min n (g.scrollBot + 1 - g.scrollTop)) push
    exact shiftUp laws (framed.of_frame hframe) (h.pushRegion framed (Nat.min_le_right ..) push) _

/-- Scrolling a region down keeps what is stored good. -/
lemma scrollRegionDown (h : Stored Last L g) (n : Nat) : Stored Last L (g.scrollRegionDown n) := by
  unfold Grid.scrollRegionDown
  split
  · exact h
  · refine h.setActiveLines ?_ fun line hmem => ?_
    · rw [length_clearRows, length_copyRowsDown, h.active_length]
    · rcases mem_clearRows hmem with rfl | hold
      · exact blankLine laws framed
      · exact h.active line (mem_copyRowsDown hold)

/-- Feeding a row keeps what is stored good. -/
lemma feedRow (h : Stored Last L g) : Stored Last L g.feedRow := by
  unfold Grid.feedRow
  split
  · exact scrollRegionUp laws framed h 1 true
  split
  · exact h.toRow _
  · exact h

/-- A line feed does. -/
lemma lineFeed (h : Stored Last L g) : Stored Last L g.lineFeed := by
  unfold Grid.lineFeed
  split
  · exact feedRow laws (framed.column framed.cols_pos) (h.toCol 0).unpend
  · exact feedRow laws framed.unpend h.unpend

/-- A line feed from the first column does. -/
lemma feedFrom (h : Stored Last L g) : Stored Last L (g.toCol 0).lineFeed := by
  unfold Grid.lineFeed
  split
  all_goals exact feedRow laws (framed.column framed.cols_pos) (h.toCol 0).unpend

/-- A reverse index does. -/
lemma reverseIndex (h : Stored Last L g) : Stored Last L g.reverseIndex := by
  unfold Grid.reverseIndex
  dsimp only
  split
  · exact scrollRegionDown laws framed.unpend h.unpend 1
  split
  · exact h.unpend.toRow _
  · exact h.unpend

/-- Erasing in a line does. -/
lemma eraseInLine (h : Stored Last L g) (param : Nat) : Stored Last L (g.eraseInLine param) := by
  have hcols : g.cols = c := framed.cols_eq
  have hcol : g.cursorCol < g.cols := framed.col_lt
  unfold Grid.eraseInLine
  dsimp only
  split
  · refine h.unpend.modifyLine _ fun line hline => ?_
    exact laws.erase g.unpend line _ _ _ hcols hline (Nat.le_of_lt hcol) (Nat.le_of_eq hcols)
      (.inr ⟨rfl, hcols⟩)
  · refine h.unpend.modifyLine _ fun line hline => ?_
    exact laws.erase g.unpend line _ _ _ hcols hline (Nat.zero_le _) (hcols ▸ hcol) (.inl rfl)
  · exact h.unpend.modifyLine _ fun _ _ => blankLine laws framed.unpend
  · exact h.unpend

/-- Erasing in the display does. -/
lemma eraseInDisplay (h : Stored Last L g) (param : Nat) : Stored Last L (g.eraseInDisplay param) := by
  have hblank := blankLine laws framed
  unfold Grid.eraseInDisplay
  dsimp only
  split
  · have herased := eraseInLine laws framed.unpend h.unpend 0
    have framed' := framed.unpend.of_unpended (Grid.frame_eraseInLine (g := g.unpend) 0)
    exact herased.clearActiveRows (blankLine laws framed') _ _
  · have hcleared := h.unpend.clearActiveRows hblank 0 g.cursorRow
    have framed' := framed.unpend.of_frame (Grid.frame_clearActiveRows 0 g.cursorRow)
    exact eraseInLine laws framed' hcleared 1
  · exact h.unpend.clearActiveRows hblank _ _
  · have hcleared := h.unpend.clearActiveRows hblank 0 g.rows
    split
    · exact hcleared
    · exact { hcleared with size_le := Nat.zero_le _, history := noHistory rfl }
  · exact h.unpend

omit laws in
/-- What the counts of `EraseChars`, `DeleteChars` and `InsertChars` are cut down to. -/
lemma cellCount_bounds (n : Nat) : 0 < g.cellCount n ∧ g.cellCount n ≤ c - g.cursorCol := by
  have hcols : g.cols = c := framed.cols_eq
  have hcol : g.cursorCol < g.cols := framed.col_lt
  have hpos : 0 < if n = 0 then 1 else n := by split <;> omega
  unfold Grid.cellCount
  omega

omit laws in
/-- The cursor is on the grid. -/
lemma cursor_lt : g.cursorCol < c := by
  have hcols : g.cols = c := framed.cols_eq
  have hcol : g.cursorCol < g.cols := framed.col_lt
  exact hcols ▸ hcol

/-- Erasing characters keeps what is stored good. -/
lemma eraseChars (h : Stored Last L g) (n : Nat) : Stored Last L (g.eraseChars n) := by
  have hcol := cursor_lt framed
  obtain ⟨-, hle⟩ := cellCount_bounds framed n
  refine h.unpend.modifyLine _ fun line hline => ?_
  refine laws.erase g.unpend line _ _ _ framed.cols_eq hline (Nat.le_add_right ..) ?_ (.inl rfl)
  change g.cursorCol + g.cellCount n ≤ c
  omega

/-- Deleting characters does. -/
lemma deleteChars (h : Stored Last L g) (n : Nat) : Stored Last L (g.deleteChars n) := by
  obtain ⟨hpos, hle⟩ := cellCount_bounds framed n
  refine h.unpend.modifyLine _ fun line hline => ?_
  exact laws.delete g.unpend line _ framed.cols_eq (cursor_lt framed.unpend) hline hpos hle

/-- Inserting blanks does. -/
lemma insertChars (h : Stored Last L g) (n : Nat) : Stored Last L (g.insertChars n) := by
  obtain ⟨hpos, hle⟩ := cellCount_bounds framed n
  refine h.unpend.modifyLine _ fun line hline => ?_
  exact laws.insert g.unpend line _ framed.cols_eq (cursor_lt framed.unpend) hline hpos hle

omit laws in
/-- Scrolling below the cursor does, when the scroll itself does. -/
lemma scrollBelowCursor (h : Stored Last L g) {scroll : Grid → Grid}
    (hscroll : ∀ g' : Grid, g'.Framed c r → Stored Last L g' → Stored Last L (scroll g')) :
    Stored Last L (g.scrollBelowCursor scroll) := by
  have hbot : g.scrollBot < g.rows := framed.bot_lt
  unfold Grid.scrollBelowCursor
  split
  · exact h
  · have framed' : (g.unpend.setMargins g.cursorRow g.scrollBot).Framed c r :=
      { framed.unpend with top_le := (show g.cursorRow ≤ g.scrollBot by omega) }
    have hscrolled := hscroll _ framed' (h.unpend.setMargins ..)
    exact (hscrolled.setMargins ..).toCol 0

variable (hlast : ∀ cp width, Ok cp width → Last cp width)

include hlast in
/-- Writing a good character where it fits does. -/
lemma printCell (h : Stored Last L g) {cp width : Nat} (hok : Ok cp width)
    (hfits : width = 2 → g.cursorCol + 1 < c) : Stored Last L (g.printCell cp width) := by
  have hwritten := h.modifyLine g.cursorRow fun line hline =>
    laws.write g line cp width framed.cols_eq (cursor_lt framed) hline hok hfits
  have hremembered : Stored Last L
      ((g.modifyLine g.cursorRow (g.writeCells cp width)).remember cp width) :=
    { hwritten with last := hlast cp width hok }
  exact hremembered.advance width

include hlast in
/-- Putting a good character does, unless it is wide and there is one column. -/
lemma putFitted (h : Stored Last L g) {cp width : Nat} (hok : Ok cp width)
    (hone : width = 2 → c ≠ 1) : Stored Last L (g.putFitted cp width) := by
  have hcols : g.cols = c := framed.cols_eq
  have hpos : 0 < g.cols := framed.cols_pos
  unfold Grid.putFitted
  split
  · split
    · have hcol' : (g.toCol 0).lineFeed.cursorCol = 0 :=
        (congrArg Frame.cursorCol (Grid.frame_lineFeed (g := g.toCol 0))).trans (ite_self 0)
      refine printCell laws framed.feedFrom hlast (feedFrom laws framed h) hok fun hwidth => ?_
      have := hone hwidth
      omega
    · exact h
  · exact printCell laws framed hlast h hok fun hwidth => by omega

/-- Making the pending wrap does. -/
lemma wrapPending (h : Stored Last L g) : Stored Last L g.wrapPending := by
  unfold Grid.wrapPending
  split
  · exact (feedFrom laws framed h).unpend
  · exact h.unpend

/-- Making room for a character does. -/
lemma makeRoom (h : Stored Last L g) (width : Nat) : Stored Last L (g.makeRoom width) := by
  unfold Grid.makeRoom
  split
  · exact insertChars laws framed h width
  · exact h

include hlast in
/-- Putting a good character does, and one of no width is not stored. -/
lemma putChar (h : Stored Last L g) {cp width : Nat} (hok : width = 0 ∨ Ok cp width) :
    Stored Last L (g.putChar cp width) := by
  unfold Grid.putChar
  dsimp only
  split
  · exact h
  · next hwidth =>
    have framed' := framed.wrapPending.makeRoom width
    have hcols' : (g.wrapPending.makeRoom width).cols = c := framed'.cols_eq
    have hroom := makeRoom laws framed.wrapPending (wrapPending laws framed h) width
    split
    · exact putFitted laws framed' hlast hroom laws.space nofun
    · next hone =>
      have hok' := laws.translate g cp width (hok.resolve_left hwidth)
      exact putFitted laws framed' hlast hroom hok' fun hwide hnarrow => hone ⟨hwide, hcols'.trans hnarrow⟩

omit framed in
/-- Putting the last character again and again keeps what is stored good. -/
lemma repeatTurns (turns : List Nat) {g : Grid} (framed : g.Framed c r) (h : Stored Ok L g) :
    Stored Ok L (turns.foldl (fun g _ => g.putChar g.lastPrintedChar g.lastPrintedWidth) g) := by
  induction turns generalizing g with
  | nil => exact h
  | cons _ turns ih =>
    exact ih (framed.putChar ..) (putChar laws framed (fun _ _ hok => hok) h (.inr h.last))

/-- Repeating the last character does, where there was one. -/
lemma repeatChar (h : Stored (fun cp width => cp = 0 ∨ Ok cp width) L g) (n : Nat) :
    Stored (fun cp width => cp = 0 ∨ Ok cp width) L (g.repeatChar n) := by
  unfold Grid.repeatChar
  split
  · exact h
  · next hne =>
    have hturns := repeatTurns laws (List.range n) framed { h with last := h.last.resolve_left hne }
    exact { hturns with last := .inr hturns.last }

omit laws framed in
/-- Saving the cursor stores no line. -/
lemma saveCursor (h : Stored Last L g) : Stored Last L g.saveCursor := by
  unfold Grid.saveCursor
  dsimp only
  split
  · exact { h with }
  · exact { h with }

omit laws framed in
/-- Restoring the cursor stores nothing. -/
lemma restoreCursor (h : Stored Last L g) : Stored Last L g.restoreCursor := { h with }

/-- Clearing the alternate screen leaves blank lines. -/
lemma clearAltScreen (h : Stored Last L g) : Stored Last L g.clearAltScreen where
  main_length := h.main_length
  alt_length := (length_clearRows ..).trans h.alt_length
  history_length := h.history_length
  size_le := h.size_le
  main := h.main
  alt := by
    intro line hmem
    rcases mem_clearRows hmem with rfl | hold
    · exact blankLine laws framed
    · exact h.alt line hold
  history := h.history
  last := h.last

/-- Setting any private mode keeps what is stored good. -/
lemma setMode (h : Stored Last L g) (param : Nat) (value : Bool) :
    Stored Last L (g.setMode param value) := by
  unfold Grid.setMode
  split
  case h_3 => exact (((h.putMode ..).toRow _).toCol 0).unpend
  case h_8 =>
    refine Stored.putMode ?_ ..
    split
    · exact clearAltScreen laws framed h
    · exact h
  case h_9 =>
    split
    · exact h.saveCursor
    · exact h.restoreCursor
  case h_17 =>
    split
    · have framed' : (g.saveCursor.switchAltScreen true).Framed c r :=
        (framed.of_frame Grid.frame_saveCursor).putMode true (by decide)
      exact clearAltScreen laws framed' (h.saveCursor.putMode ..)
    · exact (h.putMode ..).restoreCursor
  case h_20 => exact h
  all_goals exact h.putMode ..

/-- A reset does. -/
lemma reset (h : Stored Last L g) (hard : Bool) : Stored Last L (g.reset hard) := by
  have hcols : g.cols = c := framed.cols_eq
  have hblank : L (List.replicate g.cols {}) := by
    rw [hcols]
    exact laws.blank {}
  have hcleared : ∀ lines : List Line, (∀ line ∈ lines, L line) →
      ∀ line ∈ Grid.clearRows 0 g.rows (List.replicate g.cols {}) lines, L line := by
    intro lines hlines line hmem
    rcases mem_clearRows hmem with rfl | hold
    · exact hblank
    · exact hlines line hold
  unfold Grid.reset
  dsimp only
  split
  · exact
      { main_length := (length_clearRows ..).trans h.main_length
        alt_length := (length_clearRows ..).trans h.alt_length
        history_length := h.history_length
        size_le := Nat.zero_le _
        main := hcleared _ h.main
        alt := hcleared _ h.alt
        history := noHistory rfl
        last := h.last }
  · exact { h with }

/-- What a call may ask to print. -/
def Admits (Ok : Nat → Nat → Prop) : Call → Prop
  | .putChar cp width => width = 0 ∨ Ok cp width
  | _ => True

/-- A property of lines that single lines keep, every grid keeps whatever is called. -/
theorem apply (h : Stored (fun cp width => cp = 0 ∨ Ok cp width) L g) (call : Call)
    (admitted : Admits Ok call) :
    Stored (fun cp width => cp = 0 ∨ Ok cp width) L (call.apply g) := by
  cases call with
  | putChar cp width => exact putChar laws framed (fun _ _ => .inr) h admitted
  | carriageReturn => exact (h.toCol 0).unpend
  | lineFeed => exact lineFeed laws framed h
  | reverseIndex => exact reverseIndex laws framed h
  | index => exact feedRow laws framed.unpend h.unpend
  | backspace => exact h.unpend.toCol _
  | horizontalTab => exact h.unpend.toCol _
  | horizontalTabBack n => exact h.unpend.toCol _
  | moveCursorUp n => exact h.unpend.toRow _
  | moveCursorDown n => exact h.unpend.toRow _
  | moveCursorRight n => exact h.unpend.toCol _
  | moveCursorLeft n => exact h.unpend.toCol _
  | moveCursorTo row1 col1 => exact (h.unpend.toRow _).toCol _
  | moveCursorToCol col1 => exact h.unpend.toCol _
  | moveCursorToRow row1 => exact h.unpend.toRow _
  | cursorNextLine n => exact (h.unpend.toRow _).toCol _
  | cursorPrevLine n => exact (h.unpend.toRow _).toCol _
  | saveCursor => exact h.saveCursor
  | restoreCursor => exact h.restoreCursor
  | eraseInDisplay param => exact eraseInDisplay laws framed h param
  | eraseInLine param => exact eraseInLine laws framed h param
  | eraseChars n => exact eraseChars laws framed h n
  | deleteChars n => exact deleteChars laws framed h n
  | insertChars n => exact insertChars laws framed h n
  | insertLines n =>
    exact scrollBelowCursor framed h fun _ framed' h' => scrollRegionDown laws framed' h' n
  | deleteLines n =>
    exact scrollBelowCursor framed h fun _ framed' h' => scrollRegionUp laws framed' h' n false
  | scrollDown n => exact scrollRegionDown laws framed h n
  | scrollUp n => exact scrollRegionUp laws framed h n true
  | repeatChar n => exact repeatChar laws framed h n
  | setScrollRegion top1 bot1 =>
    change Stored _ L (Grid.setScrollRegion g top1 bot1)
    -- a region that is no region is ignored; any other sets margins and homes the cursor
    unfold Grid.setScrollRegion
    dsimp only
    generalize (if top1 - 1 ≥ g.rows then 0 else top1 - 1) = t
    generalize (if (if bot1 > 0 then bot1 - 1 else g.rows - 1) ≥ g.rows then g.rows - 1
      else if bot1 > 0 then bot1 - 1 else g.rows - 1) = b
    split
    · exact h
    · exact (((h.setMargins _ _).toRow _).toCol _).unpend
  | setMode param value => exact setMode laws framed h param value
  | applySgr params => exact { h with }
  | reset hard => exact reset laws framed h hard
  | setCursorStyle style => exact { h with }
  | setTabStop =>
    change Stored _ L (Grid.setTabStop g)
    unfold Grid.setTabStop
    split
    · exact { h with }
    · exact h
  | clearTabStop param =>
    change Stored _ L (Grid.clearTabStop g param)
    unfold Grid.clearTabStop
    split
    · split
      · exact { h with }
      · exact h
    · exact { h with }
    · exact h
  | shiftCharset out => exact { h with }
  | designateCharset set designator =>
    change Stored _ L (Grid.designateCharset g set designator)
    unfold Grid.designateCharset
    dsimp only
    split
    · exact { h with }
    · exact { h with }
  | setPossiblyDiverged v => exact { h with }

end

/-- A grid that was just made is as blank as its lines. -/
lemma create {memory : Bool} {cols rows scrollbackLimit : Nat}
    (h : Grid.create memory cols rows scrollbackLimit = .ok g) (hblank : L (List.replicate g.cols {}))
    (hlast : Last 0 1) : Stored Last L g := by
  have hlines : ∀ count, ∀ line ∈ List.replicate count (List.replicate g.cols ({} : Cell)), L line := by
    intro count line hmem
    rw [List.eq_of_mem_replicate hmem]
    exact hblank
  unfold Grid.create at h
  split at h
  · cases h
  · dsimp only at h
    split at h
    · cases h
    · cases h
      exact
        { main_length := List.length_replicate, alt_length := List.length_replicate
          history_length := List.length_replicate, size_le := Nat.zero_le _, main := hlines _
          alt := hlines _, history := noHistory rfl, last := hlast }

/-- What every line of the old buffers had, the fitted lines have. -/
lemma resizeTo {c c' : Nat} {L' : Line → Prop} (laws : FitLaws c c' L L') (hcols : g.cols = c)
    (h : Stored Last L g) (newRows : Nat) : Stored Last L' (g.resizeTo c' newRows) := by
  obtain ⟨hringed, hscroll⟩ := h.ringed.resizeTo h.main_length c' newRows
  have hmain := h.ringed.main_resizeTo h.main_length c' newRows
  have halt := h.ringed.alt_resizeTo h.main_length h.alt_length c' newRows
  obtain ⟨ring, start, size, htrim, -, -⟩ := h.ringed.trimFor_eq h.main_length c' newRows
  refine
    { main_length := ?_, alt_length := ?_, history_length := hringed.length_eq
      size_le := hringed.size_le, main := ?_, alt := ?_, history := ?_, last := ?_ }
  · change _ = newRows
    rw [hmain, List.length_append, List.length_map, List.length_drop, List.length_replicate,
      h.main_length]
    omega
  · change _ = newRows
    rw [halt, List.length_append, List.length_map, List.length_drop, List.length_replicate,
      h.alt_length]
    omega
  · rw [hmain]
    exact fun line => laws.fitted hcols fun old hold => h.main old (List.mem_of_mem_drop hold)
  · rw [halt]
    exact fun line => laws.fitted hcols fun old hold => h.alt old (List.mem_of_mem_drop hold)
  · rw [hscroll]
    intro line hmem
    obtain ⟨old, hold, rfl⟩ := List.mem_map.mp (mem_rtake hmem)
    have hL : L old := by
      rcases List.mem_append.mp hold with hkept | hlost
      · exact h.history old hkept
      · unfold Grid.lostRows at hlost
        split at hlost
        · cases hlost
        · exact h.main old (List.mem_of_mem_take hlost)
    unfold Grid.refitLine
    split
    · next hsame => exact laws.same (hsame.trans hcols) old hL
    · exact laws.fit g old hcols hL
  · have hlast : (g.resizeTo c' newRows).lastPrintedChar = g.lastPrintedChar ∧
        (g.resizeTo c' newRows).lastPrintedWidth = g.lastPrintedWidth := by
      unfold Grid.resizeTo
      rw [htrim]
      exact ⟨rfl, rfl⟩
    rw [hlast.1, hlast.2]
    exact h.last

end Stored

end Zet.Terminal
