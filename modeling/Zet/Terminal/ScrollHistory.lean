import Zet.Terminal.Emulation
import Zet.Terminal.Scrolling

/-!
# What the history holds

Over a run the history is the last rows that were pushed since it was cleared, as far as its limit
allows, and nothing pushes a row but an up-scroll of a region at the top of the active main screen, or
a resize that drops rows from there. `Call.upScrolls` lists the up-scrolls a mutator makes, each with
the grid it finds; `Saved` is what a mutator does to the history, and composes.

A resize to another width lays every line of the history out anew, so a row may be narrower than it
was pushed (`Grid.refitLine`).
-/

namespace Zet.Terminal
open Zet.Core Zet.Lib

namespace Grid

variable {g g' g'' : Grid} {rows rows' : List Line}

/-- The ring of the history. -/
def ring (g : Grid) : List Line × Nat × Nat × Nat :=
  (g.history, g.historyStart, g.historySize, g.scrollbackLimit)

/-- Grids of one ring have one history. -/
lemma scrollback_of_ring (h : g'.ring = g.ring) : g'.scrollback = g.scrollback := by
  simp only [ring, Prod.mk.injEq] at h
  unfold scrollback
  rw [h.1, h.2.1, h.2.2.1]

/-- They have one limit. -/
lemma limit_of_ring (h : g'.ring = g.ring) : g'.scrollbackLimit = g.scrollbackLimit := by
  simp only [ring, Prod.mk.injEq] at h
  exact h.2.2.2

/-- They are rings alike. -/
lemma Ringed.of_ring (h : g.Ringed) (heq : g'.ring = g.ring) : g'.Ringed := by
  simp only [ring, Prod.mk.injEq] at heq
  obtain ⟨hhistory, -, hsize, hlimit⟩ := heq
  exact ⟨by rw [hhistory, hlimit]; exact h.length_eq, by rw [hsize, hlimit]; exact h.size_le⟩

/-- The lines of the screen are not in the ring. -/
@[simp] lemma ring_setActiveLines (lines : List Line) : (g.setActiveLines lines).ring = g.ring := by
  unfold setActiveLines
  split <;> rfl

/-- Changing a line of the screen leaves the ring alone. -/
@[simp] lemma ring_modifyLine (row : Nat) (f : Line → Line) : (g.modifyLine row f).ring = g.ring :=
  ring_setActiveLines _

/-- Scrolling a region down leaves the ring alone. -/
@[simp] lemma ring_scrollRegionDown (n : Nat) : (g.scrollRegionDown n).ring = g.ring := by
  unfold scrollRegionDown
  split
  · rfl
  · exact ring_setActiveLines _

/-- `g'` has the history of `g` with `rows` pushed, and the very same ring when there are none. -/
structure Saved (rows : List Line) (g g' : Grid) : Prop where
  limit : g'.scrollbackLimit = g.scrollbackLimit
  ringed : g.Ringed → g'.Ringed
  scrollback : g.Ringed → g'.scrollback = (g.scrollback ++ rows).rtake g.scrollbackLimit
  ring : rows = [] → g'.ring = g.ring

namespace Saved

/-- Where the ring is the same, nothing was saved. -/
lemma of_ring (h : g'.ring = g.ring) : Saved [] g g' where
  limit := limit_of_ring h
  ringed hringed := hringed.of_ring h
  scrollback hringed := by
    rw [scrollback_of_ring h, List.append_nil, rtake_of_length_le]
    rw [hringed.length_scrollback]
    exact hringed.size_le
  ring _ := h

/-- What two steps save is saved one after the other. -/
lemma trans (first : Saved rows g g') (second : Saved rows' g' g'') :
    Saved (rows ++ rows') g g'' where
  limit := second.limit.trans first.limit
  ringed hringed := second.ringed (first.ringed hringed)
  scrollback hringed := by
    rw [second.scrollback (first.ringed hringed), first.scrollback hringed, first.limit,
      rtake_append_rtake, List.append_assoc]
  ring hnone := by
    obtain ⟨hrows, hrows'⟩ := List.append_eq_nil_iff.mp hnone
    exact (second.ring hrows').trans (first.ring hrows)

/-- Something else before the rows are pushed. -/
lemma after (h : Saved rows g' g'') (same : g'.ring = g.ring) : Saved rows g g'' :=
  (of_ring same).trans h

/-- Something else once the rows are pushed. -/
lemma before (h : Saved rows g g') (same : g''.ring = g'.ring) : Saved rows g g'' :=
  List.append_nil rows ▸ h.trans (of_ring same)

end Saved

end Grid

/-- A call of `ScrollRegionUp` that pushes: the grid it finds, and its count. -/
structure UpScroll where
  grid : Grid
  count : Nat

namespace UpScroll

/-- The region starts at the top row of the active main screen. -/
def Saves (s : UpScroll) : Prop := s.grid.scrollTop = 0 ∧ ¬s.grid.isAltScreen

instance (s : UpScroll) : Decidable s.Saves := inferInstanceAs (Decidable (_ ∧ _))

/-- The rows it pushes: the top ones of the region, as many as it scrolls. -/
def rows (s : UpScroll) : List Line :=
  if s.Saves then
    (List.range (min s.count (s.grid.scrollBot + 1 - s.grid.scrollTop))).map fun row =>
      s.grid.main.getD row []
  else []

end UpScroll

namespace Grid

variable {g : Grid}

/-- The rows of several up-scrolls. -/
def pushedBy (scrolls : List UpScroll) : List Line := scrolls.flatMap UpScroll.rows

/-- What scrolls push is pushed one after the other. -/
lemma pushedBy_append (scrolls scrolls' : List UpScroll) :
    pushedBy (scrolls ++ scrolls') = pushedBy scrolls ++ pushedBy scrolls' :=
  List.flatMap_append

/-- Scrolls that save nothing push nothing. -/
lemma pushedBy_eq_nil {scrolls : List UpScroll} (h : ∀ s ∈ scrolls, ¬s.Saves) :
    pushedBy scrolls = [] :=
  List.flatMap_eq_nil_iff.mpr fun s hmem => if_neg (h s hmem)

/-- The up-scroll of a line feed at the bottom margin. -/
def feedScrolls (g : Grid) : List UpScroll := if g.cursorRow = g.scrollBot then [⟨g, 1⟩] else []

/-- The up-scroll of `LineFeed`. -/
def lineScrolls (g : Grid) : List UpScroll :=
  (if g.modeSet .lnm then g.toCol 0 else g).unpend.feedScrolls

/-- The up-scroll of a wrap that is pending. -/
def wrapScrolls (g : Grid) : List UpScroll :=
  if g.pendingWrap ∧ g.modeSet .awm then (g.toCol 0).lineScrolls else []

/-- The up-scroll of a wide character that does not fit. -/
def fitScrolls (g : Grid) (width : Nat) : List UpScroll :=
  if width = 2 ∧ g.cursorCol + 1 ≥ g.cols then
    if g.modeSet .awm then (g.toCol 0).lineScrolls else []
  else []

/-- The up-scrolls of `PutChar`. -/
def charScrolls (g : Grid) (width : Nat) : List UpScroll :=
  if width = 0 then []
  else
    let room := g.wrapPending.makeRoom width
    g.wrapScrolls ++ room.fitScrolls (if width = 2 ∧ room.cols = 1 then 1 else width)

/-- The up-scrolls of so many turns of `RepeatChar`. -/
def repeatScrolls : (n : Nat) → Grid → List UpScroll
  | 0, _ => []
  | n + 1, g =>
    g.charScrolls g.lastPrintedWidth ++
      repeatScrolls n (g.putChar g.lastPrintedChar g.lastPrintedWidth)

/-- A scroll up saves the rows that leave the screen. -/
lemma saved_scrollRegionUp (g : Grid) (n : Nat) :
    Saved (UpScroll.rows ⟨g, n⟩) g (g.scrollRegionUp n true) := by
  unfold scrollRegionUp
  split
  · next hzero =>
    have hnone : UpScroll.rows ⟨g, n⟩ = [] := by
      unfold UpScroll.rows
      rw [hzero, Nat.zero_min]
      split <;> rfl
    rw [hnone]
    exact .of_ring rfl
  dsimp only
  suffices hpush : Saved (UpScroll.rows ⟨g, n⟩) g
      (g.pushRegion (min n (g.scrollBot + 1 - g.scrollTop)) true) from
    hpush.before (ring_setActiveLines _)
  unfold pushRegion UpScroll.rows
  by_cases hsaves : g.scrollTop = 0 ∧ ¬g.isAltScreen
  · rw [if_pos (show UpScroll.Saves ⟨g, n⟩ from hsaves), if_pos ⟨rfl, hsaves⟩]
    dsimp only
    generalize min n (g.scrollBot + 1 - g.scrollTop) = m
    obtain ⟨ring, start, size, heq⟩ := pushRows_eq (g := g) (List.range m)
    refine ⟨by rw [heq], fun h => h.pushRows _, fun h => h.scrollback_pushRows _, fun hnone => ?_⟩
    rw [List.map_eq_nil_iff.mp hnone]
    rfl
  · rw [if_neg (show ¬UpScroll.Saves ⟨g, n⟩ from hsaves), if_neg fun h => hsaves h.2]
    exact .of_ring rfl

/-- Feeding a row saves what its scroll pushes. -/
lemma saved_feedRow (g : Grid) : Saved (pushedBy g.feedScrolls) g g.feedRow := by
  unfold feedRow feedScrolls
  split
  · have hone : pushedBy [⟨g, 1⟩] = UpScroll.rows ⟨g, 1⟩ := List.append_nil _
    rw [hone]
    exact saved_scrollRegionUp g 1
  · split
    · exact .of_ring rfl
    · exact .of_ring rfl

/-- A line feed does. -/
lemma saved_lineFeed (g : Grid) : Saved (pushedBy g.lineScrolls) g g.lineFeed := by
  unfold lineFeed lineScrolls
  split
  · exact (saved_feedRow _).after rfl
  · exact (saved_feedRow _).after rfl

/-- A line feed from column 0. -/
lemma saved_feedFrom (g : Grid) : Saved (pushedBy (g.toCol 0).lineScrolls) g (g.toCol 0).lineFeed :=
  (saved_lineFeed (g.toCol 0)).after rfl

/-- Making the pending wrap does. -/
lemma saved_wrapPending (g : Grid) : Saved (pushedBy g.wrapScrolls) g g.wrapPending := by
  unfold wrapPending wrapScrolls
  split
  · exact (saved_feedFrom g).before rfl
  · exact .of_ring rfl

/-- Making room for a character leaves the ring alone. -/
lemma ring_makeRoom (width : Nat) : (g.makeRoom width).ring = g.ring := by
  unfold makeRoom
  split
  · exact ring_modifyLine ..
  · rfl

/-- Moving on behind a character leaves the ring alone. -/
lemma ring_advance (width : Nat) : (g.advance width).ring = g.ring := by
  unfold advance
  split <;> rfl

/-- Writing a character leaves the ring alone. -/
lemma ring_printCell (cp width : Nat) : (g.printCell cp width).ring = g.ring :=
  (ring_advance width).trans (ring_modifyLine ..)

/-- Putting a character there is room for saves what its scroll pushes. -/
lemma saved_putFitted (g : Grid) (cp width : Nat) :
    Saved (pushedBy (g.fitScrolls width)) g (g.putFitted cp width) := by
  unfold putFitted fitScrolls
  split
  · split
    · exact (saved_feedFrom g).before (ring_printCell ..)
    · exact .of_ring rfl
  · exact .of_ring (ring_printCell ..)

/-- Putting any character does. -/
lemma saved_putChar (g : Grid) (cp width : Nat) :
    Saved (pushedBy (g.charScrolls width)) g (g.putChar cp width) := by
  unfold putChar charScrolls
  dsimp only
  split
  · exact .of_ring rfl
  · rw [pushedBy_append]
    refine (saved_wrapPending g).trans ?_
    split
    · exact (saved_putFitted ..).after (ring_makeRoom width)
    · exact (saved_putFitted ..).after (ring_makeRoom width)

/-- Putting the last character again and again saves what all the scrolls push. -/
lemma saved_turns (turns : List Nat) (g : Grid) :
    Saved (pushedBy (repeatScrolls turns.length g)) g
      (turns.foldl (fun g _ => g.putChar g.lastPrintedChar g.lastPrintedWidth) g) := by
  induction turns generalizing g with
  | nil => exact .of_ring rfl
  | cons _ turns ih =>
    rw [List.length_cons, repeatScrolls, pushedBy_append]
    exact (saved_putChar ..).trans (ih _)

/-- Repeating the last character does, where there was one. -/
lemma saved_repeatChar (g : Grid) (n : Nat) :
    Saved (pushedBy (if g.lastPrintedChar = 0 then [] else repeatScrolls n g)) g (g.repeatChar n) := by
  unfold repeatChar
  split
  · exact .of_ring rfl
  · have hturns := saved_turns (List.range n) g
    rw [List.length_range] at hturns
    exact hturns

/-- A scroll up that is not to push leaves the ring alone. -/
lemma ring_scrollRegionUp_false (n : Nat) : (g.scrollRegionUp n false).ring = g.ring := by
  unfold scrollRegionUp
  split
  · rfl
  · refine (ring_setActiveLines _).trans ?_
    unfold pushRegion
    rw [if_neg fun h => nomatch h.1]

/-- Scrolling below the cursor does, when the scroll itself does. -/
lemma ring_scrollBelowCursor {scroll : Grid → Grid} (h : ∀ g, (scroll g).ring = g.ring) :
    (g.scrollBelowCursor scroll).ring = g.ring := by
  unfold scrollBelowCursor
  split
  · rfl
  · exact h _

/-- Erasing in a line does. -/
lemma ring_eraseInLine (param : Nat) : (g.eraseInLine param).ring = g.ring := by
  unfold eraseInLine
  dsimp only
  split
  · exact ring_modifyLine ..
  · exact ring_modifyLine ..
  · exact ring_modifyLine ..
  · rfl

/-- Saving the cursor does. -/
lemma ring_saveCursor : g.saveCursor.ring = g.ring := by
  unfold saveCursor
  dsimp only
  split <;> rfl

/-- Putting it back does. -/
lemma ring_restoreCursor : g.restoreCursor.ring = g.ring :=
  rfl

/-- Putting one mode does. -/
lemma ring_putMode (m : Mode) (value : Bool) : (g.putMode m value).ring = g.ring :=
  rfl

/-- Moving the cursor and dropping its pending wrap does. -/
lemma ring_moved (row col : Nat) : (((g.toRow row).toCol col).unpend).ring = g.ring :=
  rfl

/-- Setting any private mode does. -/
lemma ring_setMode (param : Nat) (value : Bool) : (g.setMode param value).ring = g.ring := by
  unfold setMode
  split
  case h_3 => exact (ring_moved ..).trans (ring_putMode ..)
  case h_8 =>
    split
    · rfl
    · rfl
  case h_9 =>
    split
    · exact ring_saveCursor
    · rfl
  case h_17 =>
    split
    · exact ring_saveCursor
    · exact ring_restoreCursor.trans (ring_putMode ..)
  all_goals rfl

/-- A reverse index does. -/
lemma ring_reverseIndex : g.reverseIndex.ring = g.ring := by
  unfold reverseIndex
  dsimp only
  split
  · exact ring_scrollRegionDown 1
  · split <;> rfl

/-- Setting the margins does. -/
lemma ring_setScrollRegion (top1 bot1 : Nat) : (g.setScrollRegion top1 bot1).ring = g.ring := by
  unfold setScrollRegion
  extract_lets t b top bot
  split
  · rfl
  · exact ring_moved (g := g.setMargins top bot) ..

end Grid

/-- The up-scrolls a call makes. `DeleteLines` scrolls without pushing. -/
def Call.upScrolls (g : Grid) : Call → List UpScroll
  | .putChar _ width => g.charScrolls width
  | .lineFeed => g.lineScrolls
  | .index => g.unpend.feedScrolls
  | .scrollUp n => [⟨g, n⟩]
  | .repeatChar n => if g.lastPrintedChar = 0 then [] else g.repeatScrolls n
  | _ => []

/-- Whether a call clears the history: an erase of the scrollback of the main screen, or a hard
reset. -/
def Call.clears (g : Grid) : Call → Bool
  | .eraseInDisplay param => param = 3 && !g.isAltScreen
  | .reset hard => hard
  | _ => false

/-- The rows pushed since the last clear, after a call. -/
def Call.log (g : Grid) (log : List Line) (call : Call) : List Line :=
  if call.clears g then [] else log ++ Grid.pushedBy (call.upScrolls g)

namespace Grid

variable {g : Grid}

/-- Erasing in the display does, unless it clears the history. -/
lemma ring_eraseInDisplay {param : Nat} (h : Call.clears g (.eraseInDisplay param) = false) :
    (g.eraseInDisplay param).ring = g.ring := by
  unfold eraseInDisplay
  dsimp only
  split
  · exact (ring_setActiveLines _).trans (ring_eraseInLine 0)
  · exact (ring_eraseInLine 1).trans (ring_setActiveLines _)
  · exact ring_setActiveLines _
  · split
    · exact ring_setActiveLines _
    · next hmain =>
      have halt : (g.unpend.clearActiveRows 0 g.rows).isAltScreen = g.isAltScreen := by
        unfold clearActiveRows setActiveLines
        split <;> rfl
      simp only [Call.clears, decide_true, Bool.true_and, Bool.not_eq_false'] at h
      exact absurd (halt.trans h) hmain
  · rfl

end Grid

/-- What a call that does not clear the history does to it. -/
theorem Call.saved {g : Grid} {call : Call} (keeps : call.clears g = false) :
    Grid.Saved (Grid.pushedBy (call.upScrolls g)) g (call.apply g) := by
  cases call with
  | putChar cp width => exact Grid.saved_putChar g cp width
  | lineFeed => exact Grid.saved_lineFeed g
  | index => exact (Grid.saved_feedRow g.unpend).after rfl
  | scrollUp n =>
    have hone : Grid.pushedBy [⟨g, n⟩] = UpScroll.rows ⟨g, n⟩ := List.append_nil _
    change Grid.Saved (Grid.pushedBy [⟨g, n⟩]) g (g.scrollRegionUp n true)
    rw [hone]
    exact Grid.saved_scrollRegionUp g n
  | repeatChar n => exact Grid.saved_repeatChar g n
  | reverseIndex => exact .of_ring Grid.ring_reverseIndex
  | saveCursor => exact .of_ring Grid.ring_saveCursor
  | eraseInDisplay param => exact .of_ring (Grid.ring_eraseInDisplay keeps)
  | eraseInLine param => exact .of_ring (Grid.ring_eraseInLine param)
  | eraseChars n => exact .of_ring (Grid.ring_modifyLine ..)
  | deleteChars n => exact .of_ring (Grid.ring_modifyLine ..)
  | insertChars n => exact .of_ring (Grid.ring_modifyLine ..)
  | insertLines n =>
    exact .of_ring (Grid.ring_scrollBelowCursor fun _ => Grid.ring_scrollRegionDown n)
  | deleteLines n =>
    exact .of_ring (Grid.ring_scrollBelowCursor fun _ => Grid.ring_scrollRegionUp_false n)
  | scrollDown n => exact .of_ring (Grid.ring_scrollRegionDown n)
  | setScrollRegion top1 bot1 => exact .of_ring (Grid.ring_setScrollRegion top1 bot1)
  | setMode param value => exact .of_ring (Grid.ring_setMode param value)
  | reset hard =>
    have hsoft : hard = false := keeps
    subst hsoft
    exact .of_ring rfl
  | setTabStop =>
    refine .of_ring ?_
    change g.setTabStop.ring = g.ring
    unfold Grid.setTabStop
    split <;> rfl
  | clearTabStop param =>
    refine .of_ring ?_
    change (g.clearTabStop param).ring = g.ring
    unfold Grid.clearTabStop
    split
    · split <;> rfl
    · rfl
    · rfl
  | designateCharset set designator =>
    refine .of_ring ?_
    change (g.designateCharset set designator).ring = g.ring
    unfold Grid.designateCharset
    dsimp only
    split <;> rfl
  | _ => exact .of_ring rfl

/-- What a call that clears the history does to it. -/
lemma Call.cleared {g : Grid} {call : Call} (clears : call.clears g = true) :
    (call.apply g).scrollbackLimit = g.scrollbackLimit ∧ (call.apply g).scrollback = [] := by
  cases call with
  | eraseInDisplay param =>
    simp only [Call.clears, Bool.and_eq_true, decide_eq_true_eq, Bool.not_eq_true'] at clears
    obtain ⟨rfl, hmain⟩ := clears
    have halt : ¬(g.unpend.clearActiveRows 0 g.rows).isAltScreen = true := by
      unfold Grid.clearActiveRows Grid.setActiveLines
      rw [show g.unpend.isAltScreen = false from hmain]
      exact fun h => nomatch hmain.symm.trans h
    have heq : Call.apply g (.eraseInDisplay 3) =
        { g.unpend.clearActiveRows 0 g.rows with historyStart := 0, historySize := 0 } := if_neg halt
    rw [heq]
    have hsame : (g.unpend.clearActiveRows 0 g.rows).ring = g.ring := Grid.ring_setActiveLines _
    have hlimit := Grid.limit_of_ring hsame
    exact ⟨hlimit, Grid.scrollback_of_size rfl⟩
  | reset hard =>
    obtain rfl : hard = true := clears
    exact ⟨rfl, Grid.scrollback_of_size rfl⟩
  | _ => cases clears

/-- What a run keeps: the history is the last rows of the log. -/
structure Grid.Logged (limit : Nat) (g : Grid) (log : List Line) : Prop where
  limit_eq : g.scrollbackLimit = limit
  scrollback_eq : g.scrollback = log.rtake limit

/-- The log keeps up with a call. -/
lemma Grid.Logged.call {limit : Nat} {g : Grid} {log : List Line} (h : g.Logged limit log)
    (ringed : g.Ringed) (call : Call) : (call.apply g).Logged limit (call.log g log) := by
  unfold Call.log
  split
  · next hclears =>
    obtain ⟨hlimit, hnone⟩ := Call.cleared hclears
    exact ⟨hlimit.trans h.limit_eq, hnone.trans (List.rtake_nil limit).symm⟩
  · next hkeeps =>
    have hsaved := Call.saved (Bool.eq_false_iff.mpr hkeeps)
    refine ⟨hsaved.limit.trans h.limit_eq, ?_⟩
    rw [hsaved.scrollback ringed, h.scrollback_eq, h.limit_eq, Grid.rtake_append_rtake]

namespace Emulator

/-- The log after calls. -/
def callLog : Grid → List Line → List Call → List Line
  | _, log, [] => log
  | g, log, call :: calls => callLog (call.apply g) (call.log g log) calls

/-- The log after output. -/
def outputLog : Emulator → List Line → Bytes → List Line
  | _, log, [] => log
  | t, log, raw :: rest =>
    outputLog (t.feedByte raw) (callLog t.grid log (t.parser.feedByte t.grid.rows raw).2) rest

/-- The log after an event. A resize pushes the rows it drops from an active main screen, and makes
of every row what `refit` says. -/
def eventLog (refit : Grid → Nat → Line → Line) (t : Emulator) (log : List Line) : Event → List Line
  | .output bytes => outputLog t log bytes
  | .resize screens ring cols rows =>
    match (t.grid.resize screens ring cols rows).1 with
    | .ok _ =>
      let size := clampScreenSize cols rows
      (log ++ t.grid.lostRows size.2).map (refit t.grid size.1)
    | .error _ => log
  | .forceGround => log

/-- The rows pushed since the last clear, over events. -/
def log (refit : Grid → Nat → Line → Line) : Emulator → List Line → List Event → List Line
  | _, log, [] => log
  | t, rows, e :: events =>
    match t.step e with
    | some t' => log refit t' (eventLog refit t rows e) events
    | none => rows

end Emulator

/-- Every line there is: nothing is asked of it. -/
lemma anyLine : ScreenLaws fun _ _ => True where
  lines c :=
    { blank := fun _ => trivial, erase := fun _ _ _ _ _ _ _ _ _ _ => trivial
      delete := fun _ _ _ _ _ _ _ _ => trivial, insert := fun _ _ _ _ _ _ _ _ => trivial
      write := fun _ _ _ _ _ _ _ _ _ => trivial, translate := (cleanLaws c).translate
      space := (cleanLaws c).space }
  fits _ _ := { blank := trivial, same := fun _ _ _ => trivial, fit := fun _ _ _ _ => trivial }

namespace Grid.Logged

variable {limit : Nat} {log : List Line}

/-- It keeps up with any calls a parser makes. -/
lemma calls {c r : Nat} {calls : List Call} {g : Grid}
    (hcalls : ∀ call ∈ calls, Stored.Admits Printed call) (framed : g.Framed c r)
    (stored : Stored Repeated (fun _ => True) g) (h : g.Logged limit log) :
    (calls.foldl Call.apply g).Logged limit (Emulator.callLog g log calls) := by
  induction calls generalizing g log with
  | nil => exact h
  | cons call calls ih =>
    have hcall := hcalls call (List.mem_cons_self ..)
    exact ih (fun call' hmem => hcalls call' (List.mem_cons_of_mem _ hmem)) (framed.apply call)
      (stored.apply (anyLine.lines c) framed call hcall) (h.call stored.ringed call)

/-- It keeps up with the output that is fed. -/
lemma output {t : Emulator} (kept : Kept (fun _ _ => True) t) (h : t.grid.Logged limit log)
    (bytes : Bytes) : (t.feed bytes).grid.Logged limit (Emulator.outputLog t log bytes) := by
  unfold Emulator.feed
  induction bytes generalizing t log with
  | nil => exact h
  | cons raw bytes ih =>
    have hadmits : ∀ call ∈ (t.parser.feedByte t.grid.rows raw).2, Stored.Admits Printed call :=
      fun _ hmem => kept.parser.admits hmem
    exact ih (kept.feedByte anyLine raw) (calls hadmits kept.framed kept.stored h)

/-- What the last items become are the last of what the items become. -/
lemma map_rtake {α : Type} (f : α → α) (l : List α) (n : Nat) : (l.rtake n).map f = (l.map f).rtake n := by
  rw [List.rtake, List.rtake, List.map_drop, List.length_map]

/-- The log keeps up with a resize, which refits its lines. -/
lemma resize {t : Emulator} (kept : Kept (fun _ _ => True) t) (h : t.grid.Logged limit log)
    (screens ring : Bool) (cols rows : Nat) :
    (t.grid.resize screens ring cols rows).2.Logged limit
      (Emulator.eventLog Grid.refitLine t log (.resize screens ring cols rows)) := by
  have hringed := kept.stored.ringed
  dsimp only [Emulator.eventLog]
  rcases t.grid.resize_cases screens ring cols rows with ⟨hsize, heq⟩ | heq | heq
  · rw [heq, hsize]
    dsimp only
    rw [lostRows_of_le (.inr (Nat.le_refl _)), List.append_nil, map_refitLine_self]
    exact h
  · rw [heq]
    exact h
  · rw [heq]
    dsimp only
    obtain ⟨-, hscroll⟩ := hringed.resizeTo kept.stored.main_length (clampScreenSize cols rows).1
      (clampScreenSize cols rows).2
    refine ⟨(scrollbackLimit_resizeTo hringed kept.stored.main_length _ _).trans h.limit_eq, ?_⟩
    rw [hscroll, h.limit_eq, h.scrollback_eq, ← map_rtake, rtake_append_rtake, map_rtake]

/-- It keeps up with whatever happens to the terminal. -/
lemma step {t t' : Emulator} {e : Emulator.Event} (kept : Kept (fun _ _ => True) t)
    (h : t.grid.Logged limit log) (hstep : t.step e = some t') :
    t'.grid.Logged limit (Emulator.eventLog Grid.refitLine t log e) := by
  cases e with
  | output bytes =>
    cases hstep
    exact h.output kept bytes
  | resize screens ring cols rows =>
    cases hstep
    exact h.resize kept screens ring cols rows
  | forceGround =>
    cases hstep
    exact ⟨h.limit_eq, h.scrollback_eq⟩

/-- Over a whole run. -/
lemma run {t t' : Emulator} {events : List Emulator.Event} (run : Run Emulator.step Anywhere t events t')
    (kept : Kept (fun _ _ => True) t) (h : t.grid.Logged limit log) :
    t'.grid.Logged limit (Emulator.log Grid.refitLine t log events) := by
  induction run generalizing log with
  | nil t => exact h
  | cons _ hstep _ ih =>
    rw [Emulator.log, hstep]
    exact ih (kept.step anyLine hstep) (h.step kept hstep)

end Grid.Logged

/-- What `ScrollbackLine` returns is the last rows of the log, as many as the limit allows, oldest
first. -/
def Grid.LastPushed (limit : Nat) (g : Grid) (log : List Line) : Prop :=
  g.historySize = min limit log.length ∧
    ∀ idx, idx < g.historySize → g.scrollbackLine idx = log[log.length - g.historySize + idx]?

/-- The history is the last of the lines that were pushed. -/
lemma Grid.Logged.lastPushed {limit : Nat} {g : Grid} {log : List Line} (h : g.Logged limit log)
    (ringed : g.Ringed) : g.LastPushed limit log := by
  have hsize : g.historySize = min limit log.length := by
    rw [← ringed.length_scrollback, h.scrollback_eq, List.rtake, List.length_drop]
    omega
  refine ⟨hsize, fun idx hidx => ?_⟩
  rw [ringed.scrollbackLine_eq, h.scrollback_eq, List.rtake, List.getElem?_drop]
  congr 2
  omega

/-- A fresh grid has pushed nothing. -/
lemma Grid.logged_create {memory : Bool} {cols rows limit : Nat} {g : Grid}
    (made : Grid.create memory cols rows limit = .ok g) : g.Logged limit [] := by
  unfold Grid.create at made
  split at made
  · cases made
  · dsimp only at made
    split at made
    · cases made
    · cases made
      exact ⟨rfl, (Grid.scrollback_of_size rfl).trans (List.rtake_nil limit).symm⟩

/-- Scrolling and the history, in every grid there is. An up- or a down-scroll of any region ends, with
every row that stays in the region moved by the count, the others of the region blank and nothing
else changed but, by what is pushed, the history. The history is the last rows pushed since it was
cleared, in the columns the screen has now. A call that neither clears it nor scrolls up a region at
the top of the active main screen leaves it as it is, and so does a resize that drops no row of an
active main screen, but for the columns. -/
theorem scrolling {memory : Bool} {cols rows limit : Nat} {g₀ : Grid} {events : List Emulator.Event}
    {t : Emulator} (made : Grid.create memory cols rows limit = .ok g₀)
    (run : Run Emulator.step Anywhere (.start g₀) events t) :
    (∀ top bot n push fuel, top ≤ bot → bot < t.grid.rows → maxRows < fuel →
      (∃ lines,
        (t.grid.setMargins top bot).scrollRegionUpLoops fuel n push =
            some (((t.grid.setMargins top bot).pushRegion (min n (bot + 1 - top)) push).setActiveLines
              lines) ∧
          Grid.MovedUp top bot n t.grid.blankLine t.grid.activeLines lines) ∧
      ∃ lines,
        (t.grid.setMargins top bot).scrollRegionDownLoops fuel n =
            some ((t.grid.setMargins top bot).setActiveLines lines) ∧
          Grid.MovedDown top bot n t.grid.blankLine t.grid.activeLines lines) ∧
    t.grid.LastPushed limit (Emulator.log Grid.refitLine (.start g₀) [] events) ∧
    (∀ call : Call, call.clears t.grid = false → (∀ s ∈ call.upScrolls t.grid, ¬s.Saves) →
      (call.apply t.grid).ring = t.grid.ring) ∧
    ∀ screens ring newCols newRows,
      t.grid.isAltScreen = true ∨ t.grid.rows ≤ (clampScreenSize newCols newRows).2 →
      (t.grid.resize screens ring newCols newRows).2.scrollback = t.grid.scrollback ∨
        (t.grid.resize screens ring newCols newRows).2.scrollback =
          t.grid.scrollback.map (t.grid.refitLine (clampScreenSize newCols newRows).1) := by
  have kept : Kept (fun _ _ => True) t := .of_reachable anyLine made ⟨events, run⟩
  have hringed := kept.stored.ringed
  refine ⟨fun top bot n push fuel htop hbot hfuel => ?_, ?_, fun call hkeeps hsaves => ?_,
    fun screens ring newCols newRows hkept => ?_⟩
  · have region : (t.grid.setMargins top bot).Region :=
      { top_le := htop, bot_lt := hbot, rows_le := kept.framed.rows_le
        active := kept.stored.active_length }
    refine ⟨?_, ?_⟩
    · obtain ⟨lines, heq, hmoved⟩ := region.scrollRegionUp n push
      exact ⟨lines, (region.scrollRegionUpLoops_eq hfuel n push).trans (congrArg some heq), hmoved⟩
    · obtain ⟨lines, heq, hmoved⟩ := region.scrollRegionDown n
      exact ⟨lines, (region.scrollRegionDownLoops_eq hfuel n).trans (congrArg some heq), hmoved⟩
  · have hlogged := Grid.Logged.run run (.start anyLine made) (Grid.logged_create made)
    exact hlogged.lastPushed hringed
  · exact (Call.saved hkeeps).ring (Grid.pushedBy_eq_nil hsaves)
  · rcases t.grid.resize_cases screens ring newCols newRows with ⟨-, heq⟩ | heq | heq
    · exact .inl (by rw [heq])
    · exact .inl (by rw [heq])
    · obtain ⟨-, hscroll⟩ := hringed.resizeTo kept.stored.main_length
        (clampScreenSize newCols newRows).1 (clampScreenSize newCols newRows).2
      rw [heq]
      refine .inr (hscroll.trans ?_)
      rw [Grid.lostRows_of_le hkept, List.append_nil, Grid.rtake_of_length_le]
      rw [List.length_map, hringed.length_scrollback]
      exact hringed.size_le

/-- Three rows pushed into a history of two: the first is gone. -/
theorem scrolling_full :
    ((Emulator.start (.allocate 1 1 2)).feed [0x61, 0x0A, 0x62, 0x0A, 0x63, 0x0A]).grid.LastPushed 2
      (Emulator.log Grid.refitLine (.start (.allocate 1 1 2)) []
        [.output [0x61, 0x0A, 0x62, 0x0A, 0x63, 0x0A]]) :=
  (scrolling (show Grid.create true 1 1 2 = .ok (.allocate 1 1 2) from rfl)
    (.cons trivial rfl (.nil _))).2.1

/-- A row that was pushed in two columns is in one column once the screen is. -/
theorem scrollback_refitted :
    ¬∀ (memory : Bool) (cols rows limit : Nat) (g₀ : Grid) (events : List Emulator.Event)
      (t : Emulator), Grid.create memory cols rows limit = .ok g₀ →
      Run Emulator.step Anywhere (.start g₀) events t →
      t.grid.LastPushed limit (Emulator.log (fun _ _ line => line) (.start g₀) [] events) := by
  intro claimed
  have hlast := claimed true 2 1 1 (.allocate 2 1 1)
    [.output [0x61, 0x62, 0x0A], .resize true true 1 1] _ rfl
    (.cons trivial rfl (.cons trivial rfl (.nil _)))
  have hline := hlast.2 0 (by decide)
  exact absurd hline (by decide)

end Zet.Terminal
