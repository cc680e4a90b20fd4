import Zet.Terminal.Decoder

/-!
# What every terminal keeps

A parser and its grid, over every run: the frame of the grid is sound, and a property of lines that
single lines keep, whatever is printed and whatever the width becomes, holds of every line it stores.
-/

namespace Zet.Terminal
open Zet.Core Zet.Lib

/-- What `RepeatChar` repeats: nothing yet, or a character that was printed. -/
def Repeated (cp width : Nat) : Prop := cp = 0 ∨ Printed cp width

/-- What every terminal has: `L` for the lines of every screen width. -/
structure Kept (L : Nat → Line → Prop) (t : Emulator) : Prop where
  parser : t.parser.Sound
  framed : t.grid.Framed t.grid.cols t.grid.rows
  stored : Stored Repeated (L t.grid.cols) t.grid

/-- What keeps `L`, for the lines of every screen width. -/
structure ScreenLaws (L : Nat → Line → Prop) : Prop where
  lines : ∀ c, LineLaws c Printed (L c)
  fits : ∀ c c', FitLaws c c' (L c) (L c')

namespace Kept

variable {L : Nat → Line → Prop} {t t' : Emulator}

/-- A sound parser, a framed grid and good lines are all that is kept. -/
lemma of_framed {c r : Nat} (parser : t.parser.Sound) (framed : t.grid.Framed c r)
    (stored : Stored Repeated (L c) t.grid) : Kept L t := by
  obtain rfl : t.grid.cols = c := framed.cols_eq
  obtain rfl : t.grid.rows = r := framed.rows_eq
  exact { parser := parser, framed := framed, stored := stored }

/-- A fresh parser on a grid that was just made. -/
lemma start (laws : ScreenLaws L) {memory : Bool} {cols rows scrollbackLimit : Nat} {g : Grid}
    (made : Grid.create memory cols rows scrollbackLimit = .ok g) : Kept L (.start g) where
  parser := .fresh
  framed := .create made
  stored := .create made ((laws.lines g.cols).blank {}) (.inl rfl)

/-- Any calls a parser makes keep the frame and the lines. -/
lemma calls (laws : ScreenLaws L) {c r : Nat} {calls : List Call} {g : Grid}
    (hcalls : ∀ call ∈ calls, Stored.Admits Printed call) (framed : g.Framed c r)
    (stored : Stored Repeated (L c) g) :
    (calls.foldl Call.apply g).Framed c r ∧ Stored Repeated (L c) (calls.foldl Call.apply g) := by
  induction calls generalizing g with
  | nil => exact ⟨framed, stored⟩
  | cons call calls ih =>
    have hcall := hcalls call (List.mem_cons_self ..)
    exact ih (fun call' hmem => hcalls call' (List.mem_cons_of_mem _ hmem)) (framed.apply call)
      (stored.apply (laws.lines c) framed call hcall)

/-- A byte of output. -/
lemma feedByte (laws : ScreenLaws L) (h : Kept L t) (raw : UInt8) : Kept L (t.feedByte raw) := by
  have hadmits : ∀ call ∈ (t.parser.feedByte t.grid.rows raw).2, Stored.Admits Printed call :=
    fun _ hmem => h.parser.admits hmem
  have hcalls := calls laws hadmits h.framed h.stored
  exact of_framed h.parser.feedByte hcalls.1 hcalls.2

/-- A chunk of output. -/
lemma feed (laws : ScreenLaws L) (h : Kept L t) (bytes : Bytes) : Kept L (t.feed bytes) := by
  unfold Emulator.feed
  induction bytes generalizing t with
  | nil => exact h
  | cons raw bytes ih => exact ih (h.feedByte laws raw)

/-- A resize keeps a terminal. -/
lemma resize (laws : ScreenLaws L) (h : Kept L t) (screens ring : Bool) (cols rows : Nat) :
    Kept L ⟨t.parser, (t.grid.resize screens ring cols rows).2⟩ := by
  obtain ⟨hcols, hcols', hrows, hrows'⟩ := clampScreenSize_bounds cols rows
  unfold Grid.resize
  dsimp only
  split
  · exact { parser := h.parser, framed := h.framed, stored := h.stored }
  split
  · exact { parser := h.parser, framed := h.framed, stored := h.stored }
  split
  · exact { parser := h.parser, framed := h.framed, stored := h.stored }
  · have framed := (h.framed.of_frame (Grid.frame_trimFor (clampScreenSize cols rows).1
      (clampScreenSize cols rows).2)).rebuild hcols hcols' hrows hrows'
    exact of_framed h.parser framed (h.stored.resizeTo (laws.fits _ _) rfl _)

/-- Every event. -/
theorem step (laws : ScreenLaws L) (h : Kept L t) {e : Emulator.Event} (hstep : t.step e = some t') :
    Kept L t' := by
  cases e with
  | output bytes =>
    cases hstep
    exact h.feed laws bytes
  | resize screens ring cols rows =>
    cases hstep
    exact h.resize laws screens ring cols rows
  | forceGround =>
    cases hstep
    exact { parser := h.parser.reset, framed := h.framed, stored := { h.stored with } }

/-- Every terminal that a fresh one can become. -/
theorem of_reachable (laws : ScreenLaws L) {memory : Bool} {cols rows scrollbackLimit : Nat}
    {g₀ : Grid} (made : Grid.create memory cols rows scrollbackLimit = .ok g₀)
    (reach : Reachable Emulator.step Anywhere (.start g₀) t) : Kept L t :=
  reach.inv (Kept L) (fun _ _ _ h _ hstep => h.step laws hstep) (start laws made)

end Kept

end Zet.Terminal
