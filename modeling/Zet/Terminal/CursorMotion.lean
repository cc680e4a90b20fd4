import Zet.Terminal.Frame

/-!
# Relative cursor motion

What `MoveCursorUp` and `MoveCursorDown` do to the row of the cursor, in every grid an emulator comes
to. Going down is always monotone. Going up is, unless the cursor stands above the region under
origin mode: there the difference to the limit is negative, its narrowing wraps, and the cursor lands
on the top margin below it.
-/

namespace Zet.Terminal
open Zet.Core Zet.Lib

/-- A difference that survives being narrowed to sixteen bits. -/
def Exact (difference : Int) : Prop := (u16 difference : Int) = difference

/-- `MoveCursorUp`, alone and in `CursorPrevLine`, as it should be. -/
structure GoesUp (g : Grid) (n : Nat) : Prop where
  row : (g.moveCursorUp n).cursorRow ≤ g.cursorRow
  previous : (g.cursorPrevLine n).cursorRow ≤ g.cursorRow
  margin : g.scrollTop ≤ g.cursorRow → g.scrollTop ≤ (g.moveCursorUp n).cursorRow
  limit : (n : Int) > (g.cursorRow : Int) - g.upLimit → Exact (g.cursorRow - g.upLimit)
  steps : Exact (g.cursorRow - g.upSteps n)

/-- `MoveCursorDown`, alone and in `CursorNextLine`, as it should be. -/
structure GoesDown (g : Grid) (n : Nat) : Prop where
  row : g.cursorRow ≤ (g.moveCursorDown n).cursorRow
  next : g.cursorRow ≤ (g.cursorNextLine n).cursorRow
  margin : g.cursorRow ≤ g.scrollBot → (g.moveCursorDown n).cursorRow ≤ g.scrollBot
  limit : g.cursorRow + n > g.downLimit → Exact (g.downLimit - g.cursorRow)
  steps : Exact (g.cursorRow + g.downSteps n)

/-- The cursor is above the region it is confined to. -/
def AboveOrigin (g : Grid) : Prop := g.modeSet .decom = true ∧ g.cursorRow < g.scrollTop

variable {c r : Nat} {g : Grid}

/-- A difference that fits 16 bits is exact in them. -/
lemma Exact.of_range {difference : Int} (low : 0 ≤ difference) (high : difference < 65536) :
    Exact difference := by
  unfold Exact u16
  omega

/-- The limit is on the right side of the cursor, except above the region under origin mode. -/
lemma upLimit_le_cursor (h : ¬AboveOrigin g) : g.upLimit ≤ g.cursorRow := by
  unfold AboveOrigin at h
  unfold Grid.upLimit u16
  split
  · next hin => exact hin.1
  · split
    · omega
    · next hout hbelow =>
      split
      · next hdecom =>
        have htop : g.scrollTop ≤ g.cursorRow := Nat.le_of_not_lt fun hlt => h ⟨hdecom, hlt⟩
        exact absurd ⟨htop, Nat.le_of_not_lt hbelow⟩ hout
      · exact Nat.zero_le _

/-- Above the region the upward limit is its top. -/
lemma upLimit_above (htop : g.scrollTop ≤ g.scrollBot) (h : AboveOrigin g) :
    g.upLimit = g.scrollTop := by
  obtain ⟨hdecom, hlt⟩ := h
  unfold Grid.upLimit
  rw [if_neg (by omega), if_neg (by omega), if_pos hdecom]

/-- Outside of that the cursor goes up as far as it is asked to, or to its limit. -/
lemma goesUp (h : g.Framed c r) (hin : ¬AboveOrigin g) (n : Nat) : GoesUp g n := by
  have hrow := Grid.moveCursorUp_row h n
  have hlimit := upLimit_le_cursor hin
  have hcursor : g.cursorRow < g.rows := h.row_lt
  have hrows : g.rows ≤ 1024 := h.rows_le
  refine ⟨by omega, ?_, fun htop => ?_, fun _ => Exact.of_range (by omega) (by omega), ?_⟩
  · change (g.moveCursorUp n).cursorRow ≤ g.cursorRow
    omega
  · have hmargin : g.scrollTop ≤ g.upLimit := by
      have hregion : g.scrollTop ≤ g.scrollBot := h.top_le
      have hbot : g.scrollBot < g.rows := h.bot_lt
      unfold Grid.upLimit u16
      split
      · exact Nat.le_refl _
      · rw [if_pos (by omega)]
        omega
    omega
  · unfold Grid.upSteps u16
    refine Exact.of_range ?_ ?_ <;> split <;> omega

/-- Downward it always does. -/
lemma goesDown (h : g.Framed c r) (n : Nat) : GoesDown g n := by
  have hrow := Grid.moveCursorDown_row h n
  obtain ⟨hlimit, -, hcursor⟩ := Grid.downLimit_le h
  have hrows : g.rows ≤ 1024 := h.rows_le
  refine ⟨by omega, ?_, fun hin => ?_, fun _ => Exact.of_range (by omega) (by omega), ?_⟩
  · change g.cursorRow ≤ (g.moveCursorDown n).cursorRow
    omega
  · have hmargin : g.downLimit = g.scrollBot := if_pos hin
    omega
  · unfold Grid.downSteps u16
    refine Exact.of_range ?_ ?_ <;> split <;> omega

/-- In every grid there is, relative motion is monotone precisely where the cursor does not stand
above the region under origin mode. -/
theorem motion_monotone {memory : Bool} {cols rows scrollbackLimit : Nat} {g₀ : Grid}
    {t : Emulator} (made : Grid.create memory cols rows scrollbackLimit = .ok g₀)
    (reach : Reachable Emulator.step Anywhere (.start g₀) t) (n : Nat) :
    (GoesUp t.grid n ∧ GoesDown t.grid n) ↔ ¬AboveOrigin t.grid := by
  obtain ⟨_, _, framed⟩ : t.Sized :=
    reach.inv Emulator.Sized (fun _ _ _ h _ hstep => h.step hstep) ⟨_, _, Grid.Framed.create made⟩
  constructor
  · rintro ⟨hup, -⟩ habove
    have hrow := Grid.moveCursorUp_row framed n
    have hlimit := upLimit_above framed.top_le habove
    have hle := hup.row
    have hlt := habove.2
    omega
  · intro hin
    exact ⟨goesUp framed hin n, goesDown framed n⟩

/-- A cursor saved on the first row under origin mode, a smaller region, and the cursor restored. -/
def restoredAbove : Bytes := asciiBytes "\x1b[?6h\x1b7\x1b[3;5r\x1b8"

/-- Up by one row from there lands two rows below. -/
theorem motion_wraps :
    ∃ (g₀ : Grid) (t : Emulator), Grid.create true 4 6 0 = .ok g₀ ∧
      Reachable Emulator.step Anywhere (.start g₀) t ∧
      t.grid.cursorRow = 0 ∧ (t.grid.moveCursorUp 1).cursorRow = 2 ∧ ¬GoesUp t.grid 1 := by
  have hrow : ((Emulator.start (.allocate 4 6 0)).feed restoredAbove).grid.cursorRow = 0 ∧
      (((Emulator.start (.allocate 4 6 0)).feed restoredAbove).grid.moveCursorUp 1).cursorRow = 2 := by
    decide +kernel
  refine ⟨.allocate 4 6 0, _, rfl, ⟨[.output restoredAbove], Run.of_exec rfl⟩, hrow.1, hrow.2,
    fun hup => ?_⟩
  have hle := hup.row
  rw [hrow.1, hrow.2] at hle
  exact absurd hle (by decide)

/-- A cursor in the middle of a fresh screen. -/
theorem motion_monotone_sample :
    ∃ t : Emulator, t.grid.cursorRow = 3 ∧ GoesUp t.grid 2 ∧ GoesDown t.grid 2 := by
  have hrow : ((Emulator.start (.allocate 4 6 0)).feed (asciiBytes "\n\n\n")).grid.cursorRow = 3 ∧
      ((Emulator.start (.allocate 4 6 0)).feed (asciiBytes "\n\n\n")).grid.scrollTop = 0 := by
    decide +kernel
  have made : Grid.create true 4 6 0 = .ok (.allocate 4 6 0) := rfl
  have hmotion := motion_monotone made
    ⟨[.output (asciiBytes "\n\n\n")], Run.of_exec rfl⟩ 2
  refine ⟨_, hrow.1, hmotion.mpr fun habove => ?_⟩
  have hlt := habove.2
  omega

end Zet.Terminal
