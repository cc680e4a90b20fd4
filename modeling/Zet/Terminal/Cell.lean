import Mathlib.Logic.Function.Basic
import Mathlib.Tactic.Common
import Zet.Core.Bytes

/-!
# Cells, pens and modes

What the terminal grid is made of (`src/grid/cell.hpp`, `limits.hpp` and the records of `grid.hpp`).
The eight attribute flags of a byte are eight fields; a colour is its kind and its three bytes; the
pen is what a printed cell takes its appearance from, and it is the same record in a cell, in a saved
cursor, in the grid and in the serializer.
-/

namespace Zet.Terminal

/-- `MAX_COLS`. -/
def maxCols : Nat := 4096
/-- `MAX_ROWS`. -/
def maxRows : Nat := 1024
/-- `MAX_SCREEN_CELLS`. -/
def maxScreenCells : Nat := 2 ^ 20
/-- `MAX_PARAM_BYTES`. -/
def maxParamBytes : Nat := 256
/-- `MAX_PARAMS`. -/
def maxParams : Nat := 16
/-- `MAX_INTERMEDIATES`. -/
def maxIntermediates : Nat := 2
/-- `BYPASS_LIMIT_BYTES`. -/
def bypassLimitBytes : Nat := 1024 * 1024
/-- `DEFAULT_TAB_INTERVAL`. -/
def defaultTabInterval : Nat := 8
/-- `MAX_SCROLLBACK_BYTES`. -/
def maxScrollbackBytes : Nat := 128 * 1024 * 1024
/-- `sizeof(Cell)`. -/
def cellSize : Nat := 16

/-- `static_cast<std::uint16_t>` of an `int`. -/
def u16 (n : Int) : Nat := (n % 65536).toNat

/-- `EAttr`, flag by flag. -/
structure Attrs where
  bold : Bool := false
  dim : Bool := false
  italic : Bool := false
  underline : Bool := false
  blink : Bool := false
  inverse : Bool := false
  invisible : Bool := false
  strikeThrough : Bool := false
deriving DecidableEq, Repr

/-- `EColorKind`. -/
inductive ColorKind where
  | default
  | indexed
  | trueColor
deriving DecidableEq, Repr

/-- A colour field: its kind and its three bytes. -/
structure Color where
  kind : ColorKind := .default
  c₀ : UInt8 := 0
  c₁ : UInt8 := 0
  c₂ : UInt8 := 0
deriving DecidableEq, Repr

/-- A palette index; the other bytes are cleared. -/
def Color.ofIndex (idx : UInt8) : Color := ⟨.indexed, idx, 0, 0⟩

/-- The attributes a cell is printed with. -/
structure Pen where
  attrs : Attrs := {}
  fg : Color := {}
  bg : Color := {}
  /-- The underline style. -/
  attrEx : UInt8 := 0
  /-- The underline colour, a palette index. -/
  ulIdx : UInt8 := 0
deriving DecidableEq, Repr

/-- `Cell`. -/
structure Cell where
  codepoint : Nat := 0
  width : Nat := 1
  pen : Pen := {}
deriving DecidableEq, Repr

/-- `Line`: the cells of a row. -/
abbrev Line := List Cell

/-- `Line::Cells[col]`. -/
def Line.at (line : Line) (col : Nat) : Cell := line.getD col {}

/-- `EMode`. -/
inductive Mode where
  | awm
  | irm
  | lnm
  | decom
  | dectcem
  | decckm
  | altScreen
  | mouse1000
  | mouse1002
  | mouse1003
  | mouse1005
  | mouse1006
  | mouse1015
  | bracketedPaste
  | focusEvents
  | syncOutput
deriving DecidableEq, Repr

/-- `Modes_`, flag by flag. -/
abbrev Modes := Mode → Bool

/-- The modes of a fresh grid. -/
def defaultModes : Modes
  | .awm | .dectcem => true
  | _ => false

/-- `SavedCursor`. -/
structure SavedCursor where
  row : Nat := 0
  col : Nat := 0
  pen : Pen := {}
  /-- DECOM at the time of the save. -/
  decom : Bool := false
  pendingWrap : Bool := false
  charsetG0 : Nat := 0
  charsetG1 : Nat := 0
  charsetActive : Nat := 0
deriving DecidableEq, Repr

/-- `EGridError`, as far as the grid itself reports it. -/
inductive GridError where
  | allocationFailed
  | scrollbackTooLarge
  | snapshotTooLarge
deriving DecidableEq, Repr

/-- `ClampScreenSize`, columns and rows. -/
def clampScreenSize (cols rows : Nat) : Nat × Nat :=
  let cols := if cols = 0 then 1 else cols
  let rows := if rows = 0 then 1 else rows
  let cols := if cols > maxCols then maxCols else cols
  let limit := min maxRows (maxScreenCells / cols)
  (cols, if rows > limit then limit else rows)

/-- The default tab stops, every eight columns of the first `cols`. -/
def defaultTabStops (cols : Nat) (col : Nat) : Bool :=
  decide (col < cols ∧ col % defaultTabInterval = 0)

/-- Whatever is asked for, a screen has a size the grid can hold. -/
lemma clampScreenSize_bounds (cols rows : Nat) :
    0 < (clampScreenSize cols rows).1 ∧ (clampScreenSize cols rows).1 ≤ maxCols ∧
      0 < (clampScreenSize cols rows).2 ∧ (clampScreenSize cols rows).2 ≤ maxRows := by
  have hcols : 0 < (clampScreenSize cols rows).1 ∧ (clampScreenSize cols rows).1 ≤ maxCols := by
    simp only [clampScreenSize, maxCols]
    split <;> split <;> omega
  have hfits : 0 < min maxRows (maxScreenCells / (clampScreenSize cols rows).1) := by
    refine Nat.lt_min.mpr ⟨by decide, Nat.div_pos ?_ hcols.1⟩
    exact hcols.2.trans (by decide)
  refine ⟨hcols.1, hcols.2, ?_⟩
  have heq : (clampScreenSize cols rows).2 =
      min (if rows = 0 then 1 else rows)
        (min maxRows (maxScreenCells / (clampScreenSize cols rows).1)) := by
    simp only [clampScreenSize]
    generalize min maxRows _ = limit
    generalize (if rows = 0 then 1 else rows) = asked
    split <;> omega
  rw [heq]
  refine ⟨Nat.lt_min.mpr ⟨?_, hfits⟩, (Nat.min_le_right ..).trans (Nat.min_le_left ..)⟩
  split <;> omega

end Zet.Terminal
