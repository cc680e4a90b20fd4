import Mathlib.Data.List.Chain
import Mathlib.Data.List.DropRight
import Zet.Terminal.CleanCells
import Zet.Terminal.EncodedSize
import Zet.Terminal.WidePairs

/-!
# What a snapshot shows

The text of an encoding, and what of the grid each part of it shows. `Shows`, `Scrolls` and `Paints`
relate text to the cells of a line, the lines of the history and the rows of a screen; `Picture` is an
encoding taken apart into such texts. On a grid whose wide characters are whole, `EncodeAll` writes one
(`encodeAll_picture`).
-/

namespace Zet.Terminal.Snapshot
open Zet.Core Zet.Lib

/-- The cells of a line that are shown: the heads, up to the last cell that is not blank. -/
def shownCells (line : Line) : List Cell :=
  (line.rdropWhile isBlankCell).filter fun c => c.width ≠ 0

/-- The rows of a screen that are painted: from `top` up to `stop`, those with anything on them. -/
def paintedRows (lines : List Line) (top stop : Nat) : List Nat :=
  (List.range' top (stop - top)).filter fun row => !(lines.getD row []).all isBlankCell

/-- The lines of the history that an encoding shows, oldest first. -/
def shownHistory (g : Grid) (ep : EncodeParams) : List Line :=
  (g.scrollback.drop ep.histStart).take ep.histCount

section
variable (mode : ColorMode)

/-- Text that shows cells, each in its own pen as the mode has it: the pen in front of the text, and the
pen that it leaves. -/
inductive Shows : Pen → List Cell → Bytes → Pen → Prop
  | nil (p : Pen) : Shows p [] [] p
  | cons {p q : Pen} {c : Cell} {cells : List Cell} {text : Bytes}
    (rest : Shows (normalizeCell mode c.pen) cells text q) :
    Shows p (c :: cells) (emitSgr p (normalizeCell mode c.pen) ++ writeUtf8 (shownCp c) ++ text) q

/-- Text that shows lines, each ended by a line break; a pen that is not plain is reset in front of it. -/
inductive Scrolls : Pen → List Line → Bytes → Prop
  | nil (p : Pen) : Scrolls p [] []
  | plain {p q : Pen} {line : Line} {lines : List Line} {cells text : Bytes}
    (shows : Shows mode p (shownCells line) cells q) (plain : isStyled q = false)
    (rest : Scrolls q lines text) :
    Scrolls p (line :: lines) (cells ++ asciiBytes "\r\n" ++ text)
  | styled {p q : Pen} {line : Line} {lines : List Line} {cells text : Bytes}
    (shows : Shows mode p (shownCells line) cells q) (styled : isStyled q = true)
    (rest : Scrolls {} lines text) :
    Scrolls p (line :: lines) (cells ++ asciiBytes "\x1b[0m\r\n" ++ text)

/-- Text that paints rows of a screen: each row is addressed, or follows a line break behind the row
above it, and shows its cells. The row painted last and the pen come in front. -/
inductive Paints (lines : List Line) : Option Nat → Pen → List Nat → Bytes → Prop
  | nil (last : Option Nat) (p : Pen) : Paints lines last p [] []
  | broken {p q : Pen} {row : Nat} {rows : List Nat} {cells text : Bytes}
    (shows : Shows mode p (shownCells (lines.getD (row + 1) [])) cells q)
    (rest : Paints lines (some (row + 1)) q rows text) :
    Paints lines (some row) p ((row + 1) :: rows) (asciiBytes "\r\n" ++ cells ++ text)
  | placed {last : Option Nat} {p q : Pen} {row : Nat} {rows : List Nat} {cells text : Bytes}
    (shows : Shows mode p (shownCells (lines.getD row [])) cells q)
    (rest : Paints lines (some row) q rows text) :
    Paints lines last p (row :: rows)
      (asciiBytes "\x1b[" ++ writeDecimal (row + 1) ++ asciiBytes ";1H" ++ cells ++ text)

end

/-- An encoding taken apart: the history it scrolls off the screen, the main screen it paints under an
alternate one, and the active screen. -/
structure Picture (g : Grid) (ep : EncodeParams) where
  history : Bytes
  main : Bytes
  screen : Bytes
  scrolls : if 0 < ep.histCount then
      ∃ text, Scrolls ep.color {} (shownHistory g ep) text ∧
        history = text ++ List.replicate (g.rows - 1) 0x0A
    else history = []
  under : if g.isAltScreen then
      ∃ text, Paints ep.color g.main none {} (paintedRows g.main ep.cropTop (g.rows - ep.cropBot)) text ∧
        main = text ++ encodeSlot g ep.color g.savedMain (asciiBytes "\x1b[?1049h") ++
          asciiBytes "\x1b[0m" ++ asciiBytes "\x1b[2J\x1b[H"
    else main = []
  paints : Paints ep.color g.activeLines none {}
    (paintedRows g.activeLines ep.cropTop (g.rows - ep.cropBot)) screen

/-- The whole of it. -/
def Picture.bytes {g : Grid} {ep : EncodeParams} (picture : Picture g ep) : Bytes :=
  preamble ++ picture.history ++ asciiBytes "\x1b[0m" ++ asciiBytes "\x1b[2J\x1b[H" ++ picture.main ++
    (asciiBytes "\x1b[?2026h" ++ picture.screen ++ encodeModeRestore g ep.color)

/-- What a row starts with places it. -/
lemma Paints.row {mode : ColorMode} {lines : List Line} {last : Option Nat} {p q : Pen} {row : Nat}
    {rows : List Nat} {cells text : Bytes}
    (shows : Shows mode p (shownCells (lines.getD row [])) cells q)
    (rest : Paints mode lines (some row) q rows text) :
    Paints mode lines last p (row :: rows) (rowStart last row ++ cells ++ text) := by
  unfold rowStart
  split
  · next hbelow =>
    obtain ⟨above, rfl, rfl⟩ := Option.map_eq_some_iff.mp hbelow
    exact .broken shows rest
  · exact .placed shows rest

end Zet.Terminal.Snapshot
