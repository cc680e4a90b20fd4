import Zet.Lib.BinarySearch
import Zet.Terminal.Unicode
import Zet.Terminal.VtParser

/-!
# The snapshot serializer

`src/grid/snapshot.cpp`: the bytes that reproduce a grid on a fresh terminal of the same size. What an
encoder writes is a list of bytes, and it hands on the pen that the text so far leaves behind; the
writer that counts these bytes or stores them comes last, with the ladder of `Snapshot::Create`.
-/

namespace Zet.Terminal.Snapshot
open Zet.Core Zet.Lib

/-- `SNAPSHOT_MAX_BYTES`. -/
def snapshotMaxBytes : Nat := 4 * 1024 * 1024

/-- `ESC`. -/
def esc : UInt8 := 0x1B

/-- The loop of `WriteDecimal`: the digits of `n` in front of `tail`. -/
def decimalLoop : (fuel n : Nat) → (tail : Bytes) → Bytes
  | 0, _, tail => tail
  | fuel + 1, n, tail =>
    if n > 0 then decimalLoop fuel (n / 10) (UInt8.ofNat (0x30 + n % 10) :: tail) else tail

/-- `WriteDecimal`; a number of 32 bits has ten digits at most. -/
def writeDecimal (n : Nat) : Bytes := if n = 0 then [0x30] else decimalLoop 10 n []

/-- `WriteUtf8`. -/
def writeUtf8 (cp : Nat) : Bytes :=
  if cp < 0x80 then [UInt8.ofNat cp]
  else if cp < 0x800 then
    [(0xC0 : UInt8) ||| UInt8.ofNat (cp >>> 6), (0x80 : UInt8) ||| UInt8.ofNat (cp &&& 0x3F)]
  else if cp < 0x10000 then
    [(0xE0 : UInt8) ||| UInt8.ofNat (cp >>> 12), (0x80 : UInt8) ||| UInt8.ofNat ((cp >>> 6) &&& 0x3F),
      (0x80 : UInt8) ||| UInt8.ofNat (cp &&& 0x3F)]
  else
    [(0xF0 : UInt8) ||| UInt8.ofNat (cp >>> 18), (0x80 : UInt8) ||| UInt8.ofNat ((cp >>> 12) &&& 0x3F),
      (0x80 : UInt8) ||| UInt8.ofNat ((cp >>> 6) &&& 0x3F), (0x80 : UInt8) ||| UInt8.ofNat (cp &&& 0x3F)]

/-- `EColorMode`. -/
inductive ColorMode where
  | full
  | indexed256
  | none
deriving DecidableEq, Repr

/-- `CUBE_STEPS`. -/
def cubeSteps : List Int := [0, 95, 135, 175, 215, 255]

/-- `cubeIdx`: the nearest step, the lowest of equally near ones. -/
def cubeIdx (v : Int) : Nat :=
  ((List.range 6).foldl (fun (best : Nat × Int) i =>
    let d := v - cubeSteps.getD i 0
    if d * d < best.2 then (i, d * d) else best) (0, 255 * 255 + 1)).1

/-- `TrueColorTo256`. -/
def trueColorTo256 (r g b : UInt8) : UInt8 :=
  let r : Int := r.toNat
  let g : Int := g.toNat
  let b : Int := b.toNat
  let cr := cubeSteps.getD (cubeIdx r) 0
  let cg := cubeSteps.getD (cubeIdx g) 0
  let cb := cubeSteps.getD (cubeIdx b) 0
  let cubeColor := UInt8.ofNat (16 + 36 * cubeIdx r + 6 * cubeIdx g + cubeIdx b)
  let cubeDist := (cr - r) * (cr - r) + (cg - g) * (cg - g) + (cb - b) * (cb - b)
  let gray := (r + g + b).tdiv 3
  let grayIdxRaw := (gray - 8 + 5).tdiv 10
  let grayIdx := if grayIdxRaw < 0 then 0 else if grayIdxRaw > 23 then 23 else grayIdxRaw
  let grayVal := 8 + 10 * grayIdx
  let grayColor := UInt8.ofNat (232 + grayIdx.toNat)
  let grayDist :=
    (grayVal - r) * (grayVal - r) + (grayVal - g) * (grayVal - g) + (grayVal - b) * (grayVal - b)
  if grayDist < cubeDist then grayColor else cubeColor

/-- A true colour as a palette index. -/
def reduceColor (color : Color) : Color :=
  if color.kind = .trueColor then .ofIndex (trueColorTo256 color.c₀ color.c₁ color.c₂) else color

/-- `NormalizeCell`, on the pen of a cell. -/
def normalizeCell (mode : ColorMode) (pen : Pen) : Pen :=
  match mode with
  | .full => pen
  | .indexed256 => { pen with fg := reduceColor pen.fg, bg := reduceColor pen.bg }
  | .none => { pen with fg := {}, bg := {} }

/-- `SanitizeCp`: a blank is a space, what must not appear raw is `?`. -/
def sanitizeCp (cp : Nat) : Nat :=
  if cp = 0 then 0x20
  else if cp < 0x20 then 0x3F
  else if cp = 0x7F then 0x3F
  else if 0x80 ≤ cp ∧ cp ≤ 0x9F then 0x3F
  else if 0xD800 ≤ cp ∧ cp ≤ 0xDFFF then 0x3F
  else if cp > 0x10FFFF then 0x3F
  else cp

/-- `IsBlankCell`. -/
def isBlankCell (c : Cell) : Bool :=
  (c.codepoint = 0 || c.codepoint = 0x20) && c.pen.attrs = {} && c.pen.attrEx = 0 && c.pen.ulIdx = 0 &&
    c.pen.fg.kind = .default && c.pen.bg.kind = .default

/-- The code point a cell is written as: a wide character in a narrow cell has lost its second
half. -/
def shownCp (c : Cell) : Nat :=
  let cp := sanitizeCp c.codepoint
  if c.width = 1 ∧ cp ≠ 0x20 ∧ cp ≠ 0x3F ∧ wcwidth cp = 2 then 0xFFFD else cp

/-- The text of a flag, where it is set. -/
def flag (set : Bool) (literal : String) : Bytes := if set then asciiBytes literal else []

/-- The underline of the first sequence; a style beyond the plain one is a sub-parameter. -/
def underlineText (c : Pen) : Bytes :=
  if c.attrs.underline then
    if c.attrEx > 1 then asciiBytes ";4:" ++ writeDecimal c.attrEx.toNat else asciiBytes ";4"
  else []

/-- The foreground of the first sequence. -/
def foregroundText (color : Color) : Bytes :=
  match color.kind with
  | .indexed =>
    let idx := color.c₀.toNat
    if idx < 8 then asciiBytes ";" ++ writeDecimal (30 + idx)
    else if idx < 16 then asciiBytes ";" ++ writeDecimal (90 + (idx - 8))
    else asciiBytes ";38;5;" ++ writeDecimal idx
  | .trueColor =>
    asciiBytes ";38;2;" ++ writeDecimal color.c₀.toNat ++ asciiBytes ";" ++
      writeDecimal color.c₁.toNat ++ asciiBytes ";" ++ writeDecimal color.c₂.toNat
  | .default => []

/-- The parameters of the first sequence: a reset, the flags and the foreground. -/
def firstParams (c : Pen) : Bytes :=
  asciiBytes "0" ++ flag c.attrs.bold ";1" ++ flag c.attrs.dim ";2" ++ flag c.attrs.italic ";3" ++
    underlineText c ++ flag c.attrs.blink ";5" ++ flag c.attrs.inverse ";7" ++
    flag c.attrs.invisible ";8" ++ flag c.attrs.strikeThrough ";9" ++ foregroundText c.fg

/-- The background of the second sequence. -/
def backgroundText (color : Color) : Bytes :=
  match color.kind with
  | .indexed =>
    let idx := color.c₀.toNat
    if idx < 8 then writeDecimal (40 + idx)
    else if idx < 16 then writeDecimal (100 + (idx - 8))
    else asciiBytes "48;5;" ++ writeDecimal idx
  | .trueColor =>
    asciiBytes "48;2;" ++ writeDecimal color.c₀.toNat ++ asciiBytes ";" ++
      writeDecimal color.c₁.toNat ++ asciiBytes ";" ++ writeDecimal color.c₂.toNat
  | .default => []

/-- The parameters of the second sequence: the background and the underline colour, with `sep2`
between the two. -/
def secondParams (c : Pen) : Bytes :=
  let sep2 := if c.bg.kind ≠ .default then asciiBytes ";" else []
  backgroundText c.bg ++ (if c.ulIdx ≠ 0 then sep2 ++ asciiBytes "58;5;" ++ writeDecimal c.ulIdx.toNat else [])

/-- `EmitSgr`: what turns the pen into that of the cell. Afterwards the pen is the cell's. -/
def emitSgr (pen c : Pen) : Bytes :=
  if pen = c then []
  else
    asciiBytes "\x1b[" ++ firstParams c ++ asciiBytes "m" ++
      if c.bg.kind ≠ .default ∨ c.ulIdx ≠ 0 then
        asciiBytes "\x1b[" ++ secondParams c ++ asciiBytes "m"
      else []

/-- `EmitPrivateMode`. -/
def emitPrivateMode (ps : Nat) (on : Bool) : Bytes :=
  asciiBytes "\x1b[?" ++ writeDecimal ps ++ asciiBytes (if on then "h" else "l")

/-- `EmitAnsiMode`. -/
def emitAnsiMode (ps : Nat) (on : Bool) : Bytes :=
  asciiBytes "\x1b[" ++ writeDecimal ps ++ asciiBytes (if on then "h" else "l")

/-- How many cells of a line are written: a tail of blank ones is left out. -/
def usedCells (line : Line) : Nat := (line.reverse.dropWhile isBlankCell).length

/-- The loop over the cells of a line. A second half is skipped, and so is whatever follows a wide
cell. -/
def encodeCells (mode : ColorMode) : (cells : List Cell) → (skip : Bool) → Pen → Bytes × Pen
  | [], _, pen => ([], pen)
  | _ :: cells, true, pen => encodeCells mode cells false pen
  | c :: cells, false, pen =>
    if c.width = 0 then encodeCells mode cells false pen
    else
      let cellPen := normalizeCell mode c.pen
      let rest := encodeCells mode cells (2 ≤ c.width) cellPen
      (emitSgr pen cellPen ++ writeUtf8 (shownCp c) ++ rest.1, rest.2)

/-- Whether the pen must be reset at the end of a history line. -/
def isStyled (pen : Pen) : Bool :=
  pen.attrs ≠ {} || pen.fg.kind ≠ .default || pen.bg.kind ≠ .default || pen.attrEx ≠ 0 || pen.ulIdx ≠ 0

/-- A turn of the loop of `EncodeHistory`. -/
def encodeHistoryLine (mode : ColorMode) (line : Line) (pen : Pen) : Bytes × Pen :=
  let cells := encodeCells mode (line.take (usedCells line)) false pen
  if isStyled cells.2 then (cells.1 ++ asciiBytes "\x1b[0m" ++ asciiBytes "\r\n", {})
  else (cells.1 ++ asciiBytes "\r\n", cells.2)

/-- `EncodeHistory`, of the lines given. -/
def encodeHistory (mode : ColorMode) : List Line → Pen → Bytes × Pen
  | [], pen => ([], pen)
  | line :: lines, pen =>
    let first := encodeHistoryLine mode line pen
    let rest := encodeHistory mode lines first.2
    (first.1 ++ rest.1, rest.2)

/-- What goes in front of a row: a line break behind the row above, else an absolute position. -/
def rowStart (lastRow : Option Nat) (row : Nat) : Bytes :=
  if lastRow.map (· + 1) = some row then asciiBytes "\r\n"
  else asciiBytes "\x1b[" ++ writeDecimal (row + 1) ++ asciiBytes ";1H"

/-- `EncodeAnyScreen`, of the rows given; `row` is the number of the first. -/
def encodeRows (mode : ColorMode) : List Line → (row : Nat) → (lastRow : Option Nat) → Pen → Bytes × Pen
  | [], _, _, pen => ([], pen)
  | line :: lines, row, lastRow, pen =>
    if usedCells line = 0 then encodeRows mode lines (row + 1) lastRow pen
    else
      let cells := encodeCells mode (line.take (usedCells line)) false pen
      let rest := encodeRows mode lines (row + 1) (some row) cells.2
      (rowStart lastRow row ++ cells.1 ++ rest.1, rest.2)

/-- `EncodeAnyScreen`, of the rows from `firstRow` up to `endRow`. -/
def encodeAnyScreen (mode : ColorMode) (lines : List Line) (firstRow endRow : Nat) (pen : Pen) :
    Bytes × Pen :=
  encodeRows mode ((lines.take endRow).drop firstRow) firstRow none pen

/-- An absolute position, counted from 1. -/
def emitCup (row1 col1 : Nat) : Bytes :=
  asciiBytes "\x1b[" ++ writeDecimal row1 ++ asciiBytes ";" ++ writeDecimal col1 ++ asciiBytes "H"

/-- A scroll region, counted from 1. -/
def emitRegion (top1 bot1 : Nat) : Bytes :=
  asciiBytes "\x1b[" ++ writeDecimal top1 ++ asciiBytes ";" ++ writeDecimal bot1 ++ asciiBytes "r"

/-- The designation of both character sets and the shift. -/
def emitCharsets (g0 g1 active : Nat) : Bytes :=
  asciiBytes "\x1b(" ++ asciiBytes (if g0 = 0 then "B" else "0") ++
    asciiBytes "\x1b)" ++ asciiBytes (if g1 = 0 then "B" else "0") ++
    [if active = 1 then 0x0E else 0x0F]

/-- `SlotNeedsState`. -/
def slotNeedsState (sc : SavedCursor) : Bool :=
  sc.decom || sc.charsetG0 ≠ 0 || sc.charsetG1 ≠ 0 || sc.charsetActive ≠ 0

/-- `SlotSetState`. -/
def slotSetState (g : Grid) (sc : SavedCursor) : Bytes :=
  let top := min sc.row g.scrollTop
  let bot := max sc.row g.scrollBot
  emitCharsets sc.charsetG0 sc.charsetG1 sc.charsetActive ++
    (if sc.decom then emitRegion (top + 1) (bot + 1) ++ asciiBytes "\x1b[?6h" else []) ++
    emitCup (if sc.decom then sc.row - top + 1 else sc.row + 1) (sc.col + 1)

/-- `SlotUndoState`. -/
def slotUndoState : Bytes := asciiBytes "\x1b[?6l\x1b[r\x1b(B\x1b)B" ++ [0x0F]

/-- The pen and the position of a saved cursor, `save`, and the state undone again. -/
def encodeSlot (g : Grid) (mode : ColorMode) (sc : SavedCursor) (save : Bytes) : Bytes :=
  asciiBytes "\x1b[0m" ++ emitSgr {} (normalizeCell mode sc.pen) ++
    (if slotNeedsState sc then slotSetState g sc else emitCup (sc.row + 1) (sc.col + 1)) ++ save ++
    (if slotNeedsState sc then slotUndoState else [])

/-- Step 6: the modes. -/
def encodeModes (g : Grid) : Bytes :=
  emitPrivateMode 1 (g.modeSet .decckm) ++ emitPrivateMode 7 (g.modeSet .awm) ++
    emitAnsiMode 4 (g.modeSet .irm) ++ emitAnsiMode 20 (g.modeSet .lnm) ++
    emitPrivateMode 1000 (g.modeSet .mouse1000) ++ emitPrivateMode 1002 (g.modeSet .mouse1002) ++
    emitPrivateMode 1003 (g.modeSet .mouse1003) ++ emitPrivateMode 1005 (g.modeSet .mouse1005) ++
    emitPrivateMode 1006 (g.modeSet .mouse1006) ++ emitPrivateMode 1015 (g.modeSet .mouse1015) ++
    emitPrivateMode 2004 (g.modeSet .bracketedPaste) ++ emitPrivateMode 1004 (g.modeSet .focusEvents)

/-- Step 8: the tab stops. -/
def encodeTabStops (g : Grid) : Bytes :=
  asciiBytes "\x1b[3g" ++
    (List.range g.cols).flatMap fun col =>
      if g.isTabStop col then
        asciiBytes "\x1b[1;" ++ writeDecimal (col + 1) ++ asciiBytes "H" ++ asciiBytes "\x1bH"
      else []

/-- The row of the final position: relative to the region under DECOM, and then in it. -/
def cupRow (g : Grid) : Nat :=
  if g.modeSet .decom then
    let inRegion :=
      if g.cursorRow < g.scrollTop then g.scrollTop
      else if g.cursorRow > g.scrollBot then g.scrollBot
      else g.cursorRow
    inRegion - g.scrollTop + 1
  else g.cursorRow + 1

/-- The column of the final position: a pending wrap on a second half is set up from the head. -/
def emitCol (g : Grid) : Nat :=
  if g.pendingWrap ∧ g.cursorCol + 1 = g.cols ∧ g.cursorCol > 0 ∧
      (g.cellAt g.cursorRow g.cursorCol).width = 0 then
    g.cursorCol - 1
  else g.cursorCol

/-- Step 12: the cell in the last column written once more, which leaves the wrap pending. -/
def encodePendingWrap (g : Grid) (mode : ColorMode) (pen : Pen) : Bytes :=
  if g.pendingWrap ∧ g.cursorCol + 1 = g.cols then
    let awmWasOff := !g.modeSet .awm
    let g0GraphicsActive := g.charsetG0 ≠ 0 ∧ g.charsetActive = 0
    let g1GraphicsActive := g.charsetG1 ≠ 0 ∧ g.charsetActive ≠ 0
    let wc := g.cellAt g.cursorRow (emitCol g)
    let wcPen := normalizeCell mode wc.pen
    (if awmWasOff then emitPrivateMode 7 true else []) ++
      (if g0GraphicsActive then asciiBytes "\x1b(B" else []) ++
      (if g1GraphicsActive then asciiBytes "\x1b)B" ++ [0x0F] else []) ++
      emitSgr pen wcPen ++ writeUtf8 (shownCp wc) ++ emitSgr wcPen (normalizeCell mode g.pen) ++
      (if g0GraphicsActive then asciiBytes "\x1b(0" else []) ++
      (if g1GraphicsActive then asciiBytes "\x1b)0" ++ [0x0E] else []) ++
      (if awmWasOff then emitPrivateMode 7 false else [])
  else []

/-- `EncodeModeRestore`. -/
def encodeModeRestore (g : Grid) (mode : ColorMode) : Bytes :=
  encodeSlot g mode g.activeSaved (asciiBytes "\x1b7") ++
    asciiBytes "\x1b[0m" ++ emitSgr {} (normalizeCell mode g.pen) ++
    emitRegion (g.scrollTop + 1) (g.scrollBot + 1) ++
    encodeModes g ++
    emitCharsets g.charsetG0 g.charsetG1 g.charsetActive ++
    encodeTabStops g ++
    asciiBytes "\x1b[" ++ writeDecimal g.cursorStyle.toNat ++ asciiBytes " q" ++
    emitPrivateMode 6 (g.modeSet .decom) ++
    emitCup (cupRow g) (emitCol g + 1) ++
    encodePendingWrap g mode (normalizeCell mode g.pen) ++
    emitPrivateMode 25 (g.modeSet .dectcem) ++
    asciiBytes "\x1b[?2026l"

/-- `EncodeParams`. -/
structure EncodeParams where
  histStart : Nat := 0
  histCount : Nat := 0
  color : ColorMode := .full
  cropTop : Nat := 0
  cropBot : Nat := 0
deriving DecidableEq, Repr

/-- The preamble. -/
def preamble : Bytes :=
  [0x18] ++ asciiBytes "\x1b\\" ++ asciiBytes "\x1b[!p" ++ asciiBytes "\x1b[?1049l" ++
    asciiBytes "\x1b[2J\x1b[H" ++ asciiBytes "\x1b[?25l"

/-- The history section: the lines, and line feeds that push them off the screen. -/
def encodeHistorySection (g : Grid) (ep : EncodeParams) : Bytes :=
  if ep.histCount > 0 then
    let lines := (List.range ep.histCount).filterMap fun i => g.scrollbackLine (ep.histStart + i)
    (encodeHistory ep.color lines {}).1 ++ List.replicate (g.rows - 1) 0x0A
  else []

/-- The rows that are painted. -/
def endRow (g : Grid) (ep : EncodeParams) : Nat := if g.rows > ep.cropBot then g.rows - ep.cropBot else 0

/-- The main screen and the switch to the alternate one, where that is the active one. -/
def encodeMainScreen (g : Grid) (ep : EncodeParams) : Bytes :=
  if g.isAltScreen then
    (encodeAnyScreen ep.color g.main ep.cropTop (endRow g ep) {}).1 ++
      encodeSlot g ep.color g.savedMain (asciiBytes "\x1b[?1049h") ++
      asciiBytes "\x1b[0m" ++ asciiBytes "\x1b[2J\x1b[H"
  else []

/-- Everything in front of the screen section; its length is the scrollback length. -/
def encodeScrollback (g : Grid) (ep : EncodeParams) : Bytes :=
  preamble ++ encodeHistorySection g ep ++ asciiBytes "\x1b[0m" ++ asciiBytes "\x1b[2J\x1b[H" ++
    encodeMainScreen g ep

/-- The screen section. -/
def encodeScreen (g : Grid) (ep : EncodeParams) : Bytes :=
  asciiBytes "\x1b[?2026h" ++ (encodeAnyScreen ep.color g.activeLines ep.cropTop (endRow g ep) {}).1 ++
    encodeModeRestore g ep.color

/-- `EncodeAll`. -/
def encodeAll (g : Grid) (ep : EncodeParams) : Bytes := encodeScrollback g ep ++ encodeScreen g ep

/-- The newest `n` lines of the history and the whole screen. -/
def newest (g : Grid) (n : Nat) : EncodeParams := { histStart := g.historySize - n, histCount := n }

/-- No history, other colours. -/
def inColors (g : Grid) (mode : ColorMode) : EncodeParams :=
  { histStart := g.historySize, histCount := 0, color := mode }

/-- No history, no colours, and rows left out. -/
def cropped (g : Grid) (top bot : Nat) : EncodeParams :=
  { inColors g .none with cropTop := top, cropBot := bot }

/-- `EscWriter`: it counts, or stores in a buffer of `cap` bytes. -/
structure EscWriter where
  buf : Bytes
  cap : Nat
  pos : Nat
  overflow : Bool
  dryRun : Bool
deriving DecidableEq, Repr

namespace EscWriter

/-- The writer of a dry run. -/
def counting (cap : Nat) : EscWriter := ⟨[], cap, 0, false, true⟩

/-- The writer into a buffer. -/
def storing (cap : Nat) : EscWriter := ⟨[], cap, 0, false, false⟩

/-- `WriteByte`. -/
def writeByte (w : EscWriter) (b : UInt8) : EscWriter :=
  if w.dryRun then { w with pos := w.pos + 1 }
  else if w.pos < w.cap then { w with buf := w.buf ++ [b], pos := w.pos + 1 }
  else { w with overflow := true }

/-- One byte after another. -/
def writeAll (w : EscWriter) (bytes : Bytes) : EscWriter := bytes.foldl writeByte w

/-- `EncodeAll` into the writer, with the length up to the screen section. -/
def encodeAll (w : EscWriter) (g : Grid) (ep : EncodeParams) : EscWriter × Nat :=
  let w := w.writeAll (encodeScrollback g ep)
  (w.writeAll (encodeScreen g ep), w.pos)

end EscWriter

/-- `MeasureEncoding`. -/
def measureEncoding (g : Grid) (ep : EncodeParams) (maxBytes : Nat) : Nat :=
  ((EscWriter.counting maxBytes).encodeAll g ep).1.pos

/-- `EDegradation`. -/
inductive Degradation where
  | none
  | historyTrimmed
  | colors256
  | noColor
  | rowsCropped
deriving DecidableEq, Repr

section
variable (fits : EncodeParams → Bool) (g : Grid)

/-- The choice of a step, if it fits. -/
def choose (ep : EncodeParams) (deg : Degradation) : Option (EncodeParams × Degradation) :=
  if fits ep then some (ep, deg) else Option.none

/-- Step 1: the newest lines of the history. -/
def trimHistory : Option (EncodeParams × Degradation) :=
  if g.historySize > 0 then
    choose fits (newest g (lastTrue (fun mid => fits (newest g mid)) (g.historySize - 1) 0
      (g.historySize - 1))) .historyTrimmed
  else Option.none

/-- Step 4: rows above the cursor, then rows below it. -/
def cropRows : Option (EncodeParams × Degradation) :=
  let curRow := g.cursorRow
  let top := firstTrue (fun mid => fits (cropped g mid 0)) curRow 0 curRow
  (choose fits (cropped g top 0) .rowsCropped).or <|
    if g.rows > curRow + 1 then
      let below := g.rows - curRow - 1
      choose fits (cropped g curRow (firstTrue (fun mid => fits (cropped g curRow mid)) below 1 below))
        .rowsCropped
    else Option.none

/-- The first step that fits. -/
def ladder : Option (EncodeParams × Degradation) :=
  (choose fits (newest g g.historySize) .none).or <|
    (trimHistory fits g).or <|
      (choose fits (inColors g .indexed256) .colors256).or <|
        (choose fits (inColors g .none) .noColor).or <| cropRows fits g

end

/-- `maxBytes`, as `Create` takes it. -/
def effectiveCap (maxBytes : Nat) : Nat :=
  if maxBytes = 0 ∨ maxBytes > snapshotMaxBytes then snapshotMaxBytes else maxBytes

end Zet.Terminal.Snapshot

namespace Zet.Terminal
open Zet.Core Zet.Lib

/-- `Snapshot`. -/
structure Snapshot where
  bytes : Bytes
  scrollbackLen : Nat
  degradation : Snapshot.Degradation
  possiblyDiverged : Bool
  altScreen : Bool
deriving DecidableEq, Repr

/-- `Snapshot::Create`; there is memory for the buffer and for the snapshot, or there is not. -/
def Snapshot.create (buffer snapshot : Bool) (g : Grid) (maxBytes : Nat) : Except GridError Snapshot :=
  let cap := effectiveCap maxBytes
  match ladder (fun ep => measureEncoding g ep cap ≤ cap) g with
  | none => .error .snapshotTooLarge
  | some (chosen, deg) =>
    let totalSize := measureEncoding g chosen cap
    if !buffer then .error .allocationFailed
    else
      let (w, scrollbackLen) := (EscWriter.storing totalSize).encodeAll g chosen
      if !snapshot then .error .allocationFailed
      else .ok ⟨w.buf.take w.pos, scrollbackLen, deg, g.possiblyDiverged, g.isAltScreen⟩

end Zet.Terminal
