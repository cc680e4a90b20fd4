import Mathlib.Logic.Function.Basic
import Zet.Terminal.Sgr

/-!
# The terminal grid

`Grid` (`src/grid/grid.cpp`): two screens, the ring of history lines, the cursor, the scroll region,
the modes and the pen, and what every mutator does to them. A screen is its lines in order, top
first; rotating the line pointers of a region is rotating that list. The ring is its slots, with
where the oldest line stands and how many are valid.

Coordinates are numbers. Where the source narrows the result of a subtraction to sixteen bits the
cast is written out (`u16`); the other sums and differences stay in range for every grid there is,
which `Grid.Framed` says.
-/

namespace Zet.Terminal

/-- `Grid`. -/
structure Grid where
  main : List Line
  alt : List Line
  /-- The slots of the history ring. -/
  history : List Line
  historyStart : Nat
  historySize : Nat
  cols : Nat
  rows : Nat
  scrollbackLimit : Nat
  cursorRow : Nat
  cursorCol : Nat
  pendingWrap : Bool
  scrollTop : Nat
  scrollBot : Nat
  modes : Modes
  pen : Pen
  savedMain : SavedCursor
  savedAlt : SavedCursor
  charsetG0 : Nat
  charsetG1 : Nat
  charsetActive : Nat
  cursorStyle : UInt8
  tabStops : Nat → Bool
  lastPrintedChar : Nat
  lastPrintedWidth : Nat
  possiblyDiverged : Bool

namespace Grid

/-- `Grid::Allocate`, where every allocation succeeds. -/
def allocate (cols rows scrollbackLimit : Nat) : Grid where
  main := List.replicate rows (List.replicate cols {})
  alt := List.replicate rows (List.replicate cols {})
  history := List.replicate scrollbackLimit (List.replicate cols {})
  historyStart := 0
  historySize := 0
  cols := cols
  rows := rows
  scrollbackLimit := scrollbackLimit
  cursorRow := 0
  cursorCol := 0
  pendingWrap := false
  scrollTop := 0
  scrollBot := rows - 1
  modes := defaultModes
  pen := {}
  savedMain := {}
  savedAlt := {}
  charsetG0 := 0
  charsetG1 := 0
  charsetActive := 0
  cursorStyle := 0
  tabStops := defaultTabStops cols
  lastPrintedChar := 0
  lastPrintedWidth := 1
  possiblyDiverged := false

/-- `Grid::Create`; `memory` is whether its allocations succeed. -/
def create (memory : Bool) (cols rows scrollbackLimit : Nat) : Except GridError Grid :=
  if scrollbackLimit > 0x7FFFFFFF then .error .scrollbackTooLarge
  else
    let size := clampScreenSize cols rows
    if !memory ∨ scrollbackLimit * size.1 * cellSize > maxScrollbackBytes then
      .error .allocationFailed
    else .ok (allocate size.1 size.2 scrollbackLimit)

/-- `ModeSet`. -/
def modeSet (g : Grid) (m : Mode) : Bool := g.modes m

/-- Set or reset one mode flag. -/
def putMode (g : Grid) (m : Mode) (value : Bool) : Grid :=
  { g with modes := Function.update g.modes m value }

/-- Setting one mode changes that one. -/
lemma modeSet_putMode (g : Grid) (m m' : Mode) (value : Bool) :
    (g.putMode m value).modeSet m' = if m' = m then value else g.modeSet m' :=
  Function.update_apply ..

/-- `PendingWrap_ = false`. -/
def unpend (g : Grid) : Grid := { g with pendingWrap := false }

/-- `CursorCol_ = col`. -/
def toCol (g : Grid) (col : Nat) : Grid := { g with cursorCol := col }

/-- `CursorRow_ = row`. -/
def toRow (g : Grid) (row : Nat) : Grid := { g with cursorRow := row }

/-- `ScrollTop_ = top`, `ScrollBot_ = bot`. -/
def setMargins (g : Grid) (top bot : Nat) : Grid := { g with scrollTop := top, scrollBot := bot }

/-- `IsAltScreen`. -/
def isAltScreen (g : Grid) : Bool := g.modeSet .altScreen

/-- The lines of the active screen. -/
def activeLines (g : Grid) : List Line := if g.isAltScreen then g.alt else g.main

/-- The active screen with other lines. -/
def setActiveLines (g : Grid) (lines : List Line) : Grid :=
  if g.isAltScreen then { g with alt := lines } else { g with main := lines }

/-- `ActiveLine`. -/
def activeLine (g : Grid) (row : Nat) : Line := g.activeLines.getD row []

/-- Change one line of the active screen. -/
def modifyLine (g : Grid) (row : Nat) (f : Line → Line) : Grid :=
  g.setActiveLines (g.activeLines.modify row f)

/-- `CellAt`. -/
def cellAt (g : Grid) (row col : Nat) : Cell := (g.activeLine row).at col

/-- `MainCellAt`. -/
def mainCellAt (g : Grid) (row col : Nat) : Cell := (g.main.getD row []).at col

/-- `IsTabStop`. -/
def isTabStop (g : Grid) (col : Nat) : Bool := if col ≥ g.cols then false else g.tabStops col

/-- `ScrollbackLine`. -/
def scrollbackLine (g : Grid) (idx : Nat) : Option Line :=
  if idx ≥ g.historySize then none
  else some (g.history.getD ((g.historyStart + idx) % g.scrollbackLimit) [])

/-- `BlankCell`: an empty cell with the background of the pen. -/
def blankCell (g : Grid) : Cell := { pen := { bg := g.pen.bg } }

/-- `ClearLine`. -/
def blankLine (g : Grid) : Line := List.replicate g.cols g.blankCell

/-- The cells from `start` up to `stop` set to `cell`. -/
def fillCells (start stop : Nat) (cell : Cell) (line : Line) : Line :=
  line.mapIdx fun col old => if start ≤ col ∧ col < stop then cell else old

/-- `MoveCells`: the `count` cells from `src` on copied to `dst` on; the two may overlap. -/
def moveCells (dst src count : Nat) (line : Line) : Line :=
  line.mapIdx fun col old => if dst ≤ col ∧ col < dst + count then line.at (src + (col - dst)) else old

/-- A cell set to `cell` where its width is `width`. -/
def blankWhere (col width : Nat) (cell : Cell) (line : Line) : Line :=
  if (line.at col).width = width then line.set col cell else line

/-- `RepairWideOrphans` around the cells from `first` up to `last`. -/
def repairWideOrphans (g : Grid) (first last : Nat) (line : Line) : Line :=
  let line := if first > 0 then blankWhere (first - 1) 2 g.blankCell line else line
  if last < g.cols then blankWhere last 0 g.blankCell line else line

/-- `PushScrollback`. -/
def pushScrollback (g : Grid) (row : Nat) : Grid :=
  if g.scrollbackLimit = 0 then g
  else
    let slot := (g.historyStart + g.historySize) % g.scrollbackLimit
    let g := { g with history := g.history.set slot (g.main.getD row []) }
    if g.historySize < g.scrollbackLimit then { g with historySize := g.historySize + 1 }
    else { g with historyStart := (g.historyStart + 1) % g.scrollbackLimit }

/-- `std::rotate` of the lines from `top` to `bot`, by `n` lines upwards. -/
def rotateRegion (top bot n : Nat) (lines : List Line) : List Line :=
  lines.take top ++ ((lines.drop top).take (bot + 1 - top)).rotate n ++ lines.drop (bot + 1)

/-- The lines from `first` up to `stop` set to `line`. -/
def clearRows (first stop : Nat) (line : Line) (lines : List Line) : List Line :=
  lines.mapIdx fun row old => if first ≤ row ∧ row < stop then line else old

/-- The rows that `ScrollRegionUp` pushes into the history: those of a region at the top of the
active main screen. -/
def pushRegion (g : Grid) (n : Nat) (push : Bool) : Grid :=
  if push ∧ g.scrollTop = 0 ∧ ¬g.isAltScreen then (List.range n).foldl pushScrollback g else g

/-- The lines of the active screen with the region moved up by `n` and blanked behind. -/
def shiftUp (g : Grid) (n : Nat) : Grid :=
  g.setActiveLines (clearRows (g.scrollBot + 1 - n) (g.scrollBot + 1) g.blankLine
    (rotateRegion g.scrollTop g.scrollBot n g.activeLines))

/-- `ScrollRegionUp`. -/
def scrollRegionUp (g : Grid) (n : Nat) (push : Bool) : Grid :=
  if n = 0 then g
  else
    let n := min n (g.scrollBot + 1 - g.scrollTop)
    (g.pushRegion n push).shiftUp n

/-- The first loop of `ScrollRegionDown`, from row `r` down to row `stop`: each row becomes the one
`n` rows above it. -/
def copyRowsDown (n stop : Nat) : (r : Nat) → List Line → List Line
  | 0, lines => lines
  | r + 1, lines =>
    if r + 1 ≥ stop then copyRowsDown n stop r (lines.set (r + 1) (lines.getD (r + 1 - n) []))
    else lines

/-- `ScrollRegionDown`. -/
def scrollRegionDown (g : Grid) (n : Nat) : Grid :=
  if n = 0 then g
  else
    let n := min n (g.scrollBot + 1 - g.scrollTop)
    g.setActiveLines (clearRows g.scrollTop (g.scrollTop + n) g.blankLine
      (copyRowsDown n (g.scrollTop + n) g.scrollBot g.activeLines))

/-- `LineFeed` without the column: scroll at the bottom margin, move down elsewhere. -/
def feedRow (g : Grid) : Grid :=
  if g.cursorRow = g.scrollBot then g.scrollRegionUp 1 true
  else if g.cursorRow < g.rows - 1 then g.toRow (g.cursorRow + 1)
  else g

/-- `CarriageReturn`. -/
def carriageReturn (g : Grid) : Grid := (g.toCol 0).unpend

/-- `LineFeed`. -/
def lineFeed (g : Grid) : Grid := (if g.modeSet .lnm then g.toCol 0 else g).unpend.feedRow

/-- `Index`. -/
def index (g : Grid) : Grid := g.unpend.feedRow

/-- `ReverseIndex`. -/
def reverseIndex (g : Grid) : Grid :=
  let g := g.unpend
  if g.cursorRow = g.scrollTop then g.scrollRegionDown 1
  else if g.cursorRow > 0 then g.toRow (g.cursorRow - 1)
  else g

/-- `Backspace`. -/
def backspace (g : Grid) : Grid := g.unpend.toCol (g.cursorCol - 1)

/-- `HorizontalTab`: to the next stop on the right, or to the last column. -/
def horizontalTab (g : Grid) : Grid :=
  let next := (List.range' (g.cursorCol + 1) (g.cols - (g.cursorCol + 1))).find? g.tabStops
  g.unpend.toCol (next.getD (g.cols - 1))

/-- The loop of `HorizontalTabBack`: `n` stops to the left, or column 0. -/
def tabBack (tabStops : Nat → Bool) : (n : Nat) → Nat → Nat
  | 0, col => col
  | n + 1, col =>
    if col = 0 then col
    else
      match (List.range col).reverse.find? tabStops with
      | some stop => tabBack tabStops n stop
      | none => 0

/-- `HorizontalTabBack`. -/
def horizontalTabBack (g : Grid) (n : Nat) : Grid :=
  g.unpend.toCol (tabBack g.tabStops (if n = 0 then 1 else n) g.cursorCol)

/-- The topmost row `MoveCursorUp` may reach. -/
def upLimit (g : Grid) : Nat :=
  if g.cursorRow ≥ g.scrollTop ∧ g.cursorRow ≤ g.scrollBot then g.scrollTop
  else if g.cursorRow > g.scrollBot then u16 (g.scrollBot + 1)
  else if g.modeSet .decom then g.scrollTop
  else 0

/-- How far `MoveCursorUp` goes. The comparison is one of `int`s, the difference is narrowed. -/
def upSteps (g : Grid) (n : Nat) : Nat :=
  if (n : Int) > (g.cursorRow : Int) - g.upLimit then u16 (g.cursorRow - g.upLimit) else n

/-- `MoveCursorUp`. -/
def moveCursorUp (g : Grid) (n : Nat) : Grid :=
  g.unpend.toRow (u16 (g.cursorRow - g.upSteps n))

/-- The bottommost row `MoveCursorDown` may reach. -/
def downLimit (g : Grid) : Nat :=
  if g.cursorRow ≤ g.scrollBot then g.scrollBot
  else if g.modeSet .decom then g.scrollBot
  else u16 (g.rows - 1)

/-- How far `MoveCursorDown` goes. -/
def downSteps (g : Grid) (n : Nat) : Nat :=
  if g.cursorRow + n > g.downLimit then u16 (g.downLimit - g.cursorRow) else n

/-- `MoveCursorDown`. -/
def moveCursorDown (g : Grid) (n : Nat) : Grid :=
  g.unpend.toRow (u16 (g.cursorRow + g.downSteps n))

/-- `MoveCursorRight`. -/
def moveCursorRight (g : Grid) (n : Nat) : Grid :=
  g.unpend.toCol (if g.cursorCol + n ≤ g.cols - 1 then g.cursorCol + n else g.cols - 1)

/-- `MoveCursorLeft`. -/
def moveCursorLeft (g : Grid) (n : Nat) : Grid :=
  g.unpend.toCol (if n ≤ g.cursorCol then g.cursorCol - n else 0)

/-- `ClampCol`. -/
def clampCol (g : Grid) (c : Nat) : Nat := if c < g.cols then c else g.cols - 1

/-- `ClampRow`. -/
def clampRow (g : Grid) (r : Nat) : Nat := if r < g.rows then r else g.rows - 1

/-- The row an absolute position names, counted from 1: relative to the region under DECOM. -/
def absoluteRow (g : Grid) (row1 : Nat) : Nat :=
  let rowOff := if g.modeSet .decom then g.scrollTop else 0
  let maxRow := if g.modeSet .decom then g.scrollBot else g.rows - 1
  let row := rowOff + (row1 - 1)
  if row < maxRow then row else maxRow

/-- `MoveCursorTo`. -/
def moveCursorTo (g : Grid) (row1 col1 : Nat) : Grid :=
  (g.unpend.toRow (g.absoluteRow row1)).toCol (g.clampCol (col1 - 1))

/-- `MoveCursorToCol`. -/
def moveCursorToCol (g : Grid) (col1 : Nat) : Grid := g.unpend.toCol (g.clampCol (col1 - 1))

/-- `MoveCursorToRow`. -/
def moveCursorToRow (g : Grid) (row1 : Nat) : Grid := g.unpend.toRow (g.absoluteRow row1)

/-- `CursorNextLine`. -/
def cursorNextLine (g : Grid) (n : Nat) : Grid := (g.moveCursorDown n).toCol 0

/-- `CursorPrevLine`. -/
def cursorPrevLine (g : Grid) (n : Nat) : Grid := (g.moveCursorUp n).toCol 0

/-- The saved cursor of the active screen. -/
def activeSaved (g : Grid) : SavedCursor := if g.isAltScreen then g.savedAlt else g.savedMain

/-- `SaveCursor`. -/
def saveCursor (g : Grid) : Grid :=
  let saved : SavedCursor :=
    { row := g.cursorRow, col := g.cursorCol, pen := g.pen, decom := g.modeSet .decom,
      pendingWrap := g.pendingWrap, charsetG0 := g.charsetG0, charsetG1 := g.charsetG1,
      charsetActive := g.charsetActive }
  if g.isAltScreen then { g with savedAlt := saved } else { g with savedMain := saved }

/-- `RestoreCursor`. Under DECOM only the bottom margin clamps the row. -/
def restoreCursor (g : Grid) : Grid :=
  let saved := g.activeSaved
  let row := g.clampRow saved.row
  let col := g.clampCol saved.col
  { g.putMode .decom saved.decom with
    cursorRow := if saved.decom ∧ row > g.scrollBot then g.scrollBot else row
    cursorCol := col
    pen := saved.pen
    charsetG0 := saved.charsetG0
    charsetG1 := saved.charsetG1
    charsetActive := saved.charsetActive
    pendingWrap := saved.pendingWrap && decide (col + 1 = g.cols) }

/-- `EraseInLine`. -/
def eraseInLine (g : Grid) (param : Nat) : Grid :=
  let g := g.unpend
  match param with
  | 0 =>
    g.modifyLine g.cursorRow fun line =>
      fillCells g.cursorCol g.cols g.blankCell (g.repairWideOrphans g.cursorCol g.cursorCol line)
  | 1 =>
    g.modifyLine g.cursorRow fun line =>
      fillCells 0 (g.cursorCol + 1) g.blankCell (g.repairWideOrphans 0 (g.cursorCol + 1) line)
  | 2 => g.modifyLine g.cursorRow fun _ => g.blankLine
  | _ => g

/-- The active screen with the rows from `first` up to `stop` cleared. -/
def clearActiveRows (g : Grid) (first stop : Nat) : Grid :=
  g.setActiveLines (clearRows first stop g.blankLine g.activeLines)

/-- `EraseInDisplay`. -/
def eraseInDisplay (g : Grid) (param : Nat) : Grid :=
  let g := g.unpend
  match param with
  | 0 => (g.eraseInLine 0).clearActiveRows (g.cursorRow + 1) g.rows
  | 1 => (g.clearActiveRows 0 g.cursorRow).eraseInLine 1
  | 2 => g.clearActiveRows 0 g.rows
  | 3 =>
    let g := g.clearActiveRows 0 g.rows
    if g.isAltScreen then g else { g with historyStart := 0, historySize := 0 }
  | _ => g

/-- A count of cells: one for none, and no more than there are from the cursor on. -/
def cellCount (g : Grid) (n : Nat) : Nat := min (if n = 0 then 1 else n) (g.cols - g.cursorCol)

/-- `EraseChars`. -/
def eraseChars (g : Grid) (n : Nat) : Grid :=
  let g := g.unpend
  let stop := g.cursorCol + g.cellCount n
  g.modifyLine g.cursorRow fun line =>
    fillCells g.cursorCol stop g.blankCell (g.repairWideOrphans g.cursorCol stop line)

/-- `DeleteChars`, on the cursor's line. -/
def deleteCells (g : Grid) (n : Nat) (line : Line) : Line :=
  let avail := g.cols - g.cursorCol
  let blank := g.blankCell
  -- A cursor on a continuation: its head would be left alone.
  let line :=
    if g.cursorCol > 0 ∧ (line.at g.cursorCol).width = 0 then
      (line.set (g.cursorCol - 1) blank).set g.cursorCol blank
    else line
  let line := moveCells g.cursorCol (g.cursorCol + n) (avail - n) line
  let line := fillCells (g.cols - n) g.cols blank line
  let line := blankWhere g.cursorCol 0 blank line
  let tailStart := g.cols - n
  if tailStart > 0 then blankWhere (tailStart - 1) 2 blank line else line

/-- `DeleteChars`. -/
def deleteChars (g : Grid) (n : Nat) : Grid :=
  let g := g.unpend
  g.modifyLine g.cursorRow (g.deleteCells (g.cellCount n))

/-- `InsertChars`, on the cursor's line. -/
def insertCells (g : Grid) (n : Nat) (line : Line) : Line :=
  let avail := g.cols - g.cursorCol
  let blank := g.blankCell
  let line := moveCells (g.cursorCol + n) g.cursorCol (avail - n) line
  let line := fillCells g.cursorCol (g.cursorCol + n) blank line
  let line := if g.cursorCol > 0 then blankWhere (g.cursorCol - 1) 2 blank line else line
  let movedStart := g.cursorCol + n
  let line := if movedStart < g.cols then blankWhere movedStart 0 blank line else line
  -- The shift may have pushed a head into the last column.
  blankWhere (g.cols - 1) 2 blank line

/-- `InsertChars`. -/
def insertChars (g : Grid) (n : Nat) : Grid :=
  let g := g.unpend
  g.modifyLine g.cursorRow (g.insertCells (g.cellCount n))

/-- `InsertLines` and `DeleteLines`: scroll what is below the cursor in the region. -/
def scrollBelowCursor (g : Grid) (scroll : Grid → Grid) : Grid :=
  if g.cursorRow < g.scrollTop ∨ g.cursorRow > g.scrollBot then g
  else
    let scrolled := scroll (g.unpend.setMargins g.cursorRow g.scrollBot)
    (scrolled.setMargins g.scrollTop g.scrollBot).toCol 0

/-- `InsertLines`. -/
def insertLines (g : Grid) (n : Nat) : Grid := g.scrollBelowCursor fun g => g.scrollRegionDown n

/-- `DeleteLines`. -/
def deleteLines (g : Grid) (n : Nat) : Grid := g.scrollBelowCursor fun g => g.scrollRegionUp n false

/-- `ScrollDown`. -/
def scrollDown (g : Grid) (n : Nat) : Grid := g.scrollRegionDown n

/-- `ScrollUp`. -/
def scrollUp (g : Grid) (n : Nat) : Grid := g.scrollRegionUp n true

/-- `DEC_GFX`. -/
def decGfx : List Nat :=
  [0x25C6, 0x2592, 0x2409, 0x240C, 0x240D, 0x240A, 0x00B0, 0x00B1,
    0x2424, 0x240B, 0x2518, 0x2510, 0x250C, 0x2514, 0x253C, 0x23BA,
    0x23BB, 0x2500, 0x23BC, 0x23BD, 0x251C, 0x2524, 0x2534, 0x252C,
    0x2502, 0x2264, 0x2265, 0x03C0, 0x2260, 0x00A3, 0x00B7]

/-- What the active character set makes of a code point. -/
def translate (g : Grid) (cp : Nat) : Nat :=
  let cs := if g.charsetActive = 0 then g.charsetG0 else g.charsetG1
  if cs = 1 ∧ 0x60 ≤ cp ∧ cp ≤ 0x7E then decGfx.getD (cp - 0x60) 0 else cp

/-- The head left of the cursor, whose second half is about to be overwritten, made narrow. -/
def breakHead (g : Grid) (line : Line) : Line :=
  let left := line.at (g.cursorCol - 1)
  if g.cursorCol > 0 ∧ left.width = 2 then line.set (g.cursorCol - 1) { left with width := 1 }
  else line

/-- The second half of a head at `col` that is about to be overwritten, blanked. -/
def blankTail (g : Grid) (col : Nat) (line : Line) : Line :=
  if (line.at col).width = 2 ∧ col + 1 < g.cols then line.set (col + 1) g.blankCell else line

/-- The second half of the wide character just written. -/
def writeTail (g : Grid) (width : Nat) (line : Line) : Line :=
  if width = 2 ∧ g.cursorCol + 1 < g.cols then
    (g.blankTail (g.cursorCol + 1) line).set (g.cursorCol + 1) { width := 0 }
  else line

/-- The cells `PutChar` writes, on the cursor's line. -/
def writeCells (g : Grid) (cp width : Nat) (line : Line) : Line :=
  let line := g.blankTail g.cursorCol (g.breakHead line)
  g.writeTail width (line.set g.cursorCol { codepoint := cp, width := width, pen := g.pen })

/-- The cursor moved on behind a character, or left in the last column with the wrap pending. -/
def advance (g : Grid) (width : Nat) : Grid :=
  if g.cursorCol + width ≥ g.cols then { g.toCol (g.cols - 1) with pendingWrap := true }
  else g.toCol (g.cursorCol + width)

/-- What `RepeatChar` will print. -/
def remember (g : Grid) (cp width : Nat) : Grid :=
  { g with lastPrintedChar := cp, lastPrintedWidth := width }

/-- The part of `PutChar` that writes the cells at the cursor and moves it on. -/
def printCell (g : Grid) (cp width : Nat) : Grid :=
  ((g.modifyLine g.cursorRow (g.writeCells cp width)).remember cp width).advance width

/-- The wrap that a printable character finds pending. -/
def wrapPending (g : Grid) : Grid :=
  (if g.pendingWrap ∧ g.modeSet .awm then (g.toCol 0).lineFeed else g).unpend

/-- Room for a character in insert mode. -/
def makeRoom (g : Grid) (width : Nat) : Grid :=
  if g.modeSet .irm then g.insertChars width else g

/-- A character printed at the cursor; a wide one that does not fit goes to the next line, or
nowhere. -/
def putFitted (g : Grid) (cp width : Nat) : Grid :=
  if width = 2 ∧ g.cursorCol + 1 ≥ g.cols then
    if g.modeSet .awm then (g.toCol 0).lineFeed.printCell cp width else g
  else g.printCell cp width

/-- `PutChar`. -/
def putChar (g : Grid) (cp width : Nat) : Grid :=
  let cp := g.translate cp
  if width = 0 then g
  else
    let g := g.wrapPending.makeRoom width
    -- A wide character never fits in one column.
    if width = 2 ∧ g.cols = 1 then g.putFitted 0x20 1 else g.putFitted cp width

/-- `RepeatChar`. -/
def repeatChar (g : Grid) (n : Nat) : Grid :=
  if g.lastPrintedChar = 0 then g
  else (List.range n).foldl (fun g _ => g.putChar g.lastPrintedChar g.lastPrintedWidth) g

/-- `SetScrollRegion`. -/
def setScrollRegion (g : Grid) (top1 bot1 : Nat) : Grid :=
  let t := top1 - 1
  let b := if bot1 > 0 then bot1 - 1 else g.rows - 1
  let t := if t ≥ g.rows then 0 else t
  let b := if b ≥ g.rows then g.rows - 1 else b
  if t ≥ b then g
  else
    (((g.setMargins t b).toRow (if g.modeSet .decom then t else 0)).toCol 0).unpend

/-- `SwitchAltScreen`. -/
def switchAltScreen (g : Grid) (enter : Bool) : Grid := g.putMode .altScreen enter

/-- `ClearAltScreen`. -/
def clearAltScreen (g : Grid) : Grid :=
  { g with alt := clearRows 0 g.rows g.blankLine g.alt }.unpend

/-- `SetMode`. -/
def setMode (g : Grid) (param : Nat) (value : Bool) : Grid :=
  match param with
  | 1 => g.putMode .decckm value
  | 4 => g.putMode .irm value
  | 6 => (((g.putMode .decom value).toRow (if value then g.scrollTop else 0)).toCol 0).unpend
  | 7 => g.putMode .awm value
  | 20 => g.putMode .lnm value
  | 25 => g.putMode .dectcem value
  | 47 => g.switchAltScreen value
  | 1047 => (if !value ∧ g.isAltScreen then g.clearAltScreen else g).switchAltScreen value
  | 1048 => if value then g.saveCursor else g.restoreCursor
  | 1000 => g.putMode .mouse1000 value
  | 1002 => g.putMode .mouse1002 value
  | 1003 => g.putMode .mouse1003 value
  | 1004 => g.putMode .focusEvents value
  | 1005 => g.putMode .mouse1005 value
  | 1006 => g.putMode .mouse1006 value
  | 1015 => g.putMode .mouse1015 value
  | 1049 =>
    if value then (g.saveCursor.switchAltScreen true).clearAltScreen
    else (g.switchAltScreen false).restoreCursor
  | 2004 => g.putMode .bracketedPaste value
  | 2026 => g.putMode .syncOutput value
  | _ => g

/-- `ApplySgr`. -/
def selectGraphicRendition (g : Grid) (params : List Param) : Grid :=
  { g with pen := applySgr params g.pen }

/-- `Reset`. -/
def reset (g : Grid) (hard : Bool) : Grid :=
  let g :=
    { g with
      pen := {}
      scrollTop := 0
      scrollBot := g.rows - 1
      charsetActive := 0
      charsetG0 := 0
      charsetG1 := 0 }
  if hard then
    { g with
      cursorRow := 0
      cursorCol := 0
      pendingWrap := false
      modes := defaultModes
      main := clearRows 0 g.rows g.blankLine g.main
      alt := clearRows 0 g.rows g.blankLine g.alt
      historyStart := 0
      historySize := 0
      tabStops := defaultTabStops g.cols
      savedMain := {}
      savedAlt := {}
      cursorStyle := 0 }
  else { g with modes := Function.update defaultModes .altScreen g.isAltScreen }

/-- `SetCursorStyle`. -/
def setCursorStyle (g : Grid) (style : UInt8) : Grid := { g with cursorStyle := style }

/-- `SetTabStop`. -/
def setTabStop (g : Grid) : Grid :=
  if g.cursorCol < g.cols then { g with tabStops := Function.update g.tabStops g.cursorCol true }
  else g

/-- `ClearTabStop`. -/
def clearTabStop (g : Grid) (param : Nat) : Grid :=
  match param with
  | 0 =>
    if g.cursorCol < g.cols then { g with tabStops := Function.update g.tabStops g.cursorCol false }
    else g
  | 3 => { g with tabStops := fun _ => false }
  | _ => g

/-- `ShiftCharset`. -/
def shiftCharset (g : Grid) (out : Bool) : Grid := { g with charsetActive := if out then 1 else 0 }

/-- `DesignateCharset`. -/
def designateCharset (g : Grid) (set designator : Nat) : Grid :=
  -- `'0'` is the graphics set.
  let mapped := if designator = 0x30 then 1 else 0
  if set = 0 then { g with charsetG0 := mapped } else { g with charsetG1 := mapped }

/-- `SetPossiblyDiverged`. -/
def setPossiblyDiverged (g : Grid) (v : Bool) : Grid := { g with possiblyDiverged := v }

/-- A line in a buffer of `newCols` columns: the first `clampCols` cells copied, the rest fresh. -/
def copyLine (clampCols newCols : Nat) (line : Line) : Line :=
  line.take clampCols ++ List.replicate (newCols - clampCols) ({} : Cell)

/-- The heads that a narrower screen would cut in half, blanked. -/
def blankCut (g : Grid) (newCols : Nat) : Grid :=
  let cut := blankWhere (newCols - 1) 2 g.blankCell
  { g with
    main := g.main.map cut
    alt := g.alt.map cut
    history := (List.range g.historySize).foldl
      (fun ring i => ring.modify ((g.historyStart + i) % g.scrollbackLimit) cut) g.history }

/-- A screen copied into a buffer of other dimensions: its bottom rows. -/
def copyScreen (oldRows newRows clampCols newCols : Nat) (lines : List Line) : List Line :=
  (List.range newRows).map fun r =>
    if r < min newRows oldRows then copyLine clampCols newCols (lines.getD (oldRows - newRows + r) [])
    else List.replicate newCols {}

/-- The history ring copied into one of other columns, its oldest line first. -/
def copyHistory (g : Grid) (clampCols newCols : Nat) : List Line :=
  (List.range g.scrollbackLimit).map fun i =>
    if i < g.historySize then
      copyLine clampCols newCols (g.history.getD ((g.historyStart + i) % g.scrollbackLimit) [])
    else List.replicate newCols {}

/-- A saved cursor in other dimensions. -/
def clampSaved (newCols newRows : Nat) (saved : SavedCursor) : SavedCursor :=
  { saved with
    row := if saved.row ≥ newRows then newRows - 1 else saved.row
    col := if saved.col ≥ newCols then newCols - 1 else saved.col }

/-- The tab stops of columns that did not exist before. -/
def extendTabStops (oldCols newCols : Nat) (tabStops : Nat → Bool) (col : Nat) : Bool :=
  tabStops col || decide (oldCols ≤ col ∧ col < newCols ∧ col % defaultTabInterval = 0)

/-- The rows that fall off the top of an active main screen, pushed into the history. -/
def pushLost (g : Grid) (newRows : Nat) : Grid :=
  if newRows < g.rows ∧ ¬g.isAltScreen then (List.range (g.rows - newRows)).foldl pushScrollback g
  else g

/-- What `Resize` does to the old buffers. -/
def trimFor (g : Grid) (newCols newRows : Nat) : Grid :=
  (if newCols < g.cols then g.blankCut newCols else g).pushLost newRows

/-- `Resize` from the buffers it has trimmed to new ones. -/
def rebuild (g : Grid) (newCols newRows : Nat) : Grid :=
  let clampCols := if newCols < g.cols then newCols else g.cols
  let lost := g.rows - newRows
  { g with
    main := copyScreen g.rows newRows clampCols newCols g.main
    alt := copyScreen g.rows newRows clampCols newCols g.alt
    history := if newCols = g.cols then g.history else g.copyHistory clampCols newCols
    historyStart := if newCols = g.cols ∨ g.scrollbackLimit = 0 then g.historyStart else 0
    tabStops := if newCols > g.cols then extendTabStops g.cols newCols g.tabStops else g.tabStops
    cols := newCols
    rows := newRows
    scrollTop := 0
    scrollBot := newRows - 1
    cursorRow :=
      if newRows < g.rows then if g.cursorRow ≥ lost then g.cursorRow - lost else 0
      else if g.cursorRow ≥ newRows then newRows - 1
      else g.cursorRow
    cursorCol := if g.cursorCol ≥ newCols then newCols - 1 else g.cursorCol
    pendingWrap := false
    savedMain := clampSaved newCols newRows g.savedMain
    savedAlt := clampSaved newCols newRows g.savedAlt }

/-- `Resize` once every buffer is allocated. -/
def resizeTo (g : Grid) (newCols newRows : Nat) : Grid :=
  (g.trimFor newCols newRows).rebuild newCols newRows

/-- `Resize`; `screens` and `ring` are whether the allocations of the screens and of the history
succeed. -/
def resize (g : Grid) (screens ring : Bool) (newCols newRows : Nat) : Except GridError Unit × Grid :=
  let size := clampScreenSize newCols newRows
  if size.1 = g.cols ∧ size.2 = g.rows then (.ok (), g)
  else if !screens then (.error .allocationFailed, g)
  else if size.1 ≠ g.cols ∧ g.scrollbackLimit ≠ 0 ∧
      (g.scrollbackLimit * size.1 * cellSize > maxScrollbackBytes ∨ !ring) then
    (.error .allocationFailed, g)
  else (.ok (), g.resizeTo size.1 size.2)

end Grid

end Zet.Terminal
