import Zet.Terminal.Grid
import Zet.Terminal.Unicode

/-!
# The parser of terminal output

`VtParser` (`src/grid/vt_parser.cpp`), byte by byte. A byte changes the parser and calls mutators of
the grid, in order; the parser reads nothing of the grid but how many rows it has, so a byte is a
function of the two, and `Call.apply` is what a call does. The callback for bypassed payloads is left
out: it sees bytes and changes neither.
-/

namespace Zet.Terminal
open Zet.Core

/-- `EParserState`. -/
inductive ParserState where
  | ground
  | escape
  | escapeIntermediate
  | csiEntry
  | csiParam
  | csiIntermediate
  | csiIgnore
  | dcsEntry
  | dcsParam
  | dcsIntermediate
  | dcsPassthrough
  | dcsIgnore
  | oscString
  | sosPmApcString
  | bypass
deriving DecidableEq, Repr

/-- A call of a mutator of the grid. -/
inductive Call where
  | putChar (cp width : Nat)
  | carriageReturn
  | lineFeed
  | reverseIndex
  | index
  | backspace
  | horizontalTab
  | horizontalTabBack (n : Nat)
  | moveCursorUp (n : Nat)
  | moveCursorDown (n : Nat)
  | moveCursorRight (n : Nat)
  | moveCursorLeft (n : Nat)
  | moveCursorTo (row1 col1 : Nat)
  | moveCursorToCol (col1 : Nat)
  | moveCursorToRow (row1 : Nat)
  | cursorNextLine (n : Nat)
  | cursorPrevLine (n : Nat)
  | saveCursor
  | restoreCursor
  | eraseInDisplay (param : Nat)
  | eraseInLine (param : Nat)
  | eraseChars (n : Nat)
  | deleteChars (n : Nat)
  | insertChars (n : Nat)
  | insertLines (n : Nat)
  | deleteLines (n : Nat)
  | scrollDown (n : Nat)
  | scrollUp (n : Nat)
  | repeatChar (n : Nat)
  | setScrollRegion (top1 bot1 : Nat)
  | setMode (param : Nat) (value : Bool)
  | applySgr (params : List Param)
  | reset (hard : Bool)
  | setCursorStyle (style : UInt8)
  | setTabStop
  | clearTabStop (param : Nat)
  | shiftCharset (out : Bool)
  | designateCharset (set designator : Nat)
  | setPossiblyDiverged (v : Bool)
deriving DecidableEq, Repr

/-- What a call does. -/
def Call.apply (g : Grid) : Call → Grid
  | .putChar cp width => g.putChar cp width
  | .carriageReturn => g.carriageReturn
  | .lineFeed => g.lineFeed
  | .reverseIndex => g.reverseIndex
  | .index => g.index
  | .backspace => g.backspace
  | .horizontalTab => g.horizontalTab
  | .horizontalTabBack n => g.horizontalTabBack n
  | .moveCursorUp n => g.moveCursorUp n
  | .moveCursorDown n => g.moveCursorDown n
  | .moveCursorRight n => g.moveCursorRight n
  | .moveCursorLeft n => g.moveCursorLeft n
  | .moveCursorTo row1 col1 => g.moveCursorTo row1 col1
  | .moveCursorToCol col1 => g.moveCursorToCol col1
  | .moveCursorToRow row1 => g.moveCursorToRow row1
  | .cursorNextLine n => g.cursorNextLine n
  | .cursorPrevLine n => g.cursorPrevLine n
  | .saveCursor => g.saveCursor
  | .restoreCursor => g.restoreCursor
  | .eraseInDisplay param => g.eraseInDisplay param
  | .eraseInLine param => g.eraseInLine param
  | .eraseChars n => g.eraseChars n
  | .deleteChars n => g.deleteChars n
  | .insertChars n => g.insertChars n
  | .insertLines n => g.insertLines n
  | .deleteLines n => g.deleteLines n
  | .scrollDown n => g.scrollDown n
  | .scrollUp n => g.scrollUp n
  | .repeatChar n => g.repeatChar n
  | .setScrollRegion top1 bot1 => g.setScrollRegion top1 bot1
  | .setMode param value => g.setMode param value
  | .applySgr params => g.selectGraphicRendition params
  | .reset hard => g.reset hard
  | .setCursorStyle style => g.setCursorStyle style
  | .setTabStop => g.setTabStop
  | .clearTabStop param => g.clearTabStop param
  | .shiftCharset out => g.shiftCharset out
  | .designateCharset set designator => g.designateCharset set designator
  | .setPossiblyDiverged v => g.setPossiblyDiverged v

/-- `VtParser`. -/
structure VtParser where
  utf8Accumulator : Nat := 0
  utf8Remaining : Nat := 0
  utf8SeqLen : Nat := 0
  state : ParserState := .ground
  /-- `ParamBuf_`, as far as it is filled. -/
  params : Bytes := []
  intermediates : Bytes := []
  /-- The DEC private marker, 0 for none. -/
  privateMarker : UInt8 := 0
  inOsc : Bool := false
  bypassBytes : Nat := 0
  unknownSeqCount : Nat := 0
deriving DecidableEq, Repr

namespace VtParser

/-- `VtParser::Reset`. -/
def reset (p : VtParser) : VtParser :=
  { p with
    state := .ground
    utf8Accumulator := 0
    utf8Remaining := 0
    params := []
    intermediates := []
    privateMarker := 0
    inOsc := false
    bypassBytes := 0 }

/-- `IsUtf8Continuation`. -/
def isUtf8Continuation (b : UInt8) : Bool := b &&& 0xC0 == 0x80

/-- `Utf8LeadLength`. -/
def utf8LeadLength (b : UInt8) : Nat :=
  if b &&& 0xE0 = 0xC0 then 1
  else if b &&& 0xF0 = 0xE0 then 2
  else if b &&& 0xF8 = 0xF0 then 3
  else 0

/-- The bits of a lead byte that belong to the code point (`MASK`). -/
def leadMask (extra : Nat) : UInt8 := [0, 0x1F, 0x0F, 0x07].getD extra 0

/-- The smallest code point of a sequence with so many extra bytes (`MIN_CP`). -/
def minCodepoint (seqLen : Nat) : Nat := [0, 0x80, 0x800, 0x10000].getD (min seqLen 3) 0

/-- What a complete sequence stands for: overlong forms, surrogates and values beyond Unicode are
U+FFFD. -/
def decoded (seqLen cp : Nat) : Nat :=
  if cp < minCodepoint seqLen ∨ cp > 0x10FFFF ∨ (0xD800 ≤ cp ∧ cp ≤ 0xDFFF) then 0xFFFD else cp

/-- `AddParam`: bytes beyond the buffer are dropped. -/
def addParam (p : VtParser) (ch : UInt8) : VtParser :=
  if p.params.length < maxParamBytes - 1 then { p with params := p.params ++ [ch] } else p

/-- `CollectIntermediate`. -/
def collectIntermediate (p : VtParser) (ch : UInt8) : VtParser :=
  if p.intermediates.length < maxIntermediates then
    { p with intermediates := p.intermediates ++ [ch] }
  else p

/-- `++UnknownSeqCount_`. -/
def countUnknown (p : VtParser) : VtParser := { p with unknownSeqCount := p.unknownSeqCount + 1 }

/-- `TransitionTo`. -/
def transitionTo (p : VtParser) (next : ParserState) : VtParser :=
  match next with
  | .ground =>
    { p with
      params := []
      intermediates := []
      privateMarker := 0
      bypassBytes := 0
      inOsc := false
      state := next }
  | .csiEntry | .dcsEntry =>
    { p with params := [], intermediates := [], privateMarker := 0, state := next }
  | _ => { p with state := next }

/-- Leave the bypass state. -/
def leaveBypass (p : VtParser) (next : ParserState) : VtParser :=
  { p with bypassBytes := 0, inOsc := false, state := next }

/-- `HandleControl`. -/
def handleControl (c : UInt8) : List Call :=
  match c.toNat with
  | 0x08 => [.backspace]
  | 0x09 => [.horizontalTab]
  | 0x0A | 0x0B | 0x0C => [.lineFeed]
  | 0x0D => [.carriageReturn]
  | 0x0E => [.shiftCharset true]
  | 0x0F => [.shiftCharset false]
  | _ => []

/-- The loop of `ParseParams`: the value being read, and whether a colon stood in front of it. -/
def parseLoop : Bytes → (acc : Nat) → (hasDigit prevColon : Bool) → List Param
  | [], acc, hasDigit, prevColon => [⟨if hasDigit then acc else 0, prevColon⟩]
  | ch :: rest, acc, hasDigit, prevColon =>
    if 0x30 ≤ ch ∧ ch ≤ 0x39 then
      parseLoop rest (min (acc * 10 + (ch.toNat - 0x30)) 0xFFFF) true prevColon
    else if ch = 0x3B ∨ ch = 0x3A then
      ⟨if hasDigit then acc else 0, prevColon⟩ :: parseLoop rest 0 false (ch = 0x3A)
    else parseLoop rest acc hasDigit prevColon

/-- `ParseParams`: a private marker in front is skipped, and what is beyond `MAX_PARAMS` is dropped. -/
def parseParams (p : VtParser) : List Param :=
  let body :=
    match p.params with
    | first :: rest => if 0x3C ≤ first ∧ first ≤ 0x3F then rest else p.params
    | [] => []
  (parseLoop body 0 false false).take maxParams

/-- `DispatchEsc`. -/
def dispatchEsc (p : VtParser) (final : UInt8) : VtParser × List Call :=
  match p.intermediates with
  | [] =>
    match final.toNat with
    | 0x37 => (p, [.saveCursor])
    | 0x38 => (p, [.restoreCursor])
    | 0x44 => (p, [.index])
    | 0x45 => (p, [.carriageReturn, .lineFeed])
    | 0x48 => (p, [.setTabStop])
    | 0x4D => (p, [.reverseIndex])
    | 0x63 => (p, [.reset true])
    | 0x5C => (p, [])
    | _ => (p.countUnknown, [])
  | [inter] =>
    if inter = 0x28 then (p, [.designateCharset 0 final.toNat])
    else if inter = 0x29 then (p, [.designateCharset 1 final.toNat])
    else (p.countUnknown, [])
  | _ => (p.countUnknown, [])

/-- The loops of DECSET and DECRST: `4` and `20` are ANSI modes and skipped. -/
def privateModes (params : List Param) (value : Bool) : List Call :=
  params.flatMap fun param =>
    if param.value = 4 ∨ param.value = 20 then [] else [.setMode param.value value]

/-- The loops of SM and RM. -/
def ansiModes (params : List Param) (value : Bool) : List Call :=
  params.flatMap fun param =>
    if param.value = 4 ∨ param.value = 20 then [.setMode param.value value] else []

/-- `DispatchCsi`; `rows` is the height of the grid. -/
def dispatchCsi (rows : Nat) (p : VtParser) (final : UInt8) : VtParser × List Call :=
  let params := p.parseParams
  -- The parameter, 0 where it is absent.
  let p0 (idx : Nat) : Nat := (params.getD idx ⟨0, false⟩).value
  let arg (idx byDefault : Nat) : Nat := if p0 idx > 0 then p0 idx else byDefault
  if p.privateMarker ≠ 0 then
    if p.privateMarker = 0x3F ∧ final = 0x68 then (p, privateModes params true)
    else if p.privateMarker = 0x3F ∧ final = 0x6C then (p, privateModes params false)
    else (p.countUnknown, [])
  else
    match final.toNat with
    | 0x41 => (p, [.moveCursorUp (arg 0 1)])
    | 0x42 => (p, [.moveCursorDown (arg 0 1)])
    | 0x43 => (p, [.moveCursorRight (arg 0 1)])
    | 0x44 => (p, [.moveCursorLeft (arg 0 1)])
    | 0x45 => (p, [.cursorNextLine (arg 0 1)])
    | 0x46 => (p, [.cursorPrevLine (arg 0 1)])
    | 0x47 => (p, [.moveCursorToCol (arg 0 1)])
    | 0x48 | 0x66 => (p, [.moveCursorTo (arg 0 1) (arg 1 1)])
    | 0x49 => (p, List.replicate (arg 0 1) .horizontalTab)
    | 0x5A => (p, [.horizontalTabBack (arg 0 1)])
    | 0x61 => (p, [.moveCursorRight (arg 0 1)])
    | 0x65 => (p, [.moveCursorDown (arg 0 1)])
    | 0x64 => (p, [.moveCursorToRow (arg 0 1)])
    | 0x4A => (p, [.eraseInDisplay (p0 0 % 256)])
    | 0x4B => (p, [.eraseInLine (p0 0 % 256)])
    | 0x58 => (p, [.eraseChars (arg 0 1)])
    | 0x4C => (p, [.insertLines (arg 0 1)])
    | 0x4D => (p, [.deleteLines (arg 0 1)])
    | 0x50 => (p, [.deleteChars (arg 0 1)])
    | 0x40 => (p, [.insertChars (arg 0 1)])
    | 0x53 => (p, [.scrollUp (arg 0 1)])
    | 0x54 => (p, [.scrollDown (arg 0 1)])
    | 0x6D => (p, [.applySgr params])
    | 0x68 => (p, ansiModes params true)
    | 0x6C => (p, ansiModes params false)
    | 0x72 =>
      if p.intermediates = [] then (p, [.setScrollRegion (arg 0 1) (arg 1 rows)])
      else (p.countUnknown, [])
    | 0x67 => (p, [.clearTabStop (p0 0 % 256)])
    | 0x73 => (p, [.saveCursor])
    | 0x75 => (p, [.restoreCursor])
    | 0x70 => if p.intermediates = [0x21] then (p, [.reset false]) else (p.countUnknown, [])
    | 0x71 =>
      if p.intermediates = [0x20] then (p, [.setCursorStyle (UInt8.ofNat (p0 0))])
      else (p.countUnknown, [])
    | 0x62 => (p, [.repeatChar (arg 0 1)])
    | 0x63 | 0x6E => (p, [])
    | _ => (p.countUnknown, [])

/-- A byte of a bypassed payload. -/
def bypassByte (p : VtParser) (raw : UInt8) : VtParser × List Call :=
  if raw = 0x18 ∨ raw = 0x1A then (p.leaveBypass .ground, [])
  else if raw = 0x1B then (p.leaveBypass .escape, [])
  else if raw = 0x07 ∧ p.inOsc then (p.leaveBypass .ground, [])
  else if p.bypassBytes + 1 ≥ bypassLimitBytes then
    -- Sync with the pty is lost.
    (p.leaveBypass .ground, [.setPossiblyDiverged true])
  else ({ p with bypassBytes := p.bypassBytes + 1 }, [])

/-- Enter the bypass state. -/
def enterBypass (p : VtParser) (osc : Bool) : VtParser :=
  { p with inOsc := osc, bypassBytes := 0, state := .bypass }

/-- A sequence dispatched, and back to Ground. -/
def dispatched (r : VtParser × List Call) : VtParser × List Call := (r.1.transitionTo .ground, r.2)

/-- The state machine, for a byte that is no control. -/
def machineByte (rows : Nat) (p : VtParser) (raw : UInt8) : VtParser × List Call :=
  match p.state with
  | .ground => if 0x20 ≤ raw ∧ raw ≤ 0x7E then (p, [.putChar raw.toNat 1]) else (p, [])
  | .escape =>
    if 0x20 ≤ raw ∧ raw ≤ 0x2F then
      ({ p.collectIntermediate raw with state := .escapeIntermediate }, [])
    else if 0x30 ≤ raw ∧ raw ≤ 0x4F then dispatched (p.dispatchEsc raw)
    else if raw = 0x50 then (p.transitionTo .dcsEntry, [])
    else if raw = 0x5B then
      ({ p with params := [], intermediates := [], privateMarker := 0, state := .csiEntry }, [])
    else if raw = 0x5D then (p.enterBypass true, [])
    else if raw = 0x58 ∨ raw = 0x5E ∨ raw = 0x5F then (p.enterBypass false, [])
    else if 0x51 ≤ raw ∧ raw ≤ 0x57 then dispatched (p.dispatchEsc raw)
    else if 0x59 ≤ raw ∧ raw ≤ 0x7E then dispatched (p.dispatchEsc raw)
    else (p, [])
  | .escapeIntermediate =>
    if 0x20 ≤ raw ∧ raw ≤ 0x2F then (p.collectIntermediate raw, [])
    else if 0x30 ≤ raw ∧ raw ≤ 0x7E then dispatched (p.dispatchEsc raw)
    else (p, [])
  | .csiEntry =>
    if 0x30 ≤ raw ∧ raw ≤ 0x3B then ({ p.addParam raw with state := .csiParam }, [])
    else if 0x3C ≤ raw ∧ raw ≤ 0x3F then
      ({ { p with privateMarker := raw }.addParam raw with state := .csiParam }, [])
    else if 0x20 ≤ raw ∧ raw ≤ 0x2F then
      ({ p.collectIntermediate raw with state := .csiIntermediate }, [])
    else if 0x40 ≤ raw ∧ raw ≤ 0x7E then dispatched (p.dispatchCsi rows raw)
    else (p, [])
  | .csiParam =>
    if 0x30 ≤ raw ∧ raw ≤ 0x3F then (p.addParam raw, [])
    else if 0x20 ≤ raw ∧ raw ≤ 0x2F then
      ({ p.collectIntermediate raw with state := .csiIntermediate }, [])
    else if 0x40 ≤ raw ∧ raw ≤ 0x7E then dispatched (p.dispatchCsi rows raw)
    else (p, [])
  | .csiIntermediate =>
    if 0x20 ≤ raw ∧ raw ≤ 0x2F then (p.collectIntermediate raw, [])
    else if 0x40 ≤ raw ∧ raw ≤ 0x7E then dispatched (p.dispatchCsi rows raw)
    else if 0x30 ≤ raw ∧ raw ≤ 0x3F then ({ p with state := .csiIgnore }, [])
    else (p, [])
  | .csiIgnore =>
    if 0x40 ≤ raw ∧ raw ≤ 0x7E then dispatched (p.countUnknown, []) else (p, [])
  | .dcsEntry | .dcsParam | .dcsIntermediate | .dcsPassthrough | .dcsIgnore =>
    (p.enterBypass false, [])
  | .oscString | .sosPmApcString => ({ p with state := .bypass }, [])
  | .bypass => (p, [])

/-- A byte outside a bypassed payload and outside a UTF-8 sequence, and no `CAN`, `SUB` or `ESC`. -/
def plainByte (rows : Nat) (p : VtParser) (raw : UInt8) : VtParser × List Call :=
  if 0xC0 ≤ raw ∧ p.state = .ground then
    let extra := utf8LeadLength raw
    if extra > 0 then
      ({ p with
        utf8Accumulator := (raw &&& leadMask extra).toNat
        utf8Remaining := extra
        utf8SeqLen := extra }, [])
    else (p, [.putChar 0xFFFD 1])
  else if raw < 0x20 then (p, handleControl raw)
  else if raw = 0x7F then (p, [])
  else p.machineByte rows raw

/-- A continuation byte of the sequence that is being read. -/
def continuationByte (p : VtParser) (raw : UInt8) : VtParser × List Call :=
  let p := { p with
    utf8Accumulator := (p.utf8Accumulator <<< 6) ||| (raw &&& 0x3F).toNat
    utf8Remaining := p.utf8Remaining - 1 }
  if p.utf8Remaining ≠ 0 then (p, [])
  else
    let cp := decoded p.utf8SeqLen p.utf8Accumulator
    -- C1 controls are no cell content.
    if 0x80 ≤ cp ∧ cp ≤ 0x9F then (p, [])
    else if p.state = .ground then
      (p, [.putChar cp (if wcwidth cp ≥ 0 then (wcwidth cp).toNat else 1)])
    else (p, [])

/-- `FeedByte`. -/
def feedByte (rows : Nat) (p : VtParser) (raw : UInt8) : VtParser × List Call :=
  if p.state = .bypass then p.bypassByte raw
  else if raw = 0x18 ∨ raw = 0x1A then
    ({ p with utf8Remaining := 0 }.transitionTo .ground,
      if raw = 0x1A then [.putChar 0xFFFD 1] else [])
  else if raw = 0x1B then
    ({ p with
      utf8Remaining := 0
      params := []
      intermediates := []
      privateMarker := 0
      state := .escape }, [])
  else if p.utf8Remaining > 0 then
    if isUtf8Continuation raw then p.continuationByte raw
    else
      -- The sequence is cut short, and the byte is looked at afresh.
      let cut : List Call := if p.state = .ground then [.putChar 0xFFFD 1] else []
      let rest := { p with utf8Remaining := 0 }.plainByte rows raw
      (rest.1, cut ++ rest.2)
  else p.plainByte rows raw

end VtParser

/-- A parser and the grid it feeds. -/
structure Emulator where
  parser : VtParser
  grid : Grid

namespace Emulator

/-- A fresh parser on a grid. -/
def start (g : Grid) : Emulator := ⟨{}, g⟩

/-- `FeedByte` with the calls made. -/
def feedByte (t : Emulator) (raw : UInt8) : Emulator :=
  let fed := t.parser.feedByte t.grid.rows raw
  ⟨fed.1, fed.2.foldl Call.apply t.grid⟩

/-- `Feed`. -/
def feed (t : Emulator) (bytes : Bytes) : Emulator := bytes.foldl feedByte t

/-- What happens to the two: output of the pty, a resize, and a forced reset of the parser. -/
inductive Event where
  | output (bytes : Bytes)
  | resize (screens ring : Bool) (cols rows : Nat)
  | forceGround

/-- One event. -/
def step (t : Emulator) : Event → Option Emulator
  | .output bytes => some (t.feed bytes)
  | .resize screens ring cols rows =>
    some ⟨t.parser, (t.grid.resize screens ring cols rows).2⟩
  | .forceGround => some ⟨t.parser.reset, t.grid.setPossiblyDiverged true⟩

end Emulator

end Zet.Terminal
