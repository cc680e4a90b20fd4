import Zet.Core.Bytes

/-!
# Session messages

The codecs of `src/wire/message.cpp` for what travels sealed after authentication: Data and its
acknowledgement, the control messages, SessionEnd, the grid messages and Resume. Each parser reads
the bytes after the type byte, in the order and with the errors of the source; each writer emits the
type byte first.

The round trips at the end say what a reader makes of an honest writer's bytes: fields come back
modulo the width they were written in.
-/

namespace Zet.Wire
open Zet.Core

/-- `HEADER_SIZE`: length and epoch. -/
def headerSize : Nat := 5
/-- `crypto::TAG_SIZE`. -/
def tagSize : Nat := 16
/-- `MAX_FRAME`. -/
def maxFrame : Nat := 256 * 1024
/-- `PROTOCOL_VERSION_MIN`. -/
def protocolVersionMin : Nat := 1
/-- `PROTOCOL_VERSION_GRID`. -/
def protocolVersionGrid : Nat := 2
/-- `SNAPSHOT_MAX_BYTES`. -/
def snapshotMaxBytes : Nat := 4 * 1024 * 1024
/-- `MAX_DATA_PAYLOAD`: a frame less tag, type byte, ack and offset. -/
def maxDataPayload : Nat := maxFrame - tagSize - 1 - 2 * 8
/-- `GRID_CHUNK_MAX_DATA`: a frame less tag, type byte and chunk offset. -/
def gridChunkMaxData : Nat := maxFrame - tagSize - 1 - 4
/-- `GRID_BEGIN_FLAG_DEFINED_MASK`. -/
def gridBeginFlagDefinedMask : Nat := 0x01

/-- Flag bits outside the defined mask. -/
def gridBeginFlagReserved (flags : Nat) : Bool := flags % 256 > gridBeginFlagDefinedMask

/-- `EMessageType`. -/
inductive MessageType where
  | hello | challenge | auth | authOk | resume
  | bootstrapOffer | bootstrapAccept
  | data | ack | resize | ping | pong | sessionEnd
  | gridBegin | gridChunk | gridEnd | gridApplied
  | muxRegister | muxRegistered | muxRefused | muxHandoff
deriving DecidableEq, Repr

/-- The byte each type has on the wire. -/
def MessageType.toByte : MessageType → Nat
  | .hello => 0x01
  | .challenge => 0x02
  | .auth => 0x03
  | .authOk => 0x04
  | .resume => 0x05
  | .bootstrapOffer => 0x06
  | .bootstrapAccept => 0x07
  | .data => 0x10
  | .ack => 0x11
  | .resize => 0x12
  | .ping => 0x13
  | .pong => 0x14
  | .sessionEnd => 0x15
  | .gridBegin => 0x16
  | .gridChunk => 0x17
  | .gridEnd => 0x18
  | .gridApplied => 0x19
  | .muxRegister => 0x20
  | .muxRegistered => 0x21
  | .muxRefused => 0x22
  | .muxHandoff => 0x23

/-- The type a byte names, if it is assigned. -/
def MessageType.ofByte : Nat → Option MessageType
  | 0x01 => some .hello
  | 0x02 => some .challenge
  | 0x03 => some .auth
  | 0x04 => some .authOk
  | 0x05 => some .resume
  | 0x06 => some .bootstrapOffer
  | 0x07 => some .bootstrapAccept
  | 0x10 => some .data
  | 0x11 => some .ack
  | 0x12 => some .resize
  | 0x13 => some .ping
  | 0x14 => some .pong
  | 0x15 => some .sessionEnd
  | 0x16 => some .gridBegin
  | 0x17 => some .gridChunk
  | 0x18 => some .gridEnd
  | 0x19 => some .gridApplied
  | 0x20 => some .muxRegister
  | 0x21 => some .muxRegistered
  | 0x22 => some .muxRefused
  | 0x23 => some .muxHandoff
  | _ => none

/-- Every type is read back from its byte. -/
lemma MessageType.ofByte_toByte (t : MessageType) : ofByte (t.toByte % 256 ^ 1) = some t := by
  cases t <;> rfl

/-- `ParseMessageType`. -/
def parseMessageType : Reader MessageType := do
  match MessageType.ofByte (← readBE 1) with
  | some type => return type
  | none => throw .unknownMessageType

/-- `WriteMessageType`. -/
def writeMessageType (type : MessageType) : Writer Unit := writeBE 1 type.toByte

/-- `DataMessage`: a piece of the stream at its offset, with the sender's acknowledgement. -/
structure DataMessage where
  ack : Nat
  offset : Nat
  payload : Bytes
deriving DecidableEq, Repr

/-- `AckMessage`. -/
structure AckMessage where
  ack : Nat
deriving DecidableEq, Repr

/-- `ResizeMessage`. -/
structure ResizeMessage where
  rows : Nat
  cols : Nat
  xpixel : Nat
  ypixel : Nat
deriving DecidableEq, Repr

/-- `PingMessage` and `PongMessage`: a token the peer echoes. -/
structure PingMessage where
  token : Nat
deriving DecidableEq, Repr

/-- `ESessionEndKind`. -/
inductive SessionEndKind where
  | exited | signaled | overflow
deriving DecidableEq, Repr

/-- `SessionEndMessage`. -/
structure SessionEndMessage where
  kind : SessionEndKind
  value : Nat
deriving DecidableEq, Repr

/-- `GridBeginMessage`. -/
structure GridBeginMessage where
  flags : Nat
  streamGen : Nat
  scrollbackLen : Nat
  totalLen : Nat
deriving DecidableEq, Repr

/-- `GridChunkMessage`. -/
structure GridChunkMessage where
  chunkOffset : Nat
  data : Bytes
deriving DecidableEq, Repr

/-- `GridAppliedMessage`. -/
structure GridAppliedMessage where
  streamGen : Nat
deriving DecidableEq, Repr

/-- `ResumeMessage`: the generation the client applied and how much of it the client holds. -/
structure ResumeMessage where
  streamGen : Nat
  clientReceiveOffset : Nat
deriving DecidableEq, Repr

/-- `ParseData`. -/
def parseData : Reader DataMessage := do
  let ack ← readBE 8
  let offset ← readBE 8
  let payload ← readRest
  if payload.isEmpty then throw .malformedField
  if payload.length > maxDataPayload then throw .lengthLimitExceeded
  skipBytes payload.length
  return ⟨ack, offset, payload⟩

/-- `WriteData`. -/
def writeData (m : DataMessage) : Writer Unit := do
  if m.payload.isEmpty then throw .malformedField
  if m.payload.length > maxDataPayload then throw .lengthLimitExceeded
  writeMessageType .data
  writeBE 8 m.ack
  writeBE 8 m.offset
  writeBytes m.payload

/-- `ParseAck`. -/
def parseAck : Reader AckMessage := do
  let ack ← readBE 8
  requireExhausted
  return ⟨ack⟩

/-- `WriteAck`. -/
def writeAck (m : AckMessage) : Writer Unit := do
  writeMessageType .ack
  writeBE 8 m.ack

/-- `ParseResize`. -/
def parseResize : Reader ResizeMessage := do
  let rows ← readBE 2
  let cols ← readBE 2
  let xpixel ← readBE 2
  let ypixel ← readBE 2
  requireExhausted
  return ⟨rows, cols, xpixel, ypixel⟩

/-- `WriteResize`. -/
def writeResize (m : ResizeMessage) : Writer Unit := do
  writeMessageType .resize
  writeBE 2 m.rows
  writeBE 2 m.cols
  writeBE 2 m.xpixel
  writeBE 2 m.ypixel

/-- A token of eight bytes and nothing after it. -/
def parseToken : Reader PingMessage := do
  let token ← readBE 8
  requireExhausted
  return ⟨token⟩

/-- `ParsePing`. -/
def parsePing : Reader PingMessage := parseToken

/-- `ParsePong`. -/
def parsePong : Reader PingMessage := parseToken

/-- `WritePing`. -/
def writePing (m : PingMessage) : Writer Unit := do
  writeMessageType .ping
  writeBE 8 m.token

/-- `WritePong`. -/
def writePong (m : PingMessage) : Writer Unit := do
  writeMessageType .pong
  writeBE 8 m.token

/-- The value of each `ESessionEndKind`. -/
def SessionEndKind.toByte : SessionEndKind → Nat
  | .exited => 0
  | .signaled => 1
  | .overflow => 2

/-- `IsSessionEndKind` and the cast it guards. -/
def SessionEndKind.ofByte : Nat → Option SessionEndKind
  | 0 => some .exited
  | 1 => some .signaled
  | 2 => some .overflow
  | _ => none

/-- `ParseSessionEnd`. -/
def parseSessionEnd (version : Nat) : Reader SessionEndMessage := do
  let rawKind ← readBE 1
  let value ← readBE 1
  match SessionEndKind.ofByte rawKind with
  | none => throw .malformedField
  | some kind =>
    if kind = .overflow ∧ version < protocolVersionGrid then throw .malformedField
    if kind = .overflow ∧ value ≠ 0 then throw .malformedField
    requireExhausted
    return ⟨kind, value⟩

/-- `WriteSessionEnd`. -/
def writeSessionEnd (m : SessionEndMessage) (version : Nat) : Writer Unit := do
  if m.kind = .overflow ∧ version < protocolVersionGrid then throw .malformedField
  if m.kind = .overflow ∧ m.value ≠ 0 then throw .malformedField
  writeMessageType .sessionEnd
  writeBE 1 m.kind.toByte
  writeBE 1 m.value

/-- `ParseGridBegin`. -/
def parseGridBegin : Reader GridBeginMessage := do
  let flags ← readBE 1
  if gridBeginFlagReserved flags then throw .malformedField
  let gen ← readBE 4
  let scrollback ← readBE 4
  let total ← readBE 4
  if total = 0 ∨ total > snapshotMaxBytes then throw .lengthLimitExceeded
  if scrollback > total then throw .lengthLimitExceeded
  requireExhausted
  return ⟨flags, gen, scrollback, total⟩

/-- `WriteGridBegin`. -/
def writeGridBegin (m : GridBeginMessage) : Writer Unit := do
  if gridBeginFlagReserved m.flags then throw .malformedField
  if m.totalLen = 0 ∨ m.totalLen > snapshotMaxBytes then throw .lengthLimitExceeded
  if m.scrollbackLen > m.totalLen then throw .lengthLimitExceeded
  writeMessageType .gridBegin
  writeBE 1 m.flags
  writeBE 4 m.streamGen
  writeBE 4 m.scrollbackLen
  writeBE 4 m.totalLen

/-- `ParseGridChunk`. -/
def parseGridChunk : Reader GridChunkMessage := do
  let offset ← readBE 4
  let data ← readRest
  if data.isEmpty then throw .malformedField
  if data.length > gridChunkMaxData then throw .lengthLimitExceeded
  skipBytes data.length
  return ⟨offset, data⟩

/-- `WriteGridChunk`. -/
def writeGridChunk (m : GridChunkMessage) : Writer Unit := do
  if m.data.isEmpty then throw .malformedField
  if m.data.length > gridChunkMaxData then throw .lengthLimitExceeded
  writeMessageType .gridChunk
  writeBE 4 m.chunkOffset
  writeBytes m.data

/-- `ParseGridEnd`: no fields. -/
def parseGridEnd : Reader Unit := requireExhausted

/-- `WriteGridEnd`. -/
def writeGridEnd : Writer Unit := writeMessageType .gridEnd

/-- `ParseGridApplied`. -/
def parseGridApplied : Reader GridAppliedMessage := do
  let gen ← readBE 4
  requireExhausted
  return ⟨gen⟩

/-- `WriteGridApplied`. -/
def writeGridApplied (m : GridAppliedMessage) : Writer Unit := do
  writeMessageType .gridApplied
  writeBE 4 m.streamGen

/-- `ParseResume`: version 2 puts the generation in front of the offset. -/
def parseResume (version : Nat) : Reader ResumeMessage := do
  let gen ← if version ≥ protocolVersionGrid then readBE 4 else pure 0
  let offset ← readBE 8
  requireExhausted
  return ⟨gen, offset⟩

/-- `WriteResume`. -/
def writeResume (m : ResumeMessage) (version : Nat) : Writer Unit := do
  if version < protocolVersionGrid ∧ m.streamGen ≠ 0 then throw .malformedField
  writeMessageType .resume
  if version ≥ protocolVersionGrid then writeBE 4 m.streamGen
  writeBE 8 m.clientReceiveOffset

/-- The bytes of a Data message. -/
def dataBytes (ack offset : Nat) (payload : Bytes) : Bytes :=
  encodeBE 1 MessageType.data.toByte ++ (encodeBE 8 ack ++ (encodeBE 8 offset ++ payload))

/-- The bytes of an Ack message. -/
def ackBytes (ack : Nat) : Bytes := encodeBE 1 MessageType.ack.toByte ++ encodeBE 8 ack

/-- The type byte of any written message is read back. -/
lemma parseMessageType_write (type : MessageType) (tail : Bytes) :
    parseMessageType (encodeBE 1 type.toByte ++ tail) = .ok (type, tail) := by
  rw [parseMessageType, Reader.bind_ok (readBE_encodeBE 1 type.toByte tail),
    MessageType.ofByte_toByte]
  rfl

/-- Reading back a field at the end of a message. -/
lemma readBE_encodeBE_last (width n : Nat) :
    readBE width (encodeBE width n) = .ok (n % 256 ^ width, []) := by
  simpa using readBE_encodeBE width n []

/-- Data is read back up to the widths of its numbers. -/
lemma parseData_write {ack offset : Nat} {payload : Bytes} (nonempty : payload ≠ [])
    (short : payload.length ≤ maxDataPayload) :
    parseData (encodeBE 8 ack ++ (encodeBE 8 offset ++ payload)) =
      .ok (⟨ack % 256 ^ 8, offset % 256 ^ 8, payload⟩, []) := by
  rw [parseData, Reader.bind_ok (readBE_encodeBE 8 ack _),
    Reader.bind_ok (readBE_encodeBE 8 offset _)]
  simp [readRest, nonempty, Nat.not_lt.mpr short, bind, StateT.bind, Except.bind, get, getThe,
    MonadStateOf.get, StateT.get, pure, Except.pure, skipBytes]
  rfl

/-- So is Ack. -/
lemma parseAck_write (ack : Nat) : parseAck (encodeBE 8 ack) = .ok (⟨ack % 256 ^ 8⟩, []) := by
  rw [parseAck, Reader.bind_ok (readBE_encodeBE_last 8 ack)]
  rfl

/-- So is Resize. -/
lemma parseResize_write (m : ResizeMessage) :
    parseResize (encodeBE 2 m.rows ++ (encodeBE 2 m.cols ++
      (encodeBE 2 m.xpixel ++ encodeBE 2 m.ypixel))) =
      .ok (⟨m.rows % 256 ^ 2, m.cols % 256 ^ 2, m.xpixel % 256 ^ 2, m.ypixel % 256 ^ 2⟩, []) := by
  rw [parseResize, Reader.bind_ok (readBE_encodeBE 2 m.rows _),
    Reader.bind_ok (readBE_encodeBE 2 m.cols _), Reader.bind_ok (readBE_encodeBE 2 m.xpixel _),
    Reader.bind_ok (readBE_encodeBE_last 2 m.ypixel)]
  rfl

/-- So is the token of a Ping or Pong. -/
lemma parseToken_write (token : Nat) :
    parseToken (encodeBE 8 token) = .ok (⟨token % 256 ^ 8⟩, []) := by
  rw [parseToken, Reader.bind_ok (readBE_encodeBE_last 8 token)]
  rfl

/-- So is GridApplied. -/
lemma parseGridApplied_write (gen : Nat) :
    parseGridApplied (encodeBE 4 gen) = .ok (⟨gen % 256 ^ 4⟩, []) := by
  rw [parseGridApplied, Reader.bind_ok (readBE_encodeBE_last 4 gen)]
  rfl

/-- So is GridBegin. -/
lemma parseGridBegin_write {flags gen scrollback total : Nat}
    (hflags : gridBeginFlagReserved flags = false) (byte : flags < 256) (pos : total ≠ 0)
    (max : total ≤ snapshotMaxBytes) (split : scrollback ≤ total) :
    parseGridBegin (encodeBE 1 flags ++ (encodeBE 4 gen ++
      (encodeBE 4 scrollback ++ encodeBE 4 total))) =
      .ok (⟨flags, gen % 256 ^ 4, scrollback, total⟩, []) := by
  have hwide : snapshotMaxBytes < 256 ^ 4 := by decide
  have hflag : flags % 256 ^ 1 = flags := Nat.mod_eq_of_lt byte
  have htotal : total % 256 ^ 4 = total := Nat.mod_eq_of_lt (by omega)
  have hscrollback : scrollback % 256 ^ 4 = scrollback := Nat.mod_eq_of_lt (by omega)
  rw [parseGridBegin, Reader.bind_ok (readBE_encodeBE 1 flags _), hflag, if_neg (by simp [hflags])]
  beta_reduce
  rw [Reader.bind_ok (readBE_encodeBE 4 gen _), Reader.bind_ok (readBE_encodeBE 4 scrollback _),
    Reader.bind_ok (readBE_encodeBE_last 4 total), htotal, hscrollback, if_neg (by omega)]
  beta_reduce
  rw [if_neg (by omega)]
  rfl

/-- So is GridChunk. -/
lemma parseGridChunk_write {offset : Nat} {data : Bytes} (nonempty : data ≠ [])
    (short : data.length ≤ gridChunkMaxData) :
    parseGridChunk (encodeBE 4 offset ++ data) = .ok (⟨offset % 256 ^ 4, data⟩, []) := by
  rw [parseGridChunk, Reader.bind_ok (readBE_encodeBE 4 offset _)]
  simp [readRest, nonempty, Nat.not_lt.mpr short, bind, StateT.bind, Except.bind, get, getThe,
    MonadStateOf.get, StateT.get, pure, Except.pure, skipBytes]
  rfl

/-- The generation of a GridBegin is read back, if the message is read at all. -/
lemma parseGridBegin_gen {flags gen scrollback total : Nat} {m : GridBeginMessage} {rest : Bytes}
    (h : parseGridBegin (encodeBE 1 flags ++ (encodeBE 4 gen ++
      (encodeBE 4 scrollback ++ encodeBE 4 total))) = .ok (m, rest)) :
    m.streamGen = gen % 256 ^ 4 := by
  rw [parseGridBegin, Reader.bind_ok (readBE_encodeBE 1 flags _)] at h
  split at h
  · cases h
  beta_reduce at h
  rw [Reader.bind_ok (readBE_encodeBE 4 gen _), Reader.bind_ok (readBE_encodeBE 4 scrollback _),
    Reader.bind_ok (readBE_encodeBE_last 4 total)] at h
  split at h
  · cases h
  split at h
  · cases h
  cases h
  rfl

/-- So is Resume, with the generation its version has. -/
lemma parseResume_write (version gen offset : Nat) :
    parseResume version ((if version ≥ protocolVersionGrid then encodeBE 4 gen else []) ++
      encodeBE 8 offset) =
      .ok (⟨if version ≥ protocolVersionGrid then gen % 256 ^ 4 else 0, offset % 256 ^ 8⟩, []) := by
  unfold parseResume
  split
  · rw [Reader.bind_ok (readBE_encodeBE 4 gen _)]
    beta_reduce
    rw [Reader.bind_ok (readBE_encodeBE_last 8 offset)]
    rfl
  · have hnone : (pure 0 : Reader Nat) (encodeBE 8 offset) = .ok (0, encodeBE 8 offset) := rfl
    rw [List.nil_append, Reader.bind_ok hnone]
    beta_reduce
    rw [Reader.bind_ok (readBE_encodeBE_last 8 offset)]
    rfl

end Zet.Wire
