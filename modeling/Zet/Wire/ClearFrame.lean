import Zet.Core.Codec
import Zet.Wire.OpeningMessage
import Zet.Wire.SealedFrame

/-!
# Frames in the clear

The framing of `src/wire/frame.cpp` as it stands before authentication, when a body is the bytes of
one message, `PeekHello` of `message.cpp`, which reads as much of a Hello as routing needs, and the
reassembly of frames out of a socket's chunks in `frame_stream.cpp`.
-/

namespace Zet.Wire
open Zet.Core

/-- `CLEARTEXT_EPOCH`. -/
def cleartextEpoch : Nat := 0

/-- A frame before authentication (`FrameView`). -/
structure ClearFrame where
  header : FrameHeader
  body : Bytes
  consumed : Nat
deriving DecidableEq, Repr

/-- `ReadFrameHeader`. -/
def readFrameHeader : Reader FrameHeader := do
  let length ← readBE 4
  let epoch ← readBE 1
  return ⟨length, epoch⟩

/-- The reads of `ReadFrame`. -/
def clearFrame (maxBodyLength : Nat) : Reader ClearFrame := do
  let header ← readFrameHeader
  -- Before reaching for the body: the declared length is checked first.
  if header.length > maxBodyLength then throw .lengthLimitExceeded
  if header.length = 0 then throw .malformedField
  let body ← readBytes header.length
  return ⟨header, body, headerSize + header.length⟩

/-- `ReadFrame`. -/
def readFrame (buffer : Bytes) (maxBodyLength : Nat) : Except ProtoError ClearFrame :=
  (clearFrame maxBodyLength buffer).map Prod.fst

/-- `HelloPeek`. -/
structure HelloPeek where
  frameSize : Nat
  id : SessionId
deriving DecidableEq, Repr

/-- The reads of `PeekHello` inside the frame's body. -/
def peekBody : Reader SessionId := do
  let type ← parseMessageType
  if type ≠ .hello then throw .unexpectedMessage
  let magic ← readBytes helloMagic.length
  if magic ≠ helloMagic then throw .malformedField
  let _ ← parseVersionRange
  readArray sessionIdSize

/-- `PeekHello`. -/
def peekHello (buffer : Bytes) : Except ProtoError HelloPeek := do
  let frame ← readFrame buffer maxHandshakeFrame
  if frame.header.epoch ≠ cleartextEpoch then throw .unexpectedMessage
  let (id, _) ← peekBody frame.body
  return ⟨frame.consumed, id⟩

/-- `FrameStream`: the size of the storage it borrows, how much of that it may fill, and the bytes in
it, the first `pending` of which are the frame handed out last. -/
structure FrameStream where
  storage : Nat
  capacity : Nat
  maxBodyLength : Nat
  held : Bytes
  pending : Nat
deriving DecidableEq, Repr

namespace FrameStream

/-- `FrameStream::ApplyLimit`. -/
def applyLimit (f : FrameStream) (maxBodyLength : Nat) : FrameStream :=
  let capacity := min f.storage (headerSize + maxBodyLength)
  { f with capacity := capacity, maxBodyLength := capacity - min capacity headerSize }

/-- `FrameStream::FrameStream`. -/
def create (storage maxBodyLength : Nat) : FrameStream :=
  applyLimit ⟨storage, 0, 0, [], 0⟩ maxBodyLength

/-- `FrameStream::RaiseLimit`. -/
def raiseLimit (f : FrameStream) (maxBodyLength : Nat) : FrameStream :=
  f.applyLimit (max maxBodyLength f.maxBodyLength)

/-- `FrameStream::Buffered`. -/
def buffered (f : FrameStream) : Nat := f.held.length - f.pending

/-- `FrameStream::DropPending`. -/
def dropPending (f : FrameStream) : FrameStream :=
  { f with held := f.held.drop f.pending, pending := 0 }

/-- `FrameStream::Append`. -/
def append (f : FrameStream) (chunk : Bytes) : Except ProtoError Unit × FrameStream :=
  let f := f.dropPending
  if chunk.length > f.capacity - f.held.length then (.error .lengthLimitExceeded, f)
  else (.ok (), { f with held := f.held ++ chunk })

/-- `FrameStream::Next`. -/
def next (f : FrameStream) : Except ProtoError (Option ClearFrame) × FrameStream :=
  let f := f.dropPending
  match readFrame f.held f.maxBodyLength with
  | .error .truncated => (.ok none, f)
  | .error e => (.error e, f)
  | .ok frame => (.ok (some frame), { f with pending := frame.consumed })

end FrameStream

/-- A frame is not empty, and was all there. -/
lemma readFrame_consumed {buffer : Bytes} {maxBodyLength : Nat} {frame : ClearFrame}
    (h : readFrame buffer maxBodyLength = .ok frame) :
    0 < frame.consumed ∧ frame.consumed ≤ buffer.length := by
  unfold readFrame at h
  cases hclear : clearFrame maxBodyLength buffer with
  | error e => rw [hclear] at h; cases h
  | ok r =>
    obtain ⟨frame', left⟩ := r
    rw [hclear] at h
    cases h
    obtain ⟨header, rest, hheader, hbody⟩ := Reader.bind_eq_ok hclear
    obtain ⟨length, rest₁, hlength, hheader⟩ := Reader.bind_eq_ok hheader
    obtain ⟨epoch, rest₂, hepoch, hheader⟩ := Reader.bind_eq_ok hheader
    obtain ⟨rfl, rfl⟩ := Reader.pure_eq_ok hheader
    obtain ⟨-, hbody⟩ := Reader.check_eq_ok hbody
    obtain ⟨-, hbody⟩ := Reader.check_eq_ok hbody
    obtain ⟨body, rest₃, hread, hbody⟩ := Reader.bind_eq_ok hbody
    obtain ⟨rfl, rfl⟩ := Reader.pure_eq_ok hbody
    obtain ⟨rfl, -⟩ := readBE_eq_ok hlength
    obtain ⟨rfl, -⟩ := readBE_eq_ok hepoch
    obtain ⟨rfl, hlong⟩ := readBytes_eq_ok hread
    dsimp only at hlong ⊢
    simp only [List.length_append, length_encodeBE, hlong, headerSize]
    omega

namespace FrameStream
variable {f f' : FrameStream}

/-- Dropping the frame that was handed out leaves what is buffered. -/
lemma length_dropPending (f : FrameStream) : f.dropPending.held.length = f.buffered := List.length_drop

/-- What was handed out is dropped once. -/
lemma next_dropPending (f : FrameStream) : f.dropPending.next = f.next := rfl

/-- With no whole frame left, nothing but what was handed out is dropped. -/
lemma next_none (h : (f.next).1 = .ok none) : f.next = (.ok none, f.dropPending) := by
  unfold next at h ⊢
  dsimp only at h ⊢
  split at h
  · rfl
  · cases h
  · cases h

/-- A frame leaves less behind. -/
lemma next_some {frame : ClearFrame} (h : f.next = (.ok (some frame), f')) : f'.buffered < f.buffered := by
  unfold next at h
  dsimp only at h
  split at h
  · cases h
  · cases h
  · next hread =>
    cases h
    obtain ⟨hpos, hle⟩ := readFrame_consumed hread
    rw [length_dropPending] at hle
    show f.dropPending.held.length - frame.consumed < f.buffered
    rw [length_dropPending]
    omega

/-- Nothing buffered is no frame. -/
lemma next_of_buffered (h : f.buffered = 0) : (f.next).1 = .ok none := by
  have hheld : f.dropPending.held = [] := List.eq_nil_of_length_eq_zero (by rw [length_dropPending, h])
  unfold next
  dsimp only
  rw [hheld]
  rfl

end FrameStream

end Zet.Wire
