import Zet.Wire.Readback
import Zet.Wire.Reassembly

/-!
# Frames on the local socket

`src/app/mux_frames.cpp`, both ends of `mux.sock`: cleartext frames that carry the local messages, and
the reader that cuts a stream of them into bodies. A frame written by `cleartextFrame` is a `WireFrame`
of epoch 0 (`cleartextFrame_eq`), so what the reader does with the front of a sequence of them is known
without looking into it (`next_front`).
-/

namespace Zet.App
open Zet.Core Zet.Wire

/-- `MUX_MAX_BODY`. -/
def muxMaxBody : Nat := 1 + 2 + maxHandoffPrefix
/-- `MUX_MAX_FRAME`. -/
def muxMaxFrame : Nat := headerSize + muxMaxBody

/-- `WriteFrameHeader`. -/
def writeFrameHeader (h : FrameHeader) : Writer Unit := do
  writeBE 4 h.length
  writeBE 1 h.epoch

/-- `CleartextFrame`: empty where the message does not encode. -/
def cleartextFrame (write : Writer Unit) : Bytes :=
  match writeInto muxMaxBody write with
  | .error _ => []
  | .ok body =>
    match writeInto headerSize (writeFrameHeader ⟨body.length, cleartextEpoch⟩) with
    | .error _ => []
    | .ok head => head ++ body

/-- `MuxFrameReader`. -/
structure MuxFrameReader where
  bytes : Bytes
deriving DecidableEq, Repr

namespace MuxFrameReader

/-- `MuxFrameReader{}`. -/
def empty : MuxFrameReader := ⟨[]⟩

/-- `MuxFrameReader::CAPACITY`. -/
def capacity : Nat := 2 * muxMaxFrame

/-- `MuxFrameReader::Room`. -/
def room (r : MuxFrameReader) : Nat := capacity - r.bytes.length

/-- `MuxFrameReader::Append`. -/
def append (r : MuxFrameReader) (chunk : Bytes) : MuxFrameReader := ⟨r.bytes ++ chunk⟩

/-- `MuxFrameReader::Next`. -/
def next (r : MuxFrameReader) : Except ProtoError (Option Bytes) × MuxFrameReader :=
  match readFrame r.bytes muxMaxBody with
  | .error .truncated => (.ok none, r)
  | .error e => (.error e, r)
  | .ok frame =>
    if frame.header.epoch ≠ cleartextEpoch then (.error .unexpectedMessage, r)
    else (.ok (some frame.body), ⟨r.bytes.drop frame.consumed⟩)

end MuxFrameReader

/-- A body that fits `mux.sock`, framed. -/
def clearFrameOf (body : Bytes) (pos : 0 < body.length) (fits : body.length ≤ muxMaxBody) : WireFrame where
  epoch := 0
  body := body
  pos := pos
  word := fits.trans_lt (by decide)

/-- A body that was written and fits becomes its frame. -/
lemma cleartextFrame_eq {write : Writer Unit} {body : Bytes} (written : writeInto muxMaxBody write = .ok body)
    (pos : 0 < body.length) (fits : body.length ≤ muxMaxBody) :
    cleartextFrame write = (clearFrameOf body pos fits).bytes := by
  have hhead : writeInto headerSize (writeFrameHeader ⟨body.length, cleartextEpoch⟩) =
      .ok (encodeBE 4 body.length ++ encodeBE 1 cleartextEpoch) := by
    have hemits : Emits (writeFrameHeader ⟨body.length, cleartextEpoch⟩)
        (encodeBE 4 body.length ++ encodeBE 1 cleartextEpoch) :=
      (emits_writeBE 4 body.length).bind (emits_writeBE 1 cleartextEpoch)
    rw [hemits.writeInto headerSize, if_pos (by simp [headerSize])]
  unfold cleartextFrame
  rw [written]
  dsimp only
  rw [hhead]
  rfl

namespace MuxFrameReader

/-- An empty reader has no frame. -/
lemma next_empty : empty.next = (.ok none, empty) := rfl

/-- A reader that hands nothing out is what it was. -/
lemma next_same {r reader : MuxFrameReader} {result : Except ProtoError (Option Bytes)}
    (h : r.next = (result, reader)) (nothing : ∀ body, result ≠ .ok (some body)) : reader = r := by
  unfold next at h
  split at h
  · cases h
    rfl
  · cases h
    rfl
  · split at h
    · cases h
      rfl
    · cases h
      exact absurd rfl (nothing _)

/-- The reader never grows by what it hands out. -/
lemma length_next (r : MuxFrameReader) : r.next.2.bytes.length ≤ r.bytes.length := by
  unfold next
  split
  · exact le_rfl
  · exact le_rfl
  · split
    · exact le_rfl
    · exact (List.drop_sublist _ _).length_le

/-- What is at the front of a sequence of frames: the first of them, or too little of it. -/
lemma next_front {r : MuxFrameReader} {f : WireFrame} {more tail : Bytes}
    (h : r.bytes ++ more = f.bytes ++ tail) (clear : f.epoch = 0) (limit : f.body.length ≤ muxMaxBody) :
    r.next = if r.bytes.length < f.bytes.length then (.ok none, r)
      else (.ok (some f.body), ⟨r.bytes.drop f.bytes.length⟩) := by
  unfold next
  rw [readFrame_front h limit]
  by_cases hshort : r.bytes.length < f.bytes.length
  · rw [if_pos hshort, if_pos hshort]
  · rw [if_neg hshort, if_neg hshort]
    have hepoch : f.view.header.epoch = cleartextEpoch := by
      simp [WireFrame.view, clear, cleartextEpoch]
    dsimp only
    rw [if_neg (not_not.mpr hepoch), f.length_bytes]
    rfl

end MuxFrameReader

end Zet.App
