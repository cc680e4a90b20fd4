import Zet.Session.SendBuffer

/-!
# The receive cursor

`src/session/receive_cursor.cpp`: how much of the peer's stream has arrived (`recvOffset`) and how
much of that the caller has not yet disposed of (`pending`). A segment that overlaps what is already
here is cut down to its new tail; a segment that starts above it is a gap.

`receive_ok` says everything a successful call does, `receive_error` when a call fails: above the
cursor, or where the end of the segment does not fit the 64 bits the source counts in.
-/

namespace Zet.Session
open Zet.Core

/-- `EInputAck`: when the cursor tells the peer it holds a byte. -/
inductive InputAck where
  | onReceipt
  | onDelivery
deriving DecidableEq, Repr

/-- `ReceiveCursor`. -/
structure ReceiveCursor where
  recvOffset : Nat
  pending : Nat
  ack : InputAck
deriving DecidableEq, Repr

namespace ReceiveCursor

/-- `ReceiveCursor::ReceiveCursor`. -/
def create (initialOffset : Nat) (ack : InputAck) : ReceiveCursor := ⟨initialOffset, 0, ack⟩

/-- `ReceiveCursor::AckOffset`. -/
def ackOffset (c : ReceiveCursor) : Nat := c.recvOffset - c.pending

/-- `ReceiveCursor::Receive`: the new tail of the segment. -/
def receive (c : ReceiveCursor) (offset : Nat) (bytes : Bytes) :
    Except StreamError (Bytes × ReceiveCursor) :=
  if bytes.length > 2 ^ 64 - 1 - offset then .error .streamGap
  else
    let endOffset := offset + bytes.length
    if offset > c.recvOffset then .error .streamGap
    else if endOffset ≤ c.recvOffset then .ok ([], c)
    else
      let newBytes := bytes.drop (c.recvOffset - offset)
      .ok (newBytes, { c with
        recvOffset := c.recvOffset + newBytes.length,
        pending := if c.ack = .onDelivery then c.pending + newBytes.length else c.pending })

/-- `ReceiveCursor::MarkDelivered`. -/
def markDelivered (c : ReceiveCursor) (count : Nat) : Bool × ReceiveCursor :=
  if count > c.pending then (false, c) else (true, { c with pending := c.pending - count })

/-- `ReceiveCursor::Unreceive`. -/
def unreceive (c : ReceiveCursor) (count : Nat) : Bool × ReceiveCursor :=
  if count > c.pending then (false, c)
  else (true, { c with pending := c.pending - count, recvOffset := c.recvOffset - count })

/-- `ReceiveCursor::Reset`. -/
def reset (c : ReceiveCursor) (offset : Nat) : ReceiveCursor :=
  { c with recvOffset := offset, pending := 0 }

/-- What the cursor keeps: nothing is pending that has not arrived, and with `onReceipt` nothing is
pending at all. -/
structure Valid (c : ReceiveCursor) : Prop where
  pending_le : c.pending ≤ c.recvOffset
  onReceipt : c.ack = .onReceipt → c.pending = 0

variable {c c' : ReceiveCursor} {offset : Nat} {bytes out : Bytes}

/-- A new cursor is valid. -/
lemma Valid.create (offset : Nat) (ack : InputAck) : Valid (create offset ack) :=
  ⟨Nat.zero_le _, fun _ => rfl⟩

/-- What is acknowledged has been received. -/
lemma Valid.ackOffset_le (_ : Valid c) : c.ackOffset ≤ c.recvOffset := Nat.sub_le _ _

/-- A call fails with a gap, and only above the cursor or past the 64 bits of an offset. -/
lemma receive_error {e : StreamError} (h : c.receive offset bytes = .error e) :
    e = .streamGap ∧ (c.recvOffset < offset ∨ 2 ^ 64 - 1 < offset + bytes.length) := by
  unfold receive at h
  split at h
  · next hbig =>
    cases h
    exact ⟨rfl, .inr (by omega)⟩
  · dsimp only at h
    split at h
    · next hgap =>
      cases h
      exact ⟨rfl, .inl hgap⟩
    · split at h <;> cases h

/-- A successful call returns the part of the segment from the cursor on, and moves past it. -/
lemma receive_ok (h : c.receive offset bytes = .ok (out, c')) :
    offset ≤ c.recvOffset ∧ out = bytes.drop (c.recvOffset - offset) ∧
      c'.recvOffset = c.recvOffset + out.length ∧ c'.ack = c.ack ∧
      c'.pending = if c.ack = .onDelivery then c.pending + out.length else c.pending := by
  unfold receive at h
  split at h
  · cases h
  · dsimp only at h
    split at h
    · cases h
    · next hle =>
      split at h
      · next hdup =>
        cases h
        have hnil : bytes.drop (c.recvOffset - offset) = [] :=
          List.drop_of_length_le (by omega)
        refine ⟨by omega, hnil.symm, rfl, rfl, ?_⟩
        split <;> simp
      · cases h
        exact ⟨by omega, rfl, rfl, rfl, rfl⟩

/-- Where a successful call leaves the cursor. -/
lemma receive_recvOffset (h : c.receive offset bytes = .ok (out, c')) :
    c'.recvOffset = max c.recvOffset (offset + bytes.length) := by
  obtain ⟨hle, rfl, hrecv, -, -⟩ := receive_ok h
  rw [hrecv, List.length_drop]
  omega

/-- Receiving acknowledges nothing on an end that acknowledges on delivery. -/
lemma receive_ackOffset (h : c.receive offset bytes = .ok (out, c')) (hack : c.ack = .onDelivery)
    (hpend : c.pending ≤ c.recvOffset) : c'.ackOffset = c.ackOffset := by
  obtain ⟨-, -, hrecv, -, hpending⟩ := receive_ok h
  rw [if_pos hack] at hpending
  simp only [ackOffset]
  omega

/-- Receiving keeps a cursor valid. -/
lemma Valid.receive (v : Valid c) (h : c.receive offset bytes = .ok (out, c')) : Valid c' := by
  obtain ⟨-, -, hrecv, hack, hpending⟩ := receive_ok h
  have := v.pending_le
  constructor
  · rw [hrecv, hpending]
    split <;> omega
  · intro hon
    rw [hpending, if_neg (by rw [← hack, hon]; decide)]
    exact v.onReceipt (hack ▸ hon)

/-- A cursor that starts over is valid. -/
lemma Valid.reset (c : ReceiveCursor) (offset : Nat) : Valid (c.reset offset) :=
  ⟨Nat.zero_le _, fun _ => rfl⟩

end ReceiveCursor

end Zet.Session
