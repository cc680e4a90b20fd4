import Zet.Session.ReceiveCursor
import Zet.Lib.Run

/-!
# What a receive cursor hands out

A run of `Receive`, `MarkDelivered` and `Unreceive` on segments cut from one endless stream, each at
its own offset, in any order and with any overlap. `Reception` keeps what the caller was handed less
what it gave back; `Reception.Whole` says that this is the stream's beginning, up to where the
cursor stands.
-/

namespace Zet.Session
open Zet.Core Zet.Lib

/-- The `len` bytes of a stream from `offset` on. -/
def cut (stream : Nat → UInt8) (offset len : Nat) : Bytes :=
  (List.range' offset len).map stream

section
variable {stream : Nat → UInt8} {offset len : Nat}

/-- A cut has the length that was asked for. -/
@[simp] lemma length_cut : (cut stream offset len).length = len := by
  simp [cut]

/-- Adjacent cuts are one cut. -/
lemma cut_append (stream : Nat → UInt8) (offset len more : Nat) :
    cut stream offset len ++ cut stream (offset + len) more = cut stream offset (len + more) := by
  rw [cut, cut, cut, ← List.map_append, List.range'_append_1]

/-- Dropping from the front of a cut leaves a later cut. -/
lemma drop_cut (stream : Nat → UInt8) (offset len n : Nat) :
    (cut stream offset len).drop n = cut stream (offset + n) (len - n) := by
  rw [cut, cut, ← List.map_drop, List.drop_range', Nat.mul_one]

/-- The front of a cut is a shorter cut. -/
lemma take_cut (stream : Nat → UInt8) (offset : Nat) {len n : Nat} (h : n ≤ len) :
    (cut stream offset len).take n = cut stream offset n := by
  have hsplit : cut stream offset n ++ cut stream (offset + n) (len - n) = cut stream offset len := by
    rw [cut_append, Nat.add_sub_cancel' h]
  rw [← hsplit, List.take_left' length_cut]

end

namespace ReceiveCursor
variable {c c' : ReceiveCursor} {offset : Nat} {bytes out : Bytes}

/-- What is taken ends within the 64 bits of an offset. -/
lemma receive_word (h : c.receive offset bytes = .ok (out, c')) (word : c.recvOffset < 2 ^ 64) :
    offset + bytes.length < 2 ^ 64 := by
  have low := (receive_ok h).1
  unfold ReceiveCursor.receive at h
  split at h
  · cases h
  · omega

/-- Above the cursor, and past the last offset, a segment is refused. -/
lemma receive_refused (word : c.recvOffset < 2 ^ 64)
    (h : c.recvOffset < offset ∨ 2 ^ 64 ≤ offset + bytes.length) :
    c.receive offset bytes = .error .streamGap := by
  unfold ReceiveCursor.receive
  by_cases hbig : bytes.length > 2 ^ 64 - 1 - offset
  · exact if_pos hbig
  · have hgap : offset > c.recvOffset := by omega
    exact (if_neg hbig).trans (if_pos hgap)

end ReceiveCursor

/-- A call of the cursor; a segment is named by where it was cut. -/
inductive CursorCall where
  | receive (offset len : Nat)
  | markDelivered (count : Nat)
  | unreceive (count : Nat)
deriving DecidableEq, Repr

/-- A cursor, and what its caller holds of the stream. -/
structure Reception where
  cursor : ReceiveCursor
  held : Bytes
deriving DecidableEq, Repr

namespace Reception

/-- A cursor whose caller holds the stream up to where it starts. -/
def start (stream : Nat → UInt8) (initialOffset : UInt64) (ack : InputAck) : Reception :=
  ⟨.create initialOffset.toNat ack, cut stream 0 initialOffset.toNat⟩

/-- Make a call. A segment that is refused, and a count past what is pending, leave the cursor as it
is. -/
def step (stream : Nat → UInt8) (r : Reception) : CursorCall → Option Reception
  | .receive offset len =>
    match r.cursor.receive offset (cut stream offset len) with
    | .error _ => some r
    | .ok (out, cursor) => some ⟨cursor, r.held ++ out⟩
  | .markDelivered count => some { r with cursor := (r.cursor.markDelivered count).2 }
  | .unreceive count =>
    let taken := r.cursor.unreceive count
    some ⟨taken.2, if taken.1 then r.held.take (r.held.length - count) else r.held⟩

/-- What every call keeps: the caller holds the stream up to the cursor. -/
structure Whole (stream : Nat → UInt8) (r : Reception) : Prop where
  held : r.held = cut stream 0 r.cursor.recvOffset
  valid : r.cursor.Valid
  word : r.cursor.recvOffset < 2 ^ 64

variable {stream : Nat → UInt8} {r r' : Reception} {c : CursorCall}

/-- A cursor that has received nothing holds nothing. -/
lemma Whole.start (stream : Nat → UInt8) (initialOffset : UInt64) (ack : InputAck) :
    Whole stream (start stream initialOffset ack) where
  held := rfl
  valid := ReceiveCursor.Valid.create _ _
  word := initialOffset.toNat_lt

/-- What a call does to the cursor and to what its caller holds. -/
lemma step_cases (h : r.step stream c = some r') :
    (r' = r) ∨
    (∃ offset len out, c = .receive offset len ∧ r'.held = r.held ++ out ∧
      r.cursor.receive offset (cut stream offset len) = .ok (out, r'.cursor)) ∨
    (∃ count, c = .markDelivered count ∧ count ≤ r.cursor.pending ∧
      r' = { r with cursor := { r.cursor with pending := r.cursor.pending - count } }) ∨
    (∃ count, c = .unreceive count ∧ count ≤ r.cursor.pending ∧
      r' = ⟨{ r.cursor with
          pending := r.cursor.pending - count, recvOffset := r.cursor.recvOffset - count },
        r.held.take (r.held.length - count)⟩) := by
  cases c with
  | receive offset len =>
    simp only [step] at h
    split at h
    · cases h
      exact .inl rfl
    · next out cursor hok =>
      cases h
      exact .inr (.inl ⟨offset, len, out, rfl, rfl, hok⟩)
  | markDelivered count =>
    cases h
    by_cases hmore : count > r.cursor.pending
    · simp [ReceiveCursor.markDelivered, hmore]
    · simp [ReceiveCursor.markDelivered, hmore]
      omega
  | unreceive count =>
    cases h
    by_cases hmore : count > r.cursor.pending
    · simp [ReceiveCursor.unreceive, hmore]
    · simp [ReceiveCursor.unreceive, hmore]
      omega

/-- A segment that starts no higher than the cursor is taken from the cursor to its end. -/
lemma receive_cut (c : ReceiveCursor) {offset len : Nat} (low : offset ≤ c.recvOffset)
    (word : offset + len < 2 ^ 64) :
    ∃ c', c.receive offset (cut stream offset len) =
      .ok (cut stream c.recvOffset (offset + len - c.recvOffset), c') := by
  have hdrop : (cut stream offset len).drop (c.recvOffset - offset) =
      cut stream c.recvOffset (offset + len - c.recvOffset) := by
    rw [drop_cut]
    congr 1 <;> omega
  cases hr : c.receive offset (cut stream offset len) with
  | error e =>
    have := (ReceiveCursor.receive_error hr).2
    simp only [length_cut] at this
    omega
  | ok result =>
    obtain ⟨out, c'⟩ := result
    exact ⟨c', by rw [(ReceiveCursor.receive_ok hr).2.1, hdrop]⟩

/-- A call keeps what is held whole, and never takes an acknowledgement back. -/
lemma Whole.step (w : Whole stream r) (h : r.step stream c = some r') :
    Whole stream r' ∧ r.cursor.ackOffset ≤ r'.cursor.ackOffset := by
  obtain ⟨held, valid, word⟩ := w
  have hpend := valid.pending_le
  rcases step_cases h with rfl | ⟨offset, len, out, -, hheld, hok⟩ | ⟨count, -, hle, rfl⟩ |
      ⟨count, -, hle, rfl⟩
  · exact ⟨⟨held, valid, word⟩, le_rfl⟩
  · obtain ⟨low, hout, hrecv, hack, hpending⟩ := ReceiveCursor.receive_ok hok
    rw [drop_cut, show offset + (r.cursor.recvOffset - offset) = r.cursor.recvOffset by omega] at hout
    refine ⟨⟨?_, valid.receive hok, ?_⟩, ?_⟩
    · have happend := cut_append stream 0 r.cursor.recvOffset (len - (r.cursor.recvOffset - offset))
      rw [Nat.zero_add] at happend
      rw [hheld, held, hrecv, hout, length_cut, happend]
    · have hfits := ReceiveCursor.receive_word hok word
      rw [length_cut] at hfits
      rw [hrecv, hout, length_cut]
      omega
    · simp only [ReceiveCursor.ackOffset, hrecv, hpending]
      split <;> omega
  · refine ⟨⟨held, ⟨?_, fun hon => ?_⟩, word⟩, ?_⟩
    · exact (Nat.sub_le _ _).trans hpend
    · simp [valid.onReceipt hon]
    · simp only [ReceiveCursor.ackOffset]
      omega
  · refine ⟨⟨?_, ⟨?_, fun hon => ?_⟩, ?_⟩, ?_⟩
    · rw [held, length_cut]
      exact take_cut stream 0 (Nat.sub_le _ _)
    · exact Nat.sub_le_sub_right hpend count
    · simp [valid.onReceipt hon]
    · exact (Nat.sub_le _ _).trans_lt word
    · simp only [ReceiveCursor.ackOffset]
      omega

/-- What a run keeps. -/
lemma Whole.run {calls : List CursorCall} (w : Whole stream r)
    (run : Run (Reception.step stream) Anywhere r calls r') :
    Whole stream r' ∧ r.cursor.ackOffset ≤ r'.cursor.ackOffset := by
  induction run with
  | nil r => exact ⟨w, le_rfl⟩
  | cons _ hstep _ ih =>
    obtain ⟨w', hle⟩ := w.step hstep
    obtain ⟨w'', hle'⟩ := ih w'
    exact ⟨w'', hle.trans hle'⟩

end Reception

/-- In every run the caller holds the stream up to the cursor, and acknowledgements only rise, never
above it; a segment above the cursor or past the last offset is refused; and what is taken back
comes out of the first later segment that covers it, whatever was called in between. -/
theorem receive_contiguous {stream : Nat → UInt8} {initialOffset : UInt64} {ack : InputAck}
    {calls : List CursorCall} {r : Reception}
    (run : Run (Reception.step stream) Anywhere (.start stream initialOffset ack) calls r) :
    r.held = cut stream 0 r.cursor.recvOffset ∧
      r.cursor.ackOffset ≤ r.cursor.recvOffset ∧
      (∀ later r', Run (Reception.step stream) Anywhere r later r' →
        r.cursor.ackOffset ≤ r'.cursor.ackOffset) ∧
      (∀ offset len, r.cursor.recvOffset < offset ∨ 2 ^ 64 ≤ offset + len →
        r.cursor.receive offset (cut stream offset len) = .error .streamGap ∧
          r.step stream (.receive offset len) = some r) ∧
      (∀ count taken, r.cursor.unreceive count = (true, taken) →
        r.step stream (.unreceive count) =
            some ⟨taken, cut stream 0 (r.cursor.recvOffset - count)⟩ ∧
          ∀ later r', Run (Reception.step stream) Anywhere
              ⟨taken, cut stream 0 (r.cursor.recvOffset - count)⟩ later r' →
            r'.cursor.recvOffset ≤ taken.recvOffset →
            ∀ offset len, offset ≤ r'.cursor.recvOffset → r.cursor.recvOffset ≤ offset + len →
              offset + len < 2 ^ 64 → ∃ out cursor,
                r'.cursor.receive offset (cut stream offset len) = .ok (out, cursor) ∧
                  (out.drop (taken.recvOffset - r'.cursor.recvOffset)).take count =
                    r.held.drop (r.held.length - count)) := by
  obtain ⟨whole, -⟩ := (Reception.Whole.start stream initialOffset ack).run run
  refine ⟨whole.held, whole.valid.ackOffset_le, fun later r' more => (whole.run more).2, ?_, ?_⟩
  · intro offset len refused
    have herr : r.cursor.receive offset (cut stream offset len) = .error .streamGap :=
      ReceiveCursor.receive_refused whole.word (by rwa [length_cut])
    exact ⟨herr, by simp only [Reception.step, herr]⟩
  · intro count taken htaken
    have hback : count ≤ r.cursor.pending ∧
        taken.recvOffset = r.cursor.recvOffset - count := by
      unfold ReceiveCursor.unreceive at htaken
      split at htaken
      · cases congrArg Prod.fst htaken
      · cases htaken
        exact ⟨by omega, rfl⟩
    obtain ⟨hle, hrecv⟩ := hback
    refine ⟨?_, ?_⟩
    · simp only [Reception.step, htaken, if_true, whole.held, length_cut,
        take_cut stream 0 (Nat.sub_le r.cursor.recvOffset count)]
    intro later r' more hbehind offset len low covers fits
    obtain ⟨cursor, hok⟩ := @Reception.receive_cut stream r'.cursor offset len low fits
    refine ⟨_, cursor, hok, ?_⟩
    have hpend := whole.valid.pending_le
    rw [drop_cut, take_cut stream _ (by omega), whole.held, drop_cut, length_cut]
    congr 1 <;> omega

/-- Three bytes of four are taken back, one is delivered, and a longer segment brings them again. -/
theorem receive_contiguous_sample :
    let stream := fun n => UInt8.ofNat n
    let r : Reception := ⟨⟨1, 1, .onDelivery⟩, [0]⟩
    Run (Reception.step stream) Anywhere (.start stream 0 .onDelivery)
        [.receive 0 4, .unreceive 3] r ∧
      r.held = cut stream 0 r.cursor.recvOffset ∧
      (r.cursor.receive 0 (cut stream 0 6)).map Prod.fst = .ok [1, 2, 3, 4, 5] := by
  intro stream r
  have run : Run (Reception.step stream) Anywhere (.start stream 0 .onDelivery)
      [.receive 0 4, .unreceive 3] r := Run.of_exec rfl
  exact ⟨run, (receive_contiguous run).1, rfl⟩

end Zet.Session
