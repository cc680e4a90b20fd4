import Zet.Core.Bytes
import Zet.Lib.Ring

/-!
# The send buffer

`src/session/send_buffer.cpp`: a ring that keeps every byte of the outgoing stream from the first
one the peer has not acknowledged (`base`) to the last one written (`end_`), with a cursor
(`sendNext`) at the first one not yet sent on the current connection. Offsets are absolute within an
output generation.

`Holds b log` says what the buffer is for: it is a window onto the log of all bytes appended in this
generation. Each operation has one lemma that says how it moves the window; `copyOut_eq` is what a
reader of the buffer gets.
-/

namespace Zet.Session
open Zet.Core Zet.Lib

/-- `ESessionError`. -/
inductive StreamError where
  | ackBeyondSent
  | streamGap
  | disconnectBufferOverflow
  | notAuthenticated
  | unknownSeed
  | peerBehindBuffer
  | orphanTimeout
  | sessionReaped
  | handshakeTimeout
  | superseded
  | peerSilent
deriving DecidableEq, Repr

/-- `DispositionOf(ESessionError)`. -/
def StreamError.disposition : StreamError → Disposition
  | .disconnectBufferOverflow | .peerBehindBuffer | .orphanTimeout | .sessionReaped => .killSession
  | _ => .closeConnection

/-- `SendBuffer`. -/
structure SendBuffer where
  storage : Bytes
  base : Nat
  end_ : Nat
  sendNext : Nat
  ringOverflowed : Bool
  sessionGen : Nat
deriving DecidableEq, Repr

namespace SendBuffer

/-- `SendBuffer::SendBuffer`. -/
def create (storage : Bytes) (initialBase : Nat) : SendBuffer :=
  ⟨storage, initialBase, initialBase, initialBase, false, 0⟩

/-- `SendBuffer::Size`. -/
def size (b : SendBuffer) : Nat := b.end_ - b.base

/-- `SendBuffer::Room`. -/
def room (b : SendBuffer) : Nat := b.storage.length - b.size

/-- `SendBuffer::Unsent`. -/
def unsent (b : SendBuffer) : Nat := b.end_ - b.sendNext

/-- `SendBuffer::Append`: how much was taken, and the buffer that holds it. -/
def append (b : SendBuffer) (bytes : Bytes) : Nat × SendBuffer :=
  if b.storage.isEmpty then (0, b)
  else
    let take := min bytes.length b.room
    if take = 0 then (0, b)
    else
      (take, { b with
        storage := ringWrite b.storage b.end_ (bytes.take take), end_ := b.end_ + take })

/-- `SendBuffer::Acknowledge`. -/
def acknowledge (b : SendBuffer) (ackOffset : Nat) : Except StreamError SendBuffer :=
  if ackOffset ≤ b.base then .ok b
  else if ackOffset > b.end_ then .error .ackBeyondSent
  else .ok { b with base := ackOffset, sendNext := max b.sendNext ackOffset }

/-- `SendBuffer::CopyOut` into a destination of `dest` bytes. -/
def copyOut (b : SendBuffer) (fromOffset dest : Nat) : Bytes :=
  if b.storage.isEmpty ∨ fromOffset < b.base ∨ fromOffset ≥ b.end_ then []
  else ringRead b.storage fromOffset (min dest (b.end_ - fromOffset))

/-- `SendBuffer::ResetSendNext`. -/
def resetSendNext (b : SendBuffer) (peerRecvOffset : Nat) : Except StreamError SendBuffer :=
  if peerRecvOffset > b.end_ then .error .ackBeyondSent
  else if peerRecvOffset < b.base then .error .peerBehindBuffer
  else (b.acknowledge peerRecvOffset).map fun b => { b with sendNext := peerRecvOffset }

/-- `SendBuffer::AdvanceSendNext`. -/
def advanceSendNext (b : SendBuffer) (count : Nat) : SendBuffer :=
  { b with sendNext := min (b.sendNext + count) b.end_ }

/-- `SendBuffer::SetRingOverflowed`. -/
def setRingOverflowed (b : SendBuffer) : SendBuffer := { b with ringOverflowed := true }

/-- `SendBuffer::NewGeneration`. -/
def newGeneration (b : SendBuffer) : SendBuffer :=
  { b with
    sessionGen := (b.sessionGen + 1) % 2 ^ 32, base := 0, end_ := 0, sendNext := 0,
    ringOverflowed := false }

/-- The buffer is a window onto `log`, the bytes appended in this generation. -/
structure Holds (b : SendBuffer) (log : Bytes) : Prop where
  base_le : b.base ≤ b.sendNext
  sendNext_le : b.sendNext ≤ b.end_
  end_eq : b.end_ = log.length
  size_le : b.end_ - b.base ≤ b.storage.length
  cell : ∀ i, b.base ≤ i → i < b.end_ → b.storage[i % b.storage.length]? = log[i]?

variable {b : SendBuffer} {log : Bytes}

/-- A new ring holds the empty log. -/
lemma Holds.create (storage : Bytes) : Holds (create storage 0) [] where
  base_le := le_rfl
  sendNext_le := le_rfl
  end_eq := rfl
  size_le := by simp [SendBuffer.create]
  cell := by
    intro i _ hi
    simp [SendBuffer.create] at hi

/-- The base is at or before the end. -/
lemma Holds.base_le_end (h : Holds b log) : b.base ≤ b.end_ := h.base_le.trans h.sendNext_le

/-- An append takes what fits. -/
lemma append_fst (b : SendBuffer) (bytes : Bytes) : (b.append bytes).1 = min bytes.length b.room := by
  unfold append
  split
  · next hempty =>
    have : b.storage.length = 0 := by simpa using hempty
    simp [room, this]
  · dsimp only
    split
    · next hzero => exact hzero.symm
    · rfl

/-- An append moves no cursor. -/
lemma append_snd (b : SendBuffer) (bytes : Bytes) : ∃ storage stop,
    (b.append bytes).2 = { b with storage := storage, end_ := stop } := by
  unfold append
  split
  · exact ⟨_, _, rfl⟩
  · dsimp only
    split <;> exact ⟨_, _, rfl⟩

/-- Appending leaves the base alone. -/
@[simp] lemma append_base (b : SendBuffer) (bytes : Bytes) : (b.append bytes).2.base = b.base := by
  obtain ⟨_, _, h⟩ := append_snd b bytes
  rw [h]

/-- Appending leaves the place of the next byte to send alone. -/
@[simp] lemma append_sendNext (b : SendBuffer) (bytes : Bytes) :
    (b.append bytes).2.sendNext = b.sendNext := by
  obtain ⟨_, _, h⟩ := append_snd b bytes
  rw [h]

/-- Appending leaves the generation alone. -/
@[simp] lemma append_sessionGen (b : SendBuffer) (bytes : Bytes) :
    (b.append bytes).2.sessionGen = b.sessionGen := by
  obtain ⟨_, _, h⟩ := append_snd b bytes
  rw [h]

/-- Appending leaves the overflow flag alone. -/
@[simp] lemma append_ringOverflowed (b : SendBuffer) (bytes : Bytes) :
    (b.append bytes).2.ringOverflowed = b.ringOverflowed := by
  obtain ⟨_, _, h⟩ := append_snd b bytes
  rw [h]

/-- An append extends the log by what it took. -/
lemma Holds.append (h : Holds b log) (bytes : Bytes) :
    Holds (b.append bytes).2 (log ++ bytes.take (b.append bytes).1) := by
  rw [append_fst]
  unfold SendBuffer.append
  split
  · next hempty =>
    have : b.storage.length = 0 := by simpa using hempty
    simpa [room, this] using h
  dsimp only
  split
  · next hzero => simpa [hzero] using h
  · next hempty htake =>
    -- the written span starts at `end_`; everything kept lies a lap or less before it
    have hsize := h.size_le
    have hbase := h.base_le_end
    have hlen := h.end_eq
    have hcap : 0 < b.storage.length := by
      rcases Nat.eq_zero_or_pos b.storage.length with hz | hp
      · simp [List.length_eq_zero_iff.mp hz] at hempty
      · exact hp
    set take := min bytes.length b.room
    have hroom : take ≤ b.storage.length - (b.end_ - b.base) := Nat.min_le_right _ _
    have hsrc : (bytes.take take).length = take := by
      rw [List.length_take]
      exact Nat.min_eq_left (Nat.min_le_left _ _)
    have hstore : (ringWrite b.storage b.end_ (bytes.take take)).length = b.storage.length :=
      length_ringWrite hcap (by omega)
    refine ⟨h.base_le, ?_, ?_, ?_, ?_⟩
    · exact h.sendNext_le.trans (Nat.le_add_right _ _)
    · simp only [List.length_append, hsrc, hlen]
    · simp only [hstore]
      omega
    · intro i hi hlt
      simp only [hstore] at hlt ⊢
      simp only at hi
      by_cases new : b.end_ ≤ i
      · obtain ⟨j, rfl⟩ := Nat.exists_eq_add_of_le new
        rw [getElem?_ringWrite_at (by omega) (by omega),
          List.getElem?_append_right (by omega)]
        congr 1
        omega
      · rw [List.getElem?_append_left (by omega), ← h.cell i hi (by omega)]
        -- one lap back from `end_`, the kept cells are the untouched ones
        have hlap : i % b.storage.length =
            (b.end_ + (b.storage.length - (b.end_ - i))) % b.storage.length := by
          rw [show b.end_ + (b.storage.length - (b.end_ - i)) = i + b.storage.length by omega,
            Nat.add_mod_right]
        rw [hlap]
        exact getElem?_ringWrite_off (by omega) (by omega)

/-- Acknowledging fails exactly beyond what was written. -/
lemma acknowledge_error {ack : Nat} {e : StreamError} (h : b.acknowledge ack = .error e) :
    e = .ackBeyondSent ∧ b.end_ < ack := by
  unfold acknowledge at h
  split at h
  · cases h
  · split at h
    · cases h
      exact ⟨rfl, by omega⟩
    · cases h

/-- What acknowledging moves. -/
lemma acknowledge_ok {ack : Nat} {b' : SendBuffer} (h : b.acknowledge ack = .ok b')
    (ordered : b.base ≤ b.sendNext) :
    b' = { b with base := max b.base ack, sendNext := max b.sendNext ack } ∧
      (ack ≤ b.base ∨ ack ≤ b.end_) := by
  unfold acknowledge at h
  split at h
  · next hle =>
    cases h
    have hnext : max b.sendNext ack = b.sendNext := max_eq_left (hle.trans ordered)
    simp [hnext, hle]
  · next hgt =>
    split at h
    · cases h
    · next hle =>
      cases h
      have hbase : max b.base ack = ack := max_eq_right (by omega)
      simp only [hbase, true_and]
      exact .inr (by omega)

/-- A ring still holds its log with its base and its next place raised in order. -/
lemma Holds.raise (h : Holds b log) {base next : Nat} (hbase : b.base ≤ base)
    (hle : base ≤ next) (hend : next ≤ b.end_) :
    Holds { b with base := base, sendNext := next } log where
  base_le := hle
  sendNext_le := hend
  end_eq := h.end_eq
  size_le := by
    have := h.size_le
    simp only
    omega
  cell := by
    intro i hi hlt
    exact h.cell i (hbase.trans hi) hlt

/-- Acknowledging keeps the log. -/
lemma Holds.acknowledge (h : Holds b log) {ack : Nat} {b' : SendBuffer}
    (hok : b.acknowledge ack = .ok b') : Holds b' log := by
  obtain ⟨rfl, hle⟩ := acknowledge_ok hok h.base_le
  have := h.base_le
  have := h.sendNext_le
  exact h.raise (by omega) (by omega) (by omega)

/-- Resetting fails beyond what was written, and below what was acknowledged. -/
lemma resetSendNext_error {peer : Nat} {e : StreamError} (h : b.resetSendNext peer = .error e) :
    (e = .ackBeyondSent ∧ b.end_ < peer) ∨ (e = .peerBehindBuffer ∧ peer < b.base) := by
  unfold resetSendNext at h
  split at h
  · next hgt =>
    cases h
    exact .inl ⟨rfl, hgt⟩
  · split at h
    · next hlt =>
      cases h
      exact .inr ⟨rfl, hlt⟩
    · exfalso
      unfold SendBuffer.acknowledge at h
      split at h
      · cases h
      · cases h

/-- A reset makes the peer's offset both ends of what is acknowledged and what is sent. -/
lemma resetSendNext_ok {peer : Nat} {b' : SendBuffer} (h : b.resetSendNext peer = .ok b') :
    b' = { b with base := peer, sendNext := peer } ∧ b.base ≤ peer ∧ peer ≤ b.end_ := by
  unfold resetSendNext at h
  split at h
  · cases h
  · split at h
    · cases h
    · next hle hge =>
      unfold SendBuffer.acknowledge at h
      split at h
      · next heq =>
        cases h
        have : b.base = peer := by omega
        simp [this]
        omega
      · cases h
        simp only [true_and]
        omega

/-- Going back to what the peer has keeps the log. -/
lemma Holds.resetSendNext (h : Holds b log) {peer : Nat} {b' : SendBuffer}
    (hok : b.resetSendNext peer = .ok b') : Holds b' log := by
  obtain ⟨rfl, hbase, hend⟩ := resetSendNext_ok hok
  exact h.raise hbase le_rfl hend

/-- Advancing keeps the log. -/
lemma Holds.advanceSendNext (h : Holds b log) (count : Nat) :
    Holds (b.advanceSendNext count) log := by
  have := h.base_le
  have := h.sendNext_le
  exact h.raise le_rfl (by omega) (by omega)

/-- Raising the overflow flag keeps the log. -/
lemma Holds.setRingOverflowed (h : Holds b log) : Holds b.setRingOverflowed log :=
  ⟨h.base_le, h.sendNext_le, h.end_eq, h.size_le, h.cell⟩

/-- A new generation starts an empty log. -/
lemma Holds.newGeneration (b : SendBuffer) : Holds b.newGeneration [] where
  base_le := le_rfl
  sendNext_le := le_rfl
  end_eq := rfl
  size_le := by simp [SendBuffer.newGeneration]
  cell := by
    intro i _ hi
    simp [SendBuffer.newGeneration] at hi

/-- Reading the buffer inside the window reads the log. -/
lemma Holds.copyOut_eq (h : Holds b log) {from_ dest : Nat} (hbase : b.base ≤ from_)
    (hend : from_ < b.end_) : b.copyOut from_ dest = (log.drop from_).take dest := by
  have hsize := h.size_le
  have hlen := h.end_eq
  have hcap : 0 < b.storage.length := by omega
  have hne : b.storage ≠ [] := List.ne_nil_of_length_pos hcap
  unfold SendBuffer.copyOut
  rw [if_neg (by simp [hne]; omega)]
  apply List.ext_getElem?
  intro j
  by_cases hj : j < min dest (b.end_ - from_)
  · rw [getElem?_ringRead (by omega) hj, h.cell _ (by omega) (by omega),
      List.getElem?_take_of_lt (by omega), List.getElem?_drop]
  · rw [List.getElem?_eq_none (by rw [length_ringRead hcap (by omega)]; omega),
      List.getElem?_eq_none (by rw [List.length_take, List.length_drop]; omega)]

end SendBuffer

end Zet.Session
