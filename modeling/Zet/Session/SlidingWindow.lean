import Zet.Session.SendBuffer
import Zet.Lib.Run

/-!
# The send buffer in machine words

`SendBuffer` counts in natural numbers, which is what every session can see of it: no stream comes
near `2 ^ 64` bytes. This module is the class as `src/session/send_buffer.cpp` computes it, every
counter in 64 bits that wrap, and says when the difference shows. `toBuffer` reads the words as
numbers; `Holds` is then the same window onto the log as there.

Two sums can wrap: the end of an append, and the cursor of an advance, which is clamped to the end
only after the addition. `Fits` is the condition that they do no harm, and
`Window.Sound` is what every run under it keeps.
-/

namespace Zet.Session
open Zet.Core Zet.Lib

/-- `SendBuffer`, with its counters in the words of the source. -/
structure WordBuffer where
  storage : Bytes
  base : UInt64
  end_ : UInt64
  sendNext : UInt64
  ringOverflowed : Bool
  sessionGen : UInt32
deriving DecidableEq, Repr

namespace WordBuffer

/-- `SendBuffer::SendBuffer`. -/
def create (storage : Bytes) (initialBase : UInt64) : WordBuffer :=
  ⟨storage, initialBase, initialBase, initialBase, false, 0⟩

/-- `SendBuffer::Size`. -/
def size (b : WordBuffer) : Nat := (b.end_ - b.base).toNat

/-- `SendBuffer::Room`. -/
def room (b : WordBuffer) : Nat := (UInt64.ofNat b.storage.length - (b.end_ - b.base)).toNat

/-- `SendBuffer::Append`. -/
def append (b : WordBuffer) (bytes : Bytes) : Nat × WordBuffer :=
  if b.storage.isEmpty then (0, b)
  else
    let take := min bytes.length b.room
    if take = 0 then (0, b)
    else
      (take, { b with
        storage := ringWrite b.storage b.end_.toNat (bytes.take take),
        end_ := b.end_ + UInt64.ofNat take })

/-- `SendBuffer::Acknowledge`. -/
def acknowledge (b : WordBuffer) (ackOffset : UInt64) : Except StreamError Unit × WordBuffer :=
  if ackOffset ≤ b.base then (.ok (), b)
  else if ackOffset > b.end_ then (.error .ackBeyondSent, b)
  else
    (.ok (), { b with
      base := ackOffset, sendNext := if b.sendNext < ackOffset then ackOffset else b.sendNext })

/-- `SendBuffer::CopyOut` into a destination of `dest` bytes. -/
def copyOut (b : WordBuffer) (fromOffset : UInt64) (dest : Nat) : Bytes :=
  if b.storage.isEmpty ∨ fromOffset < b.base ∨ fromOffset ≥ b.end_ then []
  else ringRead b.storage fromOffset.toNat (min dest (b.end_ - fromOffset).toNat)

/-- `SendBuffer::ResetSendNext`. -/
def resetSendNext (b : WordBuffer) (peerRecvOffset : UInt64) :
    Except StreamError Unit × WordBuffer :=
  if peerRecvOffset > b.end_ then (.error .ackBeyondSent, b)
  else if peerRecvOffset < b.base then (.error .peerBehindBuffer, b)
  else (.ok (), { (b.acknowledge peerRecvOffset).2 with sendNext := peerRecvOffset })

/-- `SendBuffer::AdvanceSendNext`: the clamp comes after the addition. -/
def advanceSendNext (b : WordBuffer) (count : UInt64) : WordBuffer :=
  let next := b.sendNext + count
  { b with sendNext := if next > b.end_ then b.end_ else next }

/-- `SendBuffer::NewGeneration`. -/
def newGeneration (b : WordBuffer) : WordBuffer :=
  { b with sessionGen := b.sessionGen + 1, base := 0, end_ := 0, sendNext := 0,
           ringOverflowed := false }

/-- A call of the class. -/
inductive Call where
  | append (bytes : Bytes)
  | acknowledge (ackOffset : UInt64)
  | copyOut (fromOffset : UInt64) (dest : Nat)
  | resetSendNext (peerRecvOffset : UInt64)
  | advanceSendNext (count : UInt64)
  | newGeneration
deriving DecidableEq, Repr

/-- What a call returns. -/
inductive Answer where
  | took (count : Nat)
  | copied (bytes : Bytes)
  | done
  | failed (error : StreamError)
deriving DecidableEq, Repr

/-- An answer of the calls that return nothing or fail. -/
def Answer.ofResult : Except StreamError Unit → Answer
  | .ok _ => .done
  | .error e => .failed e

/-- Make a call. -/
def call (b : WordBuffer) : Call → Answer × WordBuffer
  | .append bytes => ((b.append bytes).1 |> .took, (b.append bytes).2)
  | .acknowledge ackOffset => ((b.acknowledge ackOffset).1 |> .ofResult, (b.acknowledge ackOffset).2)
  | .copyOut fromOffset dest => (.copied (b.copyOut fromOffset dest), b)
  | .resetSendNext peer => ((b.resetSendNext peer).1 |> .ofResult, (b.resetSendNext peer).2)
  | .advanceSendNext count => (.done, b.advanceSendNext count)
  | .newGeneration => (.done, b.newGeneration)

/-- The buffer with its words read as numbers. -/
def toBuffer (b : WordBuffer) : SendBuffer :=
  ⟨b.storage, b.base.toNat, b.end_.toNat, b.sendNext.toNat, b.ringOverflowed, b.sessionGen.toNat⟩

variable {b : WordBuffer} {log : Bytes}

/-- The storage is the same on both levels. -/
@[simp] lemma toBuffer_storage : b.toBuffer.storage = b.storage := rfl

/-- The base is the word read as a number. -/
@[simp] lemma toBuffer_base : b.toBuffer.base = b.base.toNat := rfl

/-- So is the end. -/
@[simp] lemma toBuffer_end : b.toBuffer.end_ = b.end_.toNat := rfl

/-- So is the next place. -/
@[simp] lemma toBuffer_sendNext : b.toBuffer.sendNext = b.sendNext.toNat := rfl

/-- The room is what the numbers say, as long as the window is one. -/
lemma room_eq (h : b.toBuffer.Holds log) (size : b.storage.length < 2 ^ 64) :
    b.room = b.toBuffer.room := by
  have hend : b.base ≤ b.end_ := UInt64.le_iff_toNat_le.mpr h.base_le_end
  have hlen : (UInt64.ofNat b.storage.length).toNat = b.storage.length :=
    UInt64.toNat_ofNat_of_lt' size
  have hwin : (b.end_ - b.base).toNat = b.end_.toNat - b.base.toNat :=
    UInt64.toNat_sub_of_le _ _ hend
  have hsize : b.end_.toNat - b.base.toNat ≤ b.storage.length := h.size_le
  have hle : b.end_ - b.base ≤ UInt64.ofNat b.storage.length := by
    rw [UInt64.le_iff_toNat_le, hlen, hwin]
    exact hsize
  rw [room, UInt64.toNat_sub_of_le _ _ hle, hlen, hwin]
  rfl

/-- An append whose end does not wrap is the append of the numbers. -/
lemma append_eq (h : b.toBuffer.Holds log) (size : b.storage.length < 2 ^ 64) {bytes : Bytes}
    (fits : b.end_.toNat + min bytes.length b.room < 2 ^ 64) :
    (b.append bytes).1 = (b.toBuffer.append bytes).1 ∧
      (b.append bytes).2.toBuffer = (b.toBuffer.append bytes).2 := by
  have hroom := room_eq h size
  unfold append SendBuffer.append
  simp only [toBuffer_storage, ← hroom]
  split
  · exact ⟨rfl, rfl⟩
  · split
    · exact ⟨rfl, rfl⟩
    · refine ⟨rfl, ?_⟩
      have htake : (UInt64.ofNat (min bytes.length b.room)).toNat = min bytes.length b.room :=
        UInt64.toNat_ofNat_of_lt' (by rw [UInt64.size]; omega)
      have hend : (b.end_ + UInt64.ofNat (min bytes.length b.room)).toNat =
          b.end_.toNat + min bytes.length b.room := by
        rw [UInt64.toNat_add, htake, Nat.mod_eq_of_lt (by omega)]
      simp only [toBuffer, hend]

/-- An append takes what there is room for. -/
lemma append_fst (b : WordBuffer) (bytes : Bytes) (hempty : b.storage = [] → b.room = 0) :
    (b.append bytes).1 = min bytes.length b.room := by
  unfold append
  split
  · next h => simp [hempty (by simpa using h)]
  · dsimp only
    split
    · next hzero => exact hzero.symm
    · rfl

/-- An append stays in its storage. -/
lemma length_storage_append (h : b.toBuffer.Holds log) (size : b.storage.length < 2 ^ 64)
    (bytes : Bytes) : (b.append bytes).2.storage.length = b.storage.length := by
  have hroom : b.room ≤ b.storage.length := by
    rw [room_eq h size]
    exact Nat.sub_le _ _
  unfold append
  split
  · rfl
  · next hne =>
    dsimp only
    split
    · rfl
    · have hpos : 0 < b.storage.length := List.length_pos_iff.mpr (by simpa using hne)
      refine length_ringWrite hpos ?_
      rw [List.length_take]
      omega

/-- A read is the read of the numbers. -/
lemma copyOut_eq (fromOffset : UInt64) (dest : Nat) :
    b.copyOut fromOffset dest = b.toBuffer.copyOut fromOffset.toNat dest := by
  unfold copyOut SendBuffer.copyOut
  simp only [toBuffer_storage, toBuffer_base, toBuffer_end, UInt64.lt_iff_toNat_lt, ge_iff_le,
    UInt64.le_iff_toNat_le]
  split
  · rfl
  · next h =>
    have hle : fromOffset ≤ b.end_ := by
      rw [UInt64.le_iff_toNat_le]
      omega
    rw [UInt64.toNat_sub_of_le _ _ hle]

/-- Acknowledging is acknowledging the numbers; when it fails, nothing has changed. -/
lemma acknowledge_eq (ack : UInt64) :
    (∃ e, b.acknowledge ack = (.error e, b)) ∨
      ∃ b', b.acknowledge ack = (.ok (), b') ∧ b.toBuffer.acknowledge ack.toNat = .ok b'.toBuffer := by
  unfold acknowledge SendBuffer.acknowledge
  simp only [toBuffer_base, toBuffer_end, gt_iff_lt, UInt64.lt_iff_toNat_lt, UInt64.le_iff_toNat_le]
  split
  · exact .inr ⟨b, rfl, rfl⟩
  · split
    · exact .inl ⟨_, rfl⟩
    · refine .inr ⟨_, rfl, ?_⟩
      simp only [toBuffer, Except.ok.injEq, SendBuffer.mk.injEq, true_and, and_true]
      split <;> omega

/-- So is resetting the cursor. -/
lemma resetSendNext_eq (peer : UInt64) :
    (∃ e, b.resetSendNext peer = (.error e, b)) ∨
      ∃ b', b.resetSendNext peer = (.ok (), b') ∧
        b.toBuffer.resetSendNext peer.toNat = .ok b'.toBuffer := by
  by_cases hend : b.end_ < peer
  · exact .inl ⟨.ackBeyondSent, if_pos hend⟩
  by_cases hlow : peer < b.base
  · exact .inl ⟨.peerBehindBuffer, (if_neg hend).trans (if_pos hlow)⟩
  have hok : b.resetSendNext peer =
      (.ok (), { (b.acknowledge peer).2 with sendNext := peer }) :=
    (if_neg hend).trans (if_neg hlow)
  rw [UInt64.lt_iff_toNat_lt] at hend hlow
  refine .inr ⟨_, hok, ?_⟩
  rcases acknowledge_eq (b := b) peer with ⟨e, herr⟩ | ⟨b', hack, hnum⟩
  · -- inside the window the acknowledgement cannot fail
    unfold acknowledge at herr
    split at herr
    · cases congrArg Prod.fst herr
    · split at herr
      · next hgt => exact absurd (UInt64.lt_iff_toNat_lt.mp hgt) hend
      · cases congrArg Prod.fst herr
  · rw [SendBuffer.resetSendNext, if_neg (by exact hend), if_neg (by exact hlow), hnum, hack]
    rfl

/-- An error changes nothing. -/
lemma call_failed {c : Call} {e : StreamError} (h : (b.call c).1 = .failed e) :
    (b.call c).2 = b := by
  cases c with
  | append bytes => cases h
  | copyOut fromOffset dest => cases h
  | advanceSendNext count => cases h
  | newGeneration => cases h
  | acknowledge ack =>
    rcases acknowledge_eq (b := b) ack with ⟨e, herr⟩ | ⟨b', hok, -⟩
    · simp only [call, herr]
    · simp only [call, hok] at h
      cases h
  | resetSendNext peer =>
    rcases resetSendNext_eq (b := b) peer with ⟨e, herr⟩ | ⟨b', hok, -⟩
    · simp only [call, herr]
    · simp only [call, hok] at h
      cases h

end WordBuffer

/-- A buffer, and the stream of its generation: what came before the buffer was made, and every byte
it has taken since. -/
structure Window where
  buffer : WordBuffer
  log : Bytes
deriving DecidableEq, Repr

namespace Window

/-- The stream after a call: an append extends it by what was taken, a new generation starts it
over. -/
def logged (w : Window) : WordBuffer.Call → Bytes
  | .append bytes => w.log ++ bytes.take (w.buffer.append bytes).1
  | .newGeneration => []
  | _ => w.log

/-- A call is always possible. -/
def step (w : Window) (c : WordBuffer.Call) : Option Window :=
  some ⟨(w.buffer.call c).2, w.logged c⟩

/-- The sums of a call do no harm: an append's end fits its word, and an advance does not come round
to below the base. -/
def Fits (w : Window) : WordBuffer.Call → Prop
  | .append bytes => w.buffer.end_.toNat + min bytes.length w.buffer.room < 2 ^ 64
  | .advanceSendNext count => w.buffer.base ≤ w.buffer.sendNext + count
  | _ => True

instance (w : Window) (c : WordBuffer.Call) : Decidable (w.Fits c) := by
  cases c <;> unfold Fits <;> infer_instance

/-- What every call under `Fits` keeps. -/
structure Sound (capacity : Nat) (w : Window) : Prop where
  holds : w.buffer.toBuffer.Holds w.log
  capacity : w.buffer.storage.length = capacity

variable {w w' : Window} {capacity : Nat}

/-- A new window is sound. -/
lemma Sound.create {storage before : Bytes} {initialBase : UInt64}
    (hbefore : before.length = initialBase.toNat) :
    Sound storage.length ⟨.create storage initialBase, before⟩ where
  holds := {
    base_le := le_rfl
    sendNext_le := le_rfl
    end_eq := hbefore.symm
    size_le := by simp [WordBuffer.toBuffer, WordBuffer.create]
    cell := by
      intro i hi hlt
      exact absurd hlt (Nat.not_lt.mpr hi) }
  capacity := rfl

/-- A call that fits keeps a window sound. -/
lemma Sound.step (small : capacity < 2 ^ 64) (s : Sound capacity w) {c : WordBuffer.Call}
    (fits : w.Fits c) (h : w.step c = some w') : Sound capacity w' := by
  obtain ⟨holds, hcap⟩ := s
  have hsize : w.buffer.storage.length < 2 ^ 64 := by
    rw [hcap]
    exact small
  cases h
  cases c with
  | append bytes =>
    obtain ⟨htook, hview⟩ := WordBuffer.append_eq holds hsize fits
    constructor
    · simp only [WordBuffer.call, logged, htook, hview]
      exact holds.append bytes
    · exact (WordBuffer.length_storage_append holds hsize bytes).trans hcap
  | acknowledge ack =>
    rcases WordBuffer.acknowledge_eq (b := w.buffer) ack with ⟨e, herr⟩ | ⟨b', hok, hnum⟩
    · simpa only [WordBuffer.call, logged, herr] using ⟨holds, hcap⟩
    · obtain ⟨hmoved, -⟩ := SendBuffer.acknowledge_ok hnum holds.base_le
      simp only [WordBuffer.call, logged, hok]
      exact ⟨holds.acknowledge hnum, (congrArg (·.storage.length) hmoved).trans hcap⟩
  | copyOut fromOffset dest => exact ⟨holds, hcap⟩
  | resetSendNext peer =>
    rcases WordBuffer.resetSendNext_eq (b := w.buffer) peer with ⟨e, herr⟩ | ⟨b', hok, hnum⟩
    · simpa only [WordBuffer.call, logged, herr] using ⟨holds, hcap⟩
    · obtain ⟨hmoved, -⟩ := SendBuffer.resetSendNext_ok hnum
      simp only [WordBuffer.call, logged, hok]
      exact ⟨holds.resetSendNext hnum, (congrArg (·.storage.length) hmoved).trans hcap⟩
  | advanceSendNext count =>
    refine ⟨holds.raise le_rfl ?_ ?_, hcap⟩
    · -- the clamp leaves the end or the sum, and neither is below the base
      have hsum := UInt64.le_iff_toNat_le.mp fits
      have hend := holds.base_le_end
      simp only [WordBuffer.toBuffer_base, WordBuffer.toBuffer_end] at hend ⊢
      change _ ≤ (if w.buffer.sendNext + count > w.buffer.end_ then w.buffer.end_
        else w.buffer.sendNext + count).toNat
      split <;> assumption
    · change (if w.buffer.sendNext + count > w.buffer.end_ then w.buffer.end_
        else w.buffer.sendNext + count).toNat ≤ w.buffer.end_.toNat
      split
      · exact le_rfl
      · next hle => exact UInt64.le_iff_toNat_le.mp (UInt64.not_lt.mp hle)
  | newGeneration => exact ⟨SendBuffer.Holds.newGeneration w.buffer.toBuffer, hcap⟩

/-- So does a run of such calls. -/
lemma Sound.run (small : capacity < 2 ^ 64) {calls : List WordBuffer.Call}
    (run : Run Window.step Fits w calls w') (s : Sound capacity w) : Sound capacity w' :=
  run.inv (Sound capacity) (fun _ _ _ hs hfits hstep => hs.step small hfits hstep) s

end Window

/-- In every run whose sums fit, the cursors stay in order and the window in its storage, a read
inside the window returns the stream, an append takes what fits, and an error changes nothing. -/
theorem sendBuffer_slides {storage before : Bytes} {initialBase : UInt64}
    (small : storage.length < 2 ^ 64) (hbefore : before.length = initialBase.toNat)
    {calls : List WordBuffer.Call} {w : Window}
    (run : Run Window.step Window.Fits ⟨.create storage initialBase, before⟩ calls w) :
    (w.buffer.base ≤ w.buffer.sendNext ∧ w.buffer.sendNext ≤ w.buffer.end_) ∧
      (w.buffer.end_ - w.buffer.base).toNat ≤ storage.length ∧
      w.buffer.end_.toNat = w.log.length ∧
      (∀ fromOffset dest, w.buffer.base ≤ fromOffset → fromOffset < w.buffer.end_ →
        w.buffer.copyOut fromOffset dest = (w.log.drop fromOffset.toNat).take dest) ∧
      (∀ bytes, (w.buffer.append bytes).1 =
        min bytes.length (storage.length - (w.buffer.end_ - w.buffer.base).toNat)) ∧
      ∀ c e, (w.buffer.call c).1 = .failed e → (w.buffer.call c).2 = w.buffer := by
  obtain ⟨holds, hcap⟩ := Window.Sound.run small run (Window.Sound.create hbefore)
  have hend : w.buffer.base ≤ w.buffer.end_ := UInt64.le_iff_toNat_le.mpr holds.base_le_end
  have hwin : (w.buffer.end_ - w.buffer.base).toNat = w.buffer.end_.toNat - w.buffer.base.toNat :=
    UInt64.toNat_sub_of_le _ _ hend
  refine ⟨⟨UInt64.le_iff_toNat_le.mpr holds.base_le, UInt64.le_iff_toNat_le.mpr holds.sendNext_le⟩,
    ?_, holds.end_eq, ?_, ?_, fun c e h => WordBuffer.call_failed h⟩
  · rw [hwin, ← hcap]
    exact holds.size_le
  · intro fromOffset dest hlow hhigh
    rw [WordBuffer.copyOut_eq]
    exact holds.copyOut_eq (UInt64.le_iff_toNat_le.mp hlow) (UInt64.lt_iff_toNat_lt.mp hhigh)
  · intro bytes
    have hroom := WordBuffer.room_eq holds (by rw [hcap]; exact small)
    rw [WordBuffer.append_fst, hroom, hwin, ← hcap]
    · rfl
    · intro hempty
      simp [hroom, SendBuffer.room, hempty]

/-- A ring of four that has wrapped, with two bytes acknowledged. -/
theorem sendBuffer_slides_sample :
    let w : Window := ⟨⟨[5, 6, 3, 4], 2, 6, 3, false, 0⟩, [1, 2, 3, 4, 5, 6]⟩
    Run Window.step Window.Fits ⟨.create (List.replicate 4 0) 0, []⟩
        [.append [1, 2, 3], .advanceSendNext 3, .acknowledge 2, .append [4, 5, 6, 7]] w ∧
      w.buffer.copyOut 2 9 = (w.log.drop (2 : UInt64).toNat).take 9 := by
  intro w
  have run : Run Window.step Window.Fits ⟨.create (List.replicate 4 0) 0, []⟩
      [.append [1, 2, 3], .advanceSendNext 3, .acknowledge 2, .append [4, 5, 6, 7]] w :=
    Run.of_guarded (by decide)
  exact ⟨run, (sendBuffer_slides (by decide) rfl run).2.2.2.1 2 9 (by decide) (by decide)⟩

/-- The addition comes before the clamp: an advance by nearly `2 ^ 64` bytes puts the cursor below
what the peer has acknowledged. -/
theorem advanceSendNext_comes_round :
    ∃ calls w, Run Window.step Anywhere ⟨.create (List.replicate 4 0) 0, []⟩ calls w ∧
      w.buffer.sendNext < w.buffer.base :=
  ⟨[.append [1, 2, 3], .acknowledge 2, .advanceSendNext (0 - 1)], _, Run.of_exec rfl, by decide⟩

end Zet.Session
