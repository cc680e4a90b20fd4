import Zet.Lib.Run
import Zet.Wire.ClearFrame

/-!
# Frames out of chunks

A run of `FrameStream`: chunks appended, frames asked for, the limit raised, in any order. `FrameIntake`
keeps beside the stream every byte it has taken and every frame it has handed out.

`readFrame_eq` says what `ReadFrame` answers for any buffer, and everything else follows from it: the
front of a sequence of frames reads as the first of them or as truncated (`readFrame_front`), an
error of the header stays one whatever is appended (`readFrame_append`), and a buffer that is full
decides (`FrameStream.Kept.full`).
-/

namespace Zet.Wire
open Zet.Core Zet.Lib

/-- A header is the first five bytes. -/
lemma readFrameHeader_eq (buffer : Bytes) :
    readFrameHeader buffer =
      if buffer.length < headerSize then .error .truncated
      else .ok (⟨decodeBE (buffer.take 4), decodeBE ((buffer.drop 4).take 1)⟩, buffer.drop headerSize) := by
  have hsize : headerSize = 5 := rfl
  by_cases h4 : buffer.length < 4
  · rw [if_pos (show buffer.length < headerSize by omega)]
    change Except.bind (readBE 4 buffer) _ = _
    rw [readBE_eq, if_pos h4]
    rfl
  · have hlength : readBE 4 buffer = .ok (decodeBE (buffer.take 4), buffer.drop 4) := by
      rw [readBE_eq, if_neg h4]
    rw [readFrameHeader, Reader.bind_ok hlength]
    change Except.bind (readBE 1 (buffer.drop 4)) _ = _
    rw [readBE_eq, List.length_drop, List.drop_drop]
    by_cases h5 : buffer.length < 5
    · rw [if_pos (by omega), if_pos (show buffer.length < headerSize by omega)]
      rfl
    · rw [if_neg (by omega), if_neg (show ¬buffer.length < headerSize by omega)]
      rfl

/-- What `ReadFrame` answers, case by case. -/
lemma readFrame_eq (buffer : Bytes) (maxBodyLength : Nat) :
    readFrame buffer maxBodyLength =
      let length := decodeBE (buffer.take 4)
      if buffer.length < headerSize then .error .truncated
      else if maxBodyLength < length then .error .lengthLimitExceeded
      else if length = 0 then .error .malformedField
      else if buffer.length < headerSize + length then .error .truncated
      else .ok ⟨⟨length, decodeBE ((buffer.drop 4).take 1)⟩, (buffer.drop headerSize).take length,
        headerSize + length⟩ := by
  unfold readFrame clearFrame
  by_cases hshort : buffer.length < headerSize
  · rw [if_pos hshort]
    have hheader := readFrameHeader_eq buffer
    rw [if_pos hshort] at hheader
    simp only [Bind.bind, StateT.bind, Except.bind, hheader, Except.map]
  have hheader := readFrameHeader_eq buffer
  rw [if_neg hshort] at hheader
  rw [if_neg hshort, Reader.bind_ok hheader]
  dsimp only
  by_cases hlimit : maxBodyLength < decodeBE (buffer.take 4)
  · rw [if_pos hlimit, if_pos hlimit]
    rfl
  rw [Reader.check_ok hlimit, if_neg hlimit]
  by_cases hzero : decodeBE (buffer.take 4) = 0
  · rw [if_pos hzero, if_pos hzero]
    rfl
  rw [Reader.check_ok hzero, if_neg hzero]
  by_cases hbody : buffer.length < headerSize + decodeBE (buffer.take 4)
  · have hread : decodeBE (buffer.take 4) > (buffer.drop headerSize).length := by
      rw [List.length_drop]
      omega
    rw [if_pos hbody]
    simp only [readBytes, Bind.bind, StateT.bind, Except.bind, if_pos hread, Except.map]
  · have hread : ¬decodeBE (buffer.take 4) > (buffer.drop headerSize).length := by
      rw [List.length_drop]
      omega
    rw [if_neg hbody]
    simp only [readBytes, Bind.bind, StateT.bind, Except.bind, if_neg hread, Except.map]
    rfl

/-- A header that is refused is refused whatever follows it. -/
lemma readFrame_append {buffer : Bytes} {maxBodyLength : Nat} {e : ProtoError}
    (h : readFrame buffer maxBodyLength = .error e) (bad : e ≠ .truncated) (more : Bytes) :
    readFrame (buffer ++ more) maxBodyLength = .error e := by
  rw [readFrame_eq] at h ⊢
  dsimp only at h ⊢
  split at h
  · cases h
    exact absurd rfl bad
  · next hlong =>
    have hlength : (buffer ++ more).take 4 = buffer.take 4 :=
      List.take_append_of_le_length (by simp only [headerSize] at hlong; omega)
    rw [if_neg (by rw [List.length_append]; omega), hlength]
    split at h
    · next hlimit => rwa [if_pos hlimit]
    · next hlimit =>
      split at h
      · next hzero => rwa [if_neg hlimit, if_pos hzero]
      · split at h
        · cases h
          exact absurd rfl bad
        · cases h

/-- A frame on the wire: its body is not empty, and fits the length field. -/
structure WireFrame where
  epoch : UInt8
  body : Bytes
  pos : 0 < body.length
  word : body.length < 2 ^ 32

/-- The frame as it is sent. -/
def WireFrame.bytes (f : WireFrame) : Bytes :=
  encodeBE 4 f.body.length ++ encodeBE 1 f.epoch.toNat ++ f.body

/-- The frame as it is handed out. -/
def WireFrame.view (f : WireFrame) : ClearFrame :=
  ⟨⟨f.body.length, f.epoch.toNat⟩, f.body, headerSize + f.body.length⟩

/-- A frame is a header longer than its body. -/
@[simp] lemma WireFrame.length_bytes (f : WireFrame) :
    f.bytes.length = headerSize + f.body.length := by
  simp [bytes, headerSize]
  omega

/-- The front of a sequence of frames is the first of them, or too little of it. -/
lemma readFrame_front {f : WireFrame} {buffer more tail : Bytes} {maxBodyLength : Nat}
    (h : buffer ++ more = f.bytes ++ tail) (limit : f.body.length ≤ maxBodyLength) :
    readFrame buffer maxBodyLength =
      if buffer.length < f.bytes.length then .error .truncated else .ok f.view := by
  have hsize : headerSize = 5 := rfl
  have hpos := f.pos
  rw [readFrame_eq, f.length_bytes]
  by_cases hshort : buffer.length < headerSize
  · rw [if_pos hshort, if_pos (by omega)]
  have hbytes : f.bytes ++ tail =
      encodeBE 4 f.body.length ++ (encodeBE 1 f.epoch.toNat ++ (f.body ++ tail)) := by
    simp [WireFrame.bytes]
  have hfront : buffer.take 4 = encodeBE 4 f.body.length := by
    have := congrArg (List.take 4) h
    rwa [List.take_append_of_le_length (by omega), hbytes,
      List.take_left' (length_encodeBE 4 f.body.length)] at this
  have hlength : decodeBE (buffer.take 4) = f.body.length := by
    rw [hfront, decodeBE_encodeBE, Nat.mod_eq_of_lt (by have := f.word; omega)]
  rw [if_neg hshort]
  simp only [hlength]
  rw [if_neg (by omega), if_neg (by omega)]
  split
  · rfl
  · next hlong =>
    have hrest : buffer.drop 4 ++ more = encodeBE 1 f.epoch.toNat ++ (f.body ++ tail) := by
      have := congrArg (List.drop 4) h
      rwa [List.drop_append_of_le_length (by omega), hbytes,
        List.drop_left' (length_encodeBE 4 f.body.length)] at this
    have hepoch : (buffer.drop 4).take 1 = encodeBE 1 f.epoch.toNat := by
      have := congrArg (List.take 1) hrest
      rwa [List.take_append_of_le_length (by rw [List.length_drop]; omega),
        List.take_left' (length_encodeBE 1 f.epoch.toNat)] at this
    have hbody : (buffer.drop headerSize).take f.body.length = f.body := by
      have := congrArg (List.drop 1) hrest
      rw [List.drop_append_of_le_length (by rw [List.length_drop]; omega), List.drop_drop,
        List.drop_left' (length_encodeBE 1 f.epoch.toNat)] at this
      have := congrArg (List.take f.body.length) this
      rwa [List.take_append_of_le_length (by rw [List.length_drop]; omega),
        List.take_left' rfl] at this
    rw [hepoch, hbody, decodeBE_encodeBE, Nat.mod_eq_of_lt (by have := f.epoch.toNat_lt; omega)]
    rfl

namespace FrameStream

/-- `FrameStream::Room`. -/
def room (f : FrameStream) : Nat := f.capacity - f.buffered

/-- What the stream keeps: what it holds fits its capacity, and the limit on a body is what the
capacity leaves after a header. -/
structure Kept (f : FrameStream) : Prop where
  pending_le : f.pending ≤ f.held.length
  held_le : f.held.length ≤ f.capacity
  capacity_le : f.capacity ≤ f.storage
  limit_eq : f.maxBodyLength = f.capacity - min f.capacity headerSize
  header_le : headerSize ≤ f.storage → headerSize ≤ f.capacity

variable {f f' : FrameStream}

/-- A new stream is kept. -/
lemma Kept.create (storage maxBodyLength : Nat) : Kept (create storage maxBodyLength) where
  pending_le := le_rfl
  held_le := Nat.zero_le _
  capacity_le := Nat.min_le_left _ _
  limit_eq := rfl
  header_le := fun h => Nat.le_min.mpr ⟨h, Nat.le_add_right _ _⟩

/-- So is one whose limit is raised. -/
lemma Kept.raiseLimit (k : Kept f) (maxBodyLength : Nat) : Kept (f.raiseLimit maxBodyLength) where
  pending_le := k.pending_le
  held_le := by
    have hheld := k.held_le
    have hcap := k.capacity_le
    have hlimit := k.limit_eq
    change f.held.length ≤ min f.storage (headerSize + max maxBodyLength f.maxBodyLength)
    omega
  capacity_le := Nat.min_le_left _ _
  limit_eq := rfl
  header_le := fun h => Nat.le_min.mpr ⟨h, Nat.le_add_right _ _⟩

/-- So is one that drops the frame it handed out. -/
lemma Kept.dropPending (k : Kept f) : Kept f.dropPending where
  pending_le := Nat.zero_le _
  held_le := by
    have := k.held_le
    rw [length_dropPending, buffered]
    exact (Nat.sub_le _ _).trans this
  capacity_le := k.capacity_le
  limit_eq := k.limit_eq
  header_le := k.header_le

/-- What an append does: it takes the chunk that fits the room, and nothing of one that does not. -/
lemma append_cases (f : FrameStream) (chunk : Bytes) :
    (chunk.length ≤ f.room ∧
      f.append chunk = (.ok (), { f.dropPending with held := f.dropPending.held ++ chunk })) ∨
    (f.room < chunk.length ∧ f.append chunk = (.error .lengthLimitExceeded, f.dropPending)) := by
  have hroom : f.dropPending.capacity - f.dropPending.held.length = f.room := by
    rw [length_dropPending]
    rfl
  unfold append
  dsimp only
  rw [hroom]
  by_cases h : chunk.length > f.room
  · exact .inr ⟨h, if_pos h⟩
  · exact .inl ⟨by omega, if_neg h⟩

/-- So is one that takes bytes in. -/
lemma Kept.append (k : Kept f) (chunk : Bytes) : Kept (f.append chunk).2 := by
  rcases append_cases f chunk with ⟨hroom, happend⟩ | ⟨-, happend⟩
  · rw [happend]
    refine ⟨Nat.zero_le _, ?_, k.capacity_le, k.limit_eq, k.header_le⟩
    have hheld := k.dropPending.held_le
    rw [length_dropPending] at hheld
    simp only [room] at hroom
    change (f.dropPending.held ++ chunk).length ≤ f.capacity
    rw [List.length_append, length_dropPending]
    have : f.dropPending.capacity = f.capacity := rfl
    omega
  · rw [happend]
    exact k.dropPending

/-- What asking for a frame does. -/
lemma next_cases (f : FrameStream) :
    (readFrame f.dropPending.held f.maxBodyLength = .error .truncated ∧
      f.next = (.ok none, f.dropPending)) ∨
    (∃ e, e ≠ .truncated ∧ readFrame f.dropPending.held f.maxBodyLength = .error e ∧
      f.next = (.error e, f.dropPending)) ∨
    (∃ frame, readFrame f.dropPending.held f.maxBodyLength = .ok frame ∧
      f.next = (.ok (some frame), { f.dropPending with pending := frame.consumed })) := by
  simp only [FrameStream.next]
  split
  · next hread => exact .inl ⟨hread, rfl⟩
  · next e bad hread => exact .inr (.inl ⟨e, bad, hread, rfl⟩)
  · next frame hread => exact .inr (.inr ⟨frame, hread, rfl⟩)

/-- So is one that is asked for a frame. -/
lemma Kept.next (k : Kept f) : Kept f.next.2 := by
  rcases next_cases f with ⟨-, hnext⟩ | ⟨e, -, -, hnext⟩ | ⟨frame, hread, hnext⟩
  · rw [hnext]
    exact k.dropPending
  · rw [hnext]
    exact k.dropPending
  · rw [hnext]
    exact { k.dropPending with pending_le := (readFrame_consumed hread).2 }

/-- A full buffer decides: it holds a header, and any body within the limit whole. -/
lemma Kept.full (k : Kept f) (header : headerSize ≤ f.storage) (full : f.room = 0) :
    f.next.1 ≠ .ok none := by
  have hsize : f.dropPending.held.length = f.capacity := by
    have := k.dropPending.held_le
    rw [length_dropPending] at this ⊢
    simp only [room] at full
    have : f.dropPending.capacity = f.capacity := rfl
    omega
  have hheader := k.header_le header
  have hlimit := k.limit_eq
  have hdecided : readFrame f.dropPending.held f.maxBodyLength ≠ .error .truncated := by
    rw [readFrame_eq]
    dsimp only
    rw [if_neg (by omega)]
    split
    · exact nofun
    · split
      · exact nofun
      · rw [if_neg (by omega)]
        exact nofun
  rcases next_cases f with ⟨hread, -⟩ | ⟨e, -, -, hnext⟩ | ⟨frame, -, hnext⟩
  · exact absurd hread hdecided
  · rw [hnext]
    exact nofun
  · rw [hnext]
    exact nofun

end FrameStream

/-- A call of the stream. -/
inductive FrameCall where
  | append (chunk : Bytes)
  | next
  | raiseLimit (maxBodyLength : Nat)
deriving DecidableEq, Repr

/-- A stream, every byte it has taken and every frame it has handed out. -/
structure FrameIntake where
  stream : FrameStream
  taken : Bytes
  yielded : List ClearFrame
deriving DecidableEq, Repr

namespace FrameIntake

/-- A fresh stream. -/
def start (storage maxBodyLength : Nat) : FrameIntake := ⟨.create storage maxBodyLength, [], []⟩

/-- The bytes taken after an append. -/
def afterAppend (s : FrameIntake) (chunk : Bytes) : Bytes :=
  match (s.stream.append chunk).1 with
  | .ok _ => s.taken ++ chunk
  | .error _ => s.taken

/-- The frames handed out after one was asked for. -/
def afterNext (s : FrameIntake) : List ClearFrame :=
  match s.stream.next.1 with
  | .ok (some frame) => s.yielded ++ [frame]
  | _ => s.yielded

/-- Make a call. -/
def step (s : FrameIntake) : FrameCall → Option FrameIntake
  | .append chunk => some ⟨(s.stream.append chunk).2, s.afterAppend chunk, s.yielded⟩
  | .next => some ⟨s.stream.next.2, s.taken, s.afterNext⟩
  | .raiseLimit maxBodyLength => some { s with stream := s.stream.raiseLimit maxBodyLength }

/-- The frames arrive in chunks no larger than the room, and each is within the limit in force when
it is asked for. -/
def Fed (frames : List WireFrame) (s : FrameIntake) : FrameCall → Prop
  | .append chunk =>
    chunk.length ≤ s.stream.room ∧ s.taken ++ chunk <+: frames.flatMap WireFrame.bytes
  | .next => ∀ f, frames[s.yielded.length]? = some f → f.body.length ≤ s.stream.maxBodyLength
  | .raiseLimit _ => True

instance (frames : List WireFrame) (s : FrameIntake) : ∀ c, Decidable (Fed frames s c)
  | .append chunk => inferInstanceAs (Decidable
      (chunk.length ≤ s.stream.room ∧ s.taken ++ chunk <+: frames.flatMap WireFrame.bytes))
  | .next => inferInstanceAs (Decidable
      (∀ f ∈ frames[s.yielded.length]?, f.body.length ≤ s.stream.maxBodyLength))
  | .raiseLimit _ => inferInstanceAs (Decidable True)

/-- Any call but a raise of the limit. -/
def Unraised (_ : FrameIntake) : FrameCall → Prop
  | .raiseLimit _ => False
  | _ => True

variable {s s' : FrameIntake} {frames : List WireFrame} {c : FrameCall}

/-- Every call keeps the stream. -/
lemma kept_step (k : s.stream.Kept) (h : s.step c = some s') : s'.stream.Kept := by
  cases c with
  | append chunk =>
    cases h
    exact k.append chunk
  | next =>
    cases h
    exact k.next
  | raiseLimit maxBodyLength =>
    cases h
    exact k.raiseLimit maxBodyLength

/-- The storage is borrowed once. -/
lemma storage_step (h : s.step c = some s') : s'.stream.storage = s.stream.storage := by
  cases c with
  | append chunk =>
    cases h
    rcases s.stream.append_cases chunk with ⟨-, happend⟩ | ⟨-, happend⟩ <;>
      simp only [happend] <;> rfl
  | next =>
    cases h
    rcases s.stream.next_cases with ⟨-, hnext⟩ | ⟨e, -, -, hnext⟩ | ⟨frame, -, hnext⟩ <;>
      simp only [hnext] <;> rfl
  | raiseLimit maxBodyLength =>
    cases h
    rfl

/-- What was handed out is the first frames, and what is held is the bytes taken since. -/
structure InOrder (frames : List WireFrame) (s : FrameIntake) : Prop where
  count : s.yielded.length ≤ frames.length
  yielded : s.yielded = (frames.take s.yielded.length).map WireFrame.view
  held : (frames.take s.yielded.length).flatMap WireFrame.bytes ++ s.stream.dropPending.held = s.taken
  taken : s.taken <+: frames.flatMap WireFrame.bytes

/-- At the start nothing was handed out. -/
lemma InOrder.start (frames : List WireFrame) (storage maxBodyLength : Nat) :
    InOrder frames (start storage maxBodyLength) :=
  ⟨Nat.zero_le _, rfl, rfl, List.nil_prefix⟩

/-- What is held is the front of the frames not yet handed out. -/
lemma InOrder.front (o : InOrder frames s) : s.stream.dropPending.held <+:
    (frames.drop s.yielded.length).flatMap WireFrame.bytes := by
  have htaken := o.taken
  rw [← o.held] at htaken
  have hsplit : frames.flatMap WireFrame.bytes =
      (frames.take s.yielded.length).flatMap WireFrame.bytes ++
        (frames.drop s.yielded.length).flatMap WireFrame.bytes := by
    rw [← List.flatMap_append, List.take_append_drop]
  rw [hsplit] at htaken
  exact (List.prefix_append_right_inj _).mp htaken

/-- The frame at a place is the first from there on. -/
lemma drop_of_getElem? {k : Nat} {f : WireFrame} (hf : frames[k]? = some f) :
    frames.drop k = f :: frames.drop (k + 1) := by
  obtain ⟨hk, rfl⟩ := List.getElem?_eq_some_iff.mp hf
  exact List.drop_eq_getElem_cons hk

/-- What asking for a frame answers: the next frame as soon as it is all there. -/
lemma InOrder.next (o : InOrder frames s) (limit : Fed frames s .next) :
    s.stream.next = match frames[s.yielded.length]? with
      | none => (.ok none, s.stream.dropPending)
      | some f =>
        if s.stream.buffered < f.bytes.length then (.ok none, s.stream.dropPending)
        else (.ok (some f.view), { s.stream.dropPending with pending := f.bytes.length }) := by
  obtain ⟨more, hfront⟩ := o.front
  cases hf : frames[s.yielded.length]? with
  | none =>
    have hdrop : frames.drop s.yielded.length = [] :=
      List.drop_eq_nil_of_le (List.getElem?_eq_none_iff.mp hf)
    have hheld : s.stream.dropPending.held = [] := by
      rw [hdrop] at hfront
      exact (List.append_eq_nil_iff.mp hfront).1
    rcases s.stream.next_cases with ⟨-, hnext⟩ | ⟨e, bad, hread, -⟩ | ⟨frame, hread, -⟩
    · exact hnext
    · rw [hheld] at hread
      cases hread
      exact absurd rfl bad
    · rw [hheld] at hread
      cases hread
  | some f =>
    rw [drop_of_getElem? hf, List.flatMap_cons] at hfront
    have hread := readFrame_front hfront (limit f hf)
    rw [FrameStream.length_dropPending] at hread
    dsimp only
    split
    · next hshort =>
      rw [if_pos hshort] at hread
      rcases s.stream.next_cases with ⟨-, hnext⟩ | ⟨e, bad, herr, -⟩ | ⟨frame, hok, -⟩
      · exact hnext
      · rw [hread] at herr
        cases herr
        exact absurd rfl bad
      · rw [hread] at hok
        cases hok
    · next hlong =>
      rw [if_neg hlong] at hread
      rcases s.stream.next_cases with ⟨herr, -⟩ | ⟨e, -, herr, -⟩ | ⟨frame, hok, hnext⟩
      · rw [hread] at herr
        cases herr
      · rw [hread] at herr
        cases herr
      · rw [hread] at hok
        cases hok
        rw [hnext, f.length_bytes]
        rfl

/-- A call on the bytes of the frames keeps their order. -/
lemma InOrder.step (o : InOrder frames s) (ok : Fed frames s c) (h : s.step c = some s') :
    InOrder frames s' := by
  cases c with
  | append chunk =>
    obtain ⟨hroom, hmore⟩ := ok
    rcases s.stream.append_cases chunk with ⟨-, happend⟩ | ⟨hover, -⟩
    · cases h
      refine ⟨o.count, o.yielded, ?_, ?_⟩
      · simp only [happend, afterAppend, ← o.held, List.append_assoc]
        rfl
      · simpa only [happend, afterAppend] using hmore
    · omega
  | next =>
    have hnext := o.next ok
    obtain ⟨more, hfront⟩ := o.front
    cases h
    cases hf : frames[s.yielded.length]? with
    | none =>
      rw [hf] at hnext
      simp only [afterNext, hnext]
      exact ⟨o.count, o.yielded, o.held, o.taken⟩
    | some f =>
      rw [hf] at hnext
      dsimp only at hnext
      split at hnext
      · simp only [afterNext, hnext]
        exact ⟨o.count, o.yielded, o.held, o.taken⟩
      · next hlong =>
        simp only [afterNext, hnext]
        rw [drop_of_getElem? hf, List.flatMap_cons] at hfront
        have hcons : s.stream.dropPending.held =
            f.bytes ++ s.stream.dropPending.held.drop f.bytes.length := by
          have := congrArg (List.take f.bytes.length) hfront
          rw [List.take_append_of_le_length (by rw [FrameStream.length_dropPending]; omega),
            List.take_left' rfl] at this
          conv_lhs => rw [← List.take_append_drop f.bytes.length s.stream.dropPending.held, this]
        have htake : frames.take (s.yielded.length + 1) = frames.take s.yielded.length ++ [f] := by
          rw [List.take_add_one, hf]
          rfl
        have hlen : (s.yielded ++ [f.view]).length = s.yielded.length + 1 := by simp
        obtain ⟨hk, -⟩ := List.getElem?_eq_some_iff.mp hf
        refine ⟨by rw [hlen]; exact hk, ?_, ?_, o.taken⟩
        · rw [hlen, htake, List.map_append, ← o.yielded]
          rfl
        · rw [hlen, htake, List.flatMap_append, ← o.held]
          conv_rhs => rw [hcons]
          rw [List.append_assoc]
          simp only [List.flatMap_cons, List.flatMap_nil, List.append_nil]
          rfl
  | raiseLimit maxBodyLength =>
    cases h
    exact ⟨o.count, o.yielded, o.held, o.taken⟩

/-- A header at the front is refused. -/
def Stuck (e : ProtoError) (s : FrameIntake) : Prop :=
  e ≠ .truncated ∧ readFrame s.stream.dropPending.held s.stream.maxBodyLength = .error e

/-- A stream that is stuck fails again. -/
lemma Stuck.next {e : ProtoError} (stuck : Stuck e s) :
    s.stream.next = (.error e, s.stream.dropPending) := by
  obtain ⟨bad, hread⟩ := stuck
  rcases s.stream.next_cases with ⟨herr, -⟩ | ⟨e', -, herr, hnext⟩ | ⟨frame, hok, -⟩
  · rw [hread] at herr
    cases herr
    exact absurd rfl bad
  · rw [hread] at herr
    cases herr
    exact hnext
  · rw [hread] at hok
    cases hok

/-- A stream that failed is stuck. -/
lemma Stuck.of_next {e : ProtoError} (h : s.stream.next.1 = .error e) : Stuck e s := by
  rcases s.stream.next_cases with ⟨-, hnext⟩ | ⟨e', bad, herr, hnext⟩ | ⟨frame, -, hnext⟩
  · rw [hnext] at h
    cases h
  · rw [hnext] at h
    cases h
    exact ⟨bad, herr⟩
  · rw [hnext] at h
    cases h

/-- A refused header stays at the front as long as the limit stays. -/
lemma Stuck.step {e : ProtoError} (stuck : Stuck e s) (ok : Unraised s c) (h : s.step c = some s') :
    Stuck e s' := by
  cases c with
  | append chunk =>
    cases h
    rcases s.stream.append_cases chunk with ⟨-, happend⟩ | ⟨-, happend⟩
    · refine ⟨stuck.1, ?_⟩
      simp only [happend]
      exact readFrame_append stuck.2 stuck.1 chunk
    · refine ⟨stuck.1, ?_⟩
      simp only [happend]
      exact stuck.2
  | next =>
    have hnext := stuck.next
    cases h
    refine ⟨stuck.1, ?_⟩
    simp only [hnext]
    exact stuck.2
  | raiseLimit maxBodyLength => cases ok

end FrameIntake

/-- Frames come out as they went in, whatever the chunks: those handed out are the first of them,
what is held is the bytes that follow, and the next frame comes as soon as it is all there. Whatever
the bytes, the stream stays within its capacity, a full buffer over storage that takes a header
decides, and a refused header is refused until the limit is raised. -/
theorem frameStream_reassembles (storage maxBodyLength : Nat) :
    (∀ frames calls s,
      Run FrameIntake.step (FrameIntake.Fed frames) (.start storage maxBodyLength) calls s →
      s.yielded = (frames.take s.yielded.length).map WireFrame.view ∧
        (frames.take s.yielded.length).flatMap WireFrame.bytes ++ s.stream.dropPending.held =
          s.taken ∧
        (∀ chunk, chunk.length ≤ s.stream.room → (s.stream.append chunk).1 = .ok ()) ∧
        (s.Fed frames .next → s.stream.next.1 = .ok (frames[s.yielded.length]?.bind fun f =>
          if s.stream.buffered < f.bytes.length then none else some f.view))) ∧
    ∀ calls s, Run FrameIntake.step Anywhere (.start storage maxBodyLength) calls s →
      s.stream.held.length ≤ s.stream.capacity ∧
        (headerSize ≤ storage → s.stream.room = 0 → s.stream.next.1 ≠ .ok none) ∧
        ∀ e, s.stream.next.1 = .error e → ∀ later s',
          Run FrameIntake.step FrameIntake.Unraised s (.next :: later) s' →
            s'.stream.next.1 = .error e := by
  refine ⟨?_, ?_⟩
  · intro frames calls s run
    have o := run.inv (FrameIntake.InOrder frames) (fun _ _ _ o ok h => o.step ok h)
      (FrameIntake.InOrder.start frames storage maxBodyLength)
    refine ⟨o.yielded, o.held, ?_, ?_⟩
    · intro chunk hroom
      rcases s.stream.append_cases chunk with ⟨-, happend⟩ | ⟨hover, -⟩
      · rw [happend]
      · omega
    · intro limit
      rw [o.next limit]
      cases frames[s.yielded.length]? with
      | none => rfl
      | some f =>
        dsimp only [Option.bind]
        split <;> rfl
  · intro calls s run
    obtain ⟨k, hstorage⟩ := run.inv (fun s => s.stream.Kept ∧ s.stream.storage = storage)
      (fun _ _ _ k _ h =>
        ⟨FrameIntake.kept_step k.1 h, (FrameIntake.storage_step h).trans k.2⟩)
      ⟨FrameStream.Kept.create storage maxBodyLength, rfl⟩
    refine ⟨k.held_le, ?_, ?_⟩
    · intro header full
      exact k.full (by rwa [hstorage]) full
    · intro e herr later s' more
      have stuck := more.inv (FrameIntake.Stuck e) (fun _ _ _ stuck ok h => stuck.step ok h)
        (FrameIntake.Stuck.of_next herr)
      rw [stuck.next]

/-- Two frames in three chunks, the first chunk ending inside the second frame. -/
theorem frameStream_reassembles_sample :
    let frames : List WireFrame := [⟨0, [1, 2], by decide, by decide⟩, ⟨1, [3], by decide, by decide⟩]
    let s : FrameIntake := ⟨⟨16, 13, 8, [0, 0, 0, 1, 1, 3], 6⟩,
      [0, 0, 0, 2, 0, 1, 2, 0, 0, 0, 1, 1, 3], frames.map WireFrame.view⟩
    Run FrameIntake.step (FrameIntake.Fed frames) (.start 16 8)
        [.append [0, 0, 0, 2], .next, .append [0, 1, 2, 0, 0], .next, .append [0, 1, 1, 3], .next] s ∧
      s.yielded = (frames.take s.yielded.length).map WireFrame.view := by
  intro frames s
  have run : Run FrameIntake.step (FrameIntake.Fed frames) (.start 16 8)
      [.append [0, 0, 0, 2], .next, .append [0, 1, 2, 0, 0], .next, .append [0, 1, 1, 3], .next] s :=
    Run.of_guarded (by decide)
  exact ⟨run, ((frameStream_reassembles 16 8).1 frames _ s run).1⟩

/-- Storage that does not take a header is full before anything can be read off it. -/
theorem frameStream_full_undecided :
    ∃ calls s, Run FrameIntake.step Anywhere (.start 4 8) calls s ∧
      s.stream.room = 0 ∧ s.stream.next.1 = .ok none :=
  ⟨[.append [0, 0, 0, 1]], _, Run.of_exec rfl, by decide, by decide⟩

end Zet.Wire
