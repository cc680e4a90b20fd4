import Mathlib.Data.List.Chain
import Mathlib.Data.Prod.Lex
import Zet.Lib.Run
import Zet.Wire.SealedFrame

/-!
# The key ratchet of one direction

What a sealer and an opener do over a whole connection. A sealer under any calls (`sealStep`) moves
from epoch to epoch and never back, and numbers the frames of an epoch in order. An opener under any
frames (`openStep`) follows it one epoch at a time: it is in step with a sealer (`InStep`) that has
announced each of its epochs with a frame before it moved to the next one.

An epoch is a byte on the wire. A sealer stops at the last one; an opener there takes the number that
follows it, zero, for the next epoch all the same, and tries the frame with a key it never derived.
`opener_key_discipline` is what an opener keeps to as long as it is not given such a frame.
-/

namespace Zet.Wire
open Zet.Core Zet.Lib

variable {K : Type}

/-- The key of an epoch: the initial key, moved on once for each epoch since. -/
def ratchetKey (P : KeySchedule K) (key : K) : Nat → K
  | 0 => key
  | n + 1 => P.rekey (ratchetKey P key n) (n + 1)

/-- A sealer, and the frames it has sealed. -/
structure Sealing (K : Type) where
  sealer : FrameSealer K
  sent : List (FrameView K)

/-- The calls on a sealer. -/
inductive SealCall where
  | frame (out : Nat) (plaintext : Bytes)
  | rekey

/-- A sealer nothing has been sealed with. -/
def Sealing.start (key : K) (salt : Bytes) (frameLimit byteLimit : Nat) : Sealing K :=
  ⟨.create key salt frameLimit byteLimit, []⟩

/-- One call. A refused one changes nothing. -/
def sealStep (P : KeySchedule K) (s : Sealing K) : SealCall → Option (Sealing K)
  | .frame out plaintext =>
    match s.sealer.seal out plaintext with
    | .ok (frame, sealer) => some ⟨sealer, s.sent ++ [frame]⟩
    | .error _ => some s
  | .rekey =>
    match s.sealer.rekey P with
    | .ok sealer => some { s with sealer := sealer }
    | .error _ => some s

/-- A frame has been sealed in this epoch, or it is the one both ends start in. -/
def FrameSealer.Announced (s : FrameSealer K) : Prop := 0 < s.counter ∨ s.epoch = 0

instance (s : FrameSealer K) : Decidable s.Announced :=
  inferInstanceAs (Decidable (0 < s.counter ∨ s.epoch = 0))

/-- No two rekeys without a frame between them. -/
def OneRekey (s : Sealing K) : SealCall → Prop
  | .rekey => s.sealer.Announced
  | .frame .. => True

/-- Everything a call on a sealer can do. -/
lemma sealStep_cases {P : KeySchedule K} {s t : Sealing K} {call : SealCall}
    (h : sealStep P s call = some t) :
    t = s ∨
      (∃ frame out plaintext sealer, s.sealer.seal out plaintext = .ok (frame, sealer) ∧
        t = ⟨sealer, s.sent ++ [frame]⟩) ∨
      call = .rekey ∧ s.sealer.epoch ≠ 0xFF ∧ t = { s with sealer := { s.sealer with
        key := P.rekey s.sealer.key (s.sealer.epoch + 1), epoch := s.sealer.epoch + 1
        counter := 0, bytesSealed := 0 } } := by
  cases call with
  | frame out plaintext =>
    simp only [sealStep] at h
    split at h
    · next frame sealer heq =>
      exact .inr (.inl ⟨frame, out, plaintext, sealer, heq, by simpa using h.symm⟩)
    · exact .inl (by simpa using h.symm)
  | rekey =>
    simp only [sealStep, FrameSealer.rekey] at h
    by_cases hlast : s.sealer.epoch = 0xFF
    · rw [if_pos hlast] at h
      exact .inl (by simpa using h.symm)
    · rw [if_neg hlast] at h
      exact .inr (.inr ⟨rfl, hlast, by simpa using h.symm⟩)

/-- Everything a seal that succeeds does. -/
lemma FrameSealer.seal_cases {s s' : FrameSealer K} {out : Nat} {plaintext : Bytes}
    {frame : FrameView K} (h : s.seal out plaintext = .ok (frame, s')) :
    s.counter < s.frameLimit ∧ frame.header.epoch = s.epoch ∧
      frame.body = ⟨s.key, (s.salt, s.counter), frame.header, plaintext⟩ ∧
      s' = { s with
        counter := s.counter + 1, bytesSealed := s.bytesSealed + plaintext.length } := by
  obtain ⟨hepoch, hbody⟩ := FrameSealer.seal_body h
  unfold FrameSealer.seal at h
  split at h
  · cases h
  next hcount =>
  dsimp only at h
  split at h
  · cases h
  split at h
  · cases h
  cases h
  exact ⟨Nat.not_le.mp hcount, hepoch, hbody, rfl⟩

/-- Where in the sealed stream a frame stands: its epoch, and its number in it. -/
def FrameView.place (frame : FrameView K) : Nat ×ₗ Nat :=
  toLex (frame.header.epoch, frame.body.nonce.2)

/-- The sealer's key is the ratchet key of its epoch, every frame it sealed stands before the place of
the next one, and was sealed with the key of its epoch. -/
structure Sealing.Ratcheted (P : KeySchedule K) (key : K) (salt : Bytes) (s : Sealing K) : Prop where
  current : s.sealer.key = ratchetKey P key s.sealer.epoch
  salt : s.sealer.salt = salt
  last : s.sealer.epoch ≤ 0xFF
  placed : ∀ frame ∈ s.sent, frame.place < toLex (s.sealer.epoch, s.sealer.counter)
  sealed : ∀ frame ∈ s.sent, frame.header.epoch ≤ 0xFF ∧
    frame.body.key = ratchetKey P key frame.header.epoch
  increasing : s.sent.Pairwise fun a b => a.place < b.place

/-- A new sealer is at the start of its ratchet. -/
lemma Sealing.Ratcheted.start (P : KeySchedule K) (key : K) (salt : Bytes)
    (frameLimit byteLimit : Nat) :
    (Sealing.start key salt frameLimit byteLimit).Ratcheted P key salt :=
  ⟨rfl, rfl, Nat.zero_le _, by simp [Sealing.start], by simp [Sealing.start],
    by simp [Sealing.start]⟩

/-- One call keeps the ratchet. -/
lemma Sealing.Ratcheted.step {P : KeySchedule K} {key : K} {salt : Bytes} {s t : Sealing K}
    {call : SealCall} (h : s.Ratcheted P key salt) (hstep : sealStep P s call = some t) :
    t.Ratcheted P key salt := by
  rcases sealStep_cases hstep with rfl | ⟨frame, out, plaintext, sealer, hseal, rfl⟩ |
    ⟨-, hlast, rfl⟩
  · exact h
  · obtain ⟨-, hepoch, hbody, rfl⟩ := FrameSealer.seal_cases hseal
    have hplace : frame.place = toLex (s.sealer.epoch, s.sealer.counter) := by
      simp [FrameView.place, hepoch, hbody]
    have hnext : toLex (s.sealer.epoch, s.sealer.counter) <
        toLex (s.sealer.epoch, s.sealer.counter + 1) := by
      simp [Prod.Lex.toLex_lt_toLex]
    refine ⟨h.current, h.salt, h.last, ?_, ?_, ?_⟩
    · intro f hf
      rcases List.mem_append.mp hf with hf | hf
      · exact (h.placed f hf).trans hnext
      · obtain rfl := List.mem_singleton.mp hf
        rw [hplace]
        exact hnext
    · intro f hf
      rcases List.mem_append.mp hf with hf | hf
      · exact h.sealed f hf
      · obtain rfl := List.mem_singleton.mp hf
        rw [hepoch, hbody]
        exact ⟨h.last, h.current⟩
    · refine List.pairwise_append.mpr ⟨h.increasing, List.pairwise_singleton _ _, ?_⟩
      intro f hf f' hf'
      obtain rfl := List.mem_singleton.mp hf'
      rw [hplace]
      exact h.placed f hf
  · refine ⟨?_, h.salt, ?_, ?_, h.sealed, h.increasing⟩
    · rw [ratchetKey, ← h.current]
    · have hle := h.last
      show s.sealer.epoch + 1 ≤ 0xFF
      omega
    · intro f hf
      refine (h.placed f hf).trans ?_
      simp [Prod.Lex.toLex_lt_toLex]

/-- A sealer never uses a key with a nonce twice, if no two epochs share a key. -/
lemma Sealing.Ratcheted.nodup {P : KeySchedule K} {key : K} {salt : Bytes} {s : Sealing K}
    (h : s.Ratcheted P key salt)
    (ideal : ∀ m n, m ≤ 0xFF → n ≤ 0xFF → ratchetKey P key m = ratchetKey P key n → m = n) :
    (s.sent.map fun frame => (frame.body.key, frame.body.nonce)).Nodup := by
  refine (List.pairwise_map).mpr (h.increasing.imp_of_mem ?_)
  intro a b ha hb hlt heq
  obtain ⟨hkey, hnonce⟩ := Prod.mk.inj heq
  obtain ⟨hea, hka⟩ := h.sealed a ha
  obtain ⟨heb, hkb⟩ := h.sealed b hb
  rw [hka, hkb] at hkey
  have hepoch := ideal _ _ hea heb hkey
  have hplace : a.place = b.place := by simp [FrameView.place, hepoch, hnonce]
  exact absurd hlt (by rw [hplace]; exact lt_irrefl _)

section
variable [DecidableEq K] {P : KeySchedule K}

/-- The key `AeadOpen` is called with for a frame, if it is called. -/
def FrameOpener.tries (P : KeySchedule K) (o : FrameOpener K) (frame : FrameView K) : Option K :=
  if frame.header.epoch = (o.epoch + 1) % 256 then
    let o := o.prepareNext P
    if o.nextCounter ≥ o.frameLimit then none else some o.nextKey
  else if frame.header.epoch ≠ o.epoch then none
  else if o.counter ≥ o.frameLimit then none
  else some o.key

omit [DecidableEq K] in
/-- Preparing the next key leaves everything else. -/
lemma FrameOpener.prepareNext_rest (P : KeySchedule K) (o : FrameOpener K) :
    (o.prepareNext P).epoch = o.epoch ∧ (o.prepareNext P).key = o.key ∧
      (o.prepareNext P).counter = o.counter ∧ (o.prepareNext P).salt = o.salt ∧
      (o.prepareNext P).frameLimit = o.frameLimit ∧
      (o.nextCounter = 0 → (o.prepareNext P).nextCounter = 0) := by
  unfold FrameOpener.prepareNext
  split
  · exact ⟨rfl, rfl, rfl, rfl, rfl, id⟩
  · exact ⟨rfl, rfl, rfl, rfl, rfl, fun _ => rfl⟩

/-- Everything an opener can do with a frame: refuse it, at most preparing the next key; open it in
the epoch it is in; or open it in the next one and move there. -/
lemma FrameOpener.open_cases (P : KeySchedule K) (o : FrameOpener K) (frame : FrameView K) :
    (∃ e, o.open P frame = (.error e, o) ∨
      (frame.header.epoch = (o.epoch + 1) % 256 ∧ o.open P frame = (.error e, o.prepareNext P))) ∨
    (frame.header.epoch ≠ (o.epoch + 1) % 256 ∧ frame.header.epoch = o.epoch ∧
      o.counter < o.frameLimit ∧ o.tries P frame = some frame.body.key ∧
      o.open P frame = (.ok frame.body.plaintext, o.bumpCurrent)) ∨
    (frame.header.epoch = (o.epoch + 1) % 256 ∧
      (o.prepareNext P).nextCounter < o.frameLimit ∧ o.tries P frame = some frame.body.key ∧
      o.open P frame = (.ok frame.body.plaintext, (o.prepareNext P).switchToNext P)) := by
  obtain ⟨-, -, -, -, hlimit, -⟩ := FrameOpener.prepareNext_rest P o
  unfold FrameOpener.open FrameOpener.tries
  by_cases hnext : frame.header.epoch = (o.epoch + 1) % 256
  · rw [if_pos hnext, if_pos hnext]
    dsimp only
    rw [hlimit]
    split
    · exact .inl ⟨_, .inr ⟨hnext, rfl⟩⟩
    next hcount =>
    split
    · exact .inl ⟨_, .inr ⟨hnext, rfl⟩⟩
    next plain hplain =>
    obtain ⟨hkey, -, rfl⟩ := aeadOpen_ok hplain
    exact .inr (.inr ⟨hnext, Nat.not_le.mp hcount, by rw [hkey], rfl⟩)
  · rw [if_neg hnext, if_neg hnext]
    by_cases hsame : frame.header.epoch = o.epoch
    · rw [if_neg (not_not.mpr hsame), if_neg (not_not.mpr hsame)]
      split
      · exact .inl ⟨_, .inl rfl⟩
      next hcount =>
      split
      · exact .inl ⟨_, .inl rfl⟩
      next plain hplain =>
      obtain ⟨hkey, -, rfl⟩ := aeadOpen_ok hplain
      exact .inr (.inl ⟨hnext, hsame, Nat.not_le.mp hcount, by rw [hkey], rfl⟩)
    · rw [if_pos hsame, if_pos hsame]
      exact .inl ⟨_, .inl rfl⟩

/-- One frame given to an opener. -/
def openStep (P : KeySchedule K) (o : FrameOpener K) (frame : FrameView K) :
    Option (FrameOpener K) :=
  some (o.open P frame).2

/-- What the opener holds is of the ratchet, as far as it has been prepared. -/
structure FrameOpener.Ratcheted (P : KeySchedule K) (key : K) (o : FrameOpener K) : Prop where
  current : o.key = ratchetKey P key o.epoch
  last : o.epoch ≤ 0xFF
  next : o.nextReady = true → o.epoch < 0xFF ∧ o.nextKey = ratchetKey P key (o.epoch + 1)
  blank : o.nextReady = false → o.nextKey = P.blank
  counter : o.nextCounter = 0
  limit : 0 < o.epoch → 0 < o.frameLimit

omit [DecidableEq K] in
/-- So is a new opener. -/
lemma FrameOpener.Ratcheted.create (P : KeySchedule K) (key : K) (salt : Bytes) (frameLimit : Nat) :
    (FrameOpener.create P key salt frameLimit).Ratcheted P key :=
  ⟨rfl, Nat.zero_le _, by simp [FrameOpener.create], fun _ => rfl, rfl, by simp [FrameOpener.create]⟩

omit [DecidableEq K] in
/-- Preparing the next key is refused only in the last epoch. -/
lemma FrameOpener.Ratcheted.prepareNext {key : K} {o : FrameOpener K} (h : o.Ratcheted P key) :
    (o.prepareNext P).Ratcheted P key ∧ ((o.prepareNext P).nextReady = true ↔ o.epoch < 0xFF) := by
  have hlast := h.last
  unfold FrameOpener.prepareNext
  split
  · next hskip =>
    refine ⟨h, fun hready => (h.next hready).1, fun hlt => ?_⟩
    rcases Bool.or_eq_true_iff.mp hskip with hready | hfull
    · exact hready
    · simp only [beq_iff_eq] at hfull
      omega
  · next hskip =>
    have hne : o.epoch ≠ 0xFF := by
      intro heq
      simp [heq] at hskip
    refine ⟨⟨h.current, h.last, fun _ => ⟨?_, ?_⟩, fun hnot => (by cases hnot), rfl, h.limit⟩, ?_⟩
    · show o.epoch < 0xFF
      omega
    · show P.rekey o.key (o.epoch + 1) = _
      rw [ratchetKey, ← h.current]
    · simp only [true_iff]
      omega

/-- A frame of the epoch that follows the last one: zero. -/
def Wraps (o : FrameOpener K) (frame : FrameView K) : Prop :=
  o.epoch = 0xFF ∧ frame.header.epoch = 0

/-- One frame keeps the opener on the ratchet, if it does not wrap. -/
lemma FrameOpener.Ratcheted.step {key : K} {o o' : FrameOpener K} {frame : FrameView K}
    (h : o.Ratcheted P key) (hwrap : ¬Wraps o frame) (hstep : openStep P o frame = some o') :
    o'.Ratcheted P key := by
  obtain ⟨hprep, hready⟩ := h.prepareNext
  obtain ⟨hepoch, -, -, -, hlimit, -⟩ := FrameOpener.prepareNext_rest P o
  obtain rfl : (o.open P frame).2 = o' := Option.some.inj hstep
  rcases FrameOpener.open_cases P o frame with
    ⟨e, hopen | ⟨-, hopen⟩⟩ | ⟨-, -, hcount, -, hopen⟩ | ⟨hnext, hcount, -, hopen⟩
  · rw [hopen]
    exact h
  · rw [hopen]
    exact hprep
  · rw [hopen]
    exact ⟨h.current, h.last, h.next, h.blank, h.counter, h.limit⟩
  · rw [hopen]
    have hlast := h.last
    have hlt : o.epoch < 0xFF := by
      by_contra hge
      have hfull : o.epoch = 0xFF := by omega
      exact hwrap ⟨hfull, by rw [hnext, hfull]⟩
    have hmod : (o.epoch + 1) % 256 = o.epoch + 1 := Nat.mod_eq_of_lt (by omega)
    refine ⟨?_, ?_, by simp [FrameOpener.switchToNext], fun _ => rfl, rfl, fun _ => ?_⟩
    · simp only [FrameOpener.switchToNext, hepoch, hmod]
      rw [(hprep.next (hready.mpr hlt)).2, hepoch]
    · simp only [FrameOpener.switchToNext, hepoch, hmod]
      omega
    · simp only [FrameOpener.switchToNext, hlimit]
      omega

/-- What an opener promises of one frame: it is tried with no key but the ratchet key of the epoch it
names, the epoch does not go back, no key is tried that was not derived, and nothing follows the last
epoch. -/
structure Disciplined (P : KeySchedule K) (key : K) (o : FrameOpener K) (frame : FrameView K) :
    Prop where
  ratchet : ∀ k, o.tries P frame = some k → k = ratchetKey P key frame.header.epoch
  forward : o.epoch ≤ (o.open P frame).2.epoch ∧ (o.open P frame).2.epoch ≤ 0xFF
  derived : frame.header.epoch = (o.epoch + 1) % 256 → (o.tries P frame).isSome →
    (o.prepareNext P).nextReady = true
  ends : o.epoch = 0xFF → frame.header.epoch = 0 → ∀ plain, (o.open P frame).1 ≠ .ok plain

/-- An opener on its ratchet is disciplined unless the epoch wraps. -/
lemma FrameOpener.Ratcheted.disciplined {key : K} {o : FrameOpener K} {frame : FrameView K}
    (h : o.Ratcheted P key) (hwrap : ¬Wraps o frame) : Disciplined P key o frame := by
  obtain ⟨hprep, hready⟩ := h.prepareNext
  obtain ⟨hepoch, -⟩ := FrameOpener.prepareNext_rest P o
  have hlast := h.last
  -- a frame of the next epoch finds a next epoch
  have hlt : frame.header.epoch = (o.epoch + 1) % 256 → o.epoch < 0xFF := by
    intro hnext
    by_contra hge
    have hfull : o.epoch = 0xFF := by omega
    exact hwrap ⟨hfull, by rw [hnext, hfull]⟩
  have hkept := (h.step hwrap rfl).last
  refine ⟨?_, ⟨?_, hkept⟩, fun hnext _ => hready.mpr (hlt hnext), fun hfull hzero => absurd
    ⟨hfull, hzero⟩ hwrap⟩
  · intro k hk
    unfold FrameOpener.tries at hk
    split at hk
    · next hnext =>
      dsimp only at hk
      split at hk
      · cases hk
      · obtain rfl := Option.some.inj hk
        have hsmall := hlt hnext
        rw [(hprep.next (hready.mpr hsmall)).2, hepoch, hnext, Nat.mod_eq_of_lt (by omega)]
    · split at hk
      · cases hk
      next hsame =>
      split at hk
      · cases hk
      · obtain rfl := Option.some.inj hk
        rw [h.current, not_not.mp hsame]
  · rcases FrameOpener.open_cases P o frame with
      ⟨e, hopen | ⟨-, hopen⟩⟩ | ⟨-, -, -, -, hopen⟩ | ⟨hnext, -, -, hopen⟩
    · rw [hopen]
    · rw [hopen]
      exact hepoch.ge
    · rw [hopen]
      exact Nat.le_refl _
    · rw [hopen]
      have hsmall := hlt hnext
      simp only [FrameOpener.switchToNext, hepoch]
      omega

/-- A frame that wraps is tried with a key that was not derived. -/
lemma FrameOpener.Ratcheted.not_disciplined {key : K} {o : FrameOpener K} {frame : FrameView K}
    (h : o.Ratcheted P key) (hwrap : Wraps o frame) : ¬Disciplined P key o frame := by
  obtain ⟨hfull, hzero⟩ := hwrap
  obtain ⟨hprep, hready⟩ := h.prepareNext
  obtain ⟨-, -, -, -, hlimit, -⟩ := FrameOpener.prepareNext_rest P o
  intro hdisc
  have hnext : frame.header.epoch = (o.epoch + 1) % 256 := by rw [hzero, hfull]
  have htries : (o.tries P frame).isSome := by
    have hpos := h.limit (by omega)
    simp only [FrameOpener.tries, if_pos hnext, hlimit, hprep.counter]
    rw [if_neg (by omega)]
    rfl
  have hlt := hready.mp (hdisc.derived hnext htries)
  omega

/-- Along any frames none of which wraps, an opener keeps to its promises on the next frame exactly
when that one does not wrap either. -/
theorem opener_key_discipline (P : KeySchedule K) (key : K) (salt : Bytes) (frameLimit : Nat)
    {frames : List (FrameView K)} {o : FrameOpener K}
    (run : Run (openStep P) (fun o frame => ¬Wraps o frame)
      (.create P key salt frameLimit) frames o) (frame : FrameView K) :
    Disciplined P key o frame ↔ ¬Wraps o frame := by
  have h : o.Ratcheted P key :=
    run.inv (FrameOpener.Ratcheted P key) (fun _ _ _ h hwrap hstep => h.step hwrap hstep)
      (.create P key salt frameLimit)
  exact ⟨fun hdisc hwrap => h.not_disciplined hwrap hdisc, h.disciplined⟩

/-- What an opener returns for frames in order, and the opener after them. -/
def openAll (P : KeySchedule K) : FrameOpener K → List (FrameView K) →
    List (Except ProtoError Bytes) × FrameOpener K
  | o, [] => ([], o)
  | o, frame :: frames =>
    let rest := openAll P (o.open P frame).2 frames
    ((o.open P frame).1 :: rest.1, rest.2)

/-- One frame more is opened by the opener the others left. -/
lemma openAll_append (o : FrameOpener K) (frames : List (FrameView K)) (frame : FrameView K) :
    openAll P o (frames ++ [frame]) =
      ((openAll P o frames).1 ++ [((openAll P o frames).2.open P frame).1],
        ((openAll P o frames).2.open P frame).2) := by
  induction frames generalizing o with
  | nil => rfl
  | cons f frames ih => simp only [List.cons_append, openAll, ih]

/-- Opening frames one by one. -/
lemma openAll_take (o : FrameOpener K) (frames : List (FrameView K)) (n : Nat) :
    (openAll P o (frames.take n)).1 = (openAll P o frames).1.take n := by
  induction frames generalizing o n with
  | nil => simp [openAll]
  | cons frame frames ih =>
    cases n with
    | zero => simp [openAll]
    | succ n => simp only [List.take_succ_cons, openAll, ih]

/-- The opener stands where the sealer does, or one epoch the sealer has not announced behind it. -/
structure InStep (P : KeySchedule K) (key : K) (s : FrameSealer K) (o : FrameOpener K) : Prop where
  opener : o.Ratcheted P key
  sealer : s.key = ratchetKey P key s.epoch ∧ s.epoch ≤ 0xFF
  salt : o.salt = s.salt
  limit : o.frameLimit = s.frameLimit
  place : o.epoch = s.epoch ∧ o.counter = s.counter ∨ s.epoch = o.epoch + 1 ∧ s.counter = 0

omit [DecidableEq K] in
/-- Sealer and opener start in step. -/
lemma InStep.start (P : KeySchedule K) (key : K) (salt : Bytes) (frameLimit byteLimit : Nat) :
    InStep P key (.create key salt frameLimit byteLimit) (.create P key salt frameLimit) :=
  ⟨.create .., ⟨rfl, Nat.zero_le _⟩, rfl, rfl, .inl ⟨rfl, rfl⟩⟩

/-- A sealed frame opens at an opener in step, and leaves it in step. -/
lemma InStep.open_sealed {key : K} {s s' : FrameSealer K} {o : FrameOpener K} {out : Nat}
    {plaintext : Bytes} {frame : FrameView K} (h : InStep P key s o)
    (hseal : s.seal out plaintext = .ok (frame, s')) :
    ∃ o', o.open P frame = (.ok frame.body.plaintext, o') ∧ InStep P key s' o' ∧
      o'.epoch = s.epoch := by
  obtain ⟨hcount, hepoch, hbody, rfl⟩ := FrameSealer.seal_cases hseal
  obtain ⟨hkey, hlast⟩ := h.sealer
  rcases h.place with ⟨hsame, hcounter⟩ | ⟨hnext, hzero⟩
  · -- in the epoch the opener is in
    have hopen : o.open P frame = (.ok frame.body.plaintext, o.bumpCurrent) := by
      have hother : ¬frame.header.epoch = (o.epoch + 1) % 256 := by omega
      have hhere : ¬frame.header.epoch ≠ o.epoch := by omega
      have hlimit := h.limit
      simp only [FrameOpener.open, if_neg hother, if_neg hhere]
      rw [if_neg (by omega)]
      simp only [aeadOpen, hbody, hkey, h.opener.current, hsame, h.salt, hcounter, and_self, if_true]
    refine ⟨o.bumpCurrent, hopen, ⟨?_, h.sealer, h.salt, h.limit, .inl ⟨hsame, ?_⟩⟩, hsame⟩
    · have hwrap : ¬Wraps o frame := by
        rintro ⟨hfull, hfirst⟩
        omega
      exact h.opener.step hwrap (by rw [openStep, hopen])
    · simp only [FrameOpener.bumpCurrent, hcounter]
  · -- in the epoch after it, which this frame announces
    obtain ⟨hprep, hready⟩ := h.opener.prepareNext
    obtain ⟨hepoch', -, -, hsalt', hlim', -⟩ := FrameOpener.prepareNext_rest P o
    have hnextKey := (hprep.next (hready.mpr (by omega))).2
    have hlimit := h.limit
    have hwrap : ¬Wraps o frame := by
      rintro ⟨hfull, -⟩
      omega
    have hopen : o.open P frame =
        (.ok frame.body.plaintext, (o.prepareNext P).switchToNext P) := by
      have hthere : frame.header.epoch = (o.epoch + 1) % 256 := by omega
      simp only [FrameOpener.open, if_pos hthere]
      rw [if_neg (by rw [hprep.counter, hlim']; omega)]
      simp only [aeadOpen, hbody, hkey, hnextKey, hepoch', hnext, hsalt', h.salt, hprep.counter,
        hzero, and_self, if_true]
    have hmod : (o.epoch + 1) % 256 = s.epoch := by omega
    refine ⟨_, hopen, ⟨h.opener.step hwrap (by rw [openStep, hopen]), h.sealer, ?_, ?_, .inl ⟨?_, ?_⟩⟩,
      ?_⟩
    · simp only [FrameOpener.switchToNext, hsalt', h.salt]
    · simp only [FrameOpener.switchToNext, hlim', h.limit]
    · simp only [FrameOpener.switchToNext, hepoch', hmod]
    · simp only [FrameOpener.switchToNext, hprep.counter, hzero]
    · simp only [FrameOpener.switchToNext, hepoch', hmod]

omit [DecidableEq K] in
/-- A sealer that has announced its epoch may move to the next one. -/
lemma InStep.rekey {key : K} {s s' : FrameSealer K} {o : FrameOpener K} (h : InStep P key s o)
    (hann : s.Announced) (hrekey : s.rekey P = .ok s') : InStep P key s' o := by
  unfold FrameSealer.rekey at hrekey
  split at hrekey
  · cases hrekey
  next hlast =>
  cases hrekey
  obtain ⟨hkey, hle⟩ := h.sealer
  have hsame : o.epoch = s.epoch := by
    rcases h.place with ⟨hsame, -⟩ | ⟨hnext, hzero⟩
    · exact hsame
    · rcases hann with hpos | hfirst
      · omega
      · omega
  refine ⟨h.opener, ⟨?_, ?_⟩, h.salt, h.limit, .inr ⟨?_, rfl⟩⟩
  · show P.rekey s.key (s.epoch + 1) = _
    rw [ratchetKey, ← hkey]
  · show s.epoch + 1 ≤ 0xFF
    omega
  · show s.epoch + 1 = o.epoch + 1
    rw [hsame]

/-- The frames sealed so far, given to an opener: each one opens, and the epochs go up by at most one
from each to the next. -/
structure Sealing.Followed (P : KeySchedule K) (key : K) (o : FrameOpener K) (s : Sealing K) :
    Prop where
  inStep : InStep P key s.sealer (openAll P o s.sent).2
  opened : (openAll P o s.sent).1 = s.sent.map fun frame => .ok frame.body.plaintext
  chain : s.sent.IsChain fun a b =>
    a.header.epoch ≤ b.header.epoch ∧ b.header.epoch ≤ a.header.epoch + 1
  newest : ∀ frame ∈ s.sent.getLast?, frame.header.epoch = (openAll P o s.sent).2.epoch

/-- Nothing was sealed, and nothing is left to open. -/
lemma Sealing.Followed.start (P : KeySchedule K) (key : K) (salt : Bytes)
    (frameLimit byteLimit : Nat) :
    (Sealing.start key salt frameLimit byteLimit).Followed P key (.create P key salt frameLimit) :=
  ⟨.start .., rfl, .nil, by simp [Sealing.start]⟩

/-- The opener follows one more frame. -/
lemma Sealing.Followed.sealed {key : K} {o : FrameOpener K} {s : Sealing K} {sealer : FrameSealer K}
    {out : Nat} {plaintext : Bytes} {frame : FrameView K} (h : s.Followed P key o)
    (hseal : s.sealer.seal out plaintext = .ok (frame, sealer)) :
    Sealing.Followed P key o ⟨sealer, s.sent ++ [frame]⟩ := by
  obtain ⟨o', hopen, hstep, hepoch⟩ := h.inStep.open_sealed hseal
  have hheader : frame.header.epoch = s.sealer.epoch := (FrameSealer.seal_body hseal).1
  refine ⟨?_, ?_, ?_, ?_⟩
  · rw [openAll_append, hopen]
    exact hstep
  · rw [openAll_append, hopen, h.opened]
    simp
  · refine h.chain.append (.singleton _) ?_
    intro a ha b hb
    obtain rfl : frame = b := by simpa using hb
    rw [h.newest a ha, hheader]
    rcases h.inStep.place with ⟨hsame, -⟩ | ⟨hnext, -⟩
    · omega
    · omega
  · intro f hf
    obtain rfl : frame = f := by simpa using hf
    rw [openAll_append, hopen]
    exact hheader.trans hepoch.symm

/-- A rekey of a sealer whose epoch was announced is followed. -/
lemma Sealing.Followed.rekeyed {key : K} {o : FrameOpener K} {s : Sealing K}
    {sealer : FrameSealer K} (h : s.Followed P key o) (hann : s.sealer.Announced)
    (hrekey : s.sealer.rekey P = .ok sealer) : Sealing.Followed P key o { s with sealer := sealer } :=
  ⟨h.inStep.rekey hann hrekey, h.opened, h.chain, h.newest⟩

/-- One call of a sealer that announces every epoch leaves an opener able to follow. -/
lemma Sealing.Followed.step {key : K} {o : FrameOpener K} {s t : Sealing K} {call : SealCall}
    (h : s.Followed P key o) (ok : OneRekey s call) (hstep : sealStep P s call = some t) :
    t.Followed P key o := by
  cases call with
  | frame out plaintext =>
    simp only [sealStep] at hstep
    split at hstep
    · next frame sealer hseal =>
      cases hstep
      exact h.sealed hseal
    · cases hstep
      exact h
  | rekey =>
    simp only [sealStep] at hstep
    split at hstep
    · next sealer hrekey =>
      cases hstep
      exact h.rekeyed ok hrekey
    · cases hstep
      exact h

/-- Whatever an opener is given, it counts nothing in an epoch it is not in. -/
lemma nextCounter_run {key : K} {salt : Bytes} {frameLimit : Nat} {frames : List (FrameView K)}
    {o : FrameOpener K}
    (run : Run (openStep P) Anywhere (.create P key salt frameLimit) frames o) :
    o.nextCounter = 0 := by
  refine run.inv (fun o => o.nextCounter = 0) ?_ rfl
  intro o frame o' hzero _ hstep
  obtain rfl : (o.open P frame).2 = o' := Option.some.inj hstep
  rcases FrameOpener.open_cases P o frame with
    ⟨e', heq | ⟨-, heq⟩⟩ | ⟨-, -, -, -, heq⟩ | ⟨-, -, -, heq⟩
  · rw [heq]
    exact hzero
  · rw [heq]
    exact (FrameOpener.prepareNext_rest P o).2.2.2.2.2 hzero
  · rw [heq]
    exact hzero
  · rw [heq]
    rfl

/-- A frame that is refused moves nothing. -/
lemma FrameOpener.open_refused {o : FrameOpener K} {frame : FrameView K} {e : ProtoError}
    (hzero : o.nextCounter = 0) (hopen : (o.open P frame).1 = .error e) :
    (o.open P frame).2.epoch = o.epoch ∧ (o.open P frame).2.key = o.key ∧
      (o.open P frame).2.counter = o.counter ∧ (o.open P frame).2.nextCounter = o.nextCounter := by
  obtain ⟨hepoch, hkey, hcounter, -, -, hnext⟩ := FrameOpener.prepareNext_rest P o
  rcases FrameOpener.open_cases P o frame with
    ⟨e', heq | ⟨-, heq⟩⟩ | ⟨-, -, -, -, heq⟩ | ⟨-, -, -, heq⟩
  · rw [heq]
    exact ⟨rfl, rfl, rfl, rfl⟩
  · rw [heq]
    exact ⟨hepoch, hkey, hcounter, (hnext hzero).trans hzero.symm⟩
  · rw [heq] at hopen
    cases hopen
  · rw [heq] at hopen
    cases hopen

/-- A frame sealed under a key, as the first of an epoch. -/
def firstFrame (key : K) (salt : Bytes) (epoch : Nat) (plaintext : Bytes) : FrameView K :=
  ⟨⟨plaintext.length + tagSize, epoch⟩,
    ⟨key, (salt, 0), ⟨plaintext.length + tagSize, epoch⟩, plaintext⟩⟩

/-- The first frames of the epochs up to `n`, as a sealer with nothing to say announces them. -/
def announced (P : KeySchedule K) (key : K) (salt : Bytes) (n : Nat) : List (FrameView K) :=
  (List.range n).map fun e => firstFrame (ratchetKey P key (e + 1)) salt (e + 1) []

/-- An opener follows the announcements. -/
lemma announced_run (P : KeySchedule K) (key : K) (salt : Bytes) (frameLimit : Nat) {n : Nat}
    (hlimit : 0 < frameLimit) (hn : n ≤ 0xFF) :
    ∃ o : FrameOpener K, Run (openStep P) (fun o frame => ¬Wraps o frame)
        (.create P key salt frameLimit) (announced P key salt n) o ∧
      o.Ratcheted P key ∧ o.epoch = n ∧ o.salt = salt ∧ o.frameLimit = frameLimit ∧
      o.nextReady = false := by
  induction n with
  | zero => exact ⟨_, .nil _, .create .., rfl, rfl, rfl, rfl⟩
  | succ n ih =>
    obtain ⟨o, hrun, hratchet, hepoch, hsalt, hlim, -⟩ := ih (by omega)
    obtain ⟨hprep, hready⟩ := hratchet.prepareNext
    obtain ⟨hepoch', -, -, hsalt', hlim', -⟩ := FrameOpener.prepareNext_rest P o
    have hkey := (hprep.next (hready.mpr (by omega))).2
    have hopen : o.open P (firstFrame (ratchetKey P key (n + 1)) salt (n + 1) []) =
        (.ok [], (o.prepareNext P).switchToNext P) := by
      simp only [FrameOpener.open, firstFrame, hepoch, aeadOpen]
      rw [if_pos (Nat.mod_eq_of_lt (by omega)).symm, hlim', hprep.counter, if_neg (by omega),
        if_pos ⟨by rw [hkey, hepoch', hepoch], by rw [hsalt', hsalt], trivial⟩]
    have hwrap : ¬Wraps o (firstFrame (ratchetKey P key (n + 1)) salt (n + 1) []) := by
      rintro ⟨hfull, -⟩
      omega
    refine ⟨(o.prepareNext P).switchToNext P, ?_, ?_, ?_, ?_, ?_, rfl⟩
    · rw [announced, List.range_succ, List.map_append]
      exact hrun.append (.cons hwrap (by rw [openStep, hopen]) (.nil _))
    · exact hratchet.step hwrap (by rw [openStep, hopen])
    · simp only [FrameOpener.switchToNext, hepoch', hepoch]
      omega
    · simp only [FrameOpener.switchToNext, hsalt', hsalt]
    · simp only [FrameOpener.switchToNext, hlim', hlim]

/-- After the last epoch an opener takes a frame sealed under the key nothing was derived into, and
starts over at epoch zero with it. -/
theorem last_epoch_wraps : ∃ o : FrameOpener Nat,
    Run (openStep .counting) Anywhere (.create .counting 7 [0] 10) (announced .counting 7 [0] 255) o ∧
      (o.open .counting (firstFrame 0 [0] 0 [1])).1 = .ok [1] ∧
      (o.open .counting (firstFrame 0 [0] 0 [1])).2.epoch = 0 ∧
      ¬Disciplined .counting 7 o (firstFrame 0 [0] 0 [1]) := by
  obtain ⟨o, hrun, hratchet, hepoch, hsalt, hlim, hready⟩ :=
    announced_run .counting 7 [0] 10 (n := 255) (by decide) (by decide)
  have hopen : o.open .counting (firstFrame 0 [0] 0 [1]) = (.ok [1], o.switchToNext .counting) := by
    have hprep : o.prepareNext .counting = o := by
      simp [FrameOpener.prepareNext, hepoch]
    simp only [FrameOpener.open, hepoch, firstFrame, hprep, hratchet.counter, hlim, aeadOpen,
      hratchet.blank hready, hsalt]
    rw [if_pos trivial, if_neg (by decide), if_pos ⟨rfl, trivial, trivial⟩]
  refine ⟨o, hrun.mono fun _ _ _ => trivial, by rw [hopen], ?_, ?_⟩
  · rw [hopen]
    simp [FrameOpener.switchToNext, hepoch]
  · exact hratchet.not_disciplined ⟨hepoch, rfl⟩

/-- An opener over all of the epochs stays disciplined. -/
theorem opener_key_discipline_sample : ∃ o : FrameOpener Nat,
    Run (openStep .counting) (fun o frame => ¬Wraps o frame) (.create .counting 7 [0] 10)
        (announced .counting 7 [0] 255) o ∧
      Disciplined .counting 7 o (firstFrame 1 [0] 255 [1]) := by
  obtain ⟨o, hrun, -, -, -, -, -⟩ :=
    announced_run .counting 7 [0] 10 (n := 255) (by decide) (by decide)
  refine ⟨o, hrun, (opener_key_discipline .counting 7 [0] 10 hrun _).mpr ?_⟩
  rintro ⟨-, hzero⟩
  cases hzero

end

end Zet.Wire
