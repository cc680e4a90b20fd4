import Zet.Core.Bytes

/-!
# Reading and writing the same bytes

Inversion of the readers of `Zet.Core.Bytes` (what a successful read says about the bytes it took)
and `Emits`, what an encoder writes wherever there is room for it. A codec is canonical when the
bytes its reader took are the ones its writer emits; the rules here take that apart field by field.
-/

namespace Zet.Core

section Readers
variable {α β : Type} {s s' : Bytes}

/-- What a sequence of reads took, read by read. -/
lemma Reader.bind_eq_ok {p : Reader α} {f : α → Reader β} {b : β}
    (h : (p >>= f) s = .ok (b, s')) : ∃ a t, p s = .ok (a, t) ∧ f a t = .ok (b, s') := by
  change Except.bind (p s) _ = _ at h
  cases hp : p s with
  | error e =>
    rw [hp] at h
    cases h
  | ok r =>
    rw [hp] at h
    exact ⟨r.1, r.2, rfl, h⟩

/-- Where a sequence of reads failed. -/
lemma Reader.bind_eq_error {p : Reader α} {f : α → Reader β} {e : ProtoError}
    (h : (p >>= f) s = .error e) : p s = .error e ∨ ∃ a t, p s = .ok (a, t) ∧ f a t = .error e := by
  change Except.bind (p s) _ = _ at h
  cases hp : p s with
  | error e' =>
    rw [hp] at h
    cases h
    exact .inl rfl
  | ok r =>
    rw [hp] at h
    exact .inr ⟨r.1, r.2, rfl, h⟩

/-- A reader that reads nothing leaves its input. -/
lemma Reader.pure_eq_ok {a b : α} (h : (pure a : Reader α) s = .ok (b, s')) : a = b ∧ s = s' := by
  cases h
  exact ⟨rfl, rfl⟩

/-- What a read and a function of it took. -/
lemma Reader.map_eq_ok {p : Reader α} {f : α → β} {b : β} (h : (f <$> p) s = .ok (b, s')) :
    ∃ a, p s = .ok (a, s') ∧ f a = b := by
  rw [map_eq_pure_bind] at h
  obtain ⟨a, t, ha, hb⟩ := Reader.bind_eq_ok h
  obtain ⟨hfa, rfl⟩ := Reader.pure_eq_ok hb
  exact ⟨a, ha, hfa⟩

/-- A check that did not throw. -/
lemma Reader.check_eq_ok {c : Prop} [Decidable c] {e : ProtoError} {k : PUnit → Reader β} {b : β}
    (h : (if c then throw e >>= k else k ⟨⟩) s = .ok (b, s')) : ¬c ∧ k ⟨⟩ s = .ok (b, s') := by
  split at h
  · cases h
  next hc => exact ⟨hc, h⟩

/-- Bytes that were read stood in front. -/
lemma readBytes_eq_ok {count : Nat} {bytes : Bytes} (h : readBytes count s = .ok (bytes, s')) :
    s = bytes ++ s' ∧ bytes.length = count := by
  unfold readBytes at h
  split at h
  · cases h
  next hlong =>
    cases h
    exact ⟨(List.take_append_drop count s).symm, List.length_take_of_le (Nat.not_lt.mp hlong)⟩

/-- Bytes are refused only where there are too few. -/
lemma readBytes_eq_error {count : Nat} {e : ProtoError} (h : readBytes count s = .error e) :
    e = .truncated := by
  unfold readBytes at h
  split at h
  · cases h
    rfl
  · cases h

/-- So is a number. -/
lemma readBE_eq_error {width : Nat} {e : ProtoError} (h : readBE width s = .error e) :
    e = .truncated := by
  rcases Reader.bind_eq_error h with hread | ⟨bytes, t, -, hdone⟩
  · exact readBytes_eq_error hread
  · cases hdone

/-- A byte in front of a number: its value comes on top. -/
lemma decodeBE_cons (b : UInt8) (bytes : Bytes) :
    decodeBE (b :: bytes) = b.toNat * 256 ^ bytes.length + decodeBE bytes := by
  have hfold : ∀ (bytes : Bytes) (acc : Nat),
      bytes.foldl (fun value b => value * 256 + b.toNat) acc =
        acc * 256 ^ bytes.length + decodeBE bytes := by
    intro bytes
    induction bytes with
    | nil => simp [decodeBE]
    | cons c bytes ih =>
      intro acc
      have hdecode : decodeBE (c :: bytes) = c.toNat * 256 ^ bytes.length + decodeBE bytes := by
        rw [decodeBE, List.foldl_cons, ih]
        ring
      rw [List.foldl_cons, ih, hdecode, List.length_cons]
      ring
  rw [decodeBE, List.foldl_cons, hfold]
  ring

/-- What n bytes spell is below 256 to the n. -/
lemma decodeBE_lt (bytes : Bytes) : decodeBE bytes < 256 ^ bytes.length := by
  induction bytes with
  | nil => simp [decodeBE]
  | cons b bytes ih =>
    have hb : b.toNat < 256 := b.toNat_lt
    rw [decodeBE_cons, List.length_cons, pow_succ]
    calc b.toNat * 256 ^ bytes.length + decodeBE bytes
        < b.toNat * 256 ^ bytes.length + 256 ^ bytes.length := by omega
      _ = (b.toNat + 1) * 256 ^ bytes.length := by ring
      _ ≤ 256 * 256 ^ bytes.length := Nat.mul_le_mul_right _ hb
      _ = 256 ^ bytes.length * 256 := Nat.mul_comm _ _

/-- The low bytes of a number do not see what is above them. -/
lemma encodeBE_add_mul (width n k : Nat) :
    encodeBE width (k * 256 ^ width + n) = encodeBE width n := by
  induction width generalizing n k with
  | zero => rfl
  | succ width ih =>
    have hdiv : (k * 256 ^ (width + 1) + n) / 256 ^ width = k * 256 + n / 256 ^ width := by
      rw [pow_succ, show k * (256 ^ width * 256) + n = n + 256 ^ width * (k * 256) by ring,
        Nat.add_mul_div_left _ _ (Nat.pow_pos (by decide))]
      ring
    have hrest := ih n (k * 256)
    rw [show k * 256 * 256 ^ width = k * 256 ^ (width + 1) by ring] at hrest
    rw [encodeBE, encodeBE, hdiv, hrest]
    congr 1
    apply UInt8.toNat_inj.mp
    simp

/-- A field has one spelling: the bytes it was decoded from. -/
lemma encodeBE_decodeBE (bytes : Bytes) : encodeBE bytes.length (decodeBE bytes) = bytes := by
  induction bytes with
  | nil => rfl
  | cons b bytes ih =>
    have htop : decodeBE (b :: bytes) / 256 ^ bytes.length = b.toNat := by
      rw [decodeBE_cons, Nat.mul_comm, Nat.mul_add_div (Nat.pow_pos (by decide)),
        Nat.div_eq_of_lt (decodeBE_lt bytes), Nat.add_zero]
    rw [List.length_cons, encodeBE, htop, decodeBE_cons, encodeBE_add_mul, ih]
    simp

/-- A number that was read stood in front, in its width. -/
lemma readBE_eq_ok {width n : Nat} (h : readBE width s = .ok (n, s')) :
    s = encodeBE width n ++ s' ∧ n < 256 ^ width := by
  obtain ⟨bytes, t, hread, hdone⟩ := Reader.bind_eq_ok h
  obtain ⟨hs, hlength⟩ := readBytes_eq_ok hread
  obtain ⟨hn, ht⟩ := Reader.pure_eq_ok hdone
  subst hn ht hlength
  rw [encodeBE_decodeBE]
  exact ⟨hs, decodeBE_lt bytes⟩

/-- Exhaustion is accepted only of the empty input. -/
lemma requireExhausted_eq_ok {u : Unit} (h : requireExhausted s = .ok (u, s')) :
    s = [] ∧ s' = [] := by
  unfold requireExhausted at h
  split at h
  next hempty =>
    cases h
    exact ⟨List.isEmpty_iff.mp hempty, List.isEmpty_iff.mp hempty⟩
  · cases h

/-- The rest is read without being taken. -/
lemma readRest_eq_ok {bytes : Bytes} (h : readRest s = .ok (bytes, s')) : bytes = s ∧ s' = s := by
  cases h
  exact ⟨rfl, rfl⟩

/-- Skipping drops that many bytes. -/
lemma skipBytes_eq_ok {count : Nat} {u : Unit} (h : skipBytes count s = .ok (u, s')) :
    s' = s.drop count := by
  unfold skipBytes at h
  split at h
  · cases h
  · cases h
    rfl

/-! What was written is read back. -/

/-- A number that fits its field is read back. -/
lemma readBE_exact {width n : Nat} (fits : n < 256 ^ width) (tail : Bytes) :
    readBE width (encodeBE width n ++ tail) = .ok (n, tail) := by
  rw [readBE_encodeBE, Nat.mod_eq_of_lt fits]

/-- A number in range at the end of the input is read back. -/
lemma readBE_exact_last {width n : Nat} (fits : n < 256 ^ width) :
    readBE width (encodeBE width n) = .ok (n, []) := by
  simpa using readBE_exact fits []

/-- Bytes in front are read back. -/
lemma readBytes_exact (bytes tail : Bytes) :
    readBytes bytes.length (bytes ++ tail) = .ok (bytes, tail) := by
  rw [readBytes, if_neg (by simp)]
  simp

/-- A check that does not throw. -/
lemma Reader.check_ok {c : Prop} [Decidable c] {e : ProtoError} {k : PUnit → Reader β} (hc : ¬c) :
    (if c then throw e >>= k else k ⟨⟩) s = k ⟨⟩ s := by
  rw [if_neg hc]

end Readers

/-- The encoder writes exactly these bytes, and fails only for want of room. -/
def Emits (encode : Writer Unit) (bytes : Bytes) : Prop :=
  ∀ w : ByteWriter, encode w =
    if bytes.length ≤ w.room then .ok ((), ⟨w.room - bytes.length, w.written ++ bytes⟩)
    else .error .bufferTooSmall

/-- Writing bytes emits them. -/
lemma emits_writeBytes (bytes : Bytes) : Emits (writeBytes bytes) bytes := by
  intro w
  unfold writeBytes
  split
  next hlong => rw [if_neg (Nat.not_le.mpr hlong)]
  next hfits => rw [if_pos (Nat.not_lt.mp hfits)]

/-- Writing a number emits its bytes. -/
lemma emits_writeBE (width n : Nat) : Emits (writeBE width n) (encodeBE width n) :=
  emits_writeBytes _

/-- Writing nothing emits nothing. -/
lemma emits_pure : Emits (pure ()) [] := by
  intro w
  rw [List.length_nil, if_pos (Nat.zero_le _), List.append_nil]
  rfl

/-- One encoder after another. -/
lemma Emits.bind {first second : Writer Unit} {a b : Bytes} (hfirst : Emits first a)
    (hsecond : Emits second b) : Emits (first >>= fun _ => second) (a ++ b) := by
  intro w
  change Except.bind (first w) _ = _
  rw [hfirst w, List.length_append]
  by_cases ha : a.length ≤ w.room
  · rw [if_pos ha]
    change second _ = _
    rw [hsecond]
    dsimp only
    by_cases hb : b.length ≤ w.room - a.length
    · rw [if_pos hb, if_pos (by omega), Nat.sub_sub, List.append_assoc]
    · rw [if_neg hb, if_neg (by omega)]
  · rw [if_neg ha, if_neg (by omega)]
    rfl

/-- A check that does not throw. -/
lemma Emits.check {c : Prop} [Decidable c] {e : ProtoError} {k : PUnit → Writer Unit} {b : Bytes}
    (hc : ¬c) (h : Emits (k ⟨⟩) b) : Emits (if c then throw e >>= k else k ⟨⟩) b := by
  rw [if_neg hc]
  exact h

/-- An encoder for each entry of a list. -/
lemma Emits.forM {α : Type} {encode : α → Writer Unit} {spell : α → Bytes} (l : List α)
    (h : ∀ a ∈ l, Emits (encode a) (spell a)) : Emits (l.forM encode) (l.flatMap spell) := by
  induction l with
  | nil => exact emits_pure
  | cons a l ih =>
    rw [List.flatMap_cons]
    exact (h a List.mem_cons_self).bind (ih fun b hb => h b (List.mem_cons_of_mem _ hb))

/-- What is written into a fresh destination. -/
lemma Emits.writeInto {encode : Writer Unit} {bytes : Bytes} (h : Emits encode bytes)
    (room : Nat) : writeInto room encode =
      if bytes.length ≤ room then .ok bytes else .error .bufferTooSmall := by
  rw [Core.writeInto, h ⟨room, []⟩]
  split <;> rfl

/-- What was written into a destination it fits. -/
lemma Emits.written {encode : Writer Unit} {bytes bytes' : Bytes} {room : Nat} (h : Emits encode bytes)
    (written : Core.writeInto room encode = .ok bytes') : bytes' = bytes := by
  rw [h.writeInto room] at written
  split at written
  · exact (Except.ok.inj written).symm
  · cases written

/-- A check of an encoder that wrote. -/
lemma writeInto_check {c : Prop} [Decidable c] {e : ProtoError} {k : PUnit → Writer Unit} {room : Nat}
    {bytes : Bytes} (h : writeInto room (if c then throw e >>= k else k ⟨⟩) = .ok bytes) :
    ¬c ∧ writeInto room (k ⟨⟩) = .ok bytes := by
  split at h
  · cases h
  next hc => exact ⟨hc, h⟩

end Zet.Core
