import Mathlib.Algebra.Group.Nat.Defs
import Mathlib.Tactic.Common
import Mathlib.Data.List.Basic

/-!
# UTF-8, from the bytes

A character beyond ASCII is a lead byte, which announces how many tail bytes follow, and these tail
bytes. `value` reads them as a number; `exists_encode` takes a character apart this way, and
`encode_value` says that nothing else reads as it does, once the overlong forms are excluded. The
encoder is the standard library's.
-/

namespace Zet.Lib.Utf8

/-- A byte that continues a character. -/
def IsTail (b : UInt8) : Prop := 0x80 ≤ b.toNat ∧ b.toNat < 0xC0

/-- How many tail bytes a lead byte announces, 0 for a byte that is none. -/
def tails (b : UInt8) : Nat :=
  if 0xC0 ≤ b.toNat ∧ b.toNat < 0xE0 then 1
  else if 0xE0 ≤ b.toNat ∧ b.toNat < 0xF0 then 2
  else if 0xF0 ≤ b.toNat ∧ b.toNat < 0xF8 then 3
  else 0

/-- The bits of the tail bytes behind those read before. -/
def extend (v : Nat) (tail : List UInt8) : Nat := tail.foldl (fun v b => v * 64 + b.toNat % 64) v

/-- The bits of a lead byte that belong to the character. -/
def leadBits (lead : UInt8) : Nat := lead.toNat % 2 ^ (6 - tails lead)

/-- What the bytes stand for. -/
def value (lead : UInt8) (tail : List UInt8) : Nat := extend (leadBits lead) tail

/-- The smallest number that needs so many tail bytes. -/
def least : Nat → Nat
  | 0 => 0
  | 1 => 0x80
  | 2 => 0x800
  | _ => 0x10000

/-- A number that is a character: no surrogate, and not beyond Unicode. -/
def IsScalar (v : Nat) : Prop := v < 0xD800 ∨ (0xDFFF < v ∧ v ≤ 0x10FFFF)

/-- A scalar value is the number of its character. -/
lemma toNat_ofNat {v : Nat} (h : IsScalar v) : (Char.ofNat v).toNat = v := by
  have hvalid : v.isValidChar := h.imp id fun h => ⟨h.1, Nat.lt_succ_of_le h.2⟩
  rw [Char.ofNat, dif_pos hvalid]
  rfl

/-- Every character is a scalar value. -/
lemma isScalar (c : Char) : IsScalar c.toNat :=
  c.valid.imp id fun h => ⟨h.1, Nat.le_of_lt_succ h.2⟩

/-- How a lead byte tells the number of its tails. -/
lemma tails_cases {lead : UInt8} {n : Nat} (h : tails lead = n) (hn : 0 < n) :
    (n = 1 ∧ 0xC0 ≤ lead.toNat ∧ lead.toNat < 0xE0) ∨ (n = 2 ∧ 0xE0 ≤ lead.toNat ∧ lead.toNat < 0xF0) ∨
      (n = 3 ∧ 0xF0 ≤ lead.toNat ∧ lead.toNat < 0xF8) := by
  unfold tails at h
  split at h
  · next hone => exact .inl ⟨h.symm, hone⟩
  split at h
  · next htwo => exact .inr (.inl ⟨h.symm, htwo⟩)
  split at h
  · next hthree => exact .inr (.inr ⟨h.symm, hthree⟩)
  · omega

/-- A small number survives as a byte. -/
lemma toNat_byte {n : Nat} (h : n < 256) : (UInt8.ofNat n).toNat = n := UInt8.toNat_ofNat_of_lt' h

/-- Six bits under the mark of a tail are a tail. -/
lemma isTail_ofNat (x : Nat) : IsTail (UInt8.ofNat (x % 0x40 + 0x80)) := by
  have hbyte := toNat_byte (n := x % 0x40 + 0x80) (by omega)
  unfold IsTail
  omega

/-- And the tail has those six bits. -/
lemma tailBits_ofNat (x : Nat) : (UInt8.ofNat (x % 0x40 + 0x80)).toNat % 64 = x % 64 := by
  rw [toNat_byte (by omega)]
  omega

/-- Lead bytes with one tail. -/
lemma tails_of_one {b : UInt8} (low : 0xC0 ≤ b.toNat) (high : b.toNat < 0xE0) : tails b = 1 :=
  if_pos ⟨low, high⟩

/-- Lead bytes with two tails. -/
lemma tails_of_two {b : UInt8} (low : 0xE0 ≤ b.toNat) (high : b.toNat < 0xF0) : tails b = 2 := by
  rw [tails, if_neg (by omega), if_pos ⟨low, high⟩]

/-- Lead bytes with three tails. -/
lemma tails_of_three {b : UInt8} (low : 0xF0 ≤ b.toNat) (high : b.toNat < 0xF8) : tails b = 3 := by
  rw [tails, if_neg (by omega), if_neg (by omega), if_pos ⟨low, high⟩]

/-- A character beyond ASCII, as lead and tail. -/
theorem exists_encode (c : Char) (hc : 0x80 ≤ c.toNat) :
    ∃ lead tail, String.utf8EncodeChar c = lead :: tail ∧ tails lead = tail.length ∧
      0 < tail.length ∧ (∀ b ∈ tail, IsTail b) ∧ value lead tail = c.toNat ∧
      least tail.length ≤ c.toNat := by
  have hmax := isScalar c
  change 0x80 ≤ c.val.toNat at hc
  change ∃ lead tail, _ ∧ _ ∧ _ ∧ _ ∧ _ = c.val.toNat ∧ _ ≤ c.val.toNat
  change IsScalar c.val.toNat at hmax
  unfold String.utf8EncodeChar
  dsimp only
  generalize c.val.toNat = v at *
  rw [if_neg (by omega)]
  split
  · have hbyte := toNat_byte (n := v / 64 % 0x20 + 0xC0) (by omega)
    have hlead := tails_of_one (b := UInt8.ofNat (v / 64 % 0x20 + 0xC0)) (by omega) (by omega)
    refine ⟨_, _, rfl, hlead, Nat.one_pos, ?_, ?_, hc⟩
    · simp only [List.forall_mem_cons, isTail_ofNat, List.not_mem_nil, false_implies, true_and,
        implies_true]
    · simp only [value, leadBits, hlead, hbyte, extend, List.foldl_cons, List.foldl_nil,
        tailBits_ofNat]
      omega
  split
  · have hbyte := toNat_byte (n := v / 4096 % 0x10 + 0xE0) (by omega)
    have hlead := tails_of_two (b := UInt8.ofNat (v / 4096 % 0x10 + 0xE0)) (by omega) (by omega)
    refine ⟨_, _, rfl, hlead, Nat.two_pos, ?_, ?_, ?_⟩
    · simp only [List.forall_mem_cons, isTail_ofNat, List.not_mem_nil, false_implies, true_and,
        implies_true]
    · simp only [value, leadBits, hlead, hbyte, extend, List.foldl_cons, List.foldl_nil,
        tailBits_ofNat]
      omega
    · change 0x800 ≤ v
      omega
  · have hbyte := toNat_byte (n := v / 262144 % 0x08 + 0xF0) (by omega)
    have hlead := tails_of_three (b := UInt8.ofNat (v / 262144 % 0x08 + 0xF0)) (by omega) (by omega)
    unfold IsScalar at hmax
    refine ⟨_, _, rfl, hlead, Nat.succ_pos _, ?_, ?_, ?_⟩
    · simp only [List.forall_mem_cons, isTail_ofNat, List.not_mem_nil, false_implies, true_and,
        implies_true]
    · simp only [value, leadBits, hlead, hbyte, extend, List.foldl_cons, List.foldl_nil,
        tailBits_ofNat]
      omega
    · change 0x10000 ≤ v
      omega

/-- A byte is what its number is. -/
lemma ofNat_eq {b : UInt8} {n : Nat} (h : n = b.toNat) : UInt8.ofNat n = b := by
  rw [h, UInt8.ofNat_toNat]

/-- Bytes that stand for a character in the shortest way are its encoding. -/
theorem encode_value {lead : UInt8} {tail : List UInt8} (hlead : tails lead = tail.length)
    (hpos : 0 < tail.length) (htail : ∀ b ∈ tail, IsTail b)
    (hleast : least tail.length ≤ value lead tail) (hscalar : IsScalar (value lead tail)) :
    String.utf8EncodeChar (Char.ofNat (value lead tail)) = lead :: tail := by
  have hnat : (Char.ofNat (value lead tail)).val.toNat = value lead tail := toNat_ofNat hscalar
  unfold String.utf8EncodeChar
  dsimp only
  rw [hnat]
  clear hnat hscalar
  have hbits : value lead tail = extend (lead.toNat % 2 ^ (6 - tails lead)) tail := rfl
  generalize value lead tail = v at *
  rcases tails_cases hlead hpos with ⟨hlen, low, high⟩ | ⟨hlen, low, high⟩ | ⟨hlen, low, high⟩
  · obtain ⟨a, rfl⟩ := List.length_eq_one_iff.mp hlen
    have ha := htail a (List.mem_singleton_self a)
    rw [hlead, hlen] at hbits
    rw [hlen] at hleast
    change 0x80 ≤ v at hleast
    simp only [extend, List.foldl_cons, List.foldl_nil, IsTail] at hbits ha
    rw [if_neg (by omega), if_pos (by omega), ofNat_eq (b := lead) (by omega),
      ofNat_eq (b := a) (by omega)]
  · obtain ⟨a, b, rfl⟩ := List.length_eq_two.mp hlen
    have ha := htail a (by simp)
    have hb := htail b (by simp)
    rw [hlead, hlen] at hbits
    rw [hlen] at hleast
    change 0x800 ≤ v at hleast
    simp only [extend, List.foldl_cons, List.foldl_nil, IsTail] at hbits ha hb
    rw [if_neg (by omega), if_neg (by omega), if_pos (by omega), ofNat_eq (b := lead) (by omega),
      ofNat_eq (b := a) (by omega), ofNat_eq (b := b) (by omega)]
  · obtain ⟨a, b, d, rfl⟩ := List.length_eq_three.mp hlen
    have ha := htail a (by simp)
    have hb := htail b (by simp)
    have hd := htail d (by simp)
    rw [hlead, hlen] at hbits
    rw [hlen] at hleast
    change 0x10000 ≤ v at hleast
    simp only [extend, List.foldl_cons, List.foldl_nil, IsTail] at hbits ha hb hd
    rw [if_neg (by omega), if_neg (by omega), if_neg (by omega), ofNat_eq (b := lead) (by omega),
      ofNat_eq (b := a) (by omega), ofNat_eq (b := b) (by omega), ofNat_eq (b := d) (by omega)]

end Zet.Lib.Utf8
