import Zet.Wire.OpeningMessage

/-!
# Base64

`Base64Encode` and `Base64Decode` of `src/wire/armor.cpp`, group by group: three bytes are four
characters, and the last group may be short on both sides. `base64Quad_decode` and `decodeQuad_eq`
are the round trip of one group, each way; `base64Decode_text` and `base64Decode_canonical` are that
of a text.
-/

namespace Zet.Wire
open Zet.Core

/-- `ALPHABET`. -/
def base64Alphabet : Bytes :=
  asciiBytes "ABCDEFGHIJKLMNOPQRSTUVWXYZabcdefghijklmnopqrstuvwxyz0123456789+/"

/-- `PADDING`. -/
def base64Padding : UInt8 := 61

/-- `SextetOf`. -/
def sextetOf (c : UInt8) : Option Nat := base64Alphabet.idxOf? c

/-- One group of `Base64Encode`: a character for every six bits that carry input, padding for the
rest. -/
def base64Quad (bytes : Bytes) : Bytes :=
  let group := [0, 1, 2].foldl (fun group k => group * 256 + (bytes.getD k 0).toNat) 0
  [0, 1, 2, 3].map fun k =>
    if k ≤ bytes.length then base64Alphabet.getD (group / 64 ^ (3 - k) % 64) 0 else base64Padding

/-- What `Base64Encode` writes. -/
def base64Text : Bytes → Bytes
  | [] => []
  | [a] => base64Quad [a]
  | [a, b] => base64Quad [a, b]
  | a :: b :: c :: rest => base64Quad [a, b, c] ++ base64Text rest

/-- `Base64Encode` into `room` characters. -/
def base64Encode (bytes : Bytes) (room : Nat) : Except ProtoError Bytes :=
  if room < (bytes.length + 2) / 3 * 4 then .error .bufferTooSmall else .ok (base64Text bytes)

/-- How many `=` a text ends with, two at most. -/
def paddingOf (text : Bytes) : Nat :=
  match text.reverse with
  | last :: before :: _ => if last = base64Padding then if before = base64Padding then 2 else 1 else 0
  | [last] => if last = base64Padding then 1 else 0
  | [] => 0

/-- One group of `Base64Decode`, of which the first `carried` characters carry input. -/
def decodeQuad (carried : Nat) (quad : Bytes) : Except ProtoError Bytes :=
  let group := [0, 1, 2, 3].foldlM (fun group k =>
    if k ≥ carried then some (group * 64)
    else (sextetOf (quad.getD k 0)).map (group * 64 + ·)) 0
  match group with
  | none => .error .malformedField
  | some group =>
    let bytes := carried - 1
    -- Bits below the last whole byte must be zero.
    if bytes < 3 ∧ group % 256 ^ (3 - bytes) ≠ 0 then .error .malformedField
    else .ok ((List.range bytes).map fun k => UInt8.ofNat (group / 256 ^ (2 - k)))

/-- The groups of `Base64Decode`, the last of which is short by `padding` characters. -/
def decodeQuads (padding : Nat) : Bytes → Except ProtoError Bytes
  | a :: b :: c :: d :: rest =>
    match decodeQuad (if rest.isEmpty then 4 - padding else 4) [a, b, c, d] with
    | .error e => .error e
    | .ok head => (decodeQuads padding rest).map (head ++ ·)
  | _ => .ok []

/-- `Base64Decode` into `room` bytes. -/
def base64Decode (text : Bytes) (room : Nat) : Except ProtoError Bytes :=
  if text.length % 4 ≠ 0 then .error .malformedField
  else if room < text.length / 4 * 3 - paddingOf text then .error .bufferTooSmall
  else decodeQuads (paddingOf text) text

/-- Every character of the alphabet stands for its place. -/
lemma sextetOf_alphabet : ∀ i < 64, sextetOf (base64Alphabet.getD i 0) = some i := by decide

/-- None of them is the padding. -/
lemma alphabet_ne_padding : ∀ i < 64, base64Alphabet.getD i 0 ≠ base64Padding := by decide

/-- A character that stands for a sextet is the one at its place. -/
lemma sextetOf_eq_some {c : UInt8} {i : Nat} (h : sextetOf c = some i) :
    i < 64 ∧ base64Alphabet.getD i 0 = c := by
  obtain ⟨hi, hc, -⟩ := List.findIdx?_eq_some_iff_getElem.mp h
  refine ⟨hi, ?_⟩
  rw [List.getD_eq_getElem?_getD, List.getElem?_eq_getElem hi]
  exact beq_iff_eq.mp hc

section
variable {a b c w x y z : UInt8} {s₀ s₁ s₂ s₃ : Nat}

/-- The quad of three bytes. -/
lemma base64Quad_three (a b c : UInt8) :
    base64Quad [a, b, c] =
      let group := a.toNat * 65536 + b.toNat * 256 + c.toNat
      [base64Alphabet.getD (group / 262144 % 64) 0, base64Alphabet.getD (group / 4096 % 64) 0,
        base64Alphabet.getD (group / 64 % 64) 0, base64Alphabet.getD (group % 64) 0] := by
  have hgroup : (a.toNat * 256 + b.toNat) * 256 + c.toNat =
      a.toNat * 65536 + b.toNat * 256 + c.toNat := by omega
  simp [base64Quad, hgroup]

/-- The quad of two bytes, with one padding. -/
lemma base64Quad_two (a b : UInt8) :
    base64Quad [a, b] =
      let group := a.toNat * 65536 + b.toNat * 256
      [base64Alphabet.getD (group / 262144 % 64) 0, base64Alphabet.getD (group / 4096 % 64) 0,
        base64Alphabet.getD (group / 64 % 64) 0, base64Padding] := by
  have hgroup : (a.toNat * 256 + b.toNat) * 256 = a.toNat * 65536 + b.toNat * 256 := by omega
  simp [base64Quad, hgroup]

/-- The quad of one byte, with two. -/
lemma base64Quad_one (a : UInt8) :
    base64Quad [a] =
      let group := a.toNat * 65536
      [base64Alphabet.getD (group / 262144 % 64) 0, base64Alphabet.getD (group / 4096 % 64) 0,
        base64Padding, base64Padding] := by
  have hgroup : a.toNat * 256 * 256 = a.toNat * 65536 := by omega
  simp [base64Quad, hgroup]

/-- A group of four characters that all carry input. -/
lemma decodeQuad_four (hw : sextetOf w = some s₀) (hx : sextetOf x = some s₁)
    (hy : sextetOf y = some s₂) (hz : sextetOf z = some s₃) :
    decodeQuad 4 [w, x, y, z] =
      let group := ((s₀ * 64 + s₁) * 64 + s₂) * 64 + s₃
      .ok [UInt8.ofNat (group / 65536), UInt8.ofNat (group / 256), UInt8.ofNat group] := by
  simp [decodeQuad, hw, hx, hy, hz, List.range_succ]

/-- A full quad is read as its four sextets. -/
lemma decodeQuad_three (hw : sextetOf w = some s₀) (hx : sextetOf x = some s₁)
    (hy : sextetOf y = some s₂) :
    decodeQuad 3 [w, x, y, z] =
      let group := ((s₀ * 64 + s₁) * 64 + s₂) * 64
      if group % 256 ≠ 0 then .error .malformedField
      else .ok [UInt8.ofNat (group / 65536), UInt8.ofNat (group / 256)] := by
  simp [decodeQuad, hw, hx, hy, List.range_succ]

/-- A quad of two characters is read as two. -/
lemma decodeQuad_two (hw : sextetOf w = some s₀) (hx : sextetOf x = some s₁) :
    decodeQuad 2 [w, x, y, z] =
      let group := (s₀ * 64 + s₁) * 64 * 64
      if group % 65536 ≠ 0 then .error .malformedField
      else .ok [UInt8.ofNat (group / 65536)] := by
  simp [decodeQuad, hw, hx, List.range_succ]

/-- A group that decodes is made of characters, as far as it carries input. -/
lemma decodeQuad_ok {carried : Nat} {bytes : Bytes}
    (h : decodeQuad carried [w, x, y, z] = .ok bytes) :
    (0 < carried → ∃ s, sextetOf w = some s) ∧ (1 < carried → ∃ s, sextetOf x = some s) ∧
      (2 < carried → ∃ s, sextetOf y = some s) ∧ (3 < carried → ∃ s, sextetOf z = some s) := by
  unfold decodeQuad at h
  cases hfold : [0, 1, 2, 3].foldlM (fun group k =>
      if k ≥ carried then some (group * 64)
      else (sextetOf ([w, x, y, z].getD k 0)).map (group * 64 + ·)) 0 with
  | none =>
    rw [hfold] at h
    cases h
  | some group =>
    simp only [List.foldlM_cons, Option.bind_eq_bind, Option.bind_eq_some_iff] at hfold
    obtain ⟨g₀, h₀, g₁, h₁, g₂, h₂, g₃, h₃, -⟩ := hfold
    refine ⟨fun hlt => ?_, fun hlt => ?_, fun hlt => ?_, fun hlt => ?_⟩
    · rw [if_neg (by omega)] at h₀
      obtain ⟨s, hs, -⟩ := Option.map_eq_some_iff.mp h₀
      exact ⟨s, hs⟩
    · rw [if_neg (by omega)] at h₁
      obtain ⟨s, hs, -⟩ := Option.map_eq_some_iff.mp h₁
      exact ⟨s, hs⟩
    · rw [if_neg (by omega)] at h₂
      obtain ⟨s, hs, -⟩ := Option.map_eq_some_iff.mp h₂
      exact ⟨s, hs⟩
    · rw [if_neg (by omega)] at h₃
      obtain ⟨s, hs, -⟩ := Option.map_eq_some_iff.mp h₃
      exact ⟨s, hs⟩

/-- The byte a group's number holds, from the number. -/
lemma ofNat_eq {n m : Nat} {a : UInt8} (h : n = m * 256 + a.toNat) : UInt8.ofNat n = a := by
  have := a.toNat_lt
  apply UInt8.toNat_inj.mp
  rw [UInt8.toNat_ofNat', h]
  omega

/-- What a group of bytes is written as is read back. -/
lemma base64Quad_decode (a b c : UInt8) :
    decodeQuad 4 (base64Quad [a, b, c]) = .ok [a, b, c] ∧
      decodeQuad 3 (base64Quad [a, b]) = .ok [a, b] ∧ decodeQuad 2 (base64Quad [a]) = .ok [a] := by
  have ha := a.toNat_lt
  have hb := b.toNat_lt
  have hc := c.toNat_lt
  have hsextet : ∀ n, sextetOf (base64Alphabet.getD (n % 64) 0) = some (n % 64) :=
    fun n => sextetOf_alphabet _ (Nat.mod_lt _ (by decide))
  refine ⟨?_, ?_, ?_⟩
  · rw [base64Quad_three]
    dsimp only
    rw [decodeQuad_four (hsextet _) (hsextet _) (hsextet _) (hsextet _)]
    dsimp only
    rw [ofNat_eq (m := 0) (a := a) (by omega), ofNat_eq (m := a.toNat) (a := b) (by omega),
      ofNat_eq (m := a.toNat * 256 + b.toNat) (a := c) (by omega)]
  · rw [base64Quad_two]
    dsimp only
    rw [decodeQuad_three (hsextet _) (hsextet _) (hsextet _)]
    dsimp only
    rw [if_neg (by omega), ofNat_eq (m := 0) (a := a) (by omega),
      ofNat_eq (m := a.toNat) (a := b) (by omega)]
  · rw [base64Quad_one]
    dsimp only
    rw [decodeQuad_two (hsextet _) (hsextet _)]
    dsimp only
    rw [if_neg (by omega), ofNat_eq (m := 0) (a := a) (by omega)]

/-- A group that decodes is what its bytes are written as. -/
lemma decodeQuad_eq_four {bytes : Bytes} (h : decodeQuad 4 [w, x, y, z] = .ok bytes) :
    ∃ a b c, bytes = [a, b, c] ∧ base64Quad [a, b, c] = [w, x, y, z] := by
  obtain ⟨hw, hx, hy, hz⟩ := decodeQuad_ok h
  obtain ⟨s₀, hw⟩ := hw (by decide)
  obtain ⟨s₁, hx⟩ := hx (by decide)
  obtain ⟨s₂, hy⟩ := hy (by decide)
  obtain ⟨s₃, hz⟩ := hz (by decide)
  rw [decodeQuad_four hw hx hy hz] at h
  cases h
  obtain ⟨h₀, rfl⟩ := sextetOf_eq_some hw
  obtain ⟨h₁, rfl⟩ := sextetOf_eq_some hx
  obtain ⟨h₂, rfl⟩ := sextetOf_eq_some hy
  obtain ⟨h₃, rfl⟩ := sextetOf_eq_some hz
  refine ⟨_, _, _, rfl, ?_⟩
  set group := ((s₀ * 64 + s₁) * 64 + s₂) * 64 + s₃ with hgroup
  have hsum : group / 65536 % 2 ^ 8 * 65536 + group / 256 % 2 ^ 8 * 256 + group % 2 ^ 8 = group := by
    omega
  rw [base64Quad_three]
  simp only [UInt8.toNat_ofNat', hsum]
  rw [show group / 262144 % 64 = s₀ by omega, show group / 4096 % 64 = s₁ by omega,
    show group / 64 % 64 = s₂ by omega, show group % 64 = s₃ by omega]

/-- A quad of three characters that is read spells two bytes, with no bits over. -/
lemma decodeQuad_eq_three {bytes : Bytes} (h : decodeQuad 3 [w, x, y, z] = .ok bytes) :
    ∃ a b, bytes = [a, b] ∧ base64Quad [a, b] = [w, x, y, base64Padding] := by
  obtain ⟨hw, hx, hy, -⟩ := decodeQuad_ok h
  obtain ⟨s₀, hw⟩ := hw (by decide)
  obtain ⟨s₁, hx⟩ := hx (by decide)
  obtain ⟨s₂, hy⟩ := hy (by decide)
  rw [decodeQuad_three hw hx hy] at h
  obtain ⟨h₀, rfl⟩ := sextetOf_eq_some hw
  obtain ⟨h₁, rfl⟩ := sextetOf_eq_some hx
  obtain ⟨h₂, rfl⟩ := sextetOf_eq_some hy
  set group := ((s₀ * 64 + s₁) * 64 + s₂) * 64 with hgroup
  dsimp only at h
  split at h
  · cases h
  · next hunused =>
    cases h
    refine ⟨_, _, rfl, ?_⟩
    have hsum : group / 65536 % 2 ^ 8 * 65536 + group / 256 % 2 ^ 8 * 256 = group := by omega
    rw [base64Quad_two]
    simp only [UInt8.toNat_ofNat', hsum]
    rw [show group / 262144 % 64 = s₀ by omega, show group / 4096 % 64 = s₁ by omega,
      show group / 64 % 64 = s₂ by omega]

/-- A quad of two characters that is read spells one byte, with no bits over. -/
lemma decodeQuad_eq_two {bytes : Bytes} (h : decodeQuad 2 [w, x, y, z] = .ok bytes) :
    ∃ a, bytes = [a] ∧ base64Quad [a] = [w, x, base64Padding, base64Padding] := by
  obtain ⟨hw, hx, -, -⟩ := decodeQuad_ok h
  obtain ⟨s₀, hw⟩ := hw (by decide)
  obtain ⟨s₁, hx⟩ := hx (by decide)
  rw [decodeQuad_two hw hx] at h
  obtain ⟨h₀, rfl⟩ := sextetOf_eq_some hw
  obtain ⟨h₁, rfl⟩ := sextetOf_eq_some hx
  set group := (s₀ * 64 + s₁) * 64 * 64 with hgroup
  dsimp only at h
  split at h
  · cases h
  · next hunused =>
    cases h
    refine ⟨_, rfl, ?_⟩
    have hsum : group / 65536 % 2 ^ 8 * 65536 = group := by omega
    rw [base64Quad_one]
    simp only [UInt8.toNat_ofNat', hsum]
    rw [show group / 262144 % 64 = s₀ by omega, show group / 4096 % 64 = s₁ by omega]

end

/-- A quad has four characters. -/
lemma length_base64Quad (bytes : Bytes) : (base64Quad bytes).length = 4 := rfl

/-- Four characters for every three bytes begun. -/
lemma length_base64Text (bytes : Bytes) : (base64Text bytes).length = (bytes.length + 2) / 3 * 4 := by
  induction bytes using base64Text.induct with
  | case1 => rfl
  | case2 a => simp [base64Text, length_base64Quad]
  | case3 a b => simp [base64Text, length_base64Quad]
  | case4 a b c rest ih =>
    simp only [base64Text, List.length_append, length_base64Quad, ih, List.length_cons]
    omega

/-- The padding is that of the last group. -/
lemma paddingOf_append (front : Bytes) {text : Bytes} (h : 2 ≤ text.length) :
    paddingOf (front ++ text) = paddingOf text := by
  unfold paddingOf
  rw [List.reverse_append]
  have hlen : 2 ≤ text.reverse.length := by rwa [List.length_reverse]
  match text.reverse, hlen with
  | last :: before :: more, _ => rfl

/-- The padding fills the last quad. -/
lemma paddingOf_base64Text (bytes : Bytes) :
    paddingOf (base64Text bytes) = (3 - bytes.length % 3) % 3 := by
  have hne : ∀ n, base64Alphabet.getD (n % 64) 0 ≠ base64Padding :=
    fun n => alphabet_ne_padding _ (Nat.mod_lt _ (by decide))
  induction bytes using base64Text.induct with
  | case1 => rfl
  | case2 a =>
    rw [base64Text, base64Quad_one]
    rfl
  | case3 a b =>
    rw [base64Text, base64Quad_two]
    simp only [paddingOf, List.reverse_cons, List.reverse_nil, List.nil_append, List.cons_append]
    rw [if_pos trivial, if_neg (hne _)]
    rfl
  | case4 a b c rest ih =>
    rw [base64Text]
    cases rest with
    | nil =>
      rw [base64Text, List.append_nil, base64Quad_three]
      simp only [paddingOf, List.reverse_cons, List.reverse_nil, List.nil_append, List.cons_append]
      rw [if_neg (hne _)]
      simp
    | cons d rest =>
      have hlong : 2 ≤ (base64Text (d :: rest)).length := by
        rw [length_base64Text, List.length_cons]
        omega
      rw [paddingOf_append _ hlong, ih]
      simp only [List.length_cons]
      omega

/-- A text decodes group by group. -/
lemma decodeQuads_append {quad rest bytes : Bytes} {padding : Nat} (hquad : quad.length = 4)
    (h : decodeQuad (if rest.isEmpty then 4 - padding else 4) quad = .ok bytes) :
    decodeQuads padding (quad ++ rest) = (decodeQuads padding rest).map (bytes ++ ·) := by
  match quad, hquad with
  | [a, b, c, d], _ =>
    rw [List.cons_append, List.cons_append, List.cons_append, List.cons_append, List.nil_append,
      decodeQuads, h]

/-- The quads of a text are read back. -/
lemma decodeQuads_text (bytes : Bytes) :
    decodeQuads ((3 - bytes.length % 3) % 3) (base64Text bytes) = .ok bytes := by
  induction bytes using base64Text.induct with
  | case1 => rfl
  | case2 a =>
    have h : decodeQuads 2 (base64Quad [a] ++ []) = _ :=
      decodeQuads_append (length_base64Quad [a]) (base64Quad_decode a 0 0).2.2
    rw [List.append_nil] at h
    rw [base64Text]
    exact h
  | case3 a b =>
    have h : decodeQuads 1 (base64Quad [a, b] ++ []) = _ :=
      decodeQuads_append (length_base64Quad [a, b]) (base64Quad_decode a b 0).2.1
    rw [List.append_nil] at h
    rw [base64Text]
    exact h
  | case4 a b c rest ih =>
    rw [base64Text]
    have hpadding : (3 - (a :: b :: c :: rest).length % 3) % 3 = (3 - rest.length % 3) % 3 := by
      simp only [List.length_cons]
      omega
    rw [hpadding]
    have hcarried : (if (base64Text rest).isEmpty then 4 - (3 - rest.length % 3) % 3 else 4) = 4 := by
      split
      · next hempty =>
        have hlen := length_base64Text rest
        rw [List.isEmpty_iff.mp hempty, List.length_nil] at hlen
        have hrest : rest.length = 0 := by omega
        rw [hrest]
      · rfl
    rw [decodeQuads_append (length_base64Quad _) (by rw [hcarried]; exact (base64Quad_decode a b c).1),
      ih]
    rfl

/-- What was encoded decodes, into any room that takes it. -/
theorem base64Decode_text {bytes : Bytes} {room : Nat} (h : bytes.length ≤ room) :
    base64Decode (base64Text bytes) room = .ok bytes := by
  have hlen := length_base64Text bytes
  unfold base64Decode
  rw [paddingOf_base64Text, hlen, if_neg (by omega), if_neg (by omega)]
  exact decodeQuads_text bytes

/-- The padding a text ends with is there. -/
lemma paddingOf_cases (a b c d : UInt8) :
    paddingOf [a, b, c, d] = 0 ∨ (paddingOf [a, b, c, d] = 1 ∧ d = base64Padding) ∨
      (paddingOf [a, b, c, d] = 2 ∧ c = base64Padding ∧ d = base64Padding) := by
  simp only [paddingOf, List.reverse_cons, List.reverse_nil, List.nil_append, List.cons_append]
  split
  · next hd =>
    split
    · next hc => exact .inr (.inr ⟨rfl, hc, hd⟩)
    · exact .inr (.inl ⟨rfl, hd⟩)
  · exact .inl rfl

/-- Groups that decode are what their bytes are written as, the last of them with the padding it ends
with. -/
lemma decodeQuads_canonical : ∀ (text : Bytes) {bytes : Bytes}, text.length % 4 = 0 →
    decodeQuads (paddingOf text) text = .ok bytes → base64Text bytes = text
  | [], _, _, h => by
    cases h
    rfl
  | [_], _, whole, _ => by simp at whole
  | [_, _], _, whole, _ => by simp at whole
  | [_, _, _], _, whole, _ => by simp at whole
  | a :: b :: c :: d :: rest, bytes, whole, h => by
    rw [decodeQuads] at h
    cases hhead : decodeQuad (if rest.isEmpty then 4 - paddingOf (a :: b :: c :: d :: rest) else 4)
        [a, b, c, d] with
    | error e =>
      rw [hhead] at h
      cases h
    | ok head =>
      rw [hhead] at h
      cases htail : decodeQuads (paddingOf (a :: b :: c :: d :: rest)) rest with
      | error e =>
        rw [htail] at h
        cases h
      | ok tail =>
        rw [htail] at h
        cases h
        cases rest with
        | nil =>
          cases htail
          dsimp only
          rw [List.append_nil]
          rcases paddingOf_cases a b c d with hzero | ⟨hone, rfl⟩ | ⟨htwo, rfl, rfl⟩
          · rw [hzero] at hhead
            obtain ⟨x, y, z, rfl, hquad⟩ := decodeQuad_eq_four hhead
            simpa [base64Text] using hquad
          · rw [hone] at hhead
            obtain ⟨x, y, rfl, hquad⟩ := decodeQuad_eq_three hhead
            rw [base64Text, hquad]
          · rw [htwo] at hhead
            obtain ⟨x, rfl, hquad⟩ := decodeQuad_eq_two hhead
            rw [base64Text, hquad]
        | cons e rest =>
          have hlong : 2 ≤ (e :: rest).length := by
            simp only [List.length_cons] at whole ⊢
            omega
          have hpadding : paddingOf (a :: b :: c :: d :: e :: rest) = paddingOf (e :: rest) :=
            paddingOf_append [a, b, c, d] hlong
          obtain ⟨x, y, z, rfl, hquad⟩ := decodeQuad_eq_four hhead
          dsimp only
          rw [hpadding] at htail
          have hrest := decodeQuads_canonical (e :: rest)
            (by simp only [List.length_cons] at whole ⊢; omega) htail
          simp only [List.cons_append, List.nil_append, base64Text, hquad, hrest]

/-- A text that decodes is the one its bytes are encoded as. -/
theorem base64Decode_canonical {text bytes : Bytes} {room : Nat}
    (h : base64Decode text room = .ok bytes) : base64Text bytes = text := by
  unfold base64Decode at h
  split at h
  · cases h
  · next whole =>
    split at h
    · cases h
    · exact decodeQuads_canonical text (by omega) h

end Zet.Wire
