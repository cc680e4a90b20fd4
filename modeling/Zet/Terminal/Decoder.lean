import Zet.Terminal.CleanCells
import Zet.Terminal.VtParser

/-!
# What a byte prints

A byte prints in one of three ways: as itself, as the last one of a UTF-8 sequence, or as U+FFFD for
one that was malformed or cut short (`VtParser.prints`). Nothing else that the parser does prints, and
nothing but bytes of the sequence itself touches the sequence that is being read
(`VtParser.Sound`). What a sequence reads as is `Utf8.value`.
-/

namespace Zet.Terminal
open Zet.Core Zet.Lib

instance (b : UInt8) : Decidable (Utf8.IsTail b) := inferInstanceAs (Decidable (_ ∧ _))

/-- What holds of the 256 numbers holds of every byte. -/
lemma forall_byte {P : UInt8 → Prop} (h : ∀ n : Fin 256, P (UInt8.ofNat n)) (b : UInt8) : P b := by
  have hbyte := h ⟨b.toNat, b.toNat_lt⟩
  rwa [UInt8.ofNat_toNat] at hbyte

namespace VtParser

variable {p : VtParser} {rows cp width : Nat} {raw : UInt8}

/-- The continuation bytes are the tails of an encoding. -/
lemma isUtf8Continuation_iff : ∀ b, isUtf8Continuation b = true ↔ Utf8.IsTail b :=
  forall_byte (by decide +kernel)

/-- A lead byte announces as many tails as its encoding has. -/
lemma utf8LeadLength_eq : ∀ b, utf8LeadLength b = Utf8.tails b :=
  forall_byte (by decide +kernel)

/-- The mask of a lead byte leaves its bits. -/
lemma leadBits_eq : ∀ b, 0 < Utf8.tails b → (b &&& leadMask (Utf8.tails b)).toNat = Utf8.leadBits b :=
  forall_byte (by decide +kernel)

/-- The mask of a tail leaves its six bits. -/
lemma tailBits_eq : ∀ b : UInt8, (b &&& 0x3F).toNat = b.toNat % 64 :=
  forall_byte (by decide +kernel)

/-- No lead byte announces more than three tails. -/
lemma tails_le : ∀ b, Utf8.tails b ≤ 3 :=
  forall_byte (by decide +kernel)

/-- Shifting in a tail multiplies by 64 and adds its bits. -/
lemma accumulate (acc : Nat) (b : UInt8) :
    (acc <<< 6) ||| (b &&& 0x3F).toNat = acc * 64 + b.toNat % 64 := by
  have hbits : b.toNat % 64 < 2 ^ 6 := Nat.mod_lt _ (by decide)
  rw [tailBits_eq, ← Nat.shiftLeft_add_eq_or_of_lt hbits, Nat.shiftLeft_eq]

/-- What is overlong is below the least code point of so many tails. -/
lemma minCodepoint_eq : ∀ n, n ≤ 3 → minCodepoint n = Utf8.least n := by
  decide

/-- The sequence that is being read. -/
def text (p : VtParser) : Nat × Nat × Nat := (p.utf8Accumulator, p.utf8Remaining, p.utf8SeqLen)

/-- Parameters are no text. -/
@[simp] lemma text_addParam (ch : UInt8) : (p.addParam ch).text = p.text := by
  unfold addParam
  split <;> rfl

/-- Intermediates are no text. -/
@[simp] lemma text_collectIntermediate (ch : UInt8) : (p.collectIntermediate ch).text = p.text := by
  unfold collectIntermediate
  split <;> rfl

/-- Counting an unknown sequence leaves the text state alone. -/
@[simp] lemma text_countUnknown : p.countUnknown.text = p.text := rfl

/-- A transition leaves the text state alone. -/
@[simp] lemma text_transitionTo (next : ParserState) : (p.transitionTo next).text = p.text := by
  cases next <;> rfl

/-- Entering a bypass leaves the text state alone. -/
@[simp] lemma text_enterBypass (osc : Bool) : (p.enterBypass osc).text = p.text := rfl

/-- A bypassed byte does. -/
lemma text_bypassByte : (p.bypassByte raw).1.text = p.text := by
  unfold bypassByte
  repeat' split
  all_goals rfl

/-- Dispatching an escape does. -/
lemma text_dispatchEsc : (p.dispatchEsc raw).1.text = p.text := by
  unfold dispatchEsc
  repeat' split
  all_goals rfl

/-- Dispatching a control sequence does. -/
lemma text_dispatchCsi : (p.dispatchCsi rows raw).1.text = p.text := by
  unfold dispatchCsi
  dsimp only
  repeat' split
  all_goals rfl

/-- Going back to Ground does. -/
lemma text_dispatched (r : VtParser × List Call) : (dispatched r).1.text = r.1.text :=
  text_transitionTo _

/-- A byte of the state machine does. -/
lemma text_machineByte : (p.machineByte rows raw).1.text = p.text := by
  unfold machineByte
  repeat' split
  all_goals first
    | rfl
    | exact text_addParam _
    | exact text_collectIntermediate _
    | exact (text_dispatched _).trans text_dispatchEsc
    | exact (text_dispatched _).trans text_dispatchCsi

/-- Calls none of which prints a character of its own. -/
def Silent (calls : List Call) : Prop := ∀ cp width, Call.putChar cp width ∉ calls

/-- A control prints nothing. -/
lemma silent_handleControl : Silent (handleControl raw) := by
  unfold handleControl
  intro cp width
  split <;> simp

/-- Private modes print nothing. -/
lemma silent_privateModes (params : List Param) (value : Bool) : Silent (privateModes params value) := by
  intro cp width hmem
  obtain ⟨param, -, hparam⟩ := List.mem_flatMap.mp hmem
  split at hparam
  · cases hparam
  · cases List.mem_singleton.mp hparam

/-- Modes print nothing. -/
lemma silent_ansiModes (params : List Param) (value : Bool) : Silent (ansiModes params value) := by
  intro cp width hmem
  obtain ⟨param, -, hparam⟩ := List.mem_flatMap.mp hmem
  split at hparam
  · cases List.mem_singleton.mp hparam
  · cases hparam

/-- A bypassed byte prints nothing. -/
lemma silent_bypassByte : Silent (p.bypassByte raw).2 := by
  unfold bypassByte
  intro cp width
  repeat' split
  all_goals simp

/-- An escape prints nothing. -/
lemma silent_dispatchEsc : Silent (p.dispatchEsc raw).2 := by
  unfold dispatchEsc
  intro cp width
  repeat' split
  all_goals simp

/-- A control sequence prints nothing but by repeating. -/
lemma silent_dispatchCsi : Silent (p.dispatchCsi rows raw).2 := by
  unfold dispatchCsi
  intro cp width
  dsimp only
  repeat' split
  all_goals first
    | exact silent_privateModes _ _ cp width
    | exact silent_ansiModes _ _ cp width
    | simp

/-- A sequence is read in Ground only, and is no longer than its lead byte said. -/
structure Sound (p : VtParser) : Prop where
  ground : 0 < p.utf8Remaining → p.state = .ground
  remaining_le : p.utf8Remaining ≤ p.utf8SeqLen
  length_le : p.utf8SeqLen ≤ 3

/-- A byte that is printed as itself. -/
def IsText (raw : UInt8) : Prop := 0x20 ≤ raw ∧ raw ≤ 0x7E

/-- What the sequence stands for when `raw` is its last byte. -/
def completed (p : VtParser) (raw : UInt8) : Nat :=
  decoded p.utf8SeqLen (p.utf8Accumulator * 64 + raw.toNat % 64)

/-- The width a decoded character is printed with. -/
def widthOf (cp : Nat) : Nat := if wcwidth cp ≥ 0 then (wcwidth cp).toNat else 1

/-- The ways in which a byte prints a character. -/
inductive Prints (p : VtParser) (raw : UInt8) : Nat → Nat → Prop where
  | replacement : Prints p raw 0xFFFD 1
  | text : IsText raw → Prints p raw raw.toNat 1
  | last : p.utf8Remaining = 1 → Utf8.IsTail raw →
    ¬(0x80 ≤ p.completed raw ∧ p.completed raw ≤ 0x9F) →
    Prints p raw (p.completed raw) (widthOf (p.completed raw))

/-- What the state machine prints is one byte of text, as it stands. -/
lemma machineByte_prints (hmem : Call.putChar cp width ∈ (p.machineByte rows raw).2) :
    IsText raw ∧ cp = raw.toNat ∧ width = 1 := by
  revert hmem
  unfold machineByte
  repeat' split
  all_goals intro hmem
  all_goals first
    | exact absurd hmem (silent_dispatchEsc _ _)
    | exact absurd hmem (silent_dispatchCsi _ _)
    | exact absurd hmem List.not_mem_nil
    | skip
  next htext =>
    cases List.mem_singleton.mp hmem
    exact ⟨htext, rfl, rfl⟩

/-- What a byte outside an encoding prints is a byte of text or the replacement character. -/
lemma plainByte_prints (hmem : Call.putChar cp width ∈ (p.plainByte rows raw).2) :
    (cp = 0xFFFD ∧ width = 1) ∨ (IsText raw ∧ cp = raw.toNat ∧ width = 1) := by
  unfold plainByte at hmem
  split at hmem
  · dsimp only at hmem
    split at hmem
    · cases hmem
    · cases List.mem_singleton.mp hmem
      exact .inl ⟨rfl, rfl⟩
  split at hmem
  · exact absurd hmem (silent_handleControl _ _)
  split at hmem
  · cases hmem
  · exact .inr (machineByte_prints hmem)

/-- What a byte prints. -/
theorem prints (hmem : Call.putChar cp width ∈ (p.feedByte rows raw).2) : Prints p raw cp width := by
  unfold feedByte at hmem
  split at hmem
  · exact absurd hmem (silent_bypassByte _ _)
  split at hmem
  · dsimp only at hmem
    split at hmem
    · cases List.mem_singleton.mp hmem
      exact .replacement
    · cases hmem
  split at hmem
  · cases hmem
  split at hmem
  · next hpending =>
    split at hmem
    · next hcont =>
      unfold continuationByte at hmem
      dsimp only at hmem
      split at hmem
      · cases hmem
      · next hlast =>
        rw [accumulate] at hmem
        split at hmem
        · cases hmem
        · next hc1 =>
          split at hmem
          · cases List.mem_singleton.mp hmem
            exact .last (by omega) ((isUtf8Continuation_iff raw).mp hcont) hc1
          · cases hmem
    · dsimp only at hmem
      rcases List.mem_append.mp hmem with hcut | hrest
      · split at hcut
        · cases List.mem_singleton.mp hcut
          exact .replacement
        · cases hcut
      · rcases plainByte_prints hrest with ⟨rfl, rfl⟩ | ⟨htext, rfl, rfl⟩
        · exact .replacement
        · exact .text htext
  · rcases plainByte_prints hmem with ⟨rfl, rfl⟩ | ⟨htext, rfl, rfl⟩
    · exact .replacement
    · exact .text htext

/-- What becomes of the sequence: there is none, one was started, or one goes on. -/
inductive Reads (p : VtParser) (raw : UInt8) (p' : VtParser) : Prop where
  | none : p'.utf8Remaining = 0 → p'.utf8SeqLen = p.utf8SeqLen → Reads p raw p'
  | lead : 0 < Utf8.tails raw → p'.state = .ground →
    p'.text = (Utf8.leadBits raw, Utf8.tails raw, Utf8.tails raw) → Reads p raw p'
  | tail : 1 < p.utf8Remaining → Utf8.IsTail raw → p'.state = p.state →
    p'.text = (p.utf8Accumulator * 64 + raw.toNat % 64, p.utf8Remaining - 1, p.utf8SeqLen) →
    Reads p raw p'

/-- A byte that leaves the text state alone outside an encoding is read there. -/
lemma Reads.of_text {p' : VtParser} (hnone : p.utf8Remaining = 0) (htext : p'.text = p.text) :
    Reads p raw p' := by
  simp only [text, Prod.mk.injEq] at htext
  exact .none (htext.2.1.trans hnone) htext.2.2

/-- A byte outside an encoding is read as a lead or as itself. -/
lemma plainByte_reads (hnone : p.utf8Remaining = 0) : Reads p raw (p.plainByte rows raw).1 := by
  unfold plainByte
  split
  · next hlead =>
    dsimp only
    rw [utf8LeadLength_eq]
    split
    · next hpos =>
      refine .lead hpos hlead.2 ?_
      rw [leadBits_eq raw hpos]
      rfl
    · exact .of_text hnone rfl
  split
  · exact .of_text hnone rfl
  split
  · exact .of_text hnone rfl
  · exact .of_text hnone text_machineByte

/-- A tail inside an encoding is read as its next six bits. -/
lemma continuationByte_reads (hpending : 0 < p.utf8Remaining) (htail : Utf8.IsTail raw) :
    Reads p raw (p.continuationByte raw).1 := by
  unfold continuationByte
  dsimp only
  split
  · next hmore =>
    refine .tail (by omega) htail rfl ?_
    rw [accumulate]
    rfl
  · next hlast =>
    have hzero : p.utf8Remaining - 1 = 0 := by omega
    repeat' split
    all_goals exact .none hzero rfl

/-- What a byte does to the sequence. -/
theorem Sound.reads (h : p.Sound) (rows : Nat) (raw : UInt8) :
    Reads p raw (p.feedByte rows raw).1 := by
  unfold feedByte
  split
  · next hbypass =>
    have hnone : p.utf8Remaining = 0 := by
      rcases Nat.eq_zero_or_pos p.utf8Remaining with hzero | hpos
      · exact hzero
      · exact absurd (hbypass.symm.trans (h.ground hpos)) (by decide)
    exact .of_text hnone text_bypassByte
  split
  · exact .none rfl rfl
  split
  · exact .none rfl rfl
  split
  · next hpending =>
    split
    · next hcont => exact continuationByte_reads hpending ((isUtf8Continuation_iff raw).mp hcont)
    · have hread : Reads { p with utf8Remaining := 0 } raw
          ({ p with utf8Remaining := 0 }.plainByte rows raw).1 := plainByte_reads rfl
      cases hread with
      | none hnone hlength => exact .none hnone hlength
      | lead hpos hground htext => exact .lead hpos hground htext
      | tail hmore => exact absurd hmore (Nat.not_lt_zero 1)
  · next hnone => exact plainByte_reads (by omega)

/-- The parser of any stream of bytes is sound. -/
lemma Sound.feedByte (h : p.Sound) : (p.feedByte rows raw).1.Sound := by
  have hlength := h.length_le
  have hremaining := h.remaining_le
  cases h.reads rows raw with
  | none hnone hseq =>
    exact { ground := fun hpos => by omega, remaining_le := by omega, length_le := by omega }
  | lead hpos hground htext =>
    have hle := tails_le raw
    simp only [text, Prod.mk.injEq] at htext
    exact { ground := fun _ => hground, remaining_le := by omega, length_le := by omega }
  | tail hmore htail hstate htext =>
    simp only [text, Prod.mk.injEq] at htext
    exact
      { ground := fun _ => hstate.trans (h.ground (by omega)), remaining_le := by omega
        length_le := by omega }

/-- A fresh parser is inside no encoding. -/
lemma Sound.fresh : ({} : VtParser).Sound where
  ground := nofun
  remaining_le := Nat.le_refl 0
  length_le := by decide

/-- A reset parser is sound. -/
lemma Sound.reset (h : p.Sound) : p.reset.Sound where
  ground := nofun
  remaining_le := Nat.zero_le _
  length_le := h.length_le

/-- Nothing is wider than two columns. -/
lemma widthOf_le (cp : Nat) : widthOf cp ≤ 2 := by
  have hle := wcwidth_le cp
  unfold widthOf
  split <;> omega

/-- What a sequence stands for is printable, unless it is a C1 control. -/
lemma isPrintable_completed (hpos : 0 < p.utf8SeqLen) (hlength : p.utf8SeqLen ≤ 3)
    (hc1 : ¬(0x80 ≤ p.completed raw ∧ p.completed raw ≤ 0x9F)) : IsPrintable (p.completed raw) := by
  have hmin : 0x80 ≤ minCodepoint p.utf8SeqLen := by
    have hcases : ∀ n, 0 < n → n ≤ 3 → 0x80 ≤ minCodepoint n := by
      intro n hn hn'
      obtain rfl | rfl | rfl : n = 1 ∨ n = 2 ∨ n = 3 := by omega
      all_goals decide
    exact hcases _ hpos hlength
  revert hc1
  unfold completed decoded
  split
  · exact fun _ => by decide
  · next hvalid =>
    intro hc1
    unfold IsPrintable Utf8.IsScalar
    omega

/-- A sound parser prints printable characters only. -/
theorem Sound.admits (h : p.Sound) {call : Call} (hmem : call ∈ (p.feedByte rows raw).2) :
    Stored.Admits Printed call := by
  cases call with
  | putChar cp width =>
    change width = 0 ∨ Printed cp width
    cases prints hmem with
    | replacement => exact .inr ⟨by decide, .inl rfl⟩
    | text htext =>
      have hlow : 0x20 ≤ raw.toNat := htext.1
      have hhigh : raw.toNat ≤ 0x7E := htext.2
      refine .inr ⟨?_, .inl rfl⟩
      unfold IsPrintable Utf8.IsScalar
      omega
    | last hone htail hc1 =>
      have hle := h.remaining_le
      have hshown := isPrintable_completed (by omega) h.length_le hc1
      have hwidth := widthOf_le (p.completed raw)
      rcases Nat.eq_zero_or_pos (widthOf (p.completed raw)) with hzero | hpos
      · exact .inl hzero
      · exact .inr ⟨hshown, by omega⟩
  | _ => trivial

end VtParser

end Zet.Terminal
