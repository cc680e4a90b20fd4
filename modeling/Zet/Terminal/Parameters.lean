import Zet.Terminal.Sequences
import Zet.Terminal.Snapshot

/-!
# Parameters, written and read back

A number is written in decimal digits and read back by `ParseParams` as far as a parameter holds it;
parameters are numbers with a semicolon, or a colon in front of a sub-parameter
(`Snapshot.writtenParams`). A list that is no longer than a parser keeps is `Carried`: it comes back
as it is.
-/

namespace Zet.Terminal
open Zet.Core Zet.Lib VtParser

namespace Snapshot

/-- The byte of a digit, as a number. -/
lemma digit_toNat : ∀ d, d < 10 → (UInt8.ofNat (0x30 + d)).toNat = 0x30 + d := by
  decide

/-- A digit is a byte of parameters. -/
lemma isParam_digit : ∀ d, d < 10 → IsParam (UInt8.ofNat (0x30 + d)) := by
  decide

/-- It is read as a digit. -/
lemma isDigit_digit : ∀ d, d < 10 → 0x30 ≤ UInt8.ofNat (0x30 + d) ∧ UInt8.ofNat (0x30 + d) ≤ 0x39 := by
  decide

/-- The digits put in front of parameters are bytes of parameters. -/
lemma isParam_decimalLoop (fuel n : Nat) {tail : Bytes} (h : ∀ b ∈ tail, IsParam b) :
    ∀ b ∈ decimalLoop fuel n tail, IsParam b := by
  induction fuel generalizing n tail with
  | zero => exact h
  | succ fuel ih =>
    rw [decimalLoop]
    split
    · exact ih (n / 10) (List.forall_mem_cons.mpr ⟨isParam_digit _ (Nat.mod_lt _ (by decide)), h⟩)
    · exact h

/-- A number is. -/
lemma isParam_writeDecimal (n : Nat) : ∀ b ∈ writeDecimal n, IsParam b := by
  unfold writeDecimal
  split
  · exact List.forall_mem_singleton.mpr (by decide)
  · exact isParam_decimalLoop 10 n (List.forall_mem_nil _)

/-- The loop puts a digit in front at each turn at most. -/
lemma length_decimalLoop (fuel n : Nat) (tail : Bytes) :
    (decimalLoop fuel n tail).length ≤ fuel + tail.length := by
  induction fuel generalizing n tail with
  | zero => exact Nat.le_add_left ..
  | succ fuel ih =>
    rw [decimalLoop]
    split
    · have hle := ih (n / 10) (UInt8.ofNat (0x30 + n % 10) :: tail)
      rw [List.length_cons] at hle
      omega
    · omega

/-- A number takes ten bytes at most. -/
lemma length_writeDecimal (n : Nat) : (writeDecimal n).length ≤ 10 := by
  unfold writeDecimal
  split
  · decide
  · exact length_decimalLoop 10 n []

/-- What follows the tail follows the number. -/
lemma decimalLoop_append (fuel n : Nat) (a b : Bytes) :
    decimalLoop fuel n a ++ b = decimalLoop fuel n (a ++ b) := by
  induction fuel generalizing n a with
  | zero => rfl
  | succ fuel ih =>
    rw [decimalLoop, decimalLoop]
    split
    · exact ih ..
    · rfl

/-- The digits of a number read back, as far as a parameter holds it. -/
lemma parse_decimalLoop {fuel n : Nat} (hfuel : n < 10 ^ fuel) (hn : n ≤ 0xFFFF) (tail : Bytes)
    (hasDigit colon : Bool) :
    parseLoop (decimalLoop fuel n tail) 0 hasDigit colon =
      parseLoop tail n (hasDigit || decide (0 < n)) colon := by
  induction fuel generalizing n tail with
  | zero =>
    obtain rfl : n = 0 := by omega
    rw [decimalLoop, decide_eq_false (by decide), Bool.or_false]
  | succ fuel ih =>
    rw [decimalLoop]
    split
    · next hpos =>
      have hlt : n / 10 < 10 ^ fuel := by
        rw [Nat.pow_succ] at hfuel
        omega
      have hdigit : n % 10 < 10 := Nat.mod_lt _ (by decide)
      rw [ih hlt (by omega), parseLoop, if_pos (isDigit_digit _ hdigit), digit_toNat _ hdigit,
        Nat.add_sub_cancel_left, decide_eq_true hpos, Bool.or_true]
      congr 1
      omega
    · next hzero =>
      obtain rfl : n = 0 := by omega
      rw [decide_eq_false (by decide), Bool.or_false]

/-- A written number is read back. -/
lemma parse_writeDecimal {n : Nat} (hn : n ≤ 0xFFFF) (tail : Bytes) (colon : Bool) :
    parseLoop (writeDecimal n ++ tail) 0 false colon = parseLoop tail n true colon := by
  unfold writeDecimal
  split
  · next hzero =>
    subst hzero
    rfl
  · next hpos =>
    rw [decimalLoop_append, List.nil_append, parse_decimalLoop (by omega) hn,
      decide_eq_true (by omega)]
    rfl

/-- Parameters behind another one, each with its separator. -/
def renderParams (params : List Param) : Bytes :=
  params.flatMap fun p => (if p.colon then 0x3A else 0x3B) :: writeDecimal p.value

/-- Lists of parameters are written one after the other. -/
lemma renderParams_append (a b : List Param) :
    renderParams (a ++ b) = renderParams a ++ renderParams b := List.flatMap_append

/-- What is written of them are bytes of parameters. -/
lemma isParam_renderParams (params : List Param) : ∀ b ∈ renderParams params, IsParam b := by
  intro b hb
  obtain ⟨p, -, hp⟩ := List.mem_flatMap.mp hb
  rcases List.mem_cons.mp hp with rfl | hdigit
  · split <;> decide
  · exact isParam_writeDecimal _ b hdigit

/-- Each takes eleven bytes at most. -/
lemma length_renderParams (params : List Param) :
    (renderParams params).length ≤ 11 * params.length := by
  induction params with
  | nil => exact Nat.le_refl 0
  | cons p params ih =>
    have hle := length_writeDecimal p.value
    rw [renderParams, List.flatMap_cons, List.length_append, List.length_cons, List.length_cons,
      ← renderParams]
    omega

/-- Parameters are read as they were written. -/
lemma parse_renderParams {params : List Param} (h : ∀ p ∈ params, p.value ≤ 0xFFFF) (n : Nat)
    (colon : Bool) : parseLoop (renderParams params) n true colon = ⟨n, colon⟩ :: params := by
  induction params generalizing n colon with
  | nil => rfl
  | cons p params ih =>
    obtain ⟨hp, hrest⟩ := List.forall_mem_cons.mp h
    obtain ⟨value, sub⟩ := p
    have hsep : renderParams (⟨value, sub⟩ :: params) =
        (if sub then 0x3A else 0x3B) :: (writeDecimal value ++ renderParams params) := rfl
    rw [hsep]
    cases sub with
    | true =>
      change ⟨n, colon⟩ :: parseLoop (writeDecimal value ++ renderParams params) 0 false true = _
      rw [parse_writeDecimal hp, ih hrest]
    | false =>
      change ⟨n, colon⟩ :: parseLoop (writeDecimal value ++ renderParams params) 0 false false = _
      rw [parse_writeDecimal hp, ih hrest]

/-- A whole list of parameters; the first one has no separator. -/
def writtenParams : List Param → Bytes
  | [] => []
  | p :: params => writeDecimal p.value ++ renderParams params

/-- So it is without the first separator. -/
lemma isParam_writtenParams (params : List Param) : ∀ b ∈ writtenParams params, IsParam b := by
  cases params with
  | nil => exact List.forall_mem_nil _
  | cons p params =>
    intro b hb
    rcases List.mem_append.mp hb with hfirst | hrest
    · exact isParam_writeDecimal _ b hfirst
    · exact isParam_renderParams params b hrest

/-- So do those. -/
lemma length_writtenParams (params : List Param) :
    (writtenParams params).length ≤ 11 * params.length := by
  cases params with
  | nil => exact Nat.le_refl 0
  | cons p params =>
    have hfirst := length_writeDecimal p.value
    have hrest := length_renderParams params
    rw [writtenParams, List.length_append, List.length_cons]
    omega

/-- Written parameters are read back. -/
lemma parse_writtenParams {p : Param} {params : List Param} (hp : p.colon = false)
    (h : ∀ q ∈ p :: params, q.value ≤ 0xFFFF) :
    parseLoop (writtenParams (p :: params)) 0 false false = p :: params := by
  obtain ⟨hfirst, hrest⟩ := List.forall_mem_cons.mp h
  obtain ⟨value, sub⟩ := p
  subst hp
  rw [writtenParams, parse_writeDecimal hfirst, parse_renderParams hrest]

/-- A second list is written behind the first with its separators. -/
lemma writtenParams_append {a : List Param} (ha : a ≠ []) (b : List Param) :
    writtenParams (a ++ b) = writtenParams a ++ renderParams b := by
  cases a with
  | nil => exact absurd rfl ha
  | cons p a =>
    rw [List.cons_append, writtenParams, writtenParams, renderParams_append, List.append_assoc]

end Snapshot

/-- Parameters that a sequence can carry: the first one is none of the sub-parameters, each fits into
16 bits, and there are no more than a parser keeps. -/
structure Carried (params : List Param) : Prop where
  head : ∃ value rest, params = ⟨value, false⟩ :: rest
  value_le : ∀ p ∈ params, p.value ≤ 0xFFFF
  length_le : params.length ≤ maxParams

namespace Carried

variable {params : List Param}

/-- What the parser carries it reads back. -/
lemma parse (h : Carried params) : parseLoop (Snapshot.writtenParams params) 0 false false = params := by
  obtain ⟨value, rest, rfl⟩ := h.head
  exact Snapshot.parse_writtenParams rfl h.value_le

/-- It fits the parser's buffer. -/
lemma length_lt (h : Carried params) : (Snapshot.writtenParams params).length < maxParamBytes := by
  have hle := Snapshot.length_writtenParams params
  have hcount := h.length_le
  simp only [maxParams, maxParamBytes] at *
  omega

end Carried

/-- A byte of parameters is no private marker. -/
lemma private_ne : ∀ b, VtParser.IsParam b → ¬(0x3C ≤ b ∧ b ≤ 0x3F) :=
  forall_byte (by decide +kernel)

/-- Parameters without a private marker are read from the first byte on. -/
lemma VtParser.parseParams_plain {p : VtParser} (h : ∀ b ∈ p.params, VtParser.IsParam b) :
    p.parseParams = (parseLoop p.params 0 false false).take maxParams := by
  unfold VtParser.parseParams
  cases hparams : p.params with
  | nil => rfl
  | cons b rest =>
    have hb := private_ne b (h b (hparams ▸ List.mem_cons_self ..))
    dsimp only
    rw [if_neg hb]

/-- Output whose calls leave the height alone is fed as one. -/
lemma Emulator.feed_eq {p : VtParser} {g : Grid} {bytes : Bytes}
    (hrows : ∀ call ∈ (p.feed g.rows bytes).2, ∀ g' : Grid, (call.apply g').rows = g'.rows) :
    (⟨p, g⟩ : Emulator).feed bytes =
      ⟨(p.feed g.rows bytes).1, (p.feed g.rows bytes).2.foldl Call.apply g⟩ := by
  have hfold : ∀ (calls : List Call) (g : Grid), (∀ call ∈ calls, ∀ g' : Grid,
      (call.apply g').rows = g'.rows) → (calls.foldl Call.apply g).rows = g.rows := by
    intro calls
    induction calls with
    | nil => exact fun _ _ => rfl
    | cons call calls ih =>
      intro g h
      have hcalls := List.forall_mem_cons.mp h
      exact (ih _ hcalls.2).trans (hcalls.1 g)
  unfold Emulator.feed
  induction bytes generalizing p g with
  | nil => rfl
  | cons raw bytes ih =>
    rw [VtParser.feed] at hrows
    have hfirst := hfold _ g fun call hmem => hrows call (List.mem_append_left _ hmem)
    have hrest := ih (p := (p.feedByte g.rows raw).1)
      (g := (p.feedByte g.rows raw).2.foldl Call.apply g) (by
        rw [hfirst]
        exact fun call hmem => hrows call (List.mem_append_right _ hmem))
    rw [hfirst] at hrest
    rw [VtParser.feed, List.foldl_cons, List.foldl_append]
    exact hrest

end Zet.Terminal
