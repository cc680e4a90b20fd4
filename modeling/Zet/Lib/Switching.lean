import Mathlib.Tactic.Common

/-!
# Text that switches state

A text is written piece by piece, and a piece may need the writer to be in a certain state first: a
pen, a colour, a mode. `cost` is the size of the text from a state, where `d s t` is what it takes to
switch from `s` to `t`. When a detour never saves anything (`SwitchCosts`), the state a text starts in
makes no more difference than switching to it (`cost_le`), and pieces in front never make a text
shorter (`cost_suffix`).
-/

namespace Zet.Lib.Switching

universe u

variable {S : Type u}

/-- A piece of text, and the state it needs. -/
structure Item (S : Type u) where
  need : Option S
  size : Nat

/-- The state after the pieces. -/
def after : S → List (Item S) → S
  | s, [] => s
  | s, i :: is => after (i.need.getD s) is

variable (d : S → S → Nat)

/-- The size of the pieces from a state, with what it takes to switch. -/
def cost : S → List (Item S) → Nat
  | _, [] => 0
  | s, i :: is => d s (i.need.getD s) + i.size + cost (i.need.getD s) is

/-- Switching to the same state is free, and a detour saves nothing. -/
structure SwitchCosts : Prop where
  same : ∀ s, d s s = 0
  detour : ∀ s t u, d s u ≤ d s t + d t u

variable {d} {s t : S} {a b : List (Item S)}

/-- The cost of two stretches, one after the other. -/
lemma cost_append : cost d s (a ++ b) = cost d s a + cost d (after s a) b := by
  induction a generalizing s with
  | nil => simp [cost, after]
  | cons i a ih =>
    rw [List.cons_append, cost, cost, ih, after]
    omega

/-- A first piece with a need decides the state, whatever it was. -/
lemma after_eq {i : Item S} (need : i.need.isSome) (s t : S) (is : List (Item S)) :
    after s (i :: is) = after t (i :: is) := by
  obtain ⟨u, hu⟩ := Option.isSome_iff_exists.mp need
  rw [after, after, hu]
  rfl

/-- The state a text starts in makes no more difference than switching to it. -/
lemma cost_le (h : SwitchCosts d) (s t : S) (is : List (Item S)) :
    cost d s is ≤ d s t + cost d t is := by
  induction is generalizing s t with
  | nil => exact Nat.zero_le _
  | cons i is ih =>
    rw [cost, cost]
    cases i.need with
    | none =>
      have hrest := ih s t
      have hs := h.same s
      simp only [Option.getD_none]
      omega
    | some u =>
      have hdetour := h.detour s t u
      simp only [Option.getD_some]
      omega

/-- A text switched to the state it ends in. -/
lemma reach_le (h : SwitchCosts d) (s : S) (is : List (Item S)) : d s (after s is) ≤ cost d s is := by
  induction is generalizing s with
  | nil => exact Nat.le_of_eq (h.same s)
  | cons i is ih =>
    have hrest := ih (i.need.getD s)
    have hdetour := h.detour s (i.need.getD s) (after (i.need.getD s) is)
    rw [cost, after]
    omega

/-- Pieces in front never make a text shorter. -/
theorem cost_suffix (h : SwitchCosts d) (s : S) (a b : List (Item S)) :
    cost d s b ≤ cost d s (a ++ b) := by
  have hreach := reach_le h s a
  have hstart := cost_le h s (after s a) b
  rw [cost_append]
  omega

/-- Where every switch is cheaper, so is every text. -/
lemma cost_mono {d' : S → S → Nat} (le : ∀ s t, d s t ≤ d' s t) (s : S) (is : List (Item S)) :
    cost d s is ≤ cost d' s is := by
  induction is generalizing s with
  | nil => exact Nat.le_refl _
  | cons i is ih =>
    have hswitch := le s (i.need.getD s)
    have hrest := ih (i.need.getD s)
    rw [cost, cost]
    omega

end Zet.Lib.Switching
