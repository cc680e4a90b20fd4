import Mathlib.Data.List.Nodup
import Mathlib.Data.List.Perm.Subperm
import Mathlib.Logic.Function.Basic

/-!
# Maps from tokens

Tokens are given out in order and never again. A map from them is a function, empty from the next token
on, and its entries are counted below a bound. What one update does to such a count is said once here,
for an entry that was there (`countBelow_update`) and for the next one (`countBelow_add`).
-/

namespace Zet.Lib

universe u

variable {α : Type u} {p : α → Bool} {map map' : Nat → Option α} {i n : Nat}

/-- The entries of a map that satisfy a condition, below a bound. -/
def countBelow (p : α → Bool) (bound : Nat) (map : Nat → Option α) : Nat :=
  (List.range bound).countP fun token => (map token).any p

/-- The size of a map, below a bound. -/
def sizeBelow (bound : Nat) (map : Nat → Option α) : Nat := countBelow (fun _ => true) bound map

/-- No token is counted before the first. -/
@[simp] lemma countBelow_zero : countBelow p 0 map = 0 := rfl

/-- One token more. -/
lemma countBelow_succ : countBelow p (n + 1) map = countBelow p n map + ((map n).any p).toNat := by
  rw [countBelow, List.range_succ, List.countP_append, List.countP_singleton, countBelow]
  cases (map n).any p <;> rfl

/-- Maps that agree on the tokens have the same count. -/
lemma countBelow_congr (same : ∀ token < n, (map' token).any p = (map token).any p) :
    countBelow p n map' = countBelow p n map := by
  apply List.countP_congr
  intro token htoken
  rw [same token (List.mem_range.mp htoken)]

/-- Entries that are gone were counted. -/
lemma countBelow_le (fewer : ∀ token < n, (map' token).any p = true → (map token).any p = true) :
    countBelow p n map' ≤ countBelow p n map := by
  apply List.countP_mono_left
  intro token htoken
  exact fewer token (List.mem_range.mp htoken)

/-- Entries that are each the key of something alive in a table are no more than what is alive there. -/
lemma countBelow_le_countP {β : Type*} {live : β → Bool} {key : β → Nat} {l : List β}
    (kept : ∀ token < n, (map token).any p = true → ∃ x ∈ l, live x = true ∧ key x = token) :
    countBelow p n map ≤ l.countP live := by
  have hdistinct : ((List.range n).filter fun token => (map token).any p).Nodup :=
    List.nodup_range.filter _
  have hfound : ((List.range n).filter fun token => (map token).any p) ⊆ (l.filter live).map key := by
    intro token htoken
    obtain ⟨hbelow, hcounted⟩ := List.mem_filter.mp htoken
    obtain ⟨x, hmem, hlive, hkey⟩ := kept token (List.mem_range.mp hbelow) hcounted
    exact List.mem_map.mpr ⟨x, List.mem_filter.mpr ⟨hmem, hlive⟩, hkey⟩
  have hlength := (hdistinct.subperm hfound).length_le
  rwa [List.length_map, ← List.countP_eq_length_filter, ← List.countP_eq_length_filter] at hlength

/-- One entry replaced, below the bound. -/
lemma countBelow_update {m : Nat → Option α} (below : i < n) (entry : Option α) :
    countBelow p n (Function.update m i entry) + ((m i).any p).toNat =
      countBelow p n m + (entry.any p).toNat := by
  induction n with
  | zero => exact absurd below (Nat.not_lt_zero i)
  | succ n ih =>
    rw [countBelow_succ, countBelow_succ]
    rcases Nat.lt_succ_iff_lt_or_eq.mp below with hlt | rfl
    · rw [Function.update_of_ne (Nat.ne_of_gt hlt), Nat.add_right_comm, ih hlt, Nat.add_right_comm]
    · rw [Function.update_self, Nat.add_right_comm]
      have hbelow : countBelow p i (Function.update m i entry) = countBelow p i m := by
        apply countBelow_congr
        intro token htoken
        rw [Function.update_of_ne (Nat.ne_of_lt htoken)]
      rw [hbelow, Nat.add_right_comm]

/-- An entry under the next token. -/
lemma countBelow_add (entry : Option α) :
    countBelow p (n + 1) (Function.update map n entry) = countBelow p n map + (entry.any p).toNat := by
  rw [countBelow_succ, Function.update_self]
  congr 1
  apply countBelow_congr
  intro token htoken
  rw [Function.update_of_ne (Nat.ne_of_lt htoken)]

/-- Nothing under the next token. -/
lemma countBelow_skip (free : map n = none) : countBelow p (n + 1) map = countBelow p n map := by
  rw [countBelow_succ, free]
  rfl

end Zet.Lib
