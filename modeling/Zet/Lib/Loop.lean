import Mathlib.Tactic.Common

/-!
# Loops that may not end

`loop guard body fuel s` takes turns of `body` while `guard` holds, and has no result when `fuel` turns
do not get it to an end. `loop_counted` is the rule for loops whose turns can be told in advance.
-/

namespace Zet.Lib

universe u

variable {S : Type u} {guard : S → Bool} {body : S → S}

/-- `while (guard) body`, for less than `fuel` turns. -/
def loop (guard : S → Bool) (body : S → S) : (fuel : Nat) → S → Option S
  | 0, _ => none
  | fuel + 1, s => if guard s then loop guard body fuel (body s) else some s

/-- A loop whose guard fails is over. -/
lemma loop_exit {s : S} (fuel : Nat) (h : guard s = false) : loop guard body (fuel + 1) s = some s := by
  rw [loop, h]
  rfl

/-- A loop whose guard holds takes a turn. -/
lemma loop_turn {s : S} (fuel : Nat) (h : guard s = true) :
    loop guard body (fuel + 1) s = loop guard body fuel (body s) := by
  rw [loop, if_pos h]

/-- A loop that is in state `at_ i` after `i` turns, and leaves after `turns`. -/
theorem loop_counted {turns fuel : Nat} (at_ : Nat → S) (inside : ∀ i < turns, guard (at_ i) = true)
    (next : ∀ i < turns, body (at_ i) = at_ (i + 1)) (exit : guard (at_ turns) = false)
    (enough : turns < fuel) : loop guard body fuel (at_ 0) = some (at_ turns) := by
  obtain ⟨fuel, rfl⟩ := Nat.exists_eq_add_of_le' (Nat.one_le_of_lt enough)
  induction turns generalizing at_ fuel with
  | zero => exact loop_exit fuel exit
  | succ turns ih =>
    obtain ⟨fuel, rfl⟩ := Nat.exists_eq_add_of_le' (show 1 ≤ fuel by omega)
    rw [loop_turn _ (inside 0 (Nat.succ_pos _)), next 0 (Nat.succ_pos _)]
    exact ih (fun i => at_ (i + 1)) (fun i hi => inside (i + 1) (by omega))
      (fun i hi => next (i + 1) (by omega)) exit fuel (by omega)

end Zet.Lib
