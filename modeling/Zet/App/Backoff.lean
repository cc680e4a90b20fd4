import Mathlib.Tactic.Common
import Zet.Core.Bytes

/-!
# Backing off

The delay both ends wait before they try a lost connection again (`Client::Backoff` in
`src/client/client.cpp`, `MuxLink::Backoff` in `src/agent/mux_link.cpp`): doubling from a least delay
for every attempt that came to nothing, up to a ceiling, with jitter over the upper half.
-/

namespace Zet.App
open Zet.Core

/-- `BACKOFF_MIN`, at both ends. -/
def backoffMin : Nat := 250 * 10 ^ 6

/-- The loop of `Backoff`: `attempts` doublings, none of them from the ceiling on. -/
def doubled (ceiling : Nat) : (attempts delay : Nat) → Nat
  | 0, delay => delay
  | attempts + 1, delay => if delay < ceiling then doubled ceiling attempts (delay * 2) else delay

/-- The delay before the jitter. -/
def backoffDelay (ceiling attempts : Nat) : Nat := min (doubled ceiling attempts backoffMin) ceiling

/-- `Backoff`, with the noise it draws. -/
def backoff (ceiling attempts noise : Nat) : Nat :=
  let half := backoffDelay ceiling attempts / 2
  half + noise % (half + 1)

/-- Doubling with the ceiling at each step is doubling with the ceiling at the end. -/
lemma min_doubled (ceiling attempts delay : Nat) :
    min (doubled ceiling attempts delay) ceiling = min (delay * 2 ^ attempts) ceiling := by
  induction attempts generalizing delay with
  | zero => simp [doubled]
  | succ attempts ih =>
    unfold doubled
    split
    next => rw [ih, Nat.mul_assoc, Nat.pow_succ']
    next hreached =>
      have hgrown : delay ≤ delay * 2 ^ (attempts + 1) := Nat.le_mul_of_pos_right _ (Nat.two_pow_pos _)
      omega

/-- The delay doubles with every attempt and stops at the ceiling. -/
lemma backoffDelay_eq (ceiling attempts : Nat) :
    backoffDelay ceiling attempts = min (backoffMin * 2 ^ attempts) ceiling :=
  min_doubled ceiling attempts backoffMin

/-- The jitter leaves it between half of the delay and the delay. -/
lemma backoff_bounds (ceiling attempts noise : Nat) :
    backoffDelay ceiling attempts / 2 ≤ backoff ceiling attempts noise ∧
      backoff ceiling attempts noise ≤ backoffDelay ceiling attempts := by
  have hnoise : noise % (backoffDelay ceiling attempts / 2 + 1) < backoffDelay ceiling attempts / 2 + 1 :=
    Nat.mod_lt _ (Nat.succ_pos _)
  unfold backoff
  dsimp only
  omega

end Zet.App
