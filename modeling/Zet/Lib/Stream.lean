import Mathlib.Data.List.Basic
import Mathlib.Tactic.Common
import Mathlib.Order.MinMax

/-!
# Segments of a stream

A receiver that counts how much of a stream it holds takes segments in the order they come, and can
take one if it starts no higher than what it holds. `Covers r segs` says that a receiver at `r` can
take all of `segs`, and `reach r segs` is where it ends up. `IsSlice` relates a segment's payload to
the stream it was cut from; `IsSlice.take_append_drop` is the step of a receiver that keeps the new
tail of what it takes.
-/

namespace Zet.Lib

variable {α : Type*}

/-- `payload` is what the stream holds from `offset` on. -/
def IsSlice (log : List α) (offset : Nat) (payload : List α) : Prop :=
  offset + payload.length ≤ log.length ∧ payload = (log.drop offset).take payload.length

variable {log payload : List α} {offset r : Nat}

/-- A stream that grows keeps its slices. -/
lemma IsSlice.append (h : IsSlice log offset payload) (more : List α) :
    IsSlice (log ++ more) offset payload := by
  obtain ⟨hle, heq⟩ := h
  refine ⟨by simp; omega, ?_⟩
  rw [List.drop_append_of_le_length (by omega), List.take_append_of_le_length (by simp; omega)]
  exact heq

/-- What is read from a stream is a slice of it. -/
lemma IsSlice.read (log : List α) (offset n : Nat) (h : offset ≤ log.length) :
    IsSlice log offset ((log.drop offset).take n) := by
  refine ⟨by simp; omega, ?_⟩
  rw [List.length_take, List.take_eq_take_iff]
  omega

/-- Keeping the new tail of a slice extends the prefix that is held to the end of the slice. -/
lemma IsSlice.take_append_drop (h : IsSlice log offset payload) (low : offset ≤ r) :
    log.take r ++ payload.drop (r - offset) = log.take (max r (offset + payload.length)) := by
  obtain ⟨hle, heq⟩ := h
  rcases Nat.lt_or_ge r (offset + payload.length) with hnew | hold
  · have htail : payload.drop (r - offset) =
        (log.drop r).take (offset + payload.length - r) := by
      conv_lhs => rw [heq, List.drop_take, List.drop_drop]
      rw [show offset + (r - offset) = r by omega,
        show payload.length - (r - offset) = offset + payload.length - r by omega]
    rw [Nat.max_eq_right hnew.le, htail, ← List.take_add,
      show r + (offset + payload.length - r) = offset + payload.length by omega]
  · rw [Nat.max_eq_left hold, List.drop_of_length_le (by omega), List.append_nil]

/-- Where a receiver at `r` ends up after the segments, given as their first offset and their end. -/
def reach (r : Nat) : List (Nat × Nat) → Nat
  | [] => r
  | s :: segs => reach (max r s.2) segs

/-- A receiver at `r` can take the segments one after another. -/
def Covers (r : Nat) : List (Nat × Nat) → Prop
  | [] => True
  | s :: segs => s.1 ≤ r ∧ Covers (max r s.2) segs

/-- One segment more, and how far it reaches. -/
lemma reach_append (r : Nat) (segs : List (Nat × Nat)) (s : Nat × Nat) :
    reach r (segs ++ [s]) = max (reach r segs) s.2 := by
  induction segs generalizing r with
  | nil => rfl
  | cons s' segs ih => exact ih _

/-- Starting further one reaches at least as far. -/
lemma reach_mono {r r' : Nat} (h : r ≤ r') (segs : List (Nat × Nat)) :
    reach r segs ≤ reach r' segs := by
  induction segs generalizing r r' with
  | nil => exact h
  | cons s segs ih => exact ih (max_le_max h le_rfl)

/-- Segments never take one back. -/
lemma le_reach (r : Nat) (segs : List (Nat × Nat)) : r ≤ reach r segs := by
  induction segs generalizing r with
  | nil => exact le_rfl
  | cons s segs ih => exact (le_max_left _ _).trans (ih _)

/-- A receiver further on can take what one before it can. -/
lemma Covers.mono {r r' : Nat} (h : r ≤ r') {segs : List (Nat × Nat)} (covers : Covers r segs) :
    Covers r' segs := by
  induction segs generalizing r r' with
  | nil => trivial
  | cons s segs ih => exact ⟨covers.1.trans h, ih (max_le_max h le_rfl) covers.2⟩

/-- One more segment can be taken if it starts no higher than where the others lead. -/
lemma Covers.append {segs : List (Nat × Nat)} (covers : Covers r segs) {s : Nat × Nat}
    (low : s.1 ≤ reach r segs) : Covers r (segs ++ [s]) := by
  induction segs generalizing r with
  | nil => exact ⟨low, trivial⟩
  | cons s' segs ih => exact ⟨covers.1, ih covers.2 low⟩

end Zet.Lib
