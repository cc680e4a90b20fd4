import Mathlib.Data.List.DropRight
import Mathlib.Data.List.GetD
import Zet.Lib.Ring
import Zet.Terminal.Grid

/-!
# The history of a grid

The valid lines of the history ring, oldest first: what `ScrollbackLine` returns, index by index. A
push appends one line and drops the oldest where there is no room.
-/

namespace Zet.Terminal
open Zet.Lib

namespace Grid

variable {g : Grid}

/-- The history ring holds as many slots as its limit says, and no more lines than that. -/
structure Ringed (g : Grid) : Prop where
  length_eq : g.history.length = g.scrollbackLimit
  size_le : g.historySize ≤ g.scrollbackLimit

/-- The lines of the history, oldest first. -/
def scrollback (g : Grid) : List Line := ringRead g.history g.historyStart g.historySize

/-- A history of no lines is empty. -/
lemma scrollback_of_size (hsize : g.historySize = 0) : g.scrollback = [] := by
  rw [scrollback, hsize]
  simp [ringRead]

/-- A history has as many lines as it counts. -/
lemma Ringed.length_scrollback (h : g.Ringed) : g.scrollback.length = g.historySize := by
  have hsize := h.size_le
  rcases Nat.eq_zero_or_pos g.history.length with empty | nonempty
  · have hzero : g.historySize = 0 := by rw [h.length_eq] at empty; omega
    rw [scrollback_of_size hzero, hzero]
    rfl
  · exact length_ringRead nonempty (h.length_eq ▸ hsize)

/-- `ScrollbackLine` reads the history. -/
lemma Ringed.scrollbackLine_eq (h : g.Ringed) (idx : Nat) :
    g.scrollbackLine idx = g.scrollback[idx]? := by
  have hsize := h.size_le
  unfold scrollbackLine
  split
  · next hge => rw [List.getElem?_eq_none (h.length_scrollback ▸ hge)]
  · next hlt =>
    have hin : (g.historyStart + idx) % g.scrollbackLimit < g.history.length := by
      rw [h.length_eq]
      exact Nat.mod_lt _ (by omega)
    rw [scrollback, getElem?_ringRead (h.length_eq ▸ hsize) (Nat.lt_of_not_le hlt), h.length_eq,
      List.getElem?_eq_getElem hin, List.getD_eq_getElem _ _ hin]

/-- Pushing a row keeps the ring one. -/
lemma Ringed.pushScrollback (h : g.Ringed) (row : Nat) : (g.pushScrollback row).Ringed := by
  unfold Grid.pushScrollback
  split
  · exact h
  · dsimp only
    split
    · next hroom => exact ⟨List.length_set.trans h.length_eq, hroom⟩
    · exact ⟨List.length_set.trans h.length_eq, h.size_le⟩

/-- It leaves the screen alone. -/
lemma main_pushScrollback (row : Nat) : (g.pushScrollback row).main = g.main := by
  unfold Grid.pushScrollback
  split
  · rfl
  · dsimp only
    split <;> rfl

/-- It leaves the limit alone. -/
lemma scrollbackLimit_pushScrollback (row : Nat) :
    (g.pushScrollback row).scrollbackLimit = g.scrollbackLimit := by
  unfold Grid.pushScrollback
  split
  · rfl
  · dsimp only
    split <;> rfl

/-- What a push does to the history. -/
lemma Ringed.scrollback_push (h : g.Ringed) (row : Nat) :
    (g.pushScrollback row).scrollback =
      (g.scrollback ++ [g.main.getD row []]).rtake g.scrollbackLimit := by
  have hsize := h.size_le
  have hlength := h.length_scrollback
  unfold Grid.pushScrollback
  split
  · next hzero =>
    rw [hzero, List.rtake_zero]
    exact List.length_eq_zero_iff.mp (by omega)
  · next hlimit =>
    dsimp only
    split
    · next hroom =>
      have hpush := ringRead_push g.historyStart (h.length_eq ▸ hroom) (g.main.getD row [])
      rw [h.length_eq] at hpush
      rw [scrollback, hpush, List.rtake, List.length_append, ← scrollback, hlength,
        List.length_singleton, Nat.sub_eq_zero_of_le hroom, List.drop_zero]
    · next hfull =>
      have hsize' : g.historySize = g.history.length := by rw [h.length_eq]; omega
      have hpush := ringRead_push_full g.historyStart
        (by rw [h.length_eq]; omega) (g.main.getD row [])
      have hpos : 1 ≤ g.scrollback.length := by omega
      rw [scrollback, ← h.length_eq, hsize', hpush, ← hsize', ← scrollback, List.rtake,
        List.length_append, hlength, List.length_singleton, Nat.add_sub_cancel_left,
        List.drop_append_of_le_length hpos, List.drop_one]

/-- Of lines cut to their last, the last are the same. -/
lemma rtake_append_rtake {α : Type} (l m : List α) (n : Nat) :
    (l.rtake n ++ m).rtake n = (l ++ m).rtake n := by
  simp only [List.rtake, List.length_append, List.length_drop, List.drop_append, List.drop_drop]
  rcases Nat.lt_or_ge l.length n with hlt | hge
  · rw [Nat.sub_eq_zero_of_le (Nat.le_of_lt hlt)]
    simp
  · congr 2 <;> omega

/-- What pushing several rows does to the history. -/
lemma Ringed.scrollback_pushRows (h : g.Ringed) (rows : List Nat) :
    (rows.foldl Grid.pushScrollback g).scrollback =
      (g.scrollback ++ rows.map fun row => g.main.getD row []).rtake g.scrollbackLimit := by
  induction rows generalizing g with
  | nil =>
    rw [List.map_nil, List.append_nil, List.rtake, h.length_scrollback,
      Nat.sub_eq_zero_of_le h.size_le]
    rfl
  | cons row rows ih =>
    rw [List.foldl_cons, ih (h.pushScrollback row), h.scrollback_push, main_pushScrollback,
      scrollbackLimit_pushScrollback, rtake_append_rtake, List.append_assoc]
    rfl

/-- Pushing several rows keeps the ring one. -/
lemma Ringed.pushRows (h : g.Ringed) (rows : List Nat) :
    (rows.foldl Grid.pushScrollback g).Ringed := by
  induction rows generalizing g with
  | nil => exact h
  | cons row rows ih => exact ih (h.pushScrollback row)

end Grid

end Zet.Terminal
