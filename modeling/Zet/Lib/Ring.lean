import Mathlib.Tactic.Common
import Mathlib.Data.List.Basic

/-!
# A ring of cells

Absolute positions are mapped onto a storage of fixed size modulo its length. A write or a read of a
span is done in two pieces when it crosses the end of the storage, the way a ring buffer copies with
two calls. The two lemmas that matter say what the two pieces amount to, position by position:
`getElem?_ringWrite` and `getElem?_ringRead`.

A ring of the last items is the same storage with one item to a cell: `ringRead_push` and
`ringRead_push_full` say what adding an item does to what is read, oldest first, while there is room
and when there is none, and `ringRead_modify` what changing every item in place does.
-/

namespace Zet.Lib

universe u

variable {α : Type u}

/-- The storage with `src` copied over it from `pos` on. -/
def copyAt (dst : List α) (pos : Nat) (src : List α) : List α :=
  dst.take pos ++ src ++ dst.drop (pos + src.length)

/-- Copying inside the bounds keeps the length. -/
@[simp] lemma length_copyAt {dst src : List α} {pos : Nat} (fits : pos + src.length ≤ dst.length) :
    (copyAt dst pos src).length = dst.length := by
  simp only [copyAt, List.length_append, List.length_take, List.length_drop]
  omega

/-- A copy, position by position. -/
lemma getElem?_copyAt {dst src : List α} {pos : Nat} (fits : pos + src.length ≤ dst.length)
    (i : Nat) :
    (copyAt dst pos src)[i]? =
      if pos ≤ i ∧ i < pos + src.length then src[i - pos]? else dst[i]? := by
  have htake : (dst.take pos).length = pos := by
    rw [List.length_take]
    omega
  rw [copyAt, List.append_assoc]
  by_cases below : i < pos
  · rw [List.getElem?_append_left (by omega), List.getElem?_take_of_lt below, if_neg (by omega)]
  · rw [List.getElem?_append_right (by omega), htake]
    by_cases inside : i < pos + src.length
    · rw [List.getElem?_append_left (by omega), if_pos (by omega)]
    · rw [List.getElem?_append_right (by omega), List.getElem?_drop, if_neg (by omega)]
      congr 1
      omega

/-- Write `src` at absolute position `at_`, in two pieces if the write wraps. -/
def ringWrite (storage : List α) (at_ : Nat) (src : List α) : List α :=
  let writePos := at_ % storage.length
  let firstPiece := min src.length (storage.length - writePos)
  let storage := copyAt storage writePos (src.take firstPiece)
  if firstPiece < src.length then copyAt storage 0 (src.drop firstPiece) else storage

/-- Read `count` cells from absolute position `from_`, in two pieces if the read wraps. -/
def ringRead (storage : List α) (from_ count : Nat) : List α :=
  let readPos := from_ % storage.length
  let firstPiece := min count (storage.length - readPos)
  let piece := (storage.drop readPos).take firstPiece
  if firstPiece < count then piece ++ storage.take (count - firstPiece) else piece

/-- Writing into the ring keeps its length. -/
lemma length_ringWrite {storage src : List α} {at_ : Nat} (nonempty : 0 < storage.length)
    (fits : src.length ≤ storage.length) : (ringWrite storage at_ src).length = storage.length := by
  have hpos := Nat.mod_lt at_ nonempty
  have hcopy : (copyAt storage (at_ % storage.length)
      (src.take (min src.length (storage.length - at_ % storage.length)))).length
        = storage.length := by
    apply length_copyAt
    rw [List.length_take]
    omega
  simp only [ringWrite]
  split
  · rw [length_copyAt (by rw [hcopy, List.length_drop]; omega), hcopy]
  · exact hcopy

/-- Where an absolute position falls, relative to another one at most a lap behind it. -/
lemma add_mod_of_lt_lap {at_ j cap : Nat} (hj : j < cap) :
    (at_ + j) % cap =
      if j < cap - at_ % cap then at_ % cap + j else j - (cap - at_ % cap) := by
  have hpos : at_ % cap < cap := Nat.mod_lt at_ (by omega)
  rw [Nat.add_mod, Nat.mod_eq_of_lt hj]
  split
  · exact Nat.mod_eq_of_lt (by omega)
  · rw [Nat.mod_eq_sub_mod (by omega), Nat.mod_eq_of_lt (by omega)]
    omega

/-- The cells a write touches hold what was written. -/
lemma getElem?_ringWrite_at {storage src : List α} {at_ j : Nat}
    (fits : src.length ≤ storage.length) (hj : j < src.length) :
    (ringWrite storage at_ src)[(at_ + j) % storage.length]? = src[j]? := by
  have hcap : j < storage.length := by omega
  have hpos : at_ % storage.length < storage.length := Nat.mod_lt at_ (by omega)
  rw [add_mod_of_lt_lap hcap]
  simp only [ringWrite]
  set pos := at_ % storage.length
  set first := min src.length (storage.length - pos)
  have hlen : (src.take first).length = first := by rw [List.length_take]; omega
  have hcopy : (copyAt storage pos (src.take first)).length = storage.length :=
    length_copyAt (by omega)
  by_cases inFirst : j < storage.length - pos
  · rw [if_pos inFirst]
    have hcell : (copyAt storage pos (src.take first))[pos + j]? = src[j]? := by
      rw [getElem?_copyAt (by omega), if_pos (by omega), List.getElem?_take_of_lt (by omega)]
      congr 1
      omega
    split
    · rw [getElem?_copyAt (by rw [hcopy, List.length_drop]; omega),
        if_neg (by rw [List.length_drop]; omega), hcell]
    · exact hcell
  · rw [if_neg inFirst, if_pos (by omega),
      getElem?_copyAt (by rw [hcopy, List.length_drop]; omega),
      if_pos (by rw [List.length_drop]; omega), List.getElem?_drop]
    congr 1
    omega

/-- The cells a write does not touch are as they were. -/
lemma getElem?_ringWrite_off {storage src : List α} {at_ j : Nat}
    (hj : src.length ≤ j) (lap : j < storage.length) :
    (ringWrite storage at_ src)[(at_ + j) % storage.length]? =
      storage[(at_ + j) % storage.length]? := by
  have hpos : at_ % storage.length < storage.length := Nat.mod_lt at_ (by omega)
  rw [add_mod_of_lt_lap lap]
  simp only [ringWrite]
  set pos := at_ % storage.length
  set first := min src.length (storage.length - pos)
  have hlen : (src.take first).length = first := by rw [List.length_take]; omega
  have hcopy : (copyAt storage pos (src.take first)).length = storage.length :=
    length_copyAt (by omega)
  have hcell : ∀ i, ¬(pos ≤ i ∧ i < pos + first) →
      (copyAt storage pos (src.take first))[i]? = storage[i]? := by
    intro i hi
    rw [getElem?_copyAt (by omega), if_neg (by omega)]
  by_cases inFirst : j < storage.length - pos
  · rw [if_pos inFirst, if_neg (by omega)]
    exact hcell _ (by omega)
  · rw [if_neg inFirst]
    split
    · rw [getElem?_copyAt (by rw [hcopy, List.length_drop]; omega),
        if_neg (by rw [List.length_drop]; omega)]
      exact hcell _ (by omega)
    · exact hcell _ (by omega)

/-- Reading takes as many as were asked for. -/
lemma length_ringRead {storage : List α} {from_ count : Nat} (nonempty : 0 < storage.length)
    (fits : count ≤ storage.length) : (ringRead storage from_ count).length = count := by
  have hpos := Nat.mod_lt from_ nonempty
  simp only [ringRead]
  split
  · simp only [List.length_append, List.length_take, List.length_drop]
    omega
  · simp only [List.length_take, List.length_drop]
    omega

/-- A read, cell by cell. -/
lemma getElem?_ringRead {storage : List α} {from_ count j : Nat}
    (fits : count ≤ storage.length) (hj : j < count) :
    (ringRead storage from_ count)[j]? = storage[(from_ + j) % storage.length]? := by
  have hpos : from_ % storage.length < storage.length := Nat.mod_lt from_ (by omega)
  rw [add_mod_of_lt_lap (by omega : j < storage.length)]
  simp only [ringRead]
  set pos := from_ % storage.length
  set first := min count (storage.length - pos)
  have hpiece : ((storage.drop pos).take first).length = first := by
    rw [List.length_take, List.length_drop]
    omega
  by_cases inFirst : j < storage.length - pos
  · rw [if_pos inFirst]
    have hcell : ((storage.drop pos).take first)[j]? = storage[pos + j]? := by
      rw [List.getElem?_take_of_lt (by omega), List.getElem?_drop]
    split
    · rw [List.getElem?_append_left (by omega), hcell]
    · exact hcell
  · rw [if_neg inFirst, if_pos (by omega), List.getElem?_append_right (by omega), hpiece,
      List.getElem?_take_of_lt (by omega)]
    congr 1
    omega

/-- What is read, told by its cells. -/
lemma ringRead_eq {storage l : List α} {from_ count : Nat} (fits : count ≤ storage.length)
    (length : l.length = count)
    (cells : ∀ j, j < count → l[j]? = storage[(from_ + j) % storage.length]?) :
    ringRead storage from_ count = l := by
  refine List.ext_getElem? fun j => ?_
  rcases Nat.lt_or_ge j count with hj | hj
  · rw [getElem?_ringRead fits hj, cells j hj]
  · rw [List.getElem?_eq_none (by omega : l.length ≤ j), List.getElem?_eq_none]
    rcases Nat.eq_zero_or_pos storage.length with empty | nonempty
    · have hzero : count = 0 := by omega
      subst hzero
      simp [ringRead]
    · rw [length_ringRead nonempty fits]
      exact hj

/-- What stands at the front of the storage is read from there. -/
lemma ringRead_front (l m : List α) : ringRead (l ++ m) 0 l.length = l := by
  refine ringRead_eq (by rw [List.length_append]; omega) rfl fun j hj => ?_
  rw [Nat.zero_add, Nat.mod_eq_of_lt (by rw [List.length_append]; omega),
    List.getElem?_append_left hj]

/-- Two cells of a lap are one only if they are the same turn. -/
lemma add_mod_inj_of_lt {from_ i j cap : Nat} (hi : i < cap) (hj : j < cap)
    (h : (from_ + i) % cap = (from_ + j) % cap) : i = j := by
  have hpos : from_ % cap < cap := Nat.mod_lt from_ (by omega)
  rw [add_mod_of_lt_lap hi, add_mod_of_lt_lap hj] at h
  split at h <;> split at h <;> omega

/-- An item added while there is room comes last. -/
lemma ringRead_push {slots : List α} (start : Nat) {size : Nat} (room : size < slots.length) (x : α) :
    ringRead (slots.set ((start + size) % slots.length) x) start (size + 1) =
      ringRead slots start size ++ [x] := by
  have nonempty : 0 < slots.length := by omega
  have hlength : (ringRead slots start size).length = size :=
    length_ringRead nonempty (Nat.le_of_lt room)
  refine ringRead_eq (by rw [List.length_set]; exact room) (by simp [hlength]) fun j hj => ?_
  rw [List.length_set]
  rcases Nat.lt_or_ge j size with old | new
  · rw [List.getElem?_append_left (by omega), getElem?_ringRead (Nat.le_of_lt room) old,
      List.getElem?_set_ne]
    intro heq
    have := add_mod_inj_of_lt room (by omega) heq
    omega
  · obtain rfl : j = size := by omega
    rw [List.getElem?_append_right (by omega), hlength, Nat.sub_self,
      List.getElem?_set_self (Nat.mod_lt _ nonempty)]
    rfl

/-- An item added to a full ring takes the place of the oldest. -/
lemma ringRead_push_full {slots : List α} (start : Nat) (nonempty : 0 < slots.length) (x : α) :
    ringRead (slots.set ((start + slots.length) % slots.length) x) ((start + 1) % slots.length)
        slots.length =
      (ringRead slots start slots.length).tail ++ [x] := by
  have hlength : (ringRead slots start slots.length).length = slots.length :=
    length_ringRead nonempty (Nat.le_refl _)
  refine ringRead_eq (Nat.le_of_eq List.length_set.symm) ?_ fun j hj => ?_
  · rw [List.length_append, List.length_tail, hlength, List.length_singleton]
    omega
  · rw [List.length_set, Nat.mod_add_mod, Nat.add_mod_right]
    rcases Nat.lt_or_ge (j + 1) slots.length with old | new
    · rw [List.getElem?_append_left (by rw [List.length_tail]; omega), List.getElem?_tail,
        getElem?_ringRead (Nat.le_refl _) old, List.getElem?_set_ne, Nat.add_right_comm, Nat.add_assoc]
      intro heq
      have hzero : (start + 0) % slots.length = (start + (j + 1)) % slots.length := by
        rw [Nat.add_zero, heq, Nat.add_right_comm, Nat.add_assoc]
      have := add_mod_inj_of_lt nonempty old hzero
      omega
    · have hlast : start + 1 + j = start + slots.length := by omega
      rw [List.getElem?_append_right (by rw [List.length_tail]; omega), List.length_tail, hlength,
        hlast, Nat.add_mod_right, List.getElem?_set_self (Nat.mod_lt _ nonempty)]
      have : j - (slots.length - 1) = 0 := by omega
      rw [this]
      rfl

/-- The cells of the first `count` turns changed in place. -/
def modifyTurns (f : α → α) (start cap count : Nat) (slots : List α) : List α :=
  (List.range count).foldl (fun slots i => slots.modify ((start + i) % cap) f) slots

/-- One turn more. -/
lemma modifyTurns_succ (f : α → α) (start cap count : Nat) (slots : List α) :
    modifyTurns f start cap (count + 1) slots =
      (modifyTurns f start cap count slots).modify ((start + count) % cap) f := by
  rw [modifyTurns, List.range_succ, List.foldl_append]
  rfl

/-- Turns keep the length. -/
@[simp] lemma length_modifyTurns (f : α → α) (start cap count : Nat) (slots : List α) :
    (modifyTurns f start cap count slots).length = slots.length := by
  induction count with
  | zero => rfl
  | succ count ih => rw [modifyTurns_succ, List.length_modify, ih]

/-- A slot is touched exactly if its turn came. -/
lemma getElem?_modifyTurns {slots : List α} {start count j : Nat} (f : α → α)
    (fits : count ≤ slots.length) (hj : j < slots.length) :
    (modifyTurns f start slots.length count slots)[(start + j) % slots.length]? =
      if j < count then slots[(start + j) % slots.length]?.map f
      else slots[(start + j) % slots.length]? := by
  induction count with
  | zero => rw [if_neg (Nat.not_lt_zero j)]; rfl
  | succ count ih =>
    rw [modifyTurns_succ]
    by_cases here : j = count
    · subst here
      rw [List.getElem?_modify_eq, if_pos (Nat.lt_succ_self j), ih (by omega),
        if_neg (Nat.lt_irrefl j)]
      rfl
    · have hne : (start + count) % slots.length ≠ (start + j) % slots.length :=
        fun heq => here (add_mod_inj_of_lt hj (by omega) heq.symm)
      rw [List.getElem?_modify_ne _ _ hne, ih (by omega)]
      refine if_congr ?_ rfl rfl
      omega

/-- Every item changed in place. -/
lemma ringRead_modify {slots : List α} (start : Nat) {size : Nat} (f : α → α)
    (fits : size ≤ slots.length) :
    ringRead (modifyTurns f start slots.length size slots) start size =
      (ringRead slots start size).map f := by
  rcases Nat.eq_zero_or_pos slots.length with empty | nonempty
  · obtain rfl : size = 0 := by omega
    simp [ringRead]
  refine ringRead_eq (by rw [length_modifyTurns]; exact fits) ?_ fun j hj => ?_
  · rw [List.length_map, length_ringRead nonempty fits]
  · rw [length_modifyTurns, getElem?_modifyTurns f fits (by omega), if_pos hj, List.getElem?_map,
      getElem?_ringRead fits hj]

end Zet.Lib
