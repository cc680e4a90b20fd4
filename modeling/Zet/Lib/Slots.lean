import Zet.Lib.Ring

/-!
# A table of slots

A fixed array whose entries are live or free: `findSlot` is the first entry with a property, as
`std::ranges::find_if` finds it, and an entry is put in by replacing a free one in place. `Distinct`
says that no two live entries have the same key. The lemmas say what replacing one entry, or mapping
over all of them, does to `Distinct` and to a count.

`window` is the piece of a flat storage that belongs to one slot when each has `size` cells of it;
a copy into one window leaves the others as they were.
-/

namespace Zet.Lib

universe u v

variable {α : Type u} {κ : Type v}

/-- The first entry with the property, and where it is. -/
def findSlot (p : α → Bool) : List α → Option (Nat × α)
  | [] => none
  | a :: l => if p a then some (0, a) else (findSlot p l).map fun found => (found.1 + 1, found.2)

/-- A slot that was found satisfies the search. -/
lemma findSlot_eq_some {p : α → Bool} {l : List α} {i : Nat} {x : α}
    (h : findSlot p l = some (i, x)) : l[i]? = some x ∧ p x = true := by
  induction l generalizing i with
  | nil => cases h
  | cons a l ih =>
    unfold findSlot at h
    split at h
    next hp =>
      cases h
      exact ⟨rfl, hp⟩
    · obtain ⟨⟨j, y⟩, hfound, heq⟩ := Option.map_eq_some_iff.mp h
      cases heq
      exact ih hfound

/-- Where none was found none satisfies it. -/
lemma findSlot_eq_none {p : α → Bool} {l : List α} (h : findSlot p l = none) {x : α}
    (hx : x ∈ l) : p x = false := by
  induction l with
  | nil => cases hx
  | cons a l ih =>
    unfold findSlot at h
    split at h
    · cases h
    next hp =>
      rcases List.mem_cons.mp hx with rfl | hx
      · exact Bool.eq_false_iff.mpr hp
      · exact ih (Option.map_eq_none_iff.mp h) hx

section
variable (live : α → Bool) (key : α → κ)

/-- No two live entries have the same key. -/
def Distinct (l : List α) : Prop :=
  ∀ (i j : Nat) (x y : α), l[i]? = some x → l[j]? = some y → live x = true → live y = true →
    key x = key y → i = j

variable {live key} {l : List α}

/-- An entry replaced by one whose key no other live entry has. -/
lemma Distinct.set (h : Distinct live key l) {i : Nat} {a : α}
    (new : live a = true → ∀ (j : Nat) y, l[j]? = some y → live y = true → key y = key a → j = i) :
    Distinct live key (l.set i a) := by
  intro j k x y hx hy hlx hly hkey
  rw [List.getElem?_set] at hx hy
  split at hx
  next hij =>
    split at hx
    · cases hx
      split at hy
      next hik => exact hij.symm.trans hik
      next hik => exact hij.symm.trans (new hlx k y hy hly hkey.symm).symm
    · cases hx
  next hij =>
    split at hy
    next hik =>
      split at hy
      · cases hy
        exact (new hly j x hx hlx hkey).trans hik
      · cases hy
    · exact h j k x y hx hy hlx hly hkey

/-- Entries changed one by one, none of them brought to life or given another key. -/
lemma Distinct.map (h : Distinct live key l) {f : α → α}
    (keeps : ∀ x, live (f x) = true → live x = true ∧ key (f x) = key x) :
    Distinct live key (l.map f) := by
  intro i j x y hx hy hlx hly hkey
  rw [List.getElem?_map] at hx hy
  obtain ⟨x', hx', rfl⟩ := Option.map_eq_some_iff.mp hx
  obtain ⟨y', hy', rfl⟩ := Option.map_eq_some_iff.mp hy
  obtain ⟨hlx', hkx⟩ := keeps x' hlx
  obtain ⟨hly', hky⟩ := keeps y' hly
  exact h i j x' y' hx' hy' hlx' hly' (hkx.symm.trans (hkey.trans hky))

/-- Of the live entries with a key there is at most one, wherever it is. -/
lemma Distinct.eq_of_mem (h : Distinct live key l) {x y : α} (hx : x ∈ l) (hy : y ∈ l)
    (hlx : live x = true) (hly : live y = true) (hkey : key x = key y) : x = y := by
  obtain ⟨i, hi⟩ := List.mem_iff_getElem?.mp hx
  obtain ⟨j, hj⟩ := List.mem_iff_getElem?.mp hy
  have hij := h i j x y hi hj hlx hly hkey
  rw [hij, hj] at hi
  exact (Option.some.inj hi).symm

/-- Counted by key, no live entry is there twice. -/
lemma Distinct.countP_le_one [BEq κ] [LawfulBEq κ] (h : Distinct live key l) (k : κ) :
    l.countP (fun x => live x && key x == k) ≤ 1 := by
  induction l with
  | nil => exact Nat.zero_le 1
  | cons a l ih =>
    have htail : Distinct live key l := fun i j x y hx hy hlx hly hkey =>
      Nat.succ.inj (h (i + 1) (j + 1) x y hx hy hlx hly hkey)
    rw [List.countP_cons]
    split
    next ha =>
      rw [Bool.and_eq_true, beq_iff_eq] at ha
      have hnone : l.countP (fun x => live x && key x == k) = 0 := by
        rw [List.countP_eq_zero]
        intro y hy hcounted
        rw [Bool.and_eq_true, beq_iff_eq] at hcounted
        obtain ⟨j, hj⟩ := List.mem_iff_getElem?.mp hy
        cases h 0 (j + 1) a y rfl hj ha.1 hcounted.1 (ha.2.trans hcounted.2.symm)
      omega
    · exact ih htail

end

/-- What is not replaced stays. -/
lemma mem_set_of_ne {l : List α} {i : Nat} {x y a : α} (h : l[i]? = some x) (hy : y ∈ l)
    (hne : y ≠ x) : y ∈ l.set i a := by
  obtain ⟨j, hj⟩ := List.mem_iff_getElem?.mp hy
  have hij : i ≠ j := by
    rintro rfl
    rw [h] at hj
    exact hne (Option.some.inj hj).symm
  rw [← List.getElem?_set_ne hij] at hj
  exact List.mem_of_getElem? hj

/-- A count after one entry is replaced by another. -/
lemma countP_set_add {p : α → Bool} {l : List α} {i : Nat} {x a : α} (h : l[i]? = some x) :
    (l.set i a).countP p + (p x).toNat = l.countP p + (p a).toNat := by
  induction l generalizing i with
  | nil => cases h
  | cons b l ih =>
    cases i with
    | zero =>
      cases h
      simp only [List.set_cons_zero, List.countP_cons]
      cases p x <;> cases p a <;> simp
    | succ i =>
      simp only [List.set_cons_succ, List.countP_cons]
      have := ih (i := i) h
      omega

/-- The cells of one slot in a flat storage. -/
def window (storage : List α) (size slot : Nat) : List α := (storage.drop (slot * size)).take size

/-- An entry of a window is one of the storage. -/
lemma getElem?_window {storage : List α} {size slot i : Nat} (hi : i < size) :
    (window storage size slot)[i]? = storage[slot * size + i]? := by
  rw [window, List.getElem?_take_of_lt hi, List.getElem?_drop]

/-- A window inside the storage has its full size. -/
lemma length_window {storage : List α} {size slot slots : Nat} (hslot : slot < slots)
    (fits : slots * size ≤ storage.length) : (window storage size slot).length = size := by
  have hnext : (slot + 1) * size ≤ slots * size := Nat.mul_le_mul_right size hslot
  rw [Nat.add_mul, Nat.one_mul] at hnext
  rw [window, List.length_take, List.length_drop]
  omega

/-- What a slot's window begins with after a copy behind what it began with before. -/
lemma take_window_copyAt {storage src : List α} {size slot slots used : Nat} (hslot : slot < slots)
    (fits : slots * size ≤ storage.length) (room : used + src.length ≤ size) :
    (window (copyAt storage (slot * size + used) src) size slot).take (used + src.length) =
      (window storage size slot).take used ++ src := by
  have hnext : (slot + 1) * size ≤ slots * size := Nat.mul_le_mul_right size hslot
  rw [Nat.add_mul, Nat.one_mul] at hnext
  have hcopy : slot * size + used + src.length ≤ storage.length := by omega
  have hused : ((window storage size slot).take used).length = used := by
    rw [List.length_take, length_window hslot fits]
    omega
  apply List.ext_getElem?
  intro i
  by_cases hi : i < used + src.length
  · rw [List.getElem?_take_of_lt hi, getElem?_window (by omega), getElem?_copyAt hcopy]
    by_cases hold : i < used
    · rw [if_neg (by omega), List.getElem?_append_left (by omega), List.getElem?_take_of_lt hold,
        getElem?_window (by omega)]
    · rw [if_pos (by omega), List.getElem?_append_right (by omega), hused]
      congr 1
      omega
  · rw [List.getElem?_eq_none (by rw [List.length_take]; omega),
      List.getElem?_eq_none (by rw [List.length_append]; omega)]

/-- A copy into one slot's window does not touch another's. -/
lemma window_copyAt_of_ne {storage src : List α} {size slot other used : Nat} (hne : other ≠ slot)
    (room : used + src.length ≤ size) (inside : slot * size + used + src.length ≤ storage.length) :
    window (copyAt storage (slot * size + used) src) size other = window storage size other := by
  apply List.ext_getElem?
  intro i
  by_cases hi : i < size
  · rw [getElem?_window hi, getElem?_window hi, getElem?_copyAt inside, if_neg]
    rintro ⟨hlow, hhigh⟩
    rcases Nat.lt_or_gt_of_ne hne with hlt | hgt
    · have := Nat.mul_le_mul_right size hlt
      rw [Nat.succ_mul] at this
      omega
    · have := Nat.mul_le_mul_right size hgt
      rw [Nat.succ_mul] at this
      omega
  · rw [window, window, List.getElem?_eq_none (by rw [List.length_take]; omega),
      List.getElem?_eq_none (by rw [List.length_take]; omega)]

end Zet.Lib
