import Mathlib.Tactic.Common

/-!
# Parcels on a stream

A parcel is a run of cells with something riding on its first cell, as a descriptor rides on the first
byte of a message on a local socket. Parcels are laid one behind another on a stream (`lay`), which
keeps their order and may be cut anywhere: a sender puts on as many cells as there is room for
(`ride_split`), and a receiver takes off as many as it likes.

What a receiver has taken off and not put together yet is the front of what is laid, and `lay_front`
says what that can be: less than the first parcel, with its rider if there is any cell of it, or the
whole of it and the front of the rest.
-/

namespace Zet.Lib

universe u v

variable {α : Type u} {δ : Type v}

/-- Cells, the first of them with its rider. -/
def ride : List α → Option δ → List (α × Option δ)
  | [], _ => []
  | a :: as, rider => (a, rider) :: as.map fun a => (a, none)

/-- The cells of a stretch of stream. -/
def cells (s : List (α × Option δ)) : List α := s.map Prod.fst

/-- What rides on a stretch of stream, in order. -/
def riders (s : List (α × Option δ)) : List δ := s.filterMap Prod.snd

/-- A run of cells, and what rides on the first of them. -/
structure Parcel (α : Type u) (δ : Type v) where
  cells : List α
  rider : Option δ

/-- A parcel on the stream. -/
def Parcel.laid (p : Parcel α δ) : List (α × Option δ) := ride p.cells p.rider

/-- Parcels one behind another. -/
def lay (ps : List (Parcel α δ)) : List (α × Option δ) := ps.flatMap Parcel.laid

variable {as : List α} {rider : Option δ} {p : Parcel α δ} {ps : List (Parcel α δ)}
  {s t part more : List (α × Option δ)}

/-- The empty stream has no cells. -/
@[simp] lemma cells_nil : cells ([] : List (α × Option δ)) = [] := rfl

/-- The empty stream has no riders. -/
@[simp] lemma riders_nil : riders ([] : List (α × Option δ)) = [] := rfl

/-- The cells of two stretches, one after the other. -/
@[simp] lemma cells_append : cells (s ++ t) = cells s ++ cells t := List.map_append

/-- The riders of two stretches, one after the other. -/
@[simp] lemma riders_append : riders (s ++ t) = riders s ++ riders t := List.filterMap_append

/-- Every place has one cell. -/
@[simp] lemma length_cells : (cells s).length = s.length := List.length_map _

/-- No parcels lay nothing. -/
@[simp] lemma lay_nil : lay ([] : List (Parcel α δ)) = [] := rfl

/-- One parcel in front of others. -/
@[simp] lemma lay_cons : lay (p :: ps) = p.laid ++ lay ps := List.flatMap_cons

/-- The parcels of two lists, one after the other. -/
@[simp] lemma lay_append (qs : List (Parcel α δ)) : lay (ps ++ qs) = lay ps ++ lay qs :=
  List.flatMap_append

/-- A rider needs a cell to ride on. -/
@[simp] lemma ride_nil : ride ([] : List α) rider = [] := rfl

/-- A rider changes no cell. -/
@[simp] lemma cells_ride : cells (ride as rider) = as := by
  cases as with
  | nil => rfl
  | cons a as => simp [ride, cells, Function.comp_def]

/-- A rider takes no place. -/
@[simp] lemma length_ride : (ride as rider).length = as.length := by
  rw [← length_cells, cells_ride]

/-- Where nothing rides there are no riders. -/
lemma riders_none : riders (as.map fun a => (a, (none : Option δ))) = [] := by
  induction as with
  | nil => rfl
  | cons a as ih => exact ih

/-- A rider on some cell is the only one. -/
lemma riders_ride {r : Option δ} (some_cell : as ≠ []) : riders (ride as r) = r.toList := by
  cases as with
  | nil => exact absurd rfl some_cell
  | cons a as =>
    have htail := @riders_none α δ as
    cases r with
    | none => exact htail
    | some d => exact congrArg (d :: ·) htail

/-- Cells without a rider. -/
lemma ride_none : ride as (none : Option δ) = as.map fun a => (a, none) := by
  cases as <;> rfl

/-- The first cells take the rider along. -/
lemma ride_split (n : Nat) (pos : 0 < n) :
    ride as rider = ride (as.take n) rider ++ ride (as.drop n) none := by
  obtain ⟨n, rfl⟩ := Nat.exists_eq_add_of_le' pos
  cases as with
  | nil => rfl
  | cons a as =>
    rw [ride_none, List.take_succ_cons, List.drop_succ_cons, ride, ride, List.cons_append,
      ← List.map_append, List.take_append_drop]

/-- Some of the cells of a parcel, and not none, have its rider. -/
lemma riders_front (h : part <+: p.laid) (some_cell : part ≠ []) : riders part = p.rider.toList := by
  obtain ⟨more, h⟩ := h
  have hlength : 0 < part.length := List.length_pos_iff.mpr some_cell
  have hshort : part.length ≤ p.cells.length := by
    have := congrArg List.length h
    rw [Parcel.laid, length_ride, List.length_append] at this
    omega
  have hpart : part = ride (p.cells.take part.length) p.rider := by
    have htake := congrArg (List.take part.length) h
    rw [List.take_left, Parcel.laid, ride_split part.length hlength,
      List.take_left' (by simp [hshort])] at htake
    exact htake
  rw [hpart, riders_ride]
  intro hnil
  have := congrArg List.length hnil
  rw [List.length_take, Nat.min_eq_left hshort, List.length_nil] at this
  omega

/-- The front of what is laid is less than the first parcel, or all of it and the front of the rest. -/
lemma lay_front (h : lay (p :: ps) = part ++ more) :
    (part.length < p.cells.length ∧ part <+: p.laid) ∨
      ∃ part', part = p.laid ++ part' ∧ lay ps = part' ++ more := by
  rw [lay_cons] at h
  have hsize : p.laid.length = p.cells.length := length_ride
  rcases List.append_eq_append_iff.mp h with ⟨mid, hpart, hrest⟩ | ⟨mid, hlaid, hmore⟩
  · exact .inr ⟨mid, hpart, hrest⟩
  · cases mid with
    | nil =>
      refine .inr ⟨[], ?_, ?_⟩
      · rw [hlaid, List.append_nil, List.append_nil]
      · rw [hmore, List.nil_append, List.nil_append]
    | cons m mid =>
      refine .inl ⟨?_, hlaid ▸ List.prefix_append _ _⟩
      rw [← hsize, hlaid, List.length_append, List.length_cons]
      omega

/-- What rides on the front of what is laid, if that is less than the first parcel. -/
lemma riders_of_short (h : lay ps = part ++ more)
    (short : ∀ p ∈ ps.head?, part.length < p.cells.length) : (riders part).length ≤ 1 := by
  cases ps with
  | nil =>
    have hnil : part = [] := (List.append_eq_nil_iff.mp h.symm).1
    rw [hnil]
    exact Nat.zero_le 1
  | cons p ps =>
    rcases lay_front h with ⟨-, hfront⟩ | ⟨part', rfl, -⟩
    · by_cases hnil : part = []
      · rw [hnil]
        exact Nat.zero_le 1
      · rw [riders_front hfront hnil]
        cases p.rider <;> simp
    · have := short p rfl
      rw [List.length_append, Parcel.laid, length_ride] at this
      omega

end Zet.Lib
