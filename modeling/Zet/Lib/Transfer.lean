import Mathlib.Data.List.Induction
import Mathlib.Order.Nat
import Zet.Lib.Run

/-!
# A transfer in pieces

A sender announces an object by a header, which names its size and its rank, sends its items in chunks
that say where they start, and closes it. `Intake.take` is a receiver that accepts a piece only where
it belongs: no object inside another, no gap, no overlap, nothing empty, nothing beyond the announced
size, and only objects of a higher rank than the last one.

A run of the receiver is a `Run` of `Intake.take`. What it has taken of an object is what the chunks
since the header carry, and they tile the object from its start (`Run.coming`); objects come out whole
and in the order of their ranks (`Intake.Ranked`).
-/

namespace Zet.Lib

universe u v

variable {H : Type u} {α : Type v}

/-- A piece of a transfer. -/
inductive Piece (H : Type u) (α : Type v) where
  | begins (header : H)
  | chunk (offset : Nat) (items : List α)
  | ends
deriving DecidableEq

/-- A receiver: the object that is coming in, the highest rank so far, and the objects that came in
whole. -/
structure Intake (H : Type u) (α : Type v) where
  coming : Option (H × List α)
  newest : Nat
  shown : List (H × List α)

section
variable (size rank : H → Nat) (fits : H → Prop) [DecidablePred fits]

/-- A piece is taken where it belongs, or refused. -/
def Intake.take (r : Intake H α) : Piece H α → Option (Intake H α)
  | .begins header =>
    if r.coming.isNone ∧ fits header ∧ r.newest < rank header then
      some { r with coming := some (header, []) }
    else none
  | .chunk offset items =>
    match r.coming with
    | none => none
    | some (header, held) =>
      if ¬items.isEmpty ∧ offset = held.length ∧ held.length + items.length ≤ size header then
        some { r with coming := some (header, held ++ items) }
      else none
  | .ends =>
    match r.coming with
    | none => none
    | some (header, held) =>
      if held.length = size header then some ⟨none, rank header, r.shown ++ [(header, held)]⟩ else none

end

/-- The items of a list of pieces. -/
def itemsOf : List (Piece H α) → List α
  | [] => []
  | .chunk _ items :: rest => items ++ itemsOf rest
  | _ :: rest => itemsOf rest

/-- The pieces are chunks, none of them empty, each of which starts where the one before it ends: from
`low` to `high`. -/
def Tiles (low : Nat) : List (Piece H α) → Nat → Prop
  | [], high => low = high
  | .chunk offset items :: rest, high => offset = low ∧ items ≠ [] ∧ Tiles (low + items.length) rest high
  | _ :: _, _ => False

/-- One chunk more at the end. -/
lemma Tiles.snoc {pieces : List (Piece H α)} {low high : Nat} (h : Tiles low pieces high)
    {items : List α} (some : items ≠ []) :
    Tiles low (pieces ++ [.chunk high items]) (high + items.length) := by
  induction pieces generalizing low with
  | nil =>
    obtain rfl : low = high := h
    exact ⟨rfl, some, rfl⟩
  | cons piece rest ih =>
    cases piece with
    | chunk offset items' => exact ⟨h.1, h.2.1, ih h.2.2⟩
    | begins => exact h.elim
    | ends => exact h.elim

/-- The items of one chunk more. -/
lemma itemsOf_snoc (pieces : List (Piece H α)) (offset : Nat) (items : List α) :
    itemsOf (pieces ++ [.chunk offset items]) = itemsOf pieces ++ items := by
  induction pieces with
  | nil => simp [itemsOf]
  | cons piece rest ih => cases piece <;> simp [itemsOf, ih]

variable {size rank : H → Nat} {fits : H → Prop} [DecidablePred fits]

/-- Everything a piece can do. -/
lemma Intake.take_cases {r r' : Intake H α} {piece : Piece H α}
    (h : r.take size rank fits piece = some r') :
    (∃ header, piece = .begins header ∧ r.coming = none ∧ fits header ∧ r.newest < rank header ∧
      r' = { r with coming := some (header, []) }) ∨
    (∃ header held items, piece = .chunk held.length items ∧ r.coming = some (header, held) ∧
      items ≠ [] ∧ held.length + items.length ≤ size header ∧
      r' = { r with coming := some (header, held ++ items) }) ∨
    (∃ header held, piece = .ends ∧ r.coming = some (header, held) ∧ held.length = size header ∧
      r' = ⟨none, rank header, r.shown ++ [(header, held)]⟩) := by
  cases piece with
  | begins header =>
    simp only [Intake.take, Option.isNone_iff_eq_none] at h
    split at h
    · next ok =>
      cases h
      exact .inl ⟨header, rfl, ok.1, ok.2.1, ok.2.2, rfl⟩
    · cases h
  | chunk offset items =>
    simp only [Intake.take] at h
    split at h
    · cases h
    next header held hcoming =>
    split at h
    · next ok =>
      cases h
      obtain ⟨hsome, rfl, hroom⟩ := ok
      rw [List.isEmpty_iff] at hsome
      exact .inr (.inl ⟨header, held, items, rfl, hcoming, hsome, hroom, rfl⟩)
    · cases h
  | ends =>
    simp only [Intake.take] at h
    split at h
    · cases h
    next header held hcoming =>
    split at h
    · next whole =>
      cases h
      exact .inr (.inr ⟨header, held, rfl, hcoming, whole, rfl⟩)
    · cases h

/-- What is coming in fits, has a rank of its own, and is what the chunks since its header carry. -/
theorem Run.coming {r r' : Intake H α} {pieces : List (Piece H α)}
    (run : Run (Intake.take size rank fits) Anywhere r pieces r') (idle : r.coming = none)
    {header : H} {held : List α} (coming : r'.coming = some (header, held)) :
    (fits header ∧ r'.newest < rank header) ∧ ∃ before since,
      pieces = before ++ .begins header :: since ∧ Tiles 0 since held.length ∧ itemsOf since = held := by
  induction pieces using List.reverseRecOn generalizing r' held with
  | nil =>
    cases run
    rw [idle] at coming
    cases coming
  | append_singleton pieces piece ih =>
    obtain ⟨mid, hrun, -, hstep⟩ := run.snoc
    rcases Intake.take_cases hstep with ⟨header', rfl, -, hfits, hnewer, rfl⟩ |
        ⟨header', held', items, rfl, hcoming, hsome, -, rfl⟩ | ⟨header', held', rfl, -, -, rfl⟩
    · cases coming
      exact ⟨⟨hfits, hnewer⟩, pieces, [], rfl, rfl, rfl⟩
    · cases coming
      obtain ⟨hrank, before, since, rfl, htiles, hitems⟩ := ih hrun hcoming
      refine ⟨hrank, before, since ++ [.chunk held'.length items], by simp, ?_, ?_⟩
      · rw [List.length_append]
        exact htiles.snoc hsome
      · rw [itemsOf_snoc, hitems]
    · cases coming

/-- The objects that came in are above `floor` and in the order of their ranks, the last one the
newest. -/
structure Intake.Ranked (rank : H → Nat) (floor : Nat) (r : Intake H α) : Prop where
  low : floor ≤ r.newest
  within : ∀ x ∈ r.shown, floor < rank x.1 ∧ rank x.1 ≤ r.newest
  sorted : r.shown.Pairwise fun x y => rank x.1 < rank y.1
  coming : ∀ header held, r.coming = some (header, held) → r.newest < rank header

/-- A piece that is taken keeps the ranks in order. -/
lemma Intake.Ranked.take {floor : Nat} {r r' : Intake H α} {piece : Piece H α}
    (h : r.Ranked rank floor) (hstep : r.take size rank fits piece = some r') :
    r'.Ranked rank floor := by
  rcases Intake.take_cases hstep with ⟨header, rfl, -, -, hnewer, rfl⟩ |
      ⟨header, held, items, rfl, hcoming, -, -, rfl⟩ | ⟨header, held, rfl, hcoming, -, rfl⟩
  · refine ⟨h.low, h.within, h.sorted, ?_⟩
    rintro _ _ ⟨⟩
    exact hnewer
  · refine ⟨h.low, h.within, h.sorted, ?_⟩
    rintro _ _ ⟨⟩
    exact h.coming header held hcoming
  · have hnewer := h.coming header held hcoming
    have hlow := h.low
    refine ⟨hlow.trans hnewer.le, fun x hx => ?_, ?_, ?_⟩
    · rcases List.mem_append.mp hx with hx | hx
      · exact ⟨(h.within x hx).1, (h.within x hx).2.trans hnewer.le⟩
      · rw [List.mem_singleton.mp hx]
        exact ⟨hlow.trans_lt hnewer, le_rfl⟩
    · refine List.pairwise_append.mpr ⟨h.sorted, List.pairwise_singleton _ _, fun x hx y hy => ?_⟩
      rw [List.mem_singleton.mp hy]
      exact (h.within x hx).2.trans_lt hnewer
    · rintro _ _ ⟨⟩

/-- A run only adds to what came in. -/
lemma Run.shown {r r' : Intake H α} {pieces : List (Piece H α)}
    (run : Run (Intake.take size rank fits) Anywhere r pieces r') : r.shown <+: r'.shown := by
  refine run.inv (fun r' => r.shown <+: r'.shown) ?_ List.prefix_rfl
  intro s piece t hprefix _ hstep
  rcases Intake.take_cases hstep with ⟨_, _, _, _, _, rfl⟩ | ⟨_, _, _, _, _, _, _, rfl⟩ |
      ⟨header, held, _, _, _, rfl⟩
  · exact hprefix
  · exact hprefix
  · exact hprefix.trans (List.prefix_append _ _)

end Zet.Lib
