import Mathlib.Tactic.Common

/-!
# Runs of a machine

A machine is a partial step function `step : S → A → Option S`: in a state it takes an action, or
refuses it. `Run step C s as t` is a run from `s` to `t` along the actions `as`, every one of them
taken in a state that meets the condition `C`. Nothing here names a particular machine; every
development above instantiates `step` and `C`.

The results are the ones every invariant proof starts from: an invariant kept by each step holds at
the end of a run (`Run.inv`), runs compose (`Run.append`) and end with a step (`Run.snoc`), a weaker condition admits more runs
(`Run.mono`), and the evaluator `exec` produces runs (`Run.of_exec`; `Run.of_guarded` along a condition).
-/

namespace Zet.Lib

universe u v

variable {S : Type u} {A : Type v}

/-- A run of `step` from `s` to `t` along `as`, each action taken where `C` holds. -/
inductive Run (step : S → A → Option S) (C : S → A → Prop) : S → List A → S → Prop
  | nil (s : S) : Run step C s [] s
  | cons {s t r : S} {a : A} {as : List A} :
      C s a → step s a = some t → Run step C t as r → Run step C s (a :: as) r

/-- The condition that admits every step. -/
def Anywhere (_ : S) (_ : A) : Prop := True

/-- The states a machine can be in after a run from `s`. -/
def Reachable (step : S → A → Option S) (C : S → A → Prop) (s t : S) : Prop :=
  ∃ as, Run step C s as t

/-- Run the actions in order, stopping at the first one refused. -/
def exec (step : S → A → Option S) : S → List A → Option S
  | s, [] => some s
  | s, a :: as => (step s a).bind fun t => exec step t as

variable {step : S → A → Option S} {C D : S → A → Prop}

/-- What every step keeps holds at the end of a run. -/
theorem Run.inv (Inv : S → Prop) (keep : ∀ s a t, Inv s → C s a → step s a = some t → Inv t)
    {s t : S} {as : List A} (run : Run step C s as t) (start : Inv s) : Inv t := by
  induction run with
  | nil s => exact start
  | cons ok hs _ ih => exact ih (keep _ _ _ start ok hs)

/-- What every step keeps holds in every reachable state. -/
lemma Reachable.inv (Inv : S → Prop) (keep : ∀ s a t, Inv s → C s a → step s a = some t → Inv t)
    {s t : S} (reach : Reachable step C s t) (start : Inv s) : Inv t := by
  obtain ⟨as, run⟩ := reach
  exact run.inv Inv keep start

/-- Runs compose. -/
lemma Run.append {s t r : S} {as bs : List A} (one : Run step C s as t) (two : Run step C t bs r) :
    Run step C s (as ++ bs) r := by
  induction one with
  | nil s => exact two
  | cons ok hs _ ih => exact .cons ok hs (ih two)

/-- The last step of a run. -/
lemma Run.snoc {s t : S} {as : List A} {a : A} (run : Run step C s (as ++ [a]) t) :
    ∃ r, Run step C s as r ∧ C r a ∧ step r a = some t := by
  induction as generalizing s with
  | nil =>
    cases run with
    | cons ok hs rest =>
      cases rest
      exact ⟨s, .nil s, ok, hs⟩
  | cons b bs ih =>
    cases run with
    | cons ok hs rest =>
      obtain ⟨r, hrun, hok, hstep⟩ := ih rest
      exact ⟨r, .cons ok hs hrun, hok, hstep⟩

/-- A run is longer by a step. -/
lemma Run.concat {s t r : S} {as : List A} {a : A} (run : Run step C s as t) (ok : C t a) (hstep : step t a = some r) :
    Run step C s (as ++ [a]) r :=
  run.append (.cons ok hstep (.nil r))

/-- A weaker condition admits every run a stronger one does. -/
lemma Run.mono (weaker : ∀ s a, C s a → D s a) {s t : S} {as : List A} (run : Run step C s as t) :
    Run step D s as t := by
  induction run with
  | nil s => exact .nil s
  | cons ok hs _ ih => exact .cons (weaker _ _ ok) hs ih

/-- The machine that refuses every action taken where `C` fails. -/
def guarded (step : S → A → Option S) (C : S → A → Prop) [∀ s a, Decidable (C s a)] (s : S) (a : A) :
    Option S :=
  if C s a then step s a else none

/-- What the evaluator of the guarded machine reaches, a run along its condition reaches. -/
lemma Run.of_guarded [∀ s a, Decidable (C s a)] {s t : S} {as : List A}
    (h : exec (guarded step C) s as = some t) : Run step C s as t := by
  induction as generalizing s with
  | nil =>
    cases h
    exact .nil _
  | cons a as ih =>
    obtain ⟨u, hu, hrest⟩ := Option.bind_eq_some_iff.mp h
    unfold guarded at hu
    split at hu
    · next ok => exact .cons ok hu (ih hrest)
    · cases hu

/-- What the evaluator reaches, a run reaches. -/
lemma Run.of_exec {s t : S} {as : List A} (h : exec step s as = some t) :
    Run step Anywhere s as t := by
  induction as generalizing s with
  | nil =>
    cases h
    exact .nil _
  | cons a as ih =>
    obtain ⟨u, hu, hrest⟩ := Option.bind_eq_some_iff.mp h
    exact .cons trivial hu (ih hrest)

end Zet.Lib
