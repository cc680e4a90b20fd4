import Zet.Lib.LineScanner

/-!
# Looking for one answer

Someone who looks through what a line scanner finds, answer by answer, until one of them settles the
matter: it gives a result, or it is an error. `watch` is that over one chunk, call by call; `decided` is
the same over the answers alone, and `watch_watched` says that they agree and what is left to look
through where nothing was settled.
-/

namespace Zet.Lib

universe u v w x y z

namespace LineScanner

variable {α : Type u} {T : Type v} {β : Type w} {ε : Type x} {ρ : Type y} {σ : Type z}

/-- The answers one after another, up to the first that settles the matter. -/
def decided (consider : β → σ → Except ε (Option ρ) × σ) : σ → List β → Except ε (Option ρ) × σ
  | t, [] => (.ok none, t)
  | t, b :: bs =>
    match consider b t with
    | (.ok none, t') => decided consider t' bs
    | settled => settled

variable {consider : β → σ → Except ε (Option ρ) × σ}

/-- A block that comes to nothing is passed over. -/
lemma decided_quiet {t t' : σ} {b : β} (h : consider b t = (.ok none, t')) (bs : List β) :
    decided consider t (b :: bs) = decided consider t' bs := by
  rw [decided, h]

/-- The first block that comes to a result decides. -/
lemma decided_found {t t' : σ} {b : β} {r : ρ} (h : consider b t = (.ok (some r), t')) (bs : List β) :
    decided consider t (b :: bs) = (.ok (some r), t') := by
  rw [decided, h]

/-- So does the first that fails. -/
lemma decided_error {t t' : σ} {b : β} {e : ε} (h : consider b t = (.error e, t')) (bs : List β) :
    decided consider t (b :: bs) = (.error e, t') := by
  rw [decided, h]

/-- A block that comes to something decides. -/
lemma decided_first {t : σ} {b : β} (h : (consider b t).1 ≠ .ok none) (bs : List β) :
    decided consider t (b :: bs) = consider b t := by
  rw [decided]
  split
  · next hnone => exact absurd (by rw [hnone]) h
  · rfl

/-- Answers that settle nothing are passed over. -/
lemma decided_append {t t' : σ} {a : List β} (quiet : decided consider t a = (.ok none, t'))
    (b : List β) : decided consider t (a ++ b) = decided consider t' b := by
  induction a generalizing t with
  | nil =>
    cases quiet
    rfl
  | cons x a ih =>
    rw [List.cons_append, decided]
    rw [decided] at quiet
    split
    · next hnone =>
      rw [hnone] at quiet
      exact ih quiet
    · next hsettled =>
      split at quiet
      · next hnone => exact absurd hnone (hsettled _)
      · exact absurd quiet (hsettled _)

/-- Answers none of which can settle anything. -/
lemma decided_none {a : List β} (quiet : ∀ b ∈ a, ∀ t, ∃ t', consider b t = (.ok none, t')) (t : σ) :
    ∃ t', decided consider t a = (.ok none, t') := by
  induction a generalizing t with
  | nil => exact ⟨t, rfl⟩
  | cons b a ih =>
    obtain ⟨t', hb⟩ := quiet b (List.mem_cons_self ..) t
    rw [decided_quiet hb]
    exact ih (fun x hx => quiet x (List.mem_cons_of_mem _ hx)) t'

/-- What settled the matter stays settled. -/
lemma decided_settled {t : σ} {a : List β} (settled : (decided consider t a).1 ≠ .ok none) (b : List β) :
    decided consider t (a ++ b) = decided consider t a := by
  induction a generalizing t with
  | nil => exact absurd rfl settled
  | cons x a ih =>
    rw [List.cons_append, decided, decided]
    rw [decided] at settled
    split
    · next hnone =>
      rw [hnone] at settled
      exact ih settled
    · rfl

/-- What no answer that settles nothing changes. -/
lemma decided_kept {τ : Type v} {f : σ → τ}
    (kept : ∀ b t, (consider b t).1 = .ok none → f (consider b t).2 = f t) {t : σ} {a : List β}
    (quiet : (decided consider t a).1 = .ok none) : f (decided consider t a).2 = f t := by
  induction a generalizing t with
  | nil => rfl
  | cons x a ih =>
    rw [decided] at quiet ⊢
    split
    · next u hnone =>
      rw [hnone] at quiet
      have hx := kept x t (by rw [hnone])
      rw [hnone] at hx
      exact (ih quiet).trans hx
    · next hsettled =>
      split at quiet
      · next hnone => exact absurd hnone (hsettled _)
      · exact kept x t quiet

/-- Where nothing was settled, no answer settled anything. -/
lemma forall_of_decided {t : σ} {a : List β} (quiet : (decided consider t a).1 = .ok none) :
    ∀ x ∈ a, ∃ u, (consider x u).1 = .ok none := by
  induction a generalizing t with
  | nil => exact fun _ hx => (List.not_mem_nil hx).elim
  | cons y a ih =>
    intro x hx
    rw [decided] at quiet
    split at quiet
    · next hnone =>
      rcases List.mem_cons.mp hx with rfl | hx
      · exact ⟨t, by rw [hnone]⟩
      · exact ih quiet x hx
    · next hsettled => exact (hsettled _ (Prod.ext quiet rfl)).elim

/-- The first answer that settled it. -/
lemma exists_first_of_decided {t : σ} {a : List β} (settled : (decided consider t a).1 ≠ .ok none) :
    ∃ before b after t', a = before ++ b :: after ∧ (∀ x ∈ before, ∃ u, (consider x u).1 = .ok none) ∧
      consider b t' = decided consider t a := by
  induction a generalizing t with
  | nil => exact absurd rfl settled
  | cons x a ih =>
    rw [decided] at settled ⊢
    split
    · next u hnone =>
      rw [hnone] at settled
      obtain ⟨before, b, after, t', rfl, hbefore, heq⟩ := ih settled
      refine ⟨x :: before, b, after, t', rfl, ?_, heq⟩
      intro y hy
      rcases List.mem_cons.mp hy with rfl | hy
      · exact ⟨t, by rw [hnone]⟩
      · exact hbefore y hy
    · exact ⟨[], x, a, t, rfl, fun _ hx => (List.not_mem_nil hx).elim, rfl⟩

variable [DecidableEq α] (J : Judge α T β) (consider)

/-- A chunk looked through, `at_` bytes in, in at most `fuel` calls. -/
def watch : (fuel at_ : Nat) → LineScanner α T → σ → List α →
    Except ε (Nat × Option ρ) × LineScanner α T × σ
  | 0, at_, s, t, _ => (.ok (at_, none), s, t)
  | fuel + 1, at_, s, t, chunk =>
    if chunk = [] then (.ok (at_, none), s, t)
    else
      match feed J s chunk with
      | ((n, none), s') => watch fuel (at_ + n) s' t (chunk.drop n)
      | ((n, some b), s') =>
        match consider b t with
        | (.error e, t') => (.error e, s', t')
        | (.ok (some r), t') => (.ok (at_ + n, some r), s', t')
        | (.ok none, t') => watch fuel (at_ + n) s' t' (chunk.drop n)

variable {J consider} {s : LineScanner α T} {cur chunk : List α} {t : σ}

/-- A result comes from an answer, whatever the scanner was doing. -/
lemma watch_found {fuel at_ n : Nat} {s s' : LineScanner α T} {t' : σ} {r : ρ}
    (h : watch consider J fuel at_ s t chunk = (.ok (n, some r), s', t')) :
    ∃ b u, consider b u = (.ok (some r), t') := by
  induction fuel generalizing at_ s t chunk with
  | zero => cases h
  | succ fuel ih =>
    rw [watch] at h
    split at h
    · cases h
    · split at h
      · exact ih h
      · next b _ _ =>
        split at h
        · cases h
        · next hfound =>
          cases h
          exact ⟨b, t, hfound⟩
        · exact ih h

/-- What a chunk came to: what its answers did, with the scanner behind it when nothing did. -/
structure Watched (J : Judge α T β) (consider : β → σ → Except ε (Option ρ) × σ)
    (s : LineScanner α T) (t : σ) (cur chunk : List α)
    (r : Except ε (Nat × Option ρ) × LineScanner α T × σ) : Prop where
  result : r.1.map Prod.snd = (decided consider t (verdicts J s.inner (linesFrom J.newline cur chunk).1).1).1
  state : r.2.2 = (decided consider t (verdicts J s.inner (linesFrom J.newline cur chunk).1).1).2
  whole : r.1.map Prod.snd = .ok none →
    r.2.1.inner = (verdicts J s.inner (linesFrom J.newline cur chunk).1).2 ∧
      Holds J r.2.1 (linesFrom J.newline cur chunk).2

/-- The loop over a chunk watches it: every line in it is judged once and in order. -/
theorem watch_watched (h : Holds J s cur) {fuel : Nat} (enough : chunk.length ≤ fuel) (at_ : Nat) :
    Watched J consider s t cur chunk (watch consider J fuel at_ s t chunk) := by
  induction fuel generalizing s t cur chunk at_ with
  | zero =>
    obtain rfl : chunk = [] := List.eq_nil_of_length_eq_zero (Nat.le_zero.mp enough)
    exact ⟨rfl, rfl, fun _ => ⟨rfl, h⟩⟩
  | succ fuel ih =>
    rw [watch]
    split
    · next hempty =>
      subst hempty
      exact ⟨rfl, rfl, fun _ => ⟨rfl, h⟩⟩
    next hne =>
    have hpos : 0 < chunk.length := List.length_pos_iff.mpr hne
    cases hfeed : feed J s chunk with
    | mk found s' =>
      obtain ⟨n, answer⟩ := found
      -- one call of the scanner: it stops behind a line or has taken everything
      have used := feed_consumed h hfeed
      have hsplit := linesFrom_append J.newline cur (chunk.take n) (chunk.drop n)
      rw [List.take_append_drop] at hsplit
      have hverdicts : verdicts J s.inner (linesFrom J.newline cur chunk).1 =
          (answer.toList ++ (verdicts J s'.inner
            (linesFrom J.newline (linesFrom J.newline cur (chunk.take n)).2 (chunk.drop n)).1).1,
            (verdicts J s'.inner
              (linesFrom J.newline (linesFrom J.newline cur (chunk.take n)).2 (chunk.drop n)).1).2) := by
        rw [hsplit, verdicts_append, used.answers]
      have hrest : (linesFrom J.newline cur chunk).2 =
          (linesFrom J.newline (linesFrom J.newline cur (chunk.take n)).2 (chunk.drop n)).2 := by
        rw [hsplit]
      have hless : 0 < n → (chunk.drop n).length ≤ fuel := by
        intro hn
        rw [List.length_drop]
        omega
      cases answer with
      | none =>
        have hn := used.whole rfl
        have hih := ih (t := t) used.holds (hless (by omega)) (at_ + n)
        dsimp only
        refine ⟨?_, ?_, fun hnone => ?_⟩
        · rw [hverdicts]
          exact hih.result
        · rw [hverdicts]
          exact hih.state
        · rw [hverdicts, hrest]
          exact hih.whole hnone
      | some b =>
        dsimp only
        cases hconsider : consider b t with
        | mk settled t' =>
          rcases settled with e | (_ | r)
          · dsimp only
            refine ⟨?_, ?_, fun hnone => nomatch hnone⟩
            · rw [hverdicts, Option.toList_some, List.singleton_append, decided_error hconsider]
              rfl
            · rw [hverdicts, Option.toList_some, List.singleton_append, decided_error hconsider]
          · have hih := ih (t := t') used.holds (hless used.pos) (at_ + n)
            dsimp only
            refine ⟨?_, ?_, fun hnone => ?_⟩
            · rw [hverdicts, Option.toList_some, List.singleton_append, decided_quiet hconsider]
              exact hih.result
            · rw [hverdicts, Option.toList_some, List.singleton_append, decided_quiet hconsider]
              exact hih.state
            · rw [hverdicts, hrest]
              exact hih.whole hnone
          · dsimp only
            refine ⟨?_, ?_, fun hnone => nomatch hnone⟩
            · rw [hverdicts, Option.toList_some, List.singleton_append, decided_found hconsider]
              rfl
            · rw [hverdicts, Option.toList_some, List.singleton_append, decided_found hconsider]

variable {r : Except ε (Nat × Option ρ) × LineScanner α T × σ}

/-- What a chunk settled, whatever comes after it. -/
lemma Watched.settled (w : Watched J consider s t cur chunk r) (h : r.1.map Prod.snd ≠ .ok none)
    (more : List α) :
    decided consider t (verdicts J s.inner (linesFrom J.newline cur (chunk ++ more)).1).1 =
      (r.1.map Prod.snd, r.2.2) := by
  rw [linesFrom_append, verdicts_append, decided_settled (by rwa [← w.result])]
  exact Prod.ext w.result.symm w.state.symm

/-- A chunk that settled nothing leaves the matter to what comes after it. -/
lemma Watched.unsettled (w : Watched J consider s t cur chunk r) (h : r.1.map Prod.snd = .ok none)
    (more : List α) :
    decided consider t (verdicts J s.inner (linesFrom J.newline cur (chunk ++ more)).1).1 =
      decided consider r.2.2
        (verdicts J r.2.1.inner (linesFrom J.newline (linesFrom J.newline cur chunk).2 more).1).1 := by
  rw [linesFrom_append, verdicts_append,
    decided_append (Prod.ext (w.result.symm.trans h) w.state.symm), (w.whole h).1]

end LineScanner

end Zet.Lib
