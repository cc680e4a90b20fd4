import Mathlib.Tactic.Common

/-!
# Scanning a stream line by line

A scanner holds the line that is coming in, up to a limit, and whether it ran over it. At a newline
the line is closed: a verdict on what was held changes the scanner's own state and may give an
answer. A call of `feed` goes through a chunk and stops right behind the first line that gives one;
the rest of the chunk is for the next call. Nothing here names a particular scanner.

`linesFrom` cuts a stream into lines and `verdicts` closes them one after another; `feed_spec` says
that a call is these two on the bytes it consumed, and `feedChunks_eq` that any chunks, fed until
nothing is left of each, are the two on the whole stream.
-/

namespace Zet.Lib

universe u v w

variable {α : Type u} {T : Type v} {β : Type w}

/-- The line coming in, and the state of whoever judges lines. -/
structure LineScanner (α : Type u) (T : Type v) where
  line : List α
  tooLong : Bool
  inner : T
deriving DecidableEq, Repr

namespace LineScanner

/-- A scanner's own part: how much of a line it holds, what ends one, and what it makes of one. -/
structure Judge (α : Type u) (T : Type v) (β : Type w) where
  limit : Nat
  newline : α
  close : List α → Bool → T → T × Option β

/-- A scanner at the start of a line. -/
def fresh (inner : T) : LineScanner α T := ⟨[], false, inner⟩

/-- A byte of a line: held, or over the limit. -/
def put (limit : Nat) (s : LineScanner α T) (c : α) : LineScanner α T :=
  if s.line.length < limit then { s with line := s.line ++ [c] } else { s with tooLong := true }

variable (J : Judge α T β)

/-- Lines closed one after another. -/
def verdicts : T → List (List α) → List β × T
  | t, [] => ([], t)
  | t, l :: ls =>
    let closed := J.close (l.take J.limit) (decide (J.limit < l.length)) t
    let rest := verdicts closed.1 ls
    (closed.2.toList ++ rest.1, rest.2)

variable {J} {s s' : LineScanner α T} {cur chunk : List α}

/-- Verdicts on two runs of lines, one after the other. -/
lemma verdicts_append (t : T) (a b : List (List α)) :
    verdicts J t (a ++ b) =
      ((verdicts J t a).1 ++ (verdicts J (verdicts J t a).2 b).1,
        (verdicts J (verdicts J t a).2 b).2) := by
  induction a generalizing t with
  | nil => rfl
  | cons l a ih => simp [verdicts, ih]

/-- A line without an answer only moves the state. -/
lemma verdicts_quiet {t t' : T} {l : List α} (ls : List (List α))
    (h : J.close (l.take J.limit) (decide (J.limit < l.length)) t = (t', none)) :
    verdicts J t (l :: ls) = verdicts J t' ls := by
  simp [verdicts, h]

/-- The scanner holds `cur`, the bytes since the last newline, as far as it can. -/
structure Holds (J : Judge α T β) (s : LineScanner α T) (cur : List α) : Prop where
  line : s.line = cur.take J.limit
  tooLong : s.tooLong = decide (J.limit < cur.length)

/-- A fresh scanner holds an empty line. -/
lemma Holds.fresh (J : Judge α T β) (t : T) : Holds J (fresh t) [] where
  line := List.take_nil.symm
  tooLong := by simp [LineScanner.fresh]

/-- A character more on the line. -/
lemma Holds.put (h : Holds J s cur) (c : α) : Holds J (put J.limit s c) (cur ++ [c]) := by
  obtain ⟨hline, htoo⟩ := h
  unfold LineScanner.put
  rw [hline, List.length_take]
  split
  · next hlt =>
    refine ⟨?_, ?_⟩
    · rw [List.take_of_length_le (by omega), List.take_of_length_le (by simp; omega)]
    · rw [htoo]
      simp
      omega
  · next hge =>
    refine ⟨?_, ?_⟩
    · exact (List.take_append_of_le_length (by omega)).symm
    · simp
      omega

/-- Holding a character asks for no verdict. -/
lemma put_inner (limit : Nat) (s : LineScanner α T) (c : α) : (put limit s c).inner = s.inner := by
  unfold put
  split <;> rfl

variable [DecidableEq α] (J)

/-- The loop of a call, `i` bytes in. -/
def feedFrom : Nat → LineScanner α T → List α → (Nat × Option β) × LineScanner α T
  | i, s, [] => ((i, none), s)
  | i, s, c :: rest =>
    if c = J.newline then
      match J.close s.line s.tooLong s.inner with
      | (t, some answer) => ((i + 1, some answer), fresh t)
      | (t, none) => feedFrom (i + 1) (fresh t) rest
    else feedFrom (i + 1) (put J.limit s c) rest

/-- A call: how much of the chunk was looked at, the answer if there was one, and the scanner. -/
def feed (s : LineScanner α T) (chunk : List α) : (Nat × Option β) × LineScanner α T :=
  feedFrom J 0 s chunk

/-- A chunk fed until nothing is left of it, in at most `fuel` calls after the first. -/
def feedAll : (fuel : Nat) → LineScanner α T → List α → List β × LineScanner α T
  | fuel, s, chunk =>
    match feed J s chunk with
    | ((_, none), s') => ([], s')
    | ((consumed, some answer), s') =>
      match fuel with
      | 0 => ([answer], s')
      | fuel + 1 =>
        let rest := feedAll fuel s' (chunk.drop consumed)
        (answer :: rest.1, rest.2)

/-- Chunks fed one after another, each until nothing is left of it. -/
def feedChunks (s : LineScanner α T) : List (List α) → List β × LineScanner α T
  | [] => ([], s)
  | chunk :: chunks =>
    let first := feedAll J chunk.length s chunk
    let rest := feedChunks first.2 chunks
    (first.1 ++ rest.1, rest.2)

/-- The lines of a stream that starts in the middle of one, and what is left of the last. -/
def linesFrom (newline : α) : List α → List α → List (List α) × List α
  | cur, [] => ([], cur)
  | cur, c :: rest =>
    if c = newline then (cur :: (linesFrom newline [] rest).1, (linesFrom newline [] rest).2)
    else linesFrom newline (cur ++ [c]) rest

variable {J}

/-- The lines of two texts, one after the other. -/
lemma linesFrom_append (newline : α) (cur a b : List α) :
    linesFrom newline cur (a ++ b) =
      ((linesFrom newline cur a).1 ++ (linesFrom newline (linesFrom newline cur a).2 b).1,
        (linesFrom newline (linesFrom newline cur a).2 b).2) := by
  induction a generalizing cur with
  | nil => rfl
  | cons c a ih =>
    simp only [List.cons_append, linesFrom]
    split
    · simp [ih]
    · exact ih _

/-- Bytes without a newline only make the line longer. -/
lemma linesFrom_open {newline : α} {l : List α} (h : newline ∉ l) (cur : List α) :
    linesFrom newline cur l = ([], cur ++ l) := by
  induction l generalizing cur with
  | nil => simp [linesFrom]
  | cons c l ih =>
    rw [List.mem_cons, not_or] at h
    rw [linesFrom, if_neg (Ne.symm h.1), ih h.2]
    simp

/-- A line and its newline in front of anything. -/
lemma linesFrom_line {newline : α} {l : List α} (h : newline ∉ l) (cur rest : List α) :
    linesFrom newline cur (l ++ newline :: rest) =
      ((cur ++ l) :: (linesFrom newline [] rest).1, (linesFrom newline [] rest).2) := by
  rw [linesFrom_append, linesFrom_open h]
  simp [linesFrom]

/-- What a call consumed, what it answered and what it left. -/
structure Consumed (J : Judge α T β) (s : LineScanner α T) (cur chunk : List α) (n : Nat)
    (answer : Option β) (s' : LineScanner α T) : Prop where
  le : n ≤ chunk.length
  answers : verdicts J s.inner (linesFrom J.newline cur (chunk.take n)).1 =
    (answer.toList, s'.inner)
  holds : Holds J s' (linesFrom J.newline cur (chunk.take n)).2
  whole : answer = none → n = chunk.length
  /-- With an answer, the last byte consumed is the newline of the line whose verdict it is. -/
  found : ∀ b, answer = some b → ∃ before l t,
    (linesFrom J.newline cur (chunk.take n)).1 = before ++ [l] ∧
      verdicts J s.inner before = ([], t) ∧
      (J.close (l.take J.limit) (decide (J.limit < l.length)) t).2 = some b ∧
      (chunk.take n).getLast? = some J.newline

/-- The loop consumes what its call does. -/
lemma feedFrom_consumed (h : Holds J s cur) (i : Nat) {n : Nat} {answer : Option β}
    (hfeed : feedFrom J i s chunk = ((n, answer), s')) :
    i ≤ n ∧ Consumed J s cur chunk (n - i) answer s' := by
  induction chunk generalizing i s cur with
  | nil =>
    cases hfeed
    refine ⟨Nat.le_refl _, ?_⟩
    rw [Nat.sub_self]
    exact ⟨Nat.le_refl _, rfl, h, fun _ => rfl, fun b hb => (by cases hb)⟩
  | cons c rest ih =>
    rw [feedFrom] at hfeed
    split at hfeed
    · next hc =>
      rw [h.line, h.tooLong] at hfeed
      split at hfeed
      · next t b hclose =>
        cases hfeed
        refine ⟨Nat.le_succ i, ?_⟩
        rw [Nat.add_sub_cancel_left]
        -- the line that ends here is answered, and the call stops behind it
        have hlines : linesFrom J.newline cur ((c :: rest).take 1) = ([cur], []) := by
          simp [linesFrom, hc]
        refine ⟨by simp, ?_, ?_, fun hb => (by cases hb), ?_⟩
        · rw [hlines]
          simp [verdicts, hclose, fresh]
        · rw [hlines]
          exact Holds.fresh J t
        · intro b' hb'
          cases hb'
          rw [hlines]
          exact ⟨[], cur, s.inner, rfl, rfl, by rw [hclose], by simp [hc]⟩
      · next t hclose =>
        -- it is not, so the next one starts fresh
        obtain ⟨hle, used⟩ := ih (Holds.fresh J t) (i + 1) hfeed
        refine ⟨by omega, ?_⟩
        rw [show n - i = (n - (i + 1)) + 1 by omega]
        have hlines : linesFrom J.newline cur ((c :: rest).take (n - (i + 1) + 1)) =
            (cur :: (linesFrom J.newline [] (rest.take (n - (i + 1)))).1,
              (linesFrom J.newline [] (rest.take (n - (i + 1)))).2) := by
          rw [List.take_succ_cons, linesFrom, if_pos hc]
        refine ⟨by simpa using used.le, ?_, ?_, fun hb => by simpa using used.whole hb, ?_⟩
        · rw [hlines]
          exact (verdicts_quiet _ hclose).trans used.answers
        · rw [hlines]
          exact used.holds
        · intro b hb
          obtain ⟨before, l, t', hbefore, hquiet, hverdict, hlast⟩ := used.found b hb
          rw [hlines]
          refine ⟨cur :: before, l, t', by simp [hbefore], ?_, hverdict, ?_⟩
          · exact (verdicts_quiet _ hclose).trans hquiet
          · rw [List.take_succ_cons, List.getLast?_cons, hlast]
            rfl
    · next hc =>
      -- the line goes on by one character
      obtain ⟨hle, used⟩ := ih (h.put c) (i + 1) hfeed
      refine ⟨by omega, ?_⟩
      rw [show n - i = (n - (i + 1)) + 1 by omega]
      have hlines : linesFrom J.newline cur ((c :: rest).take (n - (i + 1) + 1)) =
          linesFrom J.newline (cur ++ [c]) (rest.take (n - (i + 1))) := by
        rw [List.take_succ_cons, linesFrom, if_neg hc]
      have hinner := put_inner J.limit s c
      refine ⟨by simpa using used.le, ?_, ?_, fun hb => by simpa using used.whole hb, ?_⟩
      · rw [hlines, ← hinner]
        exact used.answers
      · rw [hlines]
        exact used.holds
      · intro b hb
        obtain ⟨before, l, t, hbefore, hquiet, hverdict, hlast⟩ := used.found b hb
        rw [hlines, ← hinner]
        refine ⟨before, l, t, hbefore, hquiet, hverdict, ?_⟩
        rw [List.take_succ_cons, List.getLast?_cons, hlast]
        rfl

/-- A call is what the lines it consumed amount to. -/
theorem feed_consumed (h : Holds J s cur) {n : Nat} {answer : Option β}
    (hfeed : feed J s chunk = ((n, answer), s')) : Consumed J s cur chunk n answer s' :=
  (feedFrom_consumed h 0 hfeed).2

/-- An answer is behind at least one byte. -/
lemma Consumed.pos {n : Nat} {b : β} (c : Consumed J s cur chunk n (some b) s') : 0 < n := by
  obtain ⟨_, _, _, _, _, _, hlast⟩ := c.found b rfl
  rcases Nat.eq_zero_or_pos n with rfl | hpos
  · simp at hlast
  · exact hpos

/-- A chunk fed until nothing is left is what its lines amount to. -/
lemma feedAll_eq (h : Holds J s cur) {fuel : Nat} (enough : chunk.length ≤ fuel) :
    verdicts J s.inner (linesFrom J.newline cur chunk).1 =
        ((feedAll J fuel s chunk).1, (feedAll J fuel s chunk).2.inner) ∧
      Holds J (feedAll J fuel s chunk).2 (linesFrom J.newline cur chunk).2 := by
  induction fuel generalizing s cur chunk with
  | zero =>
    obtain rfl : chunk = [] := List.eq_nil_of_length_eq_zero (Nat.le_zero.mp enough)
    exact ⟨rfl, h⟩
  | succ fuel ih =>
    rw [feedAll]
    cases hfeed : feed J s chunk with
    | mk result s' =>
      obtain ⟨n, answer⟩ := result
      have used := feed_consumed h hfeed
      cases answer with
      | none =>
        have hn := used.whole rfl
        have hanswers := used.answers
        have hholds := used.holds
        rw [hn, List.take_length] at hanswers hholds
        exact ⟨hanswers, hholds⟩
      | some b =>
        have hpos := used.pos
        have hless : (chunk.drop n).length ≤ fuel := by
          rw [List.length_drop]
          omega
        obtain ⟨hrest, hholds⟩ := ih used.holds hless
        have hsplit := linesFrom_append J.newline cur (chunk.take n) (chunk.drop n)
        rw [List.take_append_drop] at hsplit
        dsimp only
        rw [hsplit, verdicts_append, used.answers]
        refine ⟨?_, hholds⟩
        rw [hrest]
        rfl

/-- Whatever the chunks, the answers are those of the lines of the whole stream. -/
theorem feedChunks_eq (h : Holds J s cur) (chunks : List (List α)) :
    verdicts J s.inner (linesFrom J.newline cur chunks.flatten).1 =
        ((feedChunks J s chunks).1, (feedChunks J s chunks).2.inner) ∧
      Holds J (feedChunks J s chunks).2 (linesFrom J.newline cur chunks.flatten).2 := by
  induction chunks generalizing s cur with
  | nil => exact ⟨rfl, h⟩
  | cons chunk chunks ih =>
    obtain ⟨hfirst, hholds⟩ := feedAll_eq h (Nat.le_refl chunk.length)
    obtain ⟨hrest, hholds'⟩ := ih hholds
    rw [List.flatten_cons, linesFrom_append, verdicts_append, hfirst, feedChunks]
    refine ⟨?_, hholds'⟩
    rw [hrest]

end LineScanner

end Zet.Lib
