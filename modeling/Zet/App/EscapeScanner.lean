import Zet.Core.Bytes

/-!
# The client's escape

`src/client/escape.cpp`: a `~` at the start of a line is held until the next byte says what it was. `~.`
quits, `~~` is one `~`, and before any other byte the `~` goes out after all. The scanner is fed whatever
one read of the terminal returned, and writes what the session gets of it.

`sessionBytes` says the same of a whole text, line by line. `scan_lines` is the connection: what the
scanner passes on of a text is that, however the text was cut into reads (`feedAll_scan`).
-/

namespace Zet.App
open Zet.Core

/-- `TILDE`. -/
def tilde : UInt8 := 0x7E

/-- `DOT`. -/
def dot : UInt8 := 0x2E

/-- `CR`. -/
def cr : UInt8 := 0x0D

/-- `LF`. -/
def lf : UInt8 := 0x0A

/-- The byte ends a line. -/
def endsLine (b : UInt8) : Bool := b == cr || b == lf

/-- `EscapeScanner`. -/
structure EscapeScanner where
  atLineStart : Bool
  held : Bool
deriving DecidableEq, Repr

namespace EscapeScanner

/-- A scanner at the beginning of the session. -/
def create : EscapeScanner := ⟨true, false⟩

/-- What is left in `out`, whether `~.` was seen, and the scanner. -/
structure Result where
  out : Bytes
  quit : Bool
  scanner : EscapeScanner
deriving DecidableEq, Repr

/-- `put`: nothing is written past the end of `out`. -/
def put (room : Nat) (out : Bytes) (b : UInt8) : Bytes := if out.length < room then out ++ [b] else out

/-- One byte: what is put for it, and the scanner after it. The byte that quits has no turn. -/
def turn (s : EscapeScanner) (b : UInt8) : Option (Bytes × EscapeScanner) :=
  if s.held then
    if b = dot then none
    else if b = tilde then some ([tilde], ⟨false, false⟩)
    else some ([tilde, b], ⟨endsLine b, false⟩)
  else if s.atLineStart ∧ b = tilde then some ([], ⟨s.atLineStart, true⟩)
  else some ([b], ⟨endsLine b, false⟩)

/-- The loop of `Feed`, over the bytes that are left. -/
def feedFrom (room : Nat) (s : EscapeScanner) (out : Bytes) : Bytes → Result
  | [] => ⟨out, false, s⟩
  | b :: rest =>
    match s.turn b with
    | none => ⟨out, true, { s with held := false }⟩
    | some (puts, s) => feedFrom room s (puts.foldl (put room) out) rest

/-- `EscapeScanner::Feed`, into `room` bytes. -/
def feed (s : EscapeScanner) (text : Bytes) (room : Nat) : Result := feedFrom room s [] text

/-- What the scanner puts for a text, as far as it reads it. -/
def scan (s : EscapeScanner) : Bytes → Result
  | [] => ⟨[], false, s⟩
  | b :: rest =>
    match s.turn b with
    | none => ⟨[], true, { s with held := false }⟩
    | some (puts, s) =>
      let result := scan s rest
      { result with out := puts ++ result.out }

/-- The byte that is held counts as still to be put. -/
def owed (s : EscapeScanner) : Nat := if s.held then 1 else 0

variable {s t : EscapeScanner} {b : UInt8} {puts : Bytes}

/-- A turn puts what it read, and what was held before it unless it is held on. -/
lemma turn_length (h : s.turn b = some (puts, t)) : puts.length + t.owed ≤ s.owed + 1 := by
  unfold turn at h
  split at h
  · next hheld =>
    split at h
    · cases h
    · split at h
      all_goals
        cases h
        simp [owed, hheld]
  · next hheld =>
    split at h
    all_goals
      cases h
      simp [owed, hheld]

/-- A byte that is passed on goes before what the rest yields. -/
lemma scan_turn {rest : Bytes} (h : s.turn b = some (puts, t)) :
    s.scan (b :: rest) = { t.scan rest with out := puts ++ (t.scan rest).out } := by
  rw [scan, h]

/-- A byte that quits ends the scan. -/
lemma scan_quits {rest : Bytes} (h : s.turn b = none) :
    s.scan (b :: rest) = ⟨[], true, { s with held := false }⟩ := by
  rw [scan, h]

/-- Nothing is put that was not read. -/
lemma scan_length (s : EscapeScanner) (text : Bytes) :
    (s.scan text).out.length ≤ s.owed + text.length := by
  induction text generalizing s with
  | nil => exact Nat.zero_le _
  | cons b rest ih =>
    rcases hturn : s.turn b with _ | ⟨puts, t⟩
    · rw [scan_quits hturn]
      exact Nat.zero_le _
    · have hlength := turn_length hturn
      have hrest := ih t
      rw [scan_turn hturn]
      simp only [List.length_append, List.length_cons]
      omega

/-- Bytes that fit are put one behind another. -/
lemma foldl_put {room : Nat} {out : Bytes} (fits : out.length + puts.length ≤ room) :
    puts.foldl (put room) out = out ++ puts := by
  induction puts generalizing out with
  | nil => exact (List.append_nil out).symm
  | cons b puts ih =>
    rw [List.length_cons] at fits
    rw [List.foldl_cons, put, if_pos (by omega), ih, List.append_assoc]
    · rfl
    · rw [List.length_append, List.length_singleton]
      omega

/-- Where the text and a held byte fit, nothing is cut off. -/
lemma feedFrom_scan {room : Nat} {out text : Bytes} (fits : out.length + s.owed + text.length ≤ room) :
    feedFrom room s out text = { s.scan text with out := out ++ (s.scan text).out } := by
  induction text generalizing s out with
  | nil => simp [feedFrom, scan]
  | cons b rest ih =>
    rw [List.length_cons] at fits
    unfold feedFrom
    rcases hturn : s.turn b with _ | ⟨puts, t⟩
    · simp [scan_quits hturn]
    · have hlength := turn_length hturn
      dsimp only
      rw [scan_turn hturn, foldl_put (by omega), ih (by rw [List.length_append]; omega),
        List.append_assoc]

/-- The room the client gives the scanner is more than enough. -/
theorem feed_scan {text : Bytes} {room : Nat} (enough : 2 * text.length + 1 ≤ room) :
    s.feed text room = s.scan text := by
  have hone : s.owed ≤ 1 := by
    unfold owed
    split
    · exact Nat.le_refl 1
    · exact Nat.zero_le 1
  rw [feed, feedFrom_scan (by rw [List.length_nil]; omega)]
  simp

/-- A text goes on where the scanner has not quit. -/
lemma scan_append (s : EscapeScanner) (text more : Bytes) :
    s.scan (text ++ more) =
      if (s.scan text).quit then s.scan text
      else
        let rest := (s.scan text).scanner.scan more
        { rest with out := (s.scan text).out ++ rest.out } := by
  induction text generalizing s with
  | nil => simp [scan]
  | cons b text ih =>
    rw [List.cons_append]
    rcases hturn : s.turn b with _ | ⟨puts, t⟩
    · simp [scan_quits hturn]
    · rw [scan_turn hturn, scan_turn hturn, ih]
      dsimp only
      split
      · rfl
      · rw [List.append_assoc]

end EscapeScanner

/-- The lines of a text, each with the byte that ended it; the last one may be unfinished. -/
def typedLines : Bytes → List Bytes
  | [] => []
  | b :: rest =>
    if endsLine b then [b] :: typedLines rest
    else
      match typedLines rest with
      | [] => [[b]]
      | line :: lines => (b :: line) :: lines

/-- The line ends the session. -/
def quits (line : Bytes) : Bool := [tilde, dot].isPrefixOf line

/-- What the session gets of a line: of `~~` at its start one, and of a `~` alone nothing yet. -/
def meant (line : Bytes) : Bytes :=
  if line = [tilde] then []
  else if [tilde, tilde].isPrefixOf line then line.tail
  else line

/-- What the session gets of the lines, up to the one that ends it. -/
def passed (lines : List Bytes) : Bytes := ((lines.takeWhile fun line => !quits line).map meant).flatten

/-- What the session gets of a text. -/
def sessionBytes (text : Bytes) : Bytes := passed (typedLines text)

/-- Whether the text ends the session. -/
def asksToQuit (text : Bytes) : Bool := (typedLines text).any quits

section
variable {b : UInt8} {rest line : Bytes} {lines : List Bytes}

/-- The rest of an unfinished line, and the lines after it. -/
def lineRest (text : Bytes) : Bytes × List Bytes :=
  match typedLines text with
  | [] => ([], [])
  | line :: lines => (line, lines)

/-- A byte that ends a line is a line of its own. -/
lemma typedLines_ends (h : endsLine b = true) : typedLines (b :: rest) = [b] :: typedLines rest := by
  rw [typedLines, if_pos h]

/-- Any other byte opens the line that the rest goes on. -/
lemma typedLines_goes_on (h : endsLine b = false) :
    typedLines (b :: rest) = (b :: (lineRest rest).1) :: (lineRest rest).2 := by
  rw [typedLines, if_neg (Bool.eq_false_iff.mp h), lineRest]
  cases typedLines rest with
  | nil => rfl
  | cons line lines => rfl

/-- The line ends with such a byte. -/
lemma lineRest_ends (h : endsLine b = true) : lineRest (b :: rest) = ([b], typedLines rest) := by
  rw [lineRest, typedLines_ends h]

/-- The line goes on with any other. -/
lemma lineRest_goes_on (h : endsLine b = false) :
    lineRest (b :: rest) = (b :: (lineRest rest).1, (lineRest rest).2) := by
  rw [lineRest, typedLines_goes_on h]

/-- A line that quits passes nothing, nor does anything after it. -/
lemma passed_quits (h : quits line = true) : passed (line :: lines) = [] := by
  rw [passed, List.takeWhile_cons_of_neg (by simp [h])]
  rfl

/-- Any other line passes what it means. -/
lemma passed_cons (h : quits line = false) : passed (line :: lines) = meant line ++ passed lines := by
  rw [passed, List.takeWhile_cons_of_pos (by simp [h]), List.map_cons, List.flatten_cons, passed]

/-- A line that does not start with `~` is passed on as it is. -/
lemma plain_line (line : Bytes) (h : b ≠ tilde) : quits (b :: line) = false ∧ meant (b :: line) = b :: line := by
  have hne : (tilde == b) = false := beq_false_of_ne (Ne.symm h)
  refine ⟨?_, ?_⟩
  · rw [quits, List.isPrefixOf, hne]
    rfl
  · rw [meant, if_neg (fun heq => h (List.cons.inj heq).1), List.isPrefixOf, hne]
    rfl

/-- So is one where `~` stands before any byte but `.` and `~`. -/
lemma tilde_line (line : Bytes) (hdot : b ≠ dot) (htilde : b ≠ tilde) :
    quits (tilde :: b :: line) = false ∧ meant (tilde :: b :: line) = tilde :: b :: line := by
  have hndot : (dot == b) = false := beq_false_of_ne (Ne.symm hdot)
  have hntilde : (tilde == b) = false := beq_false_of_ne (Ne.symm htilde)
  refine ⟨?_, ?_⟩
  · rw [quits, List.isPrefixOf, List.isPrefixOf, hndot]
    rfl
  · rw [meant, if_neg (by simp), List.isPrefixOf, List.isPrefixOf, hntilde]
    rfl

end

namespace EscapeScanner

/-- Where the scanner stands in a line: what it puts for the text and whether it quits, from there. -/
structure Reads (s : EscapeScanner) (text out : Bytes) (quit : Bool) : Prop where
  out : (s.scan text).out = out
  quit : (s.scan text).quit = quit

variable {s t : EscapeScanner} {b : UInt8} {puts text out : Bytes} {quit : Bool}

/-- One byte more in front of what reads. -/
lemma Reads.turn (h : Reads t text out quit) (hturn : s.turn b = some (puts, t)) :
    Reads s (b :: text) (puts ++ out) quit := by
  constructor
  · rw [scan, hturn, ← h.out]
  · rw [scan, hturn, ← h.quit]

/--
From the start of a line the scanner puts what the lines say; holding a `~`, what they say with it in
front; and inside a line the rest of that line first.
-/
lemma reads_lines (text : Bytes) :
    Reads ⟨true, false⟩ text (sessionBytes text) (asksToQuit text) ∧
    (∀ start, Reads ⟨start, true⟩ text (sessionBytes (tilde :: text)) (asksToQuit (tilde :: text))) ∧
    Reads ⟨false, false⟩ text ((lineRest text).1 ++ passed (lineRest text).2)
      ((lineRest text).2.any quits) := by
  -- a byte takes the scanner from one of the three to another, so they go through the text together
  induction text with
  | nil => exact ⟨⟨rfl, rfl⟩, fun _ => ⟨rfl, rfl⟩, ⟨rfl, rfl⟩⟩
  | cons b rest ih =>
    obtain ⟨hstart, hheld, hinside⟩ := ih
    refine ⟨?start, fun start => ?held, ?inside⟩
    case start =>
      by_cases htilde : b = tilde
      · have hturn : turn ⟨true, false⟩ tilde = some ([], ⟨true, true⟩) := rfl
        rw [htilde]
        exact (hheld true).turn hturn
      · have hturn : turn ⟨true, false⟩ b = some ([b], ⟨endsLine b, false⟩) :=
          (if_neg Bool.false_ne_true).trans (if_neg fun hboth => htilde hboth.2)
        cases hends : endsLine b with
        | true =>
          rw [hends] at hturn
          obtain ⟨hquits, hmeant⟩ := plain_line [] htilde
          rw [sessionBytes, asksToQuit, typedLines_ends hends, passed_cons hquits, hmeant, List.any_cons,
            hquits]
          exact hstart.turn hturn
        | false =>
          rw [hends] at hturn
          obtain ⟨hquits, hmeant⟩ := plain_line (lineRest rest).1 htilde
          rw [sessionBytes, asksToQuit, typedLines_goes_on hends, passed_cons hquits, hmeant,
            List.any_cons, hquits]
          exact hinside.turn hturn
    case held =>
      have hnotilde : endsLine tilde = false := by decide
      by_cases hdot : b = dot
      · -- `~.`: nothing of this line is said, nor of any after it
        subst hdot
        have hline : quits (tilde :: dot :: (lineRest rest).1) = true := rfl
        rw [sessionBytes, asksToQuit, typedLines_goes_on hnotilde, lineRest_goes_on (by decide),
          passed_quits hline, List.any_cons, hline]
        exact ⟨rfl, rfl⟩
      · by_cases htilde : b = tilde
        · -- `~~`: one of them goes out, and the scanner is inside the line
          have hturn : turn ⟨start, true⟩ tilde = some ([tilde], ⟨false, false⟩) := rfl
          subst htilde
          have hquits : quits (tilde :: tilde :: (lineRest rest).1) = false := rfl
          have hmeant : meant (tilde :: tilde :: (lineRest rest).1) = tilde :: (lineRest rest).1 := rfl
          rw [sessionBytes, asksToQuit, typedLines_goes_on hnotilde, lineRest_goes_on hnotilde,
            passed_cons hquits, hmeant, List.any_cons, hquits]
          exact hinside.turn hturn
        · -- any other byte lets the `~` go, and may end the line itself
          have hturn : turn ⟨start, true⟩ b = some ([tilde, b], ⟨endsLine b, false⟩) := by
            rw [turn, if_pos rfl, if_neg hdot, if_neg htilde]
          cases hends : endsLine b with
          | true =>
            rw [hends] at hturn
            obtain ⟨hquits, hmeant⟩ := tilde_line [] hdot htilde
            rw [sessionBytes, asksToQuit, typedLines_goes_on hnotilde, lineRest_ends hends,
              passed_cons hquits, hmeant, List.any_cons, hquits]
            exact hstart.turn hturn
          | false =>
            rw [hends] at hturn
            obtain ⟨hquits, hmeant⟩ := tilde_line (lineRest rest).1 hdot htilde
            rw [sessionBytes, asksToQuit, typedLines_goes_on hnotilde, lineRest_goes_on hends,
              passed_cons hquits, hmeant, List.any_cons, hquits]
            exact hinside.turn hturn
    case inside =>
      have hturn : turn ⟨false, false⟩ b = some ([b], ⟨endsLine b, false⟩) := rfl
      cases hends : endsLine b with
      | true =>
        rw [hends] at hturn
        rw [lineRest_ends hends]
        exact hstart.turn hturn
      | false =>
        rw [hends] at hturn
        rw [lineRest_goes_on hends]
        exact hinside.turn hturn

/-- What the scanner puts for a text from the beginning of the session. -/
lemma scan_lines (text : Bytes) :
    (create.scan text).out = sessionBytes text ∧ (create.scan text).quit = asksToQuit text := by
  obtain ⟨⟨hout, hquit⟩, -⟩ := reads_lines text
  exact ⟨hout, hquit⟩

/-- One read after another, until one quits. -/
def feedAll (room : Nat) (s : EscapeScanner) : List Bytes → Result
  | [] => ⟨[], false, s⟩
  | chunk :: chunks =>
    let result := s.feed chunk room
    if result.quit then result
    else
      let rest := feedAll room result.scanner chunks
      { rest with out := result.out ++ rest.out }

/-- Reads within the contract of the buffer are one scan of their bytes. -/
lemma feedAll_scan {room : Nat} {chunks : List Bytes}
    (enough : ∀ chunk ∈ chunks, 2 * chunk.length + 1 ≤ room) (s : EscapeScanner) :
    feedAll room s chunks = s.scan chunks.flatten := by
  induction chunks generalizing s with
  | nil => rfl
  | cons chunk chunks ih =>
    have hchunks := ih fun chunk hchunk => enough chunk (List.mem_cons_of_mem _ hchunk)
    rw [feedAll, feed_scan (enough chunk List.mem_cons_self), List.flatten_cons, scan_append]
    dsimp only
    rw [hchunks]

/--
However what is typed is cut into reads, the session gets what the lines of it say, up to the first that
begins with `~.`; and the client quits there, and only there.
-/
theorem escape_reads_lines {room : Nat} {chunks : List Bytes}
    (enough : ∀ chunk ∈ chunks, 2 * chunk.length + 1 ≤ room) :
    (feedAll room create chunks).out = sessionBytes chunks.flatten ∧
      (feedAll room create chunks).quit = asksToQuit chunks.flatten := by
  rw [feedAll_scan enough]
  exact scan_lines chunks.flatten

/-- A tilde doubled, one at the start of a line, and the quit, over five reads. -/
theorem escape_reads_lines_sample :
    (feedAll 9 create [[tilde], [tilde, 1, lf, tilde], [2, cr], [tilde], [dot, 3]]).out =
        [tilde, 1, lf, tilde, 2, cr] ∧
      (feedAll 9 create [[tilde], [tilde, 1, lf, tilde], [2, cr], [tilde], [dot, 3]]).quit = true := by
  have hlines := @escape_reads_lines 9
    [[tilde], [tilde, 1, lf, tilde], [2, cr], [tilde], [dot, 3]] (by decide)
  exact ⟨hlines.1.trans (by decide), hlines.2.trans (by decide)⟩

end EscapeScanner

end Zet.App
