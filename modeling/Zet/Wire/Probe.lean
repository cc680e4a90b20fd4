import Mathlib.Data.List.TakeWhile
import Zet.Wire.Armor

/-!
# The probe scanner

What the client reads of the installer's answers (`src/wire/probe.cpp`): a line scanner, as the one
for armor is, over lines that begin with a marker. `Announces` is the grammar of those lines, written
down without the tokenizer.

The tokenizer's empty token means both that none is left and that the next one is empty.
`parseHead_iff` says what the parser has read before it looks for a trailing field, and `Trails` is
what that last look lets through.
-/

namespace Zet.Wire
open Zet.Core Zet.Lib Zet.Lib.LineScanner

/-- `PROBE_MARKER`. -/
def probeMarker : Bytes := asciiBytes "ZET-PROBE"
/-- `HAVE_MARKER`. -/
def haveMarker : Bytes := asciiBytes "ZET-HAVE"
/-- `SEND_MARKER`. -/
def sendMarker : Bytes := asciiBytes "ZET-SEND"
/-- `STORED_MARKER`. -/
def storedMarker : Bytes := asciiBytes "ZET-STORED"
/-- `FAILED_MARKER`. -/
def failedMarker : Bytes := asciiBytes "ZET-FAILED "
/-- `PROBE_VERSION_1`. -/
def probeVersion1 : Bytes := asciiBytes "1"
/-- `MAX_PROBE_LINE`. -/
def maxProbeLine : Nat := 128
/-- `' '`. -/
def space : UInt8 := 32

/-- `ProbeAnswer`. -/
inductive ProbeAnswer where
  | info (arch : Bytes) (noExec : Bool)
  | present
  | send
  | stored
  | failed (reason : Bytes)
deriving DecidableEq, Repr

/-- `StartsWith`. -/
def startsWith (line marker : Bytes) : Bool := marker.isPrefixOf line

/-- `Next`, on the part of the line that is left: the token behind exactly one space, and what is
left behind the token. -/
def nextToken : Bytes → Bytes × Bytes
  | [] => ([], [])
  | c :: rest =>
    if c ≠ space then ([], c :: rest)
    else (rest.takeWhile (· ≠ space), rest.dropWhile (· ≠ space))

/-- `ParseProbe` up to its last check, with what is left of the line. -/
def parseHead (line : Bytes) : Option (Bytes × Bool × Bytes) :=
  if !startsWith line probeMarker then none
  else if (line.drop probeMarker.length).head? ≠ some space then none
  else
    let version := nextToken (line.drop probeMarker.length)
    if version.1 ≠ probeVersion1 then none
    else
      let arch := nextToken version.2
      if arch.1 = [] then none
      else
        let exec := nextToken arch.2
        if exec.1 = asciiBytes "noexec" then some (arch.1, true, exec.2)
        else if exec.1 = asciiBytes "exec" then some (arch.1, false, exec.2)
        else none

/-- `ParseProbe`. -/
def parseProbe (line : Bytes) : Option (Bytes × Bool) :=
  match parseHead line with
  | none => none
  | some (arch, noExec, rest) => if (nextToken rest).1 ≠ [] then none else some (arch, noExec)

/-- `ProbeScanner::EndLine`, with the answer it made ready; the scanner counts the markers it did not
recognise. -/
def probeEndLine (held : Bytes) (tooLong : Bool) (skipped : Nat) : Nat × Option ProbeAnswer :=
  let line := dropReturn held
  if !startsWith line (asciiBytes "ZET-") then (skipped, none)
  else if tooLong then (skipped + 1, none)
  else
    match parseProbe line with
    | some (arch, noExec) => (skipped, some (.info arch noExec))
    | none =>
      if line = haveMarker then (skipped, some .present)
      else if line = sendMarker then (skipped, some .send)
      else if line = storedMarker then (skipped, some .stored)
      else if startsWith line failedMarker then
        (skipped, some (.failed (line.drop failedMarker.length)))
      else if line = asciiBytes "ZET-FAILED" then (skipped, some (.failed []))
      else (skipped + 1, none)

/-- What makes a line scanner a `ProbeScanner`. -/
def probeJudge : Judge UInt8 Nat ProbeAnswer := ⟨maxProbeLine, newline, probeEndLine⟩

/-- The words of an info line behind the marker. -/
def infoLine (arch : Bytes) (noExec : Bool) : Bytes :=
  asciiBytes "ZET-PROBE 1 " ++ arch ++ asciiBytes (if noExec then " noexec" else " exec")

/-- The lines that are answers. -/
inductive Announces : Bytes → ProbeAnswer → Prop
  | info {arch : Bytes} {noExec : Bool} :
    arch ≠ [] → space ∉ arch → Announces (infoLine arch noExec) (.info arch noExec)
  | present : Announces (asciiBytes "ZET-HAVE") .present
  | send : Announces (asciiBytes "ZET-SEND") .send
  | stored : Announces (asciiBytes "ZET-STORED") .stored
  | failed : Announces (asciiBytes "ZET-FAILED") (.failed [])
  | failedFor {reason : Bytes} :
    Announces (asciiBytes "ZET-FAILED " ++ reason) (.failed reason)

/-- A line of the stream, up to its newline, that is an answer and fits the line buffer. -/
def Announced (line : Bytes) (answer : ProbeAnswer) : Prop :=
  line.length ≤ maxProbeLine ∧ Announces (dropReturn line) answer

/-- The answers of some lines, in order. -/
inductive Reads : List Bytes → List ProbeAnswer → Prop
  | nil : Reads [] []
  | answer {line lines answer answers} :
    Announced line answer → Reads lines answers → Reads (line :: lines) (answer :: answers)
  | other {line lines answers} :
    (∀ answer, ¬Announced line answer) → Reads lines answers → Reads (line :: lines) answers

/-- What is left behind a token starts with a space, if anything. -/
def AtSpace (rest : Bytes) : Prop := rest = [] ∨ rest.head? = some space

/-- An info line with more behind it: one space at the end, or two spaces and anything. -/
inductive TrailingSpace : Bytes → ProbeAnswer → Prop
  | mk {arch tail : Bytes} {noExec : Bool} :
    arch ≠ [] → space ∉ arch → AtSpace tail →
    TrailingSpace (infoLine arch noExec ++ space :: tail) (.info arch noExec)

/-- A line of the stream that fits the line buffer and is an info line with more behind it. -/
def Trails (line : Bytes) (answer : ProbeAnswer) : Prop :=
  line.length ≤ maxProbeLine ∧ TrailingSpace (dropReturn line) answer

section
variable {token rest line : Bytes}

/-- The next token behind a space. -/
lemma nextToken_space (rest : Bytes) : nextToken (space :: rest) =
    (rest.takeWhile (· ≠ space), rest.dropWhile (· ≠ space)) := by
  simp [nextToken]

/-- A token without a space inside is taken whole. -/
lemma nextToken_append (h : space ∉ token) (hrest : AtSpace rest) :
    nextToken (space :: (token ++ rest)) = (token, rest) := by
  have htoken : ∀ c ∈ token, decide (c ≠ space) = true := by
    intro c hc
    exact decide_eq_true (fun heq => h (heq ▸ hc))
  rw [nextToken_space, List.takeWhile_append_of_pos htoken, List.dropWhile_append_of_pos htoken]
  rcases hrest with rfl | hhead
  · simp
  · obtain ⟨tail, rfl⟩ := List.head?_eq_some_iff.mp hhead
    simp

/-- Where a space stands, a token is read behind it, up to a space or the end. -/
lemma nextToken_split (hspace : line.head? = some space) :
    line = space :: ((nextToken line).1 ++ (nextToken line).2) ∧ space ∉ (nextToken line).1 ∧
      AtSpace (nextToken line).2 := by
  obtain ⟨tail, rfl⟩ := List.head?_eq_some_iff.mp hspace
  rw [nextToken_space]
  refine ⟨by rw [List.takeWhile_append_dropWhile], ?_, ?_⟩
  · intro hmem
    have hne := List.mem_takeWhile_imp (p := fun c => decide (c ≠ space)) hmem
    exact absurd rfl (of_decide_eq_true hne)
  · cases hdrop : tail.dropWhile (· ≠ space) with
    | nil => exact .inl rfl
    | cons d more =>
      have hd := List.head?_dropWhile_not (fun c => decide (c ≠ space)) tail
      rw [hdrop] at hd
      exact .inr (by simpa using hd)

/-- Where no space stands there is no token. -/
lemma nextToken_none (hspace : line.head? ≠ some space) : nextToken line = ([], line) := by
  cases line with
  | nil => rfl
  | cons c tail => exact if_pos (fun heq => hspace (by rw [heq]; rfl))

/-- What a token that is not empty was read from. -/
lemma nextToken_ne_nil (hne : (nextToken line).1 ≠ []) :
    line = space :: ((nextToken line).1 ++ (nextToken line).2) ∧ space ∉ (nextToken line).1 ∧
      AtSpace (nextToken line).2 := by
  by_cases hspace : line.head? = some space
  · exact nextToken_split hspace
  · rw [nextToken_none hspace] at hne
    exact absurd rfl hne

/-- The last look finds nothing at the end, and at an empty token. -/
lemma nextToken_nil_iff (hrest : AtSpace rest) :
    (nextToken rest).1 = [] ↔ rest = [] ∨ ∃ tail, rest = space :: tail ∧ AtSpace tail := by
  rcases hrest with rfl | hhead
  · exact ⟨fun _ => .inl rfl, fun _ => rfl⟩
  · obtain ⟨tail, rfl⟩ := List.head?_eq_some_iff.mp hhead
    rw [nextToken_space]
    constructor
    · intro hnil
      refine .inr ⟨tail, rfl, ?_⟩
      cases tail with
      | nil => exact .inl rfl
      | cons c more =>
        refine .inr ?_
        by_contra hc
        have hne : decide (c ≠ space) = true := decide_eq_true (fun heq => hc (by rw [heq]; rfl))
        dsimp only at hnil
        rw [List.takeWhile_cons, if_pos hne] at hnil
        cases hnil
    · rintro (hnil | ⟨tail', htail, hat⟩)
      · cases hnil
      · obtain rfl := (List.cons.inj htail).2
        rcases hat with rfl | hhead
        · rfl
        · obtain ⟨more, rfl⟩ := List.head?_eq_some_iff.mp hhead
          simp

/-- The fields of an announcement. -/
lemma infoLine_eq (arch : Bytes) (noExec : Bool) (rest : Bytes) :
    infoLine arch noExec ++ rest = probeMarker ++ (space :: (probeVersion1 ++
      (space :: (arch ++ (space ::
        (asciiBytes (if noExec then "noexec" else "exec") ++ rest)))))) := by
  have hopen : asciiBytes "ZET-PROBE 1 " = probeMarker ++ (space :: (probeVersion1 ++ [space])) := by
    decide
  have hword : asciiBytes (if noExec then " noexec" else " exec") =
      space :: asciiBytes (if noExec then "noexec" else "exec") := by
    cases noExec <;> decide
  rw [infoLine, hopen, hword]
  simp

/-- What the parser has read before its last look: an info line, up to a space or the end. -/
lemma parseHead_iff {arch : Bytes} {noExec : Bool} :
    parseHead line = some (arch, noExec, rest) ↔
      arch ≠ [] ∧ space ∉ arch ∧ line = infoLine arch noExec ++ rest ∧ AtSpace rest := by
  constructor
  · intro h
    unfold parseHead at h
    split at h
    · cases h
    · next hmarker =>
      rw [Bool.not_eq_true, Bool.not_eq_false', startsWith, List.isPrefixOf_iff_prefix] at hmarker
      obtain ⟨tail, rfl⟩ := hmarker
      rw [List.drop_left] at h
      split at h
      · cases h
      · next hspace =>
        have hversion := nextToken_split (not_not.mp hspace)
        dsimp only at h
        split at h
        · cases h
        · next hone =>
          rw [not_not.mp hone] at hversion
          split at h
          · cases h
          · next hne =>
            obtain ⟨htail, harch, -⟩ := nextToken_ne_nil hne
            -- the last field is one of two words, and stands between spaces
            have hexec : ∀ word, word ≠ [] →
                (nextToken (nextToken (nextToken tail).2).2).1 = word →
                (nextToken (nextToken tail).2).2 = space :: (word ++
                  (nextToken (nextToken (nextToken tail).2).2).2) ∧
                AtSpace (nextToken (nextToken (nextToken tail).2).2).2 := by
              intro word hword heq
              subst heq
              obtain ⟨h₁, -, h₂⟩ := nextToken_ne_nil hword
              exact ⟨h₁, h₂⟩
            split at h
            · next hword =>
              cases h
              obtain ⟨hrest, hat⟩ := hexec _ (by decide) hword
              refine ⟨hne, harch, ?_, hat⟩
              rw [infoLine_eq]
              conv_lhs => rw [hversion.1, htail, hrest]
              rfl
            · split at h
              · next hword =>
                cases h
                obtain ⟨hrest, hat⟩ := hexec _ (by decide) hword
                refine ⟨hne, harch, ?_, hat⟩
                rw [infoLine_eq]
                conv_lhs => rw [hversion.1, htail, hrest]
                rfl
              · cases h
  · rintro ⟨hne, hspace, rfl, hrest⟩
    have hmarker : startsWith (infoLine arch noExec ++ rest) probeMarker = true := by
      rw [infoLine_eq, startsWith, List.isPrefixOf_iff_prefix]
      exact List.prefix_append _ _
    unfold parseHead
    rw [hmarker, infoLine_eq, List.drop_left, nextToken_append (by decide) (.inr rfl)]
    dsimp only
    rw [nextToken_append hspace (.inr rfl)]
    dsimp only
    rw [nextToken_append (by cases noExec <;> decide) hrest]
    cases noExec <;> simp [hne, show asciiBytes "exec" ≠ asciiBytes "noexec" by decide]

/-- A line that is accepted is an announcement, or one with a space behind it. -/
lemma parseProbe_eq_some {arch : Bytes} {noExec : Bool}
    (h : parseProbe line = some (arch, noExec)) :
    Announces line (.info arch noExec) ∨ TrailingSpace line (.info arch noExec) := by
  unfold parseProbe at h
  split at h
  · cases h
  · next arch' noExec' rest hhead =>
    split at h
    · cases h
    · next hlast =>
      cases h
      obtain ⟨hne, hspace, rfl, hrest⟩ := parseHead_iff.mp hhead
      rcases (nextToken_nil_iff hrest).mp (not_not.mp hlast) with rfl | ⟨tail, rfl, hat⟩
      · rw [List.append_nil]
        exact .inl (.info hne hspace)
      · exact .inr (.mk hne hspace hat)

/-- A head behind which the next token is empty is accepted. -/
lemma parseProbe_of_head {arch : Bytes} {noExec : Bool}
    (hhead : parseHead line = some (arch, noExec, rest)) (hrest : (nextToken rest).1 = []) :
    parseProbe line = some (arch, noExec) := by
  unfold parseProbe
  rw [hhead]
  exact if_neg (not_not.mpr hrest)

/-- An announcement is accepted. -/
lemma parseProbe_info {arch : Bytes} (noExec : Bool) (hne : arch ≠ []) (hspace : space ∉ arch) :
    parseProbe (infoLine arch noExec) = some (arch, noExec) :=
  parseProbe_of_head (parseHead_iff.mpr ⟨hne, hspace, (List.append_nil _).symm, .inl rfl⟩) rfl

/-- So is one behind which two spaces stand. -/
lemma parseProbe_trailing {arch tail : Bytes} (noExec : Bool) (hne : arch ≠ [])
    (hspace : space ∉ arch) (hat : AtSpace tail) :
    parseProbe (infoLine arch noExec ++ space :: tail) = some (arch, noExec) :=
  parseProbe_of_head (parseHead_iff.mpr ⟨hne, hspace, rfl, .inr rfl⟩)
    ((nextToken_nil_iff (.inr rfl)).mpr (.inr ⟨tail, rfl, hat⟩))

/-- A line without the marker is not. -/
lemma parseProbe_none (h : startsWith line probeMarker = false) : parseProbe line = none := by
  have hhead : parseHead line = none := by
    unfold parseHead
    rw [h]
    rfl
  unfold parseProbe
  rw [hhead]

/-- A line that reports failure is no announcement. -/
lemma failedFor_not_probe (reason : Bytes) :
    startsWith (asciiBytes "ZET-FAILED " ++ reason) probeMarker = false := rfl

/-- A line with such a tail is accepted. -/
lemma TrailingSpace.parsed {answer : ProbeAnswer} (h : TrailingSpace line answer) :
    parseProbe line ≠ none := by
  obtain ⟨hne, hspace, hat⟩ := h
  rw [parseProbe_trailing _ hne hspace hat]
  exact Option.some_ne_none _

/-- A line with more behind it is not of the grammar. -/
lemma TrailingSpace.not_announces {answer answer' : ProbeAnswer} (h : TrailingSpace line answer) :
    ¬Announces line answer' := by
  obtain ⟨hne, hspace, hat⟩ := h
  rename_i arch tail noExec
  generalize hline : infoLine arch noExec ++ space :: tail = line
  have hhead : parseHead (infoLine arch noExec ++ space :: tail) = some (arch, noExec, space :: tail) :=
    parseHead_iff.mpr ⟨hne, hspace, rfl, .inr rfl⟩
  have hparse := parseProbe_trailing noExec hne hspace hat
  rw [hline] at hhead hparse
  intro h'
  cases h' with
  | info hne' hspace' =>
    rw [parseHead_iff.mpr ⟨hne', hspace', (List.append_nil _).symm, .inl rfl⟩] at hhead
    cases hhead
  | failedFor =>
    rw [parseProbe_none (failedFor_not_probe _)] at hparse
    cases hparse
  | present =>
    rw [show parseProbe (asciiBytes "ZET-HAVE") = none by decide] at hparse
    cases hparse
  | send =>
    rw [show parseProbe (asciiBytes "ZET-SEND") = none by decide] at hparse
    cases hparse
  | stored =>
    rw [show parseProbe (asciiBytes "ZET-STORED") = none by decide] at hparse
    cases hparse
  | failed =>
    rw [show parseProbe (asciiBytes "ZET-FAILED") = none by decide] at hparse
    cases hparse

end

section
variable {line : Bytes} {answer : ProbeAnswer}

/-- A line with a marker of its own is not looked at as an info line. -/
lemma probeEndLine_marker {held : Bytes} {skipped : Nat} (hline : dropReturn held = line)
    (hzet : startsWith line (asciiBytes "ZET-") = true) (hnone : parseProbe line = none) :
    (probeEndLine held false skipped).2 =
      if line = haveMarker then some .present
      else if line = sendMarker then some .send
      else if line = storedMarker then some .stored
      else if startsWith line failedMarker then some (.failed (line.drop failedMarker.length))
      else if line = asciiBytes "ZET-FAILED" then some (.failed [])
      else none := by
  unfold probeEndLine
  rw [hline]
  simp only [hzet, hnone, Bool.not_true, Bool.false_eq_true, if_false]
  split
  · rfl
  split
  · rfl
  split
  · rfl
  split
  · rfl
  split <;> rfl

/-- At the end of the line the announcement is the answer. -/
lemma probeEndLine_probe {held arch : Bytes} {noExec : Bool} {skipped : Nat}
    (hparse : parseProbe (dropReturn held) = some (arch, noExec)) :
    (probeEndLine held false skipped).2 = some (.info arch noExec) := by
  have hzet : startsWith (dropReturn held) (asciiBytes "ZET-") = true := by
    by_contra hno
    have hprobe : startsWith (dropReturn held) probeMarker = false := by
      by_contra hyes
      rw [Bool.not_eq_false, startsWith, List.isPrefixOf_iff_prefix] at hyes
      refine hno ?_
      rw [startsWith, List.isPrefixOf_iff_prefix]
      have hpre : asciiBytes "ZET-" <+: probeMarker := ⟨asciiBytes "PROBE", by decide⟩
      exact hpre.trans hyes
    rw [parseProbe_none hprobe] at hparse
    cases hparse
  unfold probeEndLine
  simp only [hzet, hparse, Bool.not_true, Bool.false_eq_true, if_false]

/-- A line that is held whole is answered when it is of the grammar, or an info line with more
behind it. -/
lemma probeEndLine_iff {held : Bytes} {skipped : Nat} :
    (probeEndLine held false skipped).2 = some answer ↔
      Announces (dropReturn held) answer ∨ TrailingSpace (dropReturn held) answer := by
  constructor
  · intro h
    cases hparse : parseProbe (dropReturn held) with
    | some parsed =>
      obtain ⟨arch, noExec⟩ := parsed
      rw [probeEndLine_probe hparse] at h
      cases h
      exact parseProbe_eq_some hparse
    | none =>
      -- a line that does not parse is answered by its marker
      cases hzet : startsWith (dropReturn held) (asciiBytes "ZET-") with
      | false =>
        unfold probeEndLine at h
        simp [hzet] at h
      | true =>
        rw [probeEndLine_marker rfl hzet hparse] at h
        left
        split at h
        · next heq =>
          cases h
          rw [heq]
          exact .present
        split at h
        · next heq =>
          cases h
          rw [heq]
          exact .send
        split at h
        · next heq =>
          cases h
          rw [heq]
          exact .stored
        split at h
        · next hfor =>
          cases h
          rw [startsWith, List.isPrefixOf_iff_prefix] at hfor
          obtain ⟨reason, heq⟩ := hfor
          rw [← heq, List.drop_left]
          exact .failedFor
        split at h
        · next heq =>
          cases h
          rw [heq]
          exact .failed
        · cases h
  · rintro (h | h)
    · generalize hline : dropReturn held = line at h
      cases h with
      | info hne hspace => exact probeEndLine_probe (by rw [hline, parseProbe_info _ hne hspace])
      | present => rw [probeEndLine_marker hline (by decide) (by decide)]; decide
      | send => rw [probeEndLine_marker hline (by decide) (by decide)]; decide
      | stored => rw [probeEndLine_marker hline (by decide) (by decide)]; decide
      | failed => rw [probeEndLine_marker hline (by decide) (by decide)]; decide
      | @failedFor reason =>
        -- a reason behind the marker is none of the bare markers
        have hfor : startsWith (asciiBytes "ZET-FAILED " ++ reason) failedMarker = true := by
          rw [startsWith, List.isPrefixOf_iff_prefix]
          exact List.prefix_append _ _
        have hne : ∀ marker, startsWith marker failedMarker = false →
            asciiBytes "ZET-FAILED " ++ reason ≠ marker := by
          intro marker hmarker heq
          rw [← heq, hfor] at hmarker
          cases hmarker
        rw [probeEndLine_marker hline rfl (parseProbe_none (failedFor_not_probe _)),
          if_neg (hne _ (by decide)), if_neg (hne _ (by decide)), if_neg (hne _ (by decide)),
          if_pos hfor]
        exact congrArg (fun text => some (ProbeAnswer.failed text)) (List.drop_left ..)
    · generalize hline : dropReturn held = line at h
      obtain ⟨hne, hspace, hat⟩ := h
      exact probeEndLine_probe (by rw [hline, parseProbe_trailing _ hne hspace hat])

/-- What the scanner makes of a line of the stream. -/
lemma close_iff {skipped : Nat} :
    (probeJudge.close (line.take probeJudge.limit) (decide (probeJudge.limit < line.length))
        skipped).2 = some answer ↔ Announced line answer ∨ Trails line answer := by
  change (probeEndLine (line.take maxProbeLine) (decide (maxProbeLine < line.length)) skipped).2 =
    some answer ↔ _
  rcases Nat.lt_or_ge maxProbeLine line.length with hlong | hfits
  · rw [decide_eq_true hlong]
    have hcut : (probeEndLine (line.take maxProbeLine) true skipped).2 = none := by
      cases hzet : startsWith (dropReturn (line.take maxProbeLine)) (asciiBytes "ZET-") <;>
        simp [probeEndLine, hzet]
    rw [hcut]
    constructor
    · intro h
      cases h
    · rintro (⟨hle, -⟩ | ⟨hle, -⟩) <;> exact absurd hle (by omega)
  · rw [decide_eq_false (by omega), List.take_of_length_le hfits, probeEndLine_iff]
    constructor
    · rintro (h | h)
      · exact .inl ⟨hfits, h⟩
      · exact .inr ⟨hfits, h⟩
    · rintro (⟨-, h⟩ | ⟨-, h⟩)
      · exact .inl h
      · exact .inr h

end

/-- The answers of some lines are those of the grammar when no line trails. -/
lemma reads_verdicts {lines : List Bytes} {skipped : Nat}
    (clean : ∀ line ∈ lines, ∀ answer, ¬Trails line answer) :
    Reads lines (verdicts probeJudge skipped lines).1 := by
  induction lines generalizing skipped with
  | nil => exact .nil
  | cons line lines ih =>
    have hrest : ∀ t, Reads lines (verdicts probeJudge t lines).1 :=
      fun t => ih fun l hl => clean l (List.mem_cons_of_mem _ hl)
    have hline := fun answer => @close_iff line answer skipped
    rw [verdicts]
    cases hclose : (probeJudge.close (line.take probeJudge.limit)
        (decide (probeJudge.limit < line.length)) skipped).2 with
    | none =>
      refine .other (fun answer hann => ?_) (hrest _)
      rw [(hline _).mpr (.inl hann)] at hclose
      cases hclose
    | some answer =>
      rcases (hline _).mp hclose with hann | htrails
      · exact .answer hann (hrest _)
      · exact absurd htrails (clean line (List.mem_cons_self ..) answer)

/-- The scanner gives at least the answers of the grammar, and more of them where a line trails. -/
lemma Reads.length_le {lines : List Bytes} {answers : List ProbeAnswer} (h : Reads lines answers)
    (skipped : Nat) :
    answers.length ≤ (verdicts probeJudge skipped lines).1.length ∧
      ((∃ line ∈ lines, ∃ answer, Trails line answer) →
        answers.length < (verdicts probeJudge skipped lines).1.length) := by
  induction h generalizing skipped with
  | nil => exact ⟨Nat.le_refl _, fun ⟨_, hmem, _⟩ => (by cases hmem)⟩
  | @answer line lines answer answers hann _ ih =>
    obtain ⟨hle, hlt⟩ := ih (probeJudge.close (line.take probeJudge.limit)
      (decide (probeJudge.limit < line.length)) skipped).1
    rw [verdicts, close_iff.mpr (.inl hann)]
    refine ⟨Nat.succ_le_succ hle, ?_⟩
    rintro ⟨l, hmem, answer', htrails⟩
    rcases List.mem_cons.mp hmem with rfl | hmem
    · exact absurd hann.2 htrails.2.not_announces
    · exact Nat.succ_lt_succ (hlt ⟨l, hmem, answer', htrails⟩)
  | @other line lines answers _ _ ih =>
    obtain ⟨hle, hlt⟩ := ih (probeJudge.close (line.take probeJudge.limit)
      (decide (probeJudge.limit < line.length)) skipped).1
    rw [verdicts]
    dsimp only
    rw [List.length_append]
    refine ⟨by omega, ?_⟩
    rintro ⟨l, hmem, answer', htrails⟩
    rcases List.mem_cons.mp hmem with rfl | hmem
    · rw [close_iff.mpr (.inr htrails)]
      simp only [Option.toList_some, List.length_singleton]
      omega
    · have hmore := hlt ⟨l, hmem, answer', htrails⟩
      omega

/-- Calls one after another: the bytes they consumed, what they answered and the scanner after
them. What a call left of its chunk may be in the next one, or anything else. -/
inductive Fed : Bytes → List ProbeAnswer → LineScanner UInt8 Nat → Prop
  | start : Fed [] [] (fresh 0)
  | call {stream answers s chunk n answer s'} :
    Fed stream answers s → feed probeJudge s chunk = ((n, answer), s') →
    Fed (stream ++ chunk.take n) (answers ++ answer.toList) s'

/-- The calls so far amount to the lines of what they consumed. -/
lemma Fed.eq {stream : Bytes} {answers : List ProbeAnswer} {s : LineScanner UInt8 Nat}
    (h : Fed stream answers s) :
    verdicts probeJudge 0 (linesFrom newline [] stream).1 = (answers, s.inner) ∧
      Holds probeJudge s (linesFrom newline [] stream).2 := by
  induction h with
  | start => exact ⟨rfl, Holds.fresh probeJudge 0⟩
  | call _ hfeed ih =>
    obtain ⟨hanswers, hholds⟩ := ih
    have used := feed_consumed hholds hfeed
    have hused := used.answers
    change verdicts probeJudge _ (linesFrom newline _ _).1 = _ at hused
    rw [linesFrom_append, verdicts_append, hanswers, hused]
    exact ⟨rfl, used.holds⟩

/-- A chunk fed until nothing is left is calls one after another. -/
lemma Fed.feedAll {stream : Bytes} {answers : List ProbeAnswer} {s : LineScanner UInt8 Nat}
    {chunk : Bytes} (h : Fed stream answers s) {fuel : Nat} (enough : chunk.length ≤ fuel) :
    Fed (stream ++ chunk) (answers ++ (feedAll probeJudge fuel s chunk).1)
      (feedAll probeJudge fuel s chunk).2 := by
  induction fuel generalizing stream answers s chunk with
  | zero =>
    obtain rfl : chunk = [] := List.eq_nil_of_length_eq_zero (Nat.le_zero.mp enough)
    have hnone : feed probeJudge s [] = ((0, none), s) := rfl
    exact h.call hnone
  | succ fuel ih =>
    rw [LineScanner.feedAll]
    cases hfeed : feed probeJudge s chunk with
    | mk result s' =>
      obtain ⟨n, answer⟩ := result
      have used := feed_consumed h.eq.2 hfeed
      have hcall := h.call hfeed
      cases answer with
      | none =>
        rw [used.whole rfl, List.take_length] at hcall
        exact hcall
      | some b =>
        have hpos := used.pos
        have hlen : (chunk.drop n).length ≤ fuel := by
          rw [List.length_drop]
          omega
        have hrest := ih hcall hlen
        rw [List.append_assoc, List.take_append_drop, List.append_assoc] at hrest
        exact hrest

/-- Chunks, each fed until nothing is left of it, are calls one after another. -/
lemma Fed.feedChunks {stream : Bytes} {answers : List ProbeAnswer} {s : LineScanner UInt8 Nat}
    (h : Fed stream answers s) (chunks : List Bytes) :
    Fed (stream ++ chunks.flatten) (answers ++ (feedChunks probeJudge s chunks).1)
      (feedChunks probeJudge s chunks).2 := by
  induction chunks generalizing stream answers s with
  | nil => simpa [LineScanner.feedChunks] using h
  | cons chunk chunks ih =>
    have hrest := ih (h.feedAll (Nat.le_refl chunk.length))
    rw [List.append_assoc, List.append_assoc] at hrest
    exact hrest

/-- A call that answers has consumed everything up to the line it answers. -/
def StopsAtLines (stream : Bytes) (s : LineScanner UInt8 Nat) : Prop :=
  ∀ chunk n answer s', feed probeJudge s chunk = ((n, some answer), s') →
    ∃ before line, linesFrom newline [] (stream ++ chunk.take n) = (before ++ [line], []) ∧
      (Announced line answer ∨ Trails line answer)

/-- What was fed has stopped at the ends of lines. -/
lemma Fed.stopsAtLines {stream : Bytes} {answers : List ProbeAnswer} {s : LineScanner UInt8 Nat}
    (h : Fed stream answers s) : StopsAtLines stream s := by
  intro chunk n answer s' hfeed
  obtain ⟨before, line, t, hlines, -, hverdict, hlast⟩ :=
    (feed_consumed h.eq.2 hfeed).found answer rfl
  refine ⟨(linesFrom newline [] stream).1 ++ before, line, ?_, close_iff.mp hverdict⟩
  have hopen : (linesFrom newline (linesFrom newline [] stream).2 (chunk.take n)).2 = [] := by
    obtain ⟨front, hfront⟩ := List.getLast?_eq_some_iff.mp hlast
    rw [hfront, linesFrom_append]
    simp [linesFrom, probeJudge]
  rw [linesFrom_append, hopen]
  change (_ ++ (linesFrom newline _ _).1, _) = _
  rw [show (linesFrom newline _ (chunk.take n)).1 = before ++ [line] from hlines, List.append_assoc]

/-- The scanner answers precisely the lines of the grammar, and stops behind each, as long as no
info line with a space behind it comes. -/
theorem probeScanner_reads {stream : Bytes} {answers : List ProbeAnswer}
    {s : LineScanner UInt8 Nat} (fed : Fed stream answers s) :
    (Reads (linesFrom newline [] stream).1 answers ∧ StopsAtLines stream s) ↔
      ∀ line ∈ (linesFrom newline [] stream).1, ∀ answer, ¬Trails line answer := by
  have hanswers : (verdicts probeJudge 0 (linesFrom newline [] stream).1).1 = answers :=
    congrArg Prod.fst fed.eq.1
  constructor
  · rintro ⟨hreads, -⟩ line hmem answer htrails
    have hmore := (hreads.length_le 0).2 ⟨line, hmem, answer, htrails⟩
    rw [hanswers] at hmore
    exact Nat.lt_irrefl _ hmore
  · intro clean
    refine ⟨?_, fed.stopsAtLines⟩
    rw [← hanswers]
    exact reads_verdicts clean

/-- Two spaces, and anything, behind an info line: it is answered, and is not of the grammar. -/
theorem probeScanner_trailing :
    ∃ answers s, Fed (asciiBytes "ZET-PROBE 1 x exec  junk\n") answers s ∧
      answers = [.info (asciiBytes "x") false] ∧
      ¬Reads (linesFrom newline [] (asciiBytes "ZET-PROBE 1 x exec  junk\n")).1 answers := by
  have hfed := Fed.start.feedChunks [asciiBytes "ZET-PROBE 1 x exec  junk\n"]
  have hlines : (linesFrom newline [] (asciiBytes "ZET-PROBE 1 x exec  junk\n")).1 =
      [infoLine (asciiBytes "x") false ++ space :: asciiBytes " junk"] := by
    decide
  have htrails : Trails (infoLine (asciiBytes "x") false ++ space :: asciiBytes " junk")
      (.info (asciiBytes "x") false) :=
    ⟨by decide, .mk (by decide) (by decide) (.inr rfl)⟩
  refine ⟨_, _, by simpa using hfed, by decide, ?_⟩
  rw [hlines]
  intro hreads
  have hmore := (hreads.length_le 0).2 ⟨_, List.mem_cons_self .., _, htrails⟩
  exact absurd hmore (by decide)

/-- An answer with noise in front of it, in two chunks. -/
theorem probeScanner_reads_sample :
    ∃ s, Fed (asciiBytes "motd\nZET-HAVE\r\n") [.present] s ∧
      Reads (linesFrom newline [] (asciiBytes "motd\nZET-HAVE\r\n")).1 [.present] := by
  have hfed := Fed.start.feedChunks [asciiBytes "motd\nZET-HA", asciiBytes "VE\r\n"]
  have hlines : (linesFrom newline [] (asciiBytes "motd\nZET-HAVE\r\n")).1 =
      [asciiBytes "motd", asciiBytes "ZET-HAVE\r"] := by
    decide
  refine ⟨_, hfed, ((probeScanner_reads hfed).mpr ?_).1⟩
  rw [show [] ++ [asciiBytes "motd\nZET-HA", asciiBytes "VE\r\n"].flatten =
    asciiBytes "motd\nZET-HAVE\r\n" by decide, hlines]
  intro line hmem answer htrails
  have hparse := htrails.2.parsed
  have hnone : ∀ l ∈ [asciiBytes "motd", asciiBytes "ZET-HAVE\r"],
      parseProbe (dropReturn l) = none := by
    decide
  rw [hnone line hmem] at hparse
  exact absurd rfl hparse

end Zet.Wire
