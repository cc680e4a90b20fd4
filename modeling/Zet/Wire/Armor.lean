import Zet.Lib.LineScanner
import Zet.Wire.Base64

/-!
# Armor

The blocks that bootstrap frames travel in over ssh (`src/wire/armor.cpp`): `writeArmor` writes one,
and the scanner finds them in whatever else a remote shell prints. The scanner is a line scanner, and
`ArmorState.endLine` is what it makes of a line.

Whatever came before, a begin marker on a line of its own leaves the scanner at the start of a block
(`endLine_begin`); from there the lines of a written block are collected and decoded
(`verdicts_block`).
-/

namespace Zet.Wire
open Zet.Core Zet.Lib Zet.Lib.LineScanner

/-- `ARMOR_BEGIN`. -/
def armorBegin : Bytes := asciiBytes "-----BEGIN ZET BOOTSTRAP-----"
/-- `ARMOR_END`. -/
def armorEnd : Bytes := asciiBytes "-----END ZET BOOTSTRAP-----"
/-- `MAX_ARMORED_FRAME`. -/
def maxArmoredFrame : Nat := 2048
/-- `MAX_ARMOR_TEXT`. -/
def maxArmorText : Nat := (maxArmoredFrame + 2) / 3 * 4
/-- `MAX_ARMOR_LINE`. -/
def maxArmorLine : Nat := 128
/-- `ARMOR_LINE_WIDTH`. -/
def armorLineWidth : Nat := 64

/-- `\n`. -/
def newline : UInt8 := 10
/-- `\r`. -/
def carriageReturn : UInt8 := 13

/-- `ArmoredSize`. -/
def armoredSize (frameSize : Nat) : Nat :=
  let text := (frameSize + 2) / 3 * 4
  let lines := (text + armorLineWidth - 1) / armorLineWidth
  1 + armorBegin.length + 1 + text + lines + armorEnd.length + 1

/-- The loop of `WriteArmor` over the encoded text, in at most `fuel` lines. -/
def armorLines : (fuel : Nat) → Bytes → List Bytes
  | 0, _ => []
  | fuel + 1, body =>
    if body.isEmpty then []
    else body.take armorLineWidth :: armorLines fuel (body.drop armorLineWidth)

/-- `WriteArmor` into `room` characters. -/
def writeArmor (frame : Bytes) (room : Nat) : Except ProtoError Bytes :=
  if frame.length > maxArmoredFrame then .error .lengthLimitExceeded
  else if room < armoredSize frame.length then .error .bufferTooSmall
  else (base64Encode frame maxArmorText).map fun body =>
    [newline] ++ armorBegin ++ [newline] ++
      (armorLines body.length body).flatMap (· ++ [newline]) ++ armorEnd ++ [newline]

/-- `IsArmorText`. -/
def isArmorText (c : UInt8) : Bool := c == base64Padding || base64Alphabet.contains c

/-- A line without the carriage return a pty may have put at its end. -/
def dropReturn (line : Bytes) : Bytes :=
  if line.getLast? = some carriageReturn then line.dropLast else line

/-- What `ArmorScanner` knows between lines. -/
structure ArmorState where
  inBlock : Bool
  text : Bytes
  skipped : Nat
deriving DecidableEq, Repr

namespace ArmorState

/-- A fresh `ArmorScanner`. -/
def start : ArmorState := ⟨false, [], 0⟩

/-- `ArmorScanner::Abandon`. -/
def abandon (a : ArmorState) : ArmorState := ⟨false, [], a.skipped + 1⟩

/-- `ArmorScanner::EndLine`, with the block it made ready. -/
def endLine (held : Bytes) (tooLong : Bool) (a : ArmorState) : ArmorState × Option Bytes :=
  let line := dropReturn held
  if !a.inBlock then
    (if !tooLong ∧ line = armorBegin then { a with inBlock := true, text := [] } else a, none)
  else if tooLong then (a.abandon, none)
  else if line = armorEnd then
    match base64Decode a.text maxArmoredFrame with
    | .ok decoded => ({ a with inBlock := false }, some decoded)
    | .error _ => ({ a with inBlock := false, skipped := a.skipped + 1 }, none)
  else if line = armorBegin then
    -- A block that never ended, then a fresh one: the second may be real.
    ({ a with skipped := a.skipped + 1, text := [] }, none)
  else if line = [] ∨ ¬line.all isArmorText ∨ line.length > maxArmorText - a.text.length then
    (a.abandon, none)
  else ({ a with text := a.text ++ line }, none)

end ArmorState

/-- What makes a line scanner an `ArmorScanner`. -/
def armorJudge : Judge UInt8 ArmorState Bytes := ⟨maxArmorLine, newline, ArmorState.endLine⟩

/-- A text with every newline turned into a carriage return and a newline. -/
def toCrlf (text : Bytes) : Bytes :=
  text.flatMap fun c => if c = newline then [carriageReturn, newline] else [c]

section
variable {l ending : Bytes} {a : ArmorState}

/-- What may stand between a line and its newline. -/
def Ending (ending : Bytes) : Prop := ending = [] ∨ ending = [carriageReturn]

/-- The carriage return of a line ending is dropped, and nothing else. -/
lemma dropReturn_append (h : carriageReturn ∉ l) (hending : Ending ending) :
    dropReturn (l ++ ending) = l := by
  unfold dropReturn
  rcases hending with rfl | rfl
  · rw [List.append_nil, if_neg]
    intro hlast
    exact h (List.mem_of_getLast? hlast)
  · simp

/-- A line short enough is judged whole. -/
lemma close_short (short : l.length ≤ armorLineWidth) (hending : Ending ending) :
    armorJudge.close ((l ++ ending).take armorJudge.limit)
        (decide (armorJudge.limit < (l ++ ending).length)) a =
      ArmorState.endLine (l ++ ending) false a := by
  have hlen : (l ++ ending).length ≤ 128 := by
    rcases hending with rfl | rfl
    · simp [armorLineWidth] at short ⊢
      omega
    · simp [armorLineWidth] at short ⊢
      omega
  have hlimit : armorJudge.limit = 128 := rfl
  rw [hlimit, List.take_of_length_le hlen, decide_eq_false (by omega)]
  rfl

/-- A begin marker starts a block, whatever was going on. -/
lemma endLine_begin (hending : Ending ending) :
    ∃ k, ArmorState.endLine (armorBegin ++ ending) false a = (⟨true, [], k⟩, none) := by
  unfold ArmorState.endLine
  rw [dropReturn_append (by decide) hending]
  obtain ⟨inBlock, text, skipped⟩ := a
  cases inBlock with
  | false => exact ⟨skipped, by simp⟩
  | true => exact ⟨skipped + 1, by simp [show armorBegin ≠ armorEnd by decide]⟩

/-- What a line of a written block is made of. -/
structure TextLine (l : Bytes) : Prop where
  nonempty : l ≠ []
  short : l.length ≤ armorLineWidth
  armor : ∀ c ∈ l, isArmorText c = true

/-- A line of text has no carriage return. -/
lemma TextLine.noReturn (h : TextLine l) : carriageReturn ∉ l :=
  fun hmem => absurd (h.armor _ hmem) (by decide)

/-- Nor a newline. -/
lemma TextLine.noNewline (h : TextLine l) : newline ∉ l :=
  fun hmem => absurd (h.armor _ hmem) (by decide)

/-- A marker is no line of text. -/
lemma TextLine.ne_marker (h : TextLine l) {marker : Bytes} (hmarker : (45 : UInt8) ∈ marker) :
    l ≠ marker := by
  rintro rfl
  exact absurd (h.armor _ hmarker) (by decide)

/-- A line of text in a block is collected. -/
lemma endLine_text (h : TextLine l) {text : Bytes} {k : Nat}
    (room : text.length + l.length ≤ maxArmorText) (hending : Ending ending) :
    ArmorState.endLine (l ++ ending) false ⟨true, text, k⟩ = (⟨true, text ++ l, k⟩, none) := by
  have hall : l.all isArmorText = true := List.all_eq_true.mpr h.armor
  have hroom : ¬(l = [] ∨ ¬l.all isArmorText ∨ l.length > maxArmorText - text.length) := by
    rintro (hnil | hbad | hlong)
    · exact h.nonempty hnil
    · exact hbad hall
    · omega
  unfold ArmorState.endLine
  rw [dropReturn_append h.noReturn hending]
  dsimp only
  rw [if_neg (by decide), if_neg (by decide), if_neg (h.ne_marker (by decide)),
    if_neg (h.ne_marker (by decide)), if_neg hroom]

/-- The end of a block decodes what was collected. -/
lemma endLine_end {text decoded : Bytes} {k : Nat}
    (hdecode : base64Decode text maxArmoredFrame = .ok decoded) (hending : Ending ending) :
    ArmorState.endLine (armorEnd ++ ending) false ⟨true, text, k⟩ =
      (⟨false, text, k⟩, some decoded) := by
  unfold ArmorState.endLine
  rw [dropReturn_append (by decide) hending]
  simp [hdecode]

end

section
variable {ending : Bytes} {lines : List Bytes} {text decoded : Bytes} {k : Nat} {a : ArmorState}

/-- The lines of a block's text are collected in order. -/
lemma verdicts_text (hlines : ∀ l ∈ lines, TextLine l) (hending : Ending ending)
    (room : text.length + lines.flatten.length ≤ maxArmorText) :
    verdicts armorJudge ⟨true, text, k⟩ (lines.map (· ++ ending)) =
      ([], ⟨true, text ++ lines.flatten, k⟩) := by
  induction lines generalizing text with
  | nil => simp [verdicts]
  | cons l lines ih =>
    have hl := hlines l (List.mem_cons_self ..)
    rw [List.flatten_cons, List.length_append] at room
    have hclose := close_short (a := ⟨true, text, k⟩) hl.short hending
    rw [endLine_text hl (by omega) hending] at hclose
    rw [List.map_cons, verdicts_quiet _ hclose,
      ih (fun l' hl' => hlines l' (List.mem_cons_of_mem _ hl')) (by rw [List.length_append]; omega)]
    simp

/-- A written block is reported, whatever the scanner was doing. -/
lemma verdicts_block (hlines : ∀ l ∈ lines, TextLine l) (hending : Ending ending)
    (room : lines.flatten.length ≤ maxArmorText)
    (hdecode : base64Decode lines.flatten maxArmoredFrame = .ok decoded) :
    (verdicts armorJudge a ((armorBegin :: lines ++ [armorEnd]).map (· ++ ending))).1 =
      [decoded] := by
  obtain ⟨k, hbegin⟩ := endLine_begin (a := a) hending
  have hclose := close_short (a := a) (l := armorBegin) (by decide) hending
  rw [hbegin] at hclose
  have hend := close_short (a := ⟨true, lines.flatten, k⟩) (l := armorEnd) (by decide) hending
  rw [endLine_end hdecode hending] at hend
  have htext : verdicts armorJudge ⟨true, [], k⟩ (lines.map (· ++ ending)) = _ :=
    verdicts_text hlines hending (by simpa using room)
  rw [List.nil_append] at htext
  rw [List.cons_append, List.map_cons, verdicts_quiet _ hclose, List.map_append, verdicts_append,
    htext]
  simp only [List.map_cons, List.map_nil, verdicts, hend]
  rfl

end

/-- The lines are the body in pieces. -/
lemma armorLines_flatten (fuel : Nat) (body : Bytes) (h : body.length ≤ fuel) :
    (armorLines fuel body).flatten = body := by
  induction fuel generalizing body with
  | zero =>
    obtain rfl := List.eq_nil_of_length_eq_zero (Nat.le_zero.mp h)
    rfl
  | succ fuel ih =>
    rw [armorLines]
    split
    · next hempty => simp [List.isEmpty_iff.mp hempty]
    · next hne =>
      have hpos : 0 < body.length := List.length_pos_iff.mpr (by simpa using hne)
      rw [List.flatten_cons, ih _ (by rw [List.length_drop, armorLineWidth]; omega),
        List.take_append_drop]

/-- As many as fill it. -/
lemma armorLines_length (fuel : Nat) (body : Bytes) (h : body.length ≤ fuel) :
    (armorLines fuel body).length = (body.length + armorLineWidth - 1) / armorLineWidth := by
  have hwidth : armorLineWidth = 64 := rfl
  induction fuel generalizing body with
  | zero =>
    obtain rfl := List.eq_nil_of_length_eq_zero (Nat.le_zero.mp h)
    rfl
  | succ fuel ih =>
    rw [armorLines]
    split
    · next hempty =>
      rw [List.isEmpty_iff.mp hempty]
      rfl
    · next hne =>
      have hpos : 0 < body.length := List.length_pos_iff.mpr (by simpa using hne)
      rw [List.length_cons, ih _ (by rw [List.length_drop]; omega), List.length_drop]
      simp only [hwidth]
      omega

/-- Each of them is a line of text. -/
lemma armorLines_textLine (fuel : Nat) {body : Bytes} (h : ∀ c ∈ body, isArmorText c = true) :
    ∀ l ∈ armorLines fuel body, TextLine l := by
  induction fuel generalizing body with
  | zero => intro l hl; cases hl
  | succ fuel ih =>
    rw [armorLines]
    split
    · intro l hl
      cases hl
    · next hne =>
      intro l hl
      rcases List.mem_cons.mp hl with rfl | hl
      · refine ⟨?_, List.length_take_le _ _, fun c hc => h c (List.mem_of_mem_take hc)⟩
        have hpos : 0 < body.length := List.length_pos_iff.mpr (by simpa using hne)
        apply List.ne_nil_of_length_pos
        rw [List.length_take, armorLineWidth]
        omega
      · exact ih (fun c hc => h c (List.mem_of_mem_drop hc)) l hl

/-- Encoded text is armor text. -/
lemma isArmorText_base64 (bytes : Bytes) : ∀ c ∈ base64Text bytes, isArmorText c = true := by
  have halphabet : ∀ i < 64, isArmorText (base64Alphabet.getD i 0) = true := by
    intro i hi
    have hmem : base64Alphabet.getD i 0 ∈ base64Alphabet := by
      rw [List.getD_eq_getElem?_getD, List.getElem?_eq_getElem (l := base64Alphabet) hi]
      exact List.getElem_mem hi
    rw [isArmorText, List.contains_iff_mem.mpr hmem, Bool.or_true]
  have hquad : ∀ (bytes : Bytes), ∀ c ∈ base64Quad bytes, isArmorText c = true := by
    intro bytes c hc
    obtain ⟨k, -, rfl⟩ := List.mem_map.mp hc
    split
    · exact halphabet _ (Nat.mod_lt _ (by decide))
    · rfl
  induction bytes using base64Text.induct with
  | case1 => intro c hc; cases hc
  | case2 a => rw [base64Text]; exact hquad _
  | case3 a b => rw [base64Text]; exact hquad _
  | case4 a b c rest ih =>
    rw [base64Text]
    intro x hx
    rcases List.mem_append.mp hx with hx | hx
    · exact hquad _ x hx
    · exact ih x hx

/-- The lines of a stream that ends them all. -/
lemma linesFrom_lines {ending : Bytes} {lines : List Bytes} (hending : Ending ending)
    (hlines : ∀ l ∈ lines, newline ∉ l) :
    linesFrom newline [] (lines.flatMap (· ++ (ending ++ [newline]))) =
      (lines.map (· ++ ending), []) := by
  induction lines with
  | nil => rfl
  | cons l lines ih =>
    have hl : newline ∉ l ++ ending := by
      rw [List.mem_append, not_or]
      refine ⟨hlines l (List.mem_cons_self ..), ?_⟩
      rcases hending with rfl | rfl <;> decide
    have hsplit : (l :: lines).flatMap (· ++ (ending ++ [newline])) =
        (l ++ ending) ++ newline :: lines.flatMap (· ++ (ending ++ [newline])) := by simp
    rw [hsplit, linesFrom_line hl, ih fun l' hl' => hlines l' (List.mem_cons_of_mem _ hl')]
    simp

/-- The line endings of two texts, one after the other. -/
lemma toCrlf_append (a b : Bytes) : toCrlf (a ++ b) = toCrlf a ++ toCrlf b := List.flatMap_append

/-- A line without an ending is left alone. -/
lemma toCrlf_line {l : Bytes} (h : newline ∉ l) : toCrlf l = l := by
  unfold toCrlf
  induction l with
  | nil => rfl
  | cons c l ih =>
    rw [List.mem_cons, not_or] at h
    rw [List.flatMap_cons, if_neg (Ne.symm h.1), ih h.2]
    rfl

/-- What is written, as lines: the block starts with a newline, and every line ends with one. -/
structure Written (frame text : Bytes) (lines : List Bytes) : Prop where
  spelled : text = newline :: (armorBegin :: lines ++ [armorEnd]).flatMap (· ++ [newline])
  size : text.length = armoredSize frame.length
  ofText : ∀ l ∈ lines, TextLine l
  whole : lines.flatten = base64Text frame

/-- Every line takes one byte more. -/
lemma length_flatMap_newline (lines : List Bytes) :
    (lines.flatMap (· ++ [newline])).length = lines.flatten.length + lines.length := by
  induction lines with
  | nil => rfl
  | cons l lines ih =>
    simp only [List.flatMap_cons, List.flatten_cons, List.length_append, List.length_cons,
      List.length_nil, ih]
    omega

/-- A frame that is short enough, given room enough, is written. -/
lemma writeArmor_ok {frame : Bytes} {room : Nat} (short : frame.length ≤ maxArmoredFrame)
    (enough : armoredSize frame.length ≤ room) :
    ∃ text lines, writeArmor frame room = .ok text ∧ Written frame text lines := by
  have hlength := length_base64Text frame
  have hencode : base64Encode frame maxArmorText = .ok (base64Text frame) := by
    refine if_neg ?_
    simp only [maxArmorText]
    omega
  have hflatten := armorLines_flatten _ (base64Text frame) (Nat.le_refl _)
  have hcount := armorLines_length _ (base64Text frame) (Nat.le_refl _)
  set lines := armorLines (base64Text frame).length (base64Text frame) with hlines
  have hwritten : writeArmor frame room = .ok ([newline] ++ armorBegin ++ [newline] ++
      lines.flatMap (· ++ [newline]) ++ armorEnd ++ [newline]) := by
    rw [writeArmor, if_neg (by omega), if_neg (by omega), hencode]
    rfl
  refine ⟨_, lines, hwritten, by simp, ?_, armorLines_textLine _ (isArmorText_base64 frame), hflatten⟩
  simp only [List.length_append, length_flatMap_newline, hflatten, hcount, hlength, armoredSize,
    List.length_singleton]
  omega

/-- No line of it has a newline inside. -/
lemma Written.noNewline {frame text : Bytes} {lines : List Bytes} (w : Written frame text lines) :
    ∀ l ∈ armorBegin :: lines ++ [armorEnd], newline ∉ l := by
  intro l hl
  rcases List.mem_append.mp hl with hl | hl
  · rcases List.mem_cons.mp hl with rfl | hl
    · decide
    · exact (w.ofText l hl).noNewline
  · rw [List.mem_singleton.mp hl]
    decide

/-- The block with every newline turned into two characters. -/
lemma Written.toCrlf {frame text : Bytes} {lines : List Bytes} (w : Written frame text lines) :
    toCrlf text = [carriageReturn] ++ newline ::
      (armorBegin :: lines ++ [armorEnd]).flatMap (· ++ ([carriageReturn] ++ [newline])) := by
  have hline : ∀ l : Bytes, newline ∉ l →
      Wire.toCrlf (l ++ [newline]) = l ++ ([carriageReturn] ++ [newline]) := by
    intro l hl
    rw [toCrlf_append, toCrlf_line hl]
    rfl
  have hlines : ∀ ls : List Bytes, (∀ l ∈ ls, newline ∉ l) →
      Wire.toCrlf (ls.flatMap (· ++ [newline])) =
        ls.flatMap (· ++ ([carriageReturn] ++ [newline])) := by
    intro ls hls
    induction ls with
    | nil => rfl
    | cons l ls ih =>
      rw [List.flatMap_cons, toCrlf_append, hline l (hls l (List.mem_cons_self ..)),
        ih fun l' hl' => hls l' (List.mem_cons_of_mem _ hl')]
      rfl
  rw [w.spelled, ← List.singleton_append, toCrlf_append, hlines _ w.noNewline]
  rfl

/-- A block behind noise, its newlines as they are or turned into two characters, comes after what the
noise came to, whose last line the block's first newline ends. -/
lemma Written.found {frame text ending armor : Bytes} {lines : List Bytes}
    (w : Written frame text lines) (short : frame.length ≤ maxArmoredFrame) (hending : Ending ending)
    (harmor : armor = ending ++ newline ::
      (armorBegin :: lines ++ [armorEnd]).flatMap (· ++ (ending ++ [newline])))
    (noise more : Bytes) :
    ∃ a, (verdicts armorJudge .start (linesFrom newline [] (noise ++ armor ++ more)).1).1 =
      (verdicts armorJudge .start (linesFrom newline [] (noise ++ (ending ++ [newline]))).1).1 ++
        frame :: (verdicts armorJudge a (linesFrom newline [] more).1).1 := by
  have hlength := length_base64Text frame
  have hends : newline ∉ ending := by
    rcases hending with rfl | rfl <;> decide
  have hroom : lines.flatten.length ≤ maxArmorText := by
    rw [w.whole, hlength]
    simp only [maxArmorText]
    omega
  have hdecode : base64Decode lines.flatten maxArmoredFrame = .ok frame := by
    rw [w.whole]
    exact base64Decode_text short
  have hnoise : linesFrom newline [] (noise ++ (ending ++ [newline])) =
      ((linesFrom newline [] noise).1 ++ [(linesFrom newline [] noise).2 ++ ending], []) := by
    rw [linesFrom_append, linesFrom_line hends]
    rfl
  have hsplit : (linesFrom newline [] (noise ++ armor ++ more)).1 =
      (linesFrom newline [] (noise ++ (ending ++ [newline]))).1 ++
        ((armorBegin :: lines ++ [armorEnd]).map (· ++ ending) ++ (linesFrom newline [] more).1) := by
    have hframed : noise ++ armor ++ more = (noise ++ (ending ++ [newline])) ++
        ((armorBegin :: lines ++ [armorEnd]).flatMap (· ++ (ending ++ [newline])) ++ more) := by
      rw [harmor]
      simp
    rw [hframed, linesFrom_append, hnoise, linesFrom_append, linesFrom_lines hending w.noNewline]
  set before := verdicts armorJudge .start (linesFrom newline [] (noise ++ (ending ++ [newline]))).1
  have hblock := verdicts_block (a := before.2) w.ofText hending hroom hdecode
  refine ⟨(verdicts armorJudge before.2
    ((armorBegin :: lines ++ [armorEnd]).map (· ++ ending))).2, ?_⟩
  rw [hsplit, verdicts_append, verdicts_append, hblock]
  rfl

/-- A scanner that read noise and then a block reported its frame last. -/
lemma Written.reported {frame text noise ending armor : Bytes} {lines : List Bytes}
    (w : Written frame text lines) (short : frame.length ≤ maxArmoredFrame) (hending : Ending ending)
    (harmor : armor = ending ++ newline ::
      (armorBegin :: lines ++ [armorEnd]).flatMap (· ++ (ending ++ [newline])))
    {chunks : List Bytes} (hchunks : chunks.flatten = noise ++ armor) :
    (feedChunks armorJudge (fresh .start) chunks).1.getLast? = some frame := by
  have hfed := congrArg Prod.fst (feedChunks_eq (Holds.fresh armorJudge .start) chunks).1
  obtain ⟨a, hfound⟩ := w.found short hending harmor noise []
  rw [List.append_nil] at hfound
  rw [← hfed, hchunks]
  exact (congrArg List.getLast? hfound).trans (List.getLast?_concat ..)

/-- A frame in armor is found behind any noise, in any chunks and with either newline; it takes
exactly the room it says; what a scanner reports does not depend on the chunks; and base64 spells
every frame in one way. -/
theorem armor_survives {frame : Bytes} (short : frame.length ≤ maxArmoredFrame) (noise : Bytes)
    (crlf : Bool) :
    (∀ room, armoredSize frame.length ≤ room → ∃ text, writeArmor frame room = .ok text ∧
      text.length = armoredSize frame.length ∧
      ∀ chunks, chunks.flatten = noise ++ (if crlf then toCrlf text else text) →
        (feedChunks armorJudge (fresh .start) chunks).1.getLast? = some frame) ∧
    (∀ chunks chunks' : List Bytes, chunks.flatten = chunks'.flatten →
      (feedChunks armorJudge (fresh .start) chunks).1 =
        (feedChunks armorJudge (fresh .start) chunks').1) ∧
    (∀ bytes text room room', base64Encode bytes room = .ok text → bytes.length ≤ room' →
      base64Decode text room' = .ok bytes) ∧
    ∀ bytes text room, base64Decode text room = .ok bytes →
      base64Encode bytes text.length = .ok text := by
  refine ⟨?_, ?_, ?_, ?_⟩
  · intro room enough
    obtain ⟨text, lines, htext, w⟩ := writeArmor_ok short enough
    refine ⟨text, htext, w.size, ?_⟩
    intro chunks hchunks
    cases crlf with
    | false => exact w.reported short (.inl rfl) (by simpa using w.spelled) hchunks
    | true => exact w.reported short (.inr rfl) w.toCrlf hchunks
  · intro chunks chunks' hsame
    have hone := (feedChunks_eq (Holds.fresh armorJudge .start) chunks).1
    have htwo := (feedChunks_eq (Holds.fresh armorJudge .start) chunks').1
    rw [hsame, htwo] at hone
    exact (congrArg Prod.fst hone).symm
  · intro bytes text room room' hencode hroom
    unfold base64Encode at hencode
    split at hencode
    · cases hencode
    · cases hencode
      exact base64Decode_text hroom
  · intro bytes text room hdecode
    have hcanonical := base64Decode_canonical hdecode
    have hlength := length_base64Text bytes
    rw [hcanonical] at hlength
    unfold base64Encode
    rw [if_neg (by omega), hcanonical]

/-- A frame of two bytes behind a block that never ended, in two chunks. -/
theorem armor_survives_sample :
    ∃ text, writeArmor [1, 2] 100 = .ok text ∧
      (feedChunks armorJudge (fresh .start)
        [armorBegin ++ [newline, 65], 66 :: text]).1.getLast? = some [1, 2] := by
  obtain ⟨text, htext, -, hfed⟩ := (@armor_survives [1, 2] (by decide)
    (armorBegin ++ [newline, 65, 66]) false).1 100 (by decide)
  exact ⟨text, htext, hfed _ (by simp)⟩

end Zet.Wire
