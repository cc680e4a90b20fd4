import Mathlib.Tactic.Common

/-!
# How a shell reads words

Token recognition and quoting of the POSIX shell (XCU 2.2 and 2.3), byte by byte: `step` takes one byte
in one of the states the rules tell apart, `scan` a text, and `lex` is the tokens of a whole text, or
nothing where a quotation is left open. Nothing is expanded here. Instead every byte of a word says what
may still become of it (`Piece`): a word all of whose bytes are `quoted` is the word it spells, as it
stands, whatever the rest of the shell does.

A command substitution is not read as a whole: its text is read by the same rules, wherever it stands.
Backquotes are bytes of a word like others, and the lines of a here-document are read as words.

`lex_insert` is the rule for text put between words, outside of backquotes and here-documents: it is read
as if it stood alone.
-/

namespace Zet.Lib.Shell

/-- A byte of a word. -/
inductive Piece where
  /-- Outside quotes: expansions, splitting and patterns apply. -/
  | plain (c : UInt8)
  /-- Inside double quotes, and still the start of an expansion. -/
  | soft (c : UInt8)
  /-- As it stands. -/
  | quoted (c : UInt8)
deriving DecidableEq, Repr

inductive Token where
  | word (pieces : List Piece)
  | operator (text : List UInt8)
  | newline
deriving DecidableEq, Repr

inductive State where
  | between
  | comment
  | operator (text : List UInt8)
  | word (pieces : List Piece)
  /-- Behind a backslash, in a word or before one. -/
  | escaped (pieces : Option (List Piece))
  | single (pieces : List Piece)
  | double (pieces : List Piece)
  | doubleEscaped (pieces : List Piece)
deriving DecidableEq, Repr

def singleQuote : UInt8 := 0x27
def doubleQuote : UInt8 := 0x22
def backslash : UInt8 := 0x5C
def dollar : UInt8 := 0x24
def backquote : UInt8 := 0x60
def numberSign : UInt8 := 0x23

def isBlank (c : UInt8) : Bool := c = 0x20 || c = 0x09

def isNewline (c : UInt8) : Bool := c = 0x0A

def startsOperator (c : UInt8) : Bool :=
  c ∈ ['&', '|', ';', '<', '>', '(', ')'].map Char.toUInt8

/-- The operators that are longer than their first byte. -/
def longOperators : List (List UInt8) :=
  [['&', '&'], ['|', '|'], [';', ';'], ['<', '<'], ['>', '>'], ['<', '&'], ['>', '&'], ['<', '>'],
    ['<', '<', '-'], ['>', '|']].map (List.map Char.toUInt8)

instance (text : List UInt8) : Decidable (text ∈ longOperators) :=
  decidable_of_iff (∃ op ∈ longOperators, op = text) (by simp)

/-- A byte where no token has begun. -/
def open_ (c : UInt8) : List Token × State :=
  if isBlank c then ([], .between)
  else if isNewline c then ([.newline], .between)
  else if startsOperator c then ([], .operator [c])
  else if c = numberSign then ([], .comment)
  else if c = backslash then ([], .escaped none)
  else if c = singleQuote then ([], .single [])
  else if c = doubleQuote then ([], .double [])
  else ([], .word [.plain c])

/-- One byte, with the tokens it ends. -/
def step : State → UInt8 → List Token × State
  | .between, c => open_ c
  | .comment, c => if isNewline c then ([.newline], .between) else ([], .comment)
  | .operator text, c =>
    if text ++ [c] ∈ longOperators then ([], .operator (text ++ [c]))
    else (.operator text :: (open_ c).1, (open_ c).2)
  | .word pieces, c =>
    if isBlank c then ([.word pieces], .between)
    else if isNewline c then ([.word pieces, .newline], .between)
    else if startsOperator c then ([.word pieces], .operator [c])
    else if c = backslash then ([], .escaped (some pieces))
    else if c = singleQuote then ([], .single pieces)
    else if c = doubleQuote then ([], .double pieces)
    else ([], .word (pieces ++ [.plain c]))
  | .escaped pieces, c =>
    -- a line that goes on starts no word
    if isNewline c then ([], pieces.elim .between .word)
    else ([], .word (pieces.getD [] ++ [.quoted c]))
  | .single pieces, c =>
    if c = singleQuote then ([], .word pieces) else ([], .single (pieces ++ [.quoted c]))
  | .double pieces, c =>
    if c = doubleQuote then ([], .word pieces)
    else if c = backslash then ([], .doubleEscaped pieces)
    else if c = dollar ∨ c = backquote then ([], .double (pieces ++ [.soft c]))
    else ([], .double (pieces ++ [.quoted c]))
  | .doubleEscaped pieces, c =>
    if isNewline c then ([], .double pieces)
    else if c ∈ [dollar, backquote, doubleQuote, backslash] then ([], .double (pieces ++ [.quoted c]))
    else ([], .double (pieces ++ [.quoted backslash, .quoted c]))

/-- A text, with the tokens that end in it. -/
def scan (s : State) : List UInt8 → List Token × State
  | [] => ([], s)
  | c :: text => ((step s c).1 ++ (scan (step s c).2 text).1, (scan (step s c).2 text).2)

/-- The tokens the end of the text ends. -/
def State.finish : State → Option (List Token)
  | .between | .comment => some []
  | .operator text => some [.operator text]
  | .word pieces => some [.word pieces]
  | _ => none

/-- The tokens of a text read from a state on. -/
def lexFrom (s : State) (text : List UInt8) : Option (List Token) :=
  (scan s text).2.finish.map ((scan s text).1 ++ ·)

/-- The tokens of a text. -/
def lex (text : List UInt8) : Option (List Token) := lexFrom .between text

/-- The next byte can start a word. -/
def State.AtWord : State → Prop
  | .between | .operator _ => True
  | _ => False

instance : DecidablePred State.AtWord := fun s => by
  cases s <;> unfold State.AtWord <;> infer_instance

/-- The text ends where a word can start. -/
def BeforeWord (text : List UInt8) : Prop := (scan .between text).2.AtWord

instance : DecidablePred BeforeWord := fun text => inferInstanceAs (Decidable (scan .between text).2.AtWord)

/-- The text starts by ending the word before it. -/
def EndsWord (text : List UInt8) : Prop :=
  ∀ c rest, text = c :: rest → isBlank c ∨ isNewline c ∨ startsOperator c

variable {s : State} {text more : List UInt8} {pieces : List Piece}

/-- Scanning two texts, one after the other. -/
lemma scan_append (s : State) (text more : List UInt8) : scan s (text ++ more) =
    ((scan s text).1 ++ (scan (scan s text).2 more).1, (scan (scan s text).2 more).2) := by
  induction text generalizing s with
  | nil => simp [scan]
  | cons c text ih => simp [scan, ih]

/-- Lexing two texts, the second in the state the first one left. -/
lemma lexFrom_append (s : State) (text more : List UInt8) : lexFrom s (text ++ more) =
    (lexFrom (scan s text).2 more).map ((scan s text).1 ++ ·) := by
  simp [lexFrom, scan_append, Function.comp_def]

/-- Inside single quotes everything but the quote is as it stands. -/
lemma step_single {c : UInt8} (h : c ≠ singleQuote) :
    step (.single pieces) c = ([], .single (pieces ++ [.quoted c])) := if_neg h

/-- Where a word can start, a quote starts one, and ends what was before. -/
lemma step_quote (h : s.AtWord) : ∃ tokens, s.finish = some tokens ∧
    step s singleQuote = (tokens, .single []) := by
  cases s with
  | between => exact ⟨[], rfl, rfl⟩
  | operator text =>
    have hlong : text ++ [singleQuote] ∉ longOperators := by
      intro hmem
      have hlast : ∀ op ∈ longOperators, op.getLast? ≠ some singleQuote := by decide
      exact hlast _ hmem (by simp)
    exact ⟨[.operator text], rfl, if_neg hlong⟩
  | _ => exact h.elim

/-- What ends a word is read as if it stood alone. -/
lemma lexFrom_word (h : EndsWord more) :
    lexFrom (.word pieces) more = (lex more).map (.word pieces :: ·) := by
  cases more with
  | nil => rfl
  | cons c rest =>
    have hstep : step (.word pieces) c = (.word pieces :: (open_ c).1, (open_ c).2) := by
      rw [step, open_]
      rcases h c rest rfl with hc | hc | hc
      · rw [if_pos hc, if_pos hc]
      · by_cases hb : isBlank c
        · rw [if_pos hb, if_pos hb]
        · rw [if_neg hb, if_neg hb, if_pos hc, if_pos hc]
      · by_cases hb : isBlank c
        · rw [if_pos hb, if_pos hb]
        · by_cases hn : isNewline c
          · rw [if_neg hb, if_neg hb, if_pos hn, if_pos hn]
          · rw [if_neg hb, if_neg hb, if_neg hn, if_neg hn, if_pos hc, if_pos hc]
    simp only [lex, lexFrom, scan, hstep]
    rw [step, Option.map_map]
    rfl

/-- A text that starts with a quote and leaves one word open is that word, wherever it is put between
words. -/
theorem lex_insert {before body after : List UInt8} {left right : List Token}
    (reads : scan (.single []) body = ([], .word pieces)) (start : BeforeWord before)
    (stop : EndsWord after) (hleft : lex before = some left) (hright : lex after = some right) :
    lex (before ++ singleQuote :: body ++ after) = some (left ++ .word pieces :: right) := by
  obtain ⟨tokens, hfinish, hstep⟩ := step_quote start
  have hscan : scan (scan .between before).2 (singleQuote :: body) = (tokens, .word pieces) := by
    rw [scan, hstep, reads, List.append_nil]
  have hbefore : (scan .between before).1 ++ tokens = left := by
    rw [lex, lexFrom, hfinish] at hleft
    exact Option.some.inj hleft
  rw [List.append_assoc, lex, lexFrom_append, lexFrom_append, hscan, lexFrom_word stop, hright]
  simp [← hbefore]

end Zet.Lib.Shell
