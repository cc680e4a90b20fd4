import Mathlib.Data.List.Basic
import Zet.Core.Bytes
import Zet.Lib.ShellLexer

/-!
# Shell quoting

`src/core/shell_quote.cpp`, the one place that builds text for a shell to read, and the remote command of
`src/client/client.cpp` it is used in. `shellQuote_inert` reads the result back with the shell's own
rules (`Zet.Lib.ShellLexer`): wherever it stands between words it is one word, and the word is the text.
-/

namespace Zet.Core
open Zet.Lib.Shell

/-- `ShellQuotedSize`. -/
def shellQuotedSize (text : Bytes) : Nat :=
  text.foldl (fun size c => size + if c = singleQuote then 4 else 1) 2

/-- The body of the loop of `ShellQuote`: a quote closes the word, is written escaped, and opens a new one. -/
def escapeQuote (c : UInt8) : Bytes :=
  if c = singleQuote then [singleQuote, backslash, singleQuote, singleQuote] else [c]

/-- `ShellQuote`, with room for `out` bytes. -/
def shellQuote (text : Bytes) (out : Nat) : Except ProtoError Bytes :=
  if 0 ∈ text then .error .malformedField
  else if out < shellQuotedSize text then .error .bufferTooSmall
  else .ok (singleQuote :: text.flatMap escapeQuote ++ [singleQuote])

/-- `Quoted`. -/
def quoted (text : Bytes) : Bytes :=
  match shellQuote text (shellQuotedSize text) with
  | .ok out => out
  | .error _ => []

/-- `RemoteCommand`: the agent's path, quoted, and a constant word. -/
def remoteCommand (agent : Bytes) : Bytes := quoted agent ++ (" --bootstrap".toList.map Char.toUInt8)

variable {text : Bytes}

/-- The size is two quotes and the escaped text. -/
lemma shellQuotedSize_eq (text : Bytes) : shellQuotedSize text = 2 + (text.flatMap escapeQuote).length := by
  have hfold : ∀ size, text.foldl (fun size c => size + if c = singleQuote then 4 else 1) size =
      size + (text.flatMap escapeQuote).length := by
    induction text with
    | nil => exact fun size => rfl
    | cons c text ih =>
      intro size
      rw [List.foldl_cons, ih, List.flatMap_cons, List.length_append, escapeQuote]
      split <;> simp [Nat.add_assoc]
  exact hfold 2

/-- Inside the quotes the shell reads the text as it stands. -/
lemma scan_escaped (text : Bytes) (pieces : List Piece) :
    scan (.single pieces) (text.flatMap escapeQuote) = ([], .single (pieces ++ text.map .quoted)) := by
  induction text generalizing pieces with
  | nil => simp [scan]
  | cons c text ih =>
    rw [List.flatMap_cons, scan_append]
    have hc : scan (.single pieces) (escapeQuote c) = ([], .single (pieces ++ [.quoted c])) := by
      unfold escapeQuote
      split
      · next h => rw [h]; rfl
      · next h => rw [scan, step_single h]; rfl
    rw [hc, ih, List.append_assoc]
    rfl

/-- The last quote closes the word. -/
lemma scan_quoted (text : Bytes) : scan (.single []) (text.flatMap escapeQuote ++ [singleQuote]) =
    ([], .word (text.map .quoted)) := by
  rw [scan_append, scan_escaped]
  rfl

/-- The text of a word nothing expands in is what its bytes spell. -/
lemma escaped_injective {text more : Bytes}
    (h : text.flatMap escapeQuote = more.flatMap escapeQuote) : text = more := by
  have hscan := scan_escaped text []
  rw [h, scan_escaped] at hscan
  have hpieces := State.single.inj (congrArg Prod.snd hscan)
  exact (List.map_injective_iff.mpr (fun _ _ hc => Piece.quoted.inj hc) hpieces).symm

/-- What a text becomes. -/
def quotedText (text : Bytes) : Bytes := singleQuote :: text.flatMap escapeQuote ++ [singleQuote]

/-- A clean text that fits is quoted. -/
lemma shellQuote_ok (clean : 0 ∉ text) {room : Nat} (fits : shellQuotedSize text ≤ room) :
    shellQuote text room = .ok (quotedText text) := by
  rw [shellQuote, if_neg clean, if_neg (Nat.not_lt.mpr fits), quotedText]

/-- The quoted text has the size announced for it. -/
lemma length_quotedText (text : Bytes) : (quotedText text).length = shellQuotedSize text := by
  rw [shellQuotedSize_eq]
  simp [quotedText]
  omega

/-- Between words it is one word, and the word is the text. -/
lemma lex_quotedText {before after : Bytes} {left right : List Token} (start : BeforeWord before)
    (stop : EndsWord after) (hleft : lex before = some left) (hright : lex after = some right) :
    lex (before ++ quotedText text ++ after) = some (left ++ .word (text.map .quoted) :: right) :=
  lex_insert (scan_quoted text) start stop hleft hright

/-- Different texts are quoted differently. -/
lemma quotedText_injective {other : Bytes} (h : quotedText other = quotedText text) : other = text :=
  escaped_injective (List.append_cancel_right (List.cons.inj h).2)

/-- A text without NUL is quoted into exactly as many bytes as announced, which a shell reads, wherever
they stand between words, as the one word that is the text, with nothing in it to be expanded. Texts are
told apart by what they are quoted into. -/
theorem shellQuote_inert (clean : 0 ∉ text) {room : Nat} (fits : shellQuotedSize text ≤ room) :
    ∃ out, shellQuote text room = .ok out ∧ out.length = shellQuotedSize text ∧
      (∀ before after left right, BeforeWord before → EndsWord after → lex before = some left →
        lex after = some right →
        lex (before ++ out ++ after) = some (left ++ .word (text.map .quoted) :: right)) ∧
      ∀ other room', shellQuote other room' = .ok out → other = text := by
  refine ⟨_, shellQuote_ok clean fits, length_quotedText text,
    fun _ _ _ _ start stop hleft hright => lex_quotedText start stop hleft hright,
    fun other room' h => ?_⟩
  unfold shellQuote at h
  split at h
  · cases h
  split at h
  · cases h
  · exact quotedText_injective (Except.ok.inj h)

/-- A quote and a dollar sign stay one word of two characters. -/
theorem shellQuote_inert_sample :
    ∃ out, shellQuote [0x27, 0x24] 7 = .ok out ∧ out.length = 7 ∧
      lex ([0x61, 0x20] ++ out ++ [0x0A]) =
        some [.word [.plain 0x61], .word [.quoted 0x27, .quoted 0x24], .newline] := by
  obtain ⟨out, hout, hlen, hlex, -⟩ := shellQuote_inert (by decide : (0 : UInt8) ∉ [0x27, 0x24])
    (by decide : shellQuotedSize [0x27, 0x24] ≤ 7)
  refine ⟨out, hout, hlen, hlex [0x61, 0x20] [0x0A] [.word [.plain 0x61]] [.newline] (by decide) ?_
    (by decide) (by decide)⟩
  rintro c rest ⟨⟩
  decide

/-- The login shell reads two words: the agent's path, whatever it is, and the flag. -/
theorem lex_remoteCommand (clean : 0 ∉ text) : lex (remoteCommand text) =
    some [.word (text.map .quoted), .word ("--bootstrap".toList.map fun c => .plain c.toUInt8)] := by
  have hright : lex (" --bootstrap".toList.map Char.toUInt8) =
      some [.word ("--bootstrap".toList.map fun c => .plain c.toUInt8)] := by decide
  have hstop : EndsWord (" --bootstrap".toList.map Char.toUInt8) := by
    rintro c rest h
    obtain ⟨rfl, -⟩ := List.cons.inj h
    decide
  rw [remoteCommand, quoted, shellQuote_ok clean (Nat.le_refl _)]
  exact lex_quotedText (by decide : BeforeWord []) hstop rfl hright

end Zet.Core
