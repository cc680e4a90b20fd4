import Zet.Terminal.Emulation

/-!
# Terminal text

Every character is printed exactly once when its encoding comes in (`VtParser.feed_encode`), what a
malformed sequence prints is U+FFFD, and a byte that continues no character is read as if nothing had
been pending. So whatever the bytes, no cell ever holds a control.
-/

namespace Zet.Terminal
open Zet.Core Zet.Lib

namespace VtParser

variable {p : VtParser} {rows : Nat} {raw : UInt8}

/-- `FeedByte` for every byte, with the calls made. -/
def feed (rows : Nat) (p : VtParser) : Bytes → VtParser × List Call
  | [] => (p, [])
  | raw :: bytes =>
    let fed := p.feedByte rows raw
    let rest := fed.1.feed rows bytes
    (rest.1, fed.2 ++ rest.2)

/-- What is printed for a sequence that is cut short. -/
def cut (p : VtParser) : List Call := if 0 < p.utf8Remaining then [.putChar 0xFFFD 1] else []

/-- The parser without the sequence it was reading. -/
def whole (p : VtParser) : VtParser := { p with utf8Remaining := 0 }

/-- A tail neither cancels nor escapes. -/
lemma tail_ne : ∀ b, Utf8.IsTail b → ¬(b = 0x18 ∨ b = 0x1A) ∧ b ≠ 0x1B :=
  forall_byte (by decide +kernel)

/-- A lead byte is none of the others. -/
lemma lead_ne : ∀ b, 0 < Utf8.tails b → (¬(b = 0x18 ∨ b = 0x1A) ∧ b ≠ 0x1B) ∧ 0xC0 ≤ b ∧
    isUtf8Continuation b = false :=
  forall_byte (by decide +kernel)

/-- A byte of text is none of the others. -/
lemma text_ne : ∀ b, IsText b → (¬(b = 0x18 ∨ b = 0x1A) ∧ b ≠ 0x1B) ∧ ¬0xC0 ≤ b ∧ ¬b < 0x20 ∧ b ≠ 0x7F ∧
    isUtf8Continuation b = false :=
  forall_byte (by unfold IsText; decide +kernel)

/-- A byte that continues no sequence, in Ground. -/
lemma feedByte_ground (hground : p.state = .ground)
    (hraw : ¬(raw = 0x18 ∨ raw = 0x1A) ∧ raw ≠ 0x1B) (hcont : isUtf8Continuation raw = false) :
    p.feedByte rows raw = ((p.whole.plainByte rows raw).1, p.cut ++ (p.whole.plainByte rows raw).2) := by
  have hbypass : p.state ≠ .bypass := by
    rw [hground]
    decide
  unfold feedByte cut
  rw [if_neg hbypass, if_neg hraw.1, if_neg hraw.2]
  split
  · rw [if_neg (by rw [hcont]; decide)]
    rfl
  · next hnone =>
    have hwhole : p.whole = p := by
      have hzero : p.utf8Remaining = 0 := by omega
      unfold whole
      rw [← hzero]
    rw [hwhole]
    rfl

/-- A byte that continues the sequence. -/
lemma feedByte_tail (hground : p.state = .ground) (hpending : 0 < p.utf8Remaining)
    (htail : Utf8.IsTail raw) : p.feedByte rows raw = p.continuationByte raw := by
  have hne := tail_ne raw htail
  have hbypass : p.state ≠ .bypass := by
    rw [hground]
    decide
  unfold feedByte
  rw [if_neg hbypass, if_neg hne.1, if_neg hne.2, if_pos hpending,
    if_pos ((isUtf8Continuation_iff raw).mpr htail)]

/-- What a complete sequence prints. -/
def shown (cp : Nat) : List Call :=
  if 0x80 ≤ cp ∧ cp ≤ 0x9F then [] else [.putChar cp (widthOf cp)]

/-- A tail with more to come adds its bits. -/
lemma continuationByte_more (hmore : 1 < p.utf8Remaining) :
    p.continuationByte raw =
      ({ p with
        utf8Accumulator := p.utf8Accumulator * 64 + raw.toNat % 64
        utf8Remaining := p.utf8Remaining - 1 }, []) := by
  have hne : p.utf8Remaining - 1 ≠ 0 := by omega
  unfold continuationByte
  dsimp only
  rw [if_pos hne, accumulate]

/-- The last tail completes the code point. -/
lemma continuationByte_last (hground : p.state = .ground) (hlast : p.utf8Remaining = 1) :
    p.continuationByte raw =
      ({ p with
        utf8Accumulator := p.utf8Accumulator * 64 + raw.toNat % 64
        utf8Remaining := 0 }, shown (p.completed raw)) := by
  unfold continuationByte shown
  dsimp only
  rw [hlast, if_neg (by decide), accumulate]
  split
  · next hc1 => exact congrArg _ (if_pos hc1).symm
  · next hc1 => exact congrArg _ (if_neg hc1).symm

/-- The tail of a sequence, to its end. -/
lemma feed_tail (rows : Nat) {tail : Bytes} (hground : p.state = .ground) (hremaining : p.utf8Remaining = tail.length)
    (hpos : 0 < tail.length) (htail : ∀ b ∈ tail, Utf8.IsTail b) :
    p.feed rows tail =
      ({ p with utf8Accumulator := Utf8.extend p.utf8Accumulator tail, utf8Remaining := 0 },
        shown (decoded p.utf8SeqLen (Utf8.extend p.utf8Accumulator tail))) := by
  induction tail generalizing p with
  | nil => cases hpos
  | cons b tail ih =>
    have hb := htail b (List.mem_cons_self ..)
    rw [feed, feedByte_tail hground (hremaining ▸ hpos) hb]
    cases tail with
    | nil =>
      rw [continuationByte_last hground hremaining]
      exact congrArg _ (List.append_nil _)
    | cons b' tail =>
      have hmore : 1 < p.utf8Remaining := by
        rw [hremaining, List.length_cons, List.length_cons]
        omega
      have hrest := ih
        (p := { p with
          utf8Accumulator := p.utf8Accumulator * 64 + b.toNat % 64
          utf8Remaining := p.utf8Remaining - 1 })
        hground (congrArg (· - 1) hremaining) (Nat.succ_pos _)
        fun x hx => htail x (List.mem_cons_of_mem _ hx)
      rw [continuationByte_more hmore]
      dsimp only
      rw [hrest]
      rfl

/-- Text bytes are one column wide. -/
lemma widthOf_ascii : ∀ n, n < 0x7F → 0x20 ≤ n → widthOf n = 1 := by
  decide +kernel

/-- A printable character is printed exactly once when its encoding is fed to a parser in Ground, and
leaves nothing pending. -/
theorem feed_encode (hground : p.state = .ground) (c : Char) (hc : IsPrintable c.toNat) :
    (p.feed rows (String.utf8EncodeChar c)).2 = p.cut ++ [.putChar c.toNat (widthOf c.toNat)] ∧
      (p.feed rows (String.utf8EncodeChar c)).1.state = .ground ∧
      (p.feed rows (String.utf8EncodeChar c)).1.utf8Remaining = 0 := by
  obtain ⟨hlow, hdel, hc1, hscalar⟩ := hc
  rcases Nat.lt_or_ge c.toNat 0x80 with hascii | hwide
  · have hencode : String.utf8EncodeChar c = [UInt8.ofNat c.toNat] := if_pos (Nat.le_of_lt_succ hascii)
    have hnat := Utf8.toNat_byte (n := c.toNat) (by omega)
    have htext : IsText (UInt8.ofNat c.toNat) := by
      unfold IsText
      rw [UInt8.le_iff_toNat_le, UInt8.le_iff_toNat_le, hnat]
      exact ⟨hlow, show c.toNat ≤ 0x7E by omega⟩
    obtain ⟨hne, hlead, hcontrol, hdel', hcont⟩ := text_ne _ htext
    have hplain : p.whole.plainByte rows (UInt8.ofNat c.toNat) =
        (p.whole, [.putChar c.toNat (widthOf c.toNat)]) := by
      have hstate : p.whole.state = .ground := hground
      have htext' : 0x20 ≤ UInt8.ofNat c.toNat ∧ UInt8.ofNat c.toNat ≤ 0x7E := htext
      unfold plainByte machineByte
      rw [if_neg fun h => hlead h.1, if_neg hcontrol, if_neg hdel', hstate]
      dsimp only
      rw [if_pos htext', hnat, widthOf_ascii _ (by omega) hlow]
    rw [hencode, feed, feedByte_ground hground hne hcont, hplain]
    exact ⟨by rw [feed, List.append_nil], hground, rfl⟩
  · obtain ⟨lead, tail, hencode, hlead, hpos, htail, hvalue, hleast⟩ := Utf8.exists_encode c hwide
    obtain ⟨hne, hhigh, hcont⟩ := lead_ne lead (hlead ▸ hpos)
    have hplain : p.whole.plainByte rows lead =
        ({ p.whole with
          utf8Accumulator := Utf8.leadBits lead
          utf8Remaining := tail.length
          utf8SeqLen := tail.length }, []) := by
      have hbits := leadBits_eq lead (hlead ▸ hpos)
      unfold plainByte
      rw [if_pos ⟨hhigh, hground⟩]
      dsimp only
      rw [utf8LeadLength_eq, hbits, hlead, if_pos hpos]
    have hdecoded : decoded tail.length (Utf8.value lead tail) = c.toNat := by
      unfold Utf8.IsScalar at hscalar
      rw [hvalue, decoded, minCodepoint_eq _ (hlead ▸ tails_le lead), if_neg (by omega)]
    have hrest := feed_tail rows
      (p := { p.whole with
        utf8Accumulator := Utf8.leadBits lead
        utf8Remaining := tail.length
        utf8SeqLen := tail.length })
      hground rfl hpos htail
    rw [hencode, feed, feedByte_ground hground hne hcont, hplain]
    dsimp only
    rw [hrest]
    change _ ++ shown (decoded tail.length (Utf8.value lead tail)) = _ ∧ _
    rw [hdecoded, shown, if_neg (by omega), List.append_nil]
    exact ⟨rfl, hground, rfl⟩

/-- The sequence that is being read is what was heard last. -/
def Hearing (heard : Bytes) (p : VtParser) : Prop :=
  0 < p.utf8Remaining → ∃ lead tail, lead :: tail <:+ heard ∧ Utf8.tails lead = p.utf8SeqLen ∧
    tail.length + p.utf8Remaining = p.utf8SeqLen ∧ (∀ b ∈ tail, Utf8.IsTail b) ∧
    p.utf8Accumulator = Utf8.value lead tail

/-- What was heard last grows by a byte. -/
lemma suffix_snoc {lead : UInt8} {tail heard : Bytes} (h : lead :: tail <:+ heard) (raw : UInt8) :
    lead :: (tail ++ [raw]) <:+ heard ++ [raw] := by
  obtain ⟨front, rfl⟩ := h
  exact ⟨front, by rw [List.append_assoc, List.cons_append]⟩

/-- A tail adds its bits to the value. -/
lemma value_snoc (lead : UInt8) (tail : Bytes) (raw : UInt8) :
    Utf8.value lead (tail ++ [raw]) = Utf8.value lead tail * 64 + raw.toNat % 64 := by
  rw [Utf8.value, Utf8.extend, List.foldl_append]
  rfl

/-- A byte that is fed is heard. -/
lemma Hearing.feedByte {heard : Bytes} (h : Hearing heard p) (sound : p.Sound) (rows : Nat)
    (raw : UInt8) : Hearing (heard ++ [raw]) (p.feedByte rows raw).1 := by
  intro hpending
  cases sound.reads rows raw with
  | none hnone => omega
  | lead hpos hground htext =>
    simp only [text, Prod.mk.injEq] at htext
    refine ⟨raw, [], List.suffix_append _ _, htext.2.2.symm, ?_, List.forall_mem_nil _, htext.1⟩
    rw [htext.2.1, htext.2.2]
    exact Nat.zero_add _
  | tail hmore htail hstate htext =>
    simp only [text, Prod.mk.injEq] at htext
    obtain ⟨lead, tail, hsuffix, hlead, hlength, htails, hvalue⟩ := h (by omega)
    refine ⟨lead, tail ++ [raw], suffix_snoc hsuffix raw, hlead.trans htext.2.2.symm, ?_, ?_, ?_⟩
    · rw [List.length_append, List.length_singleton]
      omega
    · intro b hb
      rcases List.mem_append.mp hb with hold | hlast
      · exact htails b hold
      · exact List.mem_singleton.mp hlast ▸ htail
    · rw [htext.1, hvalue, value_snoc]

/-- What is printed, unless it is U+FFFD, is a character whose encoding was heard last. -/
theorem Hearing.prints {heard : Bytes} {cp width : Nat} (h : Hearing heard p) (sound : p.Sound)
    (hmem : Call.putChar cp width ∈ (p.feedByte rows raw).2) :
    cp = 0xFFFD ∨ ∃ c : Char, c.toNat = cp ∧ String.utf8EncodeChar c <:+ heard ++ [raw] := by
  cases VtParser.prints hmem with
  | replacement => exact .inl rfl
  | text htext =>
    have hhigh : raw.toNat ≤ 0x7E := htext.2
    have hnat := Utf8.toNat_ofNat (v := raw.toNat) (.inl (by omega))
    have hencode : String.utf8EncodeChar (Char.ofNat raw.toNat) = [raw] := by
      have hval : (Char.ofNat raw.toNat).val.toNat = raw.toNat := hnat
      unfold String.utf8EncodeChar
      dsimp only
      rw [hval, if_pos (by omega), UInt8.ofNat_toNat]
    exact .inr ⟨_, hnat, hencode ▸ List.suffix_append _ _⟩
  | last hone htail hc1 =>
    obtain ⟨lead, tail, hsuffix, hlead, hlength, htails, hvalue⟩ := h (by omega)
    have hle := sound.length_le
    have hlength' : (tail ++ [raw]).length = p.utf8SeqLen := by
      rw [List.length_append, List.length_singleton, ← hone, hlength]
    have hcompleted : p.completed raw = decoded p.utf8SeqLen (Utf8.value lead (tail ++ [raw])) := by
      rw [completed, hvalue, value_snoc]
    rw [hcompleted]
    unfold decoded
    split
    · exact .inl rfl
    · next hvalid =>
      rw [minCodepoint_eq _ hle, ← hlength'] at hvalid
      have hscalar : Utf8.IsScalar (Utf8.value lead (tail ++ [raw])) := by
        unfold Utf8.IsScalar
        omega
      have hencode := Utf8.encode_value (hlead.trans hlength'.symm) (by rw [hlength']; omega)
        (fun b hb => (List.mem_append.mp hb).elim (htails b) fun hlast =>
          List.mem_singleton.mp hlast ▸ htail) (by omega) hscalar
      exact .inr ⟨_, Utf8.toNat_ofNat hscalar, hencode ▸ suffix_snoc hsuffix raw⟩

/-- A byte that continues no character is read as if nothing had been pending. -/
lemma Sound.feedByte_whole (h : p.Sound) (rows : Nat) (hraw : ¬Utf8.IsTail raw) :
    ∃ cut, (cut = [] ∨ cut = [Call.putChar 0xFFFD 1]) ∧
      p.feedByte rows raw =
        ((p.whole.feedByte rows raw).1, cut ++ (p.whole.feedByte rows raw).2) := by
  rcases Nat.eq_zero_or_pos p.utf8Remaining with hzero | hpos
  · have hwhole : p.whole = p := by
      unfold whole
      rw [← hzero]
    exact ⟨[], .inl rfl, by rw [hwhole]; rfl⟩
  · have hground := h.ground hpos
    have hcont : isUtf8Continuation raw = false := by
      rw [← Bool.not_eq_true, isUtf8Continuation_iff]
      exact hraw
    by_cases hcontrol : ¬(raw = 0x18 ∨ raw = 0x1A) ∧ raw ≠ 0x1B
    · have hcut : p.cut = [.putChar 0xFFFD 1] := if_pos hpos
      have hwhole := @feedByte_ground p.whole rows raw hground hcontrol hcont
      rw [feedByte_ground hground hcontrol hcont, hwhole]
      exact ⟨_, .inr hcut, rfl⟩
    · refine ⟨[], .inl rfl, ?_⟩
      have hbypass : p.state ≠ .bypass := by
        rw [hground]
        decide
      unfold VtParser.feedByte
      rw [if_neg hbypass, if_neg (show ¬p.whole.state = .bypass from hbypass)]
      by_cases hcan : raw = 0x18 ∨ raw = 0x1A
      · rw [if_pos hcan, if_pos hcan]
        rfl
      · have hesc : raw = 0x1B := by
          by_contra hne
          exact hcontrol ⟨hcan, hne⟩
        rw [if_neg hcan, if_neg hcan, if_pos hesc, if_pos hesc]
        rfl

/-- A stray byte is none of the others. -/
lemma stray_ne : ∀ b, Utf8.IsTail b ∨ 0xF8 ≤ b →
    (¬(b = 0x18 ∨ b = 0x1A) ∧ b ≠ 0x1B) ∧ Utf8.tails b = 0 ∧ ¬b < 0x20 ∧ b ≠ 0x7F ∧
      ¬(0x20 ≤ b ∧ b ≤ 0x7E) :=
  forall_byte (by decide +kernel)

/-- A byte that neither starts nor continues a character leaves a parser in Ground as it was. -/
lemma feedByte_stray (hground : p.state = .ground) (hnone : p.utf8Remaining = 0)
    (hraw : Utf8.IsTail raw ∨ 0xF8 ≤ raw) :
    (p.feedByte rows raw).1 = p ∧
      ((p.feedByte rows raw).2 = [] ∨ (p.feedByte rows raw).2 = [.putChar 0xFFFD 1]) := by
  obtain ⟨hne, hlead, hlow, hdel, htext⟩ := stray_ne raw hraw
  have hbypass : p.state ≠ .bypass := by
    rw [hground]
    decide
  have hpending : ¬0 < p.utf8Remaining := by omega
  have hfeed : p.feedByte rows raw = p.plainByte rows raw := by
    unfold feedByte
    rw [if_neg hbypass, if_neg hne.1, if_neg hne.2, if_neg hpending]
  rw [hfeed]
  unfold plainByte
  split
  · dsimp only
    rw [utf8LeadLength_eq, hlead, if_neg (Nat.lt_irrefl 0)]
    exact ⟨rfl, .inr rfl⟩
  · unfold machineByte
    rw [hground]
    dsimp only
    rw [if_neg htext]
    exact ⟨rfl, .inl rfl⟩

/-- A printable character is printed once, behind what cut a sequence short, and leaves nothing
pending. -/
def PrintsOnce (p : VtParser) : Prop :=
  ∀ (rows : Nat) (c : Char), IsPrintable c.toNat →
    (p.feed rows (String.utf8EncodeChar c)).2 = p.cut ++ [.putChar c.toNat (widthOf c.toNat)] ∧
      (p.feed rows (String.utf8EncodeChar c)).1.state = .ground ∧
      (p.feed rows (String.utf8EncodeChar c)).1.utf8Remaining = 0

end VtParser

/-- The bytes of the output among some events. -/
def heard (events : List Emulator.Event) : Bytes :=
  events.flatMap fun
    | .output bytes => bytes
    | _ => []

/-- What holds of the text on a terminal and of the next byte it is fed. -/
structure TextSafe (bytes : Bytes) (t : Emulator) : Prop where
  main : ∀ line ∈ t.grid.main, CleanLine line
  alt : ∀ line ∈ t.grid.alt, CleanLine line
  history : ∀ idx line, t.grid.scrollbackLine idx = some line → CleanLine line
  repeated : t.grid.lastPrintedChar = 0 ∨ IsPrintable t.grid.lastPrintedChar
  /-- What is printed, unless it is U+FFFD, is a character whose encoding came last. -/
  prints : ∀ raw cp width, Call.putChar cp width ∈ (t.parser.feedByte t.grid.rows raw).2 →
    cp = 0xFFFD ∨ ∃ c : Char, c.toNat = cp ∧ String.utf8EncodeChar c <:+ bytes ++ [raw]
  /-- A byte that continues no character is read as if nothing had been pending. -/
  whole : ∀ raw, ¬Utf8.IsTail raw → ∃ cut, (cut = [] ∨ cut = [Call.putChar 0xFFFD 1]) ∧
    t.parser.feedByte t.grid.rows raw =
      ((t.parser.whole.feedByte t.grid.rows raw).1, cut ++ (t.parser.whole.feedByte t.grid.rows raw).2)
  /-- A byte that neither starts nor continues a character is dropped or shown as U+FFFD. -/
  stray : t.parser.state = .ground → t.parser.utf8Remaining = 0 →
    ∀ raw, Utf8.IsTail raw ∨ 0xF8 ≤ raw → (t.parser.feedByte t.grid.rows raw).1 = t.parser ∧
      ((t.parser.feedByte t.grid.rows raw).2 = [] ∨
        (t.parser.feedByte t.grid.rows raw).2 = [.putChar 0xFFFD 1])

namespace Emulator

variable {t t' : Emulator}

/-- Whatever is fed is heard, byte for byte. -/
lemma hearing_feed {bytes more : Bytes} (sound : t.parser.Sound) (h : VtParser.Hearing bytes t.parser) :
    (t.feed more).parser.Sound ∧ VtParser.Hearing (bytes ++ more) (t.feed more).parser := by
  unfold feed
  induction more generalizing t bytes with
  | nil => exact ⟨sound, by rwa [List.append_nil]⟩
  | cons raw more ih =>
    have hrest := ih (t := t.feedByte raw) sound.feedByte (h.feedByte sound t.grid.rows raw)
    rw [List.append_assoc] at hrest
    exact hrest

/-- Whatever happens, the sequence that is being read is what was heard last. -/
lemma hearing {events : List Event} {bytes : Bytes} (run : Run step Anywhere t events t')
    (sound : t.parser.Sound) (h : VtParser.Hearing bytes t.parser) :
    VtParser.Hearing (bytes ++ heard events) t'.parser := by
  induction run generalizing bytes with
  | nil => rwa [heard, List.flatMap_nil, List.append_nil]
  | @cons s s' _ e events _ hstep _ ih =>
    rw [heard, List.flatMap_cons, ← List.append_assoc]
    cases e with
    | output more =>
      cases hstep
      obtain ⟨sound', h'⟩ := @hearing_feed _ _ more sound h
      exact ih sound' h'
    | resize screens ring cols rows =>
      cases hstep
      exact ih sound (by rwa [List.append_nil])
    | forceGround =>
      cases hstep
      exact ih sound.reset nofun

end Emulator

/-- Screens of clean lines stay clean under every call. -/
lemma cleanScreen : ScreenLaws fun _ => CleanLine where
  lines := cleanLaws
  fits := cleanFits

/-- Terminal text is decoded without loss, and nothing but it is ever shown. -/
theorem text_decoding :
    (∀ p : VtParser, p.state = .ground → p.PrintsOnce) ∧
      ∀ (memory : Bool) (cols rows scrollbackLimit : Nat) (g₀ : Grid) (events : List Emulator.Event)
        (t : Emulator), Grid.create memory cols rows scrollbackLimit = .ok g₀ →
        Run Emulator.step Anywhere (.start g₀) events t → TextSafe (heard events) t := by
  constructor
  · intro p hground rows c hc
    exact VtParser.feed_encode hground c hc
  · intro memory cols rows scrollbackLimit g₀ events t made run
    have kept : Kept (fun _ => CleanLine) t := .of_reachable cleanScreen made ⟨events, run⟩
    have hearing := @Emulator.hearing _ _ _ [] run .fresh nofun
    exact
      { main := kept.stored.main
        alt := kept.stored.alt
        history := fun idx line hline => by
          rw [kept.stored.ringed.scrollbackLine_eq] at hline
          exact kept.stored.history line (List.mem_of_getElem? hline)
        repeated := kept.stored.last.imp id fun h => h.1
        prints := fun raw cp width hmem => hearing.prints kept.parser hmem
        whole := fun raw hraw => kept.parser.feedByte_whole _ hraw
        stray := fun hground hnone raw hraw => VtParser.feedByte_stray hground hnone hraw }

/-- A terminal that has heard half of a character, and the character heard by a fresh parser. -/
theorem text_decoding_half :
    (({} : VtParser).feed 6 (String.utf8EncodeChar 'é')).2 = [.putChar 0xE9 1] ∧
      TextSafe [0x41, 0xC3] ((Emulator.start (.allocate 4 6 0)).feed [0x41, 0xC3]) := by
  have hsafe := text_decoding.2 true 4 6 0 (.allocate 4 6 0) [.output [0x41, 0xC3]] _ rfl
    (Run.of_exec rfl)
  have hshown : ({} : VtParser).cut ++ [.putChar ('é').toNat (VtParser.widthOf ('é').toNat)] =
      [.putChar 0xE9 1] := by
    decide +kernel
  exact ⟨(text_decoding.1 {} rfl 6 'é' (by decide)).1.trans hshown, hsafe⟩

end Zet.Terminal
