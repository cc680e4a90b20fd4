import Zet.Core.Codec
import Zet.Wire.OpeningMessage

/-!
# One spelling for each message

Every codec of `src/wire/message.cpp` is canonical: a body that its parser accepts is, behind the
type byte, exactly what its writer emits for the parsed message. So an accepted body has one meaning
and a parsed message one spelling, and neither peer nor the transcript hash can tell two of them
apart that the other cannot.

`Canonical` is that law for one codec, with one lemma for each; `Message` is the sum of them all, and
`codec_canonical` the law for every type and version.
-/

namespace Zet.Wire
open Zet.Core

/-- What the parser accepts is all of the body, and the writer spells it again. -/
def Canonical {α : Type} (type : MessageType) (parse : Reader α) (write : α → Writer Unit) : Prop :=
  ∀ {body rest : Bytes} {m : α}, parse body = .ok (m, rest) →
    rest = [] ∧ Emits (write m) (encodeBE 1 type.toByte ++ body)

/-- The type byte every writer starts with. -/
lemma emits_type (type : MessageType) :
    Emits (writeMessageType type) (encodeBE 1 type.toByte) := emits_writeBE 1 type.toByte

/-- A type byte is read from its one spelling. -/
lemma parseMessageType_eq_ok {s s' : Bytes} {type : MessageType}
    (h : parseMessageType s = .ok (type, s')) : s = encodeBE 1 type.toByte ++ s' := by
  obtain ⟨n, s₁, hn, htype⟩ := Reader.bind_eq_ok h
  obtain ⟨rfl, _⟩ := readBE_eq_ok hn
  cases hof : MessageType.ofByte n with
  | none =>
    rw [hof] at htype
    cases htype
  | some t =>
    rw [hof] at htype
    obtain ⟨rfl, rfl⟩ := Reader.pure_eq_ok htype
    have hbyte : t.toByte = n := by
      unfold MessageType.ofByte at hof
      split at hof <;> cases hof <;> rfl
    rw [hbyte]

/-- An array is written as it stands. -/
lemma emits_array {size : Nat} (a : Octets size) : Emits (writeArray a) a.val :=
  emits_writeBytes a.val

/-- An array that was read stood in front. -/
lemma readArray_eq_ok {size : Nat} {s s' : Bytes} {a : Octets size}
    (h : readArray size s = .ok (a, s')) : s = a.val ++ s' := by
  unfold readArray at h
  split at h
  · cases h
  · cases h
    exact (List.take_append_drop size s).symm

/-- Data is canonical. -/
lemma data_canonical : Canonical .data parseData writeData := by
  intro body rest m h
  obtain ⟨ack, s₁, hack, h⟩ := Reader.bind_eq_ok h
  obtain ⟨offset, s₂, hoffset, h⟩ := Reader.bind_eq_ok h
  obtain ⟨payload, s₃, hpayload, h⟩ := Reader.bind_eq_ok h
  obtain ⟨hempty, h⟩ := Reader.check_eq_ok h
  obtain ⟨hlong, h⟩ := Reader.check_eq_ok h
  obtain ⟨_, s₄, hskip, h⟩ := Reader.bind_eq_ok h
  obtain ⟨rfl, rfl⟩ := Reader.pure_eq_ok h
  obtain ⟨rfl, rfl⟩ := readRest_eq_ok hpayload
  obtain ⟨rfl, _⟩ := readBE_eq_ok hack
  obtain ⟨rfl, _⟩ := readBE_eq_ok hoffset
  refine ⟨by rw [skipBytes_eq_ok hskip, List.drop_length], ?_⟩
  unfold writeData
  refine Emits.check hempty (Emits.check hlong ?_)
  exact (emits_type .data).bind
    ((emits_writeBE 8 ack).bind ((emits_writeBE 8 offset).bind (emits_writeBytes _)))

/-- Ack is canonical. -/
lemma ack_canonical : Canonical .ack parseAck writeAck := by
  intro body rest m h
  obtain ⟨ack, s₁, hack, h⟩ := Reader.bind_eq_ok h
  obtain ⟨_, s₂, hdone, h⟩ := Reader.bind_eq_ok h
  obtain ⟨rfl, rfl⟩ := Reader.pure_eq_ok h
  obtain ⟨rfl, rfl⟩ := requireExhausted_eq_ok hdone
  obtain ⟨rfl, _⟩ := readBE_eq_ok hack
  rw [List.append_nil]
  exact ⟨rfl, (emits_type .ack).bind (emits_writeBE 8 ack)⟩

/-- Resize is canonical. -/
lemma resize_canonical : Canonical .resize parseResize writeResize := by
  intro body rest m h
  obtain ⟨rows, s₁, hrows, h⟩ := Reader.bind_eq_ok h
  obtain ⟨cols, s₂, hcols, h⟩ := Reader.bind_eq_ok h
  obtain ⟨xpixel, s₃, hxpixel, h⟩ := Reader.bind_eq_ok h
  obtain ⟨ypixel, s₄, hypixel, h⟩ := Reader.bind_eq_ok h
  obtain ⟨_, s₅, hdone, h⟩ := Reader.bind_eq_ok h
  obtain ⟨rfl, rfl⟩ := Reader.pure_eq_ok h
  obtain ⟨rfl, rfl⟩ := requireExhausted_eq_ok hdone
  obtain ⟨rfl, _⟩ := readBE_eq_ok hrows
  obtain ⟨rfl, _⟩ := readBE_eq_ok hcols
  obtain ⟨rfl, _⟩ := readBE_eq_ok hxpixel
  obtain ⟨rfl, _⟩ := readBE_eq_ok hypixel
  rw [List.append_nil]
  exact ⟨rfl, (emits_type .resize).bind ((emits_writeBE 2 rows).bind
    ((emits_writeBE 2 cols).bind ((emits_writeBE 2 xpixel).bind (emits_writeBE 2 ypixel))))⟩

/-- A token is all of its body. -/
lemma parseToken_eq_ok {body rest : Bytes} {m : PingMessage} (h : parseToken body = .ok (m, rest)) :
    rest = [] ∧ body = encodeBE 8 m.token := by
  obtain ⟨token, s₁, htoken, h⟩ := Reader.bind_eq_ok h
  obtain ⟨_, s₂, hdone, h⟩ := Reader.bind_eq_ok h
  obtain ⟨rfl, rfl⟩ := Reader.pure_eq_ok h
  obtain ⟨rfl, rfl⟩ := requireExhausted_eq_ok hdone
  obtain ⟨rfl, _⟩ := readBE_eq_ok htoken
  exact ⟨rfl, List.append_nil _⟩

/-- Ping is canonical. -/
lemma ping_canonical : Canonical .ping parsePing writePing := by
  intro body rest m h
  obtain ⟨hrest, rfl⟩ := parseToken_eq_ok h
  exact ⟨hrest, (emits_type .ping).bind (emits_writeBE 8 m.token)⟩

/-- Pong is canonical. -/
lemma pong_canonical : Canonical .pong parsePong writePong := by
  intro body rest m h
  obtain ⟨hrest, rfl⟩ := parseToken_eq_ok h
  exact ⟨hrest, (emits_type .pong).bind (emits_writeBE 8 m.token)⟩

/-- A kind that was read has the byte it was read from. -/
lemma SessionEndKind.toByte_ofByte {n : Nat} {kind : SessionEndKind} (h : ofByte n = some kind) :
    kind.toByte = n := by
  unfold ofByte at h
  split at h <;> cases h <;> rfl

/-- SessionEnd is canonical, in every version. -/
lemma sessionEnd_canonical (version : Nat) :
    Canonical .sessionEnd (parseSessionEnd version) (writeSessionEnd · version) := by
  intro body rest m h
  obtain ⟨rawKind, s₁, hkind, h⟩ := Reader.bind_eq_ok h
  obtain ⟨value, s₂, hvalue, h⟩ := Reader.bind_eq_ok h
  cases hof : SessionEndKind.ofByte rawKind with
  | none =>
    rw [hof] at h
    cases h
  | some kind =>
    rw [hof] at h
    obtain ⟨hversion, h⟩ := Reader.check_eq_ok h
    obtain ⟨hzero, h⟩ := Reader.check_eq_ok h
    obtain ⟨_, s₃, hdone, h⟩ := Reader.bind_eq_ok h
    obtain ⟨rfl, rfl⟩ := Reader.pure_eq_ok h
    obtain ⟨rfl, rfl⟩ := requireExhausted_eq_ok hdone
    obtain ⟨rfl, _⟩ := readBE_eq_ok hkind
    obtain ⟨rfl, _⟩ := readBE_eq_ok hvalue
    rw [List.append_nil, ← SessionEndKind.toByte_ofByte hof]
    refine ⟨rfl, ?_⟩
    unfold writeSessionEnd
    refine Emits.check hversion (Emits.check hzero ?_)
    exact (emits_type .sessionEnd).bind ((emits_writeBE 1 kind.toByte).bind (emits_writeBE 1 value))

/-- Resume is canonical, in every version. -/
lemma resume_canonical (version : Nat) :
    Canonical .resume (parseResume version) (writeResume · version) := by
  intro body rest m h
  unfold parseResume at h
  split at h
  next hgrid =>
    obtain ⟨gen, s₁, hgen, h⟩ := Reader.bind_eq_ok h
    obtain ⟨offset, s₂, hoffset, h⟩ := Reader.bind_eq_ok h
    obtain ⟨_, s₃, hdone, h⟩ := Reader.bind_eq_ok h
    obtain ⟨rfl, rfl⟩ := Reader.pure_eq_ok h
    obtain ⟨rfl, rfl⟩ := requireExhausted_eq_ok hdone
    obtain ⟨rfl, _⟩ := readBE_eq_ok hgen
    obtain ⟨rfl, _⟩ := readBE_eq_ok hoffset
    rw [List.append_nil]
    refine ⟨rfl, ?_⟩
    unfold writeResume
    refine Emits.check (fun hbad => absurd hbad.1 (Nat.not_lt.mpr hgrid)) ?_
    refine (emits_type .resume).bind ?_
    rw [if_pos hgrid]
    exact (emits_writeBE 4 gen).bind (emits_writeBE 8 offset)
  next hgrid =>
    obtain ⟨gen, s₁, hgen, h⟩ := Reader.bind_eq_ok h
    obtain ⟨rfl, rfl⟩ := Reader.pure_eq_ok hgen
    obtain ⟨offset, s₂, hoffset, h⟩ := Reader.bind_eq_ok h
    obtain ⟨_, s₃, hdone, h⟩ := Reader.bind_eq_ok h
    obtain ⟨rfl, rfl⟩ := Reader.pure_eq_ok h
    obtain ⟨rfl, rfl⟩ := requireExhausted_eq_ok hdone
    obtain ⟨rfl, _⟩ := readBE_eq_ok hoffset
    rw [List.append_nil]
    refine ⟨rfl, ?_⟩
    unfold writeResume
    refine Emits.check (fun hbad => hbad.2 rfl) ?_
    refine (emits_type .resume).bind ?_
    rw [if_neg hgrid]
    exact emits_writeBE 8 offset

/-- GridBegin is canonical. -/
lemma gridBegin_canonical : Canonical .gridBegin parseGridBegin writeGridBegin := by
  intro body rest m h
  obtain ⟨flags, s₁, hflags, h⟩ := Reader.bind_eq_ok h
  obtain ⟨hreserved, h⟩ := Reader.check_eq_ok h
  obtain ⟨gen, s₂, hgen, h⟩ := Reader.bind_eq_ok h
  obtain ⟨scrollback, s₃, hscrollback, h⟩ := Reader.bind_eq_ok h
  obtain ⟨total, s₄, htotal, h⟩ := Reader.bind_eq_ok h
  obtain ⟨hsize, h⟩ := Reader.check_eq_ok h
  obtain ⟨hpart, h⟩ := Reader.check_eq_ok h
  obtain ⟨_, s₅, hdone, h⟩ := Reader.bind_eq_ok h
  obtain ⟨rfl, rfl⟩ := Reader.pure_eq_ok h
  obtain ⟨rfl, rfl⟩ := requireExhausted_eq_ok hdone
  obtain ⟨rfl, _⟩ := readBE_eq_ok hflags
  obtain ⟨rfl, _⟩ := readBE_eq_ok hgen
  obtain ⟨rfl, _⟩ := readBE_eq_ok hscrollback
  obtain ⟨rfl, _⟩ := readBE_eq_ok htotal
  rw [List.append_nil]
  refine ⟨rfl, ?_⟩
  unfold writeGridBegin
  refine Emits.check hreserved (Emits.check hsize (Emits.check hpart ?_))
  exact (emits_type .gridBegin).bind ((emits_writeBE 1 flags).bind
    ((emits_writeBE 4 gen).bind ((emits_writeBE 4 scrollback).bind (emits_writeBE 4 total))))

/-- GridChunk is canonical. -/
lemma gridChunk_canonical : Canonical .gridChunk parseGridChunk writeGridChunk := by
  intro body rest m h
  obtain ⟨offset, s₁, hoffset, h⟩ := Reader.bind_eq_ok h
  obtain ⟨data, s₂, hdata, h⟩ := Reader.bind_eq_ok h
  obtain ⟨hempty, h⟩ := Reader.check_eq_ok h
  obtain ⟨hlong, h⟩ := Reader.check_eq_ok h
  obtain ⟨_, s₃, hskip, h⟩ := Reader.bind_eq_ok h
  obtain ⟨rfl, rfl⟩ := Reader.pure_eq_ok h
  obtain ⟨rfl, rfl⟩ := readRest_eq_ok hdata
  obtain ⟨rfl, _⟩ := readBE_eq_ok hoffset
  refine ⟨by rw [skipBytes_eq_ok hskip, List.drop_length], ?_⟩
  unfold writeGridChunk
  refine Emits.check hempty (Emits.check hlong ?_)
  exact (emits_type .gridChunk).bind ((emits_writeBE 4 offset).bind (emits_writeBytes _))

/-- GridEnd is canonical. -/
lemma gridEnd_canonical : Canonical .gridEnd parseGridEnd (fun _ => writeGridEnd) := by
  intro body rest m h
  obtain ⟨rfl, rfl⟩ := requireExhausted_eq_ok h
  rw [List.append_nil]
  exact ⟨rfl, emits_type .gridEnd⟩

/-- GridApplied is canonical. -/
lemma gridApplied_canonical : Canonical .gridApplied parseGridApplied writeGridApplied := by
  intro body rest m h
  obtain ⟨gen, s₁, hgen, h⟩ := Reader.bind_eq_ok h
  obtain ⟨_, s₂, hdone, h⟩ := Reader.bind_eq_ok h
  obtain ⟨rfl, rfl⟩ := Reader.pure_eq_ok h
  obtain ⟨rfl, rfl⟩ := requireExhausted_eq_ok hdone
  obtain ⟨rfl, _⟩ := readBE_eq_ok hgen
  rw [List.append_nil]
  exact ⟨rfl, (emits_type .gridApplied).bind (emits_writeBE 4 gen)⟩

/-- The bytes of one option. -/
def TlvOption.spelling (o : TlvOption) : Bytes :=
  encodeBE 2 o.type ++ (encodeBE 2 o.value.length ++ o.value)

/-- An option that was appended stands last. -/
lemma TlvList.append_eq_ok {list list' : TlvList} {option : TlvOption}
    (h : list.append option = .ok list') : list'.options = list.options ++ [option] := by
  unfold TlvList.append at h
  split at h
  · cases h
  split at h
  · cases h
  split at h
  · cases h
  · cases h
    rfl

/-- The loop reads options to the end and appends them in the order it met them. -/
lemma parseOptionsLoop_eq_ok {fuel : Nat} {list list' : TlvList} {s s' : Bytes}
    (h : parseOptionsLoop fuel list s = .ok (list', s')) :
    s' = [] ∧ ∃ read, list'.options = list.options ++ read ∧
      s = read.flatMap TlvOption.spelling := by
  induction fuel generalizing list s with
  | zero => cases h
  | succ fuel ih =>
    obtain ⟨left, s₁, hleft, hloop⟩ := Reader.bind_eq_ok h
    obtain ⟨rfl, rfl⟩ := readRest_eq_ok hleft
    split at hloop
    next hempty =>
      obtain ⟨rfl, rfl⟩ := Reader.pure_eq_ok hloop
      obtain rfl := List.isEmpty_iff.mp hempty
      exact ⟨rfl, [], by simp, rfl⟩
    · obtain ⟨type, s₂, htype, h⟩ := Reader.bind_eq_ok hloop
      obtain ⟨length, s₃, hlength, h⟩ := Reader.bind_eq_ok h
      obtain ⟨value, s₄, hvalue, h⟩ := Reader.bind_eq_ok h
      obtain ⟨_, hnext⟩ := Reader.check_eq_ok h
      obtain ⟨rfl, _⟩ := readBE_eq_ok htype
      obtain ⟨rfl, _⟩ := readBE_eq_ok hlength
      obtain ⟨rfl, rfl⟩ := readBytes_eq_ok hvalue
      cases happend : list.append ⟨type, value⟩ with
      | error e =>
        rw [happend] at hnext
        cases hnext
      | ok next =>
        rw [happend] at hnext
        obtain ⟨hend, read, hread, rfl⟩ := ih hnext
        refine ⟨hend, ⟨type, value⟩ :: read, ?_, ?_⟩
        · rw [hread, TlvList.append_eq_ok happend, List.append_assoc]
          rfl
        · simp [TlvOption.spelling]

/-- An option list is what is left of its message. -/
lemma parseOptions_eq_ok {options : TlvList} {s s' : Bytes}
    (h : parseOptions s = .ok (options, s')) :
    s' = [] ∧ s = options.options.flatMap TlvOption.spelling := by
  obtain ⟨left, s₁, hleft, h⟩ := Reader.bind_eq_ok h
  obtain ⟨rfl, rfl⟩ := readRest_eq_ok hleft
  obtain ⟨hend, read, hread, hs⟩ := parseOptionsLoop_eq_ok h
  rw [hread]
  exact ⟨hend, hs⟩

/-- Options are written one after another. -/
lemma emits_options (options : TlvList) :
    Emits (writeOptions options) (options.options.flatMap TlvOption.spelling) := by
  apply Emits.forM
  intro o _
  exact (emits_writeBE 2 o.type).bind ((emits_writeBE 2 o.value.length).bind
    (emits_writeBytes o.value))

/-- A range of versions that was read is in order and in its width. -/
lemma parseVersionRange_eq_ok {s s' : Bytes} {range : Nat × Nat}
    (h : parseVersionRange s = .ok (range, s')) :
    s = encodeBE 2 range.1 ++ (encodeBE 2 range.2 ++ s') ∧ ¬range.1 > range.2 ∧
      range.2 < 256 ^ 2 := by
  obtain ⟨low, s₁, hlow, h⟩ := Reader.bind_eq_ok h
  obtain ⟨high, s₂, hhigh, h⟩ := Reader.bind_eq_ok h
  obtain ⟨hrange, h⟩ := Reader.check_eq_ok h
  obtain ⟨rfl, rfl⟩ := Reader.pure_eq_ok h
  obtain ⟨rfl, _⟩ := readBE_eq_ok hlow
  obtain ⟨rfl, hwide⟩ := readBE_eq_ok hhigh
  exact ⟨rfl, hrange, hwide⟩

/-- The bytes of a Hello after its type byte. -/
def HelloMessage.fields (m : HelloMessage) : Bytes :=
  helloMagic ++ (encodeBE 2 m.versionMin ++ (encodeBE 2 m.versionMax ++
    (m.id.val ++ (m.clientNonce.val ++ m.options.options.flatMap TlvOption.spelling))))

/-- A Hello that was read is all of the input. -/
lemma parseHello_eq_ok {s s' : Bytes} {m : HelloMessage} (h : parseHello s = .ok (m, s')) :
    s' = [] ∧ s = m.fields ∧ m.versionMin ≤ m.versionMax ∧ m.versionMax < 256 ^ 2 := by
  obtain ⟨magic, s₁, hmagic, h⟩ := Reader.bind_eq_ok h
  obtain ⟨hsame, h⟩ := Reader.check_eq_ok h
  obtain ⟨range, s₂, hrange, h⟩ := Reader.bind_eq_ok h
  obtain ⟨id, s₃, hid, h⟩ := Reader.bind_eq_ok h
  obtain ⟨nonce, s₄, hnonce, h⟩ := Reader.bind_eq_ok h
  obtain ⟨options, s₅, hoptions, h⟩ := Reader.bind_eq_ok h
  obtain ⟨rfl, rfl⟩ := Reader.pure_eq_ok h
  obtain ⟨rfl, rfl⟩ := parseOptions_eq_ok hoptions
  obtain rfl := readArray_eq_ok hnonce
  obtain rfl := readArray_eq_ok hid
  obtain ⟨rfl, hordered, hwide⟩ := parseVersionRange_eq_ok hrange
  obtain ⟨rfl, _⟩ := readBytes_eq_ok hmagic
  obtain rfl := Decidable.not_not.mp hsame
  exact ⟨rfl, rfl, Nat.not_lt.mp hordered, hwide⟩

/-- A Hello is written as its fields. -/
lemma emits_hello (m : HelloMessage) :
    Emits (writeHello m) (encodeBE 1 MessageType.hello.toByte ++ m.fields) :=
  (emits_type .hello).bind ((emits_writeBytes helloMagic).bind
    ((emits_writeBE 2 m.versionMin).bind ((emits_writeBE 2 m.versionMax).bind
      ((emits_array m.id).bind ((emits_array m.clientNonce).bind (emits_options m.options))))))

/-- Hello is canonical. -/
lemma hello_canonical : Canonical .hello parseHello writeHello := by
  intro body rest m h
  obtain ⟨hrest, rfl, _⟩ := parseHello_eq_ok h
  exact ⟨hrest, emits_hello m⟩

/-- The bytes of a Challenge after its type byte. -/
def ChallengeMessage.fields (m : ChallengeMessage) : Bytes :=
  encodeBE 2 m.version ++ (m.serverNonce.val ++ m.options.options.flatMap TlvOption.spelling)

/-- A Challenge that was read is all of the input. -/
lemma parseChallenge_eq_ok {s s' : Bytes} {m : ChallengeMessage}
    (h : parseChallenge s = .ok (m, s')) : s' = [] ∧ s = m.fields ∧ m.version < 256 ^ 2 := by
  obtain ⟨version, s₁, hversion, h⟩ := Reader.bind_eq_ok h
  obtain ⟨nonce, s₂, hnonce, h⟩ := Reader.bind_eq_ok h
  obtain ⟨options, s₃, hoptions, h⟩ := Reader.bind_eq_ok h
  obtain ⟨rfl, rfl⟩ := Reader.pure_eq_ok h
  obtain ⟨rfl, rfl⟩ := parseOptions_eq_ok hoptions
  obtain rfl := readArray_eq_ok hnonce
  obtain ⟨rfl, hwide⟩ := readBE_eq_ok hversion
  exact ⟨rfl, rfl, hwide⟩

/-- A Challenge is written as its fields. -/
lemma emits_challenge (m : ChallengeMessage) :
    Emits (writeChallenge m) (encodeBE 1 MessageType.challenge.toByte ++ m.fields) :=
  (emits_type .challenge).bind ((emits_writeBE 2 m.version).bind
    ((emits_array m.serverNonce).bind (emits_options m.options)))

/-- Challenge is canonical. -/
lemma challenge_canonical : Canonical .challenge parseChallenge writeChallenge := by
  intro body rest m h
  obtain ⟨hrest, rfl, _⟩ := parseChallenge_eq_ok h
  exact ⟨hrest, emits_challenge m⟩

/-- Auth is canonical. -/
lemma auth_canonical : Canonical .auth parseAuth writeAuth := by
  intro body rest m h
  obtain ⟨tag, s₁, htag, h⟩ := Reader.bind_eq_ok h
  obtain ⟨_, s₂, hdone, h⟩ := Reader.bind_eq_ok h
  obtain ⟨rfl, rfl⟩ := Reader.pure_eq_ok h
  obtain ⟨rfl, rfl⟩ := requireExhausted_eq_ok hdone
  obtain rfl := readArray_eq_ok htag
  rw [List.append_nil]
  exact ⟨rfl, (emits_type .auth).bind (emits_array tag)⟩

/-- An AuthOk that was read is all of the input. -/
lemma parseAuthOk_eq_ok {s s' : Bytes} {m : AuthOkMessage} (h : parseAuthOk s = .ok (m, s')) :
    s' = [] ∧ s = m.serverTag.val ++ encodeBE 8 m.serverReceiveOffset ∧
      m.serverReceiveOffset < 256 ^ 8 := by
  obtain ⟨tag, s₁, htag, h⟩ := Reader.bind_eq_ok h
  obtain ⟨offset, s₂, hoffset, h⟩ := Reader.bind_eq_ok h
  obtain ⟨_, s₃, hdone, h⟩ := Reader.bind_eq_ok h
  obtain ⟨rfl, rfl⟩ := Reader.pure_eq_ok h
  obtain ⟨rfl, rfl⟩ := requireExhausted_eq_ok hdone
  obtain ⟨rfl, hwide⟩ := readBE_eq_ok hoffset
  obtain rfl := readArray_eq_ok htag
  rw [List.append_nil]
  exact ⟨rfl, rfl, hwide⟩

/-- AuthOk is canonical. -/
lemma authOk_canonical : Canonical .authOk parseAuthOk writeAuthOk := by
  intro body rest m h
  obtain ⟨hrest, rfl, _⟩ := parseAuthOk_eq_ok h
  exact ⟨hrest, (emits_type .authOk).bind
    ((emits_array m.serverTag).bind (emits_writeBE 8 m.serverReceiveOffset))⟩

/-- The bytes of a short text. -/
def shortSpelling (text : Bytes) : Bytes := encodeBE 1 text.length ++ text

/-- The bytes of one variable. -/
def EnvironmentVariable.spelling (v : EnvironmentVariable) : Bytes :=
  shortSpelling v.name ++ shortSpelling v.value

/-- A short text that was read stood in front, under its length. -/
lemma readShortText_eq_ok {s s' text : Bytes} (h : readShortText s = .ok (text, s')) :
    s = shortSpelling text ++ s' := by
  obtain ⟨length, s₁, hlength, htext⟩ := Reader.bind_eq_ok h
  obtain ⟨rfl, rfl⟩ := readBytes_eq_ok htext
  obtain ⟨rfl, _⟩ := readBE_eq_ok hlength
  exact (List.append_assoc _ _ _).symm

/-- A short text is written under its length. -/
lemma emits_shortText (text : Bytes) : Emits (writeShortText text) (shortSpelling text) :=
  (emits_writeBE 1 text.length).bind (emits_writeBytes text)

/-- A variable that was added stands last. -/
lemma BootstrapEnvironment.add_eq_some {environment environment' : BootstrapEnvironment}
    {name value : Bytes} (h : environment.add name value = some environment') :
    environment'.entries = environment.entries ++ [⟨name, value⟩] := by
  unfold BootstrapEnvironment.add at h
  split at h
  · cases h
  split at h
  · split at h
    · cases h
    · cases h
      rfl
  · cases h

/-- The loop reads as many variables as were announced, in order. -/
lemma parseVariables_eq_ok {count : Nat} {environment environment' : BootstrapEnvironment}
    {s s' : Bytes} (h : parseVariables count environment s = .ok (environment', s')) :
    ∃ read, read.length = count ∧ environment'.entries = environment.entries ++ read ∧
      s = read.flatMap EnvironmentVariable.spelling ++ s' := by
  induction count generalizing environment s with
  | zero =>
    obtain ⟨rfl, rfl⟩ := Reader.pure_eq_ok h
    exact ⟨[], rfl, by simp, rfl⟩
  | succ count ih =>
    obtain ⟨name, s₁, hname, h⟩ := Reader.bind_eq_ok h
    obtain ⟨value, s₂, hvalue, hnext⟩ := Reader.bind_eq_ok h
    have hs₁ := readShortText_eq_ok hvalue
    have hs := readShortText_eq_ok hname
    cases hadd : environment.add name value with
    | none =>
      rw [hadd] at hnext
      cases hnext
    | some next =>
      rw [hadd] at hnext
      obtain ⟨read, hcount, hread, hs₂⟩ := ih hnext
      refine ⟨⟨name, value⟩ :: read, by rw [List.length_cons, hcount], ?_, ?_⟩
      · rw [hread, BootstrapEnvironment.add_eq_some hadd, List.append_assoc]
        rfl
      · rw [hs, hs₁, hs₂]
        simp [EnvironmentVariable.spelling]

/-- BootstrapOffer is canonical. -/
lemma bootstrapOffer_canonical :
    Canonical .bootstrapOffer parseBootstrapOffer writeBootstrapOffer := by
  intro body rest m h
  obtain ⟨range, s₁, hrange, h⟩ := Reader.bind_eq_ok h
  obtain ⟨key, s₂, hkey, h⟩ := Reader.bind_eq_ok h
  obtain ⟨nonce, s₃, hnonce, h⟩ := Reader.bind_eq_ok h
  obtain ⟨count, s₄, hcount, h⟩ := Reader.bind_eq_ok h
  obtain ⟨_, h⟩ := Reader.check_eq_ok h
  obtain ⟨environment, s₅, henvironment, h⟩ := Reader.bind_eq_ok h
  obtain ⟨_, s₆, hdone, h⟩ := Reader.bind_eq_ok h
  obtain ⟨rfl, rfl⟩ := Reader.pure_eq_ok h
  obtain ⟨rfl, rfl⟩ := requireExhausted_eq_ok hdone
  obtain ⟨read, rfl, hread, rfl⟩ := parseVariables_eq_ok henvironment
  obtain ⟨rfl, _⟩ := readBE_eq_ok hcount
  obtain rfl := readArray_eq_ok hnonce
  obtain rfl := readArray_eq_ok hkey
  obtain ⟨rfl, hordered, _⟩ := parseVersionRange_eq_ok hrange
  have hentries : environment.entries = read := hread
  rw [List.append_nil, ← hentries]
  refine ⟨rfl, ?_⟩
  unfold writeBootstrapOffer
  refine Emits.check hordered ?_
  refine (emits_type .bootstrapOffer).bind ((emits_writeBE 2 range.1).bind
    ((emits_writeBE 2 range.2).bind ((emits_array key).bind ((emits_array nonce).bind
      ((emits_writeBE 1 environment.entries.length).bind (Emits.forM _ ?_))))))
  intro v _
  exact (emits_shortText v.name).bind (emits_shortText v.value)

/-- BootstrapAccept is canonical. -/
lemma bootstrapAccept_canonical :
    Canonical .bootstrapAccept parseBootstrapAccept writeBootstrapAccept := by
  intro body rest m h
  obtain ⟨version, s₁, hversion, h⟩ := Reader.bind_eq_ok h
  obtain ⟨key, s₂, hkey, h⟩ := Reader.bind_eq_ok h
  obtain ⟨echoed, s₃, hechoed, h⟩ := Reader.bind_eq_ok h
  obtain ⟨nonce, s₄, hnonce, h⟩ := Reader.bind_eq_ok h
  obtain ⟨port, s₅, hport, h⟩ := Reader.bind_eq_ok h
  obtain ⟨hzero, h⟩ := Reader.check_eq_ok h
  obtain ⟨timeout, s₆, htimeout, h⟩ := Reader.bind_eq_ok h
  obtain ⟨_, s₇, hdone, h⟩ := Reader.bind_eq_ok h
  obtain ⟨rfl, rfl⟩ := Reader.pure_eq_ok h
  obtain ⟨rfl, rfl⟩ := requireExhausted_eq_ok hdone
  obtain ⟨rfl, _⟩ := readBE_eq_ok htimeout
  obtain ⟨rfl, _⟩ := readBE_eq_ok hport
  obtain rfl := readArray_eq_ok hnonce
  obtain rfl := readArray_eq_ok hechoed
  obtain rfl := readArray_eq_ok hkey
  obtain ⟨rfl, _⟩ := readBE_eq_ok hversion
  rw [List.append_nil]
  refine ⟨rfl, ?_⟩
  unfold writeBootstrapAccept
  refine Emits.check hzero ?_
  exact (emits_type .bootstrapAccept).bind ((emits_writeBE 2 version).bind
    ((emits_array key).bind ((emits_array echoed).bind ((emits_array nonce).bind
      ((emits_writeBE 2 port).bind (emits_writeBE 4 timeout))))))

/-- MuxRegister is canonical. -/
lemma muxRegister_canonical : Canonical .muxRegister parseMuxRegister writeMuxRegister := by
  intro body rest m h
  obtain ⟨key, s₁, hkey, h⟩ := Reader.bind_eq_ok h
  obtain ⟨_, s₂, hdone, h⟩ := Reader.bind_eq_ok h
  obtain ⟨rfl, rfl⟩ := Reader.pure_eq_ok h
  obtain ⟨rfl, rfl⟩ := requireExhausted_eq_ok hdone
  obtain rfl := readArray_eq_ok hkey
  rw [List.append_nil]
  exact ⟨rfl, (emits_type .muxRegister).bind (emits_array key)⟩

/-- MuxRegistered is canonical. -/
lemma muxRegistered_canonical :
    Canonical .muxRegistered parseMuxRegistered writeMuxRegistered := by
  intro body rest m h
  obtain ⟨port, s₁, hport, h⟩ := Reader.bind_eq_ok h
  obtain ⟨hzero, h⟩ := Reader.check_eq_ok h
  obtain ⟨_, s₂, hdone, h⟩ := Reader.bind_eq_ok h
  obtain ⟨rfl, rfl⟩ := Reader.pure_eq_ok h
  obtain ⟨rfl, rfl⟩ := requireExhausted_eq_ok hdone
  obtain ⟨rfl, _⟩ := readBE_eq_ok hport
  rw [List.append_nil]
  refine ⟨rfl, ?_⟩
  unfold writeMuxRegistered
  exact Emits.check hzero ((emits_type .muxRegistered).bind (emits_writeBE 2 port))

/-- A reason that was read has the byte it was read from. -/
lemma MuxRefusal.toByte_ofByte {n : Nat} {reason : MuxRefusal} (h : ofByte n = some reason) :
    reason.toByte = n := by
  unfold ofByte at h
  split at h <;> cases h <;> rfl

/-- MuxRefused is canonical. -/
lemma muxRefused_canonical : Canonical .muxRefused parseMuxRefused writeMuxRefused := by
  intro body rest m h
  obtain ⟨rawReason, s₁, hreason, h⟩ := Reader.bind_eq_ok h
  cases hof : MuxRefusal.ofByte rawReason with
  | none =>
    rw [hof] at h
    cases h
  | some reason =>
    rw [hof] at h
    obtain ⟨_, s₂, hdone, h⟩ := Reader.bind_eq_ok h
    obtain ⟨rfl, rfl⟩ := Reader.pure_eq_ok h
    obtain ⟨rfl, rfl⟩ := requireExhausted_eq_ok hdone
    obtain ⟨rfl, _⟩ := readBE_eq_ok hreason
    rw [List.append_nil, ← MuxRefusal.toByte_ofByte hof]
    exact ⟨rfl, (emits_type .muxRefused).bind (emits_writeBE 1 reason.toByte)⟩

/-- MuxHandoff is canonical. -/
lemma muxHandoff_canonical : Canonical .muxHandoff parseMuxHandoff writeMuxHandoff := by
  intro body rest m h
  obtain ⟨length, s₁, hlength, h⟩ := Reader.bind_eq_ok h
  obtain ⟨hsize, h⟩ := Reader.check_eq_ok h
  obtain ⟨bytes, s₂, hbytes, h⟩ := Reader.bind_eq_ok h
  obtain ⟨_, s₃, hdone, h⟩ := Reader.bind_eq_ok h
  obtain ⟨rfl, rfl⟩ := Reader.pure_eq_ok h
  obtain ⟨rfl, rfl⟩ := requireExhausted_eq_ok hdone
  obtain ⟨rfl, rfl⟩ := readBytes_eq_ok hbytes
  obtain ⟨rfl, _⟩ := readBE_eq_ok hlength
  rw [List.append_nil]
  refine ⟨rfl, ?_⟩
  unfold writeMuxHandoff
  refine Emits.check (fun hbad => hsize (hbad.imp (fun hempty => ?_) id)) ?_
  · exact List.length_eq_zero_iff.mpr (List.isEmpty_iff.mp hempty)
  · exact (emits_type .muxHandoff).bind ((emits_writeBE 2 bytes.length).bind
      (emits_writeBytes bytes))

/-- A message of any type. -/
inductive Message where
  | hello (m : HelloMessage)
  | challenge (m : ChallengeMessage)
  | auth (m : AuthMessage)
  | authOk (m : AuthOkMessage)
  | resume (m : ResumeMessage)
  | bootstrapOffer (m : BootstrapOfferMessage)
  | bootstrapAccept (m : BootstrapAcceptMessage)
  | data (m : DataMessage)
  | ack (m : AckMessage)
  | resize (m : ResizeMessage)
  | ping (m : PingMessage)
  | pong (m : PingMessage)
  | sessionEnd (m : SessionEndMessage)
  | gridBegin (m : GridBeginMessage)
  | gridChunk (m : GridChunkMessage)
  | gridEnd
  | gridApplied (m : GridAppliedMessage)
  | muxRegister (m : MuxRegisterMessage)
  | muxRegistered (m : MuxRegisteredMessage)
  | muxRefused (m : MuxRefusedMessage)
  | muxHandoff (m : MuxHandoffMessage)
deriving DecidableEq, Repr

/-- The type a message has on the wire. -/
def Message.type : Message → MessageType
  | .hello _ => .hello
  | .challenge _ => .challenge
  | .auth _ => .auth
  | .authOk _ => .authOk
  | .resume _ => .resume
  | .bootstrapOffer _ => .bootstrapOffer
  | .bootstrapAccept _ => .bootstrapAccept
  | .data _ => .data
  | .ack _ => .ack
  | .resize _ => .resize
  | .ping _ => .ping
  | .pong _ => .pong
  | .sessionEnd _ => .sessionEnd
  | .gridBegin _ => .gridBegin
  | .gridChunk _ => .gridChunk
  | .gridEnd => .gridEnd
  | .gridApplied _ => .gridApplied
  | .muxRegister _ => .muxRegister
  | .muxRegistered _ => .muxRegistered
  | .muxRefused _ => .muxRefused
  | .muxHandoff _ => .muxHandoff

/-- The writer of each type, at a protocol version. -/
def Message.write (version : Nat) : Message → Writer Unit
  | .hello m => writeHello m
  | .challenge m => writeChallenge m
  | .auth m => writeAuth m
  | .authOk m => writeAuthOk m
  | .resume m => writeResume m version
  | .bootstrapOffer m => writeBootstrapOffer m
  | .bootstrapAccept m => writeBootstrapAccept m
  | .data m => writeData m
  | .ack m => writeAck m
  | .resize m => writeResize m
  | .ping m => writePing m
  | .pong m => writePong m
  | .sessionEnd m => writeSessionEnd m version
  | .gridBegin m => writeGridBegin m
  | .gridChunk m => writeGridChunk m
  | .gridEnd => writeGridEnd
  | .gridApplied m => writeGridApplied m
  | .muxRegister m => writeMuxRegister m
  | .muxRegistered m => writeMuxRegistered m
  | .muxRefused m => writeMuxRefused m
  | .muxHandoff m => writeMuxHandoff m

/-- The parser of each type, at a protocol version: the bytes after the type byte. -/
def parseBody (version : Nat) : MessageType → Reader Message
  | .hello => Message.hello <$> parseHello
  | .challenge => Message.challenge <$> parseChallenge
  | .auth => Message.auth <$> parseAuth
  | .authOk => Message.authOk <$> parseAuthOk
  | .resume => Message.resume <$> parseResume version
  | .bootstrapOffer => Message.bootstrapOffer <$> parseBootstrapOffer
  | .bootstrapAccept => Message.bootstrapAccept <$> parseBootstrapAccept
  | .data => Message.data <$> parseData
  | .ack => Message.ack <$> parseAck
  | .resize => Message.resize <$> parseResize
  | .ping => Message.ping <$> parsePing
  | .pong => Message.pong <$> parsePong
  | .sessionEnd => Message.sessionEnd <$> parseSessionEnd version
  | .gridBegin => Message.gridBegin <$> parseGridBegin
  | .gridChunk => Message.gridChunk <$> parseGridChunk
  | .gridEnd => (fun _ => Message.gridEnd) <$> parseGridEnd
  | .gridApplied => Message.gridApplied <$> parseGridApplied
  | .muxRegister => Message.muxRegister <$> parseMuxRegister
  | .muxRegistered => Message.muxRegistered <$> parseMuxRegistered
  | .muxRefused => Message.muxRefused <$> parseMuxRefused
  | .muxHandoff => Message.muxHandoff <$> parseMuxHandoff

/-- A type byte and the body that follows it. -/
def parseMessage (version : Nat) : Reader Message := do
  let type ← parseMessageType
  parseBody version type

/-- A canonical codec stays one inside the sum. -/
lemma Canonical.inMessage {α : Type} {type : MessageType} {parse : Reader α}
    {write : α → Writer Unit} {version : Nat} {wrap : α → Message}
    (canonical : Canonical type parse write) (htype : ∀ a, (wrap a).type = type)
    (hwrite : ∀ a, (wrap a).write version = write a) {body rest : Bytes} {m : Message}
    (h : (wrap <$> parse) body = .ok (m, rest)) :
    rest = [] ∧ m.type = type ∧ Emits (m.write version) (encodeBE 1 type.toByte ++ body) := by
  obtain ⟨a, ha, rfl⟩ := Reader.map_eq_ok h
  obtain ⟨hrest, hemits⟩ := canonical ha
  rw [hwrite]
  exact ⟨hrest, htype a, hemits⟩

/-- Every codec is canonical. -/
lemma parseBody_canonical {version : Nat} {type : MessageType} {body rest : Bytes} {m : Message}
    (h : parseBody version type body = .ok (m, rest)) :
    rest = [] ∧ m.type = type ∧ Emits (m.write version) (encodeBE 1 type.toByte ++ body) := by
  cases type with
  | hello => exact Canonical.inMessage hello_canonical (fun _ => rfl) (fun _ => rfl) h
  | challenge => exact Canonical.inMessage challenge_canonical (fun _ => rfl) (fun _ => rfl) h
  | auth => exact Canonical.inMessage auth_canonical (fun _ => rfl) (fun _ => rfl) h
  | authOk => exact Canonical.inMessage authOk_canonical (fun _ => rfl) (fun _ => rfl) h
  | resume => exact Canonical.inMessage (resume_canonical version) (fun _ => rfl) (fun _ => rfl) h
  | bootstrapOffer =>
    exact Canonical.inMessage bootstrapOffer_canonical (fun _ => rfl) (fun _ => rfl) h
  | bootstrapAccept =>
    exact Canonical.inMessage bootstrapAccept_canonical (fun _ => rfl) (fun _ => rfl) h
  | data => exact Canonical.inMessage data_canonical (fun _ => rfl) (fun _ => rfl) h
  | ack => exact Canonical.inMessage ack_canonical (fun _ => rfl) (fun _ => rfl) h
  | resize => exact Canonical.inMessage resize_canonical (fun _ => rfl) (fun _ => rfl) h
  | ping => exact Canonical.inMessage ping_canonical (fun _ => rfl) (fun _ => rfl) h
  | pong => exact Canonical.inMessage pong_canonical (fun _ => rfl) (fun _ => rfl) h
  | sessionEnd =>
    exact Canonical.inMessage (sessionEnd_canonical version) (fun _ => rfl) (fun _ => rfl) h
  | gridBegin => exact Canonical.inMessage gridBegin_canonical (fun _ => rfl) (fun _ => rfl) h
  | gridChunk => exact Canonical.inMessage gridChunk_canonical (fun _ => rfl) (fun _ => rfl) h
  | gridEnd => exact Canonical.inMessage gridEnd_canonical (fun _ => rfl) (fun _ => rfl) h
  | gridApplied => exact Canonical.inMessage gridApplied_canonical (fun _ => rfl) (fun _ => rfl) h
  | muxRegister => exact Canonical.inMessage muxRegister_canonical (fun _ => rfl) (fun _ => rfl) h
  | muxRegistered =>
    exact Canonical.inMessage muxRegistered_canonical (fun _ => rfl) (fun _ => rfl) h
  | muxRefused => exact Canonical.inMessage muxRefused_canonical (fun _ => rfl) (fun _ => rfl) h
  | muxHandoff => exact Canonical.inMessage muxHandoff_canonical (fun _ => rfl) (fun _ => rfl) h

/--
A body that the parser of its type accepts is read to its end, and writing the parsed message at the
same version gives back the type byte and the body, wherever there is room for them. No other body
parses to that message, and reading what was written gives it again.
-/
theorem codec_canonical (version : Nat) (type : MessageType) (body rest : Bytes) (m : Message)
    (accepted : parseBody version type body = .ok (m, rest)) :
    rest = [] ∧ m.type = type ∧
      (∀ room, writeInto room (m.write version) =
        if body.length < room then .ok (UInt8.ofNat type.toByte :: body)
        else .error .bufferTooSmall) ∧
      (∀ body' rest', parseBody version type body' = .ok (m, rest') → body' = body) ∧
      (∀ room bytes, writeInto room (m.write version) = .ok bytes →
        parseMessage version bytes = .ok (m, [])) := by
  obtain ⟨rfl, htype, hemits⟩ := parseBody_canonical accepted
  have hspelled : ∀ room, writeInto room (m.write version) =
      if body.length < room then .ok (UInt8.ofNat type.toByte :: body)
      else .error .bufferTooSmall := by
    intro room
    have hbyte : encodeBE 1 type.toByte = [UInt8.ofNat type.toByte] := by simp [encodeBE]
    rw [hemits.writeInto room, hbyte]
    rfl
  refine ⟨rfl, htype, hspelled, ?_, ?_⟩
  · intro body' rest' haccepted
    -- Both bodies are what the one message emits.
    obtain ⟨_, _, hemits'⟩ := parseBody_canonical haccepted
    have hsame := (hemits.writeInto (1 + body.length + body'.length)).symm.trans
      (hemits'.writeInto (1 + body.length + body'.length))
    rw [if_pos (by simp), if_pos (by simp), Except.ok.injEq] at hsame
    exact (List.append_cancel_left hsame).symm
  · intro room bytes hwritten
    rw [hspelled] at hwritten
    split at hwritten
    · cases hwritten
      have hread := parseMessageType_write type body
      rw [parseMessage, show UInt8.ofNat type.toByte :: body = encodeBE 1 type.toByte ++ body by
        simp [encodeBE], Reader.bind_ok hread]
      exact accepted
    · cases hwritten

/-- The body of a Hello that offers versions 1 and 2 and the grid option. -/
def gridCapableHello : Bytes :=
  helloMagic ++ [0, 1, 0, 2] ++ List.replicate 16 7 ++ List.replicate 16 9 ++ [0, 3, 0, 2, 0, 1]

/-- The Hello of a client that takes snapshots, there and back. -/
theorem codec_canonical_gridCapableHello :
    ∃ m, parseBody 2 .hello gridCapableHello = .ok (m, []) ∧
      writeInto 47 (m.write 2) = .ok (1 :: gridCapableHello) := by
  have haccepted : parseBody 2 .hello gridCapableHello =
      .ok (.hello ⟨1, 2, ⟨List.replicate 16 7, rfl⟩, ⟨List.replicate 16 9, rfl⟩,
        ⟨[⟨3, [0, 1]⟩], by decide, by decide, by decide⟩⟩, []) := rfl
  refine ⟨_, haccepted, ?_⟩
  have hspelled := (codec_canonical 2 .hello gridCapableHello [] _ haccepted).2.2.1 47
  rw [if_pos (by decide)] at hspelled
  exact hspelled

end Zet.Wire
