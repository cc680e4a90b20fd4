import Zet.Wire.Canonical

/-!
# What a writer emits is read

The other direction of `Zet.Wire.Canonical`: whatever a writer of `src/wire/message.cpp` emits for a
message of its type is read back by the parser as that message. Most rules of the parsers are checked
by the writers as well, or kept by the types of the fields, by `TlvList::Append` and by
`BootstrapEnvironment::Add`. Two are not: an option list may hold a critical option, which no parser
knows, and a Hello may name a range of versions that is not one. `Message.Understood` is what is left,
and `writer_read_back` the law for every type and version.
-/

namespace Zet.Wire
open Zet.Core

/-- An array in front is read back. -/
lemma readArray_exact {size : Nat} (a : Octets size) (tail : Bytes) :
    readArray size (a.val ++ tail) = .ok (a, tail) := by
  obtain ⟨bytes, rfl⟩ := a
  rw [readArray, dif_neg (by simp)]
  simp

/-- So is one at the end of the input. -/
lemma readArray_exact_last {size : Nat} (a : Octets size) : readArray size a.val = .ok (a, []) := by
  simpa using readArray_exact a []

/-- Whatever the writer emits, the parser reads as `m`. -/
def ReadsBack {α : Type} (type : MessageType) (parse : Reader α) (write : Writer Unit) (m : α) : Prop :=
  ∀ room bytes, writeInto room write = .ok bytes →
    ∃ body, bytes = encodeBE 1 type.toByte ++ body ∧ parse body = .ok (m, [])

section
variable {α : Type} {type : MessageType} {parse : Reader α} {m : α}

/-- Reading back is writing the body that the parser takes. -/
lemma ReadsBack.of_emits {write : Writer Unit} {body : Bytes}
    (emits : Emits write (encodeBE 1 type.toByte ++ body)) (read : parse body = .ok (m, [])) :
    ReadsBack type parse write m := fun _ _ written => ⟨body, emits.written written, read⟩

/-- What a check of the writer lets through. -/
lemma ReadsBack.check {c : Prop} [Decidable c] {e : ProtoError} {k : PUnit → Writer Unit}
    (h : ¬c → ReadsBack type parse (k ⟨⟩) m) :
    ReadsBack type parse (if c then throw e >>= k else k ⟨⟩) m := by
  intro room bytes written
  obtain ⟨hc, hwritten⟩ := writeInto_check written
  exact h hc room bytes hwritten

end

/-- Data in range is read back. -/
lemma data_readsBack {m : DataMessage} (ack : m.ack < 256 ^ 8) (offset : m.offset < 256 ^ 8) :
    ReadsBack .data parseData (writeData m) m := by
  unfold writeData
  refine .check fun hempty => .check fun hlong => ?_
  refine .of_emits ((emits_type .data).bind
    ((emits_writeBE 8 m.ack).bind ((emits_writeBE 8 m.offset).bind (emits_writeBytes m.payload)))) ?_
  rw [parseData_write (by simpa using hempty) (Nat.not_lt.mp hlong), Nat.mod_eq_of_lt ack,
    Nat.mod_eq_of_lt offset]

/-- So is Ack. -/
lemma ack_readsBack {m : AckMessage} (ack : m.ack < 256 ^ 8) :
    ReadsBack .ack parseAck (writeAck m) m := by
  refine .of_emits ((emits_type .ack).bind (emits_writeBE 8 m.ack)) ?_
  rw [parseAck_write, Nat.mod_eq_of_lt ack]

/-- So is Resize. -/
lemma resize_readsBack {m : ResizeMessage} (rows : m.rows < 256 ^ 2) (cols : m.cols < 256 ^ 2)
    (xpixel : m.xpixel < 256 ^ 2) (ypixel : m.ypixel < 256 ^ 2) :
    ReadsBack .resize parseResize (writeResize m) m := by
  refine .of_emits ((emits_type .resize).bind ((emits_writeBE 2 m.rows).bind
    ((emits_writeBE 2 m.cols).bind ((emits_writeBE 2 m.xpixel).bind (emits_writeBE 2 m.ypixel))))) ?_
  rw [parseResize_write, Nat.mod_eq_of_lt rows, Nat.mod_eq_of_lt cols, Nat.mod_eq_of_lt xpixel,
    Nat.mod_eq_of_lt ypixel]

/-- A token in range is read back. -/
lemma parseToken_exact {m : PingMessage} (token : m.token < 256 ^ 8) :
    parseToken (encodeBE 8 m.token) = .ok (m, []) := by
  rw [parseToken_write, Nat.mod_eq_of_lt token]

/-- So is Ping. -/
lemma ping_readsBack {m : PingMessage} (token : m.token < 256 ^ 8) :
    ReadsBack .ping parsePing (writePing m) m :=
  .of_emits ((emits_type .ping).bind (emits_writeBE 8 m.token)) (parseToken_exact token)

/-- So is Pong. -/
lemma pong_readsBack {m : PingMessage} (token : m.token < 256 ^ 8) :
    ReadsBack .pong parsePong (writePong m) m :=
  .of_emits ((emits_type .pong).bind (emits_writeBE 8 m.token)) (parseToken_exact token)

/-- So is SessionEnd. -/
lemma sessionEnd_readsBack {m : SessionEndMessage} (version : Nat) (value : m.value < 256 ^ 1) :
    ReadsBack .sessionEnd (parseSessionEnd version) (writeSessionEnd m version) m := by
  unfold writeSessionEnd
  refine .check fun hversion => .check fun hvalue => ?_
  refine .of_emits ((emits_type .sessionEnd).bind
    ((emits_writeBE 1 m.kind.toByte).bind (emits_writeBE 1 m.value))) ?_
  have hkind : m.kind.toByte < 256 ^ 1 := by cases m.kind <;> decide
  have hof : SessionEndKind.ofByte m.kind.toByte = some m.kind := by cases m.kind <;> rfl
  rw [parseSessionEnd, Reader.bind_ok (readBE_exact hkind _), Reader.bind_ok (readBE_exact_last value),
    hof]
  dsimp only
  rw [Reader.check_ok hversion, Reader.check_ok hvalue]
  rfl

/-- So is Resume. -/
lemma resume_readsBack {m : ResumeMessage} (version : Nat) (gen : m.streamGen < 256 ^ 4)
    (offset : m.clientReceiveOffset < 256 ^ 8) :
    ReadsBack .resume (parseResume version) (writeResume m version) m := by
  unfold writeResume
  refine .check fun hversion => ?_
  have hread : parseResume version ((if version ≥ protocolVersionGrid then encodeBE 4 m.streamGen
      else []) ++ encodeBE 8 m.clientReceiveOffset) = .ok (m, []) := by
    rw [parseResume_write, Nat.mod_eq_of_lt gen, Nat.mod_eq_of_lt offset]
    congr 3
    split
    · rfl
    next hold => exact (not_not.mp fun hne => hversion ⟨Nat.not_le.mp hold, hne⟩).symm
  refine .of_emits ((emits_type .resume).bind ?_) hread
  split
  · exact (emits_writeBE 4 m.streamGen).bind (emits_writeBE 8 m.clientReceiveOffset)
  · exact emits_pure.bind (emits_writeBE 8 m.clientReceiveOffset)

/-- So is GridBegin. -/
lemma gridBegin_readsBack {m : GridBeginMessage} (flags : m.flags < 256) (gen : m.streamGen < 256 ^ 4) :
    ReadsBack .gridBegin parseGridBegin (writeGridBegin m) m := by
  unfold writeGridBegin
  refine .check fun hreserved => .check fun hsize => .check fun hpart => ?_
  refine .of_emits ((emits_type .gridBegin).bind ((emits_writeBE 1 m.flags).bind
    ((emits_writeBE 4 m.streamGen).bind ((emits_writeBE 4 m.scrollbackLen).bind
      (emits_writeBE 4 m.totalLen))))) ?_
  rw [not_or] at hsize
  rw [parseGridBegin_write (by simpa using hreserved) flags hsize.1 (Nat.not_lt.mp hsize.2)
    (Nat.not_lt.mp hpart), Nat.mod_eq_of_lt gen]

/-- So is GridChunk. -/
lemma gridChunk_readsBack {m : GridChunkMessage} (offset : m.chunkOffset < 256 ^ 4) :
    ReadsBack .gridChunk parseGridChunk (writeGridChunk m) m := by
  unfold writeGridChunk
  refine .check fun hempty => .check fun hlong => ?_
  refine .of_emits ((emits_type .gridChunk).bind
    ((emits_writeBE 4 m.chunkOffset).bind (emits_writeBytes m.data))) ?_
  rw [parseGridChunk_write (by simpa using hempty) (Nat.not_lt.mp hlong), Nat.mod_eq_of_lt offset]

/-- So is GridEnd. -/
lemma gridEnd_readsBack : ReadsBack .gridEnd parseGridEnd writeGridEnd () := by
  have hread : parseGridEnd [] = .ok ((), []) := rfl
  refine .of_emits ?_ hread
  rw [List.append_nil]
  exact emits_type .gridEnd

/-- So is GridApplied. -/
lemma gridApplied_readsBack {m : GridAppliedMessage} (gen : m.streamGen < 256 ^ 4) :
    ReadsBack .gridApplied parseGridApplied (writeGridApplied m) m := by
  refine .of_emits ((emits_type .gridApplied).bind (emits_writeBE 4 m.streamGen)) ?_
  rw [parseGridApplied_write, Nat.mod_eq_of_lt gen]

/-- Lists with the same options are the same. -/
lemma TlvList.eq_of_options {a b : TlvList} (h : a.options = b.options) : a = b := by
  cases a
  cases b
  cases h
  rfl

/-- An option is appended when there is room for it and its type is new. -/
lemma TlvList.append_ok {list : TlvList} {o : TlvOption} (narrow : o.value.length ≤ maxTlvValueSize)
    (new : o.type ∉ list.options.map TlvOption.type) (room : list.options.length < maxTlvOptions) :
    ∃ list', list.append o = .ok list' ∧ list'.options = list.options ++ [o] := by
  unfold TlvList.append
  rw [dif_neg (Nat.not_lt.mpr narrow), dif_neg new, dif_neg (by omega)]
  exact ⟨_, rfl, rfl⟩

/-- The loop reads the options of a list that are not critical, and refuses the first that is. -/
lemma parseOptionsLoop_spelled {full : TlvList} (range : ∀ o ∈ full.options, o.type < 256 ^ 2)
    {fuel : Nat} {list : TlvList} {left : List TlvOption} (split : full.options = list.options ++ left)
    (enough : (left.flatMap TlvOption.spelling).length < fuel) :
    parseOptionsLoop fuel list (left.flatMap TlvOption.spelling) =
      if ∀ o ∈ left, o.isCritical = false then .ok (full, [])
      else .error .unsupportedCriticalOption := by
  induction left generalizing fuel list with
  | nil =>
    cases fuel with
    | zero => cases enough
    | succ fuel =>
      rw [if_pos (by simp), show full = list from TlvList.eq_of_options (by simpa using split)]
      rfl
  | cons o left ih =>
    cases fuel with
    | zero => cases enough
    | succ fuel =>
      have hmem : o ∈ full.options := by simp [split]
      have hlength : o.value.length < 256 ^ 2 := by
        have hnarrow := full.narrow o hmem
        simp only [maxTlvValueSize] at hnarrow
        omega
      have hspelled : (o :: left).flatMap TlvOption.spelling = encodeBE 2 o.type ++
          (encodeBE 2 o.value.length ++ (o.value ++ left.flatMap TlvOption.spelling)) := by
        simp [TlvOption.spelling]
      have hsome : ¬(encodeBE 2 o.type ++ (encodeBE 2 o.value.length ++
          (o.value ++ left.flatMap TlvOption.spelling))).isEmpty = true := by
        simp [encodeBE]
      have hrest : ∀ s, readRest s = .ok (s, s) := fun _ => rfl
      rw [hspelled, parseOptionsLoop, Reader.bind_ok (hrest _), if_neg hsome]
      rw [Reader.bind_ok (readBE_exact (range o hmem) _), Reader.bind_ok (readBE_exact hlength _),
        Reader.bind_ok (readBytes_exact o.value _)]
      by_cases hcritical : o.isCritical = true
      · rw [if_pos hcritical, if_neg (by simp [hcritical])]
        rfl
      · have hdistinct := full.distinct
        have hfew := full.few
        rw [split, List.map_append, List.map_cons, List.nodup_append] at hdistinct
        rw [split, List.length_append, List.length_cons] at hfew
        have hnew : o.type ∉ list.options.map TlvOption.type := fun hold =>
          hdistinct.2.2 _ hold _ List.mem_cons_self rfl
        obtain ⟨next, happend, hnext⟩ := TlvList.append_ok (full.narrow o hmem) hnew (by omega)
        rw [if_neg hcritical]
        simp only [happend]
        have hshorter : (left.flatMap TlvOption.spelling).length < fuel := by
          rw [hspelled] at enough
          simp only [List.length_append, length_encodeBE] at enough
          omega
        rw [ih (by rw [hnext, split, List.append_assoc]; rfl) hshorter]
        simp [hcritical]

/-- None of the options is one the peer has to know. -/
def TlvList.Optional (options : TlvList) : Prop := ∀ o ∈ options.options, o.isCritical = false

instance (options : TlvList) : Decidable options.Optional := by
  unfold TlvList.Optional
  infer_instance

/-- Options in range are read back if all of them are optional. -/
lemma parseOptions_spelled {options : TlvList} (range : ∀ o ∈ options.options, o.type < 256 ^ 2) :
    parseOptions (options.options.flatMap TlvOption.spelling) =
      if options.Optional then .ok (options, []) else .error .unsupportedCriticalOption := by
  have hrest : ∀ s, readRest s = .ok (s, s) := fun _ => rfl
  rw [parseOptions, Reader.bind_ok (hrest _)]
  exact parseOptionsLoop_spelled range rfl (Nat.lt_succ_self _)

/-- A range of versions in order is read back. -/
lemma parseVersionRange_exact {low high : Nat} (narrow : low < 256 ^ 2) (narrow' : high < 256 ^ 2)
    (ordered : low ≤ high) (tail : Bytes) :
    parseVersionRange (encodeBE 2 low ++ (encodeBE 2 high ++ tail)) = .ok ((low, high), tail) := by
  rw [parseVersionRange, Reader.bind_ok (readBE_exact narrow _),
    Reader.bind_ok (readBE_exact narrow' _), Reader.check_ok (Nat.not_lt.mpr ordered)]
  rfl

/-- A Hello is read back exactly when its range is one and its peer may do without its options. -/
lemma parseHello_fields {m : HelloMessage} (low : m.versionMin < 256 ^ 2) (high : m.versionMax < 256 ^ 2)
    (range : ∀ o ∈ m.options.options, o.type < 256 ^ 2) :
    parseHello m.fields = .ok (m, []) ↔ m.versionMin ≤ m.versionMax ∧ m.options.Optional := by
  refine ⟨fun h => ⟨(parseHello_eq_ok h).2.2.1, ?_⟩, fun ⟨hordered, hoptional⟩ => ?_⟩
  · obtain ⟨_, _, _, h⟩ := Reader.bind_eq_ok h
    obtain ⟨_, h⟩ := Reader.check_eq_ok h
    obtain ⟨_, _, _, h⟩ := Reader.bind_eq_ok h
    obtain ⟨_, _, _, h⟩ := Reader.bind_eq_ok h
    obtain ⟨_, _, _, h⟩ := Reader.bind_eq_ok h
    obtain ⟨options, s, hoptions, h⟩ := Reader.bind_eq_ok h
    obtain ⟨rfl, rfl⟩ := Reader.pure_eq_ok h
    obtain ⟨-, hspelled⟩ := parseOptions_eq_ok hoptions
    rw [hspelled, parseOptions_spelled range] at hoptions
    by_contra hcritical
    rw [if_neg hcritical] at hoptions
    cases hoptions
  · rw [parseHello, HelloMessage.fields, Reader.bind_ok (readBytes_exact helloMagic _),
      Reader.check_ok (not_not.mpr rfl)]
    beta_reduce
    rw [Reader.bind_ok (parseVersionRange_exact low high hordered _)]
    dsimp only
    rw [Reader.bind_ok (readArray_exact m.id _), Reader.bind_ok (readArray_exact m.clientNonce _),
      Reader.bind_ok ((parseOptions_spelled range).trans (if_pos hoptional))]
    rfl

/-- A Challenge in range is read back if its options are optional. -/
lemma parseChallenge_fields {m : ChallengeMessage} (version : m.version < 256 ^ 2)
    (range : ∀ o ∈ m.options.options, o.type < 256 ^ 2) :
    parseChallenge m.fields = .ok (m, []) ↔ m.options.Optional := by
  rw [parseChallenge, ChallengeMessage.fields, Reader.bind_ok (readBE_exact version _),
    Reader.bind_ok (readArray_exact m.serverNonce _)]
  refine ⟨fun h => ?_, fun hoptional => ?_⟩
  · obtain ⟨options, s, hoptions, -⟩ := Reader.bind_eq_ok h
    rw [parseOptions_spelled range] at hoptions
    by_contra hcritical
    rw [if_neg hcritical] at hoptions
    cases hoptions
  · rw [Reader.bind_ok ((parseOptions_spelled range).trans (if_pos hoptional))]
    rfl

/-- Auth is read back. -/
lemma auth_readsBack (m : AuthMessage) : ReadsBack .auth parseAuth (writeAuth m) m := by
  refine .of_emits ((emits_type .auth).bind (emits_array m.clientTag)) ?_
  rw [parseAuth, Reader.bind_ok (readArray_exact_last m.clientTag)]
  rfl

/-- So is AuthOk. -/
lemma authOk_readsBack {m : AuthOkMessage} (offset : m.serverReceiveOffset < 256 ^ 8) :
    ReadsBack .authOk parseAuthOk (writeAuthOk m) m := by
  refine .of_emits ((emits_type .authOk).bind
    ((emits_array m.serverTag).bind (emits_writeBE 8 m.serverReceiveOffset))) ?_
  rw [parseAuthOk, Reader.bind_ok (readArray_exact m.serverTag _),
    Reader.bind_ok (readBE_exact_last offset)]
  rfl

/-- An environment is its entries. -/
lemma BootstrapEnvironment.eq_of_entries {a b : BootstrapEnvironment} (h : a.entries = b.entries) :
    a = b := by
  cases a
  cases b
  cases h
  rfl

/-- A variable that is admitted, new and has room is added. -/
lemma BootstrapEnvironment.add_ok {environment : BootstrapEnvironment} {v : EnvironmentVariable}
    (admitted : v.Admitted) (new : v.name ∉ environment.entries.map EnvironmentVariable.name)
    (room : environment.entries.length < maxBootstrapEnv) :
    ∃ environment', environment.add v.name v.value = some environment' ∧
      environment'.entries = environment.entries ++ [v] := by
  unfold BootstrapEnvironment.add
  rw [dif_neg (by omega), dif_pos admitted, dif_neg new]
  exact ⟨_, rfl, rfl⟩

/-- A short text in front is read back. -/
lemma readShortText_exact {text : Bytes} (short : text.length < 256 ^ 1) (tail : Bytes) :
    readShortText (shortSpelling text ++ tail) = .ok (text, tail) := by
  rw [readShortText, shortSpelling, List.append_assoc, Reader.bind_ok (readBE_exact short _),
    readBytes_exact]

/-- The loop reads the variables of an environment. -/
lemma parseVariables_spelled {full environment : BootstrapEnvironment} {left : List EnvironmentVariable}
    (split : full.entries = environment.entries ++ left) :
    parseVariables left.length environment (left.flatMap EnvironmentVariable.spelling) =
      .ok (full, []) := by
  induction left generalizing environment with
  | nil =>
    rw [show full = environment from BootstrapEnvironment.eq_of_entries (by simpa using split)]
    rfl
  | cons v left ih =>
    have hmem : v ∈ full.entries := by simp [split]
    have hadmitted := full.admitted v hmem
    have hname : v.name.length < 256 ^ 1 := hadmitted.1.trans_lt (by decide)
    have hvalue : v.value.length < 256 ^ 1 := hadmitted.2.1.trans_lt (by decide)
    have hspelled : (v :: left).flatMap EnvironmentVariable.spelling =
        shortSpelling v.name ++ (shortSpelling v.value ++
          left.flatMap EnvironmentVariable.spelling) := by
      simp [EnvironmentVariable.spelling]
    have hdistinct := full.distinct
    have hfew := full.few
    rw [split, List.map_append, List.map_cons, List.nodup_append] at hdistinct
    rw [split, List.length_append, List.length_cons] at hfew
    have hnew : v.name ∉ environment.entries.map EnvironmentVariable.name := fun hold =>
      hdistinct.2.2 _ hold _ List.mem_cons_self rfl
    obtain ⟨next, hadd, hnext⟩ := BootstrapEnvironment.add_ok hadmitted hnew (by omega)
    rw [hspelled, List.length_cons, parseVariables, Reader.bind_ok (readShortText_exact hname _),
      Reader.bind_ok (readShortText_exact hvalue _), hadd]
    exact ih (by rw [hnext, split, List.append_assoc]; rfl)

/-- BootstrapOffer in range is read back. -/
lemma bootstrapOffer_readsBack {m : BootstrapOfferMessage} (low : m.versionMin < 256 ^ 2)
    (high : m.versionMax < 256 ^ 2) :
    ReadsBack .bootstrapOffer parseBootstrapOffer (writeBootstrapOffer m) m := by
  unfold writeBootstrapOffer
  refine .check fun hordered => ?_
  have hvariables : Emits (m.environment.entries.forM writeVariable)
      (m.environment.entries.flatMap EnvironmentVariable.spelling) :=
    Emits.forM _ fun v _ => (emits_shortText v.name).bind (emits_shortText v.value)
  refine .of_emits ((emits_type .bootstrapOffer).bind ((emits_writeBE 2 m.versionMin).bind
    ((emits_writeBE 2 m.versionMax).bind ((emits_array m.clientKey).bind
      ((emits_array m.clientNonce).bind ((emits_writeBE 1 m.environment.entries.length).bind
        hvariables)))))) ?_
  have hfew := m.environment.few
  have hcount : m.environment.entries.length < 256 ^ 1 := hfew.trans_lt (by decide)
  rw [parseBootstrapOffer,
    Reader.bind_ok (parseVersionRange_exact low high (Nat.not_lt.mp hordered) _)]
  dsimp only
  rw [Reader.bind_ok (readArray_exact m.clientKey _), Reader.bind_ok (readArray_exact m.clientNonce _),
    Reader.bind_ok (readBE_exact hcount _), Reader.check_ok (Nat.not_lt.mpr hfew),
    Reader.bind_ok (parseVariables_spelled rfl)]
  rfl

/-- So is BootstrapAccept. -/
lemma bootstrapAccept_readsBack {m : BootstrapAcceptMessage} (version : m.version < 256 ^ 2)
    (port : m.port < 256 ^ 2) (timeout : m.orphanTimeoutSeconds < 256 ^ 4) :
    ReadsBack .bootstrapAccept parseBootstrapAccept (writeBootstrapAccept m) m := by
  unfold writeBootstrapAccept
  refine .check fun hzero => ?_
  refine .of_emits ((emits_type .bootstrapAccept).bind ((emits_writeBE 2 m.version).bind
    ((emits_array m.agentKey).bind ((emits_array m.clientNonce).bind ((emits_array m.agentNonce).bind
      ((emits_writeBE 2 m.port).bind (emits_writeBE 4 m.orphanTimeoutSeconds))))))) ?_
  rw [parseBootstrapAccept, Reader.bind_ok (readBE_exact version _),
    Reader.bind_ok (readArray_exact m.agentKey _), Reader.bind_ok (readArray_exact m.clientNonce _),
    Reader.bind_ok (readArray_exact m.agentNonce _), Reader.bind_ok (readBE_exact port _),
    Reader.check_ok hzero]
  beta_reduce
  rw [Reader.bind_ok (readBE_exact_last timeout)]
  rfl

/-- So is MuxRegister. -/
lemma muxRegister_readsBack (m : MuxRegisterMessage) :
    ReadsBack .muxRegister parseMuxRegister (writeMuxRegister m) m := by
  refine .of_emits ((emits_type .muxRegister).bind (emits_array m.registration)) ?_
  rw [parseMuxRegister, Reader.bind_ok (readArray_exact_last m.registration)]
  rfl

/-- So is MuxRegistered. -/
lemma muxRegistered_readsBack {m : MuxRegisteredMessage} (port : m.port < 256 ^ 2) :
    ReadsBack .muxRegistered parseMuxRegistered (writeMuxRegistered m) m := by
  unfold writeMuxRegistered
  refine .check fun hzero => ?_
  refine .of_emits ((emits_type .muxRegistered).bind (emits_writeBE 2 m.port)) ?_
  rw [parseMuxRegistered, Reader.bind_ok (readBE_exact_last port), Reader.check_ok hzero]
  rfl

/-- So is MuxRefused. -/
lemma muxRefused_readsBack (m : MuxRefusedMessage) :
    ReadsBack .muxRefused parseMuxRefused (writeMuxRefused m) m := by
  have hbyte : m.reason.toByte < 256 ^ 1 := by cases m.reason <;> decide
  have hof : MuxRefusal.ofByte m.reason.toByte = some m.reason := by cases m.reason <;> rfl
  refine .of_emits ((emits_type .muxRefused).bind (emits_writeBE 1 m.reason.toByte)) ?_
  rw [parseMuxRefused, Reader.bind_ok (readBE_exact_last hbyte), hof]
  rfl

/-- So is MuxHandoff. -/
lemma muxHandoff_readsBack (m : MuxHandoffMessage) :
    ReadsBack .muxHandoff parseMuxHandoff (writeMuxHandoff m) m := by
  unfold writeMuxHandoff
  refine .check fun hsize => ?_
  rw [not_or] at hsize
  have hshort : m.bytes.length < 256 ^ 2 := (Nat.not_lt.mp hsize.2).trans_lt (by decide)
  have hfits : ¬(m.bytes.length = 0 ∨ m.bytes.length > maxHandoffPrefix) :=
    not_or.mpr ⟨fun hzero => hsize.1 (by simpa using hzero), hsize.2⟩
  have hread : readBytes m.bytes.length m.bytes = .ok (m.bytes, []) := by
    simpa using readBytes_exact m.bytes []
  refine .of_emits ((emits_type .muxHandoff).bind ((emits_writeBE 2 m.bytes.length).bind
    (emits_writeBytes m.bytes))) ?_
  rw [parseMuxHandoff, Reader.bind_ok (readBE_exact hshort _), Reader.check_ok hfits]
  beta_reduce
  rw [Reader.bind_ok hread]
  rfl

/-- The fields fit the integers the source declares them as. -/
def Message.InRange : Message → Prop
  | .hello m => m.versionMin < 256 ^ 2 ∧ m.versionMax < 256 ^ 2 ∧
      ∀ o ∈ m.options.options, o.type < 256 ^ 2
  | .challenge m => m.version < 256 ^ 2 ∧ ∀ o ∈ m.options.options, o.type < 256 ^ 2
  | .auth _ => True
  | .authOk m => m.serverReceiveOffset < 256 ^ 8
  | .resume m => m.streamGen < 256 ^ 4 ∧ m.clientReceiveOffset < 256 ^ 8
  | .bootstrapOffer m => m.versionMin < 256 ^ 2 ∧ m.versionMax < 256 ^ 2
  | .bootstrapAccept m => m.version < 256 ^ 2 ∧ m.port < 256 ^ 2 ∧ m.orphanTimeoutSeconds < 256 ^ 4
  | .data m => m.ack < 256 ^ 8 ∧ m.offset < 256 ^ 8
  | .ack m => m.ack < 256 ^ 8
  | .resize m => m.rows < 256 ^ 2 ∧ m.cols < 256 ^ 2 ∧ m.xpixel < 256 ^ 2 ∧ m.ypixel < 256 ^ 2
  | .ping m => m.token < 256 ^ 8
  | .pong m => m.token < 256 ^ 8
  | .sessionEnd m => m.value < 256 ^ 1
  | .gridBegin m => m.flags < 256 ∧ m.streamGen < 256 ^ 4
  | .gridChunk m => m.chunkOffset < 256 ^ 4
  | .gridEnd => True
  | .gridApplied m => m.streamGen < 256 ^ 4
  | .muxRegister _ => True
  | .muxRegistered m => m.port < 256 ^ 2
  | .muxRefused _ => True
  | .muxHandoff _ => True

/-- What no writer checks and a parser does. -/
def Message.Understood : Message → Prop
  | .hello m => m.versionMin ≤ m.versionMax ∧ m.options.Optional
  | .challenge m => m.options.Optional
  | _ => True

/-- A codec that reads back stays one inside the sum. -/
lemma ReadsBack.inMessage {α : Type} {type : MessageType} {parse : Reader α} {write : Writer Unit}
    {a : α} {version : Nat} {wrap : α → Message} (h : ReadsBack type parse write a)
    (hparse : parseBody version type = wrap <$> parse) {room : Nat} {bytes : Bytes}
    (written : writeInto room write = .ok bytes) :
    parseMessage version bytes = .ok (wrap a, []) := by
  obtain ⟨body, rfl, hbody⟩ := h room bytes written
  rw [parseMessage, Reader.bind_ok (parseMessageType_write type body), hparse, map_eq_pure_bind,
    Reader.bind_ok hbody]
  rfl

/-- Reading behind the type byte that was written. -/
lemma parseMessage_iff {α : Type} {type : MessageType} {parse : Reader α} {a : α} {version : Nat}
    {wrap : α → Message} (inj : ∀ a b, wrap a = wrap b → a = b)
    (hparse : parseBody version type = wrap <$> parse) (body : Bytes) :
    parseMessage version (encodeBE 1 type.toByte ++ body) = .ok (wrap a, []) ↔
      parse body = .ok (a, []) := by
  rw [parseMessage, Reader.bind_ok (parseMessageType_write type body), hparse]
  refine ⟨fun h => ?_, fun h => ?_⟩
  · obtain ⟨b, hb, hwrap⟩ := Reader.map_eq_ok h
    rw [hb, inj b a hwrap]
  · rw [map_eq_pure_bind, Reader.bind_ok h]
    rfl

/-- Whatever a writer emits for a message is read back as that message by the parser of its type, at
the same version, exactly when the message has no critical option and, if it is a Hello, a range of
versions that is one. -/
theorem writer_read_back (version : Nat) (m : Message) (range : m.InRange) (room : Nat) (bytes : Bytes)
    (written : writeInto room (m.write version) = .ok bytes) :
    parseMessage version bytes = .ok (m, []) ↔ m.Understood := by
  cases m with
  | hello m =>
    obtain rfl := (emits_hello m).written written
    exact (parseMessage_iff (fun _ _ => Message.hello.inj) rfl _).trans
      (parseHello_fields range.1 range.2.1 range.2.2)
  | challenge m =>
    obtain rfl := (emits_challenge m).written written
    exact (parseMessage_iff (fun _ _ => Message.challenge.inj) rfl _).trans
      (parseChallenge_fields range.1 range.2)
  | auth m => exact iff_of_true ((auth_readsBack m).inMessage rfl written) trivial
  | authOk m => exact iff_of_true ((authOk_readsBack range).inMessage rfl written) trivial
  | resume m =>
    exact iff_of_true ((resume_readsBack version range.1 range.2).inMessage rfl written) trivial
  | bootstrapOffer m =>
    exact iff_of_true ((bootstrapOffer_readsBack range.1 range.2).inMessage rfl written) trivial
  | bootstrapAccept m =>
    exact iff_of_true
      ((bootstrapAccept_readsBack range.1 range.2.1 range.2.2).inMessage rfl written) trivial
  | data m => exact iff_of_true ((data_readsBack range.1 range.2).inMessage rfl written) trivial
  | ack m => exact iff_of_true ((ack_readsBack range).inMessage rfl written) trivial
  | resize m =>
    exact iff_of_true
      ((resize_readsBack range.1 range.2.1 range.2.2.1 range.2.2.2).inMessage rfl written) trivial
  | ping m => exact iff_of_true ((ping_readsBack range).inMessage rfl written) trivial
  | pong m => exact iff_of_true ((pong_readsBack range).inMessage rfl written) trivial
  | sessionEnd m =>
    exact iff_of_true ((sessionEnd_readsBack version range).inMessage rfl written) trivial
  | gridBegin m =>
    exact iff_of_true ((gridBegin_readsBack range.1 range.2).inMessage rfl written) trivial
  | gridChunk m => exact iff_of_true ((gridChunk_readsBack range).inMessage rfl written) trivial
  | gridEnd => exact iff_of_true (gridEnd_readsBack.inMessage rfl written) trivial
  | gridApplied m => exact iff_of_true ((gridApplied_readsBack range).inMessage rfl written) trivial
  | muxRegister m => exact iff_of_true ((muxRegister_readsBack m).inMessage rfl written) trivial
  | muxRegistered m =>
    exact iff_of_true ((muxRegistered_readsBack range).inMessage rfl written) trivial
  | muxRefused m => exact iff_of_true ((muxRefused_readsBack m).inMessage rfl written) trivial
  | muxHandoff m => exact iff_of_true ((muxHandoff_readsBack m).inMessage rfl written) trivial

/-- A Hello with this range of versions and these options. -/
def sampleHello (versionMin versionMax : Nat) (options : TlvList) : Message :=
  .hello ⟨versionMin, versionMax, ⟨List.replicate 16 7, rfl⟩, ⟨List.replicate 16 9, rfl⟩, options⟩

/-- The Hello of a client that can take snapshots. -/
def sampleGridHello : Message := sampleHello 1 2 .capable

/-- The Hello of a client that takes snapshots is read back. -/
theorem writer_read_back_gridHello : ∃ bytes, writeInto 64 (sampleGridHello.write 2) = .ok bytes ∧
    parseMessage 2 bytes = .ok (sampleGridHello, []) := by
  have hrange : sampleGridHello.InRange := ⟨by decide, by decide, by decide⟩
  exact ⟨_, rfl, (writer_read_back 2 sampleGridHello hrange 64 _ rfl).mpr ⟨by decide, by decide⟩⟩

/-- A list with a critical option is appended to and written, and no parser takes it; nor does the
parser take a Hello whose range is empty, which is written all the same. -/
theorem writer_not_read_back :
    (∃ options bytes, TlvList.empty.append ⟨0x8001, []⟩ = .ok options ∧
      writeInto 64 ((sampleHello 1 2 options).write 2) = .ok bytes ∧
      parseMessage 2 bytes = .error .unsupportedCriticalOption) ∧
    ∃ bytes, writeInto 64 ((sampleHello 2 1 .empty).write 2) = .ok bytes ∧
      parseMessage 2 bytes = .error .malformedField :=
  ⟨⟨_, _, rfl, rfl, rfl⟩, _, rfl, rfl⟩

end Zet.Wire
