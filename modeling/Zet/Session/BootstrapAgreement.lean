import Mathlib.Order.Bounds.Basic
import Mathlib.Order.Interval.Set.Defs
import Zet.Session.Bootstrap
import Zet.Wire.HandshakeAgreement
import Zet.Wire.Readback
import Zet.Wire.Reassembly

/-!
# The bootstrap agrees

What an end of `Zet.Session.Bootstrap` makes of a stream is what it makes of the blocks in it, one after
another (`BootstrapClient.perform_feed`, `BootstrapAgent.perform_call`), and a message that was written
is a block wherever it stands (`blocksOf_written`). So an Offer behind noise reaches the agent, its
Accept behind noise reaches the client, and both come to the same keys.
-/

namespace Zet.Session
open Zet.Core Zet.Wire Zet.Lib Zet.Lib.LineScanner

/-- The blocks a fresh scanner finds in a stream. -/
def blocksOf (stream : Bytes) : List Bytes :=
  (verdicts armorJudge .start (linesFrom newline [] stream).1).1

/-- A text as it was written, or with its newlines turned into two characters. -/
def delivered (crlf : Bool) (text : Bytes) : Bytes := if crlf then toCrlf text else text

/-- A written block is found wherever it stands; what is before it is noise with its last line ended. -/
lemma blocksOf_written {frame text : Bytes} {room : Nat} (h : writeArmor frame room = .ok text)
    (crlf : Bool) (noise more : Bytes) :
    ∃ rest, blocksOf (noise ++ delivered crlf text ++ more) =
      blocksOf (noise ++ delivered crlf [newline]) ++ frame :: rest := by
  have short : frame.length ≤ maxArmoredFrame := by
    by_contra hlong
    rw [writeArmor, if_pos (by omega)] at h
    cases h
  have enough : armoredSize frame.length ≤ room := by
    by_contra hroom
    rw [writeArmor, if_neg (by omega), if_pos (by omega)] at h
    cases h
  obtain ⟨text', lines, htext, w⟩ := writeArmor_ok short enough
  obtain rfl : text' = text := Except.ok.inj (htext.symm.trans h)
  cases crlf with
  | false =>
    obtain ⟨a, hfound⟩ := w.found short (.inl rfl) (by simpa using w.spelled) noise more
    exact ⟨_, hfound⟩
  | true =>
    obtain ⟨a, hfound⟩ := w.found short (.inr rfl) w.toCrlf noise more
    exact ⟨_, hfound⟩

/-- The header that `writeArmoredMessage` puts before a body of this length. -/
lemma writeInto_header (n : Nat) :
    writeInto headerSize (do writeBE 4 n; writeBE 1 cleartextEpoch) =
      .ok (encodeBE 4 n ++ encodeBE 1 cleartextEpoch) := by
  rw [((emits_writeBE 4 n).bind (emits_writeBE 1 cleartextEpoch)).writeInto]
  simp [headerSize]

/-- The block of a message that was written is read as that message. -/
lemma writeArmoredMessage_reads {α : Type} {type : MessageType} {parse : Reader α}
    {write : α → Writer Unit} {m : α} {maxBodySize room : Nat} {text : Bytes}
    (canonical : Canonical type parse write) (reads : ReadsBack type parse (write m) m)
    (limit : maxBodySize ≤ maxHandshakeFrame)
    (h : writeArmoredMessage maxBodySize room (write m) = .ok text) :
    ∃ frame fields, writeArmor frame room = .ok text ∧ messageOf type frame = some fields ∧
      parse fields = .ok (m, []) := by
  unfold writeArmoredMessage at h
  cases hbody : writeInto maxBodySize (write m) with
  | error e =>
    rw [hbody] at h
    cases h
  | ok body =>
    rw [hbody] at h
    obtain ⟨fields, rfl, hparse⟩ := reads _ _ hbody
    have hemits := (canonical hparse).2
    have hlong : (encodeBE 1 type.toByte ++ fields).length ≤ maxBodySize := by
      by_contra hlong
      rw [hemits.writeInto, if_neg hlong] at hbody
      cases hbody
    have hpos : 0 < (encodeBE 1 type.toByte ++ fields).length := by simp
    have hword : (encodeBE 1 type.toByte ++ fields).length < 2 ^ 32 :=
      (hlong.trans limit).trans_lt (by decide)
    let frame : WireFrame := ⟨0, encodeBE 1 type.toByte ++ fields, hpos, hword⟩
    refine ⟨frame.bytes, fields, ?_, ?_, hparse⟩
    · change Except.bind (writeInto headerSize (do
        writeBE 4 (encodeBE 1 type.toByte ++ fields).length
        writeBE 1 cleartextEpoch))
        (fun head => writeArmor (head ++ (encodeBE 1 type.toByte ++ fields)) room) = _ at h
      rw [writeInto_header] at h
      exact h
    · have hread : readFrame frame.bytes maxHandshakeFrame = .ok frame.view := by
        rw [readFrame_front (show frame.bytes ++ [] = frame.bytes ++ [] from rfl) (hlong.trans limit), if_neg (by omega)]
      have hwhole : frameBody frame.bytes = some (encodeBE 1 type.toByte ++ fields) := by
        rw [frameBody, hread]
        exact if_neg (by simp [WireFrame.view, frame, cleartextEpoch])
      have htype : parseMessageType (encodeBE 1 type.toByte ++ fields) = .ok (type, fields) :=
        parseMessageType_write type fields
      simp only [messageOf, hwhole, htype, if_pos]

section
variable {K S C : Type} (call : S → C → Except SessionError (BootstrapStep K) × S)

/-- Calls one after another, up to the first that fails: the result that one of them gave. -/
def perform : S → List C → Except SessionError (Option (BootstrapResult K)) × S
  | s, [] => (.ok none, s)
  | s, c :: cs =>
    match call s c with
    | (.error e, s') => (.error e, s')
    | (.ok step, s') =>
      let (later, s'') := perform s' cs
      (later.map (step.result.or ·), s'')

/-- The results of calls made one after another, whatever else they came to. -/
def results : S → List C → List (BootstrapResult K)
  | _, [] => []
  | s, c :: cs => ((call s c).1.toOption.bind (·.result)).toList ++ results (call s c).2 cs

/-- Once a result was given there is no other. -/
lemma results_le_one {D : S → Prop}
    (done : ∀ s c, D s → (call s c).1.toOption.bind (·.result) = none ∧ D (call s c).2)
    (first : ∀ s c, ((call s c).1.toOption.bind (·.result)).isSome → D (call s c).2)
    (s : S) (cs : List C) : (results call s cs).length ≤ 1 := by
  have none_left : ∀ cs s, D s → results call s cs = [] := by
    intro cs
    induction cs with
    | nil => exact fun _ _ => rfl
    | cons c cs ih =>
      intro s hs
      obtain ⟨hnone, hdone⟩ := done s c hs
      rw [results, hnone, ih _ hdone]
      rfl
  induction cs generalizing s with
  | nil => exact Nat.zero_le _
  | cons c cs ih =>
    rw [results]
    cases hstep : (call s c).1.toOption.bind (·.result) with
    | none => exact ih _
    | some r =>
      rw [none_left cs _ (first s c (by rw [hstep]; rfl))]
      exact Nat.le_refl 1

end

namespace BootstrapClient
variable {K : Type} (P : BootstrapCrypto K) {c : BootstrapClient K}

/-- A side that is done hears no more. -/
lemma perform_done (done : c.done = true) (chunks : List Bytes) :
    perform (feed P) c chunks = (.ok none, c) := by
  induction chunks with
  | nil => rfl
  | cons chunk chunks ih =>
    rw [perform, feed, if_pos done]
    simp only [ih]
    rfl

/-- Chunks come to what the blocks in them come to. -/
theorem perform_feed {cur : Bytes} (waiting : c.done = false) (held : Holds armorJudge c.scanner cur)
    (chunks : List Bytes) :
    (perform (feed P) c chunks).1 = (decided (c.consider P) c.ignored
      (verdicts armorJudge c.scanner.inner (linesFrom newline cur chunks.flatten).1).1).1 := by
  induction chunks generalizing c cur with
  | nil => rfl
  | cons chunk chunks ih =>
    have hwatch : Watched armorJudge (c.consider P) c.scanner c.ignored cur chunk
        (watch (c.consider P) armorJudge chunk.length 0 c.scanner c.ignored chunk) :=
      watch_watched held (Nat.le_refl _) 0
    rw [perform, feed, if_neg (by simp [waiting]), scan, List.flatten_cons]
    generalize watch (c.consider P) armorJudge chunk.length 0 c.scanner c.ignored chunk = r at hwatch
    obtain ⟨e | ⟨n, _ | result⟩, scanner, ignored⟩ := r
    · exact (congrArg Prod.fst (hwatch.settled (nofun) chunks.flatten)).symm
    · have hih := ih (c := { c with scanner := scanner, ignored := ignored }) waiting (hwatch.whole rfl).2
      have hrest := congrArg Prod.fst (hwatch.unsettled rfl chunks.flatten)
      refine Eq.trans ?_ (hih.trans hrest.symm)
      dsimp only [Except.map]
      generalize perform (feed P) { c with scanner := scanner, ignored := ignored } chunks = later
      obtain ⟨e | later, c'⟩ := later <;> rfl
    · refine Eq.trans ?_ (congrArg Prod.fst (hwatch.settled (nofun) chunks.flatten)).symm
      dsimp only [Except.map]
      rw [perform_done P rfl]
      rfl

end BootstrapClient

/-- A call of an agent that is looking for its Offer. -/
inductive AgentCall where
  | feed (chunk : Bytes)
  | announcePort (port : UInt16)

/-- The bytes that calls feed. -/
def fedBytes (calls : List AgentCall) : Bytes :=
  calls.flatMap fun
    | .feed chunk => chunk
    | .announcePort _ => []

/-- The port announced last. -/
def announced (port : UInt16) (calls : List AgentCall) : UInt16 :=
  calls.foldl (fun port call => match call with
    | .feed _ => port
    | .announcePort port => port) port

namespace BootstrapAgent
variable {K : Type} (P : BootstrapCrypto K) {a a' : BootstrapAgent K}

/-- One call. -/
def call (a : BootstrapAgent K) : AgentCall → Except SessionError (BootstrapStep K) × BootstrapAgent K
  | .feed chunk => a.feed P chunk
  | .announcePort port => (.ok ⟨0, none⟩, a.announcePort port)

/-- A block that comes to nothing is no offer, and leaves the answer as it was. -/
lemma consider_quiet {b : Bytes} {t : Option BootstrapAcceptMessage × Nat}
    (h : (a.consider P b t).1 = .ok none) :
    messageOf .bootstrapOffer b = none ∧ (a.consider P b t).2.1 = t.1 := by
  unfold consider at h ⊢
  split at h
  · next hnone => exact ⟨hnone, rfl⟩
  · split at h
    · cases h
    · split at h <;> cases h

/-- What an agent made of an Offer, and the Accept it holds. -/
def Answered (a : BootstrapAgent K) (b : Bytes) (result : BootstrapResult K) (a' : BootstrapAgent K) :
    Prop :=
  ∃ fields offer rest port accept, messageOf .bootstrapOffer b = some fields ∧
    parseBootstrapOffer fields = .ok (offer, rest) ∧
    ({ a with port := port } : BootstrapAgent K).offered P offer = .ok (result, accept) ∧
    a'.accept = some { accept with port := a'.port.toNat }

/-- A block that comes to a result is an offer that was answered. -/
lemma consider_found {b : Bytes} {t t' : Option BootstrapAcceptMessage × Nat}
    {result : BootstrapResult K} (h : a.consider P b t = (.ok (some result), t')) :
    Answered P a b result { a with accept := t'.1 } := by
  unfold consider at h
  split at h
  · cases h
  next fields hfields =>
  split at h
  · cases h
  next offer rest hparse =>
  split at h
  · cases h
  next result' accept hoffered =>
  cases h
  have hport : accept.port = a.port.toNat := by
    unfold offered at hoffered
    split at hoffered
    · cases hoffered
    · split at hoffered <;> cases hoffered
      rfl
  refine ⟨fields, offer, rest, a.port, accept, hfields, hparse, hoffered, ?_⟩
  rw [← hport]

/-- What a chunk does to an agent without an Accept: no block in it is an Offer, or the first that is
one is answered. -/
lemma feed_cases {cur chunk : Bytes} (waiting : a.accept = none) (held : Holds armorJudge a.scanner cur)
    {seen : List Bytes × ArmorState} {step : BootstrapStep K}
    (hseen : seen = verdicts armorJudge a.scanner.inner (linesFrom newline cur chunk).1)
    (h : a.feed P chunk = (.ok step, a')) :
    (step.result = none ∧ (∀ x ∈ seen.1, messageOf .bootstrapOffer x = none) ∧
      ∃ scanner ignored, a' = { a with scanner := scanner, ignored := ignored } ∧
        scanner.inner = seen.2 ∧ Holds armorJudge scanner (linesFrom newline cur chunk).2) ∨
    ∃ result before b after, step.result = some result ∧ seen.1 = before ++ b :: after ∧
      (∀ x ∈ before, messageOf .bootstrapOffer x = none) ∧ Answered P a b result a' := by
  subst hseen
  have hwatch : Watched armorJudge (a.consider P) a.scanner (a.accept, a.ignored) cur chunk
      (watch (a.consider P) armorJudge chunk.length 0 a.scanner (a.accept, a.ignored) chunk) :=
    watch_watched held (Nat.le_refl _) 0
  rw [feed, if_neg (by simp [waiting]), scan] at h
  generalize watch (a.consider P) armorJudge chunk.length 0 a.scanner (a.accept, a.ignored) chunk = r
    at hwatch h
  have hresult := hwatch.result.symm
  obtain ⟨e | ⟨n, _ | result⟩, scanner, accept, ignored⟩ := r <;> cases h
  · obtain ⟨hinner, hheld⟩ := hwatch.whole rfl
    have hkept := decided_kept (f := Prod.fst) (fun b t h => (consider_quiet (t := t) P h).2) hresult
    obtain rfl : accept = a.accept := (congrArg Prod.fst hwatch.state).trans hkept
    refine .inl ⟨rfl, ?_, scanner, ignored, rfl, hinner, hheld⟩
    intro x hx
    obtain ⟨u, hu⟩ := forall_of_decided hresult x hx
    exact (consider_quiet P hu).1
  · obtain ⟨before, b, after, t', hsplit, hbefore, hconsider⟩ :=
      exists_first_of_decided (by rw [hresult]; nofun)
    have hpair : a.consider P b t' = (.ok (some result), accept, ignored) :=
      hconsider.trans (Prod.ext hresult hwatch.state.symm)
    refine .inr ⟨result, before, b, after, rfl, hsplit, ?_, consider_found P hpair⟩
    intro x hx
    obtain ⟨u, hu⟩ := hbefore x hx
    exact (consider_quiet P hu).1

/-- Feeding the agent leaves its port alone. -/
lemma feed_port (chunk : Bytes) : (a.feed P chunk).2.port = a.port := by
  unfold feed
  split <;> rfl

/-- The port an agent goes by is the one announced last. -/
lemma perform_port {calls : List AgentCall} {result : Option (BootstrapResult K)}
    (h : perform (call P) a calls = (.ok result, a')) : a'.port = announced a.port calls := by
  induction calls generalizing a result with
  | nil =>
    cases h
    rfl
  | cons c calls ih =>
    rw [perform] at h
    split at h
    · cases h
    · next step a₁ hcall =>
      cases hlater : perform (call P) a₁ calls with
      | mk later a₂ =>
        rw [hlater] at h
        cases later with
        | error e => cases h
        | ok later =>
          cases h
          rw [ih hlater]
          cases c with
          | feed chunk =>
            have hport : a₁.port = a.port := by
              rw [← feed_port P chunk (a := a), show a.feed P chunk = _ from hcall]
            rw [hport]
            rfl
          | announcePort port =>
            cases hcall
            rfl

/-- An agent that holds an Accept looks no further; only the port in it changes. -/
lemma perform_answered {accept : BootstrapAcceptMessage} (answered : a.accept = some accept)
    (port : accept.port = a.port.toNat) (calls : List AgentCall) :
    ∃ a', perform (call P) a calls = (.ok none, a') ∧
      a'.accept = some { accept with port := a'.port.toNat } := by
  induction calls generalizing a accept with
  | nil => exact ⟨a, rfl, by rw [answered, ← port]⟩
  | cons c calls ih =>
    rw [perform]
    cases c with
    | feed chunk =>
      obtain ⟨a', hperform, haccept⟩ := ih answered port
      refine ⟨a', ?_, haccept⟩
      rw [call, feed, if_pos (by rw [answered]; rfl)]
      simp only [hperform]
      rfl
    | announcePort port' =>
      obtain ⟨a', hperform, haccept⟩ := @ih (a.announcePort port')
        { accept with port := port'.toNat } (by rw [announcePort, answered]; rfl) rfl
      refine ⟨a', ?_, haccept⟩
      simp only [call, hperform]
      rfl

/-- What was answered stays so, whatever the agent is fed behind it. -/
lemma Answered.later {b : Bytes} {result : BootstrapResult K} {a₀ : BootstrapAgent K}
    (h : Answered P a₀ b result a) (calls : List AgentCall) :
    ∃ a', perform (call P) a calls = (.ok none, a') ∧ Answered P a₀ b result a' := by
  obtain ⟨fields, offer, rest, port, accept, hfields, hparse, hoffered, haccept⟩ := h
  obtain ⟨a', hperform, hlast⟩ := perform_answered P haccept rfl calls
  exact ⟨a', hperform, fields, offer, rest, port, accept, hfields, hparse, hoffered, hlast⟩

/-- A result comes from the first block that is an Offer at all. -/
theorem perform_call {cur : Bytes} (waiting : a.accept = none) (held : Holds armorJudge a.scanner cur)
    {calls : List AgentCall} {result : BootstrapResult K}
    (h : perform (call P) a calls = (.ok (some result), a')) :
    ∃ before b after,
      (verdicts armorJudge a.scanner.inner (linesFrom newline cur (fedBytes calls)).1).1 =
        before ++ b :: after ∧
      (∀ x ∈ before, messageOf .bootstrapOffer x = none) ∧ Answered P a b result a' := by
  induction calls generalizing a cur with
  | nil => cases h
  | cons c calls ih =>
    rw [perform] at h
    split at h
    · cases h
    next step a₁ hcall =>
    cases hlater : perform (call P) a₁ calls with
    | mk later a₂ =>
      rw [hlater] at h
      obtain ⟨hresult, rfl⟩ := Prod.mk.inj h
      cases c with
      | announcePort port =>
        cases hcall
        obtain rfl : later = .ok (some result) := by
          cases later <;> exact hresult
        exact ih (a := a.announcePort port) (by rw [announcePort, waiting]; rfl) held hlater
      | feed chunk =>
        have hblocks : (verdicts armorJudge a.scanner.inner
            (linesFrom newline cur (chunk ++ fedBytes calls)).1).1 =
              (verdicts armorJudge a.scanner.inner (linesFrom newline cur chunk).1).1 ++
                (verdicts armorJudge
                  (verdicts armorJudge a.scanner.inner (linesFrom newline cur chunk).1).2
                  (linesFrom newline (linesFrom newline cur chunk).2 (fedBytes calls)).1).1 := by
          rw [linesFrom_append, verdicts_append]
        rw [show fedBytes (.feed chunk :: calls) = chunk ++ fedBytes calls from rfl, hblocks]
        generalize hseen : verdicts armorJudge a.scanner.inner (linesFrom newline cur chunk).1 = seen
        rcases feed_cases P waiting held hseen.symm hcall with
          ⟨hnone, hpassed, scanner, ignored, rfl, hinner, hheld⟩ |
          ⟨found, before, b, after, hsome, hsplit, hbefore, hanswered⟩
        · rw [hnone] at hresult
          obtain rfl : later = .ok (some result) := by
            cases later <;> exact hresult
          obtain ⟨before, b, after, hsplit, hbefore, hanswered⟩ :=
            ih (a := { a with scanner := scanner, ignored := ignored }) waiting hheld hlater
          refine ⟨seen.1 ++ before, b, after, ?_, ?_, hanswered⟩
          · rw [← hinner, List.append_assoc]
            exact congrArg _ hsplit
          · intro x hx
            exact (List.mem_append.mp hx).elim (hpassed x) (hbefore x)
        · obtain ⟨a₃, hperform, hlast⟩ := hanswered.later P calls
          obtain ⟨rfl, rfl⟩ := Prod.mk.inj (hperform.symm.trans hlater)
          rw [hsome] at hresult
          cases hresult
          refine ⟨before, b, after ++ (verdicts armorJudge seen.2
            (linesFrom newline (linesFrom newline cur chunk).2 (fedBytes calls)).1).1, ?_, hbefore, hlast⟩
          rw [hsplit, List.append_assoc, List.cons_append]

end BootstrapAgent

/-- A stream in which no block is an Offer. -/
def NoOffer (stream : Bytes) : Prop :=
  ∀ b ∈ blocksOf stream, ∀ fields, messageOf .bootstrapOffer b = some fields →
    ∀ offer rest, parseBootstrapOffer fields ≠ .ok (offer, rest)

/-- A stream in which no block is an Accept that echoes the nonce. -/
def NoAccept (nonce : BootstrapNonce) (stream : Bytes) : Prop :=
  ∀ b ∈ blocksOf stream, ∀ fields, messageOf .bootstrapAccept b = some fields →
    ∀ accept rest, parseBootstrapAccept fields = .ok (accept, rest) → accept.clientNonce ≠ nonce

/-- The version picked is the highest both ranges hold. -/
lemma pickVersion_greatest {peerMin peerMax version : Nat}
    (h : pickVersion peerMin peerMax = some version) :
    IsGreatest (Set.Icc peerMin peerMax ∩ Set.Icc protocolVersionMin protocolVersionMax) version := by
  simp only [pickVersion] at h
  split at h
  · cases h
  next hsome =>
  cases h
  refine ⟨⟨⟨?_, ?_⟩, ?_, ?_⟩, fun v hv => ?_⟩
  · omega
  · exact Nat.min_le_left ..
  · omega
  · exact Nat.min_le_right ..
  · exact Nat.le_min.mpr ⟨hv.1.2, hv.2.2⟩

/-- One entry of a list that no entry of the first part before it can be. -/
lemma eq_of_splits {α : Type} {p : α → Prop} {a a' b b' : List α} {x y : α}
    (h : a ++ x :: a' = b ++ y :: b') (ha : ∀ z ∈ a, ¬p z) (hb : ∀ z ∈ b, z ≠ x)
    (hy : p y) : x = y := by
  rcases List.append_eq_append_iff.mp h with ⟨c, rfl, hc⟩ | ⟨c, rfl, hc⟩
  · cases c with
    | nil => exact (List.cons.inj hc).1
    | cons z c =>
      obtain rfl := (List.cons.inj hc).1
      exact absurd rfl (hb x (by simp))
  · cases c with
    | nil => exact (List.cons.inj hc).1.symm
    | cons z c =>
      obtain rfl := (List.cons.inj hc).1
      exact absurd hy (ha y (by simp))

section
variable {K : Type} (P : BootstrapCrypto K)

/-- An Accept in a version the client speaks, with a key that exchanges, is a result. -/
lemma BootstrapClient.accepted_eq_ok {c : BootstrapClient K} {accept : BootstrapAcceptMessage}
    {exchanged : SessionKeys K}
    (version : accept.version ∈ Set.Icc protocolVersionMin protocolVersionMax)
    (derived : P.deriveClientKeys c.keys accept.agentKey = .ok exchanged) :
    c.accepted P accept = .ok
      ⟨deriveSessionSecrets P
        (deriveBootstrapMaster P exchanged.transmit accept.version c.nonce accept.agentNonce),
        accept.version, accept.port, accept.orphanTimeoutSeconds, c.environment⟩ := by
  rw [BootstrapClient.accepted, if_neg (by have := version.1; have := version.2; omega), derived]

/-- A client gives one result at most. -/
lemma BootstrapClient.results_once (c : BootstrapClient K) (chunks : List Bytes) :
    (results (BootstrapClient.feed P) c chunks).length ≤ 1 := by
  refine results_le_one (BootstrapClient.feed P) (D := fun c => c.done = true) ?_ ?_ c chunks
  · intro c chunk done
    rw [BootstrapClient.feed, if_pos done]
    exact ⟨rfl, done⟩
  · intro c chunk found
    unfold BootstrapClient.feed at found ⊢
    split
    · next done => exact done
    · next waiting =>
      rw [if_neg waiting] at found
      generalize scan (c.consider P) c.scanner c.ignored chunk = r at found ⊢
      obtain ⟨e | ⟨n, _ | result⟩, scanner, ignored⟩ := r
      · cases found
      · cases found
      · rfl

/-- An agent gives one result at most. -/
lemma BootstrapAgent.results_once (a : BootstrapAgent K) (calls : List AgentCall) :
    (results (BootstrapAgent.call P) a calls).length ≤ 1 := by
  refine results_le_one (BootstrapAgent.call P) (D := fun a => a.accept.isSome) ?_ ?_ a calls
  · intro a call done
    cases call with
    | feed chunk =>
      rw [BootstrapAgent.call, BootstrapAgent.feed, if_pos done]
      exact ⟨rfl, done⟩
    | announcePort port => exact ⟨rfl, by simpa [BootstrapAgent.call, BootstrapAgent.announcePort]⟩
  · intro a call found
    cases call with
    | announcePort port => cases found
    | feed chunk =>
      rw [show BootstrapAgent.call P a (.feed chunk) = a.feed P chunk from rfl] at found ⊢
      unfold BootstrapAgent.feed at found ⊢
      split
      · next done => exact done
      · next waiting =>
        rw [if_neg waiting] at found
        unfold scan at found ⊢
        cases hwatch : watch (a.consider P) armorJudge chunk.length 0 a.scanner (a.accept, a.ignored)
            chunk with
        | mk step rest =>
          rw [hwatch] at found
          obtain ⟨scanner, accept, ignored⟩ := rest
          rcases step with e | ⟨n, _ | result⟩
          · cases found
          · cases found
          · obtain ⟨b, t, hfound⟩ := watch_found hwatch
            obtain ⟨_, _, _, _, _, _, _, _, haccept⟩ := BootstrapAgent.consider_found P hfound
            exact haccept ▸ rfl

/-- The block of a client's Offer. -/
lemma BootstrapClient.writeOffer_reads {c : BootstrapClient K} {room : Nat} {text : Bytes}
    (h : c.writeOffer room = .ok text) :
    ∃ frame fields, writeArmor frame room = .ok text ∧
      messageOf .bootstrapOffer frame = some fields ∧
      parseBootstrapOffer fields = .ok (c.offer, []) :=
  writeArmoredMessage_reads bootstrapOffer_canonical
    (bootstrapOffer_readsBack (show protocolVersionMin < 256 ^ 2 by decide)
      (show protocolVersionMax < 256 ^ 2 by decide)) (by decide) h

/-- The block of an agent's Accept. -/
lemma BootstrapAgent.writeAccept_reads {a a' : BootstrapAgent K} {offer : BootstrapOfferMessage}
    {version room : Nat} {text : Bytes}
    (held : a'.accept = some { a.answer offer version with port := a'.port.toNat })
    (narrow : version < 256 ^ 2) (h : a'.writeAccept room = .ok text) :
    ∃ frame fields, writeArmor frame room = .ok text ∧
      messageOf .bootstrapAccept frame = some fields ∧
      parseBootstrapAccept fields =
        .ok ({ a.answer offer version with port := a'.port.toNat }, []) := by
  unfold BootstrapAgent.writeAccept at h
  rw [held] at h
  exact writeArmoredMessage_reads bootstrapAccept_canonical
    (bootstrapAccept_readsBack narrow a'.port.toNat_lt a.orphanTimeoutSeconds.toNat_lt) (by decide) h

/-- The client passes over what is not an Accept with its nonce. -/
lemma BootstrapClient.consider_passed {c : BootstrapClient K} {b : Bytes}
    (other : ∀ fields, messageOf .bootstrapAccept b = some fields →
      ∀ accept rest, parseBootstrapAccept fields = .ok (accept, rest) → accept.clientNonce ≠ c.nonce)
    (ignored : Nat) : c.consider P b ignored = (.ok none, ignored + 1) := by
  unfold BootstrapClient.consider
  split
  · rfl
  next fields hfields =>
  split
  · rfl
  next accept rest hparse => rw [if_pos (other fields hfields accept rest hparse)]

/-- What a fresh client makes of chunks. -/
lemma BootstrapClient.perform_create (seed : K) (nonce : BootstrapNonce)
    (environment : BootstrapEnvironment) (chunks : List Bytes) :
    (perform (BootstrapClient.feed P) (.create P seed nonce environment) chunks).1 =
      (decided ((BootstrapClient.create P seed nonce environment).consider P) 0
        (blocksOf chunks.flatten)).1 :=
  BootstrapClient.perform_feed P rfl (Holds.fresh armorJudge .start) chunks

/-- An Accept with the client's nonce, behind noise without one, decides. -/
lemma BootstrapClient.perform_accept (seed : K) {nonce : BootstrapNonce}
    (environment : BootstrapEnvironment) {frame text fields rest noise more : Bytes} {room : Nat}
    {crlf : Bool} {accept : BootstrapAcceptMessage} {chunks : List Bytes}
    (written : writeArmor frame room = .ok text)
    (fed : chunks.flatten = noise ++ delivered crlf text ++ more)
    (clear : NoAccept nonce (noise ++ delivered crlf [newline]))
    (hfields : messageOf .bootstrapAccept frame = some fields)
    (hparse : parseBootstrapAccept fields = .ok (accept, rest)) (hnonce : accept.clientNonce = nonce) :
    (perform (BootstrapClient.feed P) (.create P seed nonce environment) chunks).1 =
      ((BootstrapClient.create P seed nonce environment).accepted P accept).map some := by
  obtain ⟨rest', hblocks⟩ := blocksOf_written written crlf noise more
  set c := BootstrapClient.create P seed nonce environment with hc
  obtain ⟨ignored, hnoise⟩ : ∃ t, decided (c.consider P) 0
      (blocksOf (noise ++ delivered crlf [newline])) = (.ok none, t) :=
    decided_none (fun b hb t => ⟨_, c.consider_passed P (clear b hb) t⟩) 0
  have hconsider : (c.consider P frame ignored).1 = (c.accepted P accept).map some := by
    rw [consider, hfields]
    simp only [hparse]
    rw [if_neg (show ¬accept.clientNonce ≠ c.nonce from not_not.mpr hnonce)]
  have hsettles : (c.consider P frame ignored).1 ≠ .ok none := by
    rw [hconsider]
    cases c.accepted P accept <;> nofun
  rw [hc, perform_create, fed, hblocks, ← hc, decided_append hnoise, decided_first hsettles, hconsider]

/-- What settles the matter for a client is an Accept with its nonce. -/
lemma BootstrapClient.consider_settled {c : BootstrapClient K} {b : Bytes} {ignored : Nat}
    (h : (c.consider P b ignored).1 ≠ .ok none) :
    ∃ fields accept rest, messageOf .bootstrapAccept b = some fields ∧
      parseBootstrapAccept fields = .ok (accept, rest) ∧ accept.clientNonce = c.nonce ∧
      (c.consider P b ignored).1 = (c.accepted P accept).map some := by
  unfold BootstrapClient.consider at h ⊢
  split at h
  · exact absurd rfl h
  next fields hfields =>
  split at h
  · exact absurd rfl h
  next accept rest hparse =>
  split at h
  · exact absurd rfl h
  next hnonce =>
  refine ⟨fields, accept, rest, hfields, hparse, not_not.mp hnonce, ?_⟩
  rw [if_neg hnonce]

/-- The Accept an agent answers an Offer with, and the result it comes to. -/
lemma BootstrapAgent.offered_eq_ok {a : BootstrapAgent K} {offer : BootstrapOfferMessage}
    {result : BootstrapResult K} {accept : BootstrapAcceptMessage}
    (h : a.offered P offer = .ok (result, accept)) :
    ∃ exchanged, pickVersion offer.versionMin offer.versionMax = some result.version ∧
      P.deriveServerKeys a.keys offer.clientKey = .ok exchanged ∧
      accept = a.answer offer result.version ∧
      result.orphanTimeoutSeconds = a.orphanTimeoutSeconds.toNat ∧
      result.environment = offer.environment ∧
      result.secrets = deriveSessionSecrets P
        (deriveBootstrapMaster P exchanged.receive result.version offer.clientNonce a.nonce) := by
  unfold BootstrapAgent.offered at h
  split at h
  · cases h
  next version hversion =>
  split at h
  · cases h
  next exchanged hexchanged =>
  cases h
  exact ⟨exchanged, hversion, hexchanged, rfl, rfl, rfl, rfl⟩

/-- An Offer behind noise that an agent answered, and its Accept behind noise on the way back: both
ends hold the same. -/
lemma agreement
    (symmetric : ∀ mine theirs exchanged,
      P.deriveServerKeys (P.keyPairFromSeed mine) (P.keyPairFromSeed theirs).publicKey =
        .ok exchanged →
      ∃ exchanged', P.deriveClientKeys (P.keyPairFromSeed theirs) (P.keyPairFromSeed mine).publicKey =
        .ok exchanged' ∧ exchanged'.transmit = exchanged.receive)
    {clientSeed agentSeed : K} {clientNonce agentNonce : BootstrapNonce}
    {environment : BootstrapEnvironment} {port : UInt16} {orphanTimeoutSeconds : UInt32}
    {offerRoom acceptRoom : Nat} {offerText acceptText noise more noise' more' : Bytes}
    {crlf crlf' : Bool} {calls : List AgentCall} {chunks : List Bytes} {result : BootstrapResult K}
    {agent : BootstrapAgent K}
    (offered : (BootstrapClient.create P clientSeed clientNonce environment).writeOffer offerRoom =
      .ok offerText)
    (fed : fedBytes calls = noise ++ delivered crlf offerText ++ more)
    (clear : NoOffer (noise ++ delivered crlf [newline]))
    (answered : perform (BootstrapAgent.call P)
      (.create P agentSeed agentNonce port orphanTimeoutSeconds) calls = (.ok (some result), agent))
    (accepted : agent.writeAccept acceptRoom = .ok acceptText)
    (fed' : chunks.flatten = noise' ++ delivered crlf' acceptText ++ more')
    (clear' : NoAccept clientNonce (noise' ++ delivered crlf' [newline])) :
    ∃ got, (perform (BootstrapClient.feed P) (.create P clientSeed clientNonce environment) chunks).1 =
        .ok (some got) ∧
      got.secrets = result.secrets ∧ got.version = result.version ∧
      got.orphanTimeoutSeconds = result.orphanTimeoutSeconds ∧
      got.port = (announced port calls).toNat ∧ got.environment = result.environment ∧
      IsGreatest (Set.Icc protocolVersionMin protocolVersionMax ∩
        Set.Icc protocolVersionMin protocolVersionMax) got.version := by
  obtain ⟨frame, fields, hframe, hfields, hparse⟩ := BootstrapClient.writeOffer_reads offered
  obtain ⟨rest, hblocks⟩ := blocksOf_written hframe crlf noise more
  obtain ⟨before, b, after, hsplit, hbefore, fields', offer, rest', port', accept, hfields', hparse',
    hoffered, haccept⟩ := BootstrapAgent.perform_call P rfl (Holds.fresh armorJudge .start) answered
  rw [fed] at hsplit
  -- the block that was answered is the Offer: the noise in front holds none
  obtain rfl : frame = b := by
    refine eq_of_splits (p := fun b => ∃ fields offer rest,
      messageOf .bootstrapOffer b = some fields ∧ parseBootstrapOffer fields = .ok (offer, rest))
      (hblocks.symm.trans hsplit) ?_ ?_ ⟨fields', offer, rest', hfields', hparse'⟩
    · rintro z hz ⟨f, o, r, hf, hp⟩
      exact clear z hz f hf o r hp
    · rintro z hz rfl
      rw [hbefore z hz] at hfields
      cases hfields
  obtain rfl := Option.some.inj (hfields.symm.trans hfields')
  obtain rfl := (Prod.mk.inj (Except.ok.inj (hparse.symm.trans hparse'))).1
  obtain ⟨exchanged, hversion, hexchanged, rfl, htimeout, henvironment, hsecrets⟩ :=
    BootstrapAgent.offered_eq_ok P hoffered
  have hgreatest := pickVersion_greatest hversion
  -- both sides derive the same keys from each other's
  obtain ⟨exchanged', hexchanged', hsame⟩ := symmetric agentSeed clientSeed exchanged hexchanged
  obtain ⟨frame', fields', hframe', hfields', hparse'⟩ := BootstrapAgent.writeAccept_reads haccept
    (hgreatest.1.2.2.trans_lt (by decide)) accepted
  have hdecided := BootstrapClient.perform_accept P clientSeed environment
    hframe' fed' clear' hfields' hparse' rfl
  rw [BootstrapClient.accepted_eq_ok P hgreatest.1.2 hexchanged'] at hdecided
  refine ⟨_, hdecided, ?_, rfl, htimeout.symm, ?_, henvironment.symm, hgreatest⟩
  · rw [hsecrets, ← hsame]
    rfl
  · exact congrArg UInt16.toNat (BootstrapAgent.perform_port P answered)

/-- Over any noise that holds neither an Offer nor an Accept with the client's nonce, in any chunks and
with either newline, an Offer that an agent answered and the Accept it then wrote leave both ends with
the same secrets, in the highest version both ranges hold, and the client with the port announced last.
Nothing but an Accept with its nonce ever decides for a client, and neither end gives two results. -/
theorem bootstrap_agreement
    (symmetric : ∀ mine theirs exchanged,
      P.deriveServerKeys (P.keyPairFromSeed mine) (P.keyPairFromSeed theirs).publicKey =
        .ok exchanged →
      ∃ exchanged', P.deriveClientKeys (P.keyPairFromSeed theirs) (P.keyPairFromSeed mine).publicKey =
        .ok exchanged' ∧ exchanged'.transmit = exchanged.receive) :
    (∀ (clientSeed agentSeed : K) (clientNonce agentNonce : BootstrapNonce)
        (environment : BootstrapEnvironment) (port : UInt16) (orphanTimeoutSeconds : UInt32)
        (offerRoom acceptRoom : Nat) (offerText acceptText noise more noise' more' : Bytes)
        (crlf crlf' : Bool) (calls : List AgentCall) (chunks : List Bytes)
        (result : BootstrapResult K) (agent : BootstrapAgent K),
      (BootstrapClient.create P clientSeed clientNonce environment).writeOffer offerRoom =
          .ok offerText →
        fedBytes calls = noise ++ delivered crlf offerText ++ more →
        NoOffer (noise ++ delivered crlf [newline]) →
        perform (BootstrapAgent.call P) (.create P agentSeed agentNonce port orphanTimeoutSeconds)
          calls = (.ok (some result), agent) →
        agent.writeAccept acceptRoom = .ok acceptText →
        chunks.flatten = noise' ++ delivered crlf' acceptText ++ more' →
        NoAccept clientNonce (noise' ++ delivered crlf' [newline]) →
        ∃ got, (perform (BootstrapClient.feed P) (.create P clientSeed clientNonce environment)
            chunks).1 = .ok (some got) ∧
          got.secrets = result.secrets ∧ got.version = result.version ∧
          got.orphanTimeoutSeconds = result.orphanTimeoutSeconds ∧
          got.port = (announced port calls).toNat ∧ got.environment = result.environment ∧
          IsGreatest (Set.Icc protocolVersionMin protocolVersionMax ∩
            Set.Icc protocolVersionMin protocolVersionMax) got.version) ∧
      (∀ (seed : K) (nonce : BootstrapNonce) (environment : BootstrapEnvironment)
          (chunks : List Bytes),
        (perform (BootstrapClient.feed P) (.create P seed nonce environment) chunks).1 ≠ .ok none →
        ∃ b ∈ blocksOf chunks.flatten, ∃ fields accept rest,
          messageOf .bootstrapAccept b = some fields ∧
          parseBootstrapAccept fields = .ok (accept, rest) ∧ accept.clientNonce = nonce ∧
          (perform (BootstrapClient.feed P) (.create P seed nonce environment) chunks).1 =
            ((BootstrapClient.create P seed nonce environment).accepted P accept).map some) ∧
      (∀ (c : BootstrapClient K) (chunks : List Bytes),
        (results (BootstrapClient.feed P) c chunks).length ≤ 1) ∧
      ∀ (a : BootstrapAgent K) (calls : List AgentCall),
        (results (BootstrapAgent.call P) a calls).length ≤ 1 := by
  refine ⟨?_, ?_, BootstrapClient.results_once P, BootstrapAgent.results_once P⟩
  · intro _ _ _ _ _ _ _ _ _ _ _ _ _ _ _ _ _ _ _ _ _ offered fed clear answered accepted fed' clear'
    exact agreement P symmetric offered fed clear answered accepted fed' clear'
  · intro seed nonce environment chunks settled
    rw [BootstrapClient.perform_create] at settled ⊢
    obtain ⟨before, b, after, t, hsplit, -, hdecided⟩ := exists_first_of_decided settled
    rw [← hdecided] at settled ⊢
    obtain ⟨fields, accept, rest, hfound⟩ := BootstrapClient.consider_settled P settled
    exact ⟨b, by rw [hsplit]; simp, fields, accept, rest, hfound⟩

end

/-! A run -/

/-- Primitives over plain bytes, to run the bootstrap on: what both ends share is the sum of their
seeds' first bytes. -/
def plainBootstrapCrypto : BootstrapCrypto Bytes where
  toCrypto := plainCrypto
  keyPairFromSeed seed := ⟨⟨List.replicate keySize (seed.headD 0), List.length_replicate⟩, seed⟩
  deriveClientKeys own peer :=
    .ok ⟨[1, own.privateKey.headD 0 + peer.val.headD 0], [2, own.privateKey.headD 0 + peer.val.headD 0]⟩
  deriveServerKeys own peer :=
    .ok ⟨[2, own.privateKey.headD 0 + peer.val.headD 0], [1, own.privateKey.headD 0 + peer.val.headD 0]⟩
  hash bytes := ⟨List.replicate sessionIdSize (bytes.headD 0), List.length_replicate⟩

/-- Both sides derive the same keys in the plain instance. -/
lemma plainBootstrapCrypto_symmetric (mine theirs : Bytes) (exchanged : SessionKeys Bytes)
    (h : plainBootstrapCrypto.deriveServerKeys (plainBootstrapCrypto.keyPairFromSeed mine)
      (plainBootstrapCrypto.keyPairFromSeed theirs).publicKey = .ok exchanged) :
    ∃ exchanged', plainBootstrapCrypto.deriveClientKeys (plainBootstrapCrypto.keyPairFromSeed theirs)
      (plainBootstrapCrypto.keyPairFromSeed mine).publicKey = .ok exchanged' ∧
      exchanged'.transmit = exchanged.receive := by
  cases h
  exact ⟨_, rfl, congrArg (fun b : UInt8 => [2, b]) (UInt8.add_comm _ _)⟩

/-- A client with one seed, nonce and no environment. -/
def sampleOffering : BootstrapClient Bytes :=
  .create plainBootstrapCrypto [3] ⟨List.replicate bootstrapNonceSize 4, rfl⟩ .empty

/-- Its Offer. -/
def sampleOffer : Bytes := (sampleOffering.writeOffer 300).toOption.getD []

/-- The calls of an agent that learns its port between the two halves of the Offer. -/
def sampleCalls : List AgentCall :=
  [.feed (asciiBytes "Welcome\n" ++ sampleOffer.take 40), .announcePort 6000, .feed (sampleOffer.drop 40)]

/-- What they came to. -/
def sampleAnswering : Except SessionError (Option (BootstrapResult Bytes)) × BootstrapAgent Bytes :=
  perform (BootstrapAgent.call plainBootstrapCrypto) (.create plainBootstrapCrypto [5]
    ⟨List.replicate bootstrapNonceSize 6, rfl⟩ 0 60) sampleCalls

/-- The Accept after them. -/
def sampleAccept : Bytes := (sampleAnswering.2.writeAccept 300).toOption.getD []

/-- The client learns the port and the timeout that the agent announced. -/
theorem bootstrap_agreement_announced :
    ∃ got, (perform (BootstrapClient.feed plainBootstrapCrypto) sampleOffering [sampleAccept]).1 =
        .ok (some got) ∧ got.port = 6000 ∧ got.orphanTimeoutSeconds = 60 := by
  have written : ∀ x : Except ProtoError Bytes, x.toOption.isSome → x = .ok (x.toOption.getD []) := by
    rintro (_ | _) h
    · cases h
    · rfl
  have answered : ∀ x : Except SessionError (Option (BootstrapResult Bytes)) × BootstrapAgent Bytes,
      (x.1.toOption.bind (·.map (·.orphanTimeoutSeconds))) = some 60 →
        ∃ result, x = (.ok (some result), x.2) ∧ result.orphanTimeoutSeconds = 60 := by
    rintro ⟨_ | _ | result, agent⟩ h
    · cases h
    · cases h
    · exact ⟨result, rfl, Option.some.inj h⟩
  obtain ⟨result, hresult, htimeout⟩ := answered sampleAnswering (by decide +kernel)
  have hquiet : blocksOf (asciiBytes "Welcome\n" ++ delivered false [newline]) = [] := by decide +kernel
  have hsilent : blocksOf ([] ++ delivered false [newline]) = [] := by decide +kernel
  obtain ⟨got, hgot, -, -, horphan, hport, -⟩ := (bootstrap_agreement plainBootstrapCrypto
    plainBootstrapCrypto_symmetric).1
    [3] [5] ⟨List.replicate bootstrapNonceSize 4, rfl⟩ ⟨List.replicate bootstrapNonceSize 6, rfl⟩
    ⟨[], by decide, by decide, by decide⟩ 0 60 300 300 sampleOffer sampleAccept
    (asciiBytes "Welcome\n") [] [] [] false false sampleCalls [sampleAccept] result sampleAnswering.2
    (written _ (by decide +kernel)) (by simp [fedBytes, sampleCalls, delivered])
    (fun b hb => by rw [hquiet] at hb; cases hb) hresult (written _ (by decide +kernel))
    (by simp [delivered]) (fun b hb => by rw [hsilent] at hb; cases hb)
  exact ⟨got, hgot, hport, horphan.trans htimeout⟩

end Zet.Session
