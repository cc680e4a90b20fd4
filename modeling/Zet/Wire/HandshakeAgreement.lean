import Mathlib.Data.List.Induction
import Mathlib.Order.Bounds.Basic
import Zet.Lib.Run
import Zet.Wire.Canonical
import Zet.Wire.Handshake

/-!
# Agreement of the handshake

A client's and a server's handshake with an attacker between them who decides what body each of them
is given, when and how often, and whether what the other said is passed on at all (`talkStep`). Two
things are assumed of the primitives: the transcript hash is injective, and a tag that checks out was
made by someone who holds the key (`Unforged`): by one of the two, or elsewhere, by another handshake of
the session, which has never seen the nonces these two drew (`Fresh`).

`handshake_agreement` is what both of them have once both are through: the same Hello to the byte, the
same nonces, offset and version, and keys from the same seed.
-/

namespace Zet.Wire
open Zet.Core Zet.Lib

variable {K : Type} (P : Crypto K)

/-- What a side takes to be agreed when it completes. -/
structure Agreed where
  hello : Bytes
  id : Option SessionId
  clientNonce : HandshakeNonce
  serverNonce : HandshakeNonce
  receiveOffset : Nat
  version : Nat
deriving DecidableEq, Repr

/-- A completed handshake. -/
structure Completion (K : Type) where
  agreed : Agreed
  keys : Option (ConnectionKeys K)
  fallbackKeys : Option (ConnectionKeys K)
deriving DecidableEq, Repr

/-- The client's automaton, and what it has said, heard and come to. -/
structure ClientView (K : Type) where
  automaton : ClientHandshake K
  hello : Bytes
  challenge : Bytes
  auth : Bytes
  done : List (Completion K)
  taken : List (HandshakeResult K)
  refused : Bool

/-- The server's automaton, and what it has heard, said and come to. -/
structure ServerView (K : Type) where
  automaton : ServerHandshake K
  hello : Bytes
  challenge : Bytes
  auth : Bytes
  done : List (Completion K)
  taken : List (HandshakeResult K)
  refused : Bool

/-- The two of them. -/
structure Talk (K : Type) where
  client : ClientView K
  server : ServerView K
  /-- What the two have authenticated, under which key. -/
  tagged : List (K × Bytes)

/-- Two fresh handshakes. -/
def Talk.create (client : ClientHandshake K) (server : ServerHandshake K) : Talk K :=
  ⟨⟨client, [], [], [], [], [], false⟩, ⟨server, [], [], [], [], [], false⟩, []⟩

/-- What can happen next, with the nonces the session remembers then and the room there is to answer. -/
inductive TalkAct where
  | start (seen : NonceMemory) (out : Nat)
  | toClient (seen : NonceMemory) (body : Bytes) (out : Nat)
  | toServer (seen : NonceMemory) (body : Bytes) (out : Nat)
  | takeClient
  | takeServer
deriving DecidableEq, Repr

/-- What the client comes to. -/
def ClientHandshake.completion (c : ClientHandshake K) (hello : Bytes) : Completion K where
  agreed := ⟨hello, some c.id, c.clientNonce, c.serverNonce, c.peerReceiveOffset, c.version⟩
  keys := c.keys
  fallbackKeys := none

/-- What the server comes to; the id is the one its secrets were picked by. -/
def ServerHandshake.completion (s : ServerHandshake K) (hello : Bytes) : Completion K where
  agreed := ⟨hello, (peekHelloSessionId hello).toOption, s.clientNonce, s.serverNonce,
    s.receiveOffset.toNat, s.version⟩
  keys := s.keys
  fallbackKeys := s.fallbackKeys

/-- `Start`, and what is seen of it. -/
def ClientView.start (v : ClientView K) (seen : NonceMemory) (out : Nat) : ClientView K :=
  match v.automaton.start P seen out with
  | (.error _, c) => { v with automaton := c, refused := true }
  | (.ok hello, c) => { v with automaton := c, hello := hello }

/-- `Handle` on the client, and what is seen of it: what it authenticated, and the view after it. -/
def ClientView.handle (v : ClientView K) (seen : NonceMemory) (body : Bytes) (out : Nat) :
    List (K × Bytes) × ClientView K :=
  match v.automaton.handle P seen body out with
  | (.error _, c) => ([], { v with automaton := c, refused := true })
  | (.ok ⟨written, false⟩, c) =>
    ([(v.automaton.auth, (v.automaton.script.absorb P body).bound P clientTagLabel)],
      { v with automaton := c, challenge := body, auth := written })
  | (.ok ⟨_, true⟩, c) => ([], { v with automaton := c, done := v.done ++ [c.completion v.hello] })

/-- `Handle` on the server, and what is seen of it. -/
def ServerView.handle (v : ServerView K) (seen : NonceMemory) (body : Bytes) (out : Nat) :
    List (K × Bytes) × ServerView K :=
  match v.automaton.handle P seen body out with
  | (.error _, s) => ([], { v with automaton := s, refused := true })
  | (.ok ⟨written, false⟩, s) => ([], { v with automaton := s, hello := body, challenge := written })
  | (.ok ⟨_, true⟩, s) => ([(v.automaton.auth, s.script.bound P serverTagLabel)],
      { v with automaton := s, auth := body, done := v.done ++ [s.completion v.hello] })

/-- `TakeResult` on the client. -/
def ClientView.take (v : ClientView K) : ClientView K :=
  let (taken, c) := v.automaton.takeResult
  { v with automaton := c, taken := v.taken ++ taken.toList }

/-- `TakeResult` on the server. -/
def ServerView.take (v : ServerView K) : ServerView K :=
  let (taken, s) := v.automaton.takeResult
  { v with automaton := s, taken := v.taken ++ taken.toList }

/-- One step. -/
def talkStep (t : Talk K) : TalkAct → Option (Talk K)
  | .start seen out => some { t with client := t.client.start P seen out }
  | .toClient seen body out =>
    let (tags, client) := t.client.handle P seen body out
    some { t with client := client, tagged := t.tagged ++ tags }
  | .toServer seen body out =>
    let (tags, server) := t.server.handle P seen body out
    some { t with server := server, tagged := t.tagged ++ tags }
  | .takeClient => some { t with client := t.client.take }
  | .takeServer => some { t with server := t.server.take }

/-- The transcript after these messages. -/
def Transcript.chain (messages : List Bytes) : Transcript K :=
  messages.foldl (Transcript.absorb P) (Transcript.create P)

/-- The transcript hash is injective, and so is writing a state out. -/
structure Crypto.Injective : Prop where
  hash : ∀ k k' m m', P.deriveFromInfo k m = P.deriveFromInfo k' m' → k = k' ∧ m = m'
  expose : Function.Injective P.expose

/-- What other handshakes authenticated has not seen the nonces these two drew: no client's tag covers
a Challenge with this server's nonce, and no server's tag a Hello with this client's. -/
structure Fresh (elsewhere : K → Bytes → Prop) (clientNonce serverNonce : HandshakeNonce) : Prop where
  challenge : ∀ k hello challenge,
    elsewhere k ((Transcript.chain P [hello, challenge]).bound P clientTagLabel) →
      (challenge.drop 3).take handshakeNonceSize ≠ serverNonce.val
  hello : ∀ k hello challenge auth offset,
    elsewhere k ((Transcript.chain P [hello, challenge, auth, offset]).bound P serverTagLabel) →
      (hello.drop 25).take handshakeNonceSize ≠ clientNonce.val

/-- Authenticated by one of the two, or elsewhere. -/
def Vouched (elsewhere : K → Bytes → Prop) (tagged : List (K × Bytes)) (k : K) (m : Bytes) : Prop :=
  (k, m) ∈ tagged ∨ elsewhere k m

/-- A tag that checks out was made, by one of the two or elsewhere, under the key it is checked with
and over what it is checked against. -/
def Unforged (elsewhere : K → Bytes → Prop) (t : Talk K) : TalkAct → Prop
  | .toServer _ body _ => ∀ fields m rest, parseMessageType body = .ok (.auth, fields) →
      parseAuth fields = .ok (m, rest) →
      let s := t.server.automaton
      s.script.verify P s.auth clientTagLabel m.clientTag = true →
        Vouched elsewhere t.tagged s.auth (s.script.bound P clientTagLabel)
  | .toClient _ body _ => ∀ fields m rest, parseMessageType body = .ok (.authOk, fields) →
      parseAuthOk fields = .ok (m, rest) →
      let c := t.client.automaton
      let script := c.script.absorbReceiveOffset P m.serverReceiveOffset
      script.verify P c.auth serverTagLabel m.serverTag = true →
        Vouched elsewhere t.tagged c.auth (script.bound P serverTagLabel)
  | _ => True

/-- What fits was written as it is spelled. -/
lemma writeInto_eq_ok {encode : Writer Unit} {bytes written : Bytes} {room : Nat}
    (h : Emits encode bytes) (hok : writeInto room encode = .ok written) : written = bytes := by
  rw [h.writeInto] at hok
  split at hok
  · exact (Except.ok.inj hok).symm
  · cases hok

section
variable (seen : NonceMemory) (body : Bytes) (out : Nat)

/-- What a client's handshake is made with. -/
def ClientHandshake.fixed (c : ClientHandshake K) :
    SessionId × K × K × HandshakeNonce × UInt16 × Bool :=
  (c.id, c.auth, c.connectionSeed, c.clientNonce, c.ceiling, c.gridCapable)

/-- The Hello of a client, with these options. -/
def ClientHandshake.hello (c : ClientHandshake K) (options : TlvList) : HelloMessage :=
  ⟨protocolVersionMin, c.ceiling.toNat, c.id, c.clientNonce, options⟩

/-- The bytes of a Hello on the wire. -/
def HelloMessage.bytes (m : HelloMessage) : Bytes :=
  encodeBE 1 MessageType.hello.toByte ++ m.fields

/-- The bytes of a Challenge on the wire. -/
def ChallengeMessage.bytes (m : ChallengeMessage) : Bytes :=
  encodeBE 1 MessageType.challenge.toByte ++ m.fields

/-- What the start of the client does. -/
lemma ClientHandshake.start_cases (c : ClientHandshake K) :
    (∃ e, c.start P seen out = (.error e, { c with stage := .spent })) ∨
    (c.stage = .fresh ∧ ∃ options, c.start P seen out = (.ok (c.hello options).bytes,
      { c with script := c.script.absorb P (c.hello options).bytes, stage := .sentHello })) := by
  unfold start startStep
  split
  next e c' heq =>
    refine .inl ⟨e, ?_⟩
    split at heq
    · cases heq
      rfl
    split at heq
    · cases heq
      rfl
    split at heq
    · cases heq
      rfl
    dsimp only at heq
    split at heq
    · cases heq
      rfl
    · cases heq
  next written c' heq =>
    split at heq
    · cases heq
    next hfresh =>
      split at heq
      · cases heq
      split at heq
      · cases heq
      next options _ =>
        dsimp only at heq
        split at heq
        · cases heq
        next hwritten =>
          cases heq
          obtain rfl := writeInto_eq_ok (emits_hello _) hwritten
          exact .inr ⟨Decidable.not_not.mp hfresh, options, rfl⟩

/-- What the client does with a body. -/
lemma ClientHandshake.handle_cases (c : ClientHandshake K) :
    (∃ e c', c.handle P seen body out = (.error e, c') ∧ c'.stage = .spent ∧
      c'.fixed = c.fixed) ∨
    (c.stage = .sentHello ∧ ∃ challenge written, body = ChallengeMessage.bytes challenge ∧
      challenge.version < 256 ^ 2 ∧ c.handle P seen body out = (.ok ⟨written, false⟩,
        { c with
          serverNonce := challenge.serverNonce
          version := challenge.version
          script := (c.script.absorb P body).absorb P written
          stage := .sentAuth })) ∨
    (c.stage = .sentAuth ∧ ∃ fields ok rest, parseMessageType body = .ok (.authOk, fields) ∧
      parseAuthOk fields = .ok (ok, rest) ∧
      (c.script.absorbReceiveOffset P ok.serverReceiveOffset).verify P c.auth serverTagLabel
        ok.serverTag = true ∧
      c.handle P seen body out = (.ok ⟨[], true⟩,
        { c with
          script := c.script.absorbReceiveOffset P ok.serverReceiveOffset
          keys := some (deriveConnectionKeys P c.connectionSeed c.clientNonce c.serverNonce)
          peerReceiveOffset := ok.serverReceiveOffset
          stage := .done })) := by
  have herror : ∀ e c', c.handleStep P seen body out = (.error e, c') → c'.fixed = c.fixed →
      ∃ e c', c.handle P seen body out = (.error e, c') ∧ c'.stage = .spent ∧
        c'.fixed = c.fixed := by
    intro e c' hstep hfixed
    refine ⟨e, { c' with stage := .spent }, ?_, rfl, hfixed⟩
    rw [handle, hstep]
  unfold handleStep at herror
  split at herror
  next fields hbody hstage =>
    unfold onChallenge at herror
    split at herror
    next => exact .inl (herror _ _ rfl rfl)
    next challenge rest hchallenge =>
      dsimp only at herror
      split at herror
      next => exact .inl (herror _ _ rfl rfl)
      next hversion =>
        split at herror
        next => exact .inl (herror _ _ rfl rfl)
        next hseen =>
          split at herror
          next => exact .inl (herror _ _ rfl rfl)
          next written hwritten =>
            obtain ⟨rfl, rfl, hwide⟩ := parseChallenge_eq_ok hchallenge
            refine .inr (.inl ⟨hstage, challenge, written, parseMessageType_eq_ok hbody, hwide, ?_⟩)
            simp only [handle, handleStep, hbody, hstage, onChallenge, hchallenge, if_neg hversion,
              if_neg hseen, hwritten]
  next fields hbody hstage =>
    unfold onAuthOk at herror
    split at herror
    next => exact .inl (herror _ _ rfl rfl)
    next ok rest hok =>
      dsimp only at herror
      split at herror
      next => exact .inl (herror _ _ rfl rfl)
      next hverify =>
        rw [Bool.not_eq_true', Bool.not_eq_false] at hverify
        refine .inr (.inr ⟨hstage, fields, ok, rest, hbody, hok, hverify, ?_⟩)
        simp only [handle, handleStep, hbody, hstage, onAuthOk, hok, hverify, Bool.not_true,
          Bool.false_eq_true, if_false]
  next => exact .inl (herror _ _ rfl rfl)

/-- What a server's handshake is made with. -/
def ServerHandshake.fixed (s : ServerHandshake K) :
    K × K × HandshakeNonce × UInt64 × Option K × UInt16 :=
  (s.auth, s.connectionSeed, s.serverNonce, s.receiveOffset, s.previousSeed, s.ceiling)

/-- What the server does with a body. -/
lemma ServerHandshake.handle_cases (s : ServerHandshake K) :
    (∃ e s', s.handle P seen body out = (.error e, s') ∧ s'.stage = .spent ∧
      s'.fixed = s.fixed) ∨
    (s.stage = .fresh ∧ ∃ hello version, body = HelloMessage.bytes hello ∧
      (∃ fields rest, parseMessageType body = .ok (.hello, fields) ∧
        parseHello fields = .ok (hello, rest)) ∧
      negotiateVersion hello.versionMin hello.versionMax s.ceiling.toNat = .ok version ∧
      s.handle P seen body out =
        (.ok ⟨ChallengeMessage.bytes ⟨version, s.serverNonce, TlvList.empty⟩, false⟩,
        { s with
          clientNonce := hello.clientNonce
          version := version
          script := (s.script.absorb P body).absorb P
            (ChallengeMessage.bytes ⟨version, s.serverNonce, TlvList.empty⟩)
          stage := .sentChallenge })) ∨
    (s.stage = .sentChallenge ∧ ∃ fields auth rest written,
      parseMessageType body = .ok (.auth, fields) ∧ parseAuth fields = .ok (auth, rest) ∧
      s.script.verify P s.auth clientTagLabel auth.clientTag = true ∧
      s.handle P seen body out = (.ok ⟨written, true⟩,
        { s with
          script := (s.script.absorb P body).absorbReceiveOffset P s.receiveOffset.toNat
          keys := some (deriveConnectionKeys P s.connectionSeed s.clientNonce s.serverNonce)
          fallbackKeys := s.previousSeed.map fun seed =>
            deriveConnectionKeys P seed s.clientNonce s.serverNonce
          stage := .done })) := by
  -- whatever fails, the server is spent and answers nothing more
  have herror : ∀ e s', s.handleStep P seen body out = (.error e, s') → s'.fixed = s.fixed →
      ∃ e s', s.handle P seen body out = (.error e, s') ∧ s'.stage = .spent ∧
        s'.fixed = s.fixed := by
    intro e s' hstep hfixed
    refine ⟨e, { s' with stage := .spent }, ?_, rfl, hfixed⟩
    rw [handle, hstep]
  unfold handleStep at herror
  split at herror
  next fields hbody hstage =>
    unfold onHello at herror
    split at herror
    next => exact .inl (herror _ _ rfl rfl)
    next hello rest hhello =>
      split at herror
      next => exact .inl (herror _ _ rfl rfl)
      next version hversion =>
        split at herror
        next => exact .inl (herror _ _ rfl rfl)
        next hseen =>
          dsimp only at herror
          split at herror
          next => exact .inl (herror _ _ rfl rfl)
          next written hwritten =>
            obtain rfl := writeInto_eq_ok (emits_challenge _) hwritten
            have hfields := (parseHello_eq_ok hhello).2.1
            refine .inr (.inl ⟨hstage, hello, version, ?_, ⟨fields, rest, hbody, hhello⟩, hversion,
              ?_⟩)
            · rw [HelloMessage.bytes, ← hfields]
              exact parseMessageType_eq_ok hbody
            · simp only [handle, handleStep, hbody, hstage, onHello, hhello, hversion, if_neg hseen,
                hwritten]
              rfl
  next fields hbody hstage =>
    unfold onAuth at herror
    split at herror
    next => exact .inl (herror _ _ rfl rfl)
    next auth rest hauth =>
      split at herror
      next => exact .inl (herror _ _ rfl rfl)
      next hverify =>
        rw [Bool.not_eq_true', Bool.not_eq_false] at hverify
        dsimp only at herror
        split at herror
        next => exact .inl (herror _ _ rfl rfl)
        next written hwritten =>
          refine .inr (.inr ⟨hstage, fields, auth, rest, written, hbody, hauth, hverify, ?_⟩)
          simp only [handle, handleStep, hbody, hstage, onAuth, hauth, hverify, Bool.not_true,
            Bool.false_eq_true, if_false, hwritten]
  next => exact .inl (herror _ _ rfl rfl)

/-- What the server answers with is a message. -/
lemma ServerHandshake.handle_writes {s : ServerHandshake K} {step : HandshakeStep}
    (h : (s.handle P seen body out).1 = .ok step) : step.written.isEmpty = false := by
  rw [handle] at h
  split at h
  · cases h
  next step' s'' hstep =>
  cases h
  unfold handleStep at hstep
  split at hstep
  · unfold onHello at hstep
    dsimp only at hstep
    repeat' split at hstep
    all_goals cases hstep
    next hwritten =>
    obtain rfl := writeInto_eq_ok (emits_challenge _) hwritten
    rfl
  · unfold onAuth at hstep
    dsimp only at hstep
    repeat' split at hstep
    all_goals cases hstep
    next hwritten =>
    obtain rfl := writeInto_eq_ok ((emits_type .authOk).bind ((emits_array _).bind
      (emits_writeBE 8 _))) hwritten
    rfl
  · cases hstep

end

/-- The Hello is the one this client says. -/
def HelloSaid (c₀ : ClientHandshake K) (hello : Bytes) : Prop :=
  ∃ options, hello = (c₀.hello options).bytes

/-- What stands behind a client's completion. -/
def ClientProof (elsewhere : K → Bytes → Prop) (c₀ : ClientHandshake K) (tagged : List (K × Bytes))
    (v : ClientView K) (done : Completion K) : Prop :=
  HelloSaid c₀ v.hello ∧ ∃ challenge offset, v.challenge = ChallengeMessage.bytes challenge ∧
    challenge.version < 256 ^ 2 ∧ offset < 256 ^ 8 ∧
    done.agreed = ⟨v.hello, some c₀.id, c₀.clientNonce, challenge.serverNonce, offset,
      challenge.version⟩ ∧
    done.keys = some (deriveConnectionKeys P c₀.connectionSeed c₀.clientNonce
      challenge.serverNonce) ∧
    Vouched elsewhere tagged c₀.auth
      ((Transcript.chain P [v.hello, v.challenge, v.auth, encodeBE 8 offset]).bound P serverTagLabel)

/-- The client in a run, made as `c₀`. -/
structure ClientSide (elsewhere : K → Bytes → Prop) (c₀ : ClientHandshake K)
    (tagged : List (K × Bytes)) (v : ClientView K) : Prop where
  fixed : v.automaton.fixed = c₀.fixed
  fresh : v.automaton.stage = .fresh → v.automaton.script = Transcript.chain P []
  sentHello : v.automaton.stage = .sentHello →
    v.automaton.script = Transcript.chain P [v.hello] ∧ HelloSaid c₀ v.hello
  sentAuth : v.automaton.stage = .sentAuth →
    v.automaton.script = Transcript.chain P [v.hello, v.challenge, v.auth] ∧
      HelloSaid c₀ v.hello ∧ ∃ challenge, v.challenge = ChallengeMessage.bytes challenge ∧
        challenge.version < 256 ^ 2 ∧ v.automaton.serverNonce = challenge.serverNonce ∧
        v.automaton.version = challenge.version
  early : v.automaton.stage ≠ .done → v.automaton.stage ≠ .spent → v.done = []
  proof : ∀ done ∈ v.done, ClientProof P elsewhere c₀ tagged v done
  once : v.done.length ≤ 1
  untaken : v.automaton.stage ≠ .spent → v.taken = []
  takenOnce : v.taken.length ≤ 1
  refused : v.refused = true → v.automaton.stage = .spent

variable {P} {elsewhere : K → Bytes → Prop} {c₀ : ClientHandshake K} {s₀ : ServerHandshake K}
variable {tagged : List (K × Bytes)}

/-- What was authenticated stays authenticated. -/
lemma Vouched.append {k : K} {m : Bytes} (h : Vouched elsewhere tagged k m)
    (more : List (K × Bytes)) : Vouched elsewhere (tagged ++ more) k m :=
  h.imp (List.mem_append_left more) id

/-- More tags in the world take nothing from the client. -/
lemma ClientSide.append {v : ClientView K} (h : ClientSide P elsewhere c₀ tagged v)
    (more : List (K × Bytes)) : ClientSide P elsewhere c₀ (tagged ++ more) v :=
  { h with
    proof := by
      intro done hdone
      obtain ⟨hhello, challenge, offset, hchallenge, hwide, hoffset, hagreed, hkeys, hvouched⟩ :=
        h.proof done hdone
      exact ⟨hhello, challenge, offset, hchallenge, hwide, hoffset, hagreed, hkeys,
        hvouched.append more⟩ }

/-- What the client was made with, part by part. -/
lemma ClientHandshake.fixed_eq {c : ClientHandshake K} (h : c.fixed = c₀.fixed) :
    c.id = c₀.id ∧ c.auth = c₀.auth ∧ c.connectionSeed = c₀.connectionSeed ∧
      c.clientNonce = c₀.clientNonce ∧ c.ceiling = c₀.ceiling := by
  simp only [ClientHandshake.fixed, Prod.mk.injEq] at h
  exact ⟨h.1, h.2.1, h.2.2.1, h.2.2.2.1, h.2.2.2.2.1⟩

/-- A refusal leaves a spent client, which has what it had. -/
lemma ClientSide.refuse {v : ClientView K} (h : ClientSide P elsewhere c₀ tagged v)
    {c : ClientHandshake K} (hspent : c.stage = .spent) (hfixed : c.fixed = v.automaton.fixed) :
    ClientSide P elsewhere c₀ tagged { v with automaton := c, refused := true } where
  fixed := hfixed.trans h.fixed
  fresh hstage := absurd (hspent.symm.trans hstage) (by decide)
  sentHello hstage := absurd (hspent.symm.trans hstage) (by decide)
  sentAuth hstage := absurd (hspent.symm.trans hstage) (by decide)
  early _ hstage := absurd hspent hstage
  proof := h.proof
  once := h.once
  untaken hstage := absurd hspent hstage
  takenOnce := h.takenOnce
  refused _ := hspent

/-- The start of the client keeps its side. -/
lemma ClientSide.start {v : ClientView K} (h : ClientSide P elsewhere c₀ tagged v)
    (seen : NonceMemory) (out : Nat) :
    ClientSide P elsewhere c₀ tagged (v.start P seen out) := by
  unfold ClientView.start
  rcases v.automaton.start_cases P seen out with ⟨e, hstart⟩ | ⟨hfresh, options, hstart⟩
  · rw [hstart]
    exact h.refuse rfl rfl
  · rw [hstart]
    obtain ⟨hid, -, -, hnonce, hceiling⟩ := ClientHandshake.fixed_eq h.fixed
    have hdone : v.done = [] := h.early (by rw [hfresh]; decide) (by rw [hfresh]; decide)
    have htaken : v.taken = [] := h.untaken (by rw [hfresh]; decide)
    have hhello : (v.automaton.hello options) = c₀.hello options := by
      rw [ClientHandshake.hello, ClientHandshake.hello, hid, hnonce, hceiling]
    constructor
    case fixed => exact h.fixed
    case fresh => exact fun hstage => (by cases hstage)
    case sentHello =>
      intro _
      dsimp only
      rw [h.fresh hfresh]
      exact ⟨rfl, options, by rw [hhello]⟩
    case sentAuth => exact fun hstage => (by cases hstage)
    case early => exact fun _ _ => hdone
    case proof =>
      intro done hmem
      rw [hdone] at hmem
      cases hmem
    case once => exact h.once
    case untaken => exact fun _ => htaken
    case takenOnce => exact h.takenOnce
    case refused =>
      intro hrefused
      exact absurd (hfresh.symm.trans (h.refused hrefused)) (by decide)

/-- The client's own step on a body. -/
lemma ClientSide.handle {v : ClientView K} (h : ClientSide P elsewhere c₀ tagged v)
    (seen : NonceMemory) (body : Bytes) (out : Nat)
    (unforged : ∀ fields m rest, parseMessageType body = .ok (.authOk, fields) →
      parseAuthOk fields = .ok (m, rest) →
      (v.automaton.script.absorbReceiveOffset P m.serverReceiveOffset).verify P v.automaton.auth
        serverTagLabel m.serverTag = true →
      Vouched elsewhere tagged v.automaton.auth ((v.automaton.script.absorbReceiveOffset P
        m.serverReceiveOffset).bound P serverTagLabel)) :
    ClientSide P elsewhere c₀ (tagged ++ (v.handle P seen body out).1)
      (v.handle P seen body out).2 := by
  unfold ClientView.handle
  rcases v.automaton.handle_cases P seen body out with
    ⟨e, c, hhandle, hspent, hfixed⟩ | ⟨hstage, challenge, written, hbody, hwide, hhandle⟩ |
      ⟨hstage, fields, ok, rest, hfields, hok, hverify, hhandle⟩
  · rw [hhandle, List.append_nil]
    exact h.refuse hspent hfixed
  · rw [hhandle]
    obtain ⟨hscript, hhello⟩ := h.sentHello hstage
    have hdone : v.done = [] := h.early (by rw [hstage]; decide) (by rw [hstage]; decide)
    have htaken : v.taken = [] := h.untaken (by rw [hstage]; decide)
    constructor
    case fixed => exact h.fixed
    case fresh => exact fun hstage => (by cases hstage)
    case sentHello => exact fun hstage => (by cases hstage)
    case sentAuth =>
      intro _
      dsimp only
      rw [hscript]
      exact ⟨rfl, hhello, challenge, hbody, hwide, rfl, rfl⟩
    case early => exact fun _ _ => hdone
    case proof =>
      intro done hmem
      dsimp only at hmem
      rw [hdone] at hmem
      cases hmem
    case once => exact h.once
    case untaken => exact fun _ => htaken
    case takenOnce => exact h.takenOnce
    case refused =>
      intro hrefused
      exact absurd (hstage.symm.trans (h.refused hrefused)) (by decide)
  · rw [hhandle]
    obtain ⟨hscript, hhello, challenge, hchallenge, hwide, hnonce, hversion⟩ := h.sentAuth hstage
    have hdone : v.done = [] := h.early (by rw [hstage]; decide) (by rw [hstage]; decide)
    have htaken : v.taken = [] := h.untaken (by rw [hstage]; decide)
    obtain ⟨hid, hauth, hseed, hclient, -⟩ := ClientHandshake.fixed_eq h.fixed
    have hvouched := unforged fields ok rest hfields hok hverify
    rw [hauth, hscript] at hvouched
    constructor
    case fixed => exact h.fixed
    case fresh => exact fun hstage => (by cases hstage)
    case sentHello => exact fun hstage => (by cases hstage)
    case sentAuth => exact fun hstage => (by cases hstage)
    case early => exact fun hdone => absurd rfl hdone
    case proof =>
      intro done hmem
      dsimp only at hmem
      rw [hdone, List.nil_append, List.mem_singleton] at hmem
      subst hmem
      refine ⟨hhello, challenge, ok.serverReceiveOffset, hchallenge, hwide,
        (parseAuthOk_eq_ok hok).2.2, ?_, ?_, hvouched.append _⟩
      · simp only [ClientHandshake.completion, hid, hclient, hnonce, hversion]
      · simp only [ClientHandshake.completion, hseed, hclient, hnonce]
    case once => simp [hdone]
    case untaken => exact fun _ => htaken
    case takenOnce => exact h.takenOnce
    case refused =>
      intro hrefused
      exact absurd (hstage.symm.trans (h.refused hrefused)) (by decide)

/-- So does taking the result. -/
lemma ClientSide.take {v : ClientView K} (h : ClientSide P elsewhere c₀ tagged v) :
    ClientSide P elsewhere c₀ tagged v.take := by
  unfold ClientView.take ClientHandshake.takeResult
  split
  next result c heq =>
    split at heq
    next keys hstage hkeys =>
      cases heq
      have htaken : v.taken = [] := h.untaken (by rw [hstage]; decide)
      exact
        { fixed := h.fixed
          fresh := fun hstage => (by cases hstage)
          sentHello := fun hstage => (by cases hstage)
          sentAuth := fun hstage => (by cases hstage)
          early := fun _ hspent => absurd rfl hspent
          proof := h.proof
          once := h.once
          untaken := fun hspent => absurd rfl hspent
          takenOnce := by simp [htaken]
          refused := fun _ => rfl }
    next =>
      cases heq
      rw [Option.toList_none, List.append_nil]
      exact h

/-- The Hello a body carries. -/
def helloOf (body : Bytes) : Option HelloMessage :=
  match parseMessageType body with
  | .ok (.hello, fields) => (parseHello fields).toOption.map Prod.fst
  | _ => none

/-- A body that is a Hello parses as one. -/
lemma helloOf_eq_some {body : Bytes} {m : HelloMessage} (h : helloOf body = some m) :
    ∃ fields rest, parseMessageType body = .ok (.hello, fields) ∧ parseHello fields = .ok (m, rest) := by
  unfold helloOf at h
  split at h
  · next fields hfields =>
    cases hparse : parseHello fields with
    | error e =>
      rw [hparse] at h
      cases h
    | ok r =>
      rw [hparse] at h
      cases h
      exact ⟨fields, r.2, hfields, hparse⟩
  · cases h

/-- The peek finds the session that the Hello names. -/
lemma peekHelloSessionId_of_hello {body : Bytes} {m : HelloMessage} (h : helloOf body = some m) :
    peekHelloSessionId body = .ok m.id := by
  obtain ⟨fields, rest, hfields, hparse⟩ := helloOf_eq_some h
  simp only [peekHelloSessionId, hfields, hparse]

/-- What the server made of a Hello it answered. -/
def HelloHeard (s₀ : ServerHandshake K) (hello challenge : Bytes) (m : HelloMessage)
    (version : Nat) : Prop :=
  hello = m.bytes ∧ helloOf hello = some m ∧ m.versionMax < 256 ^ 2 ∧
    negotiateVersion m.versionMin m.versionMax s₀.ceiling.toNat = .ok version ∧
    challenge = ChallengeMessage.bytes ⟨version, s₀.serverNonce, TlvList.empty⟩

variable (P)

/-- What stands behind a server's completion. -/
def ServerProof (elsewhere : K → Bytes → Prop) (s₀ : ServerHandshake K) (tagged : List (K × Bytes))
    (v : ServerView K) (done : Completion K) : Prop :=
  ∃ hello version, HelloHeard s₀ v.hello v.challenge hello version ∧
    done.agreed = ⟨v.hello, some hello.id, hello.clientNonce, s₀.serverNonce,
      s₀.receiveOffset.toNat, version⟩ ∧
    done.keys = some (deriveConnectionKeys P s₀.connectionSeed hello.clientNonce s₀.serverNonce) ∧
    done.fallbackKeys = s₀.previousSeed.map (fun seed =>
      deriveConnectionKeys P seed hello.clientNonce s₀.serverNonce) ∧
    Vouched elsewhere tagged s₀.auth
      ((Transcript.chain P [v.hello, v.challenge]).bound P clientTagLabel)

/-- The server in a run, made as `s₀`. -/
structure ServerSide (elsewhere : K → Bytes → Prop) (s₀ : ServerHandshake K)
    (tagged : List (K × Bytes)) (v : ServerView K) : Prop where
  fixed : v.automaton.fixed = s₀.fixed
  fresh : v.automaton.stage = .fresh → v.automaton.script = Transcript.chain P []
  sentChallenge : v.automaton.stage = .sentChallenge →
    v.automaton.script = Transcript.chain P [v.hello, v.challenge] ∧
      ∃ hello version, HelloHeard s₀ v.hello v.challenge hello version ∧
        v.automaton.clientNonce = hello.clientNonce ∧ v.automaton.version = version
  early : v.automaton.stage ≠ .done → v.automaton.stage ≠ .spent → v.done = []
  proof : ∀ done ∈ v.done, ServerProof P elsewhere s₀ tagged v done
  once : v.done.length ≤ 1
  untaken : v.automaton.stage ≠ .spent → v.taken = []
  takenOnce : v.taken.length ≤ 1
  refused : v.refused = true → v.automaton.stage = .spent

variable {P}

/-- More tags in the world take nothing from the server. -/
lemma ServerSide.append {v : ServerView K} (h : ServerSide P elsewhere s₀ tagged v)
    (more : List (K × Bytes)) : ServerSide P elsewhere s₀ (tagged ++ more) v :=
  { h with
    proof := by
      intro done hdone
      obtain ⟨hello, version, hheard, hagreed, hkeys, hfallback, hvouched⟩ := h.proof done hdone
      exact ⟨hello, version, hheard, hagreed, hkeys, hfallback, hvouched.append more⟩ }

/-- What the server was made with, part by part. -/
lemma ServerHandshake.fixed_eq {s : ServerHandshake K} (h : s.fixed = s₀.fixed) :
    s.auth = s₀.auth ∧ s.connectionSeed = s₀.connectionSeed ∧ s.serverNonce = s₀.serverNonce ∧
      s.receiveOffset = s₀.receiveOffset ∧ s.previousSeed = s₀.previousSeed ∧
      s.ceiling = s₀.ceiling := by
  simp only [ServerHandshake.fixed, Prod.mk.injEq] at h
  exact h

/-- A refusal leaves a spent server, which has what it had. -/
lemma ServerSide.refuse {v : ServerView K} (h : ServerSide P elsewhere s₀ tagged v)
    {s : ServerHandshake K} (hspent : s.stage = .spent) (hfixed : s.fixed = v.automaton.fixed) :
    ServerSide P elsewhere s₀ tagged { v with automaton := s, refused := true } where
  fixed := hfixed.trans h.fixed
  fresh hstage := absurd (hspent.symm.trans hstage) (by decide)
  sentChallenge hstage := absurd (hspent.symm.trans hstage) (by decide)
  early _ hstage := absurd hspent hstage
  proof := h.proof
  once := h.once
  untaken hstage := absurd hspent hstage
  takenOnce := h.takenOnce
  refused _ := hspent

/-- The server's own step on a body. -/
lemma ServerSide.handle {v : ServerView K} (h : ServerSide P elsewhere s₀ tagged v)
    (seen : NonceMemory) (body : Bytes) (out : Nat)
    (unforged : ∀ fields m rest, parseMessageType body = .ok (.auth, fields) →
      parseAuth fields = .ok (m, rest) →
      v.automaton.script.verify P v.automaton.auth clientTagLabel m.clientTag = true →
      Vouched elsewhere tagged v.automaton.auth (v.automaton.script.bound P clientTagLabel)) :
    ServerSide P elsewhere s₀ (tagged ++ (v.handle P seen body out).1)
      (v.handle P seen body out).2 := by
  unfold ServerView.handle
  obtain ⟨hauth, hseed, hserver, hoffset, hprevious, hceiling⟩ := ServerHandshake.fixed_eq h.fixed
  rcases v.automaton.handle_cases P seen body out with
    ⟨e, s, hhandle, hspent, hfixed⟩ |
      ⟨hstage, hello, version, hbody, ⟨fields, rest, hfields, hhello⟩, hversion, hhandle⟩ |
      ⟨hstage, fields, auth, rest, written, hfields, hmessage, hverify, hhandle⟩
  · rw [hhandle, List.append_nil]
    exact h.refuse hspent hfixed
  · rw [hhandle]
    -- a Hello: nothing has been proved before it
    have hdone : v.done = [] := h.early (by rw [hstage]; decide) (by rw [hstage]; decide)
    have htaken : v.taken = [] := h.untaken (by rw [hstage]; decide)
    have hpeek : helloOf body = some hello := by
      simp only [helloOf, hfields, hhello, Except.toOption, Option.map_some]
    rw [List.append_nil]
    constructor
    case fixed => exact h.fixed
    case fresh => exact fun hstage => (by cases hstage)
    case sentChallenge =>
      intro _
      dsimp only
      rw [h.fresh hstage]
      refine ⟨rfl, hello, version,
        ⟨hbody, hpeek, (parseHello_eq_ok hhello).2.2.2, ?_, by rw [hserver]⟩, rfl, rfl⟩
      rw [← hceiling]
      exact hversion
    case early => exact fun _ _ => hdone
    case proof =>
      intro done hmem
      dsimp only at hmem
      rw [hdone] at hmem
      cases hmem
    case once => exact h.once
    case untaken => exact fun _ => htaken
    case takenOnce => exact h.takenOnce
    case refused =>
      intro hrefused
      exact absurd (hstage.symm.trans (h.refused hrefused)) (by decide)
  · rw [hhandle]
    obtain ⟨hscript, hello, version, hheard, hclient, hver⟩ := h.sentChallenge hstage
    have hdone : v.done = [] := h.early (by rw [hstage]; decide) (by rw [hstage]; decide)
    have htaken : v.taken = [] := h.untaken (by rw [hstage]; decide)
    -- an Auth whose tag verifies: somebody with the key vouched for this transcript
    have hvouched := unforged fields auth rest hfields hmessage hverify
    rw [hauth, hscript] at hvouched
    constructor
    case fixed => exact h.fixed
    case fresh => exact fun hstage => (by cases hstage)
    case sentChallenge => exact fun hstage => (by cases hstage)
    case early => exact fun hdone => absurd rfl hdone
    case proof =>
      intro done hmem
      dsimp only at hmem
      rw [hdone, List.nil_append, List.mem_singleton] at hmem
      subst hmem
      refine ⟨hello, version, hheard, ?_, ?_, ?_, hvouched.append _⟩
      · simp only [ServerHandshake.completion, peekHelloSessionId_of_hello hheard.2.1, hclient, hver,
          hserver, hoffset]
        rfl
      · simp only [ServerHandshake.completion, hseed, hclient, hserver]
      · simp only [ServerHandshake.completion, hprevious, hclient, hserver]
    case once => simp [hdone]
    case untaken => exact fun _ => htaken
    case takenOnce => exact h.takenOnce
    case refused =>
      intro hrefused
      exact absurd (hstage.symm.trans (h.refused hrefused)) (by decide)

/-- Taking the result keeps the side of the server. -/
lemma ServerSide.take {v : ServerView K} (h : ServerSide P elsewhere s₀ tagged v) :
    ServerSide P elsewhere s₀ tagged v.take := by
  unfold ServerView.take ServerHandshake.takeResult
  split
  next result s heq =>
    split at heq
    next keys hstage hkeys =>
      cases heq
      have htaken : v.taken = [] := h.untaken (by rw [hstage]; decide)
      exact
        { fixed := h.fixed
          fresh := fun hstage => (by cases hstage)
          sentChallenge := fun hstage => (by cases hstage)
          early := fun _ hspent => absurd rfl hspent
          proof := h.proof
          once := h.once
          untaken := fun hspent => absurd rfl hspent
          takenOnce := by simp [htaken]
          refused := fun _ => rfl }
    next =>
      cases heq
      rw [Option.toList_none, List.append_nil]
      exact h

variable (P)

/-- An entry of the client: its one tag, over the Hello and the Challenge. -/
def ClientTag (c₀ : ClientHandshake K) (v : ClientView K) (e : K × Bytes) : Prop :=
  e = (c₀.auth, (Transcript.chain P [v.hello, v.challenge]).bound P clientTagLabel) ∧
    v.automaton.stage ≠ .fresh ∧ v.automaton.stage ≠ .sentHello

/-- An entry of the server: its one tag, over all that was said. -/
def ServerTag (s₀ : ServerHandshake K) (v : ServerView K) (e : K × Bytes) : Prop :=
  e = (s₀.auth, (Transcript.chain P [v.hello, v.challenge, v.auth,
    encodeBE 8 s₀.receiveOffset.toNat]).bound P serverTagLabel) ∧
    v.automaton.stage ≠ .fresh ∧ v.automaton.stage ≠ .sentChallenge

/-- A run of the two. -/
structure TalkSound (elsewhere : K → Bytes → Prop) (c₀ : ClientHandshake K)
    (s₀ : ServerHandshake K) (t : Talk K) : Prop where
  client : ClientSide P elsewhere c₀ t.tagged t.client
  server : ServerSide P elsewhere s₀ t.tagged t.server
  tags : ∀ e ∈ t.tagged, ClientTag P c₀ t.client e ∨ ServerTag P s₀ t.server e

variable {P}

/-- A client's tags survive its calls: it says and hears nothing twice. -/
lemma ClientTag.start {v : ClientView K} {e : K × Bytes} (h : ClientTag P c₀ v e)
    (seen : NonceMemory) (out : Nat) : ClientTag P c₀ (v.start P seen out) e := by
  unfold ClientView.start
  rcases v.automaton.start_cases P seen out with ⟨e, hstart⟩ | ⟨hfresh, -⟩
  · rw [hstart]
    exact ⟨h.1, fun hstage => (by cases hstage), fun hstage => (by cases hstage)⟩
  · exact absurd hfresh h.2.1

/-- A tag of the client stays one, whatever the client hears. -/
lemma ClientTag.handle {v : ClientView K} {e : K × Bytes} (h : ClientTag P c₀ v e)
    (seen : NonceMemory) (body : Bytes) (out : Nat) :
    ClientTag P c₀ (v.handle P seen body out).2 e := by
  unfold ClientView.handle
  rcases v.automaton.handle_cases P seen body out with
    ⟨e, c, hhandle, hspent, -⟩ | ⟨hstage, -⟩ | ⟨hstage, fields, ok, rest, -, -, -, hhandle⟩
  · rw [hhandle]
    exact ⟨h.1, by rw [hspent]; decide, by rw [hspent]; decide⟩
  · exact absurd hstage h.2.2
  · rw [hhandle]
    exact ⟨h.1, fun hstage => (by cases hstage), fun hstage => (by cases hstage)⟩

/-- And when its result is taken. -/
lemma ClientTag.take {v : ClientView K} {e : K × Bytes} (h : ClientTag P c₀ v e) :
    ClientTag P c₀ v.take e := by
  unfold ClientView.take ClientHandshake.takeResult
  split
  next heq =>
    split at heq
    · cases heq
      exact ⟨h.1, fun hstage => (by cases hstage), fun hstage => (by cases hstage)⟩
    · cases heq
      exact h

/-- A tag of the server stays one, whatever the server hears. -/
lemma ServerTag.handle {v : ServerView K} {e : K × Bytes} (h : ServerTag P s₀ v e)
    (seen : NonceMemory) (body : Bytes) (out : Nat) :
    ServerTag P s₀ (v.handle P seen body out).2 e := by
  unfold ServerView.handle
  rcases v.automaton.handle_cases P seen body out with
    ⟨e, s, hhandle, hspent, -⟩ | ⟨hstage, -⟩ | ⟨hstage, -⟩
  · rw [hhandle]
    exact ⟨h.1, by rw [hspent]; decide, by rw [hspent]; decide⟩
  · exact absurd hstage h.2.1
  · exact absurd hstage h.2.2

/-- And when its result is taken. -/
lemma ServerTag.take {v : ServerView K} {e : K × Bytes} (h : ServerTag P s₀ v e) :
    ServerTag P s₀ v.take e := by
  unfold ServerView.take ServerHandshake.takeResult
  split
  next heq =>
    split at heq
    · cases heq
      exact ⟨h.1, fun hstage => (by cases hstage), fun hstage => (by cases hstage)⟩
    · cases heq
      exact h

/-- What the client authenticates in one call. -/
lemma ClientSide.newTag {v : ClientView K} (h : ClientSide P elsewhere c₀ tagged v)
    {seen : NonceMemory} {body : Bytes} {out : Nat} {e : K × Bytes}
    (he : e ∈ (v.handle P seen body out).1) : ClientTag P c₀ (v.handle P seen body out).2 e := by
  unfold ClientView.handle at he ⊢
  rcases v.automaton.handle_cases P seen body out with
    ⟨_, c, hhandle, -, -⟩ | ⟨hstage, challenge, written, hbody, hwide, hhandle⟩ |
      ⟨-, fields, ok, rest, -, -, -, hhandle⟩
  · rw [hhandle] at he
    cases he
  · rw [hhandle] at he ⊢
    dsimp only at he ⊢
    rw [List.mem_singleton] at he
    refine ⟨?_, fun hstage => (by cases hstage), fun hstage => (by cases hstage)⟩
    rw [he, (h.sentHello hstage).1, (ClientHandshake.fixed_eq h.fixed).2.1]
    rfl
  · rw [hhandle] at he
    cases he

/-- What the server authenticates in one call. -/
lemma ServerSide.newTag {v : ServerView K} (h : ServerSide P elsewhere s₀ tagged v)
    {seen : NonceMemory} {body : Bytes} {out : Nat} {e : K × Bytes}
    (he : e ∈ (v.handle P seen body out).1) : ServerTag P s₀ (v.handle P seen body out).2 e := by
  unfold ServerView.handle at he ⊢
  rcases v.automaton.handle_cases P seen body out with
    ⟨_, s, hhandle, -, -⟩ | ⟨-, hello, version, -, -, -, hhandle⟩ |
      ⟨hstage, fields, auth, rest, written, -, -, -, hhandle⟩
  · rw [hhandle] at he
    cases he
  · rw [hhandle] at he
    cases he
  · rw [hhandle] at he ⊢
    dsimp only at he ⊢
    rw [List.mem_singleton] at he
    refine ⟨?_, fun hstage => (by cases hstage), fun hstage => (by cases hstage)⟩
    obtain ⟨hauth, -, -, hoffset, -⟩ := ServerHandshake.fixed_eq h.fixed
    rw [he, (h.sentChallenge hstage).1, hauth, hoffset]
    rfl

/-- Every step of a run keeps it sound. -/
lemma TalkSound.step {t t' : Talk K} {a : TalkAct} (h : TalkSound P elsewhere c₀ s₀ t)
    (unforged : Unforged P elsewhere t a) (hstep : talkStep P t a = some t') :
    TalkSound P elsewhere c₀ s₀ t' := by
  cases a with
  | start seen out =>
    cases hstep
    exact ⟨h.client.start seen out, h.server,
      fun e he => (h.tags e he).imp (fun hc => hc.start seen out) id⟩
  | toClient seen body out =>
    cases hstep
    refine ⟨h.client.handle seen body out unforged, h.server.append _, ?_⟩
    intro e he
    rcases List.mem_append.mp he with hold | hnew
    · exact (h.tags e hold).imp (fun hc => hc.handle seen body out) id
    · exact .inl (h.client.newTag hnew)
  | toServer seen body out =>
    cases hstep
    refine ⟨h.client.append _, h.server.handle seen body out unforged, ?_⟩
    intro e he
    rcases List.mem_append.mp he with hold | hnew
    · exact (h.tags e hold).imp id (fun hs => hs.handle seen body out)
    · exact .inr (h.server.newTag hnew)
  | takeClient =>
    cases hstep
    exact ⟨h.client.take, h.server, fun e he => (h.tags e he).imp ClientTag.take id⟩
  | takeServer =>
    cases hstep
    exact ⟨h.client, h.server.take, fun e he => (h.tags e he).imp id ServerTag.take⟩

/-- The one number a field of its width spells. -/
lemma encodeBE_inj {width n k : Nat} (hn : n < 256 ^ width) (hk : k < 256 ^ width)
    (h : encodeBE width n = encodeBE width k) : n = k := by
  have hdecode := congrArg decodeBE h
  rw [decodeBE_encodeBE, decodeBE_encodeBE, Nat.mod_eq_of_lt hn, Nat.mod_eq_of_lt hk] at hdecode
  exact hdecode

/-- A Hello's nonce is where every Hello has it. -/
lemma HelloMessage.nonce_bytes (m : HelloMessage) :
    (m.bytes.drop 25).take handshakeNonceSize = m.clientNonce.val := by
  have hfront : (encodeBE 1 MessageType.hello.toByte ++ (helloMagic ++ (encodeBE 2 m.versionMin ++
      (encodeBE 2 m.versionMax ++ m.id.val)))).length = 25 := by
    simp [m.id.property, sessionIdSize, helloMagic, asciiBytes]
  have hbytes : m.bytes = (encodeBE 1 MessageType.hello.toByte ++ (helloMagic ++
      (encodeBE 2 m.versionMin ++ (encodeBE 2 m.versionMax ++ m.id.val)))) ++
      (m.clientNonce.val ++ m.options.options.flatMap TlvOption.spelling) := by
    simp [HelloMessage.bytes, HelloMessage.fields]
  rw [hbytes, List.drop_left' hfront, List.take_left' m.clientNonce.property]

/-- A Challenge's nonce is where every Challenge has it. -/
lemma ChallengeMessage.nonce_bytes (m : ChallengeMessage) :
    (m.bytes.drop 3).take handshakeNonceSize = m.serverNonce.val := by
  have hfront : (encodeBE 1 MessageType.challenge.toByte ++ encodeBE 2 m.version).length = 3 := by
    simp
  have hbytes : m.bytes = (encodeBE 1 MessageType.challenge.toByte ++ encodeBE 2 m.version) ++
      (m.serverNonce.val ++ m.options.options.flatMap TlvOption.spelling) := by
    simp [ChallengeMessage.bytes, ChallengeMessage.fields]
  rw [hbytes, List.drop_left' hfront, List.take_left' m.serverNonce.property]

/-- Challenges with the same bytes choose the same version and carry the same nonce. -/
lemma ChallengeMessage.bytes_inj {m n : ChallengeMessage} (hm : m.version < 256 ^ 2)
    (hn : n.version < 256 ^ 2) (h : m.bytes = n.bytes) :
    m.version = n.version ∧ m.serverNonce = n.serverNonce := by
  have hnonce := m.nonce_bytes
  rw [h, n.nonce_bytes] at hnonce
  refine ⟨?_, Subtype.ext hnonce.symm⟩
  have hfields := List.append_cancel_left h
  exact encodeBE_inj hm hn (List.append_inj_left hfields (by simp))

/-- Hellos with the same bytes offer the same range, id and nonce. -/
lemma HelloMessage.bytes_inj {m n : HelloMessage} (hm : m.versionMax < 256 ^ 2)
    (hn : n.versionMax < 256 ^ 2) (h : m.bytes = n.bytes) :
    m.versionMax = n.versionMax ∧ m.id = n.id ∧ m.clientNonce = n.clientNonce := by
  have hnonce := m.nonce_bytes
  rw [h, n.nonce_bytes] at hnonce
  have hfields := List.append_cancel_left (List.append_cancel_left h)
  have hrange := List.append_inj_right hfields (by simp)
  have hid := List.append_inj_right hrange (by simp)
  exact ⟨encodeBE_inj hm hn (List.append_inj_left hrange (by simp)),
    Subtype.ext (List.append_inj_left hid (by rw [m.id.property, n.id.property])),
    Subtype.ext hnonce.symm⟩

/-- A transcript absorbs one message more. -/
lemma Transcript.chain_concat (messages : List Bytes) (m : Bytes) :
    Transcript.chain P (messages ++ [m]) = (Transcript.chain P messages).absorb P m := by
  simp [Transcript.chain]

/-- Under an injective hash the transcript is what was said. -/
lemma Crypto.Injective.chain (injective : P.Injective) {l l' : List Bytes}
    (hlength : l.length = l'.length) (h : Transcript.chain P l = Transcript.chain P l') :
    l = l' := by
  induction l using List.reverseRecOn generalizing l' with
  | nil => exact (List.length_eq_zero_iff.mp hlength.symm).symm
  | append_singleton l m ih =>
    rcases List.eq_nil_or_concat l' with rfl | ⟨l', m', rfl⟩
    · simp at hlength
    · rw [List.concat_eq_append, Transcript.chain_concat, Transcript.chain_concat] at h
      obtain ⟨hstate, hm⟩ := injective.hash _ _ _ _ (congrArg Transcript.state h)
      have hl := ih (by simpa using hlength) (Transcript.ext hstate)
      rw [List.concat_eq_append, hl, hm]

/-- A tag's message tells what it was made over. -/
lemma Crypto.Injective.bound (injective : P.Injective) {label : Bytes} {l l' : List Bytes}
    (hlength : l.length = l'.length)
    (h : (Transcript.chain P l).bound P label = (Transcript.chain P l').bound P label) : l = l' := by
  have hstate := injective.expose (List.append_cancel_left h)
  exact injective.chain hlength (Transcript.ext hstate)

/-- The two directions are never taken for one another. -/
lemma bound_labels (x y : Transcript K) : x.bound P clientTagLabel ≠ y.bound P serverTagLabel := by
  intro h
  have hlabels : clientTagLabel = serverTagLabel := List.append_inj_left h (by decide)
  exact absurd hlabels (by decide)

/-- A client that is through has heard the server out, word for word. -/
lemma TalkSound.client_done {t : Talk K} (h : TalkSound P elsewhere c₀ s₀ t)
    (injective : P.Injective) (fresh : Fresh P elsewhere c₀.clientNonce s₀.serverNonce)
    {c : Completion K} (hc : c ∈ t.client.done) :
    c₀.auth = s₀.auth ∧ t.client.hello = t.server.hello ∧
      t.client.challenge = t.server.challenge ∧
      c.agreed.receiveOffset = s₀.receiveOffset.toNat := by
  obtain ⟨⟨options, hhello⟩, challenge, offset, hchallenge, hwide, hoffset, hagreed, hkeys,
    hvouched⟩ := h.client.proof c hc
  rcases hvouched with htagged | helse
  · rcases h.tags _ htagged with ⟨htag, -⟩ | ⟨htag, -⟩
    · exact absurd (congrArg Prod.snd htag).symm (bound_labels _ _)
    · obtain ⟨hauth, hbound⟩ := Prod.mk.inj htag
      have hsaid := injective.bound (by rfl) hbound
      simp only [List.cons.injEq, and_true] at hsaid
      obtain ⟨hh, hch, -, hoff⟩ := hsaid
      refine ⟨hauth, hh, hch, ?_⟩
      rw [hagreed]
      exact encodeBE_inj hoffset s₀.receiveOffset.toNat_lt hoff
  · refine absurd ?_ (fresh.hello _ _ _ _ _ helse)
    rw [hhello]
    exact HelloMessage.nonce_bytes _

/-- A server that is through has been answered by the client it was made for. -/
lemma TalkSound.server_done {t : Talk K} (h : TalkSound P elsewhere c₀ s₀ t)
    (fresh : Fresh P elsewhere c₀.clientNonce s₀.serverNonce) {s : Completion K}
    (hs : s ∈ t.server.done) : c₀.auth = s₀.auth := by
  obtain ⟨hello, version, ⟨hhello, -, -, -, hchallenge⟩, -, -, -, hvouched⟩ := h.server.proof s hs
  rcases hvouched with htagged | helse
  · rcases h.tags _ htagged with ⟨htag, -⟩ | ⟨htag, -⟩
    · exact (congrArg Prod.fst htag).symm
    · exact absurd (congrArg Prod.snd htag) (bound_labels _ _)
  · refine absurd ?_ (fresh.challenge _ _ _ helse)
    rw [hchallenge]
    exact ChallengeMessage.nonce_bytes _

/-- A version that was negotiated is the highest that both speak. -/
lemma negotiateVersion_eq_ok {peerMin peerMax ourMax version : Nat}
    (h : negotiateVersion peerMin peerMax ourMax = .ok version) :
    version = min peerMax ourMax ∧ peerMin ≤ version ∧ protocolVersionMin ≤ version := by
  unfold negotiateVersion at h
  split at h
  · cases h
  split at h
  · cases h
  split at h
  · cases h
  · cases h
    omega

/-- The versions that both ceilings and the range of the Hello admit. -/
def admittedVersions (c₀ : ClientHandshake K) (s₀ : ServerHandshake K) (hello : HelloMessage) :
    Set Nat :=
  { v | protocolVersionMin ≤ v ∧ v ≤ c₀.ceiling.toNat ∧ v ≤ s₀.ceiling.toNat ∧
    hello.versionMin ≤ v ∧ v ≤ hello.versionMax }

/-- Both are through: they agree, on the highest version there is. -/
lemma TalkSound.agree {t : Talk K} (h : TalkSound P elsewhere c₀ s₀ t)
    (injective : P.Injective) (fresh : Fresh P elsewhere c₀.clientNonce s₀.serverNonce)
    {c s : Completion K} (hc : c ∈ t.client.done) (hs : s ∈ t.server.done) :
    c.agreed = s.agreed ∧
      (∃ hello, helloOf c.agreed.hello = some hello ∧
        IsGreatest (admittedVersions c₀ s₀ hello) c.agreed.version) ∧
      (c₀.connectionSeed = s₀.connectionSeed → c.keys = s.keys) ∧
      (s₀.previousSeed = some c₀.connectionSeed → s.fallbackKeys = c.keys) := by
  obtain ⟨-, hhello, hchallenge, hoffset⟩ := h.client_done injective fresh hc
  obtain ⟨⟨options, hsaid⟩, challenge, offset, hchallengeC, hwideC, -, hagreedC, hkeysC, -⟩ :=
    h.client.proof c hc
  obtain ⟨hello, version, ⟨hheard, hparsed, hmax, hversion, hchallengeS⟩, hagreedS, hkeysS,
    hfallbackS, -⟩ := h.server.proof s hs
  obtain ⟨hmin, hlow, hfloor⟩ := negotiateVersion_eq_ok hversion
  have hceiling : c₀.ceiling.toNat < 256 ^ 2 := c₀.ceiling.toNat_lt
  have hwideS : version < 256 ^ 2 := by omega
  obtain ⟨hver, hnonceS⟩ := ChallengeMessage.bytes_inj hwideC hwideS
    (hchallengeC.symm.trans (hchallenge.trans hchallengeS))
  obtain ⟨hrange, hid, hnonceC⟩ := HelloMessage.bytes_inj (m := c₀.hello options) hceiling hmax
    (hsaid.symm.trans (hhello.trans hheard))
  dsimp only [ClientHandshake.hello] at hver hnonceS hrange hid hnonceC
  rw [hagreedC] at hoffset
  dsimp only at hoffset
  have hsame : c.agreed = s.agreed := by
    rw [hagreedC, hagreedS, hhello, hid, hnonceC, hnonceS, hoffset, hver]
  refine ⟨hsame, ⟨hello, ?_, ?_, ?_⟩, ?_, ?_⟩
  · rw [hsame, hagreedS]
    exact hparsed
  · rw [hsame, hagreedS]
    exact ⟨hfloor, by dsimp only; omega, by dsimp only; omega, hlow, by dsimp only; omega⟩
  · rintro v ⟨-, -, hserver, -, hhigh⟩
    rw [hsame, hagreedS]
    dsimp only
    omega
  · intro hseeds
    rw [hkeysC, hkeysS, hseeds, hnonceC, hnonceS]
  · intro hprevious
    rw [hkeysC, hfallbackS, hprevious, hnonceC, hnonceS]
    rfl

/-- A talk is sound before anything was said. -/
lemma TalkSound.create {id : SessionId} {auth seed : K} {nonce : HandshakeNonce} {ceiling : UInt16}
    {gridCapable : Bool} {auth' seed' : K} {nonce' : HandshakeNonce} {offset : UInt64}
    {previous : Option K} {ceiling' : UInt16} :
    TalkSound P elsewhere (ClientHandshake.create P id auth seed nonce ceiling gridCapable)
      (ServerHandshake.create P auth' seed' nonce' offset previous ceiling')
      (Talk.create (ClientHandshake.create P id auth seed nonce ceiling gridCapable)
        (ServerHandshake.create P auth' seed' nonce' offset previous ceiling')) where
  client :=
    { fixed := rfl
      fresh := fun _ => rfl
      sentHello := fun hstage => (by cases hstage)
      sentAuth := fun hstage => (by cases hstage)
      early := fun _ _ => rfl
      proof := fun _ hdone => (by cases hdone)
      once := Nat.zero_le 1
      untaken := fun _ => rfl
      takenOnce := Nat.zero_le 1
      refused := fun hrefused => (by cases hrefused) }
  server :=
    { fixed := rfl
      fresh := fun _ => rfl
      sentChallenge := fun hstage => (by cases hstage)
      early := fun _ _ => rfl
      proof := fun _ hdone => (by cases hdone)
      once := Nat.zero_le 1
      untaken := fun _ => rfl
      takenOnce := Nat.zero_le 1
      refused := fun hrefused => (by cases hrefused) }
  tags := fun _ he => (by cases he)

variable (P)

/-- A client that accepts nothing any more. -/
def ClientHandshake.Shut (c : ClientHandshake K) : Prop :=
  (∀ seen out, ∃ e c', c.start P seen out = (.error e, c')) ∧
    (∀ seen body out, ∃ e c', c.handle P seen body out = (.error e, c')) ∧ c.takeResult = (none, c)

/-- A server that accepts nothing any more. -/
def ServerHandshake.Shut (s : ServerHandshake K) : Prop :=
  (∀ seen body out, ∃ e s', s.handle P seen body out = (.error e, s')) ∧ s.takeResult = (none, s)

variable {P}

/-- A spent client is shut. -/
lemma ClientHandshake.shut_of_spent {c : ClientHandshake K} (h : c.stage = .spent) : c.Shut P := by
  refine ⟨?_, ?_, ?_⟩
  · intro seen out
    rcases c.start_cases P seen out with ⟨e, hstart⟩ | ⟨hfresh, -⟩
    · exact ⟨e, _, hstart⟩
    · exact absurd (h.symm.trans hfresh) (by decide)
  · intro seen body out
    rcases c.handle_cases P seen body out with ⟨e, c', hhandle, -⟩ | ⟨hstage, -⟩ | ⟨hstage, -⟩
    · exact ⟨e, c', hhandle⟩
    · exact absurd (h.symm.trans hstage) (by decide)
    · exact absurd (h.symm.trans hstage) (by decide)
  · rw [takeResult, h]

/-- A spent server is shut. -/
lemma ServerHandshake.shut_of_spent {s : ServerHandshake K} (h : s.stage = .spent) : s.Shut P := by
  refine ⟨?_, ?_⟩
  · intro seen body out
    rcases s.handle_cases P seen body out with ⟨e, s', hhandle, -⟩ | ⟨hstage, -⟩ | ⟨hstage, -⟩
    · exact ⟨e, s', hhandle⟩
    · exact absurd (h.symm.trans hstage) (by decide)
    · exact absurd (h.symm.trans hstage) (by decide)
  · rw [takeResult, h]

/--
Whatever an attacker does to the bodies between a client's and a server's handshake: if both complete
they agree on the Hello to the byte, the session id in it, both nonces, the server's receive offset and
the version, which is the highest that both ceilings and the Hello admit; their keys are the same, of
the seed they share. Against other secrets, such as a decoy's, neither completes. Each completes at most
once, hands its result out at most once, and accepts nothing after a refusal.
-/
theorem handshake_agreement (P : Crypto K) (injective : P.Injective)
    (elsewhere : K → Bytes → Prop) (id : SessionId) (auth seed : K) (clientNonce : HandshakeNonce)
    (ceiling : UInt16) (gridCapable : Bool) (serverAuth serverSeed : K)
    (serverNonce : HandshakeNonce) (receiveOffset : UInt64) (previousSeed : Option K)
    (serverCeiling : UInt16) (fresh : Fresh P elsewhere clientNonce serverNonce)
    (acts : List TalkAct) (t : Talk K) (client : ClientHandshake K) (server : ServerHandshake K)
    (hclient : client = ClientHandshake.create P id auth seed clientNonce ceiling gridCapable)
    (hserver : server = ServerHandshake.create P serverAuth serverSeed serverNonce receiveOffset
      previousSeed serverCeiling)
    (run : Run (talkStep P) (Unforged P elsewhere) (Talk.create client server) acts t) :
    (∀ c ∈ t.client.done, ∀ s ∈ t.server.done, c.agreed = s.agreed ∧
      (∃ hello, helloOf c.agreed.hello = some hello ∧
        IsGreatest (admittedVersions client server hello) c.agreed.version) ∧
      (seed = serverSeed → c.keys = s.keys) ∧
      (previousSeed = some seed → s.fallbackKeys = c.keys)) ∧
    (auth ≠ serverAuth → t.client.done = [] ∧ t.server.done = []) ∧
    (t.client.done.length ≤ 1 ∧ t.server.done.length ≤ 1) ∧
    (t.client.taken.length ≤ 1 ∧ t.server.taken.length ≤ 1) ∧
    (t.client.refused = true → t.client.automaton.Shut P) ∧
    (t.server.refused = true → t.server.automaton.Shut P) := by
  subst hclient hserver
  have hsound := run.inv (TalkSound P elsewhere _ _) (fun _ _ _ h ok hstep => h.step ok hstep)
    TalkSound.create
  refine ⟨?_, ?_, ⟨hsound.client.once, hsound.server.once⟩,
    ⟨hsound.client.takenOnce, hsound.server.takenOnce⟩, ?_, ?_⟩
  · intro c hc s hs
    exact hsound.agree injective fresh hc hs
  · intro hdecoy
    refine ⟨List.eq_nil_iff_forall_not_mem.mpr ?_, List.eq_nil_iff_forall_not_mem.mpr ?_⟩
    · intro c hc
      exact hdecoy (hsound.client_done injective fresh hc).1
    · intro s hs
      exact hdecoy (hsound.server_done fresh hs)
  · intro hrefused
    exact ClientHandshake.shut_of_spent (hsound.client.refused hrefused)
  · intro hrefused
    exact ServerHandshake.shut_of_spent (hsound.server.refused hrefused)

section Sample

/-- Two lists in one, the length of the first in front. -/
def pairBytes (k m : Bytes) : Bytes := List.replicate k.length 1 ++ 0 :: (k ++ m)

/-- A pair of byte strings can be taken apart. -/
lemma pairBytes_injective {k k' m m' : Bytes} (h : pairBytes k m = pairBytes k' m') :
    k = k' ∧ m = m' := by
  have hunary : ∀ (a b : Nat) (x y : Bytes),
      List.replicate a (1 : UInt8) ++ 0 :: x = List.replicate b 1 ++ 0 :: y → a = b ∧ x = y := by
    intro a
    induction a with
    | zero =>
      intro b x y h
      cases b with
      | zero => exact ⟨rfl, List.tail_eq_of_cons_eq h⟩
      | succ b => exact absurd (List.head_eq_of_cons_eq h) (by decide)
    | succ a ih =>
      intro b x y h
      cases b with
      | zero => exact absurd (List.head_eq_of_cons_eq h) (by decide)
      | succ b =>
        obtain ⟨hab, hxy⟩ := ih b x y (List.tail_eq_of_cons_eq h)
        exact ⟨congrArg Nat.succ hab, hxy⟩
  obtain ⟨hlength, hrest⟩ := hunary _ _ _ _ h
  exact List.append_inj hrest hlength

/-- Primitives over plain bytes, to run the handshake on. -/
def plainCrypto : Crypto Bytes where
  zero := []
  expose k := k
  deriveFromInfo := pairBytes
  deriveSubkey k number context := UInt8.ofNat number :: pairBytes k context
  deriveBytes k number context := UInt8.ofNat number :: pairBytes k context
  authenticate m k := ⟨List.replicate 32 ((k ++ m).foldl (fun acc b => 31 * acc + b) 7), rfl⟩

/-- The plain instance keeps its inputs apart. -/
lemma plainCrypto_injective : plainCrypto.Injective :=
  ⟨fun _ _ _ _ h => pairBytes_injective h, fun _ _ h => h⟩

/-- Whether what is about to be checked was authenticated by one of the two. -/
def vouchedFor (P : Crypto Bytes) (t : Talk Bytes) : TalkAct → Bool
  | .toServer _ body _ =>
    match parseMessageType body with
    | .ok (.auth, _) =>
      let s := t.server.automaton
      t.tagged.contains (s.auth, s.script.bound P clientTagLabel)
    | _ => true
  | .toClient _ body _ =>
    match parseMessageType body with
    | .ok (.authOk, fields) =>
      match parseAuthOk fields with
      | .ok (m, _) =>
        let c := t.client.automaton
        t.tagged.contains
          (c.auth, (c.script.absorbReceiveOffset P m.serverReceiveOffset).bound P serverTagLabel)
      | .error _ => true
    | _ => true
  | _ => true

/-- A body that the check vouches for is not forged. -/
lemma unforged_of_vouchedFor {P : Crypto Bytes} {elsewhere : Bytes → Bytes → Prop} {t : Talk Bytes}
    {a : TalkAct} (h : vouchedFor P t a = true) : Unforged P elsewhere t a := by
  cases a with
  | toServer seen body out =>
    intro fields m rest hfields _ _ _
    simp only [vouchedFor, hfields] at h
    exact .inl (List.contains_iff_mem.mp h)
  | toClient seen body out =>
    intro fields m rest hfields hm _ _ _
    simp only [vouchedFor, hfields, hm] at h
    exact .inl (List.contains_iff_mem.mp h)
  | start | takeClient | takeServer => trivial

def sampleNonce (b : UInt8) : HandshakeNonce := ⟨List.replicate 16 b, rfl⟩

def sampleClient : ClientHandshake Bytes :=
  ClientHandshake.create plainCrypto (.fill sessionIdSize 1) [2] [3] (sampleNonce 4) 2 true

def sampleServer : ServerHandshake Bytes :=
  ServerHandshake.create plainCrypto [2] [3] (sampleNonce 5) 77 none 3

/-- What the two say to each other, passed on as it was said. -/
def sampleTalk : List TalkAct :=
  let hello := (sampleClient.hello .capable).bytes
  let challenge := ChallengeMessage.bytes ⟨2, sampleNonce 5, TlvList.empty⟩
  let script := Transcript.chain plainCrypto [hello, challenge]
  let auth := encodeBE 1 3 ++ (script.tag plainCrypto [2] clientTagLabel).val
  let script := (script.absorb plainCrypto auth).absorbReceiveOffset plainCrypto 77
  let authOk := encodeBE 1 4 ++ ((script.tag plainCrypto [2] serverTagLabel).val ++ encodeBE 8 77)
  [.start .empty 4096, .toServer .empty hello 4096, .toClient .empty challenge 4096,
    .toServer .empty auth 4096, .toClient .empty authOk 4096, .takeServer, .takeClient]

/-- A whole handshake, and both sides are done. -/
theorem handshake_agreement_sample :
    ∃ t, Run (talkStep plainCrypto) (Unforged plainCrypto fun _ _ => False)
        (Talk.create sampleClient sampleServer) sampleTalk t ∧
      (∃ c ∈ t.client.done, ∃ s ∈ t.server.done, c.agreed = s.agreed ∧ c.keys = s.keys ∧
        c.agreed.version = 2 ∧ c.agreed.receiveOffset = 77) := by
  have hrun : (exec (guarded (talkStep plainCrypto) fun t a => vouchedFor plainCrypto t a = true)
      (Talk.create sampleClient sampleServer) sampleTalk).map (fun t =>
        (t.client.done.map (fun c => (c.agreed.version, c.agreed.receiveOffset)),
          t.server.done.length)) = some ([(2, 77)], 1) := by
    decide +kernel
  obtain ⟨t, ht, hdone⟩ := Option.map_eq_some_iff.mp hrun
  have htalk := (Run.of_guarded ht).mono
    (fun t a h => @unforged_of_vouchedFor plainCrypto (fun _ _ => False) t a h)
  refine ⟨t, htalk, ?_⟩
  obtain ⟨hclient, hserver⟩ := Prod.mk.inj hdone
  obtain ⟨c, hc, hfields⟩ := List.mem_map.mp (hclient ▸ List.mem_singleton_self (2, 77))
  obtain ⟨s, hs⟩ := List.exists_mem_of_length_pos (hserver ▸ Nat.one_pos)
  obtain ⟨hversion, hoffset⟩ := Prod.mk.inj hfields
  have hagree := (handshake_agreement plainCrypto plainCrypto_injective (fun _ _ => False) _ _ _ _ _ _
    _ _ _ _ _ _ ⟨fun _ _ _ h => h.elim, fun _ _ _ _ _ h => h.elim⟩ sampleTalk t sampleClient
    sampleServer rfl rfl htalk).1 c hc s hs
  exact ⟨c, hc, s, hs, hagree.1, hagree.2.2.1 rfl, hversion, hoffset⟩

end Sample

end Zet.Wire
