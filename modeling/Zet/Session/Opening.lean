import Zet.Session.Connection
import Zet.Wire.HandshakeAgreement

/-!
# A connection before its peer has proved itself

The agent's end of a connection in `src/session/connection.cpp` from its first byte: chunks off the
socket are put together into frames, the Hello is read and routed by the session it names, and the
handshake is answered, for a session that was found or for a decoy. When the peer has proved it holds
the authentication key, the connection is the one of `Zet.Session.Connection` and `Pump` goes on with
that.

What is proved is the first rule of the agent: until the client's tag verifies, nothing that arrives
changes the session, and no error met on the way may end it.
-/

namespace Zet.Session
open Zet.Core Zet.Wire Zet.Lib

/-- `AgentSession`, with what a handshake reads of it. -/
structure KeyedSession (K : Type) extends AgentSession K where
  id : SessionId
  auth : K
  seen : NonceMemory

/-- `CONNECTION_OUT_SIZE`. -/
def connectionOutSize : Nat := headerSize + maxFrame
/-- `CONNECTION_SCRATCH_SIZE`. -/
def connectionScratchSize : Nat := maxFrame

/-- `ResumeAttempt`: the handshake, and whether it is a decoy's. -/
structure Attempt (K : Type) where
  decoy : Bool
  shake : ServerHandshake K

namespace Attempt
variable {K : Type} (Q : Crypto K)

/-- `ResumeAttempt::ResumeAttempt` for a session that was found. -/
def create (s : KeyedSession K) (serverNonce : HandshakeNonce) (ceiling : UInt16) : Attempt K :=
  ⟨false, .create Q s.auth s.seed serverNonce (UInt64.ofNat s.streams.receiveOffset) s.previousSeed
    ceiling⟩

/-- `ResumeAttempt::ResumeAttempt` for an id no session answers to, with `DeriveDecoySecrets`. -/
def forUnknown (localSecret : K) (id : SessionId) (serverNonce : HandshakeNonce) (ceiling : UInt16) :
    Attempt K :=
  let master := Q.deriveFromInfo localSecret id.val
  ⟨true, .create Q (Q.deriveSubkey master 2 sessionContext) (Q.deriveSubkey master 3 sessionContext)
    serverNonce 0 none ceiling⟩

/-- The nonces the handshake is checked against; a decoy has an empty memory of its own. -/
def seen (a : Attempt K) (s : KeyedSession K) : NonceMemory :=
  if a.decoy then .empty else s.seen

/-- `ResumeAttempt::Handle`. -/
def handle (a : Attempt K) (s : KeyedSession K) (body : Bytes) (out : Nat) :
    Except PreAuthError HandshakeStep × Attempt K :=
  let (step, shake) := a.shake.handle Q (a.seen s) body out
  (step, { a with shake := shake })

/-- `ResumeAttempt::Finish`: the first write into the session. -/
def finish (a : Attempt K) (s : KeyedSession K) :
    Except StreamError (HandshakeResult K) × KeyedSession K :=
  match a.shake.takeResult.1 with
  | none => (.error .notAuthenticated, s)
  | some result =>
    if a.decoy then (.error .notAuthenticated, s)
    else
      (.ok result,
        { s with seen := (s.seen.remember result.clientNonce).remember result.serverNonce })

end Attempt

/-- `AgentConnection::EStage`, up to the handshake. -/
inductive OpeningStage where
  | awaitHello | awaitRoute | handshake
deriving DecidableEq, Repr

/-- `ConnectionEvent` of a connection from its first byte. -/
inductive OpeningEvent (K : Type) where
  | needsSession (id : SessionId)
  | sendFrame (bytes : Bytes)
  | idle
  | carried (event : ConnectionEvent K)

/-- `AgentConnection` from its first byte; `rest` is what it goes on as once its peer has proved
itself. -/
structure AgentOpening (K : Type) where
  frames : FrameStream
  started : Timestamp
  failed : Option SessionError
  ceiling : UInt16
  stage : OpeningStage
  hello : Bytes
  helloId : SessionId
  helloAnswered : Bool
  helloGridCapable : Bool
  attempt : Option (Attempt K)
  rest : Option (AgentConnection K)

namespace AgentOpening
variable {K : Type}

/-- `AgentConnection::AgentConnection`. -/
def create (frameStorage : Nat) (now : Timestamp) (ceiling : UInt16) : AgentOpening K where
  frames := .create frameStorage maxHandshakeFrame
  started := now
  failed := none
  ceiling := ceiling
  stage := .awaitHello
  hello := []
  helloId := .fill sessionIdSize 0
  helloAnswered := false
  helloGridCapable := false
  attempt := none
  rest := none

/-- What a call on the connection returns, with the connection and the session after it. -/
abbrev Pumped (K : Type) :=
  Except SessionError (OpeningEvent K) × AgentOpening K × KeyedSession K

/-- `ConnectionBase::Fail`; the first error stands. -/
def fail (c : AgentOpening K) (e : SessionError) : AgentOpening K :=
  { c with failed := some (c.failed.getD e), rest := c.rest.map fun rest => rest.fail e }

/-- `AgentConnection::Refuse`. -/
def refuse (c : AgentOpening K) (s : KeyedSession K) (e : SessionError) : Pumped K :=
  let failed := c.failed.getD e
  let s :=
    match failed, c.rest with
    | .stream reason, some _ =>
      if failed.disposition = .killSession then
        { s with toAgentSession := s.toAgentSession.kill reason }
      else s
    | _, _ => s
  (.error failed, c.fail e, s)

/-- `ConnectionBase::OnBytes`. -/
def onBytes (c : AgentOpening K) (chunk : Bytes) : Except SessionError Unit × AgentOpening K :=
  match c.failed with
  | some e => (.error e, c)
  | none =>
    match c.frames.append chunk with
    | (.error e, frames) => (.error (.proto e), { c with frames := frames }.fail (.proto e))
    | (.ok (), frames) => (.ok (), { c with frames := frames })

/-- `AgentConnection::Route`. -/
def route (Q : Crypto K) (c : AgentOpening K) (s : KeyedSession K) (serverNonce : HandshakeNonce) :
    AgentOpening K :=
  if c.rest.isSome ∨ c.stage ≠ .awaitRoute then c
  else { c with attempt := some (.create Q s serverNonce c.ceiling), stage := .handshake }

/-- `AgentConnection::RouteUnknown`. -/
def routeUnknown (Q : Crypto K) (c : AgentOpening K) (localSecret : K)
    (serverNonce : HandshakeNonce) : AgentOpening K :=
  if c.rest.isSome ∨ c.stage ≠ .awaitRoute then c
  else
    { c with
      attempt := some (.forUnknown Q localSecret c.helloId serverNonce c.ceiling)
      stage := .handshake }

/-- `ConnectionBase::HandshakeExpired`. -/
def handshakeExpired (c : AgentOpening K) (now : Timestamp) : Bool :=
  (c.rest.bind AgentConnection.channel).isNone && now ≥ c.started + handshakeTimeout

/-- Whether a Hello, parsed once more, says the client takes snapshots. -/
def offersGrid (hello : Bytes) : Bool :=
  match (do let _ ← parseMessageType; parseHello : Reader HelloMessage) hello with
  | .ok (message, _) =>
    message.options.options.any fun option =>
      option.type == tlvGridCapable && option.value.length == 2 && decodeBE option.value == 1
  | .error _ => false

/-- `AgentConnection::PumpHello`. -/
def pumpHello (c : AgentOpening K) (s : KeyedSession K) : Pumped K :=
  match c.frames.next with
  | (.error e, frames) => { c with frames := frames }.refuse s (.proto e)
  | (.ok none, frames) => (.ok .idle, { c with frames := frames }, s)
  | (.ok (some frame), frames) =>
    let c := { c with frames := frames }
    if frame.header.epoch ≠ cleartextEpoch then c.refuse s (.preAuth .unexpectedMessage)
    else
      match peekHelloSessionId frame.body with
      | .error e => c.refuse s (.preAuth e.error)
      | .ok id =>
        (.ok (.needsSession id),
          { c with
            hello := frame.body
            helloId := id
            helloGridCapable := c.helloGridCapable || offersGrid frame.body
            stage := .awaitRoute }, s)

/-- `ConnectionBase::FrameCleartext`. -/
def frameCleartext (body : Bytes) : Bytes :=
  encodeBE 4 body.length ++ encodeBE 1 cleartextEpoch ++ body

/-- The completed branch of `AgentConnection::PumpHandshake`. -/
def completed (P : KeySchedule K) (c : AgentOpening K) (s : KeyedSession K) (attempt : Attempt K)
    (written : Bytes) : Pumped K :=
  match attempt.finish s with
  | (.error e, s) => c.refuse s (.stream e)
  | (.ok result, s) =>
    let frames (keys : ConnectionKeys K) :=
      makeDirectionFrames P keys .agent maxFramesPerEpoch maxBytesPerEpoch
    let rest := { AgentConnection.create (K := K) c.started c.helloGridCapable with
      stage := .awaitResume
      negotiatedVersion := result.version
      current := some (frames result.keys)
      fallback := result.fallbackKeys.map frames
      handle := some 0 }
    (.ok (if written.isEmpty then .idle else .sendFrame (frameCleartext written)),
      { c with
        frames := c.frames.raiseLimit maxFrame
        attempt := none
        rest := some rest },
      { s with toAgentSession := s.toAgentSession.setGridInfo result.version c.helloGridCapable })

/-- `AgentConnection::PumpHandshake`, with the body it takes. -/
def handshakeBody (P : KeySchedule K) (Q : Crypto K) (c : AgentOpening K) (s : KeyedSession K)
    (body : Bytes) (out : Nat) : Pumped K :=
  match c.attempt with
  | none => (.ok .idle, c, s)
  | some attempt =>
    match attempt.handle Q s body (min (out - headerSize) maxHandshakeFrame) with
    | (.error e, attempt) => { c with attempt := some attempt }.refuse s (.preAuth e.error)
    | (.ok step, attempt) =>
      let c := { c with attempt := some attempt }
      if step.complete then c.completed P s attempt step.written
      else if step.written.isEmpty then (.ok .idle, c, s)
      else (.ok (.sendFrame (frameCleartext step.written)), c, s)

/-- `AgentConnection::PumpHandshake`: the Hello kept from before the routing first, then what comes
off the wire. -/
def pumpHandshake (P : KeySchedule K) (Q : Crypto K) (c : AgentOpening K) (s : KeyedSession K)
    (out : Nat) : Pumped K :=
  if !c.helloAnswered then { c with helloAnswered := true }.handshakeBody P Q s c.hello out
  else
    match c.frames.next with
    | (.error e, frames) => { c with frames := frames }.refuse s (.proto e)
    | (.ok none, frames) => (.ok .idle, { c with frames := frames }, s)
    | (.ok (some frame), frames) =>
      let c := { c with frames := frames }
      if frame.header.epoch ≠ cleartextEpoch then c.refuse s (.preAuth .unexpectedMessage)
      else c.handshakeBody P Q s frame.body out

-- Frames are sealed from the Resume on: `sealedView` says which sealed frame a frame off the wire is.
section Carried
variable [DecidableEq K] (sealedView : ClearFrame → FrameView K) (P : KeySchedule K)

omit [DecidableEq K] in
/-- `Pump` when the frames cannot be told apart any more. -/
def pumpGarbled (c : AgentConnection K) (s : AgentSession K) (now : Timestamp) (e : ProtoError) :
    AgentConnection.Pumped K :=
  let failing := (.error (c.failed.getD (.proto e)), c.fail (.proto e), s)
  match c.stage with
  | .awaitSnapshot => c.guarded s c.supplySnapshotDeadline now fun _ _ => failing
  | .live => c.guarded s c.gridAppliedDeadline now fun _ _ => failing
  | _ => failing

/-- `Pump` from the Resume on: the frames there are until one is an event, then a poll. -/
def pumpCarried (now : Timestamp) (out scratch : Nat) :
    (fuel : Nat) → FrameStream → AgentConnection K → AgentSession K →
      FrameStream × AgentConnection.Pumped K
  | 0, frames, c, s => (frames, .ok .idle, c, s)
  | fuel + 1, frames, c, s =>
    match frames.next with
    | (.error e, frames) => (frames, pumpGarbled c s now e)
    | (.ok none, frames) => (frames, c.onIdle P s now out scratch)
    | (.ok (some frame), frames) =>
      match c.onFrame P s now (sealedView frame) with
      | (.ok .idle, c', s') =>
        -- a Resume that comes to a snapshot and came alone is the end of it
        if c.stage = .awaitResume ∧ c'.stage = .awaitSnapshot ∧ frames.buffered = 0 then
          (frames, .ok .idle, c', s')
        else pumpCarried now out scratch fuel frames c' s'
      | pumped => (frames, pumped)

/-- `AgentConnection::Pump`. -/
def pump (Q : Crypto K) (c : AgentOpening K) (s : KeyedSession K) (now : Timestamp)
    (out scratch : Nat) : Pumped K :=
  match c.failed with
  | some e => (.error e, c, s)
  | none =>
    if out < connectionOutSize ∨ scratch < connectionScratchSize then
      (.error (.proto .bufferTooSmall), c, s)
    else if c.handshakeExpired now then c.refuse s (.stream .handshakeTimeout)
    else
      match c.rest with
      | some rest =>
        let (frames, event, rest, session) := pumpCarried sealedView P now out scratch
          (c.frames.held.length + 1) c.frames rest s.toAgentSession
        (event.map .carried, { c with frames := frames, failed := rest.failed, rest := some rest },
          { s with toAgentSession := session })
      | none =>
        match c.stage with
        | .awaitHello => c.pumpHello s
        | .awaitRoute => (.ok (.needsSession c.helloId), c, s)
        | .handshake => c.pumpHandshake P Q s out

end Carried

/-- `AgentConnection::Close`. -/
def close (c : AgentOpening K) (s : KeyedSession K) (now : Timestamp) : KeyedSession K :=
  match c.rest with
  | some rest => { s with toAgentSession := rest.close s.toAgentSession now }
  | none => s

end AgentOpening

/-- What happens to a connection, and to its session from elsewhere. -/
inductive OpeningAct (K : Type) where
  | onBytes (chunk : Bytes)
  | pump (now : Timestamp) (out scratch : Nat)
  | route (serverNonce : HandshakeNonce)
  | routeUnknown (localSecret : K) (serverNonce : HandshakeNonce)
  | close (now : Timestamp)
  /-- The shell, a timer or another connection of the session. -/
  | elsewhere (change : KeyedSession K → KeyedSession K)

/-- A connection, the session it may be routed to, and the errors it has returned. -/
structure Encounter (K : Type) where
  connection : AgentOpening K
  session : KeyedSession K
  errors : List SessionError

namespace Encounter
variable {K : Type} [DecidableEq K] (sealedView : ClearFrame → FrameView K) (P : KeySchedule K)
  (Q : Crypto K)

omit [DecidableEq K] in
/-- The errors once a call has returned `result`. -/
def noting {α : Type} (errors : List SessionError) : Except SessionError α → List SessionError
  | .error e => e :: errors
  | .ok _ => errors

/-- One call on the connection, or one change of the session from elsewhere. -/
def step (v : Encounter K) : OpeningAct K → Option (Encounter K)
  | .onBytes chunk =>
    let (result, c) := v.connection.onBytes chunk
    some { v with connection := c, errors := noting v.errors result }
  | .pump now out scratch =>
    let (result, c, s) := v.connection.pump sealedView P Q v.session now out scratch
    some ⟨c, s, noting v.errors result⟩
  | .route serverNonce => some { v with connection := v.connection.route Q v.session serverNonce }
  | .routeUnknown localSecret serverNonce =>
    some { v with connection := v.connection.routeUnknown Q localSecret serverNonce }
  | .close now => some { v with session := v.connection.close v.session now }
  | .elsewhere change => some { v with session := change v.session }

end Encounter

/-- What a session is after the changes from elsewhere alone. -/
def elsewhere {K : Type} (s : KeyedSession K) : List (OpeningAct K) → KeyedSession K
  | [] => s
  | .elsewhere change :: acts => elsewhere (change s) acts
  | _ :: acts => elsewhere s acts

/-- A session nothing else touches is as it was. -/
lemma elsewhere_of_own {K : Type} {acts : List (OpeningAct K)}
    (h : ∀ change, .elsewhere change ∉ acts) (s : KeyedSession K) : elsewhere s acts = s := by
  induction acts with
  | nil => rfl
  | cons a acts ih =>
    have hacts := ih fun change hmem => h change (List.mem_cons_of_mem _ hmem)
    cases a with
    | elsewhere change => exact absurd List.mem_cons_self (h change)
    | _ => exact hacts

namespace AgentOpening
variable {K : Type} (Q : Crypto K)

/-- The body the next `PumpHandshake` takes. -/
def nextBody (c : AgentOpening K) : Option Bytes :=
  if !c.helloAnswered then some c.hello
  else
    match c.frames.next with
    | (.ok (some frame), _) => some frame.body
    | _ => none

/-- Whether the peer's next message is an Auth with a valid `tag_c`, to a handshake that is no
decoy's. -/
def proves (c : AgentOpening K) : Bool :=
  match c.attempt, c.nextBody with
  | some attempt, some body =>
    !attempt.decoy &&
      match (do let type ← parseMessageType; let auth ← parseAuth; return (type, auth) :
          Reader (MessageType × AuthMessage)) body with
      | .ok ((.auth, auth), _) =>
        attempt.shake.script.verify Q attempt.shake.auth clientTagLabel auth.clientTag
      | _ => false
  | _, _ => false

end AgentOpening

/-- The peer never produces a valid tag. -/
def Unproven {K : Type} (Q : Crypto K) (v : Encounter K) : OpeningAct K → Prop
  | .pump _ _ _ => v.connection.proves Q = false
  | _ => True

/-- No error met before authentication ends a session. -/
lemma SessionError.preAuth_mild (e : ProtoError) :
    (SessionError.preAuth e).disposition ≠ .killSession := by
  cases e <;> decide

/-- What a frame is refused for. -/
lemma readFrame_error {buffer : Bytes} {maxBodyLength : Nat} {e : ProtoError}
    (h : readFrame buffer maxBodyLength = .error e) :
    e = .truncated ∨ e = .lengthLimitExceeded ∨ e = .malformedField := by
  unfold readFrame at h
  cases hclear : clearFrame maxBodyLength buffer with
  | ok r => rw [hclear] at h; cases h
  | error e' =>
    rw [hclear] at h
    cases h
    rcases Reader.bind_eq_error hclear with hheader | ⟨header, left, -, hbody⟩
    · rcases Reader.bind_eq_error hheader with hlength | ⟨length, left, -, hrest⟩
      · exact .inl (readBE_eq_error hlength)
      · rcases Reader.bind_eq_error hrest with hepoch | ⟨_, _, -, hdone⟩
        · exact .inl (readBE_eq_error hepoch)
        · cases hdone
    · dsimp only at hbody
      split at hbody
      · cases hbody; exact .inr (.inl rfl)
      · split at hbody
        · cases hbody; exact .inr (.inr rfl)
        · rcases Reader.bind_eq_error hbody with hbytes | ⟨_, _, -, hdone⟩
          · exact .inl (readBytes_eq_error hbytes)
          · cases hdone

/-- What the frames cannot be told apart for never ends a session. -/
lemma next_error_mild {f f' : FrameStream} {e : ProtoError} (h : f.next = (.error e, f')) :
    (SessionError.proto e).disposition ≠ .killSession := by
  simp only [FrameStream.next] at h
  split at h
  next => cases h
  next e' _ hread =>
    cases h
    rcases readFrame_error hread with rfl | rfl | rfl <;> decide
  next => cases h

namespace AgentOpening
variable {K : Type}

/-- A connection whose peer has proved nothing: it holds no session, and what it failed with ends
none. -/
structure Stranger (c : AgentOpening K) : Prop where
  rest : c.rest = none
  mild : ∀ e, c.failed = some e → e.disposition ≠ .killSession

/-- A call that left the session alone and its connection a stranger's. -/
structure Kept (s : KeyedSession K) (out : Pumped K) : Prop where
  stranger : out.2.1.Stranger
  session : out.2.2 = s
  mild : ∀ e, out.1 = .error e → e.disposition ≠ .killSession

variable {c : AgentOpening K} {s : KeyedSession K}

/-- A connection that was just made is a stranger. -/
lemma create_stranger (frameStorage : Nat) (now : Timestamp) (ceiling : UInt16) :
    (create (K := K) frameStorage now ceiling).Stranger :=
  ⟨rfl, fun _ h => (by cases h)⟩

/-- What a stranger is does not depend on the frames, the Hello or the handshake. -/
lemma Stranger.same (h : c.Stranger) {c' : AgentOpening K} (rest : c'.rest = c.rest)
    (failed : c'.failed = c.failed) : c'.Stranger where
  rest := rest.trans h.rest
  mild := by
    intro e he
    exact h.mild e (failed ▸ he)

/-- Whatever a stranger failed of ends no session. -/
lemma Stranger.failing (h : c.Stranger) {e : SessionError} (mild : e.disposition ≠ .killSession) :
    (c.failed.getD e).disposition ≠ .killSession := by
  cases hfailed : c.failed with
  | none => exact mild
  | some e' => exact h.mild e' hfailed

/-- A stranger that fails mildly stays one. -/
lemma Stranger.fail (h : c.Stranger) {e : SessionError} (mild : e.disposition ≠ .killSession) :
    (c.fail e).Stranger where
  rest := by rw [AgentOpening.fail, h.rest]; rfl
  mild := by
    intro e' he
    rw [← Option.some.inj he]
    exact h.failing mild

/-- A stranger is refused without the session hearing of it. -/
lemma Stranger.refuse (h : c.Stranger) {e : SessionError} (mild : e.disposition ≠ .killSession) :
    Kept s (c.refuse s e) where
  stranger := h.fail mild
  session := by
    simp only [AgentOpening.refuse, h.rest]
    split
    next hrest => cases hrest
    next => rfl
  mild := by
    intro e' he
    cases he
    exact h.failing mild

/-- Bytes make no stranger anything else. -/
lemma Stranger.onBytes (h : c.Stranger) (chunk : Bytes) :
    (c.onBytes chunk).2.Stranger ∧
      ∀ e, (c.onBytes chunk).1 = .error e → e.disposition ≠ .killSession := by
  unfold AgentOpening.onBytes
  split
  next e hfailed =>
    refine ⟨h, fun e' he => ?_⟩
    cases he
    exact h.mild e hfailed
  next hfailed =>
    split
    next e frames happend =>
      have hmild : (SessionError.proto e).disposition ≠ .killSession := by
        simp only [FrameStream.append] at happend
        split at happend
        · cases happend; decide
        · cases happend
      refine ⟨Stranger.fail (by exact h.same rfl rfl) hmild, fun e' he => ?_⟩
      cases he
      exact hmild
    next => exact ⟨h.same rfl rfl, fun e he => (by cases he)⟩

/-- A stranger that has nothing to do leaves the session alone. -/
lemma Stranger.idle (h : c.Stranger) (event : OpeningEvent K) : Kept s (.ok event, c, s) :=
  ⟨h, rfl, fun _ he => (by cases he)⟩

/-- Nor does a Hello touch the session. -/
lemma Stranger.pumpHello (h : c.Stranger) : Kept s (c.pumpHello s) := by
  unfold AgentOpening.pumpHello
  split
  next e frames hnext => exact Stranger.refuse (by exact h.same rfl rfl) (next_error_mild hnext)
  next frames hnext => exact Stranger.idle (by exact h.same rfl rfl) _
  next frame frames hnext =>
    dsimp only
    split
    next => exact Stranger.refuse (by exact h.same rfl rfl) (SessionError.preAuth_mild _)
    next =>
      split
      next e _ => exact Stranger.refuse (by exact h.same rfl rfl) (SessionError.preAuth_mild _)
      next id _ => exact Stranger.idle (by exact h.same rfl rfl) _

variable (P : KeySchedule K) (Q : Crypto K)

/-- A handshake that completes for a stranger is a decoy's, and a decoy is handed nothing. -/
lemma Stranger.handshakeBody (h : c.Stranger) {body : Bytes} (out : Nat)
    (unproven : ∀ attempt fields auth rest, c.attempt = some attempt → attempt.decoy = false →
      parseMessageType body = .ok (.auth, fields) → parseAuth fields = .ok (auth, rest) →
      attempt.shake.script.verify Q attempt.shake.auth clientTagLabel auth.clientTag = false) :
    Kept s (c.handshakeBody P Q s body out) := by
  unfold AgentOpening.handshakeBody
  split
  next => exact h.idle _
  next attempt hattempt =>
    simp only [Attempt.handle]
    rcases attempt.shake.handle_cases Q (attempt.seen s) body
      (min (out - headerSize) maxHandshakeFrame) with
      ⟨e, shake, hhandle, -, -⟩ | ⟨-, hello, version, -, -, -, hhandle⟩ |
        ⟨-, fields, auth, rest, written, hfields, hauth, hverify, hhandle⟩
    · rw [hhandle]
      exact Stranger.refuse (by exact h.same rfl rfl) (SessionError.preAuth_mild _)
    · rw [hhandle]
      dsimp only
      rw [if_neg Bool.false_ne_true]
      split
      · exact Stranger.idle (by exact h.same rfl rfl) _
      · exact Stranger.idle (by exact h.same rfl rfl) _
    · have hdecoy : attempt.decoy = true := by
        cases hdecoy : attempt.decoy with
        | true => rfl
        | false =>
          have := unproven attempt fields auth rest hattempt hdecoy hfields hauth
          rw [hverify] at this
          cases this
      rw [hhandle]
      dsimp only
      rw [if_pos rfl]
      simp only [completed, Attempt.finish, ServerHandshake.takeResult, hdecoy, if_pos]
      exact Stranger.refuse (by exact h.same rfl rfl) (by decide)

/-- What a body that proves nothing does not hold. -/
lemma unproven_of_proves {attempt : Attempt K} {body : Bytes} (hproves : c.proves Q = false)
    (hattempt : c.attempt = some attempt) (hdecoy : attempt.decoy = false)
    (hbody : c.nextBody = some body) {fields : Bytes} {auth : AuthMessage} {rest : Bytes}
    (htype : parseMessageType body = .ok (.auth, fields))
    (hauth : parseAuth fields = .ok (auth, rest)) :
    attempt.shake.script.verify Q attempt.shake.auth clientTagLabel auth.clientTag = false := by
  have hread : (do let type ← parseMessageType; let auth ← parseAuth; return (type, auth) :
      Reader (MessageType × AuthMessage)) body = .ok ((.auth, auth), rest) := by
    change Except.bind (parseMessageType body) _ = _
    rw [htype]
    change Except.bind (parseAuth fields) _ = _
    rw [hauth]
    rfl
  simpa only [proves, hattempt, hbody, hdecoy, hread, Bool.not_false, Bool.true_and] using hproves

/-- Nor does a proof that does not hold. -/
lemma Stranger.pumpHandshake (h : c.Stranger) (out : Nat) (hproves : c.proves Q = false) :
    Kept s (c.pumpHandshake P Q s out) := by
  unfold AgentOpening.pumpHandshake
  split
  next hanswered =>
    refine Stranger.handshakeBody P Q (by exact h.same rfl rfl) out ?_
    intro attempt fields auth rest hattempt hdecoy
    exact unproven_of_proves Q hproves hattempt hdecoy (by rw [nextBody, if_pos hanswered])
  next hanswered =>
    split
    next e frames hnext => exact Stranger.refuse (by exact h.same rfl rfl) (next_error_mild hnext)
    next frames hnext => exact Stranger.idle (by exact h.same rfl rfl) _
    next frame frames hnext =>
      dsimp only
      split
      next => exact Stranger.refuse (by exact h.same rfl rfl) (SessionError.preAuth_mild _)
      next =>
        refine Stranger.handshakeBody P Q (by exact h.same rfl rfl) out ?_
        intro attempt fields auth rest hattempt hdecoy
        exact unproven_of_proves Q hproves hattempt hdecoy
          (by rw [nextBody, if_neg hanswered, hnext])

/-- A pump of a connection whose peer has not proved itself leaves the session alone. -/
lemma Stranger.pump [DecidableEq K] (sealedView : ClearFrame → FrameView K) (h : c.Stranger)
    (now : Timestamp) (out scratch : Nat) (hproves : c.proves Q = false) :
    Kept s (c.pump sealedView P Q s now out scratch) := by
  unfold AgentOpening.pump
  split
  next e hfailed =>
    refine ⟨h, rfl, fun e' he => ?_⟩
    cases he
    exact h.mild e hfailed
  next hfailed =>
    split
    next =>
      refine ⟨h, rfl, fun e' he => ?_⟩
      cases he
      decide
    next =>
      split
      next => exact h.refuse (by decide)
      next =>
        rw [h.rest]
        dsimp only
        split
        next => exact h.pumpHello
        next => exact h.idle _
        next => exact h.pumpHandshake P Q out hproves

/-- Routing leaves a stranger one. -/
lemma Stranger.route (h : c.Stranger) (s : KeyedSession K) (serverNonce : HandshakeNonce) :
    (c.route Q s serverNonce).Stranger := by
  unfold AgentOpening.route
  split
  · exact h
  · exact h.same rfl rfl

/-- So does routing to no session. -/
lemma Stranger.routeUnknown (h : c.Stranger) (localSecret : K) (serverNonce : HandshakeNonce) :
    (c.routeUnknown Q localSecret serverNonce).Stranger := by
  unfold AgentOpening.routeUnknown
  split
  · exact h
  · exact h.same rfl rfl

/-- A stranger has nothing to let go of. -/
lemma Stranger.close (h : c.Stranger) (s : KeyedSession K) (now : Timestamp) : c.close s now = s := by
  rw [AgentOpening.close, h.rest]

end AgentOpening

namespace Encounter
variable {K : Type}

/-- The connection is a stranger's and what it returned ends no session. -/
structure Unmoved (v : Encounter K) : Prop where
  stranger : v.connection.Stranger
  mild : ∀ e ∈ v.errors, e.disposition ≠ .killSession

/-- Errors that end no session are noted beside such. -/
lemma noting_mild {α : Type} {errors : List SessionError} {result : Except SessionError α}
    (h : ∀ e ∈ errors, e.disposition ≠ .killSession)
    (mild : ∀ e, result = .error e → e.disposition ≠ .killSession) :
    ∀ e ∈ noting errors result, e.disposition ≠ .killSession := by
  intro e he
  cases result with
  | ok r => exact h e he
  | error e' =>
    rcases List.mem_cons.mp he with rfl | he
    · exact mild e rfl
    · exact h e he

variable [DecidableEq K] (sealedView : ClearFrame → FrameView K) (P : KeySchedule K) (Q : Crypto K)

/-- One call on a stranger's connection: the session moves only from elsewhere. -/
lemma step_unmoved {v t : Encounter K} {a : OpeningAct K} (h : v.Unmoved) (unproven : Unproven Q v a)
    (hstep : v.step sealedView P Q a = some t) :
    t.Unmoved ∧ t.session = elsewhere v.session [a] := by
  cases a with
  | onBytes chunk =>
    cases hstep
    obtain ⟨hstranger, hmild⟩ := h.stranger.onBytes chunk
    exact ⟨⟨hstranger, noting_mild h.mild hmild⟩, rfl⟩
  | pump now out scratch =>
    cases hstep
    have hkept := h.stranger.pump (s := v.session) P Q sealedView now out scratch unproven
    exact ⟨⟨hkept.stranger, noting_mild h.mild hkept.mild⟩, hkept.session⟩
  | route serverNonce =>
    cases hstep
    exact ⟨⟨h.stranger.route Q v.session serverNonce, h.mild⟩, rfl⟩
  | routeUnknown localSecret serverNonce =>
    cases hstep
    exact ⟨⟨h.stranger.routeUnknown Q localSecret serverNonce, h.mild⟩, rfl⟩
  | close now =>
    cases hstep
    exact ⟨⟨h.stranger, h.mild⟩, h.stranger.close v.session now⟩
  | elsewhere change =>
    cases hstep
    exact ⟨⟨h.stranger, h.mild⟩, rfl⟩

omit [DecidableEq K] in
/-- What happens elsewhere happens step by step. -/
lemma elsewhere_cons (s : KeyedSession K) (a : OpeningAct K) (acts : List (OpeningAct K)) :
    elsewhere s (a :: acts) = elsewhere (elsewhere s [a]) acts := by
  cases a <;> rfl

/-- A run of calls in which the peer proves nothing. -/
lemma run_unmoved {v t : Encounter K} {acts : List (OpeningAct K)}
    (run : Run (step sealedView P Q) (Unproven Q) v acts t) (h : v.Unmoved) :
    t.Unmoved ∧ t.session = elsewhere v.session acts := by
  induction run with
  | nil v => exact ⟨h, rfl⟩
  | cons unproven hstep _ ih =>
    obtain ⟨hunmoved, hsession⟩ := step_unmoved sealedView P Q h unproven hstep
    obtain ⟨hend, hrest⟩ := ih hunmoved
    exact ⟨hend, by rw [hrest, hsession, ← elsewhere_cons]⟩

end Encounter

/-- Until the peer produces a valid tag, no order of chunks, pumps, routings, decoys and closes
changes the session: it is what the rest of the agent makes of it, and if that does nothing it is as it
was. No error returned on the way ends a session, and the connection never comes to hold one. -/
theorem pre_auth_immutable {K : Type} [DecidableEq K] (sealedView : ClearFrame → FrameView K)
    (P : KeySchedule K) (Q : Crypto K) (frameStorage : Nat) (now : Timestamp) (ceiling : UInt16)
    (s : KeyedSession K) (acts : List (OpeningAct K)) (t : Encounter K)
    (run : Run (Encounter.step sealedView P Q) (Unproven Q)
      ⟨AgentOpening.create frameStorage now ceiling, s, []⟩ acts t) :
    t.session = elsewhere s acts ∧
    ((∀ change, .elsewhere change ∉ acts) → t.session = s) ∧
    (∀ e ∈ t.errors, e.disposition ≠ .killSession) ∧
    t.connection.rest = none := by
  have hstart : (⟨AgentOpening.create frameStorage now ceiling, s, []⟩ : Encounter K).Unmoved :=
    ⟨AgentOpening.create_stranger frameStorage now ceiling, fun _ h => (by cases h)⟩
  obtain ⟨hunmoved, hsession⟩ := Encounter.run_unmoved sealedView P Q run hstart
  refine ⟨hsession, fun hown => ?_, hunmoved.mild, hunmoved.stranger.rest⟩
  rw [hsession]
  exact elsewhere_of_own hown s

section Sample

/-- A session to run the model on. -/
def sampleSession : KeyedSession Bytes where
  toAgentSession := .create [3] [] 0 {}
  id := .fill sessionIdSize 1
  auth := [2]
  seen := .empty

/-- A key schedule that derives nothing, for a run that never comes to use it. -/
def idleSchedule : KeySchedule Bytes := ⟨fun k _ => k, id, fun k _ _ => ⟨k, k, [], []⟩, []⟩

/-- A peer that says Hello to a session whose key it does not hold and then makes a tag up. -/
def guessing : List (OpeningAct Bytes) :=
  let hello := (sampleClient.hello .capable).bytes
  let auth := encodeBE 1 3 ++ List.replicate macSize 9
  let pump : OpeningAct Bytes := .pump 1 connectionOutSize connectionScratchSize
  [.onBytes ((AgentOpening.frameCleartext hello).take 7), pump,
    .onBytes ((AgentOpening.frameCleartext hello).drop 7), pump, .route (sampleNonce 5), pump,
    .onBytes (AgentOpening.frameCleartext auth), pump, pump, .close 2]

instance unprovenDecidable {K : Type} (Q : Crypto K) (v : Encounter K) (a : OpeningAct K) :
    Decidable (Unproven Q v a) :=
  match a with
  | .pump _ _ _ => inferInstanceAs (Decidable (v.connection.proves Q = false))
  | .onBytes _ | .route _ | .routeUnknown _ _ | .close _ | .elsewhere _ => .isTrue trivial

/-- Two wrong tags are refused, and the session is as it was. -/
theorem pre_auth_immutable_guessing :
    ∃ t, Run (Encounter.step (fun frame => ⟨frame.header, ⟨[], ([], 0), frame.header, []⟩⟩)
        idleSchedule plainCrypto) (Unproven plainCrypto)
        ⟨AgentOpening.create 100000 0 2, sampleSession, []⟩ guessing t ∧
      t.errors = [.preAuth .authenticationFailed, .preAuth .authenticationFailed] ∧
      t.session = sampleSession := by
  have hrun : (exec (guarded (Encounter.step
      (fun frame => ⟨frame.header, ⟨[], ([], 0), frame.header, []⟩⟩) idleSchedule plainCrypto)
      (Unproven plainCrypto)) ⟨AgentOpening.create 100000 0 2, sampleSession, []⟩ guessing).map
        Encounter.errors = some [.preAuth .authenticationFailed, .preAuth .authenticationFailed] := by
    decide +kernel
  obtain ⟨t, ht, herrors⟩ := Option.map_eq_some_iff.mp hrun
  have hguessing := Run.of_guarded ht
  refine ⟨t, hguessing, herrors, ?_⟩
  refine (pre_auth_immutable _ _ _ _ _ _ _ _ _ hguessing).2.1 ?_
  intro change hmem
  simp [guessing] at hmem

end Sample

end Zet.Session
