import Mathlib.Data.Option.Basic
import Mathlib.Logic.Function.Basic
import Zet.Lib.Run
import Zet.Session.Connection

/-!
# A client, an agent and the connections between them

One honest client and one honest agent over any number of connections, which the client opens one
after another. A connection carries frames in order in each direction. It can be abandoned at any
point: what is on it then may still reach the agent, at any later time, and nothing on it reaches the
client any more.

Every step is one call of the functions of `Zet.Session.Connection`, on whatever state the earlier
steps left; steps of the two ends and of all connections interleave freely. A connection that has
failed is not called again: `Pump` would only repeat its error. The rest of the state is
history: what each end was given to send and has delivered, the generation the client's cursor counts
in, with what position each frame of the client was sent, and the errors the calls returned.
-/

namespace Zet.Net
open Zet.Core Zet.Wire Zet.Lib Zet.Session

/-- A frame on its way to the agent, with the client's position when it was sealed: the output
generation its cursor counted in, and how much of it the client held. -/
structure Upward (K : Type) where
  frame : FrameView K
  gen : Nat
  pos : Nat

/-- A frame on its way to the client, with the output generation it was sealed in. -/
structure Downward (K : Type) where
  frame : FrameView K
  gen : Nat

/-- One connection. -/
structure Link (K : Type) where
  client : ClientConnection K
  serverNonce : Nat
  /-- The agent's end, once the Hello has been routed. -/
  agent : Option (AgentConnection K)
  /-- The offset of an AuthOk the client has not read yet. -/
  authOk : Option Nat
  toAgent : List (Upward K)
  toClient : List (Downward K)

/-- What the two ends agreed on: neither changes in the life of a client process. -/
structure Config where
  version : Nat
  gridCapable : Bool
deriving DecidableEq, Repr

/-- The whole system. -/
structure State (K : Type) where
  agent : AgentSession K
  client : ClientSession K
  links : Nat → Link K
  /-- How many connections the client has opened; the last one is the one it reads. -/
  opened : Nat
  /-- The connection whose Resume the agent attached last. -/
  attached : Option Nat
  /-- The output generation the client's receive cursor counts in. -/
  cursorGen : Nat
  /-- What the ring was given in the current output generation. -/
  agentLog : Bytes
  /-- What the agent's writes reported taken in the current output generation. -/
  agentTaken : Bytes
  /-- What the client's writes reported taken. -/
  clientTaken : Bytes
  /-- What the agent was delivered and has not given back. -/
  agentGot : Bytes
  /-- What the client was delivered in the generation its cursor counts in. -/
  clientGot : Bytes
  /-- The errors the agent's calls returned, and the client's. -/
  agentErrors : List SessionError
  clientErrors : List SessionError

/-- What can happen. -/
inductive Action where
  /-- The client abandons its connection and opens another. -/
  | clientOpen (clientNonce serverNonce : Nat) (snapshotBuf : Bytes) (now : Timestamp)
  /-- The agent routes the Hello of a connection. -/
  | route (i : Nat) (now : Timestamp)
  /-- The client has proved itself on a connection. -/
  | completeHandshake (i : Nat)
  /-- The client reads the AuthOk of its connection and resumes. -/
  | sendResume (now : Timestamp) (out : Nat)
  /-- The agent takes the next frame of a connection. -/
  | agentFrame (i : Nat) (now : Timestamp)
  | agentIdle (i : Nat) (now : Timestamp) (out scratch : Nat)
  | supplySnapshot (i : Nat) (now : Timestamp) (snapshot : Bytes) (scrollbackLen flags : Nat)
  | agentClose (i : Nat) (now : Timestamp)
  /-- The client takes the next frame of its connection. -/
  | clientFrame (now : Timestamp)
  | clientIdle (now : Timestamp) (out scratch : Nat)
  | confirmApply (gen : Nat)
  | denyApply (gen : Nat)
  | queueResize (size : ResizeMessage)
  | clientClose (now : Timestamp)
  | clientWrite (bytes : Bytes)
  | agentWrite (bytes : Bytes)
  | inputDelivered (count : Nat)
  /-- The pty's queue is full: the last bytes count as not received and the connection is closed. -/
  | inputRejected (i : Nat) (count : Nat) (now : Timestamp)
  | endSession (message : SessionEndMessage)
  | agentTimer (now : Timestamp)
  | agentGates (i : Nat) (sendOpen readOpen : Bool) (now : Timestamp)
  | clientGates (sendOpen readOpen : Bool) (now : Timestamp)

/-- What the agent and its side of the network do. -/
def Action.byAgent : Action → Bool
  | .route .. | .completeHandshake .. | .agentFrame .. | .agentIdle .. | .supplySnapshot ..
  | .agentClose .. | .agentWrite .. | .inputDelivered .. | .inputRejected .. | .endSession ..
  | .agentTimer .. | .agentGates .. => true
  | _ => false

namespace State
variable {K : Type}

/-- The client's connection. -/
def current (s : State K) : Option Nat := if s.opened = 0 then none else some (s.opened - 1)

/-- The state with one connection changed. -/
def putLink (s : State K) (i : Nat) (l : Link K) : State K :=
  { s with links := Function.update s.links i l }

/-- The errors with the result of a call noted. -/
def noted {α : Type} (errors : List SessionError) : Except SessionError α → List SessionError
  | .error e => e :: errors
  | .ok _ => errors

/-- The link with a frame of the client on it, at the client's position. -/
def sendUp (s : State K) (l : Link K) (frame : FrameView K) : Link K :=
  { l with toAgent := l.toAgent ++ [⟨frame, s.cursorGen, s.client.streams.receiveOffset⟩] }

/-- The link with a frame of the agent on it. -/
def sendDown (s : State K) (l : Link K) (frame : FrameView K) : Link K :=
  { l with toClient := l.toClient ++ [⟨frame, s.agent.streams.output.sessionGen⟩] }

/-- The client stops using its connection. -/
def dropClient (s : State K) (now : Timestamp) : State K :=
  match s.current with
  | some i => { s with client := (s.links i).client.close s.client now }
  | none => s

/-- A change of the channel of the client's connection. -/
def onClientChannel (s : State K) (f : Channel K → Channel K) : State K :=
  match s.current with
  | some i =>
    let l := s.links i
    s.putLink i { l with client := { l.client with channel := l.client.channel.map f } }
  | none => s

/-- A change of the channel of an agent connection. -/
def onAgentChannel (s : State K) (i : Nat) (f : Channel K → Channel K) : State K :=
  let l := s.links i
  s.putLink i { l with
    agent := l.agent.map fun (c : AgentConnection K) => { c with channel := c.channel.map f } }

variable [DecidableEq K]

/-- What a call on an agent connection leaves, and what it returned. -/
def agentReturns (s : State K) (i : Nat) (l : Link K) (res : AgentConnection.Pumped K) : State K :=
  let l := { l with agent := some res.2.1 }
  let s := { s with agentErrors := noted s.agentErrors res.1 }
  match res.1 with
  | .ok (.sendFrame frame) => { s with agent := res.2.2 }.putLink i (s.sendDown l frame)
  | .ok (.deliver bytes) =>
    { s with agent := res.2.2, agentGot := s.agentGot ++ bytes }.putLink i l
  | _ => { s with agent := res.2.2 }.putLink i l

omit [DecidableEq K] in
/-- What a call on the client's connection leaves, and what it returned. A whole snapshot restarts
the client's count in the generation it opens. -/
def clientReturns (s : State K) (i : Nat) (l : Link K) (res : ClientConnection.Pumped K) :
    State K :=
  let l := { l with client := res.2.1 }
  let s := { s with clientErrors := noted s.clientErrors res.1 }
  match res.1 with
  | .ok (.sendFrame frame) => { s with client := res.2.2 }.putLink i (s.sendUp l frame)
  | .ok (.deliver bytes) =>
    { s with client := res.2.2, clientGot := s.clientGot ++ bytes }.putLink i l
  | .ok (.applySnapshot _ gen _ _) =>
    { s with client := res.2.2, cursorGen := gen, clientGot := [] }.putLink i l
  | _ => { s with client := res.2.2 }.putLink i l

/-- One step of the system. -/
def step (P : KeySchedule K) (cfg : Config) (s : State K) : Action → Option (State K)
  | .clientOpen clientNonce serverNonce snapshotBuf now =>
    let s := s.dropClient now
    some ({ s with opened := s.opened + 1 }.putLink s.opened
      { client := .create s.client clientNonce now snapshotBuf, serverNonce := serverNonce
        agent := none, authOk := none, toAgent := [], toClient := [] })
  | .route i now =>
    let l := s.links i
    if i < s.opened ∧ l.agent.isNone then
      some (s.putLink i { l with
        agent := some ((AgentConnection.create now cfg.gridCapable).route s.agent l.serverNonce) })
    else none
  | .completeHandshake i => do
    let l := s.links i
    let c ← l.agent
    guard c.failed.isNone
    let (offset, c, agent) ← c.completeHandshake P s.agent l.client.clientNonce cfg.version
    some ({ s with agent := agent }.putLink i { l with agent := some c, authOk := some offset })
  | .sendResume now out => do
    let i ← s.current
    let l := s.links i
    guard l.client.failed.isNone
    let offset ← l.authOk
    some (s.clientReturns i { l with authOk := none }
      (l.client.sendResume P s.client now out cfg.version l.serverNonce offset))
  | .agentFrame i now => do
    let l := s.links i
    let c ← l.agent
    guard c.failed.isNone
    -- until then what it reads is the handshake
    guard (c.stage ∈ [.awaitResume, .awaitSnapshot, .live])
    match l.toAgent with
    | [] => none
    | up :: rest =>
      let res := c.onFrame P s.agent now up.frame
      let s' := s.agentReturns i { l with toAgent := rest } res
      -- a call that changes the handle attached the connection
      some { s' with attached := if res.2.1.handle = c.handle then s.attached else some i }
  | .agentIdle i now out scratch => do
    let l := s.links i
    let c ← l.agent
    guard c.failed.isNone
    some (s.agentReturns i l (c.onIdle P s.agent now out scratch))
  | .supplySnapshot i now snapshot scrollbackLen flags => do
    let l := s.links i
    let c ← l.agent
    let (c', agent) := c.supplySnapshot s.agent now snapshot scrollbackLen flags
    -- a call that moves to another generation starts its log afresh
    let fresh := agent.streams.output.sessionGen ≠ s.agent.streams.output.sessionGen
    some ({ s with
      agent := agent
      agentLog := if fresh then [] else s.agentLog
      agentTaken := if fresh then [] else s.agentTaken }.putLink i { l with agent := some c' })
  | .agentClose i now => do
    let c ← (s.links i).agent
    some { s with agent := c.close s.agent now }
  | .clientFrame now => do
    let i ← s.current
    let l := s.links i
    guard l.client.failed.isNone
    guard (l.client.stage = .live)
    match l.toClient with
    | [] => none
    | down :: rest =>
      some (s.clientReturns i { l with toClient := rest } (l.client.onFrame P s.client now down.frame))
  | .clientIdle now out scratch => do
    let i ← s.current
    let l := s.links i
    guard l.client.failed.isNone
    some (s.clientReturns i l (l.client.onIdle P s.client now out scratch))
  | .confirmApply gen => do
    let i ← s.current
    let l := s.links i
    let (c, client) := l.client.confirmApply s.client gen
    some ({ s with client := client }.putLink i { l with client := c })
  | .denyApply gen => do
    let i ← s.current
    let l := s.links i
    some (s.putLink i { l with client := l.client.denyApply gen })
  | .queueResize size => do
    let i ← s.current
    let l := s.links i
    some (s.putLink i { l with client := l.client.queueResize size })
  | .clientClose now => some (s.dropClient now)
  | .clientWrite bytes =>
    match s.client.write bytes with
    | (.ok taken, client) =>
      some { s with client := client, clientTaken := s.clientTaken ++ bytes.take taken }
    | (.error _, client) => some { s with client := client }
  | .agentWrite bytes =>
    match s.agent.write bytes with
    | (.ok taken, agent) =>
      let kept := agent.streams.output.end_ - s.agent.streams.output.end_
      some { s with
        agent := agent
        agentLog := s.agentLog ++ bytes.take kept
        agentTaken := s.agentTaken ++ bytes.take taken }
    | (.error _, agent) => some { s with agent := agent }
  | .inputDelivered count => some { s with agent := (s.agent.inputDelivered count).2 }
  | .inputRejected i count now => do
    let c ← (s.links i).agent
    if c.isCurrent s.agent then
      match s.agent.inputRejected count with
      | (true, agent) =>
        some { s with
          agent := c.close agent now
          agentGot := s.agentGot.take (s.agentGot.length - count) }
      | (false, agent) => some { s with agent := c.close agent now }
    else none
  | .endSession message => some { s with agent := s.agent.endWith message }
  | .agentTimer now => some { s with agent := s.agent.onTimer now }
  | .agentGates i sendOpen readOpen now =>
    some (s.onAgentChannel i fun chan => (chan.setSendGate sendOpen).setReadGate readOpen now)
  | .clientGates sendOpen readOpen now =>
    some (s.onClientChannel fun chan => (chan.setSendGate sendOpen).setReadGate readOpen now)

omit [DecidableEq K] in
/-- The frame a call returned to be sent. -/
def sentOf (res : Except SessionError (ConnectionEvent K)) : List (FrameView K) :=
  match res with
  | .ok (.sendFrame frame) => [frame]
  | _ => []

omit [DecidableEq K] in
/-- The bytes a call returned for its caller. -/
def handedOf (res : Except SessionError (ConnectionEvent K)) : Bytes :=
  match res with
  | .ok (.deliver bytes) => bytes
  | _ => []

omit [DecidableEq K] in
/-- The generation of the snapshot a call returned to be applied. -/
def snapshotGenOf (res : Except SessionError (ConnectionEvent K)) : Option Nat :=
  match res with
  | .ok (.applySnapshot _ gen _ _) => some gen
  | _ => none

variable {res : Except SessionError (ConnectionEvent K)}

omit [DecidableEq K] in
/-- A call that returned no frame sent none. -/
lemma sentOf_nil (silent : ∀ frame, res ≠ .ok (.sendFrame frame)) : sentOf res = [] := by
  unfold sentOf
  split
  · next frame => exact absurd rfl (silent frame)
  · rfl

omit [DecidableEq K] in
/-- A call that returned no bytes handed none over. -/
lemma handedOf_nil (nothing : ∀ bytes, res ≠ .ok (.deliver bytes)) : handedOf res = [] := by
  unfold handedOf
  split
  · next bytes => exact absurd rfl (nothing bytes)
  · rfl

omit [DecidableEq K] in
/-- What a call on an agent connection leaves, field by field. -/
lemma agentReturns_eq (s : State K) (i : Nat) (l : Link K) (res : AgentConnection.Pumped K) :
    s.agentReturns i l res =
      { s with
        agent := res.2.2
        agentErrors := noted s.agentErrors res.1
        agentGot := s.agentGot ++ handedOf res.1 }.putLink i
      { l with
        agent := some res.2.1
        toClient := l.toClient ++ (sentOf res.1).map
          fun frame => Downward.mk frame s.agent.streams.output.sessionGen } := by
  rcases res with ⟨res, c, agent⟩
  rcases res with e | event
  · simp [agentReturns, handedOf, sentOf, putLink]
  · cases event <;> simp [agentReturns, handedOf, sentOf, putLink, sendDown]

omit [DecidableEq K] in
/-- What a call on the client's connection leaves, field by field. -/
lemma clientReturns_eq (s : State K) (i : Nat) (l : Link K) (res : ClientConnection.Pumped K) :
    s.clientReturns i l res =
      { s with
        client := res.2.2
        clientErrors := noted s.clientErrors res.1
        cursorGen := (snapshotGenOf res.1).getD s.cursorGen
        clientGot := if (snapshotGenOf res.1).isSome then [] else s.clientGot ++ handedOf res.1
        }.putLink i
      { l with
        client := res.2.1
        toAgent := l.toAgent ++ (sentOf res.1).map
          fun frame => Upward.mk frame s.cursorGen s.client.streams.receiveOffset } := by
  rcases res with ⟨res, c, client⟩
  rcases res with e | event
  · simp [clientReturns, handedOf, sentOf, snapshotGenOf, putLink]
  · cases event <;> simp [clientReturns, handedOf, sentOf, snapshotGenOf, putLink, sendUp]

section
variable {P : KeySchedule K} {cfg : Config} {s s' : State K}

/-- The handshake of a sound connection has been completed. -/
lemma step_completeHandshake {i : Nat} (h : s.step P cfg (.completeHandshake i) = some s') :
    ∃ c res, (s.links i).agent = some c ∧ c.failed = none ∧
      c.completeHandshake P s.agent (s.links i).client.clientNonce cfg.version = some res ∧
      s' = { s with agent := res.2.2 }.putLink i
        { s.links i with agent := some res.2.1, authOk := some res.1 } := by
  simp only [State.step, Option.bind_eq_bind, Option.bind_eq_some_iff, Option.guard_eq_some',
    Option.isNone_iff_eq_none] at h
  obtain ⟨c, hc, -, hfail, res, hres, h⟩ := h
  exact ⟨c, res, hc, hfail, hres, (Option.some.inj h).symm⟩

/-- The client's connection has sent its Resume, or failed to. -/
lemma step_sendResume {now : Timestamp} {out : Nat}
    (h : s.step P cfg (.sendResume now out) = some s') :
    ∃ i offset, s.current = some i ∧ (s.links i).client.failed = none ∧
      (s.links i).authOk = some offset ∧
      s' = s.clientReturns i { s.links i with authOk := none }
        ((s.links i).client.sendResume P s.client now out cfg.version (s.links i).serverNonce
          offset) := by
  simp only [State.step, Option.bind_eq_bind, Option.bind_eq_some_iff, Option.guard_eq_some',
    Option.isNone_iff_eq_none] at h
  obtain ⟨i, hi, -, hfail, offset, hoffset, h⟩ := h
  exact ⟨i, offset, hi, hfail, hoffset, (Option.some.inj h).symm⟩

/-- The agent has taken the next frame of a connection. -/
lemma step_agentFrame {i : Nat} {now : Timestamp}
    (h : s.step P cfg (.agentFrame i now) = some s') :
    ∃ c up rest, (s.links i).agent = some c ∧ c.failed = none ∧
      c.stage ∈ [.awaitResume, .awaitSnapshot, .live] ∧ (s.links i).toAgent = up :: rest ∧
      s' = { s.agentReturns i { s.links i with toAgent := rest }
          (c.onFrame P s.agent now up.frame) with
        attached := if (c.onFrame P s.agent now up.frame).2.1.handle = c.handle then s.attached
          else some i } := by
  simp only [State.step, Option.bind_eq_bind, Option.bind_eq_some_iff, Option.guard_eq_some',
    Option.isNone_iff_eq_none] at h
  obtain ⟨c, hc, -, hfail, -, hstage, h⟩ := h
  split at h
  · cases h
  · next up rest hup => exact ⟨c, up, rest, hc, hfail, hstage, hup, (Option.some.inj h).symm⟩

/-- A sound agent connection has had a turn. -/
lemma step_agentIdle {i out scratch : Nat} {now : Timestamp}
    (h : s.step P cfg (.agentIdle i now out scratch) = some s') :
    ∃ c, (s.links i).agent = some c ∧ c.failed = none ∧
      s' = s.agentReturns i (s.links i) (c.onIdle P s.agent now out scratch) := by
  simp only [State.step, Option.bind_eq_bind, Option.bind_eq_some_iff, Option.guard_eq_some',
    Option.isNone_iff_eq_none] at h
  obtain ⟨c, hc, -, hfail, h⟩ := h
  exact ⟨c, hc, hfail, (Option.some.inj h).symm⟩

/-- The client has taken the next frame of its connection. -/
lemma step_clientFrame {now : Timestamp} (h : s.step P cfg (.clientFrame now) = some s') :
    ∃ i down rest, s.current = some i ∧ (s.links i).client.failed = none ∧
      (s.links i).client.stage = .live ∧ (s.links i).toClient = down :: rest ∧
      s' = s.clientReturns i { s.links i with toClient := rest }
        ((s.links i).client.onFrame P s.client now down.frame) := by
  simp only [State.step, Option.bind_eq_bind, Option.bind_eq_some_iff, Option.guard_eq_some',
    Option.isNone_iff_eq_none] at h
  obtain ⟨i, hi, -, hfail, -, hstage, h⟩ := h
  split at h
  · cases h
  · next down rest hdown => exact ⟨i, down, rest, hi, hfail, hstage, hdown, (Option.some.inj h).symm⟩

/-- The client's connection has had a turn. -/
lemma step_clientIdle {out scratch : Nat} {now : Timestamp}
    (h : s.step P cfg (.clientIdle now out scratch) = some s') :
    ∃ i, s.current = some i ∧ (s.links i).client.failed = none ∧
      s' = s.clientReturns i (s.links i) ((s.links i).client.onIdle P s.client now out scratch) := by
  simp only [State.step, Option.bind_eq_bind, Option.bind_eq_some_iff, Option.guard_eq_some',
    Option.isNone_iff_eq_none] at h
  obtain ⟨i, hi, -, hfail, h⟩ := h
  exact ⟨i, hi, hfail, (Option.some.inj h).symm⟩

end

end State

/-- A link no connection has used. -/
def unusedLink {K : Type} (seed : K) (storage : Bytes) (limits : SessionLimits) : Link K where
  client := .create (.create seed storage 0 limits) 0 0 []
  serverNonce := 0
  agent := none
  authOk := none
  toAgent := []
  toClient := []

/-- The two sessions as the bootstrap leaves them: the same seed, nothing sent, no connection. -/
def State.start {K : Type} (seed : K) (agentStorage clientStorage : Bytes)
    (agentLimits clientLimits : SessionLimits) (now : Timestamp) : State K where
  agent := .create seed agentStorage now agentLimits
  client := .create seed clientStorage now clientLimits
  links _ := unusedLink seed clientStorage clientLimits
  opened := 0
  attached := none
  cursorGen := 0
  agentLog := []
  agentTaken := []
  clientTaken := []
  agentGot := []
  clientGot := []
  agentErrors := []
  clientErrors := []

/-- A client and an agent that agreed on snapshots. -/
def sampleConfig : Config := ⟨protocolVersionGrid, true⟩

/-- Both buffers eight bytes long. -/
def sampleStart : State Nat :=
  .start 0 (List.replicate 8 0) (List.replicate 8 0) {} {} 0

/-- The client opens connection `i` and sends its Resume on it. -/
def sampleResume (i : Nat) (now : Timestamp) : List Action :=
  [.clientOpen i i [0, 0] now, .route i now, .completeHandshake i, .sendResume now 1000]

/-- One byte of output reaches the client on connection `i`. -/
def sampleByte (i : Nat) (now : Timestamp) : List Action :=
  [.agentWrite [1], .agentIdle i now 1000 1000, .clientFrame now]

/-- The client waits until an acknowledgement is due, and the agent takes it. -/
def sampleAck (i : Nat) (now : Timestamp) : List Action :=
  [.clientIdle now 1000 1000, .clientIdle (now + ackIdleDelay) 1000 1000,
    .agentFrame i (now + ackIdleDelay)]

end Zet.Net
