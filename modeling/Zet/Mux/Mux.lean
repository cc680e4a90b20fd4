import Zet.App.MuxFrames
import Zet.Lib.Parcels
import Zet.Lib.Tokens
import Zet.Session.MuxRouter

/-!
# The mux process

`zet-muxd` (`src/mux/mux.cpp`) around its router: connections whose Hello is not all in, decoys, and the
agents' connections to `mux.sock` with what each is to be sent. A connection is handed on as a frame
queued for its agent with the socket riding on the frame's first byte.

Sockets are numbers. What the kernel answers to a read or a write is a parameter of the call that makes
it, and what a call puts on an agent's connection is returned as a stretch of bytes with descriptors. A
`std::map` from tokens is a function of the token; the handshake a decoy is answered with is that of
`Zet.Session.Opening` and not repeated here.
-/

namespace Zet.Muxd
open Zet.Core Zet.Wire Zet.Lib Zet.Session Zet.App

/-- `MAX_AGENT_CONNECTIONS`. -/
def maxAgentConnections : Nat := maxMuxRegistrations
/-- `MAX_AGENT_CONNECTIONS_PER_UID`. -/
def maxAgentConnectionsPerUid : Nat := 2 * maxRegistrationsPerUid
/-- `MAX_QUEUED_HANDOFFS`. -/
def maxQueuedHandoffs : Nat := 64
/-- `MAX_DECOYS`. -/
def maxDecoys : Nat := maxPendingConnections
/-- `READ_CHUNK`. -/
def readChunk : Nat := 4096
/-- `FIRST_TOKEN`. -/
def firstToken : Nat := 16

/-- What a write came to. One that takes anything takes a byte, and up to `more` beyond it. -/
inductive WriteAnswer where
  | took (more : Nat)
  | wouldBlock
  | failed
deriving DecidableEq, Repr

/-- What a read came to; no bytes are the end of the stream. -/
inductive ReadAnswer where
  | got (chunk : Bytes)
  | wouldBlock
  | failed
deriving DecidableEq, Repr

/-- Bytes on a local connection, and the sockets that ride on them. -/
abbrev Stretch := List (UInt8 × Option Nat)

/-- `Pending`: a connection without its whole Hello. Its socket is gone once it has been passed on. -/
structure Pending where
  socket : Option Nat
  closing : Bool
deriving DecidableEq, Repr

/-- `Decoy`. -/
structure Decoy where
  socket : Option Nat
  closing : Bool
deriving DecidableEq, Repr

/-- `Outgoing`. -/
structure Outgoing where
  bytes : Bytes
  sent : Nat
  passed : Option Nat
deriving DecidableEq, Repr

/-- `Agent`: an agent's connection to the mux socket. -/
structure AgentPeer where
  socket : Nat
  uid : Nat
  reader : MuxFrameReader
  output : List Outgoing
  closing : Bool
deriving DecidableEq, Repr

/-- `Mux`. -/
structure Mux where
  port : Nat
  router : MuxRouter
  pending : Nat → Option Pending
  decoys : Nat → Option Decoy
  agents : Nat → Option AgentPeer
  agentsPerUid : Nat → Nat
  nextToken : Nat

namespace Mux

/-- `Mux::Mux`, on a listener of its port. -/
def create (port : Nat) (pendingStorage : Bytes) : Mux where
  port := port
  router := .create pendingStorage
  pending := fun _ => none
  decoys := fun _ => none
  agents := fun _ => none
  agentsPerUid := fun _ => 0
  nextToken := firstToken

/-- The process with one agent's entry changed. -/
def putAgent (m : Mux) (id : Nat) (a : AgentPeer) : Mux :=
  { m with agents := Function.update m.agents id (some a) }

/-- The process with one pending connection's entry changed. -/
def putPending (m : Mux) (id : Nat) (p : Pending) : Mux :=
  { m with pending := Function.update m.pending id (some p) }

/-- `Mux::AcceptTcp`, for one connection. -/
def acceptTcp (m : Mux) (socket : Nat) (address : PeerAddress) (now : Timestamp) : Mux :=
  let id := m.nextToken
  let m := { m with nextToken := m.nextToken + 1 }
  match m.router.accept id address now with
  -- a pending limit: closed at once, by dropping it
  | .error _ => m
  | .ok router => { m with router := router }.putPending id ⟨some socket, false⟩

/-- `Mux::AcceptAgents`, for one connection whose peer runs as `uid`. -/
def acceptAgent (m : Mux) (socket uid : Nat) : Mux :=
  if sizeBelow m.nextToken m.agents ≥ maxAgentConnections ∨
      m.agentsPerUid uid ≥ maxAgentConnectionsPerUid then m
  else
    { m with
      agentsPerUid := Function.update m.agentsPerUid uid (m.agentsPerUid uid + 1)
      nextToken := m.nextToken + 1 }.putAgent m.nextToken ⟨socket, uid, .empty, [], false⟩

/-- `Mux::WriteAgent`, with the kernel's answers: no more of them is as good as one that would block.
The descriptor goes with the first byte of its frame. -/
def writeOutput (a : AgentPeer) : List WriteAnswer → AgentPeer × Stretch
  | [] => (a, [])
  | answer :: answers =>
    match a.output with
    | [] => (a, [])
    | front :: rest =>
      match answer with
      | .wouldBlock => (a, [])
      | .failed => ({ a with closing := true }, [])
      | .took more =>
        let left := front.bytes.drop front.sent
        let sent := front.sent + min (more + 1) left.length
        let output :=
          if sent = front.bytes.length then rest
          else { front with sent := sent, passed := none } :: rest
        let (a, stretch) := writeOutput { a with output := output } answers
        (a, ride (left.take (more + 1)) front.passed ++ stretch)

/-- `Mux::WriteAgent`. -/
def writeAgent (m : Mux) (id : Nat) (answers : List WriteAnswer) : Mux × Stretch :=
  match m.agents id with
  | none => (m, [])
  | some a =>
    let (a, stretch) := writeOutput a answers
    (m.putAgent id a, stretch)

/-- `Mux::Decide`, on the connection with this token: the process after it, and what was put on which
agent's connection. -/
def decide (m : Mux) (id : Nat) (decision : MuxDecision) (answers : List WriteAnswer) :
    Mux × Option (Nat × Stretch) :=
  match decision, m.pending id with
  | .needMore, _ => (m, none)
  | _, none => (m, none)
  | .handoff _ agent bytes, some p =>
    match m.agents agent with
    | none => (m.putPending id { p with closing := true }, none)
    | some a =>
      let frame := cleartextFrame (writeMuxHandoff ⟨bytes⟩)
      if a.closing ∨ a.output.length ≥ maxQueuedHandoffs ∨ frame.isEmpty then
        (m.putPending id { p with closing := true }, none)
      else
        let queued := (m.putPending id ⟨none, true⟩).putAgent agent
          { a with output := a.output ++ [⟨frame, 0, p.socket⟩] }
        let (m, stretch) := queued.writeAgent agent answers
        (m, some (agent, stretch))
  | .decoy _ _, some p =>
    if sizeBelow m.nextToken m.decoys ≥ maxDecoys then
      (m.putPending id { p with closing := true }, none)
    else
      ({ m.putPending id ⟨none, true⟩ with
        decoys := Function.update m.decoys m.nextToken (some ⟨p.socket, false⟩)
        nextToken := m.nextToken + 1 }, none)
  | .close _ _, some p => (m.putPending id { p with closing := true }, none)

/-- What a pending connection may be read of at once. -/
def pendingRoom (m : Mux) (id : Nat) : Nat := min (m.router.room id) readChunk

/-- `Mux::ReadPending`. -/
def readPending (m : Mux) (id : Nat) (read : ReadAnswer) (answers : List WriteAnswer) :
    Mux × Option (Nat × Stretch) :=
  match m.pending id with
  | none => (m, none)
  | some p =>
    if m.pendingRoom id = 0 then (m, none)
    else
      match read with
      | .wouldBlock => (m, none)
      | .failed | .got [] =>
        ({ m with router := m.router.closed id }.putPending id { p with closing := true }, none)
      | .got (b :: chunk) =>
        let (decision, router) := m.router.feed id (b :: chunk)
        { m with router := router }.decide id decision answers

/-- The turn of `Mux::Run` that takes one expired connection. -/
def expire (m : Mux) (now : Timestamp) : Mux :=
  match m.router.expire now with
  | (none, router) => { m with router := router }
  | (some connection, router) =>
    let m := { m with router := router }
    match m.pending connection with
    | none => m
    | some p => m.putPending connection { p with closing := true }

/-- `Mux::Register`: the refusal, if there is one. -/
def register (sessionIdOf : KeyBytes → SessionId) (m : Mux) (id : Nat) (a : AgentPeer) (body : Bytes) :
    Option MuxRefusal × Mux :=
  match parseMessageType body with
  | .error _ => (some .malformed, m)
  | .ok (type, body) =>
    if type ≠ .muxRegister then (some .malformed, m)
    else
      match parseMuxRegister body with
      | .error _ => (some .malformed, m)
      | .ok (message, _) =>
        let previous := m.router.find (sessionIdOf message.registration)
        match m.router.register sessionIdOf id a.uid message.registration with
        | .error refusal => (some refusal, m)
        | .ok router =>
          let m := { m with router := router }
          -- the agent itself, back before its old connection was seen to end
          match previous.bind fun old => if old = id then none else (m.agents old).map (old, ·) with
          | none => (none, m)
          | some (old, entry) => (none, m.putAgent old { entry with closing := true })

/-- What an agent is told of its registration. -/
def answerFrame (m : Mux) : Option MuxRefusal → Bytes
  | some refusal => cleartextFrame (writeMuxRefused ⟨refusal⟩)
  | none => cleartextFrame (writeMuxRegistered ⟨m.port⟩)

/-- `Mux::Answer`. -/
def answer (sessionIdOf : KeyBytes → SessionId) (m : Mux) (id : Nat) (body : Bytes)
    (answers : List WriteAnswer) : Mux × Stretch :=
  match m.agents id with
  | none => (m, [])
  | some a =>
    let (refusal, m) := m.register sessionIdOf id a body
    if a.output.length ≥ maxQueuedHandoffs then (m.putAgent id { a with closing := true }, [])
    else
      let a := { a with output := a.output ++ [⟨m.answerFrame refusal, 0, none⟩] }
      if refusal = some .malformed then
        let (a, stretch) := writeOutput a answers
        (m.putAgent id { a with closing := true }, stretch)
      else (m.putAgent id a, [])

/-- The turns of `Mux::ReadAgent` that take the frames that are in, with more fuel than frames. -/
def answerAll (sessionIdOf : KeyBytes → SessionId) : (fuel : Nat) → Mux → Nat → List WriteAnswer →
    Mux × Stretch
  | 0, m, _, _ => (m, [])
  | fuel + 1, m, id, answers =>
    match m.agents id with
    | none => (m, [])
    | some a =>
      match a.reader.next with
      | (.error _, reader) => (m.putAgent id { a with reader := reader, closing := true }, [])
      | (.ok none, reader) => (m.putAgent id { a with reader := reader }, [])
      | (.ok (some body), reader) =>
        let (m, stretch) := (m.putAgent id { a with reader := reader }).answer sessionIdOf id body answers
        if ((m.agents id).map AgentPeer.closing).getD true then (m, stretch)
        else
          let (m, more) := answerAll sessionIdOf fuel m id answers
          (m, stretch ++ more)

/-- What an agent's connection may be read of at once. -/
def agentRoom (a : AgentPeer) : Nat := min a.reader.room readChunk

/-- `Mux::ReadAgent`. A descriptor an agent sends is closed as it comes. -/
def readAgent (sessionIdOf : KeyBytes → SessionId) (m : Mux) (id : Nat) (read : ReadAnswer)
    (answers : List WriteAnswer) : Mux × Stretch :=
  match m.agents id with
  | none => (m, [])
  | some a =>
    if agentRoom a = 0 then (m.putAgent id { a with closing := true }, [])
    else
      match read with
      | .wouldBlock => (m, [])
      | .failed | .got [] => (m.putAgent id { a with closing := true }, [])
      | .got (b :: chunk) =>
        let reader := a.reader.append (b :: chunk)
        (m.putAgent id { a with reader := reader }).answerAll sessionIdOf (reader.bytes.length + 1) id
          answers

/-- An agent's entry taken out if it is closing. -/
def dropAgent (m : Mux) (id : Nat) : Mux :=
  match m.agents id with
  | none => m
  | some a =>
    if a.closing then
      { m with
        router := m.router.unregister id
        agents := Function.update m.agents id none
        agentsPerUid := Function.update m.agentsPerUid a.uid (m.agentsPerUid a.uid - 1) }
    else m

/-- The connections and decoys that are closing taken out. -/
def sweep (m : Mux) : Mux := { m with
  pending := fun id => (m.pending id).filter fun p => !p.closing
  decoys := fun id => (m.decoys id).filter fun d => !d.closing }

/-- `Mux::DropClosed`. -/
def dropClosed (m : Mux) : Mux := (List.range m.nextToken).foldl dropAgent m.sweep

/-- What `Mux::UpdateInterest` does to the one entry whose descriptor the poller refuses. -/
def refuseWatch (m : Mux) (id : Nat) : Mux :=
  match m.pending id with
  | some p => m.putPending id { p with closing := true }
  | none =>
    match m.decoys id with
    | some d => { m with decoys := Function.update m.decoys id (some { d with closing := true }) }
    | none =>
      match m.agents id with
      | some a => m.putAgent id { a with closing := true }
      | none => m

/-- A decoy whose handshake is at its end. -/
def endDecoy (m : Mux) (id : Nat) : Mux :=
  { m with
    decoys := Function.update m.decoys id ((m.decoys id).map fun d => { d with closing := true }) }

end Mux

/-- What the loop of `Mux::Run` answers, one descriptor at a time. -/
inductive MuxEvent where
  | acceptTcp (socket : Nat) (address : PeerAddress) (now : Timestamp)
  | acceptAgent (socket uid : Nat)
  | readPending (id : Nat) (read : ReadAnswer) (answers : List WriteAnswer)
  | expire (now : Timestamp)
  | readAgent (id : Nat) (read : ReadAnswer) (answers : List WriteAnswer)
  | writeAgent (id : Nat) (answers : List WriteAnswer)
  | refuseWatch (id : Nat)
  | endDecoy (id : Nat)
  | dropClosed
deriving DecidableEq, Repr

namespace Mux

/-- Whether `Mux::Handle` still reads this connection. -/
def pendingOpen (m : Mux) (id : Nat) : Bool := (m.pending id).any fun p => !p.closing

/-- Whether `Mux::Handle` still reads this agent. -/
def agentOpen (m : Mux) (id : Nat) : Bool := (m.agents id).any fun a => !a.closing

/-- `Mux::Handle` and the turns of `Mux::Run` between events: what was put on which agent's connection. -/
def handle (sessionIdOf : KeyBytes → SessionId) (m : Mux) : MuxEvent → Mux × Option (Nat × Stretch)
  | .acceptTcp socket address now => (m.acceptTcp socket address now, none)
  | .acceptAgent socket uid => (m.acceptAgent socket uid, none)
  | .readPending id read answers =>
    if m.pendingOpen id then m.readPending id read answers else (m, none)
  | .expire now => (m.expire now, none)
  | .readAgent id read answers =>
    if m.agentOpen id then
      let (m, stretch) := m.readAgent sessionIdOf id read answers
      (m, some (id, stretch))
    else (m, none)
  | .writeAgent id answers =>
    let (m, stretch) := m.writeAgent id answers
    (m, some (id, stretch))
  | .refuseWatch id => (m.refuseWatch id, none)
  | .endDecoy id => (m.endDecoy id, none)
  | .dropClosed => (m.dropClosed, none)

/-- A read gives no more than was asked for. -/
def Ready (m : Mux) : MuxEvent → Prop
  | .readPending id (.got chunk) _ => chunk.length ≤ m.pendingRoom id
  | .readAgent id (.got chunk) _ => ∀ a ∈ m.agents id, chunk.length ≤ agentRoom a
  | _ => True

instance (m : Mux) (event : MuxEvent) : Decidable (m.Ready event) :=
  match event with
  | .readPending id (.got chunk) _ => inferInstanceAs (Decidable (chunk.length ≤ m.pendingRoom id))
  | .readAgent id (.got chunk) _ =>
    inferInstanceAs (Decidable (∀ a ∈ m.agents id, chunk.length ≤ agentRoom a))
  | .readPending _ .wouldBlock _ | .readPending _ .failed _ | .readAgent _ .wouldBlock _
  | .readAgent _ .failed _ | .acceptTcp .. | .acceptAgent .. | .expire _ | .writeAgent .. | .refuseWatch _
  | .endDecoy _ | .dropClosed => inferInstanceAs (Decidable True)

end Mux

end Zet.Muxd
