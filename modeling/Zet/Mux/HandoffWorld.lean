import Zet.Agent.LinkReading
import Zet.Mux.Tables

/-!
# The mux, its agents and their peers

One machine with a mux, agents that serve sessions behind it, other processes that connect to its
socket and do as they please, and peers anywhere that open TCP connections and send what they like. A
local connection is a link with bytes up, and bytes with descriptors down; a TCP connection is a socket
number with what its peer sent. Any event of any party may be next (`Act`), and the kernel cuts every
read and write as it likes, but keeps the bytes in order and gives no more than one descriptor at a time
(`Allowed`).

An agent's link is followed from the end of its bootstrap on: it comes up by `OnTimer`, as it does after
every loss. The mux may stop at any moment and be started again, with nothing of what it knew.
-/

namespace Zet.Muxd
open Zet.Core Zet.Wire Zet.Lib Zet.Session Zet.App Zet.Agent

/-- The state of everybody. `sent` and `handed` are histories; `had` is what was read of a connection,
by whoever held it. -/
structure World where
  mux : Mux
  /-- By socket: what the peer sent, what was read of it, and what was not. -/
  sent : Nat → Bytes
  had : Nat → Bytes
  coming : Nat → Bytes
  nextSocket : Nat
  /-- By link: bytes to the mux, and from it. -/
  up : Nat → Bytes
  down : Nat → Stretch
  /-- Links the mux has not accepted, with the uid at the other end. -/
  backlog : List (Nat × Nat)
  nextLink : Nat
  /-- Whether the other end of a link is a process that is no agent of ours. -/
  foreign : Nat → Bool
  links : Nat → MuxLink
  /-- What agents were handed, and what each has of the connections it holds. -/
  handed : List (Nat × HandedOver)
  got : Nat → Bytes

/-- What is fixed about a machine. -/
structure Machine where
  sessionIdOf : KeyBytes → SessionId
  uidOf : Nat → Nat
  keyOf : Nat → KeyBytes

/-- Something happens. -/
inductive Act where
  | peerSends (socket : Nat) (bytes : Bytes)
  | mux (event : MuxEvent)
  | muxRestarts (port : Nat) (storage : Bytes)
  /-- `OnTimer` of an agent's link; whether a connect comes through. -/
  | linkTimer (agent : Nat) (now : Timestamp) (noise : Nat) (reaches : Bool)
  | linkWrites (agent : Nat) (now : Timestamp) (noise : Nat) (answers : List WriteAnswer)
  | linkReads (agent : Nat) (now : Timestamp) (noise : Nat) (chunk : Stretch)
  /-- A read that finds the end of the stream or fails. -/
  | linkFails (agent : Nat) (now : Timestamp) (noise : Nat) (ended : Bool)
  | linkRefused (agent : Nat) (now : Timestamp) (noise : Nat)
  | agentReads (socket : Nat) (chunk : Bytes)
  | foreignConnects (uid : Nat)
  | foreignSends (link : Nat) (bytes : Bytes)
  | foreignReads (link : Nat) (count : Nat)
deriving DecidableEq, Repr

namespace World

/-- A machine on which no agent is connected yet. -/
def start (machine : Machine) (port : Nat) (storage : Bytes) : World where
  mux := .create port storage
  sent := fun _ => []
  had := fun _ => []
  coming := fun _ => []
  nextSocket := 0
  up := fun _ => []
  down := fun _ => []
  backlog := []
  nextLink := 0
  foreign := fun _ => false
  links := fun agent => { MuxLink.create (machine.keyOf agent) with retryAt := some 0 }
  handed := []
  got := fun _ => []

/-- Bytes are read of a connection. -/
def readSocket (w : World) (socket : Nat) (chunk : Bytes) : World := { w with
  had := Function.update w.had socket (w.had socket ++ chunk)
  coming := Function.update w.coming socket ((w.coming socket).drop chunk.length) }

/-- Bytes are read of a link, at the mux. -/
def readUp (w : World) (link : Nat) (count : Nat) : World :=
  { w with up := Function.update w.up link ((w.up link).drop count) }

/-- Bytes are put on a link, by the mux. -/
def putDown (w : World) (link : Nat) (stretch : Stretch) : World :=
  { w with down := Function.update w.down link (w.down link ++ stretch) }

/-- What the kernel gives the mux with an event. -/
def give (w : World) : MuxEvent → World
  | .acceptTcp .. => { w with nextSocket := w.nextSocket + 1 }
  | .acceptAgent .. => { w with backlog := w.backlog.tail }
  | .readPending id (.got chunk) _ =>
    match (w.mux.pending id).bind Pending.socket with
    | none => w
    | some socket => w.readSocket socket chunk
  | .readAgent id (.got chunk) _ =>
    match w.mux.agents id with
    | none => w
    | some a => w.readUp a.socket chunk.length
  | _ => w

/-- The mux after an event, and what it put on an agent's link. -/
def take (w : World) (result : Mux × Option (Nat × Stretch)) : World :=
  let w := { w with mux := result.1 }
  match result.2 with
  | none => w
  | some (id, stretch) =>
    match w.mux.agents id with
    | none => w
    | some a => w.putDown a.socket stretch

/-- An agent's link is in another state. -/
def putLink (w : World) (agent : Nat) (l : MuxLink) : World :=
  { w with links := Function.update w.links agent l }

/-- A new link to the mux. -/
def connect (w : World) (uid : Nat) (foreign : Bool) : World := { w with
  up := Function.update w.up w.nextLink []
  down := Function.update w.down w.nextLink []
  backlog := w.backlog ++ [(w.nextLink, uid)]
  foreign := Function.update w.foreign w.nextLink foreign
  nextLink := w.nextLink + 1 }

/-- An agent holds what it was handed. -/
def hold (w : World) (agent : Nat) : List HandedOver → World
  | [] => w
  | h :: more => { w with
      handed := w.handed ++ [(agent, h)]
      got := Function.update w.got h.socket h.bytes }.hold agent more

end World

/-- One event of anybody. -/
def worldStep (machine : Machine) (w : World) : Act → Option World
  | .peerSends socket bytes => some { w with
      sent := Function.update w.sent socket (w.sent socket ++ bytes)
      coming := Function.update w.coming socket (w.coming socket ++ bytes) }
  | .mux event => some ((w.give event).take (w.mux.handle machine.sessionIdOf event))
  | .muxRestarts port storage => some { w with mux := .create port storage, backlog := [] }
  | .linkTimer agent now noise reaches =>
    let l := (w.links agent).onTimer now noise (if reaches then some w.nextLink else none)
    if l.socket = some w.nextLink then some ((w.connect (machine.uidOf agent) false).putLink agent l)
    else some (w.putLink agent l)
  | .linkWrites agent now noise answers =>
    match (w.links agent).socket with
    | none => none
    | some link =>
      let (l, bytes, _) := (w.links agent).write now noise answers
      some ({ w with up := Function.update w.up link (w.up link ++ bytes) }.putLink agent l)
  | .linkReads agent now noise chunk =>
    match (w.links agent).socket with
    | none => none
    | some link =>
      let (l, handed, _) := (w.links agent).read now noise (MuxLink.received chunk)
      some (({ w with
        down := Function.update w.down link ((w.down link).drop chunk.length) }.putLink agent l).hold agent
          handed)
  | .linkFails agent now noise ended =>
    match (w.links agent).socket with
    | none => none
    | some _ =>
      let (l, handed, _) := (w.links agent).read now noise (if ended then .got [] none else .failed)
      some ((w.putLink agent l).hold agent handed)
  | .linkRefused agent now noise => some (w.putLink agent ((w.links agent).refuseWatch now noise).1)
  | .agentReads socket chunk => some { w.readSocket socket chunk with
      got := Function.update w.got socket (w.got socket ++ chunk) }
  | .foreignConnects uid => some (w.connect uid true)
  | .foreignSends link bytes =>
    some { w with up := Function.update w.up link (w.up link ++ bytes) }
  | .foreignReads link count =>
    some { w with down := Function.update w.down link ((w.down link).drop count) }

/-- What the kernel and the parties keep to. -/
def Allowed (w : World) : Act → Prop
  | .mux (.acceptTcp socket _ _) => socket = w.nextSocket
  | .mux (.acceptAgent socket uid) => w.backlog.head? = some (socket, uid)
  -- The mux reads an open connection it has room for, and gets the front of what is coming.
  | .mux (.readPending id (.got chunk) answers) => w.mux.Ready (.readPending id (.got chunk) answers) ∧
      w.mux.pendingOpen id = true ∧ w.mux.pendingRoom id ≠ 0 ∧
      ∀ socket ∈ (w.mux.pending id).bind Pending.socket, chunk <+: w.coming socket
  | .mux (.readAgent id (.got chunk) answers) => w.mux.Ready (.readAgent id (.got chunk) answers) ∧
      w.mux.agentOpen id = true ∧ ∀ a ∈ w.mux.agents id, Mux.agentRoom a ≠ 0 ∧ chunk <+: w.up a.socket
  | .muxRestarts port _ => 0 < port ∧ port < 256 ^ 2
  -- An agent gets the front of what is on its link, with one descriptor at most.
  | .linkReads agent _ _ chunk => chunk ≠ [] ∧ (riders chunk).length ≤ 1 ∧
      chunk.length ≤ (w.links agent).readRoom ∧
      ∀ link ∈ (w.links agent).socket, chunk <+: w.down link
  -- An agent reads the connections it holds.
  | .agentReads socket chunk => chunk <+: w.coming socket ∧ ∃ x ∈ w.handed, x.2.socket = socket
  | .foreignSends link _ => w.foreign link = true
  | .foreignReads link _ => w.foreign link = true
  | _ => True

instance (w : World) (act : Act) : Decidable (Allowed w act) :=
  match act with
  | .mux (.acceptTcp socket _ _) => inferInstanceAs (Decidable (socket = w.nextSocket))
  | .mux (.acceptAgent socket uid) => inferInstanceAs (Decidable (w.backlog.head? = some (socket, uid)))
  | .mux (.readPending id (.got chunk) answers) =>
    inferInstanceAs (Decidable (w.mux.Ready (.readPending id (.got chunk) answers) ∧
      w.mux.pendingOpen id = true ∧ w.mux.pendingRoom id ≠ 0 ∧
      ∀ socket ∈ (w.mux.pending id).bind Pending.socket, chunk <+: w.coming socket))
  | .mux (.readAgent id (.got chunk) answers) =>
    inferInstanceAs (Decidable (w.mux.Ready (.readAgent id (.got chunk) answers) ∧
      w.mux.agentOpen id = true ∧ ∀ a ∈ w.mux.agents id, Mux.agentRoom a ≠ 0 ∧ chunk <+: w.up a.socket))
  | .muxRestarts port _ => inferInstanceAs (Decidable (0 < port ∧ port < 256 ^ 2))
  | .linkReads agent _ _ chunk =>
    inferInstanceAs (Decidable (chunk ≠ [] ∧ (riders chunk).length ≤ 1 ∧
      chunk.length ≤ (w.links agent).readRoom ∧
      ∀ link ∈ (w.links agent).socket, chunk <+: w.down link))
  | .agentReads socket chunk =>
    inferInstanceAs (Decidable (chunk <+: w.coming socket ∧ ∃ x ∈ w.handed, x.2.socket = socket))
  | .foreignSends link _ => inferInstanceAs (Decidable (w.foreign link = true))
  | .foreignReads link _ => inferInstanceAs (Decidable (w.foreign link = true))
  | .peerSends .. | .linkTimer .. | .linkWrites .. | .linkFails .. | .linkRefused .. | .foreignConnects _
  | .mux (.expire _) | .mux (.writeAgent ..) | .mux (.refuseWatch _) | .mux (.endDecoy _)
  | .mux .dropClosed | .mux (.readPending _ .wouldBlock _) | .mux (.readPending _ .failed _)
  | .mux (.readAgent _ .wouldBlock _) | .mux (.readAgent _ .failed _) => inferInstanceAs (Decidable True)

end Zet.Muxd
