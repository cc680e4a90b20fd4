import Zet.Lib.Slots
import Zet.Session.StreamState
import Zet.Wire.ClearFrame

/-!
# The mux router

What `zet-muxd` decides, without its sockets (`src/session/mux_router.cpp`): which agent registered
which session id, and where each new connection goes once its Hello is in. Two fixed tables, one of
registrations and one of waiting connections, and a flat storage cut into one buffer for each waiting
connection.

The hash that makes a session id of a registration comes from libsodium and is a parameter.
-/

namespace Zet.Session
open Zet.Core Zet.Wire Zet.Lib

/-- `MAX_MUX_REGISTRATIONS`. -/
def maxMuxRegistrations : Nat := 1024
/-- `MAX_REGISTRATIONS_PER_UID`. -/
def maxRegistrationsPerUid : Nat := 32
/-- `MAX_PENDING_CONNECTIONS`. -/
def maxPendingConnections : Nat := 256
/-- `MAX_PENDING_PER_ADDRESS`. -/
def maxPendingPerAddress : Nat := 16
/-- `MUX_PENDING_BUFFER`. -/
def muxPendingBuffer : Nat := maxHandoffPrefix

/-- `PeerAddress`. -/
abbrev PeerAddress := Octets 16

/-- `EMuxClose`. -/
inductive MuxCloseReason where
  | malformed | expired | limit | unknown
deriving DecidableEq, Repr

/-- `MuxDecision`. -/
inductive MuxDecision where
  | needMore
  | handoff (connection agent : Nat) (bytes : Bytes)
  | decoy (connection : Nat) (bytes : Bytes)
  | close (connection : Nat) (reason : MuxCloseReason)
deriving DecidableEq, Repr

/-- `MuxRouter::Registration`. -/
structure Registration where
  id : SessionId
  agent : Nat
  owner : Nat
  live : Bool
deriving DecidableEq, Repr

/-- `Registration{}`. -/
def Registration.blank : Registration := ⟨.fill sessionIdSize 0, 0, 0, false⟩

/-- `MuxRouter::Waiting`. -/
structure Waiting where
  connection : Nat
  address : PeerAddress
  deadline : Timestamp
  length : Nat
  live : Bool
deriving DecidableEq, Repr

/-- `Waiting{}`. -/
def Waiting.blank : Waiting := ⟨0, .fill 16 0, 0, 0, false⟩

/-- `MuxRouter`. -/
structure MuxRouter where
  storage : Bytes
  slots : Nat
  registrations : List Registration
  registrationCount : Nat
  waiting : List Waiting
  pendingCount : Nat
deriving DecidableEq, Repr

namespace MuxRouter

/-- `MuxRouter::MuxRouter`: less storage is fewer slots. -/
def create (pendingStorage : Bytes) : MuxRouter where
  storage := pendingStorage
  slots := min maxPendingConnections (pendingStorage.length / muxPendingBuffer)
  registrations := List.replicate maxMuxRegistrations Registration.blank
  registrationCount := 0
  waiting := List.replicate maxPendingConnections Waiting.blank
  pendingCount := 0

/-- The live registration of a session id. -/
def held (r : MuxRouter) (id : SessionId) : Option (Nat × Registration) :=
  findSlot (fun g => g.live && g.id == id) r.registrations

/-- `MuxRouter::Register`. -/
def register (sessionIdOf : KeyBytes → SessionId) (r : MuxRouter) (agent uid : Nat)
    (registration : KeyBytes) : Except MuxRefusal MuxRouter :=
  let id := sessionIdOf registration
  match r.held id with
  | some (slot, g) =>
    if g.owner ≠ uid then .error .taken
    else .ok { r with registrations := r.registrations.set slot { g with agent := agent } }
  | none =>
    if r.registrations.countP (fun g => g.live && g.owner == uid) ≥ maxRegistrationsPerUid then
      .error .limit
    else
      match findSlot (fun g => !g.live) r.registrations with
      | none => .error .limit
      | some (slot, _) => .ok { r with
          registrations := r.registrations.set slot ⟨id, agent, uid, true⟩
          registrationCount := r.registrationCount + 1 }

/-- Whether `Unregister` of an agent frees a registration. -/
def heldBy (agent : Nat) (g : Registration) : Bool := g.live && g.agent == agent

/-- `MuxRouter::Unregister`. -/
def unregister (r : MuxRouter) (agent : Nat) : MuxRouter := { r with
  registrations := r.registrations.map fun g => if heldBy agent g then Registration.blank else g
  registrationCount := r.registrationCount - r.registrations.countP (heldBy agent) }

/-- `MuxRouter::Find`. -/
def find (r : MuxRouter) (id : SessionId) : Option Nat := (r.held id).map fun found => found.2.agent

/-- `MuxRouter::FindWaiting`. -/
def findWaiting (r : MuxRouter) (connection : Nat) : Option (Nat × Waiting) :=
  findSlot (fun w => w.live && w.connection == connection) r.waiting

/-- `MuxRouter::BufferOf`. -/
def bufferOf (r : MuxRouter) (slot : Nat) : Bytes := window r.storage muxPendingBuffer slot

/-- `MuxRouter::Release`. -/
def release (r : MuxRouter) (slot : Nat) (w : Waiting) : MuxRouter := { r with
  waiting := r.waiting.set slot { w with live := false }
  pendingCount := r.pendingCount - 1 }

/-- `MuxRouter::Accept`. -/
def accept (r : MuxRouter) (connection : Nat) (address : PeerAddress) (now : Timestamp) :
    Except MuxCloseReason MuxRouter :=
  if (r.findWaiting connection).isSome then .error .unknown
  else if r.waiting.countP (fun w => w.live && w.address == address) ≥ maxPendingPerAddress then
    .error .limit
  else
    match findSlot (fun w => !w.live) (r.waiting.take r.slots) with
    | none => .error .limit
    | some (slot, _) => .ok { r with
        waiting := r.waiting.set slot ⟨connection, address, now + handshakeTimeout, 0, true⟩
        pendingCount := r.pendingCount + 1 }

/-- `MuxRouter::Room`. -/
def room (r : MuxRouter) (connection : Nat) : Nat :=
  match r.findWaiting connection with
  | none => 0
  | some (_, w) => muxPendingBuffer - w.length

/-- The copy `Feed` makes into a connection's buffer: the router after it and what is held now. -/
def take (r : MuxRouter) (slot : Nat) (w : Waiting) (bytes : Bytes) : MuxRouter × Waiting :=
  let taken := min ((r.bufferOf slot).length - w.length) bytes.length
  let w' := { w with length := w.length + taken }
  ({ r with
    storage := copyAt r.storage (slot * muxPendingBuffer + w.length) (bytes.take taken)
    waiting := r.waiting.set slot w' }, w')

/-- `MuxRouter::Feed`. -/
def feed (r : MuxRouter) (connection : Nat) (bytes : Bytes) : MuxDecision × MuxRouter :=
  match r.findWaiting connection with
  | none => (.close connection .unknown, r)
  | some (slot, w) =>
    let (fed, w') := r.take slot w bytes
    let heldBytes := (fed.bufferOf slot).take w'.length
    match peekHello heldBytes with
    | .error e =>
      if e = .truncated ∧ w'.length - w.length = bytes.length then (.needMore, fed)
      else (.close connection .malformed, fed.release slot w')
    | .ok peek =>
      match fed.find peek.id with
      | some agent => (.handoff connection agent heldBytes, fed.release slot w')
      | none => (.decoy connection heldBytes, fed.release slot w')

/-- `MuxRouter::Closed`. -/
def closed (r : MuxRouter) (connection : Nat) : MuxRouter :=
  match r.findWaiting connection with
  | none => r
  | some (slot, w) => r.release slot w

/-- `MuxRouter::Expire`. -/
def expire (r : MuxRouter) (now : Timestamp) : Option Nat × MuxRouter :=
  match findSlot (fun w => w.live && decide (w.deadline ≤ now)) r.waiting with
  | none => (none, r)
  | some (slot, w) => (some w.connection, r.release slot w)

end MuxRouter

end Zet.Session
