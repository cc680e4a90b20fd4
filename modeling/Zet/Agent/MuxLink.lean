import Zet.App.Backoff
import Zet.App.ByteQueue
import Zet.Mux.Mux

/-!
# The agent's link to the mux

`src/agent/mux_link.cpp`: the unix connection an agent registers its session on. It carries one
MuxRegister out, and the answer and then handoffs in, each with a descriptor on its first byte. A link
that is lost comes back with the backoff of `Zet.App.Backoff` and registers again.

Whether a connect succeeded, and to a peer that is to be trusted, is a parameter, as the kernel's other
answers are.
-/

namespace Zet.Agent
open Zet.Core Zet.Wire Zet.Lib Zet.App Zet.Muxd

/-- `BACKOFF_MAX`. -/
def backoffMax : Nat := 30 * 10 ^ 9
/-- `OUTPUT_MAX`. -/
def linkOutputMax : Nat := muxMaxFrame
/-- `MAX_WAITING_DESCRIPTORS`. -/
def maxWaitingDescriptors : Nat := 2

/-- `HandedOver`: a connection, and what the mux read of it. -/
structure HandedOver where
  socket : Nat
  bytes : Bytes
deriving DecidableEq, Repr

/-- What a `ReceiveWithFd` came to. -/
inductive Received where
  | got (chunk : Bytes) (descriptor : Option Nat)
  | wouldBlock
  | failed
deriving DecidableEq, Repr

/-- Why a link was lost, as `Lose` logs it. -/
inductive MuxLoss where
  | brokeProtocol | closedConnection | strayDescriptors | failed | notWatched
deriving DecidableEq, Repr

/-- `MuxLink`. -/
structure MuxLink where
  registration : KeyBytes
  port : Nat
  socket : Option Nat
  reader : MuxFrameReader
  output : ByteQueue
  descriptors : List Nat
  registered : Bool
  retryAt : Option Timestamp
  attempts : Nat
deriving DecidableEq, Repr

namespace MuxLink

/-- `MuxLink::MuxLink`. -/
def create (registration : KeyBytes) : MuxLink where
  registration := registration
  port := 0
  socket := none
  reader := .empty
  output := .create linkOutputMax
  descriptors := []
  registered := false
  retryAt := none
  attempts := 0

/-- The frame of the link's own MuxRegister. -/
def registerFrame (l : MuxLink) : Bytes := cleartextFrame (writeMuxRegister ⟨l.registration⟩)

/-- `MuxLink::Connect`, with the socket of a connect that succeeded to a trusted peer. -/
def connect (l : MuxLink) (connected : Option Nat) : Option MuxLink :=
  match connected with
  | none => none
  | some socket =>
    if l.registerFrame.isEmpty then none
    else (l.output.append l.registerFrame).map fun output => { l with
      socket := some socket
      reader := .empty
      output := output
      descriptors := []
      registered := false }

/-- `MuxLink::Take`: one message, `none` if it breaks the protocol. -/
def take (l : MuxLink) (body : Bytes) : Option (MuxLink × List HandedOver) :=
  match parseMessageType body with
  | .error _ => none
  | .ok (.muxRegistered, body) =>
    match parseMuxRegistered body with
    | .error _ => none
    | .ok (message, _) =>
      if l.registered then none
      else some ({ l with port := message.port, registered := true, attempts := 0 }, [])
  | .ok (.muxHandoff, body) =>
    match parseMuxHandoff body with
    | .error _ => none
    | .ok (message, _) =>
      if !l.registered then none
      else
        match l.descriptors with
        | [] => none
        | d :: descriptors => some ({ l with descriptors := descriptors }, [⟨d, message.bytes⟩])
  -- MuxRefused, and whatever else is no message to an agent
  | .ok _ => none

/-- `MuxLink::Close`: unread handoffs and their descriptors go too. -/
def close (l : MuxLink) : MuxLink := { l with
  socket := none
  descriptors := []
  output := l.output.consume l.output.size
  registered := false }

/-- `MuxLink::Lose`. -/
def lose (l : MuxLink) (now : Timestamp) (noise : Nat) : MuxLink := { l.close with
  retryAt := some (now + backoff backoffMax l.attempts noise)
  attempts := l.attempts + 1 }

/-- The turns of `MuxLink::Read` that take the messages that are in, with more fuel than messages: what
was handed over, and whether the protocol was broken. -/
def takeAll : (fuel : Nat) → MuxLink → MuxLink × List HandedOver × Bool
  | 0, l => (l, [], false)
  | fuel + 1, l =>
    match l.reader.next with
    | (.error _, reader) => ({ l with reader := reader }, [], true)
    | (.ok none, reader) => ({ l with reader := reader }, [], false)
    | (.ok (some body), reader) =>
      match { l with reader := reader }.take body with
      | none => ({ l with reader := reader }, [], true)
      | some (l, handed) =>
        let (l, more, broken) := takeAll fuel l
        (l, handed ++ more, broken)

/-- What the link may be read of at once. -/
def readRoom (l : MuxLink) : Nat := min muxMaxFrame l.reader.room

/-- `MuxLink::Read`: the link, what was handed over, and why it was lost. -/
def read (l : MuxLink) (now : Timestamp) (noise : Nat) (received : Received) :
    MuxLink × List HandedOver × Option MuxLoss :=
  if l.readRoom = 0 then (l.lose now noise, [], some .brokeProtocol)
  else
    match received with
    | .wouldBlock => (l, [], none)
    | .failed => (l.lose now noise, [], some .failed)
    | .got chunk descriptor =>
      let l := { l with descriptors := l.descriptors ++ descriptor.toList }
      if chunk.isEmpty then (l.lose now noise, [], some .closedConnection)
      else
        let l := { l with reader := l.reader.append chunk }
        let (l, handed, broken) := takeAll (l.reader.bytes.length + 1) l
        if broken then (l.lose now noise, handed, some .brokeProtocol)
        else if l.descriptors.length > maxWaitingDescriptors then
          (l.lose now noise, handed, some .strayDescriptors)
        else (l, handed, none)

/-- `MuxLink::Write`, with the kernel's answers: the link, what went out, and why it was lost. -/
def write (l : MuxLink) (now : Timestamp) (noise : Nat) :
    List WriteAnswer → MuxLink × Bytes × Option MuxLoss
  | [] => (l, [], none)
  | answer :: answers =>
    if l.output.size = 0 then (l, [], none)
    else
      match answer with
      | .wouldBlock => (l, [], none)
      | .failed => (l.lose now noise, [], some .failed)
      | .took more =>
        let (l', sent, lost) :=
          write { l with output := l.output.consume (more + 1) } now noise answers
        (l', l.output.front.take (more + 1) ++ sent, lost)

/-- `MuxLink::OnTimer`. -/
def onTimer (l : MuxLink) (now : Timestamp) (noise : Nat) (connected : Option Nat) : MuxLink :=
  if l.socket.isSome ∨ ¬∃ at_ ∈ l.retryAt, at_ ≤ now then l
  else
    let l := { l with retryAt := none }
    match l.connect connected with
    | some l => l
    | none => l.lose now noise

/-- `MuxLink::UpdateInterest`, where the poller refuses the socket. -/
def refuseWatch (l : MuxLink) (now : Timestamp) (noise : Nat) : MuxLink × Option MuxLoss :=
  if l.socket.isSome then (l.lose now noise, some .notWatched) else (l, none)

/-- `MuxLink::NextDeadline`. -/
def nextDeadline (l : MuxLink) : Option Timestamp := if l.socket.isSome then none else l.retryAt

end MuxLink

end Zet.Agent
