import Zet.App.ByteQueue
import Zet.Net.Machine
import Zet.Wire.OpeningMessage

/-!
# The client's loop

`Client` of `src/client/client.cpp`, over the system of `Zet.Net.Machine`: the socket, the terminal, and
what lies between them. A step is one turn of `Pump`, one handler of the loop, or anything the agent
and the network do meanwhile; the loop takes its steps in some order, and here every order is a run.

The frames of a connection are in `net`; of their bytes, in the order of the frames, `read` are in the
connection's `FrameStream` and the others in the socket. `log` is history: what was queued for the
terminal, what was written to it, what the queue refused, and which snapshots were confirmed.

The queue of the socket is not here: when it is full, or fails, is up to the run (`sendOpen`, `drop`).
-/

namespace Zet.App
open Zet.Core Zet.Wire Zet.Lib Zet.Session Zet.Net

/-- `STDOUT_QUEUE_MAX`. -/
def stdoutQueueMax : Nat := 1024 * 1024

/-- `STDOUT_SNAPSHOT_CEILING`. -/
def stdoutSnapshotCeiling : Nat := stdoutQueueMax + snapshotMaxBytes

/-- `SOCKET_READ_CHUNK`. -/
def socketReadChunk : Nat := 64 * 1024

/-- `CONNECTION_OUT_SIZE`. -/
def connectionOutSize : Nat := headerSize + maxFrame

/-- `CONNECTION_SCRATCH_SIZE`. -/
def connectionScratchSize : Nat := maxFrame

/-- `GRID_FLAG_POSSIBLY_DIVERGED`. -/
def gridFlagPossiblyDiverged : Nat := 0x01

def utf8Bytes (text : String) : Bytes := text.toUTF8.data.toList

/-- `LOST_NOTICE`. -/
def lostNotice : Bytes :=
  utf8Bytes "zet: connection lost, reconnecting… (Enter ~ . to quit)\r\n"

/-- `REGAINED_NOTICE`. -/
def regainedNotice : Bytes := utf8Bytes "zet: reconnected\r\n"

/-- `OVERFLOW_NOTICE`. -/
def overflowNotice : Bytes :=
  utf8Bytes "zet: session output overflowed — reconnect to resume\r\n"

/-- `SNAPSHOT_RESTORE_NOTICE`. -/
def snapshotRestoreNotice : Bytes :=
  utf8Bytes "zet: screen restored, output during the cut skipped\r\n"

/-- `SNAPSHOT_DIVERGED_NOTICE`. -/
def snapshotDivergedNotice : Bytes :=
  utf8Bytes "zet: warning: the restored screen may differ from the remote one\r\n"

/-- What happened at the terminal. -/
inductive Entry where
  /-- Output was queued. -/
  | output (bytes : Bytes)
  /-- A snapshot was queued. -/
  | snapshot (gen : Nat) (bytes : Bytes)
  /-- A notice was queued in line with the output. -/
  | notice (bytes : Bytes)
  /-- The queue refused output or a snapshot. -/
  | refused (bytes : Bytes)
  /-- The terminal took bytes. -/
  | wrote (bytes : Bytes)
  /-- The snapshot was confirmed to the connection. -/
  | confirmed (gen : Nat)
deriving DecidableEq, Repr

/-- What does not change while the client runs: what the two ends agreed on, and whether notices go in
line with the output. -/
structure Options where
  cfg : Config
  noticesInline : Bool
deriving DecidableEq, Repr

/-- `Client`, with the system it is part of. -/
structure Client (K : Type) where
  net : State K
  /-- `Link_ == ELink::Up`. -/
  up : Bool
  /-- The bytes in the `FrameStream` of the connection. -/
  read : Nat
  stdout : ByteQueue
  pendingSnapshot : Option Nat
  pendingSnapshotFlags : Nat
  announced : Bool
  fatal : Bool
  ended : Option SessionEndMessage
  /-- The loop is over, and `Finish` drains the queue. -/
  finishing : Bool
  log : List Entry

/-- What can happen. -/
inductive Action where
  /-- The agent, or the network on its side. -/
  | agent (a : Net.Action)
  | feedStdin (bytes : Bytes)
  /-- `FinishConnecting`, on a socket that did connect. -/
  | finishConnecting (clientNonce serverNonce : Nat) (snapshotBuf : Bytes)
      (size : Option ResizeMessage) (now : Timestamp)
  /-- A turn of `Pump` that takes AuthOk, the next frame, or finds neither. -/
  | pumpResume (sendOpen : Bool) (now : Timestamp)
  | pumpFrame (sendOpen : Bool) (now : Timestamp)
  | pumpIdle (sendOpen : Bool) (now : Timestamp)
  | updateInterest (now : Timestamp)
  /-- The socket gives `count` bytes. -/
  | readSocket (count : Nat)
  /-- The terminal takes `count` bytes, and no more for now. -/
  | writeStdout (count : Nat)
  | terminalGone
  | resize (size : ResizeMessage)
  /-- The socket, the poller or the socket's queue failed. -/
  | drop (now : Timestamp)
  | finish

/-- A frame on the wire. -/
def frameSize {K : Type} (f : FrameView K) : Nat := headerSize + f.header.length

/-- The bytes of the frames on their way. -/
def wireBytes {K : Type} (frames : List (Downward K)) : Nat :=
  (frames.map fun down => frameSize down.frame).sum

namespace Client
variable {K : Type}

/-- `Connection_`. -/
def connection (c : Client K) : Option (Nat × Link K) :=
  if c.up then c.net.current.map fun i => (i, c.net.links i) else none

/-- `ConnectionBase::IsLive`. -/
def isLive (c : Client K) : Bool := c.connection.any fun link => link.2.client.channel.isSome

/-- `ConnectionBase::ReadCapacity`: one frame of the stage the connection is in. -/
def readCapacity (c : Client K) : Nat :=
  headerSize + if c.isLive then maxFrame else maxHandshakeFrame

/-- `ConnectionBase::ReadRoom`. -/
def readRoom (c : Client K) : Nat := c.readCapacity - c.read

/-- Holding back for a full terminal. -/
def stalled (c : Client K) : Bool := c.isLive && c.stdout.room < c.readCapacity

/-- The frame that is whole in the `FrameStream`. -/
def arrived (c : Client K) : Option (Downward K) :=
  c.connection.bind fun link => link.2.toClient.head?.filter fun down => frameSize down.frame ≤ c.read

/-- `Client::Notice`. -/
def notice (o : Options) (text : Bytes) (c : Client K) : Client K :=
  if ¬o.noticesInline then c
  else
    match c.stdout.append text with
    | some stdout => { c with stdout := stdout, log := c.log ++ [.notice text] }
    | none => c

/-- `Client::Drop`. -/
def drop (o : Options) (now : Timestamp) (c : Client K) : Client K :=
  let c :=
    if c.isLive ∧ ¬c.fatal ∧ ¬c.announced then { c.notice o lostNotice with announced := true } else c
  { c with
    pendingSnapshot := none
    net := if c.up then c.net.dropClient now else c.net
    up := false
    read := 0 }

/-- `ConnectionBase::SetSendGate`, on the client's connection. -/
def setSendGate (open_ : Bool) (c : Client K) : Client K :=
  { c with net := c.net.onClientChannel fun chan => chan.setSendGate open_ }

variable [DecidableEq K]

/-- What `Client::Pump` does with the result of a turn. -/
def pumped (P : KeySchedule K) (o : Options) (now : Timestamp) (c : Client K) :
    Except SessionError (ConnectionEvent K) → Option (Client K)
  | .error e =>
    let fatal := e.disposition = .killSession ∨ ¬c.isLive ∧ e = .proto .authenticationFailed
    some (({ c with fatal := c.fatal || fatal } : Client K).drop o now)
  | .ok (.deliver bytes) =>
    match c.stdout.append bytes with
    | some stdout => some { c with stdout := stdout, log := c.log ++ [.output bytes] }
    | none => some (({ c with log := c.log ++ [.refused bytes] } : Client K).drop o now)
  | .ok (.ended message) => some { c with ended := some message }
  | .ok (.applySnapshot bytes gen _ flags) =>
    match c.stdout.appendTo bytes stdoutSnapshotCeiling with
    | some stdout => some { c with
        stdout := stdout
        pendingSnapshot := some gen
        pendingSnapshotFlags := flags
        log := c.log ++ [.snapshot gen bytes] }
    | none => do
      let net ← c.net.step P o.cfg (.denyApply gen)
      some (({ c with net := net, log := c.log ++ [.refused bytes] } : Client K).drop o now)
  | .ok .sessionOverflowed => some { c with ended := some ⟨.overflow, 0⟩ }
  | _ => some c

omit [DecidableEq K] in
/-- The end of `Client::Pump`, once there is nothing left to do. -/
def regain (o : Options) (c : Client K) : Client K :=
  if c.isLive ∧ c.announced then { c.notice o regainedNotice with announced := false } else c

/-- `Client::WriteStdout`, from the point where the queue is empty. -/
def confirmWritten (P : KeySchedule K) (o : Options) (c : Client K) : Option (Client K) :=
  match c.pendingSnapshot, c.connection with
  | some gen, some _ => do
    let net ← c.net.step P o.cfg (.confirmApply gen)
    let c := ({ c with net := net, log := c.log ++ [.confirmed gen] } : Client K).notice o
      snapshotRestoreNotice
    let c :=
      if c.pendingSnapshotFlags &&& gridFlagPossiblyDiverged ≠ 0 then c.notice o snapshotDivergedNotice
      else c
    some { c with pendingSnapshot := none }
  | _, _ => some c

/-- One step of the client, or of the rest of the system. -/
def step (P : KeySchedule K) (o : Options) (c : Client K) : Action → Option (Client K)
  | .agent a => do
    guard a.byAgent
    let net ← c.net.step P o.cfg a
    some { c with net := net }
  | .writeStdout count => do
    guard (count ≤ c.stdout.size)
    let c := { c with
      stdout := c.stdout.consume count
      log := c.log ++ [.wrote (c.stdout.front.take count)] }
    if c.stdout.size = 0 then c.confirmWritten P o else some c
  | .finish => do
    guard ¬c.finishing
    let c := if c.ended.any fun message => message.kind = .overflow then c.notice o overflowNotice else c
    some { c with finishing := true }
  -- once the session has ended the loop does nothing but finish
  | a => do
    guard ¬c.finishing
    guard c.ended.isNone
    match a with
    | .feedStdin bytes =>
      let net ← c.net.step P o.cfg (.clientWrite bytes)
      some { c with net := net }
    | .finishConnecting clientNonce serverNonce snapshotBuf size now =>
      guard ¬c.up
      let net ← c.net.step P o.cfg (.clientOpen clientNonce serverNonce snapshotBuf now)
      let net ← match size with
        | some size => net.step P o.cfg (.queueResize size)
        | none => some net
      some { c with net := net, up := true }
    | .pumpResume sendOpen now =>
      let c := c.setSendGate sendOpen
      let (_, link) ← c.connection
      let offset ← link.authOk
      let net ← c.net.step P o.cfg (.sendResume now connectionOutSize)
      ({ c with net := net } : Client K).pumped P o now
        (link.client.sendResume P c.net.client now connectionOutSize o.cfg.version link.serverNonce
          offset).1
    | .pumpFrame sendOpen now =>
      let c := c.setSendGate sendOpen
      let (_, link) ← c.connection
      let down ← c.arrived
      let net ← c.net.step P o.cfg (.clientFrame now)
      ({ c with net := net, read := c.read - frameSize down.frame } : Client K).pumped P o now
        (link.client.onFrame P c.net.client now down.frame).1
    | .pumpIdle sendOpen now =>
      let c := c.setSendGate sendOpen
      let (_, link) ← c.connection
      guard c.arrived.isNone
      let net ← c.net.step P o.cfg (.clientIdle now connectionOutSize connectionScratchSize)
      let result := (link.client.onIdle P c.net.client now connectionOutSize connectionScratchSize).1
      let c ← ({ c with net := net } : Client K).pumped P o now result
      some (match result with | .ok .idle => c.regain o | _ => c)
    | .updateInterest now =>
      guard c.up
      some { c with net := c.net.onClientChannel fun chan => chan.setReadGate (!c.stalled) now }
    | .readSocket count =>
      let (_, link) ← c.connection
      guard (0 < count ∧ count ≤ min c.readRoom socketReadChunk ∧ ¬c.stalled)
      guard (c.read + count ≤ wireBytes link.toClient)
      some { c with read := c.read + count }
    | .terminalGone => some { c with fatal := true }
    | .resize size =>
      guard c.up
      let net ← c.net.step P o.cfg (.queueResize size)
      some { c with net := net }
    | .drop now => some (c.drop o now)
    | _ => none

end Client

/-- A client that has just bootstrapped. -/
def Client.start {K : Type} (seed : K) (agentStorage clientStorage : Bytes)
    (agentLimits clientLimits : SessionLimits) (now : Timestamp) : Client K where
  net := .start seed agentStorage clientStorage agentLimits clientLimits now
  up := false
  read := 0
  stdout := .create stdoutQueueMax
  pendingSnapshot := none
  pendingSnapshotFlags := 0
  announced := false
  fatal := false
  ended := none
  finishing := false
  log := []

end Zet.App
