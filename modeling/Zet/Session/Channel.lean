import Zet.Wire.Handshake
import Zet.Wire.SealedFrame
import Zet.Session.StreamState

/-!
# The channel of a connection

`src/session/channel.cpp`: the sealed traffic of one connection, for either end. A channel borrows
the send buffer and the receive cursor of its session; a `Port` is a channel together with what it
borrows. `receive` takes one frame off the wire, `poll` puts at most one on it.

`receive` dispatches on the type byte to one function per message, each with the checks of the source
in their order. `poll` is a list of candidates tried in order of priority: a candidate that answers
`none` has nothing to send and falls through to the next one.
-/

namespace Zet.Session
open Zet.Core Zet.Wire

/-- `SessionError`: a frame error, a stream error, or a frame error met before authentication. -/
inductive SessionError where
  | proto (error : ProtoError)
  | stream (error : StreamError)
  | preAuth (error : ProtoError)
deriving DecidableEq, Repr

/-- `SessionError::Disposition`; nothing met before authentication ends a session. -/
def SessionError.disposition : SessionError → Disposition
  | .proto e => e.disposition
  | .stream e => e.disposition
  | .preAuth e => (PreAuthError.mk e).disposition

/-- `ERole`. -/
inductive Role where
  | client | agent
deriving DecidableEq, Repr

/-- `IncomingEvent`. -/
inductive IncomingEvent where
  | data (bytes : Bytes) (offset : Nat)
  | resize (size : ResizeMessage)
  | sessionEnd (message : SessionEndMessage)
  | gridSnapshot (bytes : Bytes) (streamGen scrollbackLen flags : Nat)
  | gridApplied (streamGen : Nat)
  | nothing
deriving DecidableEq, Repr

/-- `Channel::GridEmission`: a snapshot on its way out. -/
structure GridEmission where
  snapshot : Bytes
  streamGen : Nat
  totalLen : Nat
  scrollbackLen : Nat
  flags : Nat
  bytesSent : Nat
  beginSent : Bool
deriving DecidableEq, Repr

/-- The bytes of the snapshot the next GridChunk carries. -/
def GridEmission.nextChunk (ge : GridEmission) (scratch : Nat) : Bytes :=
  let maxData := min gridChunkMaxData (scratch - 5)
  (ge.snapshot.drop ge.bytesSent).take (min maxData (ge.totalLen - ge.bytesSent))

/-- `Channel::GridReception`: a snapshot on its way in. -/
structure GridReception where
  streamGen : Nat
  totalLen : Nat
  scrollbackLen : Nat
  flags : Nat
  bytesReceived : Nat
deriving DecidableEq, Repr

/-- `DirectionFrames`: what one end of a connection seals and opens with. -/
structure DirectionFrames (K : Type) where
  sealer : FrameSealer K
  opener : FrameOpener K
  role : Role
deriving DecidableEq, Repr

/-- `MakeDirectionFrames`. -/
def makeDirectionFrames {K : Type} (P : KeySchedule K) (keys : ConnectionKeys K) (role : Role)
    (frameLimit byteLimit : Nat) : DirectionFrames K :=
  match role with
  | .client =>
    ⟨.create keys.clientToServer keys.saltClientToServer frameLimit byteLimit,
      .create P keys.serverToClient keys.saltServerToClient frameLimit, .client⟩
  | .agent =>
    ⟨.create keys.serverToClient keys.saltServerToClient frameLimit byteLimit,
      .create P keys.clientToServer keys.saltClientToServer frameLimit, .agent⟩

/-- `Channel`. -/
structure Channel (K : Type) where
  epochStart : Timestamp
  lastAckedOffset : Nat
  unknownTypeCount : Nat
  lastHeard : Timestamp
  lastSent : Timestamp
  readGateClosed : Bool
  sendGateClosed : Bool
  nextPingToken : Nat
  liveness : LivenessLimits
  ackPendingSince : Option Timestamp
  pendingPong : Option PingMessage
  /-- `SnapshotBuf_`: borrowed storage for an incoming snapshot. -/
  snapshotBuf : Bytes
  gridEmitting : Option GridEmission
  gridReceiving : Option GridReception
  sealer : FrameSealer K
  opener : FrameOpener K
  /-- `AgentStreamGen_`: the last generation whose snapshot came in whole. -/
  agentStreamGen : Nat
  pendingGridApplied : Option Nat
  version : Nat
  pendingResize : Option ResizeMessage
  role : Role
  pendingEnd : Option SessionEndMessage
  endSent : Bool
  gridAwaitingApplied : Bool
  gridExpectedAppliedGen : Nat
  awaitingSnapshotSupply : Bool
deriving DecidableEq, Repr

/-- A channel with the send buffer and receive cursor it borrows. -/
structure Port (K : Type) where
  chan : Channel K
  sendBuf : SendBuffer
  recvCursor : ReceiveCursor
deriving DecidableEq, Repr

variable {K : Type}

/-- `Channel::Channel`. -/
def Channel.create (frames : DirectionFrames K) (recvCursor : ReceiveCursor) (now : Timestamp)
    (liveness : LivenessLimits) (version : Nat) (snapshotBuf : Bytes) (agentStreamGen : Nat) :
    Channel K where
  epochStart := now
  lastAckedOffset := recvCursor.ackOffset
  unknownTypeCount := 0
  lastHeard := now
  lastSent := now
  readGateClosed := false
  sendGateClosed := false
  nextPingToken := 1
  liveness := liveness
  ackPendingSince := none
  pendingPong := none
  snapshotBuf := snapshotBuf
  gridEmitting := none
  gridReceiving := none
  sealer := frames.sealer
  opener := frames.opener
  agentStreamGen := agentStreamGen
  pendingGridApplied := none
  version := version
  pendingResize := none
  role := frames.role
  pendingEnd := none
  endSent := false
  gridAwaitingApplied := false
  gridExpectedAppliedGen := 0
  awaitingSnapshotSupply := false

/-- `Channel::GridInFlight`. -/
def Channel.gridInFlight (c : Channel K) : Bool := c.gridEmitting.isSome || c.gridAwaitingApplied

/-- `Channel::GridEmissionDone`. -/
def Channel.gridEmissionDone (c : Channel K) : Bool := c.gridAwaitingApplied

namespace Port

/-- What a call on a port returns: the event or the error, and the port after it. -/
abbrev Received (K : Type) := Except SessionError IncomingEvent × Port K

/-- Known, but not allowed here. -/
def unexpected (p : Port K) : Received K := (.error (.proto .unexpectedMessage), p)

/-- The acknowledgement a Data or an Ack carries; ignored while GridApplied is pending. -/
def applyAck (p : Port K) (ack : Nat) : Except StreamError (Port K) :=
  if p.chan.gridAwaitingApplied then .ok p
  else (p.sendBuf.acknowledge ack).map fun sendBuf => { p with sendBuf := sendBuf }

/-- The stream part of a Data message, once its acknowledgement is in. -/
def deliver (p : Port K) (m : DataMessage) : Received K :=
  let tailOffset := p.recvCursor.recvOffset
  match p.recvCursor.receive m.offset m.payload with
  | .error e => (.error (.stream e), p)
  | .ok (delivered, recvCursor) =>
    let p := { p with recvCursor := recvCursor }
    if delivered.isEmpty then (.ok .nothing, p) else (.ok (.data delivered tailOffset), p)

/-- `Channel::Receive`, Data. -/
def receiveData (p : Port K) (body : Bytes) : Received K :=
  if p.chan.role = .client ∧ p.chan.gridReceiving.isSome then p.unexpected
  else
    match parseData body with
    | .error e => (.error (.proto e), p)
    | .ok (m, _) =>
      match p.applyAck m.ack with
      | .error e => (.error (.stream e), p)
      | .ok p => p.deliver m

/-- `Channel::Receive`, Ack. -/
def receiveAck (p : Port K) (body : Bytes) : Received K :=
  match parseAck body with
  | .error e => (.error (.proto e), p)
  | .ok (m, _) =>
    match p.applyAck m.ack with
    | .error e => (.error (.stream e), p)
    | .ok p => (.ok .nothing, p)

/-- `Channel::Receive`, Resize. -/
def receiveResize (p : Port K) (body : Bytes) : Received K :=
  match parseResize body with
  | .error e => (.error (.proto e), p)
  | .ok (m, _) => (.ok (.resize m), p)

/-- `Channel::Receive`, Ping: the Pong owed replaces one not yet sent. -/
def receivePing (p : Port K) (body : Bytes) : Received K :=
  match parsePing body with
  | .error e => (.error (.proto e), p)
  | .ok (m, _) => (.ok .nothing, { p with chan := { p.chan with pendingPong := some m } })

/-- `Channel::Receive`, Pong. -/
def receivePong (p : Port K) (body : Bytes) : Received K :=
  match parsePong body with
  | .error e => (.error (.proto e), p)
  | .ok _ => (.ok .nothing, p)

/-- `Channel::Receive`, SessionEnd. -/
def receiveSessionEnd (p : Port K) (body : Bytes) : Received K :=
  if p.chan.role ≠ .client then p.unexpected
  else
    match parseSessionEnd p.chan.version body with
    | .error e => (.error (.proto e), p)
    | .ok (m, _) => (.ok (.sessionEnd m), p)

/-- `Channel::Receive`, GridBegin. -/
def receiveGridBegin (p : Port K) (body : Bytes) : Received K :=
  if p.chan.version < protocolVersionGrid then p.unexpected
  else if p.chan.role ≠ .client then p.unexpected
  else
    match parseGridBegin body with
    | .error e => (.error (.proto e), p)
    | .ok (m, _) =>
      if p.chan.gridReceiving.isSome then p.unexpected
      else if m.totalLen > snapshotMaxBytes ∨ m.totalLen > p.chan.snapshotBuf.length then
        p.unexpected
      else if m.scrollbackLen > m.totalLen then p.unexpected
      else if m.streamGen ≤ p.chan.agentStreamGen then p.unexpected
      else
        (.ok .nothing, { p with chan := { p.chan with
          gridReceiving := some ⟨m.streamGen, m.totalLen, m.scrollbackLen, m.flags, 0⟩ } })

/-- `Channel::Receive`, GridChunk. -/
def receiveGridChunk (p : Port K) (body : Bytes) : Received K :=
  if p.chan.version < protocolVersionGrid then p.unexpected
  else if p.chan.role ≠ .client then p.unexpected
  else
    match parseGridChunk body with
    | .error e => (.error (.proto e), p)
    | .ok (m, _) =>
      match p.chan.gridReceiving with
      | none => p.unexpected
      | some r =>
        if m.data.isEmpty then p.unexpected
        else if m.chunkOffset ≠ r.bytesReceived then p.unexpected
        else if m.data.length > r.totalLen - r.bytesReceived then p.unexpected
        else
          (.ok .nothing, { p with chan := { p.chan with
            snapshotBuf := Lib.copyAt p.chan.snapshotBuf r.bytesReceived m.data
            gridReceiving := some { r with bytesReceived := r.bytesReceived + m.data.length } } })

/-- `Channel::Receive`, GridEnd: the snapshot is whole, so the stream restarts at 0. -/
def receiveGridEnd (p : Port K) (_body : Bytes) : Received K :=
  if p.chan.version < protocolVersionGrid then p.unexpected
  else if p.chan.role ≠ .client then p.unexpected
  else
    match p.chan.gridReceiving with
    | none => p.unexpected
    | some r =>
      if r.bytesReceived ≠ r.totalLen then p.unexpected
      else
        (.ok (.gridSnapshot (p.chan.snapshotBuf.take r.totalLen) r.streamGen r.scrollbackLen
            r.flags),
          { p with
            recvCursor := p.recvCursor.reset 0
            chan := { p.chan with
              lastAckedOffset := 0
              ackPendingSince := none
              gridReceiving := none
              agentStreamGen := r.streamGen } })

/-- `Channel::Receive`, GridApplied. -/
def receiveGridApplied (p : Port K) (body : Bytes) : Received K :=
  if p.chan.version < protocolVersionGrid then p.unexpected
  else if p.chan.role ≠ .agent then p.unexpected
  else
    match parseGridApplied body with
    | .error e => (.error (.proto e), p)
    | .ok (m, _) =>
      if ¬p.chan.gridAwaitingApplied ∨ p.chan.gridEmitting.isSome then p.unexpected
      else if m.streamGen ≠ p.chan.gridExpectedAppliedGen then
        (.error (.proto .malformedField), p)
      else
        (.ok (.gridApplied m.streamGen),
          { p with chan := { p.chan with gridAwaitingApplied := false } })

/-- `Channel::Receive` once the frame has opened: dispatch on the type byte. -/
def receivePlain (p : Port K) (plain : Bytes) : Received K :=
  match parseMessageType plain with
  | .error .unknownMessageType =>
    (.ok .nothing,
      { p with chan := { p.chan with unknownTypeCount := p.chan.unknownTypeCount + 1 } })
  | .error e => (.error (.proto e), p)
  | .ok (type, body) =>
    match type with
    | .data => p.receiveData body
    | .ack => p.receiveAck body
    | .resize => p.receiveResize body
    | .ping => p.receivePing body
    | .pong => p.receivePong body
    | .sessionEnd => p.receiveSessionEnd body
    | .gridBegin => p.receiveGridBegin body
    | .gridChunk => p.receiveGridChunk body
    | .gridEnd => p.receiveGridEnd body
    | .gridApplied => p.receiveGridApplied body
    | .hello | .challenge | .auth | .authOk | .resume | .bootstrapOffer | .bootstrapAccept
    | .muxRegister | .muxRegistered | .muxRefused | .muxHandoff => p.unexpected

/-- `Channel::Receive`. A frame that opens, whatever it says, counts as hearing from the peer. -/
def receive [DecidableEq K] (P : KeySchedule K) (p : Port K) (now : Timestamp)
    (frame : FrameView K) : Received K :=
  match p.chan.opener.open P frame with
  | (.error e, opener) => (.error (.proto e), { p with chan := { p.chan with opener := opener } })
  | (.ok plain, opener) =>
    { p with chan := { p.chan with opener := opener, lastHeard := now } }.receivePlain plain

/-- What `poll` returns: the frame written, nothing, or an error; and the port after it. -/
abbrev Polled (K : Type) := Except SessionError (Option (FrameView K)) × Port K

/-- `Channel::RekeyIfNeeded`. -/
def rekeyIfNeeded (P : KeySchedule K) (p : Port K) (now : Timestamp) :
    Except SessionError (Port K) :=
  if ¬p.chan.sealer.needsRekey ∧ ¬now ≥ p.chan.epochStart + rekeyInterval then .ok p
  else
    match p.chan.sealer.rekey P with
    | .error e => .error (.proto e)
    | .ok sealer => .ok { p with chan := { p.chan with sealer := sealer, epochStart := now } }

/-- `Channel::SealInto`, with what the caller does once the frame is sealed. -/
def sealThen (p : Port K) (out : Nat) (plain : Bytes) (done : Port K → Port K) : Polled K :=
  match p.chan.sealer.seal out plain with
  | .error e => (.error (.proto e), p)
  | .ok (frame, sealer) =>
    (.ok (some frame), done { p with chan := { p.chan with sealer := sealer } })

/-- A Pong we owe the peer. -/
def pollPong (p : Port K) (out : Nat) : Option (Polled K) :=
  match p.chan.pendingPong with
  | none => none
  | some pong =>
    match writeInto 9 (writePong pong) with
    | .error _ => none
    | .ok plain =>
      some (p.sealThen out plain fun p => { p with chan := { p.chan with pendingPong := none } })

/-- The client's GridApplied. -/
def pollGridApplied (p : Port K) (out : Nat) : Option (Polled K) :=
  match p.chan.pendingGridApplied with
  | none => none
  | some gen =>
    if p.chan.role ≠ .client then none
    else
      match writeInto 5 (writeGridApplied ⟨gen⟩) with
      | .error _ => none
      | .ok plain =>
        some (p.sealThen out plain fun p =>
          { p with chan := { p.chan with pendingGridApplied := none } })

/-- GridBegin. -/
def pollGridBegin (p : Port K) (ge : GridEmission) (out : Nat) : Option (Polled K) :=
  match writeInto 14
      (writeGridBegin ⟨ge.flags, ge.streamGen, ge.scrollbackLen, ge.totalLen⟩) with
  | .error _ => none
  | .ok plain =>
    some (p.sealThen out plain fun p =>
      { p with chan := { p.chan with gridEmitting := some { ge with beginSent := true } } })

/-- The next GridChunk, copied out of the borrowed snapshot. -/
def pollGridChunk (p : Port K) (ge : GridEmission) (out scratch : Nat) : Polled K :=
  if scratch < 5 + 1 then (.error (.proto .bufferTooSmall), p)
  else
    let data := ge.nextChunk scratch
    match writeInto (5 + data.length) (writeGridChunk ⟨ge.bytesSent, data⟩) with
    | .error e => (.error (.proto e), p)
    | .ok plain =>
      p.sealThen out plain fun p => { p with chan := { p.chan with
        gridEmitting := some { ge with bytesSent := ge.bytesSent + data.length } } }

/-- GridEnd. -/
def pollGridEnd (p : Port K) (out : Nat) : Option (Polled K) :=
  match writeInto 1 writeGridEnd with
  | .error _ => none
  | .ok plain =>
    some (p.sealThen out plain fun p =>
      { p with chan := { p.chan with gridEmitting := none, gridAwaitingApplied := true } })

/-- The agent's snapshot: GridBegin, then every GridChunk, then GridEnd. -/
def pollGrid (p : Port K) (out scratch : Nat) : Option (Polled K) :=
  match p.chan.gridEmitting with
  | none => none
  | some ge =>
    if p.chan.role ≠ .agent then none
    else if ¬ge.beginSent then p.pollGridBegin ge out
    else if ge.bytesSent < ge.totalLen then some (p.pollGridChunk ge out scratch)
    else if ge.bytesSent = ge.totalLen then p.pollGridEnd out
    else none

/-- Whether Data is held back: the agent between the start of a snapshot and its GridApplied. -/
def dataSuppressed (p : Port K) : Bool :=
  p.chan.role == .agent && (p.chan.gridInFlight || p.chan.awaitingSnapshotSupply)

/-- Data from the send cursor, with the receive offset piggybacked. -/
def pollData (p : Port K) (out scratch : Nat) : Option (Polled K) :=
  if p.sendBuf.unsent = 0 ∨ p.dataSuppressed then none
  else if scratch < 17 + 1 then some (.error (.proto .bufferTooSmall), p)
  else
    let payloadSize := min (min maxDataPayload (scratch - 17)) p.sendBuf.unsent
    if payloadSize = 0 then none
    else
      let payload := p.sendBuf.copyOut p.sendBuf.sendNext payloadSize
      let plain := dataBytes p.recvCursor.ackOffset p.sendBuf.sendNext payload
      some (p.sealThen out plain fun p =>
        { p with
          sendBuf := p.sendBuf.advanceSendNext payload.length
          chan := { p.chan with
            lastAckedOffset := p.recvCursor.ackOffset, ackPendingSince := none } })

/-- SessionEnd, once every byte of the stream is acknowledged. -/
def pollSessionEnd (p : Port K) (out : Nat) : Option (Polled K) :=
  match p.chan.pendingEnd with
  | none => none
  | some message =>
    if p.chan.endSent ∨ p.sendBuf.size ≠ 0 then none
    else
      match writeInto 3 (writeSessionEnd message p.chan.version) with
      | .error e => some (.error (.proto e), p)
      | .ok plain =>
        some (p.sealThen out plain fun p => { p with chan := { p.chan with endSent := true } })

/-- A Resize the client queued. -/
def pollResize (p : Port K) (out : Nat) : Option (Polled K) :=
  match p.chan.pendingResize with
  | none => none
  | some size =>
    match writeInto 9 (writeResize size) with
    | .error _ => none
    | .ok plain =>
      some (p.sealThen out plain fun p => { p with chan := { p.chan with pendingResize := none } })

/-- A keepalive once nothing has gone out for a while, or nothing at all. -/
def pollPing (p : Port K) (now : Timestamp) (out : Nat) : Polled K :=
  if p.chan.liveness.keepaliveInterval > 0 ∧
      now ≥ p.chan.lastSent + p.chan.liveness.keepaliveInterval then
    match writeInto 9 (writePing ⟨p.chan.nextPingToken⟩) with
    | .error e => (.error (.proto e), p)
    | .ok plain =>
      p.sealThen out plain fun p =>
        { p with chan := { p.chan with nextPingToken := p.chan.nextPingToken + 1 } }
  else (.ok none, p)

/-- A bare Ack after `ackIdleDelay` of idleness; the first idle poll arms the timer and goes on to
the keepalive. -/
def pollAck (p : Port K) (now : Timestamp) (out : Nat) : Polled K :=
  let recvOff := p.recvCursor.ackOffset
  if recvOff > p.chan.lastAckedOffset then
    match p.chan.ackPendingSince with
    | none => { p with chan := { p.chan with ackPendingSince := some now } }.pollPing now out
    | some since =>
      if now ≥ since + ackIdleDelay then
        match writeInto 9 (writeAck ⟨recvOff⟩) with
        | .error _ => p.pollPing now out
        | .ok plain =>
          p.sealThen out plain fun p => { p with chan := { p.chan with
            lastAckedOffset := recvOff, ackPendingSince := none } }
      else p.pollPing now out
  else p.pollPing now out

/-- What goes out first, once the sealer is in order. -/
def pollNext (p : Port K) (now : Timestamp) (out scratch : Nat) : Polled K :=
  (((((p.pollPong out).or (p.pollGridApplied out)).or (p.pollGrid out scratch)).or
    (p.pollData out scratch)).or ((p.pollSessionEnd out).or (p.pollResize out))).getD
    (p.pollAck now out)

/-- `Channel::PollOnce`. -/
def pollOnce (P : KeySchedule K) (p : Port K) (now : Timestamp) (out scratch : Nat) : Polled K :=
  match p.rekeyIfNeeded P now with
  | .error e => (.error e, p)
  | .ok p =>
    if out < headerSize + 1 + tagSize then (.error (.proto .bufferTooSmall), p)
    else p.pollNext now out scratch

/-- `Channel::Poll`. -/
def poll (P : KeySchedule K) (p : Port K) (now : Timestamp) (out scratch : Nat) : Polled K :=
  if ¬p.chan.readGateClosed ∧ p.chan.liveness.peerSilenceTimeout > 0 ∧
      now ≥ p.chan.lastHeard + p.chan.liveness.peerSilenceTimeout then
    (.error (.stream .peerSilent), p)
  else if p.chan.sendGateClosed then (.ok none, p)
  else
    match p.pollOnce P now out scratch with
    | (.ok (some frame), p) => (.ok (some frame), { p with chan := { p.chan with lastSent := now } })
    | result => result

end Port

namespace Channel

/-- `Channel::SetReadGate`. -/
def setReadGate (c : Channel K) (open_ : Bool) (now : Timestamp) : Channel K :=
  { c with
    lastHeard := if open_ && c.readGateClosed then now else c.lastHeard
    readGateClosed := !open_ }

/-- `Channel::SetSendGate`. -/
def setSendGate (c : Channel K) (open_ : Bool) : Channel K := { c with sendGateClosed := !open_ }

/-- `Channel::QueueResize`. -/
def queueResize (c : Channel K) (size : ResizeMessage) : Channel K :=
  { c with pendingResize := some size }

/-- `Channel::QueueSessionEnd`. -/
def queueSessionEnd (c : Channel K) (message : SessionEndMessage) : Channel K :=
  { c with pendingEnd := some (c.pendingEnd.getD message) }

/-- `Channel::QueueGridApplied`. -/
def queueGridApplied (c : Channel K) (streamGen : Nat) : Channel K :=
  if c.role ≠ .client then c else { c with pendingGridApplied := some streamGen }

/-- `Channel::SuppressDataUntilGrid`. -/
def suppressDataUntilGrid (c : Channel K) : Channel K :=
  if c.role = .agent then { c with awaitingSnapshotSupply := true } else c

/-- `Channel::StartGrid`: whether the emission was started, and the channel after it. -/
def startGrid (c : Channel K) (snapshot : Bytes) (flags streamGen scrollbackLen : Nat) :
    Bool × Channel K :=
  if c.role ≠ .agent then (false, c)
  else if c.gridEmitting.isSome ∨ c.gridAwaitingApplied then (false, c)
  else if snapshot.isEmpty ∨ snapshot.length > snapshotMaxBytes then (false, c)
  else
    (true, { c with
      gridEmitting := some ⟨snapshot, streamGen, snapshot.length, scrollbackLen, flags, 0, false⟩
      gridAwaitingApplied := true
      gridExpectedAppliedGen := streamGen
      awaitingSnapshotSupply := false })

end Channel

end Zet.Session
