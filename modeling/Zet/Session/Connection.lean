import Zet.Session.Sessions

/-!
# The two ends of a connection

`src/session/connection.cpp` from the moment a Hello has been routed: the agent's end, which opens
the Resume, chooses between replay and snapshot and then carries the session, and the client's end,
which resumes and then carries the session.

`Pump` in the source drains the frames already read and then polls once. Here its two halves are two
functions: `onFrame` for one frame off the wire and `onIdle` for the poll when none is left; a call of
`Pump` is some `onFrame`s and perhaps an `onIdle`. The handshake's own messages are not modelled; its
outcome is, in `route` and `completeHandshake`: what the agent copies when it routes, and the keys and
the offset it comes to when the client has proved itself.
-/

namespace Zet.Session
open Zet.Core Zet.Wire

/-- `ConnectionEvent`. -/
inductive ConnectionEvent (K : Type) where
  | sendFrame (frame : FrameView K)
  | deliver (bytes : Bytes)
  | resized (size : ResizeMessage)
  | ended (message : SessionEndMessage)
  | idle
  | needsSnapshot (rows cols : Nat)
  | applySnapshot (bytes : Bytes) (streamGen scrollbackLen flags : Nat)
  | sessionOverflowed
deriving DecidableEq, Repr

/-- `AgentConnection::EStage`. -/
inductive AgentStage where
  | awaitHello | awaitRoute | handshake | awaitResume | awaitSnapshot | live
deriving DecidableEq, Repr

/-- `ResumeAttempt`: what the agent copied out of the session when it routed the connection. -/
structure ResumeAttempt (K : Type) where
  seed : K
  previousSeed : Option K
  serverNonce : Nat
  receiveOffset : Nat
deriving DecidableEq, Repr

/-- `AgentConnection`. -/
structure AgentConnection (K : Type) where
  failed : Option SessionError
  started : Timestamp
  stage : AgentStage
  channel : Option (Channel K)
  negotiatedVersion : Nat
  helloGridCapable : Bool
  attempt : Option (ResumeAttempt K)
  current : Option (DirectionFrames K)
  fallback : Option (DirectionFrames K)
  /-- `Handle_`: the generation it attached with, zero until it attaches. -/
  handle : Option Nat
  waitForResize : Bool
  resizeWaitDeadline : Option Timestamp
  supplySnapshotDeadline : Option Timestamp
  snapshotReminderSent : Bool
  gridAppliedDeadline : Option Timestamp

namespace AgentConnection
variable {K : Type}

/-- A connection whose Hello has been read (`AgentConnection` after `PumpHello`). -/
def create (now : Timestamp) (helloGridCapable : Bool) : AgentConnection K where
  failed := none
  started := now
  stage := .awaitRoute
  channel := none
  negotiatedVersion := protocolVersionMin
  helloGridCapable := helloGridCapable
  attempt := none
  current := none
  fallback := none
  handle := none
  waitForResize := false
  resizeWaitDeadline := none
  supplySnapshotDeadline := none
  snapshotReminderSent := false
  gridAppliedDeadline := none

/-- What a call on the connection returns, with the connection and the session after it. -/
abbrev Pumped (K : Type) :=
  Except SessionError (ConnectionEvent K) × AgentConnection K × AgentSession K

/-- `ConnectionBase::Fail`; the first error stands. -/
def fail (c : AgentConnection K) (e : SessionError) : AgentConnection K :=
  { c with failed := some (c.failed.getD e) }

/-- `AgentConnection::Refuse`. -/
def refuse (c : AgentConnection K) (s : AgentSession K) (e : SessionError) : Pumped K :=
  let failed := c.failed.getD e
  let s :=
    match failed with
    | .stream reason =>
      if failed.disposition = .killSession ∧ c.handle.isSome then s.kill reason else s
    | _ => s
  (.error failed, c.fail e, s)

/-- `ConnectionBase::HandshakeExpired`. -/
def handshakeExpired (c : AgentConnection K) (now : Timestamp) : Bool :=
  c.channel.isNone && now ≥ c.started + handshakeTimeout

/-- Whether the connection holds the session. -/
def isCurrent (c : AgentConnection K) (s : AgentSession K) : Bool :=
  match c.handle with
  | some handle => s.isCurrent handle
  | none => false

/-- `AgentConnection::Route`. -/
def route (c : AgentConnection K) (s : AgentSession K) (serverNonce : Nat) : AgentConnection K :=
  if c.stage ≠ .awaitRoute then c
  else
    { c with
      attempt := some ⟨s.seed, s.previousSeed, serverNonce, s.streams.receiveOffset⟩
      stage := .handshake }

/-- The completed branch of `AgentConnection::PumpHandshake`: the peer holds the authentication key.
The offset is the one AuthOk carries. -/
def completeHandshake (P : KeySchedule K) (c : AgentConnection K) (s : AgentSession K)
    (clientNonce version : Nat) : Option (Nat × AgentConnection K × AgentSession K) :=
  match c.stage, c.attempt with
  | .handshake, some a =>
    let frames (seed : K) := makeDirectionFrames P
      (P.deriveConnectionKeys seed clientNonce a.serverNonce) .agent maxFramesPerEpoch
      maxBytesPerEpoch
    some (a.receiveOffset,
      { c with
        negotiatedVersion := version
        current := some (frames a.seed)
        fallback := a.previousSeed.map frames
        handle := some 0
        attempt := none
        stage := .awaitResume },
      s.setGridInfo version c.helloGridCapable)
  | _, _ => none

/-- `AgentConnection::QueueEnd`. -/
def queueEnd (chan : Channel K) (s : AgentSession K) : Channel K :=
  match s.end_ with
  | some message => chan.queueSessionEnd message
  | none => chan

/-- The channel with the streams it borrows from the session. -/
def port (chan : Channel K) (s : AgentSession K) : Port K :=
  ⟨chan, s.streams.output, s.streams.input⟩

variable [DecidableEq K]

/-- Opening the Resume: the keys of the current seed first, then those of the seed before it. -/
def openResume (P : KeySchedule K) (c : AgentConnection K) (frame : FrameView K) :
    Except ProtoError (Bytes × ResumeKeys × DirectionFrames K) :=
  match c.current with
  | none => .error .authenticationFailed
  | some current =>
    match current.opener.open P frame with
    | (.ok plain, opener) => .ok (plain, .current, { current with opener := opener })
    | (.error .authenticationFailed, _) =>
      match c.fallback with
      | none => .error .authenticationFailed
      | some fallback =>
        match fallback.opener.open P frame with
        | (.ok plain, opener) => .ok (plain, .previous, { fallback with opener := opener })
        | (.error e, _) => .error e
    | (.error e, _) => .error e

omit [DecidableEq K] in
/-- Whether the peer can take a snapshot. -/
def gridCapable (c : AgentConnection K) : Bool :=
  c.negotiatedVersion ≥ protocolVersionGrid && c.helloGridCapable

omit [DecidableEq K] in
/-- The choice between replay and snapshot, once the Resume is known to be well formed. -/
def usePathB (c : AgentConnection K) (s : AgentSession K) (resume : ResumeMessage) : Bool :=
  let mandatoryB := c.gridCapable &&
    (s.streams.output.ringOverflowed || resume.streamGen < s.streams.output.sessionGen)
  if mandatoryB then true
  else if c.gridCapable && s.streams.limits.forcePath == .b then true
  else if c.gridCapable && s.streams.limits.forcePath == .none then
    let replayCost := s.streams.output.end_ - resume.clientReceiveOffset
    match s.lastKnownSize with
    | some size => replayCost > snapshotEstimateBytes size.rows size.cols
    | none => false
  else false

omit [DecidableEq K] in
/-- Attaching by the snapshot path. -/
def attachPathB (c : AgentConnection K) (s : AgentSession K) (now : Timestamp)
    (chosen : DirectionFrames K) : Pumped K :=
  match s.attachPathB with
  | .error e => c.refuse s (.stream e)
  | .ok (handle, s) =>
    let chan := Channel.create chosen s.streams.input now s.streams.limits.liveness
      c.negotiatedVersion [] 0
    (.ok .idle,
      { c with
        handle := some handle
        channel := some chan.suppressDataUntilGrid
        stage := .awaitSnapshot
        supplySnapshotDeadline := some (now + supplySnapshotTimeout)
        waitForResize := true
        resizeWaitDeadline := some (now + resizeWaitTimeout)
        snapshotReminderSent := false }, s)

omit [DecidableEq K] in
/-- Attaching by replay from what the client reports receiving. -/
def attachPathA (c : AgentConnection K) (s : AgentSession K) (now : Timestamp)
    (chosen : DirectionFrames K) (offset : Nat) : Pumped K :=
  match s.attach offset with
  | .error e =>
    if e = .sessionReaped ∧ (s.end_.map SessionEndMessage.kind) = some .overflow then
      (.ok .sessionOverflowed, c.fail (.stream e), s)
    else c.refuse s (.stream e)
  | .ok (handle, s) =>
    let chan := Channel.create chosen s.streams.input now s.streams.limits.liveness
      c.negotiatedVersion [] 0
    (.ok .idle,
      { c with handle := some handle, channel := some (queueEnd chan s), stage := .live }, s)

omit [DecidableEq K] in
/-- What follows once the Resume has been parsed. -/
def resume (P : KeySchedule K) (c : AgentConnection K) (s : AgentSession K) (now : Timestamp)
    (used : ResumeKeys) (chosen : DirectionFrames K) (message : ResumeMessage) : Pumped K :=
  match s.confirmResume P used with
  | .error e => c.refuse s (.stream e)
  | .ok s =>
    if message.streamGen > s.streams.output.sessionGen then c.refuse s (.proto .malformedField)
    else
      let pathB := c.usePathB s message
      let c := { c with current := none, fallback := none }
      if pathB then c.attachPathB s now chosen
      else c.attachPathA s now chosen message.clientReceiveOffset

/-- `AgentConnection::PumpResume`, for the frame that carries the Resume. -/
def pumpResume (P : KeySchedule K) (c : AgentConnection K) (s : AgentSession K) (now : Timestamp)
    (frame : FrameView K) : Pumped K :=
  match c.openResume P frame with
  | .error e => c.refuse s (.proto e)
  | .ok (plain, used, chosen) =>
    match parseMessageType plain with
    | .ok (.resume, body) =>
      match parseResume c.negotiatedVersion body with
      | .error e => c.refuse s (.proto e)
      | .ok (message, _) => c.resume P s now used chosen message
    | _ => c.refuse s (.proto .unexpectedMessage)

/-- `AgentConnection::PumpAwaitSnapshot`, one frame. -/
def awaitSnapshotFrame (P : KeySchedule K) (c : AgentConnection K) (s : AgentSession K)
    (chan : Channel K) (handle : Nat) (now : Timestamp) (frame : FrameView K) : Pumped K :=
  let (event, p) := (port chan s).receive P now frame
  let c := { c with channel := some p.chan }
  let s := s.putStreams p.sendBuf p.recvCursor
  match event with
  | .error e => (.error (c.failed.getD e), c.fail e, s)
  | .ok (.data bytes _) => (.ok (.deliver bytes), c, s)
  | .ok (.resize size) =>
    (.ok (.resized size),
      { c with waitForResize := false, resizeWaitDeadline := none, snapshotReminderSent := false },
      s.reportResize handle size)
  | .ok _ => (.ok .idle, c, s)

/-- `PumpLive` on the agent, one frame. -/
def liveFrame (P : KeySchedule K) (c : AgentConnection K) (s : AgentSession K) (chan : Channel K)
    (handle : Nat) (now : Timestamp) (frame : FrameView K) : Pumped K :=
  let (event, p) := (port (queueEnd chan s) s).receive P now frame
  let c := { c with
    channel := some p.chan
    gridAppliedDeadline := if p.chan.gridInFlight then c.gridAppliedDeadline else none }
  let s := s.putStreams p.sendBuf p.recvCursor
  match event with
  | .error e => (.error (c.failed.getD e), c.fail e, s)
  | .ok (.data bytes _) => (.ok (.deliver bytes), c, s)
  | .ok (.resize size) => (.ok (.resized size), c, s.reportResize handle size)
  | .ok _ => (.ok .idle, c, s)

/-- The end of `PumpAwaitSnapshot`: poll, then remind the caller once that a snapshot is needed. -/
def awaitSnapshotIdle (P : KeySchedule K) (c : AgentConnection K) (s : AgentSession K)
    (chan : Channel K) (now : Timestamp) (out scratch : Nat) : Pumped K :=
  let (written, p) := (port chan s).poll P now out scratch
  let c := { c with channel := some p.chan }
  let s := s.putStreams p.sendBuf p.recvCursor
  match written with
  | .error e => (.error (c.failed.getD e), c.fail e, s)
  | .ok (some frame) => (.ok (.sendFrame frame), c, s)
  | .ok none =>
    let expired : Bool := match c.resizeWaitDeadline with
      | some deadline => now ≥ deadline
      | none => false
    if c.waitForResize && !expired then (.ok .idle, c, s)
    else
      let c := { c with
        waitForResize := false
        resizeWaitDeadline := if c.waitForResize then none else c.resizeWaitDeadline }
      if c.snapshotReminderSent then (.ok .idle, c, s)
      else
        (.ok (.needsSnapshot ((s.lastKnownSize.map ResizeMessage.rows).getD 0)
            ((s.lastKnownSize.map ResizeMessage.cols).getD 0)),
          { c with snapshotReminderSent := true }, s)

/-- The end of `PumpLive` on the agent: poll. -/
def liveIdle (P : KeySchedule K) (c : AgentConnection K) (s : AgentSession K) (chan : Channel K)
    (now : Timestamp) (out scratch : Nat) : Pumped K :=
  let (written, p) := (port (queueEnd chan s) s).poll P now out scratch
  let c := { c with
    channel := some p.chan
    gridAppliedDeadline := if p.chan.gridInFlight then c.gridAppliedDeadline else none }
  let s := s.putStreams p.sendBuf p.recvCursor
  match written with
  | .error e => (.error (c.failed.getD e), c.fail e, s)
  | .ok (some frame) => (.ok (.sendFrame frame), c, s)
  | .ok none => (.ok .idle, c, s)

omit [DecidableEq K] in
/-- The guards `Pump` puts in front of a stage that holds the session, and the channel behind them. -/
def guarded (c : AgentConnection K) (s : AgentSession K) (deadline : Option Timestamp)
    (now : Timestamp) (k : Channel K → Nat → Pumped K) : Pumped K :=
  match c.channel, c.handle with
  | some chan, some handle =>
    if ¬s.isCurrent handle then c.refuse s (.stream .superseded)
    else
      match deadline with
      | some d => if now ≥ d then c.refuse s (.stream .handshakeTimeout) else k chan handle
      | none => k chan handle
  | _, _ => c.refuse s (.stream .superseded)

/-- `AgentConnection::Pump` on one frame off the wire. -/
def onFrame (P : KeySchedule K) (c : AgentConnection K) (s : AgentSession K) (now : Timestamp)
    (frame : FrameView K) : Pumped K :=
  match c.failed with
  | some e => (.error e, c, s)
  | none =>
    if c.handshakeExpired now then c.refuse s (.stream .handshakeTimeout)
    else
      match c.stage with
      | .awaitResume => c.pumpResume P s now frame
      | .awaitSnapshot =>
        c.guarded s c.supplySnapshotDeadline now fun chan handle =>
          c.awaitSnapshotFrame P s chan handle now frame
      | .live =>
        c.guarded s c.gridAppliedDeadline now fun chan handle =>
          c.liveFrame P s chan handle now frame
      | _ => (.ok .idle, c, s)

/-- `AgentConnection::Pump` when no frame is left. -/
def onIdle (P : KeySchedule K) (c : AgentConnection K) (s : AgentSession K) (now : Timestamp)
    (out scratch : Nat) : Pumped K :=
  match c.failed with
  | some e => (.error e, c, s)
  | none =>
    if c.handshakeExpired now then c.refuse s (.stream .handshakeTimeout)
    else
      match c.stage with
      | .awaitSnapshot =>
        c.guarded s c.supplySnapshotDeadline now fun chan _ =>
          c.awaitSnapshotIdle P s chan now out scratch
      | .live =>
        c.guarded s c.gridAppliedDeadline now fun chan _ => c.liveIdle P s chan now out scratch
      | _ => (.ok .idle, c, s)

omit [DecidableEq K] in
/-- `AgentConnection::SupplySnapshot`. -/
def supplySnapshot (c : AgentConnection K) (s : AgentSession K) (now : Timestamp)
    (snapshot : Bytes) (scrollbackLen flags : Nat) : AgentConnection K × AgentSession K :=
  match c.stage, c.channel, c.handle with
  | .awaitSnapshot, some chan, some handle =>
    if ¬s.isCurrent handle then (c, s)
    else if snapshot.isEmpty ∨ snapshot.length > snapshotMaxBytes then
      ({ c with snapshotReminderSent := false }, s)
    else
      let s := s.newGeneration handle
      let (_, chan) := chan.startGrid snapshot flags s.streams.output.sessionGen scrollbackLen
      ({ c with
        supplySnapshotDeadline := none
        channel := some (queueEnd chan s)
        gridAppliedDeadline := some (now + gridAppliedTimeout)
        stage := .live }, s)
  | _, _, _ => (c, s)

omit [DecidableEq K] in
/-- `AgentConnection::Close`. -/
def close (c : AgentConnection K) (s : AgentSession K) (now : Timestamp) : AgentSession K :=
  match c.handle with
  | some handle => s.detach handle now
  | none => s

end AgentConnection

/-- `ClientConnection::EStage`, from the Hello on. -/
inductive ClientStage where
  | handshake | live
deriving DecidableEq, Repr

/-- `ClientConnection`. -/
structure ClientConnection (K : Type) where
  failed : Option SessionError
  started : Timestamp
  stage : ClientStage
  channel : Option (Channel K)
  /-- The seed `ClientResumeAttempt` copied when the connection was made. -/
  seed : K
  clientNonce : Nat
  handle : Option Nat
  /-- `ClientSessionHandle::Confirmed_`. -/
  confirmed : Bool
  pendingResize : Option ResizeMessage
  pendingApplyGen : Option Nat
  negotiatedVersion : Nat
  snapshotBuf : Bytes

namespace ClientConnection
variable {K : Type}

/-- `ClientConnection::ClientConnection`, with the Hello sent. -/
def create (s : ClientSession K) (clientNonce : Nat) (now : Timestamp) (snapshotBuf : Bytes) :
    ClientConnection K where
  failed := none
  started := now
  stage := .handshake
  channel := none
  seed := s.seed
  clientNonce := clientNonce
  handle := none
  confirmed := false
  pendingResize := none
  pendingApplyGen := none
  negotiatedVersion := protocolVersionMin
  snapshotBuf := snapshotBuf

/-- What a call on the connection returns, with the connection and the session after it. -/
abbrev Pumped (K : Type) :=
  Except SessionError (ConnectionEvent K) × ClientConnection K × ClientSession K

/-- `ConnectionBase::Fail`. -/
def fail (c : ClientConnection K) (e : SessionError) : ClientConnection K :=
  { c with failed := some (c.failed.getD e) }

/-- `ClientConnection::Refuse`. -/
def refuse (c : ClientConnection K) (s : ClientSession K) (e : SessionError) : Pumped K :=
  let failed := c.failed.getD e
  let s :=
    match failed with
    | .stream reason =>
      if failed.disposition = .killSession ∧ c.handle.isSome then s.kill reason else s
    | _ => s
  (.error failed, c.fail e, s)

/-- `ConnectionBase::HandshakeExpired`. -/
def handshakeExpired (c : ClientConnection K) (now : Timestamp) : Bool :=
  c.channel.isNone && now ≥ c.started + handshakeTimeout

/-- `ClientConnection::QueueResize`. -/
def queueResize (c : ClientConnection K) (size : ResizeMessage) : ClientConnection K :=
  match c.channel with
  | some chan => { c with channel := some (chan.queueResize size) }
  | none => { c with pendingResize := some size }

/-- The channel with the streams it borrows from the session. -/
def port (chan : Channel K) (s : ClientSession K) : Port K :=
  ⟨chan, s.streams.output, s.streams.input⟩

/-- `ClientConnection::SendResume`: AuthOk checked out and said what the agent holds. -/
def sendResume (P : KeySchedule K) (c : ClientConnection K) (s : ClientSession K) (now : Timestamp)
    (out version serverNonce peerReceiveOffset : Nat) : Pumped K :=
  match c.failed with
  | some e => (.error e, c, s)
  | none =>
    if c.handshakeExpired now then c.refuse s (.stream .handshakeTimeout)
    else
      let c := { c with handle := some 0 }
      match s.attach peerReceiveOffset with
      | .error e => c.refuse s (.stream e)
      | .ok (handle, s) =>
        let c := { c with handle := some handle, negotiatedVersion := version }
        let frames := makeDirectionFrames P (P.deriveConnectionKeys c.seed c.clientNonce serverNonce)
          .client maxFramesPerEpoch maxBytesPerEpoch
        let streamGen := if version ≥ protocolVersionGrid then s.streamGen else 0
        match writeInto 13 (writeResume ⟨streamGen, s.streams.receiveOffset⟩ version) with
        | .error e => c.refuse s (.proto e)
        | .ok plain =>
          match frames.sealer.seal out plain with
          | .error e => c.refuse s (.proto e)
          | .ok (frame, sealer) =>
            let chan := Channel.create { frames with sealer := sealer } s.streams.input now
              s.streams.limits.liveness version c.snapshotBuf streamGen
            let chan := match c.pendingResize with
              | some size => chan.queueResize size
              | none => chan
            (.ok (.sendFrame frame),
              { c with channel := some chan, pendingResize := none, stage := .live }, s)

variable [DecidableEq K]

/-- `PumpLive` on the client, one frame. -/
def liveFrame (P : KeySchedule K) (c : ClientConnection K) (s : ClientSession K) (chan : Channel K)
    (now : Timestamp) (frame : FrameView K) : Pumped K :=
  let (event, p) := (port chan s).receive P now frame
  let c := { c with channel := some p.chan }
  let s := s.putStreams p.sendBuf p.recvCursor
  match event with
  | .error e => (.error (c.failed.getD e), c.fail e, s)
  | .ok event =>
    let s := s.confirmAgentFrame P c.confirmed
    let c := { c with confirmed := true }
    match event with
    | .data bytes _ => (.ok (.deliver bytes), c, s)
    | .resize size => (.ok (.resized size), c, s)
    | .sessionEnd message =>
      if message.kind = .overflow then (.ok .sessionOverflowed, c, s.recordEnd ⟨.overflow, 0⟩)
      else (.ok (.ended message), c, s.recordEnd message)
    | .gridSnapshot bytes streamGen scrollbackLen flags =>
      (.ok (.applySnapshot bytes streamGen scrollbackLen flags),
        { c with pendingApplyGen := some streamGen }, s)
    | _ => (.ok .idle, c, s)

omit [DecidableEq K] in
/-- The end of `PumpLive` on the client: poll. -/
def liveIdle (P : KeySchedule K) (c : ClientConnection K) (s : ClientSession K) (chan : Channel K)
    (now : Timestamp) (out scratch : Nat) : Pumped K :=
  let (written, p) := (port chan s).poll P now out scratch
  let c := { c with channel := some p.chan }
  let s := s.putStreams p.sendBuf p.recvCursor
  match written with
  | .error e => (.error (c.failed.getD e), c.fail e, s)
  | .ok (some frame) => (.ok (.sendFrame frame), c, s)
  | .ok none => (.ok .idle, c, s)

omit [DecidableEq K] in
/-- The guards `Pump` puts in front of the live stage. -/
def guarded (c : ClientConnection K) (s : ClientSession K) (now : Timestamp)
    (k : Channel K → Pumped K) : Pumped K :=
  match c.failed with
  | some e => (.error e, c, s)
  | none =>
    if c.handshakeExpired now then c.refuse s (.stream .handshakeTimeout)
    else
      match c.stage, c.channel, c.handle with
      | .live, some chan, some handle =>
        if ¬s.isCurrent handle then c.refuse s (.stream .superseded) else k chan
      | _, _, _ => (.ok .idle, c, s)

/-- `ClientConnection::Pump` on one sealed frame off the wire. -/
def onFrame (P : KeySchedule K) (c : ClientConnection K) (s : ClientSession K) (now : Timestamp)
    (frame : FrameView K) : Pumped K :=
  c.guarded s now fun chan => c.liveFrame P s chan now frame

omit [DecidableEq K] in
/-- `ClientConnection::Pump` when no frame is left. -/
def onIdle (P : KeySchedule K) (c : ClientConnection K) (s : ClientSession K) (now : Timestamp)
    (out scratch : Nat) : Pumped K :=
  c.guarded s now fun chan => c.liveIdle P s chan now out scratch

omit [DecidableEq K] in
/-- `ClientConnection::ConfirmApply`. -/
def confirmApply (c : ClientConnection K) (s : ClientSession K) (gen : Nat) :
    ClientConnection K × ClientSession K :=
  if c.pendingApplyGen ≠ some gen then (c, s)
  else
    let c := { c with
      pendingApplyGen := none, channel := c.channel.map fun chan => Channel.queueGridApplied chan gen }
    match c.handle with
    | some handle => if s.isCurrent handle then (c, s.setStreamGen gen) else (c, s)
    | none => (c, s)

omit [DecidableEq K] in
/-- `ClientConnection::DenyApply`. -/
def denyApply (c : ClientConnection K) (gen : Nat) : ClientConnection K :=
  if c.pendingApplyGen ≠ some gen then c else { c with pendingApplyGen := none }

omit [DecidableEq K] in
/-- `ClientConnection::Close`. -/
def close (c : ClientConnection K) (s : ClientSession K) (now : Timestamp) : ClientSession K :=
  match c.handle with
  | some handle => s.detach handle now
  | none => s

end ClientConnection

end Zet.Session
