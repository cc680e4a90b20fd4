import Zet.Session.Channel

/-!
# The two sessions

`src/session/agent_session.cpp` and `client_session.cpp`: what each end keeps across all of its
connections. Both hold the streams and the seed the keys of the next connection are derived from;
the agent also keeps the seed before it, for a client whose answer to the last Resume was cut.

A connection acts on a session through a handle once its peer has proved itself. The handle is the
generation it attached with; its methods are the functions of this module that take one.
-/

namespace Zet.Session
open Zet.Core Zet.Wire

/-- `EResumeKeys`: the seed whose keys opened a Resume. -/
inductive ResumeKeys where
  | current | previous
deriving DecidableEq, Repr

/-- `AgentSession`, less its id, its authentication key and its remembered nonces. -/
structure AgentSession (K : Type) where
  seed : K
  previousSeed : Option K
  streams : StreamState
  end_ : Option SessionEndMessage
  shouldReportOverflow : Bool
  lastKnownSize : Option ResizeMessage

namespace AgentSession
variable {K : Type}

/-- `AgentSession::AgentSession`. -/
def create (seed : K) (storage : Bytes) (now : Timestamp) (limits : SessionLimits) :
    AgentSession K :=
  ⟨seed, none, .create storage now limits .reap .onDelivery, none, false, none⟩

/-- `AgentSession::End`; the first call decides. -/
def endWith (s : AgentSession K) (message : SessionEndMessage) : AgentSession K :=
  { s with end_ := some (s.end_.getD message) }

/-- `AgentSession::Write`. -/
def write (s : AgentSession K) (output : Bytes) : Except StreamError Nat × AgentSession K :=
  let (result, streams) := s.streams.write output
  let s := { s with streams := streams }
  match result with
  | .error .disconnectBufferOverflow =>
    (result, if s.shouldReportOverflow then s.endWith ⟨.overflow, 0⟩ else s)
  | _ => (result, s)

/-- `AgentSession::InputDelivered`. -/
def inputDelivered (s : AgentSession K) (count : Nat) : Bool × AgentSession K :=
  let (ok, input) := s.streams.input.markDelivered count
  (ok, { s with streams := { s.streams with input := input } })

/-- `AgentSession::InputRejected`. -/
def inputRejected (s : AgentSession K) (count : Nat) : Bool × AgentSession K :=
  let (ok, input) := s.streams.input.unreceive count
  (ok, { s with streams := { s.streams with input := input } })

/-- `AgentSession::OnTimer`. -/
def onTimer (s : AgentSession K) (now : Timestamp) : AgentSession K :=
  { s with streams := s.streams.onTimer now }

/-- `SessionHandle::ConfirmResume`. -/
def confirmResume (P : KeySchedule K) (s : AgentSession K) (used : ResumeKeys) :
    Except StreamError (AgentSession K) :=
  match used, s.previousSeed with
  | .previous, none => .error .unknownSeed
  | .previous, some seed =>
    .ok { s with seed := P.advanceConnectionSeed seed, previousSeed := some seed }
  | .current, _ =>
    .ok { s with seed := P.advanceConnectionSeed s.seed, previousSeed := some s.seed }

/-- `SessionHandle::SetGridInfo`. -/
def setGridInfo (s : AgentSession K) (ver : Nat) (gridCapable : Bool) : AgentSession K :=
  { s with
    streams := s.streams.setOverflowMode ver gridCapable
    shouldReportOverflow := ver ≥ protocolVersionGrid && !gridCapable }

/-- `SessionHandle::IsCurrent`. -/
def isCurrent (s : AgentSession K) (handle : Nat) : Bool := s.streams.isCurrent handle

/-- `SessionHandle::Attach`: the handle attached, and the session it carries. -/
def attach (s : AgentSession K) (clientReceiveOffset : Nat) :
    Except StreamError (Nat × AgentSession K) :=
  (s.streams.attach clientReceiveOffset).map fun r => (r.1, { s with streams := r.2 })

/-- `SessionHandle::AttachPathB`. -/
def attachPathB (s : AgentSession K) : Except StreamError (Nat × AgentSession K) :=
  s.streams.attachPathB.map fun r => (r.1, { s with streams := r.2 })

/-- `SessionHandle::Detach`. -/
def detach (s : AgentSession K) (handle : Nat) (now : Timestamp) : AgentSession K :=
  { s with streams := s.streams.detach handle now }

/-- `SessionHandle::Kill`. -/
def kill (s : AgentSession K) (reason : StreamError) : AgentSession K :=
  { s with streams := s.streams.kill reason }

/-- `SessionHandle::NewGeneration`. -/
def newGeneration (s : AgentSession K) (handle : Nat) : AgentSession K :=
  if s.isCurrent handle then { s with streams := s.streams.newGeneration } else s

/-- `SessionHandle::ReportResize`. -/
def reportResize (s : AgentSession K) (handle : Nat) (size : ResizeMessage) : AgentSession K :=
  if s.isCurrent handle then { s with lastKnownSize := some size } else s

/-- The streams as a channel left them. -/
def putStreams (s : AgentSession K) (output : SendBuffer) (input : ReceiveCursor) :
    AgentSession K :=
  { s with streams := { s.streams with output := output, input := input } }

end AgentSession

/-- `ClientSession`, less its id, its authentication key and its remembered nonces. -/
structure ClientSession (K : Type) where
  seed : K
  streams : StreamState
  end_ : Option SessionEndMessage
  streamGen : Nat

namespace ClientSession
variable {K : Type}

/-- `ClientSession::ClientSession`. -/
def create (seed : K) (storage : Bytes) (now : Timestamp) (limits : SessionLimits) :
    ClientSession K :=
  ⟨seed, .create storage now limits .backpressure .onReceipt, none, 0⟩

/-- `ClientSession::Write`. -/
def write (s : ClientSession K) (input : Bytes) : Except StreamError Nat × ClientSession K :=
  let (result, streams) := s.streams.write input
  (result, { s with streams := streams })

/-- `ClientSessionHandle::ConfirmAgentFrame`, on the first frame of a connection. -/
def confirmAgentFrame (P : KeySchedule K) (s : ClientSession K) (confirmed : Bool) :
    ClientSession K :=
  if confirmed then s else { s with seed := P.advanceConnectionSeed s.seed }

/-- `ClientSessionHandle::IsCurrent`. -/
def isCurrent (s : ClientSession K) (handle : Nat) : Bool := s.streams.isCurrent handle

/-- `ClientSessionHandle::Attach`. -/
def attach (s : ClientSession K) (agentReceiveOffset : Nat) :
    Except StreamError (Nat × ClientSession K) :=
  (s.streams.attach agentReceiveOffset).map fun r => (r.1, { s with streams := r.2 })

/-- `ClientSessionHandle::Detach`. -/
def detach (s : ClientSession K) (handle : Nat) (now : Timestamp) : ClientSession K :=
  { s with streams := s.streams.detach handle now }

/-- `ClientSessionHandle::Kill`. -/
def kill (s : ClientSession K) (reason : StreamError) : ClientSession K :=
  { s with streams := s.streams.kill reason }

/-- `ClientSessionHandle::RecordEnd`. -/
def recordEnd (s : ClientSession K) (message : SessionEndMessage) : ClientSession K :=
  { s with end_ := some (s.end_.getD message) }

/-- `ClientSessionHandle::SetStreamGen`. -/
def setStreamGen (s : ClientSession K) (gen : Nat) : ClientSession K := { s with streamGen := gen }

/-- The streams as a channel left them. -/
def putStreams (s : ClientSession K) (output : SendBuffer) (input : ReceiveCursor) :
    ClientSession K :=
  { s with streams := { s.streams with output := output, input := input } }

end ClientSession

end Zet.Session
