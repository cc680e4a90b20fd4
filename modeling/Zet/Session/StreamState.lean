import Zet.Wire.Message
import Zet.Session.ReceiveCursor

/-!
# The streams of a session

`src/session/stream_state.cpp`: the outgoing buffer, the incoming cursor and the life cycle both
sessions share. A session is detached, live under one connection at a time, or reaped for good. The
connection that attached last is the one whose `generation` is current; the ones before it find out
through `isCurrent`.

`write` is where the two ends part ways when nobody is attached: the agent reaps, or drops behind a
flag that has the next connection start a new output generation; the client holds back. The lemma
`write_cases` says everything a write can do.
-/

namespace Zet.Session
open Zet.Core Zet.Wire

/-- `RESEND_BUFFER_MAX`. -/
def resendBufferMax : Nat := 4 * 1024 * 1024
/-- `DISCONNECT_BUFFER_MAX`. -/
def disconnectBufferMax : Nat := 16 * 1024 * 1024
/-- `ACK_IDLE_DELAY`. -/
def ackIdleDelay : Duration := 200 * 1000 * 1000
/-- `DEFAULT_ORPHAN_TIMEOUT`. -/
def defaultOrphanTimeout : Duration := 30 * 60 * 1000 * 1000 * 1000
/-- `REKEY_INTERVAL`. -/
def rekeyInterval : Duration := 60 * 60 * 1000 * 1000 * 1000
/-- `HANDSHAKE_TIMEOUT`. -/
def handshakeTimeout : Duration := 5 * 1000 * 1000 * 1000
/-- `KEEPALIVE_INTERVAL`. -/
def keepaliveIntervalDefault : Duration := 5 * 1000 * 1000 * 1000
/-- `PEER_SILENCE_TIMEOUT`. -/
def peerSilenceTimeoutDefault : Duration := 15 * 1000 * 1000 * 1000
/-- `RESIZE_WAIT_TIMEOUT`. -/
def resizeWaitTimeout : Duration := 2 * 1000 * 1000 * 1000
/-- `SUPPLY_SNAPSHOT_TIMEOUT`. -/
def supplySnapshotTimeout : Duration := 30 * 1000 * 1000 * 1000
/-- `GRID_APPLIED_TIMEOUT`. -/
def gridAppliedTimeout : Duration := 30 * 1000 * 1000 * 1000

/-- `SnapshotEstimateBytes`, from `SNAPSHOT_BYTES_PER_CELL` and `SNAPSHOT_SCROLLBACK_BYTES`. -/
def snapshotEstimateBytes (rows cols : Nat) : Nat := rows * cols * 35 + 512 * 1024

/-- `LivenessLimits`; zero turns a timer off. -/
structure LivenessLimits where
  keepaliveInterval : Duration := keepaliveIntervalDefault
  peerSilenceTimeout : Duration := peerSilenceTimeoutDefault
deriving DecidableEq, Repr

/-- `EForcePath`, the test hook over the choice between replay and snapshot. -/
inductive ForcePath where
  | none | a | b
deriving DecidableEq, Repr

/-- `SessionLimits`. -/
structure SessionLimits where
  resendMax : Nat := resendBufferMax
  disconnectMax : Nat := disconnectBufferMax
  orphanTimeout : Duration := defaultOrphanTimeout
  liveness : LivenessLimits := {}
  forcePath : ForcePath := .none
deriving DecidableEq, Repr

/-- `ESessionState`. -/
inductive SessionState where
  | detached | live | reaped
deriving DecidableEq, Repr

/-- `EDetachedOverflow`. -/
inductive DetachedOverflow where
  | reap | backpressure | resync
deriving DecidableEq, Repr

/-- `StreamState`. -/
structure StreamState where
  output : SendBuffer
  input : ReceiveCursor
  limits : SessionLimits
  overflow : DetachedOverflow
  state : SessionState
  reapReason : Option StreamError
  detachedSince : Timestamp
  generation : Nat
deriving DecidableEq, Repr

namespace StreamState

/-- `StreamState::StreamState`. -/
def create (storage : Bytes) (now : Timestamp) (limits : SessionLimits)
    (overflow : DetachedOverflow) (inputAck : InputAck) : StreamState :=
  ⟨.create storage 0, .create 0 inputAck, limits, overflow, .detached, none, now, 0⟩

/-- `StreamState::Reap`. -/
def reap (s : StreamState) (reason : StreamError) : StreamState :=
  if s.state = .reaped then s else { s with state := .reaped, reapReason := some reason }

/-- How much of a write fits under the ceiling of the current state. -/
def writeRoom (s : StreamState) : Nat :=
  let ceiling := if s.state = .live then s.limits.resendMax else s.limits.disconnectMax
  min (ceiling - s.output.size) s.output.room

/-- `StreamState::Write`: how much was reported taken, and the streams after it. -/
def write (s : StreamState) (bytes : Bytes) : Except StreamError Nat × StreamState :=
  if s.state = .reaped then (.error .sessionReaped, s)
  else if s.state = .detached ∧ s.overflow = .resync ∧ s.output.ringOverflowed then
    (.ok bytes.length, s)
  else
    let room := s.writeRoom
    if bytes.length > room ∧ s.state = .detached ∧ s.overflow = .reap then
      (.error .disconnectBufferOverflow, s.reap .disconnectBufferOverflow)
    else if bytes.length > room ∧ s.state = .detached ∧ s.overflow = .resync then
      if room = 0 then (.ok bytes.length, { s with output := s.output.setRingOverflowed })
      else
        (.ok bytes.length,
          { s with output := (s.output.append (bytes.take room)).2.setRingOverflowed })
    else
      let (taken, output) := s.output.append (bytes.take (min bytes.length room))
      (.ok taken, { s with output := output })

/-- `StreamState::AcceptsWrites`. -/
def acceptsWrites (s : StreamState) : Bool :=
  match s.state with
  | .live => s.output.size < s.limits.resendMax && s.output.room > 0
  | .detached =>
    s.overflow == .reap || s.output.ringOverflowed ||
      (s.output.size < s.limits.disconnectMax && s.output.room > 0)
  | .reaped => false

/-- `StreamState::NextDeadline`. -/
def nextDeadline (s : StreamState) : Option Timestamp :=
  if s.state ≠ .detached ∨ s.limits.orphanTimeout = 0 then none
  else some (s.detachedSince + s.limits.orphanTimeout)

/-- `StreamState::OnTimer`. -/
def onTimer (s : StreamState) (now : Timestamp) : StreamState :=
  match s.nextDeadline with
  | some deadline => if now ≥ deadline then s.reap .orphanTimeout else s
  | none => s

/-- `StreamState::SetOverflowMode`. -/
def setOverflowMode (s : StreamState) (negotiatedVer : Nat) (gridCapable : Bool) : StreamState :=
  { s with overflow :=
      if negotiatedVer ≥ protocolVersionGrid ∧ gridCapable then .resync else .reap }

/-- The streams with a connection attached; its generation is the current one. -/
def goLive (s : StreamState) : StreamState :=
  { s with state := .live, generation := s.generation + 1 }

/-- `StreamState::AttachPathB`. -/
def attachPathB (s : StreamState) : Except StreamError (Nat × StreamState) :=
  if s.state = .reaped then .error .sessionReaped
  else .ok (s.generation + 1, s.goLive)

/-- `StreamState::Attach`. -/
def attach (s : StreamState) (peerReceiveOffset : Nat) : Except StreamError (Nat × StreamState) :=
  if s.state = .reaped then .error .sessionReaped
  else
    match s.output.resetSendNext peerReceiveOffset with
    | .error e => .error e
    | .ok output => .ok (s.generation + 1, { s with output := output }.goLive)

/-- `StreamState::IsCurrent`. -/
def isCurrent (s : StreamState) (generation : Nat) : Bool :=
  s.state == .live && generation == s.generation

/-- `StreamState::Detach`. -/
def detach (s : StreamState) (generation : Nat) (now : Timestamp) : StreamState :=
  if s.isCurrent generation then { s with state := .detached, detachedSince := now } else s

/-- `StreamState::NewGeneration`. -/
def newGeneration (s : StreamState) : StreamState := { s with output := s.output.newGeneration }

/-- `StreamState::Kill`. -/
def kill (s : StreamState) (reason : StreamError) : StreamState := s.reap reason

/-- `StreamState::ReceiveOffset`. -/
def receiveOffset (s : StreamState) : Nat := s.input.ackOffset

/-- Everything a write can do. Only `appended` and the start of `overflowed` reach the ring. -/
inductive Wrote (s : StreamState) (bytes : Bytes) : Except StreamError Nat × StreamState → Prop
  | refused (reaped : s.state = .reaped) : Wrote s bytes (.error .sessionReaped, s)
  | reaped (alone : s.state = .detached) (mode : s.overflow = .reap) :
      Wrote s bytes (.error .disconnectBufferOverflow, s.reap .disconnectBufferOverflow)
  | dropped (alone : s.state = .detached) (mode : s.overflow = .resync)
      (flag : s.output.ringOverflowed = true) : Wrote s bytes (.ok bytes.length, s)
  | overflowed (alone : s.state = .detached) (mode : s.overflow = .resync)
      (flag : s.output.ringOverflowed = false) :
      Wrote s bytes (.ok bytes.length,
        { s with output := (s.output.append (bytes.take s.writeRoom)).2.setRingOverflowed })
  | appended (alive : s.state ≠ .reaped)
      (open_ : s.state = .detached → s.overflow = .resync → s.output.ringOverflowed = false) :
      Wrote s bytes ((.ok (s.output.append (bytes.take s.writeRoom)).1),
        { s with output := (s.output.append (bytes.take s.writeRoom)).2 })

/-- What one write does, branch by branch. -/
theorem write_cases (s : StreamState) (bytes : Bytes) : Wrote s bytes (s.write bytes) := by
  unfold write
  split
  · next hover => exact .refused hover
  next halive =>
  split
  · next hdrop => exact .dropped hdrop.1 hdrop.2.1 hdrop.2.2
  next hnot =>
  dsimp only
  split
  · next hreap => exact .reaped hreap.2.1 hreap.2.2
  split
  · next hresync =>
    have hflag : s.output.ringOverflowed = false := by
      by_contra hf
      exact hnot ⟨hresync.2.1, hresync.2.2, by simpa using hf⟩
    have hwrote : Wrote s bytes _ := .overflowed hresync.2.1 hresync.2.2 hflag
    split
    · next hzero =>
      rw [hzero, List.take_zero] at hwrote
      simpa [SendBuffer.append] using hwrote
    · exact hwrote
  · have hmin : bytes.take (min bytes.length s.writeRoom) = bytes.take s.writeRoom := by
      rw [Nat.min_comm, ← List.take_take, List.take_length]
    rw [hmin]
    refine .appended halive ?_
    intro hd hm
    by_contra hf
    exact hnot ⟨hd, hm, by simpa using hf⟩

end StreamState

end Zet.Session
