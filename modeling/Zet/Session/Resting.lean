import Zet.Session.ConnectionSpec
import Zet.Session.Emission
import Zet.Session.Opening
import Zet.Session.Timers

/-!
# A connection at rest

`AgentConnection::NextDeadline`: the timers of the channel, or of the handshake before there is one, and
three of the connection's own: the wait for a Resize, the wait for a snapshot and the wait for its
GridApplied. Each is armed in one stage and cleared in another.

`AgentConnection.Timed` says which of them each stage may have. Every call keeps it (`Keeps`), and a call
that has nothing to do has named a time later than now, until which another call has nothing to do either
(`Rests`).
-/

namespace Zet.Session
open Zet.Core Zet.Wire Zet.Lib

variable {K : Type}

/-- `AgentConnection::NextDeadline`, once the peer has proved itself. -/
def AgentConnection.nextDeadline (c : AgentConnection K) : Deadline :=
  let base : Deadline :=
    if c.failed.isSome then none
    else
      match c.channel with
      | some chan => chan.nextDeadline
      | none => some (c.started + handshakeTimeout)
  earliest (earliest (earliest base c.resizeWaitDeadline) c.supplySnapshotDeadline)
    c.gridAppliedDeadline

/-- Keys nothing has been sealed with. -/
structure UnusedKeys (s : FrameSealer K) : Prop where
  frames : s.frameLimit = maxFramesPerEpoch
  bytes : s.byteLimit = maxBytesPerEpoch
  counter : s.counter = 0
  bytesSealed : s.bytesSealed = 0

/-- What the shell writes is no input. -/
lemma StreamState.write_input (s : StreamState) (bytes : Bytes) : (s.write bytes).2.input = s.input := by
  have hwrote := s.write_cases bytes
  generalize s.write bytes = out at hwrote ⊢
  cases hwrote with
  | reaped =>
    unfold reap
    split <;> rfl
  | _ => rfl

/-- The input of the session is well formed, and no less of it is disposed of. -/
structure AgentSession.Advances (s s' : AgentSession K) : Prop where
  valid : s'.streams.input.Valid
  grows : s.streams.input.ackOffset ≤ s'.streams.input.ackOffset

/-- A step that leaves the input alone advances it. -/
lemma AgentSession.Advances.same {s s' : AgentSession K} (valid : s.streams.input.Valid)
    (input : s'.streams.input = s.streams.input) : s.Advances s' :=
  ⟨input ▸ valid, by rw [input]⟩

/-- Advances compose. -/
lemma AgentSession.Advances.trans {s s' s'' : AgentSession K} (h : s.Advances s')
    (h' : s'.Advances s'') : s.Advances s'' :=
  ⟨h'.valid, h.grows.trans h'.grows⟩

namespace AgentConnection

/-- Each stage has the timers it needs and no other; `asked` says whether a snapshot was asked for. -/
structure Timed (c : AgentConnection K) (input : ReceiveCursor) (asked : Bool) : Prop where
  stage : c.stage = .awaitResume ∨ c.stage = .awaitSnapshot ∨ c.stage = .live
  resume : c.stage = .awaitResume → c.channel = none ∧ c.resizeWaitDeadline = none ∧
    c.supplySnapshotDeadline = none ∧ c.gridAppliedDeadline = none ∧ asked = false
  keys : c.stage = .awaitResume → ∀ frames, c.current = some frames ∨ c.fallback = some frames →
    frames.role = .agent ∧ UnusedKeys frames.sealer
  snapshot : c.stage = .awaitSnapshot → c.gridAppliedDeadline = none ∧
    (c.waitForResize = false → c.resizeWaitDeadline = none) ∧ (asked = true → c.waitForResize = false)
  live : c.stage = .live → c.supplySnapshotDeadline = none ∧ c.resizeWaitDeadline = none
  chan : ∀ chan, c.channel = some chan → chan.Timed input ∧ chan.role = .agent

variable {c c' : AgentConnection K} {s s' : AgentSession K} {asked : Bool} {now t : Timestamp}
  {out scratch : Nat}

/-- A connection that fails has nothing left to time. -/
lemma Timed.fail {input : ReceiveCursor} (h : c.Timed input asked) (e : SessionError) :
    (c.fail e).Timed input asked :=
  ⟨h.stage, h.resume, h.keys, h.snapshot, h.live, h.chan⟩

/-- A timed connection stays timed as the input advances. -/
lemma Timed.advance {input input' : ReceiveCursor} (h : c.Timed input asked)
    (grows : input.ackOffset ≤ input'.ackOffset) : c.Timed input' asked :=
  ⟨h.stage, h.resume, h.keys, h.snapshot, h.live, fun chan hchan =>
    ⟨(h.chan chan hchan).1.advance grows, (h.chan chan hchan).2⟩⟩

/-- Queueing the end of the session touches no timer. -/
lemma queueEnd_timed {chan : Channel K} {input : ReceiveCursor}
    (h : chan.Timed input ∧ chan.role = .agent) (s : AgentSession K) :
    (queueEnd chan s).Timed input ∧ (queueEnd chan s).role = .agent := by
  unfold queueEnd
  split
  · exact ⟨h.1.same rfl rfl rfl, h.2⟩
  · exact h

/-- Queueing the end of the session twice is queueing it once. -/
lemma queueEnd_again {chan chan' : Channel K} {s : AgentSession K}
    (same : chan'.pendingEnd = (queueEnd chan s).pendingEnd) : queueEnd chan' s = chan' := by
  unfold queueEnd at same ⊢
  cases hend : s.end_ with
  | none => rfl
  | some message =>
    rw [hend] at same
    simp only [Channel.queueSessionEnd] at same ⊢
    rw [same]
    cases chan'
    simp_all

/-- A poll with nothing to send leaves the streams and what is queued alone. -/
lemma poll_none {P : KeySchedule K} {p q : Port K} (h : p.poll P now out scratch = (.ok none, q)) :
    q.sendBuf = p.sendBuf ∧ q.recvCursor = p.recvCursor ∧ q.chan.pendingEnd = p.chan.pendingEnd ∧
      q.chan.gridInFlight = p.chan.gridInFlight := by
  have hpolls := Port.poll_polls P p now out scratch
  rw [h] at hpolls
  cases hpolls with
  | silent start since keys answer after =>
    dsimp only at after
    rw [after]
    exact ⟨rfl, rfl, rfl, rfl⟩
  | sent start since keys turn sealed answer after => cases answer

/-- The streams as a poll with nothing to send left them. -/
lemma putStreams_same {p : Port K} (sendBuf : p.sendBuf = s.streams.output)
    (recvCursor : p.recvCursor = s.streams.input) : s.putStreams p.sendBuf p.recvCursor = s := by
  rw [sendBuf, recvCursor]
  rfl

/-- The deadline of a connection that has a channel and has not failed. -/
lemma nextDeadline_later {chan : Channel K} (hfail : c.failed = none) (hchan : c.channel = some chan) :
    c.nextDeadline.Later t ↔ ((chan.nextDeadline.Later t ∧ Deadline.Later c.resizeWaitDeadline t) ∧
      Deadline.Later c.supplySnapshotDeadline t) ∧ Deadline.Later c.gridAppliedDeadline t := by
  rw [nextDeadline, hfail, hchan, later_earliest, later_earliest, later_earliest]
  rfl

/-- What a call that is idle comes to: it is before the next deadline, and so is nothing that happens
until then. -/
structure Rests (P : KeySchedule K) (c : AgentConnection K) (s : AgentSession K) (now : Timestamp)
    (out scratch : Nat) : Prop where
  alive : c.failed = none
  later : c.nextDeadline.Later now
  again : ∀ t, c.nextDeadline.Later t → c.handshakeExpired t = false ∧
    c.onIdle P s t out scratch = (.ok .idle, c, s)

/-- Behind the guards, before the deadline. -/
lemma guarded_before {chan : Channel K} {handle : Nat} {deadline : Deadline}
    {k : Channel K → Nat → Pumped K} (hchan : c.channel = some chan) (hhandle : c.handle = some handle)
    (hcur : s.isCurrent handle = true) (later : deadline.Later t) :
    c.guarded s deadline t k = k chan handle := by
  unfold guarded
  rw [hchan, hhandle]
  simp only [hcur, not_true_eq_false, if_false]
  split
  next d => rw [if_neg (Nat.not_le.mpr (later d rfl))]
  next => rfl

/-- A guarded call that is idle was made, and before the deadline. -/
lemma guarded_idle {deadline : Deadline} {k : Channel K → Nat → Pumped K}
    (h : c.guarded s deadline now k = (.ok .idle, c', s')) :
    ∃ chan handle, c.channel = some chan ∧ c.handle = some handle ∧ s.isCurrent handle = true ∧
      deadline.Later now ∧ k chan handle = (.ok .idle, c', s') := by
  unfold guarded at h
  split at h
  next chan handle hchan hhandle =>
    split at h
    · cases h
    next hcur =>
    have hcur : s.isCurrent handle = true := by simpa using hcur
    split at h
    next d =>
      split at h
      · cases h
      next hearly =>
        exact ⟨chan, handle, hchan, hhandle, hcur, later_some.mpr (Nat.not_le.mp hearly), h⟩
    next => exact ⟨chan, handle, hchan, hhandle, hcur, later_none, h⟩
  next => cases h

/-- The time limit on the handshake is off once there is a channel. -/
lemma not_expired_of_channel {chan : Channel K} (hchan : c.channel = some chan) (t : Timestamp) :
    c.handshakeExpired t = false := by
  rw [handshakeExpired, hchan]
  rfl

/-- Waiting for a snapshot. -/
lemma awaitSnapshotIdle_rests (P : KeySchedule K) {chan : Channel K} {handle : Nat}
    (timed : c.Timed s.streams.input asked) (hfail : c.failed = none)
    (hstage : c.stage = .awaitSnapshot) (hchan : c.channel = some chan)
    (hhandle : c.handle = some handle) (hcur : s.isCurrent handle = true)
    (hsupply : Deadline.Later c.supplySnapshotDeadline now)
    (h : c.awaitSnapshotIdle P s chan now out scratch = (.ok .idle, c', s')) :
    Rests P c' s' now out scratch := by
  obtain ⟨happlied, hresize, -⟩ := timed.snapshot hstage
  unfold awaitSnapshotIdle at h
  dsimp only at h
  rcases hpoll : (port chan s).poll P now out scratch with ⟨written, q⟩
  rw [hpoll] at h
  dsimp only at h
  split at h
  · cases h
  · cases h
  obtain ⟨-, hlater, hagain⟩ := Port.poll_waits P (timed.chan chan hchan).1 hpoll
  obtain ⟨hsend, hrecv, -, -⟩ := poll_none hpoll
  have hsame : s.putStreams q.sendBuf q.recvCursor = s := putStreams_same hsend hrecv
  have hport : port q.chan s = q := by
    obtain ⟨chan', sendBuf, recvCursor⟩ := q
    simp only [port] at hsend hrecv ⊢
    rw [hsend, hrecv]
  rw [hsame] at h
  -- what is the same whether or not a Resize is still waited for
  have hrests : ∀ d : AgentConnection K, d.failed = none → d.stage = .awaitSnapshot →
      d.channel = some q.chan → d.handle = some handle → d.gridAppliedDeadline = none →
      d.supplySnapshotDeadline = c.supplySnapshotDeadline → Deadline.Later d.resizeWaitDeadline now →
      (∀ t, Deadline.Later d.resizeWaitDeadline t → q.chan.nextDeadline.Later t →
        d.awaitSnapshotIdle P s q.chan t out scratch = (.ok .idle, d, s)) →
      Rests P d s now out scratch := by
    intro d hdfail hdstage hdchan hdhandle hdapplied hdsupply hdresize hidle
    refine ⟨hdfail, ?_, fun t ht => ⟨not_expired_of_channel hdchan t, ?_⟩⟩
    · rw [nextDeadline_later hdfail hdchan, hdapplied, hdsupply]
      exact ⟨⟨⟨hlater, hdresize⟩, hsupply⟩, later_none⟩
    · obtain ⟨⟨⟨hpoll', hresize'⟩, hsupply'⟩, -⟩ := (nextDeadline_later hdfail hdchan).mp ht
      rw [onIdle, hdfail]
      simp only [not_expired_of_channel hdchan t, Bool.false_eq_true, if_false, hdstage]
      rw [guarded_before hdchan hdhandle hcur hsupply']
      exact hidle t hresize' hpoll'
  have hagain' : ∀ t, q.chan.nextDeadline.Later t →
      (port q.chan s).poll P t out scratch = (.ok none, q) := by
    intro t ht
    rw [hport]
    exact hagain t ht
  have hidle : ∀ d : AgentConnection K, d.channel = some q.chan → d.waitForResize = false →
      d.resizeWaitDeadline = none → d.snapshotReminderSent = true → ∀ t, q.chan.nextDeadline.Later t →
      d.awaitSnapshotIdle P s q.chan t out scratch = (.ok .idle, d, s) := by
    intro d hdchan hdwait hdresize hdsent t ht
    unfold awaitSnapshotIdle
    obtain ⟨⟩ := d
    simp_all
  cases hwait : c.waitForResize with
  | false =>
    have hnone := hresize hwait
    simp only [hwait, Bool.false_and, Bool.false_eq_true, if_false] at h
    split at h
    · next hsent =>
      cases h
      refine hrests _ hfail hstage rfl hhandle happlied rfl (by rw [hnone]; exact later_none) ?_
      intro t _
      apply hidle _ rfl rfl
      · exact hnone
      · exact hsent
    · cases h
  | true =>
    cases hd : c.resizeWaitDeadline with
    | none =>
      simp only [hwait, hd, Bool.not_false, Bool.and_self, if_true] at h
      cases h
      refine hrests _ hfail hstage rfl hhandle happlied rfl later_none fun t _ hpoll' => ?_
      unfold awaitSnapshotIdle
      simp only [hagain' t hpoll', hsame, Bool.not_false, Bool.and_self, if_true]
    | some d =>
      by_cases hlate : now ≥ d
      · simp only [hwait, hd, decide_eq_true hlate, Bool.not_true, Bool.and_false,
          Bool.false_eq_true, if_false, if_true] at h
        split at h
        · next hsent =>
          cases h
          refine hrests _ hfail hstage rfl hhandle happlied rfl later_none ?_
          intro t _
          apply hidle _ rfl rfl rfl
          exact hsent
        · cases h
      · simp only [hwait, hd, decide_eq_false hlate, Bool.not_false, Bool.and_self, if_true] at h
        cases h
        refine hrests _ hfail hstage rfl hhandle happlied rfl (later_some.mpr (Nat.not_le.mp hlate))
          fun t ht hpoll' => ?_
        unfold awaitSnapshotIdle
        simp only [hagain' t hpoll', decide_eq_false (Nat.not_le.mpr (later_some.mp ht)), hsame,
          Bool.not_false, Bool.and_self, if_true]

/-- Carrying the session. -/
lemma liveIdle_rests (P : KeySchedule K) {chan : Channel K} {handle : Nat}
    (timed : c.Timed s.streams.input asked) (hfail : c.failed = none) (hstage : c.stage = .live)
    (hchan : c.channel = some chan) (hhandle : c.handle = some handle)
    (hcur : s.isCurrent handle = true) (happlied : Deadline.Later c.gridAppliedDeadline now)
    (h : c.liveIdle P s chan now out scratch = (.ok .idle, c', s')) :
    Rests P c' s' now out scratch := by
  obtain ⟨hsupply, hresize⟩ := timed.live hstage
  have htimed := (queueEnd_timed (timed.chan chan hchan) s).1
  unfold liveIdle at h
  dsimp only at h
  rcases hpoll : (port (queueEnd chan s) s).poll P now out scratch with ⟨written, q⟩
  rw [hpoll] at h
  dsimp only at h
  split at h
  · cases h
  · cases h
  obtain ⟨-, hlater, hagain⟩ := Port.poll_waits P htimed hpoll
  obtain ⟨hsend, hrecv, hend, -⟩ := poll_none hpoll
  have hsame : s.putStreams q.sendBuf q.recvCursor = s := putStreams_same hsend hrecv
  have hport : port (queueEnd q.chan s) s = q := by
    rw [queueEnd_again hend]
    obtain ⟨chan', sendBuf, recvCursor⟩ := q
    simp only [port] at hsend hrecv ⊢
    rw [hsend, hrecv]
  rw [hsame] at h
  cases h
  have hgrid : Deadline.Later (if q.chan.gridInFlight = true then c.gridAppliedDeadline else none)
      now := by
    split
    · exact happlied
    · exact later_none
  obtain ⟨d, hd⟩ : ∃ d : AgentConnection K, d = { c with
      channel := some q.chan
      gridAppliedDeadline := if q.chan.gridInFlight then c.gridAppliedDeadline else none } := ⟨_, rfl⟩
  rw [← hd]
  have hdfail : d.failed = none := by rw [hd]; exact hfail
  have hdstage : d.stage = .live := by rw [hd]; exact hstage
  have hdchan : d.channel = some q.chan := by rw [hd]
  have hdhandle : d.handle = some handle := by rw [hd]; exact hhandle
  have hdgrid : (if q.chan.gridInFlight then d.gridAppliedDeadline else none) = d.gridAppliedDeadline := by
    rw [hd]
    dsimp only
    split <;> rfl
  refine ⟨hdfail, ?_, fun t ht => ⟨not_expired_of_channel hdchan t, ?_⟩⟩
  · rw [nextDeadline_later hdfail hdchan, hd]
    exact ⟨⟨⟨hlater, by rw [hresize]; exact later_none⟩, by rw [hsupply]; exact later_none⟩, hgrid⟩
  · obtain ⟨⟨⟨hpoll', -⟩, -⟩, hgrid'⟩ := (nextDeadline_later hdfail hdchan).mp ht
    rw [onIdle, hdfail]
    simp only [not_expired_of_channel hdchan t, Bool.false_eq_true, if_false, hdstage]
    rw [guarded_before hdchan hdhandle hcur hgrid']
    unfold liveIdle
    simp only [hport, hagain t hpoll', hsame, hdgrid, ← hdchan]

/-- Any stage. -/
lemma onIdle_rests (P : KeySchedule K) (timed : c.Timed s.streams.input asked) (hfail : c.failed = none)
    (h : c.onIdle P s now out scratch = (.ok .idle, c', s')) : Rests P c' s' now out scratch := by
  unfold onIdle at h
  rw [hfail] at h
  dsimp only at h
  split at h
  · cases h
  next hearly =>
  rcases timed.stage with hstage | hstage | hstage
  · rw [hstage] at h
    cases h
    obtain ⟨hchan, hresize, hsupply, happlied, -⟩ := timed.resume hstage
    have hnext : ∀ t, c.nextDeadline.Later t ↔ t < c.started + handshakeTimeout := by
      intro t
      rw [nextDeadline, hfail, hchan, hresize, hsupply, happlied]
      exact later_some
    have hexpired : ∀ t, c.handshakeExpired t = false ↔ t < c.started + handshakeTimeout := by
      intro t
      rw [handshakeExpired, hchan]
      simp
    refine ⟨hfail, (hnext now).mpr ((hexpired now).mp (by simpa using hearly)), fun t ht => ?_⟩
    have hnot := (hexpired t).mpr ((hnext t).mp ht)
    refine ⟨hnot, ?_⟩
    rw [onIdle, hfail]
    simp only [hnot, Bool.false_eq_true, if_false, hstage]
  · rw [hstage] at h
    obtain ⟨chan, handle, hchan, hhandle, hcur, hlater, h⟩ := guarded_idle h
    exact awaitSnapshotIdle_rests P timed hfail hstage hchan hhandle hcur hlater h
  · rw [hstage] at h
    obtain ⟨chan, handle, hchan, hhandle, hcur, hlater, h⟩ := guarded_idle h
    exact liveIdle_rests P timed hfail hstage hchan hhandle hcur hlater h

/-- A channel just made for a snapshot has nothing to say before a timer. -/
lemma suppressed_still (P : KeySchedule K) (s : AgentSession K) {chosen : DirectionFrames K} (version : Nat)
    (role : chosen.role = .agent) (unused : UnusedKeys chosen.sealer) (room : connectionOutSize ≤ out)
    {chan : Channel K} (hchan : chan = (Channel.create chosen s.streams.input now
      s.streams.limits.liveness version [] 0).suppressDataUntilGrid) :
    chan.nextDeadline.Later now ∧ ∀ t, chan.nextDeadline.Later t →
      (port chan s).poll P t out scratch = (.ok none, port chan s) := by
  have hrekey : chosen.sealer.needsRekey = false := by
    simp [FrameSealer.needsRekey, unused.frames, unused.bytes, unused.counter, unused.bytesSealed,
      maxFramesPerEpoch, maxBytesPerEpoch]
  have hfields : chan.sealer = chosen.sealer ∧ chan.sendGateClosed = false ∧
      chan.ackPendingSince = none ∧ chan.lastAckedOffset = s.streams.input.ackOffset ∧
      chan.epochStart = now ∧ chan.lastSent = now ∧ chan.lastHeard = now ∧
      chan.pendingPong = none ∧ chan.pendingGridApplied = none ∧ chan.gridEmitting = none ∧
      chan.awaitingSnapshotSupply = true ∧ chan.pendingEnd = none ∧ chan.pendingResize = none ∧
      chan.role = .agent := by
    rw [hchan, Channel.suppressDataUntilGrid, if_pos (by exact role)]
    exact ⟨rfl, rfl, rfl, rfl, rfl, rfl, rfl, rfl, rfl, rfl, rfl, rfl, rfl, role⟩
  obtain ⟨hsealer, hgate, hsince, hacked, hstart, hsent, hheard, hpong, happlied, hgrid, hawaits, hend,
    hresize, hrole⟩ := hfields
  have hempty : (port chan s).Empty out scratch := by
    constructor
    · simp [Port.pollPong, port, hpong]
    · simp [Port.pollGridApplied, port, happlied]
    · simp [Port.pollGrid, port, hgrid]
    · simp [Port.pollData, Port.dataSuppressed, port, hrole, hawaits]
    · simp [Port.pollSessionEnd, port, hend]
    · simp [Port.pollResize, port, hresize]
  refine ⟨?_, fun t ht => Port.poll_still P hempty (by rw [port, hsealer]; exact hrekey) hgate ?_ ?_ ht⟩
  · rw [Channel.nextDeadline_later chan hgate, hsince, hstart, hsent]
    refine ⟨⟨later_none, Nat.lt_add_of_pos_right (by decide)⟩, ?_, ?_⟩
    · rintro ⟨hpos, hdue⟩
      exact absurd hdue (Nat.not_le.mpr (Nat.lt_add_of_pos_right hpos))
    · unfold Channel.silenceDeadline
      split
      · next hboth =>
        rw [hheard]
        exact later_some.mpr (Nat.lt_add_of_pos_right hboth.2)
      · exact later_none
  · have hsizes : headerSize + 1 + tagSize ≤ connectionOutSize := by decide
    omega
  · intro t _
    unfold Port.pollAck
    simp [port, hacked]

/-- A Resume that comes to a snapshot. -/
lemma attachPathB_rests (P : KeySchedule K) {chosen : DirectionFrames K} (role : chosen.role = .agent)
    (unused : UnusedKeys chosen.sealer) (room : connectionOutSize ≤ out) (hfail : c.failed = none)
    (happlied : c.gridAppliedDeadline = none)
    (h : c.attachPathB s now chosen = (.ok .idle, c', s')) : Rests P c' s' now out scratch := by
  unfold attachPathB at h
  split at h
  · cases h
  next handle s₁ hattach =>
  cases h
  have hcur : s'.isCurrent handle = true := by
    simp only [AgentSession.attachPathB, StreamState.attachPathB] at hattach
    split at hattach
    · cases hattach
    · cases hattach
      simp [AgentSession.isCurrent, StreamState.isCurrent, StreamState.goLive]
  obtain ⟨chan, hchan⟩ : ∃ chan, chan = (Channel.create chosen s'.streams.input now
    s'.streams.limits.liveness c.negotiatedVersion [] 0).suppressDataUntilGrid := ⟨_, rfl⟩
  rw [← hchan]
  obtain ⟨hlater, hstill⟩ : chan.nextDeadline.Later now ∧ ∀ t, chan.nextDeadline.Later t →
      (port chan s').poll P t out scratch = (.ok none, port chan s') :=
    suppressed_still P s' _ role unused room hchan
  obtain ⟨d, hd⟩ : ∃ d : AgentConnection K, d = { c with
      handle := some handle
      channel := some chan
      stage := .awaitSnapshot
      supplySnapshotDeadline := some (now + supplySnapshotTimeout)
      waitForResize := true
      resizeWaitDeadline := some (now + resizeWaitTimeout)
      snapshotReminderSent := false } := ⟨_, rfl⟩
  rw [← hd]
  have hdfail : d.failed = none := by rw [hd]; exact hfail
  have hdchan : d.channel = some chan := by rw [hd]
  refine ⟨hdfail, ?_, fun t ht => ⟨not_expired_of_channel hdchan t, ?_⟩⟩
  · rw [nextDeadline_later hdfail hdchan, hd]
    refine ⟨⟨⟨hlater, ?_⟩, ?_⟩, by rw [happlied]; exact later_none⟩
    · exact later_some.mpr (Nat.lt_add_of_pos_right (by decide))
    · exact later_some.mpr (Nat.lt_add_of_pos_right (by decide))
  · obtain ⟨⟨⟨hpoll, hresize⟩, hsupply⟩, -⟩ := (nextDeadline_later hdfail hdchan).mp ht
    have hstage : d.stage = .awaitSnapshot := by rw [hd]
    rw [onIdle, hdfail]
    simp only [not_expired_of_channel hdchan t, Bool.false_eq_true, if_false, hstage]
    rw [guarded_before hdchan (by rw [hd]) hcur hsupply]
    rw [hd] at hresize ⊢
    unfold awaitSnapshotIdle
    simp only [hstill t hpoll, decide_eq_false (Nat.not_le.mpr (later_some.mp hresize)),
      Bool.not_false, Bool.and_self, if_true]
    rfl

/-- The caller is asked for a snapshot. -/
def asks : Except SessionError (ConnectionEvent K) → Bool
  | .ok (.needsSnapshot _ _) => true
  | _ => false

/-- What every call keeps. -/
structure Keeps (c : AgentConnection K) (s : AgentSession K) (asked : Bool) (res : Pumped K) : Prop where
  timed : res.2.1.Timed res.2.2.streams.input (asked || asks res.1)
  moves : s.Advances res.2.2
  started : res.2.1.started = c.started
  alive : c.failed = none → res.1 = .ok .idle → res.2.1.failed = none

/-- A call that came to no snapshot. -/
lemma Keeps.of {event : Except SessionError (ConnectionEvent K)} (silent : asks event = false)
    (timed : c'.Timed s'.streams.input asked) (moves : s.Advances s')
    (started : c'.started = c.started)
    (alive : c.failed = none → event = .ok .idle → c'.failed = none) :
    Keeps c s asked (event, c', s') :=
  ⟨by rw [silent, Bool.or_false]; exact timed, moves, started, alive⟩

/-- Refusing a frame keeps the connection timed. -/
lemma refuse_keeps (timed : c.Timed s.streams.input asked) (valid : s.streams.input.Valid)
    (e : SessionError) : Keeps c s asked (c.refuse s e) := by
  have hinput : (c.refuse s e).2.2.streams.input = s.streams.input := by
    unfold refuse
    dsimp only
    repeat' split
    · simp only [AgentSession.kill, StreamState.kill, StreamState.reap]
      split <;> rfl
    · rfl
    · rfl
  refine .of rfl ?_ ?_ rfl fun _ h => (by cases h)
  · exact hinput.symm ▸ timed.fail e
  · exact .same valid hinput

/-- So does a guarded step, if the step itself does. -/
lemma guarded_keeps {deadline : Deadline} {k : Channel K → Nat → Pumped K}
    (timed : c.Timed s.streams.input asked) (valid : s.streams.input.Valid)
    (h : ∀ chan handle, c.channel = some chan → Keeps c s asked (k chan handle)) :
    Keeps c s asked (c.guarded s deadline now k) := by
  unfold guarded
  split
  next chan handle hchan hhandle =>
    split
    · exact refuse_keeps timed valid _
    split
    next d =>
      split
      · exact refuse_keeps timed valid _
      · exact h chan handle hchan
    next => exact h chan handle hchan
  next => exact refuse_keeps timed valid _

/-- The connection as its channel left it. -/
lemma Timed.put {input input' : ReceiveCursor} (h : c.Timed input asked) {chan : Channel K}
    (holds : c.stage ≠ .awaitResume) (timed : chan.Timed input' ∧ chan.role = .agent) :
    ({ c with channel := some chan } : AgentConnection K).Timed input' asked where
  stage := h.stage
  resume := fun hstage => absurd hstage holds
  keys := h.keys
  snapshot := h.snapshot
  live := h.live
  chan := by
    rintro _ ⟨⟩
    exact timed

/-- A poll through the channel of a connection. -/
lemma poll_keeps (P : KeySchedule K) {chan : Channel K}
    (h : chan.Timed s.streams.input ∧ chan.role = .agent) (valid : s.streams.input.Valid)
    (now : Timestamp) (out scratch : Nat) {p : Port K}
    (hp : p = ((port chan s).poll P now out scratch).2) :
    (p.chan.Timed p.recvCursor ∧ p.chan.role = .agent) ∧ s.Advances (s.putStreams p.sendBuf p.recvCursor) := by
  subst hp
  obtain ⟨htimed, hcursor⟩ := Port.poll_timed P (p := port chan s) h.1 now out scratch
  refine ⟨⟨htimed, ?_⟩, .same valid hcursor⟩
  rcases Port.poll_cases P (port chan s) now out scratch with ⟨hface, -⟩ | ⟨_, _, -, -, hsends⟩
  · exact (congrArg (fun f => f.grid.role) hface).trans h.2
  · exact hsends.borrowed.1.trans h.2

section Frames
variable [DecidableEq K] (P : KeySchedule K) (now : Timestamp) (frame : FrameView K)

/-- A frame through the channel of a connection. -/
lemma receive_keeps {chan : Channel K} (h : chan.Timed s.streams.input ∧ chan.role = .agent)
    (valid : s.streams.input.Valid) {p : Port K} (hp : p = ((port chan s).receive P now frame).2) :
    (p.chan.Timed p.recvCursor ∧ p.chan.role = .agent) ∧ s.Advances (s.putStreams p.sendBuf p.recvCursor) := by
  subst hp
  obtain ⟨htimed, hvalid⟩ := Port.receive_timed P (p := port chan s) h.1 valid now frame
  have hrole := (Port.receive_cases P 0 (port chan s) now frame).borrowed.1
  exact ⟨⟨htimed, hrole.trans h.2⟩, hvalid,
    Port.receive_grows P (p := port chan s) valid h.2 now frame⟩

/-- A frame read while a snapshot is awaited keeps the connection timed. -/
lemma awaitSnapshotFrame_keeps {chan : Channel K} {handle : Nat}
    (timed : c.Timed s.streams.input asked) (valid : s.streams.input.Valid)
    (hstage : c.stage = .awaitSnapshot) (hchan : c.channel = some chan) :
    Keeps c s asked (c.awaitSnapshotFrame P s chan handle now frame) := by
  obtain ⟨htimed, hmoves⟩ := receive_keeps P now frame (timed.chan chan hchan) valid rfl
  have hput := timed.put (by rw [hstage]; decide) htimed
  unfold awaitSnapshotFrame
  dsimp only
  split
  · exact .of rfl (hput.fail _) hmoves rfl fun _ h => (by cases h)
  · exact .of rfl hput hmoves rfl fun _ h => (by cases h)
  · -- the Resize that was waited for
    next size _ =>
    have hstreams := (reportResize_streams (s.putStreams ((port chan s).receive P now frame).2.sendBuf
      ((port chan s).receive P now frame).2.recvCursor) handle size).1
    refine .of rfl ?_ ?_ rfl fun _ h => (by cases h)
    · rw [hstreams]
      exact ⟨hput.stage, fun h => absurd (hstage.symm.trans h) (by decide), hput.keys,
        fun _ => ⟨(timed.snapshot hstage).1, fun _ => rfl, fun _ => rfl⟩,
        fun h => absurd (hstage.symm.trans h) (by decide), hput.chan⟩
    · exact hmoves.trans (.same hmoves.valid (by rw [hstreams]))
  · exact .of rfl hput hmoves rfl fun hfail _ => hfail

/-- So does a frame read on a live connection. -/
lemma liveFrame_keeps {chan : Channel K} {handle : Nat}
    (timed : c.Timed s.streams.input asked) (valid : s.streams.input.Valid)
    (hstage : c.stage = .live) (hchan : c.channel = some chan) :
    Keeps c s asked (c.liveFrame P s chan handle now frame) := by
  obtain ⟨htimed, hmoves⟩ := receive_keeps P now frame (queueEnd_timed (timed.chan chan hchan) s) valid
    rfl
  have hlive : ∀ deadline, ({ c with
      channel := some ((port (queueEnd chan s) s).receive P now frame).2.chan
      gridAppliedDeadline := deadline } : AgentConnection K).Timed
      ((port (queueEnd chan s) s).receive P now frame).2.recvCursor asked := by
    intro deadline
    refine ⟨timed.stage, fun h => absurd (hstage.symm.trans h) (by decide), timed.keys,
      fun h => absurd (hstage.symm.trans h) (by decide), timed.live, ?_⟩
    rintro _ ⟨⟩
    exact htimed
  unfold liveFrame
  dsimp only
  split
  · exact .of rfl ((hlive _).fail _) hmoves rfl fun _ h => (by cases h)
  · exact .of rfl (hlive _) hmoves rfl fun _ h => (by cases h)
  · next size _ =>
    have hstreams := (reportResize_streams (s.putStreams
      ((port (queueEnd chan s) s).receive P now frame).2.sendBuf
      ((port (queueEnd chan s) s).receive P now frame).2.recvCursor) handle size).1
    refine .of rfl ?_ ?_ rfl fun _ h => (by cases h)
    · rw [hstreams]
      exact hlive _
    · exact hmoves.trans (.same hmoves.valid (by rw [hstreams]))
  · exact .of rfl (hlive _) hmoves rfl fun hfail _ => hfail

omit [DecidableEq K] in
/-- A channel just made on the input of the session. -/
lemma create_timed {chosen : DirectionFrames K} (role : chosen.role = .agent)
    (unused : UnusedKeys chosen.sealer)
    (input : ReceiveCursor) (liveness : LivenessLimits) (version : Nat) :
    (Channel.create chosen input now liveness version [] 0).Timed input ∧
      (Channel.create chosen input now liveness version [] 0).role = .agent :=
  ⟨⟨fun h => (by cases h), by rw [Channel.create, unused.frames]; decide,
    by rw [Channel.create, unused.bytes]; decide⟩, role⟩

omit [DecidableEq K] in
/-- The connection once its keys have been taken out. -/
lemma Timed.spent {input : ReceiveCursor} (h : c.Timed input asked) :
    ({ c with current := none, fallback := none } : AgentConnection K).Timed input asked where
  stage := h.stage
  resume := h.resume
  keys := by
    rintro - frames (hframes | hframes)
    · cases hframes
    · cases hframes
  snapshot := h.snapshot
  live := h.live
  chan := h.chan

omit [DecidableEq K] in
/-- Attaching on path B starts a channel that is timed. -/
lemma attachPathB_keeps {chosen : DirectionFrames K} (timed : c.Timed s.streams.input asked)
    (valid : s.streams.input.Valid) (hstage : c.stage = .awaitResume)
    (role : chosen.role = .agent) (unused : UnusedKeys chosen.sealer) : Keeps c s asked (c.attachPathB s now chosen) := by
  obtain ⟨-, -, -, happlied, hasked⟩ := timed.resume hstage
  unfold attachPathB
  split
  · exact refuse_keeps timed valid _
  next handle s' hattach =>
  have hinput : s'.streams.input = s.streams.input := by
    simp only [AgentSession.attachPathB, StreamState.attachPathB] at hattach
    split at hattach
    · cases hattach
    · cases hattach
      rfl
  refine .of rfl ⟨.inr (.inl rfl), fun h => (by cases h), fun h => (by cases h), fun _ => ?_,
    fun h => (by cases h), ?_⟩ (.same valid hinput) rfl fun hfail _ => hfail
  · exact ⟨happlied, fun h => (by cases h), fun h => (by rw [hasked] at h; cases h)⟩
  · rintro _ ⟨⟩
    have htimed := create_timed now role unused s'.streams.input s'.streams.limits.liveness
      c.negotiatedVersion
    unfold Channel.suppressDataUntilGrid
    split
    · exact ⟨htimed.1.same rfl rfl rfl, htimed.2⟩
    · exact htimed

omit [DecidableEq K] in
/-- Attaching on path A does too. -/
lemma attachPathA_keeps {chosen : DirectionFrames K} (timed : c.Timed s.streams.input asked)
    (valid : s.streams.input.Valid) (hstage : c.stage = .awaitResume)
    (role : chosen.role = .agent) (unused : UnusedKeys chosen.sealer) (offset : Nat) :
    Keeps c s asked (c.attachPathA s now chosen offset) := by
  obtain ⟨-, hresize, hsupply, -, -⟩ := timed.resume hstage
  unfold attachPathA
  split
  · split
    · exact .of rfl (timed.fail _) (.same valid rfl) rfl fun _ h => (by cases h)
    · exact refuse_keeps timed valid _
  next handle s' hattach =>
  have hinput : s'.streams.input = s.streams.input := by
    simp only [AgentSession.attach, StreamState.attach] at hattach
    repeat' split at hattach
    all_goals cases hattach
    rfl
  refine .of rfl ⟨.inr (.inr rfl), fun h => (by cases h), fun h => (by cases h),
    fun h => (by cases h), fun _ => ⟨hsupply, hresize⟩, ?_⟩ (.same valid hinput) rfl fun hfail _ => hfail
  rintro _ ⟨⟩
  exact queueEnd_timed (create_timed now role unused _ _ _) _

/-- The keys a Resume was opened with are the connection's, and nothing was sealed with them. -/
lemma openResume_unused (timed : c.Timed s.streams.input asked) (hstage : c.stage = .awaitResume)
    {plain : Bytes} {used : ResumeKeys} {chosen : DirectionFrames K}
    (h : c.openResume P frame = .ok (plain, used, chosen)) :
    chosen.role = .agent ∧ UnusedKeys chosen.sealer := by
  have hkeys := timed.keys hstage
  unfold openResume at h
  repeat' split at h
  all_goals cases h
  · next current hcurrent _ _ _ => exact hkeys current (.inl hcurrent)
  · next fallback hfallback _ _ _ => exact hkeys fallback (.inr hfallback)

/-- A Resume, or what came in its place; one that comes to a snapshot comes to a rest as well. -/
lemma pumpResume_keeps {out : Nat} (scratch : Nat) (timed : c.Timed s.streams.input asked)
    (valid : s.streams.input.Valid) (hstage : c.stage = .awaitResume) (hfail : c.failed = none)
    (room : connectionOutSize ≤ out) :
    Keeps c s asked (c.pumpResume P s now frame) ∧
      ∀ c' s', c.pumpResume P s now frame = (.ok .idle, c', s') → c'.stage = .awaitSnapshot →
        Rests P c' s' now out scratch := by
  have hrefuse : ∀ e, Keeps c s asked (c.refuse s e) ∧ ∀ c' s', c.refuse s e = (.ok .idle, c', s') →
      c'.stage = .awaitSnapshot → Rests P c' s' now out scratch :=
    fun e => ⟨refuse_keeps timed valid e, fun _ _ h => (by cases h)⟩
  unfold pumpResume
  split
  · exact hrefuse _
  next plain used chosen hopen =>
  obtain ⟨hrole, hunused⟩ := openResume_unused P frame timed hstage hopen
  split
  swap; · exact hrefuse _
  split
  · exact hrefuse _
  unfold resume
  split
  · exact hrefuse _
  next message _ _ _ s₁ hconfirm =>
  obtain ⟨seed, prev, rfl⟩ := confirmResume_rest hconfirm
  dsimp only
  split
  · have hkeeps := refuse_keeps (s := { s with seed := seed, previousSeed := prev }) timed valid
      (.proto .malformedField)
    exact ⟨⟨hkeeps.timed, ⟨hkeeps.moves.valid, hkeeps.moves.grows⟩, hkeeps.started, hkeeps.alive⟩,
      fun _ _ h => (by cases h)⟩
  have hspent := timed.spent
  split
  · have hkeeps := attachPathB_keeps (s := { s with seed := seed, previousSeed := prev }) now hspent
      valid hstage hrole hunused
    refine ⟨⟨hkeeps.timed, ⟨hkeeps.moves.valid, hkeeps.moves.grows⟩, hkeeps.started, hkeeps.alive⟩,
      fun c' s' h _ => ?_⟩
    refine attachPathB_rests P hrole hunused room ?_ ?_ h
    · exact hfail
    · exact (timed.resume hstage).2.2.2.1
  · have hkeeps := attachPathA_keeps (s := { s with seed := seed, previousSeed := prev }) now hspent
      valid hstage hrole hunused message.clientReceiveOffset
    refine ⟨⟨hkeeps.timed, ⟨hkeeps.moves.valid, hkeeps.moves.grows⟩, hkeeps.started, hkeeps.alive⟩,
      fun c' s' h hsnap => ?_⟩
    unfold attachPathA at h
    repeat' split at h
    all_goals cases h
    cases hsnap

/-- A frame keeps the timers honest. -/
lemma onFrame_keeps {out : Nat} (scratch : Nat) (timed : c.Timed s.streams.input asked)
    (valid : s.streams.input.Valid) (room : connectionOutSize ≤ out) :
    Keeps c s asked (c.onFrame P s now frame) ∧
      (c.stage = .awaitResume → ∀ c' s', c.onFrame P s now frame = (.ok .idle, c', s') →
        c'.stage = .awaitSnapshot → Rests P c' s' now out scratch) := by
  unfold onFrame
  split
  next e hfail =>
    refine ⟨.of rfl timed (.same valid rfl) rfl fun h => (by rw [h] at hfail; cases hfail), fun _ _ _ h => ?_⟩
    cases h
  next hfail =>
  split
  · exact ⟨refuse_keeps timed valid _, fun _ _ _ h => (by cases h)⟩
  rcases timed.stage with hstage | hstage | hstage
  · rw [hstage]
    dsimp only
    obtain ⟨hkeeps, hrests⟩ := pumpResume_keeps P now frame scratch timed valid hstage hfail room
    exact ⟨hkeeps, fun _ => hrests⟩
  · rw [hstage]
    dsimp only
    refine ⟨guarded_keeps timed valid fun chan handle hchan => ?_, fun h => (by cases h)⟩
    exact awaitSnapshotFrame_keeps P now frame timed valid hstage hchan
  · rw [hstage]
    dsimp only
    refine ⟨guarded_keeps timed valid fun chan handle hchan => ?_, fun h => (by cases h)⟩
    exact liveFrame_keeps P now frame timed valid hstage hchan

end Frames

/-- The idle step before the snapshot keeps the connection timed. -/
lemma awaitSnapshotIdle_keeps (P : KeySchedule K) {chan : Channel K}
    (timed : c.Timed s.streams.input asked) (valid : s.streams.input.Valid)
    (hstage : c.stage = .awaitSnapshot) (hchan : c.channel = some chan) (now : Timestamp)
    (out scratch : Nat) : Keeps c s asked (c.awaitSnapshotIdle P s chan now out scratch) := by
  obtain ⟨htimed, hmoves⟩ := poll_keeps P (timed.chan chan hchan) valid now out scratch rfl
  have hput := timed.put (by rw [hstage]; decide) htimed
  -- with the wait for the Resize given up, the caller may be asked
  have hgiven : ∀ sent asked', ({ c with
      channel := some ((port chan s).poll P now out scratch).2.chan
      waitForResize := false
      resizeWaitDeadline := if c.waitForResize then none else c.resizeWaitDeadline
      snapshotReminderSent := sent } : AgentConnection K).Timed
      ((port chan s).poll P now out scratch).2.recvCursor asked' := by
    intro sent asked'
    refine ⟨timed.stage, fun h => absurd (hstage.symm.trans h) (by decide), timed.keys, fun _ => ?_,
      fun h => absurd (hstage.symm.trans h) (by decide), hput.chan⟩
    refine ⟨(timed.snapshot hstage).1, fun _ => ?_, fun _ => rfl⟩
    dsimp only
    split
    · rfl
    · next hnot => exact (timed.snapshot hstage).2.1 (by simpa using hnot)
  unfold awaitSnapshotIdle
  dsimp only
  split
  · exact .of rfl (hput.fail _) hmoves rfl fun _ h => (by cases h)
  · exact .of rfl hput hmoves rfl fun _ h => (by cases h)
  · split
    · exact .of rfl hput hmoves rfl fun hfail _ => hfail
    split
    · exact .of rfl (hgiven _ _) hmoves rfl fun hfail _ => hfail
    · exact ⟨hgiven _ _, hmoves, rfl, fun _ h => (by cases h)⟩

/-- So does the idle step of a live connection. -/
lemma liveIdle_keeps (P : KeySchedule K) {chan : Channel K}
    (timed : c.Timed s.streams.input asked) (valid : s.streams.input.Valid)
    (hstage : c.stage = .live) (hchan : c.channel = some chan) (now : Timestamp)
    (out scratch : Nat) : Keeps c s asked (c.liveIdle P s chan now out scratch) := by
  obtain ⟨htimed, hmoves⟩ := poll_keeps P (queueEnd_timed (timed.chan chan hchan) s) valid now out
    scratch rfl
  have hlive : ∀ deadline, ({ c with
      channel := some ((port (queueEnd chan s) s).poll P now out scratch).2.chan
      gridAppliedDeadline := deadline } : AgentConnection K).Timed
      ((port (queueEnd chan s) s).poll P now out scratch).2.recvCursor asked := by
    intro deadline
    refine ⟨timed.stage, fun h => absurd (hstage.symm.trans h) (by decide), timed.keys,
      fun h => absurd (hstage.symm.trans h) (by decide), timed.live, ?_⟩
    rintro _ ⟨⟩
    exact htimed
  unfold liveIdle
  dsimp only
  split
  · exact .of rfl ((hlive _).fail _) hmoves rfl fun _ h => (by cases h)
  · exact .of rfl (hlive _) hmoves rfl fun _ h => (by cases h)
  · exact .of rfl (hlive _) hmoves rfl fun hfail _ => hfail

/-- A call with no frame left keeps the timers honest. -/
lemma onIdle_keeps (P : KeySchedule K) (timed : c.Timed s.streams.input asked)
    (valid : s.streams.input.Valid) (now : Timestamp) (out scratch : Nat) :
    Keeps c s asked (c.onIdle P s now out scratch) := by
  unfold onIdle
  split
  next e hfail => exact .of rfl timed (.same valid rfl) rfl fun h => (by rw [h] at hfail; cases hfail)
  next hfail =>
  split
  · exact refuse_keeps timed valid _
  rcases timed.stage with hstage | hstage | hstage
  · rw [hstage]
    exact .of rfl timed (.same valid rfl) rfl fun _ _ => hfail
  · rw [hstage]
    exact guarded_keeps timed valid fun chan _ hchan =>
      awaitSnapshotIdle_keeps P timed valid hstage hchan now out scratch
  · rw [hstage]
    exact guarded_keeps timed valid fun chan _ hchan =>
      liveIdle_keeps P timed valid hstage hchan now out scratch

/-- A snapshot supplied when it was asked for. -/
lemma supplySnapshot_keeps (timed : c.Timed s.streams.input true) (valid : s.streams.input.Valid)
    (now : Timestamp) (snapshot : Bytes) (scrollbackLen flags : Nat) :
    (c.supplySnapshot s now snapshot scrollbackLen flags).1.Timed
        (c.supplySnapshot s now snapshot scrollbackLen flags).2.streams.input true ∧
      s.Advances (c.supplySnapshot s now snapshot scrollbackLen flags).2 ∧
      (c.supplySnapshot s now snapshot scrollbackLen flags).1.started = c.started ∧
      (c.supplySnapshot s now snapshot scrollbackLen flags).1.failed = c.failed := by
  unfold supplySnapshot
  split
  next chan handle hstage hchan hhandle =>
    split
    · exact ⟨timed, .same valid rfl, rfl, rfl⟩
    split
    · exact ⟨⟨timed.stage, timed.resume, timed.keys, timed.snapshot, timed.live, timed.chan⟩,
        .same valid rfl, rfl, rfl⟩
    have hinput : (s.newGeneration handle).streams.input = s.streams.input := by
      unfold AgentSession.newGeneration
      split <;> rfl
    have hresize : c.resizeWaitDeadline = none :=
      (timed.snapshot hstage).2.1 ((timed.snapshot hstage).2.2 rfl)
    refine ⟨⟨.inr (.inr rfl), fun h => (by cases h), fun h => (by cases h), fun h => (by cases h),
      fun _ => ⟨rfl, hresize⟩, ?_⟩, .same valid hinput, rfl, rfl⟩
    intro chan' hchan'
    obtain rfl := Option.some.inj hchan'
    rw [hinput]
    apply queueEnd_timed
    rcases chan.startGrid_cases snapshot flags (s.newGeneration handle).streams.output.sessionGen
      scrollbackLen with hno | ⟨-, -, -, -, hyes⟩
    · rw [hno]
      exact timed.chan chan hchan
    · rw [hyes]
      exact ⟨(timed.chan chan hchan).1.same rfl rfl rfl, (timed.chan chan hchan).2⟩
  next => exact ⟨timed, .same valid rfl, rfl, rfl⟩

end AgentConnection

end Zet.Session
