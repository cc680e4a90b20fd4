import Zet.Session.ConnectionSpec

/-!
# Saying that the session has ended

`Channel::PollOnce` sends SessionEnd once: when it is queued, every byte of the stream is
acknowledged, and nothing of a snapshot is left to send. The last of these is not asked for in the
source; it follows from the order of the candidates as long as the snapshot can be sent at all
(`GridEmission.Sendable`). `Port.poll_ends` says all a poll does about the end, and `Farewell` what
every call keeps of it on the agent's end of a connection.
-/

namespace Zet.Session
open Zet.Core Zet.Wire

variable {K : Type}

/-- Whether a frame carries SessionEnd. -/
def endsSession (frame : FrameView K) : Bool :=
  match parseMessageType frame.body.plaintext with
  | .ok (.sessionEnd, _) => true
  | _ => false

/-- A message says that the session has ended if its type does. -/
lemma endsSession_bytes {frame : FrameView K} {m : Message} (h : frame.body.plaintext = m.bytes) :
    endsSession frame = true ↔ m.type = .sessionEnd := by
  rw [endsSession, h, Message.bytes, parseMessageType_write m.type m.body]
  cases m <;> simp [Message.type]

/-- Only SessionEnd is received as the end of the session. -/
lemma Port.receivePlain_ended {p : Port K} {plain : Bytes} {message : SessionEndMessage}
    (h : (p.receivePlain plain).1 = .ok (.sessionEnd message)) :
    ∃ body, parseMessageType plain = .ok (.sessionEnd, body) := by
  unfold Port.receivePlain at h
  split at h
  · cases h
  · cases h
  next type body htype =>
  cases type with
  | sessionEnd => exact ⟨body, htype⟩
  | data =>
    simp only [Port.receiveData, Port.deliver, Port.unexpected] at h
    repeat' split at h
    all_goals cases h
  | ack =>
    simp only [Port.receiveAck] at h
    repeat' split at h
    all_goals cases h
  | resize =>
    simp only [Port.receiveResize] at h
    repeat' split at h
    all_goals cases h
  | ping =>
    simp only [Port.receivePing] at h
    repeat' split at h
    all_goals cases h
  | pong =>
    simp only [Port.receivePong] at h
    repeat' split at h
    all_goals cases h
  | gridBegin =>
    simp only [Port.receiveGridBegin, Port.unexpected] at h
    repeat' split at h
    all_goals cases h
  | gridChunk =>
    simp only [Port.receiveGridChunk, Port.unexpected] at h
    repeat' split at h
    all_goals cases h
  | gridEnd =>
    simp only [Port.receiveGridEnd, Port.unexpected] at h
    repeat' split at h
    all_goals cases h
  | gridApplied =>
    simp only [Port.receiveGridApplied, Port.unexpected] at h
    repeat' split at h
    all_goals cases h
  | _ => cases h

/-- A SessionEnd is received from a frame that carries one. -/
lemma Port.receive_ended [DecidableEq K] {P : KeySchedule K} {p : Port K} {now : Timestamp}
    {frame : FrameView K} {message : SessionEndMessage}
    (h : (p.receive P now frame).1 = .ok (.sessionEnd message)) : endsSession frame = true := by
  unfold Port.receive at h
  split at h
  · cases h
  · next plain opener hopen =>
    obtain ⟨body, htype⟩ := Port.receivePlain_ended h
    rw [FrameOpener.open_plaintext hopen] at htype
    simp [endsSession, htype]

/-- A snapshot whose GridBegin can be written and of which no more was sent than there is. -/
structure GridEmission.Sendable (ge : GridEmission) : Prop where
  begins : ∃ plain, writeInto 14
    (writeGridBegin ⟨ge.flags, ge.streamGen, ge.scrollbackLen, ge.totalLen⟩) = .ok plain
  within : ge.bytesSent ≤ ge.totalLen

/-- Whatever the exchange is sending can be sent. -/
def GridState.Sendable (g : GridState) : Prop := ∀ ge, g.emitting = some ge → ge.Sendable

/-- A snapshot that is started can be sent. -/
lemma Channel.startGrid_sendable {c : Channel K} {snapshot : Bytes} {flags gen scrollbackLen : Nat}
    (h : c.grid.Sendable) (hflags : gridBeginFlagReserved flags = false)
    (split : scrollbackLen ≤ snapshot.length) :
    (c.startGrid snapshot flags gen scrollbackLen).2.grid.Sendable := by
  rcases c.startGrid_cases snapshot flags gen scrollbackLen with hno | ⟨-, -, hne, hmax, hyes⟩
  · rw [hno]
    exact h
  · rw [hyes]
    rintro ge ⟨⟩
    have hpos : snapshot.length ≠ 0 := fun hzero => hne (List.length_eq_zero_iff.mp hzero)
    exact ⟨writeGridBegin_ok hflags hpos hmax split, Nat.zero_le _⟩

/-- It still can when a part of it has been. -/
lemma Face.Sends.sendable {f f' : Face} {m : Message} (h : f.Sends m f') (sendable : f.grid.Sendable) :
    f'.grid.Sendable := by
  cases h with
  | gridBegin agent emitting first =>
    rintro ge ⟨⟩
    exact ⟨(sendable _ emitting).begins, (sendable _ emitting).within⟩
  | @gridChunk ge scratch agent emitting begun more =>
    rintro ge' ⟨⟩
    refine ⟨(sendable _ emitting).begins, ?_⟩
    simp only [GridEmission.nextChunk, List.length_take]
    omega
  | gridEnd =>
    rintro ge ⟨⟩
  | _ => exact sendable

/-- It still can whatever is heard. -/
lemma Face.Hears.sendable {f : Face} {said : Said} {out : Except SessionError IncomingEvent × Face}
    (h : f.Hears said out) (sendable : f.grid.Sendable) : out.2.grid.Sendable := by
  cases h with
  | data => rwa [Face.hearData_grid]
  | ack => rwa [Face.hearAck_grid]
  | _ => exact sendable

/-- The poll said nothing of the end. -/
structure Port.KeepsEnd (p : Port K) (res : Port.Polled K) : Prop where
  pending : res.2.chan.pendingEnd = p.chan.pendingEnd
  sent : res.2.chan.endSent = p.chan.endSent
  silent : ∀ frame, res.1 = .ok (some frame) → endsSession frame = false

/-- The poll sent SessionEnd. -/
structure Port.SendsEnd (p : Port K) (res : Port.Polled K) : Prop where
  frame : ∃ frame, res.1 = .ok (some frame) ∧ endsSession frame = true
  pending : p.chan.pendingEnd.isSome
  same : res.2.chan.pendingEnd = p.chan.pendingEnd
  first : p.chan.endSent = false
  sent : res.2.chan.endSent = true
  empty : p.sendBuf.size = 0
  whole : p.chan.gridEmitting = none

/-- A turn leaves what there is to say at the end, and says it or not. -/
lemma Port.Turn.ends {p : Port K} {m : Message} {done : Port K → Port K} (h : p.Turn m done)
    (q : Port K) : (done q).chan.pendingEnd = q.chan.pendingEnd ∧
      (m.type ≠ .sessionEnd → (done q).chan.endSent = q.chan.endSent) := by
  cases h with
  | sessionEnd => exact ⟨rfl, fun h => absurd rfl h⟩
  | _ => exact ⟨rfl, fun _ => rfl⟩

/-- Everything a poll of the agent does about the end. -/
theorem Port.poll_ends (P : KeySchedule K) (p : Port K) (now : Timestamp) (out scratch : Nat)
    (role : p.chan.role = .agent) (sendable : p.chan.grid.Sendable) :
    p.KeepsEnd (p.poll P now out scratch) ∨ p.SendsEnd (p.poll P now out scratch) := by
  cases Port.poll_polls P p now out scratch with
  | silent start since keys answer after =>
    refine .inl ⟨by rw [after], by rw [after], fun frame hsent => ?_⟩
    rcases answer with hnone | ⟨e, herr, -⟩
    · rw [hnone] at hsent
      cases hsent
    · rw [herr] at hsent
      cases hsent
  | @sent sealer sealer' start since m done frame keys turn sealed answer after =>
    obtain ⟨q, rfl, hafter⟩ := after
    have hframe := endsSession_bytes (FrameSealer.seal_plaintext sealed)
    obtain ⟨hpending, hsent⟩ := turn.ends { p with chan := { p.chan with
      sealer := sealer', epochStart := start, ackPendingSince := since } }
    by_cases htype : m.type = .sessionEnd
    · right
      cases turn with
      | sessionEnd due first empty behind =>
        refine ⟨⟨_, answer, hframe.mpr rfl⟩, by simp [due], by rw [hafter], first, by rw [hafter],
          empty, ?_⟩
        by_contra hsome
        obtain ⟨ge, hge⟩ := Option.ne_none_iff_exists'.mp hsome
        obtain ⟨⟨plain, hbegins⟩, hwithin⟩ := sendable ge hge
        rcases behind role ge hge with ⟨e, herr⟩ | hbeyond
        · rw [hbegins] at herr
          cases herr
        · omega
      | _ => cases htype
    · left
      refine ⟨by rw [hafter]; exact hpending, by rw [hafter]; exact hsent htype, fun _ hres => ?_⟩
      rw [answer] at hres
      cases hres
      by_contra hends
      exact htype (hframe.mp (by simpa using hends))

/-- SessionEnd goes out when nothing that comes before it does. -/
lemma Port.pollNext_sessionEnd {p : Port K} {message : SessionEndMessage} {out : Nat}
    (pending : p.chan.pendingEnd = some message) (shell : message.kind ≠ .overflow)
    (first : p.chan.endSent = false) (empty : p.sendBuf.size = 0) (sent : p.sendBuf.unsent = 0)
    (noPong : p.chan.pendingPong = none) (whole : p.chan.gridEmitting = none)
    (role : p.chan.role = .agent) (room : headerSize + 3 + tagSize ≤ out)
    (fresh : p.chan.sealer.counter < p.chan.sealer.frameLimit) (now : Timestamp) (scratch : Nat) :
    ∃ frame q, p.pollNext now out scratch = (.ok (some frame), q) ∧
      frame.body.plaintext = (Message.sessionEnd message).bytes := by
  have hpong : p.pollPong out = none := by rw [Port.pollPong, noPong]
  have happlied : p.pollGridApplied out = none := by
    unfold Port.pollGridApplied
    split
    · rfl
    · rw [if_pos (by simp [role])]
  have hgrid : p.pollGrid out scratch = none := by rw [Port.pollGrid, whole]
  have hdata : p.pollData out scratch = none := by
    rw [Port.pollData, if_pos (.inl sent)]
  have hwrite : writeInto 3 (writeSessionEnd message p.chan.version) =
      .ok (Message.sessionEnd message).bytes := by
    cases hplain : writeInto 3 (writeSessionEnd message p.chan.version) with
    | ok plain => rw [writeInto_sessionEnd hplain]
    | error e =>
      rw [writeInto, writeSessionEnd, if_neg (fun h => shell h.1), if_neg (fun h => shell h.1)] at hplain
      simp [writeMessageType, writeBE, writeBytes, bind, StateT.bind, Except.bind, Except.map] at hplain
  have hshort : (Message.sessionEnd message).bytes.length = 3 := by
    simp [Message.bytes, Message.body]
  have hroom : headerSize + ((Message.sessionEnd message).bytes.length + tagSize) ≤ out := by
    rw [hshort]
    omega
  obtain ⟨frame, sealer, hseal⟩ := FrameSealer.seal_fresh fresh (by rw [hshort]; decide) hroom
  have hend : p.pollSessionEnd out = some (p.sealThen out (Message.sessionEnd message).bytes
      fun p => { p with chan := { p.chan with endSent := true } }) := by
    rw [Port.pollSessionEnd, pending]
    simp only
    rw [if_neg (by simp [first, empty]), hwrite]
  rw [Port.pollNext, hpong, happlied, hgrid, hdata, hend, Port.sealThen, hseal]
  exact ⟨frame, _, rfl, FrameSealer.seal_plaintext hseal⟩

/-- A poll sends SessionEnd when it is all there is to send. -/
lemma Port.poll_sessionEnd (P : KeySchedule K) {p : Port K} {message : SessionEndMessage}
    {now : Timestamp} {out : Nat} (pending : p.chan.pendingEnd = some message)
    (shell : message.kind ≠ .overflow) (first : p.chan.endSent = false)
    (empty : p.sendBuf.size = 0) (sent : p.sendBuf.unsent = 0)
    (noPong : p.chan.pendingPong = none) (whole : p.chan.gridEmitting = none)
    (role : p.chan.role = .agent) (room : headerSize + 3 + tagSize ≤ out)
    (keys : p.chan.sealer.epoch < 0xFF ∧ 0 < p.chan.sealer.frameLimit)
    (heard : now < p.chan.lastHeard + p.chan.liveness.peerSilenceTimeout ∨
      p.chan.liveness.peerSilenceTimeout = 0)
    (gate : p.chan.sendGateClosed = false) (scratch : Nat) :
    ∃ frame, (p.poll P now out scratch).1 = .ok (some frame) ∧
      frame.body.plaintext = (Message.sessionEnd message).bytes := by
  have hroom : headerSize + 1 + tagSize ≤ out := by
    simp only [headerSize, tagSize] at room ⊢
    omega
  obtain ⟨sealer, start, hfresh, hpoll⟩ := Port.poll_next P keys heard gate hroom scratch
  obtain ⟨frame, q, hnext, hplain⟩ := Port.pollNext_sessionEnd
    (p := { p with chan := { p.chan with sealer := sealer, epochStart := start } })
    pending shell first empty sent noPong whole role room hfresh now scratch
  exact ⟨frame, by rw [hpoll hnext], hplain⟩

namespace AgentConnection

/-- Whether the connection's channel has sent SessionEnd. -/
def endSent (c : AgentConnection K) : Bool := (c.channel.map Channel.endSent).getD false

/-- What the connection's channel has to say at the end: only of a session that has ended, only once
it is live, and never in front of a snapshot it could not send. -/
structure Farewell (c : AgentConnection K) (ended : Option SessionEndMessage) : Prop where
  sendable : ∀ chan, c.channel = some chan → chan.grid.Sendable
  pending : ∀ chan message, c.channel = some chan → chan.pendingEnd = some message →
    ended = some message ∧ c.stage = .live

/-- What a call that sends nothing leaves. -/
structure Unsaid (c : AgentConnection K) (s : AgentSession K) (c' : AgentConnection K)
    (s' : AgentSession K) : Prop where
  farewell : c'.Farewell s'.end_
  sent : c'.endSent = c.endSent
  ended : s'.end_ = s.end_

variable {c : AgentConnection K} {s : AgentSession K} {now : Timestamp}

/-- A farewell stays one when the session ends later. -/
lemma Farewell.mono {ended ended' : Option SessionEndMessage} (h : c.Farewell ended)
    (more : ∀ message, ended = some message → ended' = some message) : c.Farewell ended' :=
  ⟨h.sendable, fun chan message hchan hpending =>
    ⟨more message (h.pending chan message hchan hpending).1,
      (h.pending chan message hchan hpending).2⟩⟩

/-- The channel and the stage are as they were. -/
lemma Farewell.unsaid (h : c.Farewell s.end_) {c' : AgentConnection K} {s' : AgentSession K}
    (channel : c'.channel = c.channel) (stage : c'.stage = c.stage) (ended : s'.end_ = s.end_) :
    Unsaid c s c' s' where
  farewell := by
    refine ⟨fun chan hchan => h.sendable chan (channel ▸ hchan), fun chan message hchan => ?_⟩
    rw [ended, stage]
    exact h.pending chan message (channel ▸ hchan)
  sent := by rw [endSent, channel, endSent]
  ended := ended

/-- The channel moved on without a word about the end. -/
lemma Farewell.moved (h : c.Farewell s.end_) {chan chan' : Channel K}
    (hchan : c.channel = some chan) (sendable : chan'.grid.Sendable)
    (pending : chan'.pendingEnd = chan.pendingEnd) (sent : chan'.endSent = chan.endSent)
    {c' : AgentConnection K} {s' : AgentSession K} (channel : c'.channel = some chan')
    (stage : c'.stage = c.stage) (ended : s'.end_ = s.end_) : Unsaid c s c' s' where
  farewell := by
    refine ⟨fun _ hc => ?_, fun _ message hc => ?_⟩
    · rw [channel] at hc
      cases hc
      exact sendable
    · rw [channel] at hc
      cases hc
      rw [ended, stage, pending]
      exact h.pending chan message hchan
  sent := by simp [endSent, channel, hchan, sent]
  ended := ended

/-- The end is queued where none was. -/
lemma queueEnd_pending (chan : Channel K) (s : AgentSession K) :
    (queueEnd chan s).pendingEnd = chan.pendingEnd.or s.end_ ∧
      (queueEnd chan s).endSent = chan.endSent := by
  unfold queueEnd
  split
  · next message hend =>
    rw [hend]
    refine ⟨?_, rfl⟩
    simp only [Channel.queueSessionEnd]
    cases chan.pendingEnd <;> rfl
  · next hend =>
    rw [hend]
    cases chan.pendingEnd <;> exact ⟨rfl, rfl⟩

/-- A live connection has the end of its session queued. -/
lemma Farewell.queue (h : c.Farewell s.end_) {chan : Channel K}
    (hchan : c.channel = some chan) (live : c.stage = .live) :
    ({ c with channel := some (queueEnd chan s) } : AgentConnection K).Farewell s.end_ := by
  obtain ⟨hpending, -⟩ := queueEnd_pending chan s
  refine ⟨?_, ?_⟩
  · rintro _ ⟨⟩
    rw [queueEnd_grid]
    exact h.sendable chan hchan
  · rintro _ message ⟨⟩ hsome
    refine ⟨?_, live⟩
    rw [hpending] at hsome
    cases hp : chan.pendingEnd with
    | some m =>
      have hm : m = message := by simpa [hp] using hsome
      exact (h.pending chan message hchan (by rw [hp, hm])).1
    | none => simpa [hp] using hsome

/-- A refusal touches neither the channel nor the end. -/
lemma refuse_end (c : AgentConnection K) (s : AgentSession K) (e : SessionError) :
    (c.refuse s e).2.1.channel = c.channel ∧ (c.refuse s e).2.1.stage = c.stage ∧
      (c.refuse s e).2.2.end_ = s.end_ := by
  refine ⟨rfl, rfl, ?_⟩
  unfold refuse
  dsimp only
  split
  · split <;> rfl
  · rfl

/-- A connection that refuses says no farewell. -/
lemma Farewell.refuse (h : c.Farewell s.end_) (e : SessionError) :
    Unsaid c s (c.refuse s e).2.1 (c.refuse s e).2.2 := by
  obtain ⟨hchan, hstage, hend⟩ := refuse_end c s e
  exact h.unsaid hchan hstage hend

/-- Reporting a size neither sets nor clears the end. -/
lemma reportResize_end (s : AgentSession K) (handle : Nat) (size : ResizeMessage) :
    (s.reportResize handle size).end_ = s.end_ := by
  unfold AgentSession.reportResize
  split <;> rfl

/-- Confirming a Resume does not. -/
lemma confirmResume_end {P : KeySchedule K} {s₁ : AgentSession K} {used : ResumeKeys}
    (h : s.confirmResume P used = .ok s₁) : s₁.end_ = s.end_ := by
  unfold AgentSession.confirmResume at h
  split at h <;> cases h <;> rfl

/-- A Resume that attaches makes a channel that has said nothing yet. -/
lemma resume_unsaid (P : KeySchedule K) (h : c.Farewell s.end_) (first : c.channel = none)
    (now : Timestamp) (used : ResumeKeys) (chosen : DirectionFrames K) (message : ResumeMessage) :
    Unsaid c s (c.resume P s now used chosen message).2.1
      (c.resume P s now used chosen message).2.2 := by
  unfold resume
  split
  · exact h.refuse _
  next s₁ hconfirm =>
  have hend := confirmResume_end hconfirm
  have refused : ∀ e, Unsaid c s
      (({ c with current := none, fallback := none }).refuse s₁ e).2.1
      (({ c with current := none, fallback := none }).refuse s₁ e).2.2 := by
    intro e
    obtain ⟨hchan, hstage, hend'⟩ := refuse_end { c with current := none, fallback := none } s₁ e
    exact h.unsaid hchan hstage (hend'.trans hend)
  split
  · obtain ⟨hchan, hstage, hend'⟩ := refuse_end c s₁ (.proto .malformedField)
    exact h.unsaid hchan hstage (hend'.trans hend)
  dsimp only
  split
  · unfold attachPathB
    split
    · exact refused _
    next handle s₂ hattach =>
    have hend₂ : s₂.end_ = s₁.end_ := by
      unfold AgentSession.attachPathB at hattach
      cases hpath : s₁.streams.attachPathB with
      | error e => simp [hpath, Except.map] at hattach
      | ok r =>
        simp only [hpath, Except.map, Except.ok.injEq, Prod.mk.injEq] at hattach
        rw [← hattach.2]
    refine ⟨⟨?_, ?_⟩, ?_, hend₂.trans hend⟩
    · rintro _ ⟨⟩ ge hge
      unfold Channel.suppressDataUntilGrid at hge
      split at hge <;> cases hge
    · rintro _ message ⟨⟩ hpending
      unfold Channel.suppressDataUntilGrid at hpending
      split at hpending <;> cases hpending
    · simp only [endSent, first, Option.map_some, Option.map_none, Option.getD_some,
        Option.getD_none]
      unfold Channel.suppressDataUntilGrid
      split <;> rfl
  · unfold attachPathA
    split
    · split
      · exact h.unsaid rfl rfl hend
      · exact refused _
    next handle s₂ hattach =>
    have hend₂ : s₂.end_ = s₁.end_ := by
      unfold AgentSession.attach at hattach
      cases hpath : s₁.streams.attach message.clientReceiveOffset with
      | error e => simp [hpath, Except.map] at hattach
      | ok r =>
        simp only [hpath, Except.map, Except.ok.injEq, Prod.mk.injEq] at hattach
        rw [← hattach.2]
    refine ⟨⟨?_, ?_⟩, ?_, hend₂.trans hend⟩
    · rintro _ ⟨⟩
      rw [queueEnd_grid]
      rintro ge ⟨⟩
    · rintro _ message ⟨⟩ hpending
      rw [(queueEnd_pending _ _).1] at hpending
      exact ⟨by simpa [Channel.create] using hpending, rfl⟩
    · simp only [endSent, first, Option.map_some, Option.map_none, Option.getD_some,
        Option.getD_none]
      exact (queueEnd_pending _ _).2

section
variable [DecidableEq K] {P : KeySchedule K} {chan : Channel K} {handle : Nat} {frame : FrameView K}

/-- A frame on a connection that waits for its snapshot is received by its port. -/
lemma awaitSnapshotFrame_rest (P : KeySchedule K) (c : AgentConnection K) (s : AgentSession K)
    (chan : Channel K) (handle : Nat) (now : Timestamp) (frame : FrameView K) :
    ((c.awaitSnapshotFrame P s chan handle now frame).2.1.channel =
      some ((port chan s).receive P now frame).2.chan) ∧
    (c.awaitSnapshotFrame P s chan handle now frame).2.1.stage = c.stage ∧
    (c.awaitSnapshotFrame P s chan handle now frame).2.2.end_ = s.end_ := by
  unfold awaitSnapshotFrame
  dsimp only
  split
  · exact ⟨rfl, rfl, rfl⟩
  · exact ⟨rfl, rfl, rfl⟩
  · exact ⟨rfl, rfl, reportResize_end _ _ _⟩
  · exact ⟨rfl, rfl, rfl⟩

/-- A frame on a live one is, once the end has been queued. -/
lemma liveFrame_rest (P : KeySchedule K) (c : AgentConnection K) (s : AgentSession K)
    (chan : Channel K) (handle : Nat) (now : Timestamp) (frame : FrameView K) :
    ((c.liveFrame P s chan handle now frame).2.1.channel =
      some ((port (queueEnd chan s) s).receive P now frame).2.chan) ∧
    (c.liveFrame P s chan handle now frame).2.1.stage = c.stage ∧
    (c.liveFrame P s chan handle now frame).2.2.end_ = s.end_ := by
  unfold liveFrame
  dsimp only
  split
  · exact ⟨rfl, rfl, rfl⟩
  · exact ⟨rfl, rfl, rfl⟩
  · exact ⟨rfl, rfl, reportResize_end _ _ _⟩
  · exact ⟨rfl, rfl, rfl⟩

/-- A frame received says nothing about the end. -/
lemma Farewell.received (h : c.Farewell s.end_) (hchan : c.channel = some chan)
    {c' : AgentConnection K} {s' : AgentSession K}
    (rest : c'.channel = some ((port chan s).receive P now frame).2.chan ∧ c'.stage = c.stage ∧
      s'.end_ = s.end_) : Unsaid c s c' s' := by
  have houtbox := Port.receive_outbox P (port chan s) now frame
  have hears := Port.receive_cases P 0 (port chan s) now frame
  simp only [Channel.outbox, Prod.mk.injEq] at houtbox
  exact h.moved hchan (hears.sendable (h.sendable chan hchan)) houtbox.2.1 houtbox.2.2 rest.1 rest.2.1
    rest.2.2

/-- A frame says nothing about the end, and leaves what there is to say. -/
theorem onFrame_unsaid (h : c.Farewell s.end_)
    (first : c.stage = .awaitResume → c.channel = none) (hfail : c.failed = none) :
    Unsaid c s (c.onFrame P s now frame).2.1 (c.onFrame P s now frame).2.2 := by
  have turned : ∀ {res : Pumped K}, Turned c s res → Unsaid c s res.2.1 res.2.2 := fun hturned =>
    h.unsaid hturned.channel hturned.stage (by rw [hturned.session])
  unfold onFrame
  rw [hfail]
  dsimp only
  split
  · exact h.refuse _
  split
  · next hstage =>
    unfold pumpResume
    split
    · exact h.refuse _
    split
    · split
      · exact h.refuse _
      · exact resume_unsaid P h (first hstage) now _ _ _
    · exact h.refuse _
  · next hstage =>
    rcases guarded_cases s c.supplySnapshotDeadline now
        (fun chan handle => c.awaitSnapshotFrame P s chan handle now frame) hfail with
      hturned | ⟨chan, handle, hchan, hhandle, hcur, heq⟩
    · exact turned hturned
    · rw [heq]
      exact h.received hchan (awaitSnapshotFrame_rest P c s chan handle now frame)
  · next hstage =>
    rcases guarded_cases s c.gridAppliedDeadline now
        (fun chan handle => c.liveFrame P s chan handle now frame) hfail with
      hturned | ⟨chan, handle, hchan, hhandle, hcur, heq⟩
    · exact turned hturned
    · rw [heq]
      have hqueued := (h.queue hchan hstage).received rfl
        (liveFrame_rest P c s chan handle now frame)
      refine ⟨hqueued.farewell, hqueued.sent.trans ?_, hqueued.ended⟩
      simp [endSent, hchan, (queueEnd_pending chan s).2]
  · exact h.unsaid rfl rfl rfl

/-- A frame is answered by the next poll, never at once. -/
lemma onFrame_silent (P : KeySchedule K) (c : AgentConnection K) (s : AgentSession K)
    (now : Timestamp) (frame sent : FrameView K) : (c.onFrame P s now frame).1 ≠ .ok (.sendFrame sent) := by
  have refused : ∀ (c : AgentConnection K) (s : AgentSession K) (e : SessionError),
      (c.refuse s e).1 ≠ .ok (.sendFrame sent) := by simp [refuse]
  have guards : ∀ (deadline : Option Timestamp) (k : Channel K → Nat → Pumped K),
      (∀ chan handle, (k chan handle).1 ≠ .ok (.sendFrame sent)) →
      (c.guarded s deadline now k).1 ≠ .ok (.sendFrame sent) := by
    intro deadline k hk
    unfold guarded
    split
    · split
      · exact refused _ _ _
      · split
        · split
          · exact refused _ _ _
          · exact hk _ _
        · exact hk _ _
    · exact refused _ _ _
  have resumed : ∀ used chosen message,
      (c.resume P s now used chosen message).1 ≠ .ok (.sendFrame sent) := by
    intro used chosen message
    unfold resume
    split
    · exact refused _ _ _
    split
    · exact refused _ _ _
    dsimp only
    split
    · unfold attachPathB
      split
      · exact refused _ _ _
      · simp
    · unfold attachPathA
      split
      · split
        · simp
        · exact refused _ _ _
      · simp
  unfold onFrame
  split
  · simp
  split
  · exact refused _ _ _
  split
  · unfold pumpResume
    split
    · exact refused _ _ _
    split
    · split
      · exact refused _ _ _
      · exact resumed _ _ _
    · exact refused _ _ _
  · refine guards _ _ fun chan handle => ?_
    unfold awaitSnapshotFrame
    dsimp only
    split <;> simp
  · refine guards _ _ fun chan handle => ?_
    unfold liveFrame
    dsimp only
    split <;> simp
  · simp

/-- What a call that sends the end finds and leaves. -/
structure Told (c : AgentConnection K) (s : AgentSession K) (res : Pumped K) : Prop where
  farewell : res.2.1.Farewell res.2.2.end_
  ended : res.2.2.end_ = s.end_
  frame : ∃ frame, res.1 = .ok (.sendFrame frame) ∧ endsSession frame = true
  first : c.endSent = false
  sent : res.2.1.endSent = true
  finished : s.end_.isSome
  live : c.stage = .live
  current : ∃ handle, c.handle = some handle ∧ s.isCurrent handle = true
  whole : ∃ chan, c.channel = some chan ∧ chan.gridEmitting = none
  empty : s.streams.output.size = 0

omit [DecidableEq K] in
/-- A turn of a live one polls its port, once the end has been queued. -/
lemma liveIdle_rest (P : KeySchedule K) (c : AgentConnection K) (s : AgentSession K)
    (chan : Channel K) (now : Timestamp) (out scratch : Nat) :
    ((c.liveIdle P s chan now out scratch).2.1.channel =
      some ((port (queueEnd chan s) s).poll P now out scratch).2.chan) ∧
    (c.liveIdle P s chan now out scratch).2.1.stage = c.stage ∧
    (c.liveIdle P s chan now out scratch).2.2.end_ = s.end_ ∧
    ∀ frame, (c.liveIdle P s chan now out scratch).1 = .ok (.sendFrame frame) ↔
      ((port (queueEnd chan s) s).poll P now out scratch).1 = .ok (some frame) := by
  unfold liveIdle
  dsimp only
  split <;> next hres => exact ⟨rfl, rfl, rfl, by simp [hres]⟩

omit [DecidableEq K] in
/-- A turn of one that waits for its snapshot polls its port. -/
lemma awaitSnapshotIdle_rest (P : KeySchedule K) (c : AgentConnection K) (s : AgentSession K)
    (chan : Channel K) (now : Timestamp) (out scratch : Nat) :
    ((c.awaitSnapshotIdle P s chan now out scratch).2.1.channel =
      some ((port chan s).poll P now out scratch).2.chan) ∧
    (c.awaitSnapshotIdle P s chan now out scratch).2.1.stage = c.stage ∧
    (c.awaitSnapshotIdle P s chan now out scratch).2.2.end_ = s.end_ ∧
    ∀ frame, (c.awaitSnapshotIdle P s chan now out scratch).1 = .ok (.sendFrame frame) ↔
      ((port chan s).poll P now out scratch).1 = .ok (some frame) := by
  unfold awaitSnapshotIdle
  dsimp only
  split
  · next hres => exact ⟨rfl, rfl, rfl, by simp [hres]⟩
  · next hres => exact ⟨rfl, rfl, rfl, by simp [hres]⟩
  · next hres =>
    split
    · exact ⟨rfl, rfl, rfl, by simp [hres]⟩
    · split
      · exact ⟨rfl, rfl, rfl, by simp [hres]⟩
      · exact ⟨rfl, rfl, rfl, by simp [hres]⟩

omit [DecidableEq K] in
/-- A poll that leaves the channel sendable, whatever it sent. -/
lemma poll_sendable (P : KeySchedule K) {p : Port K} (h : p.chan.grid.Sendable) (now : Timestamp)
    (out scratch : Nat) : (p.poll P now out scratch).2.chan.grid.Sendable := by
  rcases Port.poll_cases P p now out scratch with ⟨hface, -⟩ | ⟨frame, m, -, -, hsends⟩
  · have hgrid : (p.poll P now out scratch).2.chan.grid = p.chan.grid := congrArg Face.grid hface
    rwa [hgrid]
  · exact hsends.sendable h

omit [DecidableEq K] in
/-- An idle call says that the session has ended, or nothing of it. -/
theorem onIdle_told (h : c.Farewell s.end_)
    (role : ∀ chan, c.channel = some chan → chan.role = .agent) (out scratch : Nat)
    (hfail : c.failed = none) :
    (Unsaid c s (c.onIdle P s now out scratch).2.1 (c.onIdle P s now out scratch).2.2 ∧
      ∀ frame, (c.onIdle P s now out scratch).1 = .ok (.sendFrame frame) →
        endsSession frame = false) ∨
    Told c s (c.onIdle P s now out scratch) := by
  have turned : ∀ {res : Pumped K}, Turned c s res → Unsaid c s res.2.1 res.2.2 ∧
      ∀ frame, res.1 = .ok (.sendFrame frame) → endsSession frame = false := by
    intro res hturned
    refine ⟨h.unsaid hturned.channel hturned.stage (by rw [hturned.session]), fun frame hsent => ?_⟩
    exact absurd hsent (hturned.quiet.silent frame)
  unfold onIdle
  rw [hfail]
  dsimp only
  split
  · exact .inl (turned (.refuse hfail (by simp [SessionError.Harmless]) (by rintro _ ⟨⟩; decide)))
  split
  · next hstage =>
    rcases guarded_cases s c.supplySnapshotDeadline now
        (fun chan _ => c.awaitSnapshotIdle P s chan now out scratch) hfail with
      hturned | ⟨chan, handle, hchan, hhandle, hcur, heq⟩
    · exact .inl (turned hturned)
    · -- the end is queued by live connections only
      rw [heq]
      obtain ⟨hchan', hstage', hend', hsent⟩ := awaitSnapshotIdle_rest P c s chan now out scratch
      have hsendable := poll_sendable P (p := port chan s) (h.sendable chan hchan) now out scratch
      rcases Port.poll_ends P (port chan s) now out scratch (role chan hchan)
        (h.sendable chan hchan) with hkeep | hsend
      · refine .inl ⟨h.moved hchan hsendable hkeep.pending hkeep.sent hchan' hstage' hend', ?_⟩
        exact fun frame hframe => hkeep.silent frame ((hsent frame).mp hframe)
      · obtain ⟨message, hpending⟩ := Option.isSome_iff_exists.mp hsend.pending
        have := (h.pending chan message hchan hpending).2
        rw [hstage] at this
        cases this
  · next hstage =>
    rcases guarded_cases s c.gridAppliedDeadline now
        (fun chan _ => c.liveIdle P s chan now out scratch) hfail with
      hturned | ⟨chan, handle, hchan, hhandle, hcur, heq⟩
    · exact .inl (turned hturned)
    · rw [heq]
      obtain ⟨hchan', hstage', hend', hsent⟩ := liveIdle_rest P c s chan now out scratch
      have hqueued := h.queue hchan hstage
      have hrole : (queueEnd chan s).role = .agent :=
        (congrArg GridState.role (queueEnd_grid chan s)).trans (role chan hchan)
      have hsame : ({ c with channel := some (queueEnd chan s) } : AgentConnection K).endSent =
          c.endSent := by
        simp [endSent, hchan, (queueEnd_pending chan s).2]
      have hsendable := poll_sendable P (p := port (queueEnd chan s) s) (hqueued.sendable _ rfl) now
        out scratch
      rcases Port.poll_ends P (port (queueEnd chan s) s) now out scratch hrole
        (hqueued.sendable _ rfl) with hkeep | hsend
      · have hmoved := hqueued.moved rfl hsendable hkeep.pending hkeep.sent hchan' hstage' hend'
        refine .inl ⟨⟨hmoved.farewell, hmoved.sent.trans hsame, hend'⟩, ?_⟩
        exact fun frame hframe => hkeep.silent frame ((hsent frame).mp hframe)
      · right
        obtain ⟨frame, hframe, hends⟩ := hsend.frame
        obtain ⟨message, hpending⟩ := Option.isSome_iff_exists.mp hsend.pending
        have hover := (hqueued.pending _ message rfl hpending).1
        refine ⟨⟨?_, ?_⟩, hend', ⟨frame, (hsent frame).mpr hframe, hends⟩, ?_, ?_, by simp [hover],
          hstage, ⟨handle, hhandle, hcur⟩, ⟨chan, hchan, ?_⟩, hsend.empty⟩
        · intro chan' hc
          rw [hchan'] at hc
          cases hc
          exact hsendable
        · intro chan' message' hc hpending'
          rw [hchan'] at hc
          cases hc
          rw [hend', hstage']
          exact hqueued.pending _ message' rfl (hsend.same.symm.trans hpending')
        · rw [← hsame]
          exact hsend.first
        · simp only [endSent, hchan', Option.map_some, Option.getD_some]
          exact hsend.sent
        · exact (congrArg GridState.emitting (queueEnd_grid chan s)).symm.trans hsend.whole
  · exact .inl ⟨h.unsaid rfl rfl rfl, by simp⟩

omit [DecidableEq K] in
/-- Starting a snapshot leaves the farewell alone. -/
lemma startGrid_end (chan : Channel K) (snapshot : Bytes) (flags gen scrollbackLen : Nat) :
    (chan.startGrid snapshot flags gen scrollbackLen).2.pendingEnd = chan.pendingEnd ∧
      (chan.startGrid snapshot flags gen scrollbackLen).2.endSent = chan.endSent := by
  rcases chan.startGrid_cases snapshot flags gen scrollbackLen with hno | ⟨-, -, -, -, hyes⟩
  · rw [hno]
    exact ⟨rfl, rfl⟩
  · rw [hyes]
    exact ⟨rfl, rfl⟩

omit [DecidableEq K] in
/-- A snapshot that can be sent is no word about the end. -/
theorem supplySnapshot_unsaid (h : c.Farewell s.end_) {snapshot : Bytes}
    {scrollbackLen flags : Nat} (hflags : gridBeginFlagReserved flags = false)
    (split : scrollbackLen ≤ snapshot.length) :
    Unsaid c s (c.supplySnapshot s now snapshot scrollbackLen flags).1
      (c.supplySnapshot s now snapshot scrollbackLen flags).2 := by
  unfold supplySnapshot
  split
  · next chan handle hstage hchan hhandle =>
    split
    · exact h.unsaid rfl rfl rfl
    split
    · exact h.unsaid rfl rfl rfl
    next hsize =>
    have hend : (s.newGeneration handle).end_ = s.end_ := by
      unfold AgentSession.newGeneration
      split <;> rfl
    obtain ⟨hpending, hsent⟩ := queueEnd_pending (chan.startGrid snapshot flags
      (s.newGeneration handle).streams.output.sessionGen scrollbackLen).2 (s.newGeneration handle)
    obtain ⟨hkeptEnd, hkeptSent⟩ := startGrid_end chan snapshot flags
      (s.newGeneration handle).streams.output.sessionGen scrollbackLen
    refine ⟨⟨?_, ?_⟩, ?_, hend⟩
    · rintro _ ⟨⟩
      rw [queueEnd_grid]
      exact Channel.startGrid_sendable (h.sendable chan hchan) hflags split
    · intro _ message hc hsome
      refine ⟨?_, rfl⟩
      rw [← Option.some.inj hc, hpending, hkeptEnd, hend] at hsome
      cases hp : chan.pendingEnd with
      | some m =>
        have := (h.pending chan m hchan hp).2
        rw [hstage] at this
        cases this
      | none =>
        rw [hend]
        simpa [hp] using hsome
    · simp [endSent, hchan, hsent, hkeptSent]
  · exact h.unsaid rfl rfl rfl

/-- A live connection of an ended session has nothing left to do but to say so: the end is not sent
yet, all output is acknowledged, and no Pong and no part of a snapshot is owed. The rest is what any
frame needs: the gate open, the peer heard from, room for the frame, and keys to seal it with. -/
structure EndDue (c : AgentConnection K) (s : AgentSession K) (chan : Channel K)
    (message : SessionEndMessage) (now : Timestamp) (out : Nat) : Prop where
  alive : c.failed = none
  live : c.stage = .live
  channel : c.channel = some chan
  current : ∃ handle, c.handle = some handle ∧ s.isCurrent handle = true
  ended : s.end_ = some message
  /-- The end of a shell, not of a ring that overflowed: that one leaves no connection live. -/
  shell : message.kind ≠ .overflow
  first : chan.endSent = false
  empty : s.streams.output.size = 0
  noPong : chan.pendingPong = none
  whole : chan.gridEmitting = none
  onTime : ∀ deadline, c.gridAppliedDeadline = some deadline → now < deadline
  heard : now < chan.lastHeard + chan.liveness.peerSilenceTimeout ∨
    chan.liveness.peerSilenceTimeout = 0
  gate : chan.sendGateClosed = false
  room : headerSize + 3 + tagSize ≤ out
  keys : chan.sealer.epoch < 0xFF ∧ 0 < chan.sealer.frameLimit

omit [DecidableEq K] in
/-- Once the end is due, the next idle call sends it. -/
theorem EndDue.sends {chan : Channel K} {message : SessionEndMessage} {out : Nat}
    (due : EndDue c s chan message now out) (h : c.Farewell s.end_)
    (role : chan.role = .agent) (window : s.streams.output.sendNext = s.streams.output.end_)
    (P : KeySchedule K) (scratch : Nat) :
    ∃ frame, (c.onIdle P s now out scratch).1 = .ok (.sendFrame frame) ∧
      frame.body.plaintext = (Message.sessionEnd message).bytes := by
  obtain ⟨handle, hhandle, hcur⟩ := due.current
  have hidle : c.onIdle P s now out scratch = c.liveIdle P s chan now out scratch := by
    have hexpired : c.handshakeExpired now = false := by
      simp [handshakeExpired, due.channel]
    unfold onIdle guarded
    rw [due.alive, due.live, due.channel, hhandle, hexpired]
    simp only [Bool.false_eq_true, if_false, hcur, not_true_eq_false]
    cases hdeadline : c.gridAppliedDeadline with
    | none => rfl
    | some deadline => exact if_neg (Nat.not_le.mpr (due.onTime deadline hdeadline))
  rw [hidle]
  -- queueing the end touches nothing else of the channel
  obtain ⟨pendingEnd, hqueued⟩ : ∃ pendingEnd, queueEnd chan s = { chan with pendingEnd := pendingEnd } := by
    rw [queueEnd, due.ended]
    exact ⟨_, rfl⟩
  have hpending : (queueEnd chan s).pendingEnd = some message := by
    rw [(queueEnd_pending chan s).1, due.ended]
    cases hp : chan.pendingEnd with
    | none => rfl
    | some m =>
      have := (h.pending chan m due.channel hp).1
      rw [due.ended] at this
      rw [Option.some.inj this]
      rfl
  obtain ⟨frame, hpoll, hplain⟩ := Port.poll_sessionEnd P (p := port (queueEnd chan s) s) hpending
    due.shell (by rw [port, hqueued]; exact due.first) due.empty
    (by simp [port, SendBuffer.unsent, window]) (by rw [port, hqueued]; exact due.noPong)
    (by rw [port, hqueued]; exact due.whole) (by rw [port, hqueued]; exact role) due.room
    (by rw [port, hqueued]; exact due.keys) (by rw [port, hqueued]; exact due.heard)
    (by rw [port, hqueued]; exact due.gate) scratch
  exact ⟨frame, ((liveIdle_rest P c s chan now out scratch).2.2.2 frame).mpr hpoll, hplain⟩

end

end AgentConnection

end Zet.Session
