import Zet.Session.ChannelSpec
import Zet.Session.Connection

/-!
# What a connection does

One inversion lemma per entry point of a connection that has not failed. On the agent a frame is
turned away (`Turned`), is a Resume (`AgentConnection.resume_cases` says what becomes of it), or acts
on the session the connection holds through its channel (`Carried`). On the client a frame acts
through the channel, or is turned away. Idle calls send at most one message.
-/

namespace Zet.Session
open Zet.Core Zet.Wire

variable {K : Type} [DecidableEq K] {P : KeySchedule K}

namespace AgentConnection

variable {c : AgentConnection K} {s : AgentSession K} {now : Timestamp} {frame : FrameView K}

/-- Whether the connection takes sealed frames. -/
def TakesFrames (c : AgentConnection K) : Prop :=
  c.stage = .awaitResume ∨ c.stage = .awaitSnapshot ∨ c.stage = .live

/-- What the connection knows before it attaches is unchanged. -/
structure SameTerms (c c' : AgentConnection K) : Prop where
  current : c'.current = c.current
  fallback : c'.fallback = c.fallback
  negotiatedVersion : c'.negotiatedVersion = c.negotiatedVersion
  helloGridCapable : c'.helloGridCapable = c.helloGridCapable

/-- The call left the session alone, and of the connection all but the keys to open a Resume with. A
frame turned away is the last one the connection takes. -/
structure Turned (c : AgentConnection K) (s : AgentSession K) (res : Pumped K) : Prop where
  session : res.2.2 = s
  channel : res.2.1.channel = c.channel
  handle : res.2.1.handle = c.handle
  stage : res.2.1.stage = c.stage
  result : res.1 = .ok .idle ∨ res.1 = .ok .sessionOverflowed ∨
    ∃ e, res.1 = .error e ∧ e.Harmless
  dead : c.TakesFrames → res.2.1.failed.isSome
  attempt : res.2.1.attempt = c.attempt
  terms : res.2.1.failed.isSome ∨ SameTerms c res.2.1

omit [DecidableEq K] in
/-- Refusing with an error that does not end the session. -/
lemma Turned.refuse {e : SessionError} (hfail : c.failed = none) (harmless : e.Harmless)
    (keeps : ∀ reason, e = .stream reason → reason.disposition ≠ .killSession) :
    Turned c s (c.refuse s e) := by
  unfold AgentConnection.refuse
  rw [hfail]
  refine ⟨?_, rfl, rfl, rfl, .inr (.inr ⟨e, rfl, harmless⟩), fun _ => by simp [fail], rfl,
    .inl (by simp [fail])⟩
  cases e with
  | stream reason =>
    have hkeep := keeps reason rfl
    simp only [Option.getD_none]
    rw [if_neg]
    rintro ⟨hkill, -⟩
    exact hkeep hkill
  | proto e => rfl
  | preAuth e => rfl

omit [DecidableEq K] in
/-- Refusing because the session is reaped already. -/
lemma Turned.refuse_reaped (hfail : c.failed = none) (hreaped : s.streams.state = .reaped) :
    Turned c s (c.refuse s (.stream .sessionReaped)) := by
  have hkill : s.kill .sessionReaped = s := by
    simp [AgentSession.kill, StreamState.kill, StreamState.reap, hreaped]
  unfold AgentConnection.refuse
  rw [hfail]
  refine ⟨?_, rfl, rfl, rfl, .inr (.inr ⟨_, rfl, by simp [SessionError.Harmless]⟩),
    fun _ => by simp [fail], rfl, .inl (by simp [fail])⟩
  simp only [Option.getD_none]
  split
  · exact hkill
  · rfl

/-- A frame acted on the session the connection holds: on the face `f` of its channel, with the
outcome `out`. -/
structure Carried (c : AgentConnection K) (s : AgentSession K) (frame : FrameView K)
    (res : Pumped K) (f : Face) (out : Except SessionError IncomingEvent × Face) : Prop where
  stage : c.stage = .awaitSnapshot ∨ c.stage = .live
  current : ∃ handle, c.handle = some handle ∧ s.isCurrent handle = true
  before : ∃ chan, c.channel = some chan ∧ f = (port chan s).face
  hears : ∀ version, f.Hears (.of version frame.body.plaintext) out
  channel : ∃ chan, res.2.1.channel = some chan ∧ chan.grid = out.2.grid
  streams : res.2.2.streams =
    { s.streams with output := out.2.sendBuf, input := out.2.recvCursor }
  seeds : res.2.2.seed = s.seed ∧ res.2.2.previousSeed = s.previousSeed
  handle : res.2.1.handle = c.handle
  same : res.2.1.stage = c.stage
  error : ∀ e, res.1 = .error e ↔ out.1 = .error e
  deliver : ∀ bytes, res.1 = .ok (.deliver bytes) ↔ ∃ offset, out.1 = .ok (.data bytes offset)
  silent : ∀ frame, res.1 ≠ .ok (.sendFrame frame)
  failed : res.2.1.failed.isSome = (match out.1 with | .error _ => true | .ok _ => false)

omit [DecidableEq K] in
/-- Queueing the end leaves the exchange of snapshots alone. -/
lemma queueEnd_grid (chan : Channel K) (s : AgentSession K) : (queueEnd chan s).grid = chan.grid := by
  unfold queueEnd
  split <;> rfl

omit [DecidableEq K] in
/-- Reporting a size leaves streams and seeds alone. -/
lemma reportResize_streams (s : AgentSession K) (handle : Nat) (size : ResizeMessage) :
    (s.reportResize handle size).streams = s.streams ∧
      (s.reportResize handle size).seed = s.seed ∧
      (s.reportResize handle size).previousSeed = s.previousSeed := by
  unfold AgentSession.reportResize
  split <;> exact ⟨rfl, rfl, rfl⟩

/-- A connection that waits for its snapshot carries a frame to the streams. -/
lemma awaitSnapshotFrame_carried {chan : Channel K} {handle : Nat} (hfail : c.failed = none)
    (hstage : c.stage = .awaitSnapshot) (hchan : c.channel = some chan)
    (hhandle : c.handle = some handle) (hcur : s.isCurrent handle = true) :
    ∃ f out, Carried c s frame (c.awaitSnapshotFrame P s chan handle now frame) f out := by
  refine ⟨(port chan s).face, Port.heard ((port chan s).receive P now frame), ?_⟩
  have hhear := fun version => Port.receive_cases P version (port chan s) now frame
  unfold awaitSnapshotFrame
  dsimp only
  rcases hres : (port chan s).receive P now frame with ⟨event, p⟩
  rw [hres] at hhear
  have hresize := reportResize_streams (s.putStreams p.sendBuf p.recvCursor) handle
  cases event with
  | error e =>
    exact ⟨.inl hstage, ⟨handle, hhandle, hcur⟩, ⟨chan, hchan, rfl⟩, hhear, ⟨p.chan, rfl, rfl⟩, rfl,
      ⟨rfl, rfl⟩, rfl, rfl, by simp [hfail, Port.heard], by simp [Port.heard], by simp,
      by simp [fail, Port.heard]⟩
  | ok event =>
    cases event with
    | resize size =>
      exact ⟨.inl hstage, ⟨handle, hhandle, hcur⟩, ⟨chan, hchan, rfl⟩, hhear, ⟨p.chan, rfl, rfl⟩,
        (hresize size).1, (hresize size).2, rfl, rfl, by simp [Port.heard], by simp [Port.heard],
        by simp, by simp [hfail, Port.heard]⟩
    | _ =>
      exact ⟨.inl hstage, ⟨handle, hhandle, hcur⟩, ⟨chan, hchan, rfl⟩, hhear, ⟨p.chan, rfl, rfl⟩,
        rfl, ⟨rfl, rfl⟩, rfl, rfl, by simp [Port.heard], by simp [Port.heard], by simp,
        by simp [hfail, Port.heard]⟩

/-- So does a live connection of the agent. -/
lemma liveFrame_carried {chan : Channel K} {handle : Nat} (hfail : c.failed = none)
    (hstage : c.stage = .live) (hchan : c.channel = some chan)
    (hhandle : c.handle = some handle) (hcur : s.isCurrent handle = true) :
    ∃ f out, Carried c s frame (c.liveFrame P s chan handle now frame) f out := by
  have hface : (port (queueEnd chan s) s).face = (port chan s).face := by
    simp only [Port.face, port, queueEnd_grid]
  refine ⟨(port chan s).face, Port.heard ((port (queueEnd chan s) s).receive P now frame), ?_⟩
  have hhear := fun version => Port.receive_cases P version (port (queueEnd chan s) s) now frame
  rw [hface] at hhear
  unfold liveFrame
  dsimp only
  rcases hres : (port (queueEnd chan s) s).receive P now frame with ⟨event, p⟩
  rw [hres] at hhear
  have hresize := reportResize_streams (s.putStreams p.sendBuf p.recvCursor) handle
  cases event with
  | error e =>
    exact ⟨.inr hstage, ⟨handle, hhandle, hcur⟩, ⟨chan, hchan, rfl⟩, hhear, ⟨p.chan, rfl, rfl⟩, rfl,
      ⟨rfl, rfl⟩, rfl, rfl, by simp [hfail, Port.heard], by simp [Port.heard], by simp,
      by simp [fail, Port.heard]⟩
  | ok event =>
    cases event with
    | resize size =>
      exact ⟨.inr hstage, ⟨handle, hhandle, hcur⟩, ⟨chan, hchan, rfl⟩, hhear, ⟨p.chan, rfl, rfl⟩,
        (hresize size).1, (hresize size).2, rfl, rfl, by simp [Port.heard], by simp [Port.heard],
        by simp, by simp [hfail, Port.heard]⟩
    | _ =>
      exact ⟨.inr hstage, ⟨handle, hhandle, hcur⟩, ⟨chan, hchan, rfl⟩, hhear, ⟨p.chan, rfl, rfl⟩,
        rfl, ⟨rfl, rfl⟩, rfl, rfl, by simp [Port.heard], by simp [Port.heard], by simp,
        by simp [hfail, Port.heard]⟩

/-- The Resume of a connection, opened and parsed. -/
structure Resumes (P : KeySchedule K) (c : AgentConnection K) (frame : FrameView K)
    (used : ResumeKeys) (chosen : DirectionFrames K) (message : ResumeMessage) : Prop where
  stage : c.stage = .awaitResume
  opened : c.openResume P frame = .ok (frame.body.plaintext, used, chosen)
  parsed : ∃ body rest, parseMessageType frame.body.plaintext = .ok (.resume, body) ∧
    parseResume c.negotiatedVersion body = .ok (message, rest)

/-- What opens a Resume returns what it was sealed from. -/
lemma openResume_plaintext {plain : Bytes} {used : ResumeKeys} {chosen : DirectionFrames K}
    (h : c.openResume P frame = .ok (plain, used, chosen)) : plain = frame.body.plaintext := by
  unfold openResume at h
  split at h
  · cases h
  next current _ =>
  split at h
  · next plain' opener hopen =>
    cases h
    exact FrameOpener.open_plaintext hopen
  · split at h
    · cases h
    · split at h
      · next hopen =>
        cases h
        exact FrameOpener.open_plaintext hopen
      · cases h
  · cases h

omit [DecidableEq K] in
/-- Behind the guards a call is turned away, or made on the session the connection holds. -/
lemma guarded_cases (s : AgentSession K) (deadline : Option Timestamp) (now : Timestamp)
    (k : Channel K → Nat → Pumped K) (hfail : c.failed = none) :
    Turned c s (c.guarded s deadline now k) ∨
      ∃ chan handle, c.channel = some chan ∧ c.handle = some handle ∧
        s.isCurrent handle = true ∧ c.guarded s deadline now k = k chan handle := by
  have hsuper : Turned c s (c.refuse s (.stream .superseded)) :=
    .refuse hfail (by simp [SessionError.Harmless]) (by rintro _ ⟨⟩; decide)
  have htimeout : Turned c s (c.refuse s (.stream .handshakeTimeout)) :=
    .refuse hfail (by simp [SessionError.Harmless]) (by rintro _ ⟨⟩; decide)
  unfold guarded
  split
  · next chan handle hchan hhandle =>
    split
    · exact .inl hsuper
    · next hcur =>
      have hcur : s.isCurrent handle = true := by simpa using hcur
      split
      · split
        · exact .inl htimeout
        · exact .inr ⟨chan, handle, hchan, hhandle, hcur, rfl⟩
      · exact .inr ⟨chan, handle, hchan, hhandle, hcur, rfl⟩
  · exact .inl hsuper

/-- Everything a frame can do on a connection of the agent that has not failed. -/
theorem onFrame_cases (P : KeySchedule K) (s : AgentSession K) (now : Timestamp)
    (frame : FrameView K) (hfail : c.failed = none) :
    Turned c s (c.onFrame P s now frame) ∨
      (∃ used chosen message, Resumes P c frame used chosen message ∧
        c.onFrame P s now frame = c.resume P s now used chosen message) ∨
      ∃ f out, Carried c s frame (c.onFrame P s now frame) f out := by
  have hproto : ∀ e, Turned c s (c.refuse s (.proto e)) := fun e =>
    .refuse hfail (by simp) (by rintro _ ⟨⟩)
  unfold onFrame
  rw [hfail]
  dsimp only
  split
  · exact .inl (.refuse hfail (by simp [SessionError.Harmless]) (by rintro _ ⟨⟩; decide))
  split
  · next hstage =>
    unfold pumpResume
    split
    · exact .inl (hproto _)
    next plain used chosen hopen =>
    obtain rfl := openResume_plaintext hopen
    split
    · next body hparse =>
      split
      · exact .inl (hproto _)
      · next message rest hresume =>
        exact .inr (.inl ⟨used, chosen, message, ⟨hstage, hopen, body, rest, hparse, hresume⟩, rfl⟩)
    · exact .inl (hproto _)
  · next hstage =>
    rcases guarded_cases s c.supplySnapshotDeadline now
        (fun chan handle => c.awaitSnapshotFrame P s chan handle now frame) hfail with
      hturned | ⟨chan, handle, hchan, hhandle, hcur, heq⟩
    · exact .inl hturned
    · rw [heq]
      exact .inr (.inr (awaitSnapshotFrame_carried hfail hstage hchan hhandle hcur))
  · next hstage =>
    rcases guarded_cases s c.gridAppliedDeadline now
        (fun chan handle => c.liveFrame P s chan handle now frame) hfail with
      hturned | ⟨chan, handle, hchan, hhandle, hcur, heq⟩
    · exact .inl hturned
    · rw [heq]
      exact .inr (.inr (liveFrame_carried hfail hstage hchan hhandle hcur))
  · next hresume hsnapshot hlive =>
    refine .inl ⟨rfl, rfl, rfl, rfl, .inl rfl, ?_, rfl, .inr ⟨rfl, rfl, rfl, rfl⟩⟩
    rintro (h | h | h)
    · exact absurd h hresume
    · exact absurd h hsnapshot
    · exact absurd h hlive

/-- A channel the agent has just made, on either path. -/
def freshGrid (version : Nat) (awaitingSupply : Bool) : GridState :=
  ⟨.agent, version, none, none, 0, none, false, 0, awaitingSupply⟩

/-- What becomes of a Resume. The seeds move as soon as it is opened; the streams, and the
connection, only if it attaches. -/
inductive Resumed (P : KeySchedule K) (c : AgentConnection K) (s : AgentSession K)
    (used : ResumeKeys) (message : ResumeMessage) : Pumped K → Prop
  /-- Opened under a seed the session does not keep. -/
  | unknown {res : Pumped K} (turned : Turned c s res) : Resumed P c s used message res
  /-- Confirmed, and then refused. -/
  | refused {s₁ : AgentSession K} {res : Pumped K} (confirmed : s.confirmResume P used = .ok s₁)
      (turned : Turned c s₁ res) : Resumed P c s used message res
  /-- Replay from an offset the ring does not hold: beyond its end, or below its base. -/
  | rejected {s₁ : AgentSession K} {res : Pumped K} {e : StreamError}
      (confirmed : s.confirmResume P used = .ok s₁) (gen : message.streamGen ≤ s₁.streams.output.sessionGen)
      (pathA : c.usePathB s₁ message = false)
      (attach : s₁.streams.output.resetSendNext message.clientReceiveOffset = .error e)
      (alive : s₁.streams.state ≠ .reaped)
      (session : res.2.2 = s₁ ∨ e = .peerBehindBuffer ∧ res.2.2 = s₁.kill e)
      (channel : res.2.1.channel = c.channel) (handle : res.2.1.handle = c.handle)
      (stage : res.2.1.stage = c.stage) (result : res.1 = .error (.stream e))
      (dead : res.2.1.failed.isSome) : Resumed P c s used message res
  | pathA {s₁ : AgentSession K} {res : Pumped K} {output : SendBuffer}
      (confirmed : s.confirmResume P used = .ok s₁) (gen : message.streamGen ≤ s₁.streams.output.sessionGen)
      (pathA : c.usePathB s₁ message = false)
      (attach : s₁.streams.output.resetSendNext message.clientReceiveOffset = .ok output)
      (alive : s₁.streams.state ≠ .reaped)
      (session : res.2.2 = { s₁ with streams := { s₁.streams with output := output }.goLive })
      (channel : ∃ chan, res.2.1.channel = some chan ∧
        chan.grid = freshGrid c.negotiatedVersion false)
      (handle : res.2.1.handle = some (s₁.streams.generation + 1)) (stage : res.2.1.stage = .live)
      (result : res.1 = .ok .idle) (alive' : res.2.1.failed = none) : Resumed P c s used message res
  | pathB {s₁ : AgentSession K} {res : Pumped K}
      (confirmed : s.confirmResume P used = .ok s₁) (gen : message.streamGen ≤ s₁.streams.output.sessionGen)
      (pathB : c.usePathB s₁ message = true)
      (alive : s₁.streams.state ≠ .reaped)
      (session : res.2.2 = { s₁ with streams := s₁.streams.goLive })
      (channel : ∃ chan, res.2.1.channel = some chan ∧
        chan.grid = freshGrid c.negotiatedVersion true)
      (handle : res.2.1.handle = some (s₁.streams.generation + 1))
      (stage : res.2.1.stage = .awaitSnapshot)
      (result : res.1 = .ok .idle) (alive' : res.2.1.failed = none) : Resumed P c s used message res

omit [DecidableEq K] in
/-- Everything a Resume can come to. `chosen` is one of the agent's own directions. -/
lemma resume_cases (P : KeySchedule K) (s : AgentSession K) (now : Timestamp) (used : ResumeKeys)
    {chosen : DirectionFrames K} (message : ResumeMessage) (hfail : c.failed = none)
    (hrole : chosen.role = .agent) :
    Resumed P c s used message (c.resume P s now used chosen message) := by
  unfold resume
  split
  · next e hconfirm =>
    refine .unknown (.refuse hfail ?_ ?_)
    · unfold AgentSession.confirmResume at hconfirm
      split at hconfirm <;> cases hconfirm
      simp [SessionError.Harmless]
    · rintro _ ⟨⟩
      unfold AgentSession.confirmResume at hconfirm
      split at hconfirm <;> cases hconfirm
      decide
  next s₁ hconfirm =>
  split
  · refine .refused hconfirm (.refuse hfail (by simp) ?_)
    rintro _ ⟨⟩
  next hgen =>
  have hgen : message.streamGen ≤ s₁.streams.output.sessionGen := Nat.not_lt.mp hgen
  dsimp only
  by_cases hreaped : s₁.streams.state = .reaped
  · -- nothing attaches to a reaped session
    have hturned : Turned c s₁ (({ c with current := none, fallback := none }).refuse s₁
        (.stream .sessionReaped)) := by
      have h := Turned.refuse_reaped (c := { c with current := none, fallback := none }) hfail hreaped
      exact ⟨h.session, h.channel, h.handle, h.stage, h.result, h.dead, h.attempt,
        .inl (by simp [AgentConnection.refuse, fail])⟩
    split
    · rw [AgentConnection.attachPathB, AgentSession.attachPathB, StreamState.attachPathB,
        if_pos hreaped]
      exact .refused hconfirm hturned
    · rw [AgentConnection.attachPathA, AgentSession.attach, StreamState.attach, if_pos hreaped]
      simp only [Except.map]
      split
      · exact .refused hconfirm ⟨rfl, rfl, rfl, rfl, .inr (.inl rfl), fun _ => by simp [fail], rfl,
          .inl (by simp [fail])⟩
      · exact .refused hconfirm hturned
  split
  · next hpath =>
    rw [AgentConnection.attachPathB, AgentSession.attachPathB, StreamState.attachPathB,
      if_neg hreaped]
    refine .pathB hconfirm hgen hpath hreaped rfl ⟨_, rfl, ?_⟩ rfl rfl rfl hfail
    simp [Channel.suppressDataUntilGrid, Channel.create, hrole, Channel.grid, freshGrid]
  · next hpath =>
    have hpath : c.usePathB s₁ message = false := by simpa using hpath
    rw [AgentConnection.attachPathA, AgentSession.attach, StreamState.attach, if_neg hreaped]
    cases hattach : s₁.streams.output.resetSendNext message.clientReceiveOffset with
    | ok output =>
      refine .pathA hconfirm hgen hpath hattach hreaped rfl ⟨_, rfl, ?_⟩ rfl rfl rfl hfail
      rw [queueEnd_grid]
      simp [Channel.create, hrole, Channel.grid, freshGrid]
    | error e =>
      simp only [Except.map]
      -- past the end the connection ends; below the base the session does, if the error says so
      rcases SendBuffer.resetSendNext_error hattach with ⟨rfl, -⟩ | ⟨rfl, -⟩
      · rw [if_neg (by rintro ⟨⟨⟩, -⟩)]
        refine .rejected hconfirm hgen hpath hattach hreaped (.inl ?_) rfl rfl rfl ?_
          (by simp [AgentConnection.refuse, fail])
        · simp [AgentConnection.refuse, hfail, SessionError.disposition, StreamError.disposition]
        · simp [AgentConnection.refuse, hfail]
      · rw [if_neg (by rintro ⟨⟨⟩, -⟩)]
        refine .rejected hconfirm hgen hpath hattach hreaped ?_ rfl rfl rfl ?_
          (by simp [AgentConnection.refuse, fail])
        · simp only [AgentConnection.refuse, hfail, Option.getD_none]
          split
          · exact .inr ⟨trivial, rfl⟩
          · exact .inl rfl
        · simp [AgentConnection.refuse, hfail]

/-- The call changed nothing the other end can tell. -/
structure Quiet (c : AgentConnection K) (s : AgentSession K) (res : Pumped K) : Prop where
  streams : res.2.2.streams = s.streams
  seeds : res.2.2.seed = s.seed ∧ res.2.2.previousSeed = s.previousSeed
  channel : res.2.1.channel.map Channel.grid = c.channel.map Channel.grid
  handle : res.2.1.handle = c.handle
  stage : res.2.1.stage = c.stage
  error : ∀ e, res.1 = .error e → e.Harmless
  silent : ∀ frame, res.1 ≠ .ok (.sendFrame frame)
  nothing : ∀ bytes, res.1 ≠ .ok (.deliver bytes)
  attempt : res.2.1.attempt = c.attempt
  terms : res.2.1.failed.isSome ∨ SameTerms c res.2.1

omit [DecidableEq K] in
/-- A connection that only fails is quiet. -/
lemma Turned.quiet {res : Pumped K} (h : Turned c s res) : Quiet c s res where
  streams := by rw [h.session]
  seeds := by rw [h.session]; exact ⟨rfl, rfl⟩
  channel := by rw [h.channel]
  handle := h.handle
  stage := h.stage
  error e he := by
    rcases h.result with hidle | hover | ⟨e', he', harmless⟩
    · rw [hidle] at he
      cases he
    · rw [hover] at he
      cases he
    · rw [he'] at he
      cases he
      exact harmless
  silent frame he := by
    rcases h.result with hidle | hover | ⟨e', he', -⟩ <;> simp_all
  nothing bytes he := by
    rcases h.result with hidle | hover | ⟨e', he', -⟩ <;> simp_all
  attempt := h.attempt
  terms := h.terms

/-- The call sent the message `m`, which took the face `f` of the connection to `f'`. -/
structure Speaks (c : AgentConnection K) (s : AgentSession K) (res : Pumped K) (f : Face)
    (m : Message) (f' : Face) : Prop where
  stage : c.stage = .awaitSnapshot ∨ c.stage = .live
  current : ∃ handle, c.handle = some handle ∧ s.isCurrent handle = true
  before : ∃ chan, c.channel = some chan ∧ f = (port chan s).face
  sends : f.Sends m f'
  frame : ∃ frame, res.1 = .ok (.sendFrame frame) ∧ frame.body.plaintext = m.bytes
  channel : ∃ chan, res.2.1.channel = some chan ∧ chan.grid = f'.grid
  streams : res.2.2.streams = { s.streams with output := f'.sendBuf, input := f'.recvCursor }
  seeds : res.2.2.seed = s.seed ∧ res.2.2.previousSeed = s.previousSeed
  handle : res.2.1.handle = c.handle
  same : res.2.1.stage = c.stage
  failed : res.2.1.failed = none

omit [DecidableEq K] in
/-- A turn of a connection that waits for its snapshot is quiet, or says one thing. -/
lemma awaitSnapshotIdle_cases {chan : Channel K} {handle out scratch : Nat} (hfail : c.failed = none)
    (hstage : c.stage = .awaitSnapshot) (hchan : c.channel = some chan)
    (hhandle : c.handle = some handle) (hcur : s.isCurrent handle = true) :
    Quiet c s (c.awaitSnapshotIdle P s chan now out scratch) ∨
      ∃ f m f', Speaks c s (c.awaitSnapshotIdle P s chan now out scratch) f m f' := by
  have hpoll := Port.poll_cases P (port chan s) now out scratch
  unfold awaitSnapshotIdle
  dsimp only
  rcases hres : (port chan s).poll P now out scratch with ⟨written, p⟩
  rw [hres] at hpoll
  rcases hpoll with ⟨hface, hquiet⟩ | ⟨frame, m, rfl, hplain, hsends⟩
  · left
    obtain ⟨hsend, hrecv, hgrid⟩ : p.sendBuf = s.streams.output ∧ p.recvCursor = s.streams.input ∧
        p.chan.grid = chan.grid := by
      simpa [Port.face, port] using hface
    have hstreams : (s.putStreams p.sendBuf p.recvCursor).streams = s.streams := by
      rw [hsend, hrecv]
      rfl
    rcases hquiet with rfl | ⟨e, rfl, harmless⟩
    · dsimp only
      split
      · exact ⟨hstreams, ⟨rfl, rfl⟩, by simp [hchan, hgrid], rfl, rfl, by simp, by simp, by simp, rfl,
          .inr ⟨rfl, rfl, rfl, rfl⟩⟩
      · split
        · exact ⟨hstreams, ⟨rfl, rfl⟩, by simp [hchan, hgrid], rfl, rfl, by simp, by simp, by simp, rfl,
          .inr ⟨rfl, rfl, rfl, rfl⟩⟩
        · exact ⟨hstreams, ⟨rfl, rfl⟩, by simp [hchan, hgrid], rfl, rfl, by simp, by simp, by simp, rfl,
          .inr ⟨rfl, rfl, rfl, rfl⟩⟩
    · exact ⟨hstreams, ⟨rfl, rfl⟩, by simp [fail, hchan, hgrid], rfl, rfl,
        by simpa [hfail] using harmless, by simp, by simp, rfl, .inr ⟨rfl, rfl, rfl, rfl⟩⟩
  · right
    exact ⟨_, m, p.face, .inl hstage, ⟨handle, hhandle, hcur⟩, ⟨chan, hchan, rfl⟩, hsends,
      ⟨frame, rfl, hplain⟩, ⟨p.chan, rfl, rfl⟩, rfl, ⟨rfl, rfl⟩, rfl, rfl, hfail⟩

omit [DecidableEq K] in
/-- So is a turn of a live one. -/
lemma liveIdle_cases {chan : Channel K} {handle out scratch : Nat} (hfail : c.failed = none)
    (hstage : c.stage = .live) (hchan : c.channel = some chan)
    (hhandle : c.handle = some handle) (hcur : s.isCurrent handle = true) :
    Quiet c s (c.liveIdle P s chan now out scratch) ∨
      ∃ f m f', Speaks c s (c.liveIdle P s chan now out scratch) f m f' := by
  have hsame : (port (queueEnd chan s) s).face = (port chan s).face := by
    simp only [Port.face, port, queueEnd_grid]
  have hpoll := Port.poll_cases P (port (queueEnd chan s) s) now out scratch
  unfold liveIdle
  dsimp only
  rcases hres : (port (queueEnd chan s) s).poll P now out scratch with ⟨written, p⟩
  rw [hres] at hpoll
  simp only [Port.PollSpec, hsame] at hpoll
  rcases hpoll with ⟨hface, hquiet⟩ | ⟨frame, m, rfl, hplain, hsends⟩
  · left
    obtain ⟨hsend, hrecv, hgrid⟩ : p.sendBuf = s.streams.output ∧ p.recvCursor = s.streams.input ∧
        p.chan.grid = chan.grid := by
      simpa [Port.face, port] using hface
    have hstreams : (s.putStreams p.sendBuf p.recvCursor).streams = s.streams := by
      rw [hsend, hrecv]
      rfl
    rcases hquiet with rfl | ⟨e, rfl, harmless⟩
    · exact ⟨hstreams, ⟨rfl, rfl⟩, by simp [hchan, hgrid], rfl, rfl, by simp, by simp, by simp, rfl,
          .inr ⟨rfl, rfl, rfl, rfl⟩⟩
    · exact ⟨hstreams, ⟨rfl, rfl⟩, by simp [fail, hchan, hgrid], rfl, rfl,
        by simpa [hfail] using harmless, by simp, by simp, rfl, .inr ⟨rfl, rfl, rfl, rfl⟩⟩
  · right
    exact ⟨_, m, p.face, .inr hstage, ⟨handle, hhandle, hcur⟩, ⟨chan, hchan, rfl⟩, hsends,
      ⟨frame, rfl, hplain⟩, ⟨p.chan, rfl, rfl⟩, rfl, ⟨rfl, rfl⟩, rfl, rfl, hfail⟩

omit [DecidableEq K] in
/-- Everything an idle call can do on a connection of the agent that has not failed. -/
theorem onIdle_cases (P : KeySchedule K) (s : AgentSession K) (now : Timestamp)
    (out scratch : Nat) (hfail : c.failed = none) :
    Quiet c s (c.onIdle P s now out scratch) ∨
      ∃ f m f', Speaks c s (c.onIdle P s now out scratch) f m f' := by
  unfold onIdle
  rw [hfail]
  dsimp only
  split
  · exact .inl (Turned.refuse hfail (by simp [SessionError.Harmless])
      (by rintro _ ⟨⟩; decide)).quiet
  split
  · next hstage =>
    rcases guarded_cases s c.supplySnapshotDeadline now
        (fun chan _ => c.awaitSnapshotIdle P s chan now out scratch) hfail with
      hturned | ⟨chan, handle, hchan, hhandle, hcur, heq⟩
    · exact .inl hturned.quiet
    · rw [heq]
      exact awaitSnapshotIdle_cases hfail hstage hchan hhandle hcur
  · next hstage =>
    rcases guarded_cases s c.gridAppliedDeadline now
        (fun chan _ => c.liveIdle P s chan now out scratch) hfail with
      hturned | ⟨chan, handle, hchan, hhandle, hcur, heq⟩
    · exact .inl hturned.quiet
    · rw [heq]
      exact liveIdle_cases hfail hstage hchan hhandle hcur
  · exact .inl ⟨rfl, ⟨rfl, rfl⟩, rfl, rfl, rfl, by simp, by simp, by simp, rfl,
          .inr ⟨rfl, rfl, rfl, rfl⟩⟩

/-- A snapshot was accepted: a new output generation, and the emission of the snapshot in it. -/
structure Supplied (c : AgentConnection K) (s : AgentSession K)
    (res : AgentConnection K × AgentSession K) : Prop where
  stage : c.stage = .awaitSnapshot
  current : ∃ handle, c.handle = some handle ∧ s.isCurrent handle = true
  streams : res.2.streams = s.streams.newGeneration
  seeds : res.2.seed = s.seed ∧ res.2.previousSeed = s.previousSeed
  channel : ∃ before after, c.channel = some before ∧ res.1.channel = some after ∧
    (before.grid.role = .agent → before.grid.emitting = none →
      before.grid.awaitingApplied = false → ∃ ge : GridEmission,
        ge.streamGen = s.streams.newGeneration.output.sessionGen ∧ ge.beginSent = false ∧
        after.grid = { before.grid with
          emitting := some ge, awaitingApplied := true
          expectedGen := s.streams.newGeneration.output.sessionGen, awaitingSupply := false })
  handle : res.1.handle = c.handle
  after : res.1.stage = .live
  failed : res.1.failed = c.failed

omit [DecidableEq K] in
/-- A snapshot is accepted, or nothing happens. -/
theorem supplySnapshot_cases (c : AgentConnection K) (s : AgentSession K) (now : Timestamp)
    (snapshot : Bytes) (scrollbackLen flags : Nat) :
    ((c.supplySnapshot s now snapshot scrollbackLen flags).2 = s ∧
        (c.supplySnapshot s now snapshot scrollbackLen flags).1 =
          { c with snapshotReminderSent :=
            (c.supplySnapshot s now snapshot scrollbackLen flags).1.snapshotReminderSent }) ∨
      Supplied c s (c.supplySnapshot s now snapshot scrollbackLen flags) := by
  unfold supplySnapshot
  split
  · next chan handle hstage hchan hhandle =>
    split
    · exact .inl ⟨rfl, rfl⟩
    next hcur =>
    have hcur : s.isCurrent handle = true := by simpa using hcur
    split
    · exact .inl ⟨rfl, rfl⟩
    next hsize =>
    right
    have hnew : (s.newGeneration handle).streams = s.streams.newGeneration := by
      rw [AgentSession.newGeneration, if_pos hcur]
    have hseeds : (s.newGeneration handle).seed = s.seed ∧
        (s.newGeneration handle).previousSeed = s.previousSeed := by
      rw [AgentSession.newGeneration, if_pos hcur]
      exact ⟨rfl, rfl⟩
    refine ⟨hstage, ⟨handle, hhandle, hcur⟩, hnew, hseeds, ⟨chan, _, hchan, rfl, ?_⟩, rfl, rfl, rfl⟩
    intro hrole hemit hawait
    refine ⟨⟨snapshot, (s.newGeneration handle).streams.output.sessionGen, snapshot.length,
      scrollbackLen, flags, 0, false⟩, by rw [hnew], rfl, ?_⟩
    simp only [Channel.grid] at hrole hemit hawait
    rw [queueEnd_grid, Channel.startGrid, if_neg (by simp [hrole]),
      if_neg (by simp [hemit, hawait]), if_neg hsize, hnew]
    rfl
  · exact .inl ⟨rfl, rfl⟩

end AgentConnection

/-- The direction a Resume was opened with is one of the connection's. -/
lemma openResume_role {c : AgentConnection K} {frame : FrameView K} {plain : Bytes}
    {used : ResumeKeys} {chosen : DirectionFrames K}
    (h : c.openResume P frame = .ok (plain, used, chosen))
    (current : ∀ frames, c.current = some frames → frames.role = .agent)
    (fallback : ∀ frames, c.fallback = some frames → frames.role = .agent) :
    chosen.role = .agent := by
  unfold AgentConnection.openResume at h
  split at h
  · cases h
  next cur hcur =>
  split at h
  · cases h
    exact current cur hcur
  · split at h
    · cases h
    next fb hfb =>
    split at h
    · cases h
      exact fallback fb hfb
    · cases h
  · cases h

omit [DecidableEq K] in
/-- Confirming a Resume changes the seeds alone. -/
lemma confirmResume_rest {a a' : AgentSession K} {used : ResumeKeys}
    (h : a.confirmResume P used = .ok a') :
    ∃ seed prev, a' = { a with seed := seed, previousSeed := prev } := by
  unfold AgentSession.confirmResume at h
  split at h <;> cases h <;> exact ⟨_, _, rfl⟩

namespace ClientConnection

variable {c : ClientConnection K} {s : ClientSession K} {now : Timestamp} {frame : FrameView K}

/-- Whether the connection takes sealed frames. -/
def TakesFrames (c : ClientConnection K) : Prop :=
  c.stage = .live ∧ c.channel.isSome ∧ c.handle.isSome

/-- The call changed nothing the other end can tell. -/
structure Quiet (c : ClientConnection K) (s : ClientSession K) (res : Pumped K) : Prop where
  streams : res.2.2.streams.output = s.streams.output ∧ res.2.2.streams.input = s.streams.input ∧
    res.2.2.streams.overflow = s.streams.overflow
  seed : res.2.2.seed = s.seed
  streamGen : res.2.2.streamGen = s.streamGen
  channel : res.2.1.channel.map Channel.grid = c.channel.map Channel.grid
  same : res.2.1.stage = c.stage ∧ res.2.1.handle = c.handle ∧ res.2.1.confirmed = c.confirmed ∧
    res.2.1.pendingApplyGen = c.pendingApplyGen ∧ res.2.1.seed = c.seed ∧
    res.2.1.clientNonce = c.clientNonce
  result : res.1 = .ok .idle ∨ ∃ e, res.1 = .error e ∧ e.Harmless

/-- A call turned away: it changed nothing, and a connection that takes frames takes no more. -/
structure Turned (c : ClientConnection K) (s : ClientSession K) (res : Pumped K) : Prop
    extends Quiet c s res where
  dead : c.TakesFrames → res.2.1.failed.isSome

omit [DecidableEq K] in
/-- Ending the client's session leaves its streams and seed alone. -/
lemma kill_streams (s : ClientSession K) (e : StreamError) :
    (s.kill e).streams.output = s.streams.output ∧ (s.kill e).streams.input = s.streams.input ∧
      (s.kill e).streams.overflow = s.streams.overflow ∧ (s.kill e).seed = s.seed ∧
      (s.kill e).streamGen = s.streamGen := by
  unfold ClientSession.kill StreamState.kill StreamState.reap
  dsimp only
  split <;> exact ⟨rfl, rfl, rfl, rfl, rfl⟩

omit [DecidableEq K] in
/-- Refusing changes at most the life cycle of the session. -/
lemma refuse_session (c : ClientConnection K) (s : ClientSession K) (e : SessionError) :
    (c.refuse s e).2.2.streams.output = s.streams.output ∧
      (c.refuse s e).2.2.streams.input = s.streams.input ∧
      (c.refuse s e).2.2.streams.overflow = s.streams.overflow ∧
      (c.refuse s e).2.2.seed = s.seed ∧ (c.refuse s e).2.2.streamGen = s.streamGen := by
  unfold refuse
  dsimp only
  split
  · split
    · exact kill_streams s _
    · exact ⟨rfl, rfl, rfl, rfl, rfl⟩
  · exact ⟨rfl, rfl, rfl, rfl, rfl⟩

omit [DecidableEq K] in
/-- Refusing a harmless error only fails the connection. -/
lemma Turned.refuse {e : SessionError} (hfail : c.failed = none) (harmless : e.Harmless) :
    Turned c s (c.refuse s e) := by
  obtain ⟨hout, hin, hover, hseed, hgen⟩ := refuse_session c s e
  exact ⟨⟨⟨hout, hin, hover⟩, hseed, hgen, rfl, ⟨rfl, rfl, rfl, rfl, rfl, rfl⟩,
    .inr ⟨e, by simp [ClientConnection.refuse, hfail], harmless⟩⟩,
    fun _ => by simp [ClientConnection.refuse, fail]⟩

omit [DecidableEq K] in
/-- Behind the guards a call is turned away, or made on the session the connection holds. -/
lemma guarded_cases (s : ClientSession K) (now : Timestamp) (k : Channel K → Pumped K)
    (hfail : c.failed = none) :
    Turned c s (c.guarded s now k) ∨
      ∃ chan, c.channel = some chan ∧ c.TakesFrames ∧ c.guarded s now k = k chan := by
  unfold guarded
  rw [hfail]
  dsimp only
  split
  · exact .inl (.refuse hfail (by simp [SessionError.Harmless]))
  split
  · next chan handle hstage hchan hhandle =>
    split
    · exact .inl (.refuse hfail (by simp [SessionError.Harmless]))
    · exact .inr ⟨chan, hchan, ⟨hstage, by simp [hchan], by simp [hhandle]⟩, rfl⟩
  · next hnot =>
    refine .inl ⟨⟨⟨rfl, rfl, rfl⟩, rfl, rfl, rfl, ⟨rfl, rfl, rfl, rfl, rfl, rfl⟩, .inl rfl⟩, ?_⟩
    rintro ⟨hstage, hchan, hhandle⟩
    obtain ⟨chan, hchan⟩ := Option.isSome_iff_exists.mp hchan
    obtain ⟨handle, hhandle⟩ := Option.isSome_iff_exists.mp hhandle
    exact absurd hhandle (hnot chan handle hstage hchan)

/-- What an event of the channel asks of the client's caller. -/
def eventOf : IncomingEvent → ConnectionEvent K
  | .data bytes _ => .deliver bytes
  | .resize size => .resized size
  | .sessionEnd message => if message.kind = .overflow then .sessionOverflowed else .ended message
  | .gridSnapshot bytes streamGen scrollbackLen flags =>
    .applySnapshot bytes streamGen scrollbackLen flags
  | _ => .idle

/-- A frame acted on the session through the channel: on its face `f`, with the outcome `out`. -/
structure Carried (P : KeySchedule K) (c : ClientConnection K) (s : ClientSession K)
    (frame : FrameView K) (res : Pumped K) (f : Face)
    (out : Except SessionError IncomingEvent × Face) : Prop where
  before : ∃ chan, c.channel = some chan ∧ f = (port chan s).face
  hears : ∀ version, f.Hears (.of version frame.body.plaintext) out
  channel : ∃ chan, res.2.1.channel = some chan ∧ chan.grid = out.2.grid
  streams : res.2.2.streams = { s.streams with output := out.2.sendBuf, input := out.2.recvCursor }
  streamGen : res.2.2.streamGen = s.streamGen
  same : res.2.1.stage = c.stage ∧ res.2.1.handle = c.handle ∧ res.2.1.seed = c.seed ∧
    res.2.1.clientNonce = c.clientNonce
  result : (∃ e, out.1 = .error e ∧ res.1 = .error e ∧ res.2.1.failed.isSome ∧
      res.2.2.seed = s.seed ∧ res.2.1.confirmed = c.confirmed ∧
      res.2.1.pendingApplyGen = c.pendingApplyGen) ∨
    ∃ event, out.1 = .ok event ∧ res.1 = .ok (eventOf event) ∧ res.2.1.failed = none ∧
      res.2.2.seed = (s.confirmAgentFrame P c.confirmed).seed ∧ res.2.1.confirmed = true ∧
      res.2.1.pendingApplyGen =
        match event with | .gridSnapshot _ gen _ _ => some gen | _ => c.pendingApplyGen

omit [DecidableEq K] in
/-- What confirming does to the seed depends on the seed alone. -/
lemma confirmAgentFrame_seed (P : KeySchedule K) (s t : ClientSession K) (confirmed : Bool)
    (h : t.seed = s.seed) :
    (t.confirmAgentFrame P confirmed).seed = (s.confirmAgentFrame P confirmed).seed := by
  unfold ClientSession.confirmAgentFrame
  split
  · exact h
  · simp [h]

omit [DecidableEq K] in
/-- It changes nothing else. -/
lemma confirmAgentFrame_rest (P : KeySchedule K) (s : ClientSession K) (confirmed : Bool) :
    (s.confirmAgentFrame P confirmed).streams = s.streams ∧
      (s.confirmAgentFrame P confirmed).streamGen = s.streamGen := by
  unfold ClientSession.confirmAgentFrame
  split <;> exact ⟨rfl, rfl⟩

/-- So does a live connection of the client. -/
lemma liveFrame_carried {chan : Channel K} (hfail : c.failed = none) (hchan : c.channel = some chan) :
    ∃ f out, Carried P c s frame (c.liveFrame P s chan now frame) f out := by
  have hhear := fun version => Port.receive_cases P version (port chan s) now frame
  refine ⟨(port chan s).face, Port.heard ((port chan s).receive P now frame), ?_⟩
  unfold liveFrame
  dsimp only
  rcases hres : (port chan s).receive P now frame with ⟨event, p⟩
  rw [hres] at hhear
  obtain ⟨hstreams, hgen⟩ :=
    confirmAgentFrame_rest P (s.putStreams p.sendBuf p.recvCursor) c.confirmed
  have hseed := confirmAgentFrame_seed P s (s.putStreams p.sendBuf p.recvCursor) c.confirmed rfl
  cases event with
  | error e =>
    exact ⟨⟨chan, hchan, rfl⟩, hhear, ⟨p.chan, rfl, rfl⟩, rfl, rfl, ⟨rfl, rfl, rfl, rfl⟩,
      .inl ⟨e, rfl, by simp [hfail], by simp [fail], rfl, rfl, rfl⟩⟩
  | ok event =>
    cases event with
    | sessionEnd message =>
      dsimp only
      by_cases hover : message.kind = .overflow
      · rw [if_pos hover]
        exact ⟨⟨chan, hchan, rfl⟩, hhear, ⟨p.chan, rfl, rfl⟩, hstreams, hgen, ⟨rfl, rfl, rfl, rfl⟩,
          .inr ⟨_, rfl, by simp [eventOf, hover], hfail, hseed, rfl, rfl⟩⟩
      · rw [if_neg hover]
        exact ⟨⟨chan, hchan, rfl⟩, hhear, ⟨p.chan, rfl, rfl⟩, hstreams, hgen, ⟨rfl, rfl, rfl, rfl⟩,
          .inr ⟨_, rfl, by simp [eventOf, hover], hfail, hseed, rfl, rfl⟩⟩
    | _ =>
      exact ⟨⟨chan, hchan, rfl⟩, hhear, ⟨p.chan, rfl, rfl⟩, hstreams, hgen, ⟨rfl, rfl, rfl, rfl⟩,
        .inr ⟨_, rfl, rfl, hfail, hseed, rfl, rfl⟩⟩

/-- Everything a frame can do on a connection of the client that has not failed. -/
theorem onFrame_cases (P : KeySchedule K) (s : ClientSession K) (now : Timestamp)
    (frame : FrameView K) (hfail : c.failed = none) :
    Turned c s (c.onFrame P s now frame) ∨
      ∃ f out, Carried P c s frame (c.onFrame P s now frame) f out := by
  rcases guarded_cases s now (fun chan => c.liveFrame P s chan now frame) hfail with
    hturned | ⟨chan, hchan, -, heq⟩
  · exact .inl hturned
  · rw [onFrame, heq]
    exact .inr (liveFrame_carried hfail hchan)

/-- The call sent the message `m`, which took the face `f` of the connection to `f'`. -/
structure Speaks (c : ClientConnection K) (s : ClientSession K) (res : Pumped K) (f : Face)
    (m : Message) (f' : Face) : Prop where
  before : ∃ chan, c.channel = some chan ∧ f = (port chan s).face
  sends : f.Sends m f'
  frame : ∃ frame, res.1 = .ok (.sendFrame frame) ∧ frame.body.plaintext = m.bytes
  channel : ∃ chan, res.2.1.channel = some chan ∧ chan.grid = f'.grid
  streams : res.2.2.streams = { s.streams with output := f'.sendBuf, input := f'.recvCursor }
  seed : res.2.2.seed = s.seed
  streamGen : res.2.2.streamGen = s.streamGen
  same : res.2.1.stage = c.stage ∧ res.2.1.handle = c.handle ∧ res.2.1.confirmed = c.confirmed ∧
    res.2.1.pendingApplyGen = c.pendingApplyGen ∧ res.2.1.seed = c.seed ∧
    res.2.1.clientNonce = c.clientNonce
  failed : res.2.1.failed = none

omit [DecidableEq K] in
/-- Everything an idle call can do on a connection of the client that has not failed. -/
theorem onIdle_cases (P : KeySchedule K) (s : ClientSession K) (now : Timestamp)
    (out scratch : Nat) (hfail : c.failed = none) :
    Quiet c s (c.onIdle P s now out scratch) ∨
      ∃ f m f', Speaks c s (c.onIdle P s now out scratch) f m f' := by
  rcases guarded_cases s now (fun chan => c.liveIdle P s chan now out scratch) hfail with
    hturned | ⟨chan, hchan, -, heq⟩
  · exact .inl hturned.toQuiet
  rw [onIdle, heq]
  have hpoll := Port.poll_cases P (port chan s) now out scratch
  unfold liveIdle
  dsimp only
  rcases hres : (port chan s).poll P now out scratch with ⟨written, p⟩
  rw [hres] at hpoll
  rcases hpoll with ⟨hface, hquiet⟩ | ⟨frame, m, rfl, hplain, hsends⟩
  · left
    obtain ⟨hsend, hrecv, hgrid⟩ : p.sendBuf = s.streams.output ∧ p.recvCursor = s.streams.input ∧
        p.chan.grid = chan.grid := by
      simpa [Port.face, port] using hface
    rcases hquiet with rfl | ⟨e, rfl, harmless⟩
    · exact ⟨⟨hsend, hrecv, rfl⟩, rfl, rfl, by simp [hchan, hgrid], ⟨rfl, rfl, rfl, rfl, rfl, rfl⟩,
        .inl rfl⟩
    · exact ⟨⟨hsend, hrecv, rfl⟩, rfl, rfl, by simp [fail, hchan, hgrid],
        ⟨rfl, rfl, rfl, rfl, rfl, rfl⟩, .inr ⟨e, by simp [hfail], harmless⟩⟩
  · right
    exact ⟨_, m, p.face, ⟨chan, hchan, rfl⟩, hsends, ⟨frame, rfl, hplain⟩, ⟨p.chan, rfl, rfl⟩, rfl,
      rfl, rfl, ⟨rfl, rfl, rfl, rfl, rfl, rfl⟩, hfail⟩

/-- A channel the client has just made. -/
def freshGrid (version streamGen : Nat) : GridState :=
  ⟨.client, version, none, none, streamGen, none, false, 0, false⟩

/-- The generation a Resume names. -/
def resumeGen (s : ClientSession K) (version : Nat) : Nat :=
  if version ≥ protocolVersionGrid then s.streamGen else 0

omit [DecidableEq K] in
/-- What a written Resume says. -/
lemma said_of_writeResume {m : ResumeMessage} {version : Nat} {plain : Bytes}
    (h : writeInto 13 (writeResume m version) = .ok plain) :
    Said.of version plain = .resume
      (if version ≥ protocolVersionGrid then m.streamGen % 256 ^ 4 else 0)
      (m.clientReceiveOffset % 256 ^ 8) := by
  have hplain : plain = encodeBE 1 MessageType.resume.toByte ++
      ((if version ≥ protocolVersionGrid then encodeBE 4 m.streamGen else []) ++
        encodeBE 8 m.clientReceiveOffset) := by
    unfold writeInto writeResume at h
    by_cases hold : version < protocolVersionGrid ∧ m.streamGen ≠ 0
    · rw [if_pos hold] at h
      cases h
    rw [if_neg hold] at h
    by_cases hver : version ≥ protocolVersionGrid
    · simp [hver, writeMessageType, writeBE, writeBytes, bind, StateT.bind, Except.bind,
        Except.map] at h
      simp [← h, hver]
    · simp [hver, writeMessageType, writeBE, writeBytes, bind, StateT.bind, Except.bind,
        Except.map] at h
      simp [← h, hver]
  rw [Said.of, hplain, parseMessageType_write]
  simp only [parseResume_write]

/-- What becomes of a connection that may resume. -/
inductive ResumeSent (P : KeySchedule K) (c : ClientConnection K) (s : ClientSession K)
    (out version serverNonce offset : Nat) : Pumped K → Prop
  /-- The session did not attach. -/
  | refused {res : Pumped K} {e : SessionError}
      (streams : res.2.2.streams.output = s.streams.output ∧
        res.2.2.streams.input = s.streams.input ∧ res.2.2.streams.overflow = s.streams.overflow)
      (seed : res.2.2.seed = s.seed) (streamGen : res.2.2.streamGen = s.streamGen)
      (channel : res.2.1.channel = c.channel) (dead : res.2.1.failed.isSome)
      (handle : c.handle.isSome → res.2.1.handle.isSome)
      (same : res.2.1.stage = c.stage ∧ res.2.1.confirmed = c.confirmed ∧
        res.2.1.pendingApplyGen = c.pendingApplyGen ∧ res.2.1.seed = c.seed ∧
        res.2.1.clientNonce = c.clientNonce)
      (result : res.1 = .error e)
      (reason : e.Harmless ∨ ∃ r, e = .stream r ∧ s.streams.output.resetSendNext offset = .error r) :
      ResumeSent P c s out version serverNonce offset res
  /-- The session attached, and the Resume did not go out. -/
  | stuck {res : Pumped K} {output : SendBuffer}
      (attach : s.streams.output.resetSendNext offset = .ok output)
      (streams : res.2.2.streams.output = output ∧ res.2.2.streams.input = s.streams.input ∧
        res.2.2.streams.overflow = s.streams.overflow)
      (seed : res.2.2.seed = s.seed) (streamGen : res.2.2.streamGen = s.streamGen)
      (channel : res.2.1.channel = c.channel) (dead : res.2.1.failed.isSome)
      (handle : c.handle.isSome → res.2.1.handle.isSome)
      (same : res.2.1.stage = c.stage ∧ res.2.1.confirmed = c.confirmed ∧
        res.2.1.pendingApplyGen = c.pendingApplyGen ∧ res.2.1.seed = c.seed ∧
        res.2.1.clientNonce = c.clientNonce)
      (result : ∃ e, res.1 = .error e ∧ e.Harmless) :
      ResumeSent P c s out version serverNonce offset res
  | sent {res : Pumped K} {output : SendBuffer} {frame : FrameView K} {sealer : FrameSealer K}
      (attach : s.streams.output.resetSendNext offset = .ok output)
      (streams : res.2.2.streams.output = output ∧ res.2.2.streams.input = s.streams.input ∧
        res.2.2.streams.overflow = s.streams.overflow)
      (seed : res.2.2.seed = s.seed) (streamGen : res.2.2.streamGen = s.streamGen)
      (channel : ∃ chan, res.2.1.channel = some chan ∧
        chan.grid = freshGrid version (resumeGen s version))
      (alive : res.2.1.failed = none)
      (same : res.2.1.stage = .live ∧ res.2.1.handle.isSome ∧ res.2.1.confirmed = c.confirmed ∧
        res.2.1.pendingApplyGen = c.pendingApplyGen ∧ res.2.1.seed = c.seed ∧
        res.2.1.clientNonce = c.clientNonce)
      (result : res.1 = .ok (.sendFrame frame))
      (plain : Said.of version frame.body.plaintext = .resume (resumeGen s version % 256 ^ 4)
        (s.streams.receiveOffset % 256 ^ 8))
      (sealed : (makeDirectionFrames P (P.deriveConnectionKeys c.seed c.clientNonce serverNonce)
        .client maxFramesPerEpoch maxBytesPerEpoch).sealer.seal out frame.body.plaintext =
          .ok (frame, sealer)) : ResumeSent P c s out version serverNonce offset res

omit [DecidableEq K] in
/-- Everything that can become of a connection that may resume. -/
theorem sendResume_cases (P : KeySchedule K) (s : ClientSession K) (now : Timestamp)
    (hfail : c.failed = none) (out version serverNonce offset : Nat) :
    ResumeSent P c s out version serverNonce offset
      (c.sendResume P s now out version serverNonce offset) := by
  unfold sendResume
  split
  · next he =>
    rw [hfail] at he
    cases he
  split
  · obtain ⟨hout, hin, hover, hseed, hgen⟩ := refuse_session c s (.stream .handshakeTimeout)
    exact .refused ⟨hout, hin, hover⟩ hseed hgen rfl (by simp [refuse, fail])
      (by simp [refuse, fail]) ⟨rfl, rfl, rfl, rfl, rfl⟩ (by simp [refuse, hfail]; rfl)
      (.inl (by simp [SessionError.Harmless]))
  rw [ClientSession.attach, StreamState.attach]
  by_cases hreaped : s.streams.state = .reaped
  · rw [if_pos hreaped]
    simp only [Except.map]
    obtain ⟨hout, hin, hover, hseed, hgen⟩ :=
      refuse_session { c with handle := some 0 } s (.stream .sessionReaped)
    exact .refused ⟨hout, hin, hover⟩ hseed hgen rfl (by simp [refuse, fail])
      (by simp [refuse, fail]) ⟨rfl, rfl, rfl, rfl, rfl⟩ (by simp [refuse, hfail]; rfl)
      (.inl (by simp [SessionError.Harmless]))
  rw [if_neg hreaped]
  cases hattach : s.streams.output.resetSendNext offset with
  | error r =>
    simp only [Except.map]
    obtain ⟨hout, hin, hover, hseed, hgen⟩ :=
      refuse_session { c with handle := some 0 } s (.stream r)
    exact .refused ⟨hout, hin, hover⟩ hseed hgen rfl (by simp [refuse, fail])
      (by simp [refuse, fail]) ⟨rfl, rfl, rfl, rfl, rfl⟩ (by simp [refuse, hfail]) (.inr ⟨r, rfl, hattach⟩)
  | ok output =>
  simp only [Except.map]
  -- from here on the session is attached, and only a buffer too small can stop the Resume
  have hstuck : ∀ e, ResumeSent P c s out version serverNonce offset
      (({ c with
        handle := some (s.streams.generation + 1), negotiatedVersion := version } :
          ClientConnection K).refuse
        { s with streams := { s.streams with output := output }.goLive } (.proto e)) := by
    intro e
    obtain ⟨hout, hin, hover, hseed, hgen⟩ := refuse_session ({ c with
        handle := some (s.streams.generation + 1), negotiatedVersion := version } :
          ClientConnection K) { s with streams := { s.streams with output := output }.goLive }
        (.proto e)
    exact .stuck hattach ⟨hout, hin, hover⟩ hseed hgen rfl (by simp [refuse, fail])
      (by simp [refuse, fail]) ⟨rfl, rfl, rfl, rfl, rfl⟩ ⟨.proto e, by simp [refuse, hfail], by simp⟩
  split
  · exact hstuck _
  next plain hplain =>
  split
  · exact hstuck _
  next frame sealer hseal =>
  have hbytes := FrameSealer.seal_plaintext hseal
  have hsaid := said_of_writeResume hplain
  refine .sent hattach ⟨rfl, rfl, rfl⟩ rfl rfl ⟨_, rfl, ?_⟩ hfail
    ⟨rfl, rfl, rfl, rfl, rfl, rfl⟩ rfl ?_ (by rw [hbytes]; exact hseal)
  · split <;> rfl
  · rw [hbytes, hsaid, resumeGen]
    by_cases hver : version ≥ protocolVersionGrid
    · simp [hver, StreamState.receiveOffset, StreamState.goLive]
    · simp [hver, StreamState.receiveOffset, StreamState.goLive]

end ClientConnection

end Zet.Session
