import Mathlib.Order.Monotone.Basic
import Zet.Session.ConnectionSpec
import Zet.Wire.KeyRatchet

/-!
# The sealed stream of a channel

How a channel uses its sealer. `Port.poll_seals` says once what a poll can do to it: move to the next
epoch if that is due, and then seal at most the one frame the poll returns. A client seals its Resume
before it has a channel, with the sealer the channel then takes over.

`wireStep` is a channel under any calls of its owner, with the frames it has sealed. A poll moves to
the next epoch before it knows whether it has anything to send; a channel that stays silent over two
such polls skips an epoch, and its peer opens nothing any more. `epochs_agree` is what holds as long
as every epoch is announced before the next one.
-/

namespace Zet.Session
open Zet.Core Zet.Wire Zet.Lib

variable {K : Type}

/-- At most one frame was sealed, the one returned. -/
inductive Seals (s : FrameSealer K) : Except SessionError (Option (FrameView K)) → FrameSealer K →
    Prop
  | nothing {res : Except SessionError (Option (FrameView K))}
      (silent : ∀ frame, res ≠ .ok (some frame)) : Seals s res s
  | frame {out : Nat} {plain : Bytes} {frame : FrameView K} {s' : FrameSealer K}
      (sealed : s.seal out plain = .ok (frame, s')) : Seals s (.ok (some frame)) s'

/-- A turn leaves the sealer to the poll that takes it. -/
lemma Port.Turn.sealer {p : Port K} {m : Message} {done : Port K → Port K} (h : p.Turn m done)
    (q : Port K) : (done q).chan.sealer = q.chan.sealer := by
  cases h <;> rfl

/-- Everything a poll can do to the sealer. -/
theorem Port.poll_seals (P : KeySchedule K) (p : Port K) (now : Timestamp) (out scratch : Nat) :
    ∃ s, (s = p.chan.sealer ∨ p.Rekeys now ∧ p.chan.sealer.rekey P = .ok s) ∧
      Seals s (p.poll P now out scratch).1 (p.poll P now out scratch).2.chan.sealer := by
  cases Port.poll_polls P p now out scratch with
  | silent start since keys answer after =>
    rw [after]
    refine ⟨_, keys, .nothing fun frame hsent => ?_⟩
    rcases answer with hnone | ⟨e, herr, -⟩
    · rw [hnone] at hsent
      cases hsent
    · rw [herr] at hsent
      cases hsent
  | sent start since keys turn sealed answer after =>
    obtain ⟨q, rfl, hafter⟩ := after
    rw [hafter, answer, turn.sealer]
    exact ⟨_, keys, .frame sealed⟩

variable [DecidableEq K] {P : KeySchedule K}

/-- Receiving never seals. -/
lemma Port.receive_sealer (P : KeySchedule K) (p : Port K) (now : Timestamp)
    (frame : FrameView K) : (p.receive P now frame).2.chan.sealer = p.chan.sealer :=
  congrArg Prod.fst (Port.receive_outbox P p now frame)

/-- A channel with its streams, and the frames sealed with its sealer. -/
structure Wired (K : Type) where
  port : Port K
  sent : List (FrameView K)

/-- What the owner of a channel can do. -/
inductive ChannelCall (K : Type) where
  | poll (now : Timestamp) (out scratch : Nat)
  | receive (now : Timestamp) (frame : FrameView K)
  | setSendGate (open_ : Bool)
  | setReadGate (open_ : Bool) (now : Timestamp)
  | queueResize (size : ResizeMessage)
  | queueSessionEnd (message : SessionEndMessage)
  | queueGridApplied (streamGen : Nat)
  | startGrid (snapshot : Bytes) (flags streamGen scrollbackLen : Nat)
  | suppressDataUntilGrid
  /-- The session moved the streams the channel borrows. -/
  | streams (sendBuf : SendBuffer) (recvCursor : ReceiveCursor)

omit [DecidableEq K] in
/-- The frame a poll returned. -/
def frameOf (res : Except SessionError (Option (FrameView K))) : List (FrameView K) :=
  match res with
  | .ok (some frame) => [frame]
  | _ => []

omit [DecidableEq K] in
/-- The state with the channel's own bookkeeping changed. -/
def Wired.onChannel (w : Wired K) (f : Channel K → Channel K) : Wired K :=
  { w with port := { w.port with chan := f w.port.chan } }

/-- One call. -/
def wireStep (P : KeySchedule K) (w : Wired K) : ChannelCall K → Option (Wired K)
  | .poll now out scratch =>
    let (res, port) := w.port.poll P now out scratch
    some ⟨port, w.sent ++ frameOf res⟩
  | .receive now frame => some { w with port := (w.port.receive P now frame).2 }
  | .setSendGate open_ => some (w.onChannel (·.setSendGate open_))
  | .setReadGate open_ now => some (w.onChannel (·.setReadGate open_ now))
  | .queueResize size => some (w.onChannel (·.queueResize size))
  | .queueSessionEnd message => some (w.onChannel (·.queueSessionEnd message))
  | .queueGridApplied streamGen => some (w.onChannel (·.queueGridApplied streamGen))
  | .startGrid snapshot flags streamGen scrollbackLen =>
    some (w.onChannel fun chan => (chan.startGrid snapshot flags streamGen scrollbackLen).2)
  | .suppressDataUntilGrid => some (w.onChannel Channel.suppressDataUntilGrid)
  | .streams sendBuf recvCursor => some { w with port := ⟨w.port.chan, sendBuf, recvCursor⟩ }

/-- The sealer of the channel, with what it has sealed. -/
def Wired.sealing (w : Wired K) : Sealing K := ⟨w.port.chan.sealer, w.sent⟩

omit [DecidableEq K] in
/-- Starting a snapshot leaves the sealer alone. -/
lemma Channel.startGrid_sealer (c : Channel K) (snapshot : Bytes)
    (flags streamGen scrollbackLen : Nat) :
    (c.startGrid snapshot flags streamGen scrollbackLen).2.sealer = c.sealer := by
  unfold Channel.startGrid
  repeat' split
  all_goals rfl

omit [DecidableEq K] in
/-- Queueing a GridApplied leaves the sealer alone. -/
lemma Channel.queueGridApplied_sealer (c : Channel K) (streamGen : Nat) :
    (c.queueGridApplied streamGen).sealer = c.sealer := by
  unfold Channel.queueGridApplied
  split <;> rfl

omit [DecidableEq K] in
/-- Holding Data back leaves the sealer alone. -/
lemma Channel.suppressDataUntilGrid_sealer (c : Channel K) :
    c.suppressDataUntilGrid.sealer = c.sealer := by
  unfold Channel.suppressDataUntilGrid
  split <;> rfl

/-- Everything a call on a channel can do to its sealer: nothing, or what a poll does. -/
lemma wireStep_cases {w w' : Wired K} {call : ChannelCall K} (h : wireStep P w call = some w') :
    w'.sealing = w.sealing ∨
      ∃ now out scratch res s, call = .poll now out scratch ∧
        (s = w.port.chan.sealer ∨ w.port.Rekeys now ∧ w.port.chan.sealer.rekey P = .ok s) ∧
        Seals s res w'.port.chan.sealer ∧ w'.sent = w.sent ++ frameOf res := by
  cases call with
  | poll now out scratch =>
    obtain ⟨s, hs, hseals⟩ := Port.poll_seals P w.port now out scratch
    cases h
    exact .inr ⟨now, out, scratch, _, s, rfl, hs, hseals, rfl⟩
  | receive now frame =>
    cases h
    exact .inl (congrArg (Sealing.mk · w.sent) (Port.receive_sealer P w.port now frame))
  | queueGridApplied streamGen =>
    cases h
    exact .inl (congrArg (Sealing.mk · w.sent) (Channel.queueGridApplied_sealer _ streamGen))
  | startGrid snapshot flags streamGen scrollbackLen =>
    cases h
    exact .inl (congrArg (Sealing.mk · w.sent)
      (Channel.startGrid_sealer _ snapshot flags streamGen scrollbackLen))
  | suppressDataUntilGrid =>
    cases h
    exact .inl (congrArg (Sealing.mk · w.sent) (Channel.suppressDataUntilGrid_sealer _))
  | _ =>
    cases h
    exact .inl rfl

/-- A poll moves to the next epoch only once the one it is in has been announced. -/
def Announces (w : Wired K) : ChannelCall K → Prop
  | .poll now _ _ => w.port.Rekeys now → w.port.chan.sealer.Announced
  | _ => True

instance (w : Wired K) (call : ChannelCall K) : Decidable (Announces w call) := by
  cases call <;> dsimp only [Announces] <;> infer_instance

/-- One call of a channel that announces its epochs leaves its peer able to follow. -/
lemma followed_step {key : K} {o : FrameOpener K} {w w' : Wired K} {call : ChannelCall K}
    (h : w.sealing.Followed P key o) (ok : Announces w call) (hstep : wireStep P w call = some w') :
    w'.sealing.Followed P key o := by
  rcases wireStep_cases hstep with heq | ⟨now, out, scratch, res, s, rfl, hs, hseals, hsent⟩
  · rw [heq]
    exact h
  have hmoved : Sealing.Followed P key o ⟨s, w.sent⟩ := by
    rcases hs with rfl | ⟨hrekeys, hrekey⟩
    · exact h
    · exact h.rekeyed (ok hrekeys) hrekey
  cases hseals with
  | nothing silent =>
    have hnone : frameOf res = [] := by
      rcases res with e | _ | frame
      · rfl
      · rfl
      · exact absurd rfl (silent frame)
    rw [Wired.sealing, hsent, hnone, List.append_nil]
    exact hmoved
  | frame sealed =>
    rw [Wired.sealing, hsent]
    exact hmoved.sealed sealed

/-- In a run of a channel that announces every epoch before it moves to the next, the epochs of
consecutive frames differ by at most one, and the peer opens every frame. The channel takes over a
sealer, fresh or with frames sealed before, that its peer has followed. -/
theorem epochs_agree (P : KeySchedule K) (key : K) (salt : Bytes) (frameLimit byteLimit : Nat)
    {calls : List SealCall} {before : Sealing K}
    (opened : Run (sealStep P) OneRekey (.start key salt frameLimit byteLimit) calls before)
    {w t : Wired K} {as : List (ChannelCall K)} (takes : w.sealing = before)
    (run : Run (wireStep P) Announces w as t) :
    (t.sent.IsChain fun a b =>
      a.header.epoch ≤ b.header.epoch ∧ b.header.epoch ≤ a.header.epoch + 1) ∧
    (openAll P (.create P key salt frameLimit) t.sent).1 =
      t.sent.map fun frame => .ok frame.body.plaintext := by
  have hbefore : before.Followed P key (.create P key salt frameLimit) :=
    opened.inv (Sealing.Followed P key (.create P key salt frameLimit))
      (fun _ _ _ h ok hstep => h.step ok hstep) (.start ..)
  have hend : t.sealing.Followed P key (.create P key salt frameLimit) :=
    run.inv (fun w => w.sealing.Followed P key (.create P key salt frameLimit))
      (fun _ _ _ h ok hstep => followed_step h ok hstep) (by rw [takes]; exact hbefore)
  exact ⟨hend.chain, hend.opened⟩

/-- A channel of the agent over counted keys, without keepalives, with one byte to send. -/
def sampleWire : Wired Nat where
  port :=
    ⟨.create (makeDirectionFrames .counting ⟨7, 8, [0], [1]⟩ .agent 10 1000) (.create 0 .onDelivery) 0
        ⟨0, 0⟩ protocolVersionGrid [] 0,
      ((SendBuffer.create [0, 0, 0, 0] 0).append [65]).2, .create 0 .onDelivery⟩
  sent := []

/-- The next byte, once the first has been sent. -/
def nextByte : ChannelCall Nat :=
  .streams (((SendBuffer.create [0, 0, 0, 0] 0).append [65]).2.advanceSendNext 1 |>.append [66]).2
    (.create 0 .onDelivery)

/-- A byte, two hours with a poll in each and nothing to send, and another byte. -/
def silentHours : List (ChannelCall Nat) :=
  [.poll 0 1000 1000, .poll rekeyInterval 1000 1000, .poll (2 * rekeyInterval) 1000 1000, nextByte,
    .poll (2 * rekeyInterval) 1000 1000]

/-- The second byte goes out two epochs after the first, and the peer does not open it. -/
theorem silent_hours_skip_epoch : ¬∀ as t, Run (wireStep .counting) Anywhere sampleWire as t →
    (t.sent.IsChain fun a b =>
      a.header.epoch ≤ b.header.epoch ∧ b.header.epoch ≤ a.header.epoch + 1) ∧
    (openAll .counting (.create .counting 8 [1] 10) t.sent).1 =
      t.sent.map fun frame => .ok frame.body.plaintext := by
  intro h
  have hreach : ((exec (wireStep .counting) sampleWire silentHours).any fun t =>
      decide (t.sent.map (·.header.epoch) = [0, 2] ∧
        (openAll .counting (.create .counting 8 [1] 10) t.sent).1 ≠
          t.sent.map fun frame => .ok frame.body.plaintext)) = true := by
    decide +kernel
  obtain ⟨t, ht, hskip⟩ := (Option.any_eq_true _ _).mp hreach
  exact (of_decide_eq_true hskip).2 (h silentHours t (.of_exec ht)).2

/-- The same with a byte to announce the second epoch. -/
def spokenHours : List (ChannelCall Nat) :=
  [.poll 0 1000 1000, nextByte, .poll rekeyInterval 1000 1000]

/-- A run over two epochs: the opener returns every plaintext. -/
theorem epochs_agree_sample : ∃ t, Run (wireStep .counting) Announces sampleWire spokenHours t ∧
    t.sent.map (·.header.epoch) = [0, 1] ∧
    (openAll .counting (.create .counting 8 [1] 10) t.sent).1 =
      t.sent.map fun frame => .ok frame.body.plaintext := by
  have hreach : ((exec (guarded (wireStep .counting) Announces) sampleWire spokenHours).any fun t =>
      decide (t.sent.map (·.header.epoch) = [0, 1])) = true := by
    decide +kernel
  obtain ⟨t, ht, hepochs⟩ := (Option.any_eq_true _ _).mp hreach
  have run := Run.of_guarded ht
  exact ⟨t, run, of_decide_eq_true hepochs,
    (epochs_agree .counting 8 [1] 10 1000 (.nil _) rfl run).2⟩

/-- A connection of the client with its session, and the frames it has sealed. -/
structure ClientLife (K : Type) where
  conn : ClientConnection K
  session : ClientSession K
  sent : List (FrameView K)

/-- What the owner of the connection can do. -/
inductive ClientCall (K : Type) where
  | sendResume (now : Timestamp) (out version serverNonce offset : Nat)
  | frame (now : Timestamp) (frame : FrameView K)
  | idle (now : Timestamp) (out scratch : Nat)
  | queueResize (size : ResizeMessage)
  | confirmApply (gen : Nat)
  | denyApply (gen : Nat)
  | gates (sendOpen readOpen : Bool) (now : Timestamp)
  /-- The session moved between two calls. -/
  | session (s : ClientSession K)

omit [DecidableEq K] in
/-- The frame a call returned to be sent. -/
def frameToSend (res : Except SessionError (ConnectionEvent K)) : List (FrameView K) :=
  match res with
  | .ok (.sendFrame frame) => [frame]
  | _ => []

omit [DecidableEq K] in
/-- The state a call leaves. -/
def ClientLife.returns (l : ClientLife K) (res : ClientConnection.Pumped K) : ClientLife K :=
  ⟨res.2.1, res.2.2, l.sent ++ frameToSend res.1⟩

/-- One call. AuthOk is read once, and only then the Resume is sent. -/
def lifeStep (P : KeySchedule K) (l : ClientLife K) : ClientCall K → Option (ClientLife K)
  | .sendResume now out version serverNonce offset =>
    if l.conn.stage = .handshake then
      some (l.returns (l.conn.sendResume P l.session now out version serverNonce offset))
    else none
  | .frame now frame => some (l.returns (l.conn.onFrame P l.session now frame))
  | .idle now out scratch => some (l.returns (l.conn.onIdle P l.session now out scratch))
  | .queueResize size => some { l with conn := l.conn.queueResize size }
  | .confirmApply gen =>
    let (conn, session) := l.conn.confirmApply l.session gen
    some ⟨conn, session, l.sent⟩
  | .denyApply gen => some { l with conn := l.conn.denyApply gen }
  | .gates sendOpen readOpen now =>
    some { l with conn := { l.conn with
      channel := l.conn.channel.map fun chan => (chan.setSendGate sendOpen).setReadGate readOpen now } }
  | .session s => some { l with session := s }

omit [DecidableEq K] in
/-- The sealer a client starts a connection with. -/
def ClientConnection.sealing (P : KeySchedule K) (c : ClientConnection K) (serverNonce : Nat) :
    Sealing K :=
  let keys := P.deriveConnectionKeys c.seed c.clientNonce serverNonce
  .start keys.clientToServer keys.saltClientToServer maxFramesPerEpoch maxBytesPerEpoch

/-- Every frame of the connection was sealed by one sealer, the one its channel holds now. -/
def ClientLife.OneSealer (P : KeySchedule K) (conn₀ : ClientConnection K) (l : ClientLife K) : Prop :=
  l.conn.seed = conn₀.seed ∧ l.conn.clientNonce = conn₀.clientNonce ∧
    ((l.conn.stage = .handshake ∧ l.conn.channel = none ∧ l.sent = []) ∨
      ∃ serverNonce calls chan, l.conn.stage = .live ∧ l.conn.channel = some chan ∧
        Run (sealStep P) Anywhere (conn₀.sealing P serverNonce) calls ⟨chan.sealer, l.sent⟩)

omit [DecidableEq K] in
/-- A poll is a run of the sealer. -/
lemma Seals.run {s₀ s s' : FrameSealer K} {sent : List (FrameView K)} {now : Prop}
    {res : Except SessionError (Option (FrameView K))}
    (hs : s = s₀ ∨ now ∧ s₀.rekey P = .ok s) (h : Seals s res s') :
    ∃ calls, Run (sealStep P) Anywhere ⟨s₀, sent⟩ calls ⟨s', sent ++ frameOf res⟩ := by
  have hseal : ∃ calls, Run (sealStep P) Anywhere ⟨s, sent⟩ calls ⟨s', sent ++ frameOf res⟩ := by
    cases h with
    | nothing silent =>
      have hnone : frameOf res = [] := by
        rcases res with e | _ | frame
        · rfl
        · rfl
        · exact absurd rfl (silent frame)
      rw [hnone, List.append_nil]
      exact ⟨[], .nil _⟩
    | @frame out plain frame _ sealed =>
      exact ⟨[.frame out plain], .cons trivial (by simp [sealStep, sealed, frameOf]) (.nil _)⟩
  rcases hs with rfl | ⟨-, hrekey⟩
  · exact hseal
  · obtain ⟨calls, hcalls⟩ := hseal
    exact ⟨.rekey :: calls, .cons trivial (by simp [sealStep, hrekey]) hcalls⟩

omit [DecidableEq K] in
/-- What sending the Resume does to the sealer: nothing, or the Resume is the first frame of the
sealer the channel takes over. -/
lemma sendResume_sealer (P : KeySchedule K) (c : ClientConnection K) (s : ClientSession K)
    (now : Timestamp) (out version serverNonce offset : Nat) :
    let res := c.sendResume P s now out version serverNonce offset
    res.2.1.seed = c.seed ∧ res.2.1.clientNonce = c.clientNonce ∧
      ((res.2.1.stage = c.stage ∧ res.2.1.channel = c.channel ∧ frameToSend res.1 = []) ∨
        ∃ frame sealer chan plain,
          (c.sealing P serverNonce).sealer.seal out plain = .ok (frame, sealer) ∧
          res.2.1.stage = .live ∧ res.2.1.channel = some chan ∧ chan.sealer = sealer ∧
          frameToSend res.1 = [frame]) := by
  unfold ClientConnection.sendResume
  dsimp only
  split
  · exact ⟨rfl, rfl, .inl ⟨rfl, rfl, rfl⟩⟩
  split
  · exact ⟨rfl, rfl, .inl ⟨rfl, rfl, rfl⟩⟩
  split
  · exact ⟨rfl, rfl, .inl ⟨rfl, rfl, rfl⟩⟩
  split
  · exact ⟨rfl, rfl, .inl ⟨rfl, rfl, rfl⟩⟩
  split
  · exact ⟨rfl, rfl, .inl ⟨rfl, rfl, rfl⟩⟩
  next frame sealer hseal =>
  refine ⟨rfl, rfl, .inr ⟨frame, sealer, _, _, hseal, rfl, rfl, ?_, rfl⟩⟩
  split <;> rfl

/-- Taking a frame leaves the sealer alone. -/
lemma onFrame_sealer (P : KeySchedule K) (c : ClientConnection K) (s : ClientSession K)
    (now : Timestamp) (frame : FrameView K) :
    let res := c.onFrame P s now frame
    res.2.1.seed = c.seed ∧ res.2.1.clientNonce = c.clientNonce ∧ res.2.1.stage = c.stage ∧
      res.2.1.channel.map Channel.sealer = c.channel.map Channel.sealer ∧
      frameToSend res.1 = [] := by
  unfold ClientConnection.onFrame ClientConnection.guarded
  dsimp only
  split
  · exact ⟨rfl, rfl, rfl, rfl, rfl⟩
  split
  · exact ⟨rfl, rfl, rfl, rfl, rfl⟩
  split
  · next chan handle hstage hchan hhandle =>
    split
    · exact ⟨rfl, rfl, rfl, rfl, rfl⟩
    have hsealer := Port.receive_sealer P (ClientConnection.port chan s) now frame
    unfold ClientConnection.liveFrame
    dsimp only
    rcases hres : (ClientConnection.port chan s).receive P now frame with ⟨event, p⟩
    rw [hres] at hsealer
    have hkept : (some p.chan).map Channel.sealer = c.channel.map Channel.sealer := by
      rw [hchan]
      exact congrArg some hsealer
    cases event with
    | error e => exact ⟨rfl, rfl, rfl, hkept, rfl⟩
    | ok event =>
      cases event with
      | sessionEnd message =>
        dsimp only
        split <;> exact ⟨rfl, rfl, rfl, hkept, rfl⟩
      | _ => exact ⟨rfl, rfl, rfl, hkept, rfl⟩
  · exact ⟨rfl, rfl, rfl, rfl, rfl⟩

omit [DecidableEq K] in
/-- An idle call is a poll, if it gets that far. -/
lemma onIdle_sealer (P : KeySchedule K) (c : ClientConnection K) (s : ClientSession K)
    (now : Timestamp) (out scratch : Nat) :
    let res := c.onIdle P s now out scratch
    res.2.1.seed = c.seed ∧ res.2.1.clientNonce = c.clientNonce ∧ res.2.1.stage = c.stage ∧
      ((res.2.1.channel = c.channel ∧ frameToSend res.1 = []) ∨
        ∃ chan p polled, c.channel = some chan ∧ res.2.1.channel = some p.chan ∧
          (ClientConnection.port chan s).poll P now out scratch = (polled, p) ∧
          frameToSend res.1 = frameOf polled) := by
  unfold ClientConnection.onIdle ClientConnection.guarded
  dsimp only
  split
  · exact ⟨rfl, rfl, rfl, .inl ⟨rfl, rfl⟩⟩
  split
  · exact ⟨rfl, rfl, rfl, .inl ⟨rfl, rfl⟩⟩
  split
  · next chan handle hstage hchan hhandle =>
    split
    · exact ⟨rfl, rfl, rfl, .inl ⟨rfl, rfl⟩⟩
    unfold ClientConnection.liveIdle
    dsimp only
    rcases hpoll : (ClientConnection.port chan s).poll P now out scratch with ⟨polled, p⟩
    rcases polled with e | _ | frame
    · exact ⟨rfl, rfl, rfl, .inr ⟨chan, p, _, hchan, rfl, hpoll, rfl⟩⟩
    · exact ⟨rfl, rfl, rfl, .inr ⟨chan, p, _, hchan, rfl, hpoll, rfl⟩⟩
    · exact ⟨rfl, rfl, rfl, .inr ⟨chan, p, _, hchan, rfl, hpoll, rfl⟩⟩
  · exact ⟨rfl, rfl, rfl, .inl ⟨rfl, rfl⟩⟩

omit [DecidableEq K] in
/-- A call that leaves the sealer alone. -/
lemma ClientLife.OneSealer.keep {conn₀ : ClientConnection K} {l l' : ClientLife K}
    (h : l.OneSealer P conn₀) (seed : l'.conn.seed = l.conn.seed)
    (clientNonce : l'.conn.clientNonce = l.conn.clientNonce) (stage : l'.conn.stage = l.conn.stage)
    (channel : l'.conn.channel.map Channel.sealer = l.conn.channel.map Channel.sealer)
    (sent : l'.sent = l.sent) : l'.OneSealer P conn₀ := by
  obtain ⟨hseed, hnonce, hsealer⟩ := h
  refine ⟨seed.trans hseed, clientNonce.trans hnonce, ?_⟩
  rcases hsealer with ⟨hstage, hchan, hsent⟩ | ⟨serverNonce, calls, chan, hstage, hchan, hrun⟩
  · refine .inl ⟨stage.trans hstage, ?_, sent.trans hsent⟩
    simpa [hchan] using channel
  · rw [hchan] at channel
    obtain ⟨chan', hchan', hsame⟩ := Option.map_eq_some_iff.mp channel
    exact .inr ⟨serverNonce, calls, chan', stage.trans hstage, hchan', by rw [hsame, sent]; exact hrun⟩

/-- Every call seals with the one sealer. -/
lemma ClientLife.OneSealer.step {conn₀ : ClientConnection K} {l l' : ClientLife K}
    {call : ClientCall K} (h : l.OneSealer P conn₀) (hstep : lifeStep P l call = some l') :
    l'.OneSealer P conn₀ := by
  cases call with
  | sendResume now out version serverNonce offset =>
    simp only [lifeStep] at hstep
    split at hstep
    next hstage =>
      cases hstep
      obtain ⟨hseed, hnonce, hres⟩ :=
        sendResume_sealer P l.conn l.session now out version serverNonce offset
      rcases hres with ⟨hstage', hchan, hsent⟩ | ⟨frame, sealer, chan, plain, hseal, hlive, hchan,
        hsealer, hsent⟩
      · exact h.keep hseed hnonce hstage' (by rw [ClientLife.returns, hchan])
          (by rw [ClientLife.returns, hsent, List.append_nil])
      · obtain ⟨hseed₀, hnonce₀, ⟨-, -, hempty⟩ | ⟨_, _, _, hlive', -⟩⟩ := h
        · refine ⟨hseed.trans hseed₀, hnonce.trans hnonce₀,
            .inr ⟨serverNonce, [.frame out plain], chan, hlive, hchan, ?_⟩⟩
          have hsame : conn₀.sealing P serverNonce = l.conn.sealing P serverNonce := by
            simp only [ClientConnection.sealing, hseed₀, hnonce₀]
          rw [ClientLife.returns, hsent, hempty, hsealer, hsame]
          exact .cons trivial (by simp only [sealStep, hseal]; rfl) (.nil _)
        · rw [hstage] at hlive'
          cases hlive'
    · cases hstep
  | frame now frame =>
    cases hstep
    obtain ⟨hseed, hnonce, hstage, hchan, hsent⟩ := onFrame_sealer P l.conn l.session now frame
    exact h.keep hseed hnonce hstage hchan (by rw [ClientLife.returns, hsent, List.append_nil])
  | idle now out scratch =>
    cases hstep
    obtain ⟨hseed, hnonce, hstage, hres⟩ := onIdle_sealer P l.conn l.session now out scratch
    rcases hres with ⟨hchan, hsent⟩ | ⟨chan, p, polled, hchan, hchan', hpoll, hsent⟩
    · exact h.keep hseed hnonce hstage (by rw [ClientLife.returns, hchan])
        (by rw [ClientLife.returns, hsent, List.append_nil])
    · obtain ⟨hseed₀, hnonce₀, ⟨-, hnone, -⟩ | ⟨serverNonce, calls, chan₀, hlive, hchan₀, hrun⟩⟩ := h
      · rw [hchan] at hnone
        cases hnone
      · obtain rfl : chan = chan₀ := Option.some.inj (hchan.symm.trans hchan₀)
        obtain ⟨s, hs, hseals⟩ :=
          Port.poll_seals P (ClientConnection.port chan l.session) now out scratch
        rw [hpoll] at hseals
        obtain ⟨more, hmore⟩ := @Seals.run _ P _ _ _ l.sent _ _ hs hseals
        refine ⟨hseed.trans hseed₀, hnonce.trans hnonce₀,
          .inr ⟨serverNonce, calls ++ more, p.chan, hstage.trans hlive, hchan', ?_⟩⟩
        rw [ClientLife.returns, hsent]
        exact hrun.append hmore
  | queueResize size =>
    cases hstep
    simp only [ClientConnection.queueResize]
    split
    · next chan hchan => exact h.keep rfl rfl rfl (by simp [hchan, Channel.queueResize]) rfl
    · exact h.keep rfl rfl rfl rfl rfl
  | confirmApply gen =>
    simp only [lifeStep] at hstep
    cases hstep
    -- queueing seals nothing
    have hsealer : (fun chan : Channel K => (chan.queueGridApplied gen).sealer) = Channel.sealer :=
      funext fun chan => Channel.queueGridApplied_sealer chan gen
    unfold ClientConnection.confirmApply
    split
    · exact h
    · dsimp only
      split
      · split <;> exact h.keep rfl rfl rfl (by simp [Function.comp_def, hsealer]) rfl
      · exact h.keep rfl rfl rfl (by simp [Function.comp_def, hsealer]) rfl
  | denyApply gen =>
    cases hstep
    simp only [ClientConnection.denyApply]
    split
    · exact h
    · exact h.keep rfl rfl rfl rfl rfl
  | gates sendOpen readOpen now =>
    cases hstep
    refine h.keep rfl rfl rfl ?_ rfl
    simp only [Option.map_map]
    rfl
  | session s =>
    cases hstep
    exact h

/-- The sealed stream of one direction. Along any calls of a sealer, the places of the frames it seals
go up, and no key is used with a nonce twice; the frames of a client connection, its Resume and
those of its channel, are frames of one such sealer. An opener that starts with the same key and limit
returns the plaintexts in order as long as no two rekeys come between two frames; and whatever it is
given, a frame it refuses moves neither its epoch nor its key nor a counter. -/
theorem sealed_stream_lockstep (P : KeySchedule K) (key : K) (salt : Bytes)
    (frameLimit byteLimit : Nat) :
    (∀ calls s, Run (sealStep P) Anywhere (.start key salt frameLimit byteLimit) calls s →
      (s.sent.Pairwise fun a b => a.place < b.place) ∧
      ((∀ m n, m ≤ 0xFF → n ≤ 0xFF → ratchetKey P key m = ratchetKey P key n → m = n) →
        (s.sent.map fun frame => (frame.body.key, frame.body.nonce)).Nodup)) ∧
    (∀ (l t : ClientLife K) calls, l.conn.stage = .handshake → l.conn.channel = none → l.sent = [] →
      Run (lifeStep P) Anywhere l calls t → t.sent = [] ∨
        ∃ serverNonce calls sealer,
          Run (sealStep P) Anywhere (l.conn.sealing P serverNonce) calls ⟨sealer, t.sent⟩) ∧
    (∀ calls s, Run (sealStep P) OneRekey (.start key salt frameLimit byteLimit) calls s →
      (openAll P (.create P key salt frameLimit) s.sent).1 =
        s.sent.map fun frame => .ok frame.body.plaintext) ∧
    (∀ frames o, Run (openStep P) Anywhere (.create P key salt frameLimit) frames o →
      ∀ frame e, (o.open P frame).1 = .error e →
        (o.open P frame).2.epoch = o.epoch ∧ (o.open P frame).2.key = o.key ∧
        (o.open P frame).2.counter = o.counter ∧
        (o.open P frame).2.nextCounter = o.nextCounter) := by
  refine ⟨fun calls s run => ?_, fun l t calls hstage hchan hsent run => ?_, fun calls s run => ?_,
    fun frames o run frame e he => ?_⟩
  · have h : s.Ratcheted P key salt :=
      run.inv (Sealing.Ratcheted P key salt) (fun _ _ _ h _ hstep => h.step hstep) (.start ..)
    exact ⟨h.increasing, h.nodup⟩
  · have h : t.OneSealer P l.conn :=
      run.inv (ClientLife.OneSealer P l.conn) (fun _ _ _ h _ hstep => h.step hstep)
        ⟨rfl, rfl, .inl ⟨hstage, hchan, hsent⟩⟩
    obtain ⟨-, -, ⟨-, -, hempty⟩ | ⟨serverNonce, calls, chan, -, -, hrun⟩⟩ := h
    · exact .inl hempty
    · exact .inr ⟨serverNonce, calls, chan.sealer, hrun⟩
  · have h : s.Followed P key (.create P key salt frameLimit) :=
      run.inv (Sealing.Followed P key (.create P key salt frameLimit))
        (fun _ _ _ h ok hstep => h.step ok hstep) (.start ..)
    exact h.opened
  · exact FrameOpener.open_refused (nextCounter_run run) he

/-- The ratchet of the counting instance never returns to a key. -/
lemma counting_ratchet_strictMono : StrictMono (ratchetKey .counting 7) := by
  refine strictMono_nat_of_lt_succ fun n => ?_
  simp only [ratchetKey, KeySchedule.counting]
  omega

/-- Three frames over a rekey: no pair of key and nonce twice, and all of them are opened. -/
theorem sealed_stream_lockstep_sample :
    ∃ s, Run (sealStep .counting) OneRekey (.start 7 [0] 10 1000)
        [.frame 100 [1], .rekey, .frame 100 [2]] s ∧
      (s.sent.map fun frame => (frame.body.key, frame.body.nonce)).Nodup ∧
      (openAll .counting (.create .counting 7 [0] 10) s.sent).1 = [.ok [1], .ok [2]] := by
  obtain ⟨hseals, -, hopens, -⟩ := sealed_stream_lockstep .counting 7 [0] 10 1000
  have run : Run (sealStep .counting) OneRekey (.start 7 [0] 10 1000)
      [.frame 100 [1], .rekey, .frame 100 [2]] _ :=
    .cons trivial rfl (.cons (.inl (by decide)) rfl (.cons trivial rfl (.nil _)))
  refine ⟨_, run, ?_, ?_⟩
  · refine (hseals _ _ (run.mono fun _ _ _ => trivial)).2 fun m n _ _ heq => ?_
    exact counting_ratchet_strictMono.injective heq
  · rw [hopens _ _ run]
    rfl

end Zet.Session
