import Zet.Net.Delivery
import Zet.Net.Ending
import Zet.Session.Resting

/-!
# What the agent receives

The client's stream, whatever becomes of the agent's. Snapshots, Resumes out of order and dropped output
move the agent's ring and no more: `Receiving` holds in every run, and with it the agent has been delivered
a prefix of what the client took, once and in order.

Three steps move the agent's cursor on that stream. A frame delivers what it returns (`step_agentFrame_input`),
and the agent's caller gives the bytes to the pty or gives them back; every other step leaves the cursor
where it was (`step_aside`).
-/

namespace Zet.Net
open Zet.Core Zet.Wire Zet.Lib Zet.Session

/-- What holds of the client's stream in every run. -/
structure View.Receiving (cfg : Config) (v : View) : Prop where
  ordered : v.Ordered cfg
  staged : v.Staged
  input : v.Input

/-- The generations of the ring and the client's offsets fit the fields they are counted in. -/
structure MoveFits (v : View) (m : Mark) : Prop where
  gen : GenFits v m
  client : v.clientTaken.length < 2 ^ 64

section
variable {cfg : Config} {v v' : View} {m : Mark}

/-- Every move keeps what has been received. -/
lemma View.Receiving.move (h : v.Receiving cfg) (stored : v.Stored) (counted : MoveFits v m)
    (hmove : Move cfg v m v') : v'.Receiving cfg where
  ordered := h.ordered.move stored counted.gen hmove
  staged := h.staged.move hmove
  input := h.input.move h.ordered h.staged stored counted.client hmove

/-- The agent holds all of the stream up to its cursor. -/
lemma View.Input.length_got (h : v.Input) : v.agentGot.length = v.inp.recvOffset := by
  rw [h.got, List.length_take]
  exact min_eq_left h.recv

end

variable {K : Type} [DecidableEq K] {P : KeySchedule K} {cfg : Config} {s s' : State K} {a : Action}

omit [DecidableEq K] in
/-- At the start nothing has been received. -/
lemma receiving_start (seed : K) (agentStorage clientStorage : Bytes)
    (agentLimits clientLimits : SessionLimits) (now : Timestamp) :
    (State.view cfg
      (.start seed agentStorage clientStorage agentLimits clientLimits now)).Receiving cfg := by
  have h : View.Replaying cfg _ :=
    replaying_start seed agentStorage clientStorage agentLimits clientLimits now
  exact ⟨h.ordered, h.staged, h.input⟩

/-- The counters have room: for what the client has taken, and for the next generation. -/
def State.CountsInput (s : State K) : Prop :=
  s.clientTaken.length < 2 ^ 64 ∧ s.agent.streams.output.sessionGen + 1 < 2 ^ 32

omit [DecidableEq K] in
/-- The condition on steps is the one on moves. -/
lemma State.CountsInput.counted (h : s.CountsInput) (m : Mark) : MoveFits (s.view cfg) m :=
  ⟨fun _ => h.2, h.1⟩

/-- What the steps of a system keep. -/
structure State.Received (cfg : Config) (s : State K) : Prop where
  coherent : Coherent cfg s
  stored : (s.view cfg).Stored
  receiving : (s.view cfg).Receiving cfg

/-- Every step keeps what has been received. -/
lemma State.Received.step (h : s.Received cfg) (counts : s.CountsInput)
    (hstep : s.step P cfg a = some s') : s'.Received cfg := by
  obtain ⟨⟨m, -, hmove⟩, hcoh⟩ := step_moves h.coherent h.stored hstep
  exact ⟨hcoh, h.stored.move hmove, h.receiving.move h.stored (counts.counted m) hmove⟩

omit [DecidableEq K] in
/-- Nothing has been, at the start. -/
lemma State.Received.start (cfg : Config) (seed : K) (agentStorage clientStorage : Bytes)
    (agentLimits clientLimits : SessionLimits) (now : Timestamp) :
    State.Received cfg (.start seed agentStorage clientStorage agentLimits clientLimits now) :=
  ⟨.start .., stored_start .., receiving_start ..⟩

/-- The step is none of those that move the client's stream. -/
def Action.aside : Action → Bool
  | .agentFrame .. | .inputDelivered .. | .inputRejected .. | .clientWrite .. => false
  | _ => true

/-- The client's stream is where it was. -/
structure State.SameInput (s s' : State K) : Prop where
  cursor : s'.agent.streams.input = s.agent.streams.input
  got : s'.agentGot = s.agentGot
  taken : s'.clientTaken = s.clientTaken

omit [DecidableEq K] in
/-- A call of the client leaves the input alone. -/
lemma State.sameInput_clientReturns (i : Nat) (l : Link K) (res : ClientConnection.Pumped K) :
    s.SameInput (s.clientReturns i l res) := by
  rw [State.clientReturns_eq]
  exact ⟨rfl, rfl, rfl⟩

omit [DecidableEq K] in
/-- So does dropping its connection. -/
lemma State.sameInput_dropClient (now : Timestamp) : s.SameInput (s.dropClient now) := by
  unfold State.dropClient
  split
  · exact ⟨rfl, rfl, rfl⟩
  · exact ⟨rfl, rfl, rfl⟩

omit [DecidableEq K] in
/-- Closing a connection does. -/
lemma close_input (c : AgentConnection K) (agent : AgentSession K) (now : Timestamp) :
    (c.close agent now).streams.input = agent.streams.input := by
  rcases close_cases c agent now with heq | ⟨since, heq⟩
  · rw [heq]
  · rw [heq]

/-- The timer does. -/
lemma onTimer_input (a : StreamState) (now : Timestamp) : (a.onTimer now).input = a.input := by
  unfold StreamState.onTimer
  split
  · split
    · exact (reap_rest a _).2.1
    · rfl
  · rfl

/-- Sending a message leaves the cursor alone. -/
lemma sends_cursor {f f' : Face} {m : Session.Message} (h : f.Sends m f') : f'.recvCursor = f.recvCursor := by
  cases h with
  | _ => rfl

/-- A step beside the client's stream. -/
lemma State.step_aside (aside : a.aside = true) (h : s.step P cfg a = some s') : s.SameInput s' := by
  cases a with
  | agentFrame | inputDelivered | inputRejected | clientWrite => cases aside
  | clientOpen clientNonce serverNonce snapshotBuf now =>
    cases h
    obtain ⟨hcursor, hgot, htaken⟩ := s.sameInput_dropClient now
    exact ⟨hcursor, hgot, htaken⟩
  | route i now =>
    simp only [State.step] at h
    split at h
    · cases h
      exact ⟨rfl, rfl, rfl⟩
    · cases h
  | completeHandshake i =>
    obtain ⟨c, res, -, -, hres, rfl⟩ := State.step_completeHandshake h
    unfold AgentConnection.completeHandshake at hres
    split at hres
    · cases hres
      exact ⟨rfl, rfl, rfl⟩
    · cases hres
  | sendResume now out =>
    obtain ⟨i, offset, -, -, -, rfl⟩ := State.step_sendResume h
    exact s.sameInput_clientReturns ..
  | agentIdle i now out scratch =>
    obtain ⟨c, hc, hfail, rfl⟩ := State.step_agentIdle h
    rw [State.agentReturns_eq]
    rcases AgentConnection.onIdle_cases P s.agent now out scratch hfail with quiet | ⟨f, m, f', speaks⟩
    · have hhanded := State.handedOf_nil quiet.nothing
      exact ⟨congrArg StreamState.input quiet.streams, by simp [State.putLink, hhanded], rfl⟩
    · obtain ⟨chan, -, rfl⟩ := speaks.before
      obtain ⟨frame, hframe, -⟩ := speaks.frame
      have hcursor : f'.recvCursor = s.agent.streams.input := sends_cursor speaks.sends
      refine ⟨(congrArg StreamState.input speaks.streams).trans hcursor, ?_, rfl⟩
      simp [State.putLink, hframe, State.handedOf]
  | supplySnapshot i now snapshot scrollbackLen flags =>
    simp only [State.step, Option.bind_eq_bind, Option.bind_eq_some_iff] at h
    obtain ⟨c, -, h⟩ := h
    cases h
    have hinput : (c.supplySnapshot s.agent now snapshot scrollbackLen flags).2.streams.input =
        s.agent.streams.input := by
      rcases c.supplySnapshot_cases s.agent now snapshot scrollbackLen flags with ⟨hsame, -⟩ | supplied
      · rw [hsame]
      · rw [supplied.streams]
        rfl
    exact ⟨hinput, rfl, rfl⟩
  | agentClose i now =>
    simp only [State.step, Option.bind_eq_bind, Option.bind_eq_some_iff] at h
    obtain ⟨c, -, h⟩ := h
    cases h
    exact ⟨close_input c s.agent now, rfl, rfl⟩
  | clientFrame now =>
    obtain ⟨i, down, rest, -, -, -, -, rfl⟩ := State.step_clientFrame h
    exact s.sameInput_clientReturns ..
  | clientIdle now out scratch =>
    obtain ⟨i, -, -, rfl⟩ := State.step_clientIdle h
    exact s.sameInput_clientReturns ..
  | confirmApply | denyApply | queueResize =>
    simp only [State.step, Option.bind_eq_bind, Option.bind_eq_some_iff] at h
    obtain ⟨i, -, h⟩ := h
    cases h
    exact ⟨rfl, rfl, rfl⟩
  | clientClose now =>
    cases h
    exact s.sameInput_dropClient now
  | agentWrite bytes =>
    have hinput : (s.agent.write bytes).2.streams.input = s.agent.streams.input := by
      rw [write_streams]
      exact s.agent.streams.write_input bytes
    simp only [State.step] at h
    split at h
    all_goals
      next heq =>
        cases h
        rw [heq] at hinput
        exact ⟨hinput, rfl, rfl⟩
  | endSession message =>
    cases h
    exact ⟨rfl, rfl, rfl⟩
  | agentTimer now =>
    cases h
    exact ⟨onTimer_input s.agent.streams now, rfl, rfl⟩
  | agentGates i sendOpen readOpen now =>
    cases h
    exact ⟨rfl, rfl, rfl⟩
  | clientGates sendOpen readOpen now =>
    cases h
    unfold State.onClientChannel
    split
    · exact ⟨rfl, rfl, rfl⟩
    · exact ⟨rfl, rfl, rfl⟩

omit [DecidableEq K] in
/-- A Resume delivers nothing, whatever it comes to. -/
lemma resumed_input {c : AgentConnection K} {agent : AgentSession K} {used : ResumeKeys}
    {message : ResumeMessage} {res : AgentConnection.Pumped K}
    (h : AgentConnection.Resumed P c agent used message res) :
    (∀ bytes, res.1 ≠ .ok (.deliver bytes)) ∧ res.2.2.streams.input = agent.streams.input := by
  cases h with
  | unknown turned => exact ⟨turned.quiet.nothing, by rw [turned.session]⟩
  | refused confirmed turned =>
    obtain ⟨seed, previous, rfl⟩ := confirmResume_rest confirmed
    exact ⟨turned.quiet.nothing, by rw [turned.session]⟩
  | rejected confirmed _ _ _ _ session _ _ _ result =>
    obtain ⟨seed, previous, rfl⟩ := confirmResume_rest confirmed
    refine ⟨by simp [result], ?_⟩
    rcases session with hsame | ⟨-, hkilled⟩
    · rw [hsame]
    · rw [hkilled]
      exact (reap_rest agent.streams _).2.1
  | pathA confirmed _ _ _ _ session _ _ _ result | pathB confirmed _ _ _ session _ _ _ result =>
    obtain ⟨seed, previous, rfl⟩ := confirmResume_rest confirmed
    exact ⟨by simp [result], by rw [session]; rfl⟩

/-- A Resume delivers nothing. -/
lemma State.Received.resumed (received : s.Received cfg) {i : Nat} {c : AgentConnection K}
    (hc : (s.links i).agent = some c) (hfail : c.failed = none) {frame : FrameView K}
    {used : ResumeKeys} {chosen : DirectionFrames K} {message : ResumeMessage}
    (resumes : AgentConnection.Resumes P c frame used chosen message) (now : Timestamp) :
    (∀ bytes, (c.resume P s.agent now used chosen message).1 ≠ .ok (.deliver bytes)) ∧
      (c.resume P s.agent now used chosen message).2.2.streams.input = s.agent.streams.input := by
  obtain ⟨-, hcur, hfallback⟩ := (received.coherent.agentEnd i c hc).terms hfail resumes.stage
  exact resumed_input (AgentConnection.resume_cases P s.agent now used message hfail
    (openResume_role resumes.opened hcur hfallback))

omit [DecidableEq K] in
/-- No write takes more than it is given. -/
lemma takenOf_le (client : ClientSession K) (bytes : Bytes) :
    takenOf (client.write bytes).1 ≤ bytes.length := by
  show takenOf (client.streams.write bytes).1 ≤ bytes.length
  have hwrote := client.streams.write_cases bytes
  generalize client.streams.write bytes = out at hwrote
  cases hwrote with
  | refused | reaped => exact Nat.zero_le _
  | dropped | overflowed => exact le_rfl
  | appended =>
    simp only [takenOf]
    rw [SendBuffer.append_fst, List.length_take]
    omega

/-- The client's stream goes on with what a write took. -/
lemma State.step_clientWrite {bytes : Bytes} (h : s.step P cfg (.clientWrite bytes) = some s') :
    s'.agent = s.agent ∧ s'.agentGot = s.agentGot ∧
      s'.clientTaken = s.clientTaken ++ bytes.take (takenOf (s.client.write bytes).1) := by
  simp only [State.step] at h
  split at h
  · next heq =>
    cases h
    rw [heq]
    exact ⟨rfl, rfl, rfl⟩
  · next heq =>
    cases h
    rw [heq, takenOf, List.take_zero, List.append_nil]
    exact ⟨rfl, rfl, rfl⟩

/-- A frame begins no generation. -/
lemma State.Received.agentFrame_gen (received : s.Received cfg) {i : Nat} {now : Timestamp}
    (h : s.step P cfg (.agentFrame i now) = some s') :
    s'.agent.streams.output.sessionGen = s.agent.streams.output.sessionGen := by
  obtain ⟨⟨m, hm, hmove⟩, -⟩ := step_moves received.coherent received.stored h
  rcases hmove.gen_cases with hsame | ⟨rfl, -⟩
  · exact hsame
  · obtain ⟨_, _, _, _, _, hother⟩ := hm
    cases hother

/-- A frame adds to the stream what it returns for the pty, and the cursor has that much more pending. -/
lemma State.Received.agentFrame (received : s.Received cfg) {i : Nat} {now : Timestamp}
    (h : s.step P cfg (.agentFrame i now) = some s') :
    ∃ c up, (s.links i).agent = some c ∧ (s.links i).toAgent.head? = some up ∧
      s'.agentGot = s.agentGot ++ State.handedOf (c.onFrame P s.agent now up.frame).1 ∧
      s'.agent.streams.input.pending =
        s.agent.streams.input.pending + (State.handedOf (c.onFrame P s.agent now up.frame).1).length ∧
      s'.clientTaken = s.clientTaken := by
  obtain ⟨c, up, rest, hc, hfail, -, hup, rfl⟩ := State.step_agentFrame h
  refine ⟨c, up, hc, by rw [hup]; rfl, ?_⟩
  rw [State.agentReturns_eq]
  refine ⟨rfl, ?_, rfl⟩
  show (c.onFrame P s.agent now up.frame).2.2.streams.input.pending = _
  rcases AgentConnection.onFrame_cases P s.agent now up.frame hfail with
    turned | ⟨used, chosen, message, resumes, heq⟩ | ⟨f, out, carried⟩
  · rw [State.handedOf_nil turned.quiet.nothing, turned.session]
    rfl
  · obtain ⟨hnothing, hinput⟩ := received.resumed hc hfail resumes now
    rw [heq, State.handedOf_nil hnothing, hinput]
    rfl
  · -- what the cursor took is what was delivered, and all of it is pending
    obtain ⟨chan, hchan, rfl⟩ := carried.before
    have hgrid : ((s.view cfg).links i).agentGrid = some chan.grid := by
      simp [State.view, Link.view, hc, hchan]
    have hwhole := Face.hears_agent_whole (carried.hears cfg.version)
      ((received.receiving.ordered.link i).agentGrid chan.grid hgrid).1
    rw [handedOf_carried carried, carried.streams]
    rcases Face.hears_delivered (carried.hears cfg.version) hwhole with
      ⟨-, a, o, p, -, hrec⟩ | ⟨hsame, hnothing, -⟩
    · obtain ⟨-, -, -, -, hpending⟩ := ReceiveCursor.receive_ok hrec
      have hmode : (AgentConnection.port chan s.agent).face.recvCursor.ack = .onDelivery :=
        received.receiving.input.cursor.1
      rw [if_pos hmode] at hpending
      exact hpending
    · rw [hnothing]
      exact congrArg ReceiveCursor.pending hsame

/-- The connection that delivered holds the session, and its caller can reject what it was given. -/
lemma State.Received.rejects (received : s.Received cfg) {i : Nat} {now : Timestamp}
    (h : s.step P cfg (.agentFrame i now) = some s') {c : AgentConnection K} {up : Upward K} {bytes : Bytes}
    (hc : (s.links i).agent = some c) (hup : (s.links i).toAgent.head? = some up)
    (delivered : (c.onFrame P s.agent now up.frame).1 = .ok (.deliver bytes)) (count : Nat) :
    (s'.step P cfg (.inputRejected i count now)).isSome = true := by
  obtain ⟨c, up, rest, hc', hfail, -, hup', rfl⟩ := State.step_agentFrame h
  cases hc.symm.trans hc'
  rw [hup', List.head?_cons] at hup
  cases hup
  rcases AgentConnection.onFrame_cases P s.agent now up.frame hfail with
    turned | ⟨used, chosen, message, resumes, heq⟩ | ⟨f, out, carried⟩
  · exact absurd delivered (turned.quiet.nothing bytes)
  · obtain ⟨hnothing, -⟩ := received.resumed hc hfail resumes now
    rw [heq] at delivered
    exact absurd delivered (hnothing bytes)
  · -- the frame left the connection the one that holds the session
    obtain ⟨handle, hhandle, hcur⟩ := carried.current
    have hcurrent : (c.onFrame P s.agent now up.frame).2.1.isCurrent
        (c.onFrame P s.agent now up.frame).2.2 = true := by
      rw [AgentConnection.isCurrent, carried.handle, hhandle]
      show (c.onFrame P s.agent now up.frame).2.2.streams.isCurrent handle = true
      rw [carried.streams]
      exact hcur
    rw [State.agentReturns_eq]
    simp only [State.step, State.putLink, Function.update_self, Option.bind_eq_bind, Option.bind_some,
      hcurrent, if_true]
    split <;> rfl

/-- What is rejected of what is pending was not received after all. -/
lemma State.step_inputRejected {i count : Nat} {now : Timestamp}
    (h : s.step P cfg (.inputRejected i count now) = some s')
    (pending : count ≤ s.agent.streams.input.pending) :
    (s.agent.inputRejected count).1 = true ∧ s'.agentGot = s.agentGot.take (s.agentGot.length - count) ∧
      s'.agent.streams.input.pending = s.agent.streams.input.pending - count ∧
      s'.clientTaken = s.clientTaken := by
  have hok : s.agent.inputRejected count = (true, { s.agent with streams := { s.agent.streams with
      input := { s.agent.streams.input with
        pending := s.agent.streams.input.pending - count
        recvOffset := s.agent.streams.input.recvOffset - count } } }) := by
    rw [AgentSession.inputRejected, ReceiveCursor.unreceive, if_neg (Nat.not_lt.mpr pending)]
  simp only [State.step, Option.bind_eq_bind, Option.bind_eq_some_iff] at h
  obtain ⟨c, -, h⟩ := h
  split at h
  · rw [hok] at h ⊢
    cases h
    exact ⟨rfl, rfl, congrArg ReceiveCursor.pending (close_input c _ now), rfl⟩
  · cases h

end Zet.Net
