import Zet.Net.Protocol

/-!
# Every step is a move

`State.view` forgets what the protocol does not depend on. `Coherent` collects the facts about a
state that are not about the streams: the stage of a connection says which of its parts are there, a
handle is current exactly on the connection that attached last, and the overflow mode follows what the
two ends agreed on. `step_moves` is the refinement: a step from a coherent state is a move of its
view, to a coherent state. `run_inv` turns an invariant of moves into one of runs.
-/

namespace Zet.Net
open Zet.Core Zet.Wire Zet.Lib Zet.Session

variable {K : Type}

/-- A frame to the agent, as it is read. -/
def Upward.view (version : Nat) (u : Upward K) : Up :=
  ⟨.of version u.frame.body.plaintext, u.gen, u.pos⟩

/-- A frame to the client, as it is read. -/
def Downward.view (version : Nat) (d : Downward K) : Down :=
  ⟨.of version d.frame.body.plaintext, d.gen⟩

/-- The offset a connection copied when it was routed, until the handshake is over. -/
def routedOf (c : AgentConnection K) : Option Nat :=
  if c.stage = .handshake then c.attempt.map ResumeAttempt.receiveOffset else none

/-- A connection, as far as the streams go. -/
def Link.view (version : Nat) (l : Link K) : LinkView where
  clientGrid := l.client.channel.map Channel.grid
  clientDead := l.client.failed.isSome
  pendingApply := l.client.pendingApplyGen
  routed := l.agent.bind routedOf
  authOk := l.authOk
  agentGrid := l.agent.bind fun c => c.channel.map Channel.grid
  agentDead := l.agent.any fun c => c.failed.isSome
  waiting := l.agent.any fun c => c.stage == .awaitSnapshot
  toAgent := l.toAgent.map (Upward.view version)
  toClient := l.toClient.map (Downward.view version)

/-- The system, as far as the streams go. -/
def State.view (cfg : Config) (s : State K) : View where
  out := s.agent.streams.output
  inp := s.agent.streams.input
  held := s.agent.streams.state == .live
  attached := s.attached
  clientOut := s.client.streams.output
  clientInp := s.client.streams.input
  applied := s.client.streamGen
  cursorGen := s.cursorGen
  links i := (s.links i).view cfg.version
  opened := s.opened
  agentLog := s.agentLog
  agentTaken := s.agentTaken
  clientTaken := s.clientTaken
  agentGot := s.agentGot
  clientGot := s.clientGot
  agentErrors := s.agentErrors
  clientErrors := s.clientErrors

/-- The view of a changed connection is the change of its view. -/
lemma State.view_putLink (cfg : Config) (s : State K) (i : Nat) (l : Link K) :
    (s.putLink i l).view cfg = (s.view cfg).putLink i (l.view cfg.version) := by
  have hlinks : (fun j => (Function.update s.links i l j).view cfg.version) =
      Function.update (fun j => (s.links j).view cfg.version) i (l.view cfg.version) := by
    funext j
    exact Function.apply_update (fun _ (l : Link K) => l.view cfg.version) s.links i l j
  simp only [State.putLink, State.view, View.putLink, hlinks]

/-- The agent's end of a connection: its stage says what it has. -/
structure AgentEnd (cfg : Config) (generation : Nat) (attached : Option Nat) (i : Nat)
    (c : AgentConnection K) : Prop where
  stage : c.stage = .handshake ∨ c.TakesFrames
  handshake : c.stage = .handshake → c.channel = none ∧ c.handle = none
  resume : c.stage = .awaitResume → c.channel = none ∧ c.handle = some 0
  late : c.stage = .awaitSnapshot ∨ c.stage = .live → c.channel.isSome ∧
    ∃ handle, c.handle = some handle ∧ 0 < handle ∧ handle ≤ generation ∧
      (handle = generation ↔ attached = some i)
  hello : c.failed = none → c.stage = .handshake ∨ c.stage = .awaitResume →
    c.helloGridCapable = cfg.gridCapable
  terms : c.failed = none → c.stage = .awaitResume → c.negotiatedVersion = cfg.version ∧
    (∀ frames, c.current = some frames → frames.role = .agent) ∧
    ∀ frames, c.fallback = some frames → frames.role = .agent

/-- What holds of every state and is not about the streams. -/
structure Coherent (cfg : Config) (s : State K) : Prop where
  agentEnd : ∀ i c, (s.links i).agent = some c →
    AgentEnd cfg s.agent.streams.generation s.attached i c
  unrouted : ∀ i, (s.links i).agent = none →
    (s.links i).client.channel = none ∧ (s.links i).authOk = none
  clientEnd : ∀ i, (s.links i).client.stage = .live → (s.links i).client.TakesFrames
  live : s.agent.streams.state = .live → 0 < s.agent.streams.generation
  unopened : ∀ i, s.opened ≤ i → (s.links i).agent = none
  attached : ∀ i, s.attached = some i → i < s.opened
  agentMode : s.agent.streams.overflow ≠ .backpressure ∧
    (s.agent.streams.overflow = .resync → cfg.capable) ∧
    (s.agent.streams.output.ringOverflowed = true → s.agent.streams.overflow = .resync)
  clientMode : s.client.streams.overflow = .backpressure

/-- A step that changes one connection and leaves the life cycle of the agent's session alone. -/
lemma Coherent.putLink {cfg : Config} {s s' : State K} (coh : Coherent cfg s) {i : Nat} {l : Link K}
    (links : s'.links = Function.update s.links i l) (opened : s'.opened = s.opened)
    (attached : s'.attached = s.attached)
    (generation : s'.agent.streams.generation = s.agent.streams.generation)
    (live : s'.agent.streams.state = .live → s.agent.streams.state = .live)
    (mode : s'.agent.streams.overflow = s.agent.streams.overflow)
    (flag : s'.agent.streams.output.ringOverflowed = true →
      s.agent.streams.output.ringOverflowed = true)
    (clientMode : s'.client.streams.overflow = s.client.streams.overflow)
    (agentEnd : ∀ c, l.agent = some c → AgentEnd cfg s.agent.streams.generation s.attached i c)
    (unrouted : l.agent = none → l.client.channel = none ∧ l.authOk = none)
    (routed : l.agent.isSome → i < s.opened)
    (clientEnd : l.client.stage = .live → l.client.TakesFrames) : Coherent cfg s' where
  agentEnd j c hc := by
    rw [links] at hc
    rw [generation, attached]
    by_cases hj : j = i
    · subst hj
      rw [Function.update_self] at hc
      exact agentEnd c hc
    · rw [Function.update_of_ne hj] at hc
      exact coh.agentEnd j c hc
  unrouted j hj := by
    rw [links] at hj ⊢
    by_cases hij : j = i
    · subst hij
      rw [Function.update_self] at hj ⊢
      exact unrouted hj
    · rw [Function.update_of_ne hij] at hj ⊢
      exact coh.unrouted j hj
  clientEnd j hj := by
    rw [links] at hj ⊢
    by_cases hij : j = i
    · subst hij
      rw [Function.update_self] at hj ⊢
      exact clientEnd hj
    · rw [Function.update_of_ne hij] at hj ⊢
      exact coh.clientEnd j hj
  live h := by
    rw [generation]
    exact coh.live (live h)
  unopened j hj := by
    rw [opened] at hj
    rw [links]
    by_cases hij : j = i
    · subst hij
      rw [Function.update_self]
      by_contra hne
      have := routed (Option.isSome_iff_ne_none.mpr hne)
      omega
    · rw [Function.update_of_ne hij]
      exact coh.unopened j hj
  attached j hj := by
    rw [attached] at hj
    rw [opened]
    exact coh.attached j hj
  agentMode := by
    rw [mode]
    exact ⟨coh.agentMode.1, coh.agentMode.2.1, fun h => coh.agentMode.2.2 (flag h)⟩
  clientMode := clientMode.trans coh.clientMode

/-- The connection whose handle is current is the one that holds the session. -/
lemma Coherent.holder {cfg : Config} {s : State K} (coh : Coherent cfg s) {i : Nat}
    {c : AgentConnection K} (hc : (s.links i).agent = some c)
    (current : ∃ handle, c.handle = some handle ∧ s.agent.isCurrent handle = true) :
    (s.view cfg).Holder i := by
  obtain ⟨handle, hhandle, hcur⟩ := current
  have hend := coh.agentEnd i c hc
  obtain ⟨hlive, hgen⟩ : s.agent.streams.state = .live ∧ handle = s.agent.streams.generation := by
    simpa [AgentSession.isCurrent, StreamState.isCurrent] using hcur
  refine ⟨by simp [State.view, hlive], ?_⟩
  have hpos := coh.live hlive
  rcases hend.stage with h | h | h | h
  · rw [(hend.handshake h).2] at hhandle
    cases hhandle
  · rw [(hend.resume h).2] at hhandle
    cases hhandle
    omega
  all_goals
    obtain ⟨-, handle', hhandle', -, -, hiff⟩ := hend.late (by simp [h])
    rw [hhandle] at hhandle'
    cases hhandle'
    exact hiff.mp hgen

/-- What the mark of a move says of the step it stands for. -/
def Mark.Of [DecidableEq K] (P : KeySchedule K) (cfg : Config) (s : State K) (a : Action) :
    Mark → Prop
  | .resume i snapshot => ∃ now c up rest used chosen message, a = .agentFrame i now ∧
      (s.links i).agent = some c ∧ c.failed = none ∧ (s.links i).toAgent = up :: rest ∧
      c.Resumes P up.frame used chosen message ∧ c.usePathB s.agent message = snapshot
  | .heard i up => ∃ now c up' rest, a = .agentFrame i now ∧ (s.links i).agent = some c ∧
      (s.links i).toAgent = up' :: rest ∧ up'.view cfg.version = up
  | .supplied => ∃ i now snapshot scrollbackLen flags,
      a = .supplySnapshot i now snapshot scrollbackLen flags
  | .plain => True

/-- The step is a move, to a coherent state. -/
def Simulated [DecidableEq K] (P : KeySchedule K) (cfg : Config) (s : State K) (a : Action)
    (s' : State K) : Prop :=
  (∃ m, m.Of P cfg s a ∧ Move cfg (s.view cfg) m (s'.view cfg)) ∧ Coherent cfg s'

/-- What a call on an agent connection leaves, as it is seen. -/
lemma view_agentReturns (cfg : Config) (s : State K) (i : Nat) (l : Link K)
    (res : AgentConnection.Pumped K) :
    (s.agentReturns i l res).view cfg = View.putLink { s.view cfg with
        out := res.2.2.streams.output
        inp := res.2.2.streams.input
        held := res.2.2.streams.state == .live
        agentGot := s.agentGot ++ State.handedOf res.1
        agentErrors := State.noted s.agentErrors res.1 } i
      { l.view cfg.version with
        routed := routedOf res.2.1
        agentGrid := res.2.1.channel.map Channel.grid
        agentDead := res.2.1.failed.isSome
        waiting := res.2.1.stage == .awaitSnapshot
        toClient := l.toClient.map (Downward.view cfg.version) ++ (State.sentOf res.1).map
          fun frame => ⟨.of cfg.version frame.body.plaintext, s.agent.streams.output.sessionGen⟩ } := by
  rw [State.agentReturns_eq, State.view_putLink]
  simp [State.view, Link.view, Downward.view, Function.comp_def]

/-- The same, with the connection that attached. -/
lemma view_agentFrame (cfg : Config) (s : State K) (i : Nat) (l : Link K)
    (res : AgentConnection.Pumped K) (attached : Option Nat) :
    State.view cfg { s.agentReturns i l res with attached := attached } =
      View.putLink { s.view cfg with
        out := res.2.2.streams.output
        inp := res.2.2.streams.input
        held := res.2.2.streams.state == .live
        attached := attached
        agentGot := s.agentGot ++ State.handedOf res.1
        agentErrors := State.noted s.agentErrors res.1 } i
      { l.view cfg.version with
        routed := routedOf res.2.1
        agentGrid := res.2.1.channel.map Channel.grid
        agentDead := res.2.1.failed.isSome
        waiting := res.2.1.stage == .awaitSnapshot
        toClient := l.toClient.map (Downward.view cfg.version) ++ (State.sentOf res.1).map
          fun frame => ⟨.of cfg.version frame.body.plaintext, s.agent.streams.output.sessionGen⟩ } := by
  have h := view_agentReturns cfg s i l res
  exact congrArg (fun v : View => { v with attached := attached }) h

/-- What a call on the client's connection leaves, as it is seen. -/
lemma view_clientReturns (cfg : Config) (s : State K) (i : Nat) (l : Link K)
    (res : ClientConnection.Pumped K) :
    (s.clientReturns i l res).view cfg = View.putLink { s.view cfg with
        clientOut := res.2.2.streams.output
        clientInp := res.2.2.streams.input
        applied := res.2.2.streamGen
        cursorGen := (State.snapshotGenOf res.1).getD s.cursorGen
        clientGot := if (State.snapshotGenOf res.1).isSome then []
          else s.clientGot ++ State.handedOf res.1
        clientErrors := State.noted s.clientErrors res.1 } i
      { l.view cfg.version with
        clientGrid := res.2.1.channel.map Channel.grid
        clientDead := res.2.1.failed.isSome
        pendingApply := res.2.1.pendingApplyGen
        toAgent := l.toAgent.map (Upward.view cfg.version) ++ (State.sentOf res.1).map
          fun frame => ⟨.of cfg.version frame.body.plaintext, s.cursorGen,
            s.client.streams.receiveOffset⟩ } := by
  rw [State.clientReturns_eq, State.view_putLink]
  simp [State.view, Link.view, Upward.view, Function.comp_def]

/-- A call that returned nothing but perhaps a harmless error. -/
lemma noted_harmless {α : Type} (errors : List SessionError) {res : Except SessionError α}
    (h : ∀ e, res = .error e → e.Harmless) :
    ∃ es, State.noted errors res = es ++ errors ∧ ∀ e ∈ es, e.Harmless := by
  cases res with
  | error e => exact ⟨[e], rfl, by simpa using h e rfl⟩
  | ok => exact ⟨[], rfl, by simp⟩

section
variable [DecidableEq K] {P : KeySchedule K} {cfg : Config} {s s' : State K}

omit [DecidableEq K] in
/-- The agent's end after a call that the other end cannot tell. -/
lemma AgentEnd.quiet {generation : Nat} {attached : Option Nat} {i : Nat} {c : AgentConnection K}
    {a : AgentSession K} {res : AgentConnection.Pumped K}
    (hend : AgentEnd cfg generation attached i c) (hfail : c.failed = none)
    (h : AgentConnection.Quiet c a res) :
    AgentEnd cfg generation attached i res.2.1 := by
  obtain ⟨hstage, hhand, hres, hlate, hhello, hterms⟩ := hend
  have hnone : c.channel = none → res.2.1.channel = none := by
    intro hn
    have := h.channel
    simpa [hn] using this
  refine ⟨?_, ?_, ?_, ?_, ?_, ?_⟩
  · simpa only [AgentConnection.TakesFrames, h.stage] using hstage
  · intro hs
    rw [h.stage] at hs
    exact ⟨hnone (hhand hs).1, h.handle.trans (hhand hs).2⟩
  · intro hs
    rw [h.stage] at hs
    exact ⟨hnone (hres hs).1, h.handle.trans (hres hs).2⟩
  · intro hs
    rw [h.stage] at hs
    obtain ⟨hsome, hrest⟩ := hlate hs
    refine ⟨?_, by rwa [h.handle]⟩
    have := congrArg Option.isSome h.channel
    simpa [hsome] using this
  · intro hf hs
    rw [h.stage] at hs
    rcases h.terms with hdead | hsame
    · simp [hf] at hdead
    · rw [hsame.helloGridCapable]
      exact hhello hfail hs
  · intro hf hs
    rw [h.stage] at hs
    rcases h.terms with hdead | hsame
    · simp [hf] at hdead
    · rw [hsame.negotiatedVersion, hsame.current, hsame.fallback]
      exact hterms hfail hs

omit [DecidableEq K] in
/-- The agent's end of a connection that was attached, and is. -/
lemma AgentEnd.attached {generation : Nat} {attached : Option Nat} {i : Nat}
    {c c' : AgentConnection K} (hend : AgentEnd cfg generation attached i c)
    (before : c.stage = .awaitSnapshot ∨ c.stage = .live)
    (after : c'.stage = .awaitSnapshot ∨ c'.stage = .live) (handle : c'.handle = c.handle)
    (channel : c'.channel.isSome) : AgentEnd cfg generation attached i c' := by
  refine ⟨.inr (.inr after), ?_, ?_, ?_, ?_, ?_⟩
  · rintro h
    rcases after with ha | ha <;> simp [ha] at h
  · rintro h
    rcases after with ha | ha <;> simp [ha] at h
  · intro _
    exact ⟨channel, handle ▸ (hend.late before).2⟩
  · rintro - (h | h) <;> rcases after with ha | ha <;> simp [ha] at h
  · rintro - h
    rcases after with ha | ha <;> simp [ha] at h

omit [DecidableEq K] in
/-- A connection that has been routed was opened. -/
lemma Coherent.routed (coh : Coherent cfg s) {i : Nat} {c : AgentConnection K}
    (hc : (s.links i).agent = some c) : i < s.opened := by
  by_contra hge
  rw [coh.unopened i (Nat.not_lt.mp hge)] at hc
  cases hc

omit [DecidableEq K] in
/-- An attached connection waits for no handshake. -/
lemma routedOf_attached {c : AgentConnection K} (h : c.stage = .awaitSnapshot ∨ c.stage = .live) :
    routedOf c = none := by
  rcases h with h | h <;> simp [routedOf, h]

/-- An idle turn of the agent is a move. -/
lemma sim_agentIdle {i out scratch : Nat} {now : Timestamp} (coh : Coherent cfg s)
    (stored : (s.view cfg).Stored) (h : s.step P cfg (.agentIdle i now out scratch) = some s') :
    Simulated P cfg s (.agentIdle i now out scratch) s' := by
  obtain ⟨c, hc, hfail, rfl⟩ := State.step_agentIdle h
  have hend := coh.agentEnd i c hc
  rcases AgentConnection.onIdle_cases P s.agent now out scratch hfail with
    hquiet | ⟨f, m, f', hspeaks⟩
  · obtain ⟨es, hnoted, harmless⟩ := noted_harmless s.agentErrors hquiet.error
    have hsent := State.sentOf_nil hquiet.silent
    have hhanded := State.handedOf_nil hquiet.nothing
    refine ⟨⟨.plain, trivial, ?_⟩, ?_⟩
    · have hmove : Move cfg (s.view cfg) .plain _ := .agentQuiet i
        (c.onIdle P s.agent now out scratch).2.1.failed.isSome es
        (by simp [State.view, Link.view, hc, hfail]) harmless
      rw [view_agentReturns]
      convert hmove using 2
      · simp [State.view, hquiet.streams, hnoted, hhanded]
      · simp [State.view, Link.view, hc, hsent, hquiet.channel, routedOf, hquiet.stage,
          hquiet.attempt]
    · rw [State.agentReturns_eq]
      refine coh.putLink rfl rfl rfl ?_ ?_ ?_ ?_ rfl ?_ (by simp) (fun _ => coh.routed hc)
        (coh.clientEnd i)
      · simp [State.putLink, hquiet.streams]
      · simp [State.putLink, hquiet.streams]
      · simp [State.putLink, hquiet.streams]
      · simp [State.putLink, hquiet.streams]
      · rintro c' ⟨⟩
        exact hend.quiet hfail hquiet
  · obtain ⟨chan, hchan, rfl⟩ := hspeaks.before
    obtain ⟨frame, hframe, hplain⟩ := hspeaks.frame
    obtain ⟨chan', hchan', hgrid'⟩ := hspeaks.channel
    have hsays := hspeaks.sends.spoken cfg.version stored.out.size_le
    have hstage' : (c.onIdle P s.agent now out scratch).2.1.stage = .awaitSnapshot ∨
        (c.onIdle P s.agent now out scratch).2.1.stage = .live := by
      rw [hspeaks.same]
      exact hspeaks.stage
    refine ⟨⟨.plain, trivial, ?_⟩, ?_⟩
    · have hmove : Move cfg (s.view cfg) .plain _ := .agentSays i chan.grid _ f'
        (coh.holder hc hspeaks.current) (by simp [State.view, Link.view, hc, hchan]) hsays
      rw [view_agentReturns]
      convert hmove using 2
      · simp [State.view, hspeaks.streams, hframe, State.noted, State.handedOf]
      · simp [State.view, Link.view, hc, hframe, hplain, hchan', hgrid', State.sentOf,
          routedOf_attached hstage', routedOf_attached hspeaks.stage, hspeaks.same, hfail,
          hspeaks.failed, View.gen]
    · rw [State.agentReturns_eq]
      obtain ⟨⟨next, hbuf⟩, -⟩ := Face.says_buffer hsays
      refine coh.putLink rfl rfl rfl ?_ ?_ ?_ ?_ rfl ?_ (by simp) (fun _ => coh.routed hc)
        (coh.clientEnd i)
      · simp [State.putLink, hspeaks.streams]
      · simp [State.putLink, hspeaks.streams]
      · simp [State.putLink, hspeaks.streams]
      · simp [State.putLink, hspeaks.streams, hbuf, AgentConnection.port, Port.face]
      · rintro c' ⟨⟩
        exact hend.attached hspeaks.stage hstage' hspeaks.handle (by simp [hchan'])

/-- A frame the agent turned away, whatever became of the seeds. -/
lemma sim_turned {i : Nat} {now : Timestamp} (coh : Coherent cfg s) {c : AgentConnection K}
    {up : Upward K} {rest : List (Upward K)} {a : AgentSession K}
    {res : AgentConnection.Pumped K} (hc : (s.links i).agent = some c)
    (hfail : c.failed = none) (hframes : c.TakesFrames) (hup : (s.links i).toAgent = up :: rest)
    (seeds : ∃ seed prev, a = { s.agent with seed := seed, previousSeed := prev })
    (turned : AgentConnection.Turned c a res) :
    Simulated P cfg s (.agentFrame i now)
      { s.agentReturns i { s.links i with toAgent := rest } res with
        attached := if res.2.1.handle = c.handle then s.attached else some i } := by
  have hquiet := turned.quiet
  have hend := coh.agentEnd i c hc
  obtain ⟨seed, prev, rfl⟩ := seeds
  obtain ⟨es, hnoted, harmless⟩ := noted_harmless s.agentErrors hquiet.error
  have hsent := State.sentOf_nil hquiet.silent
  have hhanded := State.handedOf_nil hquiet.nothing
  rw [if_pos turned.handle]
  refine ⟨⟨.plain, trivial, ?_⟩, ?_⟩
  · have hmove : Move cfg (s.view cfg) .plain _ := .agentTurned i (up.view cfg.version)
      (rest.map (Upward.view cfg.version)) es (by simp [State.view, Link.view, hup]) harmless
    rw [view_agentFrame]
    convert hmove using 2
    · simp [State.view, turned.session, hnoted, hhanded]
    · simp [State.view, Link.view, hc, hsent, turned.channel, routedOf, turned.stage,
        turned.attempt, turned.dead hframes]
  · rw [State.agentReturns_eq]
    refine coh.putLink rfl rfl rfl ?_ ?_ ?_ ?_ rfl ?_ (by simp) (fun _ => coh.routed hc)
      (coh.clientEnd i)
    · simp [State.putLink, turned.session]
    · simp [State.putLink, turned.session]
    · simp [State.putLink, turned.session]
    · simp [State.putLink, turned.session]
    · rintro c' ⟨⟩
      exact hend.quiet hfail hquiet

omit [DecidableEq K] in
/-- The agent's caller gets what a frame delivered. -/
lemma handedOf_carried {c : AgentConnection K} {agent : AgentSession K} {frame : FrameView K}
    {res : AgentConnection.Pumped K} {f : Face} {out : Except SessionError IncomingEvent × Face}
    (carried : AgentConnection.Carried c agent frame res f out) :
    State.handedOf res.1 = deliveredOf out.1 := by
  unfold State.handedOf deliveredOf
  split
  · next bytes heq =>
    obtain ⟨offset, hout⟩ := (carried.deliver bytes).mp heq
    rw [hout]
  · next hnone =>
    split
    · next bytes offset heq => exact absurd ((carried.deliver bytes).mpr ⟨offset, heq⟩) (hnone _)
    · rfl

/-- A frame that acted on the session. -/
lemma sim_carried {i : Nat} {now : Timestamp} (coh : Coherent cfg s) {c : AgentConnection K}
    {up : Upward K} {rest : List (Upward K)} {res : AgentConnection.Pumped K} {f : Face}
    {out : Except SessionError IncomingEvent × Face} (hc : (s.links i).agent = some c)
    (hfail : c.failed = none) (hup : (s.links i).toAgent = up :: rest)
    (carried : AgentConnection.Carried c s.agent up.frame res f out) :
    Simulated P cfg s (.agentFrame i now)
      { s.agentReturns i { s.links i with toAgent := rest } res with
        attached := if res.2.1.handle = c.handle then s.attached else some i } := by
  have hend := coh.agentEnd i c hc
  obtain ⟨chan, hchan, rfl⟩ := carried.before
  obtain ⟨chan', hchan', hgrid'⟩ := carried.channel
  have hsent := State.sentOf_nil carried.silent
  have hnoted : State.noted s.agentErrors res.1 = (errorOf out.1).toList ++ s.agentErrors := by
    cases hout : out.1 with
    | error e => simp [(carried.error e).mpr hout, State.noted, errorOf]
    | ok =>
      cases hres : res.1 with
      | error e =>
        rw [(carried.error e).mp hres] at hout
        cases hout
      | ok => rfl
  have hhanded := handedOf_carried carried
  have hdead : res.2.1.failed.isSome = (errorOf out.1).isSome := by
    rw [carried.failed]
    cases out.1 <;> rfl
  have hstage' : res.2.1.stage = .awaitSnapshot ∨ res.2.1.stage = .live := by
    rw [carried.same]
    exact carried.stage
  rw [if_pos carried.handle]
  refine ⟨⟨.heard i (up.view cfg.version), ⟨now, c, up, rest, rfl, hc, hup, rfl⟩, ?_⟩, ?_⟩
  · have hmove : Move cfg (s.view cfg) (.heard i (up.view cfg.version)) _ :=
      .agentHears i (up.view cfg.version) (rest.map (Upward.view cfg.version)) chan.grid out
        (by simp [State.view, Link.view, hup]) (coh.holder hc carried.current)
        (by simp [State.view, Link.view, hc, hfail]) (by simp [State.view, Link.view, hc, hchan])
        (carried.hears cfg.version)
    rw [view_agentFrame]
    convert hmove using 2
    · simp [State.view, carried.streams, hnoted, hhanded]
    · simp [State.view, Link.view, hc, hsent, hchan', hgrid', carried.same, hdead,
        routedOf_attached hstage', routedOf_attached carried.stage]
  · rw [State.agentReturns_eq]
    obtain ⟨base, next, hbuf⟩ := Face.hears_buffer (carried.hears cfg.version)
    refine coh.putLink rfl rfl rfl ?_ ?_ ?_ ?_ rfl ?_ (by simp) (fun _ => coh.routed hc)
      (coh.clientEnd i)
    · simp [State.putLink, carried.streams]
    · simp [State.putLink, carried.streams]
    · simp [State.putLink, carried.streams]
    · simp [State.putLink, carried.streams, hbuf, AgentConnection.port, Port.face]
    · rintro c' ⟨⟩
      exact hend.attached carried.stage hstage' carried.handle (by simp [hchan'])

omit [DecidableEq K] in
/-- A connection attaches: it is the one that holds the session now. -/
lemma Coherent.attach {s' : State K} (coh : Coherent cfg s) {i : Nat} {l : Link K}
    {c : AgentConnection K} (links : s'.links = Function.update s.links i l)
    (opened : s'.opened = s.opened) (attached : s'.attached = some i)
    (generation : s'.agent.streams.generation = s.agent.streams.generation + 1)
    (mode : s'.agent.streams.overflow = s.agent.streams.overflow)
    (flag : s'.agent.streams.output.ringOverflowed = s.agent.streams.output.ringOverflowed)
    (client : s'.client = s.client) (agent : l.agent = some c)
    (stage : c.stage = .awaitSnapshot ∨ c.stage = .live)
    (handle : c.handle = some (s.agent.streams.generation + 1)) (channel : c.channel.isSome)
    (sameClient : l.client = (s.links i).client) (inRange : i < s.opened) : Coherent cfg s' where
  agentEnd j d hd := by
    rw [links] at hd
    rw [generation, attached]
    by_cases hj : j = i
    · subst hj
      rw [Function.update_self, agent] at hd
      cases hd
      refine ⟨.inr (.inr stage), ?_, ?_, ?_, ?_, ?_⟩
      · rintro h
        rcases stage with hs | hs <;> simp [hs] at h
      · rintro h
        rcases stage with hs | hs <;> simp [hs] at h
      · intro _
        exact ⟨channel, _, handle, by omega, le_rfl, by simp⟩
      · rintro - (h | h) <;> rcases stage with hs | hs <;> simp [hs] at h
      · rintro - h
        rcases stage with hs | hs <;> simp [hs] at h
    · rw [Function.update_of_ne hj] at hd
      obtain ⟨hstage, hhand, hres, hlate, hhello, hterms⟩ := coh.agentEnd j d hd
      refine ⟨hstage, hhand, hres, ?_, hhello, hterms⟩
      intro hs
      obtain ⟨hchan, h, hh, hpos, hle, -⟩ := hlate hs
      refine ⟨hchan, h, hh, hpos, by omega, ?_⟩
      constructor
      · intro heq
        omega
      · rintro ⟨⟩
        exact absurd rfl hj
  unrouted j hj := by
    rw [links] at hj ⊢
    by_cases hij : j = i
    · subst hij
      rw [Function.update_self, agent] at hj
      cases hj
    · rw [Function.update_of_ne hij] at hj ⊢
      exact coh.unrouted j hj
  clientEnd j hj := by
    rw [links] at hj ⊢
    by_cases hij : j = i
    · subst hij
      rw [Function.update_self, sameClient] at hj ⊢
      exact coh.clientEnd j hj
    · rw [Function.update_of_ne hij] at hj ⊢
      exact coh.clientEnd j hj
  live _ := by
    rw [generation]
    omega
  unopened j hj := by
    rw [opened] at hj
    rw [links, Function.update_of_ne (by omega)]
    exact coh.unopened j hj
  attached j hj := by
    rw [attached] at hj
    cases hj
    rwa [opened]
  agentMode := by
    rw [mode, flag]
    exact coh.agentMode
  clientMode := by
    rw [client]
    exact coh.clientMode

omit [DecidableEq K] in
/-- Replay is chosen only where it is not ruled out. -/
lemma usePathB_false {c : AgentConnection K} {a : AgentSession K} {m : ResumeMessage}
    (h : c.usePathB a m = false) (capable : c.gridCapable = true) :
    a.streams.output.ringOverflowed = false ∧ a.streams.output.sessionGen ≤ m.streamGen := by
  unfold AgentConnection.usePathB at h
  rw [capable] at h
  by_cases hm : a.streams.output.ringOverflowed = true ∨
      m.streamGen < a.streams.output.sessionGen
  · rw [if_pos (by simpa using hm)] at h
    cases h
  · simp only [not_or, Bool.not_eq_true, Nat.not_lt] at hm
    exact hm

omit [DecidableEq K] in
/-- Only a peer that can take a snapshot is given one. -/
lemma usePathB_true {c : AgentConnection K} {a : AgentSession K} {m : ResumeMessage}
    (h : c.usePathB a m = true) : c.gridCapable = true := by
  by_contra hnot
  have hnot : c.gridCapable = false := by simpa using hnot
  simp [AgentConnection.usePathB, hnot] at h

omit [DecidableEq K] in
/-- A connection that awaits its Resume can take a snapshot exactly where the two ends agreed. -/
lemma gridCapable_iff {c : AgentConnection K} (version : c.negotiatedVersion = cfg.version)
    (hello : c.helloGridCapable = cfg.gridCapable) : c.gridCapable = true ↔ cfg.capable := by
  simp [AgentConnection.gridCapable, Config.capable, version, hello]

omit [DecidableEq K] in
/-- The Resume that opens is what the frame said. -/
lemma Coherent.resume_said [DecidableEq K] (coh : Coherent cfg s) {i : Nat} {c : AgentConnection K}
    {up : Upward K} {used : ResumeKeys} {chosen : DirectionFrames K} {message : ResumeMessage}
    (hc : (s.links i).agent = some c) (hfail : c.failed = none)
    (resumes : c.Resumes P up.frame used chosen message) : (up.view cfg.version).said =
      .resume message.streamGen message.clientReceiveOffset := by
  obtain ⟨hversion, -⟩ := (coh.agentEnd i c hc).terms hfail resumes.stage
  obtain ⟨body, tail, htype, hparse⟩ := resumes.parsed
  rw [hversion] at hparse
  simp only [Upward.view, Said.of, htype, hparse]

/-- A Resume that opened and parsed. -/
lemma sim_resumed {i : Nat} {now : Timestamp} (coh : Coherent cfg s) {c : AgentConnection K}
    {up : Upward K} {rest : List (Upward K)} {res : AgentConnection.Pumped K} {used : ResumeKeys}
    {chosen : DirectionFrames K} {message : ResumeMessage} (hc : (s.links i).agent = some c)
    (hfail : c.failed = none) (hup : (s.links i).toAgent = up :: rest)
    (resumes : c.Resumes P up.frame used chosen message)
    (resumed : AgentConnection.Resumed P c s.agent used message res) :
    Simulated P cfg s (.agentFrame i now)
      { s.agentReturns i { s.links i with toAgent := rest } res with
        attached := if res.2.1.handle = c.handle then s.attached else some i } := by
  have hend := coh.agentEnd i c hc
  have hstage := resumes.stage
  obtain ⟨hnochan, hhandle⟩ := hend.resume hstage
  obtain ⟨hversion, -⟩ := hend.terms hfail hstage
  have hcap : c.gridCapable = true ↔ cfg.capable :=
    gridCapable_iff hversion (hend.hello hfail (.inr hstage))
  have hhead : ((s.view cfg).links i).toAgent =
      up.view cfg.version :: rest.map (Upward.view cfg.version) := by
    simp [State.view, Link.view, hup]
  have hsaid := coh.resume_said hc hfail resumes
  have hfirst : ((s.view cfg).links i).agentGrid = none ∧ ((s.view cfg).links i).waiting = false := by
    simp [State.view, Link.view, hc, hnochan, hstage]
  have halive : ((s.view cfg).links i).agentDead = false := by
    simp [State.view, Link.view, hc, hfail]
  have hrouted : routedOf c = none := by simp [routedOf, hstage]
  -- the mark says which path was taken, the seeds having no part in it
  have hmark : ∀ {a' : AgentSession K} {b : Bool},
      (∃ seed prev, a' = { s.agent with seed := seed, previousSeed := prev }) →
      c.usePathB a' message = b → Mark.Of P cfg s (.agentFrame i now) (.resume i b) := by
    rintro a' b ⟨seed, prev, rfl⟩ hpath
    exact ⟨now, c, up, rest, used, chosen, message, rfl, hc, hfail, hup, resumes, hpath⟩
  cases resumed with
  | unknown turned =>
    exact sim_turned coh hc hfail (.inl hstage) hup ⟨_, _, rfl⟩ turned
  | refused confirmed turned =>
    exact sim_turned coh hc hfail (.inl hstage) hup (confirmResume_rest confirmed) turned
  | @rejected a' _ e confirmed gen path attach alive session channel handle stage result dead =>
    -- path A, but the ring refuses the offset: the connection ends, and the session where the error
    -- says so
    have hseeds := confirmResume_rest confirmed
    refine ⟨⟨.resume i false, hmark hseeds path, ?_⟩, ?_⟩
    · obtain ⟨seed, prev, rfl⟩ := hseeds
      have hmove : Move cfg (s.view cfg) (.resume i false) _ :=
        .agentRejected i message.streamGen message.clientReceiveOffset (up.view cfg.version)
          (rest.map (Upward.view cfg.version)) e (res.2.2.streams.state == .live) hhead hsaid gen
          (fun h => ⟨le_antisymm gen (usePathB_false path (hcap.mpr h)).2,
            (usePathB_false path (hcap.mpr h)).1⟩) attach (by
            rcases session with h | ⟨-, h⟩
            · simp [State.view, h]
            · intro hlive
              simp only [h, AgentSession.kill, StreamState.kill, StreamState.reap, if_neg alive]
                at hlive
              cases hlive)
      have hstreams : res.2.2.streams.output = s.agent.streams.output ∧
          res.2.2.streams.input = s.agent.streams.input := by
        rcases session with h | ⟨-, h⟩
        · simp [h]
        · simp [h, AgentSession.kill, StreamState.kill, StreamState.reap, alive]
      rw [view_agentFrame, if_pos handle]
      convert hmove using 2
      · simp [State.view, hstreams, result, State.noted, State.handedOf]
      · simp [State.view, Link.view, hc, result, State.sentOf, channel, stage, dead, routedOf,
          hstage]
    · obtain ⟨seed, prev, rfl⟩ := hseeds
      rw [State.agentReturns_eq, if_pos handle]
      have hstreams : res.2.2.streams.generation = s.agent.streams.generation ∧
          (res.2.2.streams.state = .live → s.agent.streams.state = .live) ∧
          res.2.2.streams.overflow = s.agent.streams.overflow ∧
          res.2.2.streams.output = s.agent.streams.output := by
        rcases session with h | ⟨-, h⟩
        · simp [h]
        · simp [h, AgentSession.kill, StreamState.kill, StreamState.reap, alive]
      obtain ⟨hgen, hlive, hmode, hout⟩ := hstreams
      refine coh.putLink rfl rfl rfl hgen hlive hmode ?_ rfl ?_ (by simp)
        (fun _ => coh.routed hc) (coh.clientEnd i)
      · simp [State.putLink, hout]
      · rintro c' ⟨⟩
        refine ⟨.inr (.inl (stage.trans hstage)), ?_, ?_, ?_, ?_, ?_⟩
        · simp [stage, hstage]
        · exact fun _ => ⟨channel.trans hnochan, handle.trans hhandle⟩
        · simp [stage, hstage]
        · intro h
          simp [h] at dead
        · intro h
          simp [h] at dead
  | @pathA a' _ output confirmed gen path attach alive session channel handle stage result alive' =>
    -- path A: the stream goes on at the offset of the Resume
    obtain ⟨chan, hchan, hgrid⟩ := channel
    have hseeds := confirmResume_rest confirmed
    refine ⟨⟨.resume i false, hmark hseeds path, ?_⟩, ?_⟩
    · obtain ⟨seed, prev, rfl⟩ := hseeds
      have hmove : Move cfg (s.view cfg) (.resume i false) _ :=
        .pathA i message.streamGen message.clientReceiveOffset (up.view cfg.version)
          (rest.map (Upward.view cfg.version)) output hhead hsaid hfirst halive gen
          (fun h => ⟨le_antisymm gen (usePathB_false path (hcap.mpr h)).2,
            (usePathB_false path (hcap.mpr h)).1⟩) attach
      rw [view_agentFrame, if_neg (by simp [handle, hhandle])]
      convert hmove using 2
      · simp [State.view, session, StreamState.goLive, result, State.noted, State.handedOf]
      · simp [State.view, Link.view, hc, hfail, result, State.sentOf, hchan, hgrid, stage, alive',
          routedOf, hstage, hversion]
    · obtain ⟨seed, prev, rfl⟩ := hseeds
      rw [State.agentReturns_eq, if_neg (by simp [handle, hhandle])]
      refine coh.attach (l := { (s.links i) with
        agent := some res.2.1, toAgent := rest,
        toClient := (s.links i).toClient ++ (State.sentOf res.1).map
          fun frame => Downward.mk frame s.agent.streams.output.sessionGen }) rfl rfl rfl ?_ ?_ ?_ rfl
        rfl (.inr stage) handle (by simp [hchan]) rfl (coh.routed hc)
      · simp [State.putLink, session, StreamState.goLive]
      · simp [State.putLink, session, StreamState.goLive]
      · obtain ⟨rfl, -⟩ := SendBuffer.resetSendNext_ok attach
        simp [State.putLink, session, StreamState.goLive]
  | @pathB a' _ confirmed gen path alive session channel handle stage result alive' =>
    -- path B: the stream starts over, once a snapshot is there
    obtain ⟨chan, hchan, hgrid⟩ := channel
    have hseeds := confirmResume_rest confirmed
    refine ⟨⟨.resume i true, hmark hseeds path, ?_⟩, ?_⟩
    · obtain ⟨seed, prev, rfl⟩ := hseeds
      have hmove : Move cfg (s.view cfg) (.resume i true) _ :=
        .pathB i message.streamGen message.clientReceiveOffset (up.view cfg.version)
          (rest.map (Upward.view cfg.version)) hhead hsaid hfirst halive gen
          (hcap.mp (usePathB_true path))
      rw [view_agentFrame, if_neg (by simp [handle, hhandle])]
      convert hmove using 2
      · simp [State.view, session, StreamState.goLive, result, State.noted, State.handedOf]
      · simp [State.view, Link.view, hc, hfail, result, State.sentOf, hchan, hgrid, stage, alive',
          routedOf, hstage, hversion]
    · obtain ⟨seed, prev, rfl⟩ := hseeds
      rw [State.agentReturns_eq, if_neg (by simp [handle, hhandle])]
      refine coh.attach (l := { (s.links i) with
        agent := some res.2.1, toAgent := rest,
        toClient := (s.links i).toClient ++ (State.sentOf res.1).map
          fun frame => Downward.mk frame s.agent.streams.output.sessionGen }) rfl rfl rfl ?_ ?_ ?_ rfl
        rfl (.inl stage) handle (by simp [hchan]) rfl (coh.routed hc)
      · simp [State.putLink, session, StreamState.goLive]
      · simp [State.putLink, session, StreamState.goLive]
      · simp [State.putLink, session, StreamState.goLive]

/-- A frame the agent takes is a move. -/
lemma sim_agentFrame {i : Nat} {now : Timestamp} (coh : Coherent cfg s)
    (h : s.step P cfg (.agentFrame i now) = some s') :
    Simulated P cfg s (.agentFrame i now) s' := by
  obtain ⟨c, up, rest, hc, hfail, hstage, hup, rfl⟩ := State.step_agentFrame h
  have hframes : c.TakesFrames := by simpa [AgentConnection.TakesFrames] using hstage
  rcases AgentConnection.onFrame_cases P s.agent now up.frame hfail with
    turned | ⟨used, chosen, message, resumes, heq⟩ | ⟨f, out, carried⟩
  · exact sim_turned coh hc hfail hframes hup ⟨_, _, rfl⟩ turned
  · rw [heq]
    obtain ⟨-, hcur, hfb⟩ := (coh.agentEnd i c hc).terms hfail resumes.stage
    exact sim_resumed coh hc hfail hup resumes (AgentConnection.resume_cases P s.agent now used message hfail
      (openResume_role resumes.opened hcur hfb))
  · exact sim_carried coh hc hfail hup carried

omit [DecidableEq K] in
/-- The client's connection is seen as its own. -/
lemma State.current_view {i : Nat} (h : s.current = some i) : (s.view cfg).Current i := by
  unfold State.current at h
  split at h
  · cases h
  · cases h
    simp only [View.Current, State.view]
    omega

omit [DecidableEq K] in
/-- A call on the client's connection keeps coherence, if what it leaves is coherent itself. -/
lemma Coherent.clientReturns (coh : Coherent cfg s) {i : Nat} {l : Link K}
    {res : ClientConnection.Pumped K} (agent : l.agent = (s.links i).agent)
    (mode : res.2.2.streams.overflow = s.client.streams.overflow)
    (unrouted : (s.links i).agent = none → res.2.1.channel = none ∧ l.authOk = none)
    (clientEnd : res.2.1.stage = .live → res.2.1.TakesFrames) :
    Coherent cfg (s.clientReturns i l res) := by
  rw [State.clientReturns_eq]
  refine coh.putLink rfl rfl rfl rfl id rfl id mode ?_ ?_ ?_ clientEnd
  · intro c hc
    exact coh.agentEnd i c (agent ▸ hc)
  · intro hnone
    exact unrouted (agent ▸ hnone)
  · intro hsome
    obtain ⟨c, hc⟩ := Option.isSome_iff_exists.mp hsome
    exact coh.routed (agent ▸ hc)

omit [DecidableEq K] in
/-- A connection that turned live in a quiet call takes frames. -/
lemma clientQuiet_takesFrames {c : ClientConnection K} {a : ClientSession K}
    {res : ClientConnection.Pumped K} (h : ClientConnection.Quiet c a res)
    (hend : c.stage = .live → c.TakesFrames) (hstage : res.2.1.stage = .live) :
    res.2.1.TakesFrames := by
  obtain ⟨hs, hchan, hhandle⟩ := hend (h.same.1 ▸ hstage)
  refine ⟨hstage, ?_, by rwa [h.same.2.1]⟩
  have := congrArg Option.isSome h.channel
  simpa [hchan] using this

omit [DecidableEq K] in
/-- A quiet call opens no channel. -/
lemma clientQuiet_channel {c : ClientConnection K} {a : ClientSession K}
    {res : ClientConnection.Pumped K} (h : ClientConnection.Quiet c a res)
    (hnone : c.channel = none) : res.2.1.channel = none := by
  have := h.channel
  simpa [hnone] using this

/-- An idle turn of the client is a move. -/
lemma sim_clientIdle {out scratch : Nat} {now : Timestamp} (coh : Coherent cfg s)
    (stored : (s.view cfg).Stored) (h : s.step P cfg (.clientIdle now out scratch) = some s') :
    Simulated P cfg s (.clientIdle now out scratch) s' := by
  obtain ⟨i, hi, hfail, rfl⟩ := State.step_clientIdle h
  rcases ClientConnection.onIdle_cases P s.client now out scratch hfail with
    hquiet | ⟨f, m, f', hspeaks⟩
  · refine ⟨⟨.plain, trivial, ?_⟩, ?_⟩
    · have herr : ∀ e, ((s.links i).client.onIdle P s.client now out scratch).1 = .error e →
          e.Harmless := by
        intro e he
        rcases hquiet.result with hidle | ⟨e', he', harmless⟩
        · rw [hidle] at he
          cases he
        · rw [he'] at he
          cases he
          exact harmless
      obtain ⟨es, hnoted, harmless⟩ := noted_harmless s.clientErrors herr
      have hmove : Move cfg (s.view cfg) .plain _ := .clientQuiet i
        ((s.links i).client.onIdle P s.client now out scratch).2.1.failed.isSome es
        (by simp [State.view, Link.view, hfail]) harmless
      rw [view_clientReturns]
      obtain ⟨-, -, -, hpending, -⟩ := hquiet.same
      convert hmove using 2
      · rcases hquiet.result with hidle | ⟨e', he', -⟩
        · simp [State.view, hquiet.streams, hquiet.streamGen, ← hnoted, hidle, State.handedOf,
            State.snapshotGenOf]
        · simp [State.view, hquiet.streams, hquiet.streamGen, ← hnoted, he', State.handedOf,
            State.snapshotGenOf]
      · rcases hquiet.result with hidle | ⟨e', he', -⟩
        · simp [State.view, Link.view, hidle, State.sentOf, hquiet.channel, hpending]
        · simp [State.view, Link.view, he', State.sentOf, hquiet.channel, hpending]
    · refine coh.clientReturns rfl hquiet.streams.2.2 ?_
        (clientQuiet_takesFrames hquiet (coh.clientEnd i))
      intro hnone
      exact ⟨clientQuiet_channel hquiet (coh.unrouted i hnone).1, (coh.unrouted i hnone).2⟩
  · obtain ⟨chan, hchan, rfl⟩ := hspeaks.before
    obtain ⟨frame, hframe, hplain⟩ := hspeaks.frame
    obtain ⟨chan', hchan', hgrid'⟩ := hspeaks.channel
    have hsays := hspeaks.sends.spoken cfg.version stored.clientOut.size_le
    obtain ⟨hstage, hhandle, -, hpending, -⟩ := hspeaks.same
    refine ⟨⟨.plain, trivial, ?_⟩, ?_⟩
    · have hmove : Move cfg (s.view cfg) .plain _ := .clientSays i chan.grid _ f'
        (State.current_view hi) (by simp [State.view, Link.view, hchan]) hsays
      rw [view_clientReturns]
      convert hmove using 2
      · simp [State.view, hspeaks.streams, hspeaks.streamGen, hframe, State.noted,
          State.handedOf, State.snapshotGenOf]
      · simp [State.view, Link.view, hframe, hplain, hchan', hgrid', State.sentOf, hfail,
          hspeaks.failed, hpending, StreamState.receiveOffset]
    · refine coh.clientReturns rfl (by rw [hspeaks.streams]) ?_ ?_
      · intro hnone
        rw [(coh.unrouted i hnone).1] at hchan
        cases hchan
      · intro hs
        have hend := coh.clientEnd i (hstage ▸ hs)
        exact ⟨hs, by simp [hchan'], by rw [hhandle]; exact hend.2.2⟩

omit [DecidableEq K] in
/-- What the client's caller is handed is what the channel delivered. -/
lemma eventOf_spec (event : IncomingEvent) :
    State.handedOf (.ok (ClientConnection.eventOf event) : Except _ (ConnectionEvent K)) =
        deliveredOf (.ok event) ∧
      State.snapshotGenOf (.ok (ClientConnection.eventOf event) : Except _ (ConnectionEvent K)) =
        snapshotOf (.ok event) ∧
      State.sentOf (.ok (ClientConnection.eventOf event) : Except _ (ConnectionEvent K)) = [] := by
  cases event with
  | sessionEnd message =>
    simp only [ClientConnection.eventOf]
    split <;> exact ⟨rfl, rfl, rfl⟩
  | _ => exact ⟨rfl, rfl, rfl⟩

/-- A frame the client takes is a move. -/
lemma sim_clientFrame {now : Timestamp} (coh : Coherent cfg s)
    (h : s.step P cfg (.clientFrame now) = some s') :
    Simulated P cfg s (.clientFrame now) s' := by
  obtain ⟨i, down, rest, hi, hfail, hstage, hdown, rfl⟩ := State.step_clientFrame h
  have hend := coh.clientEnd i hstage
  have hhead : ((s.view cfg).links i).toClient =
      down.view cfg.version :: rest.map (Downward.view cfg.version) := by
    simp [State.view, Link.view, hdown]
  rcases ClientConnection.onFrame_cases P s.client now down.frame hfail with
    turned | ⟨f, out, carried⟩
  · have hquiet := turned.toQuiet
    refine ⟨⟨.plain, trivial, ?_⟩, ?_⟩
    · obtain ⟨-, -, -, hpending, -⟩ := hquiet.same
      have hmove : ∀ es : List SessionError, (∀ e ∈ es, e.Harmless) → Move cfg (s.view cfg) .plain _ := fun es harmless =>
        .clientTurned i (down.view cfg.version) (rest.map (Downward.view cfg.version)) es
          (State.current_view hi) hhead harmless
      rw [view_clientReturns]
      rcases hquiet.result with hidle | ⟨e', he', harmless⟩
      · convert hmove [] (by simp) using 2
        · simp [State.view, hquiet.streams, hquiet.streamGen, hidle, State.handedOf,
            State.snapshotGenOf, State.noted]
        · simp [State.view, Link.view, hidle, State.sentOf, hquiet.channel, hpending,
            turned.dead hend]
      · convert hmove [e'] (by simpa using harmless) using 2
        · simp [State.view, hquiet.streams, hquiet.streamGen, he', State.handedOf,
            State.snapshotGenOf, State.noted]
        · simp [State.view, Link.view, he', State.sentOf, hquiet.channel, hpending,
            turned.dead hend]
    · refine coh.clientReturns rfl hquiet.streams.2.2 ?_
        (clientQuiet_takesFrames hquiet (coh.clientEnd i))
      intro hnone
      exact ⟨clientQuiet_channel hquiet (coh.unrouted i hnone).1, (coh.unrouted i hnone).2⟩
  · obtain ⟨chan, hchan, rfl⟩ := carried.before
    obtain ⟨chan', hchan', hgrid'⟩ := carried.channel
    obtain ⟨hs, hhandle, -⟩ := carried.same
    refine ⟨⟨.plain, trivial, ?_⟩, ?_⟩
    · have hmove : Move cfg (s.view cfg) .plain _ := .clientHears i (down.view cfg.version)
        (rest.map (Downward.view cfg.version)) chan.grid out (State.current_view hi) hhead
        (by simp [State.view, Link.view, hfail]) (by simp [State.view, Link.view, hchan])
        (carried.hears cfg.version)
      rw [view_clientReturns]
      convert hmove using 2
      · rcases carried.result with ⟨e, hout, hres, -⟩ | ⟨event, hout, hres, -⟩
        · simp [State.view, carried.streams, carried.streamGen, hout, hres, State.handedOf,
            State.snapshotGenOf, State.noted, errorOf, deliveredOf, snapshotOf]
        · obtain ⟨hhanded, hsnapshot, -⟩ := eventOf_spec (K := K) event
          simp [State.view, carried.streams, carried.streamGen, hout, hres, hhanded, hsnapshot,
            State.noted, errorOf]
      · rcases carried.result with ⟨e, hout, hres, hdead, -, -, hpending⟩ |
          ⟨event, hout, hres, halive, -, -, hpending⟩
        · simp [State.view, Link.view, hout, hres, State.sentOf, hchan', hgrid', hpending, hdead,
            errorOf, snapshotOf]
        · obtain ⟨-, -, hsent⟩ := eventOf_spec (K := K) event
          simp only [State.view, Link.view, hout, hres, hsent, hchan', hpending, halive, errorOf]
          cases event <;> simp [snapshotOf, hgrid']
    · refine coh.clientReturns rfl (by rw [carried.streams]) ?_ ?_
      · intro hnone
        rw [(coh.unrouted i hnone).1] at hchan
        cases hchan
      · intro hlive
        exact ⟨hlive, by simp [hchan'], by rw [hhandle]; exact hend.2.2⟩

/-- Sending a Resume is a move. -/
lemma sim_sendResume {out : Nat} {now : Timestamp} (coh : Coherent cfg s)
    (h : s.step P cfg (.sendResume now out) = some s') :
    Simulated P cfg s (.sendResume now out) s' := by
  obtain ⟨i, offset, hi, hfail, hauth, rfl⟩ := State.step_sendResume h
  have hcurrent : (s.view cfg).Current i := State.current_view hi
  have hoffset : ((s.view cfg).links i).authOk = some offset := hauth
  have hrouted : (s.links i).agent ≠ none := by
    intro hnone
    rw [(coh.unrouted i hnone).2] at hauth
    cases hauth
  have hcases := ClientConnection.sendResume_cases P s.client now hfail out cfg.version
    (s.links i).serverNonce offset
  generalize (s.links i).client.sendResume P s.client now out cfg.version (s.links i).serverNonce
    offset = res at hcases ⊢
  cases hcases with
  | @refused e streams seed streamGen channel dead handle same result reason =>
    obtain ⟨hout, hin, hmode⟩ := streams
    refine ⟨⟨.plain, trivial, ?_⟩, ?_⟩
    · have hmove : Move cfg (s.view cfg) .plain _ :=
        .resumeRefused i offset e hcurrent hoffset reason
      rw [view_clientReturns]
      convert hmove using 2
      · simp [State.view, hout, hin, streamGen, result, State.noted, State.handedOf,
          State.snapshotGenOf]
      · simp [State.view, Link.view, result, State.sentOf, channel, dead, same]
    · refine coh.clientReturns rfl hmode (fun hnone => absurd hnone hrouted) ?_
      intro hlive
      rw [same.1] at hlive
      have hend := coh.clientEnd i hlive
      exact ⟨same.1.trans hlive, by rw [channel]; exact hend.2.1, handle hend.2.2⟩
  | @stuck output attach streams seed streamGen channel dead handle same result =>
    obtain ⟨hout, hin, hmode⟩ := streams
    obtain ⟨e, hres, harmless⟩ := result
    refine ⟨⟨.plain, trivial, ?_⟩, ?_⟩
    · have hmove : Move cfg (s.view cfg) .plain _ :=
        .resumeStuck i offset e output hcurrent hoffset attach harmless
      rw [view_clientReturns]
      convert hmove using 2
      · simp [State.view, hout, hin, streamGen, hres, State.noted, State.handedOf,
          State.snapshotGenOf]
      · simp [State.view, Link.view, hres, State.sentOf, channel, dead, same]
    · refine coh.clientReturns rfl hmode (fun hnone => absurd hnone hrouted) ?_
      intro hlive
      rw [same.1] at hlive
      have hend := coh.clientEnd i hlive
      exact ⟨same.1.trans hlive, by rw [channel]; exact hend.2.1, handle hend.2.2⟩
  | @sent output frame sealer attach streams seed streamGen channel alive same result plain sealed =>
    obtain ⟨hout, hin, hmode⟩ := streams
    obtain ⟨chan, hchan, hgrid⟩ := channel
    obtain ⟨hstage, hhandle, -, hpending, -⟩ := same
    refine ⟨⟨.plain, trivial, ?_⟩, ?_⟩
    · have hmove : Move cfg (s.view cfg) .plain _ :=
        .resumeSent i offset output (ClientConnection.resumeGen s.client cfg.version) hcurrent
          hoffset attach rfl
      rw [view_clientReturns]
      convert hmove using 2
      · simp [State.view, hout, hin, streamGen, result, State.noted, State.handedOf,
          State.snapshotGenOf]
      · simp [State.view, Link.view, result, State.sentOf, hchan, hgrid, alive, hpending, hfail,
          plain, StreamState.receiveOffset]
    · refine coh.clientReturns rfl hmode (fun hnone => absurd hnone hrouted) ?_
      intro hlive
      exact ⟨hlive, by simp [hchan], hhandle⟩

/-- Nothing happens. -/
lemma Move.still (cfg : Config) (v : View) : Move cfg v .plain v := by
  have hmove : Move cfg v .plain _ := .agentQuiet 0 (v.links 0).agentDead [] id (by simp)
  simpa [View.putLink] using hmove

omit [DecidableEq K] in
/-- A step that leaves every connection alone. -/
lemma Coherent.same {s' : State K} (coh : Coherent cfg s) (links : s'.links = s.links)
    (opened : s'.opened = s.opened) (attached : s'.attached = s.attached)
    (generation : s'.agent.streams.generation = s.agent.streams.generation)
    (live : s'.agent.streams.state = .live → s.agent.streams.state = .live)
    (mode : s'.agent.streams.overflow = s.agent.streams.overflow)
    (flag : s'.agent.streams.output.ringOverflowed = true →
      s.agent.streams.output.ringOverflowed = true ∨ s.agent.streams.overflow = .resync)
    (clientMode : s'.client.streams.overflow = s.client.streams.overflow) : Coherent cfg s' where
  agentEnd i c hc := by
    rw [generation, attached]
    exact coh.agentEnd i c (links ▸ hc)
  unrouted i := links ▸ coh.unrouted i
  clientEnd i := links ▸ coh.clientEnd i
  live h := generation ▸ coh.live (live h)
  unopened i hi := by
    rw [links]
    exact coh.unopened i (opened ▸ hi)
  attached i hi := by
    rw [opened]
    exact coh.attached i (attached ▸ hi)
  agentMode := by
    rw [mode]
    refine ⟨coh.agentMode.1, coh.agentMode.2.1, fun h => ?_⟩
    rcases flag h with h | h
    · exact coh.agentMode.2.2 h
    · exact h
  clientMode := clientMode.trans coh.clientMode

omit [DecidableEq K] in
/-- Detaching leaves the streams alone, and makes nothing live. -/
lemma detach_rest (a : StreamState) (handle : Nat) (now : Timestamp) :
    (a.detach handle now).output = a.output ∧ (a.detach handle now).input = a.input ∧
      (a.detach handle now).overflow = a.overflow ∧
      (a.detach handle now).generation = a.generation ∧
      ((a.detach handle now).state = .live → a.state = .live) := by
  unfold StreamState.detach
  split
  · exact ⟨rfl, rfl, rfl, rfl, by simp⟩
  · exact ⟨rfl, rfl, rfl, rfl, id⟩

omit [DecidableEq K] in
/-- Abandoning a connection changes the life cycle of the client's session only. -/
lemma dropClient_rest (s : State K) (now : Timestamp) :
    ∃ streams : StreamState, streams.output = s.client.streams.output ∧
      streams.input = s.client.streams.input ∧ streams.overflow = s.client.streams.overflow ∧
      s.dropClient now = { s with client := { s.client with streams := streams } } := by
  unfold State.dropClient
  split
  · unfold ClientConnection.close
    split
    · next handle _ =>
      obtain ⟨hout, hin, hmode, -, -⟩ := detach_rest s.client.streams handle now
      exact ⟨_, hout, hin, hmode, rfl⟩
    · exact ⟨s.client.streams, rfl, rfl, rfl, rfl⟩
  · exact ⟨s.client.streams, rfl, rfl, rfl, rfl⟩

omit [DecidableEq K] in
/-- Dropping the client's connection cannot be seen. -/
lemma view_dropClient (cfg : Config) (s : State K) (now : Timestamp) :
    (s.dropClient now).view cfg = s.view cfg := by
  obtain ⟨streams, hout, hin, -, heq⟩ := dropClient_rest s now
  rw [heq]
  simp [State.view, hout, hin]

omit [DecidableEq K] in
/-- It keeps the state coherent. -/
lemma Coherent.dropClient (coh : Coherent cfg s) (now : Timestamp) :
    Coherent cfg (s.dropClient now) := by
  obtain ⟨streams, -, -, hmode, heq⟩ := dropClient_rest s now
  rw [heq]
  exact coh.same rfl rfl rfl rfl id rfl .inl hmode

/-- A new connection is a move. -/
lemma sim_clientOpen {clientNonce serverNonce : Nat} {snapshotBuf : Bytes} {now : Timestamp}
    (coh : Coherent cfg s)
    (h : s.step P cfg (.clientOpen clientNonce serverNonce snapshotBuf now) = some s') :
    Simulated P cfg s (.clientOpen clientNonce serverNonce snapshotBuf now) s' := by
  simp only [State.step, Option.some.injEq] at h
  subst h
  have hview := view_dropClient cfg s now
  have coh' := coh.dropClient now
  have hopened : (s.dropClient now).opened = s.opened := congrArg View.opened hview
  generalize s.dropClient now = t at hview coh' hopened ⊢
  refine ⟨⟨.plain, trivial, ?_⟩, ?_⟩
  · have hmove : Move cfg (t.view cfg) .plain _ := .clientOpen
    rw [State.view_putLink, ← hview]
    exact hmove
  · refine ⟨?_, ?_, ?_, coh'.live, ?_, ?_, coh'.agentMode, coh'.clientMode⟩
    · intro i c hc
      simp only [State.putLink] at hc
      by_cases hi : i = t.opened
      · subst hi
        simp at hc
      · rw [Function.update_of_ne hi] at hc
        exact coh'.agentEnd i c hc
    · intro i
      simp only [State.putLink]
      by_cases hi : i = t.opened
      · subst hi
        simp [ClientConnection.create]
      · rw [Function.update_of_ne hi]
        exact coh'.unrouted i
    · intro i
      simp only [State.putLink]
      by_cases hi : i = t.opened
      · subst hi
        simp [ClientConnection.create]
      · rw [Function.update_of_ne hi]
        exact coh'.clientEnd i
    · intro i hi
      simp only [State.putLink] at hi ⊢
      rw [Function.update_of_ne (by omega)]
      exact coh'.unopened i (by omega)
    · intro i hi
      have := coh'.attached i hi
      simp only [State.putLink]
      omega

/-- Routing a Hello is a move. -/
lemma sim_route {i : Nat} {now : Timestamp} (coh : Coherent cfg s)
    (h : s.step P cfg (.route i now) = some s') : Simulated P cfg s (.route i now) s' := by
  simp only [State.step] at h
  split at h
  swap
  · cases h
  next hroute =>
  obtain ⟨hlt, hnone⟩ := hroute
  have hnone : (s.links i).agent = none := by simpa using hnone
  obtain ⟨hchan, hauth⟩ := coh.unrouted i hnone
  cases h
  have hroute : (AgentConnection.create (K := K) now cfg.gridCapable).route s.agent
      (s.links i).serverNonce =
        { AgentConnection.create (K := K) now cfg.gridCapable with
          attempt := some ⟨s.agent.seed, s.agent.previousSeed, (s.links i).serverNonce,
            s.agent.streams.receiveOffset⟩
          stage := .handshake } := rfl
  refine ⟨⟨.plain, trivial, ?_⟩, ?_⟩
  · have hmove : Move cfg (s.view cfg) .plain _ := .route i hlt
      (by simp [State.view, Link.view, hnone]) (by simp [State.view, Link.view, hchan])
      (by simp [State.view, Link.view, hauth])
    rw [State.view_putLink, hroute]
    convert hmove using 2
    simp [State.view, Link.view, hnone, routedOf, AgentConnection.create,
      StreamState.receiveOffset]
  · refine coh.putLink rfl rfl rfl rfl id rfl id rfl ?_ (by simp) (fun _ => hlt) (coh.clientEnd i)
    rintro c ⟨⟩
    rw [hroute]
    refine ⟨.inl rfl, fun _ => ⟨rfl, rfl⟩, ?_, ?_, fun _ _ => rfl, ?_⟩
    · rintro ⟨⟩
    · rintro (⟨⟨⟩⟩ | ⟨⟨⟩⟩)
    · rintro - ⟨⟩

/-- A completed handshake is a move. -/
lemma sim_completeHandshake {i : Nat} (coh : Coherent cfg s)
    (h : s.step P cfg (.completeHandshake i) = some s') :
    Simulated P cfg s (.completeHandshake i) s' := by
  obtain ⟨c, res, hc, hfail, hres, rfl⟩ := State.step_completeHandshake h
  have hend := coh.agentEnd i c hc
  unfold AgentConnection.completeHandshake at hres
  split at hres
  swap
  · cases hres
  next a hstage hattempt =>
  cases hres
  have hrouted : ((s.view cfg).links i).routed = some a.receiveOffset := by
    simp [State.view, Link.view, hc, routedOf, hstage, hattempt]
  refine ⟨⟨.plain, trivial, ?_⟩, ?_⟩
  · have hmove : Move cfg (s.view cfg) .plain _ := .completeHandshake i a.receiveOffset hrouted
    rw [State.view_putLink]
    convert hmove using 2
    · rfl
    · simp [State.view, Link.view, hc, routedOf, hstage]
  · have hhello := hend.hello hfail (.inl hstage)
    have hmode : (s.agent.setGridInfo cfg.version c.helloGridCapable).streams.overflow =
        if cfg.capable then .resync else .reap := by
      rw [hhello]
      rfl
    have hput : Coherent cfg ({ s with
        agent := s.agent.setGridInfo cfg.version c.helloGridCapable } : State K) := by
      refine ⟨coh.agentEnd, coh.unrouted, coh.clientEnd, coh.live, coh.unopened, coh.attached, ?_,
        coh.clientMode⟩
      rw [hmode]
      refine ⟨by split <;> simp, by split <;> simp_all, ?_⟩
      intro hflag
      rw [if_pos (coh.agentMode.2.1 (coh.agentMode.2.2 hflag))]
    refine hput.putLink rfl rfl rfl rfl id rfl id rfl ?_ (by simp) (fun _ => coh.routed hc)
      (coh.clientEnd i)
    rintro c' ⟨⟩
    refine ⟨.inr (.inl rfl), ?_, fun _ => ⟨(hend.handshake hstage).1, rfl⟩, ?_, fun _ _ => hhello, ?_⟩
    · rintro ⟨⟩
    · rintro (⟨⟨⟩⟩ | ⟨⟨⟩⟩)
    · rintro - -
      refine ⟨rfl, ?_, ?_⟩
      · rintro frames ⟨⟩
        rfl
      · intro frames hf
        obtain ⟨seed, -, rfl⟩ := Option.map_eq_some_iff.mp hf
        rfl

/-- Supplying a snapshot is a move. -/
lemma sim_supplySnapshot {i scrollbackLen flags : Nat} {snapshot : Bytes} {now : Timestamp}
    (coh : Coherent cfg s)
    (h : s.step P cfg (.supplySnapshot i now snapshot scrollbackLen flags) = some s') :
    Simulated P cfg s (.supplySnapshot i now snapshot scrollbackLen flags) s' := by
  simp only [State.step, Option.bind_eq_bind, Option.bind_eq_some_iff] at h
  obtain ⟨c, hc, h⟩ := h
  have hend := coh.agentEnd i c hc
  rcases hres : c.supplySnapshot s.agent now snapshot scrollbackLen flags with ⟨c', agent⟩
  rw [hres] at h
  cases h
  rcases AgentConnection.supplySnapshot_cases c s.agent now snapshot scrollbackLen flags with
    ⟨hagent, hsame⟩ | supplied
  · rw [hres] at hagent hsame
    simp only at hagent hsame
    subst hagent
    refine ⟨⟨.plain, trivial, ?_⟩, ?_⟩
    · have hview : (({ s with
          agentLog := if s.agent.streams.output.sessionGen ≠ s.agent.streams.output.sessionGen
            then [] else s.agentLog
          agentTaken := if s.agent.streams.output.sessionGen ≠ s.agent.streams.output.sessionGen
            then [] else s.agentTaken } : State K).putLink i
          { s.links i with agent := some c' }).view cfg = s.view cfg := by
        rw [State.view_putLink, hsame]
        simp [State.view, View.putLink, Link.view, hc, routedOf]
      rw [hview]
      exact .still cfg _
    · refine coh.putLink rfl rfl rfl rfl id rfl id rfl ?_ (by simp) (fun _ => coh.routed hc)
        (coh.clientEnd i)
      rintro d ⟨⟩
      rw [hsame]
      exact ⟨hend.stage, hend.handshake, hend.resume, hend.late, hend.hello, hend.terms⟩
  · rw [hres] at supplied
    obtain ⟨before, after, hbefore, hafter, hstart⟩ := supplied.channel
    have hstreams : agent.streams = s.agent.streams.newGeneration := supplied.streams
    have hchannel : c'.channel = some after := hafter
    have hlive : c'.stage = .live := supplied.after
    have hfailed : c'.failed = c.failed := supplied.failed
    have hfresh : agent.streams.output.sessionGen ≠ s.agent.streams.output.sessionGen := by
      rw [hstreams]
      simp only [StreamState.newGeneration, SendBuffer.newGeneration]
      omega
    refine ⟨⟨.supplied, ⟨i, now, snapshot, scrollbackLen, flags, rfl⟩, ?_⟩, ?_⟩
    · have hmove : Move cfg (s.view cfg) .supplied _ := .supplied i before.grid after.grid
        (coh.holder hc supplied.current) (by simp [State.view, Link.view, hc, supplied.stage])
        (by simp [State.view, Link.view, hc, hbefore]) hstart
      rw [State.view_putLink]
      convert hmove using 2
      · rw [if_pos hfresh, if_pos hfresh]
        simp [State.view, hstreams, StreamState.newGeneration]
      · simp [State.view, Link.view, hc, hchannel, hlive, hfailed, routedOf, supplied.stage]
    · refine coh.putLink rfl rfl rfl ?_ ?_ ?_ ?_ rfl ?_ (by simp) (fun _ => coh.routed hc)
        (coh.clientEnd i)
      · simp [State.putLink, hstreams, StreamState.newGeneration]
      · simp [State.putLink, hstreams, StreamState.newGeneration]
      · simp [State.putLink, hstreams, StreamState.newGeneration]
      · simp [State.putLink, hstreams, StreamState.newGeneration, SendBuffer.newGeneration]
      · rintro d ⟨⟩
        exact hend.attached (.inl supplied.stage) (.inr hlive) supplied.handle
          (by simp [hchannel])

omit [DecidableEq K] in
/-- Closing an agent connection lets go of the session, or does nothing. -/
lemma close_cases (c : AgentConnection K) (a : AgentSession K) (now : Timestamp) :
    c.close a now = a ∨ ∃ since, c.close a now =
      { a with streams := { a.streams with state := .detached, detachedSince := since } } := by
  unfold AgentConnection.close
  split
  · unfold AgentSession.detach StreamState.detach
    split
    · exact .inr ⟨now, rfl⟩
    · exact .inl rfl
  · exact .inl rfl

/-- Closing an agent connection is a move. -/
lemma sim_agentClose {i : Nat} {now : Timestamp} (coh : Coherent cfg s)
    (h : s.step P cfg (.agentClose i now) = some s') :
    Simulated P cfg s (.agentClose i now) s' := by
  simp only [State.step, Option.bind_eq_bind, Option.bind_eq_some_iff] at h
  obtain ⟨c, hc, h⟩ := h
  cases h
  rcases close_cases c s.agent now with heq | ⟨since, heq⟩
  · rw [heq]
    exact ⟨⟨.plain, trivial, .still cfg _⟩, coh⟩
  · rw [heq]
    exact ⟨⟨.plain, trivial, .released⟩, coh.same rfl rfl rfl rfl (by simp) rfl .inl rfl⟩

/-- Giving input back is a move. -/
lemma sim_inputRejected {i count : Nat} {now : Timestamp} (coh : Coherent cfg s)
    (h : s.step P cfg (.inputRejected i count now) = some s') :
    Simulated P cfg s (.inputRejected i count now) s' := by
  simp only [State.step, Option.bind_eq_bind, Option.bind_eq_some_iff] at h
  obtain ⟨c, hc, h⟩ := h
  split at h
  swap
  · cases h
  next hcur =>
  obtain ⟨handle, hhandle, hcur⟩ : ∃ handle, c.handle = some handle ∧
      s.agent.streams.isCurrent handle = true := by
    unfold AgentConnection.isCurrent at hcur
    split at hcur
    · next handle hh => exact ⟨handle, hh, hcur⟩
    · cases hcur
  have hclose : ∀ input, c.close ({ s.agent with
      streams := { s.agent.streams with input := input } } : AgentSession K) now =
      { s.agent with streams := { s.agent.streams with
        input := input, state := .detached, detachedSince := now } } := by
    intro input
    have hcur' : ({ s.agent.streams with input := input } : StreamState).isCurrent handle = true :=
      hcur
    simp only [AgentConnection.close, hhandle, AgentSession.detach, StreamState.detach, if_pos hcur']
  rcases hun : s.agent.streams.input.unreceive count with ⟨ok, input⟩
  simp only [AgentSession.inputRejected, hun] at h
  cases ok with
  | true =>
    cases h
    rw [hclose]
    exact ⟨⟨.plain, trivial, .inputRejected count input hun⟩,
      coh.same rfl rfl rfl rfl (by simp) rfl .inl rfl⟩
  | false =>
    have hinput : input = s.agent.streams.input := by
      unfold ReceiveCursor.unreceive at hun
      split at hun
      · cases hun
        rfl
      · cases hun
    subst hinput
    cases h
    rw [hclose]
    exact ⟨⟨.plain, trivial, .released⟩, coh.same rfl rfl rfl rfl (by simp) rfl .inl rfl⟩

omit [DecidableEq K] in
/-- An append of the front of a write takes the front of the write. -/
lemma take_append_fst (b : SendBuffer) (bytes : Bytes) (room : Nat) :
    bytes.take (b.append (bytes.take room)).1 =
      (bytes.take room).take (b.append (bytes.take room)).1 := by
  rw [List.take_take, SendBuffer.append_fst, List.length_take]
  congr 1
  omega

omit [DecidableEq K] in
/-- A buffer ends behind what it took. -/
lemma append_end (b : SendBuffer) (w : Bytes) :
    (b.append w).2.end_ = b.end_ + (b.append w).1 ∧
      (b.append w).2.ringOverflowed = b.ringOverflowed := by
  unfold SendBuffer.append
  split
  · exact ⟨rfl, rfl⟩
  · dsimp only
    split <;> exact ⟨rfl, rfl⟩

/-- Writing is a move, at the client's end. -/
lemma sim_clientWrite {bytes : Bytes} (coh : Coherent cfg s)
    (h : s.step P cfg (.clientWrite bytes) = some s') :
    Simulated P cfg s (.clientWrite bytes) s' := by
  simp only [State.step, ClientSession.write] at h
  have hmode := coh.clientMode
  have hcases := StreamState.write_cases s.client.streams bytes
  generalize s.client.streams.write bytes = res at h hcases
  cases hcases with
  | refused =>
    cases h
    exact ⟨⟨.plain, trivial, .still cfg _⟩, coh⟩
  | reaped _ mode =>
    rw [hmode] at mode
    cases mode
  | dropped _ mode =>
    rw [hmode] at mode
    cases mode
  | overflowed _ mode =>
    rw [hmode] at mode
    cases mode
  | appended =>
    cases h
    refine ⟨⟨.plain, trivial, ?_⟩, coh.same rfl rfl rfl rfl id rfl .inl rfl⟩
    have hmove : Move cfg (s.view cfg) .plain _ :=
      .clientWrite (bytes.take s.client.streams.writeRoom)
    rw [take_append_fst]
    exact hmove

omit [DecidableEq K] in
/-- Reaping leaves the streams alone, and makes nothing live. -/
lemma reap_rest (a : StreamState) (e : StreamError) :
    (a.reap e).output = a.output ∧ (a.reap e).input = a.input ∧
      (a.reap e).overflow = a.overflow ∧ (a.reap e).generation = a.generation ∧
      ((a.reap e).state = .live → a.state = .live) := by
  unfold StreamState.reap
  split
  · exact ⟨rfl, rfl, rfl, rfl, id⟩
  · exact ⟨rfl, rfl, rfl, rfl, by simp⟩

omit [DecidableEq K] in
/-- A session that only moved to the end of its life. -/
lemma view_reaped {agent : AgentSession K} {e : StreamError}
    (streams : agent.streams = s.agent.streams.reap e) (alone : s.agent.streams.state ≠ .live) :
    State.view cfg { s with agent := agent } = s.view cfg := by
  obtain ⟨hout, hin, -, -, hlive⟩ := reap_rest s.agent.streams e
  have hdead : (s.agent.streams.reap e).state ≠ .live := fun h => alone (hlive h)
  simp only [State.view, streams, hout, hin]
  simp [hdead, alone]

/-- A session nobody holds can be reaped unseen. -/
lemma sim_reaped {agent : AgentSession K} {e : StreamError} (coh : Coherent cfg s)
    (streams : agent.streams = s.agent.streams.reap e) (alone : s.agent.streams.state ≠ .live)
    (a : Action) : Simulated P cfg s a { s with agent := agent } := by
  obtain ⟨hout, -, hmode, hgen, hlive⟩ := reap_rest s.agent.streams e
  refine ⟨⟨.plain, trivial, ?_⟩, coh.same rfl rfl rfl ?_ ?_ ?_ ?_ rfl⟩
  · rw [view_reaped streams alone]
    exact .still cfg _
  · simp [streams, hgen]
  · simpa [streams] using hlive
  · simp [streams, hmode]
  · intro h
    exact .inl (by simpa [streams, hout] using h)

/-- Writing is a move, at the agent's end. -/
lemma sim_agentWrite {bytes : Bytes} (coh : Coherent cfg s)
    (h : s.step P cfg (.agentWrite bytes) = some s') :
    Simulated P cfg s (.agentWrite bytes) s' := by
  obtain ⟨hnotback, hcap, hflagmode⟩ := coh.agentMode
  simp only [State.step, AgentSession.write] at h
  have hcases := StreamState.write_cases s.agent.streams bytes
  generalize s.agent.streams.write bytes = res at h hcases
  cases hcases with
  | refused reaped =>
    cases h
    exact ⟨⟨.plain, trivial, .still cfg _⟩, coh⟩
  | reaped alone mode =>
    obtain ⟨agent, hstreams, rfl⟩ : ∃ agent : AgentSession K,
        agent.streams = s.agent.streams.reap .disconnectBufferOverflow ∧
        s' = { s with agent := agent } := by
      dsimp only at h
      split at h <;> cases h <;> exact ⟨_, rfl, rfl⟩
    exact sim_reaped coh hstreams (by simp [alone]) _
  | dropped alone mode flag =>
    cases h
    have hmove : Move cfg (s.view cfg) .plain _ :=
      .agentDropped bytes flag (by simp [State.view, alone])
    refine ⟨⟨.plain, trivial, ?_⟩, coh.same rfl rfl rfl rfl id rfl .inl rfl⟩
    simpa [State.view] using hmove
  | overflowed alone mode flag =>
    cases h
    obtain ⟨hend, -⟩ := append_end s.agent.streams.output (bytes.take s.agent.streams.writeRoom)
    have hmove : Move cfg (s.view cfg) .plain _ :=
      .agentOverflow (bytes.take s.agent.streams.writeRoom) bytes (List.take_prefix _ _) (hcap mode)
        flag (by simp [State.view, alone])
    refine ⟨⟨.plain, trivial, ?_⟩,
      coh.same rfl rfl rfl rfl id rfl (fun _ => .inr mode) rfl⟩
    simpa [State.view, SendBuffer.setRingOverflowed, hend, take_append_fst] using hmove
  | appended alive open_ =>
    cases h
    obtain ⟨hend, hflag⟩ :=
      append_end s.agent.streams.output (bytes.take s.agent.streams.writeRoom)
    have hopen : (s.view cfg).out.ringOverflowed = true → (s.view cfg).held = true := by
      intro hf
      have hresync := hflagmode hf
      cases hstate : s.agent.streams.state with
      | live => simp [State.view, hstate]
      | reaped => exact absurd hstate alive
      | detached =>
        rw [show s.agent.streams.output.ringOverflowed = true from hf] at open_
        exact absurd (open_ hstate hresync) (by simp)
    have hmove : Move cfg (s.view cfg) .plain _ :=
      .agentWrite (bytes.take s.agent.streams.writeRoom) hopen
    refine ⟨⟨.plain, trivial, ?_⟩,
      coh.same rfl rfl rfl rfl id rfl (fun h => .inl (hflag ▸ h)) rfl⟩
    simpa [State.view, hend, take_append_fst] using hmove

/-- The timer is a move. -/
lemma sim_agentTimer {now : Timestamp} (coh : Coherent cfg s)
    (h : s.step P cfg (.agentTimer now) = some s') : Simulated P cfg s (.agentTimer now) s' := by
  cases h
  unfold AgentSession.onTimer StreamState.onTimer
  split
  · next deadline hdeadline =>
    have halone : s.agent.streams.state ≠ .live := by
      unfold StreamState.nextDeadline at hdeadline
      split at hdeadline
      · cases hdeadline
      · next hnot =>
        intro hlive
        exact hnot (.inl (by simp [hlive]))
    split
    · exact sim_reaped coh rfl halone _
    · exact ⟨⟨.plain, trivial, .still cfg _⟩, coh⟩
  · exact ⟨⟨.plain, trivial, .still cfg _⟩, coh⟩

/-- Delivering input is a move. -/
lemma sim_inputDelivered {count : Nat} (coh : Coherent cfg s)
    (h : s.step P cfg (.inputDelivered count) = some s') :
    Simulated P cfg s (.inputDelivered count) s' := by
  cases h
  exact ⟨⟨.plain, trivial, .inputDelivered count⟩, coh.same rfl rfl rfl rfl id rfl .inl rfl⟩

omit [DecidableEq K] in
/-- A client's confirmation waits in its exchange. -/
lemma queueGridApplied_grid (chan : Channel K) (gen : Nat) :
    (chan.queueGridApplied gen).grid =
      if chan.grid.role = .client then { chan.grid with pendingApplied := some gen }
      else chan.grid := by
  unfold Channel.queueGridApplied
  by_cases hrole : chan.role = .client
  · simp [hrole, Channel.grid]
  · simp [hrole, Channel.grid]

omit [DecidableEq K] in
/-- A change of the client's end of a connection that keeps it coherent. -/
lemma Coherent.clientSide {s' : State K} (coh : Coherent cfg s) {i : Nat} {l : Link K}
    (links : s'.links = Function.update s.links i l) (opened : s'.opened = s.opened)
    (attached : s'.attached = s.attached) (agent : s'.agent = s.agent)
    (mode : s'.client.streams.overflow = s.client.streams.overflow)
    (agentSide : l.agent = (s.links i).agent) (authOk : l.authOk = (s.links i).authOk)
    (channel : l.client.channel.isSome = (s.links i).client.channel.isSome)
    (stage : l.client.stage = (s.links i).client.stage)
    (handle : l.client.handle = (s.links i).client.handle) : Coherent cfg s' := by
  refine coh.putLink links opened attached (by rw [agent]) (by rw [agent]; exact id) (by rw [agent])
    (by rw [agent]; exact id) mode ?_ ?_ ?_ ?_
  · intro c hc
    exact coh.agentEnd i c (agentSide ▸ hc)
  · intro hnone
    obtain ⟨hchan, hauth⟩ := coh.unrouted i (agentSide ▸ hnone)
    refine ⟨?_, authOk.trans hauth⟩
    rw [hchan] at channel
    simpa using channel
  · intro hsome
    obtain ⟨c, hc⟩ := Option.isSome_iff_exists.mp hsome
    exact coh.routed (agentSide ▸ hc)
  · intro hlive
    obtain ⟨hs, hchan, hhandle⟩ := coh.clientEnd i (stage ▸ hlive)
    exact ⟨hlive, channel.trans hchan, by rwa [handle]⟩

/-- Confirming a snapshot is a move. -/
lemma sim_confirmApply {gen : Nat} (coh : Coherent cfg s)
    (h : s.step P cfg (.confirmApply gen) = some s') :
    Simulated P cfg s (.confirmApply gen) s' := by
  simp only [State.step, Option.bind_eq_bind, Option.bind_eq_some_iff] at h
  obtain ⟨i, hi, h⟩ := h
  by_cases hpending : (s.links i).client.pendingApplyGen = some gen
  swap
  · rw [ClientConnection.confirmApply, if_pos hpending] at h
    cases h
    refine ⟨⟨.plain, trivial, ?_⟩, coh.clientSide rfl rfl rfl rfl rfl rfl rfl rfl rfl rfl⟩
    have hview : (s.putLink i (s.links i)).view cfg = s.view cfg := by
      simp [State.putLink]
    exact hview ▸ .still cfg _
  rw [ClientConnection.confirmApply, if_neg (by simp [hpending])] at h
  obtain ⟨applied, happlied, heq⟩ : ∃ applied, (applied = gen ∨ applied = s.client.streamGen) ∧
      s' = { s with client := { s.client with streamGen := applied } }.putLink i
        { s.links i with client := { (s.links i).client with
          pendingApplyGen := none
          channel := (s.links i).client.channel.map fun chan => Channel.queueGridApplied chan gen } } := by
    dsimp only at h
    split at h
    · split at h <;> cases h
      · exact ⟨gen, .inl rfl, rfl⟩
      · exact ⟨s.client.streamGen, .inr rfl, rfl⟩
    · cases h
      exact ⟨s.client.streamGen, .inr rfl, rfl⟩
  subst heq
  refine ⟨⟨.plain, trivial, ?_⟩, coh.clientSide rfl rfl rfl rfl rfl rfl rfl (by simp) rfl rfl⟩
  have hmove : Move cfg (s.view cfg) .plain _ := .confirmApply i gen applied (State.current_view hi)
    hpending happlied
  have hgrids : (Channel.grid ∘ fun chan : Channel K => chan.queueGridApplied gen) =
      (fun g : GridState => if g.role = .client then { g with pendingApplied := some gen } else g) ∘
        Channel.grid := by
    funext chan
    exact queueGridApplied_grid chan gen
  rw [State.view_putLink]
  convert hmove using 2
  · rfl
  · simp only [State.view, Link.view, Option.map_map, hgrids]

/-- Denying one is a move. -/
lemma sim_denyApply {gen : Nat} (coh : Coherent cfg s)
    (h : s.step P cfg (.denyApply gen) = some s') : Simulated P cfg s (.denyApply gen) s' := by
  simp only [State.step, Option.bind_eq_bind, Option.bind_eq_some_iff] at h
  obtain ⟨i, hi, h⟩ := h
  cases h
  unfold ClientConnection.denyApply
  split
  · refine ⟨⟨.plain, trivial, ?_⟩, coh.clientSide rfl rfl rfl rfl rfl rfl rfl rfl rfl rfl⟩
    have hview : (s.putLink i (s.links i)).view cfg = s.view cfg := by
      simp [State.putLink]
    exact hview ▸ .still cfg _
  · refine ⟨⟨.plain, trivial, ?_⟩, coh.clientSide rfl rfl rfl rfl rfl rfl rfl rfl rfl rfl⟩
    rw [State.view_putLink]
    exact .denyApply i

/-- Queueing a size is a move. -/
lemma sim_queueResize {size : ResizeMessage} (coh : Coherent cfg s)
    (h : s.step P cfg (.queueResize size) = some s') : Simulated P cfg s (.queueResize size) s' := by
  simp only [State.step, Option.bind_eq_bind, Option.bind_eq_some_iff] at h
  obtain ⟨i, hi, h⟩ := h
  cases h
  have hcases : ((s.links i).client.queueResize size).channel.map Channel.grid =
        (s.links i).client.channel.map Channel.grid ∧
      ((s.links i).client.queueResize size).failed = (s.links i).client.failed ∧
      ((s.links i).client.queueResize size).pendingApplyGen = (s.links i).client.pendingApplyGen ∧
      ((s.links i).client.queueResize size).stage = (s.links i).client.stage ∧
      ((s.links i).client.queueResize size).handle = (s.links i).client.handle := by
    unfold ClientConnection.queueResize
    split
    · next chan hchan =>
      rw [hchan]
      exact ⟨rfl, rfl, rfl, rfl, rfl⟩
    · exact ⟨rfl, rfl, rfl, rfl, rfl⟩
  obtain ⟨hgrid, hfailed, hpending, hstage, hhandle⟩ := hcases
  have hchannel := congrArg Option.isSome hgrid
  simp only [Option.isSome_map] at hchannel
  refine ⟨⟨.plain, trivial, ?_⟩,
    coh.clientSide rfl rfl rfl rfl rfl rfl rfl hchannel hstage hhandle⟩
  have hview : (s.putLink i { s.links i with
      client := (s.links i).client.queueResize size }).view cfg = s.view cfg := by
    rw [State.view_putLink]
    simp [State.view, View.putLink, Link.view, hgrid, hfailed, hpending]
  rw [hview]
  exact .still cfg _

/-- The client's gates are a move. -/
lemma sim_clientGates {sendOpen readOpen : Bool} {now : Timestamp} (coh : Coherent cfg s)
    (h : s.step P cfg (.clientGates sendOpen readOpen now) = some s') :
    Simulated P cfg s (.clientGates sendOpen readOpen now) s' := by
  cases h
  unfold State.onClientChannel
  split
  · next i hi =>
    refine ⟨⟨.plain, trivial, ?_⟩, coh.clientSide rfl rfl rfl rfl rfl rfl rfl (by simp) rfl rfl⟩
    have hview : (s.putLink i { s.links i with client := { (s.links i).client with
        channel := (s.links i).client.channel.map fun chan : Channel K =>
          (chan.setSendGate sendOpen).setReadGate readOpen now } }).view cfg = s.view cfg := by
      rw [State.view_putLink]
      simp only [State.view, View.putLink, Link.view, Option.map_map]
      exact congrArg (View.mk _ _ _ _ _ _ _ _ · _ _ _ _ _ _ _ _) (Function.update_eq_self i _)
    rw [hview]
    exact .still cfg _
  · exact ⟨⟨.plain, trivial, .still cfg _⟩, coh⟩

/-- The agent's gates are a move. -/
lemma sim_agentGates {i : Nat} {sendOpen readOpen : Bool} {now : Timestamp} (coh : Coherent cfg s)
    (h : s.step P cfg (.agentGates i sendOpen readOpen now) = some s') :
    Simulated P cfg s (.agentGates i sendOpen readOpen now) s' := by
  cases h
  simp only [State.onAgentChannel]
  cases hc : (s.links i).agent with
  | none =>
    rw [Option.map_none]
    have hview : ∀ l : Link K, l = s.links i → (s.putLink i l).view cfg = s.view cfg := by
      rintro l rfl
      simp [State.putLink]
    refine ⟨⟨.plain, trivial, ?_⟩, ?_⟩
    · rw [hview _ (by rw [← hc])]
      exact .still cfg _
    · refine coh.putLink rfl rfl rfl rfl id rfl id rfl ?_ (fun _ => coh.unrouted i hc) ?_
        (coh.clientEnd i)
      · rintro c ⟨⟩
      · rintro ⟨⟩
  | some c =>
    rw [Option.map_some]
    have hend := coh.agentEnd i c hc
    refine ⟨⟨.plain, trivial, ?_⟩, ?_⟩
    · have hview : (s.putLink i { s.links i with agent := some { c with
          channel := c.channel.map fun chan : Channel K =>
            (chan.setSendGate sendOpen).setReadGate readOpen now } }).view cfg = s.view cfg := by
        rw [State.view_putLink]
        simp only [State.view, View.putLink]
        refine congrArg (View.mk _ _ _ _ _ _ _ _ · _ _ _ _ _ _ _ _) ?_
        convert Function.update_eq_self i _ using 2
        simp only [Link.view, hc, Option.bind_some, Option.map_map, routedOf, Option.any_some]
        -- the gates are no part of what the other end can tell
        rfl
      rw [hview]
      exact .still cfg _
    · refine coh.putLink rfl rfl rfl rfl id rfl id rfl ?_ (by simp) (fun _ => coh.routed hc)
        (coh.clientEnd i)
      rintro d ⟨⟩
      refine ⟨hend.stage, ?_, ?_, ?_, hend.hello, hend.terms⟩
      · intro hs
        exact ⟨by simp [(hend.handshake hs).1], (hend.handshake hs).2⟩
      · intro hs
        exact ⟨by simp [(hend.resume hs).1], (hend.resume hs).2⟩
      · intro hs
        obtain ⟨hchan, hrest⟩ := hend.late hs
        exact ⟨by simpa using hchan, hrest⟩

/-- Every step of a coherent state whose buffers hold what they took is a move. -/
theorem step_moves {a : Action} (coh : Coherent cfg s) (stored : (s.view cfg).Stored)
    (h : s.step P cfg a = some s') : Simulated P cfg s a s' := by
  cases a with
  | clientOpen => exact sim_clientOpen coh h
  | route => exact sim_route coh h
  | completeHandshake => exact sim_completeHandshake coh h
  | sendResume => exact sim_sendResume coh h
  | agentFrame => exact sim_agentFrame coh h
  | agentIdle => exact sim_agentIdle coh stored h
  | supplySnapshot => exact sim_supplySnapshot coh h
  | agentClose => exact sim_agentClose coh h
  | clientFrame => exact sim_clientFrame coh h
  | clientIdle => exact sim_clientIdle coh stored h
  | confirmApply => exact sim_confirmApply coh h
  | denyApply => exact sim_denyApply coh h
  | queueResize => exact sim_queueResize coh h
  | clientClose now =>
    cases h
    refine ⟨⟨.plain, trivial, ?_⟩, coh.dropClient now⟩
    rw [view_dropClient]
    exact .still cfg _
  | clientWrite => exact sim_clientWrite coh h
  | agentWrite => exact sim_agentWrite coh h
  | inputDelivered => exact sim_inputDelivered coh h
  | inputRejected => exact sim_inputRejected coh h
  | endSession =>
    cases h
    exact ⟨⟨.plain, trivial, .still cfg _⟩, coh.same rfl rfl rfl rfl id rfl .inl rfl⟩
  | agentTimer => exact sim_agentTimer coh h
  | agentGates => exact sim_agentGates coh h
  | clientGates => exact sim_clientGates coh h

omit [DecidableEq K] in
/-- The system starts coherent. -/
lemma Coherent.start (cfg : Config) (seed : K) (agentStorage clientStorage : Bytes)
    (agentLimits clientLimits : SessionLimits) (now : Timestamp) :
    Coherent cfg (State.start seed agentStorage clientStorage agentLimits clientLimits now) where
  agentEnd i c hc := by cases hc
  unrouted _ _ := ⟨rfl, rfl⟩
  clientEnd i h := by cases h
  live h := by cases h
  unopened _ _ := rfl
  attached i h := by cases h
  agentMode := ⟨by simp [State.start, AgentSession.create, StreamState.create],
    by simp [State.start, AgentSession.create, StreamState.create],
    by simp [State.start, AgentSession.create, StreamState.create, SendBuffer.create]⟩
  clientMode := rfl

omit [DecidableEq K] in
/-- Its buffers start empty. -/
lemma stored_start (cfg : Config) (seed : K) (agentStorage clientStorage : Bytes)
    (agentLimits clientLimits : SessionLimits) (now : Timestamp) :
    (State.view cfg
      (State.start seed agentStorage clientStorage agentLimits clientLimits now)).Stored :=
  ⟨.create agentStorage, .create clientStorage⟩

/-- An invariant of moves is an invariant of runs. `C` is the condition on runs, `D` what it comes to
for moves. -/
theorem run_inv {C : State K → Action → Prop} (Inv : View → Prop) (D : View → Mark → Prop)
    (marks : ∀ s a m, Coherent cfg s → C s a → m.Of P cfg s a → D (s.view cfg) m)
    (keep : ∀ v m v', v.Stored → Inv v → D v m → Move cfg v m v' → Inv v')
    {s t : State K} {as : List Action} (run : Run (State.step P cfg) C s as t)
    (coh : Coherent cfg s) (stored : (s.view cfg).Stored) (start : Inv (s.view cfg)) :
    Inv (t.view cfg) ∧ Coherent cfg t ∧ (t.view cfg).Stored := by
  refine run.inv (fun s => Inv (s.view cfg) ∧ Coherent cfg s ∧ (s.view cfg).Stored) ?_
    ⟨start, coh, stored⟩
  rintro s a t ⟨hinv, hcoh, hstored⟩ hC hstep
  obtain ⟨⟨m, hm, hmove⟩, hcoh'⟩ := step_moves hcoh hstored hstep
  exact ⟨keep _ _ _ hstored hinv (marks _ _ _ hcoh hC hm) hmove, hcoh', hstored.move hmove⟩

end

end Zet.Net
