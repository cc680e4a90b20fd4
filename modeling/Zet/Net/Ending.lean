import Zet.Net.Landing
import Zet.Session.Farewell

/-!
# The end of the session

A machine around `Zet.Net.Machine` that keeps two histories: what the agent's `Write` accepted in each
output generation, and how many SessionEnds each connection has sent. `Stepped` says what a step does
about the end; with the promises of `Zet.Net.Landing` it keeps the invariant `Chronicle.Kept`: every
SessionEnd on its way to the client is behind everything its generation was given.

`session_end_last` is the conclusion: when the client is told of the end it has been delivered all of
the generation the end was sent in, its snapshot included, and nothing was accepted later.
-/

namespace Zet.Net
open Zet.Core Zet.Wire Zet.Lib Zet.Session

variable {K : Type}

/-- The system, with what its end is measured by. -/
structure Chronicle (K : Type) where
  state : State K
  /-- What the agent's writes reported taken in each output generation. -/
  accepted : Nat → Bytes
  /-- How many SessionEnds each connection has sent. -/
  ends : Nat → Nat

/-- The generation of the agent's ring. -/
def State.gen (s : State K) : Nat := s.agent.streams.output.sessionGen

namespace Chronicle

/-- Nothing has been accepted and nothing sent. -/
def start (s : State K) : Chronicle K := ⟨s, fun _ => [], fun _ => 0⟩

/-- One step of the system, with its histories. -/
def step [DecidableEq K] (P : KeySchedule K) (cfg : Config) (h : Chronicle K) (a : Action) :
    Option (Chronicle K) :=
  (h.state.step P cfg a).map fun t =>
    { state := t
      accepted := Function.update h.accepted t.gen t.agentTaken
      ends := fun i => h.ends i + ((t.links i).toClient.drop (h.state.links i).toClient.length).countP
        fun d => endsSession d.frame }

end Chronicle

/-- How much a write reported taken. -/
def takenOf : Except StreamError Nat → Nat
  | .ok count => count
  | .error _ => 0

/-- What the session's owner promises: the session is ended once all of the pty has been written, and
snapshots are as the serializer makes them. The log and the generations fit the counters they are
counted in. -/
def State.EndsInOrder (s : State K) (a : Action) : Prop :=
  s.agentLog.length < 2 ^ 64 ∧
    match a with
    | .agentWrite bytes => s.agent.end_.isSome → takenOf (s.agent.write bytes).1 = 0
    | .supplySnapshot _ _ snapshot scrollbackLen flags => s.gen + 1 < 2 ^ 32 ∧
        gridBeginFlagReserved flags = false ∧ scrollbackLen ≤ snapshot.length
    | _ => True

instance (s : State K) (a : Action) : Decidable (s.EndsInOrder a) :=
  match a with
  | .agentWrite bytes => inferInstanceAs (Decidable (s.agentLog.length < 2 ^ 64 ∧
      (s.agent.end_.isSome → takenOf (s.agent.write bytes).1 = 0)))
  | .supplySnapshot _ _ snapshot scrollbackLen flags =>
    inferInstanceAs (Decidable (s.agentLog.length < 2 ^ 64 ∧ s.gen + 1 < 2 ^ 32 ∧
      gridBeginFlagReserved flags = false ∧ scrollbackLen ≤ snapshot.length))
  | .clientOpen .. | .route .. | .completeHandshake .. | .sendResume .. | .agentFrame ..
  | .agentIdle .. | .agentClose .. | .clientFrame .. | .clientIdle .. | .confirmApply ..
  | .denyApply .. | .queueResize .. | .clientClose .. | .clientWrite .. | .inputDelivered ..
  | .inputRejected .. | .endSession .. | .agentTimer .. | .agentGates .. | .clientGates .. =>
    inferInstanceAs (Decidable (s.agentLog.length < 2 ^ 64 ∧ True))

/-- Whether the agent's end of the connection has sent SessionEnd. -/
def Link.endSent (l : Link K) : Bool := (l.agent.map AgentConnection.endSent).getD false

/-- What a step does to the frames on their way to the client. -/
inductive Downs (cfg : Config) (s t : State K) (i : Nat) : Prop
  | fresh (empty : (t.links i).toClient = []) (before : (s.links i).endSent = false)
      (after : (t.links i).endSent = false)
  | taken (d : Downward K) (head : (s.links i).toClient = d :: (t.links i).toClient)
      (same : (t.links i).endSent = (s.links i).endSent)
  | same (frames : (t.links i).toClient = (s.links i).toClient)
      (same : (t.links i).endSent = (s.links i).endSent)
  | spoke (frame : FrameView K)
      (sent : (t.links i).toClient = (s.links i).toClient ++ [⟨frame, s.gen⟩])
      (other : endsSession frame = false) (same : (t.links i).endSent = (s.links i).endSent)
  /-- SessionEnd, from a live connection with an empty ring and no snapshot left to send. -/
  | ended (frame : FrameView K)
      (sent : (t.links i).toClient = (s.links i).toClient ++ [⟨frame, s.gen⟩])
      (ends : endsSession frame = true) (first : (s.links i).endSent = false)
      (after : (t.links i).endSent = true) (finished : s.agent.end_.isSome)
      (holder : (s.view cfg).Holder i) (alive : ((s.view cfg).links i).agentDead = false)
      (live : ((s.view cfg).links i).waiting = false)
      (whole : ∃ g, ((s.view cfg).links i).agentGrid = some g ∧ g.emitting = none)
      (empty : (s.view cfg).out.size = 0)

/-- What a step does about the end. -/
structure Stepped (cfg : Config) (s t : State K) : Prop where
  farewells : ∀ i c, (t.links i).agent = some c → c.Farewell t.agent.end_
  ended : ∀ message, s.agent.end_ = some message → t.agent.end_ = some message
  downs : ∀ i, Downs cfg s t i
  taken : s.agent.end_.isSome → t.gen = s.gen → t.agentTaken = s.agentTaken

section
variable {cfg : Config} {s t : State K}

/-- A step that changes one connection. -/
lemma Stepped.put (farewells : ∀ i c, (s.links i).agent = some c → c.Farewell s.agent.end_) {i : Nat}
    {l : Link K} (links : t.links = Function.update s.links i l)
    (ended : ∀ message, s.agent.end_ = some message → t.agent.end_ = some message)
    (farewell : ∀ c, l.agent = some c → c.Farewell t.agent.end_) (downs : Downs cfg s t i)
    (taken : s.agent.end_.isSome → t.gen = s.gen → t.agentTaken = s.agentTaken) :
    Stepped cfg s t where
  farewells j c hc := by
    rw [links] at hc
    by_cases hj : j = i
    · rw [hj, Function.update_self] at hc
      exact farewell c hc
    · rw [Function.update_of_ne hj] at hc
      exact (farewells j c hc).mono ended
  ended := ended
  downs j := by
    by_cases hj : j = i
    · rw [hj]
      exact downs
    · exact .same (by rw [links, Function.update_of_ne hj]) (by rw [links, Function.update_of_ne hj])
  taken := taken

/-- A step that leaves the agent's connections alone. -/
lemma Stepped.still (farewells : ∀ i c, (s.links i).agent = some c → c.Farewell s.agent.end_)
    (agents : ∀ i, (t.links i).agent = (s.links i).agent)
    (frames : ∀ i, (t.links i).toClient = (s.links i).toClient)
    (ended : ∀ message, s.agent.end_ = some message → t.agent.end_ = some message)
    (taken : s.agent.end_.isSome → t.agentTaken = s.agentTaken) : Stepped cfg s t where
  farewells j c hc := (farewells j c (agents j ▸ hc)).mono ended
  ended := ended
  downs j := .same (frames j) (by rw [Link.endSent, agents j, Link.endSent])
  taken hend _ := taken hend

/-- A step of the client's end of a connection, that takes no frame. -/
lemma Stepped.ofClient (farewells : ∀ i c, (s.links i).agent = some c → c.Farewell s.agent.end_)
    {i : Nat} {l : Link K} (links : t.links = Function.update s.links i l)
    (linkAgent : l.agent = (s.links i).agent) (frames : l.toClient = (s.links i).toClient)
    (agent : t.agent = s.agent) (taken : t.agentTaken = s.agentTaken) : Stepped cfg s t := by
  refine .still farewells (fun j => ?_) (fun j => ?_) (fun message h => by rw [agent, h])
    fun _ => taken
  all_goals
    rw [links]
    by_cases hj : j = i
    · rw [hj, Function.update_self]
      assumption
    · rw [Function.update_of_ne hj]

/-- The end of a session is what it first was. -/
lemma endWith_mono (a : AgentSession K) (message : SessionEndMessage) :
    ∀ m, a.end_ = some m → (a.endWith message).end_ = some m := by
  intro m hm
  simp [AgentSession.endWith, hm]

/-- A write can end the session, and not again. -/
lemma write_mono (a : AgentSession K) (bytes : Bytes) :
    ∀ m, a.end_ = some m → (a.write bytes).2.end_ = some m := by
  intro m hm
  simp only [AgentSession.write]
  split
  · split
    · exact endWith_mono _ _ m hm
    · exact hm
  · exact hm

/-- Closing a connection neither sets nor clears the end. -/
lemma close_end (c : AgentConnection K) (a : AgentSession K) (now : Timestamp) :
    (c.close a now).end_ = a.end_ := by
  rcases close_cases c a now with heq | ⟨since, heq⟩ <;> rw [heq]

variable [DecidableEq K] {P : KeySchedule K}

omit [DecidableEq K] in
/-- A call sends one frame at most. -/
lemma State.sentOf_cons {res : Except SessionError (ConnectionEvent K)} {frame : FrameView K}
    {rest : List (FrameView K)} (h : State.sentOf res = frame :: rest) :
    res = .ok (.sendFrame frame) ∧ rest = [] := by
  unfold State.sentOf at h
  split at h
  · obtain ⟨rfl, rfl⟩ := List.cons.inj h
    exact ⟨rfl, rfl⟩
  · cases h

/-- A frame of the client is a step of the chronicle. -/
lemma stepped_agentFrame {i : Nat} {now : Timestamp}
    (farewells : ∀ i c, (s.links i).agent = some c → c.Farewell s.agent.end_) (coh : Coherent cfg s)
    (h : s.step P cfg (.agentFrame i now) = some t) : Stepped cfg s t := by
  obtain ⟨c, up, rest, hc, hfail, -, -, rfl⟩ := State.step_agentFrame h
  have hend := coh.agentEnd i c hc
  have hunsaid : c.Unsaid s.agent (c.onFrame P s.agent now up.frame).2.1
      (c.onFrame P s.agent now up.frame).2.2 :=
    AgentConnection.onFrame_unsaid (farewells i c hc) (fun hstage => (hend.resume hstage).1) hfail
  have hsilent := State.sentOf_nil (AgentConnection.onFrame_silent P c s.agent now up.frame)
  rw [State.agentReturns_eq]
  refine .put farewells rfl (fun m hm => hunsaid.ended.trans hm) ?_ (.same ?_ ?_) fun _ _ => rfl
  · rintro c' ⟨⟩
    exact hunsaid.farewell
  · simp [State.putLink, hsilent]
  · simp [State.putLink, Link.endSent, hc, hunsaid.sent]

/-- So is an idle turn of the agent. -/
lemma stepped_agentIdle {i out scratch : Nat} {now : Timestamp}
    (farewells : ∀ i c, (s.links i).agent = some c → c.Farewell s.agent.end_) (coh : Coherent cfg s)
    (ord : (s.view cfg).Ordered cfg) (h : s.step P cfg (.agentIdle i now out scratch) = some t) :
    Stepped cfg s t := by
  obtain ⟨c, hc, hfail, rfl⟩ := State.step_agentIdle h
  have hrole : ∀ chan, c.channel = some chan → chan.role = .agent := fun chan hchan =>
    ((ord.link i).agentGrid chan.grid (by simp [State.view, Link.view, hc, hchan])).1
  rw [State.agentReturns_eq]
  rcases AgentConnection.onIdle_told (P := P) (farewells i c hc) hrole out scratch hfail with
    ⟨hunsaid, hother⟩ | htold
  · refine .put farewells rfl (fun m hm => hunsaid.ended.trans hm) ?_ ?_ fun _ _ => rfl
    · rintro c' ⟨⟩
      exact hunsaid.farewell
    · cases hsent : State.sentOf (c.onIdle P s.agent now out scratch).1 with
      | nil =>
        refine .same ?_ ?_
        · simp [State.putLink]
        · simp [State.putLink, Link.endSent, hc, hunsaid.sent]
      | cons frame rest =>
        obtain ⟨hframe, rfl⟩ := State.sentOf_cons hsent
        refine .spoke frame ?_ (hother frame hframe) ?_
        · simp [State.putLink, State.gen]
        · simp [State.putLink, Link.endSent, hc, hunsaid.sent]
  · obtain ⟨frame, hframe, hends⟩ := htold.frame
    obtain ⟨chan, hchan, hwhole⟩ := htold.whole
    refine .put farewells rfl (fun m hm => htold.ended.trans hm) ?_ ?_ fun _ _ => rfl
    · rintro c' ⟨⟩
      exact htold.farewell
    · refine .ended frame ?_ hends ?_ ?_ htold.finished (coh.holder hc htold.current) ?_ ?_
        ⟨chan.grid, ?_, hwhole⟩ htold.empty
      · simp [State.putLink, State.sentOf, hframe, State.gen]
      · simp [Link.endSent, hc, htold.first]
      · simp [State.putLink, Link.endSent, htold.sent]
      · simp [State.view, Link.view, hc, hfail]
      · simp [State.view, Link.view, hc, htold.live]
      · simp [State.view, Link.view, hc, hchan]

/-- What every step does about the end. -/
theorem step_stepped {a : Action} (ok : s.EndsInOrder a) (coh : Coherent cfg s)
    (ord : (s.view cfg).Ordered cfg)
    (farewells : ∀ i c, (s.links i).agent = some c → c.Farewell s.agent.end_)
    (hstep : s.step P cfg a = some t) : Stepped cfg s t := by
  have session : ∀ {u : State K}, u.links = s.links → u.agentTaken = s.agentTaken →
      (∀ m, s.agent.end_ = some m → u.agent.end_ = some m) → Stepped cfg s u := by
    intro u hlinks htaken hend
    exact .still farewells (fun i => by rw [hlinks]) (fun i => by rw [hlinks]) hend fun _ => htaken
  cases a with
  | clientOpen clientNonce serverNonce snapshotBuf now =>
    obtain ⟨streams, -, -, -, heq⟩ := dropClient_rest s now
    simp only [State.step, heq] at hstep
    cases hstep
    have hnone := coh.unopened s.opened le_rfl
    refine .put farewells rfl (fun m hm => hm) ?_ (.fresh ?_ ?_ ?_) fun _ _ => rfl
    · rintro c ⟨⟩
    · simp [State.putLink]
    · simp [Link.endSent, hnone]
    · simp [State.putLink, Link.endSent]
  | route i now =>
    simp only [State.step] at hstep
    split at hstep
    · next hnew =>
      cases hstep
      have hnone : (s.links i).agent = none := Option.isNone_iff_eq_none.mp hnew.2
      refine .put farewells rfl (fun m hm => hm) ?_ (.same ?_ ?_) fun _ _ => rfl
      · rintro c ⟨⟩
        refine ⟨?_, ?_⟩
        · rintro chan ⟨⟩
        · rintro chan m ⟨⟩
      · simp [State.putLink]
      · simp [State.putLink, Link.endSent, hnone, AgentConnection.endSent, AgentConnection.route,
          AgentConnection.create]
    · cases hstep
  | completeHandshake i =>
    obtain ⟨c, res, hc, hfail, hres, rfl⟩ := State.step_completeHandshake hstep
    unfold AgentConnection.completeHandshake at hres
    split at hres
    · next a hstage ha =>
      cases hres
      -- in its handshake a connection has no channel to put the end on
      have hnone := ((coh.agentEnd i c hc).handshake hstage).1
      refine .put farewells rfl (fun m hm => hm) ?_ (.same ?_ ?_) fun _ _ => rfl
      · rintro c' ⟨⟩
        refine ⟨fun chan hchan => ?_, fun chan m hchan => ?_⟩
        · have hchan : c.channel = some chan := hchan
          rw [hnone] at hchan
          cases hchan
        · have hchan : c.channel = some chan := hchan
          rw [hnone] at hchan
          cases hchan
      · simp [State.putLink]
      · simp [State.putLink, Link.endSent, hc, AgentConnection.endSent]
    · cases hres
  | sendResume now out =>
    obtain ⟨i, offset, -, -, -, rfl⟩ := State.step_sendResume hstep
    rw [State.clientReturns_eq]
    exact .ofClient farewells rfl rfl rfl rfl rfl
  | agentFrame i now => exact stepped_agentFrame farewells coh hstep
  | agentIdle i now out scratch => exact stepped_agentIdle farewells coh ord hstep
  | supplySnapshot i now snapshot scrollbackLen flags =>
    obtain ⟨-, hfits, hflags, hsplit⟩ := ok
    simp only [State.step, Option.bind_eq_bind, Option.bind_eq_some_iff] at hstep
    obtain ⟨c, hc, hstep⟩ := hstep
    cases hstep
    -- the end waits behind the snapshot
    have hunsaid : c.Unsaid s.agent
        (c.supplySnapshot s.agent now snapshot scrollbackLen flags).1
        (c.supplySnapshot s.agent now snapshot scrollbackLen flags).2 :=
      AgentConnection.supplySnapshot_unsaid (farewells i c hc) hflags hsplit
    refine .put farewells rfl (fun m hm => hunsaid.ended.trans hm) ?_ (.same ?_ ?_) fun _ hgen => ?_
    · rintro c' ⟨⟩
      exact hunsaid.farewell
    · simp [State.putLink]
    · simp [State.putLink, Link.endSent, hc, hunsaid.sent]
    · exact if_neg (not_not.mpr hgen)
  | agentClose i now =>
    simp only [State.step, Option.bind_eq_bind, Option.bind_eq_some_iff] at hstep
    obtain ⟨c, hc, hstep⟩ := hstep
    cases hstep
    have hend := close_end c s.agent now
    exact session rfl rfl fun m hm => hend.trans hm
  | clientFrame now =>
    obtain ⟨i, down, rest, -, -, -, hdown, rfl⟩ := State.step_clientFrame hstep
    rw [State.clientReturns_eq]
    refine .put farewells rfl (fun m hm => hm) ?_ (.taken down ?_ ?_) fun _ _ => rfl
    · exact farewells i
    · simp [State.putLink, hdown]
    · simp [State.putLink, Link.endSent]
  | clientIdle now out scratch =>
    obtain ⟨i, -, -, rfl⟩ := State.step_clientIdle hstep
    rw [State.clientReturns_eq]
    exact .ofClient farewells rfl rfl rfl rfl rfl
  | confirmApply gen =>
    simp only [State.step, Option.bind_eq_bind, Option.bind_eq_some_iff] at hstep
    obtain ⟨i, hi, hstep⟩ := hstep
    cases hstep
    exact .ofClient farewells rfl rfl rfl rfl rfl
  | denyApply gen =>
    simp only [State.step, Option.bind_eq_bind, Option.bind_eq_some_iff] at hstep
    obtain ⟨i, hi, hstep⟩ := hstep
    cases hstep
    exact .ofClient farewells rfl rfl rfl rfl rfl
  | queueResize size =>
    simp only [State.step, Option.bind_eq_bind, Option.bind_eq_some_iff] at hstep
    obtain ⟨i, hi, hstep⟩ := hstep
    cases hstep
    exact .ofClient farewells rfl rfl rfl rfl rfl
  | clientClose now =>
    obtain ⟨streams, -, -, -, heq⟩ := dropClient_rest s now
    simp only [State.step, heq] at hstep
    cases hstep
    exact session rfl rfl fun m hm => hm
  | clientWrite bytes =>
    simp only [State.step] at hstep
    split at hstep <;> cases hstep <;> exact session rfl rfl fun m hm => hm
  | agentWrite bytes =>
    have hend := write_mono s.agent bytes
    simp only [State.step] at hstep
    split at hstep
    · next taken agent heq =>
      cases hstep
      rw [heq] at hend
      refine .still farewells (fun _ => rfl) (fun _ => rfl) hend fun hover => ?_
      -- the caller writes nothing that the ring would drop
      have hzero : taken = 0 := by
        have := ok.2 hover
        rwa [heq] at this
      simp [hzero]
    · next heq =>
      cases hstep
      rw [heq] at hend
      exact session rfl rfl hend
  | inputDelivered count =>
    cases hstep
    exact session rfl rfl fun m hm => hm
  | inputRejected i count now =>
    simp only [State.step, Option.bind_eq_bind, Option.bind_eq_some_iff] at hstep
    obtain ⟨c, hc, hstep⟩ := hstep
    split at hstep
    · split at hstep
      · next agent heq =>
        cases hstep
        obtain ⟨-, rfl⟩ := Prod.mk.inj heq
        exact session rfl rfl fun m hm => (close_end c _ now).trans hm
      · next agent heq =>
        cases hstep
        obtain ⟨-, rfl⟩ := Prod.mk.inj heq
        exact session rfl rfl fun m hm => (close_end c _ now).trans hm
    · cases hstep
  | endSession message =>
    cases hstep
    exact session rfl rfl (endWith_mono s.agent message)
  | agentTimer now =>
    cases hstep
    exact session rfl rfl fun m hm => hm
  | agentGates i sendOpen readOpen now =>
    cases hstep
    refine .put farewells rfl (fun m hm => hm) ?_ (.same ?_ ?_) fun _ _ => rfl
    · -- gates touch neither an end that waits nor one that was sent
      intro c' hc'
      obtain ⟨c, hc, rfl⟩ := Option.map_eq_some_iff.mp hc'
      refine ⟨fun chan' hchan' => ?_, fun chan' m hchan' hpending => ?_⟩
      · obtain ⟨chan, hchan, rfl⟩ := Option.map_eq_some_iff.mp hchan'
        exact (farewells i c hc).sendable chan hchan
      · obtain ⟨chan, hchan, rfl⟩ := Option.map_eq_some_iff.mp hchan'
        exact (farewells i c hc).pending chan m hchan hpending
    · simp [State.putLink, State.onAgentChannel]
    · simp only [State.putLink, State.onAgentChannel, Function.update_self, Link.endSent]
      cases (s.links i).agent with
      | none => rfl
      | some c =>
        simp only [Option.map_some, Option.getD_some, AgentConnection.endSent]
        cases c.channel <;> rfl
  | clientGates sendOpen readOpen now =>
    cases hstep
    unfold State.onClientChannel
    split
    · exact .ofClient farewells rfl rfl rfl rfl rfl
    · exact session rfl rfl fun m hm => hm

end

/-- The histories are true, and every SessionEnd on its way to the client is behind everything that was
accepted. -/
structure Chronicle.Kept (cfg : Config) (h : Chronicle K) : Prop where
  landing : (h.state.view cfg).Landing cfg
  coherent : Coherent cfg h.state
  stored : (h.state.view cfg).Stored
  farewells : ∀ i c, (h.state.links i).agent = some c → c.Farewell h.state.agent.end_
  ends : ∀ i, h.ends i = (h.state.links i).endSent.toNat
  finished : ∀ i, ∀ d ∈ (h.state.links i).toClient, endsSession d.frame = true → h.state.agent.end_.isSome
  accepted : h.accepted h.state.gen = h.state.agentTaken
  later : ∀ gen, h.state.gen < gen → h.accepted gen = []
  promised : ∀ i, (h.state.view cfg).Current i → ∀ pre d post,
    (h.state.links i).toClient = pre ++ d :: post → endsSession d.frame = true →
    (h.state.view cfg).Promised i d.gen (pre.map (Downward.view cfg.version)) (h.accepted d.gen) ∧
      ∀ gen, d.gen < gen → h.accepted gen = []

section
variable {cfg : Config} {h h' : Chronicle K}

/-- A step of the system adds to the history at most what it sent. -/
lemma Downs.ends {s t : State K} {i : Nat} (downs : Downs cfg s t i) {ends : Nat}
    (before : ends = (s.links i).endSent.toNat) :
    ends + ((t.links i).toClient.drop (s.links i).toClient.length).countP
      (fun d => endsSession d.frame) = (t.links i).endSent.toNat := by
  cases downs with
  | fresh empty hbefore after => simp [before, empty, hbefore, after]
  | taken d head same =>
    have hnone : (t.links i).toClient.drop (s.links i).toClient.length = [] :=
      List.drop_of_length_le (by simp [head])
    simp [before, hnone, same]
  | same frames same => simp [before, frames, same]
  | spoke frame sent other same => simp [before, sent, other, same]
  | ended frame sent ends first after => simp [before, sent, ends, first, after]

/-- A SessionEnd on its way was on its way before, or says of an ended session that it has. -/
lemma Downs.finished {s t : State K} {i : Nat} (downs : Downs cfg s t i)
    (before : ∀ d ∈ (s.links i).toClient, endsSession d.frame = true → s.agent.end_.isSome) :
    ∀ d ∈ (t.links i).toClient, endsSession d.frame = true → s.agent.end_.isSome := by
  intro d hd hends
  cases downs with
  | fresh empty =>
    rw [empty] at hd
    cases hd
  | taken d' head =>
    refine before d ?_ hends
    rw [head]
    exact List.mem_cons_of_mem _ hd
  | same frames =>
    rw [frames] at hd
    exact before d hd hends
  | spoke frame sent other =>
    rw [sent] at hd
    rcases List.mem_append.mp hd with hd | hd
    · exact before d hd hends
    · rw [List.mem_singleton.mp hd, other] at hends
      cases hends
  | ended frame sent ends first after finished => exact finished

variable [DecidableEq K] {P : KeySchedule K}

/-- What the owner promises is what the widths of the counters need. -/
lemma State.EndsInOrder.fits {s : State K} {a : Action} {m : Mark} (ok : s.EndsInOrder a)
    (hm : m.Of P cfg s a) : Fits (s.view cfg) m := by
  refine ⟨ok.1, ?_⟩
  rintro rfl
  obtain ⟨i, now, snapshot, scrollbackLen, flags, rfl⟩ := hm
  exact ok.2.1

omit [DecidableEq K] in
/-- Nothing is accepted once the session has ended. -/
lemma Chronicle.Kept.stays {t : State K} {m : Mark} (kept : h.Kept cfg)
    (finished : h.state.agent.end_.isSome) (stepped : Stepped cfg h.state t)
    (fits : Fits (h.state.view cfg) m) (hmove : Move cfg (h.state.view cfg) m (t.view cfg)) :
    Function.update h.accepted t.gen t.agentTaken = h.accepted := by
  rw [Function.update_eq_iff]
  refine ⟨?_, fun _ _ => rfl⟩
  rcases hmove.gen_cases with hsame | ⟨hm, -, hgen, htaken⟩
  · have hsame : t.gen = h.state.gen := hsame
    rw [stepped.taken finished hsame, hsame, kept.accepted]
  · have hgen : t.gen = h.state.gen + 1 := hgen.trans (View.gen_newGeneration (fits.gen hm))
    have htaken : t.agentTaken = [] := htaken
    rw [htaken, kept.later t.gen (by omega)]

omit [DecidableEq K] in
/-- What was promised of the SessionEnds on their way stays promised, and of a new one it is. -/
lemma Chronicle.Kept.promises {t : State K} {m : Mark} (kept : h.Kept cfg)
    (stepped : Stepped cfg h.state t) (fits : Fits (h.state.view cfg) m)
    (hmove : Move cfg (h.state.view cfg) m (t.view cfg)) (ord' : (t.view cfg).Ordered cfg) {i : Nat}
    (current : (t.view cfg).Current i) {pre post : List (Downward K)} {d : Downward K}
    (split : (t.links i).toClient = pre ++ d :: post) (ends : endsSession d.frame = true) :
    (t.view cfg).Promised i d.gen (pre.map (Downward.view cfg.version))
        (Function.update h.accepted t.gen t.agentTaken d.gen) ∧
      ∀ gen, d.gen < gen → Function.update h.accepted t.gen t.agentTaken gen = [] := by
  have hover : h.state.agent.end_.isSome :=
    (stepped.downs i).finished (kept.finished i) d (by rw [split]; simp) ends
  rw [kept.stays hover stepped fits hmove]
  have hviews : ∀ u : State K, ((u.view cfg).links i).toClient =
      (u.links i).toClient.map (Downward.view cfg.version) := fun _ => rfl
  cases hmove.effect kept.landing.ordered ord' kept.landing.staged current with
  | fresh empty =>
    rw [hviews, split] at empty
    simp at empty
  | still was longer keeps =>
    rw [hviews, hviews, List.length_map, List.length_map] at longer
    -- a frame that was there already, or the one just sent
    have before : ∀ frame gen, (t.links i).toClient =
        (h.state.links i).toClient ++ [Downward.mk frame gen] →
        (∃ post', (h.state.links i).toClient = pre ++ d :: post') ∨
          (d = ⟨frame, gen⟩ ∧ pre = (h.state.links i).toClient) := by
      intro frame gen sent
      rw [split] at sent
      rcases List.eq_nil_or_concat post with rfl | ⟨post', last, rfl⟩
      · obtain ⟨hpre, hd⟩ := List.append_inj' sent rfl
        exact .inr ⟨List.cons.inj hd |>.1, hpre⟩
      · refine .inl ⟨post', ?_⟩
        rw [List.concat_eq_append, ← List.cons_append, ← List.append_assoc] at sent
        exact (List.append_inj' sent rfl).1.symm
    have old : ∀ post', (h.state.links i).toClient = pre ++ d :: post' →
        (t.view cfg).Promised i d.gen (pre.map (Downward.view cfg.version)) (h.accepted d.gen) ∧
          ∀ gen, d.gen < gen → h.accepted gen = [] := by
      intro post' hold
      obtain ⟨hp, hlater⟩ := kept.promised i was pre d post' hold ends
      exact ⟨keeps _ _ _ hp, hlater⟩
    cases stepped.downs i with
    | fresh empty =>
      rw [split] at empty
      simp at empty
    | taken d' head =>
      rw [head, List.length_cons] at longer
      omega
    | same frames => exact old post (frames.symm.trans split)
    | spoke frame sent other =>
      rcases before frame _ sent with ⟨post', hold⟩ | ⟨rfl, -⟩
      · exact old post' hold
      · rw [other] at ends
        cases ends
    | ended frame sent _ _ _ _ holder alive live whole empty =>
      rcases before frame _ sent with ⟨post', hold⟩ | ⟨rfl, rfl⟩
      · exact old post' hold
      · obtain ⟨g, hgrid, hnone⟩ := whole
        have hp := kept.landing.promised kept.stored was holder alive live hgrid hnone empty
        refine ⟨keeps _ _ _ ?_, kept.later⟩
        rw [kept.accepted]
        exact hp
  | taken was down rest head left keeps =>
    rw [hviews] at head left
    have hlength : (h.state.links i).toClient.length = (t.links i).toClient.length + 1 := by
      have hhead := congrArg List.length head
      have hleft := congrArg List.length left
      simp only [List.length_map, List.length_cons] at hhead hleft
      omega
    cases stepped.downs i with
    | fresh empty =>
      rw [split] at empty
      simp at empty
    | taken d' hd' =>
      obtain ⟨hp, hlater⟩ := kept.promised i was (d' :: pre) d post (by rw [hd', split]; rfl) ends
      rw [hd', List.map_cons] at head
      obtain ⟨rfl, rfl⟩ := List.cons.inj head
      refine ⟨keeps _ _ _ ?_ hp, hlater⟩
      rw [split, List.map_append]
      exact List.subset_append_left _ _
    | same frames =>
      rw [frames] at hlength
      omega
    | spoke frame sent =>
      rw [sent, List.length_append] at hlength
      omega
    | ended frame sent =>
      rw [sent, List.length_append] at hlength
      omega

/-- Every step keeps the histories true. -/
theorem Chronicle.Kept.step {a : Action} (kept : h.Kept cfg) (ok : h.state.EndsInOrder a)
    (hstep : h.step P cfg a = some h') : h'.Kept cfg := by
  obtain ⟨t, ht, rfl⟩ := Option.map_eq_some_iff.mp hstep
  obtain ⟨⟨m, hm, hmove⟩, hcoh⟩ := step_moves kept.coherent kept.stored ht
  have hfits := ok.fits hm
  have hlanding := kept.landing.move kept.stored hfits hmove
  have hstepped := step_stepped ok kept.coherent kept.landing.ordered kept.farewells ht
  refine
    { landing := hlanding
      coherent := hcoh
      stored := kept.stored.move hmove
      farewells := hstepped.farewells
      ends := fun i => (hstepped.downs i).ends (kept.ends i)
      finished := fun i d hd hends => ?_
      accepted := Function.update_self ..
      later := fun gen hgen => ?_
      promised := fun i hcur pre d post split ends =>
        kept.promises hstepped hfits hmove hlanding.ordered hcur split ends }
  · obtain ⟨message, hmessage⟩ := Option.isSome_iff_exists.mp
      ((hstepped.downs i).finished (kept.finished i) d hd hends)
    rw [hstepped.ended message hmessage]
    rfl
  · have hgen : t.gen < gen := hgen
    have hle : h.state.gen ≤ t.gen := by
      rcases hmove.gen_cases with hsame | ⟨hm, -, hnew, -⟩
      · exact hsame.ge
      · exact (Nat.le_succ _).trans (hnew.trans (View.gen_newGeneration (hfits.gen hm))).ge
    have hkept : Function.update h.accepted t.gen t.agentTaken gen = h.accepted gen :=
      Function.update_of_ne (by omega) ..
    exact hkept.trans (kept.later gen (by omega))

omit [DecidableEq K] in
/-- Nothing has ended at the start. -/
lemma Chronicle.kept_start (seed : K) (agentStorage clientStorage : Bytes)
    (agentLimits clientLimits : SessionLimits) (now : Timestamp) :
    (Chronicle.start
      (State.start seed agentStorage clientStorage agentLimits clientLimits now)).Kept cfg where
  landing := landing_start ..
  coherent := .start ..
  stored := stored_start ..
  farewells i c hc := by cases hc
  ends _ := rfl
  finished i d hd := by cases hd
  accepted := rfl
  later _ _ := rfl
  promised i hcur := by cases hcur

/-- What the client's channel makes of the first frame on its way on connection `i`. -/
def State.nextReceived (P : KeySchedule K) (s : State K) (i : Nat) (now : Timestamp) :
    Option (Except SessionError IncomingEvent) := do
  let down ← (s.links i).toClient.head?
  let chan ← (s.links i).client.channel
  some ((ClientConnection.port chan s.client).receive P now down.frame).1

/-- When the client is told that the session has ended it is in the generation the end was sent in and
was delivered all that was accepted in it, and nothing was accepted in a later one. A connection says
it once, and every connection to which it is due says it at its next idle call. -/
theorem session_end_last (seed : K) (agentStorage clientStorage : Bytes)
    (agentLimits clientLimits : SessionLimits) (now : Timestamp) {as : List Action}
    (run : Run (Chronicle.step P cfg) (fun h a => h.state.EndsInOrder a)
      (.start (.start seed agentStorage clientStorage agentLimits clientLimits now)) as h) :
    (∀ i down rest message now, h.state.current = some i →
      (h.state.links i).client.failed = none → (h.state.links i).toClient = down :: rest →
      h.state.nextReceived P i now = some (.ok (.sessionEnd message)) →
      h.state.cursorGen = down.gen ∧ h.state.clientGot = h.accepted down.gen ∧
        ∀ gen, down.gen < gen → h.accepted gen = []) ∧
    (∀ i, h.ends i ≤ 1) ∧
    ∀ i c chan message now out scratch, (h.state.links i).agent = some c →
      c.EndDue h.state.agent chan message now out →
      h.ends i = 0 ∧ ∃ frame, (c.onIdle P h.state.agent now out scratch).1 = .ok (.sendFrame frame) ∧
        frame.body.plaintext = (Session.Message.sessionEnd message).bytes := by
  have kept : h.Kept cfg := run.inv (fun h => h.Kept cfg)
    (fun h a h' hkept ok hstep => hkept.step ok hstep) (Chronicle.kept_start ..)
  refine ⟨?_, ?_, ?_⟩
  · intro i down rest message now hcur hfail hdown hnext
    obtain ⟨_, hhead, hnext⟩ := Option.bind_eq_some_iff.mp hnext
    obtain ⟨chan, hchan, hreceive⟩ := Option.bind_eq_some_iff.mp hnext
    rw [hdown] at hhead
    cases hhead
    have hends := Port.receive_ended (Option.some.inj hreceive)
    obtain ⟨hpromised, hlater⟩ := kept.promised i (State.current_view hcur) [] down rest hdown hends
    obtain ⟨hgen, hgot⟩ := hpromised.now (by simp [State.view, Link.view, hfail])
    exact ⟨hgen, hgot, hlater⟩
  · intro i
    rw [kept.ends i]
    exact Bool.toNat_le _
  · intro i c chan message now out scratch hc due
    refine ⟨?_, ?_⟩
    · rw [kept.ends i]
      simp [Link.endSent, hc, AgentConnection.endSent, due.channel, due.first]
    · have hrole : chan.role = .agent := ((kept.landing.ordered.link i).agentGrid chan.grid
        (by simp [State.view, Link.view, hc, due.channel])).1
      have hwindow : (h.state.view cfg).out.sendNext = (h.state.view cfg).out.end_ := by
        have hlow := kept.stored.out.base_le
        have hhigh := kept.stored.out.sendNext_le
        have hempty : (h.state.view cfg).out.end_ - (h.state.view cfg).out.base = 0 := due.empty
        omega
      exact due.sends (kept.farewells i c hc) hrole hwindow P scratch

/-- A byte reaches the client and is acknowledged, the shell ends, and the connection that says so is
cut before the client hears it. -/
def endedTwice : List Action :=
  sampleResume 0 0 ++ [.agentFrame 0 0] ++ sampleByte 0 0 ++ sampleAck 0 0 ++
    [.endSession ⟨.exited, 3⟩, .agentIdle 0 ackIdleDelay 1000 1000] ++
    sampleResume 1 ackIdleDelay ++
    [.agentFrame 1 ackIdleDelay, .agentIdle 1 ackIdleDelay 1000 1000]

/-- The session ends, and each of two connections hears of it once. -/
theorem session_end_last_sample :
    ∃ h, Run (Chronicle.step .counting sampleConfig) (fun h a => h.state.EndsInOrder a)
      (.start sampleStart) endedTwice h ∧
      h.state.nextReceived .counting 1 ackIdleDelay = some (.ok (.sessionEnd ⟨.exited, 3⟩)) ∧
      (h.ends 0 = 1 ∧ h.ends 1 = 1) ∧ h.accepted 0 = [1] ∧ h.state.cursorGen = 0 ∧
      h.state.clientGot = [1] ∧ ∀ i, h.ends i ≤ 1 := by
  have hreach : ((exec (guarded (Chronicle.step .counting sampleConfig)
      fun h a => h.state.EndsInOrder a) (.start sampleStart) endedTwice).any fun h =>
        decide (h.state.nextReceived .counting 1 ackIdleDelay =
            some (.ok (.sessionEnd ⟨.exited, 3⟩)) ∧
          (h.ends 0 = 1 ∧ h.ends 1 = 1) ∧ h.accepted 0 = [1] ∧ h.state.current = some 1 ∧
          (h.state.links 1).client.failed = none ∧
          (h.state.links 1).toClient.map Downward.gen = [0])) = true := by
    decide +kernel
  obtain ⟨h, hh, hstate⟩ := (Option.any_eq_true _ _).mp hreach
  obtain ⟨hnext, hends, haccepted, hcur, hfail, hgens⟩ := of_decide_eq_true hstate
  have run := Run.of_guarded hh
  obtain ⟨hlast, hones, -⟩ := session_end_last 0 _ _ {} {} 0 run
  obtain ⟨down, hdown, -⟩ := Option.bind_eq_some_iff.mp hnext
  obtain ⟨rest, hlinks⟩ := List.head?_eq_some_iff.mp hdown
  have hgen : down.gen = 0 := by
    rw [hlinks] at hgens
    exact (List.cons.inj hgens).1
  obtain ⟨hcursor, hgot, -⟩ := hlast 1 down rest _ _ hcur hfail hlinks hnext
  exact ⟨h, run, hnext, hends, haccepted, hcursor.trans hgen, by rw [hgot, hgen, haccepted], hones⟩

end

end Zet.Net
