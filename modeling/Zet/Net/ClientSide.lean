import Zet.Net.Unanswered
import Zet.Session.Farewell
import Zet.Session.GridReception
import Zet.Wire.Canonical

/-!
# What comes to the client, and what it answers

Facts about single connections that the caller of the client's end counts on and the streams do not show
(`Link.Sound`): a frame is at least as long as what it carries, no snapshot is longer than the wire
allows, and a GridApplied names a snapshot the caller confirmed. `Beside` says of a step that nothing
came out of it for the client's caller; every step of the agent is one (`step_beside`), and so is what the
client does between two frames.
-/

namespace Zet.Session
open Zet.Core Zet.Wire Zet.Lib

section
variable {K : Type}

/-- The frame is as long as what it carries, at least. -/
def Tight (f : FrameView K) : Prop := f.body.plaintext.length ≤ f.header.length

/-- The snapshot that is coming in is no longer than the wire allows. -/
def GridState.Capped (g : GridState) : Prop := ∀ r, g.receiving = some r → r.totalLen ≤ snapshotMaxBytes

/-- What a poll seals fits its frame. -/
lemma Port.poll_tight (P : KeySchedule K) {p : Port K} {now : Timestamp} {out scratch : Nat}
    {frame : FrameView K} (h : (p.poll P now out scratch).1 = .ok (some frame)) : Tight frame := by
  cases Port.poll_polls P p now out scratch with
  | silent _ _ _ answer _ =>
    rcases answer with hnone | ⟨e, herr, -⟩
    · rw [hnone] at h
      cases h
    · rw [herr] at h
      cases h
  | sent _ _ _ _ sealed answer _ =>
    rw [answer] at h
    obtain rfl := Option.some.inj (Except.ok.inj h)
    have hplain := FrameSealer.seal_plaintext sealed
    unfold FrameSealer.seal at sealed
    split at sealed
    · cases sealed
    dsimp only at sealed
    split at sealed
    · cases sealed
    split at sealed
    · cases sealed
    · cases sealed
      exact Nat.le_add_right _ _

/-- A snapshot that comes in whole is one the wire allows, and the next one will be. -/
structure Port.Allows (res : Port.Received K) : Prop where
  capped : res.2.chan.grid.Capped
  whole : ∀ bytes gen scrollbackLen flags,
    res.1 = .ok (.gridSnapshot bytes gen scrollbackLen flags) → bytes.length ≤ snapshotMaxBytes

/-- A body leaves no more of a snapshot to come than there is room for. -/
lemma Port.receivePlain_allows {p : Port K} (capped : p.chan.grid.Capped) (plain : Bytes) :
    Port.Allows (p.receivePlain plain) := by
  have refused : ∀ e, Port.Allows (.error e, p) := fun e =>
    ⟨capped, fun _ _ _ _ h => (by cases h)⟩
  have quiet : ∀ {res : Port.Received K}, shownOf res.1 = [] → res.2.chan.grid.receiving =
      p.chan.grid.receiving → Port.Allows res := by
    intro res hshown hsame
    refine ⟨by rw [GridState.Capped, hsame]; exact capped, fun bytes gen n flags h => ?_⟩
    rw [h] at hshown
    cases hshown
  unfold Port.receivePlain
  split
  · exact ⟨capped, fun _ _ _ _ h => (by cases h)⟩
  · exact refused _
  next type body _ =>
  cases type with
  | data => exact quiet (Port.receiveData_nothing p body).1 (by rw [(Port.receiveData_nothing p body).2])
  | ack => exact quiet (Port.receiveAck_nothing p body).1 (by rw [(Port.receiveAck_nothing p body).2])
  | gridBegin =>
    simp only [Port.receiveGridBegin]
    split
    · exact refused _
    split
    · exact refused _
    split
    · exact refused _
    split
    · exact refused _
    split
    · exact refused _
    next hfits =>
    repeat' split
    · exact refused _
    · exact refused _
    · refine ⟨?_, fun _ _ _ _ h => (by cases h)⟩
      rintro r ⟨⟩
      -- a snapshot longer than the room was refused above
      exact Nat.le_of_not_lt fun hlong => hfits (.inl hlong)
  | gridChunk =>
    simp only [Port.receiveGridChunk]
    split
    · exact refused _
    split
    · exact refused _
    split
    · exact refused _
    split
    · exact refused _
    next r hr =>
    repeat' split
    · exact refused _
    · exact refused _
    · exact refused _
    · refine ⟨?_, fun _ _ _ _ h => (by cases h)⟩
      rintro r' ⟨⟩
      exact capped r hr
  | gridEnd =>
    simp only [Port.receiveGridEnd]
    split
    · exact refused _
    split
    · exact refused _
    split
    · exact refused _
    next r hr =>
    split
    · exact refused _
    · refine ⟨fun r' hr' => (by cases hr'), fun bytes gen n flags h => ?_⟩
      cases h
      exact (List.length_take_le _ _).trans (capped r hr)
  | gridApplied =>
    simp only [Port.receiveGridApplied]
    repeat' split
    all_goals exact quiet rfl rfl
  | resize =>
    simp only [Port.receiveResize]
    repeat' split
    all_goals exact quiet rfl rfl
  | ping =>
    simp only [Port.receivePing]
    split <;> exact quiet rfl rfl
  | pong =>
    simp only [Port.receivePong]
    split <;> exact quiet rfl rfl
  | sessionEnd =>
    simp only [Port.receiveSessionEnd]
    repeat' split
    all_goals exact quiet rfl rfl
  | _ => exact refused _

/-- So does a frame. -/
lemma Port.receive_allows [DecidableEq K] (P : KeySchedule K) {p : Port K} (capped : p.chan.grid.Capped)
    (now : Timestamp) (frame : FrameView K) : Port.Allows (p.receive P now frame) := by
  unfold Port.receive
  split
  · exact ⟨capped, fun _ _ _ _ h => (by cases h)⟩
  · exact Port.receivePlain_allows
      (p := { p with chan := { p.chan with opener := _, lastHeard := now } }) capped _

/-- Data is shorter than the plaintext it comes in. -/
lemma length_data_le {version : Nat} {plain : Bytes} {a o : Nat} {payload : Bytes}
    (h : Said.of version plain = .data a o payload) : payload.length ≤ plain.length := by
  unfold Said.of at h
  split at h
  · split at h <;> cases h
  · next body htype =>
    split at h
    · next m rest hparse =>
      cases h
      obtain ⟨ack, s₁, hack, hparse⟩ := Reader.bind_eq_ok hparse
      obtain ⟨offset, s₂, hoffset, hparse⟩ := Reader.bind_eq_ok hparse
      obtain ⟨payload, s₃, hpayload, hparse⟩ := Reader.bind_eq_ok hparse
      obtain ⟨-, hparse⟩ := Reader.check_eq_ok hparse
      obtain ⟨-, hparse⟩ := Reader.check_eq_ok hparse
      obtain ⟨-, s₄, -, hparse⟩ := Reader.bind_eq_ok hparse
      obtain ⟨rfl, rfl⟩ := Reader.pure_eq_ok hparse
      obtain ⟨rfl, rfl⟩ := readRest_eq_ok hpayload
      rw [parseMessageType_eq_ok htype, (readBE_eq_ok hack).1, (readBE_eq_ok hoffset).1]
      simp only [List.length_append]
      omega
    · cases h
  · split at h <;> cases h
  · split at h <;> cases h
  · cases h
  · split at h <;> cases h
  · cases h

/-- What is delivered is part of the data that came. -/
lemma Face.hears_delivers {f : Face} {version : Nat} {plain : Bytes}
    {out : Except SessionError IncomingEvent × Face} (h : f.Hears (.of version plain) out) {bytes : Bytes}
    {tail : Nat} (delivers : out.1 = .ok (.data bytes tail)) :
    bytes.length ≤ plain.length ∧ ∃ a o p, Said.of version plain = .data a o p := by
  generalize hsaid : Said.of version plain = said at h
  cases h with
  | @data a o p free =>
    refine ⟨le_trans ?_ (length_data_le hsaid), a, o, p, rfl⟩
    unfold Face.hearData at delivers
    split at delivers
    · cases delivers
    unfold Face.deliver at delivers
    split at delivers
    · cases delivers
    next got cursor hrec =>
    dsimp only at delivers
    split at delivers
    · cases delivers
    · cases delivers
      rw [(ReceiveCursor.receive_ok hrec).2.1]
      exact (List.length_drop ▸ Nat.sub_le _ _)
  | ack =>
    unfold Face.hearAck at delivers
    split at delivers <;> cases delivers
  | _ => cases delivers

end

end Zet.Session

namespace Zet.Net
open Zet.Core Zet.Wire Zet.Lib Zet.Session

section
variable {K : Type}

/-- What the caller of the client's end counts on, with `gens` the snapshots it has confirmed. -/
structure Link.Sound (version : Nat) (gens : List Nat) (l : Link K) : Prop where
  tight : ∀ d ∈ l.toClient, Tight d.frame
  capped : ∀ chan, l.client.channel = some chan → chan.grid.Capped
  sent : ∀ u ∈ l.toAgent, ∀ g, Said.of version u.frame.body.plaintext = .gridApplied g →
    ∃ gen ∈ gens, g = gen % 256 ^ 4
  unsent : ∀ chan, l.client.channel = some chan → ∀ gen, chan.grid.pendingApplied = some gen → gen ∈ gens

section
variable {version : Nat} {gens : List Nat} {l l' : Link K}

/-- A connection stays sound when more generations are known. -/
lemma Link.Sound.mono (h : l.Sound version gens) {more : List Nat} (sub : gens ⊆ more) :
    l.Sound version more := by
  refine ⟨h.tight, h.capped, fun u hu g hsaid => ?_, fun chan hchan gen hgen => sub (h.unsent chan hchan gen hgen)⟩
  obtain ⟨gen, hgen, heq⟩ := h.sent u hu g hsaid
  exact ⟨gen, sub hgen, heq⟩

/-- The agent's end takes frames and sends them. -/
lemma Link.Sound.agentSide (h : l.Sound version gens) (client : l'.client = l.client)
    (toAgent : l'.toAgent ⊆ l.toAgent) {more : List (Downward K)}
    (toClient : l'.toClient = l.toClient ++ more) (tight : ∀ d ∈ more, Tight d.frame) :
    l'.Sound version gens := by
  refine ⟨fun d hd => ?_, by rw [client]; exact h.capped, fun u hu => h.sent u (toAgent hu),
    by rw [client]; exact h.unsent⟩
  rw [toClient] at hd
  exact (List.mem_append.mp hd).elim (h.tight d) (tight d)

/-- The client's end does, without hearing anything of a snapshot or answering for one. -/
lemma Link.Sound.clientSide (h : l.Sound version gens) (more : List (Upward K)) (toClient : l'.toClient ⊆ l.toClient)
    (grid : ∀ chan', l'.client.channel = some chan' →
      chan'.grid.receiving = none ∧ chan'.grid.pendingApplied = none ∨
      ∃ chan, l.client.channel = some chan ∧ chan'.grid.receiving = chan.grid.receiving ∧
        ∀ gen, chan'.grid.pendingApplied = some gen → chan.grid.pendingApplied = some gen)
    (toAgent : l'.toAgent = l.toAgent ++ more)
    (answers : ∀ u ∈ more, ∀ g, Said.of version u.frame.body.plaintext = .gridApplied g →
      ∃ chan gen, l.client.channel = some chan ∧ chan.grid.pendingApplied = some gen ∧
        g = gen % 256 ^ 4) : l'.Sound version gens := by
  refine ⟨fun d hd => h.tight d (toClient hd), fun chan' hchan' => ?_, fun u hu g hsaid => ?_,
    fun chan' hchan' gen hgen => ?_⟩
  · rcases grid chan' hchan' with ⟨hnone, -⟩ | ⟨chan, hchan, hsame, -⟩
    · intro r hr
      rw [hnone] at hr
      cases hr
    · rw [GridState.Capped, hsame]
      exact h.capped chan hchan
  · rw [toAgent] at hu
    rcases List.mem_append.mp hu with hu | hu
    · exact h.sent u hu g hsaid
    · obtain ⟨chan, gen, hchan, hgen, heq⟩ := answers u hu g hsaid
      exact ⟨gen, h.unsent chan hchan gen hgen, heq⟩
  · rcases grid chan' hchan' with ⟨-, hnone⟩ | ⟨chan, hchan, -, hless⟩
    · rw [hnone] at hgen
      cases hgen
    · exact h.unsent chan hchan gen (hless gen hgen)

end

/-- Nothing came out of the step for the client's caller. -/
structure Beside (version : Nat) (s s' : State K) : Prop where
  opened : s'.opened = s.opened
  got : s'.clientGot = s.clientGot
  pending : ∀ i, (s'.links i).client.pendingApplyGen = (s.links i).client.pendingApplyGen
  toClient : ∀ i, (s.links i).toClient <+: (s'.links i).toClient
  sound : ∀ i gens, (s.links i).Sound version gens → (s'.links i).Sound version gens

section
variable {version : Nat} {s s' : State K}

/-- Where connections, cursor and counts are the same, nothing beside was touched. -/
lemma Beside.same (opened : s'.opened = s.opened) (got : s'.clientGot = s.clientGot)
    (links : s'.links = s.links) : Beside version s s' := by
  refine ⟨opened, got, fun i => by rw [links], fun i => ?_, fun i gens h => ?_⟩
  · exact links ▸ List.prefix_rfl
  · rw [links]
    exact h

/-- One connection is changed, and nothing the client is to hear is taken back. -/
lemma Beside.put {i : Nat} {l : Link K} (opened : s'.opened = s.opened)
    (got : s'.clientGot = s.clientGot) (links : s'.links = Function.update s.links i l)
    (pending : l.client.pendingApplyGen = (s.links i).client.pendingApplyGen)
    (toClient : (s.links i).toClient <+: l.toClient)
    (sound : ∀ gens, (s.links i).Sound version gens → l.Sound version gens) : Beside version s s' := by
  have hlinks : ∀ j, s'.links j = if j = i then l else s.links j := by
    intro j
    rw [links, Function.update_apply]
  refine ⟨opened, got, fun j => ?_, fun j => ?_, fun j gens h => ?_⟩
  · rw [hlinks]
    split
    · next heq => rw [heq, pending]
    · rfl
  · rw [hlinks]
    split
    · next heq => rw [heq]; exact toClient
    · exact List.prefix_rfl
  · rw [hlinks]
    split
    · next heq => exact sound gens (heq ▸ h)
    · exact h

/-- A step of the agent on one connection. -/
lemma Beside.agentSide {i : Nat} {l : Link K} (opened : s'.opened = s.opened)
    (got : s'.clientGot = s.clientGot) (links : s'.links = Function.update s.links i l)
    (client : l.client = (s.links i).client) (toAgent : l.toAgent ⊆ (s.links i).toAgent)
    {more : List (Downward K)} (toClient : l.toClient = (s.links i).toClient ++ more)
    (tight : ∀ d ∈ more, Tight d.frame) : Beside version s s' :=
  .put opened got links (by rw [client]) (by rw [toClient]; exact List.prefix_append _ _)
    fun _ h => h.agentSide client toAgent toClient tight

end

/-- A frame among those sent is the one the call returned. -/
lemma sentOf_mem {res : Except SessionError (ConnectionEvent K)} {frame : FrameView K}
    (h : frame ∈ State.sentOf res) : res = .ok (.sendFrame frame) := by
  unfold State.sentOf at h
  split at h
  · rw [List.mem_singleton.mp h]
  · cases h

/-- What the agent sends when it is idle. -/
lemma onIdle_tight (P : KeySchedule K) (c : AgentConnection K) (s : AgentSession K) (now : Timestamp)
    (out scratch : Nat) {frame : FrameView K}
    (h : (c.onIdle P s now out scratch).1 = .ok (.sendFrame frame)) : Tight frame := by
  have guards : ∀ (deadline : Option Timestamp) (k : Channel K → Nat → AgentConnection.Pumped K),
      (∀ chan handle, (k chan handle).1 = .ok (.sendFrame frame) → Tight frame) →
      (c.guarded s deadline now k).1 = .ok (.sendFrame frame) → Tight frame := by
    intro deadline k hk hsent
    unfold AgentConnection.guarded at hsent
    split at hsent
    · split at hsent
      · cases hsent
      · split at hsent
        · split at hsent
          · cases hsent
          · exact hk _ _ hsent
        · exact hk _ _ hsent
    · cases hsent
  unfold AgentConnection.onIdle at h
  split at h
  · cases h
  split at h
  · cases h
  split at h
  · refine guards _ _ (fun chan handle hsent => ?_) h
    unfold AgentConnection.awaitSnapshotIdle at hsent
    dsimp only at hsent
    split at hsent
    · cases hsent
    · next hpoll =>
      cases hsent
      exact Port.poll_tight P hpoll
    · split_ifs at hsent <;> cases hsent
  · refine guards _ _ (fun chan handle hsent => ?_) h
    unfold AgentConnection.liveIdle at hsent
    dsimp only at hsent
    split at hsent
    · cases hsent
    · next hpoll =>
      cases hsent
      exact Port.poll_tight P hpoll
    · cases hsent
  · cases h

section
variable [DecidableEq K] {P : KeySchedule K} {cfg : Config} {s s' : State K}

/-- Nothing the agent does hands the client's caller anything. -/
theorem beside_of_agent {a : Action} (agent : a.byAgent = true) (h : s.step P cfg a = some s') :
    Beside cfg.version s s' := by
  cases a with
  | route i now =>
    simp only [State.step] at h
    split at h
    · cases h
      exact .agentSide rfl rfl rfl rfl (List.Subset.refl _) (List.append_nil _).symm
        fun _ hd => (by cases hd)
    · cases h
  | completeHandshake i =>
    obtain ⟨c, res, -, -, -, rfl⟩ := State.step_completeHandshake h
    exact .agentSide rfl rfl rfl rfl (List.Subset.refl _) (List.append_nil _).symm
      fun _ hd => (by cases hd)
  | agentFrame i now =>
    obtain ⟨c, up, rest, -, -, -, head, rfl⟩ := State.step_agentFrame h
    rw [State.agentReturns_eq, State.sentOf_nil (AgentConnection.onFrame_silent P c s.agent now up.frame)]
    exact .agentSide rfl rfl rfl rfl (by rw [head]; exact List.subset_cons_self ..) rfl
      fun _ hd => (by cases hd)
  | agentIdle i now out scratch =>
    obtain ⟨c, -, -, rfl⟩ := State.step_agentIdle h
    rw [State.agentReturns_eq]
    refine .agentSide rfl rfl rfl rfl (List.Subset.refl _) rfl fun d hd => ?_
    obtain ⟨frame, hframe, rfl⟩ := List.mem_map.mp hd
    exact onIdle_tight P c s.agent now out scratch (sentOf_mem hframe)
  | supplySnapshot i now snapshot scrollbackLen flags =>
    simp only [State.step, Option.bind_eq_bind, Option.bind_eq_some_iff] at h
    obtain ⟨c, -, h⟩ := h
    cases h
    exact .agentSide rfl rfl rfl rfl (List.Subset.refl _) (List.append_nil _).symm
      fun _ hd => (by cases hd)
  | agentClose i now =>
    simp only [State.step, Option.bind_eq_bind, Option.bind_eq_some_iff] at h
    obtain ⟨c, -, h⟩ := h
    cases h
    exact .same rfl rfl rfl
  | agentWrite bytes =>
    simp only [State.step] at h
    split at h <;> cases h <;> exact .same rfl rfl rfl
  | inputDelivered | endSession | agentTimer =>
    cases h
    exact .same rfl rfl rfl
  | inputRejected i count now =>
    simp only [State.step, Option.bind_eq_bind, Option.bind_eq_some_iff] at h
    obtain ⟨c, -, h⟩ := h
    split at h
    · split at h <;> cases h <;> exact .same rfl rfl rfl
    · cases h
  | agentGates i sendOpen readOpen now =>
    cases h
    exact .agentSide rfl rfl rfl rfl (List.Subset.refl _) (List.append_nil _).symm
      fun _ hd => (by cases hd)
  | _ => cases agent

/-- A call that hands its caller no output and no snapshot. -/
def HandsNothing : Except SessionError (ConnectionEvent K) → Prop
  | .ok (.deliver _) => False
  | .ok (.applySnapshot ..) => False
  | _ => True

omit [DecidableEq K] in
/-- A call that hands nothing over returns neither bytes nor a snapshot. -/
lemma HandsNothing.empty {res : Except SessionError (ConnectionEvent K)} (h : HandsNothing res) :
    State.handedOf res = [] ∧ State.snapshotGenOf res = none := by
  cases res with
  | error e => exact ⟨rfl, rfl⟩
  | ok event =>
    cases event with
    | deliver | applySnapshot => exact h.elim
    | _ => exact ⟨rfl, rfl⟩

omit [DecidableEq K] in
/-- A call on the client's connection that hands its caller nothing, and the frame it sends. -/
lemma Beside.clientReturns {version i : Nat} {l : Link K} {res : ClientConnection.Pumped K}
    (nothing : HandsNothing res.1) (toAgent : l.toAgent = (s.links i).toAgent)
    (toClient : l.toClient = (s.links i).toClient)
    (pending : res.2.1.pendingApplyGen = (s.links i).client.pendingApplyGen)
    (grid : ∀ chan', res.2.1.channel = some chan' →
      chan'.grid.receiving = none ∧ chan'.grid.pendingApplied = none ∨
      ∃ chan, (s.links i).client.channel = some chan ∧ chan'.grid.receiving = chan.grid.receiving ∧
        ∀ gen, chan'.grid.pendingApplied = some gen → chan.grid.pendingApplied = some gen)
    (answers : ∀ frame, res.1 = .ok (.sendFrame frame) → ∀ g,
      Said.of version frame.body.plaintext = .gridApplied g →
      ∃ chan gen, (s.links i).client.channel = some chan ∧ chan.grid.pendingApplied = some gen ∧
        g = gen % 256 ^ 4) : Beside version s (s.clientReturns i l res) := by
  rw [State.clientReturns_eq]
  refine .put rfl ?_ rfl pending ?_ fun gens h => h.clientSide ((State.sentOf res.1).map
    fun frame => ⟨frame, s.cursorGen, s.client.streams.receiveOffset⟩) ?_ grid ?_ ?_
  · rw [State.putLink, nothing.empty.1, nothing.empty.2]
    exact List.append_nil _
  · exact toClient ▸ List.prefix_rfl
  · exact toClient ▸ List.Subset.refl _
  · exact congrArg (· ++ _) toAgent
  · rintro u hu
    obtain ⟨frame, hframe, rfl⟩ := List.mem_map.mp hu
    exact answers frame (sentOf_mem hframe)

/-- Between two frames the client hands its caller nothing. -/
lemma beside_clientIdle {now : Timestamp} {out scratch : Nat} (stored : (s.view cfg).Stored)
    (h : s.step P cfg (.clientIdle now out scratch) = some s') :
    Beside cfg.version s s' ∧ ∃ i, s.current = some i ∧
      HandsNothing ((s.links i).client.onIdle P s.client now out scratch).1 := by
  obtain ⟨i, hi, hfail, rfl⟩ := State.step_clientIdle h
  rcases ClientConnection.onIdle_cases P s.client now out scratch hfail with
    quiet | ⟨f, m, f', speaks⟩
  · have hnothing : HandsNothing ((s.links i).client.onIdle P s.client now out scratch).1 := by
      rcases quiet.result with hidle | ⟨e, he, -⟩
      · rw [hidle]
        trivial
      · rw [he]
        trivial
    refine ⟨.clientReturns hnothing rfl rfl quiet.same.2.2.2.1 (fun chan' hchan' => .inr ?_) ?_,
      i, hi, hnothing⟩
    · have hgrid := quiet.channel
      rw [hchan', Option.map_some] at hgrid
      obtain ⟨chan, hchan, heq⟩ := Option.map_eq_some_iff.mp hgrid.symm
      exact ⟨chan, hchan, by rw [heq], fun gen hgen => by rw [heq]; exact hgen⟩
    · intro frame hframe
      rcases quiet.result with hidle | ⟨e, he, -⟩
      · rw [hidle] at hframe
        cases hframe
      · rw [he] at hframe
        cases hframe
  · obtain ⟨frame, hres, hplain⟩ := speaks.frame
    obtain ⟨chan, hchan, rfl⟩ := speaks.before
    obtain ⟨chan', hchan', hgrid⟩ := speaks.channel
    have hnothing : HandsNothing ((s.links i).client.onIdle P s.client now out scratch).1 := by
      rw [hres]
      trivial
    refine ⟨.clientReturns hnothing rfl rfl speaks.same.2.2.2.1 ?_ ?_, i, hi, hnothing⟩
    · intro chan'' hchan''
      obtain rfl := Option.some.inj (hchan'.symm.trans hchan'')
      refine .inr ⟨chan, hchan, ?_⟩
      rw [hgrid]
      cases speaks.sends with
      | gridApplied => exact ⟨rfl, fun gen hgen => (by cases hgen)⟩
      | _ => exact ⟨rfl, fun gen hgen => hgen⟩
    · intro frame' hframe g hsaid
      obtain rfl := ConnectionEvent.sendFrame.inj (Except.ok.inj (hres.symm.trans hframe))
      have hsays := speaks.sends.spoken cfg.version stored.clientOut.size_le
      rw [← hplain, hsaid] at hsays
      cases hsays with
      | gridApplied client pending => exact ⟨chan, _, hchan, pending, rfl⟩
      | gridBegin _ _ _ said_eq => rcases said_eq with hsaid | hsaid <;> cases hsaid

/-- Sending a Resume touches nothing beside, and hands nothing over. -/
lemma beside_sendResume {now : Timestamp} {out : Nat}
    (h : s.step P cfg (.sendResume now out) = some s') :
    Beside cfg.version s s' ∧ ∃ i offset, s.current = some i ∧ (s.links i).authOk = some offset ∧
      HandsNothing ((s.links i).client.sendResume P s.client now out cfg.version
        (s.links i).serverNonce offset).1 := by
  obtain ⟨i, offset, hi, hfail, hoffset, rfl⟩ := State.step_sendResume h
  have fails : ∀ {res : ClientConnection.Pumped K} {e : SessionError}, res.1 = .error e →
      res.2.1.channel = (s.links i).client.channel →
      res.2.1.pendingApplyGen = (s.links i).client.pendingApplyGen →
      Beside cfg.version s (s.clientReturns i { s.links i with authOk := none } res) ∧
        HandsNothing res.1 := by
    intro res e he hchannel hpending
    have hnothing : HandsNothing res.1 := by
      rw [he]
      trivial
    refine ⟨.clientReturns hnothing rfl rfl hpending (fun chan' hchan' => .inr ?_) ?_, hnothing⟩
    · exact ⟨chan', hchannel ▸ hchan', rfl, fun _ hgen => hgen⟩
    · intro frame hframe
      rw [he] at hframe
      cases hframe
  have hboth : ∀ {res : ClientConnection.Pumped K},
      ClientConnection.ResumeSent P (s.links i).client s.client out cfg.version (s.links i).serverNonce
        offset res → Beside cfg.version s (s.clientReturns i { s.links i with authOk := none } res) ∧
        HandsNothing res.1 := by
    intro res hres
    cases hres with
    | refused _ _ _ channel _ _ same result => exact fails result channel same.2.2.1
    | stuck _ _ _ _ channel _ _ same result => exact fails result.choose_spec.1 channel same.2.2.1
    | sent _ _ _ _ channel _ same result plain =>
      obtain ⟨chan', hchan', hgrid⟩ := channel
      have hnothing : HandsNothing res.1 := by
        rw [result]
        trivial
      refine ⟨.clientReturns hnothing rfl rfl same.2.2.2.1 ?_ ?_, hnothing⟩
      · intro chan hchan
        obtain rfl := Option.some.inj (hchan'.symm.trans hchan)
        rw [hgrid]
        exact .inl ⟨rfl, rfl⟩
      · intro frame hframe g hsaid
        rw [result] at hframe
        obtain rfl := ConnectionEvent.sendFrame.inj (Except.ok.inj hframe)
        rw [plain] at hsaid
        cases hsaid
  obtain ⟨hbeside, hnothing⟩ := hboth (ClientConnection.sendResume_cases P s.client now hfail out
    cfg.version (s.links i).serverNonce offset)
  exact ⟨hbeside, i, offset, hi, hoffset, hnothing⟩

omit [DecidableEq K] in
/-- A change of the client's channel that is no matter to the snapshots. -/
lemma beside_onClientChannel (version : Nat) (s : State K) {f : Channel K → Channel K}
    (grid : ∀ chan, (f chan).grid = chan.grid) : Beside version s (s.onClientChannel f) := by
  unfold State.onClientChannel
  split
  · next i _ =>
    refine .put rfl rfl rfl rfl List.prefix_rfl fun gens h => h.clientSide []
      (List.Subset.refl _) (fun chan' hchan' => ?_) (List.append_nil _).symm fun _ hu => (by cases hu)
    obtain ⟨chan, hchan, rfl⟩ := Option.map_eq_some_iff.mp hchan'
    exact .inr ⟨chan, hchan, by rw [grid], fun gen hgen => by rw [← grid]; exact hgen⟩
  · exact .same rfl rfl rfl

/-- Queueing a size touches nothing beside. -/
lemma beside_queueResize {size : ResizeMessage} (h : s.step P cfg (.queueResize size) = some s') :
    Beside cfg.version s s' := by
  simp only [State.step, Option.bind_eq_bind, Option.bind_eq_some_iff] at h
  obtain ⟨i, -, h⟩ := h
  cases h
  unfold ClientConnection.queueResize
  split
  · next chan hchan =>
    refine .put rfl rfl rfl rfl List.prefix_rfl fun gens h => h.clientSide []
      (List.Subset.refl _) ?_ (List.append_nil _).symm fun _ hu => (by cases hu)
    rintro chan' ⟨⟩
    exact .inr ⟨chan, hchan, rfl, fun _ hgen => hgen⟩
  · next hnone =>
    refine .put rfl rfl rfl rfl List.prefix_rfl fun gens h => h.clientSide []
      (List.Subset.refl _) (fun chan' hchan' => ?_) (List.append_nil _).symm fun _ hu => (by cases hu)
    exact .inr ⟨chan', hchan', rfl, fun _ hgen => hgen⟩

omit [DecidableEq K] in
/-- Dropping a connection does not. -/
lemma beside_dropClient (version : Nat) (s : State K) (now : Timestamp) :
    Beside version s (s.dropClient now) := by
  unfold State.dropClient
  split <;> exact .same rfl rfl rfl

/-- Writing does not. -/
lemma beside_clientWrite {bytes : Bytes} (h : s.step P cfg (.clientWrite bytes) = some s') :
    Beside cfg.version s s' := by
  simp only [State.step] at h
  split at h <;> cases h <;> exact .same rfl rfl rfl

omit [DecidableEq K] in
/-- A connection the client has just made. -/
lemma Link.Sound.fresh (version : Nat) (gens : List Nat) (client : ClientSession K)
    (clientNonce serverNonce : Nat) (now : Timestamp) (snapshotBuf : Bytes) :
    Link.Sound version gens
      { client := .create client clientNonce now snapshotBuf, serverNonce := serverNonce
        agent := none, authOk := none, toAgent := [], toClient := [] } :=
  ⟨fun _ hd => (by cases hd), fun _ hchan => (by cases hchan), fun _ hu => (by cases hu),
    fun _ hchan => (by cases hchan)⟩

/-- The client opens a connection on which nothing has come yet. -/
lemma step_clientOpen {clientNonce serverNonce : Nat} {snapshotBuf : Bytes} {now : Timestamp}
    (h : s.step P cfg (.clientOpen clientNonce serverNonce snapshotBuf now) = some s') :
    ∃ i, s'.current = some i ∧ s'.clientGot = s.clientGot ∧ (s'.links i).toClient = [] ∧
      (s'.links i).client.pendingApplyGen = none ∧
      ∀ j gens, (s.links j).Sound cfg.version gens → (s'.links j).Sound cfg.version gens := by
  cases h
  have hbeside := beside_dropClient cfg.version s now
  refine ⟨(s.dropClient now).opened, if_neg (Nat.succ_ne_zero _), hbeside.got, ?_, ?_,
    fun j gens hsound => ?_⟩
  · simp [State.putLink]
  · simp [State.putLink, ClientConnection.create]
  · by_cases hj : j = (s.dropClient now).opened
    · subst hj
      simp only [State.putLink, Function.update_self]
      exact .fresh ..
    · simp only [State.putLink, Function.update_of_ne hj]
      exact hbeside.sound j gens hsound

/-- The caller confirms the snapshot it was given. -/
lemma step_confirmApply {gen i : Nat} (current : s.current = some i)
    (pending : (s.links i).client.pendingApplyGen = some gen)
    (h : s.step P cfg (.confirmApply gen) = some s') :
    s'.opened = s.opened ∧ s'.clientGot = s.clientGot ∧
      (s'.links i).client.pendingApplyGen = none ∧ (s'.links i).toClient = (s.links i).toClient ∧
      ∀ j gens, (s.links j).Sound cfg.version gens → (s'.links j).Sound cfg.version (gen :: gens) := by
  simp only [State.step, Option.bind_eq_bind, Option.bind_eq_some_iff] at h
  obtain ⟨k, hk, h⟩ := h
  obtain rfl := Option.some.inj (current.symm.trans hk)
  cases h
  have hres : ((s.links i).client.confirmApply s.client gen).1 = { (s.links i).client with
      pendingApplyGen := none
      channel := (s.links i).client.channel.map fun chan => Channel.queueGridApplied chan gen } := by
    unfold ClientConnection.confirmApply
    rw [if_neg (not_not_intro pending)]
    dsimp only
    split
    · split <;> rfl
    · rfl
  refine ⟨rfl, rfl, ?_, ?_, fun j gens hsound => ?_⟩
  · simp [State.putLink, hres]
  · simp [State.putLink]
  · by_cases hj : j = i
    · subst hj
      have hmono := hsound.mono (List.subset_cons_self gen gens)
      simp only [State.putLink, Function.update_self, hres]
      refine ⟨hmono.tight, fun chan' hchan' => ?_, hmono.sent, fun chan' hchan' gen' hgen => ?_⟩
      · obtain ⟨chan, hchan, rfl⟩ := Option.map_eq_some_iff.mp hchan'
        unfold Channel.queueGridApplied
        split <;> exact hsound.capped chan hchan
      · obtain ⟨chan, hchan, rfl⟩ := Option.map_eq_some_iff.mp hchan'
        unfold Channel.queueGridApplied at hgen
        split at hgen
        · exact hmono.unsent chan hchan gen' hgen
        · cases hgen
          exact List.mem_cons_self
    · simp only [State.putLink, Function.update_of_ne hj]
      exact hsound.mono (List.subset_cons_self gen gens)

/-- A frame leaves the snapshot that is coming in within what the wire allows, and so is one that is whole. -/
lemma onFrame_allows (P : KeySchedule K) {c : ClientConnection K} (client : ClientSession K)
    (now : Timestamp) (frame : FrameView K) (hfail : c.failed = none)
    (capped : ∀ chan, c.channel = some chan → chan.grid.Capped) :
    (∀ chan, (c.onFrame P client now frame).2.1.channel = some chan → chan.grid.Capped) ∧
      ∀ bytes gen scrollbackLen flags,
        (c.onFrame P client now frame).1 = .ok (.applySnapshot bytes gen scrollbackLen flags) →
        bytes.length ≤ snapshotMaxBytes := by
  rcases ClientConnection.guarded_cases client now (fun chan => c.liveFrame P client chan now frame)
    hfail with turned | ⟨chan, hchan, -, heq⟩
  · refine ⟨fun chan' hchan' => ?_, fun bytes gen n flags hres => ?_⟩
    · have hgrid := turned.channel
      rw [← ClientConnection.onFrame, hchan', Option.map_some] at hgrid
      obtain ⟨chan, hchan, hsame⟩ := Option.map_eq_some_iff.mp hgrid.symm
      rw [← hsame]
      exact capped chan hchan
    · rw [ClientConnection.onFrame] at hres
      rcases turned.result with hidle | ⟨e, he, -⟩
      · rw [hidle] at hres
        cases hres
      · rw [he] at hres
        cases hres
  · rw [ClientConnection.onFrame, heq]
    have hallows := Port.receive_allows P (p := ClientConnection.port chan client) (capped chan hchan)
      now frame
    unfold ClientConnection.liveFrame
    dsimp only
    rcases hres : (ClientConnection.port chan client).receive P now frame with ⟨event, p⟩
    rw [hres] at hallows
    have hcapped : ∀ chan', some p.chan = some chan' → chan'.grid.Capped := by
      rintro chan' ⟨⟩
      exact hallows.capped
    cases event with
    | error e => exact ⟨hcapped, fun _ _ _ _ h => (by cases h)⟩
    | ok event =>
      cases event with
      | gridSnapshot bytes gen n flags =>
        refine ⟨hcapped, fun _ _ _ _ h => ?_⟩
        cases h
        exact hallows.whole _ _ _ _ rfl
      | sessionEnd message =>
        dsimp only
        split <;> exact ⟨hcapped, fun _ _ _ _ h => (by cases h)⟩
      | _ => exact ⟨hcapped, fun _ _ _ _ h => (by cases h)⟩

/-- What the client's call on a frame returned, by what the frame said. -/
inductive Handed (version : Nat) (frame : FrameView K) (got : Bytes) (pending : Option Nat) :
    Except SessionError (ConnectionEvent K) → Bytes → Option Nat → Prop
  | nothing {res : Except SessionError (ConnectionEvent K)} (nothing : HandsNothing res) :
      Handed version frame got pending res got pending
  | bytes (bytes : Bytes) (length : bytes.length ≤ frame.body.plaintext.length)
      (data : (segmentOf (.of version frame.body.plaintext)).isSome) :
      Handed version frame got pending (.ok (.deliver bytes)) (got ++ bytes) pending
  | snapshot (bytes : Bytes) (gen scrollbackLen flags : Nat) (length : bytes.length ≤ snapshotMaxBytes)
      (gridEnd : Said.of version frame.body.plaintext = .gridEnd) :
      Handed version frame got pending (.ok (.applySnapshot bytes gen scrollbackLen flags)) [] (some gen)

/-- The client takes the next frame of its connection. -/
lemma step_clientFrame_handed {now : Timestamp} {i : Nat} {down : Downward K} {rest : List (Downward K)}
    (current : s.current = some i) (head : (s.links i).toClient = down :: rest)
    (h : s.step P cfg (.clientFrame now) = some s') {gens : List Nat}
    (sound : ∀ j, (s.links j).Sound cfg.version gens) :
    s'.opened = s.opened ∧ (s'.links i).toClient = rest ∧
      (∀ j, (s'.links j).Sound cfg.version gens) ∧
      Handed cfg.version down.frame s.clientGot (s.links i).client.pendingApplyGen
        ((s.links i).client.onFrame P s.client now down.frame).1 s'.clientGot
        (s'.links i).client.pendingApplyGen := by
  obtain ⟨k, down', rest', hk, hfail, -, hhead, rfl⟩ := State.step_clientFrame h
  obtain rfl := Option.some.inj (current.symm.trans hk)
  obtain ⟨rfl, rfl⟩ := List.cons.inj (head.symm.trans hhead)
  obtain ⟨hcapped, hlength⟩ := onFrame_allows P s.client now
    down.frame hfail (sound i).capped
  have hcases := ClientConnection.onFrame_cases P s.client now down.frame hfail
  rw [State.clientReturns_eq]
  generalize hres : (s.links i).client.onFrame P s.client now down.frame = res at hcases hcapped hlength
  -- no frame goes out at once, and no answer is queued by a frame that comes in
  have hsilent : State.sentOf res.1 = [] := by
    rcases hcases with turned | ⟨f, out, carried⟩
    · rcases turned.result with hidle | ⟨e, he, -⟩ <;> simp [State.sentOf, *]
    · rcases carried.result with ⟨e, -, he, -⟩ | ⟨event, -, he, -⟩
      · simp [State.sentOf, he]
      · rw [he]
        refine State.sentOf_nil fun frame => ?_
        cases event with
        | sessionEnd message =>
          rw [ClientConnection.eventOf]
          split <;> exact fun h => (by cases h)
        | _ => exact fun h => (by cases h)
  have hunsent : ∀ chan', res.2.1.channel = some chan' → ∀ gen, chan'.grid.pendingApplied = some gen →
      gen ∈ gens := by
    intro chan' hchan' gen hgen
    rcases hcases with turned | ⟨f, out, carried⟩
    · have hgrid := turned.channel
      rw [hchan', Option.map_some] at hgrid
      obtain ⟨chan, hchan, hsame⟩ := Option.map_eq_some_iff.mp hgrid.symm
      exact (sound i).unsent chan hchan gen (hsame ▸ hgen)
    · obtain ⟨chan, hchan, rfl⟩ := carried.before
      obtain ⟨chan'', hchan'', hgrid⟩ := carried.channel
      obtain rfl := Option.some.inj (hchan''.symm.trans hchan')
      rw [hgrid, (Face.hears_clientGrid (carried.hears cfg.version)).2.1] at hgen
      exact (sound i).unsent chan hchan gen hgen
  refine ⟨rfl, by simp [State.putLink, hsilent], fun j => ?_, ?_⟩
  · by_cases hj : j = i
    · subst hj
      simp only [State.putLink, Function.update_self, hsilent, List.map_nil, List.append_nil]
      refine ⟨fun d hd => (sound j).tight d ?_, hcapped, (sound j).sent, hunsent⟩
      rw [head]
      exact List.mem_cons_of_mem _ hd
    · simp only [State.putLink, Function.update_of_ne hj]
      exact sound j
  · simp only [State.putLink, Function.update_self]
    rcases hcases with turned | ⟨f, out, carried⟩
    · have hnothing : HandsNothing res.1 := by
        rcases turned.result with hidle | ⟨e, he, -⟩
        · rw [hidle]
          trivial
        · rw [he]
          trivial
      rw [hnothing.empty.1, hnothing.empty.2, turned.same.2.2.2.1]
      simpa using .nothing hnothing
    · have hhears := carried.hears cfg.version
      rcases carried.result with ⟨e, -, he, -, -, -, hpending⟩ | ⟨event, hout, he, -, -, -, hpending⟩
      · rw [hpending, he]
        simpa [State.handedOf, State.snapshotGenOf] using .nothing trivial
      · rw [hpending, he]
        rw [he] at hlength
        cases event with
        | data bytes tail =>
          obtain ⟨hle, a, o, p, hsaid⟩ := Face.hears_delivers hhears hout
          exact .bytes bytes hle (by rw [hsaid]; rfl)
        | gridSnapshot bytes gen n flags =>
          refine .snapshot bytes gen n flags (hlength _ _ _ _ rfl) ?_
          exact (Face.hears_clientGrid hhears).2.2 (by rw [hout]; rfl)
        | sessionEnd message =>
          rw [ClientConnection.eventOf]
          split <;> simpa [State.handedOf, State.snapshotGenOf] using .nothing trivial
        | _ => simpa [ClientConnection.eventOf, State.handedOf, State.snapshotGenOf] using
            .nothing trivial

end

end

end Zet.Net
