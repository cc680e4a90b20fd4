import Zet.Net.Landing

/-!
# While a snapshot is unanswered

From the choice of a snapshot until the client has answered for it, nothing else of the session comes to
the client on that connection: no data, and no other snapshot. `LinkView.Quiet` is the invariant of one
connection, kept by every move (`View.Quiet.move`) whatever the order of the Resumes and however many
generations there were; `LinkView.Quiet.unanswered` is what a client that holds a snapshot can rely on.

The other thing the client's caller relies on is beside it: the cursor counts the bytes it was given, and
no others (`View.Counted`).
-/

namespace Zet.Net
open Zet.Core Zet.Wire Zet.Lib Zet.Session

/-- The agent's end has a GridEnd yet to send. -/
def LinkView.owes (l : LinkView) : Bool :=
  l.waiting || (l.agentGrid.bind GridState.emitting).isSome

/-- The snapshots the client has to answer for on this connection: with it, on their way or to be sent. -/
def LinkView.due (l : LinkView) : Nat :=
  l.toClient.countP (·.said = .gridEnd) + l.owes.toNat + l.pendingApply.isSome.toNat

/-- No GridApplied is on its way, or waits to be sent. -/
structure LinkView.Unanswered (l : LinkView) : Prop where
  sent : ∀ u ∈ l.toAgent, ∀ gen, u.said ≠ .gridApplied gen
  unsent : ∀ g, l.clientGrid = some g → g.pendingApplied = none

/-- One snapshot at a time is to be answered for, and while one is no data comes with it. -/
structure LinkView.Quiet (l : LinkView) : Prop where
  agent : ∀ g, l.agentGrid = some g → g.role = .agent ∧ (g.emitting.isSome → g.awaitingApplied = true)
  client : ∀ g, l.clientGrid = some g → g.role = .client
  waiting : l.waiting = true → ∃ g, l.agentGrid = some g ∧ g.awaitingSupply = true ∧
    g.emitting = none ∧ g.awaitingApplied = false
  dataless : ∀ g, l.agentGrid = some g → g.Suppressed → ∀ d ∈ l.toClient, segmentOf d.said = none
  one : l.due ≤ 1
  open_ : l.due = 1 → l.Unanswered ∧
    (l.waiting = true ∨ ∃ g, l.agentGrid = some g ∧ g.awaitingApplied = true)
  unattached : l.agentGrid = none → l.pendingApply = none ∧ l.Unanswered

/-- What the client is told while it has a snapshot to answer for. -/
lemma LinkView.Quiet.unanswered {l : LinkView} (h : l.Quiet) (pending : l.pendingApply.isSome) :
    ∀ d ∈ l.toClient, segmentOf d.said = none ∧ d.said ≠ .gridEnd := by
  have hone := h.one
  have hdue : l.due = 1 := by
    rw [LinkView.due, pending] at hone ⊢
    simp only [Bool.toNat_true] at hone ⊢
    omega
  have hrest : l.toClient.countP (·.said = .gridEnd) = 0 ∧ l.owes = false := by
    rw [LinkView.due, pending] at hdue
    simp only [Bool.toNat_true] at hdue
    refine ⟨by omega, ?_⟩
    cases howes : l.owes with
    | false => rfl
    | true => simp [howes] at hdue
  obtain ⟨-, hwait | ⟨g, hg, hawait⟩⟩ := h.open_ hdue
  · simp [LinkView.owes, hwait] at hrest
  · intro d hd
    refine ⟨h.dataless g hg ⟨(h.agent g hg).1, .inr (.inl hawait)⟩ d hd, ?_⟩
    simpa using List.countP_eq_zero.mp hrest.1 d hd

/-- Every connection is quiet. -/
def View.Quiet (v : View) : Prop := ∀ i, (v.links i).Quiet

section
variable {cfg : Config} {v v' : View} {m : Mark}

/-- Changing one connection keeps the others quiet. -/
lemma View.Quiet.put (h : v.Quiet) {i : Nat} {l : LinkView}
    (links : v'.links = Function.update v.links i l) (hl : l.Quiet) : v'.Quiet :=
  View.forall_links (p := fun _ l => l.Quiet) links hl fun j _ => h j

/-- What neither end says or hears of a snapshot. -/
lemma LinkView.Quiet.same {l l' : LinkView} (h : l.Quiet) (agentGrid : l'.agentGrid = l.agentGrid)
    (clientGrid : l'.clientGrid = l.clientGrid) (waiting : l'.waiting = l.waiting)
    (pending : l'.pendingApply = l.pendingApply) (toAgent : l'.toAgent ⊆ l.toAgent)
    (toClient : l'.toClient.Sublist l.toClient) : l'.Quiet := by
  have howes : l'.owes = l.owes := by rw [LinkView.owes, LinkView.owes, agentGrid, waiting]
  have hdue : l'.due ≤ l.due := by
    rw [LinkView.due, LinkView.due, howes, pending]
    have := toClient.countP_le (p := fun d : Down => decide (d.said = .gridEnd))
    omega
  have hanswer : l.Unanswered → l'.Unanswered := by
    intro hopen
    refine ⟨fun u hu => hopen.sent u (toAgent hu), ?_⟩
    rw [clientGrid]
    exact hopen.unsent
  refine ⟨by rw [agentGrid]; exact h.agent, by rw [clientGrid]; exact h.client,
    by rw [waiting, agentGrid]; exact h.waiting, ?_, hdue.trans h.one, fun hone => ?_, ?_⟩
  · rw [agentGrid]
    exact fun g hg hsup d hd => h.dataless g hg hsup d (toClient.subset hd)
  · have hwas : l.due = 1 := by
      have := h.one
      omega
    obtain ⟨hopen, hagent⟩ := h.open_ hwas
    rw [waiting, agentGrid]
    exact ⟨hanswer hopen, hagent⟩
  · rw [agentGrid, pending]
    exact fun hnone => ⟨(h.unattached hnone).1, hanswer (h.unattached hnone).2⟩

/-- A connection attaches with nothing on its way to the client. -/
lemma LinkView.Quiet.attach {l : LinkView} (h : l.Quiet) (staged : l.Staged) (first : l.agentGrid = none)
    (version : Nat) {snapshot waiting : Bool} (chosen : waiting = snapshot) {up : Up} {rest : List Up}
    (head : l.toAgent = up :: rest) :
    ({ l with
      toAgent := rest
      agentGrid := some (AgentConnection.freshGrid version snapshot)
      waiting := waiting } : LinkView).Quiet := by
  subst chosen
  obtain ⟨hpending, hopen⟩ := h.unattached first
  have hsilent := staged.silent first
  have hdue : ({ l with
      toAgent := rest
      agentGrid := some (AgentConnection.freshGrid version waiting)
      waiting := waiting } : LinkView).due = waiting.toNat := by
    simp [LinkView.due, LinkView.owes, hsilent, hpending, AgentConnection.freshGrid]
  have hopen' : ({ l with
      toAgent := rest
      agentGrid := some (AgentConnection.freshGrid version waiting)
      waiting := waiting } : LinkView).Unanswered :=
    ⟨fun u hu => hopen.sent u (by rw [head]; exact List.mem_cons_of_mem _ hu), hopen.unsent⟩
  refine ⟨?_, h.client, ?_, ?_, ?_, fun hone => ⟨hopen', .inl ?_⟩, fun hnone => (by cases hnone)⟩
  · rintro g ⟨⟩
    exact ⟨rfl, fun hsome => (by cases hsome)⟩
  · intro hwait
    exact ⟨_, rfl, hwait, rfl, rfl⟩
  · rintro g - - d hd
    have hd : d ∈ l.toClient := hd
    rw [hsilent] at hd
    cases hd
  · rw [hdue]
    exact Bool.toNat_le waiting
  · rw [hdue] at hone
    exact Bool.toNat_eq_one.mp hone

/-- A client hears a snapshot whole only by its GridEnd, and answers for none by what it hears. -/
lemma Face.hears_clientGrid {f : Face} {said : Said} {out : Except SessionError IncomingEvent × Face}
    (h : f.Hears said out) :
    out.2.grid.role = f.grid.role ∧ out.2.grid.pendingApplied = f.grid.pendingApplied ∧
      ((snapshotOf out.1).isSome → said = .gridEnd) := by
  cases h with
  | data => exact ⟨by simp, by simp, fun hsome => (by rw [Face.hearData_snapshot] at hsome; cases hsome)⟩
  | ack => exact ⟨by simp, by simp, fun hsome => (by rw [Face.hearAck_snapshot] at hsome; cases hsome)⟩
  | gridEnd => exact ⟨rfl, rfl, fun _ => rfl⟩
  | _ => exact ⟨rfl, rfl, fun hsome => (by cases hsome)⟩

/-- A connection that has not attached owes no snapshot. -/
lemma LinkView.Quiet.owes_of_unattached {l : LinkView} (h : l.Quiet) (first : l.agentGrid = none) :
    l.owes = false := by
  have hwait : l.waiting = false := by
    by_contra hwait
    obtain ⟨g, hg, -⟩ := h.waiting (by simpa using hwait)
    rw [first] at hg
    cases hg
  simp [LinkView.owes, hwait, first]

/-- An end that waits for a snapshot emits none. -/
lemma LinkView.Quiet.not_waiting {l : LinkView} (h : l.Quiet) {g : GridState}
    (grid : l.agentGrid = some g) (busy : g.emitting.isSome ∨ g.awaitingApplied = true) :
    l.waiting = false := by
  by_contra hwait
  obtain ⟨g', hg', -, hemit, hawait⟩ := h.waiting (by simpa using hwait)
  obtain rfl := Option.some.inj (grid.symm.trans hg')
  rcases busy with hbusy | hbusy
  · rw [hemit] at hbusy
    cases hbusy
  · rw [hawait] at hbusy
    cases hbusy

/-- A connection stays quiet when the agent hears a frame. -/
lemma LinkView.Quiet.agentHears {l : LinkView} (h : l.Quiet) {up : Up} {rest : List Up} {f : Face}
    {out : Except SessionError IncomingEvent × Face} {dead : Bool} (head : l.toAgent = up :: rest)
    (grid : l.agentGrid = some f.grid) (hears : f.Hears up.said out) :
    ({ l with toAgent := rest, agentGrid := some out.2.grid, agentDead := dead } : LinkView).Quiet := by
  have hrole := (h.agent f.grid grid).1
  rcases Face.hears_agentGrid hears hrole with heq | ⟨hsaid, hawait, hidle, heq⟩
  · rw [heq, ← grid]
    exact h.same rfl rfl rfl rfl (by rw [head]; exact List.subset_cons_self ..) (.refl _)
  · -- the GridApplied it was waiting for: nothing was to be answered for any more
    have hnot : l.due ≠ 1 := by
      intro hone
      refine (h.open_ hone).1.sent up ?_ _ hsaid
      rw [head]
      exact List.mem_cons_self
    have hwait := h.not_waiting grid (.inr hawait)
    have hdue : ({ l with toAgent := rest, agentGrid := some out.2.grid, agentDead := dead } :
        LinkView).due = l.due := by
      simp [LinkView.due, LinkView.owes, heq, grid, hidle]
    refine ⟨?_, h.client, fun hw => ?_, ?_, hdue.trans_le h.one, fun hone => absurd (hdue.symm.trans hone) hnot,
      fun hnone => (by cases hnone)⟩
    · rintro g ⟨⟩
      rw [heq]
      exact ⟨hrole, fun hsome => (by rw [hidle] at hsome; cases hsome)⟩
    · exact absurd (hwait.symm.trans hw) (by decide)
    · rintro g ⟨⟩ - d hd
      exact h.dataless f.grid grid ⟨hrole, .inr (.inl hawait)⟩ d hd

/-- What an agent says is the end of the snapshot it was emitting, or leaves that exchange alone. -/
lemma Face.says_emission {f f' : Face} {said : Said} (h : f.Says said f') (agent : f.grid.role = .agent) :
    f'.grid.role = .agent ∧
      (said ≠ .gridEnd ∧ f'.grid.emitting.isSome = f.grid.emitting.isSome ∧
          f'.grid.awaitingApplied = f.grid.awaitingApplied ∨
        said = .gridEnd ∧ f.grid.emitting.isSome = true ∧ f'.grid.emitting = none ∧
          f'.grid.awaitingApplied = true) := by
  cases h with
  | data => exact ⟨agent, .inl ⟨fun hsaid => (by cases hsaid), rfl, rfl⟩⟩
  | blank => exact ⟨agent, .inl ⟨fun hsaid => (by cases hsaid), rfl, rfl⟩⟩
  | ack => exact ⟨agent, .inl ⟨fun hsaid => (by cases hsaid), rfl, rfl⟩⟩
  | other => exact ⟨agent, .inl ⟨fun hsaid => (by cases hsaid), rfl, rfl⟩⟩
  | gridApplied client =>
    rw [agent] at client
    cases client
  | gridBegin _ emitting _ said_eq =>
    refine ⟨agent, .inl ⟨?_, by rw [emitting]; rfl, rfl⟩⟩
    rcases said_eq with rfl | rfl <;> exact fun hsaid => (by cases hsaid)
  | gridChunk _ emitting =>
    exact ⟨agent, .inl ⟨fun hsaid => (by cases hsaid), by rw [emitting]; rfl, rfl⟩⟩
  | gridEnd _ emitting => exact ⟨agent, .inr ⟨rfl, by rw [emitting]; rfl, rfl, rfl⟩⟩

/-- It does when the agent says anything. -/
lemma LinkView.Quiet.agentSays {l : LinkView} (h : l.Quiet) {d : Down} {f f' : Face}
    (grid : l.agentGrid = some f.grid) (speech : f.Says d.said f') :
    ({ l with agentGrid := some f'.grid, toClient := l.toClient ++ [d] } : LinkView).Quiet := by
  obtain ⟨hrole, hemits⟩ := h.agent f.grid grid
  obtain ⟨-, hsupply, hsup⟩ := Face.says_agentGrid speech
  obtain ⟨hrole', hcases⟩ := Face.says_emission speech hrole
  -- the count of the GridEnd moves from the agent's end to the connection
  have hdue : ({ l with agentGrid := some f'.grid, toClient := l.toClient ++ [d] } : LinkView).due =
      l.due := by
    rcases hcases with ⟨hsaid, hemit, -⟩ | ⟨hsaid, hemit, hemit', -⟩
    · simp [LinkView.due, LinkView.owes, grid, hsaid, hemit]
    · have hwait := h.not_waiting grid (.inl hemit)
      simp [LinkView.due, LinkView.owes, grid, hsaid, hemit, hemit', hwait]
  have hawait : f.grid.awaitingApplied = true → f'.grid.awaitingApplied = true := by
    rcases hcases with ⟨-, -, hsame⟩ | ⟨-, -, -, hset⟩
    · exact fun hwas => hsame.trans hwas
    · exact fun _ => hset
  refine ⟨?_, h.client, fun hwait => ?_, ?_, hdue.trans_le h.one, fun hone => ?_,
    fun hnone => (by cases hnone)⟩
  · rintro _ ⟨⟩
    refine ⟨hrole', fun hsome => ?_⟩
    rcases hcases with ⟨-, hemit, -⟩ | ⟨-, -, hemit', -⟩
    · exact hawait (hemits (hemit ▸ hsome))
    · rw [hemit'] at hsome
      cases hsome
  · obtain ⟨g, hg, hsup', hidle, hnot⟩ := h.waiting hwait
    obtain rfl := Option.some.inj (grid.symm.trans hg)
    rcases hcases with ⟨-, hemit, hsame⟩ | ⟨-, hemit, -⟩
    · refine ⟨_, rfl, hsupply.trans hsup', ?_, hsame.trans hnot⟩
      rw [hidle] at hemit
      exact Option.not_isSome_iff_eq_none.mp (by rw [hemit]; exact Bool.false_ne_true)
    · rw [hidle] at hemit
      cases hemit
  · rintro _ ⟨⟩ hsup' e he
    rcases List.mem_append.mp he with he | he
    · exact h.dataless f.grid grid (hsup hsup').1 e he
    · obtain rfl := List.mem_singleton.mp he
      exact (hsup hsup').2
  · obtain ⟨hopen, hagent⟩ := h.open_ (hdue.symm.trans hone)
    refine ⟨⟨hopen.sent, hopen.unsent⟩, ?_⟩
    rcases hagent with hwait | ⟨g, hg, hwas⟩
    · exact .inl hwait
    · obtain rfl := Option.some.inj (grid.symm.trans hg)
      exact .inr ⟨_, rfl, hawait hwas⟩

/-- It does when a snapshot is supplied. -/
lemma LinkView.Quiet.supplied {l : LinkView} (h : l.Quiet) {g : GridState} {ge : GridEmission} {gen : Nat}
    (waiting : l.waiting = true) (grid : l.agentGrid = some g) (supply : g.awaitingSupply = true) :
    ({ l with
      agentGrid := some { g with
        emitting := some ge, awaitingApplied := true, expectedGen := gen, awaitingSupply := false }
      waiting := false } : LinkView).Quiet := by
  have hrole := (h.agent g grid).1
  have hdue : ({ l with
      agentGrid := some { g with
        emitting := some ge, awaitingApplied := true, expectedGen := gen, awaitingSupply := false }
      waiting := false } : LinkView).due = l.due := by
    simp [LinkView.due, LinkView.owes, waiting]
  refine ⟨?_, h.client, fun hw => (by cases hw), ?_, hdue.trans_le h.one, fun hone => ?_,
    fun hnone => (by cases hnone)⟩
  · rintro _ ⟨⟩
    exact ⟨hrole, fun _ => rfl⟩
  · rintro _ ⟨⟩ - d hd
    exact h.dataless g grid ⟨hrole, .inr (.inr supply)⟩ d hd
  · obtain ⟨hopen, -⟩ := h.open_ (hdue.symm.trans hone)
    exact ⟨⟨hopen.sent, hopen.unsent⟩, .inr ⟨_, rfl, rfl⟩⟩

/-- It does when the client hears a frame. -/
lemma LinkView.Quiet.clientHears {l : LinkView} (h : l.Quiet) (staged : l.Staged) {down : Down}
    {rest : List Down} {f : Face} {out : Except SessionError IncomingEvent × Face} {dead : Bool}
    (head : l.toClient = down :: rest) (grid : l.clientGrid = some f.grid)
    (hears : f.Hears down.said out) :
    ({ l with
      toClient := rest, clientGrid := some out.2.grid, clientDead := dead
      pendingApply := (snapshotOf out.1).or l.pendingApply } : LinkView).Quiet := by
  obtain ⟨hrole, hanswer, hsnap⟩ := Face.hears_clientGrid hears
  have hone := h.one
  have hdue : ({ l with
      toClient := rest, clientGrid := some out.2.grid, clientDead := dead
      pendingApply := (snapshotOf out.1).or l.pendingApply } : LinkView).due ≤ l.due := by
    have hcount : l.toClient.countP (·.said = .gridEnd) =
        rest.countP (·.said = .gridEnd) + (decide (down.said = .gridEnd)).toNat := by
      rw [head, List.countP_cons]
      by_cases hsaid : down.said = .gridEnd <;> simp [hsaid]
    show rest.countP (·.said = .gridEnd) + l.owes.toNat +
      ((snapshotOf out.1).or l.pendingApply).isSome.toNat ≤ _
    rw [LinkView.due, hcount]
    cases hs : snapshotOf out.1 with
    | none =>
      rw [Option.none_or]
      omega
    | some gen =>
      rw [hsnap (by rw [hs]; rfl)]
      simp only [Option.some_or, Option.isSome_some, decide_true, Bool.toNat_true]
      omega
  have hopen : l.Unanswered → ({ l with
      toClient := rest, clientGrid := some out.2.grid, clientDead := dead
      pendingApply := (snapshotOf out.1).or l.pendingApply } : LinkView).Unanswered := by
    intro hopen
    refine ⟨hopen.sent, ?_⟩
    rintro _ ⟨⟩
    exact hanswer.trans (hopen.unsent _ grid)
  refine ⟨h.agent, ?_, h.waiting, ?_, hdue.trans hone, fun hnow => ?_, fun hnone => ?_⟩
  · rintro _ ⟨⟩
    exact hrole.trans (h.client _ grid)
  · intro g hg hsup d hd
    exact h.dataless g hg hsup d (by rw [head]; exact List.mem_cons_of_mem _ hd)
  · obtain ⟨hwas, hagent⟩ := h.open_ (by omega)
    exact ⟨hopen hwas, hagent⟩
  · have hsilent := staged.silent hnone
    rw [head] at hsilent
    cases hsilent

/-- It does when the client says anything. -/
lemma LinkView.Quiet.clientSays {l : LinkView} (h : l.Quiet) {u : Up} {f f' : Face}
    (grid : l.clientGrid = some f.grid) (speech : f.Says u.said f') :
    ({ l with clientGrid := some f'.grid, toAgent := l.toAgent ++ [u] } : LinkView).Quiet := by
  have hclient := h.client f.grid grid
  -- GridApplied is said by who had it to say, and then nothing was to be answered for
  have hsays : f'.grid.role = .client ∧ (f.grid.pendingApplied = none →
      f'.grid.pendingApplied = none ∧ ∀ gen, u.said ≠ .gridApplied gen) := by
    cases hu : u.said <;> rw [hu] at speech <;> cases speech <;> simp_all
  have hopen : l.Unanswered →
      ({ l with clientGrid := some f'.grid, toAgent := l.toAgent ++ [u] } : LinkView).Unanswered := by
    intro hopen
    obtain ⟨hpending, hsaid⟩ := hsays.2 (hopen.unsent _ grid)
    refine ⟨fun w hw => ?_, ?_⟩
    · rcases List.mem_append.mp hw with hw | hw
      · exact hopen.sent w hw
      · obtain rfl := List.mem_singleton.mp hw
        exact hsaid
    · rintro _ ⟨⟩
      exact hpending
  refine ⟨h.agent, ?_, h.waiting, h.dataless, h.one, fun hone => ?_, fun hnone => ?_⟩
  · rintro _ ⟨⟩
    exact hsays.1
  · obtain ⟨hwas, hagent⟩ := h.open_ hone
    exact ⟨hopen hwas, hagent⟩
  · exact ⟨(h.unattached hnone).1, hopen (h.unattached hnone).2⟩

/-- The client has no snapshot to answer for any more, and answers for none. -/
lemma LinkView.Quiet.denied {l : LinkView} (h : l.Quiet) :
    ({ l with pendingApply := none } : LinkView).Quiet := by
  have hdue : ({ l with pendingApply := none } : LinkView).due ≤ l.due := by
    simp only [LinkView.due, LinkView.owes, Option.isSome_none, Bool.toNat_false]
    omega
  refine ⟨h.agent, h.client, h.waiting, h.dataless, hdue.trans h.one, fun hone => ?_,
    fun hnone => ⟨rfl, ⟨(h.unattached hnone).2.sent, (h.unattached hnone).2.unsent⟩⟩⟩
  have hwas : l.due = 1 := le_antisymm h.one (hone.symm.trans_le hdue)
  obtain ⟨hopen, hagent⟩ := h.open_ hwas
  exact ⟨⟨hopen.sent, hopen.unsent⟩, hagent⟩

/-- The client answers for the one snapshot it has to answer for. -/
lemma LinkView.Quiet.confirmed {l : LinkView} (h : l.Quiet) {gen : Nat}
    (pending : l.pendingApply = some gen) :
    ({ l with
      pendingApply := none
      clientGrid := l.clientGrid.map fun g =>
        if g.role = .client then { g with pendingApplied := some gen } else g } : LinkView).Quiet := by
  have hdue : ({ l with
      pendingApply := none
      clientGrid := l.clientGrid.map fun g =>
        if g.role = .client then { g with pendingApplied := some gen } else g } : LinkView).due + 1 =
      l.due := by
    simp [LinkView.due, LinkView.owes, pending]
  have hone := h.one
  refine ⟨h.agent, ?_, h.waiting, h.dataless, by omega, fun hnow => by omega, fun hnone => ?_⟩
  · intro g hg
    obtain ⟨g', hg', rfl⟩ := Option.map_eq_some_iff.mp hg
    have hrole := h.client g' hg'
    rw [if_pos hrole]
    exact hrole
  · have hnot := (h.unattached hnone).1
    rw [pending] at hnot
    cases hnot

/-- Every move keeps the connections quiet. -/
lemma View.Quiet.move (h : v.Quiet) (staged : v.Staged) (hmove : Move cfg v m v') : v'.Quiet := by
  have same : ∀ {w : View} {i : Nat} {l : LinkView}, w.links = v.links →
      l.agentGrid = (v.links i).agentGrid → l.clientGrid = (v.links i).clientGrid →
      l.waiting = (v.links i).waiting → l.pendingApply = (v.links i).pendingApply →
      l.toAgent ⊆ (v.links i).toAgent → l.toClient.Sublist (v.links i).toClient →
      (w.putLink i l).Quiet := by
    intro w i l hlinks hagent hclient hwait hpending hups hdowns
    exact h.put (by rw [View.putLink, hlinks]) ((h i).same hagent hclient hwait hpending hups hdowns)
  cases hmove with
  | clientOpen =>
    refine h.put rfl ⟨?_, ?_, ?_, ?_, ?_, ?_, fun _ => ⟨rfl, ?_, ?_⟩⟩
    · rintro g ⟨⟩
    · rintro g ⟨⟩
    · rintro ⟨⟩
    · rintro g ⟨⟩
    · exact Nat.zero_le 1
    · rintro ⟨⟩
    · rintro u ⟨⟩
    · rintro g ⟨⟩
  | resumeSent i a b gen current authOk =>
    have hfresh := (staged i).offered (.inr (by rw [authOk]; rfl))
    obtain ⟨-, hnone⟩ := (staged i).unresumed hfresh
    obtain ⟨hpending, hopen⟩ := (h i).unattached hnone
    have hsilent := (staged i).silent hnone
    have hdue : (v.links i).due = 0 := by
      simp [LinkView.due, (h i).owes_of_unattached hnone, hsilent, hpending]
    refine h.put rfl ⟨(h i).agent, ?_, (h i).waiting, (h i).dataless, ?_, ?_, fun _ => ⟨hpending, ?_, ?_⟩⟩
    · rintro g ⟨⟩
      rfl
    · exact hdue.trans_le (Nat.zero_le 1)
    · exact fun hone => absurd (hdue.symm.trans hone) (by decide)
    · intro u hu
      rcases List.mem_append.mp hu with hu | hu
      · exact hopen.sent u hu
      · obtain rfl := List.mem_singleton.mp hu
        exact fun _ hsaid => (by cases hsaid)
    · rintro g ⟨⟩
      rfl
  | pathA i gen off up rest b head said first =>
    exact h.put rfl ((h i).attach (staged i) first.1 cfg.version first.2 head)
  | pathB i gen off up rest head said first =>
    exact h.put rfl ((h i).attach (staged i) first.1 cfg.version rfl head)
  | agentHears i up rest g out head holder alive grid hears =>
    exact h.put rfl ((h i).agentHears head grid hears)
  | agentSays i g said f holder grid speech =>
    exact h.put rfl ((h i).agentSays (d := ⟨said, v.gen⟩) grid speech)
  | supplied i g g' holder waiting grid start =>
    obtain ⟨g₀, hg₀, hsupply, hidle, hawait⟩ := (h i).waiting waiting
    obtain rfl := Option.some.inj (grid.symm.trans hg₀)
    obtain ⟨ge, -, -, rfl⟩ := start ((h i).agent g grid).1 hidle hawait
    refine h.put rfl ((h i).supplied waiting grid hsupply)
  | clientTurned i down rest errors current head =>
    exact same rfl rfl rfl rfl rfl (List.Subset.refl _) (by rw [head]; exact List.sublist_cons_self ..)
  | clientHears i down rest g out current head alive grid hears =>
    exact h.put rfl ((h i).clientHears (staged i) head grid hears)
  | clientSays i g said f current grid speech =>
    exact h.put rfl ((h i).clientSays (u := ⟨said, v.cursorGen, v.clientInp.ackOffset⟩) grid speech)
  | confirmApply i gen applied current pending => exact h.put rfl ((h i).confirmed pending)
  | denyApply i => exact h.put rfl (h i).denied
  | agentTurned i up rest errors head =>
    exact same rfl rfl rfl rfl rfl (by rw [head]; exact List.subset_cons_self ..) (.refl _)
  | agentRejected i gen off up rest e held head =>
    exact same rfl rfl rfl rfl rfl (by rw [head]; exact List.subset_cons_self ..) (.refl _)
  | agentQuiet => exact same rfl rfl rfl rfl rfl (List.Subset.refl _) (.refl _)
  | clientQuiet => exact same rfl rfl rfl rfl rfl (List.Subset.refl _) (.refl _)
  | route => exact same rfl rfl rfl rfl rfl (List.Subset.refl _) (.refl _)
  | completeHandshake => exact same rfl rfl rfl rfl rfl (List.Subset.refl _) (.refl _)
  | resumeRefused => exact same rfl rfl rfl rfl rfl (List.Subset.refl _) (.refl _)
  | resumeStuck => exact same rfl rfl rfl rfl rfl (List.Subset.refl _) (.refl _)
  | _ => exact h

/-- The client's cursor counts what its caller was given since the last snapshot. -/
def View.Counted (v : View) : Prop := v.clientGot.length = v.clientInp.recvOffset

/-- A snapshot that came in whole restarts the cursor. -/
lemma Face.hears_snapshot {f : Face} {said : Said} {out : Except SessionError IncomingEvent × Face}
    (h : f.Hears said out) {gen : Nat} (whole : snapshotOf out.1 = some gen) :
    out.2.recvCursor = f.recvCursor.reset 0 := by
  cases h with
  | data =>
    rw [Face.hearData_snapshot] at whole
    cases whole
  | ack =>
    rw [Face.hearAck_snapshot] at whole
    cases whole
  | gridEnd => rfl
  | _ => cases whole

/-- The cursor counts what has been delivered since the last snapshot. -/
lemma Face.hears_counts {f : Face} {said : Said} {out : Except SessionError IncomingEvent × Face}
    (h : f.Hears said out) {got : Bytes} (counted : got.length = f.recvCursor.recvOffset) :
    (if (snapshotOf out.1).isSome then [] else got ++ deliveredOf out.1).length =
      out.2.recvCursor.recvOffset := by
  cases hs : snapshotOf out.1 with
  | some gen =>
    rw [Face.hears_snapshot h hs]
    rfl
  | none =>
    rw [Option.isSome_none, if_neg Bool.false_ne_true, List.length_append]
    rcases Face.hears_delivered h hs with ⟨-, a, o, p, -, hrec⟩ | ⟨hinp, hnothing, -, -⟩
    · rw [counted, (ReceiveCursor.receive_ok hrec).2.2.1]
    · rw [hinp, hnothing, counted, List.length_nil, Nat.add_zero]

/-- Every move keeps the count. -/
lemma View.Counted.move (h : v.Counted) (hmove : Move cfg v m v') : v'.Counted := by
  cases hmove with
  | clientHears i down rest g out current head alive grid hears => exact Face.hears_counts hears h
  | clientSays i g said f current grid speech =>
    show _ = f.recvCursor.recvOffset
    rw [(Face.says_buffer speech).2]
    exact h
  | _ => exact h

end

end Zet.Net
