import Zet.Net.Delivery

/-!
# What the client holds when the ring is empty

A ring that holds nothing was emptied by acknowledgements, or has been given nothing since its
snapshot. In the first case the client holds all of the ring's generation; in the second the snapshot
has come in whole, or its GridEnd is still on its way. Three invariants of moves say so, and need no
order on the Resumes and no care about what a connection takes while it waits for its snapshot:
`View.Exchanged` and `View.Shown` for the snapshot, `View.Emptied` for what the ring has dropped and
`View.Delivered` for what the client was delivered.
-/

namespace Zet.Net
open Zet.Core Zet.Wire Zet.Lib Zet.Session

/-- What holds of the connection that changed, and of every other one, holds of all. -/
lemma View.forall_links {v v' : View} {i : Nat} {l : LinkView} {p : Nat → LinkView → Prop}
    (links : v'.links = Function.update v.links i l) (self : p i l)
    (other : ∀ j, j ≠ i → p j (v.links j)) (j : Nat) : p j (v'.links j) := by
  rw [links]
  by_cases hj : j = i
  · rw [hj, Function.update_self]
    exact self
  · rw [Function.update_of_ne hj]
    exact other j hj

/-- One generation at a time is ahead of the client, and no data travels with it. -/
structure LinkView.Exchanged (l : LinkView) : Prop where
  idle : l.agentGrid = none ∨ l.waiting = true → l.ahead = []
  ahead : ∀ gen ∈ l.ahead, ∃ g, l.agentGrid = some g ∧ gen = g.expectedGen
  dataless : ∀ g, l.agentGrid = some g → g.Suppressed → ∀ d ∈ l.toClient, segmentOf d.said = none
  supply : l.waiting = true → ∃ g, l.agentGrid = some g ∧ g.awaitingSupply = true

/-- The snapshot exchange is in order on every connection. -/
def View.Exchanged (v : View) : Prop := ∀ i, (v.links i).Exchanged

section
variable {cfg : Config} {v v' : View} {m : Mark}

/-- Changing one connection keeps the exchange on all. -/
lemma View.Exchanged.put (h : v.Exchanged) {i : Nat} {l : LinkView}
    (links : v'.links = Function.update v.links i l) (hl : l.Exchanged) : v'.Exchanged :=
  View.forall_links (p := fun _ l => l.Exchanged) links hl fun j _ => h j

/-- The agent's side of the exchange is as it was, and at most less is on its way to the client. -/
lemma LinkView.Exchanged.less {l l' : LinkView} (h : l.Exchanged) (grid : l'.agentGrid = l.agentGrid)
    (waiting : l'.waiting = l.waiting) (ahead : l'.ahead.Sublist l.ahead)
    (downs : l'.toClient ⊆ l.toClient) : l'.Exchanged where
  idle := by
    rw [grid, waiting]
    intro hidle
    have hnil := h.idle hidle
    rw [hnil] at ahead
    exact List.sublist_nil.mp ahead
  ahead gen hgen := by
    rw [grid]
    exact h.ahead gen (ahead.subset hgen)
  dataless g hg hsup d hd := h.dataless g (grid ▸ hg) hsup d (downs hd)
  supply := by
    rw [grid, waiting]
    exact h.supply

/-- A connection attaches with nothing on its way to the client. -/
lemma LinkView.Exchanged.attach {l : LinkView} (h : l.Exchanged) (staged : l.Staged)
    (first : l.agentGrid = none) (version : Nat) {snapshot waiting : Bool} (rest : List Up)
    (supply : waiting = true → snapshot = true) :
    ({ l with
      toAgent := rest
      agentGrid := some (AgentConnection.freshGrid version snapshot)
      waiting := waiting } : LinkView).Exchanged := by
  have hnil : ({ l with
      toAgent := rest
      agentGrid := some (AgentConnection.freshGrid version snapshot)
      waiting := waiting } : LinkView).ahead = [] := by
    rw [← h.idle (.inl first)]
    simp [LinkView.ahead, LinkView.receiving, LinkView.unsent, first, AgentConnection.freshGrid]
  refine ⟨fun _ => hnil, ?_, ?_, ?_⟩
  · rw [hnil]
    rintro gen ⟨⟩
  · rintro g - - d hd
    have hd : d ∈ l.toClient := hd
    rw [staged.silent first] at hd
    cases hd
  · intro hwait
    exact ⟨_, rfl, supply hwait⟩

/-- What the agent says leaves the generation it expects alone, and starts no exchange. -/
lemma Face.says_agentGrid {f f' : Face} {said : Said} (h : f.Says said f') :
    f'.grid.expectedGen = f.grid.expectedGen ∧ f'.grid.awaitingSupply = f.grid.awaitingSupply ∧
      (f'.grid.Suppressed → f.grid.Suppressed ∧ segmentOf said = none) := by
  have same : segmentOf said = none → f'.grid = f.grid →
      f'.grid.expectedGen = f.grid.expectedGen ∧ f'.grid.awaitingSupply = f.grid.awaitingSupply ∧
        (f'.grid.Suppressed → f.grid.Suppressed ∧ segmentOf said = none) := by
    intro hsaid heq
    rw [heq]
    exact ⟨rfl, rfl, fun hsup => ⟨hsup, hsaid⟩⟩
  cases h with
  | data pos avail free => exact ⟨rfl, rfl, fun hsup => absurd hsup free⟩
  | blank => exact same rfl rfl
  | ack => exact same rfl rfl
  | other => exact same rfl rfl
  | gridApplied => exact ⟨rfl, rfl, fun hsup => ⟨hsup, rfl⟩⟩
  | @gridBegin ge _ agent emitting first said_eq =>
    refine ⟨rfl, rfl, fun _ => ⟨⟨agent, .inl (by simp [emitting])⟩, ?_⟩⟩
    rcases said_eq with rfl | rfl <;> rfl
  | gridChunk agent emitting => exact ⟨rfl, rfl, fun _ => ⟨⟨agent, .inl (by simp [emitting])⟩, rfl⟩⟩
  | gridEnd agent emitting => exact ⟨rfl, rfl, fun _ => ⟨⟨agent, .inl (by simp [emitting])⟩, rfl⟩⟩

/-- What an agent hears leaves the generation it expects alone, and starts no exchange. -/
lemma Face.hears_expected {f : Face} {said : Said}
    {out : Except SessionError IncomingEvent × Face} (h : f.Hears said out)
    (agent : f.grid.role = .agent) :
    out.2.grid.expectedGen = f.grid.expectedGen ∧ out.2.grid.emitting = f.grid.emitting ∧
      out.2.grid.awaitingSupply = f.grid.awaitingSupply ∧
      (out.2.grid.awaitingApplied = true → f.grid.awaitingApplied = true) ∧
      (out.2.grid.Suppressed → f.grid.Suppressed) := by
  rcases Face.hears_agentGrid h agent with heq | ⟨-, hwas, -, heq⟩
  · rw [heq]
    exact ⟨rfl, rfl, rfl, id, id⟩
  · rw [heq]
    exact ⟨rfl, rfl, rfl, fun _ => hwas, fun _ => ⟨agent, .inr (.inl hwas)⟩⟩

/-- What the agent says is part of the exchange. -/
lemma LinkView.Exchanged.spoken {l : LinkView} (h : l.Exchanged) {d : Down} {f f' : Face}
    (grid : l.agentGrid = some f.grid) (speech : f.Says d.said f')
    (ahead : ({ l with agentGrid := some f'.grid, toClient := l.toClient ++ [d] } : LinkView).ahead.Sublist
      l.ahead) :
    ({ l with agentGrid := some f'.grid, toClient := l.toClient ++ [d] } : LinkView).Exchanged := by
  obtain ⟨hgen, hsupply, hsup⟩ := Face.says_agentGrid speech
  refine ⟨?_, ?_, ?_, ?_⟩
  · rintro (hnone | hwait)
    · cases hnone
    · rw [h.idle (.inr hwait)] at ahead
      exact List.sublist_nil.mp ahead
  · intro gen hmem
    obtain ⟨g', hg', heq⟩ := h.ahead gen (ahead.subset hmem)
    rw [grid] at hg'
    cases hg'
    exact ⟨_, rfl, heq.trans hgen.symm⟩
  · rintro _ ⟨⟩ hsup' e he
    rcases List.mem_append.mp he with he | he
    · exact h.dataless _ grid (hsup hsup').1 e he
    · obtain rfl := List.mem_singleton.mp he
      exact (hsup hsup').2
  · intro hwait
    obtain ⟨g', hg', heq⟩ := h.supply hwait
    rw [grid] at hg'
    cases hg'
    exact ⟨_, rfl, hsupply.trans heq⟩

/-- Every move keeps the exchange in order. -/
lemma View.Exchanged.move (h : v.Exchanged) (ord : v.Ordered cfg) (staged : v.Staged)
    (hmove : Move cfg v m v') : v'.Exchanged := by
  have same : ∀ {w : View} {i : Nat} {l : LinkView}, w.links = v.links →
      l.agentGrid = (v.links i).agentGrid → l.waiting = (v.links i).waiting →
      l.ahead.Sublist (v.links i).ahead → l.toClient ⊆ (v.links i).toClient →
      (w.putLink i l).Exchanged := by
    intro w i l hlinks hgrid hwait hahead hdowns
    exact h.put (by rw [View.putLink, hlinks]) ((h i).less hgrid hwait hahead hdowns)
  have still : ∀ {w : View} {i : Nat} {l : LinkView}, w.links = v.links →
      l.agentGrid = (v.links i).agentGrid → l.waiting = (v.links i).waiting →
      l.clientGrid = (v.links i).clientGrid → l.toClient = (v.links i).toClient →
      (w.putLink i l).Exchanged := by
    intro w i l hlinks hgrid hwait hclient hdowns
    refine same hlinks hgrid hwait ?_ (by rw [hdowns]; exact List.Subset.refl _)
    rw [LinkView.ahead, LinkView.ahead, LinkView.receiving, LinkView.receiving, LinkView.unsent,
      LinkView.unsent, hgrid, hclient, hdowns]
  cases hmove with
  | clientOpen =>
    refine h.put rfl ⟨fun _ => rfl, ?_, ?_, ?_⟩
    · rintro gen ⟨⟩
    · rintro g ⟨⟩
    · rintro ⟨⟩
  | resumeSent i => exact same rfl rfl rfl (LinkView.ahead_sendUp (.inl rfl)) (fun d hd => hd)
  | pathA i gen off up rest b head said first =>
    exact h.put rfl ((h i).attach (staged i) first.1 cfg.version rest (by simp [first.2]))
  | pathB i gen off up rest head said first =>
    exact h.put rfl ((h i).attach (staged i) first.1 cfg.version rest fun _ => rfl)
  | agentHears i up rest g out head holder alive grid hears =>
    obtain ⟨hgen, hemit, hsupply, -, hsup⟩ :=
      Face.hears_expected hears ((ord.link i).agentGrid g grid).1
    have hahead : ({ v.links i with
        toAgent := rest, agentGrid := some out.2.grid
        agentDead := (errorOf out.1).isSome } : LinkView).ahead = (v.links i).ahead := by
      have hemit : out.2.grid.emitting = g.emitting := hemit
      simp [LinkView.ahead, LinkView.receiving, LinkView.unsent, grid, hemit]
    refine h.put rfl ⟨?_, ?_, ?_, ?_⟩
    · rintro (hnone | hwait)
      · cases hnone
      · rw [hahead]
        exact (h i).idle (.inr hwait)
    · intro gen hmem
      rw [hahead] at hmem
      obtain ⟨g', hg', heq⟩ := (h i).ahead gen hmem
      rw [grid] at hg'
      cases hg'
      exact ⟨_, rfl, heq.trans hgen.symm⟩
    · rintro _ ⟨⟩ hsup'
      exact (h i).dataless g grid (hsup hsup')
    · intro hwait
      obtain ⟨g', hg', heq⟩ := (h i).supply hwait
      rw [grid] at hg'
      cases hg'
      exact ⟨_, rfl, hsupply.trans heq⟩
  | agentSays i g said f holder grid speech =>
    exact h.put rfl ((h i).spoken (d := ⟨said, v.gen⟩) grid speech (ord.ahead_spoken grid speech))
  | supplied i g g' holder waiting grid start =>
    -- nothing was ahead of the client while its connection waited, so the new snapshot is all there is
    obtain ⟨-, g₀, hg₀, hidle, hawait⟩ := (ord.link i).waiting waiting
    rw [grid] at hg₀
    cases hg₀
    have hrole := ((ord.link i).agentGrid g grid).1
    obtain ⟨ge, hgen, hfirst, rfl⟩ := start hrole hidle hawait
    obtain ⟨g₁, hg₁, hsupply⟩ := (h i).supply waiting
    rw [grid] at hg₁
    cases hg₁
    have hnil := (h i).idle (.inr waiting)
    simp only [LinkView.ahead, List.append_eq_nil_iff] at hnil
    refine h.put rfl ⟨?_, ?_, ?_, ?_⟩
    · rintro (hnone | hwait)
      · cases hnone
      · cases hwait
    · intro gen hmem
      refine ⟨_, rfl, ?_⟩
      have hreceiving : ({ v.links i with
        agentGrid := some { g with
          emitting := some ge, awaitingApplied := true
          expectedGen := v.out.newGeneration.sessionGen, awaitingSupply := false }
        waiting := false } : LinkView).receiving = (v.links i).receiving := rfl
      rw [LinkView.ahead, hreceiving, hnil.1, hnil.2.1] at hmem
      simp only [LinkView.unsent, Option.bind_some, Option.filter_some, hfirst, Bool.not_false,
        if_true, Option.map_some, Option.toList_some, List.nil_append, List.mem_singleton] at hmem
      exact hmem.trans hgen
    · rintro _ ⟨⟩ -
      exact (h i).dataless g grid ⟨hrole, .inr (.inr hsupply)⟩
    · rintro ⟨⟩
  | clientTurned i down rest errors current head =>
    refine same rfl rfl rfl (LinkView.ahead_popDown head (List.sublist_append_left _ _)) ?_
    rw [head]
    exact List.subset_cons_self ..
  | clientHears i down rest g out current head alive grid hears =>
    have hreceiving : (v.links i).receiving = (g.receiving.map GridReception.streamGen).toList := by
      simp [LinkView.receiving, grid]
    refine same rfl rfl rfl (LinkView.ahead_popDown head ?_) ?_
    · rw [hreceiving]
      exact Face.hears_receiving hears ((ord.link i).clientGrid g grid).1
    · rw [head]
      exact List.subset_cons_self ..
  | clientSays i g said f current grid speech =>
    refine same rfl rfl rfl (LinkView.ahead_sendUp ?_) (List.Subset.refl _)
    cases speech <;> exact .inr (by simp [grid, View.clientFace])
  | confirmApply i gen applied current pending =>
    refine same rfl rfl rfl ?_ (List.Subset.refl _)
    cases hg : (v.links i).clientGrid with
    | none => simp [LinkView.ahead, LinkView.receiving, LinkView.unsent, hg]
    | some g =>
      have hrole := ((ord.link i).clientGrid g hg).1
      simp [LinkView.ahead, LinkView.receiving, LinkView.unsent, hg, hrole]
  | agentQuiet => exact still rfl rfl rfl rfl rfl
  | clientQuiet => exact still rfl rfl rfl rfl rfl
  | route => exact still rfl rfl rfl rfl rfl
  | completeHandshake => exact still rfl rfl rfl rfl rfl
  | resumeRefused => exact still rfl rfl rfl rfl rfl
  | resumeStuck => exact still rfl rfl rfl rfl rfl
  | agentTurned => exact still rfl rfl rfl rfl rfl
  | agentRejected => exact still rfl rfl rfl rfl rfl
  | denyApply => exact still rfl rfl rfl rfl rfl
  | _ => exact h

end

/-- A snapshot that was sent whole and not confirmed has come in whole, or its GridEnd is on its way. -/
def LinkView.Shown (l : LinkView) (cursorGen : Nat) : Prop :=
  l.clientDead = false → ∀ g, l.agentGrid = some g → g.emitting = none → g.awaitingApplied = true →
    cursorGen = g.expectedGen ∨ ∃ d ∈ l.toClient, d.said = .gridEnd

/-- The snapshot of the connection the client reads has come in whole, or will. -/
def View.Shown (v : View) : Prop := ∀ i, v.Current i → (v.links i).Shown v.cursorGen

section
variable {cfg : Config} {v v' : View} {m : Mark}

/-- Changing one connection keeps what has been shown. -/
lemma View.Shown.put (h : v.Shown) {i : Nat} {l : LinkView}
    (links : v'.links = Function.update v.links i l) (opened : v'.opened = v.opened)
    (cursorGen : v'.cursorGen = v.cursorGen)
    (hl : (v.links i).Shown v.cursorGen → l.Shown v.cursorGen) : v'.Shown := by
  intro j
  rw [cursorGen, View.Current, opened]
  exact View.forall_links (p := fun j l => v.Current j → l.Shown v.cursorGen) links
    (fun hcur => hl (h i hcur)) (fun j _ => h j) j

/-- A client takes a GridEnd by entering the generation it was receiving, or fails. -/
lemma Face.hears_gridEnd {f : Face} {said : Said} {out : Except SessionError IncomingEvent × Face}
    (h : f.Hears said out) (hend : said = .gridEnd) (fine : errorOf out.1 = none) :
    ∃ r, f.grid.receiving = some r ∧ snapshotOf out.1 = some r.streamGen := by
  cases h with
  | gridEnd _ _ receiving => exact ⟨_, receiving, rfl⟩
  | rejected => cases fine
  | nothing _ other =>
    rw [other] at hend
    cases hend
  | _ => cases hend

/-- Every move keeps what the client has seen of the snapshots. -/
lemma View.Shown.move (h : v.Shown) (ord : v.Ordered cfg) (exchanged : v.Exchanged)
    (hmove : Move cfg v m v') : v'.Shown := by
  have same : ∀ {w : View} {i : Nat} {l : LinkView}, w.links = v.links → w.opened = v.opened →
      w.cursorGen = v.cursorGen → l.agentGrid = (v.links i).agentGrid →
      (l.clientDead = false → (v.links i).clientDead = false ∧ l.toClient = (v.links i).toClient) →
      (w.putLink i l).Shown := by
    intro w i l hlinks hopened hcursor hgrid halive
    refine h.put (i := i) (l := l) (by rw [View.putLink, hlinks]) hopened hcursor ?_
    intro hshown hdead g hg
    obtain ⟨hwas, hdowns⟩ := halive hdead
    rw [hdowns]
    exact hshown hwas g (hgrid ▸ hg)
  have attached : ∀ {w : View} {i : Nat} {l : LinkView} {snapshot : Bool}, w.links = v.links →
      w.opened = v.opened → w.cursorGen = v.cursorGen →
      l.agentGrid = some (AgentConnection.freshGrid cfg.version snapshot) →
      (w.putLink i l).Shown := by
    intro w i l snapshot hlinks hopened hcursor hgrid
    refine h.put (i := i) (l := l) (by rw [View.putLink, hlinks]) hopened hcursor ?_
    intro _ _ g hg _ hawait
    rw [hgrid] at hg
    cases hg
    cases hawait
  cases hmove with
  | clientOpen =>
    intro i hcur
    obtain rfl : v.opened = i := Nat.succ.inj hcur
    rw [View.links_putLink_self]
    rintro - g ⟨⟩
  | pathA => exact attached rfl rfl rfl rfl
  | pathB => exact attached rfl rfl rfl rfl
  | agentHears i up rest g out head holder alive grid hears =>
    obtain ⟨hgen, hemit, -, hawait, -⟩ :=
      Face.hears_expected hears ((ord.link i).agentGrid g grid).1
    refine h.put rfl rfl rfl ?_
    rintro hshown hdead _ ⟨⟩ hidle hwait
    rw [hgen]
    exact hshown hdead g grid (hemit ▸ hidle) (hawait hwait)
  | agentSays i g said f holder grid speech =>
    refine h.put rfl rfl rfl ?_
    rintro hshown hdead _ ⟨⟩ hidle hwait
    have kept : g.emitting = none → g.awaitingApplied = true →
        v.cursorGen = g.expectedGen ∨ ∃ d ∈ (v.links i).toClient ++ [⟨said, v.gen⟩],
          d.said = .gridEnd := by
      intro hidle hwait
      rcases hshown hdead g grid hidle hwait with heq | ⟨d, hd, hend⟩
      · exact .inl heq
      · exact .inr ⟨d, List.mem_append_left _ hd, hend⟩
    cases speech with
    | gridBegin => cases hidle
    | gridChunk => cases hidle
    | gridEnd => exact .inr ⟨⟨.gridEnd, v.gen⟩, List.mem_append_right _ List.mem_cons_self, rfl⟩
    | _ => exact kept hidle hwait
  | supplied i g g' holder waiting grid start =>
    obtain ⟨-, g₀, hg₀, hidle, hawait⟩ := (ord.link i).waiting waiting
    rw [grid] at hg₀
    cases hg₀
    obtain ⟨ge, -, -, rfl⟩ := start ((ord.link i).agentGrid g grid).1 hidle hawait
    refine h.put rfl rfl rfl ?_
    rintro - - _ ⟨⟩ hnone
    cases hnone
  | clientTurned =>
    refine same rfl rfl rfl rfl ?_
    rintro ⟨⟩
  | clientHears i down rest g out current head alive grid hears =>
    intro j hj
    obtain rfl : j = i := by
      simp only [View.Current] at hj current
      exact Nat.succ.inj (hj.symm.trans current)
    rw [View.links_putLink_self]
    intro hdead g' hg' hidle hwait
    have hfine : errorOf out.1 = none := by simpa using hdead
    have hrole := ((ord.link j).clientGrid g grid).1
    -- a generation that is ahead of the client is the one the agent expects
    have hahead : ∀ r, g.receiving = some r → r.streamGen = g'.expectedGen := by
      intro r hr
      obtain ⟨g'', hg'', heq⟩ := (exchanged j).ahead r.streamGen (by
        simp [LinkView.ahead, LinkView.receiving, grid, hr])
      rw [show (v.links j).agentGrid = some g' from hg'] at hg''
      cases hg''
      exact heq
    rcases Face.hears_client hears hrole with ⟨hsnap, -⟩ | ⟨r, hr, hsnap, -⟩
    · rcases h j hj alive g' hg' hidle hwait with heq | ⟨d, hd, hsaid⟩
      · left
        show (snapshotOf out.1).getD v.cursorGen = _
        rw [hsnap]
        exact heq
      · rw [head] at hd
        rcases List.mem_cons.mp hd with rfl | hd
        · obtain ⟨r, -, hsome⟩ := Face.hears_gridEnd hears hsaid hfine
          rw [hsnap] at hsome
          cases hsome
        · exact .inr ⟨d, hd, hsaid⟩
    · left
      show (snapshotOf out.1).getD v.cursorGen = _
      rw [hsnap]
      exact hahead r hr
  | agentQuiet i => exact same rfl rfl rfl rfl fun hdead => ⟨hdead, rfl⟩
  | clientQuiet i dead errors alive =>
    refine same rfl rfl rfl rfl fun hdead => ⟨?_, rfl⟩
    have hdead : dead = false := hdead
    by_contra hwas
    rw [alive (by simpa using hwas)] at hdead
    cases hdead
  | route => exact same rfl rfl rfl rfl fun hdead => ⟨hdead, rfl⟩
  | completeHandshake => exact same rfl rfl rfl rfl fun hdead => ⟨hdead, rfl⟩
  | resumeRefused =>
    refine same rfl rfl rfl rfl ?_
    rintro ⟨⟩
  | resumeStuck =>
    refine same rfl rfl rfl rfl ?_
    rintro ⟨⟩
  | resumeSent => exact same rfl rfl rfl rfl fun hdead => ⟨hdead, rfl⟩
  | agentTurned => exact same rfl rfl rfl rfl fun hdead => ⟨hdead, rfl⟩
  | agentRejected => exact same rfl rfl rfl rfl fun hdead => ⟨hdead, rfl⟩
  | clientSays => exact same rfl rfl rfl rfl fun hdead => ⟨hdead, rfl⟩
  | confirmApply => exact same rfl rfl rfl rfl fun hdead => ⟨hdead, rfl⟩
  | denyApply => exact same rfl rfl rfl rfl fun hdead => ⟨hdead, rfl⟩
  | _ => exact h

end

/-- The ring of a live connection has dropped only what the client holds, and none of it before the
snapshot is confirmed; a ring that lost bytes is not replayed. -/
structure View.Emptied (cfg : Config) (v : View) : Prop where
  base : ∀ i, v.Holder i → (v.links i).agentDead = false → (v.links i).waiting = false →
    ∀ g, (v.links i).agentGrid = some g →
    v.out.base ≤ v.clientInp.recvOffset ∧ (g.awaitingApplied = true → v.out.base = 0)
  flagged : v.out.ringOverflowed = true → cfg.capable ∧
    ∀ i, v.Holder i → (v.links i).agentGrid.isSome → (v.links i).waiting = true

section
variable {cfg : Config} {v v' : View} {m : Mark}

/-- A move that changes one connection and leaves the ring's window where it was. -/
lemma View.Emptied.put (h : v.Emptied cfg) {i : Nat} {l : LinkView}
    (links : v'.links = Function.update v.links i l) (base : v'.out.base = v.out.base)
    (flag : v'.out.ringOverflowed = v.out.ringOverflowed)
    (recv : v'.clientInp = v.clientInp) (holder : ∀ j, v'.Holder j → v.Holder j)
    (waiting : l.waiting = (v.links i).waiting)
    (alive : l.agentDead = false → (v.links i).agentDead = false)
    (grid : ∀ g, l.agentGrid = some g → ∃ g₀, (v.links i).agentGrid = some g₀ ∧
      (g.awaitingApplied = true → g₀.awaitingApplied = true)) : v'.Emptied cfg where
  base j hj := by
    rw [base, recv]
    refine View.forall_links (p := fun j l => v.Holder j → l.agentDead = false →
      l.waiting = false → ∀ g, l.agentGrid = some g → v.out.base ≤ v.clientInp.recvOffset ∧
        (g.awaitingApplied = true → v.out.base = 0)) links ?_ (fun j _ => h.base j) j (holder j hj)
    intro hhold hdead hwait g hg
    obtain ⟨g₀, hg₀, hawait⟩ := grid g hg
    obtain ⟨hle, hzero⟩ := h.base i hhold (alive hdead) (waiting ▸ hwait) g₀ hg₀
    exact ⟨hle, fun hg => hzero (hawait hg)⟩
  flagged hflag := by
    obtain ⟨hcap, hwait⟩ := h.flagged (flag ▸ hflag)
    refine ⟨hcap, fun j hj => ?_⟩
    refine View.forall_links (p := fun j l => v.Holder j → l.agentGrid.isSome → l.waiting = true)
      links ?_ (fun j _ => hwait j) j (holder j hj)
    intro hhold hsome
    obtain ⟨g, hg⟩ := Option.isSome_iff_exists.mp hsome
    obtain ⟨g₀, hg₀, -⟩ := grid g hg
    rw [waiting]
    exact hwait i hhold (by rw [hg₀]; rfl)

/-- A move of the ring alone, within its window. -/
lemma View.Emptied.keep (h : v.Emptied cfg) (links : v'.links = v.links)
    (base : v'.out.base = v.out.base) (flag : v'.out.ringOverflowed = v.out.ringOverflowed)
    (recv : v'.clientInp = v.clientInp) (holder : ∀ j, v'.Holder j → v.Holder j) :
    v'.Emptied cfg :=
  h.put (i := 0) (l := v.links 0) (by rw [links, Function.update_eq_self]) base flag recv holder rfl
    id fun g hg => ⟨g, hg, id⟩

/-- Hearing a frame empties the ring as far as the client holds it. -/
lemma View.Emptied.agentHears (h : v.Emptied cfg) (ord : v.Ordered cfg) (stored : v.Stored) {i : Nat}
    {up : Up} {rest : List Up} {g : GridState} {out : Except SessionError IncomingEvent × Face}
    (head : (v.links i).toAgent = up :: rest) (holder : v.Holder i)
    (alive : (v.links i).agentDead = false) (grid : (v.links i).agentGrid = some g)
    (hears : (v.agentFace g).Hears up.said out) (waiting : (v.links i).waiting = false) :
    out.2.sendBuf.base ≤ v.clientInp.recvOffset ∧
      (out.2.grid.awaitingApplied = true → out.2.sendBuf.base = 0) := by
  obtain ⟨hle, hzero⟩ := h.base i holder alive waiting g grid
  obtain ⟨-, -, -, hawait, -⟩ := Face.hears_expected hears ((ord.link i).agentGrid g grid).1
  rcases Face.hears_acknowledge hears with ⟨hbuf, -⟩ | ⟨hfree, a, hsaid, hcases⟩
  · rw [hbuf]
    exact ⟨hle, fun hwait => hzero (hawait hwait)⟩
  refine ⟨?_, fun hwait => ?_⟩
  · have hmem : up ∈ (v.links i).toAgent := head ▸ List.mem_cons_self
    obtain ⟨rfl, -⟩ := ((ord.link i).ups up hmem).2.2.ack_eq hsaid
    have hgen := ord.heard holder alive grid hfree waiting up hmem
    obtain ⟨-, hpos, -⟩ := ord.position stored hmem hgen
    rcases hcases with ⟨b, hack, rfl, -⟩ | ⟨e, -, heq, -⟩
    · rw [(SendBuffer.acknowledge_ok hack stored.out.base_le).1]
      exact max_le hle hpos
    · rw [heq]
      exact hle
  · have := hawait hwait
    rw [hfree] at this
    cases this

/-- Every move keeps what the ring has dropped within what the client holds. -/
lemma View.Emptied.move (h : v.Emptied cfg) (ord : v.Ordered cfg) (stored : v.Stored)
    (hmove : Move cfg v m v') : v'.Emptied cfg := by
  have same : ∀ {w : View} {i : Nat} {l : LinkView}, w.links = v.links → w.out = v.out →
      w.clientInp = v.clientInp → (∀ j, w.Holder j → v.Holder j) →
      l.waiting = (v.links i).waiting → (l.agentDead = false → (v.links i).agentDead = false) →
      l.agentGrid = (v.links i).agentGrid → (w.putLink i l).Emptied cfg := by
    intro w i l hlinks hout hinp hholder hwait halive hgrid
    exact h.put (i := i) (l := l) (by rw [View.putLink, hlinks])
      (congrArg SendBuffer.base hout) (congrArg SendBuffer.ringOverflowed hout) hinp hholder hwait
      halive fun g hg => ⟨g, hgrid ▸ hg, id⟩
  cases hmove with
  | agentQuiet i dead errors alive =>
    refine same rfl rfl rfl (fun j hj => hj) rfl (fun hdead => ?_) rfl
    have hdead : dead = false := hdead
    by_contra hwas
    rw [alive (by simpa using hwas)] at hdead
    cases hdead
  | clientQuiet => exact same rfl rfl rfl (fun j hj => hj) rfl id rfl
  | clientOpen =>
    refine ⟨fun j hj => ?_, fun hflag => ⟨(h.flagged hflag).1, fun j hj => ?_⟩⟩
    · refine View.forall_links (p := fun j l => v.Holder j → l.agentDead = false →
        l.waiting = false → ∀ g, l.agentGrid = some g → v.out.base ≤ v.clientInp.recvOffset ∧
          (g.awaitingApplied = true → v.out.base = 0)) rfl ?_ (fun j _ => h.base j) j hj
      rintro - - - g ⟨⟩
    · refine View.forall_links (p := fun j l => v.Holder j → l.agentGrid.isSome → l.waiting = true)
        rfl ?_ (fun j _ => (h.flagged hflag).2 j) j hj
      rintro - ⟨⟩
  | route => exact same rfl rfl rfl (fun j hj => hj) rfl id rfl
  | completeHandshake => exact same rfl rfl rfl (fun j hj => hj) rfl id rfl
  | resumeRefused => exact same rfl rfl rfl (fun j hj => hj) rfl id rfl
  | resumeStuck => exact same rfl rfl rfl (fun j hj => hj) rfl id rfl
  | resumeSent => exact same rfl rfl rfl (fun j hj => hj) rfl id rfl
  | agentTurned =>
    refine same rfl rfl rfl (fun j hj => hj) rfl ?_ rfl
    rintro ⟨⟩
  | agentRejected i gen off up rest e held head said known replay attach less =>
    refine same rfl rfl rfl (fun j hj => ⟨less hj.1, hj.2⟩) rfl ?_ rfl
    rintro ⟨⟩
  | pathA i gen off up rest b head said first alive known replay attach =>
    obtain ⟨-, hall⟩ := ord.replayed head said fun hcap => (replay hcap).1
    have hmem : up ∈ (v.links i).toAgent := head ▸ List.mem_cons_self
    obtain ⟨-, hpos, -⟩ := ord.position stored hmem (hall up List.mem_cons_self)
    have honest := ((ord.link i).ups up hmem).2.2
    simp only [Up.Honest, said] at honest
    obtain ⟨rfl, -, -⟩ := SendBuffer.resetSendNext_ok attach
    refine ⟨fun j hj _ _ g hg => ⟨honest.2.le.trans hpos, fun hawait => ?_⟩, fun hflag => ?_⟩
    · obtain rfl : i = j := Option.some.inj hj.2
      rw [View.links_putLink_self] at hg
      cases hg
      cases hawait
    · -- path A is not taken once the ring has overflowed
      have hflag : v.out.ringOverflowed = true := hflag
      have := (replay (h.flagged hflag).1).2
      rw [hflag] at this
      cases this
  | pathB i gen off up rest head said first alive known capable =>
    refine ⟨fun j hj _ hwait => ?_, fun _ => ⟨capable, fun j hj _ => ?_⟩⟩
    · obtain rfl : i = j := Option.some.inj hj.2
      rw [View.links_putLink_self] at hwait
      cases hwait
    · obtain rfl : i = j := Option.some.inj hj.2
      rw [View.links_putLink_self]
  | agentHears i up rest g out head holder alive grid hears =>
    obtain ⟨base, next, hbuf⟩ := Face.hears_buffer hears
    have hflag : out.2.sendBuf.ringOverflowed = v.out.ringOverflowed := by
      rw [hbuf]
      rfl
    refine ⟨fun j hj hdead hwait g' hg' => ?_, fun hover => ?_⟩
    · obtain rfl : i = j := Option.some.inj (holder.2.symm.trans hj.2)
      rw [View.links_putLink_self] at hwait hg'
      cases hg'
      exact h.agentHears ord stored head holder alive grid hears hwait
    · obtain ⟨hcap, hwait⟩ := h.flagged (hflag ▸ hover)
      refine ⟨hcap, fun j hj _ => ?_⟩
      obtain rfl : i = j := Option.some.inj (holder.2.symm.trans hj.2)
      rw [View.links_putLink_self]
      exact hwait i holder (by rw [grid]; rfl)
  | agentSays i g said f holder grid speech =>
    obtain ⟨⟨next, hbuf⟩, -⟩ := Face.says_buffer speech
    refine h.put rfl (by rw [hbuf]; rfl) (by rw [hbuf]; rfl) rfl (fun j hj => hj) rfl id ?_
    rintro _ ⟨⟩
    refine ⟨g, grid, ?_⟩
    cases speech with
    | gridEnd _ emitting => exact fun _ => (((ord.link i).agentGrid g grid).2 _ emitting).2
    | _ => exact id
  | supplied =>
    exact ⟨fun _ _ _ _ _ _ => ⟨Nat.zero_le _, fun _ => rfl⟩, fun hflag => (by cases hflag)⟩
  | released => exact h.keep rfl rfl rfl rfl fun j hj => by cases hj.1
  | inputDelivered => exact h.keep rfl rfl rfl rfl fun j hj => hj
  | inputRejected => exact h.keep rfl rfl rfl rfl fun j hj => by cases hj.1
  | clientTurned => exact same rfl rfl rfl (fun j hj => hj) rfl id rfl
  | clientHears i down rest g out current head alive grid hears =>
    have hrole := ((ord.link i).clientGrid g grid).1
    have hbase : ∀ j, v.Holder j → (v.links j).agentDead = false → (v.links j).waiting = false →
        ∀ g', (v.links j).agentGrid = some g' → v.out.base ≤ out.2.recvCursor.recvOffset ∧
          (g'.awaitingApplied = true → v.out.base = 0) := by
      intro j hj hdead hwait g' hg'
      obtain ⟨hle, hzero⟩ := h.base j hj hdead hwait g' hg'
      refine ⟨?_, hzero⟩
      rcases Face.hears_client hears hrole with ⟨-, -, -, -, hrecv⟩ | ⟨r, hr, -, -, -⟩
      · rcases hrecv with heq | ⟨a, o, p, bytes, -, hrec⟩
        · exact hle.trans (congrArg ReceiveCursor.recvOffset heq).ge
        · exact hle.trans ((le_max_left _ _).trans (ReceiveCursor.receive_recvOffset hrec).ge)
      · -- the client enters a generation: the ring's own, which nothing was acknowledged in
        cases hawait : g'.awaitingApplied with
        | true =>
          rw [hzero hawait]
          exact Nat.zero_le _
        | false =>
          have hcur := (((ord.link j).holder hj hdead g' hg').2 hawait hwait).1
          have hlater : v.cursorGen < r.streamGen ∧ r.streamGen ≤ v.gen := ord.ahead_lt current (by
            have : g.receiving = some r := hr
            simp [LinkView.ahead, LinkView.receiving, grid, this])
          simp only at hcur
          omega
    refine ⟨fun j hj => ?_, fun hflag => ⟨(h.flagged hflag).1, fun j hj => ?_⟩⟩
    · refine View.forall_links (p := fun j l => v.Holder j → l.agentDead = false →
        l.waiting = false → ∀ g, l.agentGrid = some g → v.out.base ≤ out.2.recvCursor.recvOffset ∧
          (g.awaitingApplied = true → v.out.base = 0)) rfl ?_ (fun j _ => hbase j) j hj
      exact hbase i
    · refine View.forall_links (p := fun j l => v.Holder j → l.agentGrid.isSome → l.waiting = true)
        rfl ?_ (fun j _ => (h.flagged hflag).2 j) j hj
      exact (h.flagged hflag).2 i
  | clientSays i g said f current grid speech =>
    obtain ⟨-, hinp⟩ := Face.says_buffer speech
    exact same rfl rfl hinp (fun j hj => hj) rfl id rfl
  | confirmApply => exact same rfl rfl rfl (fun j hj => hj) rfl id rfl
  | denyApply => exact same rfl rfl rfl (fun j hj => hj) rfl id rfl
  | clientWrite => exact h.keep rfl rfl rfl rfl fun j hj => hj
  | agentWrite w =>
    exact h.keep rfl (SendBuffer.append_base ..) (SendBuffer.append_ringOverflowed ..) rfl
      fun j hj => hj
  | agentOverflow w bytes fits capable first alone =>
    refine ⟨fun j hj => ?_, fun _ => ⟨capable, fun j hj => ?_⟩⟩
    · exact absurd hj.1 (by simp [alone])
    · exact absurd hj.1 (by simp [alone])
  | agentDropped => exact h.keep rfl rfl rfl rfl fun j hj => hj

end

/-- The client counts what it was delivered, and holds a piece of the ring's stream once it is in the
ring's generation. -/
structure View.Delivered (v : View) : Prop where
  length : v.clientGot.length = v.clientInp.recvOffset
  got : v.cursorGen = v.gen → v.clientGot = v.agentLog.take v.clientInp.recvOffset
  slices : ∀ i, v.Current i → ∀ d ∈ (v.links i).toClient, d.gen = v.gen →
    ∀ a o p, d.said = .data a o p → IsSlice v.agentLog o p
  log : v.out.ringOverflowed = false → v.agentLog = v.agentTaken

section
variable {cfg : Config} {v v' : View} {m : Mark}

/-- A move that changes one connection and neither end of the stream. -/
lemma View.Delivered.put (h : v.Delivered) {i : Nat} {l : LinkView}
    (links : v'.links = Function.update v.links i l) (opened : v'.opened = v.opened)
    (gen : v'.gen = v.gen) (flag : v'.out.ringOverflowed = v.out.ringOverflowed)
    (inp : v'.clientInp = v.clientInp) (cursorGen : v'.cursorGen = v.cursorGen)
    (got : v'.clientGot = v.clientGot) (log : v'.agentLog = v.agentLog)
    (taken : v'.agentTaken = v.agentTaken)
    (downs : ∀ d ∈ l.toClient, d ∈ (v.links i).toClient ∨
      ∀ a o p, d.said = .data a o p → IsSlice v.agentLog o p) : v'.Delivered where
  length := by
    rw [got, inp]
    exact h.length
  got := by
    rw [got, inp, gen, cursorGen, log]
    exact h.got
  slices := by
    rw [gen, log]
    intro j
    rw [View.Current, opened]
    refine View.forall_links (p := fun j l => v.Current j → ∀ d ∈ l.toClient, d.gen = v.gen →
      ∀ a o p, d.said = .data a o p → IsSlice v.agentLog o p) links ?_ (fun j _ => h.slices j) j
    intro hcur d hd hgen
    rcases downs d hd with hmem | hslice
    · exact h.slices i hcur d hmem hgen
    · exact hslice
  log := by
    rw [flag, log, taken]
    exact h.log

/-- The ring takes more of the stream. -/
lemma View.Delivered.grow (h : v.Delivered)
    (held : v.cursorGen = v.gen → v.clientInp.recvOffset ≤ v.agentLog.length)
    {out : SendBuffer} {more taken : Bytes} (gen : out.sessionGen = v.gen)
    (log : out.ringOverflowed = false → v.agentLog ++ more = taken) :
    ({ v with out := out, agentLog := v.agentLog ++ more, agentTaken := taken } : View).Delivered where
  length := h.length
  got heq := by
    have heq : v.cursorGen = v.gen := heq.trans gen
    show v.clientGot = _
    rw [h.got heq, List.take_append_of_le_length (held heq)]
  slices i hi d hd hgen a o p hsaid := (h.slices i hi d hd (hgen.trans gen) a o p hsaid).append _
  log := log

/-- What the client hears is delivered. -/
lemma View.Delivered.clientHears (h : v.Delivered) (ord : v.Ordered cfg) {i : Nat} {down : Down}
    {rest : List Down} {g : GridState} {out : Except SessionError IncomingEvent × Face}
    (current : v.Current i) (head : (v.links i).toClient = down :: rest)
    (grid : (v.links i).clientGrid = some g) (hears : (v.clientFace g).Hears down.said out) :
    (if (snapshotOf out.1).isSome then [] else v.clientGot ++ deliveredOf out.1).length =
        out.2.recvCursor.recvOffset ∧
      ((snapshotOf out.1).getD v.cursorGen = v.gen →
        (if (snapshotOf out.1).isSome then [] else v.clientGot ++ deliveredOf out.1) =
          v.agentLog.take out.2.recvCursor.recvOffset) := by
  have hrole := ((ord.link i).clientGrid g grid).1
  have hmem : down ∈ (v.links i).toClient := head ▸ List.mem_cons_self
  rcases Face.hears_client hears hrole with ⟨hsnap, -⟩ | ⟨r, -, hsnap, hinp, -⟩
  · rw [hsnap]
    simp only [Option.isSome_none, Bool.false_eq_true, if_false, Option.getD_none]
    rcases Face.hears_delivered hears hsnap with
      ⟨-, a, o, p, hsaid, hrec⟩ | ⟨hinp, hnothing, -, -⟩
    · have hrec : v.clientInp.receive o p = .ok (deliveredOf out.1, out.2.recvCursor) := hrec
      obtain ⟨hlow, hbytes, -⟩ := ReceiveCursor.receive_ok hrec
      have hnew := ReceiveCursor.receive_recvOffset hrec
      refine ⟨?_, fun hgen => ?_⟩
      · rw [List.length_append, h.length, hbytes, hnew, List.length_drop]
        omega
      · -- data for a client in the ring's generation was sealed in it
        have hlo := ((ord.link i).fresh current down hmem).1
        have hhi := ((ord.link i).downs down hmem).1
        simp only at hlo hhi
        have hslice := h.slices i current down hmem (by omega) a o p hsaid
        rw [h.got hgen]
        exact (receive_extends hslice hrec (ord.held hgen)).1
    · have hinp : out.2.recvCursor = v.clientInp := hinp
      rw [hnothing, List.append_nil, hinp]
      exact ⟨h.length, h.got⟩
  · rw [hsnap, hinp]
    exact ⟨rfl, fun _ => rfl⟩

/-- The agent's log fits the offsets it is counted in. -/
def LogFits (v : View) : Prop := v.agentLog.length < 2 ^ 64

/-- Every move keeps what the client was delivered a piece of the stream. -/
lemma View.Delivered.move (h : v.Delivered) (ord : v.Ordered cfg) (stored : v.Stored)
    (fits : LogFits v) (genFits : GenFits v m) (hmove : Move cfg v m v') : v'.Delivered := by
  have same : ∀ {w : View} {i : Nat} {l : LinkView}, w.links = v.links → w.opened = v.opened →
      w.gen = v.gen → w.out.ringOverflowed = v.out.ringOverflowed → w.clientInp = v.clientInp →
      w.cursorGen = v.cursorGen → w.clientGot = v.clientGot → w.agentLog = v.agentLog →
      w.agentTaken = v.agentTaken → l.toClient ⊆ (v.links i).toClient →
      (w.putLink i l).Delivered := by
    intro w i l hlinks hopened hgen hflag hinp hcursor hgot hlog htaken hdowns
    exact h.put (i := i) (l := l) (by rw [View.putLink, hlinks]) hopened hgen hflag hinp hcursor hgot
      hlog htaken fun d hd => .inl (hdowns hd)
  have all : ∀ i, (v.links i).toClient ⊆ (v.links i).toClient := fun i => List.Subset.refl _
  cases hmove with
  | agentQuiet i => exact same rfl rfl rfl rfl rfl rfl rfl rfl rfl (all i)
  | clientQuiet i => exact same rfl rfl rfl rfl rfl rfl rfl rfl rfl (all i)
  | clientOpen =>
    refine ⟨h.length, h.got, fun j hj d hd => ?_, h.log⟩
    obtain rfl : v.opened = j := Nat.succ.inj hj
    rw [View.links_putLink_self] at hd
    cases hd
  | route i => exact same rfl rfl rfl rfl rfl rfl rfl rfl rfl (all i)
  | completeHandshake i => exact same rfl rfl rfl rfl rfl rfl rfl rfl rfl (all i)
  | resumeRefused i => exact same rfl rfl rfl rfl rfl rfl rfl rfl rfl (all i)
  | resumeStuck i => exact same rfl rfl rfl rfl rfl rfl rfl rfl rfl (all i)
  | resumeSent i => exact same rfl rfl rfl rfl rfl rfl rfl rfl rfl (all i)
  | agentTurned i => exact same rfl rfl rfl rfl rfl rfl rfl rfl rfl (all i)
  | agentRejected i => exact same rfl rfl rfl rfl rfl rfl rfl rfl rfl (all i)
  | pathA i gen off up rest b head said first alive known replay attach =>
    obtain ⟨rfl, -, -⟩ := SendBuffer.resetSendNext_ok attach
    exact same rfl rfl rfl rfl rfl rfl rfl rfl rfl (all i)
  | pathB i => exact same rfl rfl rfl rfl rfl rfl rfl rfl rfl (all i)
  | agentHears i up rest g out head holder alive grid hears =>
    obtain ⟨base, next, hbuf⟩ := Face.hears_buffer hears
    have hgen : out.2.sendBuf.sessionGen = v.out.sessionGen := by
      rw [hbuf]
      rfl
    have hflag : out.2.sendBuf.ringOverflowed = v.out.ringOverflowed := by
      rw [hbuf]
      rfl
    exact same rfl rfl hgen hflag rfl rfl rfl rfl rfl (all i)
  | agentSays i g said f holder grid speech =>
    obtain ⟨⟨next, hbuf⟩, -⟩ := Face.says_buffer speech
    refine h.put rfl rfl (by rw [View.gen, View.gen, View.putLink, hbuf]; rfl)
      (by rw [View.putLink, hbuf]; rfl) rfl rfl rfl rfl rfl ?_
    intro d hd
    rcases List.mem_append.mp hd with hd | hd
    · exact .inl hd
    · obtain rfl := List.mem_singleton.mp hd
      right
      intro a o p hsaid
      have hsaid : said = .data a o p := hsaid
      rcases Face.says_segment speech stored.out fits with ⟨hnone, -⟩ | ⟨a', p', heq, hslice, -⟩
      · simp [hsaid, segmentOf] at hnone
      · rw [hsaid] at heq
        cases heq
        -- what is sent is a piece of the ring, and the ring of the log
        exact hslice
  | supplied i g g' holder waiting grid start =>
    have hnew := View.gen_newGeneration (genFits rfl)
    refine ⟨h.length, fun heq => ?_, fun j hj d hd hgen => ?_, fun _ => rfl⟩
    · -- nobody is in the new generation yet, and nothing was sealed in it
      have heq : v.cursorGen = v.out.newGeneration.sessionGen := heq
      have := ord.cursor_le
      omega
    · have hgen : d.gen = v.out.newGeneration.sessionGen := hgen
      have hd : d ∈ (v.links j).toClient := by
        refine View.forall_links (p := fun j l => d ∈ l.toClient → d ∈ (v.links j).toClient) rfl ?_
          (fun j _ => id) j hd
        exact id
      have := ((ord.link j).downs d hd).1
      simp only at this
      omega
  | released => exact ⟨h.length, h.got, h.slices, h.log⟩
  | inputDelivered => exact ⟨h.length, h.got, h.slices, h.log⟩
  | inputRejected => exact ⟨h.length, h.got, h.slices, h.log⟩
  | clientTurned i down rest errors current head =>
    refine same rfl rfl rfl rfl rfl rfl rfl rfl rfl ?_
    rw [head]
    exact List.subset_cons_self ..
  | clientHears i down rest g out current head alive grid hears =>
    obtain ⟨hlength, hgot⟩ := h.clientHears ord current head grid hears
    refine ⟨hlength, hgot, fun j hj d hd => ?_, h.log⟩
    refine h.slices j hj d ?_
    refine View.forall_links (p := fun j l => d ∈ l.toClient → d ∈ (v.links j).toClient) rfl
      (fun hd => ?_) (fun j _ => id) j hd
    rw [head]
    exact List.mem_cons_of_mem down hd
  | clientSays i g said f current grid speech =>
    obtain ⟨-, hinp⟩ := Face.says_buffer speech
    exact same rfl rfl rfl rfl hinp rfl rfl rfl rfl (all i)
  | confirmApply i => exact same rfl rfl rfl rfl rfl rfl rfl rfl rfl (all i)
  | denyApply i => exact same rfl rfl rfl rfl rfl rfl rfl rfl rfl (all i)
  | clientWrite => exact ⟨h.length, h.got, h.slices, h.log⟩
  | agentWrite w =>
    refine h.grow ord.held (SendBuffer.append_sessionGen ..) fun hflag => ?_
    rw [h.log (by simpa using hflag)]
  | agentOverflow w =>
    refine h.grow ord.held (SendBuffer.append_sessionGen ..) ?_
    rintro ⟨⟩
  | agentDropped bytes overflowed =>
    refine ⟨h.length, h.got, h.slices, fun hflag => ?_⟩
    have hflag : v.out.ringOverflowed = false := hflag
    rw [overflowed] at hflag
    cases hflag

end

/-- What every move keeps of the snapshots and the stream on their way to the client. -/
structure View.Landing (cfg : Config) (v : View) : Prop where
  ordered : v.Ordered cfg
  staged : v.Staged
  exchanged : v.Exchanged
  shown : v.Shown
  emptied : v.Emptied cfg
  delivered : v.Delivered

/-- The widths of the counters hold what a move puts in them. -/
structure Fits (v : View) (m : Mark) : Prop where
  log : LogFits v
  gen : GenFits v m

section
variable {cfg : Config} {v v' : View} {m : Mark}

/-- Every move keeps everything that has landed. -/
theorem View.Landing.move (h : v.Landing cfg) (stored : v.Stored) (fits : Fits v m)
    (hmove : Move cfg v m v') : v'.Landing cfg where
  ordered := h.ordered.move stored fits.gen hmove
  staged := h.staged.move hmove
  exchanged := h.exchanged.move h.ordered h.staged hmove
  shown := h.shown.move h.ordered h.exchanged hmove
  emptied := h.emptied.move h.ordered stored hmove
  delivered := h.delivered.move h.ordered stored fits.log fits.gen hmove

/-- At the start nothing has to land. -/
lemma landing_start {K : Type} (seed : K) (agentStorage clientStorage : Bytes)
    (agentLimits clientLimits : SessionLimits) (now : Timestamp) :
    (State.view cfg (.start seed agentStorage clientStorage agentLimits clientLimits now)).Landing
      cfg where
  ordered := ordered_start ..
  staged i := ⟨fun _ => ⟨rfl, rfl⟩, fun _ => rfl, fun _ => rfl, fun _ => rfl⟩
  exchanged i := by
    refine ⟨fun _ => rfl, ?_, ?_, ?_⟩
    · rintro gen ⟨⟩
    · rintro g ⟨⟩
    · rintro ⟨⟩
  shown i hcur := by cases hcur
  emptied := by
    refine ⟨?_, ?_⟩
    · rintro i ⟨⟨⟩, -⟩
    · rintro ⟨⟩
  delivered := by
    refine ⟨rfl, fun _ => rfl, ?_, fun _ => rfl⟩
    rintro i ⟨⟩

/-- Once the client has taken the frames `pre` of its connection, it is in generation `gen` and was
delivered `bytes` in it: it is there already and `pre` brings nothing new, or `pre` ends the snapshot
of a generation nothing was written in. -/
def View.Promised (v : View) (i gen : Nat) (pre : List Down) (bytes : Bytes) : Prop :=
  (v.links i).clientDead = false →
    (v.cursorGen = gen ∧ v.clientGot = bytes ∧ (v.links i).receiving = [] ∧
      (∀ d ∈ pre, d.begins = none) ∧
      ∀ d ∈ pre, ∀ a o p, d.said = .data a o p → o + p.length ≤ v.clientInp.recvOffset) ∨
    (bytes = [] ∧ (∀ d ∈ pre, segmentOf d.said = none) ∧ (∃ d ∈ pre, d.said = .gridEnd) ∧
      ∀ x ∈ (v.links i).receiving ++ pre.filterMap Down.begins, x = gen)

/-- Behind no frame at all, the promise is kept. -/
lemma View.Promised.now {i gen : Nat} {bytes : Bytes} (h : v.Promised i gen [] bytes)
    (alive : (v.links i).clientDead = false) : v.cursorGen = gen ∧ v.clientGot = bytes := by
  rcases h alive with ⟨hgen, hgot, -⟩ | ⟨-, -, ⟨d, hd, -⟩, -⟩
  · exact ⟨hgen, hgot⟩
  · cases hd

/-- An empty ring of a live connection, with no snapshot left to send, promises all it was given. -/
lemma View.Landing.promised (h : v.Landing cfg) (stored : v.Stored) {i : Nat} {g : GridState}
    (current : v.Current i) (holder : v.Holder i) (alive : (v.links i).agentDead = false)
    (waiting : (v.links i).waiting = false) (grid : (v.links i).agentGrid = some g)
    (sent : g.emitting = none) (empty : v.out.size = 0) :
    v.Promised i v.gen (v.links i).toClient v.agentTaken := by
  have hflag : v.out.ringOverflowed = false := by
    by_contra hover
    have := (h.emptied.flagged (by simpa using hover)).2 i holder (by rw [grid]; rfl)
    rw [waiting] at this
    cases this
  rw [← h.delivered.log hflag]
  obtain ⟨hbase, hzero⟩ := h.emptied.base i holder alive waiting g grid
  obtain ⟨hawait, hfree⟩ := (h.ordered.link i).holder holder alive g grid
  have hend := stored.out.end_eq
  have hle := stored.out.base_le_end
  have hsize : v.out.end_ - v.out.base = 0 := empty
  intro hdead
  by_cases hcur : v.cursorGen = v.gen
  · left
    have hheld := h.ordered.held hcur
    have hnone : ∀ x, x ∉ (v.links i).ahead := by
      intro x hx
      have := h.ordered.ahead_lt current hx
      omega
    refine ⟨hcur, ?_, ?_, ?_, ?_⟩
    · rw [h.delivered.got hcur, List.take_of_length_le (by omega)]
    · exact List.eq_nil_iff_forall_not_mem.mpr fun x hx => hnone x (List.mem_append_left _ hx)
    · intro d hd
      by_contra hbegins
      obtain ⟨x, hx⟩ := Option.ne_none_iff_exists'.mp hbegins
      exact hnone x (List.mem_append_right _ (List.mem_append_left _
        (List.mem_filterMap.mpr ⟨d, hd, hx⟩)))
    · intro d hd a o p hsaid
      have hlo := ((h.ordered.link i).fresh current d hd).1
      have hhi := ((h.ordered.link i).downs d hd).1
      simp only at hlo hhi
      have := (h.ordered.link i).written current d hd (by simp only; omega) a o p hsaid
      simp only at this
      omega
  · right
    have hwait : g.awaitingApplied = true := by
      by_contra hno
      exact hcur (hfree (by simpa using hno) waiting).1
    have hexpected : g.expectedGen = v.gen := hawait hwait
    have hrole := ((h.ordered.link i).agentGrid g grid).1
    refine ⟨?_, ?_, ?_, ?_⟩
    · have := hzero hwait
      exact List.length_eq_zero_iff.mp (by omega)
    · exact (h.exchanged i).dataless g grid ⟨hrole, .inr (.inl hwait)⟩
    · rcases h.shown i current hdead g grid sent hwait with heq | hend
      · exact absurd (heq.trans hexpected) hcur
      · exact hend
    · intro x hx
      obtain ⟨g', hg', heq⟩ := (h.exchanged i).ahead x (by
        rw [LinkView.ahead, ← List.append_assoc]
        exact List.mem_append_left _ hx)
      rw [grid] at hg'
      cases hg'
      exact heq.trans hexpected

/-- Nothing the client can tell has changed. -/
lemma View.Promised.still {i gen : Nat} {pre : List Down} {bytes : Bytes}
    (h : v.Promised i gen pre bytes) (cursorGen : v'.cursorGen = v.cursorGen)
    (got : v'.clientGot = v.clientGot) (inp : v'.clientInp = v.clientInp)
    (receiving : (v'.links i).receiving = (v.links i).receiving)
    (alive : (v'.links i).clientDead = false → (v.links i).clientDead = false) :
    v'.Promised i gen pre bytes := by
  intro hdead
  rw [cursorGen, got, inp, receiving]
  exact h (alive hdead)

/-- The client takes the first of the frames. -/
lemma View.Promised.hears {i gen : Nat} {pre rest : List Down} {bytes : Bytes} {down : Down}
    {g : GridState} {out : Except SessionError IncomingEvent × Face}
    (h : v.Promised i gen (down :: pre) bytes) (ord : v.Ordered cfg) (ord' : v'.Ordered cfg)
    (current : v'.Current i) (alive : (v.links i).clientDead = false)
    (grid : (v.links i).clientGrid = some g) (hears : (v.clientFace g).Hears down.said out)
    (cursorGen : v'.cursorGen = (snapshotOf out.1).getD v.cursorGen)
    (got : v'.clientGot =
      if (snapshotOf out.1).isSome then [] else v.clientGot ++ deliveredOf out.1)
    (inp : v'.clientInp = out.2.recvCursor)
    (dead : (v'.links i).clientDead = (errorOf out.1).isSome)
    (clientGrid : (v'.links i).clientGrid = some out.2.grid)
    (downs : (v'.links i).toClient = rest) (within : pre ⊆ rest) :
    v'.Promised i gen pre bytes := by
  intro hdead
  have hfine : errorOf out.1 = none := by
    rw [dead] at hdead
    simpa using hdead
  have hrole := ((ord.link i).clientGrid g grid).1
  have hwas : (v.links i).receiving = (g.receiving.map GridReception.streamGen).toList := by
    simp [LinkView.receiving, grid]
  have hnow : (v'.links i).receiving = (out.2.grid.receiving.map GridReception.streamGen).toList := by
    simp [LinkView.receiving, clientGrid]
  have hsub := Face.hears_receiving hears hrole
  rcases h alive with ⟨hgen, hgot, hreceiving, hbegins, hold⟩ | ⟨hnil, hdata, hend, hahead⟩
  · -- the client is there: there is no snapshot to take, and the data is old
    have hidle : g.receiving = none := by simpa [hwas] using hreceiving
    have hsnap : snapshotOf out.1 = none := by
      rcases Face.hears_client hears hrole with ⟨hnone, -⟩ | ⟨r, hr, -⟩
      · exact hnone
      · rw [show (v.clientFace g).grid.receiving = none from hidle] at hr
        cases hr
    have hsame : out.2.recvCursor.recvOffset = v.clientInp.recvOffset ∧ deliveredOf out.1 = [] := by
      rcases Face.hears_delivered hears hsnap with ⟨-, a, o, p, hsaid, hrec⟩ | ⟨hinp, hnothing, -⟩
      · have hrec : v.clientInp.receive o p = .ok (deliveredOf out.1, out.2.recvCursor) := hrec
        have hle := hold down List.mem_cons_self a o p hsaid
        obtain ⟨hlow, hbytes, -⟩ := ReceiveCursor.receive_ok hrec
        refine ⟨?_, ?_⟩
        · rw [ReceiveCursor.receive_recvOffset hrec]
          omega
        · rw [hbytes, List.drop_of_length_le (by omega)]
      · exact ⟨congrArg ReceiveCursor.recvOffset hinp, hnothing⟩
    left
    rw [cursorGen, got, inp, hsnap, hsame.1, hsame.2]
    refine ⟨hgen, by simpa using hgot, ?_, fun d hd => hbegins d (List.mem_cons_of_mem _ hd),
      fun d hd => hold d (List.mem_cons_of_mem _ hd)⟩
    rw [hnow]
    have hno := hbegins down List.mem_cons_self
    rw [hno, show (v.clientFace g).grid.receiving = none from hidle] at hsub
    exact List.sublist_nil.mp hsub
  · have hcons : (down :: pre).filterMap Down.begins =
        down.begins.toList ++ pre.filterMap Down.begins := by
      rw [List.filterMap_cons]
      cases down.begins <;> rfl
    rw [hcons, ← List.append_assoc, hwas] at hahead
    rcases Face.hears_client hears hrole with ⟨hsnap, -⟩ | ⟨r, hr, hsnap, -, hgrid⟩
    · -- not the GridEnd: it is among the frames left
      right
      refine ⟨hnil, fun d hd => hdata d (List.mem_cons_of_mem _ hd), ?_, fun x hx => ?_⟩
      · obtain ⟨d, hd, hsaid⟩ := hend
        rcases List.mem_cons.mp hd with rfl | hd
        · obtain ⟨r, -, hsome⟩ := Face.hears_gridEnd hears hsaid hfine
          rw [hsnap] at hsome
          cases hsome
        · exact ⟨d, hd, hsaid⟩
      · refine hahead x ?_
        rcases List.mem_append.mp hx with hx | hx
        · rw [hnow] at hx
          exact List.mem_append_left _ (hsub.subset hx)
        · exact List.mem_append_right _ hx
    · -- the GridEnd: the client enters the generation, and nothing was written in it
      left
      have hgen : r.streamGen = gen := hahead r.streamGen (by
        rw [show g.receiving = some r from hr]
        simp)
      have hcur : v'.cursorGen = gen := by
        rw [cursorGen, hsnap]
        exact hgen
      refine ⟨hcur, ?_, ?_, fun d hd => ?_, fun d hd a o p hsaid => ?_⟩
      · rw [got, hsnap]
        exact hnil.symm
      · rw [hnow, hgrid]
        rfl
      · by_contra hbegins
        obtain ⟨x, hx⟩ := Option.ne_none_iff_exists'.mp hbegins
        have hmem : x ∈ pre.filterMap Down.begins := List.mem_filterMap.mpr ⟨d, hd, hx⟩
        have hlater : v'.cursorGen < x ∧ x ≤ v'.gen := ord'.ahead_lt current (by
          rw [LinkView.ahead, downs]
          exact List.mem_append_right _ (List.mem_append_left _
            (List.mem_filterMap.mpr ⟨d, within hd, hx⟩)))
        have := hahead x (List.mem_append_right _ hmem)
        omega
      · have := hdata d (List.mem_cons_of_mem _ hd)
        rw [hsaid] at this
        cases this

/-- What a move does to the frames on their way to the client, and to what they promise. -/
inductive Move.Effect (v v' : View) (i : Nat) : Prop
  | fresh (empty : (v'.links i).toClient = [])
  | still (current : v.Current i)
      (longer : (v.links i).toClient.length ≤ (v'.links i).toClient.length)
      (kept : ∀ gen pre bytes, v.Promised i gen pre bytes → v'.Promised i gen pre bytes)
  | taken (current : v.Current i) (down : Down) (rest : List Down)
      (head : (v.links i).toClient = down :: rest) (left : (v'.links i).toClient = rest)
      (kept : ∀ gen pre bytes, pre ⊆ rest → v.Promised i gen (down :: pre) bytes →
        v'.Promised i gen pre bytes)

/-- Every move leaves the promises made on the client's connection as they were, or redeems part of
them. -/
lemma Move.effect (ord : v.Ordered cfg) (ord' : v'.Ordered cfg) (staged : v.Staged)
    (hmove : Move cfg v m v') {i : Nat} (current : v'.Current i) : Move.Effect v v' i := by
  have same : ∀ {w : View} {j : Nat} {l : LinkView}, w.links = v.links → w.opened = v.opened →
      w.cursorGen = v.cursorGen → w.clientGot = v.clientGot → w.clientInp = v.clientInp →
      l.receiving = (v.links j).receiving →
      (v.links j).toClient.length ≤ l.toClient.length →
      (l.clientDead = false → (v.links j).clientDead = false) → (w.putLink j l).Current i →
      Move.Effect v (w.putLink j l) i := by
    intro w j l hlinks hopened hcursor hgot hinp hreceiving hlonger halive hcur
    have hlinks' : (w.putLink j l).links = Function.update v.links j l := by
      rw [View.putLink, hlinks]
    obtain ⟨hreceiving, hlonger, halive⟩ := View.forall_links
      (p := fun k l => l.receiving = (v.links k).receiving ∧
        (v.links k).toClient.length ≤ l.toClient.length ∧
        (l.clientDead = false → (v.links k).clientDead = false))
      hlinks' ⟨hreceiving, hlonger, halive⟩
      (fun k _ => ⟨rfl, le_rfl, id⟩) i
    exact .still (hopened.symm.trans hcur) hlonger fun gen pre bytes hp =>
      hp.still hcursor hgot hinp hreceiving halive
  have unchanged : v'.links = v.links → v'.opened = v.opened → v'.cursorGen = v.cursorGen →
      v'.clientGot = v.clientGot → v'.clientInp = v.clientInp → Move.Effect v v' i := by
    intro hlinks hopened hcursor hgot hinp
    refine .still (hopened.symm.trans current) (by rw [hlinks]) fun gen pre bytes hp =>
      hp.still hcursor hgot hinp (by rw [hlinks]) (by rw [hlinks]; exact id)
  cases hmove with
  | agentQuiet j => exact same rfl rfl rfl rfl rfl rfl le_rfl id current
  | clientQuiet j dead errors alive =>
    refine same rfl rfl rfl rfl rfl rfl le_rfl (fun hdead => ?_) current
    have hdead : dead = false := hdead
    by_contra hwas
    rw [alive (by simpa using hwas)] at hdead
    cases hdead
  | clientOpen =>
    obtain rfl : v.opened = i := Nat.succ.inj current
    exact .fresh (by rw [View.links_putLink_self]; rfl)
  | route => exact same rfl rfl rfl rfl rfl rfl le_rfl id current
  | completeHandshake => exact same rfl rfl rfl rfl rfl rfl le_rfl id current
  | resumeRefused =>
    refine same rfl rfl rfl rfl rfl rfl le_rfl ?_ current
    rintro ⟨⟩
  | resumeStuck =>
    refine same rfl rfl rfl rfl rfl rfl le_rfl ?_ current
    rintro ⟨⟩
  | resumeSent j a b gen cur authOk =>
    obtain rfl : i = j := Nat.succ.inj (current.symm.trans cur)
    -- a connection that has not resumed has nothing on its way to the client
    have hnone := (staged i).offered (.inr (by rw [authOk]; rfl))
    refine .fresh ?_
    rw [View.links_putLink_self]
    exact (staged i).silent ((staged i).unresumed hnone).2
  | agentTurned => exact same rfl rfl rfl rfl rfl rfl le_rfl id current
  | agentRejected => exact same rfl rfl rfl rfl rfl rfl le_rfl id current
  | pathA => exact same rfl rfl rfl rfl rfl rfl le_rfl id current
  | pathB => exact same rfl rfl rfl rfl rfl rfl le_rfl id current
  | agentHears => exact same rfl rfl rfl rfl rfl rfl le_rfl id current
  | agentSays => exact same rfl rfl rfl rfl rfl rfl (by simp) id current
  | supplied => exact same rfl rfl rfl rfl rfl rfl le_rfl id current
  | clientTurned j down rest errors cur head =>
    obtain rfl : i = j := Nat.succ.inj (current.symm.trans cur)
    refine .taken cur down rest head (by rw [View.links_putLink_self]) fun gen pre bytes _ _ => ?_
    intro hdead
    rw [View.links_putLink_self] at hdead
    cases hdead
  | clientHears j down rest g out cur head alive grid hears =>
    obtain rfl : i = j := Nat.succ.inj (current.symm.trans cur)
    have hself := View.links_putLink_self
    refine .taken cur down rest head (by rw [hself]) fun gen pre bytes hpre hp => ?_
    exact hp.hears ord ord' current alive grid hears rfl rfl rfl (by rw [hself]) (by rw [hself])
      (by rw [hself]) hpre
  | clientSays j g said f cur grid speech =>
    obtain ⟨-, hinp⟩ := Face.says_buffer speech
    have hsame : f.grid.receiving = g.receiving := by
      cases speech <;> rfl
    refine same rfl rfl rfl rfl hinp ?_ le_rfl id current
    simp [LinkView.receiving, grid, hsame]
  | confirmApply j gen applied cur pending =>
    refine same rfl rfl rfl rfl rfl ?_ le_rfl id current
    cases hg : (v.links j).clientGrid with
    | none => simp [LinkView.receiving, hg]
    | some g =>
      have hrole := ((ord.link j).clientGrid g hg).1
      simp [LinkView.receiving, hg, hrole]
  | denyApply => exact same rfl rfl rfl rfl rfl rfl le_rfl id current
  | _ => exact unchanged rfl rfl rfl rfl rfl

end

end Zet.Net
