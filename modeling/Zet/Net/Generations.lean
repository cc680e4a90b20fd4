import Zet.Net.Refinement

/-!
# Which generation a position is in

An acknowledgement carries an offset and no generation. What keeps the two apart is order: positions
are sealed in the order the client reaches them, a snapshot's GridBegin travels in front of the data
of its generation, and the GridApplied of a generation in front of the first position counted in it.
`LinkOrdered` states that order for one connection and `View.Ordered` for the system; `Ordered.move`
shows that every move keeps it.

The conclusion is `Ordered.heard`: on the connection that holds the session, once GridApplied is no
longer awaited and no snapshot either, every frame on its way was sealed in the ring's own generation.
-/

namespace Zet.Net
open Zet.Core Zet.Wire Zet.Lib Zet.Session

/-- What a frame of an honest client says is its position. -/
def Up.Honest (u : Up) : Prop :=
  match u.said with
  | .resume gen offset => gen ≤ u.gen ∧ offset = u.pos % 256 ^ 8
  | .data ack _ _ => ack = u.pos % 256 ^ 8
  | .ack ack => ack = u.pos % 256 ^ 8
  | .gridApplied gen => gen ≤ u.gen
  | _ => True

/-- The generation a GridBegin opens. -/
def Down.begins (d : Down) : Option Nat :=
  match d.said with
  | .gridBegin gen => some gen
  | _ => none

/-- The generation of the snapshot the client is receiving. -/
def LinkView.receiving (l : LinkView) : List Nat :=
  ((l.clientGrid.bind GridState.receiving).map GridReception.streamGen).toList

/-- The generation of a snapshot whose GridBegin has not been sealed yet. -/
def LinkView.unsent (l : LinkView) : List Nat :=
  (((l.agentGrid.bind GridState.emitting).filter fun ge => !ge.beginSent).map
    GridEmission.streamGen).toList

/-- The generations the client has yet to enter on this connection, in the order it will. -/
def LinkView.ahead (l : LinkView) : List Nat :=
  l.receiving ++ (l.toClient.filterMap Down.begins ++ l.unsent)

/-- Of what is ahead, a frame the client takes is the first, or none of it. -/
lemma LinkView.ahead_popDown {l : LinkView} {d : Down} {rest : List Down} {g : Option GridState}
    {dead : Bool} {pending : Option Nat} (head : l.toClient = d :: rest)
    (receiving : ((g.bind GridState.receiving).map GridReception.streamGen).toList.Sublist
      (l.receiving ++ d.begins.toList)) :
    ({ l with
      toClient := rest, clientGrid := g, clientDead := dead
      pendingApply := pending } : LinkView).ahead.Sublist l.ahead := by
  have hcons : l.toClient.filterMap Down.begins =
      d.begins.toList ++ rest.filterMap Down.begins := by
    rw [head, List.filterMap_cons]
    cases d.begins <;> rfl
  simp only [LinkView.ahead, LinkView.unsent, hcons]
  rw [List.append_assoc, ← List.append_assoc l.receiving]
  exact List.Sublist.append_right receiving _

/-- The client sends nothing that is ahead of it. -/
lemma LinkView.ahead_sendUp {l : LinkView} {u : Up} {g : GridState} {a : Option Nat}
    (receiving : g.receiving = none ∨ l.clientGrid.bind GridState.receiving = g.receiving) :
    ({ l with authOk := a, clientGrid := some g, toAgent := l.toAgent ++ [u] } : LinkView).ahead.Sublist
      l.ahead := by
  refine List.Sublist.append_right ?_ _
  simp only [LinkView.receiving, Option.bind_some]
  rcases receiving with hnone | heq
  · simp [hnone]
  · rw [← heq]

/-- A frame sent by the agent takes at most its own GridBegin from what is unsent. -/
lemma LinkView.ahead_sendDown {l : LinkView} {d : Down} {g : GridState}
    (h : (d.begins.toList ++ ((g.emitting.filter fun ge => !ge.beginSent).map
      GridEmission.streamGen).toList).Sublist l.unsent) :
    ({ l with agentGrid := some g, toClient := l.toClient ++ [d] } : LinkView).ahead.Sublist
      l.ahead := by
  have hone : [d].filterMap Down.begins = d.begins.toList := by
    cases hd : d.begins <;> simp [hd]
  simp only [LinkView.ahead, LinkView.receiving, List.filterMap_append, hone, List.append_assoc]
  refine List.Sublist.append_left (List.Sublist.append_left ?_ _) _
  simpa only [LinkView.unsent, Option.bind_some] using h

/-- The numbers the order is about: the ring's generation, the client's, how much of it the client
holds, and how much was written in the ring's. -/
structure Levels where
  gen : Nat
  cursorGen : Nat
  pos : Nat
  written : Nat

/-- The order on one connection. `current`: the client reads it; `holder`: it holds the session. -/
structure LinkOrdered (cfg : Config) (n : Levels) (current holder : Prop) (l : LinkView) : Prop where
  ups : ∀ u ∈ l.toAgent, u.gen ≤ n.cursorGen ∧ (u.gen = n.cursorGen → u.pos ≤ n.pos) ∧ u.Honest
  upSorted : l.toAgent.Pairwise (·.gen ≤ ·.gen)
  pendingApply : ∀ gen, l.pendingApply = some gen → gen ≤ n.cursorGen
  clientGrid : ∀ g, l.clientGrid = some g →
    g.role = .client ∧ ∀ gen, g.pendingApplied = some gen → gen ≤ n.cursorGen
  downs : ∀ d ∈ l.toClient, d.gen ≤ n.gen ∧ ∀ gen, d.begins = some gen → gen ≤ d.gen
  downSorted : l.toClient.Pairwise (·.gen ≤ ·.gen)
  fresh : current → ∀ d ∈ l.toClient, n.cursorGen ≤ d.gen ∧
    ∀ gen ∈ l.receiving, gen ≤ d.gen
  written : current → ∀ d ∈ l.toClient, d.gen = n.gen → ∀ ack offset payload,
    d.said = .data ack offset payload → offset + payload.length ≤ n.written
  ahead : current → l.ahead.Pairwise (· < ·) ∧ ∀ gen ∈ l.ahead, n.cursorGen < gen ∧ gen ≤ n.gen
  agentGrid : ∀ g, l.agentGrid = some g → g.role = .agent ∧
    ∀ ge, g.emitting = some ge → ge.streamGen ≤ n.gen ∧ g.awaitingApplied = true
  waiting : l.waiting = true → cfg.capable ∧
    ∃ g, l.agentGrid = some g ∧ g.emitting = none ∧ g.awaitingApplied = false
  holder : holder → l.agentDead = false → ∀ g, l.agentGrid = some g →
    (g.awaitingApplied = true → g.expectedGen = n.gen) ∧
    (g.awaitingApplied = false → l.waiting = false →
      n.cursorGen = n.gen ∧ ∀ u ∈ l.toAgent, u.gen = n.gen)

/-- The order in the whole system. -/
structure View.Ordered (cfg : Config) (v : View) : Prop where
  cursor_le : v.cursorGen ≤ v.gen
  applied_le : v.applied ≤ v.cursorGen
  small : v.gen < 2 ^ 32
  incapable : ¬cfg.capable → v.gen = 0
  receipt : v.clientInp.ack = .onReceipt ∧ v.clientInp.pending = 0
  held : v.cursorGen = v.gen → v.clientInp.recvOffset ≤ v.agentLog.length
  link : ∀ i, LinkOrdered cfg ⟨v.gen, v.cursorGen, v.clientInp.ackOffset, v.agentLog.length⟩
    (v.Current i) (v.Holder i) (v.links i)

section
variable {cfg : Config} {n n' : Levels} {current current' holder holder' : Prop} {l : LinkView}

/-- Nothing on the connection changed, and the numbers only grew within their generations. -/
lemma LinkOrdered.mono (h : LinkOrdered cfg n current holder l) (gen : n'.gen = n.gen)
    (cursorGen : n'.cursorGen = n.cursorGen) (pos : n.pos ≤ n'.pos) (written : n.written ≤ n'.written)
    (hc : current' → current) (hh : holder' → holder) : LinkOrdered cfg n' current' holder' l where
  ups u hu := by
    rw [cursorGen]
    exact ⟨(h.ups u hu).1, fun heq => ((h.ups u hu).2.1 heq).trans pos, (h.ups u hu).2.2⟩
  upSorted := h.upSorted
  pendingApply := cursorGen ▸ h.pendingApply
  clientGrid := cursorGen ▸ h.clientGrid
  downs := gen ▸ h.downs
  downSorted := h.downSorted
  fresh hcur := by
    rw [cursorGen]
    exact h.fresh (hc hcur)
  written hcur d hd hgen a o p hsaid :=
    (h.written (hc hcur) d hd (gen ▸ hgen) a o p hsaid).trans written
  ahead hcur := by
    rw [cursorGen, gen]
    exact h.ahead (hc hcur)
  agentGrid := gen ▸ h.agentGrid
  waiting := h.waiting
  holder hhold := by
    rw [gen, cursorGen]
    exact h.holder (hh hhold)

/-- A new generation, on a connection that does not hold the session. -/
lemma LinkOrdered.newGeneration (h : LinkOrdered cfg n current holder l)
    (gen : n'.gen = n.gen + 1) (cursorGen : n'.cursorGen = n.cursorGen) (pos : n'.pos = n.pos)
    (hc : current' → current) (hh : ¬holder') : LinkOrdered cfg n' current' holder' l where
  ups u hu := by
    rw [cursorGen, pos]
    exact h.ups u hu
  upSorted := h.upSorted
  pendingApply := cursorGen ▸ h.pendingApply
  clientGrid := cursorGen ▸ h.clientGrid
  downs d hd := ⟨gen ▸ (h.downs d hd).1.trans (Nat.le_succ _), (h.downs d hd).2⟩
  downSorted := h.downSorted
  fresh hcur := by
    rw [cursorGen]
    exact h.fresh (hc hcur)
  written hcur d hd hgen := by
    have := (h.downs d hd).1
    omega
  ahead hcur := by
    obtain ⟨hsorted, hbetween⟩ := h.ahead (hc hcur)
    refine ⟨hsorted, fun g hg => ?_⟩
    have := hbetween g hg
    omega
  agentGrid g hg := by
    obtain ⟨hrole, hemit⟩ := h.agentGrid g hg
    refine ⟨hrole, fun ge hge => ?_⟩
    have := hemit ge hge
    exact ⟨by omega, this.2⟩
  waiting := h.waiting
  holder hhold := absurd hhold hh

/-- The client enters a later generation, on a connection it does not read. -/
lemma LinkOrdered.newCursor (h : LinkOrdered cfg n current holder l) (gen : n'.gen = n.gen)
    (cursorGen : n.cursorGen < n'.cursorGen) (cursor_le : n'.cursorGen ≤ n.gen) (hc : ¬current')
    (hh : holder' → holder) :
    LinkOrdered cfg n' current' holder' l where
  ups u hu := by
    have := (h.ups u hu).1
    exact ⟨by omega, fun heq => by omega, (h.ups u hu).2.2⟩
  upSorted := h.upSorted
  pendingApply g hg := by
    have := h.pendingApply g hg
    omega
  clientGrid g hg := by
    refine ⟨(h.clientGrid g hg).1, fun p hp => ?_⟩
    have := (h.clientGrid g hg).2 p hp
    omega
  downs := gen ▸ h.downs
  downSorted := h.downSorted
  fresh hcur := absurd hcur hc
  written hcur := absurd hcur hc
  ahead hcur := absurd hcur hc
  agentGrid := gen ▸ h.agentGrid
  waiting := h.waiting
  holder hhold hdead g hg := by
    obtain ⟨hawait, hfree⟩ := h.holder (hh hhold) hdead g hg
    refine ⟨gen ▸ hawait, fun hno hwait => ?_⟩
    have := (hfree hno hwait).1
    omega

/-- A connection that carries nothing is in order. -/
lemma LinkOrdered.unused : LinkOrdered cfg n current holder .unused where
  ups u hu := by cases hu
  upSorted := .nil
  pendingApply g hg := by cases hg
  clientGrid g hg := by cases hg
  downs d hd := by cases hd
  downSorted := .nil
  fresh _ d hd := by cases hd
  written _ d hd := by cases hd
  ahead _ := ⟨.nil, fun g hg => by cases hg⟩
  agentGrid g hg := by cases hg
  waiting h := by cases h
  holder _ _ g hg := by cases hg

/-- Everything on its way to the agent in the ring's generation, if the first one is. -/
lemma LinkOrdered.rest_gen {u : Up} {rest : List Up} (h : LinkOrdered cfg n current holder l)
    (head : l.toAgent = u :: rest) (cursor_le : n.cursorGen ≤ n.gen) (first : n.gen ≤ u.gen) :
    ∀ w ∈ u :: rest, w.gen = n.gen := by
  intro w hw
  have hle := (h.ups w (head ▸ hw)).1
  have hsorted := h.upSorted
  rw [head, List.pairwise_cons] at hsorted
  rcases List.mem_cons.mp hw with rfl | hmem
  · omega
  · have := hsorted.1 w hmem
    omega

/-- The client sends a frame at its position. -/
lemma LinkOrdered.sendUp (h : LinkOrdered cfg n current holder l) {u : Up}
    (gen : u.gen = n.cursorGen) (pos : u.pos = n.pos) (honest : u.Honest) {g : GridState}
    (hg : g.role = .client ∧ ∀ gen, g.pendingApplied = some gen → gen ≤ n.cursorGen)
    (receiving : g.receiving = none ∨ l.clientGrid.bind GridState.receiving = g.receiving)
    {a : Option Nat} :
    LinkOrdered cfg n current holder
      { l with authOk := a, clientGrid := some g, toAgent := l.toAgent ++ [u] } := by
  have hsub : ((g.receiving.map GridReception.streamGen).toList).Sublist l.receiving := by
    rcases receiving with hnone | heq
    · simp [hnone]
    · rw [← heq]
      exact List.Sublist.refl _
  refine ⟨?_, ?_, h.pendingApply, ?_, h.downs, h.downSorted, ?_, h.written, ?_, h.agentGrid,
    h.waiting, ?_⟩
  · intro w hw
    rcases List.mem_append.mp hw with hw | hw
    · exact h.ups w hw
    · obtain rfl := List.mem_singleton.mp hw
      exact ⟨gen.le, fun _ => pos.le, honest⟩
  · rw [List.pairwise_append]
    refine ⟨h.upSorted, by simp, fun w hw w' hw' => ?_⟩
    obtain rfl := List.mem_singleton.mp hw'
    rw [gen]
    exact (h.ups w hw).1
  · rintro g' ⟨⟩
    exact hg
  · intro hcur d hd
    exact ⟨(h.fresh hcur d hd).1, fun k hk => (h.fresh hcur d hd).2 k (hsub.subset hk)⟩
  · intro hcur
    obtain ⟨hsorted, hbetween⟩ := h.ahead hcur
    have hall := LinkView.ahead_sendUp (u := u) (a := a) receiving
    exact ⟨hsorted.sublist hall, fun k hk => hbetween k (hall.subset hk)⟩
  · intro hhold hdead g' hg'
    obtain ⟨hawait, hfree⟩ := h.holder hhold hdead g' hg'
    refine ⟨hawait, fun hno hwait => ?_⟩
    obtain ⟨hcursor, hall⟩ := hfree hno hwait
    refine ⟨hcursor, fun w hw => ?_⟩
    rcases List.mem_append.mp hw with hw | hw
    · exact hall w hw
    · obtain rfl := List.mem_singleton.mp hw
      exact gen.trans hcursor

/-- Nothing of the order is touched. -/
lemma LinkOrdered.touch (h : LinkOrdered cfg n current holder l) {dead clientDead : Bool}
    {routed authOk pending : Option Nat} (alive : l.agentDead = true → dead = true)
    (hpending : ∀ gen, pending = some gen → gen ≤ n.cursorGen) :
    LinkOrdered cfg n current holder { l with
      agentDead := dead, clientDead := clientDead, routed := routed, authOk := authOk
      pendingApply := pending } where
  ups := h.ups
  upSorted := h.upSorted
  pendingApply := hpending
  clientGrid := h.clientGrid
  downs := h.downs
  downSorted := h.downSorted
  fresh := h.fresh
  written := h.written
  ahead := h.ahead
  agentGrid := h.agentGrid
  waiting := h.waiting
  holder hhold hdead := by
    refine h.holder hhold ?_
    by_contra hwas
    rw [alive (by simpa using hwas)] at hdead
    cases hdead

/-- The caller has applied the snapshot it was handed. -/
lemma LinkOrdered.confirm (h : LinkOrdered cfg n current holder l) {gen : Nat}
    (le : gen ≤ n.cursorGen) : LinkOrdered cfg n current holder { l with
      pendingApply := none
      clientGrid := l.clientGrid.map fun g =>
        if g.role = .client then { g with pendingApplied := some gen } else g } := by
  have hsame : (l.clientGrid.map fun g =>
      if g.role = .client then { g with pendingApplied := some gen } else g).bind
        GridState.receiving = l.clientGrid.bind GridState.receiving := by
    cases hg : l.clientGrid with
    | none => rfl
    | some g => simp [(h.clientGrid g hg).1]
  refine ⟨h.ups, h.upSorted, by simp, ?_, h.downs, h.downSorted, ?_, h.written, ?_, h.agentGrid,
    h.waiting, h.holder⟩
  · intro g' hg'
    obtain ⟨g, hg, rfl⟩ := Option.map_eq_some_iff.mp hg'
    have hrole := (h.clientGrid g hg).1
    rw [if_pos hrole]
    refine ⟨hrole, fun k hk => ?_⟩
    cases hk
    exact le
  · simpa only [LinkView.receiving, hsame] using h.fresh
  · simpa only [LinkView.ahead, LinkView.receiving, LinkView.unsent, hsame] using h.ahead

/-- The agent takes a frame and attaches, or fails, or goes on as before. -/
lemma LinkOrdered.popUp (h : LinkOrdered cfg n current holder l) {u : Up} {rest : List Up}
    (head : l.toAgent = u :: rest) {g : Option GridState} {dead waiting : Bool}
    (agentGrid : ∀ g', g = some g' → g'.role = .agent ∧
      ∀ ge, g'.emitting = some ge → ge.streamGen ≤ n.gen ∧ g'.awaitingApplied = true)
    (unsent : (g.bind GridState.emitting) = l.agentGrid.bind GridState.emitting)
    (hwaiting : waiting = true → cfg.capable ∧
      ∃ g', g = some g' ∧ g'.emitting = none ∧ g'.awaitingApplied = false)
    (hholder : holder' → dead = false → ∀ g', g = some g' →
      (g'.awaitingApplied = true → g'.expectedGen = n.gen) ∧
      (g'.awaitingApplied = false → waiting = false →
        n.cursorGen = n.gen ∧ ∀ w ∈ rest, w.gen = n.gen)) :
    LinkOrdered cfg n current holder'
      { l with toAgent := rest, agentGrid := g, agentDead := dead, waiting := waiting } where
  ups w hw := h.ups w (head ▸ List.mem_cons_of_mem u hw)
  upSorted := by
    have := h.upSorted
    rw [head] at this
    exact this.of_cons
  pendingApply := h.pendingApply
  clientGrid := h.clientGrid
  downs := h.downs
  downSorted := h.downSorted
  fresh := h.fresh
  written := h.written
  ahead hcur := by
    have := h.ahead hcur
    simpa only [LinkView.ahead, LinkView.receiving, LinkView.unsent, unsent] using this
  agentGrid := agentGrid
  waiting := hwaiting
  holder := hholder

/-- The agent sends a frame in the ring's generation. -/
lemma LinkOrdered.sendDown (h : LinkOrdered cfg n current holder l) {d : Down}
    (gen : d.gen = n.gen) (cursor_le : n.cursorGen ≤ n.gen)
    (begins : ∀ gen, d.begins = some gen → gen ≤ d.gen)
    (written : ∀ ack offset payload, d.said = .data ack offset payload →
      offset + payload.length ≤ n.written) {g : GridState}
    (agentGrid : g.role = .agent ∧
      ∀ ge, g.emitting = some ge → ge.streamGen ≤ n.gen ∧ g.awaitingApplied = true)
    (ahead : ({ l with agentGrid := some g, toClient := l.toClient ++ [d] } : LinkView).ahead.Sublist
      l.ahead)
    (hwaiting : l.waiting = true → g.emitting = none ∧ g.awaitingApplied = false)
    (hholder : l.agentDead = false →
      (g.awaitingApplied = true → g.expectedGen = n.gen) ∧
      (g.awaitingApplied = false → l.waiting = false →
        n.cursorGen = n.gen ∧ ∀ w ∈ l.toAgent, w.gen = n.gen)) :
    LinkOrdered cfg n current holder
      { l with agentGrid := some g, toClient := l.toClient ++ [d] } where
  ups := h.ups
  upSorted := h.upSorted
  pendingApply := h.pendingApply
  clientGrid := h.clientGrid
  downs e he := by
    rcases List.mem_append.mp he with he | he
    · exact h.downs e he
    · obtain rfl := List.mem_singleton.mp he
      exact ⟨gen.le, begins⟩
  downSorted := by
    rw [List.pairwise_append]
    refine ⟨h.downSorted, by simp, fun e he e' he' => ?_⟩
    obtain rfl := List.mem_singleton.mp he'
    rw [gen]
    exact (h.downs e he).1
  fresh hcur e he := by
    rcases List.mem_append.mp he with he | he
    · exact h.fresh hcur e he
    · obtain rfl := List.mem_singleton.mp he
      rw [gen]
      refine ⟨cursor_le, fun k hk => ?_⟩
      exact ((h.ahead hcur).2 k (List.mem_append_left _ hk)).2
  written hcur e he := by
    rcases List.mem_append.mp he with he | he
    · exact h.written hcur e he
    · obtain rfl := List.mem_singleton.mp he
      exact fun _ => written
  ahead hcur := by
    obtain ⟨hsorted, hbetween⟩ := h.ahead hcur
    exact ⟨hsorted.sublist ahead, fun k hk => hbetween k (ahead.subset hk)⟩
  agentGrid g' hg' := by
    cases hg'
    exact agentGrid
  waiting hwait := ⟨(h.waiting hwait).1, g, rfl, hwaiting hwait⟩
  holder _ hdead g' hg' := by
    cases hg'
    exact hholder hdead

/-- The client takes a frame, within the generation it is in. -/
lemma LinkOrdered.popDown (h : LinkOrdered cfg n current holder l) {d : Down} {rest : List Down}
    (head : l.toClient = d :: rest) {g : Option GridState} {dead : Bool} {pending : Option Nat}
    (gen : n'.gen = n.gen) (cursorGen : n'.cursorGen = n.cursorGen) (pos : n.pos ≤ n'.pos)
    (written : n'.written = n.written)
    (clientGrid : ∀ g', g = some g' →
      g'.role = .client ∧ ∀ gen, g'.pendingApplied = some gen → gen ≤ n.cursorGen)
    (receiving : ((g.bind GridState.receiving).map GridReception.streamGen).toList.Sublist
      (l.receiving ++ d.begins.toList))
    (hpending : pending = l.pendingApply) :
    LinkOrdered cfg n' current holder
      { l with toClient := rest, clientGrid := g, clientDead := dead, pendingApply := pending } where
  ups u hu := by
    rw [cursorGen]
    exact ⟨(h.ups u hu).1, fun heq => ((h.ups u hu).2.1 heq).trans pos, (h.ups u hu).2.2⟩
  upSorted := h.upSorted
  pendingApply := by
    rw [cursorGen, hpending]
    exact h.pendingApply
  clientGrid := cursorGen ▸ clientGrid
  downs e he := by
    rw [gen]
    exact h.downs e (head ▸ List.mem_cons_of_mem d he)
  downSorted := by
    have := h.downSorted
    rw [head] at this
    exact this.of_cons
  fresh hcur e he := by
    have hmem : e ∈ l.toClient := head ▸ List.mem_cons_of_mem d he
    rw [cursorGen]
    refine ⟨(h.fresh hcur e hmem).1, fun k hk => ?_⟩
    rcases List.mem_append.mp (receiving.subset hk) with hk | hk
    · exact (h.fresh hcur e hmem).2 k hk
    · have hd : d ∈ l.toClient := head ▸ List.mem_cons_self
      have hle := (h.downs d hd).2 k (by simpa using hk)
      have hsorted := h.downSorted
      rw [head, List.pairwise_cons] at hsorted
      exact hle.trans (hsorted.1 e he)
  written hcur e he := by
    rw [gen, written]
    exact h.written hcur e (head ▸ List.mem_cons_of_mem d he)
  ahead hcur := by
    obtain ⟨hsorted, hbetween⟩ := h.ahead hcur
    have hsub : ({ l with
        toClient := rest, clientGrid := g, clientDead := dead
        pendingApply := pending } : LinkView).ahead.Sublist l.ahead :=
      LinkView.ahead_popDown head receiving
    rw [cursorGen, gen]
    exact ⟨hsorted.sublist hsub, fun k hk => hbetween k (hsub.subset hk)⟩
  agentGrid := gen ▸ h.agentGrid
  waiting := h.waiting
  holder hhold := by
    rw [gen, cursorGen]
    exact h.holder hhold

/-- The client takes the GridEnd of the snapshot it was receiving, and enters its generation. -/
lemma LinkOrdered.popGridEnd (h : LinkOrdered cfg n current holder l) (hcur : current) {d : Down}
    {rest : List Down} {r : GridReception} {g g' : GridState} (head : l.toClient = d :: rest)
    (grid : l.clientGrid = some g) (receiving : g.receiving = some r)
    (gen : n'.gen = n.gen) (cursorGen : n'.cursorGen = r.streamGen)
    (written : n'.written = n.written)
    (role : g'.role = .client) (pendingApplied : g'.pendingApplied = g.pendingApplied)
    (done : g'.receiving = none) {dead : Bool} :
    LinkOrdered cfg n' current holder
      { l with
        toClient := rest, clientGrid := some g', clientDead := dead
        pendingApply := some r.streamGen } := by
  obtain ⟨hsorted, hbetween⟩ := h.ahead hcur
  have hahead : l.ahead = r.streamGen ::
      (l.toClient.filterMap Down.begins ++ l.unsent) := by
    simp [LinkView.ahead, LinkView.receiving, grid, receiving]
  rw [hahead] at hsorted hbetween
  have hlater := hbetween r.streamGen List.mem_cons_self
  rw [List.pairwise_cons] at hsorted
  have hmem : ∀ e ∈ rest, e ∈ l.toClient := fun e he => head ▸ List.mem_cons_of_mem d he
  refine ⟨?_, h.upSorted, ?_, ?_, ?_, ?_, ?_, ?_, ?_, gen ▸ h.agentGrid, h.waiting, ?_⟩
  · intro u hu
    have := (h.ups u hu).1
    exact ⟨by omega, fun heq => by omega, (h.ups u hu).2.2⟩
  · rintro k ⟨⟩
    exact cursorGen.ge
  · rintro g'' ⟨⟩
    refine ⟨role, fun k hk => ?_⟩
    have := (h.clientGrid g grid).2 k (pendingApplied ▸ hk)
    omega
  · intro e he
    rw [gen]
    exact h.downs e (hmem e he)
  · have := h.downSorted
    rw [head] at this
    exact this.of_cons
  · intro _ e he
    rw [cursorGen]
    refine ⟨(h.fresh hcur e (hmem e he)).2 r.streamGen ?_, ?_⟩
    · simp [LinkView.receiving, grid, receiving]
    · simp [LinkView.receiving, done]
  · intro _ e he
    rw [gen, written]
    exact h.written hcur e (hmem e he)
  · intro _
    have hsub : ({ l with
        toClient := rest, clientGrid := some g', clientDead := dead
        pendingApply := some r.streamGen } : LinkView).ahead.Sublist
        (l.toClient.filterMap Down.begins ++ l.unsent) := by
      simp only [LinkView.ahead, LinkView.receiving, LinkView.unsent, Option.bind_some, done,
        Option.map_none, Option.toList_none, List.nil_append, head]
      exact List.Sublist.append_right ((List.sublist_cons_self d rest).filterMap _) _
    refine ⟨hsorted.2.sublist hsub, fun k hk => ?_⟩
    have hk' := hsub.subset hk
    have := hsorted.1 k hk'
    have := hbetween k (List.mem_cons_of_mem _ hk')
    omega
  · intro hhold hdead g'' hg''
    obtain ⟨hawait, hfree⟩ := h.holder hhold hdead g'' hg''
    refine ⟨gen ▸ hawait, fun hno hwait => ?_⟩
    have := (hfree hno hwait).1
    omega

end

/-- A new generation still fits the 32 bits it is counted in. -/
def GenFits (v : View) (m : Mark) : Prop := m = .supplied → v.gen + 1 < 2 ^ 32

section
variable {cfg : Config} {v v' : View} {m : Mark}

/-- Only a snapshot supplied to a connection that waits for it begins a generation. -/
lemma Move.gen_cases (hmove : Move cfg v m v') :
    v'.gen = v.gen ∨ (m = .supplied ∧ (∃ i, (v.links i).waiting = true) ∧
      v'.gen = v.out.newGeneration.sessionGen ∧ v'.agentTaken = []) := by
  cases hmove with
  | pathA i gen off up rest b head said first alive known replay attach =>
    obtain ⟨rfl, -, -⟩ := SendBuffer.resetSendNext_ok attach
    exact .inl rfl
  | agentHears i up rest g out head holder alive grid hears =>
    obtain ⟨base, next, hbuf⟩ := Face.hears_buffer hears
    exact .inl ((congrArg SendBuffer.sessionGen hbuf).trans rfl)
  | agentSays i g said f holder grid speech =>
    obtain ⟨⟨next, hbuf⟩, -⟩ := Face.says_buffer speech
    exact .inl ((congrArg SendBuffer.sessionGen hbuf).trans rfl)
  | supplied i g g' holder waiting => exact .inr ⟨rfl, ⟨i, waiting⟩, rfl, rfl⟩
  | agentWrite => exact .inl (SendBuffer.append_sessionGen ..)
  | agentOverflow => exact .inl (SendBuffer.append_sessionGen ..)
  | _ => exact .inl rfl

/-- The client acknowledges all it has received. -/
lemma View.Ordered.pos_eq (h : v.Ordered cfg) : v.clientInp.ackOffset = v.clientInp.recvOffset := by
  rw [ReceiveCursor.ackOffset, h.receipt.2, Nat.sub_zero]

/-- A move that changes one connection, within the generations there are. -/
lemma View.Ordered.put (h : v.Ordered cfg) {i : Nat} {l : LinkView}
    (links : v'.links = Function.update v.links i l) (gen : v'.gen = v.gen)
    (cursorGen : v'.cursorGen = v.cursorGen) (applied : v'.applied ≤ v.cursorGen)
    (receipt : v'.clientInp.ack = .onReceipt ∧ v'.clientInp.pending = 0)
    (pos : v.clientInp.recvOffset ≤ v'.clientInp.recvOffset)
    (log : v.agentLog.length ≤ v'.agentLog.length) (opened : v'.opened = v.opened)
    (holder : ∀ j, j ≠ i → v'.Holder j → v.Holder j)
    (held : v.cursorGen = v.gen → v'.clientInp.recvOffset ≤ v'.agentLog.length)
    (hl : LinkOrdered cfg ⟨v.gen, v.cursorGen, v'.clientInp.ackOffset, v'.agentLog.length⟩
      (v.Current i) (v'.Holder i) l) : v'.Ordered cfg where
  cursor_le := by
    rw [cursorGen, gen]
    exact h.cursor_le
  applied_le := cursorGen ▸ applied
  small := gen ▸ h.small
  incapable := gen ▸ h.incapable
  receipt := receipt
  held heq := held (by rw [← cursorGen, ← gen, heq])
  link j := by
    have hpos : v.clientInp.ackOffset ≤ v'.clientInp.ackOffset := by
      rw [h.pos_eq, ReceiveCursor.ackOffset, receipt.2, Nat.sub_zero]
      exact pos
    have hcur : v'.Current j ↔ v.Current j := by rw [View.Current, View.Current, opened]
    rw [links, gen, cursorGen]
    by_cases hj : j = i
    · subst hj
      rw [Function.update_self]
      exact hl.mono rfl rfl le_rfl le_rfl hcur.mp id
    · rw [Function.update_of_ne hj]
      exact (h.link j).mono rfl rfl hpos log hcur.mp (holder j hj)

/-- A move that changes no connection. -/
lemma View.Ordered.keep (h : v.Ordered cfg) (links : v'.links = v.links) (gen : v'.gen = v.gen)
    (cursorGen : v'.cursorGen = v.cursorGen) (applied : v'.applied = v.applied)
    (clientInp : v'.clientInp = v.clientInp)
    (log : v.agentLog.length ≤ v'.agentLog.length) (opened : v'.opened = v.opened)
    (holder : ∀ j, v'.Holder j → v.Holder j) : v'.Ordered cfg := by
  refine h.put (i := 0) (l := v.links 0) (by rw [links, Function.update_eq_self]) gen cursorGen
    (applied ▸ h.applied_le) (clientInp ▸ h.receipt) (by rw [clientInp]) log opened
    (fun j _ => holder j) ?_ ?_
  · intro heq
    rw [clientInp]
    exact (h.held heq).trans log
  · rw [clientInp]
    exact (h.link 0).mono rfl rfl le_rfl log id (holder 0)

/-- Hearing a frame keeps the order. -/
lemma View.Ordered.agentHears (h : v.Ordered cfg) {i : Nat} {up : Up} {rest : List Up}
    {g : GridState} {out : Except SessionError IncomingEvent × Face}
    (head : (v.links i).toAgent = up :: rest) (holder : v.Holder i)
    (alive : (v.links i).agentDead = false) (grid : (v.links i).agentGrid = some g)
    (hears : (v.agentFace g).Hears up.said out) {got : Bytes} {errors : List SessionError}
    {dead : Bool} :
    (View.putLink { v with
        out := out.2.sendBuf, inp := out.2.recvCursor, agentGot := got, agentErrors := errors } i
      { v.links i with
        toAgent := rest, agentGrid := some out.2.grid, agentDead := dead }).Ordered cfg := by
  have hlink := h.link i
  obtain ⟨hrole, hemit⟩ := hlink.agentGrid g grid
  obtain ⟨hawait, hfree⟩ := hlink.holder holder alive g grid
  obtain ⟨base, next, hbuf⟩ := Face.hears_buffer hears
  have hgen : out.2.sendBuf.sessionGen = v.out.sessionGen := by
    rw [hbuf]
    rfl
  refine h.put rfl hgen rfl h.applied_le h.receipt le_rfl le_rfl rfl (fun j _ hj => hj) h.held ?_
  have hpop : LinkOrdered cfg
      ⟨v.gen, v.cursorGen, v.clientInp.ackOffset, v.agentLog.length⟩ (v.Current i) (v.Holder i)
      { v.links i with
        toAgent := rest, agentGrid := some out.2.grid, agentDead := dead
        waiting := (v.links i).waiting } := by
    rcases Face.hears_agentGrid hears hrole with heq | ⟨hsaid, hwas, hdone, heq⟩
    · rw [heq]
      refine hlink.popUp head ?_ (by simp [grid, View.agentFace]) ?_ ?_
      · rintro g' ⟨⟩
        exact ⟨hrole, hemit⟩
      · intro hwait
        obtain ⟨hcap, g', hg', hrest⟩ := hlink.waiting hwait
        rw [grid] at hg'
        cases hg'
        exact ⟨hcap, g, rfl, hrest⟩
      · rintro - - g' ⟨⟩
        refine ⟨hawait, fun hno hwait => ?_⟩
        obtain ⟨hcur, hall⟩ := hfree hno hwait
        exact ⟨hcur, fun w hw => hall w (head ▸ List.mem_cons_of_mem up hw)⟩
    · -- the GridApplied was sealed in the ring's generation, so all behind it were
      have hhonest := (hlink.ups up (head ▸ List.mem_cons_self)).2.2
      simp only [Up.Honest, hsaid] at hhonest
      have hexpected : g.expectedGen = v.gen := hawait hwas
      have hall := hlink.rest_gen head h.cursor_le (by
        simp only [View.agentFace] at hhonest
        exact hexpected ▸ hhonest)
      rw [heq]
      refine hlink.popUp head ?_ ?_ ?_ ?_
      · rintro g' ⟨⟩
        refine ⟨hrole, fun ge hge => ?_⟩
        rw [show (v.agentFace g).grid.emitting = none from hdone] at hge
        cases hge
      · simp [grid, View.agentFace]
      · intro hwait
        obtain ⟨-, g', hg', -, hno⟩ := hlink.waiting hwait
        rw [grid] at hg'
        cases hg'
        rw [show g.awaitingApplied = true from hwas] at hno
        cases hno
      · rintro - - g' ⟨⟩
        refine ⟨by simp, fun _ _ => ⟨?_, fun w hw => hall w (List.mem_cons_of_mem up hw)⟩⟩
        have hup := (hlink.ups up (head ▸ List.mem_cons_self)).1
        have := hall up List.mem_cons_self
        have hle := h.cursor_le
        simp only at this hup ⊢
        omega
  exact hpop

end

section
variable {cfg : Config} {v v' : View} {m : Mark}

/-- What the agent says puts nothing ahead of the client that was not to come. -/
lemma View.Ordered.ahead_spoken (h : v.Ordered cfg) {i : Nat} {g : GridState} {said : Said} {f : Face}
    (grid : (v.links i).agentGrid = some g) (speech : (v.agentFace g).Says said f) :
    ({ v.links i with
      agentGrid := some f.grid
      toClient := (v.links i).toClient ++ [⟨said, v.gen⟩] } : LinkView).ahead.Sublist
      (v.links i).ahead := by
  have hunsent : (v.links i).unsent =
      ((g.emitting.filter fun ge => !ge.beginSent).map GridEmission.streamGen).toList := by
    simp [LinkView.unsent, grid]
  apply LinkView.ahead_sendDown
  rw [hunsent]
  cases speech with
  | gridApplied client => simp [View.agentFace, ((h.link i).agentGrid g grid).1] at client
  | @gridBegin ge _ agent emitting first said_eq =>
    have hge : ge.streamGen ≤ v.gen := (((h.link i).agentGrid g grid).2 ge emitting).1
    have hsmall : ge.streamGen % 256 ^ 4 = ge.streamGen := by
      have := h.small
      exact Nat.mod_eq_of_lt (by omega)
    rw [show g.emitting = some ge from emitting]
    rcases said_eq with rfl | rfl
    · simp only [Down.begins, hsmall, Option.filter_some, first]
      simp
    · simp [Down.begins, Option.filter]
  | @gridChunk ge sent agent emitting begun =>
    rw [show g.emitting = some ge from emitting]
    simp [Down.begins, Option.filter, begun]
  | gridEnd => simp [Down.begins]
  | _ => exact List.Sublist.refl _

/-- Saying anything keeps the order, at the agent's end. -/
lemma View.Ordered.agentSays (h : v.Ordered cfg) (stored : v.Stored) {i : Nat} {g : GridState}
    {said : Said} {f : Face} (holder : v.Holder i) (grid : (v.links i).agentGrid = some g)
    (speech : (v.agentFace g).Says said f) :
    (View.putLink { v with out := f.sendBuf, inp := f.recvCursor } i { v.links i with
      agentGrid := some f.grid,
      toClient := (v.links i).toClient ++ [⟨said, v.gen⟩] }).Ordered cfg := by
  have hlink := h.link i
  obtain ⟨hrole, hemit⟩ := hlink.agentGrid g grid
  obtain ⟨⟨next, hbuf⟩, hinp⟩ := Face.says_buffer speech
  have hgen : f.sendBuf.sessionGen = v.out.sessionGen := by
    rw [hbuf]
    rfl
  have hwait : (v.links i).waiting = true → g.emitting = none ∧ g.awaitingApplied = false := by
    intro hwait
    obtain ⟨-, g', hg', hrest⟩ := hlink.waiting hwait
    rw [grid] at hg'
    cases hg'
    exact hrest
  -- a connection that sends its snapshot no longer waits for one
  have hgone : ∀ ge, g.emitting = some ge → (v.links i).waiting = false := by
    intro ge hge
    by_contra hw
    have := (hwait (by simpa using hw)).1
    rw [hge] at this
    cases this
  have hhold := fun alive => hlink.holder holder alive g grid
  have hahead := h.ahead_spoken grid speech
  refine h.put rfl hgen rfl h.applied_le h.receipt le_rfl le_rfl rfl (fun j _ hj => hj) h.held ?_
  cases speech with
  | @data n pos avail free some_ =>
    refine hlink.sendDown rfl h.cursor_le ?_ ?_ ⟨hrole, hemit⟩ hahead hwait hhold
    · rintro gen ⟨⟩
    · rintro a o p ⟨⟩
      -- the data ends within what was written
      have hlen := SendBuffer.length_copyOut_le v.out v.out.sendNext n stored.out.size_le
      have hend := stored.out.end_eq
      have hle := stored.out.sendNext_le
      have hmod := Nat.mod_le v.out.sendNext (256 ^ 8)
      simp only [View.agentFace, SendBuffer.unsent] at avail ⊢
      omega
  | blank =>
    exact hlink.sendDown rfl h.cursor_le (by simp [Down.begins]) (by simp) ⟨hrole, hemit⟩ hahead
      hwait hhold
  | ack =>
    exact hlink.sendDown rfl h.cursor_le (by simp [Down.begins]) (by simp) ⟨hrole, hemit⟩ hahead
      hwait hhold
  | other =>
    exact hlink.sendDown rfl h.cursor_le (by simp [Down.begins]) (by simp) ⟨hrole, hemit⟩ hahead
      hwait hhold
  | gridApplied client => simp [View.agentFace, hrole] at client
  | @gridBegin ge _ agent emitting first said_eq =>
    obtain ⟨hge, hwas⟩ := hemit ge emitting
    refine hlink.sendDown rfl h.cursor_le ?_ ?_ ⟨hrole, ?_⟩ hahead ?_ hhold
    · rcases said_eq with rfl | rfl
      · rintro gen ⟨⟩
        exact (Nat.mod_le _ _).trans hge
      · rintro gen ⟨⟩
    · rcases said_eq with rfl | rfl
      · rintro a o p ⟨⟩
      · rintro a o p ⟨⟩
    · rintro ge' ⟨⟩
      exact ⟨hge, hwas⟩
    · simp [hgone ge emitting]
  | @gridChunk ge sent agent emitting begun =>
    obtain ⟨hge, hwas⟩ := hemit ge emitting
    refine hlink.sendDown rfl h.cursor_le ?_ ?_ ⟨hrole, ?_⟩ hahead ?_ hhold
    · rintro gen ⟨⟩
    · rintro a o p ⟨⟩
    · rintro ge' ⟨⟩
      exact ⟨hge, hwas⟩
    · simp [hgone ge emitting]
  | @gridEnd ge agent emitting begun =>
    obtain ⟨hge, hwas⟩ := hemit ge emitting
    refine hlink.sendDown rfl h.cursor_le ?_ ?_ ⟨hrole, ?_⟩ hahead ?_ ?_
    · rintro gen ⟨⟩
    · rintro a o p ⟨⟩
    · rintro ge' ⟨⟩
    · simp [hgone ge emitting]
    · intro alive
      exact ⟨fun _ => (hhold alive).1 hwas, by simp⟩

/-- It does at the client's. -/
lemma View.Ordered.clientSays (h : v.Ordered cfg) {i : Nat} {g : GridState}
    {said : Said} {f : Face} (grid : (v.links i).clientGrid = some g)
    (speech : (v.clientFace g).Says said f) :
    (View.putLink { v with clientOut := f.sendBuf, clientInp := f.recvCursor } i { v.links i with
      clientGrid := some f.grid
      toAgent := (v.links i).toAgent ++ [⟨said, v.cursorGen, v.clientInp.ackOffset⟩] }).Ordered
      cfg := by
  have hlink := h.link i
  obtain ⟨hrole, hpending⟩ := hlink.clientGrid g grid
  obtain ⟨-, hinp⟩ := Face.says_buffer speech
  have hinp : f.recvCursor = v.clientInp := hinp
  have hagent : (v.clientFace g).grid.role ≠ .agent := by simp [View.clientFace, hrole]
  refine h.put rfl rfl rfl h.applied_le (by rw [hinp]; exact h.receipt)
    (by rw [hinp]; exact le_rfl) le_rfl rfl
    (fun j _ hj => hj) (by rw [hinp]; exact h.held) ?_
  rw [hinp]
  have same : ∀ said, Up.Honest ⟨said, v.cursorGen, v.clientInp.ackOffset⟩ →
      LinkOrdered cfg ⟨v.gen, v.cursorGen, v.clientInp.ackOffset, v.agentLog.length⟩
        (v.Current i) (v.Holder i) { v.links i with
          clientGrid := some g
          toAgent := (v.links i).toAgent ++ [⟨said, v.cursorGen, v.clientInp.ackOffset⟩] } := by
    intro said honest
    exact hlink.sendUp rfl rfl honest ⟨hrole, hpending⟩ (.inr (by simp [grid]))
  cases speech with
  | data => exact same _ rfl
  | blank => exact same _ trivial
  | ack => exact same _ rfl
  | other => exact same _ trivial
  | @gridApplied gen client pending =>
    have honest : Up.Honest
        ⟨.gridApplied (gen % 256 ^ 4), v.cursorGen, v.clientInp.ackOffset⟩ :=
      (Nat.mod_le _ _).trans (hpending gen pending)
    have hcleared : ({ g with pendingApplied := none } : GridState).role = .client ∧
        ∀ gen, ({ g with pendingApplied := none } : GridState).pendingApplied = some gen →
          gen ≤ v.cursorGen := ⟨hrole, by simp⟩
    exact hlink.sendUp rfl rfl honest hcleared (.inr (by simp [grid]))
  | gridBegin agent => exact absurd agent hagent
  | gridChunk agent => exact absurd agent hagent
  | gridEnd agent => exact absurd agent hagent

end

section
variable {cfg : Config} {v v' : View} {m : Mark}

/-- The connection that was put is the one there. -/
lemma View.links_putLink_self (v : View) (i : Nat) (l : LinkView) : (v.putLink i l).links i = l :=
  Function.update_self ..

/-- Every other is as it was. -/
lemma View.links_putLink_of_ne {v : View} {i j : Nat} {l : LinkView} (h : j ≠ i) :
    (v.putLink i l).links j = v.links j := Function.update_of_ne h ..

/-- Where a move has put one connection, that one is there and every other is as it was. -/
lemma View.links_put {v v' : View} {i : Nat} {l : LinkView}
    (links : v'.links = Function.update v.links i l) :
    v'.links i = l ∧ ∀ j, j ≠ i → v'.links j = v.links j := by
  rw [links]
  exact ⟨Function.update_self .., fun j hj => Function.update_of_ne hj ..⟩

/-- What it shares with the one it replaces has changed nowhere. -/
lemma View.same_put {v v' : View} {i : Nat} {l : LinkView} {β : Type} (f : LinkView → β)
    (links : v'.links = Function.update v.links i l) (same : f l = f (v.links i)) (j : Nat) :
    f (v'.links j) = f (v.links j) := by
  obtain ⟨hself, hother⟩ := View.links_put links
  by_cases hj : j = i
  · rw [hj, hself, same]
  · rw [hother j hj]

/-- Only a GridEnd brings a whole snapshot. -/
lemma Face.hearData_snapshot (f : Face) (a o : Nat) (p : Bytes) :
    snapshotOf (f.hearData a o p).1 = none := by
  unfold Face.hearData
  split
  · rfl
  · unfold Face.deliver
    split
    · rfl
    · dsimp only
      split <;> rfl

/-- An acknowledgement is no snapshot. -/
lemma Face.hearAck_snapshot (f : Face) (a : Nat) : snapshotOf (f.hearAck a).1 = none := by
  unfold Face.hearAck
  split <;> rfl

/-- What data does to a cursor: nothing, or a step up to its end. -/
lemma Face.hearData_cursor (f : Face) (a o : Nat) (p : Bytes) :
    (f.hearData a o p).2.recvCursor = f.recvCursor ∨
      ∃ bytes, f.recvCursor.receive o p = .ok (bytes, (f.hearData a o p).2.recvCursor) := by
  unfold Face.hearData
  split
  · exact .inl rfl
  · next f' hack =>
    have hcur : f'.recvCursor = f.recvCursor := by
      rcases Face.applyAck_ok hack with ⟨-, rfl⟩ | ⟨-, b, -, rfl⟩ <;> rfl
    unfold Face.deliver
    split
    · exact .inl hcur
    · next bytes cursor hrec => exact .inr ⟨bytes, hcur ▸ hrec⟩

/-- It leaves the cursor alone. -/
@[simp] lemma Face.hearAck_cursor (f : Face) (a : Nat) :
    (f.hearAck a).2.recvCursor = f.recvCursor := by
  unfold Face.hearAck
  split
  · rfl
  · next f' hack =>
    rcases Face.applyAck_ok hack with ⟨-, rfl⟩ | ⟨-, b, -, rfl⟩ <;> rfl

/-- What a client's end does with a frame: it stays in its generation, or it takes the last frame of
a snapshot and starts over in the next. -/
lemma Face.hears_client {f : Face} {said : Said} {out : Except SessionError IncomingEvent × Face}
    (h : f.Hears said out) (client : f.grid.role = .client) :
    (snapshotOf out.1 = none ∧ out.2.grid.role = .client ∧
      out.2.grid.pendingApplied = f.grid.pendingApplied ∧
      (out.2.grid.receiving.map GridReception.streamGen =
          f.grid.receiving.map GridReception.streamGen ∨
        ∃ gen, f.grid.receiving = none ∧ said = .gridBegin gen ∧
          out.2.grid.receiving.map GridReception.streamGen = some gen) ∧
      (out.2.recvCursor = f.recvCursor ∨ ∃ a o p bytes, said = .data a o p ∧
        f.recvCursor.receive o p = .ok (bytes, out.2.recvCursor))) ∨
    ∃ r, f.grid.receiving = some r ∧ snapshotOf out.1 = some r.streamGen ∧
      out.2.recvCursor = f.recvCursor.reset 0 ∧
      out.2.grid = { f.grid with receiving := none, streamGen := r.streamGen } := by
  cases h with
  | @data a o p free =>
    refine .inl ⟨Face.hearData_snapshot .., by simpa, by simp, .inl (by simp), ?_⟩
    rcases Face.hearData_cursor f a o p with hsame | ⟨bytes, hrec⟩
    · exact .inl hsame
    · exact .inr ⟨a, o, p, bytes, rfl, hrec⟩
  | ack => exact .inl ⟨Face.hearAck_snapshot .., by simpa, by simp, .inl (by simp), .inl (by simp)⟩
  | gridBegin _ idle => exact .inl ⟨rfl, client, rfl, .inr ⟨_, idle, rfl, rfl⟩, .inl rfl⟩
  | gridChunk _ receiving same =>
    exact .inl ⟨rfl, client, rfl, .inl (by simp [receiving, same]), .inl rfl⟩
  | gridEnd _ bytes receiving => exact .inr ⟨_, receiving, rfl, rfl, rfl⟩
  | gridApplied agent => simp [client] at agent
  | _ => exact .inl ⟨rfl, client, rfl, .inl rfl, .inl rfl⟩

/-- What the client hears keeps the order. -/
lemma View.Ordered.clientHears (h : v.Ordered cfg) {i : Nat} {down : Down} {rest : List Down}
    {g : GridState} {out : Except SessionError IncomingEvent × Face} (current : v.Current i)
    (head : (v.links i).toClient = down :: rest) (grid : (v.links i).clientGrid = some g)
    (hears : (v.clientFace g).Hears down.said out) {got : Bytes} {errors : List SessionError}
    {dead : Bool} :
    (View.putLink { v with
        clientOut := out.2.sendBuf, clientInp := out.2.recvCursor
        cursorGen := (snapshotOf out.1).getD v.cursorGen, clientGot := got
        clientErrors := errors } i
      { v.links i with
        toClient := rest, clientGrid := some out.2.grid, clientDead := dead
        pendingApply := (snapshotOf out.1).or (v.links i).pendingApply }).Ordered cfg := by
  have hlink := h.link i
  obtain ⟨hrole, hpending⟩ := hlink.clientGrid g grid
  have hmem : down ∈ (v.links i).toClient := head ▸ List.mem_cons_self
  rcases Face.hears_client hears hrole with
    ⟨hsnap, hrole', hpend', hrecv, hcursor⟩ | ⟨r, hr, hsnap, hcursor, hgrid⟩
  · have hreceipt : out.2.recvCursor.ack = .onReceipt ∧ out.2.recvCursor.pending = 0 := by
      rcases hcursor with heq | ⟨a, o, p, bytes, -, hrec⟩
      · rw [heq]
        exact h.receipt
      · obtain ⟨-, -, -, hack, hpend⟩ := ReceiveCursor.receive_ok hrec
        have hon : (v.clientFace g).recvCursor.ack = .onReceipt := h.receipt.1
        rw [hpend, hack, hon]
        exact ⟨rfl, h.receipt.2⟩
    have hgrow : v.clientInp.recvOffset ≤ out.2.recvCursor.recvOffset := by
      rcases hcursor with heq | ⟨a, o, p, bytes, -, hrec⟩
      · rw [heq]
        exact le_rfl
      · rw [ReceiveCursor.receive_recvOffset hrec]
        exact le_max_left _ _
    have hheld : v.cursorGen = v.gen → out.2.recvCursor.recvOffset ≤ v.agentLog.length := by
      intro heq
      rcases hcursor with hsame | ⟨a, o, p, bytes, hsaid, hrec⟩
      · rw [hsame]
        exact h.held heq
      · -- the data was sealed in the generation the client is in, which is the ring's
        have hlo := (hlink.fresh current down hmem).1
        have hhi := (hlink.downs down hmem).1
        have hend := hlink.written current down hmem (by simp only at hlo hhi ⊢; omega) a o p hsaid
        rw [ReceiveCursor.receive_recvOffset hrec]
        exact max_le (h.held heq) hend
    rw [hsnap, Option.getD_none, Option.none_or]
    refine h.put rfl rfl rfl h.applied_le hreceipt hgrow le_rfl rfl (fun j _ hj => hj) hheld ?_
    have hpos : v.clientInp.ackOffset ≤ out.2.recvCursor.ackOffset := by
      rw [h.pos_eq, ReceiveCursor.ackOffset, hreceipt.2, Nat.sub_zero]
      exact hgrow
    refine hlink.popDown head rfl rfl hpos rfl ?_ ?_ rfl
    · rintro g' ⟨⟩
      refine ⟨hrole', ?_⟩
      rw [hpend']
      exact hpending
    · have hreceiving : (v.links i).receiving =
          (g.receiving.map GridReception.streamGen).toList := by
        simp [LinkView.receiving, grid]
      rw [hreceiving]
      rcases hrecv with hsame | ⟨gen, hidle, hsaid, hgen⟩
      · rw [Option.bind_some, hsame]
        exact List.sublist_append_left _ _
      · rw [Option.bind_some, hgen]
        simp [Down.begins, hsaid]
  · -- a snapshot is whole: the cursor starts over in its generation
    obtain ⟨-, hbetween⟩ := hlink.ahead current
    have hnext := hbetween r.streamGen (by
      have : g.receiving = some r := hr
      simp [LinkView.ahead, LinkView.receiving, grid, this])
    simp only at hnext
    have hzero : out.2.recvCursor.recvOffset = 0 := by
      rw [hcursor]
      rfl
    rw [hsnap, Option.getD_some, Option.some_or]
    refine ⟨hnext.2, ?_, h.small, h.incapable, ?_, ?_, ?_⟩
    · exact h.applied_le.trans hnext.1.le
    · show out.2.recvCursor.ack = .onReceipt ∧ out.2.recvCursor.pending = 0
      rw [hcursor]
      exact ⟨h.receipt.1, rfl⟩
    · intro _
      show out.2.recvCursor.recvOffset ≤ _
      rw [hzero]
      exact Nat.zero_le _
    · intro j
      by_cases hj : j = i
      · subst hj
        rw [View.links_putLink_self, hgrid]
        apply hlink.popGridEnd current head grid hr
        case role => exact hrole
        all_goals rfl
      · -- to a connection that was left the client says nothing more
        have hother : ¬v.Current j := by
          simp only [View.Current] at current ⊢
          omega
        rw [View.links_putLink_of_ne hj]
        exact (h.link j).newCursor rfl hnext.1 hnext.2 hother id

end

section
variable {cfg : Config} {v v' : View} {m : Mark}

/-- A new generation, on the connection that supplies its snapshot. -/
lemma LinkOrdered.supply {n : Levels} {current holder : Prop} {l : LinkView} {g : GridState}
    {ge : GridEmission} (h : LinkOrdered cfg n current holder l)
    (cursor_le : n.cursorGen ≤ n.gen) (grid : l.agentGrid = some g) (idle : g.emitting = none)
    (streamGen : ge.streamGen = n.gen + 1) (first : ge.beginSent = false) :
    LinkOrdered cfg ⟨n.gen + 1, n.cursorGen, n.pos, 0⟩ current holder
      { l with
        agentGrid := some { g with
          emitting := some ge, awaitingApplied := true, expectedGen := n.gen + 1
          awaitingSupply := false }
        waiting := false } where
  ups := h.ups
  upSorted := h.upSorted
  pendingApply := h.pendingApply
  clientGrid := h.clientGrid
  downs d hd := ⟨(h.downs d hd).1.trans (Nat.le_succ _), (h.downs d hd).2⟩
  downSorted := h.downSorted
  fresh := h.fresh
  written _ d hd hgen := by
    have := (h.downs d hd).1
    simp only at hgen
    omega
  ahead hcur := by
    obtain ⟨hsorted, hbetween⟩ := h.ahead hcur
    have hunsent : l.unsent = [] := by simp [LinkView.unsent, grid, idle]
    have hold : l.ahead = l.receiving ++ l.toClient.filterMap Down.begins := by
      rw [LinkView.ahead, hunsent, List.append_nil]
    have hnew : ({ l with
        agentGrid := some { g with
          emitting := some ge, awaitingApplied := true, expectedGen := n.gen + 1
          awaitingSupply := false }
        waiting := false } : LinkView).ahead = l.ahead ++ [n.gen + 1] := by
      rw [hold, LinkView.ahead, List.append_assoc]
      simp [LinkView.unsent, LinkView.receiving, first, streamGen]
    rw [hnew, List.pairwise_append]
    refine ⟨⟨hsorted, by simp, fun a ha b hb => ?_⟩, fun a ha => ?_⟩
    · obtain rfl := List.mem_singleton.mp hb
      exact Nat.lt_succ_of_le (hbetween a ha).2
    · rcases List.mem_append.mp ha with ha | ha
      · exact ⟨(hbetween a ha).1, (hbetween a ha).2.trans (Nat.le_succ _)⟩
      · obtain rfl := List.mem_singleton.mp ha
        exact ⟨Nat.lt_succ_of_le cursor_le, le_rfl⟩
  agentGrid g' hg' := by
    cases hg'
    refine ⟨(h.agentGrid g grid).1, fun ge' hge' => ?_⟩
    cases hge'
    exact ⟨streamGen.le, rfl⟩
  waiting hwait := by cases hwait
  holder _ _ g' hg' := by
    cases hg'
    exact ⟨fun _ => rfl, by simp⟩

/-- A new generation is the next number. -/
lemma View.gen_newGeneration (fits : v.gen + 1 < 2 ^ 32) :
    v.out.newGeneration.sessionGen = v.gen + 1 := Nat.mod_eq_of_lt fits

/-- A new generation keeps the order. -/
lemma View.Ordered.supplied (h : v.Ordered cfg) (fits : v.gen + 1 < 2 ^ 32) {i : Nat}
    {g g' : GridState} (holder : v.Holder i) (waiting : (v.links i).waiting = true)
    (grid : (v.links i).agentGrid = some g)
    (start : g.role = .agent → g.emitting = none → g.awaitingApplied = false →
      ∃ ge : GridEmission, ge.streamGen = v.out.newGeneration.sessionGen ∧ ge.beginSent = false ∧
        g' = { g with
          emitting := some ge, awaitingApplied := true
          expectedGen := v.out.newGeneration.sessionGen, awaitingSupply := false }) :
    (View.putLink { v with out := v.out.newGeneration, agentLog := [], agentTaken := [] } i
      { v.links i with agentGrid := some g', waiting := false }).Ordered cfg := by
  have hlink := h.link i
  obtain ⟨hcap, g₀, hg₀, hidle, hawait⟩ := hlink.waiting waiting
  rw [grid] at hg₀
  cases hg₀
  obtain ⟨ge, hgen, hfirst, rfl⟩ := start (hlink.agentGrid g grid).1 hidle hawait
  rw [View.gen_newGeneration fits] at hgen ⊢
  have hnew : v.out.newGeneration.sessionGen = v.gen + 1 := View.gen_newGeneration fits
  refine ⟨?_, h.applied_le, ?_, fun hno => absurd hcap hno, h.receipt, ?_, ?_⟩
  · show v.cursorGen ≤ v.out.newGeneration.sessionGen
    rw [hnew]
    exact h.cursor_le.trans (Nat.le_succ _)
  · show v.out.newGeneration.sessionGen < 2 ^ 32
    rw [hnew]
    exact fits
  · intro heq
    have hle := h.cursor_le
    have : v.cursorGen = v.out.newGeneration.sessionGen := heq
    omega
  · intro j
    show LinkOrdered cfg ⟨v.out.newGeneration.sessionGen, _, _, _⟩ _ _ _
    rw [hnew]
    by_cases hj : j = i
    · subst hj
      rw [View.links_putLink_self]
      exact hlink.supply h.cursor_le grid hidle hgen hfirst
    · rw [View.links_putLink_of_ne hj]
      refine (h.link j).newGeneration rfl rfl rfl id ?_
      rintro ⟨-, hatt⟩
      have hatt : v.attached = some j := hatt
      rw [holder.2] at hatt
      exact hj (Option.some.inj hatt).symm

end

section
variable {cfg : Config} {v v' : View} {m : Mark}

/-- A Resume that is replayed was sealed in the ring's generation, and so was all behind it. -/
lemma View.Ordered.replayed (h : v.Ordered cfg) {i gen off : Nat} {up : Up} {rest : List Up}
    (head : (v.links i).toAgent = up :: rest) (said : up.said = .resume gen off)
    (replay : cfg.capable → gen = v.gen) :
    v.cursorGen = v.gen ∧ ∀ w ∈ up :: rest, w.gen = v.gen := by
  have hlink := h.link i
  obtain ⟨hle, -, honest⟩ := hlink.ups up (head ▸ List.mem_cons_self)
  simp only [Up.Honest, said] at honest
  have hcursor := h.cursor_le
  have hgen : v.gen ≤ up.gen := by
    by_cases hcap : cfg.capable
    · exact (replay hcap).ge.trans honest.1
    · rw [h.incapable hcap]
      exact Nat.zero_le _
  simp only at hle
  exact ⟨by omega, hlink.rest_gen head h.cursor_le hgen⟩

/-- The connection takes the session over. -/
lemma View.Ordered.attach (h : v.Ordered cfg) {i gen off : Nat} {up : Up} {rest : List Up}
    (b : SendBuffer) (snapshot waiting : Bool) (head : (v.links i).toAgent = up :: rest)
    (said : up.said = .resume gen off) (first : (v.links i).agentGrid = none)
    (gen_eq : b.sessionGen = v.gen) (hwaiting : waiting = true → cfg.capable)
    (replay : waiting = false → cfg.capable → gen = v.gen) :
    (View.putLink { v with out := b, held := true, attached := some i } i { v.links i with
      toAgent := rest
      agentGrid := some (AgentConnection.freshGrid cfg.version snapshot)
      waiting := waiting }).Ordered cfg := by
  refine h.put rfl gen_eq rfl h.applied_le h.receipt le_rfl le_rfl rfl ?_ h.held ?_
  · rintro j hj ⟨-, hatt⟩
    exact absurd (Option.some.inj hatt).symm hj
  · refine (h.link i).popUp head ?_ ?_ ?_ ?_
    · rintro g ⟨⟩
      exact ⟨rfl, fun ge hge => by cases hge⟩
    · simp [first, AgentConnection.freshGrid]
    · intro hwait
      exact ⟨hwaiting hwait, _, rfl, rfl, rfl⟩
    · rintro - - g ⟨⟩
      refine ⟨fun hawait => (by cases hawait), fun _ hwait => ?_⟩
      obtain ⟨hcur, hall⟩ := h.replayed head said (replay hwait)
      exact ⟨hcur, fun w hw => hall w (List.mem_cons_of_mem up hw)⟩

/-- A frame leaves the queue of an end that fails. -/
lemma LinkOrdered.popUp_dead {n : Levels} {current holder holder' : Prop} {l : LinkView} {u : Up}
    {rest : List Up} (h : LinkOrdered cfg n current holder l) (head : l.toAgent = u :: rest) :
    LinkOrdered cfg n current holder' { l with toAgent := rest, agentDead := true } :=
  h.popUp head h.agentGrid rfl h.waiting fun _ hdead => by cases hdead

/-- Every move keeps the order, while the generations fit their 32 bits. -/
theorem View.Ordered.move (h : v.Ordered cfg) (stored : v.Stored) (fits : GenFits v m)
    (hmove : Move cfg v m v') : v'.Ordered cfg := by
  have touched : ∀ {i : Nat} {dead clientDead : Bool} {routed authOk pending : Option Nat},
      ((v.links i).agentDead = true → dead = true) →
      (∀ gen, pending = some gen → gen ≤ v.cursorGen) →
      LinkOrdered cfg ⟨v.gen, v.cursorGen, v.clientInp.ackOffset, v.agentLog.length⟩ (v.Current i)
        (v.Holder i) { v.links i with
          agentDead := dead, clientDead := clientDead, routed := routed, authOk := authOk
          pendingApply := pending } := fun alive pending => (h.link _).touch alive pending
  have hkept : ∀ i gen, (v.links i).pendingApply = some gen → gen ≤ v.cursorGen :=
    fun i => (h.link i).pendingApply
  cases hmove with
  | agentQuiet i dead errors alive harmless =>
    exact h.put rfl rfl rfl h.applied_le h.receipt le_rfl le_rfl rfl (fun j _ hj => hj) h.held
      (touched alive (hkept i))
  | clientQuiet i dead errors alive harmless =>
    exact h.put rfl rfl rfl h.applied_le h.receipt le_rfl le_rfl rfl (fun j _ hj => hj) h.held
      (touched id (hkept i))
  | clientOpen =>
    refine ⟨h.cursor_le, h.applied_le, h.small, h.incapable, h.receipt, h.held, fun j => ?_⟩
    -- every other connection has been left, and keeps its frames
    by_cases hj : j = v.opened
    · subst hj
      rw [View.links_putLink_self]
      exact .unused
    · rw [View.links_putLink_of_ne hj]
      refine (h.link j).mono rfl rfl le_rfl le_rfl (fun hcur => absurd ?_ hj) id
      exact (Nat.succ.inj hcur).symm
  | route i _ _ _ _ =>
    exact h.put rfl rfl rfl h.applied_le h.receipt le_rfl le_rfl rfl (fun j _ hj => hj) h.held
      (touched id (hkept i))
  | completeHandshake i a _ =>
    exact h.put rfl rfl rfl h.applied_le h.receipt le_rfl le_rfl rfl (fun j _ hj => hj) h.held
      (touched id (hkept i))
  | resumeRefused i a e _ _ _ =>
    exact h.put rfl rfl rfl h.applied_le h.receipt le_rfl le_rfl rfl (fun j _ hj => hj) h.held
      (touched id (hkept i))
  | resumeStuck i a e b _ _ _ _ =>
    exact h.put rfl rfl rfl h.applied_le h.receipt le_rfl le_rfl rfl (fun j _ hj => hj) h.held
      (touched id (hkept i))
  | resumeSent i a b gen _ _ _ gen_eq =>
    refine h.put rfl rfl rfl h.applied_le h.receipt le_rfl le_rfl rfl (fun j _ hj => hj) h.held ?_
    -- what the Resume names is where the client stands
    have honest : Up.Honest ⟨.resume (gen % 256 ^ 4) (v.clientInp.ackOffset % 256 ^ 8),
        v.cursorGen, v.clientInp.ackOffset⟩ := by
      refine ⟨(Nat.mod_le _ _).trans ?_, rfl⟩
      rw [gen_eq]
      split
      · exact h.applied_le
      · exact Nat.zero_le _
    have hgrid : (ClientConnection.freshGrid cfg.version gen).role = .client ∧
        ∀ k, (ClientConnection.freshGrid cfg.version gen).pendingApplied = some k →
          k ≤ v.cursorGen := ⟨rfl, by simp [ClientConnection.freshGrid]⟩
    exact (h.link i).sendUp rfl rfl honest hgrid (.inl rfl)
  | agentTurned i up rest errors head _ =>
    exact h.put rfl rfl rfl h.applied_le h.receipt le_rfl le_rfl rfl (fun j _ hj => hj) h.held
      ((h.link i).popUp_dead head)
  | agentRejected i gen off up rest e held head said known replay attach less =>
    exact h.put rfl rfl rfl h.applied_le h.receipt le_rfl le_rfl rfl
      (fun j _ hj => ⟨less hj.1, hj.2⟩) h.held ((h.link i).popUp_dead head)
  | pathA i gen off up rest b head said first alive known replay attach =>
    obtain ⟨rfl, -, -⟩ := SendBuffer.resetSendNext_ok attach
    exact h.attach { v.out with base := off, sendNext := off } false (v.links i).waiting head said
      first.1 rfl (by simp [first.2]) (fun _ hcap => (replay hcap).1)
  | pathB i gen off up rest head said first alive known capable =>
    exact h.attach v.out true true head said first.1 rfl (fun _ => capable) (by simp)
  | agentHears i up rest g out head holder alive grid hears =>
    exact h.agentHears head holder alive grid hears
  | agentSays i g said f holder grid speech => exact h.agentSays stored holder grid speech
  | supplied i g g' holder waiting grid start => exact h.supplied (fits rfl) holder waiting grid start
  | released =>
    exact h.keep rfl rfl rfl rfl rfl le_rfl rfl fun j hj => by cases hj.1
  | inputDelivered => exact h.keep rfl rfl rfl rfl rfl le_rfl rfl fun j hj => hj
  | inputRejected => exact h.keep rfl rfl rfl rfl rfl le_rfl rfl fun j hj => by cases hj.1
  | clientTurned i down rest errors current head _ =>
    exact h.put rfl rfl rfl h.applied_le h.receipt le_rfl le_rfl rfl (fun j _ hj => hj) h.held
      ((h.link i).popDown head rfl rfl le_rfl rfl (h.link i).clientGrid
        (List.sublist_append_left _ _) rfl)
  | clientHears i down rest g out current head alive grid hears =>
    exact h.clientHears current head grid hears
  | clientSays i g said f current grid speech => exact h.clientSays grid speech
  | confirmApply i gen applied current pending applied_eq =>
    have hgen := hkept i gen pending
    refine h.put rfl rfl rfl ?_ h.receipt le_rfl le_rfl rfl (fun j _ hj => hj) h.held
      ((h.link i).confirm hgen)
    rcases applied_eq with rfl | rfl
    · exact hgen
    · exact h.applied_le
  | denyApply i =>
    exact h.put rfl rfl rfl h.applied_le h.receipt le_rfl le_rfl rfl (fun j _ hj => hj) h.held
      (touched id (by simp))
  | clientWrite => exact h.keep rfl rfl rfl rfl rfl le_rfl rfl fun j hj => hj
  | agentWrite w =>
    exact h.keep rfl (SendBuffer.append_sessionGen ..) rfl rfl rfl (by simp) rfl fun j hj => hj
  | agentOverflow w =>
    exact h.keep rfl (SendBuffer.append_sessionGen ..) rfl rfl rfl (by simp) rfl fun j hj => hj
  | agentDropped => exact h.keep rfl rfl rfl rfl rfl le_rfl rfl fun j hj => hj

end

end Zet.Net
