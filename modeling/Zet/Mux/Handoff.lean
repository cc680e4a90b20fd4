import Zet.Mux.HandoffSteps

/-!
# Connections are handed over

The agents' side of `Zet.Mux.HandoffWorld`, and what comes of it. A connection an agent is handed is one
whose Hello names the agent's own session, with exactly what its peer sent first, and no connection is
handed over twice (`handed_over`): whatever agents that are not ours, peers and the kernel do, through
restarts of the mux and reconnects of the agents. A link is never lost to the mux breaking the protocol,
but where the mux refused its registration (`protocol_kept`).
-/

namespace Zet.Muxd
open Zet.Core Zet.Wire Zet.Lib Zet.Session Zet.App Zet.Agent

variable {machine : Machine} {w w' : World} {g : Ghost} {agent link : Nat} {l' : MuxLink}

/-- What a link that was lost is. -/
lemma lose_lost (l : MuxLink) (now : Timestamp) (noise : Nat) :
    (l.lose now noise).socket = none ∧ (l.lose now noise).output.front = [] ∧
      (l.lose now noise).registration = l.registration := by
  refine ⟨rfl, ?_, rfl⟩
  change (l.output.consume l.output.size).front = []
  rw [ByteQueue.front_consume, ← ByteQueue.length_front, List.drop_length]

/-- A link that is lost, or still a line. -/
lemma WorldKept.relink (h : WorldKept machine w g) (hlink : (w.links agent).socket = some link)
    (registration : l'.registration = (w.links agent).registration) (up : Bytes) (down : Stretch)
    (told : List Told)
    (after : (l'.socket = none ∧ l'.output.front = []) ∨
      (l'.socket = some link ∧ Line l' up down (w.Far link) (w.Claims link) (OnWay machine w g agent link)
        (machine.sessionIdOf (machine.keyOf agent)) told (g.rest link))) :
    WorldKept machine
      (World.putLink { w with
        up := Function.update w.up link up
        down := Function.update w.down link down } agent l')
      { g with told := Function.update g.told link told } := by
  have hother : ∀ other, other ≠ agent → Function.update w.links agent l' other = w.links other :=
    fun other hne => Function.update_of_ne hne ..
  have hself : Function.update w.links agent l' agent = l' := Function.update_self ..
  have hsocket : ∀ link', l'.socket = some link' → link' = link := by
    intro link' hlink'
    rcases after with ⟨hnone, -⟩ | ⟨hsome, -⟩
    · rw [hnone] at hlink'
      cases hlink'
    · exact Option.some.inj (hlink'.symm.trans hsome)
  -- An agent has a link it had before.
  have hbefore : ∀ other link', (Function.update w.links agent l' other).socket = some link' →
      (w.links other).socket = some link' := by
    intro other link' hlink'
    by_cases hsame : other = agent
    · rw [hsame, hself] at hlink'
      rw [hsame, hsocket link' hlink', hlink]
    · rw [hother other hsame] at hlink'
      exact hlink'
  constructor
  case port => exact h.port
  case kept => exact h.kept
  case linked =>
    constructor
    case registration =>
      intro other
      dsimp only [World.putLink]
      by_cases hsame : other = agent
      · rw [hsame, hself, registration]
        exact h.linked.registration agent
      · rw [hother other hsame]
        exact h.linked.registration other
    case idle =>
      intro other hnone
      dsimp only [World.putLink] at hnone ⊢
      by_cases hsame : other = agent
      · rw [hsame, hself] at hnone ⊢
        rcases after with ⟨-, hidle⟩ | ⟨hsome, -⟩
        · exact hidle
        · rw [hsome] at hnone
          cases hnone
      · rw [hother other hsame] at hnone ⊢
        exact h.linked.idle other hnone
    case own => exact fun other link' hlink' => h.linked.own other link' (hbefore other link' hlink')
    case only => exact fun one other link' hone hother' =>
      h.linked.only one other link' (hbefore one link' hone) (hbefore other link' hother')
    case peers => exact h.linked.peers
    case backlog => exact h.linked.backlog
  case placed => exact ⟨h.placed.streams, h.placed.unborn, h.placed.pending, h.placed.handed, h.placed.once⟩
  case line =>
    intro other link' hlink'
    dsimp only [World.putLink] at hlink' ⊢
    by_cases hsame : other = agent
    · rw [hsame, hself] at hlink' ⊢
      obtain rfl := hsocket link' hlink'
      rcases after with ⟨hnone, -⟩ | ⟨-, hline⟩
      · rw [hnone] at hlink'
        cases hlink'
      · rw [Function.update_self, Function.update_self, Function.update_self]
        exact hline
    · rw [hother other hsame] at hlink' ⊢
      have hne : link' ≠ link := by
        rintro rfl
        exact hsame (h.linked.only agent other link' hlink hlink')
      rw [Function.update_of_ne hne, Function.update_of_ne hne, Function.update_of_ne hne]
      exact h.line other link' hlink'

/-- A link that is lost takes nothing with it but itself. -/
lemma WorldKept.lost (h : WorldKept machine w g) (hlink : (w.links agent).socket = some link)
    {l : MuxLink} (registration : l.registration = (w.links agent).registration) (now : Timestamp)
    (noise : Nat) (up : Bytes) (down : Stretch) :
    ∃ g', WorldKept machine
      (World.putLink { w with
        up := Function.update w.up link up
        down := Function.update w.down link down } agent (l.lose now noise)) g' := by
  obtain ⟨hsocket, hfront, hregistration⟩ := lose_lost l now noise
  exact ⟨_, h.relink hlink (hregistration.trans registration) up down [] (.inl ⟨hsocket, hfront⟩)⟩

/-- The registration goes up. -/
lemma WorldKept.linkWrites (h : WorldKept machine w g) (hlink : (w.links agent).socket = some link)
    (now : Timestamp) (noise : Nat) (answers : List WriteAnswer) :
    ∃ g', WorldKept machine (World.putLink { w with
      up := Function.update w.up link
        (w.up link ++ ((w.links agent).write now noise answers).2.1) } agent
      ((w.links agent).write now noise answers).1) g' := by
  obtain ⟨l', hsame, hreader, hdescriptors, hregistered, hfront, hcases⟩ :=
    (w.links agent).write_cases now noise answers
  have hdown : ∀ up : Bytes, ({ w with up := Function.update w.up link up } : World) = { w with
      up := Function.update w.up link up
      down := Function.update w.down link (w.down link) } := by
    intro up
    rw [Function.update_eq_self]
  rw [hdown]
  rcases hcases with heq | heq
  · rw [heq]
    refine ⟨_, h.relink hlink hsame.registration _ _ (g.told link) (.inr ⟨hsame.socket.trans hlink, ?_⟩)⟩
    have hline := h.line agent link hlink
    refine ⟨?_, hline.fair, hline.distinct, hline.refusals, ?_, ?_⟩
    · obtain ⟨part, hreads, hshort⟩ := hline.reads
      exact ⟨part, ⟨hreads.laid, by rw [hreader]; exact hreads.reader,
        by rw [hdescriptors]; exact hreads.descriptors, by rw [hregistered]; exact hreads.phase,
        hreads.sendable⟩, hshort⟩
    · intro p hp
      obtain ⟨hrest, hasking⟩ := hline.asking p hp
      refine ⟨hrest, ?_⟩
      rcases hasking with ⟨hempty, hup, hout⟩ | ⟨htold, hwaiting, hnone, hbytes⟩
      · rw [hout] at hfront
        obtain ⟨hsent, hleft⟩ := List.append_eq_nil_iff.mp hfront.symm
        exact .inl ⟨hempty, by rw [hup, hsent, List.append_nil], hleft⟩
      · refine .inr ⟨htold, hregistered.trans hwaiting, hnone, ?_⟩
        have hframe : l'.registerFrame = (w.links agent).registerFrame := by
          rw [MuxLink.registerFrame, MuxLink.registerFrame, hsame.registration]
        rw [hframe, ← hbytes, hfront]
        simp only [List.append_assoc]
    · rw [hregistered]
      exact hline.claimed
  · rw [heq]
    exact h.lost hlink hsame.registration now noise _ _

/-- Connections that were on their way are handed over. -/
lemma WorldKept.hold {i : Nat} (h : WorldKept machine w g) (handed : List HandedOver)
    (way : ∀ x ∈ handed, OnWay machine w g agent i x.socket x.bytes)
    (distinct : (handed.map HandedOver.socket).Nodup)
    (gone : ∀ x ∈ handed, ∀ bytes, .handoff (some x.socket) bytes ∉ g.told i) :
    ∃ g', WorldKept machine (w.hold agent handed) g' := by
  induction handed generalizing w g with
  | nil => exact ⟨g, h⟩
  | cons x more ih =>
    obtain ⟨hplace, hbytes, hnames⟩ := way x List.mem_cons_self
    rw [List.map_cons, List.nodup_cons] at distinct
    -- a connection that was not on this link stays where it was
    have hother : ∀ other, g.place other ≠ .link i →
        Function.update g.place x.socket (.agent agent) other = g.place other := by
      intro other hne
      apply Function.update_of_ne
      rintro rfl
      exact hne hplace
    have hne : ∀ y ∈ more, y.socket ≠ x.socket := by
      intro y hy heq
      exact distinct.1 (List.mem_map.mpr ⟨y, hy, heq⟩)
    have hheld : WorldKept machine { w with
        handed := w.handed ++ [(agent, x)]
        got := Function.update w.got x.socket x.bytes }
        { g with place := Function.update g.place x.socket (.agent agent) } := by
      refine ⟨h.port, h.kept, ⟨h.linked.registration, h.linked.idle, h.linked.own, h.linked.only,
        h.linked.peers, h.linked.backlog⟩, ⟨h.placed.streams, ?_, ?_, ?_, ?_⟩, ?_⟩
      · intro other hborn
        obtain ⟨hhad, hnowhere⟩ := h.placed.unborn other hborn
        refine ⟨hhad, (hother other ?_).trans hnowhere⟩
        rw [hnowhere]
        exact Place.noConfusion
      · intro id p other hp hs
        obtain ⟨hpending, hlife⟩ := h.placed.pending id p other hp hs
        refine ⟨(hother other ?_).trans hpending, hlife⟩
        rw [hpending]
        exact Place.noConfusion
      · intro y hy
        dsimp only at hy ⊢
        rcases List.mem_append.mp hy with hold | hnew
        · obtain ⟨hagent, hgot, hrest⟩ := h.placed.handed y hold
          have hsocket : y.2.socket ≠ x.socket := by
            intro heq
            rw [heq, hplace] at hagent
            cases hagent
          rw [Function.update_of_ne hsocket, Function.update_of_ne hsocket]
          exact ⟨hagent, hgot, hrest⟩
        · rw [List.mem_singleton.mp hnew, Function.update_self, Function.update_self]
          exact ⟨rfl, hbytes, hbytes ▸ List.prefix_refl _, hnames⟩
      · dsimp only
        rw [List.map_append, List.nodup_append]
        refine ⟨h.placed.once, List.pairwise_singleton _ _, ?_⟩
        intro s hs s' hs'
        obtain ⟨y, hy, rfl⟩ := List.mem_map.mp hs
        obtain ⟨hagent, -⟩ := h.placed.handed y hy
        rw [List.map_singleton] at hs'
        rw [List.mem_singleton.mp hs']
        intro heq
        dsimp only at heq
        rw [heq, hplace] at hagent
        cases hagent
      · intro other link' hlink'
        refine { (h.line other link' hlink') with fair := ?_ }
        intro s bytes hmem
        obtain ⟨hway, hrest⟩ := (h.line other link' hlink').fair s bytes hmem
        refine ⟨?_, hrest⟩
        dsimp only
        -- nothing left on the link is told to bring the same connection again
        have hsocket : s ≠ x.socket := by
          rintro rfl
          rw [hplace] at hway
          cases hway
          exact gone x List.mem_cons_self bytes hmem
        rw [Function.update_of_ne hsocket]
        exact hway
    refine ih hheld ?_ distinct.2 fun y hy => gone y (List.mem_cons_of_mem _ hy)
    intro y hy
    obtain ⟨hway, hrest⟩ := way y (List.mem_cons_of_mem _ hy)
    refine ⟨?_, hrest⟩
    dsimp only
    rw [Function.update_of_ne (hne y hy)]
    exact hway

/-- A link that is handed nothing holds nothing new. -/
@[simp] lemma World.hold_nil (w : World) (agent : Nat) : w.hold agent [] = w := rfl

/-- What was handed over was told as a handoff. -/
lemma mem_handovers {told : List Told} {x : HandedOver} (hx : x ∈ handovers told) :
    .handoff (some x.socket) x.bytes ∈ told := by
  induction told with
  | nil => exact (List.not_mem_nil hx).elim
  | cons t told ih =>
    cases t with
    | registered port => exact List.mem_cons_of_mem _ (ih hx)
    | refused reason => exact List.mem_cons_of_mem _ (ih hx)
    | handoff socket bytes =>
      cases socket with
      | none => exact List.mem_cons_of_mem _ (ih hx)
      | some socket =>
        rcases List.mem_cons.mp hx with rfl | hmore
        · exact List.mem_cons_self
        · exact List.mem_cons_of_mem _ (ih hmore)

/-- The sockets handed over are the riders of what was told. -/
lemma handovers_sockets (told : List Told) :
    (handovers told).map HandedOver.socket = told.filterMap Told.rider := by
  induction told with
  | nil => rfl
  | cons t told ih =>
    cases t with
    | registered port => exact ih
    | refused reason => exact ih
    | handoff socket bytes =>
      cases socket with
      | none => exact ih
      | some socket => exact congrArg (socket :: ·) ih

/-- An agent reads its link, and holds what it is handed. -/
lemma WorldKept.linkReads (h : WorldKept machine w g) (hlink : (w.links agent).socket = some link)
    (now : Timestamp) (noise : Nat) {chunk : Stretch} (some_bytes : chunk ≠ [])
    (one : (riders chunk).length ≤ 1) (front : chunk <+: w.down link) :
    ∃ g', WorldKept machine (World.hold (World.putLink { w with
      down := Function.update w.down link ((w.down link).drop chunk.length) } agent
        ((w.links agent).read now noise (MuxLink.received chunk)).1) agent
      ((w.links agent).read now noise (MuxLink.received chunk)).2.1) g' := by
  have hline := h.line agent link hlink
  obtain ⟨part, hreads, hshort⟩ := hline.reads
  obtain ⟨below, hbelow⟩ := front
  have hdrop : (w.down link).drop chunk.length = below := by
    rw [← hbelow]
    exact List.drop_left
  -- reading leaves what goes up alone
  have hup : ({ w with down := Function.update w.down link ((w.down link).drop chunk.length) } : World) =
      { w with
        up := Function.update w.up link (w.up link)
        down := Function.update w.down link ((w.down link).drop chunk.length) } := by
    rw [Function.update_eq_self]
  rw [hup]
  rw [← hbelow, List.append_assoc] at hreads
  rcases MuxLink.read_told hreads hshort one some_bytes now noise with
    ⟨reason, -, -, l₁, hsame, heq⟩ | ⟨l', done, told', part', hsame, htold, hreads', hshort', hserved, heq⟩
  · rw [heq, World.hold_nil]
    exact h.lost hlink hsame.registration now noise _ _
  · rw [heq]
    have hdistinct := hline.distinct
    rw [htold, List.filterMap_append, List.nodup_append] at hdistinct
    obtain ⟨hdone, hnext, hapart⟩ := hdistinct
    have hkept := h.relink hlink hsame.registration (w.up link) ((w.down link).drop chunk.length) told'
      (.inr ⟨hsame.socket.trans hlink, by
        rw [hdrop]
        refine ⟨⟨part', hreads', hshort'⟩, ?_, hnext, ?_, ?_, ?_⟩
        · intro socket bytes hmem
          apply hline.fair
          rw [htold]
          exact List.mem_append_right _ hmem
        · intro reason hmem
          apply hline.refusals
          rw [htold]
          exact List.mem_append_right _ hmem
        · intro p hp
          obtain ⟨hrest, hasking⟩ := hline.asking p hp
          refine ⟨hrest, ?_⟩
          rw [hsame.output]
          refine hasking.imp_right ?_
          rintro ⟨hnone, hwaiting, hunsaid, hbytes⟩
          rw [htold] at hnone
          obtain ⟨rfl, rfl⟩ := List.append_eq_nil_iff.mp hnone
          refine ⟨rfl, ?_, hunsaid, ?_⟩
          · -- Nothing was told, so the link is as little served as before.
            have hnot : ¬Served l'.registered [] := by
              rw [hserved, htold, hwaiting]
              rintro (hfalse | ⟨_, _, hnil⟩)
              · cases hfalse
              · cases hnil
            cases hregistered : l'.registered with
            | false => rfl
            | true => exact absurd (.inl hregistered) hnot
          · rw [hbytes, MuxLink.registerFrame, MuxLink.registerFrame, hsame.registration]
        · intro sid hsid
          obtain ⟨hid, hwas⟩ := hline.claimed sid hsid
          exact ⟨hid, hserved.mpr hwas⟩⟩)
    refine hkept.hold (i := link) (handovers done) ?_ ?_ ?_
    · intro x hx
      apply hline.fair
      rw [htold]
      exact List.mem_append_left _ (mem_handovers hx)
    · rw [handovers_sockets]
      exact hdone
    · intro x hx bytes hmem
      dsimp only at hmem
      rw [Function.update_self] at hmem
      refine hapart x.socket ?_ x.socket ?_ rfl
      · exact List.mem_filterMap.mpr ⟨_, mem_handovers hx, rfl⟩
      · exact List.mem_filterMap.mpr ⟨_, hmem, rfl⟩

/-- A read that finds the end of the stream, or fails, loses the link. -/
lemma read_fails (l : MuxLink) (now : Timestamp) (noise : Nat) (ended : Bool) :
    ∃ (l₁ : MuxLink) (loss : Option MuxLoss), l₁.registration = l.registration ∧
      l.read now noise (if ended then .got [] none else .failed) = (l₁.lose now noise, [], loss) := by
  unfold MuxLink.read
  split
  · exact ⟨l, _, rfl, rfl⟩
  · cases ended with
    | false => exact ⟨l, _, rfl, rfl⟩
    | true => exact ⟨{ l with descriptors := l.descriptors ++ [] }, _, rfl, rfl⟩

/-- What `OnTimer` does: nothing, another wait, or a new connection with the registration on it. -/
lemma onTimer_cases (l : MuxLink) (now : Timestamp) (noise : Nat) (connected : Option Nat) :
    l.onTimer now noise connected = l ∨
    (l.socket = none ∧ ∃ l₁ : MuxLink, l₁.registration = l.registration ∧
      l.onTimer now noise connected = l₁.lose now noise) ∨
    ∃ socket output, l.socket = none ∧ connected = some socket ∧
      l.output.append l.registerFrame = some output ∧
      l.onTimer now noise connected = { l with
        retryAt := none
        socket := some socket
        reader := .empty
        output := output
        descriptors := []
        registered := false } := by
  unfold MuxLink.onTimer
  split
  · exact .inl rfl
  next hdue =>
    rw [not_or, Option.not_isSome_iff_eq_none] at hdue
    obtain ⟨hnone, -⟩ := hdue
    dsimp only
    cases connected with
    | none => exact .inr (.inl ⟨hnone, _, rfl, rfl⟩)
    | some socket =>
      unfold MuxLink.connect
      dsimp only
      split
      next l₁ hconnect =>
        split at hconnect
        · cases hconnect
        · obtain ⟨output, houtput, rfl⟩ := Option.map_eq_some_iff.mp hconnect
          exact .inr (.inr ⟨socket, output, hnone, rfl, houtput, rfl⟩)
      · exact .inr (.inl ⟨hnone, _, rfl, rfl⟩)

/-- A new link changes nothing about the others. -/
lemma WorldKept.connect (h : WorldKept machine w g) (uid : Nat) (foreign : Bool) :
    WorldKept machine (w.connect uid foreign) g := by
  have hold : ∀ agent link, (w.links agent).socket = some link → link ≠ w.nextLink := fun agent link hlink =>
    Nat.ne_of_lt (h.linked.own agent link hlink).1
  constructor
  case port => exact h.port
  case kept => exact h.kept
  case linked =>
    constructor
    case registration => exact h.linked.registration
    case idle => exact h.linked.idle
    case own =>
      intro agent link hlink
      obtain ⟨hlt, hours⟩ := h.linked.own agent link hlink
      refine ⟨Nat.lt_succ_of_lt hlt, ?_⟩
      dsimp only [World.connect]
      rw [Function.update_of_ne (hold agent link hlink)]
      exact hours
    case only => exact h.linked.only
    case peers =>
      intro id p hp
      obtain ⟨hlt, hbacklog, hone⟩ := h.linked.peers id p hp
      refine ⟨Nat.lt_succ_of_lt hlt, ?_, hone⟩
      intro uid' hmem
      rcases List.mem_append.mp hmem with hold | hnew
      · exact hbacklog uid' hold
      · have hsocket : p.socket = w.nextLink := congrArg Prod.fst (List.mem_singleton.mp hnew)
        rw [hsocket] at hlt
        exact Nat.lt_irrefl _ hlt
    case backlog =>
      obtain ⟨hnodup, hbelow⟩ := h.linked.backlog
      refine ⟨?_, ?_⟩
      · dsimp only [World.connect]
        rw [List.map_append, List.nodup_append]
        refine ⟨hnodup, List.pairwise_singleton _ _, ?_⟩
        intro link hlink other hother heq
        obtain ⟨x, hx, rfl⟩ := List.mem_map.mp hlink
        rw [List.map_singleton] at hother
        rw [List.mem_singleton.mp hother] at heq
        exact absurd (hbelow x hx) (Nat.not_lt.mpr (Nat.le_of_eq heq.symm))
      · intro x hx
        rcases List.mem_append.mp hx with hold | hnew
        · exact Nat.lt_succ_of_lt (hbelow x hold)
        · rw [List.mem_singleton.mp hnew]
          exact Nat.lt_succ_self _
  case placed => exact ⟨h.placed.streams, h.placed.unborn, h.placed.pending, h.placed.handed, h.placed.once⟩
  case line =>
    intro agent link hlink
    have hne := hold agent link hlink
    dsimp only [World.connect]
    rw [Function.update_of_ne hne, Function.update_of_ne hne]
    refine (h.line agent link hlink).mono ?_ (fun _ hsid => hsid) fun _ _ hfair => hfair
    rintro p (hagent | ⟨uid', hmem, rfl⟩)
    · exact ⟨p, .inl hagent, rfl, rfl⟩
    · rcases List.mem_append.mp hmem with hbefore | hnew
      · exact ⟨_, .inr ⟨uid', hbefore, rfl⟩, rfl, rfl⟩
      · cases List.mem_singleton.mp hnew
        exact absurd rfl hne

/-- An agent's link comes up on a new connection, with the registration to send. -/
lemma WorldKept.comesUp (h : WorldKept machine w g) (uid : Nat)
    (registration : l'.registration = (w.links agent).registration) (socket : l'.socket = some w.nextLink)
    (reader : l'.reader = .empty) (descriptors : l'.descriptors = []) (registered : l'.registered = false)
    (output : l'.output.front = l'.registerFrame) :
    WorldKept machine ((w.connect uid false).putLink agent l')
      { g with
        told := Function.update g.told w.nextLink []
        rest := Function.update g.rest w.nextLink [] } := by
  have hconnected := h.connect uid false
  have hother : ∀ other, other ≠ agent → Function.update w.links agent l' other = w.links other :=
    fun other hne => Function.update_of_ne hne ..
  have hself : Function.update w.links agent l' agent = l' := Function.update_self ..
  constructor
  case port => exact h.port
  case kept => exact h.kept
  case linked =>
    constructor
    case registration =>
      intro other
      dsimp only [World.putLink, World.connect]
      by_cases hsame : other = agent
      · rw [hsame, hself, registration]
        exact h.linked.registration agent
      · rw [hother other hsame]
        exact h.linked.registration other
    case idle =>
      intro other hidle
      dsimp only [World.putLink, World.connect] at hidle ⊢
      by_cases hsame : other = agent
      · rw [hsame, hself, socket] at hidle
        cases hidle
      · rw [hother other hsame] at hidle ⊢
        exact h.linked.idle other hidle
    case own =>
      intro other link hlink
      dsimp only [World.putLink, World.connect] at hlink
      by_cases hsame : other = agent
      · rw [hsame, hself, socket] at hlink
        cases hlink
        exact ⟨Nat.lt_succ_self _, Function.update_self ..⟩
      · rw [hother other hsame] at hlink
        exact hconnected.linked.own other link hlink
    case only =>
      intro one other link hone htwo
      dsimp only [World.putLink, World.connect] at hone htwo
      -- no other agent holds the link that was just made
      have hnew : ∀ x, x ≠ agent → (Function.update w.links agent l' x).socket ≠ some w.nextLink := by
        intro x hx heq
        rw [hother x hx] at heq
        exact absurd (h.linked.own x _ heq).1 (Nat.lt_irrefl _)
      by_cases hsame : one = agent
      · rw [hsame, hself, socket] at hone
        cases hone
        by_cases hsame' : other = agent
        · rw [hsame, hsame']
        · exact absurd htwo (hnew other hsame')
      · by_cases hsame' : other = agent
        · rw [hsame', hself, socket] at htwo
          cases htwo
          exact absurd hone (hnew one hsame)
        · rw [hother one hsame] at hone
          rw [hother other hsame'] at htwo
          exact h.linked.only one other link hone htwo
    case peers => exact hconnected.linked.peers
    case backlog => exact hconnected.linked.backlog
  case placed => exact ⟨h.placed.streams, h.placed.unborn, h.placed.pending, h.placed.handed, h.placed.once⟩
  case line =>
    intro other link hlink
    dsimp only [World.putLink] at hlink ⊢
    by_cases hsame : other = agent
    · rw [show (w.connect uid false).links = w.links from rfl] at hlink ⊢
      rw [hsame, hself] at hlink ⊢
      rw [socket] at hlink
      cases hlink
      dsimp only [World.connect]
      rw [Function.update_self, Function.update_self, Function.update_self, Function.update_self]
      -- nothing was told on the new link, and the mux has yet to accept it
      refine ⟨⟨[], ⟨rfl, ?_, descriptors, ?_, fun t ht => (List.not_mem_nil ht).elim⟩,
        fun t ht => (by cases ht)⟩, fun _ _ hmem => (List.not_mem_nil hmem).elim, List.nodup_nil,
        fun _ hmem => (List.not_mem_nil hmem).elim, ?_, ?_⟩
      · rw [reader]
        rfl
      · rw [registered]
        exact .waiting
      · rintro p (⟨id, hp, hlink⟩ | ⟨uid', -, rfl⟩)
        · exact absurd (h.linked.peers id p hp).1 (by rw [hlink]; exact Nat.lt_irrefl _)
        · exact ⟨rfl, .inr ⟨rfl, registered, rfl, output⟩⟩
      · rintro sid ⟨r, -, -, -, p, hp, hlink⟩
        exact absurd (h.linked.peers _ p hp).1 (by rw [hlink]; exact Nat.lt_irrefl _)
    · rw [show (w.connect uid false).links = w.links from rfl] at hlink ⊢
      rw [hother other hsame] at hlink ⊢
      have hne : link ≠ w.nextLink := Nat.ne_of_lt (h.linked.own other link hlink).1
      rw [Function.update_of_ne hne, Function.update_of_ne hne]
      exact hconnected.line other link hlink

/-- An agent without a link waits for another. -/
lemma WorldKept.waits (h : WorldKept machine w g)
    (registration : l'.registration = (w.links agent).registration) (socket : l'.socket = none)
    (output : l'.output.front = []) : WorldKept machine (w.putLink agent l') g := by
  have hsame : ∀ other link, (Function.update w.links agent l' other).socket = some link →
      Function.update w.links agent l' other = w.links other ∧ (w.links other).socket = some link := by
    intro other link hlink
    by_cases hsame : other = agent
    · rw [hsame, Function.update_self, socket] at hlink
      cases hlink
    · rw [Function.update_of_ne hsame] at hlink ⊢
      exact ⟨rfl, hlink⟩
  refine ⟨h.port, h.kept, ⟨?_, ?_, ?_, ?_, h.linked.peers, h.linked.backlog⟩,
    ⟨h.placed.streams, h.placed.unborn, h.placed.pending, h.placed.handed, h.placed.once⟩, ?_⟩
  · intro other
    dsimp only [World.putLink]
    by_cases hother : other = agent
    · rw [hother, Function.update_self, registration]
      exact h.linked.registration agent
    · rw [Function.update_of_ne hother]
      exact h.linked.registration other
  · intro other hidle
    dsimp only [World.putLink] at hidle ⊢
    by_cases hother : other = agent
    · rw [hother, Function.update_self]
      exact output
    · rw [Function.update_of_ne hother] at hidle ⊢
      exact h.linked.idle other hidle
  · exact fun other link hlink => h.linked.own other link (hsame other link hlink).2
  · exact fun one other link hone htwo =>
      h.linked.only one other link (hsame one link hone).2 (hsame other link htwo).2
  · intro other link hlink
    obtain ⟨heq, hbefore⟩ := hsame other link hlink
    dsimp only [World.putLink]
    rw [heq]
    exact h.line other link hbefore

/-- An agent reads a connection it holds. -/
lemma WorldKept.agentReads (h : WorldKept machine w g) {socket : Nat} {chunk : Bytes}
    (front : chunk <+: w.coming socket) (held : ∃ x ∈ w.handed, x.2.socket = socket) :
    WorldKept machine { w.readSocket socket chunk with
      got := Function.update w.got socket (w.got socket ++ chunk) } g := by
  obtain ⟨x, hx, rfl⟩ := held
  obtain ⟨hplace, hgot, -⟩ := h.placed.handed x hx
  have hother : ∀ other, g.place other ≠ .agent x.1 →
      Function.update w.had x.2.socket (w.had x.2.socket ++ chunk) other = w.had other := by
    intro other hne
    apply Function.update_of_ne
    rintro rfl
    exact hne hplace
  refine ⟨h.port, h.kept, ⟨h.linked.registration, h.linked.idle, h.linked.own, h.linked.only,
    h.linked.peers, h.linked.backlog⟩, ⟨?_, ?_, ?_, ?_, h.placed.once⟩, ?_⟩
  · intro other
    dsimp only [World.readSocket]
    by_cases hsame : other = x.2.socket
    · rw [hsame]
      obtain ⟨more, hmore⟩ := front
      rw [Function.update_self, Function.update_self, h.placed.streams, ← hmore, List.drop_left,
        List.append_assoc]
    · rw [Function.update_of_ne hsame, Function.update_of_ne hsame]
      exact h.placed.streams other
  · intro other hborn
    obtain ⟨hhad, hnowhere⟩ := h.placed.unborn other hborn
    refine ⟨(hother other ?_).trans hhad, hnowhere⟩
    rw [hnowhere]
    exact Place.noConfusion
  · intro id p other hp hs
    obtain ⟨hpending, hlife⟩ := h.placed.pending id p other hp hs
    dsimp only [World.readSocket]
    rw [hother other (by rw [hpending]; exact Place.noConfusion)]
    exact ⟨hpending, hlife⟩
  · intro y hy
    obtain ⟨hagent, hgot', hfront, hnames⟩ := h.placed.handed y hy
    dsimp only [World.readSocket]
    by_cases hsame : y.2.socket = x.2.socket
    · rw [hsame] at hagent hfront
      rw [hsame, Function.update_self, Function.update_self, hgot]
      exact ⟨hagent, rfl, hfront.trans (List.prefix_append _ _), hnames⟩
    · rw [Function.update_of_ne hsame, Function.update_of_ne hsame]
      exact ⟨hagent, hgot', hfront, hnames⟩
  · intro agent link hlink
    refine (h.line agent link hlink).mono (fun p hp => ⟨p, hp, rfl, rfl⟩) (fun _ hsid => hsid) ?_
    rintro other bytes ⟨hway, hbytes, hnames⟩
    refine ⟨hway, hbytes.trans (hother other ?_).symm, hnames⟩
    rw [hway]
    exact Place.noConfusion

/-- A mux that is started anew knows nobody. -/
lemma WorldKept.muxRestarts (h : WorldKept machine w g) {port : Nat}
    (range : 0 < port ∧ port < 256 ^ 2) (storage : Bytes) :
    WorldKept machine { w with mux := .create port storage, backlog := [] }
      { g with lives := fun _ => none } := by
  refine ⟨range, Kept.create port storage, ⟨h.linked.registration, h.linked.idle, h.linked.own,
    h.linked.only, ?_, List.nodup_nil, fun x hx => (List.not_mem_nil hx).elim⟩,
    ⟨h.placed.streams, h.placed.unborn, ?_, h.placed.handed, h.placed.once⟩, ?_⟩
  · intro id p hp
    cases hp
  · intro id p socket hp
    cases hp
  · intro agent link hlink
    refine (h.line agent link hlink).mono ?_ ?_ fun _ _ hfair => hfair
    · rintro p (⟨id, hp, -⟩ | ⟨uid, hmem, -⟩)
      · cases hp
      · exact (List.not_mem_nil hmem).elim
    · rintro sid ⟨r, -, -, -, p, hp, -⟩
      cases hp

/-- What other processes do is on links of their own. -/
lemma WorldKept.foreign (h : WorldKept machine w g) {link : Nat} (foreign : w.foreign link = true)
    (up : Bytes) (down : Stretch) : WorldKept machine { w with
      up := Function.update w.up link up
      down := Function.update w.down link down } g := by
  refine ⟨h.port, h.kept, ⟨h.linked.registration, h.linked.idle, h.linked.own, h.linked.only,
    h.linked.peers, h.linked.backlog⟩, ⟨h.placed.streams, h.placed.unborn, h.placed.pending,
    h.placed.handed, h.placed.once⟩, ?_⟩
  intro agent link' hlink
  have hne : link' ≠ link := by
    rintro rfl
    rw [(h.linked.own agent link' hlink).2] at foreign
    cases foreign
  dsimp only
  rw [Function.update_of_ne hne, Function.update_of_ne hne]
  exact h.line agent link' hlink

/-- `OnTimer` of an agent's link. -/
lemma WorldKept.linkTimer (h : WorldKept machine w g) (agent : Nat) (now : Timestamp) (noise : Nat)
    (reaches : Bool) (hstep : worldStep machine w (.linkTimer agent now noise reaches) = some w') :
    ∃ g', WorldKept machine w' g' := by
  rw [worldStep] at hstep
  rcases onTimer_cases (w.links agent) now noise (if reaches then some w.nextLink else none) with
    heq | ⟨hnone, l₁, hregistration, heq⟩ | ⟨socket, output, hnone, hconnected, houtput, heq⟩
  · rw [heq] at hstep
    split at hstep
    next hsocket => exact absurd (h.linked.own agent _ hsocket).1 (Nat.lt_irrefl _)
    · cases hstep
      rw [World.putLink, Function.update_eq_self]
      exact ⟨g, h⟩
  · obtain ⟨hsocket, hfront, hsame⟩ := lose_lost l₁ now noise
    rw [heq, hsocket] at hstep
    cases hstep
    exact ⟨g, h.waits (hsame.trans hregistration) hsocket hfront⟩
  · obtain rfl : socket = w.nextLink := by
      cases reaches with
      | false => cases hconnected
      | true => exact (Option.some.inj hconnected).symm
    rw [heq] at hstep
    dsimp only at hstep
    rw [if_pos rfl] at hstep
    cases hstep
    refine ⟨_, h.comesUp (machine.uidOf agent) rfl rfl rfl rfl rfl ?_⟩
    obtain ⟨hfront, -⟩ := ByteQueue.appendTo_some houtput
    dsimp only
    rw [hfront, h.linked.idle agent hnone]
    rfl

/-- No event of anybody breaks what is kept. -/
lemma WorldKept.step (h : WorldKept machine w g) {act : Act} (allowed : Allowed w act)
    (hstep : worldStep machine w act = some w') : ∃ g', WorldKept machine w' g' := by
  cases act with
  | peerSends socket bytes =>
    cases hstep
    refine ⟨g, h.port, h.kept, ⟨h.linked.registration, h.linked.idle, h.linked.own, h.linked.only,
      h.linked.peers, h.linked.backlog⟩, ⟨?_, h.placed.unborn, h.placed.pending, h.placed.handed,
      h.placed.once⟩, h.line⟩
    intro other
    dsimp only
    by_cases hsame : other = socket
    · rw [hsame, Function.update_self, Function.update_self, h.placed.streams, List.append_assoc]
    · rw [Function.update_of_ne hsame, Function.update_of_ne hsame]
      exact h.placed.streams other
  | mux event =>
    cases hstep
    exact h.mux event allowed
  | muxRestarts port storage =>
    cases hstep
    exact ⟨_, h.muxRestarts allowed storage⟩
  | linkTimer agent now noise reaches => exact h.linkTimer agent now noise reaches hstep
  | linkWrites agent now noise answers =>
    rw [worldStep] at hstep
    cases hlink : (w.links agent).socket with
    | none =>
      rw [hlink] at hstep
      cases hstep
    | some link =>
      rw [hlink] at hstep
      cases hstep
      exact h.linkWrites hlink now noise answers
  | linkReads agent now noise chunk =>
    rw [worldStep] at hstep
    cases hlink : (w.links agent).socket with
    | none =>
      rw [hlink] at hstep
      cases hstep
    | some link =>
      rw [hlink] at hstep
      cases hstep
      obtain ⟨hbytes, hone, -, hfront⟩ := allowed
      exact h.linkReads hlink now noise hbytes hone (hfront link hlink)
  | linkFails agent now noise ended =>
    rw [worldStep] at hstep
    cases hlink : (w.links agent).socket with
    | none =>
      rw [hlink] at hstep
      cases hstep
    | some link =>
      rw [hlink] at hstep
      obtain ⟨l₁, loss, hregistration, heq⟩ := read_fails (w.links agent) now noise ended
      rw [heq] at hstep
      cases hstep
      obtain ⟨hsocket, hfront, hsame⟩ := lose_lost l₁ now noise
      exact ⟨g, h.waits (hsame.trans hregistration) hsocket hfront⟩
  | linkRefused agent now noise =>
    cases hstep
    unfold MuxLink.refuseWatch
    split
    · obtain ⟨hsocket, hfront, hsame⟩ := lose_lost (w.links agent) now noise
      exact ⟨g, h.waits hsame hsocket hfront⟩
    · rw [World.putLink, Function.update_eq_self]
      exact ⟨g, h⟩
  | agentReads socket chunk =>
    cases hstep
    exact ⟨g, h.agentReads allowed.1 allowed.2⟩
  | foreignConnects uid =>
    cases hstep
    exact ⟨g, h.connect uid true⟩
  | foreignSends link bytes =>
    cases hstep
    have hkept := h.foreign allowed (w.up link ++ bytes) (w.down link)
    rw [Function.update_eq_self (f := w.down)] at hkept
    exact ⟨g, hkept⟩
  | foreignReads link count =>
    cases hstep
    have hkept := h.foreign allowed (w.up link) ((w.down link).drop count)
    rw [Function.update_eq_self (f := w.up)] at hkept
    exact ⟨g, hkept⟩

/-- A state a machine can come to. -/
def Happens (machine : Machine) (port : Nat) (storage : Bytes) (acts : List Act) (w : World) : Prop :=
  Run (worldStep machine) Allowed (World.start machine port storage) acts w

/-- Whatever happens, the world is kept. -/
lemma WorldKept.happens {port : Nat} (range : 0 < port ∧ port < 256 ^ 2) {storage : Bytes}
    {acts : List Act} (run : Happens machine port storage acts w) : ∃ g, WorldKept machine w g := by
  refine run.inv (fun w => ∃ g, WorldKept machine w g) ?_ ⟨_, WorldKept.start machine range storage⟩
  rintro w act w' ⟨g, h⟩ allowed hstep
  exact h.step allowed hstep

/-- Every agent serves the session of `sampleHelloFrame`. -/
def sampleMachine : Machine := ⟨sampleIdOf, fun _ => 1000, fun _ => sampleRegistration⟩

/-- An agent registers, a peer connects, and its Hello is handed over in two pieces. -/
def sampleHandoff : List Act :=
  let told : Stretch := (Told.registered 2022).parcel.laid
  let handoff : Stretch := (Told.handoff (some 0) sampleHelloFrame).parcel.laid
  [.linkTimer 0 0 0 true, .linkWrites 0 0 0 [.took 100], .mux (.acceptAgent 0 1000),
    .mux (.readAgent 16 (.got (cleartextFrame (writeMuxRegister ⟨sampleRegistration⟩))) []),
    .mux (.writeAgent 16 [.took 100]), .linkReads 0 0 0 told,
    .mux (.acceptTcp 0 (.fill 16 0) 0), .peerSends 0 (sampleHelloFrame ++ [1, 2]),
    .mux (.readPending 17 (.got (sampleHelloFrame.take 9)) []),
    .mux (.readPending 17 (.got (sampleHelloFrame.drop 9)) [.took 3]),
    .linkReads 0 0 0 (handoff.take 4), .mux (.writeAgent 16 [.took 100])]

/-- What is left of the handoff. -/
def sampleLastChunk : Stretch := (Told.handoff (some 0) sampleHelloFrame).parcel.laid.drop 4

/--
Every connection an agent is handed names the agent's own session in its Hello and comes with what its
peer sent first; what the agent has of it, now and later, is what the peer sent, from the first byte on;
and no connection is handed over twice, to one agent or to two.
-/
theorem handed_over (machine : Machine) {port : Nat} (range : 0 < port ∧ port < 256 ^ 2) (storage : Bytes)
    {acts : List Act} {w : World} (run : Happens machine port storage acts w) :
    (∀ agent h, (agent, h) ∈ w.handed →
      Names h.bytes (machine.sessionIdOf (machine.keyOf agent)) ∧ h.bytes <+: w.got h.socket ∧
        w.got h.socket ++ w.coming h.socket = w.sent h.socket) ∧
    (w.handed.map fun x => x.2.socket).Nodup := by
  obtain ⟨g, h⟩ := WorldKept.happens range run
  refine ⟨?_, h.placed.once⟩
  intro agent handed hmem
  obtain ⟨-, hgot, hfront, hnames⟩ := h.placed.handed _ hmem
  refine ⟨hnames, ?_, ?_⟩
  · rw [hgot]
    exact hfront
  · rw [hgot]
    exact (h.placed.streams handed.socket).symm

/-- A Hello handed over to the session it names, and two bytes behind it. -/
theorem handed_over_sample : ∃ w, Happens sampleMachine 2022 (List.replicate muxPendingBuffer 0)
      (sampleHandoff ++ [.linkReads 0 0 0 sampleLastChunk, .agentReads 0 [1, 2]]) w ∧
    w.handed = [(0, ⟨0, sampleHelloFrame⟩)] ∧ w.got 0 = sampleHelloFrame ++ [1, 2] ∧
    Names sampleHelloFrame (sampleIdOf sampleRegistration) := by
  have hrun : (exec (guarded (worldStep sampleMachine) Allowed)
      (World.start sampleMachine 2022 (List.replicate muxPendingBuffer 0))
      (sampleHandoff ++ [.linkReads 0 0 0 sampleLastChunk, .agentReads 0 [1, 2]])).map
        (fun w => (w.handed, w.got 0)) =
      some ([(0, ⟨0, sampleHelloFrame⟩)], sampleHelloFrame ++ [1, 2]) := by
    decide +kernel
  obtain ⟨w, hw, hsame⟩ := Option.map_eq_some_iff.mp hrun
  obtain ⟨hhanded, hgot⟩ := Prod.mk.inj hsame
  have hwrun : Happens sampleMachine 2022 (List.replicate muxPendingBuffer 0) _ w := Run.of_guarded hw
  have hall := handed_over sampleMachine (by decide) _ hwrun
  refine ⟨w, hwrun, hhanded, hgot, ?_⟩
  exact (hall.1 0 ⟨0, sampleHelloFrame⟩ (by rw [hhanded]; exact List.mem_singleton.mpr rfl)).1

/-- The mux's end of a link has no more than the front of the registration. -/
lemma Line.sent {l : MuxLink} {up : Bytes} {down rest : Stretch} {far : AgentPeer → Prop}
    {claims : SessionId → Prop} {fair : Nat → Bytes → Prop} {id : SessionId} {told : List Told}
    (h : Line l up down far claims fair id told rest) {p : AgentPeer} (hp : far p) :
    p.reader.bytes ++ up <+: l.registerFrame := by
  rcases (h.asking p hp).2 with ⟨hempty, hup, -⟩ | ⟨-, -, -, hbytes⟩
  · rw [hempty, hup]
    exact List.nil_prefix
  · rw [← hbytes]
    exact List.prefix_append _ _

/-- What the reader makes of the front of a registration: it waits for more, or takes it and has nothing
left. -/
lemma next_registration {reader : MuxFrameReader} {registration : KeyBytes}
    (front : reader.bytes <+: (clearFrameOf (registerBody registration) (registerBody_pos _)
      (registerBody_fits _)).bytes) :
    reader.next = (.ok none, reader) ∨ reader.next = (.ok (some (registerBody registration)), .empty) := by
  obtain ⟨more, hmore⟩ := front
  rw [← List.append_nil (WireFrame.bytes _)] at hmore
  have hnext := MuxFrameReader.next_front hmore rfl (registerBody_fits registration)
  split at hnext
  · exact .inl hnext
  next hlong =>
    have hlength := congrArg List.length hmore
    rw [List.length_append, List.length_append, List.length_nil] at hlength
    rw [List.drop_of_length_le (by omega)] at hnext
    exact .inr hnext

/-- A link an agent of ours holds always leaves the mux room to read. -/
lemma agentRoom_pos {p : AgentPeer} {registration : KeyBytes}
    (front : p.reader.bytes <+: (clearFrameOf (registerBody registration) (registerBody_pos _)
      (registerBody_fits _)).bytes) : 0 < Mux.agentRoom p := by
  have hshort := front.length_le
  have hbody := registerBody_fits registration
  have hframe := (clearFrameOf (registerBody registration) (registerBody_pos _) (registerBody_fits _)).length_bytes
  have hcapacity : headerSize + muxMaxBody < MuxFrameReader.capacity := by decide
  have hchunk : 0 < readChunk := by decide
  rw [hframe] at hshort
  rw [Mux.agentRoom, MuxFrameReader.room]
  change p.reader.bytes.length ≤ headerSize + (registerBody registration).length at hshort
  omega

/--
As long as an agent holds its link, neither end sees the other break the protocol. The agent always has
room to read, and whatever part of what is on the link it reads, it does not lose the link over it, unless
the mux refused the registration, and never for its form; then the refusal is what had been read and what is
read now. The mux always has room to read, too, and whatever it reads is at most one registration it can
parse, with nothing behind it.
-/
theorem protocol_kept (machine : Machine) {port : Nat} (range : 0 < port ∧ port < 256 ^ 2) (storage : Bytes)
    {acts : List Act} {w : World} (run : Happens machine port storage acts w) {agent link : Nat}
    (hlink : (w.links agent).socket = some link) :
    0 < (w.links agent).readRoom ∧
    (∀ now noise chunk, chunk ≠ [] → (riders chunk).length ≤ 1 → chunk <+: w.down link →
      ((w.links agent).read now noise (MuxLink.received chunk)).2.2 = none ∨
      ∃ reason ≠ .malformed, (Told.refused reason).frame <+: (w.links agent).reader.bytes ++ cells chunk ∧
        ((w.links agent).read now noise (MuxLink.received chunk)).2.2 = some .brokeProtocol) ∧
    ∀ id p, w.mux.agents id = some p → p.socket = link → 0 < Mux.agentRoom p ∧
      ∀ chunk, chunk <+: w.up link →
        (p.reader.append chunk).next = (.ok none, p.reader.append chunk) ∨
        ∃ body, (p.reader.append chunk).next = (.ok (some body), .empty) ∧
          ∀ (m : Mux) a, (m.register machine.sessionIdOf id a body).1 ≠ some .malformed := by
  obtain ⟨g, h⟩ := WorldKept.happens range run
  have hline := h.line agent link hlink
  obtain ⟨part, hreads, hshort⟩ := hline.reads
  refine ⟨hreads.room hshort, ?_, ?_⟩
  · rintro now noise chunk hbytes hone ⟨below, hbelow⟩
    rw [← hbelow, List.append_assoc] at hreads
    rcases MuxLink.read_told hreads hshort hone hbytes now noise with
      ⟨reason, htold, hframe, l₁, -, heq⟩ | ⟨l', done, told', part', -, -, -, -, -, heq⟩
    · refine .inr ⟨reason, hline.refusals reason ?_, hframe, by rw [heq]⟩
      rw [htold]
      exact List.mem_singleton.mpr rfl
    · exact .inl (by rw [heq])
  · intro id p hp same
    have hsent := hline.sent (.inl ⟨id, hp, same⟩)
    rw [registerFrame_eq] at hsent
    refine ⟨agentRoom_pos ((List.prefix_append _ _).trans hsent), ?_⟩
    rintro chunk ⟨more, hmore⟩
    rw [← hmore, ← List.append_assoc] at hsent
    have hfront : (p.reader.append chunk).bytes <+: (clearFrameOf (registerBody (w.links agent).registration)
        (registerBody_pos _) (registerBody_fits _)).bytes := (List.prefix_append _ _).trans hsent
    rcases next_registration hfront with hnext | hnext
    · exact .inl hnext
    · exact .inr ⟨_, hnext, fun m a => register_registerBody machine.sessionIdOf m id a _⟩

/-- The registration is read by the mux, and then a handoff by the agent. -/
theorem protocol_kept_sample :
    (∃ w p, Happens sampleMachine 2022 (List.replicate muxPendingBuffer 0) (sampleHandoff.take 3) w ∧
      w.mux.agents 16 = some p ∧ 0 < Mux.agentRoom p ∧ ∃ body,
        (p.reader.append (w.up 0)).next = (.ok (some body), .empty) ∧
        (w.mux.register sampleIdOf 16 p body).1 ≠ some .malformed) ∧
    ∃ w, Happens sampleMachine 2022 (List.replicate muxPendingBuffer 0) sampleHandoff w ∧
      0 < (w.links 0).readRoom ∧ sampleLastChunk <+: w.down 0 ∧
      (((w.links 0).read 0 0 (MuxLink.received sampleLastChunk)).2.2 = none ∨
        ∃ reason ≠ .malformed,
          (Told.refused reason).frame <+: (w.links 0).reader.bytes ++ cells sampleLastChunk ∧
          ((w.links 0).read 0 0 (MuxLink.received sampleLastChunk)).2.2 = some .brokeProtocol) := by
  constructor
  · have hrun : (exec (guarded (worldStep sampleMachine) Allowed)
        (World.start sampleMachine 2022 (List.replicate muxPendingBuffer 0)) (sampleHandoff.take 3)).map
          (fun w => decide ((w.links 0).socket = some 0 ∧
            w.mux.agents 16 = some ⟨0, 1000, .empty, [], false⟩ ∧
            (MuxFrameReader.empty.append (w.up 0)).next.1 ≠ .ok none)) = some true := by
      decide +kernel
    obtain ⟨w, hw, hsame⟩ := Option.map_eq_some_iff.mp hrun
    obtain ⟨hlink, hp, hwhole⟩ := of_decide_eq_true hsame
    have hwrun : Happens sampleMachine 2022 (List.replicate muxPendingBuffer 0) _ w := Run.of_guarded hw
    obtain ⟨hroom, hreads⟩ := (protocol_kept sampleMachine (by decide) _ hwrun hlink).2.2 16 _ hp rfl
    rcases hreads (w.up 0) (List.prefix_refl _) with hnone | ⟨body, hnext, hwell⟩
    · exact absurd (congrArg Prod.fst hnone) hwhole
    · exact ⟨w, _, hwrun, hp, hroom, body, hnext, hwell w.mux _⟩
  · have hrun : (exec (guarded (worldStep sampleMachine) Allowed)
        (World.start sampleMachine 2022 (List.replicate muxPendingBuffer 0)) sampleHandoff).map
          (fun w => decide ((w.links 0).socket = some 0 ∧ sampleLastChunk <+: w.down 0)) = some true := by
      decide +kernel
    obtain ⟨w, hw, hsame⟩ := Option.map_eq_some_iff.mp hrun
    obtain ⟨hlink, hfront⟩ := of_decide_eq_true hsame
    have hwrun : Happens sampleMachine 2022 (List.replicate muxPendingBuffer 0) _ w := Run.of_guarded hw
    obtain ⟨hroom, hreads, -⟩ := protocol_kept sampleMachine (by decide) _ hwrun hlink
    exact ⟨w, hwrun, hroom, hfront,
      hreads 0 0 sampleLastChunk (by decide +kernel) (by decide +kernel) hfront⟩

/--
Where the mux holds its end of an agent's link, has nothing queued for it and nothing is on the link, the
link holds nothing back: no bytes and no descriptor wait for more. A registration the mux holds for that
end, which it may be closing, is under the agent's own session id, and the agent knows of it.
-/
theorem drained_link (machine : Machine) {port : Nat} (range : 0 < port ∧ port < 256 ^ 2) (storage : Bytes)
    {acts : List Act} {w : World} (run : Happens machine port storage acts w) {agent link id : Nat}
    {p : AgentPeer} (hlink : (w.links agent).socket = some link) (hp : w.mux.agents id = some p)
    (same : p.socket = link) (sent : p.output = []) (empty : w.down link = []) :
    (w.links agent).reader.bytes = [] ∧ (w.links agent).descriptors = [] ∧
      ∀ sid r, w.mux.router.claim sid = some r → r.agent = id →
        sid = machine.sessionIdOf (machine.keyOf agent) ∧ (w.links agent).registered = true := by
  obtain ⟨g, h⟩ := WorldKept.happens range run
  have hline := h.line agent link hlink
  obtain ⟨part, hreads, hshort⟩ := hline.reads
  obtain ⟨hrest, -⟩ := hline.asking p (.inl ⟨id, hp, same⟩)
  rw [empty, hrest, sent, queued_nil, List.append_nil] at hreads
  have htold : g.told link = [] := by
    cases htold : g.told link with
    | nil => rfl
    | cons t told =>
      -- All of the next message would have been read, and it would have been taken.
      rw [htold] at hreads hshort
      have hlength := congrArg List.length hreads.laid
      rw [List.map_cons, lay_cons, List.length_append, List.append_nil, Parcel.laid, length_ride] at hlength
      have hless : part.length < t.frame.length := hshort t rfl
      have hframe : t.parcel.cells.length = t.frame.length := rfl
      omega
  rw [htold] at hreads
  obtain ⟨rfl, -⟩ := hreads.nil
  refine ⟨hreads.reader, hreads.descriptors, ?_⟩
  intro sid r hclaim hagent
  obtain ⟨hmem, hlive, hid⟩ := h.kept.sound.registered.claim_iff.mp hclaim
  obtain ⟨hsid, hserved⟩ := hline.claimed sid ⟨r, hmem, hlive, hid, p, by rw [hagent, hp], same⟩
  refine ⟨hsid, ?_⟩
  rcases hserved with htrue | ⟨_, _, hnone⟩
  · exact htrue
  · rw [htold] at hnone
    cases hnone

/-- A link that was read to its end has nothing left. -/
theorem drained_link_sample : ∃ w, Happens sampleMachine 2022 (List.replicate muxPendingBuffer 0)
      (sampleHandoff ++ [.linkReads 0 0 0 sampleLastChunk]) w ∧
    (w.links 0).reader.bytes = [] ∧ (w.links 0).descriptors = [] ∧ (w.links 0).registered = true := by
  have hrun : (exec (guarded (worldStep sampleMachine) Allowed)
      (World.start sampleMachine 2022 (List.replicate muxPendingBuffer 0))
      (sampleHandoff ++ [.linkReads 0 0 0 sampleLastChunk])).map
        (fun w => decide ((w.links 0).socket = some 0 ∧
          w.mux.agents 16 = some ⟨0, 1000, .empty, [], false⟩ ∧ w.down 0 = [] ∧
          (w.mux.router.claim (sampleIdOf sampleRegistration)).map Registration.agent = some 16)) =
      some true := by
    decide +kernel
  obtain ⟨w, hw, hsame⟩ := Option.map_eq_some_iff.mp hrun
  obtain ⟨hlink, hp, hdown, hclaim⟩ := of_decide_eq_true hsame
  obtain ⟨r, hr, hagent⟩ := Option.map_eq_some_iff.mp hclaim
  have hwrun : Happens sampleMachine 2022 (List.replicate muxPendingBuffer 0) _ w := Run.of_guarded hw
  obtain ⟨hreader, hdescriptors, hregistered⟩ :=
    drained_link sampleMachine (by decide) _ hwrun hlink hp rfl rfl hdown
  exact ⟨w, hwrun, hreader, hdescriptors, (hregistered _ r hr hagent).2⟩

end Zet.Muxd
