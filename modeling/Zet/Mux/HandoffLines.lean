import Zet.Mux.HandoffWorld

/-!
# What is on every link

The invariant of `Zet.Mux.HandoffWorld`. A link an agent of ours holds is a line (`Line`): what it read and
has not understood, what is on it and what the mux has queued for it are, end to end, the messages it has
still to be told; what it sent, what is on it and what the mux has of it are its one registration, until
that is answered. A socket is in one place (`Place`), and the places of a connection are those of its way
from the mux over one link to one agent.
-/

namespace Zet.Muxd
open Zet.Core Zet.Wire Zet.Lib Zet.Session Zet.App Zet.Agent

/-- Where a connection is. -/
inductive Place where
  | nowhere
  | pending (id : Nat)
  | link (link : Nat)
  | agent (agent : Nat)
deriving DecidableEq, Repr

/-- What is known of a state beside what is in it: by link, what the agent has still to be told and how
much of that is not on the link yet; where each connection is; and what the router was fed. -/
structure Ghost where
  told : Nat → List Told
  rest : Nat → Stretch
  place : Nat → Place
  lives : Nat → Option MuxLife

/-- The mux's end of a link, accepted or not. -/
def World.Far (w : World) (link : Nat) (p : AgentPeer) : Prop :=
  (∃ id, w.mux.agents id = some p ∧ p.socket = link) ∨
    ∃ uid, (link, uid) ∈ w.backlog ∧ p = ⟨link, uid, .empty, [], false⟩

/-- The session ids that are registered by the mux's end of a link. -/
def World.Claims (w : World) (link : Nat) (id : SessionId) : Prop :=
  ∃ g ∈ w.mux.router.registrations, g.live = true ∧ g.id = id ∧
    ∃ p, w.mux.agents g.agent = some p ∧ p.socket = link

/-- The Hello at the front of what was read of a connection names a session. -/
def Names (bytes : Bytes) (id : SessionId) : Prop := ∃ peek, peekHello bytes = .ok peek ∧ peek.id = id

/-- A link an agent holds, with its mux's end. -/
structure Line (l : MuxLink) (up : Bytes) (down : Stretch) (far : AgentPeer → Prop)
    (claims : SessionId → Prop) (fair : Nat → Bytes → Prop) (id : SessionId) (told : List Told)
    (rest : Stretch) : Prop where
  reads : ∃ part, l.Reads told part (down ++ rest) ∧ MuxLink.Short told part
  fair : ∀ socket bytes, .handoff (some socket) bytes ∈ told → fair socket bytes
  distinct : (told.filterMap Told.rider).Nodup
  /-- What the agent sent was never malformed to the mux. -/
  refusals : ∀ reason, .refused reason ∈ told → reason ≠ .malformed
  /-- What the mux has queued is the end of it, and the registration is on its way or has arrived. -/
  asking : ∀ p, far p → rest = queued p.output ∧
    ((p.reader.bytes = [] ∧ up = [] ∧ l.output.front = []) ∨
      (told = [] ∧ l.registered = false ∧ p.output = [] ∧
        p.reader.bytes ++ up ++ l.output.front = l.registerFrame))
  claimed : ∀ sid, claims sid → sid = id ∧ Served l.registered told

/-- The two ends of all the links. -/
structure Linked (machine : Machine) (w : World) : Prop where
  registration : ∀ agent, (w.links agent).registration = machine.keyOf agent
  idle : ∀ agent, (w.links agent).socket = none → (w.links agent).output.front = []
  own : ∀ agent link, (w.links agent).socket = some link → link < w.nextLink ∧ w.foreign link = false
  only : ∀ agent other link, (w.links agent).socket = some link → (w.links other).socket = some link →
    other = agent
  peers : ∀ id p, w.mux.agents id = some p → p.socket < w.nextLink ∧
    (∀ uid, (p.socket, uid) ∉ w.backlog) ∧
    ∀ id' p', w.mux.agents id' = some p' → p'.socket = p.socket → id' = id
  backlog : (w.backlog.map Prod.fst).Nodup ∧ ∀ x ∈ w.backlog, x.1 < w.nextLink

/-- The connections, wherever they are. -/
structure Placed (machine : Machine) (w : World) (g : Ghost) : Prop where
  streams : ∀ socket, w.sent socket = w.had socket ++ w.coming socket
  unborn : ∀ socket, w.nextSocket ≤ socket → w.had socket = [] ∧ g.place socket = .nowhere
  pending : ∀ id p socket, w.mux.pending id = some p → p.socket = some socket →
    g.place socket = .pending id ∧ (p.closing = false → g.lives id = some ⟨w.had socket, []⟩)
  handed : ∀ x ∈ w.handed, g.place x.2.socket = .agent x.1 ∧ w.got x.2.socket = w.had x.2.socket ∧
    x.2.bytes <+: w.had x.2.socket ∧ Names x.2.bytes (machine.sessionIdOf (machine.keyOf x.1))
  once : (w.handed.map fun x => x.2.socket).Nodup

/-- A connection on its way over a link to an agent. -/
def OnWay (machine : Machine) (w : World) (g : Ghost) (agent link socket : Nat) (bytes : Bytes) : Prop :=
  g.place socket = .link link ∧ bytes = w.had socket ∧
    Names bytes (machine.sessionIdOf (machine.keyOf agent))

/-- What holds in every state. -/
structure WorldKept (machine : Machine) (w : World) (g : Ghost) : Prop where
  port : 0 < w.mux.port ∧ w.mux.port < 256 ^ 2
  kept : Kept w.mux g.lives
  linked : Linked machine w
  placed : Placed machine w g
  line : ∀ agent link, (w.links agent).socket = some link →
    Line (w.links agent) (w.up link) (w.down link) (w.Far link) (w.Claims link)
      (OnWay machine w g agent link) (machine.sessionIdOf (machine.keyOf agent)) (g.told link)
      (g.rest link)

variable {machine : Machine} {w w' : World} {g : Ghost} {l : MuxLink} {up : Bytes} {down rest : Stretch}
  {far far' : AgentPeer → Prop} {claims claims' : SessionId → Prop} {fair fair' : Nat → Bytes → Prop}
  {id : SessionId} {told : List Told}

/-- Less at the mux's end is still a line. -/
lemma Line.mono (h : Line l up down far claims fair id told rest)
    (hfar : ∀ p', far' p' → ∃ p, far p ∧ p'.reader = p.reader ∧ p'.output = p.output)
    (hclaims : ∀ sid, claims' sid → claims sid)
    (hfair : ∀ socket bytes, fair socket bytes → fair' socket bytes) :
    Line l up down far' claims' fair' id told rest where
  reads := h.reads
  fair := fun socket bytes hmem => hfair socket bytes (h.fair socket bytes hmem)
  distinct := h.distinct
  refusals := h.refusals
  asking := by
    intro p' hp'
    obtain ⟨p, hp, hreader, houtput⟩ := hfar p' hp'
    rw [hreader, houtput]
    exact h.asking p hp
  claimed := fun sid hsid => h.claimed sid (hclaims sid hsid)

/-- The start is kept. -/
lemma WorldKept.start (machine : Machine) {port : Nat} (range : 0 < port ∧ port < 256 ^ 2)
    (storage : Bytes) : WorldKept machine (World.start machine port storage)
      ⟨fun _ => [], fun _ => [], fun _ => .nowhere, fun _ => none⟩ where
  port := range
  kept := Kept.create port storage
  linked := by
    constructor
    case registration => exact fun _ => rfl
    case idle => exact fun _ _ => rfl
    case own =>
      intro agent link hlink
      cases hlink
    case only =>
      intro agent other link hlink
      cases hlink
    case peers =>
      intro id p hp
      cases hp
    case backlog => exact ⟨List.nodup_nil, fun x hx => (List.not_mem_nil hx).elim⟩
  placed := by
    constructor
    case streams => exact fun _ => rfl
    case unborn => exact fun _ _ => ⟨rfl, rfl⟩
    case pending =>
      intro id p socket hp
      cases hp
    case handed => exact fun x hx => (List.not_mem_nil hx).elim
    case once => exact List.nodup_nil
  line := by
    intro agent link hlink
    cases hlink

/-- The mux may have given agents and connections up, and changed nothing else about them. -/
structure Quiet (m m' : Mux) (lives lives' : Nat → Option MuxLife) : Prop where
  port : m'.port = m.port
  agents : ∀ id p', m'.agents id = some p' → ∃ p, m.agents id = some p ∧ p'.socket = p.socket ∧
    p'.reader = p.reader ∧ p'.output = p.output
  registrations : ∀ r ∈ m'.router.registrations, r.live = true → r ∈ m.router.registrations
  pending : ∀ id p', m'.pending id = some p' → ∀ socket, p'.socket = some socket →
    ∃ p, m.pending id = some p ∧ p.socket = some socket ∧
      (p'.closing = false → p.closing = false ∧ lives' id = lives id)

variable {m m' m'' : Mux} {lives lives' lives'' : Nat → Option MuxLife} {token : Nat} {a a' : AgentPeer}

/-- Nothing happened. -/
lemma Quiet.refl (m : Mux) (lives : Nat → Option MuxLife) : Quiet m m lives lives where
  port := rfl
  agents := fun _ p hp => ⟨p, hp, rfl, rfl, rfl⟩
  registrations := fun _ hr _ => hr
  pending := fun _ p hp _ hs => ⟨p, hp, hs, fun h => ⟨h, rfl⟩⟩

/-- One quiet stretch after another. -/
lemma Quiet.trans (h : Quiet m m' lives lives') (k : Quiet m' m'' lives' lives'') :
    Quiet m m'' lives lives'' where
  port := k.port.trans h.port
  agents := by
    intro id p'' hp''
    obtain ⟨p', hp', hsocket', hreader', houtput'⟩ := k.agents id p'' hp''
    obtain ⟨p, hp, hsocket, hreader, houtput⟩ := h.agents id p' hp'
    exact ⟨p, hp, hsocket'.trans hsocket, hreader'.trans hreader, houtput'.trans houtput⟩
  registrations := fun r hr hlive => h.registrations r (k.registrations r hr hlive) hlive
  pending := by
    intro id p'' hp'' socket hs''
    obtain ⟨p', hp', hs', hopen'⟩ := k.pending id p'' hp'' socket hs''
    obtain ⟨p, hp, hs, hopen⟩ := h.pending id p' hp' socket hs'
    refine ⟨p, hp, hs, fun hp'' => ?_⟩
    obtain ⟨hopened', hlives'⟩ := hopen' hp''
    obtain ⟨hopened, hlives⟩ := hopen hopened'
    exact ⟨hopened, hlives'.trans hlives⟩

/-- An agent is given up, or its entry changes in nothing that is seen. -/
lemma Quiet.putAgent (ha : m.agents token = some a) (socket : a'.socket = a.socket)
    (reader : a'.reader = a.reader) (output : a'.output = a.output) :
    Quiet m (m.putAgent token a') lives lives where
  port := rfl
  agents := by
    intro id p' hp'
    by_cases hsame : id = token
    · subst hsame
      rw [m.putAgent_self] at hp'
      cases hp'
      exact ⟨a, ha, socket, reader, output⟩
    · rw [m.putAgent_of_ne a' hsame] at hp'
      exact ⟨p', hp', rfl, rfl, rfl⟩
  registrations := fun _ hr _ => hr
  pending := fun _ p hp _ hs => ⟨p, hp, hs, fun h => ⟨h, rfl⟩⟩

/-- A connection is given up. -/
lemma Quiet.shutPending {p q : Pending} (hp : m.pending token = some p) (closing : q.closing = true)
    (socket : ∀ s, q.socket = some s → p.socket = some s)
    (others : ∀ other ≠ token, lives' other = lives other) :
    Quiet m (m.putPending token q) lives lives' where
  port := rfl
  agents := fun _ p hp => ⟨p, hp, rfl, rfl, rfl⟩
  registrations := fun _ hr _ => hr
  pending := by
    intro id p' hp' s hs
    by_cases hsame : id = token
    · subst hsame
      rw [m.putPending_self] at hp'
      cases hp'
      exact ⟨p, hp, socket s hs, fun hopen => absurd (closing.symm.trans hopen) (by decide)⟩
    · rw [m.putPending_of_ne q hsame] at hp'
      exact ⟨p', hp', hs, fun hopen => ⟨hopen, others id hsame⟩⟩

/-- The router changes in what it waits for alone. -/
lemma Quiet.route {r : MuxRouter} (h : Quiet m m' lives lives')
    (same : r.registrations = m'.router.registrations) :
    Quiet m { m' with router := r } lives lives' where
  port := h.port
  agents := h.agents
  registrations := by
    intro g hg
    rw [same] at hg
    exact h.registrations g hg
  pending := h.pending

/-- Dropping an agent is quiet. -/
lemma Quiet.dropAgent (m : Mux) (token : Nat) : Quiet m (m.dropAgent token) lives lives := by
  unfold Mux.dropAgent
  split
  · exact Quiet.refl m lives
  · split
    · constructor
      case port => rfl
      case agents =>
        intro id p' hp'
        by_cases hsame : id = token
        · rw [hsame] at hp'
          dsimp only at hp'
          rw [Function.update_self] at hp'
          cases hp'
        · dsimp only at hp'
          rw [Function.update_of_ne hsame] at hp'
          exact ⟨p', hp', rfl, rfl, rfl⟩
      case registrations =>
        intro r hr hlive
        obtain ⟨r₀, hr₀, rfl⟩ := List.mem_map.mp hr
        split at hlive
        · cases hlive
        next hkeep =>
          rw [if_neg hkeep]
          exact hr₀
      case pending => exact fun _ p hp _ hs => ⟨p, hp, hs, fun h => ⟨h, rfl⟩⟩
    · exact Quiet.refl m lives

/-- So is dropping those that closed. -/
lemma Quiet.dropClosed (m : Mux) : Quiet m m.dropClosed lives lives := by
  have hswept : Quiet m m.sweep lives lives := by
    constructor
    case port => rfl
    case agents => exact fun _ p hp => ⟨p, hp, rfl, rfl, rfl⟩
    case registrations => exact fun _ hr _ => hr
    case pending =>
      intro id p hp socket hs
      exact ⟨p, (Option.filter_eq_some_iff.mp hp).1, hs, fun h => ⟨h, rfl⟩⟩
  have hdropped : ∀ (ids : List Nat) (m : Mux), Quiet m (ids.foldl Mux.dropAgent m) lives lives := by
    intro ids
    induction ids with
    | nil => exact fun m => Quiet.refl m lives
    | cons id ids ih => exact fun m => (Quiet.dropAgent m id).trans (ih _)
  exact hswept.trans (hdropped _ _)

/-- So is refusing a watch. -/
lemma Quiet.refuseWatch (m : Mux) (token : Nat) : Quiet m (m.refuseWatch token) lives lives := by
  unfold Mux.refuseWatch
  split
  next p hp => exact Quiet.shutPending hp rfl (fun _ hs => hs) fun _ _ => rfl
  · split
    · exact ⟨rfl, fun _ p hp => ⟨p, hp, rfl, rfl, rfl⟩, fun _ hr _ => hr,
        fun _ p hp _ hs => ⟨p, hp, hs, fun h => ⟨h, rfl⟩⟩⟩
    · split
      next a ha => exact Quiet.putAgent ha rfl rfl rfl
      · exact Quiet.refl m lives

/-- Nothing anybody else sees has happened. -/
lemma WorldKept.quiet (h : WorldKept machine w g) (kept : Kept m' lives')
    (quiet : Quiet w.mux m' g.lives lives') :
    WorldKept machine { w with mux := m' } { g with lives := lives' } where
  port := by
    rw [quiet.port]
    exact h.port
  kept := kept
  linked := by
    refine ⟨h.linked.registration, h.linked.idle, h.linked.own, h.linked.only, ?_, h.linked.backlog⟩
    intro id p' hp'
    obtain ⟨p, hp, hsocket, -⟩ := quiet.agents id p' hp'
    obtain ⟨hlt, hbacklog, hone⟩ := h.linked.peers id p hp
    rw [hsocket]
    refine ⟨hlt, hbacklog, ?_⟩
    intro id' q' hq' hsame
    obtain ⟨q, hq, hqsocket, -⟩ := quiet.agents id' q' hq'
    exact hone id' q hq (hqsocket.symm.trans hsame)
  placed := by
    refine ⟨h.placed.streams, h.placed.unborn, ?_, h.placed.handed, h.placed.once⟩
    intro id p' socket hp' hs'
    obtain ⟨p, hp, hs, hopen⟩ := quiet.pending id p' hp' socket hs'
    obtain ⟨hplace, hlife⟩ := h.placed.pending id p socket hp hs
    refine ⟨hplace, fun hopened => ?_⟩
    obtain ⟨hopened', hlives⟩ := hopen hopened
    rw [← hlife hopened']
    exact hlives
  line := by
    intro agent link hlink
    refine (h.line agent link hlink).mono ?_ ?_ fun _ _ hfair => hfair
    · rintro p' (⟨id, hp', hsocket'⟩ | hwaits)
      · obtain ⟨p, hp, hsocket, hreader, houtput⟩ := quiet.agents id p' hp'
        exact ⟨p, .inl ⟨id, hp, hsocket.symm.trans hsocket'⟩, hreader, houtput⟩
      · exact ⟨p', .inr hwaits, rfl, rfl⟩
    · rintro sid ⟨r, hr, hlive, hid, p', hp', hsocket'⟩
      obtain ⟨p, hp, hsocket, -⟩ := quiet.agents _ p' hp'
      exact ⟨r, quiet.registrations r hr hlive, hlive, hid, p, hp, hsocket.symm.trans hsocket'⟩

end Zet.Muxd
