import Zet.Lib.Run
import Zet.Mux.Told
import Zet.Session.MuxLaws

/-!
# What the mux process keeps

Four tables stand beside one another in `zet-muxd`: the router's two, and the process's own connections
and agents. `Kept` says how they agree, after any events, by agents and peers that do as they please and
with any answers of the kernel: an open connection is one the router still waits for, whoever holds a
registration is an agent that is there, the shares of the users are what is counted, and nothing grows
past its limit. Each function of the process has a lemma that says all it can do to the tables
(`decide_cases`, `register_cases` and so on), and the invariant is derived from those.
-/

namespace Zet.Muxd
open Zet.Core Zet.Wire Zet.Lib Zet.Session Zet.App

/-- What one agent may make the process hold. -/
structure PeerFits (a : AgentPeer) : Prop where
  queue : a.output.length ≤ maxQueuedHandoffs
  frames : ∀ o ∈ a.output, o.bytes.length ≤ muxMaxFrame
  reader : a.reader.bytes.length ≤ MuxFrameReader.capacity

/-- What holds of the process, and of the connections its router was given. -/
structure Kept (m : Mux) (lives : Nat → Option MuxLife) : Prop where
  sound : MuxSound ⟨m.router, lives⟩
  fresh : ∀ id, m.nextToken ≤ id → m.pending id = none ∧ m.decoys id = none ∧ m.agents id = none
  /-- A connection that is not closing is one the router waits for. -/
  waiting : ∀ id p, m.pending id = some p → p.closing = false →
    p.socket.isSome = true ∧ ∃ fed, lives id = some ⟨fed, []⟩
  /-- Whoever holds a registration is there, and runs as its owner. -/
  registrant : ∀ g ∈ m.router.registrations, g.live = true →
    ∃ a, m.agents g.agent = some a ∧ a.uid = g.owner
  share : ∀ uid, m.agentsPerUid uid = countBelow (fun a => a.uid == uid) m.nextToken m.agents
  perUid : ∀ uid, m.agentsPerUid uid ≤ maxAgentConnectionsPerUid
  connections : sizeBelow m.nextToken m.agents ≤ maxAgentConnections
  decoys : sizeBelow m.nextToken m.decoys ≤ maxDecoys
  fits : ∀ id a, m.agents id = some a → PeerFits a

variable {m m' : Mux} {lives lives' : Nat → Option MuxLife} {id : Nat} {a a' : AgentPeer}
  {stretch : Stretch}

/-- The agent that was put is there. -/
@[simp] lemma Mux.putAgent_self (m : Mux) (id : Nat) (a : AgentPeer) :
    (m.putAgent id a).agents id = some a := Function.update_self ..

/-- The others are as they were. -/
lemma Mux.putAgent_of_ne (m : Mux) (a : AgentPeer) {other : Nat} (hne : other ≠ id) :
    (m.putAgent id a).agents other = m.agents other := Function.update_of_ne hne ..

/-- The connection that was put is there. -/
@[simp] lemma Mux.putPending_self (m : Mux) (id : Nat) (p : Pending) :
    (m.putPending id p).pending id = some p := Function.update_self ..

/-- The others are as they were. -/
lemma Mux.putPending_of_ne (m : Mux) (p : Pending) {other : Nat} (hne : other ≠ id) :
    (m.putPending id p).pending other = m.pending other := Function.update_of_ne hne ..

/-- A new mux is kept. -/
lemma Kept.create (port : Nat) (storage : Bytes) : Kept (Mux.create port storage) fun _ => none where
  sound := ⟨MuxRouter.Registered.create storage, Attended.create storage⟩
  fresh := fun _ _ => ⟨rfl, rfl, rfl⟩
  waiting := by
    intro id p hp
    cases hp
  registrant := by
    intro g hg hlive
    rw [List.eq_of_mem_replicate hg] at hlive
    cases hlive
  share := fun uid => rfl
  perUid := fun uid => Nat.zero_le _
  connections := Nat.zero_le _
  decoys := Nat.zero_le _
  fits := by
    intro id a ha
    cases ha

/-- An entry is replaced by one of the same user. -/
lemma Kept.putAgent {b : AgentPeer} (h : Kept m lives) (ha : m.agents id = some a) (uid : b.uid = a.uid)
    (fits : PeerFits b) : Kept (m.putAgent id b) lives := by
  have hbelow : id < m.nextToken := by
    by_contra hnot
    rw [(h.fresh id (Nat.not_lt.mp hnot)).2.2] at ha
    cases ha
  have hcount : ∀ p : AgentPeer → Bool, p b = p a →
      countBelow p m.nextToken (Function.update m.agents id (some b)) =
        countBelow p m.nextToken m.agents := by
    intro p hp
    have := countBelow_update (p := p) (m := m.agents) hbelow (some b)
    rw [ha, Option.any_some, Option.any_some, hp] at this
    exact Nat.add_right_cancel this
  constructor
  case sound => exact h.sound
  case fresh =>
    intro other hother
    obtain ⟨hp, hd, hagents⟩ := h.fresh other hother
    refine ⟨hp, hd, ?_⟩
    rw [m.putAgent_of_ne b (Nat.ne_of_gt (hbelow.trans_le hother)), hagents]
  case waiting => exact h.waiting
  case registrant =>
    intro g hg hlive
    obtain ⟨c, hc, huid⟩ := h.registrant g hg hlive
    by_cases hsame : g.agent = id
    · rw [hsame, ha] at hc
      cases hc
      exact ⟨b, by rw [hsame, m.putAgent_self], uid.trans huid⟩
    · exact ⟨c, by rw [m.putAgent_of_ne b hsame, hc], huid⟩
  case share =>
    intro other
    rw [show (m.putAgent id b).agentsPerUid other = m.agentsPerUid other from rfl, h.share other]
    exact (hcount _ (by rw [uid])).symm
  case perUid => exact h.perUid
  case connections => exact (hcount _ rfl).trans_le h.connections
  case decoys => exact h.decoys
  case fits =>
    intro other c hc
    by_cases hsame : other = id
    · subst hsame
      rw [m.putAgent_self] at hc
      cases hc
      exact fits
    · rw [m.putAgent_of_ne b hsame] at hc
      exact h.fits other c hc

/-- A write leaves the peer within its limits. -/
lemma Wrote.fits (h : Wrote a a' stretch) (fits : PeerFits a) : PeerFits a' where
  queue := h.shorter.trans fits.queue
  frames := by
    intro o' ho'
    obtain ⟨o, ho, hbytes⟩ := h.frames o' ho'
    rw [hbytes]
    exact fits.frames o ho
  reader := by
    rw [h.reader]
    exact fits.reader

/-- What `WriteAgent` is: nothing for an agent that is gone, else a write to the one that is there. -/
lemma Mux.writeAgent_cases (m : Mux) (id : Nat) (answers : List WriteAnswer) :
    (m.agents id = none ∧ m.writeAgent id answers = (m, [])) ∨
    ∃ a a' stretch, m.agents id = some a ∧ Wrote a a' stretch ∧
      m.writeAgent id answers = (m.putAgent id a', stretch) := by
  rw [writeAgent]
  cases ha : m.agents id with
  | none => exact .inl ⟨rfl, rfl⟩
  | some a => exact .inr ⟨a, _, _, rfl, writeOutput_wrote a answers, rfl⟩

/-- A write to an agent keeps the mux. -/
lemma Kept.wrote (h : Kept m lives) (ha : m.agents id = some a) (wrote : Wrote a a' stretch) :
    Kept (m.putAgent id a') lives := h.putAgent ha wrote.uid (wrote.fits (h.fits id a ha))

/-- So does writing what is queued for one. -/
lemma Kept.writeAgent (h : Kept m lives) (id : Nat) (answers : List WriteAnswer) :
    Kept (m.writeAgent id answers).1 lives := by
  rcases m.writeAgent_cases id answers with ⟨-, heq⟩ | ⟨a, a', stretch, ha, hwrote, heq⟩
  · rw [heq]
    exact h
  · rw [heq]
    exact h.wrote ha hwrote

/-- Shutting a peer leaves it within its limits. -/
lemma PeerFits.shut (fits : PeerFits a) : PeerFits { a with closing := true } :=
  ⟨fits.queue, fits.frames, fits.reader⟩

/-- A message behind what is queued, where there is room for one. -/
lemma PeerFits.tell (fits : PeerFits a) (room : a.output.length < maxQueuedHandoffs) {o : Outgoing}
    (frame : o.bytes.length ≤ muxMaxFrame) : PeerFits { a with output := a.output ++ [o] } where
  queue := by
    rw [List.length_append]
    exact room
  frames := by
    intro o' ho'
    rcases List.mem_append.mp ho' with hold | hnew
    · exact fits.frames o' hold
    · rw [List.mem_singleton.mp hnew]
      exact frame
  reader := fits.reader

/-- A frame to an agent is within the limit. -/
lemma Told.length_frame_le (t : Told) : t.frame.length ≤ muxMaxFrame := by
  by_cases h : t.Sendable
  · rw [length_frame h]
    exact Nat.add_le_add_left (body_fits h) _
  cases t with
  | registered port =>
    -- The mux's own port is never out of range; what it would write is short all the same.
    by_cases hzero : port = 0
    · rw [hzero]
      exact Nat.zero_le _
    · have hemits : Emits (Told.registered port).write (Told.registered port).body := by
        unfold write writeMuxRegistered
        exact Emits.check hzero ((emits_type .muxRegistered).bind (emits_writeBE 2 port))
      have hfits : (Told.registered port).body.length ≤ muxMaxBody := by
        simp [body, muxMaxBody]
      rw [frame, cleartextFrame_eq ((hemits.writeInto _).trans (if_pos hfits)) (body_pos _) hfits]
      exact ((clearFrameOf _ (body_pos _) hfits).length_bytes).trans_le (Nat.add_le_add_left hfits _)
  | refused reason => exact absurd trivial h
  | handoff socket bytes =>
    by_cases hnil : (Told.handoff socket bytes).frame = []
    · rw [hnil]
      exact Nat.zero_le _
    · exact absurd (sendable_of_frame hnil) h

/-- A token is given out for nothing. -/
lemma Kept.skip (h : Kept m lives) : Kept { m with nextToken := m.nextToken + 1 } lives := by
  obtain ⟨-, hdecoy, hagent⟩ := h.fresh m.nextToken le_rfl
  constructor
  case sound => exact h.sound
  case fresh => exact fun id hid => h.fresh id (Nat.le_of_succ_le hid)
  case waiting => exact h.waiting
  case registrant => exact h.registrant
  case share => exact fun uid => (h.share uid).trans (countBelow_skip hagent).symm
  case perUid => exact h.perUid
  case connections => exact (countBelow_skip hagent).trans_le h.connections
  case decoys => exact (countBelow_skip hdecoy).trans_le h.decoys
  case fits => exact h.fits

/-- A connection's entry is replaced; one that is not closing is still waited for. -/
lemma Kept.putPending (h : Kept m lives) (below : id < m.nextToken) {p : Pending}
    (waits : p.closing = false → p.socket.isSome = true ∧ ∃ fed, lives id = some ⟨fed, []⟩) :
    Kept (m.putPending id p) lives := by
  constructor
  case sound => exact h.sound
  case fresh =>
    intro other hother
    obtain ⟨hp, hd, hagents⟩ := h.fresh other hother
    refine ⟨?_, hd, hagents⟩
    rw [m.putPending_of_ne p (Nat.ne_of_gt (below.trans_le hother)), hp]
  case waiting =>
    intro other q hq hopen
    by_cases hsame : other = id
    · subst hsame
      rw [m.putPending_self] at hq
      cases hq
      exact waits hopen
    · rw [m.putPending_of_ne p hsame] at hq
      exact h.waiting other q hq hopen
  case registrant => exact h.registrant
  case share => exact h.share
  case perUid => exact h.perUid
  case connections => exact h.connections
  case decoys => exact h.decoys
  case fits => exact h.fits

/-- A waiting connection has a token that was given out. -/
lemma Kept.below_of_pending (h : Kept m lives) {p : Pending} (hp : m.pending id = some p) :
    id < m.nextToken := by
  by_contra hnot
  rw [(h.fresh id (Nat.not_lt.mp hnot)).1] at hp
  cases hp

/-- So has an agent. -/
lemma Kept.below_of_agent (h : Kept m lives) (ha : m.agents id = some a) : id < m.nextToken := by
  by_contra hnot
  rw [(h.fresh id (Nat.not_lt.mp hnot)).2.2] at ha
  cases ha

/-- A connection that closes is no longer spoken for. -/
lemma Kept.shutPending (h : Kept m lives) {p q : Pending} (hp : m.pending id = some p)
    (closing : q.closing = true) : Kept (m.putPending id q) lives :=
  h.putPending (h.below_of_pending hp) fun hopen => absurd (closing.symm.trans hopen) (by decide)

/-- The router does something with one connection. -/
lemma Kept.route {i : Nat} {l : Nat → Option MuxLife} (h : Kept m lives) {r : MuxRouter} (sound : MuxSound ⟨r, l⟩)
    (same : r.registrations = m.router.registrations) (others : ∀ other ≠ i, l other = lives other)
    (waits : ∀ p, m.pending i = some p → p.closing = false → ∃ fed, l i = some ⟨fed, []⟩) :
    Kept { m with router := r } l where
  sound := sound
  fresh := h.fresh
  waiting := by
    intro other p hp hopen
    refine ⟨(h.waiting other p hp hopen).1, ?_⟩
    by_cases hsame : other = i
    · subst hsame
      exact waits p hp hopen
    · rw [others other hsame]
      exact (h.waiting other p hp hopen).2
  registrant := by
    intro g hg
    rw [same] at hg
    exact h.registrant g hg
  share := h.share
  perUid := h.perUid
  connections := h.connections
  decoys := h.decoys
  fits := h.fits

/-- A connection becomes a decoy, where there is room for one. -/
lemma Kept.addDecoy (h : Kept m lives) (room : sizeBelow m.nextToken m.decoys < maxDecoys) (d : Decoy) :
    Kept { m with
      decoys := Function.update m.decoys m.nextToken (some d)
      nextToken := m.nextToken + 1 } lives := by
  have hskip := h.skip
  constructor
  case sound => exact h.sound
  case fresh =>
    intro other hother
    obtain ⟨hp, hd, hagents⟩ := hskip.fresh other hother
    exact ⟨hp, (Function.update_of_ne (Nat.ne_of_gt hother) ..).trans hd, hagents⟩
  case waiting => exact h.waiting
  case registrant => exact h.registrant
  case share => exact hskip.share
  case perUid => exact h.perUid
  case connections => exact hskip.connections
  case decoys => exact (countBelow_add (some d)).trans_le room
  case fits => exact h.fits

/-- What `Decide` is: nothing while more is needed, the end of the connection here, or a handoff that is
queued behind what its agent has not been sent. -/
lemma Mux.decide_cases {p : Pending} (hp : m.pending id = some p) (decision : MuxDecision)
    (answers : List WriteAnswer) :
    (decision = .needMore ∧ m.decide id decision answers = (m, none)) ∨
    m.decide id decision answers = (m.putPending id { p with closing := true }, none) ∨
    (∃ d, sizeBelow m.nextToken m.decoys < maxDecoys ∧ m.decide id decision answers =
      ({ m.putPending id ⟨none, true⟩ with
        decoys := Function.update m.decoys m.nextToken (some d)
        nextToken := m.nextToken + 1 }, none)) ∨
    ∃ connection agent bytes a a' stretch, decision = .handoff connection agent bytes ∧
      m.agents agent = some a ∧ a.closing = false ∧ a.output.length < maxQueuedHandoffs ∧
      (Told.handoff p.socket bytes).Sendable ∧
      Wrote { a with output := a.output ++ [⟨(Told.handoff p.socket bytes).frame, 0, p.socket⟩] } a'
        stretch ∧
      m.decide id decision answers =
        ((m.putPending id ⟨none, true⟩).putAgent agent a', some (agent, stretch)) := by
  cases decision with
  | needMore => exact .inl ⟨rfl, rfl⟩
  | close connection reason =>
    refine .inr (.inl ?_)
    unfold decide
    rw [hp]
  | decoy connection bytes =>
    unfold decide
    rw [hp]
    dsimp only
    split
    · exact .inr (.inl rfl)
    next hroom => exact .inr (.inr (.inl ⟨_, Nat.not_le.mp hroom, rfl⟩))
  | handoff connection agent bytes =>
    unfold decide
    rw [hp]
    dsimp only
    cases ha : m.agents agent with
    | none => exact .inr (.inl rfl)
    | some a =>
      dsimp only
      split
      · exact .inr (.inl rfl)
      next hcan =>
        obtain ⟨hopen, hroom, hframe⟩ : a.closing = false ∧ a.output.length < maxQueuedHandoffs ∧
            (Told.handoff p.socket bytes).frame ≠ [] := by
          rw [not_or, not_or] at hcan
          refine ⟨Bool.eq_false_of_not_eq_true hcan.1, Nat.not_le.mp hcan.2.1, ?_⟩
          exact fun hnil => hcan.2.2 (List.isEmpty_iff.mpr hnil)
        refine .inr (.inr (.inr ⟨connection, agent, bytes, a, _, _, rfl, ha, hopen, hroom,
          Told.sendable_of_frame hframe, writeOutput_wrote _ answers, ?_⟩))
        rw [writeAgent, putAgent_self]
        dsimp only [putAgent, putPending]
        rw [Function.update_idem]
        rfl

/-- The second of two puts stands. -/
@[simp] lemma Mux.putPending_putPending (m : Mux) (id : Nat) (p q : Pending) :
    (m.putPending id p).putPending id q = m.putPending id q := by
  simp only [putPending, Function.update_idem]

/-- A decision that ends a connection the router no longer waits for. -/
lemma Kept.decide {p q : Pending} (h : Kept (m.putPending id q) lives) (hp : m.pending id = some p)
    {decision : MuxDecision} (ends : decision ≠ .needMore) (answers : List WriteAnswer) :
    Kept (m.decide id decision answers).1 lives := by
  have hshut : ∀ q' : Pending, q'.closing = true → Kept (m.putPending id q') lives := by
    intro q' hq'
    have := h.shutPending (m.putPending_self id q) hq'
    rwa [Mux.putPending_putPending] at this
  rcases Mux.decide_cases hp decision answers with ⟨hmore, -⟩ | heq | ⟨d, hroom, heq⟩ |
    ⟨_, agent, bytes, a, a', stretch, -, ha, -, hroom, -, hwrote, heq⟩
  · exact absurd hmore ends
  · rw [heq]
    exact hshut { p with closing := true } rfl
  · rw [heq]
    exact (hshut ⟨none, true⟩ rfl).addDecoy hroom d
  · rw [heq]
    have hfits := (h.fits agent a ha).tell hroom (Told.length_frame_le (.handoff p.socket bytes))
      (o := ⟨_, 0, p.socket⟩)
    exact (hshut ⟨none, true⟩ rfl).putAgent (a := a) ha hwrote.uid (hwrote.fits hfits)

/-- The router has had a chunk of a connection. -/
def fedLives (m : Mux) (lives : Nat → Option MuxLife) (id : Nat) (chunk : Bytes) : Nat → Option MuxLife :=
  MuxWatch.note ⟨m.router, lives⟩ id chunk (m.router.feed id chunk).1.ends

/-- Feeding the router what a connection said keeps the mux. -/
lemma Kept.feed (h : Kept m lives) {p : Pending} (hp : m.pending id = some p) {chunk : Bytes}
    (ready : chunk.length ≤ m.router.room id) (answers : List WriteAnswer) :
    Kept (Mux.decide { m with router := (m.router.feed id chunk).2 } id (m.router.feed id chunk).1
      answers).1 (fedLives m lives id chunk) := by
  have hsound : MuxSound ⟨(m.router.feed id chunk).2, fedLives m lives id chunk⟩ :=
    ⟨h.sound.registered.congr (m.router.feed_registrations id chunk).1
      (m.router.feed_registrations id chunk).2, h.sound.attended.feed ready⟩
  have hothers : ∀ other ≠ id, fedLives m lives id chunk other = lives other := fun other hother =>
    MuxWatch.note_of_ne _ _ _ hother
  by_cases hmore : (m.router.feed id chunk).1 = .needMore
  · rw [hmore, Mux.decide]
    refine h.route hsound (m.router.feed_registrations id chunk).1 hothers ?_
    intro q hq hopen
    obtain ⟨-, fed, hfed⟩ := h.waiting id q hq hopen
    refine ⟨fed ++ chunk, ?_⟩
    rw [fedLives, MuxWatch.note_self, hmore]
    dsimp only
    rw [hfed]
    rfl
  · have hshut := h.shutPending hp (q := ⟨none, true⟩) rfl
    have hrouted := hshut.route hsound (m.router.feed_registrations id chunk).1 hothers
      fun q hq hopen => by
        rw [m.putPending_self] at hq
        cases hq
        cases hopen
    exact Kept.decide (m := { m with router := (m.router.feed id chunk).2 }) hrouted hp hmore answers

/-- A connection that is handed on is handed on with all that was read of it. -/
lemma Kept.feed_bytes (h : Kept m lives) {chunk fed bytes : Bytes} {connection agent : Nat}
    (ready : chunk.length ≤ m.router.room id) (hlife : lives id = some ⟨fed, []⟩)
    (hdecision : (m.router.feed id chunk).1 = .handoff connection agent bytes) : bytes = fed ++ chunk := by
  have hattended := h.sound.attended.feed ready
  rw [hdecision] at hattended
  have hlife' : MuxWatch.note ⟨m.router, lives⟩ id chunk [.handoff agent bytes] id =
      some ⟨fed ++ chunk, [.handoff agent bytes]⟩ := by
    rw [MuxWatch.note_self]
    dsimp only
    rw [hlife]
    rfl
  exact (hattended.ends_le_one hlife').2 _ (List.mem_singleton.mpr rfl) bytes rfl

/-- It goes to the agent that holds the registration its Hello names. -/
lemma feed_names {r : MuxRouter} {chunk bytes : Bytes} {connection agent : Nat}
    (hdecision : (r.feed id chunk).1 = .handoff connection agent bytes) :
    ∃ peek g, peekHello bytes = .ok peek ∧ g ∈ r.registrations ∧ g.live = true ∧ g.id = peek.id ∧
      g.agent = agent := by
  unfold MuxRouter.feed at hdecision
  cases hfind : r.findWaiting id with
  | none =>
    rw [hfind] at hdecision
    cases hdecision
  | some found =>
    obtain ⟨slot, w⟩ := found
    rw [hfind] at hdecision
    dsimp only at hdecision
    split at hdecision
    · split at hdecision <;> cases hdecision
    next peek hpeek =>
      split at hdecision
      next agent' hagent =>
        cases hdecision
        obtain ⟨⟨slot', g⟩, hheld, hsame⟩ := Option.map_eq_some_iff.mp hagent
        obtain ⟨hslot, hlive, hid⟩ := MuxRouter.held_eq_some hheld
        exact ⟨peek, g, hpeek, List.mem_of_getElem? hslot, hlive, hid, hsame⟩
      · cases hdecision

/-- A registration that is accepted keeps it. -/
lemma Kept.registered {sessionIdOf : KeyBytes → SessionId} (h : Kept m lives) (ha : m.agents id = some a) {registration : KeyBytes}
    {r : MuxRouter} (hr : m.router.register sessionIdOf id a.uid registration = .ok r) :
    Kept { m with router := r } lives where
  sound := by
    have hstep : muxStep sessionIdOf ⟨m.router, lives⟩ (.register id a.uid registration) =
        some ⟨r, lives⟩ := by
      simp only [muxStep, hr]
    have hok : MuxAdmissible ⟨m.router, lives⟩ (.register id a.uid registration) := trivial
    exact h.sound.step hok hstep
  fresh := h.fresh
  waiting := h.waiting
  registrant := by
    intro g hg hlive
    obtain ⟨slot, g₀, hslot, -, hset⟩ := MuxRouter.register_entry hr
    rw [hset] at hg
    rcases List.mem_or_eq_of_mem_set hg with hold | rfl
    · exact h.registrant g hold hlive
    · exact ⟨a, ha, rfl⟩
  share := h.share
  perUid := h.perUid
  connections := h.connections
  decoys := h.decoys
  fits := h.fits

variable (sessionIdOf : KeyBytes → SessionId)

/-- What `Register` is: a refusal that changes nothing, or a registration, which closes the connection
the agent registered on before. -/
lemma Mux.register_cases (m : Mux) (id : Nat) (a : AgentPeer)
    (body : Bytes) :
    (∃ refusal, m.register sessionIdOf id a body = (some refusal, m)) ∨
    ∃ s rest message r m', parseMessageType body = .ok (.muxRegister, s) ∧
      parseMuxRegister s = .ok (message, rest) ∧
      m.router.register sessionIdOf id a.uid message.registration = .ok r ∧
      m.register sessionIdOf id a body = (none, m') ∧
      (m' = { m with router := r } ∨ ∃ old entry, old ≠ id ∧ m.agents old = some entry ∧
        m' = Mux.putAgent { m with router := r } old { entry with closing := true }) := by
  unfold register
  cases htype : parseMessageType body with
  | error e => exact .inl ⟨_, rfl⟩
  | ok typed =>
    obtain ⟨type, s⟩ := typed
    dsimp only
    split
    · exact .inl ⟨_, rfl⟩
    next his =>
      obtain rfl := Decidable.not_not.mp his
      cases hparse : parseMuxRegister s with
      | error e => exact .inl ⟨_, rfl⟩
      | ok parsed =>
        obtain ⟨message, rest⟩ := parsed
        dsimp only
        cases hr : m.router.register sessionIdOf id a.uid message.registration with
        | error refusal => exact .inl ⟨_, rfl⟩
        | ok r =>
          refine .inr ⟨s, rest, message, r, ?_⟩
          dsimp only
          split
          · exact ⟨_, rfl, hparse, hr, rfl, .inl rfl⟩
          next old entry hprevious =>
            obtain ⟨old', -, hentry⟩ := Option.bind_eq_some_iff.mp hprevious
            split at hentry
            · cases hentry
            next hne =>
              obtain ⟨entry', hentry', hpair⟩ := Option.map_eq_some_iff.mp hentry
              cases hpair
              exact ⟨_, rfl, hparse, hr, rfl, .inr ⟨_, _, hne, hentry', rfl⟩⟩

/-- A registration leaves the agent's own entry and the connections alone. -/
lemma Mux.register_frame (m : Mux) (id : Nat) (a : AgentPeer) (body : Bytes) :
    (m.register sessionIdOf id a body).2.agents id = m.agents id ∧
      (m.register sessionIdOf id a body).2.pending = m.pending ∧
      (m.register sessionIdOf id a body).2.port = m.port ∧
      (m.register sessionIdOf id a body).2.nextToken = m.nextToken := by
  rcases m.register_cases sessionIdOf id a body with ⟨refusal, heq⟩ |
    ⟨s, rest, message, r, m', -, -, -, heq, rfl | ⟨old, entry, hne, -, rfl⟩⟩
  · rw [heq]
    exact ⟨rfl, rfl, rfl, rfl⟩
  · rw [heq]
    exact ⟨rfl, rfl, rfl, rfl⟩
  · rw [heq]
    exact ⟨Mux.putAgent_of_ne _ _ hne.symm, rfl, rfl, rfl⟩

/-- So does any registration. -/
lemma Kept.register (h : Kept m lives) (ha : m.agents id = some a) (body : Bytes) :
    Kept (m.register sessionIdOf id a body).2 lives := by
  rcases m.register_cases sessionIdOf id a body with ⟨refusal, heq⟩ |
    ⟨s, rest, message, r, m', -, -, hr, heq, rfl | ⟨old, entry, -, hold, rfl⟩⟩
  · rw [heq]
    exact h
  · rw [heq]
    exact h.registered ha hr
  · rw [heq]
    exact (h.registered ha hr).putAgent hold rfl (h.fits old entry hold).shut

/-- What an agent is told of its registration. -/
def Told.answer (port : Nat) : Option MuxRefusal → Told
  | some refusal => .refused refusal
  | none => .registered port

/-- The answer to a registration is a frame that is told. -/
lemma Mux.answerFrame_eq (m : Mux) (refusal : Option MuxRefusal) :
    m.answerFrame refusal = (Told.answer m.port refusal).frame := by
  cases refusal <;> rfl

/-- What `Answer` is: the registration, and the answer to it behind what is queued, where there is room
for one; an agent that asked for something else is given up. -/
lemma Mux.answer_cases (ha : m.agents id = some a) (body : Bytes) (answers : List WriteAnswer) :
    ∃ refusal m' a' stretch, m.register sessionIdOf id a body = (refusal, m') ∧
      m.answer sessionIdOf id body answers = (m'.putAgent id a', stretch) ∧
      ((stretch = [] ∧ a' = { a with closing := true } ∧ maxQueuedHandoffs ≤ a.output.length) ∨
        (a.output.length < maxQueuedHandoffs ∧
          Wrote { a with output := a.output ++ [⟨(Told.answer m.port refusal).frame, 0, none⟩] } a'
            stretch)) := by
  obtain ⟨-, -, hport, -⟩ := m.register_frame sessionIdOf id a body
  unfold answer
  rw [ha]
  dsimp only
  cases hregister : m.register sessionIdOf id a body with
  | mk refusal m' =>
    rw [hregister] at hport
    refine ⟨refusal, m', ?_⟩
    dsimp only at hport ⊢
    rw [m'.answerFrame_eq, hport]
    split
    next hfull => exact ⟨_, _, rfl, rfl, .inl ⟨rfl, rfl, hfull⟩⟩
    next hroom =>
      split
      · exact ⟨_, _, rfl, rfl, .inr ⟨Nat.not_le.mp hroom, (writeOutput_wrote _ answers).shut⟩⟩
      · exact ⟨_, _, rfl, rfl, .inr ⟨Nat.not_le.mp hroom, Wrote.refl _⟩⟩

/-- Answering one frame keeps the mux. -/
lemma Kept.answer (h : Kept m lives) (ha : m.agents id = some a) (body : Bytes)
    (answers : List WriteAnswer) : Kept (m.answer sessionIdOf id body answers).1 lives := by
  obtain ⟨refusal, m', a', stretch, hregister, heq, hcases⟩ :=
    Mux.answer_cases sessionIdOf ha body answers
  have hkept := h.register sessionIdOf ha body
  obtain ⟨hsame, -⟩ := m.register_frame sessionIdOf id a body
  rw [hregister] at hkept hsame
  rw [heq]
  rcases hcases with ⟨-, rfl, -⟩ | ⟨hroom, hwrote⟩
  · exact hkept.putAgent (hsame.trans ha) rfl (h.fits id a ha).shut
  · have hfits := (h.fits id a ha).tell hroom (Told.length_frame_le (.answer m.port refusal))
      (o := ⟨_, 0, none⟩)
    exact hkept.putAgent (hsame.trans ha) hwrote.uid (hwrote.fits hfits)

/-- An agent that has been answered is still there. -/
lemma Mux.answer_agent (ha : m.agents id = some a) (body : Bytes) (answers : List WriteAnswer) :
    ∃ a', (m.answer sessionIdOf id body answers).1.agents id = some a' ∧ a'.socket = a.socket := by
  obtain ⟨_, m', a', stretch, -, heq, hcases⟩ :=
    Mux.answer_cases sessionIdOf ha body answers
  rw [heq]
  refine ⟨a', m'.putAgent_self id a', ?_⟩
  rcases hcases with ⟨-, rfl, -⟩ | ⟨-, hwrote⟩
  · rfl
  · exact hwrote.socket

/-- So is one whose frames have all been answered. -/
lemma Mux.answerAll_agent (ha : m.agents id = some a) (fuel : Nat) (answers : List WriteAnswer) :
    ∃ a', (m.answerAll sessionIdOf fuel id answers).1.agents id = some a' ∧ a'.socket = a.socket := by
  induction fuel generalizing m a with
  | zero => exact ⟨a, ha, rfl⟩
  | succ fuel ih =>
    rw [Mux.answerAll, ha]
    dsimp only
    cases hnext : a.reader.next with
    | mk result reader =>
      cases result with
      | error e => exact ⟨_, Mux.putAgent_self .., rfl⟩
      | ok body =>
        cases body with
        | none => exact ⟨_, Mux.putAgent_self .., rfl⟩
        | some body =>
          obtain ⟨a', ha', hsocket⟩ := Mux.answer_agent sessionIdOf
            (m.putAgent_self id { a with reader := reader }) body answers
          dsimp only
          split
          · exact ⟨a', ha', hsocket⟩
          · obtain ⟨a'', ha'', hsocket'⟩ := ih ha'
            exact ⟨a'', ha'', hsocket'.trans hsocket⟩

/-- So does answering all that came in. -/
lemma Kept.answerAll (h : Kept m lives) (fuel : Nat) (answers : List WriteAnswer) :
    Kept (m.answerAll sessionIdOf fuel id answers).1 lives := by
  induction fuel generalizing m with
  | zero => exact h
  | succ fuel ih =>
    rw [Mux.answerAll]
    cases ha : m.agents id with
    | none => exact h
    | some a =>
      have hfits := h.fits id a ha
      have hlength := a.reader.length_next.trans hfits.reader
      dsimp only
      cases hnext : a.reader.next with
      | mk result reader =>
        rw [hnext] at hlength
        have htaken : Kept (m.putAgent id { a with reader := reader }) lives :=
          h.putAgent ha rfl ⟨hfits.queue, hfits.frames, hlength⟩
        cases result with
        | error e => exact h.putAgent ha rfl ⟨hfits.queue, hfits.frames, hlength⟩
        | ok body =>
          cases body with
          | none => exact htaken
          | some body =>
            have hanswered := htaken.answer sessionIdOf (Mux.putAgent_self ..) body answers
            dsimp only
            split
            · exact hanswered
            · exact ih hanswered

/-- So does reading from an agent. -/
lemma Kept.readAgent (h : Kept m lives) {read : ReadAnswer} (answers : List WriteAnswer)
    (ready : m.Ready (.readAgent id read answers)) :
    Kept (m.readAgent sessionIdOf id read answers).1 lives := by
  unfold Mux.readAgent
  cases ha : m.agents id with
  | none => exact h
  | some a =>
    have hfits := h.fits id a ha
    dsimp only
    split
    · exact h.putAgent ha rfl hfits.shut
    · split
      · exact h
      · exact h.putAgent ha rfl hfits.shut
      · exact h.putAgent ha rfl hfits.shut
      next b chunk =>
        have hchunk : (b :: chunk).length ≤ Mux.agentRoom a := ready a ha
        have hroom : (b :: chunk).length ≤ MuxFrameReader.capacity - a.reader.bytes.length :=
          hchunk.trans (Nat.min_le_left _ _)
        apply Kept.answerAll
        apply h.putAgent ha
        · rfl
        · refine ⟨hfits.queue, hfits.frames, ?_⟩
          have hreader := hfits.reader
          simp only [MuxFrameReader.append, List.length_append]
          omega

/-- So does accepting one. -/
lemma Kept.acceptAgent (h : Kept m lives) (socket uid : Nat) : Kept (m.acceptAgent socket uid) lives := by
  unfold Mux.acceptAgent
  split
  · exact h
  next hroom =>
    rw [not_or] at hroom
    have hskip := h.skip
    have hfree : ∀ other, (other = m.nextToken → m.agents other = none) := fun other hother =>
      (h.fresh other (Nat.le_of_eq hother.symm)).2.2
    constructor
    case sound => exact h.sound
    case fresh =>
      intro other hother
      obtain ⟨hp, hd, hagents⟩ := hskip.fresh other hother
      exact ⟨hp, hd, (Mux.putAgent_of_ne _ _ (Nat.ne_of_gt hother)).trans hagents⟩
    case waiting => exact h.waiting
    case registrant =>
      intro g hg hlive
      obtain ⟨b, hb, huid⟩ := h.registrant g hg hlive
      refine ⟨b, ?_, huid⟩
      rw [Mux.putAgent_of_ne]
      · exact hb
      · exact Nat.ne_of_lt (h.below_of_agent hb)
    case share =>
      intro other
      refine Eq.trans ?_ (countBelow_add _).symm
      dsimp only [Mux.putAgent]
      by_cases hsame : other = uid
      · rw [hsame, Function.update_self, h.share uid, Option.any_some, BEq.rfl]
        rfl
      · rw [Function.update_of_ne hsame, h.share other, Option.any_some,
          beq_false_of_ne (Ne.symm hsame)]
        rfl
    case perUid =>
      intro other
      dsimp only [Mux.putAgent]
      by_cases hsame : other = uid
      · rw [hsame, Function.update_self]
        exact Nat.not_le.mp hroom.2
      · rw [Function.update_of_ne hsame]
        exact h.perUid other
    case connections => exact (countBelow_add _).trans_le (Nat.not_le.mp hroom.1)
    case decoys => exact hskip.decoys
    case fits =>
      intro other b hb
      by_cases hsame : other = m.nextToken
      · rw [hsame, Mux.putAgent_self] at hb
        cases hb
        exact ⟨Nat.zero_le _, fun o ho => (List.not_mem_nil ho).elim, Nat.zero_le _⟩
      · rw [Mux.putAgent_of_ne _ _ hsame] at hb
        exact h.fits other b hb

/-- An agent that is closing is dropped, with what it registered. -/
lemma Kept.dropAgent (h : Kept m lives) (id : Nat) : Kept (m.dropAgent id) lives := by
  unfold Mux.dropAgent
  cases ha : m.agents id with
  | none => exact h
  | some a =>
    dsimp only
    split
    · have hbelow := h.below_of_agent ha
      have hsmaller : ∀ other b, Function.update m.agents id none other = some b →
          other ≠ id ∧ m.agents other = some b := by
        intro other b hb
        by_cases hsame : other = id
        · rw [hsame, Function.update_self] at hb
          cases hb
        · rw [Function.update_of_ne hsame] at hb
          exact ⟨hsame, hb⟩
      constructor
      case sound =>
        exact ⟨h.sound.registered.unregister id, h.sound.attended.congr rfl rfl rfl rfl⟩
      case fresh =>
        intro other hother
        obtain ⟨hp, hd, hagents⟩ := h.fresh other hother
        exact ⟨hp, hd, (Function.update_of_ne (Nat.ne_of_gt (hbelow.trans_le hother)) ..).trans hagents⟩
      case waiting => exact h.waiting
      case registrant =>
        intro g hg hlive
        obtain ⟨g₀, hg₀, rfl⟩ := List.mem_map.mp hg
        split at hlive
        · cases hlive
        next hheld =>
          obtain ⟨b, hb, huid⟩ := h.registrant g₀ hg₀ hlive
          -- a registration that stays is another agent's
          have hne : g₀.agent ≠ id := by
            intro hsame
            apply hheld
            rw [MuxRouter.heldBy, hlive, hsame, BEq.rfl]
            rfl
          rw [if_neg hheld]
          exact ⟨b, (Function.update_of_ne hne ..).trans hb, huid⟩
      case share =>
        intro uid
        have hcount := countBelow_update (p := fun b : AgentPeer => b.uid == uid) (m := m.agents)
          hbelow none
        rw [ha, Option.any_some, Option.any_none, ← h.share uid] at hcount
        dsimp only
        by_cases hsame : uid = a.uid
        · subst hsame
          rw [Function.update_self]
          rw [BEq.rfl] at hcount
          simp only [Bool.toNat_true, Bool.toNat_false] at hcount
          omega
        · rw [Function.update_of_ne hsame]
          rw [beq_false_of_ne (Ne.symm hsame)] at hcount
          exact hcount.symm
      case perUid =>
        intro uid
        dsimp only
        by_cases hsame : uid = a.uid
        · rw [hsame, Function.update_self]
          exact (Nat.sub_le _ _).trans (h.perUid a.uid)
        · rw [Function.update_of_ne hsame]
          exact h.perUid uid
      case connections =>
        refine (countBelow_le ?_).trans h.connections
        intro token _ hany
        dsimp only at hany
        cases hb : Function.update m.agents id none token with
        | none =>
          rw [hb] at hany
          cases hany
        | some b =>
          rw [(hsmaller token b hb).2]
          rfl
      case decoys => exact h.decoys
      case fits => exact fun other b hb => h.fits other b (hsmaller other b hb).2
    · exact h

/-- So does a sweep. -/
lemma Kept.sweep (h : Kept m lives) : Kept m.sweep lives := by
  constructor
  case sound => exact h.sound
  case fresh =>
    intro id hid
    obtain ⟨hp, hd, hagents⟩ := h.fresh id hid
    refine ⟨?_, ?_, hagents⟩
    · change (m.pending id).filter _ = none
      rw [hp]
      rfl
    · change (m.decoys id).filter _ = none
      rw [hd]
      rfl
  case waiting => exact fun id p hp => h.waiting id p (Option.filter_eq_some_iff.mp hp).1
  case registrant => exact h.registrant
  case share => exact h.share
  case perUid => exact h.perUid
  case connections => exact h.connections
  case decoys =>
    refine (countBelow_le ?_).trans h.decoys
    intro token _ hany
    cases hd : m.decoys token with
    | none =>
      dsimp only [Mux.sweep] at hany
      rw [hd] at hany
      cases hany
    | some d => rfl
  case fits => exact h.fits

/-- So does dropping those that closed. -/
lemma Kept.dropClosed (h : Kept m lives) : Kept m.dropClosed lives := by
  have hdropped : ∀ (ids : List Nat) (m : Mux), Kept m lives → Kept (ids.foldl Mux.dropAgent m) lives := by
    intro ids
    induction ids with
    | nil => exact fun m h => h
    | cons id ids ih => exact fun m h => ih _ (h.dropAgent id)
  exact hdropped _ _ h.sweep

/-- So does a decoy that was there already. -/
lemma Kept.putDecoy (h : Kept m lives) {d : Decoy} (hd : m.decoys id = some d) (d' : Decoy) :
    Kept { m with decoys := Function.update m.decoys id (some d') } lives := by
  have hbelow : id < m.nextToken := by
    by_contra hnot
    rw [(h.fresh id (Nat.not_lt.mp hnot)).2.1] at hd
    cases hd
  constructor
  case sound => exact h.sound
  case fresh =>
    intro other hother
    obtain ⟨hp, hd', hagents⟩ := h.fresh other hother
    exact ⟨hp, (Function.update_of_ne (Nat.ne_of_gt (hbelow.trans_le hother)) ..).trans hd', hagents⟩
  case waiting => exact h.waiting
  case registrant => exact h.registrant
  case share => exact h.share
  case perUid => exact h.perUid
  case connections => exact h.connections
  case decoys =>
    have := countBelow_update (p := fun _ => true) (m := m.decoys) hbelow (some d')
    rw [hd] at this
    exact (Nat.add_right_cancel this).trans_le h.decoys
  case fits => exact h.fits

/-- So does refusing a watch. -/
lemma Kept.refuseWatch (h : Kept m lives) (id : Nat) : Kept (m.refuseWatch id) lives := by
  unfold Mux.refuseWatch
  split
  next p hp => exact h.shutPending hp rfl
  · split
    next d hd => exact h.putDecoy hd _
    · split
      next a ha => exact h.putAgent ha rfl (h.fits id a ha).shut
      · exact h

/-- So does ending a decoy. -/
lemma Kept.endDecoy (h : Kept m lives) (id : Nat) : Kept (m.endDecoy id) lives := by
  unfold Mux.endDecoy
  cases hd : m.decoys id with
  | none =>
    rw [Option.map_none, ← hd, Function.update_eq_self]
    exact h
  | some d => exact h.putDecoy hd _

/-- A connection the router accepts is one it waits for. -/
lemma Kept.acceptTcp (h : Kept m lives) (socket : Nat) (address : PeerAddress) (now : Timestamp) :
    (m.acceptTcp socket address now = { m with nextToken := m.nextToken + 1 } ∧
      Kept (m.acceptTcp socket address now) lives) ∨
    ∃ r, r.registrations = m.router.registrations ∧
      m.acceptTcp socket address now = Mux.putPending { m with
        nextToken := m.nextToken + 1
        router := r } m.nextToken ⟨some socket, false⟩ ∧
      Kept (m.acceptTcp socket address now) (Function.update lives m.nextToken (some ⟨[], []⟩)) := by
  unfold Mux.acceptTcp
  dsimp only
  cases hr : m.router.accept m.nextToken address now with
  | error e => exact .inl ⟨rfl, h.skip⟩
  | ok r =>
    obtain ⟨hfree, -⟩ := h.fresh m.nextToken le_rfl
    have hsound : MuxSound ⟨r, Function.update lives m.nextToken (some ⟨[], []⟩)⟩ := by
      have hstep : muxStep (fun _ => .fill sessionIdSize 0) ⟨m.router, lives⟩
          (.accept m.nextToken address now) = some ⟨r, Function.update lives m.nextToken (some ⟨[], []⟩)⟩ := by
        simp only [muxStep, hr]
      have hok : MuxAdmissible ⟨m.router, lives⟩ (.accept m.nextToken address now) := trivial
      exact h.sound.step hok hstep
    have hsame : r.registrations = m.router.registrations := by
      obtain ⟨_, _, _, _, _, _, _, _, _, _, _, _, rfl⟩ := MuxRouter.accept_cases hr
      rfl
    refine .inr ⟨r, hsame, rfl, ?_⟩
    have hrouted := h.skip.route (i := m.nextToken) hsound hsame
      (fun other hother => Function.update_of_ne hother ..) fun p hp => by
        rw [show ({ m with nextToken := m.nextToken + 1 } : Mux).pending m.nextToken = none from hfree] at hp
        cases hp
    exact hrouted.putPending (Nat.lt_succ_self _) fun _ => ⟨rfl, [], Function.update_self ..⟩

/-- What one turn of the expiry is: the router's, and the connection it names closes if it is there. -/
lemma Mux.expire_cases (m : Mux) (now : Timestamp) :
    ∃ expired r, m.router.expire now = (expired, r) ∧
      ((m.expire now = { m with router := r } ∧ ∀ id ∈ expired, m.pending id = none) ∨
        ∃ id p, expired = some id ∧ m.pending id = some p ∧
          m.expire now = Mux.putPending { m with router := r } id { p with closing := true }) := by
  unfold expire
  cases hr : m.router.expire now with
  | mk expired r =>
    refine ⟨expired, r, rfl, ?_⟩
    cases expired with
    | none => exact .inl ⟨rfl, fun id hid => (by cases hid)⟩
    | some id =>
      dsimp only
      split
      next hnone =>
        refine .inl ⟨rfl, fun other hother => ?_⟩
        cases hother
        exact hnone
      next p hp => exact .inr ⟨id, p, rfl, hp, rfl⟩

/-- What the router no longer waits for is a connection that closes. -/
lemma Kept.expire (h : Kept m lives) (now : Timestamp) : ∃ lives', Kept (m.expire now) lives' ∧
    ∀ id p, (m.expire now).pending id = some p → p.closing = false →
      m.pending id = some p ∧ lives' id = lives id := by
  obtain ⟨expired, r, hr, hcases⟩ := m.expire_cases now
  have hsame : r.registrations = m.router.registrations := by
    rw [← (m.router.expire_registrations now).1, hr]
  have hregistered : r.Registered :=
    h.sound.registered.congr hsame (by rw [← (m.router.expire_registrations now).2, hr])
  rcases hcases with ⟨heq, hgone⟩ | ⟨connection, p, rfl, hp, heq⟩
  · rw [heq]
    cases expired with
    | none =>
      have hsound : MuxSound ⟨r, lives⟩ := ⟨hregistered, h.sound.attended.expire hr⟩
      refine ⟨lives, ?_, fun id p hp _ => ⟨hp, rfl⟩⟩
      exact h.route (i := m.nextToken) hsound hsame (fun _ _ => rfl) fun p hp hopen =>
        (h.waiting m.nextToken p hp hopen).2
    | some connection =>
      have hsound : MuxSound ⟨r, MuxWatch.note ⟨m.router, lives⟩ connection [] [.closed .expired]⟩ :=
        ⟨hregistered, h.sound.attended.expire hr⟩
      have hnone : m.pending connection = none := hgone connection rfl
      refine ⟨_, h.route hsound hsame (fun _ hother => MuxWatch.note_of_ne _ _ _ hother) ?_, ?_⟩
      · intro p hp
        rw [hnone] at hp
        cases hp
      · intro id p hp _
        have hne : id ≠ connection := by
          rintro rfl
          rw [show m.pending id = some p from hp] at hnone
          cases hnone
        exact ⟨hp, MuxWatch.note_of_ne _ _ _ hne⟩
  · rw [heq]
    have hsound : MuxSound ⟨r, MuxWatch.note ⟨m.router, lives⟩ connection [] [.closed .expired]⟩ :=
      ⟨hregistered, h.sound.attended.expire hr⟩
    have hshut := h.shutPending (q := { p with closing := true }) hp rfl
    refine ⟨_, hshut.route hsound hsame (fun _ hother => MuxWatch.note_of_ne _ _ _ hother) ?_, ?_⟩
    · intro q hq hopen
      rw [m.putPending_self] at hq
      cases hq
      cases hopen
    · intro id q hq hopen
      by_cases hne : id = connection
      · subst hne
        rw [Mux.putPending_self] at hq
        cases hq
        cases hopen
      · rw [Mux.putPending_of_ne _ _ hne] at hq
        exact ⟨hq, MuxWatch.note_of_ne _ _ _ hne⟩

/-- Closing a waiting connection keeps the mux, its life over. -/
lemma Kept.closePending (h : Kept m lives) {p : Pending} (hp : m.pending id = some p) :
    ∃ lives', Kept (Mux.putPending { m with router := m.router.closed id } id { p with closing := true })
      lives' ∧ ∀ other ≠ id, lives' other = lives other := by
  have hstep : muxStep (fun _ => .fill sessionIdSize 0) ⟨m.router, lives⟩ (.closed id) =
      some ⟨m.router.closed id, MuxWatch.note ⟨m.router, lives⟩ id []
        (if (m.router.findWaiting id).isSome then [MuxEnd.gone] else [])⟩ := rfl
  have hok : MuxAdmissible ⟨m.router, lives⟩ (.closed id) := trivial
  have hsame : (m.router.closed id).registrations = m.router.registrations := by
    unfold MuxRouter.closed
    split <;> rfl
  have hothers : ∀ other ≠ id, MuxWatch.note ⟨m.router, lives⟩ id []
      (if (m.router.findWaiting id).isSome then [MuxEnd.gone] else []) other = lives other :=
    fun other hother => MuxWatch.note_of_ne _ _ _ hother
  have hshut := h.shutPending (q := { p with closing := true }) hp rfl
  refine ⟨_, hshut.route (h.sound.step hok hstep) hsame hothers fun q hq hopen => ?_, hothers⟩
  rw [m.putPending_self] at hq
  cases hq
  cases hopen

/-- What `ReadPending` is: nothing, the end of the connection, or what the router makes of a chunk. -/
lemma Mux.readPending_cases {p : Pending} (hp : m.pending id = some p) (read : ReadAnswer)
    (answers : List WriteAnswer) :
    ((m.pendingRoom id = 0 ∨ read = .wouldBlock) ∧ m.readPending id read answers = (m, none)) ∨
    ((read = .failed ∨ read = .got []) ∧ m.readPending id read answers =
      ({ m with router := m.router.closed id }.putPending id { p with closing := true }, none)) ∨
    ∃ chunk, read = .got chunk ∧ m.readPending id read answers =
      Mux.decide { m with router := (m.router.feed id chunk).2 } id (m.router.feed id chunk).1
        answers := by
  unfold readPending
  rw [hp]
  dsimp only
  split
  next hroom => exact .inl ⟨.inl hroom, rfl⟩
  · split
    · exact .inl ⟨.inr rfl, rfl⟩
    · exact .inr (.inl ⟨.inl rfl, rfl⟩)
    · exact .inr (.inl ⟨.inr rfl, rfl⟩)
    next b chunk => exact .inr (.inr ⟨b :: chunk, rfl, rfl⟩)

/-- A chunk the kernel gave is no larger than the router's room. -/
lemma Mux.room_of_ready {chunk : Bytes} {answers : List WriteAnswer}
    (ready : m.Ready (.readPending id (.got chunk) answers)) : chunk.length ≤ m.router.room id :=
  ready.trans (Nat.min_le_left _ _)

/-- So does reading from one. -/
lemma Kept.readPending (h : Kept m lives) {read : ReadAnswer} {answers : List WriteAnswer}
    (ready : m.Ready (.readPending id read answers)) :
    ∃ lives', Kept (m.readPending id read answers).1 lives' := by
  cases hp : m.pending id with
  | none =>
    unfold Mux.readPending
    rw [hp]
    exact ⟨lives, h⟩
  | some p =>
    rcases Mux.readPending_cases hp read answers with ⟨-, heq⟩ | ⟨-, heq⟩ | ⟨chunk, rfl, heq⟩
    · rw [heq]
      exact ⟨lives, h⟩
    · rw [heq]
      obtain ⟨lives', hkept, -⟩ := h.closePending hp
      exact ⟨lives', hkept⟩
    · rw [heq]
      exact ⟨_, h.feed hp (Mux.room_of_ready ready) answers⟩

/-- No event breaks what is kept. -/
lemma Kept.handle (h : Kept m lives) {event : MuxEvent} (ready : m.Ready event) :
    ∃ lives', Kept (m.handle sessionIdOf event).1 lives' := by
  cases event with
  | acceptTcp socket address now =>
    rcases h.acceptTcp socket address now with ⟨-, hkept⟩ | ⟨r, -, -, hkept⟩
    · exact ⟨lives, hkept⟩
    · exact ⟨_, hkept⟩
  | acceptAgent socket uid => exact ⟨lives, h.acceptAgent socket uid⟩
  | readPending id read answers =>
    rw [Mux.handle]
    split
    · exact h.readPending ready
    · exact ⟨lives, h⟩
  | expire now =>
    obtain ⟨lives', hkept, -⟩ := h.expire now
    exact ⟨lives', hkept⟩
  | readAgent id read answers =>
    rw [Mux.handle]
    split
    · exact ⟨lives, h.readAgent sessionIdOf answers ready⟩
    · exact ⟨lives, h⟩
  | writeAgent id answers => exact ⟨lives, h.writeAgent id answers⟩
  | refuseWatch id => exact ⟨lives, h.refuseWatch id⟩
  | endDecoy id => exact ⟨lives, h.endDecoy id⟩
  | dropClosed => exact ⟨lives, h.dropClosed⟩

/-- One event. -/
def eventStep (m : Mux) (event : MuxEvent) : Option Mux := some (m.handle sessionIdOf event).1

/-- What the limits of the process come to. -/
structure MuxBounded (m : Mux) : Prop where
  /-- A token that was not given out yet has no entry, so the counts below the next one are totals. -/
  tokens : ∀ id, m.nextToken ≤ id → m.pending id = none ∧ m.decoys id = none ∧ m.agents id = none
  /-- No more connections of agents than there is room for, and each user's share is what is counted. -/
  connections : sizeBelow m.nextToken m.agents ≤ maxAgentConnections
  share : ∀ uid, m.agentsPerUid uid = countBelow (fun a => a.uid == uid) m.nextToken m.agents ∧
    m.agentsPerUid uid ≤ maxAgentConnectionsPerUid
  /-- An agent makes the process hold so many frames, and so much that it has not understood. -/
  peers : ∀ id a, m.agents id = some a → a.output.length ≤ maxQueuedHandoffs ∧
    (∀ o ∈ a.output, o.bytes.length ≤ muxMaxFrame) ∧ a.reader.bytes.length ≤ MuxFrameReader.capacity
  decoys : sizeBelow m.nextToken m.decoys ≤ maxDecoys
  /-- A connection that is still read is one the router waits for, so those are bounded as well. -/
  pending : (∀ id, m.pendingOpen id = true → (m.router.findWaiting id).isSome = true) ∧
    countBelow (fun p => !p.closing) m.nextToken m.pending ≤ maxPendingConnections
  waiting : m.router.waiting.countP Waiting.live = m.router.pendingCount ∧
    m.router.pendingCount ≤ maxPendingConnections ∧
    ∀ address, m.router.waiting.countP (fun w => w.live && w.address == address) ≤ maxPendingPerAddress
  /-- Whoever holds a registration is connected and runs as its owner. -/
  registrant : ∀ id g, m.router.claim id = some g → ∃ a, m.agents g.agent = some a ∧ a.uid = g.owner
  registrations : m.router.registrations.countP Registration.live = m.router.registrationCount ∧
    m.router.registrationCount ≤ maxMuxRegistrations ∧
    ∀ uid, m.router.registrations.countP (fun g => g.live && g.owner == uid) ≤ maxRegistrationsPerUid

/-- A connection that is still read is one the router waits for. -/
lemma Kept.awaited (h : Kept m lives) (hopen : m.pendingOpen id = true) :
    ∃ slot w, m.router.findWaiting id = some (slot, w) := by
  unfold Mux.pendingOpen at hopen
  cases hp : m.pending id with
  | none =>
    rw [hp] at hopen
    cases hopen
  | some p =>
    rw [hp, Option.any_some, Bool.not_eq_true'] at hopen
    obtain ⟨-, fed, hfed⟩ := h.waiting id p hp hopen
    -- A life without an end is that of a connection the router still waits for.
    rcases h.sound.attended.finished id _ hfed with ⟨w, hmem, hlive, hid⟩ | ⟨e, hends, -⟩
    · cases hfind : m.router.findWaiting id with
      | none => exact absurd hid (MuxRouter.findWaiting_eq_none hfind hmem hlive)
      | some found => exact ⟨found.1, found.2, rfl⟩
    · cases hends

/-- No more are waiting than the router's table has entries. -/
lemma Kept.waiting_le (h : Kept m lives) :
    m.router.waiting.countP Waiting.live ≤ maxPendingConnections :=
  h.sound.attended.table ▸ List.countP_le_length

/-- No more are registered than the router's table has entries. -/
lemma Kept.registrations_le (h : Kept m lives) :
    m.router.registrations.countP Registration.live ≤ maxMuxRegistrations :=
  h.sound.registered.table ▸ List.countP_le_length

/-- What is kept keeps to the limits. -/
lemma Kept.bounded (h : Kept m lives) : MuxBounded m where
  tokens := h.fresh
  connections := h.connections
  share := fun uid => ⟨h.share uid, h.perUid uid⟩
  peers := fun id a ha => ⟨(h.fits id a ha).queue, (h.fits id a ha).frames, (h.fits id a ha).reader⟩
  decoys := h.decoys
  pending := by
    constructor
    · intro id hopen
      obtain ⟨slot, w, hfind⟩ := h.awaited hopen
      rw [hfind]
      rfl
    · refine (@countBelow_le_countP _ _ _ _ _ _ Waiting.connection _ ?_).trans h.waiting_le
      intro token _ hopen
      obtain ⟨slot, w, hfind⟩ := h.awaited hopen
      obtain ⟨hslot, hlive, hconnection⟩ := MuxRouter.findWaiting_eq_some hfind
      exact ⟨w, List.mem_of_getElem? hslot, hlive, hconnection⟩
  waiting := ⟨h.sound.attended.count.symm, h.sound.attended.count ▸ h.waiting_le,
    h.sound.attended.perAddress⟩
  registrant := by
    intro id g hclaim
    obtain ⟨hmem, hlive, -⟩ := h.sound.registered.claim_iff.mp hclaim
    exact h.registrant g hmem hlive
  registrations := ⟨h.sound.registered.count.symm, h.sound.registered.count ▸ h.registrations_le,
    h.sound.registered.perUid⟩

/--
Whatever agents and peers do, in any order of events and with any answers of the kernel, nothing in the
process grows past its limit, a user's share is exactly the connections counted for it, and a
registration is only ever held by an agent that is connected.
-/
theorem mux_bounds (port : Nat) (storage : Bytes) {events : List MuxEvent}
    (run : Run (eventStep sessionIdOf) Mux.Ready (Mux.create port storage) events m) : MuxBounded m := by
  have hrun : ∃ lives, Kept m lives := by
    refine run.inv (fun m => ∃ lives, Kept m lives) ?_ ⟨_, Kept.create port storage⟩
    rintro m event m' ⟨lives, h⟩ ready hstep
    cases hstep
    exact h.handle sessionIdOf ready
  obtain ⟨lives, h⟩ := hrun
  exact h.bounded

/-- An agent connects, registers what `sampleHelloFrame` names, and is told so. -/
def sampleMuxEvents : List MuxEvent :=
  [.acceptAgent 3 1000, .readAgent 16 (.got (cleartextFrame (writeMuxRegister ⟨sampleRegistration⟩))) [],
    .writeAgent 16 [.took 4, .wouldBlock]]

/-- A run in which an agent registers, within the bounds. -/
theorem mux_bounds_sample : ∃ m, Run (eventStep sampleIdOf) Mux.Ready
      (Mux.create 2022 (List.replicate muxPendingBuffer 0)) sampleMuxEvents m ∧
    m.router.find (sampleIdOf sampleRegistration) = some 16 ∧ MuxBounded m := by
  have hrun : (exec (guarded (eventStep sampleIdOf) Mux.Ready)
      (Mux.create 2022 (List.replicate muxPendingBuffer 0)) sampleMuxEvents).map
        (fun m => m.router.find (sampleIdOf sampleRegistration)) = some (some 16) := by
    decide +kernel
  obtain ⟨m, hm, hfind⟩ := Option.map_eq_some_iff.mp hrun
  have hmrun := Run.of_guarded hm
  exact ⟨m, hmrun, hfind, mux_bounds sampleIdOf 2022 _ hmrun⟩

end Zet.Muxd
