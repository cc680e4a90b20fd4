import Zet.Mux.HandoffLines

/-!
# What the mux does on its links

The events of the mux keep `WorldKept`. What a function of the process does to one agent is put together of
a few moves, each of which keeps it: something is told on a link (`retell`), a connection moves from its
pending entry to a link (`move`), a registration is taken (`registered`); and what nobody sees.
-/

namespace Zet.Muxd
open Zet.Core Zet.Wire Zet.Lib Zet.Session Zet.App Zet.Agent

variable {machine : Machine} {w w' : World} {g : Ghost} {m' : Mux} {token : Nat} {a a' : AgentPeer}
  {stretch : Stretch}

/-- The far end of an agent in the table. -/
lemma WorldKept.far_of_agent (_ : WorldKept machine w g) (ha : w.mux.agents token = some a) :
    w.Far a.socket a := .inl ⟨token, ha, rfl⟩

/-- The mux's end of a link, once one entry has changed. -/
lemma WorldKept.far_put (h : WorldKept machine w g) (ha : w.mux.agents token = some a)
    (socket : a'.socket = a.socket) {link : Nat} {p : AgentPeer}
    (hp : World.Far { w with mux := w.mux.putAgent token a' } link p) :
    (link = a.socket ∧ p = a') ∨ (link ≠ a.socket ∧ w.Far link p) := by
  obtain ⟨-, hbacklog, hone⟩ := h.linked.peers token a ha
  rcases hp with ⟨id, hid, hlink⟩ | ⟨uid, hmem, rfl⟩
  · by_cases hsame : id = token
    · subst hsame
      rw [show ({ w with mux := w.mux.putAgent id a' } : World).mux = w.mux.putAgent id a' from rfl,
        Mux.putAgent_self] at hid
      cases hid
      exact .inl ⟨hlink.symm.trans socket, rfl⟩
    · have hid' : w.mux.agents id = some p := (w.mux.putAgent_of_ne a' hsame).symm.trans hid
      refine .inr ⟨?_, .inl ⟨id, hid', hlink⟩⟩
      intro heq
      exact hsame (hone id p hid' (hlink.trans heq))
  · refine .inr ⟨?_, .inr ⟨uid, hmem, rfl⟩⟩
    intro heq
    rw [heq] at hmem
    exact hbacklog uid hmem

/-- Whoever had registered something still had it before one entry changed. -/
lemma WorldKept.claims_put (ha : w.mux.agents token = some a) (socket : a'.socket = a.socket)
    {link : Nat} {sid : SessionId}
    (hsid : World.Claims { w with mux := w.mux.putAgent token a' } link sid) : w.Claims link sid := by
  obtain ⟨r, hr, hlive, hid, p, hp, hlink⟩ := hsid
  refine ⟨r, hr, hlive, hid, ?_⟩
  by_cases hsame : r.agent = token
  · rw [hsame] at hp ⊢
    rw [show ({ w with mux := w.mux.putAgent token a' } : World).mux = w.mux.putAgent token a' from rfl,
      Mux.putAgent_self] at hp
    cases hp
    exact ⟨a, ha, socket.symm.trans hlink⟩
  · exact ⟨p, (w.mux.putAgent_of_ne a' hsame).symm.trans hp, hlink⟩

/-- Links depend on the socket of an agent alone. -/
lemma Linked.putAgent (h : Linked machine w) (ha : w.mux.agents token = some a)
    (socket : a'.socket = a.socket) : Linked machine { w with mux := w.mux.putAgent token a' } where
  registration := h.registration
  idle := h.idle
  own := h.own
  only := h.only
  peers := by
    have hold : ∀ id p, (w.mux.putAgent token a').agents id = some p →
        ∃ q, w.mux.agents id = some q ∧ p.socket = q.socket := by
      intro id p hp
      by_cases hsame : id = token
      · subst hsame
        rw [Mux.putAgent_self] at hp
        cases hp
        exact ⟨a, ha, socket⟩
      · exact ⟨p, (w.mux.putAgent_of_ne a' hsame).symm.trans hp, rfl⟩
    intro id p hp
    obtain ⟨q, hq, hsame⟩ := hold id p hp
    obtain ⟨hlt, hbacklog, hone⟩ := h.peers id q hq
    rw [hsame]
    refine ⟨hlt, hbacklog, ?_⟩
    intro id' p' hp' heq
    obtain ⟨q', hq', hsame'⟩ := hold id' p' hp'
    exact hone id' q' hq' (hsame'.symm.trans heq)
  backlog := h.backlog

/-- The mux does something to one agent: what is on other links is what it was. -/
lemma WorldKept.retell {b : AgentPeer} (h : WorldKept machine w g) (ha : w.mux.agents token = some a)
    (kept : Kept (w.mux.putAgent token b) g.lives) (socket : b.socket = a.socket) (up : Bytes)
    (stretch : Stretch) (told : List Told) (rest : Stretch)
    (hline : ∀ agent, (w.links agent).socket = some a.socket →
      Line (w.links agent) up (w.down a.socket ++ stretch) (fun p => p = b) (w.Claims a.socket)
        (OnWay machine w g agent a.socket) (machine.sessionIdOf (machine.keyOf agent)) told rest) :
    WorldKept machine
      (World.putDown { w with
        mux := w.mux.putAgent token b
        up := Function.update w.up a.socket up } a.socket stretch)
      { g with
        told := Function.update g.told a.socket told
        rest := Function.update g.rest a.socket rest } where
  port := h.port
  kept := kept
  linked := by
    have hlinked := h.linked.putAgent ha socket
    exact ⟨hlinked.registration, hlinked.idle, hlinked.own, hlinked.only, hlinked.peers, hlinked.backlog⟩
  placed := ⟨h.placed.streams, h.placed.unborn, h.placed.pending, h.placed.handed, h.placed.once⟩
  line := by
    intro agent link hlink
    dsimp only [World.putDown]
    by_cases hsame : link = a.socket
    · subst hsame
      rw [Function.update_self, Function.update_self, Function.update_self, Function.update_self]
      refine (hline agent hlink).mono ?_ ?_ fun _ _ hfair => hfair
      · intro p hp
        rcases h.far_put ha socket hp with ⟨-, rfl⟩ | ⟨hne, -⟩
        · exact ⟨p, rfl, rfl, rfl⟩
        · exact absurd rfl hne
      · exact fun sid => WorldKept.claims_put ha socket
    · rw [Function.update_of_ne hsame, Function.update_of_ne hsame, Function.update_of_ne hsame,
        Function.update_of_ne hsame]
      refine (h.line agent link hlink).mono ?_ ?_ fun _ _ hfair => hfair
      · intro p hp
        rcases h.far_put ha socket hp with ⟨heq, -⟩ | ⟨-, hfar⟩
        · exact absurd heq hsame
        · exact ⟨p, hfar, rfl, rfl⟩
      · exact fun sid => WorldKept.claims_put ha socket

/-- What was queued goes out. -/
lemma Line.out {l : MuxLink} {up : Bytes} {down rest : Stretch} {far : AgentPeer → Prop}
    {claims : SessionId → Prop} {fair : Nat → Bytes → Prop} {id : SessionId} {told : List Told}
    (h : Line l up down far claims fair id told rest) (ha : far a) (wrote : Wrote a a' stretch) :
    Line l up (down ++ stretch) (fun p => p = a') claims fair id told (queued a'.output) where
  reads := by
    obtain ⟨part, hreads, hshort⟩ := h.reads
    obtain ⟨hrest, -⟩ := h.asking a ha
    refine ⟨part, ⟨?_, hreads.reader, hreads.descriptors, hreads.phase, hreads.sendable⟩, hshort⟩
    rw [hreads.laid, hrest, wrote.out, List.append_assoc down]
  fair := h.fair
  distinct := h.distinct
  refusals := h.refusals
  asking := by
    rintro p rfl
    refine ⟨rfl, ?_⟩
    rw [wrote.reader]
    refine (h.asking a ha).2.imp_right ?_
    rintro ⟨htold, hregistered, hnone, hbytes⟩
    exact ⟨htold, hregistered, wrote.nothing hnone, hbytes⟩
  claimed := h.claimed

/-- What an agent is written goes down its link. -/
lemma WorldKept.wrote (h : WorldKept machine w g) (ha : w.mux.agents token = some a)
    (wrote : Wrote a a' stretch) :
    WorldKept machine (World.putDown { w with mux := w.mux.putAgent token a' } a.socket stretch)
      { g with rest := Function.update g.rest a.socket (queued a'.output) } := by
  have hkept := h.retell ha (h.kept.wrote ha wrote) wrote.socket (w.up a.socket) stretch
    (g.told a.socket) (queued a'.output) fun agent hlink =>
      (h.line agent a.socket hlink).out (h.far_of_agent ha) wrote
  rw [Function.update_eq_self, Function.update_eq_self] at hkept
  exact hkept

/-- A connection leaves the mux's own table for a link. -/
lemma WorldKept.move (h : WorldKept machine w g) {id socket : Nat} {p : Pending}
    (hp : w.mux.pending id = some p) (hs : p.socket = some socket) (link : Nat) :
    WorldKept machine { w with mux := w.mux.putPending id ⟨none, true⟩ }
      { g with place := Function.update g.place socket (.link link) } := by
  obtain ⟨hplace, -⟩ := h.placed.pending id p socket hp hs
  have hother : ∀ other, g.place other ≠ .pending id →
      Function.update g.place socket (.link link) other = g.place other := by
    intro other hne
    apply Function.update_of_ne
    rintro rfl
    exact hne hplace
  constructor
  case port => exact h.port
  case kept => exact h.kept.shutPending hp rfl
  case linked => exact ⟨h.linked.registration, h.linked.idle, h.linked.own, h.linked.only, h.linked.peers,
    h.linked.backlog⟩
  case placed =>
    constructor
    case streams => exact h.placed.streams
    case unborn =>
      intro other hborn
      obtain ⟨hhad, hnowhere⟩ := h.placed.unborn other hborn
      refine ⟨hhad, (hother other ?_).trans hnowhere⟩
      rw [hnowhere]
      exact Place.noConfusion
    case pending =>
      intro id' q other hq hother'
      dsimp only at hq
      by_cases hsame : id' = id
      · rw [hsame, Mux.putPending_self] at hq
        cases hq
        cases hother'
      · rw [Mux.putPending_of_ne _ _ hsame] at hq
        obtain ⟨hplace', hlife⟩ := h.placed.pending id' q other hq hother'
        refine ⟨(hother other ?_).trans hplace', hlife⟩
        rw [hplace']
        intro heq
        cases heq
        exact hsame rfl
    case handed =>
      intro x hx
      obtain ⟨hagent, hrest⟩ := h.placed.handed x hx
      refine ⟨(hother _ ?_).trans hagent, hrest⟩
      rw [hagent]
      exact Place.noConfusion
    case once => exact h.placed.once
  case line =>
    intro agent link' hlink
    refine (h.line agent link' hlink).mono (fun p hp => ⟨p, hp, rfl, rfl⟩) (fun _ hsid => hsid) ?_
    rintro other bytes ⟨hway, hhad, hnames⟩
    refine ⟨(hother other ?_).trans hway, hhad, hnames⟩
    rw [hway]
    exact Place.noConfusion

/-- A handoff is queued behind what there is, and some of the queue goes out. -/
lemma Line.handoff {l : MuxLink} {up : Bytes} {down rest : Stretch} {far : AgentPeer → Prop}
    {claims : SessionId → Prop} {fair : Nat → Bytes → Prop} {id : SessionId} {told : List Told}
    (h : Line l up down far claims fair id told rest) (ha : far a) {sid : SessionId} (claimed : claims sid)
    {socket : Nat} {bytes : Bytes} (sendable : (Told.handoff (some socket) bytes).Sendable)
    (isFair : fair socket bytes) (fresh : ∀ bytes', .handoff (some socket) bytes' ∉ told)
    (wrote : Wrote { a with
      output := a.output ++ [⟨(Told.handoff (some socket) bytes).frame, 0, some socket⟩] } a' stretch) :
    Line l up (down ++ stretch) (fun p => p = a') claims fair id (told ++ [.handoff (some socket) bytes])
      (queued a'.output) := by
  obtain ⟨-, hserved⟩ := h.claimed sid claimed
  obtain ⟨hrest, hasking⟩ := h.asking a ha
  constructor
  case reads =>
    obtain ⟨part, hreads, hshort⟩ := h.reads
    refine ⟨part, ⟨?_, hreads.reader, hreads.descriptors, hreads.phase.snoc hserved socket bytes, ?_⟩, ?_⟩
    · have hqueued : queued a.output ++ (Told.handoff (some socket) bytes).parcel.laid =
          stretch ++ queued a'.output := (queued_told _ _).symm.trans wrote.out
      rw [List.map_append, lay_append, hreads.laid, hrest, List.map_singleton, lay_cons, lay_nil,
        List.append_nil, List.append_assoc, List.append_assoc down, hqueued, List.append_assoc down]
    · intro t ht
      rcases List.mem_append.mp ht with hold | hnew
      · exact hreads.sendable t hold
      · rw [List.mem_singleton.mp hnew]
        exact sendable
    · intro t ht
      cases told with
      | nil =>
        cases ht
        rw [hreads.nil.1]
        exact Told.frame_pos sendable
      | cons t' told => exact hshort t ht
  case fair =>
    intro socket' bytes' hmem
    rcases List.mem_append.mp hmem with hold | hnew
    · exact h.fair socket' bytes' hold
    · cases List.mem_singleton.mp hnew
      exact isFair
  case distinct =>
    rw [List.filterMap_append, List.nodup_append]
    refine ⟨h.distinct, List.pairwise_singleton _ _, ?_⟩
    intro other hother socket' hsocket'
    rw [List.mem_singleton.mp hsocket']
    rintro rfl
    obtain ⟨t, ht, hrider⟩ := List.mem_filterMap.mp hother
    cases t with
    | registered port => cases hrider
    | refused reason => cases hrider
    | handoff socket'' bytes'' =>
      cases hrider
      exact fresh bytes'' ht
  case refusals =>
    intro reason hmem
    rcases List.mem_append.mp hmem with hold | hnew
    · exact h.refusals reason hold
    · cases List.mem_singleton.mp hnew
  case asking =>
    rintro p rfl
    refine ⟨rfl, ?_⟩
    rw [wrote.reader]
    refine hasking.imp_right ?_
    -- A link whose registration is still on its way is not served.
    rintro ⟨hnone, hunregistered, -⟩
    rcases hserved with hregistered | ⟨port, more, htold⟩
    · rw [hunregistered] at hregistered
      cases hregistered
    · rw [hnone] at htold
      cases htold
  case claimed =>
    intro sid' hsid'
    obtain ⟨hid, -⟩ := h.claimed sid' hsid'
    refine ⟨hid, hserved.imp_right ?_⟩
    rintro ⟨port, more, rfl⟩
    exact ⟨port, more ++ [.handoff (some socket) bytes], rfl⟩

/-- `Decide` hands a connection over. -/
lemma WorldKept.handoff (h : WorldKept machine w g) {id t : Nat} {p : Pending} {socket : Nat}
    (hp : w.mux.pending id = some p) (hs : p.socket = some socket) (ha : w.mux.agents t = some a)
    (room : a.output.length < maxQueuedHandoffs)
    (sendable : (Told.handoff (some socket) (w.had socket)).Sendable)
    {r : Registration} (hr : r ∈ w.mux.router.registrations) (live : r.live = true) (agent : r.agent = t)
    (names : Names (w.had socket) r.id)
    (wrote : Wrote { a with output := a.output ++
      [⟨(Told.handoff (some socket) (w.had socket)).frame, 0, some socket⟩] } a' stretch) :
    ∃ g', WorldKept machine (World.putDown { w with
      mux := (w.mux.putPending id ⟨none, true⟩).putAgent t a' } a.socket stretch) g' := by
  obtain ⟨hplace, -⟩ := h.placed.pending id p socket hp hs
  have hmoved := h.move hp hs a.socket
  have hclaims : w.Claims a.socket r.id := ⟨r, hr, live, rfl, a, by rw [agent, ha], rfl⟩
  have hfits := ((h.kept.fits t a ha).tell room
    (Told.length_frame_le (.handoff (some socket) (w.had socket))) (o := ⟨_, 0, some socket⟩))
  have hkept := hmoved.retell ha (hmoved.kept.putAgent (a := a) ha wrote.uid (wrote.fits hfits))
    wrote.socket (w.up a.socket) stretch
    (g.told a.socket ++ [.handoff (some socket) (w.had socket)]) (queued a'.output)
    fun agent' hlink => by
      have hline := hmoved.line agent' a.socket hlink
      have hid := ((h.line agent' a.socket hlink).claimed r.id hclaims).1
      refine hline.handoff (.inl ⟨t, ha, rfl⟩) hclaims sendable ⟨Function.update_self .., rfl, ?_⟩ ?_
        wrote
      · rw [← hid]
        exact names
      · intro bytes' hmem
        obtain ⟨hway, -⟩ := (h.line agent' a.socket hlink).fair socket bytes' hmem
        rw [hplace] at hway
        cases hway
  rw [Function.update_eq_self] at hkept
  exact ⟨_, hkept⟩

/-- A registration is taken, where the agent is told so. -/
lemma WorldKept.registered (h : WorldKept machine w g) (ha : w.mux.agents token = some a)
    {k : KeyBytes} {r : MuxRouter}
    (hr : w.mux.router.register machine.sessionIdOf token a.uid k = .ok r)
    (served : ∀ agent, (w.links agent).socket = some a.socket →
      k = machine.keyOf agent ∧ Served (w.links agent).registered (g.told a.socket)) :
    WorldKept machine { w with mux := { w.mux with router := r } } g where
  port := h.port
  kept := h.kept.registered ha hr
  linked := ⟨h.linked.registration, h.linked.idle, h.linked.own, h.linked.only, h.linked.peers,
    h.linked.backlog⟩
  placed := ⟨h.placed.streams, h.placed.unborn, h.placed.pending, h.placed.handed, h.placed.once⟩
  line := by
    intro agent link hlink
    have hline := h.line agent link hlink
    refine ⟨hline.reads, hline.fair, hline.distinct, hline.refusals, hline.asking, ?_⟩
    rintro sid ⟨r', hr', hlive, hid, p, hp, hsocket⟩
    obtain ⟨slot, r₀, -, -, hset⟩ := MuxRouter.register_entry hr
    dsimp only at hr' hp
    rw [hset] at hr'
    rcases List.mem_or_eq_of_mem_set hr' with hold | rfl
    · exact hline.claimed sid ⟨r', hold, hlive, hid, p, hp, hsocket⟩
    · have hsame : a = p := Option.some.inj (ha.symm.trans hp)
      subst hsame
      rw [← hsocket] at hlink ⊢
      obtain ⟨hkey, hserved⟩ := served agent hlink
      exact ⟨by rw [← hid, hkey], hserved⟩

/-- The body of a registration. -/
def registerBody (registration : KeyBytes) : Bytes :=
  encodeBE 1 MessageType.muxRegister.toByte ++ registration.val

/-- A registration is its type and its key. -/
lemma length_registerBody (registration : KeyBytes) : (registerBody registration).length = 1 + keySize := by
  rw [registerBody, List.length_append, length_encodeBE, registration.property]

/-- It is not empty. -/
lemma registerBody_pos (registration : KeyBytes) : 0 < (registerBody registration).length := by
  rw [length_registerBody]
  exact Nat.add_pos_left Nat.one_pos _

/-- And within the limit. -/
lemma registerBody_fits (registration : KeyBytes) : (registerBody registration).length ≤ muxMaxBody := by
  rw [length_registerBody]
  exact Nat.le_of_ble_eq_true rfl

/-- It is what the writer writes. -/
lemma registerBody_written (registration : KeyBytes) :
    writeInto muxMaxBody (writeMuxRegister ⟨registration⟩) = .ok (registerBody registration) := by
  have hemits : Emits (writeMuxRegister ⟨registration⟩) (registerBody registration) :=
    (emits_type .muxRegister).bind (emits_array registration)
  rw [hemits.writeInto, if_pos (registerBody_fits registration)]

/-- The frame of a registration is a cleartext frame. -/
lemma registerFrame_eq (l : MuxLink) : l.registerFrame =
    (clearFrameOf (registerBody l.registration) (registerBody_pos _) (registerBody_fits _)).bytes :=
  cleartextFrame_eq (registerBody_written l.registration) _ _

/-- What is registered is what the link sent. -/
lemma registration_of_parse {registration : KeyBytes} {s rest : Bytes} {message : MuxRegisterMessage}
    (htype : parseMessageType (registerBody registration) = .ok (.muxRegister, s))
    (hparse : parseMuxRegister s = .ok (message, rest)) : message.registration = registration := by
  obtain ⟨body, hbody, hread⟩ := muxRegister_readsBack ⟨registration⟩ _ _ (registerBody_written registration)
  rw [hbody, parseMessageType_write] at htype
  cases htype
  rw [hread] at hparse
  cases hparse
  rfl

/-- The router has its own reasons to refuse a registration, none of which is its form. -/
lemma router_register_error {sessionIdOf : KeyBytes → SessionId} {r : MuxRouter} {agent uid : Nat}
    {registration : KeyBytes} {reason : MuxRefusal}
    (h : r.register sessionIdOf agent uid registration = .error reason) : reason ≠ .malformed := by
  unfold MuxRouter.register at h
  dsimp only at h
  split at h
  · split at h
    · cases h
      exact MuxRefusal.noConfusion
    · cases h
  · split at h
    · cases h
      exact MuxRefusal.noConfusion
    · split at h
      · cases h
        exact MuxRefusal.noConfusion
      · cases h

/-- The body of a registration is never malformed to the mux. -/
lemma register_registerBody (sessionIdOf : KeyBytes → SessionId) (m : Mux) (id : Nat) (a : AgentPeer)
    (registration : KeyBytes) :
    (m.register sessionIdOf id a (registerBody registration)).1 ≠ some .malformed := by
  obtain ⟨body, hbody, hread⟩ := muxRegister_readsBack ⟨registration⟩ _ _ (registerBody_written registration)
  unfold Mux.register
  rw [hbody, parseMessageType_write]
  dsimp only
  rw [if_neg (not_not_intro rfl), hread]
  dsimp only
  split
  next reason hrefused => exact fun hsame => router_register_error hrefused (Option.some.inj hsame)
  · split <;> nofun

/-- A body that the mux's end of a link takes is the registration, all of it. -/
lemma Line.asks {l : MuxLink} {up : Bytes} {down rest : Stretch} {far : AgentPeer → Prop}
    {claims : SessionId → Prop} {fair : Nat → Bytes → Prop} {id : SessionId} {told : List Told}
    (h : Line l up down far claims fair id told rest) (ha : far a) {body : Bytes} {reader : MuxFrameReader}
    (hnext : a.reader.next = (.ok (some body), reader)) :
    told = [] ∧ l.registered = false ∧ a.output = [] ∧ body = registerBody l.registration ∧
      reader.bytes = [] ∧ up = [] ∧ l.output.front = [] := by
  rcases (h.asking a ha).2 with ⟨hempty, -⟩ | ⟨htold, hregistered, hnone, hbytes⟩
  · have hreader : a.reader = .empty := by
      cases hreader : a.reader with
      | mk bytes =>
        rw [hreader] at hempty
        exact congrArg MuxFrameReader.mk hempty
    rw [hreader, MuxFrameReader.next_empty] at hnext
    cases hnext
  · rw [registerFrame_eq, List.append_assoc, ← List.append_nil (WireFrame.bytes _)] at hbytes
    have hfront := MuxFrameReader.next_front hbytes rfl (registerBody_fits l.registration)
    rw [hnext] at hfront
    split at hfront
    · cases hfront
    next hlong =>
      obtain ⟨hbody, hreader⟩ : body = registerBody l.registration ∧
          reader = ⟨a.reader.bytes.drop (clearFrameOf (registerBody l.registration) (registerBody_pos _)
            (registerBody_fits _)).bytes.length⟩ := by
        cases hfront
        exact ⟨rfl, rfl⟩
      have hlength := congrArg List.length hbytes
      rw [List.length_append, List.length_append, List.length_append, List.length_nil] at hlength
      refine ⟨htold, hregistered, hnone, hbody, ?_, ?_, ?_⟩
      · rw [hreader]
        exact List.drop_of_length_le (by omega)
      · exact List.length_eq_zero_iff.mp (by omega)
      · exact List.length_eq_zero_iff.mp (by omega)

/-- The answer is queued, and some of it goes out. -/
lemma Line.answered {l : MuxLink} {up : Bytes} {down rest : Stretch} {far : AgentPeer → Prop}
    {claims : SessionId → Prop} {fair : Nat → Bytes → Prop} {id : SessionId} {told : List Told}
    (h : Line l up down far claims fair id told rest) (ha : far a) {body : Bytes} {reader : MuxFrameReader}
    (hnext : a.reader.next = (.ok (some body), reader)) {port : Nat} (range : 0 < port ∧ port < 256 ^ 2)
    {refusal : Option MuxRefusal} (wellFormed : refusal ≠ some .malformed)
    (wrote : Wrote { a with
      reader := reader
      output := a.output ++ [⟨(Told.answer port refusal).frame, 0, none⟩] } a' stretch) :
    Line l up (down ++ stretch) (fun p => p = a') claims fair id [Told.answer port refusal]
      (queued a'.output) := by
  -- an agent that still asks has been told nothing, so the answer is the first it is told
  obtain ⟨rfl, hregistered, -, -, hreader, hup, hout⟩ := h.asks ha hnext
  obtain ⟨hrest, -⟩ := h.asking a ha
  have hsendable : (Told.answer port refusal).Sendable := by
    cases refusal with
    | none => exact range
    | some reason => trivial
  have hrider : (Told.answer port refusal).rider = none := by cases refusal <;> rfl
  constructor
  case reads =>
    obtain ⟨part, hreads, -⟩ := h.reads
    obtain ⟨rfl, -⟩ := hreads.nil
    refine ⟨[], ⟨?_, hreads.reader, hreads.descriptors, ?_, ?_⟩, ?_⟩
    · have hnone : down ++ rest = [] := hreads.laid.symm
      have hqueued : queued a.output ++ (Told.answer port refusal).parcel.laid =
          stretch ++ queued a'.output := by
        rw [← wrote.out, ← queued_told, hrider]
      obtain ⟨hdown, hnothing⟩ := List.append_eq_nil_iff.mp hnone
      rw [hrest] at hnothing
      rw [hnothing, List.nil_append] at hqueued
      rw [List.map_singleton, lay_cons, lay_nil, List.append_nil, hdown, List.nil_append,
        List.nil_append]
      exact hqueued
    · rw [hregistered]
      cases refusal with
      | none => exact .admitted port .idle
      | some reason => exact .refused reason
    · intro t ht
      rw [List.mem_singleton.mp ht]
      exact hsendable
    · intro t ht
      cases ht
      exact Told.frame_pos hsendable
  case fair =>
    intro socket bytes hmem
    have hsame := List.mem_singleton.mp hmem
    cases refusal <;> cases hsame
  case distinct =>
    rw [List.filterMap_cons, hrider]
    exact List.nodup_nil
  case refusals =>
    intro reason hmem
    have hsame := List.mem_singleton.mp hmem
    cases refusal with
    | none => cases hsame
    | some reason' =>
      cases hsame
      exact fun hmalformed => wellFormed (congrArg some hmalformed)
  case asking =>
    rintro p rfl
    refine ⟨rfl, .inl ⟨?_, hup, hout⟩⟩
    rw [wrote.reader]
    exact hreader
  case claimed =>
    intro sid hsid
    obtain ⟨-, hserved⟩ := h.claimed sid hsid
    rcases hserved with htrue | ⟨_, _, htold⟩
    · rw [hregistered] at htrue
      cases htrue
    · cases htold

/-- `Answer`, on a body the reader has handed out. -/
lemma WorldKept.answer (h : WorldKept machine w g) (ha : w.mux.agents token = some a) {body : Bytes}
    {reader : MuxFrameReader} (hnext : a.reader.next = (.ok (some body), reader))
    (answers : List WriteAnswer) :
    ∃ g', WorldKept machine (World.putDown { w with
      mux := ((w.mux.putAgent token { a with reader := reader }).answer machine.sessionIdOf token body
        answers).1 } a.socket
      ((w.mux.putAgent token { a with reader := reader }).answer machine.sessionIdOf token body
        answers).2) g' := by
  have htaken := w.mux.putAgent_self token { a with reader := reader }
  obtain ⟨refusal, m', a', stretch, hregister, heq, hcases⟩ :=
    Mux.answer_cases machine.sessionIdOf htaken body answers
  rw [heq]
  have hfits : PeerFits { a with reader := reader } := by
    have := h.kept.fits token a ha
    refine ⟨this.queue, this.frames, ?_⟩
    have hlength := a.reader.length_next
    rw [hnext] at hlength
    exact hlength.trans this.reader
  -- a registration of ours is well formed, so it is not refused as malformed
  have hwell : ∀ agent, (w.links agent).socket = some a.socket → refusal ≠ some .malformed := by
    intro agent hlink
    obtain ⟨-, -, -, hbody, -⟩ := (h.line agent a.socket hlink).asks (h.far_of_agent ha) hnext
    have hrefusal := register_registerBody machine.sessionIdOf
      (w.mux.putAgent token { a with reader := reader }) token { a with reader := reader }
      (w.links agent).registration
    rwa [← hbody, hregister] at hrefusal
  -- First the agent's own entry, under what it has been told by then.
  have htold : ∃ told rest, WorldKept machine (World.putDown { w with
      mux := w.mux.putAgent token a' } a.socket stretch)
        { g with
          told := Function.update g.told a.socket told
          rest := Function.update g.rest a.socket rest } ∧ a'.socket = a.socket ∧ a'.uid = a.uid ∧
      ∀ agent, (w.links agent).socket = some a.socket → told = [Told.answer w.mux.port refusal] := by
    rcases hcases with ⟨rfl, rfl, hfull⟩ | ⟨hroom, hwrote⟩
    · -- Nothing is queued for an agent of ours before it is answered, so this one is not ours.
      have hforeign : ∀ agent, (w.links agent).socket ≠ some a.socket := by
        intro agent hlink
        obtain ⟨-, -, hnone, -⟩ := (h.line agent a.socket hlink).asks (h.far_of_agent ha) hnext
        rw [hnone] at hfull
        exact absurd hfull (by decide)
      have hkept := h.retell (b := { a with reader := reader, closing := true }) ha
        (h.kept.putAgent ha rfl hfits.shut) rfl (w.up a.socket) [] (g.told a.socket) (g.rest a.socket)
        fun agent hlink => absurd hlink (hforeign agent)
      rw [Function.update_eq_self (f := w.up)] at hkept
      exact ⟨_, _, hkept, rfl, rfl, fun agent hlink => absurd hlink (hforeign agent)⟩
    · have htell := hfits.tell hroom (Told.length_frame_le (.answer w.mux.port refusal)) (o := ⟨_, 0, none⟩)
      have hkept := h.retell ha (h.kept.putAgent ha hwrote.uid (hwrote.fits htell)) hwrote.socket
        (w.up a.socket) stretch [Told.answer w.mux.port refusal] (queued a'.output) fun agent hlink =>
          (h.line agent a.socket hlink).answered (h.far_of_agent ha) hnext h.port
            (hwell agent hlink) hwrote
      rw [Function.update_eq_self (f := w.up)] at hkept
      exact ⟨_, _, hkept, hwrote.socket, hwrote.uid, fun _ _ => rfl⟩
  obtain ⟨told, rest, hkept, hsocket, huid, htold⟩ := htold
  -- Then the registration, and the agent's old connection.
  rcases Mux.register_cases machine.sessionIdOf (w.mux.putAgent token { a with reader := reader }) token
      { a with reader := reader } body with ⟨reason, hrefused⟩ |
    ⟨s, more, message, r, m₁, htype, hparse, hr, htook, hm₁⟩
  · rw [hregister] at hrefused
    cases hrefused
    have hmux : (w.mux.putAgent token { a with reader := reader }).putAgent token a' =
        w.mux.putAgent token a' := by
      simp only [Mux.putAgent, Function.update_idem]
    rw [hmux]
    exact ⟨_, hkept⟩
  · rw [hregister] at htook
    cases htook
    have ha' : (w.mux.putAgent token a').agents token = some a' := Mux.putAgent_self ..
    have hregistered := hkept.registered (k := message.registration) (r := r) ha'
      (by rw [huid]; exact hr) fun agent hlink => by
        rw [hsocket] at hlink ⊢
        obtain ⟨-, -, -, hbody, -⟩ := (h.line agent a.socket hlink).asks (h.far_of_agent ha) hnext
        rw [hbody] at htype
        dsimp only
        rw [registration_of_parse htype hparse, Function.update_self]
        refine ⟨h.linked.registration agent, .inr ⟨w.mux.port, [], htold agent hlink⟩⟩
    rcases hm₁ with rfl | ⟨old, entry, hne, hold, rfl⟩
    · have hmux : Mux.putAgent { w.mux.putAgent token { a with reader := reader } with router := r } token
          a' = { w.mux.putAgent token a' with router := r } := by
        simp only [Mux.putAgent, Function.update_idem]
      rw [hmux]
      exact ⟨_, hregistered⟩
    · have hold' : (w.mux.putAgent token a').agents old = some entry := by
        rw [Mux.putAgent_of_ne _ _ hne] at hold ⊢
        exact hold
      have hshut := hregistered.quiet
        (hregistered.kept.putAgent (b := { entry with closing := true }) hold' rfl
          (hregistered.kept.fits old entry hold').shut)
        (Quiet.putAgent hold' rfl rfl rfl)
      have hmux : Mux.putAgent (Mux.putAgent { w.mux.putAgent token { a with reader := reader } with
          router := r } old { entry with closing := true }) token a' =
            Mux.putAgent { w.mux.putAgent token a' with router := r } old { entry with closing := true } := by
        simp only [Mux.putAgent, Function.update_comm hne, Function.update_idem]
      rw [hmux]
      exact ⟨_, hshut⟩

/-- Nothing put down changes nothing. -/
lemma World.putDown_nil (w : World) (link : Nat) : w.putDown link [] = w := by
  simp only [putDown, List.append_nil, Function.update_eq_self]

/-- Two stretches put down, one after the other. -/
lemma World.putDown_putDown (w : World) (link : Nat) (m : Mux) (stretch more : Stretch) :
    World.putDown { w.putDown link stretch with mux := m } link more =
      World.putDown { w with mux := m } link (stretch ++ more) := by
  simp only [putDown, Function.update_self, Function.update_idem, List.append_assoc]

/-- The turns of `ReadAgent` keep it, one by one. -/
lemma WorldKept.answerAll (h : WorldKept machine w g) (fuel : Nat) (ha : w.mux.agents token = some a)
    (answers : List WriteAnswer) : ∃ g', WorldKept machine (World.putDown { w with
      mux := (w.mux.answerAll machine.sessionIdOf fuel token answers).1 } a.socket
      (w.mux.answerAll machine.sessionIdOf fuel token answers).2) g' := by
  induction fuel generalizing w g a with
  | zero =>
    rw [Mux.answerAll, World.putDown_nil]
    exact ⟨g, h⟩
  | succ fuel ih =>
    rw [Mux.answerAll, ha]
    dsimp only
    have hfits := h.kept.fits token a ha
    cases hnext : a.reader.next with
    | mk result reader =>
      cases result with
      | error e =>
        have hreader : reader = a.reader := MuxFrameReader.next_same hnext fun body hbody => (by cases hbody)
        dsimp only
        rw [World.putDown_nil, hreader]
        exact ⟨_, h.quiet (h.kept.putAgent (b := { a with closing := true }) ha rfl hfits.shut)
          (Quiet.putAgent ha rfl rfl rfl)⟩
      | ok body =>
        cases body with
        | none =>
          have hreader : reader = a.reader :=
            MuxFrameReader.next_same hnext fun body hbody => (by cases hbody)
          dsimp only
          rw [World.putDown_nil, hreader]
          exact ⟨_, h.quiet (h.kept.putAgent (b := a) ha rfl hfits)
            (Quiet.putAgent ha rfl rfl rfl)⟩
        | some body =>
          obtain ⟨g', hanswered⟩ := h.answer ha hnext answers
          obtain ⟨a', ha', hsocket⟩ := Mux.answer_agent machine.sessionIdOf
            (w.mux.putAgent_self token { a with reader := reader }) body answers
          dsimp only
          split
          · exact ⟨g', hanswered⟩
          · obtain ⟨g'', hkept⟩ := ih hanswered ha'
            dsimp only at hsocket
            rw [hsocket] at hkept
            refine ⟨g'', ?_⟩
            rw [← World.putDown_putDown]
            exact hkept

/-- A chunk of what an agent sent is at the mux's end of its link. -/
lemma WorldKept.readUp (h : WorldKept machine w g) (ha : w.mux.agents token = some a) {chunk : Bytes}
    (front : chunk <+: w.up a.socket)
    (fits : (a.reader.append chunk).bytes.length ≤ MuxFrameReader.capacity) :
    WorldKept machine
      { w.readUp a.socket chunk.length with
        mux := w.mux.putAgent token { a with reader := a.reader.append chunk } } g := by
  have hfits := h.kept.fits token a ha
  obtain ⟨more, hmore⟩ := front
  have hdrop : (w.up a.socket).drop chunk.length = more := by
    rw [← hmore]
    exact List.drop_left
  have hkept := h.retell (b := { a with reader := a.reader.append chunk }) ha
    (h.kept.putAgent ha rfl ⟨hfits.queue, hfits.frames, fits⟩) rfl more []
    (g.told a.socket) (g.rest a.socket) fun agent hlink => by
      have hline := h.line agent a.socket hlink
      obtain ⟨hrest, hasking⟩ := hline.asking a (h.far_of_agent ha)
      rw [List.append_nil]
      refine ⟨hline.reads, hline.fair, hline.distinct, hline.refusals, ?_, hline.claimed⟩
      rintro p rfl
      refine ⟨hrest, ?_⟩
      rcases hasking with ⟨hreader, hup, hout⟩ | ⟨htold, hregistered, hnone, hbytes⟩
      · rw [hup] at hmore
        obtain ⟨rfl, rfl⟩ := List.append_eq_nil_iff.mp hmore
        refine .inl ⟨?_, rfl, hout⟩
        dsimp only [MuxFrameReader.append]
        rw [hreader, List.append_nil]
      · refine .inr ⟨htold, hregistered, hnone, ?_⟩
        rw [← hbytes, ← hmore]
        simp only [MuxFrameReader.append, List.append_assoc]
  rw [Function.update_eq_self, Function.update_eq_self, World.putDown_nil] at hkept
  rw [World.readUp, hdrop]
  exact hkept

/-- `ReadAgent`, with what the kernel gives it. -/
lemma WorldKept.readAgent (h : WorldKept machine w g) (read : ReadAnswer) (answers : List WriteAnswer)
    (allowed : Allowed w (.mux (.readAgent token read answers))) :
    ∃ g', WorldKept machine ((w.give (.readAgent token read answers)).take
      (w.mux.handle machine.sessionIdOf (.readAgent token read answers))) g' := by
  cases ha : w.mux.agents token with
  | none =>
    have hgive : w.give (.readAgent token read answers) = w := by
      cases read with
      | got chunk => rw [World.give, ha]
      | wouldBlock => rfl
      | failed => rfl
    have hhandle : w.mux.handle machine.sessionIdOf (.readAgent token read answers) = (w.mux, none) := by
      rw [Mux.handle, Mux.agentOpen, ha]
      rfl
    rw [hgive, hhandle]
    exact ⟨g, h⟩
  | some a =>
    -- a peer whose socket fails is only marked here, and dropped with the others that closed
    have hshut : WorldKept machine { w with mux := w.mux.putAgent token { a with closing := true } } g :=
      h.quiet (h.kept.putAgent ha rfl (h.kept.fits token a ha).shut)
        (Quiet.putAgent ha rfl rfl rfl)
    have hnothing : ∀ m : Mux, (World.take w (m, some (token, []))) = { w with mux := m } := by
      intro m
      rw [World.take]
      dsimp only
      cases m.agents token with
      | none => rfl
      | some b => exact World.putDown_nil _ _
    rw [Mux.handle]
    split
    next hopen =>
      unfold Mux.readAgent
      rw [ha]
      dsimp only
      cases read with
      | wouldBlock =>
        refine ⟨g, ?_⟩
        dsimp only [World.give]
        split
        · rw [hnothing]
          exact hshut
        · rw [hnothing]
          exact h
      | failed =>
        refine ⟨g, ?_⟩
        dsimp only [World.give]
        split
        · rw [hnothing]
          exact hshut
        · rw [hnothing]
          exact hshut
      | got chunk =>
        obtain ⟨hready, -, hfront⟩ := allowed
        obtain ⟨hroom, hfront⟩ := hfront a ha
        have hfits : (a.reader.append chunk).bytes.length ≤ MuxFrameReader.capacity := by
          have hchunk : chunk.length ≤ MuxFrameReader.capacity - a.reader.bytes.length :=
            (hready a ha).trans (Nat.min_le_left _ _)
          have := (h.kept.fits token a ha).reader
          simp only [MuxFrameReader.append, List.length_append]
          omega
        rw [if_neg hroom, World.give, ha]
        dsimp only
        cases chunk with
        | nil =>
          -- an empty read is the end of the stream
          have hgive : w.readUp a.socket ([] : Bytes).length = w := by
            simp only [World.readUp, List.length_nil, List.drop_zero, Function.update_eq_self]
          rw [hgive]
          dsimp only
          rw [hnothing]
          exact ⟨g, hshut⟩
        | cons b chunk =>
          dsimp only
          -- what was read is answered frame by frame
          have hread := h.readUp ha hfront hfits
          obtain ⟨g', hkept⟩ := hread.answerAll ((a.reader.append (b :: chunk)).bytes.length + 1)
            (w.mux.putAgent_self token { a with reader := a.reader.append (b :: chunk) }) answers
          refine ⟨g', ?_⟩
          rw [World.take]
          dsimp only
          obtain ⟨a', ha', hsocket⟩ : ∃ a', (Mux.answerAll machine.sessionIdOf
              ((a.reader.append (b :: chunk)).bytes.length + 1)
              (w.mux.putAgent token { a with reader := a.reader.append (b :: chunk) }) token
              answers).1.agents token = some a' ∧ a'.socket = a.socket :=
            Mux.answerAll_agent machine.sessionIdOf (w.mux.putAgent_self token _) _ answers
          rw [ha']
          dsimp only
          rw [hsocket]
          exact hkept
    next hclosed =>
      cases read with
      | got chunk => exact absurd allowed.2.1 hclosed
      | wouldBlock => exact ⟨g, h⟩
      | failed => exact ⟨g, h⟩

/-- A peer's connection is in the mux's table. -/
lemma WorldKept.acceptTcp (h : WorldKept machine w g) (address : PeerAddress) (now : Timestamp) :
    ∃ g', WorldKept machine { w with
      mux := w.mux.acceptTcp w.nextSocket address now
      nextSocket := w.nextSocket + 1 } g' := by
  have hborn : ∀ place : Nat → Place, (∀ socket, w.nextSocket + 1 ≤ socket → place socket = g.place socket) →
      ∀ socket, w.nextSocket + 1 ≤ socket → w.had socket = [] ∧ place socket = .nowhere := by
    intro place hplace socket hsocket
    obtain ⟨hhad, hnowhere⟩ := h.placed.unborn socket (Nat.le_of_succ_le hsocket)
    exact ⟨hhad, (hplace socket hsocket).trans hnowhere⟩
  rcases h.kept.acceptTcp w.nextSocket address now with ⟨heq, hkept⟩ | ⟨r, hsame, heq, hkept⟩
  · rw [heq] at hkept ⊢
    have hquiet := h.quiet hkept ⟨rfl, fun _ p hp => ⟨p, hp, rfl, rfl, rfl⟩,
      fun _ hr _ => hr, fun _ p hp _ hs => ⟨p, hp, hs, fun hopen => ⟨hopen, rfl⟩⟩⟩
    exact ⟨_, hquiet.port, hquiet.kept, ⟨hquiet.linked.registration, hquiet.linked.idle,
      hquiet.linked.own, hquiet.linked.only, hquiet.linked.peers, hquiet.linked.backlog⟩,
      ⟨hquiet.placed.streams, hborn g.place fun _ _ => rfl, hquiet.placed.pending, hquiet.placed.handed,
        hquiet.placed.once⟩, hquiet.line⟩
  · rw [heq] at hkept ⊢
    obtain ⟨hhad, hnowhere⟩ := h.placed.unborn w.nextSocket le_rfl
    have hother : ∀ other, g.place other ≠ .nowhere →
        Function.update g.place w.nextSocket (.pending w.mux.nextToken) other = g.place other := by
      intro other hne
      apply Function.update_of_ne
      rintro rfl
      exact hne hnowhere
    refine ⟨{ g with
      lives := Function.update g.lives w.mux.nextToken (some ⟨[], []⟩)
      place := Function.update g.place w.nextSocket (.pending w.mux.nextToken) }, h.port, hkept,
      ⟨h.linked.registration, h.linked.idle, h.linked.own, h.linked.only, h.linked.peers,
        h.linked.backlog⟩, ⟨h.placed.streams, ?_, ?_, ?_, h.placed.once⟩, ?_⟩
    · exact hborn _ fun socket hsocket => Function.update_of_ne (Nat.ne_of_gt hsocket) ..
    · intro id p socket hp hs
      dsimp only at hp ⊢
      by_cases hid : id = w.mux.nextToken
      · subst hid
        rw [Mux.putPending_self] at hp
        cases hp
        cases hs
        rw [Function.update_self, Function.update_self, hhad]
        exact ⟨rfl, fun _ => rfl⟩
      · rw [Mux.putPending_of_ne _ _ hid] at hp
        obtain ⟨hplace, hlife⟩ := h.placed.pending id p socket hp hs
        rw [Function.update_of_ne hid, hother socket (by rw [hplace]; exact Place.noConfusion)]
        exact ⟨hplace, hlife⟩
    · intro x hx
      obtain ⟨hplace, hrest⟩ := h.placed.handed x hx
      refine ⟨(hother _ ?_).trans hplace, hrest⟩
      rw [hplace]
      exact Place.noConfusion
    · intro agent link hlink
      refine (h.line agent link hlink).mono (fun p hp => ⟨p, hp, rfl, rfl⟩) ?_ ?_
      · rintro sid ⟨r', hr', hrest⟩
        exact ⟨r', hsame ▸ hr', hrest⟩
      · rintro socket bytes ⟨hplace, hbytes⟩
        refine ⟨(hother socket ?_).trans hplace, hbytes⟩
        rw [hplace]
        exact Place.noConfusion

/-- Bytes are read of a connection in the mux's table, and fed to the router. -/
lemma WorldKept.feed (h : WorldKept machine w g) {id socket : Nat} {p : Pending}
    (hp : w.mux.pending id = some p) (hs : p.socket = some socket) {chunk : Bytes}
    (front : chunk <+: w.coming socket) {r : MuxRouter} {q : Pending} {lives : Nat → Option MuxLife}
    (kept : Kept (Mux.putPending { w.mux with router := r } id q) lives)
    (same : r.registrations = w.mux.router.registrations) (hq : q.socket = some socket)
    (others : ∀ other ≠ id, lives other = g.lives other)
    (fed : q.closing = false → lives id = some ⟨w.had socket ++ chunk, []⟩) :
    WorldKept machine { w.readSocket socket chunk with
      mux := Mux.putPending { w.mux with router := r } id q } { g with lives := lives } := by
  obtain ⟨hplace, -⟩ := h.placed.pending id p socket hp hs
  -- only the connection that is read has more behind it
  have hother : ∀ other, g.place other ≠ .pending id →
      Function.update w.had socket (w.had socket ++ chunk) other = w.had other := by
    intro other hne
    apply Function.update_of_ne
    rintro rfl
    exact hne hplace
  refine ⟨h.port, kept, ⟨h.linked.registration, h.linked.idle, h.linked.own, h.linked.only, h.linked.peers,
    h.linked.backlog⟩, ⟨?_, ?_, ?_, ?_, h.placed.once⟩, ?_⟩
  · intro other
    dsimp only [World.readSocket]
    by_cases hsame : other = socket
    · subst hsame
      obtain ⟨more, hmore⟩ := front
      rw [Function.update_self, Function.update_self, h.placed.streams, ← hmore, List.drop_left,
        List.append_assoc]
    · rw [Function.update_of_ne hsame, Function.update_of_ne hsame]
      exact h.placed.streams other
  · intro other hborn
    obtain ⟨hhad, hnowhere⟩ := h.placed.unborn other hborn
    refine ⟨(hother other ?_).trans hhad, hnowhere⟩
    rw [hnowhere]
    exact Place.noConfusion
  · intro id' p' other hp' hs'
    dsimp only [World.readSocket] at hp' ⊢
    by_cases hid : id' = id
    · subst hid
      rw [Mux.putPending_self] at hp'
      cases hp'
      rw [hq] at hs'
      cases hs'
      rw [Function.update_self]
      exact ⟨hplace, fed⟩
    · rw [Mux.putPending_of_ne _ _ hid] at hp'
      obtain ⟨hplace', hlife⟩ := h.placed.pending id' p' other hp' hs'
      rw [others id' hid, hother other ?_]
      · exact ⟨hplace', hlife⟩
      · rw [hplace']
        intro heq
        cases heq
        exact hid rfl
  · intro x hx
    obtain ⟨hagent, hgot, hfront, hnames⟩ := h.placed.handed x hx
    have hsame := hother x.2.socket (by rw [hagent]; exact Place.noConfusion)
    dsimp only [World.readSocket]
    rw [hsame]
    exact ⟨hagent, hgot, hfront, hnames⟩
  · intro agent link hlink
    refine (h.line agent link hlink).mono (fun p hp => ⟨p, hp, rfl, rfl⟩) ?_ ?_
    · rintro sid ⟨r', hr', hrest⟩
      exact ⟨r', same ▸ hr', hrest⟩
    · rintro other bytes ⟨hway, hbytes, hnames⟩
      refine ⟨hway, hbytes.trans (hother other ?_).symm, hnames⟩
      rw [hway]
      exact Place.noConfusion

/-- What the router decides of a connection, once it has had a chunk. -/
lemma WorldKept.decide (h : WorldKept machine w g) {id socket : Nat} {p : Pending}
    (hp : w.mux.pending id = some p) (hs : p.socket = some socket) (opened : p.closing = false)
    {chunk : Bytes} (front : chunk <+: w.coming socket) (ready : chunk.length ≤ w.mux.router.room id)
    (answers : List WriteAnswer) :
    ∃ g', WorldKept machine ((w.readSocket socket chunk).take
      (Mux.decide { w.mux with router := (w.mux.router.feed id chunk).2 } id
        (w.mux.router.feed id chunk).1 answers)) g' := by
  have hfed := h.kept.feed hp ready answers
  obtain ⟨hsame, -⟩ := w.mux.router.feed_registrations id chunk
  obtain ⟨-, hlife⟩ := h.placed.pending id p socket hp hs
  have hothers : ∀ other ≠ id, fedLives w.mux g.lives id chunk other = g.lives other := fun other hother =>
    MuxWatch.note_of_ne _ _ _ hother
  have hself : Mux.putPending { w.mux with router := (w.mux.router.feed id chunk).2 } id p =
      { w.mux with router := (w.mux.router.feed id chunk).2 } := by
    simp only [Mux.putPending, ← hp, Function.update_eq_self]
  by_cases hmore : (w.mux.router.feed id chunk).1 = .needMore
  · rw [hmore, Mux.decide] at hfed ⊢
    rw [← hself] at hfed
    have hkept := h.feed (q := p) hp hs front hfed hsame hs hothers fun _ => by
      rw [fedLives, MuxWatch.note_self, hmore]
      dsimp only
      rw [hlife opened]
      rfl
    rw [hself] at hkept
    exact ⟨_, hkept⟩
  -- The connection ends here. It is taken out of the mux's hands before anything is done with it.
  have hshut : WorldKept machine { w.readSocket socket chunk with
      mux := Mux.putPending { w.mux with router := (w.mux.router.feed id chunk).2 } id
        { p with closing := true } } { g with lives := fedLives w.mux g.lives id chunk } := by
    refine h.feed (q := { p with closing := true }) hp hs front ?_ hsame hs hothers
      fun hopen => (by cases hopen)
    have hrouted := (h.kept.shutPending (q := { p with closing := true }) hp rfl).route (i := id)
      (l := fedLives w.mux g.lives id chunk) (r := (w.mux.router.feed id chunk).2)
      ⟨h.kept.sound.registered.congr hsame (w.mux.router.feed_registrations id chunk).2,
        h.kept.sound.attended.feed ready⟩ hsame hothers fun q hq hopen => by
          rw [Mux.putPending_self] at hq
          cases hq
          cases hopen
    exact hrouted
  have hp' : ({ w.mux with router := (w.mux.router.feed id chunk).2 } : Mux).pending id = some p := hp
  rcases Mux.decide_cases hp' (w.mux.router.feed id chunk).1 answers with ⟨hneed, -⟩ | heq |
    ⟨d, hroom, heq⟩ | ⟨connection, agent, bytes, a, a', stretch, hdecision, ha, -, hroom, hsendable,
      hwrote, heq⟩
  · exact absurd hneed hmore
  · rw [heq]
    exact ⟨_, hshut⟩
  · rw [heq] at hfed ⊢
    have hclosed : ∀ id' p', (Mux.putPending { w.mux with router := (w.mux.router.feed id chunk).2 } id
        ⟨none, true⟩).pending id' = some p' → ∀ socket', p'.socket = some socket' →
        (Mux.putPending { w.mux with router := (w.mux.router.feed id chunk).2 } id
          { p with closing := true }).pending id' = some p' := by
      intro id' p' hp'' socket' hs'
      by_cases hid : id' = id
      · subst hid
        rw [Mux.putPending_self] at hp''
        cases hp''
        cases hs'
      · rw [Mux.putPending_of_ne _ _ hid] at hp'' ⊢
        exact hp''
    have hquiet := hshut.quiet hfed ⟨rfl, fun _ q hq => ⟨q, hq, rfl, rfl, rfl⟩,
      fun _ hr _ => hr, fun id' q hq socket' hs' =>
        ⟨q, hclosed id' q hq socket' hs', hs', fun hopen => ⟨hopen, rfl⟩⟩⟩
    exact ⟨_, hquiet⟩
  · rw [heq]
    obtain ⟨peek, r, hpeek, hr, hlive, hid, hagent⟩ := feed_names hdecision
    have hbytes : bytes = w.had socket ++ chunk :=
      h.kept.feed_bytes ready (hlife opened) hdecision
    have hhad : (w.readSocket socket chunk).had socket = bytes := by
      rw [hbytes]
      exact Function.update_self ..
    rw [hs, ← hhad] at hsendable hwrote
    obtain ⟨g', hkept⟩ := hshut.handoff (t := agent) (p := { p with closing := true })
      (Mux.putPending_self ..) hs ha hroom hsendable (r := r) (hsame ▸ hr) hlive hagent
      ⟨peek, by dsimp only; rw [hhad]; exact hpeek, hid.symm⟩ hwrote
    refine ⟨g', ?_⟩
    rw [World.take]
    dsimp only
    rw [Mux.putAgent_self]
    dsimp only
    rw [hwrote.socket]
    dsimp only at hkept
    rw [Mux.putPending_putPending] at hkept
    exact hkept

/-- `ReadPending`, with what the kernel gives it. -/
lemma WorldKept.readPending (h : WorldKept machine w g) (id : Nat) (read : ReadAnswer)
    (answers : List WriteAnswer) (allowed : Allowed w (.mux (.readPending id read answers))) :
    ∃ g', WorldKept machine ((w.give (.readPending id read answers)).take
      (w.mux.handle machine.sessionIdOf (.readPending id read answers))) g' := by
  rw [Mux.handle]
  cases hopen : w.mux.pendingOpen id with
  | false =>
    cases read with
    | got chunk =>
      obtain ⟨-, hopened, -⟩ := allowed
      rw [hopen] at hopened
      cases hopened
    | wouldBlock => exact ⟨g, h⟩
    | failed => exact ⟨g, h⟩
  | true =>
    rw [if_pos rfl]
    unfold Mux.pendingOpen at hopen
    cases hp : w.mux.pending id with
    | none =>
      rw [hp] at hopen
      cases hopen
    | some p =>
      rw [hp, Option.any_some, Bool.not_eq_true'] at hopen
      obtain ⟨hsome, -⟩ := h.kept.waiting id p hp hopen
      obtain ⟨socket, hs⟩ := Option.isSome_iff_exists.mp hsome
      have hgive : ∀ chunk, w.give (.readPending id (.got chunk) answers) = w.readSocket socket chunk := by
        intro chunk
        rw [World.give, hp, Option.bind_some, hs]
      rcases Mux.readPending_cases hp read answers with ⟨hidle, heq⟩ | ⟨hends, heq⟩ | ⟨chunk, rfl, heq⟩
      · rw [heq]
        cases read with
        | got chunk =>
          rcases hidle with hroom | hblock
          · exact absurd hroom allowed.2.2.1
          · cases hblock
        | wouldBlock => exact ⟨g, h⟩
        | failed => exact ⟨g, h⟩
      · rw [heq]
        have hsame : w.give (.readPending id read answers) = w := by
          rcases hends with rfl | rfl
          · rfl
          · rw [hgive]
            simp only [World.readSocket, List.append_nil, List.length_nil, List.drop_zero,
              Function.update_eq_self]
        rw [hsame]
        obtain ⟨lives', hkept, hothers⟩ := h.kept.closePending hp
        have hregistrations : (w.mux.router.closed id).registrations = w.mux.router.registrations := by
          unfold MuxRouter.closed
          split <;> rfl
        exact ⟨_, h.quiet hkept ((Quiet.shutPending (q := { p with closing := true }) hp rfl
          (fun _ hs => hs) hothers).route hregistrations)⟩
      · rw [heq, hgive]
        obtain ⟨hready, -, -, hfront⟩ := allowed
        have hcoming : chunk <+: w.coming socket := by
          apply hfront
          rw [hp, Option.bind_some, hs]
          rfl
        exact h.decide hp hs hopen hcoming (Mux.room_of_ready hready) answers

/-- A link is accepted, or its mux's end is closed at once. -/
lemma WorldKept.acceptAgent (h : WorldKept machine w g) {link uid : Nat} {more : List (Nat × Nat)}
    (waits : w.backlog = (link, uid) :: more) : WorldKept machine { w with
      mux := w.mux.acceptAgent link uid
      backlog := more } g := by
  have hkept := h.kept.acceptAgent link uid
  obtain ⟨hnodup, hbelow⟩ := h.linked.backlog
  rw [waits] at hnodup hbelow
  rw [List.map_cons, List.nodup_cons] at hnodup
  have hmem : ∀ x ∈ more, x ∈ w.backlog := fun x hx => by
    rw [waits]
    exact List.mem_cons_of_mem _ hx
  have hfirst : (link, uid) ∈ w.backlog := by
    rw [waits]
    exact List.mem_cons_self
  -- The mux's agents are those it had, and the new one.
  have hagents : ∀ id p, (w.mux.acceptAgent link uid).agents id = some p →
      w.mux.agents id = some p ∨ (id = w.mux.nextToken ∧ p = ⟨link, uid, .empty, [], false⟩) := by
    intro id p hp
    unfold Mux.acceptAgent at hp
    split at hp
    · exact .inl hp
    · by_cases hid : id = w.mux.nextToken
      · rw [hid, Mux.putAgent_self] at hp
        cases hp
        exact .inr ⟨hid, rfl⟩
      · rw [Mux.putAgent_of_ne _ _ hid] at hp
        exact .inl hp
  have hframe : (w.mux.acceptAgent link uid).port = w.mux.port ∧
      (w.mux.acceptAgent link uid).router = w.mux.router ∧
      (w.mux.acceptAgent link uid).pending = w.mux.pending := by
    unfold Mux.acceptAgent
    split <;> exact ⟨rfl, rfl, rfl⟩
  obtain ⟨hport, hrouter, hpending⟩ := hframe
  constructor
  case port =>
    rw [hport]
    exact h.port
  case kept => exact hkept
  case linked =>
    refine ⟨h.linked.registration, h.linked.idle, h.linked.own, h.linked.only, ?_, hnodup.2,
      fun x hx => hbelow x (List.mem_cons_of_mem _ hx)⟩
    intro id p hp
    rcases hagents id p hp with hold | ⟨rfl, rfl⟩
    · obtain ⟨hlt, hout, hone⟩ := h.linked.peers id p hold
      refine ⟨hlt, fun uid' hx => hout uid' (hmem _ hx), ?_⟩
      intro id' p' hp' hsocket
      rcases hagents id' p' hp' with hold' | ⟨-, rfl⟩
      · exact hone id' p' hold' hsocket
      · rw [← hsocket] at hout
        exact absurd hfirst (hout uid)
    · refine ⟨hbelow _ List.mem_cons_self, ?_, ?_⟩
      · intro uid' hx
        exact hnodup.1 (List.mem_map.mpr ⟨_, hx, rfl⟩)
      · intro id' p' hp' hsocket
        rcases hagents id' p' hp' with hold' | ⟨hid, -⟩
        · obtain ⟨-, hout, -⟩ := h.linked.peers id' p' hold'
          rw [hsocket] at hout
          exact absurd hfirst (hout uid)
        · exact hid
  case placed =>
    refine ⟨h.placed.streams, h.placed.unborn, ?_, h.placed.handed, h.placed.once⟩
    intro id p socket hp
    dsimp only at hp
    rw [hpending] at hp
    exact h.placed.pending id p socket hp
  case line =>
    intro agent link' hlink
    refine (h.line agent link' hlink).mono ?_ ?_ fun _ _ hfair => hfair
    · rintro p (⟨id, hp, hsocket⟩ | ⟨uid', hx, rfl⟩)
      · rcases hagents id p hp with hold | ⟨-, rfl⟩
        · exact ⟨p, .inl ⟨id, hold, hsocket⟩, rfl, rfl⟩
        · rw [← hsocket]
          exact ⟨_, .inr ⟨uid, hfirst, rfl⟩, rfl, rfl⟩
      · exact ⟨_, .inr ⟨uid', hmem _ hx, rfl⟩, rfl, rfl⟩
    · rintro sid ⟨r, hr, hlive, hid, p, hp, hsocket⟩
      dsimp only at hr
      rw [hrouter] at hr
      refine ⟨r, hr, hlive, hid, p, ?_, hsocket⟩
      rcases hagents _ p hp with hold | ⟨hnew, -⟩
      · exact hold
      · -- Nobody holds a registration under a token that has not been given out.
        obtain ⟨b, hb, -⟩ := h.kept.registrant r hr hlive
        exact absurd (h.kept.below_of_agent hb) (by rw [hnew]; exact Nat.lt_irrefl _)

/-- A write to an agent keeps the world. -/
lemma WorldKept.writeAgent (h : WorldKept machine w g) (answers : List WriteAnswer) :
    ∃ g', WorldKept machine (w.take (w.mux.handle machine.sessionIdOf (.writeAgent token answers))) g' := by
  rw [Mux.handle]
  rcases w.mux.writeAgent_cases token answers with ⟨hnone, heq⟩ | ⟨a, a', stretch, ha, hwrote, heq⟩
  · rw [heq, World.take]
    dsimp only
    rw [hnone]
    exact ⟨g, h⟩
  · rw [heq, World.take]
    dsimp only
    rw [Mux.putAgent_self]
    dsimp only
    rw [hwrote.socket]
    exact ⟨_, h.wrote ha hwrote⟩

/-- An expiry is quiet to the connections that stay. -/
lemma Quiet.expire {m : Mux} {lives lives' : Nat → Option MuxLife} {now : Timestamp}
    (same : ∀ id p, (m.expire now).pending id = some p → p.closing = false → lives' id = lives id) :
    Quiet m (m.expire now) lives lives' := by
  obtain ⟨expired, r, hr, hcases⟩ := m.expire_cases now
  have hregistrations : r.registrations = m.router.registrations := by
    rw [← (m.router.expire_registrations now).1, hr]
  rcases hcases with ⟨heq, -⟩ | ⟨id, p, -, hp, heq⟩
  · rw [heq] at same ⊢
    exact ⟨rfl, fun _ q hq => ⟨q, hq, rfl, rfl, rfl⟩,
      fun _ hr' _ => hregistrations ▸ hr', fun id p' hp' socket hs =>
        ⟨p', hp', hs, fun hopen => ⟨hopen, same id p' hp' hopen⟩⟩⟩
  · rw [heq] at same ⊢
    refine ⟨rfl, fun _ q hq => ⟨q, hq, rfl, rfl, rfl⟩,
      fun _ hr' _ => hregistrations ▸ hr', fun id' p' hp' socket hs => ?_⟩
    by_cases hid : id' = id
    · subst hid
      rw [Mux.putPending_self] at hp'
      cases hp'
      exact ⟨p, hp, hs, fun hopen => (by cases hopen)⟩
    · have hsame := same id' p' hp'
      rw [Mux.putPending_of_ne _ _ hid] at hp'
      exact ⟨p', hp', hs, fun hopen => ⟨hopen, hsame hopen⟩⟩

/-- Whatever the mux does, and whatever the kernel gives it, what is kept is kept. -/
lemma WorldKept.mux (h : WorldKept machine w g) (event : MuxEvent) (allowed : Allowed w (.mux event)) :
    ∃ g', WorldKept machine ((w.give event).take (w.mux.handle machine.sessionIdOf event)) g' := by
  cases event with
  | acceptTcp socket address now =>
    obtain rfl : socket = w.nextSocket := allowed
    exact h.acceptTcp address now
  | acceptAgent socket uid =>
    have hhead : w.backlog.head? = some (socket, uid) := allowed
    obtain ⟨more, hmore⟩ := List.head?_eq_some_iff.mp hhead
    refine ⟨g, ?_⟩
    have hkept := h.acceptAgent hmore
    rw [World.give, hmore]
    exact hkept
  | readPending id read answers => exact h.readPending id read answers allowed
  | expire now =>
    obtain ⟨lives', hkept, hsame⟩ := h.kept.expire now
    exact ⟨_, h.quiet hkept (Quiet.expire fun id p hp hopen => (hsame id p hp hopen).2)⟩
  | readAgent id read answers => exact h.readAgent read answers allowed
  | writeAgent id answers => exact h.writeAgent answers
  | refuseWatch id => exact ⟨_, h.quiet (h.kept.refuseWatch id) (Quiet.refuseWatch w.mux id)⟩
  | endDecoy id =>
    exact ⟨_, h.quiet (h.kept.endDecoy id) ⟨rfl, fun _ q hq => ⟨q, hq, rfl, rfl, rfl⟩,
      fun _ hr _ => hr, fun _ p hp _ hs => ⟨p, hp, hs, fun hopen => ⟨hopen, rfl⟩⟩⟩⟩
  | dropClosed => exact ⟨_, h.quiet h.kept.dropClosed (Quiet.dropClosed w.mux)⟩

end Zet.Muxd
