import Zet.Lib.Run
import Zet.Session.MuxRouter

/-!
# The laws of the mux router

What holds of the router after any sequence of calls, by mutually distrusting users and peers. The
registrations and the waiting connections are kept apart: `Registered` is the invariant of the one
table and `Attended` of the other, and no call of one kind touches the other's.

A connection's history is watched beside the router (`MuxWatch`): what was fed under a number since it
was last accepted, and how it ended. `mux_router_laws` states the laws over every run.
-/

namespace Zet.Session
open Zet.Core Zet.Wire Zet.Lib

namespace MuxRouter

/-- The registration of a session id, wherever it is. -/
def claim (r : MuxRouter) (id : SessionId) : Option Registration := (r.held id).map Prod.snd

/-- What the table of registrations is, whatever was called. -/
structure Registered (r : MuxRouter) : Prop where
  table : r.registrations.length = maxMuxRegistrations
  distinct : Distinct Registration.live Registration.id r.registrations
  perUid : ∀ uid, r.registrations.countP (fun g => g.live && g.owner == uid) ≤ maxRegistrationsPerUid
  count : r.registrationCount = r.registrations.countP Registration.live

section
variable {r r' : MuxRouter} {id : SessionId} {g : Registration} {slot : Nat}

/-- The entry found for a session is a live one of it. -/
lemma held_eq_some (h : r.held id = some (slot, g)) :
    r.registrations[slot]? = some g ∧ g.live = true ∧ g.id = id := by
  obtain ⟨hslot, hg⟩ := findSlot_eq_some h
  rw [Bool.and_eq_true, beq_iff_eq] at hg
  exact ⟨hslot, hg⟩

/-- Where none is found, no live entry is of the session. -/
lemma held_eq_none (h : r.held id = none) (hg : g ∈ r.registrations) (live : g.live = true) :
    g.id ≠ id := by
  have hno := findSlot_eq_none h hg
  rw [live, Bool.true_and, beq_eq_false_iff_ne] at hno
  exact hno

/-- In a sound table the claim on an id is the live entry that has it. -/
lemma Registered.claim_iff (h : Registered r) :
    r.claim id = some g ↔ g ∈ r.registrations ∧ g.live = true ∧ g.id = id := by
  constructor
  · intro hclaim
    obtain ⟨⟨slot, g'⟩, hheld, rfl⟩ := Option.map_eq_some_iff.mp hclaim
    obtain ⟨hslot, hlive, hid⟩ := held_eq_some hheld
    exact ⟨List.mem_of_getElem? hslot, hlive, hid⟩
  · rintro ⟨hmem, hlive, rfl⟩
    cases hheld : r.held g.id with
    | none => exact absurd rfl (held_eq_none hheld hmem hlive)
    | some found =>
      obtain ⟨hslot, hlive', hid⟩ := held_eq_some hheld
      rw [claim, hheld, Option.map_some,
        h.distinct.eq_of_mem (List.mem_of_getElem? hslot) hmem hlive' hlive hid]

/-- A fresh table is sound. -/
lemma Registered.create (storage : Bytes) : Registered (create storage) where
  table := List.length_replicate
  distinct := by
    intro i j x y hx _ hlive _ _
    have := List.eq_of_mem_replicate (List.mem_of_getElem? hx)
    rw [this] at hlive
    cases hlive
  perUid := by
    intro uid
    simp [MuxRouter.create, List.countP_replicate, Registration.blank]
  count := by
    simp [MuxRouter.create, List.countP_replicate, Registration.blank]

variable {sessionIdOf : KeyBytes → SessionId} {agent uid : Nat} {registration : KeyBytes}

/-- What a successful `Register` did: it moved the claim of its own uid, or took a free slot. -/
lemma register_cases (h : r.register sessionIdOf agent uid registration = .ok r') :
    (∃ slot g, r.held (sessionIdOf registration) = some (slot, g) ∧ g.owner = uid ∧
      r' = { r with registrations := r.registrations.set slot { g with agent := agent } }) ∨
    (∃ slot g, r.held (sessionIdOf registration) = none ∧
      r.registrations.countP (fun g => g.live && g.owner == uid) < maxRegistrationsPerUid ∧
      r.registrations[slot]? = some g ∧ g.live = false ∧
      r' = { r with
        registrations := r.registrations.set slot ⟨sessionIdOf registration, agent, uid, true⟩
        registrationCount := r.registrationCount + 1 }) := by
  unfold register at h
  cases hheld : r.held (sessionIdOf registration) with
  | some found =>
    obtain ⟨slot, g⟩ := found
    simp only [hheld] at h
    split at h
    · cases h
    next howner =>
      cases h
      exact .inl ⟨slot, g, rfl, Decidable.not_not.mp howner, rfl⟩
  | none =>
    simp only [hheld] at h
    split at h
    · cases h
    next hlimit =>
      split at h
      · cases h
      next slot g hfree =>
        cases h
        obtain ⟨hslot, hdead⟩ := findSlot_eq_some hfree
        exact .inr ⟨slot, g, rfl, Nat.not_le.mp hlimit, hslot, by simpa using hdead, rfl⟩

/-- Replacing an entry by one with the same answer leaves a count alone. -/
lemma countP_set_same {p : Registration → Bool} {l : List Registration} {a : Registration}
    (hslot : l[slot]? = some g) (same : p a = p g) : (l.set slot a).countP p = l.countP p := by
  have := countP_set_add (p := p) (a := a) hslot
  rw [same] at this
  omega

/-- It stays so when an agent registers. -/
lemma Registered.register (h : Registered r)
    (hr : r.register sessionIdOf agent uid registration = .ok r') : Registered r' := by
  rcases register_cases hr with
    ⟨slot, g, hheld, howner, rfl⟩ | ⟨slot, g, hheld, hlimit, hslot, hdead, rfl⟩
  · obtain ⟨hslot, hlive, hid⟩ := held_eq_some hheld
    constructor
    case table => exact List.length_set.trans h.table
    case distinct =>
      apply h.distinct.set
      intro _ j y hy hlivey hkey
      exact h.distinct j slot y g hy hslot hlivey hlive hkey
    case perUid =>
      intro other
      rw [countP_set_same hslot (by rfl)]
      exact h.perUid other
    case count =>
      dsimp only
      rw [countP_set_same hslot (by rfl)]
      exact h.count
  · constructor
    case table => exact List.length_set.trans h.table
    case distinct =>
      apply h.distinct.set
      intro _ j y hy hlivey hkey
      exact absurd hkey (held_eq_none hheld (List.mem_of_getElem? hy) hlivey)
    case perUid =>
      intro other
      have hset := countP_set_add (p := fun g => g.live && g.owner == other)
        (a := ⟨sessionIdOf registration, agent, uid, true⟩) hslot
      have hother := h.perUid other
      simp only [hdead, Bool.false_and, Bool.toNat_false, Bool.true_and] at hset
      by_cases hsame : uid = other
      · subst hsame
        simp only [BEq.rfl, Bool.toNat_true] at hset
        dsimp only
        omega
      · simp only [beq_false_of_ne hsame, Bool.toNat_false] at hset
        dsimp only
        omega
    case count =>
      have hset := countP_set_add (p := Registration.live)
        (a := ⟨sessionIdOf registration, agent, uid, true⟩) hslot
      simp only [hdead, Bool.toNat_false, Bool.toNat_true] at hset
      have hcount := h.count
      dsimp only
      omega

/-- What `Unregister` leaves of an entry. -/
lemma unregistered_live {agent : Nat} {g : Registration}
    (h : (if heldBy agent g then Registration.blank else g).live = true) :
    heldBy agent g = false ∧ g.live = true := by
  split at h
  · cases h
  next hheld => exact ⟨Bool.eq_false_iff.mpr hheld, h⟩

/-- A count of live entries only, after `Unregister`. -/
lemma countP_unregister {p : Registration → Bool} (alive : ∀ g, p g = true → g.live = true)
    (l : List Registration) :
    (l.map fun g => if heldBy agent g then Registration.blank else g).countP p =
      l.countP fun g => p g && !heldBy agent g := by
  rw [List.countP_map]
  apply List.countP_congr
  intro g _
  have hblank : p Registration.blank = false := by
    cases hp : p Registration.blank with
    | false => rfl
    | true => cases alive _ hp
  cases hheld : heldBy agent g <;> simp [hheld, hblank]

/-- It does when one unregisters. -/
lemma Registered.unregister (h : Registered r) (agent : Nat) : Registered (r.unregister agent) where
  table := List.length_map .. |>.trans h.table
  distinct := by
    apply h.distinct.map
    intro g hlive
    obtain ⟨hnot, hlive'⟩ := unregistered_live hlive
    exact ⟨hlive', by rw [hnot]; rfl⟩
  perUid := by
    intro uid
    refine le_trans ?_ (h.perUid uid)
    change (r.registrations.map _).countP _ ≤ _
    rw [countP_unregister (fun g hg => (Bool.and_eq_true _ _ ▸ hg).1)]
    apply List.countP_mono_left
    intro g _ hg
    exact (Bool.and_eq_true _ _ ▸ hg).1
  count := by
    change r.registrationCount - r.registrations.countP (heldBy agent) =
      (r.registrations.map _).countP Registration.live
    rw [countP_unregister (fun g hg => hg), h.count]
    have hsplit : r.registrations.countP Registration.live =
        r.registrations.countP (fun g => g.live && !heldBy agent g) +
          r.registrations.countP (heldBy agent) := by
      induction r.registrations with
      | nil => rfl
      | cons g l ih =>
        simp only [List.countP_cons, ih]
        unfold heldBy
        cases g.live <;> cases (g.agent == agent) <;> simp <;> omega
    omega

/-- `Unregister` frees exactly the claims of its agent. -/
lemma Registered.claim_unregister (h : Registered r) (agent : Nat) (id : SessionId) :
    (r.unregister agent).claim id = (r.claim id).filter fun g => g.agent != agent := by
  apply Option.ext
  intro g
  rw [(h.unregister agent).claim_iff, Option.filter_eq_some_iff, h.claim_iff]
  constructor
  · rintro ⟨hmem, hlive, hid⟩
    obtain ⟨g', hmem', rfl⟩ := List.mem_map.mp hmem
    obtain ⟨hnot, hlive'⟩ := unregistered_live hlive
    rw [hnot] at hid ⊢
    refine ⟨⟨hmem', hlive', hid⟩, ?_⟩
    rw [heldBy, hlive', Bool.true_and] at hnot
    simp [bne, hnot]
  · rintro ⟨⟨hmem, hlive, hid⟩, hagent⟩
    have hnot : heldBy agent g = false := by
      rw [heldBy, hlive, Bool.true_and]
      simpa [bne] using hagent
    refine ⟨List.mem_map.mpr ⟨g, hmem, by rw [hnot]; rfl⟩, hlive, hid⟩

/-- Either way `Register` wrote one entry, over a free one or over the claim itself. -/
lemma register_entry (h : r.register sessionIdOf agent uid registration = .ok r') :
    ∃ slot g, r.registrations[slot]? = some g ∧
      (g.live = true → g.id = sessionIdOf registration) ∧
      r'.registrations = r.registrations.set slot ⟨sessionIdOf registration, agent, uid, true⟩ := by
  rcases register_cases h with ⟨slot, g, hheld, rfl, rfl⟩ | ⟨slot, g, _, _, hslot, hdead, rfl⟩
  · obtain ⟨hslot, hlive, hid⟩ := held_eq_some hheld
    exact ⟨slot, g, hslot, fun _ => hid, by rw [← hlive, ← hid]⟩
  · exact ⟨slot, g, hslot, fun hlive => absurd (hlive.symm.trans hdead) (by decide), rfl⟩

/-- `Register` gives the agent the claim, under its uid, and touches no other. -/
lemma Registered.claim_register (h : Registered r)
    (hr : r.register sessionIdOf agent uid registration = .ok r') (id : SessionId) :
    r'.claim id = if id = sessionIdOf registration then some ⟨id, agent, uid, true⟩
      else r.claim id := by
  obtain ⟨slot, g₀, hslot, hkey, hset⟩ := register_entry hr
  have hlength : slot < r.registrations.length := (List.getElem?_eq_some_iff.mp hslot).1
  apply Option.ext
  intro g
  rw [(h.register hr).claim_iff, hset]
  split
  next hid =>
    have hnew : (r.registrations.set slot ⟨sessionIdOf registration, agent, uid, true⟩)[slot]? =
        some ⟨id, agent, uid, true⟩ := by
      rw [List.getElem?_set_self hlength, hid]
    have hdistinct := (h.register hr).distinct
    rw [hset] at hdistinct
    constructor
    · rintro ⟨hmem, hlive, hg⟩
      rw [hdistinct.eq_of_mem hmem (List.mem_of_getElem? hnew) hlive rfl hg]
    · intro heq
      cases heq
      exact ⟨List.mem_of_getElem? hnew, rfl, rfl⟩
  next hid =>
    rw [h.claim_iff]
    constructor
    · rintro ⟨hmem, hlive, hg⟩
      rcases List.mem_or_eq_of_mem_set hmem with hold | rfl
      · exact ⟨hold, hlive, hg⟩
      · exact absurd hg.symm hid
    · rintro ⟨hmem, hlive, hg⟩
      have hne : g ≠ g₀ := by
        rintro rfl
        exact hid (hg.symm.trans (hkey hlive))
      exact ⟨mem_set_of_ne hslot hmem hne, hlive, hg⟩

end

end MuxRouter

/-- One call of the I/O layer. -/
inductive MuxCall where
  | register (agent uid : Nat) (registration : KeyBytes)
  | unregister (agent : Nat)
  | accept (connection : Nat) (address : PeerAddress) (now : Timestamp)
  | feed (connection : Nat) (bytes : Bytes)
  | closed (connection : Nat)
  | expire (now : Timestamp)
deriving DecidableEq, Repr

/-- How the router's interest in an accepted connection ended. -/
inductive MuxEnd where
  | handoff (agent : Nat) (bytes : Bytes)
  | decoy (bytes : Bytes)
  | closed (reason : MuxCloseReason)
  /-- The peer went away first. -/
  | gone
deriving DecidableEq, Repr

/-- The bytes handed on with a connection. -/
def MuxEnd.handed : MuxEnd → Option Bytes
  | .handoff _ bytes => some bytes
  | .decoy bytes => some bytes
  | .closed _ => none
  | .gone => none

/-- What a decision of `Feed` ends. An unknown number is no accepted connection. -/
def MuxDecision.ends : MuxDecision → List MuxEnd
  | .needMore => []
  | .handoff _ agent bytes => [.handoff agent bytes]
  | .decoy _ bytes => [.decoy bytes]
  | .close _ .unknown => []
  | .close _ reason => [.closed reason]

/-- What an accepted connection was fed, and its ends. -/
structure MuxLife where
  fed : Bytes
  ends : List MuxEnd
deriving DecidableEq, Repr

/-- The router, and for each number the connection last accepted under it. -/
structure MuxWatch where
  router : MuxRouter
  lives : Nat → Option MuxLife

/-- What happened to a connection is added to what is known of it. -/
def MuxWatch.note (s : MuxWatch) (connection : Nat) (fed : Bytes) (ends : List MuxEnd) :
    Nat → Option MuxLife :=
  Function.update s.lives connection
    ((s.lives connection).map fun life => ⟨life.fed ++ fed, life.ends ++ ends⟩)

/-- A router at the start. -/
def MuxWatch.create (storage : Bytes) : MuxWatch := ⟨MuxRouter.create storage, fun _ => none⟩

/-- One call. -/
def muxStep (sessionIdOf : KeyBytes → SessionId) (s : MuxWatch) : MuxCall → Option MuxWatch
  | .register agent uid registration =>
    match s.router.register sessionIdOf agent uid registration with
    | .error _ => some s
    | .ok router => some ⟨router, s.lives⟩
  | .unregister agent => some ⟨s.router.unregister agent, s.lives⟩
  | .accept connection address now =>
    match s.router.accept connection address now with
    | .error _ => some s
    | .ok router => some ⟨router, Function.update s.lives connection (some ⟨[], []⟩)⟩
  | .feed connection bytes =>
    let (decision, router) := s.router.feed connection bytes
    some ⟨router, s.note connection bytes decision.ends⟩
  | .closed connection =>
    let ends := if (s.router.findWaiting connection).isSome then [MuxEnd.gone] else []
    some ⟨s.router.closed connection, s.note connection [] ends⟩
  | .expire now =>
    match s.router.expire now with
    | (none, router) => some ⟨router, s.lives⟩
    | (some connection, router) =>
      some ⟨router, s.note connection [] [.closed .expired]⟩

/-- A chunk is no larger than `Room`. -/
def MuxAdmissible (s : MuxWatch) : MuxCall → Prop
  | .feed connection bytes => bytes.length ≤ s.router.room connection
  | _ => True

/-- What a waiting connection's slot and buffer hold. -/
structure Seated (s : MuxWatch) (slot : Nat) (w : Waiting) : Prop where
  usable : slot < s.router.slots
  short : w.length ≤ muxPendingBuffer
  life : ∃ fed, s.lives w.connection = some ⟨fed, []⟩ ∧ fed.length = w.length ∧
    (s.router.bufferOf slot).take w.length = fed

/-- What the table of waiting connections is, whatever was called. -/
structure Attended (s : MuxWatch) : Prop where
  table : s.router.waiting.length = maxPendingConnections
  distinct : Distinct Waiting.live Waiting.connection s.router.waiting
  perAddress : ∀ address,
    s.router.waiting.countP (fun w => w.live && w.address == address) ≤ maxPendingPerAddress
  count : s.router.pendingCount = s.router.waiting.countP Waiting.live
  fits : s.router.slots * muxPendingBuffer ≤ s.router.storage.length
  seated : ∀ slot w, s.router.waiting[slot]? = some w → w.live = true → Seated s slot w
  /-- A connection that is no longer waiting has ended, once, with all it was fed. -/
  finished : ∀ connection life, s.lives connection = some life →
    (∃ w ∈ s.router.waiting, w.live = true ∧ w.connection = connection) ∨
      ∃ e, life.ends = [e] ∧ ∀ bytes, e.handed = some bytes → bytes = life.fed

section
variable {s : MuxWatch} {r : MuxRouter} {connection slot : Nat} {w : Waiting} {bytes : Bytes}

/-- The entry found for a connection is a live one of it. -/
lemma MuxRouter.findWaiting_eq_some (h : r.findWaiting connection = some (slot, w)) :
    r.waiting[slot]? = some w ∧ w.live = true ∧ w.connection = connection := by
  obtain ⟨hslot, hw⟩ := findSlot_eq_some h
  rw [Bool.and_eq_true, beq_iff_eq] at hw
  exact ⟨hslot, hw⟩

/-- Where none is found, no live entry is of the connection. -/
lemma MuxRouter.findWaiting_eq_none (h : r.findWaiting connection = none) (hw : w ∈ r.waiting)
    (live : w.live = true) : w.connection ≠ connection := by
  have hno := findSlot_eq_none h hw
  rw [live, Bool.true_and, beq_eq_false_iff_ne] at hno
  exact hno

/-- What is noted of a connection goes to its life. -/
@[simp] lemma MuxWatch.note_self (s : MuxWatch) (fed : Bytes) (ends : List MuxEnd) :
    s.note connection fed ends connection =
      (s.lives connection).map fun life => ⟨life.fed ++ fed, life.ends ++ ends⟩ := by
  simp [MuxWatch.note]

/-- Every other is as it was. -/
lemma MuxWatch.note_of_ne (s : MuxWatch) (fed : Bytes) (ends : List MuxEnd) {other : Nat}
    (hne : other ≠ connection) : s.note connection fed ends other = s.lives other := by
  simp [MuxWatch.note, hne]

/-- What is noted of a connection in two steps is noted in one. -/
lemma MuxWatch.note_note (s : MuxWatch) (r : MuxRouter) (bytes fed : Bytes) (e ends : List MuxEnd) :
    MuxWatch.note ⟨r, s.note connection bytes e⟩ connection fed ends =
      s.note connection (bytes ++ fed) (e ++ ends) := by
  funext other
  by_cases hother : other = connection
  · subst hother
    simp only [note_self]
    cases s.lives other with
    | none => rfl
    | some life => simp
  · rw [note_of_ne _ _ _ hother, note_of_ne _ _ _ hother]
    exact note_of_ne _ _ _ hother

/-- Noting nothing changes nothing. -/
lemma MuxWatch.note_nil (s : MuxWatch) : s.note connection [] [] = s.lives := by
  funext other
  by_cases hother : other = connection
  · subst hother
    simp only [note_self]
    cases s.lives other with
    | none => rfl
    | some life => simp
  · exact note_of_ne _ _ _ hother

/-- A fresh router attends to nothing. -/
lemma Attended.create (storage : Bytes) : Attended (MuxWatch.create storage) where
  table := List.length_replicate
  distinct := by
    intro i j x y hx _ hlive _ _
    rw [List.eq_of_mem_replicate (List.mem_of_getElem? hx)] at hlive
    cases hlive
  perAddress := by
    intro address
    simp [MuxWatch.create, MuxRouter.create, List.countP_replicate, Waiting.blank]
  count := by
    simp [MuxWatch.create, MuxRouter.create, List.countP_replicate, Waiting.blank]
  fits := by
    have hslots : min maxPendingConnections (storage.length / muxPendingBuffer) * muxPendingBuffer ≤
        storage.length / muxPendingBuffer * muxPendingBuffer :=
      Nat.mul_le_mul_right _ (Nat.min_le_right _ _)
    exact hslots.trans (Nat.div_mul_le_self _ _)
  seated := by
    intro slot w hw hlive
    rw [List.eq_of_mem_replicate (List.mem_of_getElem? hw)] at hlive
    cases hlive
  finished := by
    intro connection life hlife
    cases hlife

/-- A live entry elsewhere is another connection. -/
lemma Attended.connection_ne (h : Attended s) {other : Nat} {w' : Waiting}
    (hw : s.router.waiting[slot]? = some w) (hw' : s.router.waiting[other]? = some w')
    (live : w.live = true) (live' : w'.live = true) (hne : other ≠ slot) :
    w'.connection ≠ w.connection :=
  fun heq => hne (h.distinct other slot w' w hw' hw live' live heq)

/-- A waiting connection is released, with its one end. -/
lemma Attended.release (h : Attended s) (hw : s.router.waiting[slot]? = some w)
    (live : w.live = true) {e : MuxEnd}
    (handed : ∀ bytes, e.handed = some bytes → (s.router.bufferOf slot).take w.length = bytes) :
    Attended ⟨s.router.release slot w, s.note w.connection [] [e]⟩ := by
  obtain ⟨fed, hlife, -, hfed⟩ := (h.seated slot w hw live).life
  constructor
  case table => exact List.length_set.trans h.table
  case distinct =>
    apply h.distinct.set
    intro hlive
    cases hlive
  case perAddress =>
    intro address
    have hset := countP_set_add (p := fun w => w.live && w.address == address)
      (a := { w with live := false }) hw
    have hold := h.perAddress address
    simp only [Bool.false_and, Bool.toNat_false] at hset
    change (s.router.waiting.set slot { w with live := false }).countP _ ≤ _
    omega
  case count =>
    have hset := countP_set_add (p := Waiting.live) (a := { w with live := false }) hw
    have hold := h.count
    simp only [live, Bool.toNat_false, Bool.toNat_true] at hset
    change s.router.pendingCount - 1 =
      (s.router.waiting.set slot { w with live := false }).countP Waiting.live
    omega
  case fits => exact h.fits
  case seated =>
    intro other w' hw' live'
    rw [MuxRouter.release, List.getElem?_set] at hw'
    split at hw'
    · split at hw'
      · cases hw'
        cases live'
      · cases hw'
    next hne =>
      have hseat := h.seated other w' hw' live'
      refine ⟨hseat.usable, hseat.short, ?_⟩
      dsimp only
      rw [MuxWatch.note_of_ne _ _ _ (h.connection_ne hw hw' live live' (Ne.symm hne))]
      exact hseat.life
  case finished =>
    intro connection life hconnection
    by_cases hsame : connection = w.connection
    · subst hsame
      simp only [MuxWatch.note_self, hlife, Option.map_some, Option.some.injEq] at hconnection
      subst hconnection
      refine .inr ⟨e, rfl, ?_⟩
      intro bytes hbytes
      simp [← handed bytes hbytes, hfed]
    · simp only [MuxWatch.note_of_ne _ _ _ hsame] at hconnection
      rcases h.finished connection life hconnection with ⟨w', hmem, live', hw'⟩ | hended
      · have hne : w' ≠ w := fun heq => hsame (by rw [← hw', heq])
        exact .inl ⟨w', mem_set_of_ne hw hmem hne, live', hw'⟩
      · exact .inr hended

/-- What a successful `Accept` did: it seated an unknown connection in a free slot. -/
lemma MuxRouter.accept_cases {address : PeerAddress} {now : Timestamp} {r' : MuxRouter}
    (h : r.accept connection address now = .ok r') : ∃ slot w new,
    r.findWaiting connection = none ∧
    r.waiting.countP (fun w => w.live && w.address == address) < maxPendingPerAddress ∧
    r.waiting[slot]? = some w ∧ w.live = false ∧ slot < r.slots ∧
    new.connection = connection ∧ new.address = address ∧ new.length = 0 ∧ new.live = true ∧
    r' = { r with waiting := r.waiting.set slot new, pendingCount := r.pendingCount + 1 } := by
  unfold MuxRouter.accept at h
  split at h
  · cases h
  next hfresh =>
    rw [Option.not_isSome_iff_eq_none] at hfresh
    split at h
    · cases h
    next hlimit =>
      split at h
      · cases h
      next slot w hfree =>
        cases h
        obtain ⟨hfound, hdead⟩ := findSlot_eq_some hfree
        have husable : slot < r.slots := by
          have := (List.getElem?_eq_some_iff.mp hfound).1
          rw [List.length_take] at this
          omega
        rw [List.getElem?_take_of_lt husable] at hfound
        rw [Bool.not_eq_true'] at hdead
        exact ⟨slot, w, _, hfresh, Nat.not_le.mp hlimit, hfound, hdead, husable, rfl, rfl, rfl, rfl,
          rfl⟩

/-- A connection is accepted into a free slot. -/
lemma Attended.accept (h : Attended s) {address : PeerAddress} {now : Timestamp} {r' : MuxRouter}
    (hr : s.router.accept connection address now = .ok r') :
    Attended ⟨r', Function.update s.lives connection (some ⟨[], []⟩)⟩ := by
  obtain ⟨slot, w, new, hfresh, hlimit, hfound, hdead, husable, rfl, rfl, hempty, hlive, rfl⟩ :=
    MuxRouter.accept_cases hr
  have hslot : (s.router.waiting.set slot new)[slot]? = some new :=
    List.getElem?_set_self (List.getElem?_eq_some_iff.mp hfound).1
  constructor
  case table => exact List.length_set.trans h.table
  case distinct =>
    apply h.distinct.set
    intro _ j y hy hlivey hkey
    -- a connection that waits already is not accepted again
    exact absurd hkey (MuxRouter.findWaiting_eq_none hfresh (List.mem_of_getElem? hy) hlivey)
  case perAddress =>
    intro other
    have hset := countP_set_add (p := fun w => w.live && w.address == other) (a := new) hfound
    have hold := h.perAddress other
    simp only [hdead, Bool.false_and, Bool.toNat_false, hlive, Bool.true_and] at hset
    dsimp only
    by_cases hsame : new.address = other
    · subst hsame
      simp only [BEq.rfl, Bool.toNat_true] at hset
      omega
    · simp only [beq_false_of_ne hsame, Bool.toNat_false] at hset
      omega
  case count =>
    have hset := countP_set_add (p := Waiting.live) (a := new) hfound
    have hold := h.count
    simp only [hdead, hlive, Bool.toNat_false, Bool.toNat_true] at hset
    dsimp only
    omega
  case fits => exact h.fits
  case seated =>
    intro other w' hw' live'
    dsimp only at hw'
    by_cases hne : slot = other
    · subst hne
      rw [hslot] at hw'
      cases hw'
      exact ⟨husable, by omega, [], by simp, hempty.symm, by simp [hempty]⟩
    · rw [List.getElem?_set_ne hne] at hw'
      have hseat := h.seated other w' hw' live'
      have hother := MuxRouter.findWaiting_eq_none hfresh (List.mem_of_getElem? hw') live'
      refine ⟨hseat.usable, hseat.short, ?_⟩
      simp only [Function.update_of_ne hother]
      exact hseat.life
  case finished =>
    intro other life hlife
    by_cases hsame : other = new.connection
    · exact .inl ⟨new, List.mem_of_getElem? hslot, hlive, hsame.symm⟩
    · simp only [Function.update_of_ne hsame] at hlife
      rcases h.finished other life hlife with ⟨w', hmem, live', hw'⟩ | hended
      · have hne : w' ≠ w := by
          rintro rfl
          exact absurd (live'.symm.trans hdead) (by decide)
        exact .inl ⟨w', mem_set_of_ne hfound hmem hne, live', hw'⟩
      · exact .inr hended

/-- Within the room, `Feed` copies all it is given. -/
lemma Attended.take_eq (h : Attended s) (hw : s.router.waiting[slot]? = some w)
    (live : w.live = true) (room : bytes.length ≤ muxPendingBuffer - w.length) :
    s.router.take slot w bytes =
      ({ s.router with
          storage := copyAt s.router.storage (slot * muxPendingBuffer + w.length) bytes
          waiting := s.router.waiting.set slot { w with length := w.length + bytes.length } },
        { w with length := w.length + bytes.length }) := by
  have hlength : (s.router.bufferOf slot).length = muxPendingBuffer :=
    length_window (h.seated slot w hw live).usable h.fits
  have htaken : min ((s.router.bufferOf slot).length - w.length) bytes.length = bytes.length := by
    rw [hlength, Nat.min_eq_right room]
  simp only [MuxRouter.take, htaken, List.take_length]

/-- A chunk within the room goes behind what the connection was fed before. -/
lemma Attended.take (h : Attended s) (hw : s.router.waiting[slot]? = some w)
    (live : w.live = true) (room : bytes.length ≤ muxPendingBuffer - w.length) :
    Attended ⟨(s.router.take slot w bytes).1, s.note w.connection bytes []⟩ := by
  have hseat := h.seated slot w hw live
  obtain ⟨fed, hlife, hlength, hfed⟩ := hseat.life
  have hnext := hseat.short
  -- the bytes land in the slot's own piece of the storage
  have hinside : slot * muxPendingBuffer + w.length + bytes.length ≤ s.router.storage.length := by
    have hrows := Nat.mul_le_mul_right muxPendingBuffer hseat.usable
    have hfits := h.fits
    rw [Nat.succ_mul] at hrows
    omega
  rw [h.take_eq hw live room]
  constructor
  case table => exact List.length_set.trans h.table
  case distinct =>
    apply h.distinct.set
    intro _ j y hy hlive hkey
    exact h.distinct j slot y w hy hw hlive live hkey
  case perAddress =>
    intro address
    have hset := countP_set_add (p := fun w => w.live && w.address == address)
      (a := { w with length := w.length + bytes.length }) hw
    have hold := h.perAddress address
    dsimp only at hset ⊢
    omega
  case count =>
    have hset := countP_set_add (p := Waiting.live)
      (a := { w with length := w.length + bytes.length }) hw
    have hold := h.count
    dsimp only at hset ⊢
    omega
  case fits =>
    dsimp only
    rw [length_copyAt hinside]
    exact h.fits
  case seated =>
    intro other w' hw' live'
    dsimp only at hw'
    by_cases hne : slot = other
    · subst hne
      rw [List.getElem?_set_self (List.getElem?_eq_some_iff.mp hw).1] at hw'
      cases hw'
      refine ⟨hseat.usable, by dsimp only; omega, fed ++ bytes, by simp [hlife], by simp [hlength], ?_⟩
      have hcopy := @take_window_copyAt _ s.router.storage bytes muxPendingBuffer slot s.router.slots
        w.length hseat.usable h.fits (by omega)
      exact hcopy.trans (by rw [← hfed]; rfl)
    · rw [List.getElem?_set_ne hne] at hw'
      have hseat' := h.seated other w' hw' live'
      refine ⟨hseat'.usable, hseat'.short, ?_⟩
      dsimp only
      rw [MuxWatch.note_of_ne _ _ _ (h.connection_ne hw hw' live live' (Ne.symm hne)),
        MuxRouter.bufferOf, window_copyAt_of_ne (Ne.symm hne) (by omega) hinside]
      exact hseat'.life
  case finished =>
    intro connection life hconnection
    by_cases hsame : connection = w.connection
    · exact .inl ⟨_, List.mem_of_getElem? (List.getElem?_set_self (List.getElem?_eq_some_iff.mp hw).1),
        live, hsame.symm⟩
    · simp only [MuxWatch.note_of_ne _ _ _ hsame] at hconnection
      rcases h.finished connection life hconnection with ⟨w', hmem, live', hw'⟩ | hended
      · have hne : w' ≠ w := fun heq => hsame (by rw [← hw', heq])
        exact .inl ⟨w', mem_set_of_ne hw hmem hne, live', hw'⟩
      · exact .inr hended

/-- What `Feed` is within the room: nothing for an unknown number, else the copy, and a release
unless more is needed. -/
lemma MuxRouter.feed_cases (r : MuxRouter) (connection : Nat) (bytes : Bytes) :
    (r.findWaiting connection = none ∧ r.feed connection bytes = (.close connection .unknown, r)) ∨
    ∃ slot w, r.findWaiting connection = some (slot, w) ∧
      ((r.feed connection bytes = (.needMore, (r.take slot w bytes).1)) ∨
        ∃ e, (r.feed connection bytes).1.ends = [e] ∧
          (r.feed connection bytes).2 =
            (r.take slot w bytes).1.release slot (r.take slot w bytes).2 ∧
          ∀ handed, e.handed = some handed →
            ((r.take slot w bytes).1.bufferOf slot).take (r.take slot w bytes).2.length = handed) := by
  unfold MuxRouter.feed
  cases hfind : r.findWaiting connection with
  | none => exact .inl ⟨rfl, rfl⟩
  | some found =>
    obtain ⟨slot, w⟩ := found
    refine .inr ⟨slot, w, rfl, ?_⟩
    dsimp only
    split
    · split
      · exact .inl rfl
      · exact .inr ⟨.closed .malformed, rfl, rfl, fun _ hhanded => (by cases hhanded)⟩
    · split
      next agent _ => exact .inr ⟨.handoff agent _, rfl, rfl, fun _ hhanded => Option.some.inj hhanded⟩
      · exact .inr ⟨.decoy _, rfl, rfl, fun _ hhanded => Option.some.inj hhanded⟩

/-- It attends to what a connection is fed. -/
lemma Attended.feed (h : Attended s) (room : bytes.length ≤ s.router.room connection) :
    Attended ⟨(s.router.feed connection bytes).2,
      s.note connection bytes (s.router.feed connection bytes).1.ends⟩ := by
  unfold MuxRouter.room at room
  rcases s.router.feed_cases connection bytes with ⟨hfind, hfeed⟩ | ⟨slot, w, hfind, hfeed⟩
  · rw [hfind, Nat.le_zero, List.length_eq_zero_iff] at room
    subst room
    rw [hfeed]
    change Attended ⟨s.router, s.note connection [] []⟩
    rw [MuxWatch.note_nil]
    exact h
  · rw [hfind] at room
    obtain ⟨hw, live, rfl⟩ := MuxRouter.findWaiting_eq_some hfind
    have htaken := h.take hw live room
    rcases hfeed with hmore | ⟨e, hends, hrouter, hhanded⟩
    · rw [hmore]
      exact htaken
    · have hw' : (s.router.take slot w bytes).1.waiting[slot]? =
          some (s.router.take slot w bytes).2 := by
        rw [h.take_eq hw live room]
        exact List.getElem?_set_self (List.getElem?_eq_some_iff.mp hw).1
      have hconnection : (s.router.take slot w bytes).2.connection = w.connection := by
        rw [h.take_eq hw live room]
      have hlive' : (s.router.take slot w bytes).2.live = true := by
        rw [h.take_eq hw live room]
        exact live
      have hreleased := htaken.release hw' hlive' hhanded
      rw [hconnection, MuxWatch.note_note, List.append_nil, List.nil_append] at hreleased
      rw [hrouter, hends]
      exact hreleased

/-- It attends to a connection that closed. -/
lemma Attended.closed (h : Attended s) (connection : Nat) :
    Attended ⟨s.router.closed connection, s.note connection []
      (if (s.router.findWaiting connection).isSome then [MuxEnd.gone] else [])⟩ := by
  unfold MuxRouter.closed
  cases hfind : s.router.findWaiting connection with
  | none =>
    simp only [Option.isSome_none, Bool.false_eq_true, if_false]
    rw [MuxWatch.note_nil]
    exact h
  | some found =>
    obtain ⟨slot, w⟩ := found
    obtain ⟨hw, live, rfl⟩ := MuxRouter.findWaiting_eq_some hfind
    exact h.release hw live fun _ hhanded => (by cases hhanded)

/-- It attends to one that took too long. -/
lemma Attended.expire (h : Attended s) {now : Timestamp} {expired : Option Nat} {r : MuxRouter}
    (hr : s.router.expire now = (expired, r)) :
    Attended ⟨r, match expired with
      | none => s.lives
      | some connection => s.note connection [] [.closed .expired]⟩ := by
  unfold MuxRouter.expire at hr
  split at hr
  · cases hr
    exact h
  next slot w hdue =>
    cases hr
    obtain ⟨hw, hlive⟩ := findSlot_eq_some hdue
    rw [Bool.and_eq_true] at hlive
    exact h.release hw hlive.1 fun _ hhanded => (by cases hhanded)

end

/-- What holds of the router and the connections it was given, whatever was called. -/
structure MuxSound (s : MuxWatch) : Prop where
  registered : s.router.Registered
  attended : Attended s

variable {sessionIdOf : KeyBytes → SessionId} {s t : MuxWatch} {call : MuxCall}

/-- Registrations depend on nothing the connections change. -/
lemma MuxRouter.Registered.congr {r r' : MuxRouter} (h : r.Registered)
    (hregistrations : r'.registrations = r.registrations)
    (hcount : r'.registrationCount = r.registrationCount) : r'.Registered where
  table := by rw [hregistrations]; exact h.table
  distinct := by rw [hregistrations]; exact h.distinct
  perUid := by rw [hregistrations]; exact h.perUid
  count := by rw [hregistrations, hcount]; exact h.count

/-- Waiting connections depend on nothing the registrations change. -/
lemma Attended.congr {r : MuxRouter} (h : Attended s) (hwaiting : r.waiting = s.router.waiting)
    (hpending : r.pendingCount = s.router.pendingCount) (hslots : r.slots = s.router.slots)
    (hstorage : r.storage = s.router.storage) : Attended ⟨r, s.lives⟩ where
  table := by rw [hwaiting]; exact h.table
  distinct := by rw [hwaiting]; exact h.distinct
  perAddress := by rw [hwaiting]; exact h.perAddress
  count := by rw [hwaiting, hpending]; exact h.count
  fits := by rw [hslots, hstorage]; exact h.fits
  seated := by
    intro slot w hw live
    rw [hwaiting] at hw
    have hseat := h.seated slot w hw live
    refine ⟨by rw [hslots]; exact hseat.usable, hseat.short, ?_⟩
    rw [MuxRouter.bufferOf, hstorage]
    exact hseat.life
  finished := by rw [hwaiting]; exact h.finished

/-- A connection's calls leave the registrations alone. -/
lemma MuxRouter.feed_registrations (r : MuxRouter) (connection : Nat) (bytes : Bytes) :
    (r.feed connection bytes).2.registrations = r.registrations ∧
      (r.feed connection bytes).2.registrationCount = r.registrationCount := by
  rcases r.feed_cases connection bytes with ⟨-, hfeed⟩ | ⟨slot, w, -, hfeed | ⟨e, -, hfeed, -⟩⟩
  · rw [hfeed]
    exact ⟨rfl, rfl⟩
  · rw [hfeed]
    exact ⟨rfl, rfl⟩
  · rw [hfeed]
    exact ⟨rfl, rfl⟩

/-- Connections that took too long are no registrations. -/
lemma MuxRouter.expire_registrations (r : MuxRouter) (now : Timestamp) :
    (r.expire now).2.registrations = r.registrations ∧
      (r.expire now).2.registrationCount = r.registrationCount := by
  unfold MuxRouter.expire
  split <;> exact ⟨rfl, rfl⟩

/-- What one call does to the registrations. -/
lemma muxStep_registrations (h : muxStep sessionIdOf s call = some t) :
    (∃ agent uid registration,
      s.router.register sessionIdOf agent uid registration = .ok t.router) ∨
    (∃ agent, t.router = s.router.unregister agent) ∨
    (t.router.registrations = s.router.registrations ∧
      t.router.registrationCount = s.router.registrationCount) := by
  cases call with
  | register agent uid registration =>
    simp only [muxStep] at h
    split at h
    · cases h
      exact .inr (.inr ⟨rfl, rfl⟩)
    next router hrouter =>
      cases h
      exact .inl ⟨agent, uid, registration, hrouter⟩
  | unregister agent =>
    cases h
    exact .inr (.inl ⟨agent, rfl⟩)
  | accept connection address now =>
    simp only [muxStep] at h
    split at h
    · cases h
      exact .inr (.inr ⟨rfl, rfl⟩)
    next router hrouter =>
      cases h
      obtain ⟨_, _, _, _, _, _, _, _, _, _, _, _, rfl⟩ := MuxRouter.accept_cases hrouter
      exact .inr (.inr ⟨rfl, rfl⟩)
  | feed connection bytes =>
    cases h
    exact .inr (.inr (s.router.feed_registrations connection bytes))
  | closed connection =>
    cases h
    refine .inr (.inr ?_)
    unfold MuxRouter.closed
    split <;> exact ⟨rfl, rfl⟩
  | expire now =>
    have hexpire := s.router.expire_registrations now
    simp only [muxStep] at h
    refine .inr (.inr ?_)
    split at h
    next heq =>
      cases h
      rw [heq] at hexpire
      exact hexpire
    next heq =>
      cases h
      rw [heq] at hexpire
      exact hexpire

/-- Every call keeps the router sound. -/
lemma MuxSound.step (h : MuxSound s) (ok : MuxAdmissible s call)
    (hstep : muxStep sessionIdOf s call = some t) : MuxSound t := by
  constructor
  case registered =>
    rcases muxStep_registrations hstep with
      ⟨_, _, _, hregister⟩ | ⟨agent, hunregister⟩ | ⟨hregistrations, hcount⟩
    · exact h.registered.register hregister
    · rw [hunregister]
      exact h.registered.unregister agent
    · exact h.registered.congr hregistrations hcount
  case attended =>
    cases call with
    | register agent uid registration =>
      simp only [muxStep] at hstep
      split at hstep
      · cases hstep
        exact h.attended
      next router hrouter =>
        cases hstep
        rcases MuxRouter.register_cases hrouter with ⟨_, _, _, _, rfl⟩ | ⟨_, _, _, _, _, _, rfl⟩
        · exact h.attended.congr rfl rfl rfl rfl
        · exact h.attended.congr rfl rfl rfl rfl
    | unregister agent =>
      cases hstep
      exact h.attended.congr rfl rfl rfl rfl
    | accept connection address now =>
      simp only [muxStep] at hstep
      split at hstep
      · cases hstep
        exact h.attended
      next router hrouter =>
        cases hstep
        exact h.attended.accept hrouter
    | feed connection bytes =>
      cases hstep
      exact h.attended.feed ok
    | closed connection =>
      cases hstep
      exact h.attended.closed connection
    | expire now =>
      simp only [muxStep] at hstep
      split at hstep
      next router hexpire =>
        cases hstep
        exact h.attended.expire hexpire
      next connection router hexpire =>
        cases hstep
        exact h.attended.expire hexpire

/-- While an id is claimed, no call changes whose claim it is. -/
lemma MuxSound.owner_step (h : MuxSound s) (hstep : muxStep sessionIdOf s call = some t)
    {id : SessionId} {g g' : Registration} (hg : s.router.claim id = some g)
    (hg' : t.router.claim id = some g') : g'.owner = g.owner := by
  rcases muxStep_registrations hstep with
    ⟨agent, uid, registration, hregister⟩ | ⟨agent, hunregister⟩ | ⟨hregistrations, -⟩
  · rw [h.registered.claim_register hregister] at hg'
    split at hg'
    next hid =>
      cases hg'
      -- The claim that was there is the one that was moved, and moved only for its own uid.
      obtain ⟨⟨slot, g₀⟩, hheld, hg₀⟩ := Option.map_eq_some_iff.mp hg
      rw [hid] at hheld
      rcases MuxRouter.register_cases hregister with ⟨_, g₁, hheld', howner, -⟩ | ⟨_, _, hnone, -⟩
      · rw [hheld] at hheld'
        cases hheld'
        exact (by rw [← hg₀]; exact howner.symm)
      · rw [hheld] at hnone
        cases hnone
    next => rw [Option.some.inj (hg'.symm.trans hg)]
  · rw [hunregister, h.registered.claim_unregister, hg] at hg'
    obtain ⟨hsome, -⟩ := Option.filter_eq_some_iff.mp hg'
    rw [Option.some.inj hsome]
  · have hsame : t.router.claim id = s.router.claim id := by
      rw [MuxRouter.claim, MuxRouter.claim, MuxRouter.held, MuxRouter.held, hregistrations]
    rw [hsame, hg] at hg'
    rw [Option.some.inj hg']

/-- The laws of the router in a state it can be in. -/
structure MuxLaws (sessionIdOf : KeyBytes → SessionId) (s : MuxWatch) : Prop where
  /-- At most one live registration per session id. -/
  single : ∀ id, s.router.registrations.countP (fun g => g.live && g.id == id) ≤ 1
  /-- It is what the router finds under the id. -/
  claimed : ∀ id g, s.router.claim id = some g ↔
    g ∈ s.router.registrations ∧ g.live = true ∧ g.id = id
  /-- Its owner stays the same for as long as it is live. -/
  owner : ∀ id g g' calls t, Run (muxStep sessionIdOf)
    (fun u call => MuxAdmissible u call ∧ (u.router.claim id).isSome = true) s calls t →
    s.router.claim id = some g → t.router.claim id = some g' → g'.owner = g.owner
  perUid : ∀ uid,
    s.router.registrations.countP (fun g => g.live && g.owner == uid) ≤ maxRegistrationsPerUid
  registrationCount : s.router.registrationCount = s.router.registrations.countP Registration.live
  pendingCount : s.router.pendingCount = s.router.waiting.countP Waiting.live
  /-- A registration gives its id to the agent, and no other id. -/
  register : ∀ agent uid registration r,
    s.router.register sessionIdOf agent uid registration = .ok r → ∀ id, r.claim id =
      if id = sessionIdOf registration then some ⟨id, agent, uid, true⟩ else s.router.claim id
  /-- An agent that goes frees the ids it holds, and no others. -/
  unregister : ∀ agent id, (s.router.unregister agent).claim id =
    (s.router.claim id).filter fun g => g.agent != agent
  perAddress : ∀ address,
    s.router.waiting.countP (fun w => w.live && w.address == address) ≤ maxPendingPerAddress
  /-- An accepted connection ends at most once, handed on with all that it was fed. -/
  ends : ∀ connection life, s.lives connection = some life → life.ends.length ≤ 1 ∧
    ∀ e ∈ life.ends, ∀ bytes, e.handed = some bytes → bytes = life.fed
  /-- Once it has ended its number is unknown, until it is given out again. -/
  ended : ∀ connection life, s.lives connection = some life → life.ends ≠ [] → ∀ bytes,
    s.router.feed connection bytes = (.close connection .unknown, s.router)

/-- A connection that has ended is not waiting. -/
lemma Attended.findWaiting_of_ended (h : Attended s) {connection : Nat} {life : MuxLife}
    (hlife : s.lives connection = some life) (hended : life.ends ≠ []) :
    s.router.findWaiting connection = none := by
  cases hfind : s.router.findWaiting connection with
  | none => rfl
  | some found =>
    obtain ⟨slot, w⟩ := found
    obtain ⟨hw, live, rfl⟩ := MuxRouter.findWaiting_eq_some hfind
    obtain ⟨fed, hfed, -⟩ := (h.seated slot w hw live).life
    rw [hlife] at hfed
    cases hfed
    exact absurd rfl hended

/-- A connection ends once, with what it was fed. -/
lemma Attended.ends_le_one (h : Attended s) {connection : Nat} {life : MuxLife}
    (hlife : s.lives connection = some life) : life.ends.length ≤ 1 ∧
      ∀ e ∈ life.ends, ∀ bytes, e.handed = some bytes → bytes = life.fed := by
  rcases h.finished connection life hlife with ⟨w, hmem, live, rfl⟩ | ⟨e, hends, hhanded⟩
  · obtain ⟨slot, hw⟩ := List.mem_iff_getElem?.mp hmem
    obtain ⟨fed, hfed, -⟩ := (h.seated slot w hw live).life
    rw [hlife] at hfed
    cases hfed
    exact ⟨Nat.zero_le 1, fun e he => (by cases he)⟩
  · rw [hends]
    refine ⟨le_rfl, ?_⟩
    intro e' he'
    rw [List.mem_singleton.mp he']
    exact hhanded

/-- The owner of an id that stays claimed along a run. -/
lemma MuxSound.owner_run (h : MuxSound s) {id : SessionId} {calls : List MuxCall}
    (run : Run (muxStep sessionIdOf)
      (fun u call => MuxAdmissible u call ∧ (u.router.claim id).isSome = true) s calls t)
    {g g' : Registration} (hg : s.router.claim id = some g) (hg' : t.router.claim id = some g') :
    g'.owner = g.owner := by
  have hrun : MuxSound t ∧ ∀ g', t.router.claim id = some g' → g'.owner = g.owner := by
    refine run.inv
      (fun u => MuxSound u ∧ ∀ g', u.router.claim id = some g' → g'.owner = g.owner) ?_ ⟨h, ?_⟩
    · rintro u call v ⟨hsound, howner⟩ ⟨ok, hclaimed⟩ hstep
      refine ⟨hsound.step ok hstep, ?_⟩
      intro g' hg'
      obtain ⟨g₀, hg₀⟩ := Option.isSome_iff_exists.mp hclaimed
      rw [hsound.owner_step hstep hg₀ hg', howner g₀ hg₀]
    · intro g' hg'
      rw [Option.some.inj (hg'.symm.trans hg)]
  exact hrun.2 g' hg'

/--
Whatever sequence of calls the I/O layer makes, by whichever agents, users and peers, with no chunk
larger than `Room`, the laws of the router hold.
-/
theorem mux_router_laws (sessionIdOf : KeyBytes → SessionId) (storage : Bytes)
    (calls : List MuxCall) (s : MuxWatch)
    (run : Run (muxStep sessionIdOf) MuxAdmissible (MuxWatch.create storage) calls s) :
    MuxLaws sessionIdOf s := by
  have hsound : MuxSound s := run.inv MuxSound (fun _ _ _ h ok hstep => h.step ok hstep)
    ⟨MuxRouter.Registered.create storage, Attended.create storage⟩
  have hregistered := hsound.registered
  have hattended := hsound.attended
  constructor
  case single => exact hregistered.distinct.countP_le_one
  case claimed => exact fun _ _ => hregistered.claim_iff
  case owner => exact fun _ _ _ _ _ more hg hg' => hsound.owner_run more hg hg'
  case perUid => exact hregistered.perUid
  case registrationCount => exact hregistered.count
  case pendingCount => exact hattended.count
  case register => exact fun _ _ _ _ hr id => hregistered.claim_register hr id
  case unregister => exact hregistered.claim_unregister
  case perAddress => exact hattended.perAddress
  case ends => exact fun _ _ hlife => hattended.ends_le_one hlife
  case ended =>
    intro connection life hlife hended bytes
    rw [MuxRouter.feed, hattended.findWaiting_of_ended hlife hended]

instance (s : MuxWatch) (call : MuxCall) : Decidable (MuxAdmissible s call) :=
  match call with
  | .feed connection bytes => inferInstanceAs (Decidable (bytes.length ≤ s.router.room connection))
  | .register .. | .unregister _ | .accept .. | .closed _ | .expire _ => inferInstanceAs (Decidable True)

/-- A registration key whose first sixteen bytes are the session id of `sampleHelloFrame`. -/
def sampleRegistration : KeyBytes := ⟨List.replicate 32 7, rfl⟩

/-- A Hello frame for the session of `sampleRegistration`. -/
def sampleHelloFrame : Bytes :=
  [0, 0, 0, 41, 0, 1] ++ helloMagic ++ [0, 1, 0, 2] ++ List.replicate 16 7 ++ List.replicate 16 9

/-- An agent registers, another of its uid takes the claim over, and a connection is handed to it. -/
def sampleMuxCalls : List MuxCall :=
  [.register 5 1000 sampleRegistration, .register 6 1000 sampleRegistration, .unregister 5,
    .accept 1 (.fill 16 0) 0, .feed 1 (sampleHelloFrame.take 9),
    .feed 1 (sampleHelloFrame.drop 9)]

def sampleIdOf (registration : KeyBytes) : SessionId :=
  ⟨registration.val.take 16, by simp [sessionIdSize, registration.property, keySize]⟩

/-- A registered session gets its connection, with the bytes that were read. -/
theorem mux_router_laws_sample :
    ∃ s, Run (muxStep sampleIdOf) MuxAdmissible
        (MuxWatch.create (List.replicate muxPendingBuffer 0)) sampleMuxCalls s ∧
      s.lives 1 = some ⟨sampleHelloFrame, [.handoff 6 sampleHelloFrame]⟩ ∧ MuxLaws sampleIdOf s := by
  have hrun : (exec (guarded (muxStep sampleIdOf) MuxAdmissible)
      (MuxWatch.create (List.replicate muxPendingBuffer 0)) sampleMuxCalls).map (fun s => s.lives 1) =
        some (some ⟨sampleHelloFrame, [.handoff 6 sampleHelloFrame]⟩) := by
    decide +kernel
  obtain ⟨s, hs, hlife⟩ := Option.map_eq_some_iff.mp hrun
  have hsrun := Run.of_guarded hs
  exact ⟨s, hsrun, hlife, mux_router_laws sampleIdOf _ sampleMuxCalls s hsrun⟩

end Zet.Session
