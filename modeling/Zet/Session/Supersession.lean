import Zet.Lib.Run
import Zet.Session.ConnectionSpec

/-!
# One session, many connections

Any number of connections of the agent hold handles to one session, and each may be called at any
time: the newest one that attached carries the session, and the ones before it are still there with
frames arriving, snapshots being built for them and sockets closing. Frames here are arbitrary, and so
is the order of all calls.

A connection that was superseded does nothing to the session any more, whatever is called on it; the
session is live exactly when the newest connection carries it; and a session that was reaped stays
reaped, for the reason it was reaped for.
-/

namespace Zet.Session
open Zet.Core Zet.Wire Zet.Lib

variable {K : Type}

/-- `SessionHandle::Generation_`: the attachment the connection made, zero until it attaches. -/
def AgentConnection.generation (c : AgentConnection K) : Nat := c.handle.getD 0

/-- A session and its connections. `attached` are those whose Resume attached, the newest first. -/
structure Shared (K : Type) where
  session : AgentSession K
  connections : List (AgentConnection K)
  attached : List Nat

/-- What can be called on the session and on its connections. -/
inductive SharedAct (K : Type) where
  /-- A Hello was read on a new connection. -/
  | connect (now : Timestamp) (helloGridCapable : Bool)
  | route (i : Nat) (serverNonce : Nat)
  | completeHandshake (i : Nat) (clientNonce version : Nat)
  | onFrame (i : Nat) (now : Timestamp) (frame : FrameView K)
  | onIdle (i : Nat) (now : Timestamp) (out scratch : Nat)
  | supplySnapshot (i : Nat) (now : Timestamp) (snapshot : Bytes) (scrollbackLen flags : Nat)
  | reportResize (i : Nat) (size : ResizeMessage)
  | gates (i : Nat) (sendOpen readOpen : Bool) (now : Timestamp)
  | close (i : Nat) (now : Timestamp)
  | write (bytes : Bytes)
  | endSession (message : SessionEndMessage)
  | inputDelivered (count : Nat)
  | inputRejected (count : Nat)
  | onTimer (now : Timestamp)

/-- The connection a call is made on, if it is made on one. -/
def SharedAct.on : SharedAct K → Option Nat
  | .route i _ | .completeHandshake i _ _ | .onFrame i _ _ | .onIdle i _ _ _
  | .supplySnapshot i _ _ _ _ | .reportResize i _ | .gates i _ _ _ | .close i _ => some i
  | _ => none

namespace Shared

/-- A session nobody has connected to. -/
def create (seed : K) (storage : Bytes) (now : Timestamp) (limits : SessionLimits) : Shared K :=
  ⟨.create seed storage now limits, [], []⟩

/-- The state after a call on connection `i` that left it as `c'`, and the session as `s'`. -/
def put (v : Shared K) (i : Nat) (c c' : AgentConnection K) (s' : AgentSession K) : Shared K where
  session := s'
  connections := v.connections.set i c'
  attached := if c.generation = 0 ∧ c'.generation ≠ 0 then i :: v.attached else v.attached

variable [DecidableEq K] (P : KeySchedule K)

/-- One call. -/
def step (v : Shared K) : SharedAct K → Option (Shared K)
  | .connect now helloGridCapable =>
    some { v with connections := v.connections ++ [.create now helloGridCapable] }
  | .route i serverNonce => do
    let c ← v.connections[i]?
    some (v.put i c (c.route v.session serverNonce) v.session)
  | .completeHandshake i clientNonce version => do
    let c ← v.connections[i]?
    let (_, c', s') ← c.completeHandshake P v.session clientNonce version
    some (v.put i c c' s')
  | .onFrame i now frame => do
    let c ← v.connections[i]?
    let (_, c', s') := c.onFrame P v.session now frame
    some (v.put i c c' s')
  | .onIdle i now out scratch => do
    let c ← v.connections[i]?
    let (_, c', s') := c.onIdle P v.session now out scratch
    some (v.put i c c' s')
  | .supplySnapshot i now snapshot scrollbackLen flags => do
    let c ← v.connections[i]?
    let (c', s') := c.supplySnapshot v.session now snapshot scrollbackLen flags
    some (v.put i c c' s')
  | .reportResize i size => do
    let c ← v.connections[i]?
    some { v with session := v.session.reportResize c.generation size }
  | .gates i sendOpen readOpen now => do
    let c ← v.connections[i]?
    some (v.put i c { c with
      channel := c.channel.map fun chan => (chan.setSendGate sendOpen).setReadGate readOpen now }
      v.session)
  | .close i now => do
    let c ← v.connections[i]?
    some { v with session := c.close v.session now }
  | .write bytes => some { v with session := (v.session.write bytes).2 }
  | .endSession message => some { v with session := v.session.endWith message }
  | .inputDelivered count => some { v with session := (v.session.inputDelivered count).2 }
  | .inputRejected count => some { v with session := (v.session.inputRejected count).2 }
  | .onTimer now => some { v with session := v.session.onTimer now }

end Shared

/-- The state of the session, why it was reaped, and its current attachment. -/
def StreamState.life (s : StreamState) : SessionState × Option StreamError × Nat :=
  (s.state, s.reapReason, s.generation)

/-- Everything a call that does not attach does to the life of the session. -/
inductive StreamState.Passes (s s' : StreamState) : Prop
  | kept (life : s'.life = s.life)
  | reaped (alive : s.state ≠ .reaped)
      (life : ∃ reason, s'.life = (.reaped, some reason, s.generation))
  | detached (was : s.state = .live) (life : s'.life = (.detached, s.reapReason, s.generation))

/-- Reaping is a passage of the life cycle. -/
lemma StreamState.passes_reap (s : StreamState) (reason : StreamError) :
    s.Passes (s.reap reason) := by
  unfold reap
  split
  next => exact .kept rfl
  next halive => exact .reaped halive ⟨reason, rfl⟩

/-- So is a write. -/
lemma StreamState.passes_write (s : StreamState) (bytes : Bytes) : s.Passes (s.write bytes).2 := by
  have hwrote := s.write_cases bytes
  generalize s.write bytes = out at hwrote ⊢
  cases hwrote with
  | reaped => exact s.passes_reap _
  | refused | dropped | overflowed | appended => exact .kept rfl

/-- So is the timer. -/
lemma StreamState.passes_onTimer (s : StreamState) (now : Timestamp) : s.Passes (s.onTimer now) := by
  unfold onTimer
  split
  next =>
    split
    next => exact s.passes_reap _
    next => exact .kept rfl
  next => exact .kept rfl

/-- So is a detach. -/
lemma StreamState.passes_detach (s : StreamState) (handle : Nat) (now : Timestamp) :
    s.Passes (s.detach handle now) := by
  unfold detach
  split
  next hcur =>
    have hlive : s.state = .live := by
      simp only [isCurrent, Bool.and_eq_true, beq_iff_eq] at hcur
      exact hcur.1
    exact .detached hlive rfl
  next => exact .kept rfl

/-- A write of the session is a write of its streams. -/
lemma AgentSession.write_streams (s : AgentSession K) (bytes : Bytes) :
    (s.write bytes).1 = (s.streams.write bytes).1 ∧
      (s.write bytes).2.streams = (s.streams.write bytes).2 := by
  unfold write
  rcases s.streams.write bytes with ⟨result, streams⟩
  dsimp only
  split
  next =>
    dsimp only
    split <;> exact ⟨rfl, rfl⟩
  next => exact ⟨rfl, rfl⟩

/-- A write of the session passes. -/
lemma AgentSession.passes_write (s : AgentSession K) (bytes : Bytes) :
    s.streams.Passes (s.write bytes).2.streams := by
  rw [(s.write_streams bytes).2]
  exact s.streams.passes_write bytes

/-- Everything a call on a connection does to the life of the session. Only a Resume attaches, and
only a Resume from below what the ring still holds ends the session. -/
inductive Effect (c : AgentConnection K) (s : AgentSession K) (c' : AgentConnection K)
    (s' : AgentSession K) : Prop
  | kept (handle : c'.generation = c.generation)
      (stage : c'.stage = c.stage ∨ c.stage = .awaitSnapshot ∧ c'.stage = .live)
      (terms : c'.failed = none → c'.stage = .awaitResume → c.failed = none ∧ c.SameTerms c')
      (life : s'.streams.life = s.streams.life)
  | proved (handle : c'.generation = 0) (before : c.stage = .awaitRoute ∨ c.stage = .handshake)
      (stage : c'.stage = .handshake ∨ c'.stage = .awaitResume)
      (roles : c'.stage = .awaitResume → (∀ frames, c'.current = some frames → frames.role = .agent) ∧
        ∀ frames, c'.fallback = some frames → frames.role = .agent)
      (life : s'.streams.life = s.streams.life)
  | killed (handle : c'.generation = c.generation) (stage : c'.stage = c.stage)
      (dead : c'.failed.isSome) (alive : s.streams.state ≠ .reaped)
      (life : ∃ reason, s'.streams.life = (.reaped, some reason, s.streams.generation))
  | attached (handle : c'.generation = s.streams.generation + 1) (before : c.stage = .awaitResume)
      (stage : c'.stage = .awaitSnapshot ∨ c'.stage = .live) (alive : s.streams.state ≠ .reaped)
      (life : s'.streams.life = (.live, s.streams.reapReason, s.streams.generation + 1))

namespace AgentConnection
variable {c : AgentConnection K} {s : AgentSession K}

/-- A turn of a connection that had not failed is an effect. -/
lemma Turned.effect {res : Pumped K} (h : Turned c s res) (hfail : c.failed = none)
    {s₀ : AgentSession K} (life : s.streams.life = s₀.streams.life) :
    Effect c s₀ res.2.1 res.2.2 := by
  refine .kept (by rw [generation, h.handle, generation]) (.inl h.stage) ?_
    (by rw [h.session, life])
  intro halive _
  rcases h.terms with hdead | hterms
  · rw [halive] at hdead
    cases hdead
  · exact ⟨hfail, hterms⟩

/-- So is a quiet step. -/
lemma Quiet.effect {res : Pumped K} (h : Quiet c s res) (hfail : c.failed = none) :
    Effect c s res.2.1 res.2.2 := by
  refine .kept (by rw [generation, h.handle, generation]) (.inl h.stage) ?_ (by rw [h.streams])
  intro halive _
  rcases h.terms with hdead | hterms
  · rw [halive] at hdead
    cases hdead
  · exact ⟨hfail, hterms⟩

/-- A call behind the guards, on streams that stay where they are in the session's life. -/
lemma effect_of_late {c' : AgentConnection K} {s' : AgentSession K}
    (late : c.stage = .awaitSnapshot ∨ c.stage = .live) (handle : c'.handle = c.handle)
    (stage : c'.stage = c.stage ∨ c.stage = .awaitSnapshot ∧ c'.stage = .live)
    (life : s'.streams.life = s.streams.life) : Effect c s c' s' := by
  refine .kept (by rw [generation, handle, generation]) stage ?_ life
  intro _ hresume
  rcases stage with hsame | ⟨-, hlive⟩
  · rw [hsame] at hresume
    rcases late with hlate | hlate
    · rw [hlate] at hresume
      cases hresume
    · rw [hlate] at hresume
      cases hresume
  · rw [hlive] at hresume
    cases hresume

/-- A connection that did nothing had the least effect. -/
lemma effect_refl (s : AgentSession K) {s' : AgentSession K}
    (life : s'.streams.life = s.streams.life) : Effect c s c s' :=
  .kept rfl (.inl rfl) (fun hfail _ => ⟨hfail, rfl, rfl, rfl, rfl⟩) life

variable [DecidableEq K] (P : KeySchedule K)

/-- What every connection of a session keeps. -/
structure Sound (c : AgentConnection K) : Prop where
  late : c.generation ≠ 0 → c.stage = .awaitSnapshot ∨ c.stage = .live
  roles : c.failed = none → c.stage = .awaitResume →
    (∀ frames, c.current = some frames → frames.role = .agent) ∧
    ∀ frames, c.fallback = some frames → frames.role = .agent

omit [DecidableEq K] in
/-- A connection that has not come to its Resume has attached to nothing. -/
lemma Sound.early (sound : c.Sound)
    (early : c.stage = .awaitRoute ∨ c.stage = .handshake ∨ c.stage = .awaitResume) :
    c.generation = 0 := by
  by_contra hne
  rcases sound.late hne with hlate | hlate <;> rw [hlate] at early <;>
    rcases early with h | h | h <;> cases h

omit [DecidableEq K] in
/-- An effect keeps the connection sound. -/
lemma Sound.effect {c' : AgentConnection K} {s' : AgentSession K} (sound : c.Sound)
    (h : Effect c s c' s') : c'.Sound := by
  cases h with
  | kept handle stage terms life =>
    constructor
    · intro hattached
      rw [handle] at hattached
      rcases stage with hsame | ⟨-, hlive⟩
      · rw [hsame]
        exact sound.late hattached
      · exact .inr hlive
    · intro halive hresume
      obtain ⟨hfail, hterms⟩ := terms halive hresume
      rw [hterms.current, hterms.fallback]
      refine sound.roles hfail ?_
      rcases stage with hsame | ⟨-, hlive⟩
      · rw [← hsame, hresume]
      · rw [hlive] at hresume
        cases hresume
  | proved handle before stage roles life =>
    exact ⟨fun hattached => absurd handle hattached, fun _ => roles⟩
  | killed handle stage dead alive life =>
    refine ⟨fun hattached => ?_, fun halive => ?_⟩
    · rw [stage]
      exact sound.late (handle ▸ hattached)
    · rw [halive] at dead
      cases dead
  | attached handle before stage alive life =>
    refine ⟨fun _ => stage, fun _ hresume => ?_⟩
    rcases stage with hlate | hlate
    · rw [hlate] at hresume
      cases hresume
    · rw [hlate] at hresume
      cases hresume

omit [DecidableEq K] in
/-- Routing touches nothing but the connection. -/
lemma route_effect (sound : c.Sound) (serverNonce : Nat) :
    Effect c s (c.route s serverNonce) s := by
  unfold route
  split
  next => exact effect_refl s rfl
  next hstage =>
    have hroute : c.stage = .awaitRoute := Decidable.not_not.mp hstage
    refine .proved ?_ (.inl hroute) (.inl rfl) (fun hresume => (by cases hresume)) rfl
    exact sound.early (.inl hroute)

omit [DecidableEq K] in
/-- Completing the handshake is an effect. -/
lemma completeHandshake_effect {clientNonce version offset : Nat} {c' : AgentConnection K}
    {s' : AgentSession K}
    (h : c.completeHandshake P s clientNonce version = some (offset, c', s')) : Effect c s c' s' := by
  unfold completeHandshake at h
  split at h
  next attempt hstage _ =>
    cases h
    refine .proved rfl (.inr hstage) (.inr rfl) (fun _ => ⟨?_, ?_⟩) rfl
    · intro frames hframes
      cases hframes
      rfl
    · intro frames hframes
      obtain ⟨seed, -, rfl⟩ := Option.map_eq_some_iff.mp hframes
      rfl
  next => cases h

/-- What a frame does. -/
lemma onFrame_effect (sound : c.Sound) (now : Timestamp) (frame : FrameView K) :
    Effect c s (c.onFrame P s now frame).2.1 (c.onFrame P s now frame).2.2 := by
  cases hfail : c.failed with
  | some e =>
    have heq : c.onFrame P s now frame = (.error e, c, s) := by rw [onFrame, hfail]
    rw [heq]
    exact effect_refl s rfl
  | none =>
    rcases onFrame_cases P s now frame hfail with
      hturned | ⟨used, chosen, message, hresumes, heq⟩ | ⟨f, out, hcarried⟩
    · exact hturned.effect hfail rfl
    · obtain ⟨hcurrent, hfallback⟩ := sound.roles hfail hresumes.stage
      have hcases := resume_cases P s now used message hfail
        (openResume_role hresumes.opened hcurrent hfallback)
      rw [heq]
      cases hcases with
      | unknown turned => exact turned.effect hfail rfl
      | refused confirmed turned =>
        obtain ⟨_, _, rfl⟩ := confirmResume_rest confirmed
        exact turned.effect hfail rfl
      | @rejected _ _ e confirmed gen pathA attach alive session channel handle stage result dead =>
        obtain ⟨_, _, rfl⟩ := confirmResume_rest confirmed
        rcases session with hsession | ⟨-, hsession⟩
        · refine .kept (by rw [generation, handle, generation]) (.inl stage) ?_ (by rw [hsession])
          intro halive
          rw [halive] at dead
          cases dead
        · refine .killed (by rw [generation, handle, generation]) stage dead alive ⟨e, ?_⟩
          rw [hsession]
          simp only [AgentSession.kill, StreamState.kill, StreamState.reap, if_neg alive]
          rfl
      | pathA confirmed gen pathA attach alive session channel handle stage result alive' =>
        obtain ⟨_, _, rfl⟩ := confirmResume_rest confirmed
        refine .attached (by rw [generation, handle]; rfl) hresumes.stage (.inr stage) alive ?_
        rw [session]
        rfl
      | pathB confirmed gen pathB alive session channel handle stage result alive' =>
        obtain ⟨_, _, rfl⟩ := confirmResume_rest confirmed
        refine .attached (by rw [generation, handle]; rfl) hresumes.stage (.inl stage) alive ?_
        rw [session]
        rfl
    · refine effect_of_late hcarried.stage hcarried.handle (.inl hcarried.same) ?_
      rw [hcarried.streams]
      rfl

omit [DecidableEq K] in
/-- What an idle call does. -/
lemma onIdle_effect (now : Timestamp) (out scratch : Nat) :
    Effect c s (c.onIdle P s now out scratch).2.1 (c.onIdle P s now out scratch).2.2 := by
  cases hfail : c.failed with
  | some e =>
    have heq : c.onIdle P s now out scratch = (.error e, c, s) := by rw [onIdle, hfail]
    rw [heq]
    exact effect_refl s rfl
  | none =>
    rcases onIdle_cases P s now out scratch hfail with hquiet | ⟨f, m, f', hspeaks⟩
    · exact hquiet.effect hfail
    · refine effect_of_late hspeaks.stage hspeaks.handle (.inl hspeaks.same) ?_
      rw [hspeaks.streams]
      rfl

omit [DecidableEq K] in
/-- Supplying a snapshot is an effect. -/
lemma supplySnapshot_effect (now : Timestamp) (snapshot : Bytes) (scrollbackLen flags : Nat) :
    Effect c s (c.supplySnapshot s now snapshot scrollbackLen flags).1
      (c.supplySnapshot s now snapshot scrollbackLen flags).2 := by
  rcases supplySnapshot_cases c s now snapshot scrollbackLen flags with ⟨hs, hc⟩ | hsupplied
  · rw [hs, hc]
    exact .kept rfl (.inl rfl) (fun hfail _ => ⟨hfail, rfl, rfl, rfl, rfl⟩) rfl
  · refine effect_of_late (.inl hsupplied.stage) hsupplied.handle
      (.inr ⟨hsupplied.stage, hsupplied.after⟩) ?_
    rw [hsupplied.streams]
    rfl

omit [DecidableEq K] in
/-- A connection that is not the current one is refused whatever it asks for. -/
lemma guarded_not_current {deadline : Option Timestamp} {now : Timestamp}
    {k : Channel K → Nat → Pumped K} (hnot : c.isCurrent s = false) :
    c.guarded s deadline now k = c.refuse s (.stream .superseded) := by
  unfold guarded
  split
  next chan handle hchan hhandle =>
    have hcur : s.isCurrent handle = false := by simpa only [isCurrent, hhandle] using hnot
    rw [if_pos (by rw [hcur]; exact Bool.false_ne_true)]
  next => rfl

omit [DecidableEq K] in
/-- A connection that has not failed is refused without the session hearing of it. -/
lemma refuse_session {e : StreamError} (hfail : c.failed = none)
    (mild : e.disposition ≠ .killSession) : (c.refuse s (.stream e)).2.2 = s := by
  simp only [refuse, hfail, Option.getD_none]
  rw [if_neg]
  rintro ⟨hkill, -⟩
  exact mild hkill

/-- A frame on a connection that attached and is no longer current. -/
lemma onFrame_superseded (late : c.stage = .awaitSnapshot ∨ c.stage = .live)
    (hnot : c.isCurrent s = false) (now : Timestamp) (frame : FrameView K) :
    (c.onFrame P s now frame).2.2 = s := by
  unfold onFrame
  split
  next => rfl
  next hfail =>
    split
    next => exact refuse_session hfail (by decide)
    next =>
      rcases late with hstage | hstage <;> rw [hstage] <;> dsimp only <;>
        rw [guarded_not_current hnot] <;> exact refuse_session hfail (by decide)

omit [DecidableEq K] in
/-- An idle call on such a connection. -/
lemma onIdle_superseded (late : c.stage = .awaitSnapshot ∨ c.stage = .live)
    (hnot : c.isCurrent s = false) (now : Timestamp) (out scratch : Nat) :
    (c.onIdle P s now out scratch).2.2 = s := by
  unfold onIdle
  split
  next => rfl
  next hfail =>
    split
    next => exact refuse_session hfail (by decide)
    next =>
      rcases late with hstage | hstage <;> rw [hstage] <;> dsimp only <;>
        rw [guarded_not_current hnot] <;> exact refuse_session hfail (by decide)

omit [DecidableEq K] in
/-- A snapshot supplied to a superseded connection leaves the session as it was. -/
lemma supplySnapshot_superseded (hnot : c.isCurrent s = false) (now : Timestamp) (snapshot : Bytes)
    (scrollbackLen flags : Nat) :
    (c.supplySnapshot s now snapshot scrollbackLen flags).2 = s := by
  rcases supplySnapshot_cases c s now snapshot scrollbackLen flags with ⟨hs, -⟩ | hsupplied
  · exact hs
  · obtain ⟨handle, hhandle, hcur⟩ := hsupplied.current
    simp only [isCurrent, hhandle, hcur] at hnot
    cases hnot

omit [DecidableEq K] in
/-- Letting go of a session the connection does not carry. -/
lemma close_not_current (hnot : c.isCurrent s = false) (now : Timestamp) : c.close s now = s := by
  unfold close
  split
  next handle hhandle =>
    have hcur : s.streams.isCurrent handle = false := by
      simpa only [isCurrent, hhandle, AgentSession.isCurrent] using hnot
    rw [AgentSession.detach, StreamState.detach, if_neg (by rw [hcur]; exact Bool.false_ne_true)]
  next => rfl

omit [DecidableEq K] in
/-- The connection that carries the session detaches it. -/
lemma close_current (hcur : c.isCurrent s = true) (now : Timestamp) :
    (c.close s now).streams.state = .detached := by
  unfold isCurrent at hcur
  split at hcur
  next handle hhandle =>
    rw [AgentSession.isCurrent] at hcur
    simp only [close, hhandle, AgentSession.detach, StreamState.detach, if_pos hcur]
  next => cases hcur

omit [DecidableEq K] in
/-- A resize of a superseded connection leaves the session as it was. -/
lemma reportResize_superseded (hnot : c.isCurrent s = false)
    (attached : c.generation ≠ 0) (size : ResizeMessage) :
    s.reportResize c.generation size = s := by
  unfold isCurrent at hnot
  split at hnot
  next handle hhandle =>
    have hgeneration : c.generation = handle := by rw [generation, hhandle]; rfl
    rw [AgentSession.reportResize, hgeneration, if_neg (by rw [hnot]; exact Bool.false_ne_true)]
  next hhandle =>
    rw [generation, hhandle] at attached
    exact absurd rfl attached

end AgentConnection

namespace Shared

/-- What holds of a session and its connections after any calls. -/
structure Succession (v : Shared K) : Prop where
  sound : ∀ (i : Nat) (c : AgentConnection K), v.connections[i]? = some c → c.Sound
  bounded : ∀ (i : Nat) (c : AgentConnection K), v.connections[i]? = some c →
    c.generation ≤ v.attached.length
  generation : v.session.streams.generation = v.attached.length
  /-- The attachments in order: the newest has the largest number. -/
  placed : ∀ i k, v.attached[k]? = some i ↔ ∃ c : AgentConnection K, v.connections[i]? = some c ∧
    c.generation ≠ 0 ∧ c.generation + k = v.attached.length
  live : v.session.streams.state = .live → v.attached ≠ []
  reason : v.session.streams.state = .reaped ↔ v.session.streams.reapReason.isSome

/-- A new session has nobody attached. -/
lemma create_succession (seed : K) (storage : Bytes) (now : Timestamp) (limits : SessionLimits) :
    (create seed storage now limits).Succession where
  sound := fun _ _ h => (by cases h)
  bounded := fun _ _ h => (by cases h)
  generation := rfl
  placed := by simp [create]
  live := fun h => (by cases h)
  reason := by simp [create, AgentSession.create, StreamState.create]

variable {v : Shared K} {i : Nat} {c : AgentConnection K}

/-- A call that does not attach: the order of the attachments stays as it is. -/
lemma Succession.passes (h : v.Succession) {s' : AgentSession K}
    (passes : v.session.streams.Passes s'.streams) : { v with session := s' }.Succession := by
  cases passes with
  | kept life =>
    simp only [StreamState.life, Prod.mk.injEq] at life
    obtain ⟨hstate, hreason, hgeneration⟩ := life
    exact ⟨h.sound, h.bounded, hgeneration.trans h.generation, h.placed,
      fun hlive => h.live (hstate ▸ hlive), by rw [hstate, hreason]; exact h.reason⟩
  | reaped alive life =>
    obtain ⟨reason, life⟩ := life
    simp only [StreamState.life, Prod.mk.injEq] at life
    obtain ⟨hstate, hreason, hgeneration⟩ := life
    refine ⟨h.sound, h.bounded, hgeneration.trans h.generation, h.placed, fun hlive => ?_,
      by simp [hstate, hreason]⟩
    rw [hstate] at hlive
    cases hlive
  | detached was life =>
    simp only [StreamState.life, Prod.mk.injEq] at life
    obtain ⟨hstate, hreason, hgeneration⟩ := life
    refine ⟨h.sound, h.bounded, hgeneration.trans h.generation, h.placed, fun hlive => ?_, ?_⟩
    · rw [hstate] at hlive
      cases hlive
    · rw [hreason, ← h.reason, was, hstate]
      simp

/-- The connections after one of them was changed. -/
lemma getElem?_put {c' : AgentConnection K} (hc : v.connections[i]? = some c) (j : Nat) :
    (v.connections.set i c')[j]? = if j = i then some c' else v.connections[j]? := by
  have hlt : i < v.connections.length := (List.getElem?_eq_some_iff.mp hc).1
  rw [List.getElem?_set]
  split
  next hij => rw [if_pos hij.symm]
  next hij => rw [if_neg (Ne.symm hij)]

/-- What held of every connection still does after one was changed into another it holds of. -/
lemma forall_put {c' : AgentConnection K} {p : AgentConnection K → Prop}
    (hc : v.connections[i]? = some c) (new : p c')
    (old : ∀ (j : Nat) (d : AgentConnection K), v.connections[j]? = some d → p d) :
    ∀ (j : Nat) (d : AgentConnection K), (v.connections.set i c')[j]? = some d → p d := by
  intro j d hd
  rw [getElem?_put hc] at hd
  split at hd
  · cases hd
    exact new
  · exact old j d hd

/-- A call that did not attach leaves the order of the attachments as it was. -/
lemma Succession.put_same (h : v.Succession) {c' : AgentConnection K}
    (hc : v.connections[i]? = some c) (sound : c'.Sound) (handle : c'.generation = c.generation) :
    Succession ⟨v.session, v.connections.set i c', v.attached⟩ where
  sound := forall_put hc sound h.sound
  bounded := forall_put hc (handle ▸ h.bounded i c hc) h.bounded
  generation := h.generation
  placed := by
    intro j k
    dsimp only
    rw [h.placed j k, getElem?_put hc]
    split
    next hji =>
      subst hji
      rw [hc]
      simp only [Option.some.injEq, exists_eq_left', handle]
    next => rfl
  live := h.live
  reason := h.reason

/-- A call that attached puts its connection in front of all others. -/
lemma Succession.put_attached (h : v.Succession) {c' : AgentConnection K} {s' : AgentSession K}
    (hc : v.connections[i]? = some c) (sound : c'.Sound) (hzero : c.generation = 0)
    (handle : c'.generation = v.attached.length + 1) (alive : v.session.streams.state ≠ .reaped)
    (life : s'.streams.life =
      (.live, v.session.streams.reapReason, v.session.streams.generation + 1)) :
    Succession ⟨s', v.connections.set i c', i :: v.attached⟩ := by
  simp only [StreamState.life, Prod.mk.injEq] at life
  obtain ⟨hstate, hreason, hgeneration⟩ := life
  constructor
  case sound => exact forall_put hc sound h.sound
  case bounded =>
    exact forall_put hc (Nat.le_of_eq handle)
      (fun j d hd => Nat.le_succ_of_le (h.bounded j d hd))
  case generation =>
    rw [hgeneration, h.generation]
    rfl
  case live => exact fun _ => List.cons_ne_nil _ _
  case reason =>
    rw [hreason, ← h.reason, hstate]
    simp [alive]
  case placed =>
    intro j k
    dsimp only
    rw [getElem?_put hc, List.length_cons]
    cases k with
    | zero =>
      rw [List.getElem?_cons_zero]
      split
      next hji =>
        subst hji
        simp [handle]
      next hji =>
        constructor
        · intro heq
          exact absurd (Option.some.inj heq).symm hji
        · rintro ⟨d, hd, hne, hlen⟩
          have hbound := h.bounded j d hd
          omega
    | succ k =>
      rw [List.getElem?_cons_succ, h.placed j k]
      split
      next hji =>
        subst hji
        rw [hc]
        simp only [Option.some.injEq, exists_eq_left', handle, hzero]
        omega
      next => simp only [← Nat.add_assoc, Nat.add_right_cancel_iff]

/-- Putting back a connection of the same generation attaches nobody. -/
lemma put_of_same {c' : AgentConnection K} (handle : c'.generation = c.generation)
    (s' : AgentSession K) : v.put i c c' s' = ⟨s', v.connections.set i c', v.attached⟩ := by
  rw [put, handle, if_neg (fun hboth => hboth.2 hboth.1)]

/-- One call on a connection keeps the attachments in order. -/
lemma Succession.effect (h : v.Succession) {c' : AgentConnection K} {s' : AgentSession K}
    (hc : v.connections[i]? = some c) (effect : Effect c v.session c' s') :
    (v.put i c c' s').Succession := by
  have hsound := (h.sound i c hc).effect effect
  cases effect with
  | kept handle stage terms life =>
    rw [put_of_same handle]
    exact (h.put_same hc hsound handle).passes (.kept life)
  | proved handle before stage roles life =>
    have hsame : c'.generation = c.generation := by
      rw [handle, (h.sound i c hc).early (before.imp_right .inl)]
    rw [put_of_same hsame]
    exact (h.put_same hc hsound hsame).passes (.kept life)
  | killed handle stage dead alive life =>
    rw [put_of_same handle]
    exact (h.put_same hc hsound handle).passes (.reaped alive life)
  | attached handle before stage alive life =>
    have hzero := (h.sound i c hc).early (.inr (.inr before))
    rw [h.generation] at handle
    rw [put, if_pos ⟨hzero, by rw [handle]; exact Nat.succ_ne_zero _⟩]
    exact h.put_attached hc hsound hzero handle alive life

variable [DecidableEq K] (P : KeySchedule K)

omit [DecidableEq K] in
/-- A new connection has attached to nothing. -/
lemma Succession.connect (h : v.Succession) {c : AgentConnection K} (sound : c.Sound)
    (hzero : c.generation = 0) :
    Succession ⟨v.session, v.connections ++ [c], v.attached⟩ := by
  have hget : ∀ (j : Nat) (d : AgentConnection K), (v.connections ++ [c])[j]? = some d →
      v.connections[j]? = some d ∨ d = c := by
    intro j d hd
    rw [List.getElem?_append] at hd
    split at hd
    · exact .inl hd
    · exact .inr (List.mem_singleton.mp (List.mem_of_getElem? hd))
  constructor
  case sound =>
    intro j d hd
    rcases hget j d hd with hold | rfl
    · exact h.sound j d hold
    · exact sound
  case bounded =>
    intro j d hd
    rcases hget j d hd with hold | rfl
    · exact h.bounded j d hold
    · rw [hzero]
      exact Nat.zero_le _
  case generation => exact h.generation
  case live => exact h.live
  case reason => exact h.reason
  case placed =>
    intro j k
    dsimp only
    rw [h.placed j k]
    constructor
    · rintro ⟨d, hd, hplace⟩
      exact ⟨d, by rw [List.getElem?_append_left (List.getElem?_eq_some_iff.mp hd).1, hd], hplace⟩
    · rintro ⟨d, hd, hne, hplace⟩
      rcases hget j d hd with hold | rfl
      · exact ⟨d, hold, hne, hplace⟩
      · exact absurd hzero hne

/-- Everything a call comes to: another connection, a call on one there is, or a change of the session
alone. -/
inductive Called (v : Shared K) : Shared K → Prop
  | connect {c : AgentConnection K} (sound : c.Sound) (unattached : c.generation = 0) :
      Called v { v with connections := v.connections ++ [c] }
  | connection {i : Nat} {c c' : AgentConnection K} {s' : AgentSession K}
      (before : v.connections[i]? = some c) (effect : Effect c v.session c' s') :
      Called v (v.put i c c' s')
  | session {s' : AgentSession K} (passes : v.session.streams.Passes s'.streams) :
      Called v { v with session := s' }

/-- Every call has one of the shapes of Called. -/
lemma step_called {v' : Shared K} {a : SharedAct K} (h : v.Succession)
    (hstep : v.step P a = some v') : v.Called v' := by
  have hbind : ∀ {j : Nat} {f : AgentConnection K → Option (Shared K)},
      (v.connections[j]?.bind f) = some v' → ∃ d, v.connections[j]? = some d ∧ f d = some v' :=
    fun hrun => Option.bind_eq_some_iff.mp hrun
  cases a with
  | connect now helloGridCapable =>
    cases hstep
    exact .connect ⟨fun hne => absurd rfl hne, fun _ hresume => (by cases hresume)⟩ rfl
  | route j serverNonce =>
    obtain ⟨d, hd, hput⟩ := hbind hstep
    cases hput
    exact .connection hd (AgentConnection.route_effect (h.sound j d hd) serverNonce)
  | completeHandshake j clientNonce version =>
    obtain ⟨d, hd, hrest⟩ := hbind hstep
    obtain ⟨⟨offset, d', s'⟩, hdone, hput⟩ := Option.bind_eq_some_iff.mp hrest
    cases hput
    exact .connection hd (AgentConnection.completeHandshake_effect P hdone)
  | onFrame j now frame =>
    obtain ⟨d, hd, hput⟩ := hbind hstep
    cases hput
    exact .connection hd (AgentConnection.onFrame_effect P (h.sound j d hd) now frame)
  | onIdle j now out scratch =>
    obtain ⟨d, hd, hput⟩ := hbind hstep
    cases hput
    exact .connection hd (AgentConnection.onIdle_effect P now out scratch)
  | supplySnapshot j now snapshot scrollbackLen flags =>
    obtain ⟨d, hd, hput⟩ := hbind hstep
    cases hput
    exact .connection hd (AgentConnection.supplySnapshot_effect now snapshot scrollbackLen flags)
  | reportResize j size =>
    obtain ⟨d, hd, hput⟩ := hbind hstep
    cases hput
    refine .session (.kept ?_)
    rw [(AgentConnection.reportResize_streams _ _ _).1]
  | gates j sendOpen readOpen now =>
    obtain ⟨d, hd, hput⟩ := hbind hstep
    cases hput
    exact .connection hd (.kept rfl (.inl rfl) (fun hfail _ => ⟨hfail, rfl, rfl, rfl, rfl⟩) rfl)
  | close j now =>
    obtain ⟨d, hd, hput⟩ := hbind hstep
    cases hput
    refine .session ?_
    unfold AgentConnection.close
    split
    next => exact StreamState.passes_detach _ _ _
    next => exact .kept rfl
  | write bytes =>
    cases hstep
    exact .session (AgentSession.passes_write _ bytes)
  | endSession message =>
    cases hstep
    exact .session (.kept rfl)
  | inputDelivered count =>
    cases hstep
    exact .session (.kept rfl)
  | inputRejected count =>
    cases hstep
    exact .session (.kept rfl)
  | onTimer now =>
    cases hstep
    exact .session (StreamState.passes_onTimer _ now)

/-- The attachments stay in order whatever is called. -/
lemma step_succession {v' : Shared K} {a : SharedAct K} (h : v.Succession)
    (hstep : v.step P a = some v') : v'.Succession := by
  cases step_called P h hstep with
  | connect sound unattached => exact h.connect sound unattached
  | connection before effect => exact h.effect before effect
  | session passes => exact h.passes passes

/-- What is called on a reaped session leaves it reaped, for the same reason. -/
lemma step_reaped {v' : Shared K} {a : SharedAct K} (h : v.Succession)
    (hreaped : v.session.streams.state = .reaped) (hstep : v.step P a = some v') :
    v'.session.streams.life = v.session.streams.life := by
  cases step_called P h hstep with
  | connect => rfl
  | connection before effect =>
    cases effect with
    | kept handle stage terms life => exact life
    | proved handle before stage roles life => exact life
    | killed handle stage dead alive life => exact absurd hreaped alive
    | attached handle before stage alive life => exact absurd hreaped alive
  | session passes =>
    cases passes with
    | kept life => exact life
    | reaped alive life => exact absurd hreaped alive
    | detached was life =>
      rw [hreaped] at was
      cases was

/-- A run that starts reaped ends as it started. -/
lemma run_reaped {w : Shared K} {acts : List (SharedAct K)} (run : Run (step P) Anywhere v acts w)
    (h : v.Succession) (hreaped : v.session.streams.state = .reaped) :
    w.session.streams.life = v.session.streams.life := by
  induction run with
  | nil v => rfl
  | cons _ hstep _ ih =>
    have hlife := step_reaped P h hreaped hstep
    have hstill := (Prod.mk.inj hlife).1.trans hreaped
    rw [ih (step_succession P h hstep) hstill, hlife]

omit [DecidableEq K] in
/-- A connection that was superseded does not carry the session. -/
lemma Succession.superseded (h : v.Succession) {newest : Nat} {older : List Nat}
    (order : v.attached = newest :: older) (older_ : i ∈ older) :
    ∃ c : AgentConnection K, v.connections[i]? = some c ∧ c.isCurrent v.session = false ∧
      c.generation ≠ 0 := by
  obtain ⟨k, hk⟩ := List.mem_iff_getElem?.mp older_
  obtain ⟨c, hc, hne, hplace⟩ := (h.placed i (k + 1)).mp (by rw [order]; exact hk)
  refine ⟨c, hc, ?_, hne⟩
  have hbehind : c.generation ≠ v.session.streams.generation := by
    rw [h.generation]
    omega
  unfold AgentConnection.isCurrent
  split
  next handle hhandle =>
    have hgeneration : c.generation = handle := by rw [AgentConnection.generation, hhandle]; rfl
    rw [hgeneration] at hbehind
    simp [AgentSession.isCurrent, StreamState.isCurrent, hbehind]
  next => rfl

omit [DecidableEq K] in
/-- The newest attachment, and no other, carries a live session. -/
lemma Succession.current_iff (h : v.Succession) (hlive : v.session.streams.state = .live) :
    (∃ c, v.connections[i]? = some c ∧ c.isCurrent v.session = true) ↔ v.attached[0]? = some i := by
  have hpos : v.attached.length ≠ 0 := fun hzero => h.live hlive (List.length_eq_zero_iff.mp hzero)
  rw [h.placed i 0]
  constructor
  · rintro ⟨c, hc, hcur⟩
    unfold AgentConnection.isCurrent at hcur
    split at hcur
    next handle hhandle =>
      simp only [AgentSession.isCurrent, StreamState.isCurrent, Bool.and_eq_true, beq_iff_eq] at hcur
      have hgeneration : c.generation = v.attached.length := by
        rw [AgentConnection.generation, hhandle, ← h.generation, ← hcur.2]
        rfl
      exact ⟨c, hc, hgeneration ▸ hpos, hgeneration⟩
    next => cases hcur
  · rintro ⟨c, hc, hne, hplace⟩
    refine ⟨c, hc, ?_⟩
    unfold AgentConnection.generation at hne hplace
    cases hhandle : c.handle with
    | none => rw [hhandle] at hne; exact absurd rfl hne
    | some handle =>
      rw [hhandle] at hplace
      simp only [AgentConnection.isCurrent, hhandle, AgentSession.isCurrent, StreamState.isCurrent,
        hlive, h.generation, ← hplace, Option.getD_some, beq_self_eq_true]
      simp

/-- Whatever is called on a superseded connection, the session does not notice. -/
lemma step_superseded {v' : Shared K} {a : SharedAct K} (h : v.Succession)
    (hc : v.connections[i]? = some c) (hnot : c.isCurrent v.session = false)
    (attached : c.generation ≠ 0) (on : a.on = some i) (hstep : v.step P a = some v') :
    v'.session = v.session := by
  have late := (h.sound i c hc).late attached
  cases a with
  | connect | write | endSession | inputDelivered | inputRejected | onTimer => cases on
  | route j serverNonce =>
    cases on
    rw [step, hc] at hstep
    cases hstep
    rfl
  | completeHandshake j clientNonce version =>
    cases on
    rw [step, hc] at hstep
    obtain ⟨d, hd, hrest⟩ := Option.bind_eq_some_iff.mp hstep
    cases hd
    obtain ⟨⟨offset, c', s'⟩, hdone, -⟩ := Option.bind_eq_some_iff.mp hrest
    unfold AgentConnection.completeHandshake at hdone
    split at hdone
    next hstage _ => rcases late with hlate | hlate <;> rw [hlate] at hstage <;> cases hstage
    next => cases hdone
  | onFrame j now frame =>
    cases on
    rw [step, hc] at hstep
    cases hstep
    exact AgentConnection.onFrame_superseded P late hnot now frame
  | onIdle j now out scratch =>
    cases on
    rw [step, hc] at hstep
    cases hstep
    exact AgentConnection.onIdle_superseded P late hnot now out scratch
  | supplySnapshot j now snapshot scrollbackLen flags =>
    cases on
    rw [step, hc] at hstep
    cases hstep
    exact AgentConnection.supplySnapshot_superseded hnot now snapshot scrollbackLen flags
  | reportResize j size =>
    cases on
    rw [step, hc] at hstep
    cases hstep
    exact AgentConnection.reportResize_superseded hnot attached size
  | gates j sendOpen readOpen now =>
    cases on
    rw [step, hc] at hstep
    cases hstep
    rfl
  | close j now =>
    cases on
    rw [step, hc] at hstep
    cases hstep
    exact AgentConnection.close_not_current hnot now

end Shared

/-- For every order of calls on any number of connections of one session: a connection that attached
before the newest one did can change nothing of the session any more; closing a connection detaches
the session if the connection carries it and does nothing else; exactly one connection carries a live
session; and a reaped session stays reaped for the reason it was reaped for. -/
theorem superseded_inert [DecidableEq K] (P : KeySchedule K) (seed : K) (storage : Bytes)
    (now : Timestamp) (limits : SessionLimits) (acts : List (SharedAct K)) (v : Shared K)
    (run : Run (Shared.step P) Anywhere (Shared.create seed storage now limits) acts v) :
    (∀ newest older i a v', v.attached = newest :: older → i ∈ older → a.on = some i →
      v.step P a = some v' → v'.session = v.session) ∧
    (∀ (i : Nat) (c : AgentConnection K) (now : Timestamp), v.connections[i]? = some c →
      (c.isCurrent v.session = true → (c.close v.session now).streams.state = .detached) ∧
      (c.isCurrent v.session = false → c.close v.session now = v.session)) ∧
    (v.session.streams.state = .live →
      ∃! i : Nat, ∃ c : AgentConnection K, v.connections[i]? = some c ∧ c.isCurrent v.session = true) ∧
    (v.session.streams.state = .reaped →
      ∃ reason, v.session.streams.reapReason = some reason ∧
        ∀ more w, Run (Shared.step P) Anywhere v more w →
          w.session.streams.state = .reaped ∧ w.session.streams.reapReason = some reason) := by
  have h : v.Succession := run.inv Shared.Succession
    (fun _ _ _ h _ hstep => Shared.step_succession P h hstep)
    (Shared.create_succession seed storage now limits)
  refine ⟨?_, ?_, ?_, ?_⟩
  · intro newest older i a v' horder hi hon hstep
    obtain ⟨c, hc, hnot, hattached⟩ := h.superseded horder hi
    exact Shared.step_superseded P h hc hnot hattached hon hstep
  · intro i c now _
    exact ⟨fun hcur => AgentConnection.close_current hcur now,
      fun hnot => AgentConnection.close_not_current hnot now⟩
  · intro hlive
    obtain ⟨newest, older, horder⟩ := List.exists_cons_of_ne_nil (h.live hlive)
    refine ⟨newest, (h.current_iff hlive).mpr (by rw [horder]; rfl), fun i hi => ?_⟩
    have hnewest := (h.current_iff hlive).mp hi
    rw [horder] at hnewest
    exact (Option.some.inj hnewest).symm
  · intro hreaped
    obtain ⟨reason, hreason⟩ := Option.isSome_iff_exists.mp (h.reason.mp hreaped)
    refine ⟨reason, hreason, fun more w hmore => ?_⟩
    have hlife := Shared.run_reaped P hmore h hreaped
    simp only [StreamState.life, Prod.mk.injEq] at hlife
    exact ⟨hlife.1.trans hreaped, hlife.2.1.trans hreason⟩

/-- The Resume of a client that has nothing yet, sealed under the keys of `seed`. -/
def resumeFrame (seed clientNonce serverNonce : Nat) : Option (FrameView Nat) :=
  let keys := KeySchedule.counting.deriveConnectionKeys seed clientNonce serverNonce
  let frames := makeDirectionFrames .counting keys .client maxFramesPerEpoch maxBytesPerEpoch
  match writeInto 13 (writeResume ⟨0, 0⟩ protocolVersionMin) with
  | .ok plain => (frames.sealer.seal maxFrame plain).toOption.map Prod.fst
  | .error _ => none

/-- Two connections that resume one after the other. -/
def twoConnections (one two : FrameView Nat) : List (SharedAct Nat) :=
  [.connect 0 false, .route 0 11, .completeHandshake 0 10 protocolVersionMin, .onFrame 0 1 one,
    .connect 2 false, .route 1 13, .completeHandshake 1 12 protocolVersionMin, .onFrame 1 3 two]

/-- A run in which a second connection takes over: closing the first changes nothing. -/
theorem superseded_inert_two :
    ∃ one two v, Run (Shared.step .counting) Anywhere (Shared.create 5 [0, 0, 0, 0] 0 {})
        (twoConnections one two) v ∧ v.attached = [1, 0] ∧
      ∀ now v', v.step .counting (.close 0 now) = some v' → v'.session = v.session := by
  have hrun : ((resumeFrame 5 10 11).bind fun one =>
      (resumeFrame (KeySchedule.counting.advanceConnectionSeed 5) 12 13).bind fun two =>
        (exec (Shared.step .counting) (Shared.create 5 [0, 0, 0, 0] 0 {})
          (twoConnections one two)).map Shared.attached) = some [1, 0] := by
    decide +kernel
  obtain ⟨one, -, hone⟩ := Option.bind_eq_some_iff.mp hrun
  obtain ⟨two, -, htwo⟩ := Option.bind_eq_some_iff.mp hone
  obtain ⟨v, hv, hattached⟩ := Option.map_eq_some_iff.mp htwo
  refine ⟨one, two, v, Run.of_exec hv, hattached, fun now v' hstep => ?_⟩
  exact (superseded_inert _ _ _ _ _ _ _ (Run.of_exec hv)).1 1 [0] 0 (.close 0 now) v' hattached
    (by simp) rfl hstep

end Zet.Session
