import Zet.Session.Resting
import Zet.Session.Supersession

/-!
# When a connection wakes up

`Pump` as the loop of the agent calls it, on a connection from its first byte: every whole frame there is
and then a poll. The machine is a session with all its connections under any calls (`Served`).

A pump that is idle leaves no whole frame behind and has named a time later than now, and until then the
same pump comes to the same nothing (`idle_waits`), on every connection whose caller supplies a snapshot
only after it was asked for one.
-/

namespace Zet.Session
open Zet.Core Zet.Wire Zet.Lib

variable {K : Type}

/-- `AgentConnection::NextDeadline`. -/
def AgentOpening.nextDeadline (c : AgentOpening K) : Deadline :=
  match c.rest with
  | some rest => rest.nextDeadline
  | none => if c.failed.isSome then none else some (c.started + handshakeTimeout)

/-- There is nothing to do. -/
def OpeningEvent.Idle : OpeningEvent K → Prop
  | .idle => True
  | .carried .idle => True
  | _ => False

namespace AgentOpening
open AgentConnection

section Carried
variable [DecidableEq K] (sealedView : ClearFrame → FrameView K) (P : KeySchedule K)
  {c c' : AgentConnection K} {s s' : AgentSession K} {asked : Bool} {now : Timestamp} {out scratch : Nat}

omit [DecidableEq K] in
/-- A garbled stream keeps the connection timed. -/
lemma pumpGarbled_keeps (timed : c.Timed s.streams.input asked) (valid : s.streams.input.Valid)
    (e : ProtoError) : Keeps c s asked (pumpGarbled c s now e) := by
  have hfailing : Keeps c s asked (.error (c.failed.getD (.proto e)), c.fail (.proto e), s) :=
    .of rfl (timed.fail _) (.same valid rfl) rfl fun _ h => (by cases h)
  unfold pumpGarbled
  dsimp only
  split
  · exact guarded_keeps timed valid fun _ _ _ => hfailing
  · exact guarded_keeps timed valid fun _ _ _ => hfailing
  · exact hfailing

omit [DecidableEq K] in
/-- A garbled stream reports no event. -/
lemma pumpGarbled_error (e : ProtoError) (event : ConnectionEvent K) :
    (pumpGarbled c s now e).1 ≠ .ok event := by
  unfold pumpGarbled AgentConnection.guarded
  dsimp only
  repeat' split
  all_goals exact fun h => (by cases h)

/-- Every frame there is, and then a poll: with fuel for the bytes there are, a pump that is idle has
left no frame and comes to a rest. -/
lemma pumpCarried_keeps (now : Timestamp) (scratch fuel : Nat) (room : connectionOutSize ≤ out) :
    ∀ (frames : FrameStream) (c : AgentConnection K) (s : AgentSession K),
      c.Timed s.streams.input asked → s.streams.input.Valid → frames.buffered < fuel →
      Keeps c s asked (pumpCarried sealedView P now out scratch fuel frames c s).2 ∧
        (c.failed = none → ∀ frames' c' s',
          pumpCarried sealedView P now out scratch fuel frames c s = (frames', .ok .idle, c', s') →
          (frames'.next).1 = .ok none ∧ Rests P c' s' now out scratch) := by
  induction fuel with
  | zero => exact fun _ _ _ _ _ h => absurd h (Nat.not_lt_zero _)
  | succ fuel ih =>
    intro frames c s timed valid enough
    rw [pumpCarried]
    split
    next e frames₁ hnext =>
      have hkeeps : Keeps c s asked (pumpGarbled c s now e) := pumpGarbled_keeps timed valid e
      refine ⟨hkeeps, fun _ frames' c' s' h => ?_⟩
      exact absurd (congrArg (fun r => r.2.1) h) (pumpGarbled_error e .idle)
    next frames₁ hnext =>
      refine ⟨onIdle_keeps P timed valid now out scratch, fun hfail frames' c' s' h => ?_⟩
      obtain ⟨rfl, hidle⟩ := Prod.mk.inj h
      refine ⟨?_, onIdle_rests P timed hfail hidle⟩
      have hdrop := FrameStream.next_none (congrArg Prod.fst hnext)
      rw [(Prod.mk.inj (hnext.symm.trans hdrop)).2, FrameStream.next_dropPending, hnext]
    next frame frames₁ hnext =>
      have hless := FrameStream.next_some hnext
      obtain ⟨hkeeps, hpathB⟩ := onFrame_keeps P now (sealedView frame) scratch timed valid room
      split
      next c₁ s₁ hframe =>
        rw [hframe] at hkeeps
        have htimed : c₁.Timed s₁.streams.input asked := by simpa [asks] using hkeeps.timed
        split
        next hrests =>
          refine ⟨hkeeps, fun hfail frames' c' s' h => ?_⟩
          cases h
          exact ⟨FrameStream.next_of_buffered hrests.2.2, hpathB hrests.1 _ _ hframe hrests.2.1⟩
        next =>
          obtain ⟨hkeeps', hrests⟩ := ih frames₁ c₁ s₁ htimed hkeeps.moves.valid (by omega)
          refine ⟨⟨hkeeps'.timed, hkeeps.moves.trans hkeeps'.moves, hkeeps'.started.trans hkeeps.started,
            fun hfail => hkeeps'.alive (hkeeps.alive hfail rfl)⟩, fun hfail => ?_⟩
          exact hrests (hkeeps.alive hfail rfl)
      next pumped hnot =>
        refine ⟨hkeeps, fun _ frames' c' s' h => ?_⟩
        exact absurd (Prod.mk.inj h).2 (hnot c' s')

/-- A pump of a connection at rest, with no whole frame there. -/
lemma pumpCarried_rests {frames : FrameStream} (rests : Rests P c s now out scratch)
    (none_ : (frames.next).1 = .ok none) (fuel : Nat) {t : Timestamp} (ht : c.nextDeadline.Later t) :
    pumpCarried sealedView P t out scratch (fuel + 1) frames c s =
      (frames.dropPending, .ok .idle, c, s) := by
  rw [pumpCarried, FrameStream.next_none none_]
  dsimp only
  rw [(rests.again t ht).2]

end Carried

/-- `ConnectionBase::SetReadGate`. -/
def setReadGate (c : AgentOpening K) (open_ : Bool) (now : Timestamp) : AgentOpening K :=
  { c with rest := c.rest.map fun rest =>
      { rest with channel := rest.channel.map fun chan => chan.setReadGate open_ now } }

/-- `ConnectionBase::SetSendGate`. -/
def setSendGate (c : AgentOpening K) (open_ : Bool) : AgentOpening K :=
  { c with rest := c.rest.map fun rest =>
      { rest with channel := rest.channel.map fun chan => chan.setSendGate open_ } }

/-- `AgentConnection::SupplySnapshot`. -/
def supplySnapshot (c : AgentOpening K) (s : KeyedSession K) (now : Timestamp) (snapshot : Bytes)
    (scrollbackLen flags : Nat) : AgentOpening K × KeyedSession K :=
  match c.rest with
  | none => (c, s)
  | some rest =>
    let (rest, session) := rest.supplySnapshot s.toAgentSession now snapshot scrollbackLen flags
    ({ c with rest := some rest }, { s with toAgentSession := session })

/-- What every connection keeps, of which a snapshot was asked for or not. -/
structure Honest (c : AgentOpening K) (input : ReceiveCursor) (asked : Bool) : Prop where
  rest : ∀ rest, c.rest = some rest →
    rest.Timed input asked ∧ rest.started = c.started ∧ rest.failed = c.failed
  early : c.rest = none → asked = false
  attempt : c.rest = none → c.stage = .handshake → c.attempt.isSome

/-- The caller is asked for a snapshot. -/
def asks : Except SessionError (OpeningEvent K) → Bool
  | .ok (.carried event) => AgentConnection.asks (.ok event)
  | _ => false

/-- What every call keeps. -/
structure Holds (s : KeyedSession K) (asked : Bool) (res : Pumped K) : Prop where
  honest : res.2.1.Honest res.2.2.streams.input (asked || asks res.1)
  moves : s.toAgentSession.Advances res.2.2.toAgentSession

variable {c c' : AgentOpening K} {s s' : KeyedSession K} {input : ReceiveCursor} {asked : Bool}
  {now : Timestamp} {out scratch : Nat}

/-- An honest connection stays honest as the input advances. -/
lemma Honest.advance {input' : ReceiveCursor} (h : c.Honest input asked)
    (grows : input.ackOffset ≤ input'.ackOffset) : c.Honest input' asked where
  rest := fun rest hrest => ⟨(h.rest rest hrest).1.advance grows, (h.rest rest hrest).2⟩
  early := h.early
  attempt := h.attempt

/-- A new connection is honest. -/
lemma create_honest (frameStorage : Nat) (now : Timestamp) (ceiling : UInt16) (input : ReceiveCursor) :
    (create (K := K) frameStorage now ceiling).Honest input false :=
  ⟨fun _ h => (by cases h), fun _ => rfl, fun _ h => (by cases h)⟩

/-- What a connection keeps does not depend on the frames or the Hello. -/
lemma Honest.same (h : c.Honest input asked) (rest : c'.rest = c.rest) (started : c'.started = c.started)
    (failed : c'.failed = c.failed)
    (attempt : c'.rest = none → c'.stage = .handshake → c'.attempt.isSome) : c'.Honest input asked where
  rest := by rw [rest, started, failed]; exact h.rest
  early := by rw [rest]; exact h.early
  attempt := attempt

/-- So is one that fails. -/
lemma Honest.fail (h : c.Honest input asked) (e : SessionError) : (c.fail e).Honest input asked where
  rest := by
    intro rest hrest
    obtain ⟨rest', hrest', rfl⟩ := Option.map_eq_some_iff.mp hrest
    obtain ⟨htimed, hstarted, hfailed⟩ := h.rest rest' hrest'
    exact ⟨htimed.fail e, hstarted, by rw [AgentConnection.fail, AgentOpening.fail, hfailed]⟩
  early := fun hrest => h.early (Option.map_eq_none_iff.mp hrest)
  attempt := fun hrest => h.attempt (Option.map_eq_none_iff.mp hrest)

/-- Bytes taken in keep the connection honest. -/
lemma Honest.onBytes (h : c.Honest input asked) (chunk : Bytes) :
    (c.onBytes chunk).2.Honest input asked := by
  unfold AgentOpening.onBytes
  split
  · exact h
  split
  · exact Honest.fail (by exact h.same rfl rfl rfl h.attempt) _
  · exact h.same rfl rfl rfl h.attempt

/-- Routing keeps it honest. -/
lemma Honest.route (h : c.Honest input asked) (Q : Crypto K) (s : KeyedSession K)
    (serverNonce : HandshakeNonce) : (c.route Q s serverNonce).Honest input asked := by
  unfold AgentOpening.route
  split
  · exact h
  · exact h.same rfl rfl rfl fun _ _ => rfl

/-- So does routing to no session. -/
lemma Honest.routeUnknown (h : c.Honest input asked) (Q : Crypto K) (localSecret : K)
    (serverNonce : HandshakeNonce) : (c.routeUnknown Q localSecret serverNonce).Honest input asked := by
  unfold AgentOpening.routeUnknown
  split
  · exact h
  · exact h.same rfl rfl rfl fun _ _ => rfl

/-- A gate of the channel. -/
lemma Honest.gate (h : c.Honest input asked) {set : Channel K → Channel K}
    (timed : ∀ chan : Channel K, chan.Timed input → (set chan).Timed input)
    (role : ∀ chan : Channel K, (set chan).role = chan.role) :
    ({ c with rest := c.rest.map fun rest => { rest with channel := rest.channel.map set } } :
      AgentOpening K).Honest input asked where
  rest := by
    intro rest hrest
    obtain ⟨rest', hrest', rfl⟩ := Option.map_eq_some_iff.mp hrest
    obtain ⟨htimed, hstarted, hfailed⟩ := h.rest rest' hrest'
    refine ⟨⟨htimed.stage, fun hstage => ?_, htimed.keys, htimed.snapshot, htimed.live, ?_⟩, hstarted,
      hfailed⟩
    · obtain ⟨hchan, hothers⟩ := htimed.resume hstage
      exact ⟨by dsimp only; rw [hchan]; rfl, hothers⟩
    · intro chan hchan
      obtain ⟨chan', hchan', rfl⟩ := Option.map_eq_some_iff.mp hchan
      obtain ⟨htimed', hrole⟩ := htimed.chan chan' hchan'
      exact ⟨timed chan' htimed', (role chan').trans hrole⟩
  early := fun hrest => h.early (Option.map_eq_none_iff.mp hrest)
  attempt := fun hrest => h.attempt (Option.map_eq_none_iff.mp hrest)

/-- A snapshot supplied when it was asked for. -/
lemma Honest.supplySnapshot (h : c.Honest s.streams.input true) (valid : s.streams.input.Valid)
    (now : Timestamp) (snapshot : Bytes) (scrollbackLen flags : Nat) :
    (c.supplySnapshot s now snapshot scrollbackLen flags).1.Honest
        (c.supplySnapshot s now snapshot scrollbackLen flags).2.streams.input true ∧
      s.toAgentSession.Advances
        (c.supplySnapshot s now snapshot scrollbackLen flags).2.toAgentSession := by
  unfold AgentOpening.supplySnapshot
  split
  next hrest => exact absurd (h.early hrest) (by decide)
  next rest hrest =>
    obtain ⟨htimed, hstarted, hfailed⟩ := h.rest rest hrest
    obtain ⟨htimed', hmoves, hstarted', hfailed'⟩ :=
      supplySnapshot_keeps htimed valid now snapshot scrollbackLen flags
    refine ⟨⟨?_, fun h => (by cases h), fun h => (by cases h)⟩, hmoves⟩
    rintro _ ⟨⟩
    exact ⟨htimed', hstarted'.trans hstarted, hfailed'.trans hfailed⟩

/-- Letting go of the session leaves its input alone. -/
lemma close_moves (valid : s.streams.input.Valid) (c : AgentOpening K) (now : Timestamp) :
    s.toAgentSession.Advances (c.close s now).toAgentSession := by
  unfold AgentOpening.close AgentConnection.close
  split
  · split
    · refine .same valid ?_
      simp only [AgentSession.detach, StreamState.detach]
      split <;> rfl
    · exact .same valid rfl
  · exact .same valid rfl

/-- A pump that asks for nothing holds if the connection stays honest. -/
lemma Holds.of {event : Except SessionError (OpeningEvent K)} (silent : asks event = false)
    (honest : c'.Honest s'.streams.input asked)
    (moves : s.toAgentSession.Advances s'.toAgentSession) : Holds s asked (event, c', s') :=
  ⟨by rw [silent, Bool.or_false]; exact honest, moves⟩

/-- Refusing holds. -/
lemma refuse_holds (h : c.Honest s.streams.input asked) (valid : s.streams.input.Valid)
    (e : SessionError) : Holds s asked (c.refuse s e) := by
  have hinput : (c.refuse s e).2.2.streams.input = s.streams.input := by
    unfold refuse
    dsimp only
    repeat' split
    · simp only [AgentSession.kill, StreamState.kill, StreamState.reap]
      split <;> rfl
    · rfl
    · rfl
  refine .of rfl ?_ (.same valid hinput)
  exact hinput.symm ▸ h.fail e

/-- Pumping the Hello holds. -/
lemma pumpHello_holds (h : c.Honest s.streams.input asked) (valid : s.streams.input.Valid) :
    Holds s asked (c.pumpHello s) := by
  have hsame : ∀ frames, ({ c with frames := frames } : AgentOpening K).Honest s.streams.input asked :=
    fun _ => h.same rfl rfl rfl h.attempt
  unfold pumpHello
  split
  · exact refuse_holds (hsame _) valid _
  · exact .of rfl (hsame _) (.same valid rfl)
  · dsimp only
    split
    · exact refuse_holds (hsame _) valid _
    split
    · exact refuse_holds (hsame _) valid _
    · exact .of rfl (h.same rfl rfl rfl fun _ h => (by cases h)) (.same valid rfl)

section Pump
variable (P : KeySchedule K) (Q : Crypto K)

/-- A connection that goes on once its peer has proved itself. -/
lemma completed_holds (h : c.Honest s.streams.input asked) (valid : s.streams.input.Valid)
    (hrest : c.rest = none) (hfail : c.failed = none) (attempt : Attempt K) (written : Bytes) :
    Holds s asked (c.completed P s attempt written) := by
  have hasked := h.early hrest
  unfold completed
  split
  next e s' hfinish =>
    have hs : s' = s := by
      unfold Attempt.finish at hfinish
      repeat' split at hfinish
      all_goals cases hfinish
      · rfl
      · rfl
    rw [hs]
    exact refuse_holds h valid _
  next result s' hfinish =>
    have hs : s'.toAgentSession = s.toAgentSession := by
      unfold Attempt.finish at hfinish
      repeat' split at hfinish
      all_goals cases hfinish
      rfl
    have hinput : (s'.toAgentSession.setGridInfo result.version c.helloGridCapable).streams.input =
        s.streams.input := by
      rw [hs]
      rfl
    refine .of ?_ ⟨?_, fun h => (by cases h), fun h => (by cases h)⟩ (.same valid hinput)
    · split <;> rfl
    · rintro _ ⟨⟩
      refine ⟨⟨.inl rfl, fun _ => ⟨rfl, rfl, rfl, rfl, hasked⟩, fun _ frames hframes => ?_,
        fun h => (by cases h), fun h => (by cases h), fun _ h => (by cases h)⟩, rfl, ?_⟩
      · rcases hframes with hframes | hframes
        · obtain rfl := Option.some.inj hframes
          exact ⟨rfl, rfl, rfl, rfl, rfl⟩
        · obtain ⟨keys, -, rfl⟩ := Option.map_eq_some_iff.mp hframes
          exact ⟨rfl, rfl, rfl, rfl, rfl⟩
      · exact hfail.symm

/-- The body of the handshake holds. -/
lemma handshakeBody_holds (h : c.Honest s.streams.input asked) (valid : s.streams.input.Valid)
    (hrest : c.rest = none) (hfail : c.failed = none) (body : Bytes) (out : Nat) :
    Holds s asked (c.handshakeBody P Q s body out) := by
  have hsame : ∀ attempt, ({ c with attempt := some attempt } : AgentOpening K).Honest s.streams.input
      asked := fun _ => h.same rfl rfl rfl fun _ _ => rfl
  unfold handshakeBody
  split
  · exact .of rfl h (.same valid rfl)
  split
  · exact refuse_holds (hsame _) valid _
  next step attempt _ =>
  dsimp only
  split
  · exact completed_holds P (hsame _) valid hrest hfail _ _
  · split
    · exact .of rfl (hsame _) (.same valid rfl)
    · exact .of rfl (hsame _) (.same valid rfl)

/-- Pumping the handshake holds. -/
lemma pumpHandshake_holds (h : c.Honest s.streams.input asked) (valid : s.streams.input.Valid)
    (hrest : c.rest = none) (hfail : c.failed = none) (out : Nat) :
    Holds s asked (c.pumpHandshake P Q s out) := by
  have hsame : ∀ frames, ({ c with frames := frames } : AgentOpening K).Honest s.streams.input asked :=
    fun _ => h.same rfl rfl rfl h.attempt
  unfold pumpHandshake
  split
  · refine handshakeBody_holds P Q (c := { c with helloAnswered := true }) ?_ valid hrest hfail _ out
    exact h.same rfl rfl rfl h.attempt
  split
  · exact refuse_holds (hsame _) valid _
  · exact .of rfl (hsame _) (.same valid rfl)
  · next frame frames _ =>
    dsimp only
    split
    · exact refuse_holds (hsame _) valid _
    · exact handshakeBody_holds P Q (c := { c with frames := frames }) (hsame _) valid hrest hfail _ out

/-- A pump keeps the timers honest. -/
lemma pump_holds [DecidableEq K] (sealedView : ClearFrame → FrameView K)
    (h : c.Honest s.streams.input asked) (valid : s.streams.input.Valid) (now : Timestamp)
    (out scratch : Nat) : Holds s asked (c.pump sealedView P Q s now out scratch) := by
  unfold pump
  split
  · exact .of rfl h (.same valid rfl)
  next hfail =>
  split
  · exact .of rfl h (.same valid rfl)
  next hroom =>
  split
  · exact refuse_holds h valid _
  split
  next rest hrest =>
    obtain ⟨htimed, hstarted, hfailed⟩ := h.rest rest hrest
    obtain ⟨hkeeps, -⟩ := pumpCarried_keeps sealedView P now scratch
      (c.frames.held.length + 1) (Nat.not_lt.mp fun hlt => hroom (.inl hlt)) c.frames rest
      s.toAgentSession htimed valid (Nat.lt_succ_of_le (Nat.sub_le _ _))
    dsimp only
    refine ⟨⟨?_, fun h => (by cases h), fun h => (by cases h)⟩, hkeeps.moves⟩
    rintro _ ⟨⟩
    refine ⟨?_, hkeeps.started.trans hstarted, rfl⟩
    have hasks : ∀ event : Except SessionError (ConnectionEvent K),
        asks (event.map OpeningEvent.carried) = AgentConnection.asks event := by
      intro event
      cases event <;> rfl
    rw [hasks]
    exact hkeeps.timed
  next hrest =>
    split
    · exact pumpHello_holds h valid
    · exact .of rfl h (.same valid rfl)
    · exact pumpHandshake_holds P Q h valid hrest hfail out

/-- What a handshake takes in it answers. -/
lemma handshakeBody_busy (hattempt : c.attempt.isSome) (body : Bytes) (out : Nat)
    {event : OpeningEvent K} (h : (c.handshakeBody P Q s body out).1 = .ok event) : ¬event.Idle := by
  unfold handshakeBody at h
  split at h
  next hnone =>
    rw [hnone] at hattempt
    cases hattempt
  split at h
  · cases h
  next step attempt hhandle =>
  have hwritten : step.written.isEmpty = false := by
    exact ServerHandshake.handle_writes Q _ _ _ (congrArg Prod.fst hhandle)
  dsimp only at h
  split at h
  · unfold completed at h
    split at h
    · cases h
    · simp only [hwritten, Bool.false_eq_true, if_false] at h
      cases h
      exact id
  · simp only [hwritten, Bool.false_eq_true, if_false] at h
    cases h
    exact id

variable [DecidableEq K] (sealedView : ClearFrame → FrameView K)

/-- What an idle pump comes to: no whole frame is left, it is before the next deadline, and so does
nothing a pump does until then but drop the bytes of the frame handed over last. -/
structure Rests (c : AgentOpening K) (s : KeyedSession K) (now : Timestamp) (out scratch : Nat)
    (event : OpeningEvent K) : Prop where
  drained : (c.frames.next).1 = .ok none
  later : c.nextDeadline.Later now
  again : ∀ t, c.nextDeadline.Later t →
    c.pump sealedView P Q s t out scratch = (.ok event, { c with frames := c.frames.dropPending }, s)

/-- Waiting for the next frame of the handshake. -/
lemma rests_early (hfail : c.failed = none) (hrest : c.rest = none)
    (hroom : ¬(out < connectionOutSize ∨ scratch < connectionScratchSize))
    (hearly : c.handshakeExpired now = false) (hnone : (c.frames.next).1 = .ok none)
    (hstage : c.stage = .awaitHello ∨ c.stage = .handshake ∧ c.helloAnswered = true) :
    Rests P Q sealedView c s now out scratch .idle := by
  have hnext : ∀ t, c.nextDeadline.Later t ↔ t < c.started + handshakeTimeout := by
    intro t
    rw [nextDeadline, hrest, hfail]
    exact later_some
  have hexpired : ∀ t, c.handshakeExpired t = false ↔ t < c.started + handshakeTimeout := by
    intro t
    simp [handshakeExpired, hrest]
  refine ⟨hnone, (hnext now).mpr ((hexpired now).mp hearly), fun t ht => ?_⟩
  have hnot := (hexpired t).mpr ((hnext t).mp ht)
  have hdrop := FrameStream.next_none hnone
  rw [pump, hfail]
  simp only [hroom, hnot, hrest, Bool.false_eq_true, if_false]
  rcases hstage with hstage | ⟨hstage, hanswered⟩
  · simp only [hstage, pumpHello, hdrop, hfail, hrest]
  · simp only [hstage, pumpHandshake, hanswered, hdrop, hfail, hrest, Bool.not_true, Bool.false_eq_true,
      if_false]

/-- A pump that is idle comes to a rest. -/
theorem pump_rests (honest : c.Honest s.streams.input asked) (valid : s.streams.input.Valid)
    {event : OpeningEvent K} (h : c.pump sealedView P Q s now out scratch = (.ok event, c', s'))
    (idle : event.Idle) : Rests P Q sealedView c' s' now out scratch event := by
  unfold pump at h
  split at h
  · cases h
  next hfail =>
  split at h
  · cases h
  next hroom =>
  split at h
  · cases h
  next hearly =>
  have hearly : c.handshakeExpired now = false := by simpa using hearly
  split at h
  next rest hrest =>
    obtain ⟨htimed, hstarted, hfailed⟩ := honest.rest rest hrest
    have hroom' : connectionOutSize ≤ out := Nat.not_lt.mp fun hlt => hroom (.inl hlt)
    rcases hpump : pumpCarried sealedView P now out scratch (c.frames.held.length + 1) c.frames rest
      s.toAgentSession with ⟨frames, result, rest', session⟩
    rw [hpump] at h
    dsimp only at h
    obtain ⟨hkeeps, hrests⟩ := pumpCarried_keeps sealedView P now scratch
      (c.frames.held.length + 1) hroom' c.frames rest s.toAgentSession htimed valid
      (Nat.lt_succ_of_le (Nat.sub_le _ _))
    -- behind the handshake it is the session's pump that is idle
    obtain ⟨rfl, hresult⟩ : event = .carried .idle ∧ result = .ok .idle := by
      cases result with
      | error e => cases h
      | ok event' =>
        cases h
        cases event' with
        | idle => exact ⟨rfl, rfl⟩
        | _ => exact absurd idle id
    subst hresult
    cases h
    obtain ⟨hnone, hrest'⟩ := hrests (hfailed.trans hfail) _ _ _ hpump
    have halive := hrest'.alive
    rw [hpump] at hkeeps
    refine ⟨hnone, hrest'.later, fun t ht => ?_⟩
    obtain ⟨hnot, -⟩ := hrest'.again t ht
    have hexpired : ∀ d : AgentOpening K, d.rest = some rest' → d.started = c.started →
        d.handshakeExpired t = false := by
      intro d hdrest hdstarted
      have hstart : rest'.started = c.started := hkeeps.started.trans hstarted
      rw [handshakeExpired, hdrest, hdstarted, ← hstart]
      exact hnot
    have hagain := pumpCarried_rests sealedView P hrest' hnone frames.held.length ht
    rw [pump]
    simp only [halive, hroom, if_false, hexpired, hagain, Bool.false_eq_true]
    rfl
  next hrest =>
    split at h
    next hstage =>
      unfold pumpHello at h
      split at h
      · cases h
      next frames hnext =>
        cases h
        have hdrop := FrameStream.next_none (congrArg Prod.fst hnext)
        obtain rfl := (Prod.mk.inj (hnext.symm.trans hdrop)).2
        refine rests_early P Q sealedView hfail hrest hroom hearly ?_ (.inl hstage)
        rw [FrameStream.next_dropPending, hnext]
      next =>
        dsimp only at h
        repeat' split at h
        all_goals cases h
        exact absurd idle id
    next => 
      cases h
      exact absurd idle id
    next hstage =>
      unfold pumpHandshake at h
      have hattempt := honest.attempt hrest hstage
      split at h
      · -- a body of the handshake is answered or refused, never idle
        exact absurd idle (handshakeBody_busy P Q (by exact hattempt) _ _ (congrArg Prod.fst h))
      next hanswered =>
      split at h
      · cases h
      next frames hnext =>
        cases h
        have hdrop := FrameStream.next_none (congrArg Prod.fst hnext)
        obtain rfl := (Prod.mk.inj (hnext.symm.trans hdrop)).2
        refine rests_early P Q sealedView hfail hrest hroom hearly ?_
          (.inr ⟨hstage, by simpa using hanswered⟩)
        rw [FrameStream.next_dropPending, hnext]
      next =>
        dsimp only at h
        split at h
        · cases h
        · exact absurd idle (handshakeBody_busy P Q (by exact hattempt) _ _ (congrArg Prod.fst h))

end Pump

end AgentOpening

/-- A session and its connections from their first byte, each with whether it asked for a snapshot. -/
structure Served (K : Type) where
  session : KeyedSession K
  connections : List (AgentOpening K × Bool)

/-- What can be called on the session and on its connections. -/
inductive ServedAct (K : Type) where
  | accept (frameStorage : Nat) (now : Timestamp) (ceiling : UInt16)
  | onBytes (i : Nat) (chunk : Bytes)
  | pump (i : Nat) (now : Timestamp) (out scratch : Nat)
  | route (i : Nat) (serverNonce : HandshakeNonce)
  | routeUnknown (i : Nat) (localSecret : K) (serverNonce : HandshakeNonce)
  | setReadGate (i : Nat) (open_ : Bool) (now : Timestamp)
  | setSendGate (i : Nat) (open_ : Bool)
  | supplySnapshot (i : Nat) (now : Timestamp) (snapshot : Bytes) (scrollbackLen flags : Nat)
  | close (i : Nat) (now : Timestamp)
  | write (bytes : Bytes)
  | endSession (message : SessionEndMessage)
  | inputDelivered (count : Nat)
  | inputRejected (count : Nat)
  | onTimer (now : Timestamp)

namespace Served

/-- A session nobody has connected to. -/
def create (id : SessionId) (auth seed : K) (storage : Bytes) (now : Timestamp)
    (limits : SessionLimits) : Served K :=
  ⟨⟨.create seed storage now limits, id, auth, .empty⟩, []⟩

/-- The state after a call on connection `i`. -/
def put (v : Served K) (i : Nat) (c : AgentOpening K) (asked : Bool) (s : KeyedSession K) : Served K :=
  ⟨s, v.connections.set i (c, asked)⟩

/-- The state after a call on the session alone. -/
def onSession (v : Served K) (s : AgentSession K) : Served K :=
  { v with session := { v.session with toAgentSession := s } }

variable [DecidableEq K] (sealedView : ClearFrame → FrameView K) (P : KeySchedule K) (Q : Crypto K)

/-- One call. -/
def step (v : Served K) : ServedAct K → Option (Served K)
  | .accept frameStorage now ceiling =>
    some { v with connections := v.connections ++ [(.create frameStorage now ceiling, false)] }
  | .onBytes i chunk => do
    let (c, asked) ← v.connections[i]?
    some (v.put i (c.onBytes chunk).2 asked v.session)
  | .pump i now out scratch => do
    let (c, asked) ← v.connections[i]?
    let (event, c', s') := c.pump sealedView P Q v.session now out scratch
    some (v.put i c' (asked || AgentOpening.asks event) s')
  | .route i serverNonce => do
    let (c, asked) ← v.connections[i]?
    some (v.put i (c.route Q v.session serverNonce) asked v.session)
  | .routeUnknown i localSecret serverNonce => do
    let (c, asked) ← v.connections[i]?
    some (v.put i (c.routeUnknown Q localSecret serverNonce) asked v.session)
  | .setReadGate i open_ now => do
    let (c, asked) ← v.connections[i]?
    some (v.put i (c.setReadGate open_ now) asked v.session)
  | .setSendGate i open_ => do
    let (c, asked) ← v.connections[i]?
    some (v.put i (c.setSendGate open_) asked v.session)
  | .supplySnapshot i now snapshot scrollbackLen flags => do
    let (c, asked) ← v.connections[i]?
    let (c', s') := c.supplySnapshot v.session now snapshot scrollbackLen flags
    some (v.put i c' asked s')
  | .close i now => do
    let (c, _) ← v.connections[i]?
    some { v with session := c.close v.session now }
  | .write bytes => some (v.onSession (v.session.write bytes).2)
  | .endSession message => some (v.onSession (v.session.endWith message))
  | .inputDelivered count => some (v.onSession (v.session.inputDelivered count).2)
  | .inputRejected count => some (v.onSession (v.session.inputRejected count).2)
  | .onTimer now => some (v.onSession (v.session.onTimer now))

/-- A snapshot is supplied only on a connection that asked for one. -/
def Proper (v : Served K) : ServedAct K → Prop
  | .supplySnapshot i _ _ _ _ => ∃ c, v.connections[i]? = some (c, true)
  | _ => True

/-- What every session and every connection of it keeps. -/
structure Kept (v : Served K) : Prop where
  valid : v.session.streams.input.Valid
  honest : ∀ x ∈ v.connections, x.1.Honest v.session.streams.input x.2

variable {v v' : Served K} {i : Nat} {c c' : AgentOpening K} {asked asked' : Bool} {s' : KeyedSession K}

omit [DecidableEq K] in
/-- The session moved, and its connections with it. -/
lemma Kept.moved (h : v.Kept) (moves : v.session.toAgentSession.Advances s'.toAgentSession) :
    (⟨s', v.connections⟩ : Served K).Kept where
  valid := moves.valid
  honest := fun x hx => (h.honest x hx).advance moves.grows

omit [DecidableEq K] in
/-- One connection was called, and the session moved. -/
lemma Kept.put (h : v.Kept) (moves : v.session.toAgentSession.Advances s'.toAgentSession)
    (honest : c'.Honest s'.streams.input asked') : (v.put i c' asked' s').Kept where
  valid := moves.valid
  honest := by
    intro x hx
    rcases List.mem_or_eq_of_mem_set hx with hx | rfl
    · exact (h.moved moves).honest x hx
    · exact honest

omit [DecidableEq K] in
/-- Putting an honest connection back keeps the server. -/
lemma Kept.put_same (h : v.Kept) (honest : c'.Honest v.session.streams.input asked') :
    (v.put i c' asked' v.session).Kept :=
  h.put (.same h.valid rfl) honest

omit [DecidableEq K] in
/-- The connection a call is made on. -/
lemma Kept.of_get (h : v.Kept) (hc : v.connections[i]? = some (c, asked)) :
    c.Honest v.session.streams.input asked :=
  h.honest (c, asked) (List.mem_of_getElem? hc)

/-- A call keeps it. -/
lemma Kept.step {a : ServedAct K} (h : v.Kept) (proper : v.Proper a)
    (hstep : v.step sealedView P Q a = some v') : v'.Kept := by
  cases a with
  | accept frameStorage now ceiling =>
    cases hstep
    refine ⟨h.valid, fun x hx => ?_⟩
    rcases List.mem_append.mp hx with hx | hx
    · exact h.honest x hx
    · obtain rfl := List.mem_singleton.mp hx
      exact AgentOpening.create_honest _ _ _ _
  | onBytes i chunk =>
    obtain ⟨⟨c, asked⟩, hc, hv⟩ := Option.bind_eq_some_iff.mp hstep
    cases hv
    exact h.put_same ((h.of_get hc).onBytes chunk)
  | pump i now out scratch =>
    obtain ⟨⟨c, asked⟩, hc, hv⟩ := Option.bind_eq_some_iff.mp hstep
    cases hv
    have hholds := AgentOpening.pump_holds P Q sealedView (h.of_get hc) h.valid now out scratch
    exact h.put hholds.moves hholds.honest
  | route i serverNonce =>
    obtain ⟨⟨c, asked⟩, hc, hv⟩ := Option.bind_eq_some_iff.mp hstep
    cases hv
    exact h.put_same ((h.of_get hc).route Q v.session serverNonce)
  | routeUnknown i localSecret serverNonce =>
    obtain ⟨⟨c, asked⟩, hc, hv⟩ := Option.bind_eq_some_iff.mp hstep
    cases hv
    exact h.put_same ((h.of_get hc).routeUnknown Q localSecret serverNonce)
  | setReadGate i open_ now =>
    obtain ⟨⟨c, asked⟩, hc, hv⟩ := Option.bind_eq_some_iff.mp hstep
    cases hv
    exact h.put_same ((h.of_get hc).gate (fun _ htimed => htimed.same rfl rfl rfl) fun _ => rfl)
  | setSendGate i open_ =>
    obtain ⟨⟨c, asked⟩, hc, hv⟩ := Option.bind_eq_some_iff.mp hstep
    cases hv
    exact h.put_same ((h.of_get hc).gate (fun _ htimed => htimed.same rfl rfl rfl) fun _ => rfl)
  | supplySnapshot i now snapshot scrollbackLen flags =>
    obtain ⟨⟨c, asked⟩, hget, hv⟩ := Option.bind_eq_some_iff.mp hstep
    obtain ⟨c, hc⟩ := proper
    obtain ⟨rfl, rfl⟩ := Prod.mk.inj (Option.some.inj (hget.symm.trans hc))
    cases hv
    obtain ⟨hhonest, hmoves⟩ := (h.of_get hc).supplySnapshot h.valid now snapshot scrollbackLen flags
    exact h.put hmoves hhonest
  | close i now =>
    obtain ⟨⟨c, asked⟩, hc, hv⟩ := Option.bind_eq_some_iff.mp hstep
    cases hv
    exact h.moved (AgentOpening.close_moves h.valid c now)
  | write bytes =>
    cases hstep
    refine h.moved (.same h.valid ?_)
    show (v.session.write bytes).2.streams.input = _
    rw [(v.session.write_streams bytes).2]
    exact StreamState.write_input _ bytes
  | endSession message =>
    cases hstep
    exact h.moved (.same h.valid rfl)
  | inputDelivered count =>
    cases hstep
    obtain ⟨hvalid, hgrows⟩ := ReceiveCursor.markDelivered_grows h.valid count
    exact h.moved ⟨hvalid, hgrows⟩
  | inputRejected count =>
    cases hstep
    obtain ⟨hvalid, hgrows⟩ := ReceiveCursor.unreceive_grows h.valid count
    exact h.moved ⟨hvalid, hgrows⟩
  | onTimer now =>
    cases hstep
    refine h.moved (.same h.valid ?_)
    show (v.session.streams.onTimer now).input = _
    unfold StreamState.onTimer StreamState.reap
    repeat' split
    all_goals rfl

end Served

/-- No busy loop and no lost wakeup. Whatever was called on a channel, open or gated, a poll with nothing
to send has named a time later than now, and until then a poll sends nothing and changes nothing.
Whatever was called on a session and its connections, where snapshots are supplied only when asked for,
an idle pump leaves no whole frame, has named a time later than now, and until then a pump is idle and
changes nothing. -/
theorem idle_waits {K : Type} [DecidableEq K] (sealedView : ClearFrame → FrameView K)
    (P : KeySchedule K) (Q : Crypto K) :
    (∀ (start p q : Port K) (calls : List (PortCall K)) (now : Timestamp) (out scratch : Nat),
      start.Fresh → Run (portStep P) Anywhere start calls p →
      p.poll P now out scratch = (.ok none, q) →
      q.chan.nextDeadline.Later now ∧
        ∀ t, q.chan.nextDeadline.Later t → q.poll P t out scratch = (.ok none, q)) ∧
    (∀ (id : SessionId) (auth seed : K) (storage : Bytes) (begun : Timestamp) (limits : SessionLimits)
      (acts : List (ServedAct K)) (v : Served K) (i : Nat) (c c' : AgentOpening K) (asked : Bool)
      (now : Timestamp) (out scratch : Nat) (event : OpeningEvent K) (s' : KeyedSession K),
      Run (Served.step sealedView P Q) Served.Proper (.create id auth seed storage begun limits) acts v →
      v.connections[i]? = some (c, asked) →
      c.pump sealedView P Q v.session now out scratch = (.ok event, c', s') → event.Idle →
      (c'.frames.next).1 = .ok none ∧ c'.nextDeadline.Later now ∧
        ∀ t, c'.nextDeadline.Later t → c'.pump sealedView P Q s' t out scratch =
          (.ok event, { c' with frames := c'.frames.dropPending }, s')) := by
  constructor
  · intro start p q calls now out scratch fresh run hpoll
    have hkept : p.Kept := run.inv Port.Kept (fun _ _ _ hinv _ hstep => hinv.step hstep) fresh.kept
    exact (Port.poll_waits P hkept.1 hpoll).2
  · intro id auth seed storage begun limits acts v i c c' asked now out scratch event s' run hc hpump idle
    have hstart : (Served.create id auth seed storage begun limits).Kept :=
      ⟨.create _ _, fun x hx => (by cases hx)⟩
    have hkept : v.Kept := run.inv Served.Kept
      (fun _ _ _ hinv proper hstep => hinv.step sealedView P Q proper hstep) hstart
    have hrests := AgentOpening.pump_rests P Q sealedView (hkept.of_get hc) hkept.valid hpump idle
    exact ⟨hrests.drained, hrests.later, hrests.again⟩

section Sample

/-- A channel of an agent, just made. -/
def samplePort : Port Bytes :=
  let cursor := ReceiveCursor.create 0 .onReceipt
  ⟨.create (makeDirectionFrames idleSchedule ⟨[], [], [], []⟩ .agent maxFramesPerEpoch maxBytesPerEpoch)
    cursor 0 {} protocolVersionGrid [] 0, .create [] 0, cursor⟩

/-- A connection that has heard half of a Hello. -/
def halfHello : List (ServedAct Bytes) :=
  let hello := (sampleClient.hello .capable).bytes
  [.accept 100000 0 2, .onBytes 0 ((AgentOpening.frameCleartext hello).take 7)]

/-- A port that stays idle, and a connection of a server that does. -/
theorem idle_waits_sample :
    (∃ q, samplePort.poll idleSchedule 1 connectionOutSize connectionScratchSize = (.ok none, q) ∧
      q.poll idleSchedule 2 connectionOutSize connectionScratchSize = (.ok none, q)) ∧
    ∃ v c, Run (Served.step (fun frame => ⟨frame.header, ⟨[], ([], 0), frame.header, []⟩⟩) idleSchedule
        plainCrypto) Served.Proper (.create sampleSession.id [2] [3] [] 0 {}) halfHello v ∧
      v.connections[0]? = some (c, false) ∧ ∃ c',
      c.pump (fun frame => ⟨frame.header, ⟨[], ([], 0), frame.header, []⟩⟩) idleSchedule plainCrypto
        v.session 1 connectionOutSize connectionScratchSize = (.ok .idle, c', v.session) ∧
      c'.pump (fun frame => ⟨frame.header, ⟨[], ([], 0), frame.header, []⟩⟩) idleSchedule plainCrypto
        v.session 2 connectionOutSize connectionScratchSize =
          (.ok .idle, { c' with frames := c'.frames.dropPending }, v.session) := by
  obtain ⟨hport, hconnection⟩ := idle_waits
    (fun frame => ⟨frame.header, ⟨[], ([], 0), frame.header, []⟩⟩) idleSchedule plainCrypto
  constructor
  · have hfresh : samplePort.Fresh := ⟨⟨_, _, _, _, _, _, by decide, by decide, rfl⟩, .create _ _⟩
    refine ⟨samplePort, by decide +kernel, ?_⟩
    exact (hport _ _ _ [] 1 _ _ hfresh (.nil _) (by decide +kernel)).2 2 (by decide +kernel)
  · have hrun : Run (Served.step (fun frame => ⟨frame.header, ⟨[], ([], 0), frame.header, []⟩⟩)
      idleSchedule plainCrypto) Served.Proper (.create sampleSession.id [2] [3] [] 0 {}) halfHello _ :=
      .cons trivial rfl (.cons trivial rfl (.nil _))
    refine ⟨_, _, hrun, rfl, _, rfl, ?_⟩
    refine (hconnection _ _ _ _ _ _ _ _ 0 _ _ false 1 _ _ .idle _ hrun rfl rfl trivial).2.2 2 ?_
    decide +kernel

end Sample

end Zet.Session
