import Mathlib.Logic.Function.Iterate
import Zet.Net.Resumption

/-!
# The seed ratchet

Both ends keep a seed that the keys of the next connection are derived from, and move it on with
every connection: the agent when it opens a Resume, the client when it opens the first frame of the
agent. The agent also keeps the seed before, so a client one step behind can still come back.

A connection copies the seeds when it is routed and uses them when its Resume arrives, while the
session may have moved on in between. Two connections that copied the same seed can both resume
under it, and the agent then moves two steps while the client has moved none: it is out for good.
`seeds_agree` is what holds as long as no Resume opens under the current seed of its connection
while the client is a step behind, and `second_resume_locks_out` is the run that breaks it.
-/

namespace Zet.Net
open Zet.Core Zet.Wire Zet.Lib Zet.Session

variable {K : Type}

/-- The agent has attached the connection. -/
def Link.Answered (l : Link K) : Prop :=
  ∃ c, l.agent = some c ∧ (c.stage = .awaitSnapshot ∨ c.stage = .live)

/-- The keys of the connection under a seed, as the agent holds them. -/
def Link.framesOf (P : KeySchedule K) (l : Link K) (seed : K) : DirectionFrames K :=
  makeDirectionFrames P (P.deriveConnectionKeys seed l.client.clientNonce l.serverNonce) .agent
    maxFramesPerEpoch maxBytesPerEpoch

/-- The first frame of the connection, sealed under the seed the client copied when it opened it. -/
def Link.SealsResume (P : KeySchedule K) (l : Link K) (frame : FrameView K) : Prop :=
  ∃ out sealer, (makeDirectionFrames P
    (P.deriveConnectionKeys l.client.seed l.client.clientNonce l.serverNonce) .client
      maxFramesPerEpoch maxBytesPerEpoch).sealer.seal out frame.body.plaintext = .ok (frame, sealer)

/-- What the client has put on the connection starts with its Resume. -/
def Link.Opening (P : KeySchedule K) (l : Link K) : Prop :=
  l.client.channel = none ∧ l.toAgent = [] ∨
    ∃ up rest, l.toAgent = up :: rest ∧ l.SealsResume P up.frame

/-- The seed `w` is some steps behind `seed`. -/
def Behind (P : KeySchedule K) (w seed : K) : Prop :=
  ∃ n, seed = P.advanceConnectionSeed^[n + 1] w

/-- One connection, against the seed of the agent. -/
structure Link.Ratchet (P : KeySchedule K) (seed : K) (l : Link K) : Prop where
  opening : (∀ c, l.agent = some c → c.failed = none) → ¬l.Answered → l.Opening P
  copied : ∀ c a, l.agent = some c → c.failed = none → c.stage = .handshake →
    c.attempt = some a → a.serverNonce = l.serverNonce ∧
      ∀ w, a.previousSeed = some w → Behind P w seed
  kept : ∀ c frames, l.agent = some c → c.failed = none → c.stage = .awaitResume →
    c.fallback = some frames → ∃ w, frames = l.framesOf P w ∧ Behind P w seed
  sent : l.toClient ≠ [] → l.Answered

/-- The two seeds are equal or one step apart, and the connections know it. -/
structure Ratchet (P : KeySchedule K) (s : State K) : Prop where
  chain : ∀ w, s.agent.previousSeed = some w → s.agent.seed = P.advanceConnectionSeed w
  agree : s.client.seed = s.agent.seed ∨ s.agent.previousSeed = some s.client.seed
  fresh : ∀ i, s.current = some i → (s.links i).client.confirmed = false →
    (s.links i).client.seed = s.client.seed
  answered : ∀ i, s.current = some i → (s.links i).client.confirmed = false →
    (s.links i).Answered → s.agent.seed = P.advanceConnectionSeed (s.links i).client.seed
  link : ∀ i, (s.links i).Ratchet P s.agent.seed

/-- No Resume opens under the current seed of its connection while the client is a step behind. -/
def State.SeedsInStep [DecidableEq K] (P : KeySchedule K) (s : State K) : Action → Prop
  | .agentFrame i _ =>
    ∀ c ∈ (s.links i).agent, c.stage = .awaitResume → ∀ up ∈ (s.links i).toAgent.head?,
      ∀ opened ∈ (c.openResume P up.frame).toOption, opened.2.1 = .current →
        s.agent.previousSeed ≠ some s.client.seed
  | _ => True

instance [DecidableEq K] (P : KeySchedule K) (s : State K) (a : Action) :
    Decidable (s.SeedsInStep P a) :=
  match a with
  | .agentFrame i _ => inferInstanceAs (Decidable
      (∀ c ∈ (s.links i).agent, c.stage = .awaitResume → ∀ up ∈ (s.links i).toAgent.head?,
        ∀ opened ∈ (c.openResume P up.frame).toOption, opened.2.1 = .current →
          s.agent.previousSeed ≠ some s.client.seed))
  | .clientOpen .. | .route .. | .completeHandshake .. | .sendResume .. | .agentIdle ..
  | .supplySnapshot .. | .agentClose .. | .clientFrame .. | .clientIdle .. | .confirmApply ..
  | .denyApply .. | .queueResize .. | .clientClose .. | .clientWrite .. | .agentWrite ..
  | .inputDelivered .. | .inputRejected .. | .endSession .. | .agentTimer .. | .agentGates ..
  | .clientGates .. => .isTrue trivial

/-- The ratchet never comes back to a seed, and the key of a connection tells its seed. -/
structure Forward (P : KeySchedule K) : Prop where
  acyclic : ∀ seed n, P.advanceConnectionSeed^[n + 1] seed ≠ seed
  injective : ∀ seed seed' clientNonce serverNonce,
    (P.deriveConnectionKeys seed clientNonce serverNonce).clientToServer =
      (P.deriveConnectionKeys seed' clientNonce serverNonce).clientToServer → seed = seed'

/-- A Resume is sealed under the keys of the seed the client copied. -/
lemma Link.SealsResume.key {P : KeySchedule K} {l : Link K} {frame : FrameView K}
    (h : l.SealsResume P frame) :
    frame.body.key = (P.deriveConnectionKeys l.client.seed l.client.clientNonce
        l.serverNonce).clientToServer ∧
      frame.body.nonce = ((P.deriveConnectionKeys l.client.seed l.client.clientNonce
        l.serverNonce).saltClientToServer, 0) ∧
      frame.body.associated = frame.header ∧ frame.header.epoch = 0 := by
  obtain ⟨out, sealer, hseal⟩ := h
  obtain ⟨hepoch, hbody⟩ := FrameSealer.seal_body hseal
  rw [hbody]
  exact ⟨rfl, rfl, rfl, hepoch⟩

variable [DecidableEq K] {P : KeySchedule K} {cfg : Config} {s s' : State K}

/-- A frame opens under the keys of the seed it was sealed under, and under no others. -/
lemma Link.SealsResume.open_iff {l : Link K} {frame : FrameView K} (h : l.SealsResume P frame)
    (seed : K) :
    ((l.framesOf P seed).opener.open P frame).1 =
      if (P.deriveConnectionKeys l.client.seed l.client.clientNonce l.serverNonce).clientToServer =
          (P.deriveConnectionKeys seed l.client.clientNonce l.serverNonce).clientToServer ∧
        (P.deriveConnectionKeys l.client.seed l.client.clientNonce
          l.serverNonce).saltClientToServer =
          (P.deriveConnectionKeys seed l.client.clientNonce l.serverNonce).saltClientToServer
      then .ok frame.body.plaintext else .error .authenticationFailed := by
  obtain ⟨hkey, hnonce, hheader, hepoch⟩ := h.key
  simp only [Link.framesOf, makeDirectionFrames, FrameOpener.create, FrameOpener.open, hepoch,
    aeadOpen, hkey, hnonce, hheader]
  rw [if_neg (by decide), if_neg (by simp), if_neg (by decide)]
  simp only [Prod.mk.injEq, and_true]
  split
  · next heq => split at heq <;> simp_all
  · next heq => split at heq <;> simp_all

section
variable {l l' : Link K} {seed : K}

omit [DecidableEq K] in
/-- What is behind a seed is behind the next. -/
lemma Behind.advance {w : K} (h : Behind P w seed) : Behind P w (P.advanceConnectionSeed seed) := by
  obtain ⟨n, rfl⟩ := h
  exact ⟨n + 1, (Function.iterate_succ_apply' ..).symm⟩

omit [DecidableEq K] in
/-- The agent's seed moving on leaves the copies of a connection behind it. -/
lemma Link.Ratchet.advance (h : l.Ratchet P seed) :
    l.Ratchet P (P.advanceConnectionSeed seed) where
  opening := h.opening
  copied c a hc hfail hstage ha := by
    obtain ⟨hnonce, hbehind⟩ := h.copied c a hc hfail hstage ha
    exact ⟨hnonce, fun w hw => (hbehind w hw).advance⟩
  kept c frames hc hfail hstage hframes := by
    obtain ⟨w, hw, hbehind⟩ := h.kept c frames hc hfail hstage hframes
    exact ⟨w, hw, hbehind.advance⟩
  sent := h.sent

omit [DecidableEq K] in
/-- Nothing is asked of a connection the agent has attached. -/
lemma Link.Ratchet.of_answered (h : l.Answered) : l.Ratchet P seed := by
  obtain ⟨c, hc, hstage⟩ := h
  refine ⟨fun _ hnot => absurd ⟨c, hc, hstage⟩ hnot, ?_, ?_, fun _ => ⟨c, hc, hstage⟩⟩
  · intro c' a hc' _ hhand
    obtain rfl : c = c' := Option.some.inj (hc.symm.trans hc')
    rcases hstage with hstage | hstage <;> simp [hhand] at hstage
  · intro c' frames hc' _ hresume
    obtain rfl : c = c' := Option.some.inj (hc.symm.trans hc')
    rcases hstage with hstage | hstage <;> simp [hresume] at hstage

omit [DecidableEq K] in
/-- Nothing but what it has sent is asked of a connection that has failed. -/
lemma Link.Ratchet.of_failed {c : AgentConnection K} (hc : l.agent = some c)
    (dead : c.failed.isSome) (sent : l.toClient ≠ [] → l.Answered) : l.Ratchet P seed := by
  refine ⟨fun halive => ?_, fun c' a hc' hfail => ?_, fun c' frames hc' hfail => ?_, sent⟩
  · simp [halive c hc] at dead
  · obtain rfl : c = c' := Option.some.inj (hc.symm.trans hc')
    simp [hfail] at dead
  · obtain rfl : c = c' := Option.some.inj (hc.symm.trans hc')
    simp [hfail] at dead

omit [DecidableEq K] in
/-- A step of the client's end. -/
lemma Link.Ratchet.ofClient (h : l.Ratchet P seed) (agent : l'.agent = l.agent)
    (serverNonce : l'.serverNonce = l.serverNonce)
    (clientNonce : l'.client.clientNonce = l.client.clientNonce)
    (toClient : l'.toClient ≠ [] → l.toClient ≠ []) (opening : l.Opening P → l'.Opening P) :
    l'.Ratchet P seed where
  opening halive hnot := by
    simp only [Link.Answered, agent] at halive hnot
    exact opening (h.opening halive hnot)
  copied c a hc := by
    rw [serverNonce]
    exact h.copied c a (agent ▸ hc)
  kept c frames hc := by
    simp only [Link.framesOf, serverNonce, clientNonce]
    exact h.kept c frames (agent ▸ hc)
  sent hsent := by
    obtain ⟨c, hc, hstage⟩ := h.sent (toClient hsent)
    exact ⟨c, agent ▸ hc, hstage⟩

omit [DecidableEq K] in
/-- A step of the agent's end that leaves its stage, and its copies unless it fails. -/
lemma Link.Ratchet.ofAgent (h : l.Ratchet P seed) {c c' : AgentConnection K}
    (hc : l.agent = some c) (stage : c'.stage = c.stage)
    (terms : c'.failed.isSome ∨
      c'.failed = c.failed ∧ c'.attempt = c.attempt ∧ c'.fallback = c.fallback)
    {toClient : List (Downward K)} (sent : toClient ≠ [] → l.toClient ≠ []) :
    Link.Ratchet P seed { l with agent := some c', toClient := toClient } := by
  have answered : l.Answered → Link.Answered { l with agent := some c', toClient := toClient } := by
    rintro ⟨c'', hc'', hstage⟩
    obtain rfl := Option.some.inj (hc.symm.trans hc'')
    exact ⟨c', rfl, stage ▸ hstage⟩
  rcases terms with hdead | ⟨hfailed, hattempt, hfallback⟩
  · exact .of_failed rfl hdead fun hsent => answered (h.sent (sent hsent))
  refine ⟨fun halive hnot => ?_, fun c'' a hc'' hfail hstage ha => ?_,
    fun c'' frames hc'' hfail hstage hframes => ?_, fun hsent => answered (h.sent (sent hsent))⟩
  · refine h.opening (fun c'' hc'' => ?_) fun hans => hnot (answered hans)
    obtain rfl := Option.some.inj (hc.symm.trans hc'')
    exact hfailed ▸ halive c' rfl
  · obtain rfl := Option.some.inj hc''
    exact h.copied c a hc (hfailed ▸ hfail) (stage ▸ hstage) (hattempt ▸ ha)
  · obtain rfl := Option.some.inj hc''
    exact h.kept c frames hc (hfailed ▸ hfail) (stage ▸ hstage) (hfallback ▸ hframes)

omit [DecidableEq K] in
/-- What is on a connection still starts with its Resume once more is put behind it. -/
lemma Link.Opening.append (h : l.Opening P) (more : List (Upward K))
    (serverNonce : l'.serverNonce = l.serverNonce)
    (client : l'.client.seed = l.client.seed ∧ l'.client.clientNonce = l.client.clientNonce)
    (toAgent : l'.toAgent = l.toAgent ++ more)
    (first : l.client.channel = none → l'.client.channel = none ∧ more = [] ∨
      ∃ up, more = [up] ∧ l.SealsResume P up.frame) : l'.Opening P := by
  have seals : ∀ frame, l.SealsResume P frame → l'.SealsResume P frame := by
    intro frame hseals
    simpa only [Link.SealsResume, serverNonce, client.1, client.2] using hseals
  rcases h with ⟨hchan, hempty⟩ | ⟨up, rest, hup, hseals⟩
  · rcases first hchan with ⟨hchan', rfl⟩ | ⟨up, rfl, hseals⟩
    · exact .inl ⟨hchan', by simpa [hempty] using toAgent⟩
    · exact .inr ⟨up, [], by simp [toAgent, hempty], seals _ hseals⟩
  · exact .inr ⟨up, rest ++ more, by simp [toAgent, hup], seals _ hseals⟩

end

omit [DecidableEq K] in
/-- A step that moves neither seed and changes at most one connection. -/
lemma Ratchet.putLink (h : Ratchet P s) {i : Nat} {l : Link K}
    (links : s'.links = Function.update s.links i l) (opened : s'.opened = s.opened)
    (agent : s'.agent.seed = s.agent.seed ∧ s'.agent.previousSeed = s.agent.previousSeed)
    (client : s'.client.seed = s.client.seed) (link : l.Ratchet P s.agent.seed)
    (fresh : l.client.confirmed = false → (s.links i).client.confirmed = false ∧
      l.client.seed = (s.links i).client.seed)
    (answered : s.current = some i → l.client.confirmed = false → l.Answered →
      (s.links i).Answered ∨ s.agent.seed = P.advanceConnectionSeed l.client.seed) :
    Ratchet P s' := by
  have hcurrent : s'.current = s.current := by simp [State.current, opened]
  refine ⟨?_, ?_, fun j hj hconf => ?_, fun j hj hconf hans => ?_, fun j => ?_⟩
  · rw [agent.1, agent.2]
    exact h.chain
  · rw [agent.1, agent.2, client]
    exact h.agree
  · rw [hcurrent] at hj
    rw [links] at hconf ⊢
    rw [client]
    by_cases hji : j = i
    · subst hji
      rw [Function.update_self] at hconf ⊢
      obtain ⟨hconf, hseed⟩ := fresh hconf
      rw [hseed]
      exact h.fresh j hj hconf
    · rw [Function.update_of_ne hji] at hconf ⊢
      exact h.fresh j hj hconf
  · rw [hcurrent] at hj
    rw [links] at hconf hans ⊢
    rw [agent.1]
    by_cases hji : j = i
    · subst hji
      rw [Function.update_self] at hconf hans ⊢
      rcases answered hj hconf hans with hans | hadv
      · obtain ⟨hconf, hseed⟩ := fresh hconf
        rw [hseed]
        exact h.answered j hj hconf hans
      · exact hadv
    · rw [Function.update_of_ne hji] at hconf hans ⊢
      exact h.answered j hj hconf hans
  · rw [links, agent.1]
    by_cases hji : j = i
    · subst hji
      rw [Function.update_self]
      exact link
    · rw [Function.update_of_ne hji]
      exact h.link j

omit [DecidableEq K] in
/-- A step that moves neither seed and changes no connection. -/
lemma Ratchet.same (h : Ratchet P s) (links : s'.links = s.links) (opened : s'.opened = s.opened)
    (agent : s'.agent.seed = s.agent.seed ∧ s'.agent.previousSeed = s.agent.previousSeed)
    (client : s'.client.seed = s.client.seed) : Ratchet P s' :=
  h.putLink (i := 0) (by rw [Function.update_eq_self, links]) opened agent client (h.link 0)
    (fun hconf => ⟨hconf, rfl⟩) (fun _ _ hans => .inl hans)

/-- What a frame does to the ratchet: it leaves the seeds, or moves them as a Resume confirms them.
It sends nothing, and it leaves a connection that is attached or takes no more. -/
inductive FrameSeeds (P : KeySchedule K) (c : AgentConnection K) (a : AgentSession K)
    (frame : FrameView K) (res : AgentConnection.Pumped K) : Prop
  | kept (seeds : res.2.2.seed = a.seed ∧ res.2.2.previousSeed = a.previousSeed)
      (silent : State.sentOf res.1 = []) (stage : res.2.1.stage = c.stage)
      (after : res.2.1.failed.isSome ∨ c.stage = .awaitSnapshot ∨ c.stage = .live) :
      FrameSeeds P c a frame res
  | resumed {used : ResumeKeys} {chosen : DirectionFrames K} {a' : AgentSession K}
      (stage : c.stage = .awaitResume)
      (opened : c.openResume P frame = .ok (frame.body.plaintext, used, chosen))
      (confirmed : a.confirmResume P used = .ok a')
      (seeds : res.2.2.seed = a'.seed ∧ res.2.2.previousSeed = a'.previousSeed)
      (silent : State.sentOf res.1 = [])
      (after : (res.2.1.failed.isSome ∧ res.2.1.stage = c.stage) ∨
        res.2.1.stage = .awaitSnapshot ∨ res.2.1.stage = .live) : FrameSeeds P c a frame res

omit [DecidableEq K] in
/-- A connection that only fails sends nothing. -/
lemma turned_silent {c : AgentConnection K} {a : AgentSession K} {res : AgentConnection.Pumped K}
    (turned : AgentConnection.Turned c a res) : State.sentOf res.1 = [] := by
  rcases turned.result with hidle | hover | ⟨e, he, -⟩ <;> simp [State.sentOf, *]

/-- Everything a frame can do to the seeds. -/
lemma Coherent.frameSeeds (coh : Coherent cfg s) (P : KeySchedule K) (now : Timestamp)
    (frame : FrameView K) {i : Nat} {c : AgentConnection K} (hc : (s.links i).agent = some c)
    (hfail : c.failed = none) (htakes : c.TakesFrames) :
    FrameSeeds P c s.agent frame (c.onFrame P s.agent now frame) := by
  rcases AgentConnection.onFrame_cases P s.agent now frame hfail with
    turned | ⟨used, chosen, message, resumes, heq⟩ | ⟨f, out, carried⟩
  · refine .kept ?_ (turned_silent turned) turned.stage (.inl (turned.dead htakes))
    rw [turned.session]
    exact ⟨rfl, rfl⟩
  · rw [heq]
    obtain ⟨-, hcur, hfb⟩ := (coh.agentEnd i c hc).terms hfail resumes.stage
    have hresumed := AgentConnection.resume_cases P s.agent now used message hfail
      (openResume_role resumes.opened hcur hfb)
    cases hresumed with
    | unknown turned =>
      refine .kept ?_ (turned_silent turned) turned.stage (.inl (turned.dead htakes))
      rw [turned.session]
      exact ⟨rfl, rfl⟩
    | refused confirmed turned =>
      refine .resumed resumes.stage resumes.opened confirmed ?_ (turned_silent turned)
        (.inl ⟨turned.dead htakes, turned.stage⟩)
      rw [turned.session]
      exact ⟨rfl, rfl⟩
    | rejected confirmed _ _ _ _ session _ _ stage result dead =>
      refine .resumed resumes.stage resumes.opened confirmed ?_ (by simp [result, State.sentOf])
        (.inl ⟨dead, stage⟩)
      rcases session with hsame | ⟨-, hkill⟩
      · rw [hsame]
        exact ⟨rfl, rfl⟩
      · rw [hkill]
        exact ⟨rfl, rfl⟩
    | pathA confirmed _ _ _ _ session _ _ stage result =>
      refine .resumed resumes.stage resumes.opened confirmed ?_ (by simp [result, State.sentOf])
        (.inr (.inr stage))
      rw [session]
      exact ⟨rfl, rfl⟩
    | pathB confirmed _ _ _ session _ _ stage result =>
      refine .resumed resumes.stage resumes.opened confirmed ?_ (by simp [result, State.sentOf])
        (.inr (.inl stage))
      rw [session]
      exact ⟨rfl, rfl⟩
  · refine .kept carried.seeds ?_ carried.same (.inr carried.stage)
    exact State.sentOf_nil carried.silent

omit [DecidableEq K] in
/-- The frame a connection waits for is its Resume. -/
lemma Link.Ratchet.head {l : Link K} {seed : K} (h : l.Ratchet P seed) {c : AgentConnection K}
    {up : Upward K} {rest : List (Upward K)} (hc : l.agent = some c) (hfail : c.failed = none)
    (hstage : c.stage = .awaitResume) (hup : l.toAgent = up :: rest) :
    l.SealsResume P up.frame := by
  have hnot : ¬l.Answered := by
    rintro ⟨c', hc', hstage'⟩
    obtain rfl : c = c' := Option.some.inj (hc.symm.trans hc')
    simp [hstage] at hstage'
  have halive : ∀ c', l.agent = some c' → c'.failed = none := by
    intro c' hc'
    obtain rfl : c = c' := Option.some.inj (hc.symm.trans hc')
    exact hfail
  rcases h.opening halive hnot with ⟨-, hempty⟩ | ⟨up', rest', hup', hseals⟩
  · simp [hup] at hempty
  · obtain ⟨rfl, rfl⟩ := List.cons.inj (hup.symm.trans hup')
    exact hseals

/-- A Resume opened under the seed before is one of a client that is a step behind. -/
lemma Link.Ratchet.previous {l : Link K} {seed : K} (h : l.Ratchet P seed) (forward : Forward P)
    {c : AgentConnection K} {up : Upward K} {rest : List (Upward K)} {plain : Bytes}
    {chosen : DirectionFrames K} (hc : l.agent = some c) (hfail : c.failed = none)
    (hstage : c.stage = .awaitResume) (hup : l.toAgent = up :: rest)
    (hopen : c.openResume P up.frame = .ok (plain, .previous, chosen)) :
    Behind P l.client.seed seed := by
  have hseals := h.head hc hfail hstage hup
  unfold AgentConnection.openResume at hopen
  split at hopen
  · cases hopen
  split at hopen
  · cases hopen
  · split at hopen
    · cases hopen
    next fallback hfb =>
    split at hopen
    · next plain' opener hplain =>
      obtain ⟨w, rfl, hbehind⟩ := h.kept c fallback hc hfail hstage hfb
      have hiff := hseals.open_iff w
      rw [hplain] at hiff
      split at hiff
      · next hkeys =>
        rw [forward.injective _ _ _ _ hkeys.1]
        exact hbehind
      · cases hiff
    · cases hopen
  · cases hopen

omit [DecidableEq K] in
/-- What a confirmed Resume does to seeds that are one step apart. -/
lemma confirmResume_seeds {a a' : AgentSession K} {used : ResumeKeys}
    (chain : ∀ w, a.previousSeed = some w → a.seed = P.advanceConnectionSeed w)
    (h : a.confirmResume P used = .ok a') :
    (used = .previous ∧ a'.seed = a.seed ∧ a'.previousSeed = a.previousSeed) ∨
      (used = .current ∧ a'.seed = P.advanceConnectionSeed a.seed ∧
        a'.previousSeed = some a.seed) := by
  unfold AgentSession.confirmResume at h
  split at h
  · cases h
  · next w hw =>
    cases h
    exact .inl ⟨rfl, (chain w hw).symm, hw.symm⟩
  · cases h
    exact .inr ⟨rfl, rfl, rfl⟩

/-- The frame of a connection keeps the seeds in step. -/
lemma Ratchet.agentFrame (h : Ratchet P s) (coh : Coherent cfg s) (forward : Forward P) {i : Nat}
    {now : Timestamp} (ok : s.SeedsInStep P (.agentFrame i now))
    (hstep : s.step P cfg (.agentFrame i now) = some s') : Ratchet P s' := by
  obtain ⟨c, up, rest, hc, hfail, hstages, hup, rfl⟩ := State.step_agentFrame hstep
  have htakes : c.TakesFrames := by simpa [AgentConnection.TakesFrames] using hstages
  have hframe := coh.frameSeeds P now up.frame hc hfail htakes
  rw [State.agentReturns_eq]
  generalize c.onFrame P s.agent now up.frame = res at hframe
  -- what is asked of the connection after the frame
  have hlink : ∀ (seed : K) (stage : res.2.1.stage = c.stage ∧
        (res.2.1.failed.isSome ∨ c.stage = .awaitSnapshot ∨ c.stage = .live) ∨
        res.2.1.stage = .awaitSnapshot ∨ res.2.1.stage = .live) (silent : State.sentOf res.1 = []),
      Link.Ratchet P seed { s.links i with
        agent := some res.2.1
        toAgent := rest
        toClient := (s.links i).toClient ++ (State.sentOf res.1).map
          fun frame => Downward.mk frame s.agent.streams.output.sessionGen } := by
    intro seed stage silent
    rcases stage with ⟨hsame, hdead | hstage⟩ | hstage
    · refine .of_failed rfl hdead fun hsent => ?_
      rw [silent] at hsent
      obtain ⟨c', hc', hstage⟩ := (h.link i).sent (by simpa using hsent)
      obtain rfl : c = c' := Option.some.inj (hc.symm.trans hc')
      exact ⟨_, rfl, hsame ▸ hstage⟩
    · exact .of_answered ⟨_, rfl, hsame ▸ hstage⟩
    · exact .of_answered ⟨_, rfl, hstage⟩
  cases hframe with
  | kept seeds silent stage after =>
    refine h.putLink rfl rfl seeds rfl (hlink _ (.inl ⟨stage, after⟩) silent)
      (fun hconf => ⟨hconf, rfl⟩) ?_
    rintro - - ⟨c', hc', hstage⟩
    obtain rfl := Option.some.inj hc'
    exact .inl ⟨c, hc, stage ▸ hstage⟩
  | resumed hstage opened confirmed seeds silent after =>
    have hlink := fun seed => hlink seed (after.imp (fun ha => ⟨ha.2, .inl ha.1⟩) id) silent
    rcases confirmResume_seeds h.chain confirmed with ⟨rfl, hseed, hprev⟩ | ⟨rfl, hseed, hprev⟩
    · -- under the seed before: the agent stays where it is, and the client is a step behind it
      refine h.putLink rfl rfl ⟨seeds.1.trans hseed, seeds.2.trans hprev⟩ rfl (hlink _)
        (fun hconf => ⟨hconf, rfl⟩) fun hi hconf _ => .inr ?_
      obtain ⟨n, hn⟩ := (h.link i).previous forward hc hfail hstage hup opened
      have hfresh := h.fresh i hi hconf
      rcases h.agree with hagree | hagree
      · rw [hfresh, hagree] at hn
        exact absurd hn.symm (forward.acyclic _ n)
      · exact (h.chain _ hagree).trans (by rw [hfresh])
    · -- under the current seed: the agent moves on, away from a client it was in step with
      have hagree : s.client.seed = s.agent.seed :=
        h.agree.resolve_right (ok c hc hstage up (by simp [hup]) _ (by rw [opened]; rfl) rfl)
      have hseed : res.2.2.seed = P.advanceConnectionSeed s.agent.seed := seeds.1.trans hseed
      have hprev : res.2.2.previousSeed = some s.agent.seed := seeds.2.trans hprev
      refine ⟨?_, .inr ?_, fun j hj hconf => ?_, fun j hj hconf hans => ?_, fun j => ?_⟩
      · intro w hw
        obtain rfl := Option.some.inj (hprev.symm.trans hw)
        exact hseed
      · exact hprev.trans (by rw [← hagree]; rfl)
      · by_cases hji : j = i
        · subst hji
          simp only [State.putLink, Function.update_self] at hconf ⊢
          exact h.fresh j hj hconf
        · simp only [State.putLink, Function.update_of_ne hji] at hconf ⊢
          exact h.fresh j hj hconf
      · refine hseed.trans (congrArg _ ?_)
        by_cases hji : j = i
        · subst hji
          simp only [State.putLink, Function.update_self] at hconf ⊢
          exact hagree.symm.trans (h.fresh j hj hconf).symm
        · simp only [State.putLink, Function.update_of_ne hji] at hconf hans ⊢
          have hadv := h.answered j hj hconf hans
          rw [h.fresh j hj hconf, hagree] at hadv
          exact absurd hadv.symm (forward.acyclic _ 0)
      · show Link.Ratchet P res.2.2.seed _
        rw [hseed]
        by_cases hji : j = i
        · subst hji
          simp only [State.putLink, Function.update_self]
          exact hlink _
        · simp only [State.putLink, Function.update_of_ne hji]
          exact (h.link j).advance

omit [DecidableEq K] in
/-- A connection whose stage did not change was attached before if it is now. -/
lemma Link.Answered.before {l : Link K} {c c' : AgentConnection K} (h : l.Answered)
    (hc' : l.agent = some c') (stage : c'.stage = c.stage) {l₀ : Link K} (hc : l₀.agent = some c) :
    l₀.Answered := by
  obtain ⟨c'', hc'', hstage⟩ := h
  obtain rfl := Option.some.inj (hc'.symm.trans hc'')
  exact ⟨c, hc, stage ▸ hstage⟩

/-- An idle call on a connection of the agent. -/
lemma Ratchet.agentIdle (h : Ratchet P s) {i out scratch : Nat} {now : Timestamp}
    (hstep : s.step P cfg (.agentIdle i now out scratch) = some s') : Ratchet P s' := by
  obtain ⟨c, hc, hfail, rfl⟩ := State.step_agentIdle hstep
  rw [State.agentReturns_eq]
  rcases AgentConnection.onIdle_cases P s.agent now out scratch hfail with
    quiet | ⟨f, m, f', speaks⟩
  · have hsilent := State.sentOf_nil quiet.silent
    refine h.putLink rfl rfl quiet.seeds rfl ((h.link i).ofAgent hc quiet.stage ?_ ?_)
      (fun hconf => ⟨hconf, rfl⟩) (fun _ _ hans => .inl (hans.before rfl quiet.stage hc))
    · rcases hdead : (c.onIdle P s.agent now out scratch).2.1.failed with _ | e
      · refine .inr ⟨hfail.symm, quiet.attempt, ?_⟩
        exact (quiet.terms.resolve_left (by simp [hdead])).fallback
      · exact .inl rfl
    · simp [hsilent]
  · refine h.putLink rfl rfl speaks.seeds rfl (.of_answered ⟨_, rfl, ?_⟩)
      (fun hconf => ⟨hconf, rfl⟩) (fun _ _ hans => .inl (hans.before rfl speaks.same hc))
    exact speaks.same ▸ speaks.stage

omit [DecidableEq K] in
/-- The state after a call on the client's connection that moves no seed. -/
lemma Ratchet.clientReturns (h : Ratchet P s) {i : Nat} {l : Link K}
    {res : ClientConnection.Pumped K} (agent : l.agent = (s.links i).agent)
    (serverNonce : l.serverNonce = (s.links i).serverNonce)
    (toAgent : l.toAgent = (s.links i).toAgent)
    (toClient : l.toClient ≠ [] → (s.links i).toClient ≠ [])
    (same : res.2.1.seed = (s.links i).client.seed ∧
      res.2.1.clientNonce = (s.links i).client.clientNonce)
    (confirmed : res.2.1.confirmed = false → (s.links i).client.confirmed = false)
    (seed : res.2.2.seed = s.client.seed)
    (first : (s.links i).client.channel = none →
      res.2.1.channel = none ∧ State.sentOf res.1 = [] ∨
        ∃ frame, State.sentOf res.1 = [frame] ∧ (s.links i).SealsResume P frame) :
    Ratchet P (s.clientReturns i l res) := by
  rw [State.clientReturns_eq]
  refine h.putLink rfl rfl ⟨rfl, rfl⟩ seed ?_ (fun hconf => ⟨confirmed hconf, same.1⟩)
    fun _ _ ⟨c, hc, hstage⟩ => .inl ⟨c, agent ▸ hc, hstage⟩
  refine (h.link i).ofClient agent serverNonce same.2 toClient fun hopening => ?_
  refine hopening.append _ serverNonce same (congrArg (· ++ _) toAgent) fun hnone => ?_
  rcases first hnone with ⟨hchan, hsent⟩ | ⟨frame, hsent, hseals⟩
  · exact .inl ⟨hchan, by rw [hsent]; rfl⟩
  · exact .inr ⟨_, by rw [hsent]; rfl, hseals⟩

/-- Sending a Resume keeps the ratchet. -/
lemma Ratchet.sendResume (h : Ratchet P s) {now : Timestamp} {out : Nat}
    (hstep : s.step P cfg (.sendResume now out) = some s') : Ratchet P s' := by
  obtain ⟨i, offset, -, hfail, -, rfl⟩ := State.step_sendResume hstep
  have hsent := ClientConnection.sendResume_cases P s.client now hfail out cfg.version
    (s.links i).serverNonce offset
  generalize (s.links i).client.sendResume P s.client now out cfg.version (s.links i).serverNonce
    offset = res at hsent
  cases hsent with
  | refused streams seed streamGen channel dead handle same result =>
    exact h.clientReturns rfl rfl rfl id ⟨same.2.2.2.1, same.2.2.2.2⟩ (fun hc => same.2.1 ▸ hc) seed
      fun hnone => .inl ⟨channel.trans hnone, by simp [result, State.sentOf]⟩
  | stuck attach streams seed streamGen channel dead handle same result =>
    obtain ⟨e, he, -⟩ := result
    exact h.clientReturns rfl rfl rfl id ⟨same.2.2.2.1, same.2.2.2.2⟩ (fun hc => same.2.1 ▸ hc) seed
      fun hnone => .inl ⟨channel.trans hnone, by simp [he, State.sentOf]⟩
  | sent attach streams seed streamGen channel alive same result plain sealed =>
    exact h.clientReturns rfl rfl rfl id ⟨same.2.2.2.2.1, same.2.2.2.2.2⟩
      (fun hc => same.2.2.1 ▸ hc) seed
      fun _ => .inr ⟨_, by rw [result]; rfl, out, _, sealed⟩

/-- An idle turn of the client does. -/
lemma Ratchet.clientIdle (h : Ratchet P s) {now : Timestamp} {out scratch : Nat}
    (hstep : s.step P cfg (.clientIdle now out scratch) = some s') : Ratchet P s' := by
  obtain ⟨i, -, hfail, rfl⟩ := State.step_clientIdle hstep
  rcases ClientConnection.onIdle_cases P s.client now out scratch hfail with
    quiet | ⟨f, m, f', speaks⟩
  · obtain ⟨-, -, hconf, -, hseed, hnonce⟩ := quiet.same
    refine h.clientReturns rfl rfl rfl id ⟨hseed, hnonce⟩ (fun hc => hconf ▸ hc) quiet.seed
      fun hnone => .inl ⟨?_, ?_⟩
    · simpa [hnone] using quiet.channel
    · rcases quiet.result with hidle | ⟨e, he, -⟩ <;> simp [State.sentOf, *]
  · obtain ⟨-, -, hconf, -, hseed, hnonce⟩ := speaks.same
    refine h.clientReturns rfl rfl rfl id ⟨hseed, hnonce⟩ (fun hc => hconf ▸ hc) speaks.seed
      fun hnone => ?_
    obtain ⟨chan, hchan, -⟩ := speaks.before
    simp [hnone] at hchan

/-- The first frame the client opens on a connection brings it in step with the agent. -/
lemma Ratchet.clientFrame (h : Ratchet P s) {now : Timestamp}
    (hstep : s.step P cfg (.clientFrame now) = some s') : Ratchet P s' := by
  obtain ⟨i, down, rest, hi, hfail, -, hdown, rfl⟩ := State.step_clientFrame hstep
  have hsent : (s.links i).toClient ≠ [] := by simp [hdown]
  rcases ClientConnection.onFrame_cases P s.client now down.frame hfail with
    turned | ⟨f, out, carried⟩
  · obtain ⟨-, -, hconf, -, hseed, hnonce⟩ := turned.same
    refine h.clientReturns rfl rfl rfl (fun _ => hsent) ⟨hseed, hnonce⟩ (fun hc => hconf ▸ hc)
      turned.seed fun hnone => .inl ⟨?_, ?_⟩
    · simpa [hnone] using turned.channel
    · rcases turned.result with hidle | ⟨e, he, -⟩ <;> simp [State.sentOf, *]
  obtain ⟨chan, hchan, -⟩ := carried.before
  obtain ⟨-, -, hseed, hnonce⟩ := carried.same
  rcases carried.result with ⟨e, -, -, -, hkept, hconf, -⟩ | ⟨event, -, -, -, hmoved, hconf, -⟩
  · exact h.clientReturns rfl rfl rfl (fun _ => hsent) ⟨hseed, hnonce⟩ (fun hc => hconf ▸ hc) hkept
      fun hnone => (by simp [hnone] at hchan)
  by_cases hfirst : (s.links i).client.confirmed = true
  · rw [hfirst] at hmoved
    exact h.clientReturns rfl rfl rfl (fun _ => hsent) ⟨hseed, hnonce⟩
      (fun hc => (by simp [hconf] at hc)) hmoved fun hnone => (by simp [hnone] at hchan)
  · -- the agent attached this connection, so it is a step ahead of the client
    have hfirst : (s.links i).client.confirmed = false := by simpa using hfirst
    have hahead := h.answered i hi hfirst ((h.link i).sent hsent)
    rw [h.fresh i hi hfirst] at hahead
    simp only [ClientSession.confirmAgentFrame, hfirst, Bool.false_eq_true, if_false] at hmoved
    rw [State.clientReturns_eq]
    refine ⟨h.chain, .inl (hmoved.trans hahead.symm), fun j hj hc => ?_, fun j hj hc => ?_,
      fun j => ?_⟩
    · obtain rfl : i = j := Option.some.inj (hi.symm.trans hj)
      simp [State.putLink, hconf] at hc
    · obtain rfl : i = j := Option.some.inj (hi.symm.trans hj)
      simp [State.putLink, hconf] at hc
    · by_cases hji : j = i
      · subst hji
        simp only [State.putLink, Function.update_self]
        refine (h.link j).ofClient rfl rfl hnonce (fun _ => hsent) fun hopening => ?_
        exact hopening.append _ rfl ⟨hseed, hnonce⟩ rfl
          fun hnone => (by simp [hnone] at hchan)
      · simp only [State.putLink, Function.update_of_ne hji]
        exact h.link j

/-- What the ratchet knows of the client's end of a connection is unchanged. -/
structure SameKeys (c c' : ClientConnection K) : Prop where
  seed : c'.seed = c.seed
  clientNonce : c'.clientNonce = c.clientNonce
  confirmed : c'.confirmed = false → c.confirmed = false
  channel : c.channel = none → c'.channel = none

omit [DecidableEq K] in
/-- A step of the client's end that sends nothing. -/
lemma Ratchet.ofClient (h : Ratchet P s) {i : Nat} {c : ClientConnection K}
    (links : s'.links = Function.update s.links i { s.links i with client := c })
    (opened : s'.opened = s.opened) (agent : s'.agent = s.agent)
    (client : s'.client.seed = s.client.seed) (same : SameKeys (s.links i).client c) :
    Ratchet P s' := by
  refine h.putLink links opened (by rw [agent]; exact ⟨rfl, rfl⟩) client ?_
    (fun hconf => ⟨same.confirmed hconf, same.seed⟩) fun _ _ hans => .inl hans
  refine (h.link i).ofClient rfl rfl same.clientNonce id fun hopening => ?_
  exact hopening.append [] rfl ⟨same.seed, same.clientNonce⟩ (by simp)
    fun hnone => .inl ⟨same.channel hnone, rfl⟩

omit [DecidableEq K] in
/-- Confirming a snapshot leaves the seeds alone. -/
lemma confirmApply_seeds (c : ClientConnection K) (a : ClientSession K) (gen : Nat) :
    (c.confirmApply a gen).2.seed = a.seed ∧ SameKeys c (c.confirmApply a gen).1 := by
  unfold ClientConnection.confirmApply
  split
  · exact ⟨rfl, rfl, rfl, id, id⟩
  · dsimp only
    split
    · split <;> exact ⟨rfl, rfl, rfl, id, fun h => by simp [h]⟩
    · exact ⟨rfl, rfl, rfl, id, fun h => by simp [h]⟩

omit [DecidableEq K] in
/-- Denying one leaves the keys of the connection alone. -/
lemma denyApply_keys (c : ClientConnection K) (gen : Nat) : SameKeys c (c.denyApply gen) := by
  unfold ClientConnection.denyApply
  split <;> exact ⟨rfl, rfl, id, id⟩

omit [DecidableEq K] in
/-- Queueing a size does. -/
lemma queueResize_keys (c : ClientConnection K) (size : ResizeMessage) :
    SameKeys c (c.queueResize size) := by
  unfold ClientConnection.queueResize
  split
  · next chan hchan => exact ⟨rfl, rfl, id, fun h => by simp [h] at hchan⟩
  · exact ⟨rfl, rfl, id, id⟩

omit [DecidableEq K] in
/-- Closing a connection leaves the seeds alone. -/
lemma close_seeds (c : AgentConnection K) (a : AgentSession K) (now : Timestamp) :
    (c.close a now).seed = a.seed ∧ (c.close a now).previousSeed = a.previousSeed := by
  unfold AgentConnection.close
  split <;> exact ⟨rfl, rfl⟩

omit [DecidableEq K] in
/-- Writing leaves the seeds alone. -/
lemma write_seeds (a : AgentSession K) (bytes : Bytes) :
    (a.write bytes).2.seed = a.seed ∧ (a.write bytes).2.previousSeed = a.previousSeed := by
  simp only [AgentSession.write, AgentSession.endWith]
  split
  · split <;> exact ⟨rfl, rfl⟩
  · exact ⟨rfl, rfl⟩

/-- The seeds stay in step. -/
lemma Ratchet.step (h : Ratchet P s) (coh : Coherent cfg s) (forward : Forward P) {a : Action}
    (ok : s.SeedsInStep P a) (hstep : s.step P cfg a = some s') : Ratchet P s' := by
  cases a with
  | clientOpen clientNonce serverNonce snapshotBuf now =>
    obtain ⟨streams, -, -, -, heq⟩ := dropClient_rest s now
    simp only [State.step, heq] at hstep
    cases hstep
    have hcurrent : ∀ i, State.current { s with opened := s.opened + 1 } = some i →
        i = s.opened := by
      simp [State.current, eq_comm]
    -- the new connection has not attached anywhere, and copies the seed that the client stands at
    refine ⟨h.chain, h.agree, fun i hi _ => ?_, fun i hi _ hans => ?_, fun i => ?_⟩
    · obtain rfl := hcurrent i hi
      simp [State.putLink, ClientConnection.create]
    · obtain rfl := hcurrent i hi
      obtain ⟨c, hc, -⟩ := hans
      simp [State.putLink] at hc
    · by_cases hi : i = s.opened
      · subst hi
        simp only [State.putLink, Function.update_self]
        exact ⟨fun _ _ => .inl ⟨rfl, rfl⟩, by simp, by simp, by simp⟩
      · simp only [State.putLink, Function.update_of_ne hi]
        exact h.link i
  | route i now =>
    simp only [State.step] at hstep
    split at hstep
    next hnew =>
      cases hstep
      -- the connection copies the seeds of the session: nothing was sealed under them yet
      have hnone : (s.links i).agent = none := Option.isNone_iff_eq_none.mp hnew.2
      refine h.putLink rfl rfl ⟨rfl, rfl⟩ rfl ⟨fun _ _ => ?_, ?_, ?_, fun hsent => ?_⟩
        (fun hconf => ⟨hconf, rfl⟩) ?_
      · exact (h.link i).opening (by simp [hnone]) (by simp [Link.Answered, hnone])
      · rintro c a hc - - ha
        obtain rfl := Option.some.inj hc
        obtain rfl := Option.some.inj ha
        exact ⟨rfl, fun w hw => ⟨0, h.chain w hw⟩⟩
      · rintro c frames hc - hstage
        obtain rfl := Option.some.inj hc
        simp [AgentConnection.route, AgentConnection.create] at hstage
      · obtain ⟨c, hc, -⟩ := (h.link i).sent hsent
        simp [hnone] at hc
      · rintro - - ⟨c, hc, hstage⟩
        obtain rfl := Option.some.inj hc
        simp [AgentConnection.route, AgentConnection.create] at hstage
    · cases hstep
  | completeHandshake i =>
    obtain ⟨c, res, hc, hfail, hres, rfl⟩ := State.step_completeHandshake hstep
    unfold AgentConnection.completeHandshake at hres
    split at hres
    next a hstage ha =>
      cases hres
      -- its keys come from the seeds it copied, whatever the session has moved on to since
      have hnot : ¬(s.links i).Answered := by
        rintro ⟨c', hc', hstage'⟩
        obtain rfl : c = c' := Option.some.inj (hc.symm.trans hc')
        simp [hstage] at hstage'
      obtain ⟨hnonce, hbehind⟩ := (h.link i).copied c a hc hfail hstage ha
      refine h.putLink rfl rfl ⟨rfl, rfl⟩ rfl ⟨fun _ _ => ?_, ?_, ?_, fun hsent => ?_⟩
        (fun hconf => ⟨hconf, rfl⟩) ?_
      · refine (h.link i).opening (fun c' hc' => ?_) hnot
        obtain rfl : c = c' := Option.some.inj (hc.symm.trans hc')
        exact hfail
      · rintro c' a' hc' - hstage'
        obtain rfl := Option.some.inj hc'
        cases hstage'
      · rintro c' frames hc' - - hframes
        obtain rfl := Option.some.inj hc'
        obtain ⟨w, hw, rfl⟩ := Option.map_eq_some_iff.mp hframes
        exact ⟨w, by simp only [Link.framesOf, hnonce], hbehind w hw⟩
      · exact absurd ((h.link i).sent hsent) hnot
      · rintro - - ⟨c', hc', hstage'⟩
        obtain rfl := Option.some.inj hc'
        simp at hstage'
    · cases hres
  | sendResume now out => exact h.sendResume hstep
  | agentFrame i now => exact h.agentFrame coh forward ok hstep
  | agentIdle i now out scratch => exact h.agentIdle hstep
  | supplySnapshot i now snapshot scrollbackLen flags =>
    simp only [State.step, Option.bind_eq_bind, Option.bind_eq_some_iff] at hstep
    obtain ⟨c, hc, hstep⟩ := hstep
    cases hstep
    rcases AgentConnection.supplySnapshot_cases c s.agent now snapshot scrollbackLen flags with
      ⟨hsame, hconn⟩ | supplied
    · -- a snapshot for a superseded connection leaves the session as it was
      have hseeds := And.intro (congrArg AgentSession.seed hsame)
        (congrArg AgentSession.previousSeed hsame)
      generalize c.supplySnapshot s.agent now snapshot scrollbackLen flags = res at hconn hseeds ⊢
      have hstage : res.1.stage = c.stage := by rw [hconn]
      refine h.putLink rfl rfl hseeds rfl ((h.link i).ofAgent hc hstage (.inr ?_) id)
        (fun hconf => ⟨hconf, rfl⟩) (fun _ _ hans => .inl (hans.before rfl hstage hc))
      rw [hconn]
      exact ⟨rfl, rfl, rfl⟩
    · exact h.putLink rfl rfl supplied.seeds rfl (.of_answered ⟨_, rfl, .inr supplied.after⟩)
        (fun hconf => ⟨hconf, rfl⟩) (fun _ _ _ => .inl ⟨c, hc, .inl supplied.stage⟩)
  | agentClose i now =>
    simp only [State.step, Option.bind_eq_bind, Option.bind_eq_some_iff] at hstep
    obtain ⟨c, hc, hstep⟩ := hstep
    cases hstep
    exact h.same rfl rfl (close_seeds ..) rfl
  | clientFrame now => exact h.clientFrame hstep
  | clientIdle now out scratch => exact h.clientIdle hstep
  | confirmApply gen =>
    simp only [State.step, Option.bind_eq_bind, Option.bind_eq_some_iff] at hstep
    obtain ⟨i, hi, hstep⟩ := hstep
    cases hstep
    obtain ⟨hseed, hsame⟩ := confirmApply_seeds (s.links i).client s.client gen
    exact h.ofClient rfl rfl rfl hseed hsame
  | denyApply gen =>
    simp only [State.step, Option.bind_eq_bind, Option.bind_eq_some_iff] at hstep
    obtain ⟨i, hi, hstep⟩ := hstep
    cases hstep
    exact h.ofClient rfl rfl rfl rfl (denyApply_keys ..)
  | queueResize size =>
    simp only [State.step, Option.bind_eq_bind, Option.bind_eq_some_iff] at hstep
    obtain ⟨i, hi, hstep⟩ := hstep
    cases hstep
    exact h.ofClient rfl rfl rfl rfl (queueResize_keys ..)
  | clientClose now =>
    obtain ⟨streams, -, -, -, heq⟩ := dropClient_rest s now
    simp only [State.step, heq] at hstep
    cases hstep
    exact h.same rfl rfl ⟨rfl, rfl⟩ rfl
  | clientWrite bytes =>
    simp only [State.step] at hstep
    split at hstep
    · next heq =>
      cases hstep
      exact h.same rfl rfl ⟨rfl, rfl⟩ (congrArg (fun r => r.2.seed) heq).symm
    · next heq =>
      cases hstep
      exact h.same rfl rfl ⟨rfl, rfl⟩ (congrArg (fun r => r.2.seed) heq).symm
  | agentWrite bytes =>
    have hseeds := write_seeds s.agent bytes
    simp only [State.step] at hstep
    split at hstep
    · next heq =>
      cases hstep
      rw [heq] at hseeds
      exact h.same rfl rfl hseeds rfl
    · next heq =>
      cases hstep
      rw [heq] at hseeds
      exact h.same rfl rfl hseeds rfl
  | inputDelivered count =>
    cases hstep
    exact h.same rfl rfl ⟨rfl, rfl⟩ rfl
  | inputRejected i count now =>
    simp only [State.step, Option.bind_eq_bind, Option.bind_eq_some_iff] at hstep
    obtain ⟨c, hc, hstep⟩ := hstep
    split at hstep
    · split at hstep
      · next agent heq =>
        cases hstep
        obtain ⟨-, rfl⟩ := Prod.mk.inj heq
        exact h.same rfl rfl (close_seeds ..) rfl
      · next agent heq =>
        cases hstep
        obtain ⟨-, rfl⟩ := Prod.mk.inj heq
        exact h.same rfl rfl (close_seeds ..) rfl
    · cases hstep
  | endSession message =>
    cases hstep
    exact h.same rfl rfl ⟨rfl, rfl⟩ rfl
  | agentTimer now =>
    cases hstep
    exact h.same rfl rfl ⟨rfl, rfl⟩ rfl
  | agentGates i sendOpen readOpen now =>
    cases hstep
    cases hc : (s.links i).agent with
    | none =>
      -- there is no connection to set the gates of
      have hlink : ({ s.links i with agent := none } : Link K) = s.links i := by rw [← hc]
      refine h.same ?_ rfl ⟨rfl, rfl⟩ rfl
      simp [State.onAgentChannel, State.putLink, hc, hlink]
    | some c =>
      simp only [State.onAgentChannel, hc, Option.map_some]
      refine h.putLink rfl rfl ⟨rfl, rfl⟩ rfl ((h.link i).ofAgent hc ?_ (.inr ?_) id)
        (fun hconf => ⟨hconf, rfl⟩) (fun _ _ hans => .inl (hans.before rfl ?_ hc))
      · rfl
      · exact ⟨rfl, rfl, rfl⟩
      · rfl
  | clientGates sendOpen readOpen now =>
    cases hstep
    unfold State.onClientChannel
    split
    · exact h.ofClient rfl rfl rfl rfl ⟨rfl, rfl, id, by simp⟩
    · exact h

/-- The seeds are in step in every state of a run. -/
lemma ratchet_run (forward : Forward P) (seed : K) (agentStorage clientStorage : Bytes)
    (agentLimits clientLimits : SessionLimits) (now : Timestamp) {as : List Action} {t : State K}
    (run : Run (State.step P cfg) (State.SeedsInStep P)
      (.start seed agentStorage clientStorage agentLimits clientLimits now) as t) :
    Ratchet P t := by
  have start : Ratchet P
      (.start seed agentStorage clientStorage agentLimits clientLimits now) := by
    refine ⟨?_, .inl rfl, ?_, ?_, fun i => ⟨fun _ _ => .inl ⟨rfl, rfl⟩, ?_, ?_, ?_⟩⟩ <;>
      simp [State.start, AgentSession.create, State.current, unusedLink]
  refine (run.inv (fun s => Ratchet P s ∧ Coherent cfg s ∧ (s.view cfg).Stored) ?_
    ⟨start, .start .., stored_start ..⟩).1
  rintro s a s' ⟨hratchet, hcoh, hstored⟩ ok hstep
  obtain ⟨⟨m, -, hmove⟩, hcoh'⟩ := step_moves hcoh hstored hstep
  exact ⟨hratchet.step hcoh forward ok hstep, hcoh', hstored.move hmove⟩

/-- The Resume of a connection whose copies are still the seeds of the session opens. -/
lemma Ratchet.resume_opens (h : Ratchet P s) {i : Nat} {c : AgentConnection K} {up : Upward K}
    {rest : List (Upward K)} (hi : s.current = some i)
    (hconf : (s.links i).client.confirmed = false) (hc : (s.links i).agent = some c)
    (hfail : c.failed = none) (hstage : c.stage = .awaitResume)
    (hcur : c.current = some ((s.links i).framesOf P s.agent.seed))
    (hfb : c.fallback = s.agent.previousSeed.map ((s.links i).framesOf P))
    (hup : (s.links i).toAgent = up :: rest) : ∃ r, c.openResume P up.frame = .ok r := by
  have hseals := (h.link i).head hc hfail hstage hup
  have hfresh := h.fresh i hi hconf
  have hopen := hseals.open_iff s.agent.seed
  unfold AgentConnection.openResume
  rw [hcur]
  dsimp only
  rcases hres : ((s.links i).framesOf P s.agent.seed).opener.open P up.frame with ⟨_ | plain, opener⟩
  · -- the keys of the current seed do not open it, so the client is on the seed before
    rw [hres] at hopen
    split at hopen
    · cases hopen
    next hkeys =>
    cases hopen
    have hbehind : s.agent.previousSeed = some (s.links i).client.seed := by
      rw [hfresh] at hkeys ⊢
      refine h.agree.resolve_left fun hagree => hkeys ?_
      rw [hagree]
      exact ⟨rfl, rfl⟩
    have hopen := hseals.open_iff (s.links i).client.seed
    rw [if_pos ⟨rfl, rfl⟩] at hopen
    rw [hfb, hbehind]
    rcases hres' : ((s.links i).framesOf P (s.links i).client.seed).opener.open P up.frame with
      ⟨_ | plain, opener'⟩
    · rw [hres'] at hopen
      cases hopen
    · simp only [Option.map_some, hres']
      exact ⟨_, rfl⟩
  · exact ⟨_, rfl⟩

/-- The steps of a connection nothing comes between. -/
def undisturbed (i clientNonce serverNonce : Nat) (snapshotBuf : Bytes) (now : Timestamp)
    (out : Nat) : List Action :=
  [.clientOpen clientNonce serverNonce snapshotBuf now, .route i now, .completeHandshake i,
    .sendResume now out]

/-- Sending a Resume puts at most one frame on the connection. -/
lemma sendResume_leaves {i : Nat} {now : Timestamp} {out : Nat} (hi : s.current = some i)
    (hstep : s.step P cfg (.sendResume now out) = some s') :
    s'.agent = s.agent ∧ s'.opened = s.opened ∧ (s'.links i).agent = (s.links i).agent ∧
      (∀ seed, (s'.links i).framesOf P seed = (s.links i).framesOf P seed) ∧
      (s'.links i).client.confirmed = (s.links i).client.confirmed ∧
      (s'.links i).toAgent.length ≤ (s.links i).toAgent.length + 1 := by
  obtain ⟨j, offset, hj, hfail, -, rfl⟩ := State.step_sendResume hstep
  obtain rfl : i = j := Option.some.inj (hi.symm.trans hj)
  have hsent := ClientConnection.sendResume_cases P s.client now hfail out cfg.version
    (s.links i).serverNonce offset
  generalize (s.links i).client.sendResume P s.client now out cfg.version (s.links i).serverNonce
    offset = res at hsent
  have hsame : res.2.1.confirmed = (s.links i).client.confirmed ∧
      res.2.1.clientNonce = (s.links i).client.clientNonce := by
    cases hsent with
    | refused _ _ _ _ _ _ same => exact ⟨same.2.1, same.2.2.2.2⟩
    | stuck _ _ _ _ _ _ _ same => exact ⟨same.2.1, same.2.2.2.2⟩
    | sent _ _ _ _ _ _ same => exact ⟨same.2.2.1, same.2.2.2.2.2⟩
  have hlen : (State.sentOf res.1).length ≤ 1 := by
    unfold State.sentOf
    split <;> simp
  rw [State.clientReturns_eq]
  simp only [State.putLink, Function.update_self, Link.framesOf, hsame, List.length_append,
    List.length_map]
  exact ⟨trivial, trivial, trivial, fun _ => trivial, trivial, by omega⟩

/-- After an undisturbed connection has been made, what the agent copied are the session's seeds. -/
lemma undisturbed_copies {t t' : State K} {clientNonce serverNonce : Nat} {snapshotBuf : Bytes}
    {now : Timestamp} {out : Nat}
    (h : exec (State.step P cfg) t
      (undisturbed t.opened clientNonce serverNonce snapshotBuf now out) = some t') :
    t'.current = some t.opened ∧ (t'.links t.opened).client.confirmed = false ∧
      (t'.links t.opened).toAgent.length ≤ 1 ∧
      ∃ c, (t'.links t.opened).agent = some c ∧ c.failed = none ∧ c.stage = .awaitResume ∧
        c.current = some ((t'.links t.opened).framesOf P t'.agent.seed) ∧
        c.fallback = t'.agent.previousSeed.map ((t'.links t.opened).framesOf P) := by
  simp only [undisturbed, exec, Option.bind_eq_some_iff] at h
  obtain ⟨t₁, h₁, t₂, h₂, t₃, h₃, t₄, h₄, h⟩ := h
  cases h
  obtain ⟨streams, -, -, -, heq⟩ := dropClient_rest t now
  simp only [State.step, heq, Option.some.injEq] at h₁
  subst h₁
  simp only [State.step] at h₂
  split at h₂
  next hnew =>
    simp only [State.putLink, Function.update_self, Option.some.injEq] at h₂
    subst h₂
    obtain ⟨c, res, hc, -, hres, rfl⟩ := State.step_completeHandshake h₃
    simp only [Function.update_self, Option.some.injEq] at hc
    subst hc
    simp only [AgentConnection.completeHandshake, AgentConnection.route, AgentConnection.create,
      ne_eq, not_true_eq_false, if_false, Option.some.injEq] at hres
    subst hres
    obtain ⟨hagent, hopened, hlink, hframes, hconf, hlen⟩ :=
      sendResume_leaves (i := t.opened) rfl h₄
    refine ⟨by simp [State.current, hopened, State.putLink], ?_, ?_, ?_⟩
    · simpa [State.putLink, ClientConnection.create] using hconf
    · simpa [State.putLink] using hlen
    · rw [hlink, hagent, funext hframes]
      simp only [State.putLink, Function.update_self]
      exact ⟨_, rfl, rfl, rfl, rfl, rfl⟩
  · cases h₂

/-- Nothing can keep the client from opening a connection, and from sending its Resume on it. -/
lemma undisturbed_runs (t : State K) (clientNonce serverNonce : Nat) (snapshotBuf : Bytes)
    (now : Timestamp) (out : Nat) : ∃ t', exec (State.step P cfg) t
      (undisturbed t.opened clientNonce serverNonce snapshotBuf now out) = some t' := by
  obtain ⟨streams, -, -, -, heq⟩ := dropClient_rest t now
  simp [undisturbed, exec, State.step, heq, State.putLink, State.current, AgentConnection.completeHandshake,
    AgentConnection.route, AgentConnection.create, ClientConnection.create]

/-- As long as no Resume opens under the current seed of its connection while the client is a step
behind, the client's seed is the agent's or the one before, and the next connection can always be made
undisturbed: then the agent opens its Resume. -/
theorem seeds_agree (forward : Forward P) (seed : K) (agentStorage clientStorage : Bytes)
    (agentLimits clientLimits : SessionLimits) (now : Timestamp) {as : List Action} {t : State K}
    (run : Run (State.step P cfg) (State.SeedsInStep P)
      (.start seed agentStorage clientStorage agentLimits clientLimits now) as t) :
    (t.client.seed = t.agent.seed ∨ t.agent.previousSeed = some t.client.seed) ∧
      ∀ clientNonce serverNonce snapshotBuf now out, ∃ t',
        exec (State.step P cfg) t
          (undisturbed t.opened clientNonce serverNonce snapshotBuf now out) = some t' ∧
        ∀ up ∈ (t'.links t.opened).toAgent, ∃ c opened,
          (t'.links t.opened).agent = some c ∧ c.openResume P up.frame = .ok opened := by
  refine ⟨(ratchet_run forward seed _ _ _ _ _ run).agree, ?_⟩
  intro clientNonce serverNonce snapshotBuf now' out
  obtain ⟨t', hexec⟩ := @undisturbed_runs _ _ P cfg t clientNonce serverNonce snapshotBuf now' out
  refine ⟨t', hexec, fun up hup => ?_⟩
  obtain ⟨hcurrent, hconf, hlen, c, hc, hfail, hstage, hcur, hfb⟩ := undisturbed_copies hexec
  have run' : Run (State.step P cfg) (State.SeedsInStep P) t
      (undisturbed t.opened clientNonce serverNonce snapshotBuf now' out) t' := by
    simp only [undisturbed, exec, Option.bind_eq_some_iff] at hexec
    obtain ⟨t₁, h₁, t₂, h₂, t₃, h₃, t₄, h₄, h⟩ := hexec
    cases h
    exact .cons trivial h₁ (.cons trivial h₂ (.cons trivial h₃ (.cons trivial h₄ (.nil _))))
  have hratchet := ratchet_run forward seed _ _ _ _ _ (run.append run')
  obtain ⟨up', hup'⟩ := List.length_eq_one_iff.mp
    (Nat.le_antisymm hlen (List.length_pos_of_mem hup))
  obtain rfl : up = up' := by simpa [hup'] using hup
  obtain ⟨opened, hopened⟩ := hratchet.resume_opens hcurrent hconf hc hfail hstage hcur hfb hup'
  exact ⟨c, opened, hc, hopened⟩

/-- Two connections copy the same seed, and both Resumes arrive. -/
def secondResume : List Action :=
  sampleResume 0 0 ++ sampleResume 1 0 ++ [.agentFrame 0 0, .agentFrame 1 0]

/-- The agent is two steps ahead of the client after it. -/
theorem second_resume_locks_out : ¬∀ as t, Run (State.step .counting sampleConfig) Anywhere
    sampleStart as t →
      t.client.seed = t.agent.seed ∨ t.agent.previousSeed = some t.client.seed := by
  intro h
  have hreach : ((exec (State.step .counting sampleConfig) sampleStart secondResume).any
      fun t => decide ¬(t.client.seed = t.agent.seed ∨
        t.agent.previousSeed = some t.client.seed)) = true := by
    decide +kernel
  obtain ⟨t, ht, hapart⟩ := (Option.any_eq_true _ _).mp hreach
  exact of_decide_eq_true hapart (h secondResume t (.of_exec ht))

/-- A seed that counts up never comes back. -/
lemma counting_forward : Forward .counting where
  acyclic seed n := by
    have hadd : ∀ n, KeySchedule.counting.advanceConnectionSeed^[n] seed = seed + n := by
      intro n
      induction n with
      | zero => rfl
      | succ n ih =>
        rw [Function.iterate_succ_apply', ih]
        rfl
    rw [hadd]
    omega
  injective seed seed' clientNonce serverNonce h := by
    simp only [KeySchedule.counting] at h
    omega

/-- The answer to a Resume is cut, and the client comes back a step behind. -/
def cutAnswer : List Action :=
  sampleResume 0 0 ++ [.agentFrame 0 0] ++ sampleResume 1 0 ++ [.agentFrame 1 0] ++ sampleByte 1 0

/-- The answer to a Resume is lost, and the client comes back a step behind. -/
theorem seeds_agree_sample :
    ∃ t, Run (State.step .counting sampleConfig) (State.SeedsInStep .counting) sampleStart
        cutAnswer t ∧ t.client.seed = 1 ∧ t.agent.previousSeed = some 0 ∧
      (t.client.seed = t.agent.seed ∨ t.agent.previousSeed = some t.client.seed) := by
  have hreach : ((exec (guarded (State.step .counting sampleConfig)
      (State.SeedsInStep .counting)) sampleStart cutAnswer).any fun t =>
        decide (t.client.seed = 1 ∧ t.agent.previousSeed = some 0)) = true := by
    decide +kernel
  obtain ⟨t, ht, hstate⟩ := (Option.any_eq_true _ _).mp hreach
  have run := Run.of_guarded ht
  obtain ⟨hclient, hprev⟩ := of_decide_eq_true hstate
  exact ⟨t, run, hclient, hprev, (seeds_agree counting_forward 0 _ _ {} {} 0 run).1⟩

end Zet.Net
