import Zet.Lib.Stream
import Zet.Net.Resumption

/-!
# What is delivered

Replay alone, connection after connection: each end holds a prefix of what the other end wrote, and
everything on its way to an end that will take it continues that prefix. `View.Input` states this for
what the client writes and `View.Output` for what the agent writes; the two differ in who moves the
cursor back (the agent, when the pty refuses its bytes) and in what a new connection starts from.

`exactly_once` is the conclusion: at both ends what was delivered is a prefix of what was written, and
no end ever turns the other away for where its stream stands.
-/

namespace Zet.Net
open Zet.Core Zet.Wire Zet.Lib Zet.Session

/-- Where the data of a frame starts and ends. -/
def segmentOf : Said → Option (Nat × Nat)
  | .data _ offset payload => some (offset, offset + payload.length)
  | _ => none

/-- What a frame acknowledges. -/
def ackOf : Said → Option Nat
  | .data ack _ _ => some ack
  | .ack ack => some ack
  | _ => none

/-- The data on its way to the agent. -/
def LinkView.upSegments (l : LinkView) : List (Nat × Nat) :=
  l.toAgent.filterMap fun u => segmentOf u.said

/-- The data on its way to the client. -/
def LinkView.downSegments (l : LinkView) : List (Nat × Nat) :=
  l.toClient.filterMap fun d => segmentOf d.said

/-- What a connection carries before its Resume, and before it attaches. -/
structure LinkView.Staged (l : LinkView) : Prop where
  unresumed : l.clientGrid = none → l.toAgent = [] ∧ l.agentGrid = none
  offered : l.routed.isSome ∨ l.authOk.isSome → l.clientGrid = none
  once : l.authOk.isSome → l.routed = none
  silent : l.agentGrid = none → l.toClient = []

/-- Every connection is in one of its stages. -/
def View.Staged (v : View) : Prop := ∀ i, (v.links i).Staged

section
variable {cfg : Config} {v v' : View} {m : Mark}

/-- A connection with a frame on it has sent its Resume. -/
lemma LinkView.Staged.resumed {l : LinkView} (h : l.Staged) {up : Up} {rest : List Up}
    (head : l.toAgent = up :: rest) : l.clientGrid ≠ none := by
  intro hnone
  rw [(h.unresumed hnone).1] at head
  cases head

/-- Changing one connection keeps the stages. -/
lemma View.Staged.put (h : v.Staged) {i : Nat} {l : LinkView}
    (links : v'.links = Function.update v.links i l) (hl : l.Staged) : v'.Staged := by
  intro j
  rw [links]
  by_cases hj : j = i
  · rw [hj, Function.update_self]
    exact hl
  · rw [Function.update_of_ne hj]
    exact h j

/-- Every move keeps the connections in their stages. -/
lemma View.Staged.move (h : v.Staged) (hmove : Move cfg v m v') : v'.Staged := by
  cases hmove with
  | agentQuiet i => exact h.put rfl ⟨(h i).unresumed, (h i).offered, (h i).once, (h i).silent⟩
  | clientQuiet i => exact h.put rfl ⟨(h i).unresumed, (h i).offered, (h i).once, (h i).silent⟩
  | clientOpen => exact h.put rfl ⟨fun _ => ⟨rfl, rfl⟩, fun _ => rfl, fun _ => rfl, fun _ => rfl⟩
  | route i _ _ fresh unanswered =>
    refine h.put rfl ⟨(h i).unresumed, fun _ => fresh, fun hauth => ?_, (h i).silent⟩
    have hauth : (v.links i).authOk.isSome := hauth
    rw [unanswered] at hauth
    cases hauth
  | completeHandshake i a routed =>
    have hfresh := (h i).offered (.inl (by rw [routed]; rfl))
    exact h.put rfl ⟨(h i).unresumed, fun _ => hfresh, fun _ => rfl, (h i).silent⟩
  | resumeRefused i a e _ authOk =>
    have hauth : (v.links i).authOk.isSome := by rw [authOk]; rfl
    refine h.put rfl ⟨(h i).unresumed, fun _ => (h i).offered (.inr hauth), ?_, (h i).silent⟩
    rintro ⟨⟩
  | resumeStuck i a e b _ authOk =>
    have hauth : (v.links i).authOk.isSome := by rw [authOk]; rfl
    refine h.put rfl ⟨(h i).unresumed, fun _ => (h i).offered (.inr hauth), ?_, (h i).silent⟩
    rintro ⟨⟩
  | resumeSent i a b gen _ authOk =>
    have hauth : (v.links i).authOk.isSome := by rw [authOk]; rfl
    refine h.put rfl ⟨?_, ?_, ?_, (h i).silent⟩
    · rintro ⟨⟩
    · rintro (hrouted | ⟨⟨⟩⟩)
      have hrouted : (v.links i).routed.isSome := hrouted
      rw [(h i).once hauth] at hrouted
      cases hrouted
    · rintro ⟨⟩
  | agentTurned i up rest errors head =>
    exact h.put rfl ⟨fun hnone => absurd hnone ((h i).resumed head), (h i).offered, (h i).once,
      (h i).silent⟩
  | agentRejected i gen off up rest e held head =>
    exact h.put rfl ⟨fun hnone => absurd hnone ((h i).resumed head), (h i).offered, (h i).once,
      (h i).silent⟩
  | pathA i gen off up rest b head =>
    refine h.put rfl ⟨fun hnone => absurd hnone ((h i).resumed head), (h i).offered, (h i).once, ?_⟩
    rintro ⟨⟩
  | pathB i gen off up rest head =>
    refine h.put rfl ⟨fun hnone => absurd hnone ((h i).resumed head), (h i).offered, (h i).once, ?_⟩
    rintro ⟨⟩
  | agentHears i up rest g out head holder alive grid =>
    refine h.put rfl ⟨fun hnone => absurd hnone ((h i).resumed head), (h i).offered, (h i).once, ?_⟩
    rintro ⟨⟩
  | agentSays i g said f holder grid =>
    refine h.put rfl ⟨fun hnone => ?_, (h i).offered, (h i).once, ?_⟩
    · have := ((h i).unresumed hnone).2
      rw [grid] at this
      cases this
    · rintro ⟨⟩
  | supplied i g g' holder waiting grid =>
    refine h.put rfl ⟨fun hnone => ?_, (h i).offered, (h i).once, ?_⟩
    · have := ((h i).unresumed hnone).2
      rw [grid] at this
      cases this
    · rintro ⟨⟩
  | clientTurned i down rest errors _ head =>
    refine h.put rfl ⟨(h i).unresumed, (h i).offered, (h i).once, fun hnone => ?_⟩
    have := (h i).silent hnone
    rw [head] at this
    cases this
  | clientHears i down rest g out _ head alive grid =>
    refine h.put rfl ⟨?_, fun hor => ?_, (h i).once, fun hnone => ?_⟩
    · rintro ⟨⟩
    · have := (h i).offered hor
      rw [grid] at this
      cases this
    · have := (h i).silent hnone
      rw [head] at this
      cases this
  | clientSays i g said f _ grid =>
    refine h.put rfl ⟨?_, fun hor => ?_, (h i).once, (h i).silent⟩
    · rintro ⟨⟩
    · have := (h i).offered hor
      rw [grid] at this
      cases this
  | confirmApply i gen applied _ pending =>
    refine h.put rfl ⟨fun hnone => (h i).unresumed (by simpa using hnone), fun hor => ?_, (h i).once,
      (h i).silent⟩
    have := (h i).offered hor
    simp [this]
  | denyApply i => exact h.put rfl ⟨(h i).unresumed, (h i).offered, (h i).once, (h i).silent⟩
  | _ => exact h

end

/-- The connection will deliver from `r` on: it holds the session, or is still to attach. -/
def View.Takes (v : View) (i r : Nat) : Prop :=
  (v.links i).agentDead = false ∧
    (((v.links i).agentGrid = none ∧ r = v.inp.ackOffset) ∨
      (v.Holder i ∧ (v.links i).agentGrid.isSome ∧ r = v.inp.recvOffset))

/-- What the agent holds of the client's stream, and what is on its way. -/
structure View.Input (v : View) : Prop where
  got : v.agentGot = v.clientTaken.take v.inp.recvOffset
  recv : v.inp.recvOffset ≤ v.clientTaken.length
  cursor : v.inp.ack = .onDelivery ∧ v.inp.pending ≤ v.inp.recvOffset
  base : v.clientOut.base ≤ v.inp.ackOffset
  acks : ∀ i, ∀ d ∈ (v.links i).toClient, ∀ a, ackOf d.said = some a → a ≤ v.inp.ackOffset
  /-- An offset the client will start a connection from. -/
  offered : ∀ i a, (v.links i).routed = some a ∨ (v.links i).authOk = some a →
    a ≤ v.inp.ackOffset ∧ (v.Current i → v.clientOut.base ≤ a)
  slices : ∀ i, ∀ u ∈ (v.links i).toAgent, ∀ a o p, u.said = .data a o p →
    IsSlice v.clientTaken o p
  covers : ∀ i r, v.Takes i r → Covers r (v.links i).upSegments
  next : ∀ i r, v.Takes i r → v.Current i → (v.links i).clientGrid.isSome →
    v.clientOut.sendNext ≤ reach r (v.links i).upSegments
  agentErrors : .stream .streamGap ∉ v.agentErrors
  clientErrors : .stream .ackBeyondSent ∉ v.clientErrors ∧
    .stream .peerBehindBuffer ∉ v.clientErrors

section
variable {cfg : Config} {v v' : View} {m : Mark}

/-- A move that changes one connection and neither end of the stream. -/
lemma View.Input.put (h : v.Input) {i : Nat} {l : LinkView}
    (links : v'.links = Function.update v.links i l) (opened : v'.opened = v.opened)
    (inp : v'.inp = v.inp) (got : v'.agentGot = v.agentGot)
    (taken : v'.clientTaken = v.clientTaken) (out : v'.clientOut = v.clientOut)
    (holder : ∀ j, v'.Holder j → v.Holder j)
    (takes : l.agentDead = false → (v.links i).agentDead = false ∧
      l.agentGrid.isSome = (v.links i).agentGrid.isSome ∧
      l.upSegments = (v.links i).upSegments)
    (client : l.clientGrid.isSome → (v.links i).clientGrid.isSome)
    (ups : l.toAgent ⊆ (v.links i).toAgent)
    (acks : ∀ d ∈ l.toClient, d ∈ (v.links i).toClient ∨
      ∀ a, ackOf d.said = some a → a ≤ v.inp.ackOffset)
    (offered : ∀ a, l.routed = some a ∨ l.authOk = some a →
      ((v.links i).routed = some a ∨ (v.links i).authOk = some a) ∨ a = v.inp.ackOffset)
    (agentErrors : .stream .streamGap ∉ v'.agentErrors)
    (clientErrors : .stream .ackBeyondSent ∉ v'.clientErrors ∧
      .stream .peerBehindBuffer ∉ v'.clientErrors) : v'.Input := by
  obtain ⟨hself, hother⟩ := View.links_put links
  have hcur : ∀ j, v'.Current j ↔ v.Current j := fun j => by
    rw [View.Current, View.Current, opened]
  have htakes : ∀ j r, v'.Takes j r → v.Takes j r ∧
      (v'.links j).upSegments = (v.links j).upSegments := by
    rintro j r ⟨hdead, hor⟩
    rw [inp] at hor
    by_cases hj : j = i
    · subst hj
      rw [hself] at hdead hor ⊢
      obtain ⟨hdead', hgrid, hsegs⟩ := takes hdead
      refine ⟨⟨hdead', ?_⟩, hsegs⟩
      rcases hor with ⟨hnone, hr⟩ | ⟨hhold, hsome, hr⟩
      · refine .inl ⟨?_, hr⟩
        rw [hnone] at hgrid
        simpa using hgrid.symm
      · exact .inr ⟨holder j hhold, hgrid ▸ hsome, hr⟩
    · rw [hother j hj] at hdead hor ⊢
      refine ⟨⟨hdead, ?_⟩, rfl⟩
      rcases hor with hnone | ⟨hhold, hrest⟩
      · exact .inl hnone
      · exact .inr ⟨holder j hhold, hrest⟩
  refine ⟨?_, ?_, inp ▸ h.cursor, ?_, ?_, ?_, ?_, ?_, ?_, agentErrors, clientErrors⟩
  · rw [got, taken, inp]
    exact h.got
  · rw [taken, inp]
    exact h.recv
  · rw [out, inp]
    exact h.base
  · intro j d hd a ha
    rw [inp]
    by_cases hj : j = i
    · rw [hj, hself] at hd
      rcases acks d hd with hmem | hle
      · exact h.acks i d hmem a ha
      · exact hle a ha
    · exact h.acks j d (hother j hj ▸ hd) a ha
  · intro j a hor
    rw [inp, out, hcur]
    by_cases hj : j = i
    · rw [hj, hself] at hor
      rcases offered a hor with hold | rfl
      · exact hj ▸ h.offered i a hold
      · exact ⟨le_rfl, fun _ => h.base⟩
    · exact h.offered j a (hother j hj ▸ hor)
  · intro j u hu
    rw [taken]
    by_cases hj : j = i
    · rw [hj, hself] at hu
      exact h.slices i u (ups hu)
    · exact h.slices j u (hother j hj ▸ hu)
  · intro j r hr
    obtain ⟨htake, hsegs⟩ := htakes j r hr
    rw [hsegs]
    exact h.covers j r htake
  · intro j r hr hj hsome
    obtain ⟨htake, hsegs⟩ := htakes j r hr
    rw [hsegs, out]
    refine h.next j r htake ((hcur j).mp hj) ?_
    by_cases hij : j = i
    · rw [hij, hself] at hsome
      rw [hij]
      exact client hsome
    · exact hother j hij ▸ hsome

/-- The agent's cursor as its caller moves it: nothing acknowledged is taken back. -/
lemma View.Input.rewind (h : v.Input) {inp : ReceiveCursor} {got : Bytes} {held : Bool}
    (ack : inp.ack = v.inp.ack) (recv : inp.recvOffset ≤ v.inp.recvOffset)
    (pending : inp.pending ≤ inp.recvOffset) (kept : v.inp.ackOffset ≤ inp.ackOffset)
    (same : held = true → v.held = true ∧ inp.recvOffset = v.inp.recvOffset)
    (hgot : got = v.clientTaken.take inp.recvOffset) :
    ({ v with held := held, inp := inp, agentGot := got } : View).Input where
  got := hgot
  recv := recv.trans h.recv
  cursor := ⟨ack.trans h.cursor.1, pending⟩
  base := h.base.trans kept
  acks i d hd a ha := (h.acks i d hd a ha).trans kept
  offered i a hor := ⟨(h.offered i a hor).1.trans kept, (h.offered i a hor).2⟩
  slices := h.slices
  covers i r := by
    rintro ⟨hdead, ⟨hnone, rfl⟩ | ⟨hhold, hsome, rfl⟩⟩
    · exact (h.covers i _ ⟨hdead, .inl ⟨hnone, rfl⟩⟩).mono kept
    · obtain ⟨hheld, heq⟩ := same hhold.1
      show Covers inp.recvOffset _
      rw [heq]
      exact h.covers i _ ⟨hdead, .inr ⟨⟨hheld, hhold.2⟩, hsome, rfl⟩⟩
  next i r := by
    rintro ⟨hdead, ⟨hnone, rfl⟩ | ⟨hhold, hsome, rfl⟩⟩ hcur hclient
    · exact (h.next i _ ⟨hdead, .inl ⟨hnone, rfl⟩⟩ hcur hclient).trans (reach_mono kept _)
    · obtain ⟨hheld, heq⟩ := same hhold.1
      show _ ≤ reach inp.recvOffset _
      rw [heq]
      exact h.next i _ ⟨hdead, .inr ⟨⟨hheld, hhold.2⟩, hsome, rfl⟩⟩ hcur hclient
  agentErrors := h.agentErrors
  clientErrors := h.clientErrors

end

section
variable {cfg : Config} {v v' : View} {m : Mark}

/-- A new connection carries no input. -/
lemma View.Input.clientOpen (h : v.Input) :
    (View.putLink { v with opened := v.opened + 1 } v.opened .unused).Input := by
  have hself : (View.putLink { v with opened := v.opened + 1 } v.opened .unused).links v.opened =
      .unused := View.links_putLink_self ..
  have hother : ∀ j, j ≠ v.opened →
      (View.putLink { v with opened := v.opened + 1 } v.opened .unused).links j = v.links j :=
    fun j hj => View.links_putLink_of_ne hj
  have hcur : ∀ j, (View.putLink { v with opened := v.opened + 1 } v.opened .unused).Current j →
      j = v.opened := fun j hj => (Nat.succ.inj hj).symm
  refine ⟨h.got, h.recv, h.cursor, h.base, ?_, ?_, ?_, ?_, ?_, h.agentErrors, h.clientErrors⟩
  · intro j d hd
    by_cases hj : j = v.opened
    · rw [hj, hself] at hd
      cases hd
    · exact h.acks j d (hother j hj ▸ hd)
  · intro j a hor
    by_cases hj : j = v.opened
    · rw [hj, hself] at hor
      rcases hor with ⟨⟨⟩⟩ | ⟨⟨⟩⟩
    · exact ⟨(h.offered j a (hother j hj ▸ hor)).1, fun hc => absurd (hcur j hc) hj⟩
  · intro j u hu
    by_cases hj : j = v.opened
    · rw [hj, hself] at hu
      cases hu
    · exact h.slices j u (hother j hj ▸ hu)
  · intro j r hr
    by_cases hj : j = v.opened
    · rw [hj, hself]
      trivial
    · have hr' : v.Takes j r := by
        obtain ⟨hdead, hor⟩ := hr
        rw [hother j hj] at hdead hor
        exact ⟨hdead, hor⟩
      rw [hother j hj]
      exact h.covers j r hr'
  · intro j r _ hj hsome
    rw [hcur j hj, hself] at hsome
    cases hsome

/-- The client starts from an offset it was offered. -/
lemma View.Input.resumed (h : v.Input) (staged : v.Staged) {i a : Nat} {b : SendBuffer}
    {l : LinkView} (links : v'.links = Function.update v.links i l) (opened : v'.opened = v.opened)
    (inp : v'.inp = v.inp) (got : v'.agentGot = v.agentGot)
    (taken : v'.clientTaken = v.clientTaken) (out : v'.clientOut = b) (held : v'.held = v.held)
    (attached : v'.attached = v.attached) (current : v.Current i)
    (authOk : (v.links i).authOk = some a) (attach : v.clientOut.resetSendNext a = .ok b)
    (hauth : l.authOk = none) (hrouted : l.routed = (v.links i).routed)
    (hdead : l.agentDead = (v.links i).agentDead) (hgrid : l.agentGrid = (v.links i).agentGrid)
    (hdown : l.toClient = (v.links i).toClient)
    (hups : ∀ u ∈ l.toAgent, ∀ a o p, u.said ≠ .data a o p)
    (agentErrors : v'.agentErrors = v.agentErrors)
    (clientErrors : .stream .ackBeyondSent ∉ v'.clientErrors ∧
      .stream .peerBehindBuffer ∉ v'.clientErrors) : v'.Input := by
  obtain ⟨hself, hother⟩ := View.links_put links
  have hcur : ∀ j, v'.Current j → j = i := by
    intro j hj
    simp only [View.Current] at hj current
    omega
  have hsome : (v.links i).authOk.isSome := by rw [authOk]; rfl
  have hnone : (v.links i).agentGrid = none :=
    ((staged i).unresumed ((staged i).offered (.inr hsome))).2
  obtain ⟨hb, -, -⟩ := SendBuffer.resetSendNext_ok attach
  have hle := (h.offered i a (.inr authOk)).1
  have hsegs : l.upSegments = [] := by
    refine List.filterMap_eq_nil_iff.mpr fun u hu => ?_
    have := hups u hu
    cases hsaid : u.said with
    | data a o p => exact absurd hsaid (this a o p)
    | _ => rfl
  refine ⟨?_, ?_, inp ▸ h.cursor, ?_, ?_, ?_, ?_, ?_, ?_, agentErrors ▸ h.agentErrors, clientErrors⟩
  · rw [got, taken, inp]
    exact h.got
  · rw [taken, inp]
    exact h.recv
  · rw [out, inp, hb]
    exact hle
  · intro j d hd
    rw [inp]
    by_cases hj : j = i
    · rw [hj, hself, hdown] at hd
      exact h.acks i d hd
    · exact h.acks j d (hother j hj ▸ hd)
  · intro j a' hor
    by_cases hj : j = i
    · rw [hj, hself, hauth, hrouted, (staged i).once hsome] at hor
      rcases hor with ⟨⟨⟩⟩ | ⟨⟨⟩⟩
    · rw [inp]
      exact ⟨(h.offered j a' (hother j hj ▸ hor)).1, fun hc => absurd (hcur j hc) hj⟩
  · intro j u hu a' o p hsaid
    rw [taken]
    by_cases hj : j = i
    · rw [hj, hself] at hu
      exact absurd hsaid (hups u hu a' o p)
    · exact h.slices j u (hother j hj ▸ hu) a' o p hsaid
  · intro j r hr
    by_cases hj : j = i
    · rw [hj, hself, hsegs]
      trivial
    · have hr' : v.Takes j r := by
        obtain ⟨hd, hor⟩ := hr
        simp only [View.Holder, hother j hj, inp, held, attached] at hd hor
        exact ⟨hd, hor⟩
      rw [hother j hj]
      exact h.covers j r hr'
  · intro j r hr hj _
    obtain rfl := hcur j hj
    obtain ⟨-, hor⟩ := hr
    rw [hself, hgrid, inp] at hor
    rcases hor with ⟨-, rfl⟩ | ⟨-, hgrid', -⟩
    · rw [out, hb]
      exact hle.trans (le_reach _ _)
    · rw [hnone] at hgrid'
      cases hgrid'

/-- The agent takes the session to a new connection. -/
lemma View.Input.attach (h : v.Input) {i : Nat} {l : LinkView} {up : Up} {rest : List Up}
    (links : v'.links = Function.update v.links i l) (opened : v'.opened = v.opened)
    (inp : v'.inp = v.inp) (got : v'.agentGot = v.agentGot)
    (taken : v'.clientTaken = v.clientTaken) (out : v'.clientOut = v.clientOut)
    (attached : v'.attached = some i) (head : (v.links i).toAgent = up :: rest)
    (said : segmentOf up.said = none) (first : (v.links i).agentGrid = none)
    (ups : l.toAgent = rest) (hdead : l.agentDead = (v.links i).agentDead)
    (hclient : l.clientGrid = (v.links i).clientGrid)
    (hrouted : l.routed = (v.links i).routed) (hauth : l.authOk = (v.links i).authOk)
    (hdown : l.toClient = (v.links i).toClient) (agentErrors : v'.agentErrors = v.agentErrors)
    (clientErrors : v'.clientErrors = v.clientErrors) : v'.Input := by
  obtain ⟨hself, hother⟩ := View.links_put links
  have hcur : ∀ j, v'.Current j ↔ v.Current j := fun j => by
    rw [View.Current, View.Current, opened]
  have hsegs : l.upSegments = (v.links i).upSegments := by
    simp only [LinkView.upSegments, head, ups, List.filterMap_cons, said]
  have hlow : v.inp.ackOffset ≤ v.inp.recvOffset := Nat.sub_le _ _
  -- the agent hears the connection from the offset it offered, which is behind its cursor
  have htakes : ∀ j r, v'.Takes j r → ∃ r', r' ≤ r ∧ v.Takes j r' ∧
      (v'.links j).upSegments = (v.links j).upSegments := by
    rintro j r ⟨hd, hor⟩
    by_cases hj : j = i
    · subst hj
      rw [hself, inp] at hor
      rw [hself] at hd ⊢
      refine ⟨v.inp.ackOffset, ?_, ⟨hdead ▸ hd, .inl ⟨first, rfl⟩⟩, hsegs⟩
      rcases hor with ⟨-, rfl⟩ | ⟨-, -, rfl⟩
      · exact le_rfl
      · exact hlow
    · rw [hother j hj, inp] at hor
      rw [hother j hj] at hd ⊢
      rcases hor with hnone | ⟨⟨-, hatt⟩, -⟩
      · exact ⟨r, le_rfl, ⟨hd, .inl hnone⟩, rfl⟩
      · rw [attached] at hatt
        exact absurd (Option.some.inj hatt).symm hj
  refine ⟨?_, ?_, inp ▸ h.cursor, ?_, ?_, ?_, ?_, ?_, ?_, agentErrors ▸ h.agentErrors,
    clientErrors ▸ h.clientErrors⟩
  · rw [got, taken, inp]
    exact h.got
  · rw [taken, inp]
    exact h.recv
  · rw [out, inp]
    exact h.base
  · intro j d hd
    rw [inp]
    by_cases hj : j = i
    · rw [hj, hself, hdown] at hd
      exact h.acks i d hd
    · exact h.acks j d (hother j hj ▸ hd)
  · intro j a hor
    rw [inp, out, hcur]
    by_cases hj : j = i
    · rw [hj, hself, hrouted, hauth] at hor
      exact hj ▸ h.offered i a hor
    · exact h.offered j a (hother j hj ▸ hor)
  · intro j u hu
    rw [taken]
    by_cases hj : j = i
    · rw [hj, hself, ups] at hu
      exact h.slices i u (head ▸ List.mem_cons_of_mem up hu)
    · exact h.slices j u (hother j hj ▸ hu)
  · intro j r hr
    obtain ⟨r', hle, htake, heq⟩ := htakes j r hr
    rw [heq]
    exact (h.covers j r' htake).mono hle
  · intro j r hr hj hc
    obtain ⟨r', hle, htake, heq⟩ := htakes j r hr
    rw [heq, out]
    refine (h.next j r' htake ((hcur j).mp hj) ?_).trans (reach_mono hle _)
    by_cases hij : j = i
    · rw [hij, hself, hclient] at hc
      rw [hij]
      exact hc
    · exact hother j hij ▸ hc

end

section
variable {cfg : Config} {v v' : View} {m : Mark}

/-- What a frame delivers: the new tail of its data, or nothing. A frame with data that delivers
nothing has failed. -/
lemma Face.hears_delivered {f : Face} {said : Said} {out : Except SessionError IncomingEvent × Face}
    (h : f.Hears said out) (whole : snapshotOf out.1 = none) :
    (errorOf out.1 = none ∧ ∃ a o p, said = .data a o p ∧
      f.recvCursor.receive o p = .ok (deliveredOf out.1, out.2.recvCursor)) ∨
    (out.2.recvCursor = f.recvCursor ∧ deliveredOf out.1 = [] ∧
      (segmentOf said = none ∨ (errorOf out.1).isSome) ∧
      (errorOf out.1 = some (.stream .streamGap) → ∃ a o p e, said = .data a o p ∧
        f.recvCursor.receive o p = .error e)) := by
  cases h with
  | @data a o p free =>
    unfold Face.hearData
    split
    · next e herr =>
      refine .inr ⟨rfl, rfl, .inr rfl, fun hgap => ?_⟩
      have := (SendBuffer.acknowledge_error (Face.applyAck_error herr).2).1
      simp [errorOf, this] at hgap
    · next f' hack =>
      have hcur : f'.recvCursor = f.recvCursor := by
        rcases Face.applyAck_ok hack with ⟨-, rfl⟩ | ⟨-, b, -, rfl⟩ <;> rfl
      unfold Face.deliver
      split
      · next e herr => exact .inr ⟨hcur, rfl, .inr rfl, fun _ => ⟨a, o, p, e, rfl, hcur ▸ herr⟩⟩
      · next bytes cursor hrec =>
        refine .inl ⟨rfl, a, o, p, rfl, ?_⟩
        rw [← hcur, hrec]
        dsimp only
        split
        · next hempty => simp [deliveredOf, List.isEmpty_iff.mp hempty]
        · rfl
  | @ack a =>
    right
    rw [Face.hearAck_cursor]
    unfold Face.hearAck
    split
    · next e herr =>
      refine ⟨rfl, rfl, .inl rfl, fun hgap => ?_⟩
      have := (SendBuffer.acknowledge_error (Face.applyAck_error herr).2).1
      simp [errorOf, this] at hgap
    · exact ⟨rfl, rfl, .inl rfl, by simp [errorOf]⟩
  | rejected said e => exact .inr ⟨rfl, rfl, .inr rfl, by simp [errorOf]⟩
  | nothing said other => exact .inr ⟨rfl, rfl, .inl (by rw [other]; rfl), by simp [errorOf]⟩
  | gridEnd => cases whole
  | _ => exact .inr ⟨rfl, rfl, .inl rfl, by simp [errorOf]⟩

/-- What an agent hears is no snapshot. -/
lemma Face.hears_agent_whole {f : Face} {said : Said}
    {out : Except SessionError IncomingEvent × Face} (h : f.Hears said out)
    (agent : f.grid.role = .agent) : snapshotOf out.1 = none := by
  cases h with
  | data => exact Face.hearData_snapshot ..
  | ack => exact Face.hearAck_snapshot ..
  | gridEnd client => simp [agent] at client
  | _ => rfl

/-- Within 64 bits a receiver takes a slice that starts no higher than what it holds. -/
lemma receive_covered {c : ReceiveCursor} {log p : Bytes} {o : Nat} (slice : IsSlice log o p)
    (low : o ≤ c.recvOffset) (fits : log.length < 2 ^ 64) {e : StreamError} :
    c.receive o p ≠ .error e := by
  intro herr
  obtain ⟨-, hhigh | hlong⟩ := ReceiveCursor.receive_error herr
  · omega
  · have := slice.1
    omega

/-- What a receiver has taken of a stream, after one more slice of it. -/
lemma receive_extends {c c' : ReceiveCursor} {log p bytes : Bytes} {o : Nat}
    (slice : IsSlice log o p) (hrec : c.receive o p = .ok (bytes, c'))
    (held : c.recvOffset ≤ log.length) :
    log.take c.recvOffset ++ bytes = log.take c'.recvOffset ∧
      c'.recvOffset = max c.recvOffset (o + p.length) ∧ c'.recvOffset ≤ log.length := by
  obtain ⟨hlow, hbytes, -⟩ := ReceiveCursor.receive_ok hrec
  have hnew := ReceiveCursor.receive_recvOffset hrec
  rw [hnew, hbytes]
  exact ⟨slice.take_append_drop hlow, rfl, max_le held slice.1⟩

/-- What the agent hears is delivered once and in order. -/
lemma View.Input.agentHears (h : v.Input) (ord : v.Ordered cfg)
    (fits : v.clientTaken.length < 2 ^ 64) {i : Nat} {up : Up} {rest : List Up} {g : GridState}
    {out : Except SessionError IncomingEvent × Face} (head : (v.links i).toAgent = up :: rest)
    (holder : v.Holder i) (alive : (v.links i).agentDead = false)
    (grid : (v.links i).agentGrid = some g) (hears : (v.agentFace g).Hears up.said out) :
    (View.putLink { v with
        out := out.2.sendBuf
        inp := out.2.recvCursor
        agentGot := v.agentGot ++ deliveredOf out.1
        agentErrors := (errorOf out.1).toList ++ v.agentErrors } i
      { v.links i with
        toAgent := rest, agentGrid := some out.2.grid
        agentDead := (errorOf out.1).isSome }).Input := by
  have hmem : up ∈ (v.links i).toAgent := head ▸ List.mem_cons_self
  have htake : v.Takes i v.inp.recvOffset :=
    ⟨alive, .inr ⟨holder, by rw [grid]; rfl, rfl⟩⟩
  have hcovers := h.covers i _ htake
  have hwhole := Face.hears_agent_whole hears ((ord.link i).agentGrid g grid).1
  rcases Face.hears_delivered hears hwhole with
    ⟨hok, a, o, p, hsaid, hrec⟩ | ⟨hinp, hnothing, hseg, hgap⟩
  · -- the frame's data continues what the agent holds
    have hslice := h.slices i up hmem a o p hsaid
    have hsegs : (v.links i).upSegments = (o, o + p.length) :: rest.filterMap
        fun u => segmentOf u.said := by
      simp only [LinkView.upSegments, head, List.filterMap_cons, hsaid, segmentOf]
    have hrec : v.inp.receive o p = .ok (deliveredOf out.1, out.2.recvCursor) := hrec
    obtain ⟨hgot, hmax, hle⟩ := receive_extends hslice hrec h.recv
    have hack := ReceiveCursor.receive_ackOffset hrec h.cursor.1 h.cursor.2
    obtain ⟨-, -, hmore, hmode, hpending⟩ := ReceiveCursor.receive_ok hrec
    rw [if_pos h.cursor.1] at hpending
    rw [hok]
    refine ⟨?_, hle, ⟨hmode.trans h.cursor.1, ?_⟩, ?_, ?_, ?_, ?_, ?_, ?_, h.agentErrors,
      h.clientErrors⟩
    · show v.agentGot ++ _ = _
      rw [h.got]
      exact hgot
    · show out.2.recvCursor.pending ≤ out.2.recvCursor.recvOffset
      have := h.cursor.2
      omega
    · exact h.base.trans hack.ge
    · intro j d hd b hb
      refine (h.acks j d ?_ b hb).trans hack.ge
      by_cases hj : j = i
      · subst hj
        rw [View.links_putLink_self] at hd
        exact hd
      · rw [View.links_putLink_of_ne hj] at hd
        exact hd
    · intro j b hor
      have hold : (v.links j).routed = some b ∨ (v.links j).authOk = some b := by
        by_cases hj : j = i
        · subst hj
          rw [View.links_putLink_self] at hor
          exact hor
        · rw [View.links_putLink_of_ne hj] at hor
          exact hor
      exact ⟨(h.offered j b hold).1.trans hack.ge, (h.offered j b hold).2⟩
    · intro j u hu
      by_cases hj : j = i
      · subst hj
        rw [View.links_putLink_self] at hu
        exact h.slices j u (head ▸ List.mem_cons_of_mem up hu)
      · rw [View.links_putLink_of_ne hj] at hu
        exact h.slices j u hu
    · rintro j r ⟨hd, hor⟩
      by_cases hj : j = i
      · subst hj
        rw [View.links_putLink_self] at hor ⊢
        rcases hor with ⟨⟨⟩, -⟩ | ⟨-, -, rfl⟩
        rw [hsegs] at hcovers
        show Covers out.2.recvCursor.recvOffset _
        rw [hmax]
        exact hcovers.2
      · rw [View.links_putLink_of_ne hj] at hd hor ⊢
        rcases hor with ⟨hnone, rfl⟩ | ⟨⟨-, hatt⟩, -⟩
        · exact (h.covers j _ ⟨hd, .inl ⟨hnone, rfl⟩⟩).mono hack.ge
        · rw [show v.attached = some i from holder.2] at hatt
          exact absurd (Option.some.inj hatt).symm hj
    · rintro j r ⟨hd, hor⟩ hj hc
      by_cases hij : j = i
      · subst hij
        rw [View.links_putLink_self] at hor hc ⊢
        rcases hor with ⟨⟨⟩, -⟩ | ⟨-, -, rfl⟩
        have hnext := h.next j _ htake hj hc
        rw [hsegs] at hnext
        show _ ≤ reach out.2.recvCursor.recvOffset _
        rw [hmax]
        exact hnext
      · rw [View.links_putLink_of_ne hij] at hd hor hc ⊢
        rcases hor with ⟨hnone, rfl⟩ | ⟨⟨-, hatt⟩, -⟩
        · exact (h.next j _ ⟨hd, .inl ⟨hnone, rfl⟩⟩ hj hc).trans (reach_mono hack.ge _)
        · rw [show v.attached = some i from holder.2] at hatt
          exact absurd (Option.some.inj hatt).symm hij
  · -- any other frame leaves the cursor where it was
    refine h.put rfl rfl hinp ?_ rfl rfl (fun _ hj => hj) ?_ id ?_ (fun d hd => .inl hd)
      (fun b hb => .inl hb) ?_ h.clientErrors
    · show v.agentGot ++ _ = _
      rw [hnothing, List.append_nil]
    · intro hdead
      refine ⟨alive, by rw [grid]; rfl, ?_⟩
      rcases hseg with hnone | herr
      · simp only [LinkView.upSegments, head, List.filterMap_cons, hnone]
      · rw [show (errorOf out.1).isSome = false from hdead] at herr
        cases herr
    · intro u hu
      exact head ▸ List.mem_cons_of_mem up hu
    · intro hmem'
      rcases List.mem_append.mp hmem' with hnew | hold
      · obtain ⟨a, o, p, e, hsaid, herr⟩ := hgap (by simpa using hnew)
        have hslice := h.slices i up hmem a o p hsaid
        have hsegs : (v.links i).upSegments = (o, o + p.length) :: rest.filterMap
            fun u => segmentOf u.said := by
          simp only [LinkView.upSegments, head, List.filterMap_cons, hsaid, segmentOf]
        rw [hsegs] at hcovers
        -- what is on its way covers the cursor, so no frame of it leaves a gap
        exact receive_covered hslice hcovers.1 fits herr
      · exact h.agentErrors hold

end

section
variable {cfg : Config} {v v' : View} {m : Mark}

/-- What a frame acknowledges, if it says so. -/
lemma ackOf_eq {said : Said} {a : Nat} (h : said = .ack a ∨ ∃ o p, said = .data a o p) :
    ackOf said = some a := by
  rcases h with rfl | ⟨o, p, rfl⟩ <;> rfl

/-- What the client hears moves its buffer at most. -/
lemma View.Input.clientHears (h : v.Input) (staged : v.Staged)
    (stored : v.Stored) {i : Nat} {down : Down} {rest : List Down} {g : GridState}
    {out : Except SessionError IncomingEvent × Face} (current : v.Current i)
    (head : (v.links i).toClient = down :: rest) (grid : (v.links i).clientGrid = some g)
    (hears : (v.clientFace g).Hears down.said out) {l : LinkView}
    (links : v'.links = Function.update v.links i l) (opened : v'.opened = v.opened)
    (inp : v'.inp = v.inp) (got : v'.agentGot = v.agentGot)
    (taken : v'.clientTaken = v.clientTaken) (hout : v'.clientOut = out.2.sendBuf)
    (held : v'.held = v.held) (attached : v'.attached = v.attached)
    (rest_eq : l.toClient = rest) (ups : l.toAgent = (v.links i).toAgent)
    (hdead : l.agentDead = (v.links i).agentDead) (hgrid : l.agentGrid = (v.links i).agentGrid)
    (hrouted : l.routed = (v.links i).routed) (hauth : l.authOk = (v.links i).authOk)
    (agentErrors : v'.agentErrors = v.agentErrors)
    (clientErrors : v'.clientErrors = (errorOf out.1).toList ++ v.clientErrors) : v'.Input := by
  have hmem : down ∈ (v.links i).toClient := head ▸ List.mem_cons_self
  obtain ⟨hself, hother⟩ := View.links_put links
  have hcur : ∀ j, v'.Current j → j = i := by
    intro j hj
    simp only [View.Current] at hj current
    omega
  -- what the frame acknowledges the agent holds, so the client has written it
  have hbuf : (out.2.sendBuf.base ≤ max v.clientOut.base v.inp.ackOffset ∧
      out.2.sendBuf.sendNext ≤ max v.clientOut.sendNext v.inp.ackOffset) ∧
      errorOf out.1 ≠ some (.stream .ackBeyondSent) := by
    rcases Face.hears_acknowledge hears with ⟨hsame, herr⟩ | ⟨-, a, hsaid, hcases⟩
    · rw [hsame]
      exact ⟨⟨le_max_left _ _, le_max_left _ _⟩, herr⟩
    have hle := h.acks i down hmem a (ackOf_eq hsaid)
    have hlow : v.inp.ackOffset ≤ v.inp.recvOffset := Nat.sub_le _ _
    rcases hcases with ⟨b, hack, rfl, herr⟩ | ⟨e, hack, -, -⟩
    · obtain ⟨hb, -⟩ := SendBuffer.acknowledge_ok hack stored.clientOut.base_le
      rw [hb]
      exact ⟨⟨max_le_max le_rfl hle, max_le_max le_rfl hle⟩, herr⟩
    · obtain ⟨-, hlt⟩ := SendBuffer.acknowledge_error hack
      have hend : (v.clientFace g).sendBuf.end_ = v.clientTaken.length := stored.clientOut.end_eq
      have := h.recv
      omega
  have htakes : ∀ j r, v'.Takes j r → v.Takes j r ∧
      (v'.links j).upSegments = (v.links j).upSegments := by
    rintro j r ⟨hd, hor⟩
    simp only [View.Holder, held, attached, inp] at hor
    by_cases hj : j = i
    · subst hj
      rw [hself, hdead] at hd
      rw [hself, hgrid] at hor
      rw [hself, LinkView.upSegments, ups]
      exact ⟨⟨hd, hor⟩, rfl⟩
    · rw [hother j hj] at hd hor ⊢
      exact ⟨⟨hd, hor⟩, rfl⟩
  refine ⟨?_, ?_, inp ▸ h.cursor, ?_, ?_, ?_, ?_, ?_, ?_, agentErrors ▸ h.agentErrors, ?_⟩
  · rw [got, taken, inp]
    exact h.got
  · rw [taken, inp]
    exact h.recv
  · rw [hout, inp]
    exact hbuf.1.1.trans (max_le h.base le_rfl)
  · intro j d hd
    rw [inp]
    by_cases hj : j = i
    · rw [hj, hself, rest_eq] at hd
      exact h.acks i d (head ▸ List.mem_cons_of_mem down hd)
    · exact h.acks j d (hother j hj ▸ hd)
  · intro j a hor
    rw [inp]
    by_cases hj : j = i
    · rw [hj, hself, hrouted, hauth] at hor
      -- offsets are offered to connections that have yet to send their Resume
      have hnone : (v.links i).clientGrid = none := by
        refine (staged i).offered ?_
        rcases hor with hr | ha
        · exact .inl (by rw [hr]; rfl)
        · exact .inr (by rw [ha]; rfl)
      rw [grid] at hnone
      cases hnone
    · exact ⟨(h.offered j a (hother j hj ▸ hor)).1, fun hc => absurd (hcur j hc) hj⟩
  · intro j u hu
    rw [taken]
    by_cases hj : j = i
    · rw [hj, hself, ups] at hu
      exact h.slices i u hu
    · exact h.slices j u (hother j hj ▸ hu)
  · intro j r hr
    obtain ⟨htake, hsegs⟩ := htakes j r hr
    rw [hsegs]
    exact h.covers j r htake
  · intro j r hr hj _
    obtain ⟨htake, hsegs⟩ := htakes j r hr
    obtain rfl := hcur j hj
    rw [hsegs, hout]
    refine hbuf.1.2.trans (max_le (h.next j r htake current (by rw [grid]; rfl)) ?_)
    refine le_trans ?_ (le_reach r _)
    rcases htake.2 with ⟨-, rfl⟩ | ⟨-, -, rfl⟩
    · exact le_rfl
    · exact Nat.sub_le _ _
  · rw [clientErrors]
    refine ⟨not_mem_noted h.clientErrors.1 ?_, not_mem_noted h.clientErrors.2 ?_⟩
    · intro hmem'
      exact hbuf.2 (by simpa using hmem')
    · intro hmem'
      exact Face.hears_not_behind hears (by simpa using hmem')

/-- What the client says: at most the next bytes of its stream. -/
lemma Face.says_segment {f f' : Face} {said : Said} {log : Bytes} (h : f.Says said f')
    (holds : f.sendBuf.Holds log) (fits : log.length < 2 ^ 64) :
    (segmentOf said = none ∧ f'.sendBuf.sendNext ≤ f.sendBuf.sendNext) ∨
      ∃ a p, said = .data a f.sendBuf.sendNext p ∧ IsSlice log f.sendBuf.sendNext p ∧
        f'.sendBuf.sendNext ≤ f.sendBuf.sendNext + p.length := by
  cases h with
  | @data n pos avail free some_ =>
    have hlt : f.sendBuf.sendNext < f.sendBuf.end_ := by
      simp only [SendBuffer.unsent] at avail
      omega
    have hend := holds.end_eq
    have hmod : f.sendBuf.sendNext % 256 ^ 8 = f.sendBuf.sendNext := Nat.mod_eq_of_lt (by omega)
    rw [hmod]
    refine .inr ⟨_, _, rfl, ?_, ?_⟩
    · rw [holds.copyOut_eq holds.base_le hlt]
      exact .read log _ n (by omega)
    · exact min_le_left _ _
  | blank => exact .inl ⟨rfl, min_le_left _ _⟩
  | gridBegin agent emitting first said_eq =>
    rcases said_eq with rfl | rfl <;> exact .inl ⟨rfl, le_rfl⟩
  | _ => exact .inl ⟨rfl, le_rfl⟩

/-- What the client says is a slice of what it took. -/
lemma View.Input.clientSays (h : v.Input) (stored : v.Stored)
    (fits : v.clientTaken.length < 2 ^ 64) {i : Nat} {g : GridState} {said : Said} {f : Face}
    (current : v.Current i) (grid : (v.links i).clientGrid = some g)
    (speech : (v.clientFace g).Says said f) (gen pos : Nat) :
    (View.putLink { v with clientOut := f.sendBuf, clientInp := f.recvCursor } i
      { v.links i with
        clientGrid := some f.grid
        toAgent := (v.links i).toAgent ++ [⟨said, gen, pos⟩] }).Input := by
  obtain ⟨⟨next, hbuf⟩, -⟩ := Face.says_buffer speech
  have hbase : f.sendBuf.base = v.clientOut.base := by
    rw [hbuf]
    rfl
  have hcur : ∀ j, v.Current j → j = i := by
    intro j hj
    simp only [View.Current] at hj current
    omega
  have hsays := Face.says_segment speech stored.clientOut fits
  have hnextSome : ∀ r, v.Takes i r → v.clientOut.sendNext ≤ reach r (v.links i).upSegments :=
    fun r hr => h.next i r hr current (by rw [grid]; rfl)
  have hsegs : ({ v.links i with
      clientGrid := some f.grid
      toAgent := (v.links i).toAgent ++ [⟨said, gen, pos⟩] } : LinkView).upSegments =
      (v.links i).upSegments ++ (segmentOf said).toList := by
    simp only [LinkView.upSegments, List.filterMap_append]
    cases hs : segmentOf said <;> simp [hs]
  refine ⟨h.got, h.recv, h.cursor, hbase.le.trans h.base, ?_, ?_, ?_, ?_, ?_, h.agentErrors,
    h.clientErrors⟩
  · intro j d hd
    by_cases hj : j = i
    · subst hj
      rw [View.links_putLink_self] at hd
      exact h.acks j d hd
    · rw [View.links_putLink_of_ne hj] at hd
      exact h.acks j d hd
  · intro j a hor
    have hold : (v.links j).routed = some a ∨ (v.links j).authOk = some a := by
      by_cases hj : j = i
      · subst hj
        rw [View.links_putLink_self] at hor
        exact hor
      · rw [View.links_putLink_of_ne hj] at hor
        exact hor
    exact ⟨(h.offered j a hold).1, fun hc => hbase.le.trans ((h.offered j a hold).2 hc)⟩
  · intro j u hu a o p hsaid
    by_cases hj : j = i
    · subst hj
      rw [View.links_putLink_self] at hu
      rcases List.mem_append.mp hu with hu | hu
      · exact h.slices j u hu a o p hsaid
      · obtain rfl := List.mem_singleton.mp hu
        have hsaid : said = .data a o p := hsaid
        rcases hsays with ⟨hnone, -⟩ | ⟨a', p', heq, hslice, -⟩
        · simp [hsaid, segmentOf] at hnone
        · rw [hsaid] at heq
          cases heq
          exact hslice
    · rw [View.links_putLink_of_ne hj] at hu
      exact h.slices j u hu a o p hsaid
  · rintro j r ⟨hd, hor⟩
    by_cases hj : j = i
    · subst hj
      rw [View.links_putLink_self] at hd hor ⊢
      have htake : v.Takes j r := ⟨hd, hor⟩
      rw [hsegs]
      rcases hsays with ⟨hnone, -⟩ | ⟨a', p', heq, -, -⟩
      · rw [hnone, Option.toList_none, List.append_nil]
        exact h.covers j r htake
      · rw [heq]
        -- the new segment starts at the next byte, which what is on its way reaches
        exact (h.covers j r htake).append (hnextSome r htake)
    · rw [View.links_putLink_of_ne hj] at hd hor ⊢
      exact h.covers j r ⟨hd, hor⟩
  · rintro j r ⟨hd, hor⟩ hj _
    obtain rfl := hcur j hj
    rw [View.links_putLink_self] at hd hor ⊢
    have hnext := hnextSome r ⟨hd, hor⟩
    rw [hsegs]
    rcases hsays with ⟨hnone, hle⟩ | ⟨a', p', heq, -, hle⟩
    · rw [hnone, Option.toList_none, List.append_nil]
      exact hle.trans hnext
    · rw [heq]
      refine hle.trans ?_
      show _ ≤ reach r ((v.links j).upSegments ++ [(v.clientOut.sendNext, _)])
      rw [reach_append]
      exact le_max_right _ _

/-- What the client takes comes behind the rest. -/
lemma View.Input.clientWrite (h : v.Input) (w : Bytes) :
    ({ v with
      clientOut := (v.clientOut.append w).2
      clientTaken := v.clientTaken ++ w.take (v.clientOut.append w).1 } : View).Input where
  got := by
    show v.agentGot = _
    rw [h.got, List.take_append_of_le_length h.recv]
  recv := h.recv.trans (by simp)
  cursor := h.cursor
  base := (SendBuffer.append_base ..).le.trans h.base
  acks := h.acks
  offered i a hor := ⟨(h.offered i a hor).1, fun hc =>
    (SendBuffer.append_base ..).le.trans ((h.offered i a hor).2 hc)⟩
  slices i u hu a o p hsaid := (h.slices i u hu a o p hsaid).append _
  covers := h.covers
  next i r hr hc hsome := (SendBuffer.append_sendNext ..).le.trans (h.next i r hr hc hsome)
  agentErrors := h.agentErrors
  clientErrors := h.clientErrors

end

section
variable {cfg : Config} {v v' : View} {m : Mark}

/-- Only replay: no snapshot is waited for, and none is chosen. -/
def Replays (v : View) (m : Mark) : Prop :=
  (∀ i, (v.links i).waiting = false) ∧ ∀ i, m ≠ .resume i true

/-- The client never starts a connection from an offset its buffer does not hold. -/
lemma View.Input.offered_ok (h : v.Input) (stored : v.Stored) {i a : Nat} (current : v.Current i)
    (authOk : (v.links i).authOk = some a) {e : StreamError} :
    v.clientOut.resetSendNext a ≠ .error e := by
  intro herr
  obtain ⟨hle, hbase⟩ := h.offered i a (.inr authOk)
  have hlow : v.inp.ackOffset ≤ v.inp.recvOffset := Nat.sub_le _ _
  have hrecv := h.recv
  have hend := stored.clientOut.end_eq
  have hbase := hbase current
  rcases SendBuffer.resetSendNext_error herr with ⟨-, hlt⟩ | ⟨-, hlt⟩ <;> omega

/-- Every move keeps the agent's side of the client's stream. -/
theorem View.Input.move (h : v.Input) (ord : v.Ordered cfg) (staged : v.Staged) (stored : v.Stored)
    (fits : v.clientTaken.length < 2 ^ 64) (hmove : Move cfg v m v') : v'.Input := by
  have hharmless : ∀ {errors noted : List SessionError} {e : StreamError},
      (∀ e ∈ errors, e.Harmless) → e = .ackBeyondSent ∨ e = .streamGap ∨ e = .peerBehindBuffer →
      SessionError.stream e ∉ noted → SessionError.stream e ∉ errors ++ noted := by
    intro errors noted e harmless he hold
    refine not_mem_noted hold fun hmem => ?_
    obtain ⟨h₁, h₂, h₃⟩ := harmless _ hmem
    rcases he with rfl | rfl | rfl
    · exact h₁ rfl
    · exact h₂ rfl
    · exact h₃ rfl
  have hagent := fun errors (harmless : ∀ e ∈ errors, SessionError.Harmless e) =>
    hharmless harmless (.inr (.inl rfl)) h.agentErrors
  have hclient := fun errors (harmless : ∀ e ∈ errors, SessionError.Harmless e) =>
    And.intro (hharmless harmless (.inl rfl) h.clientErrors.1)
      (hharmless harmless (.inr (.inr rfl)) h.clientErrors.2)
  have hsame : ∀ {i : Nat}, (v.links i).agentDead = false → (v.links i).agentDead = false ∧
      (v.links i).agentGrid.isSome = (v.links i).agentGrid.isSome ∧
      (v.links i).upSegments = (v.links i).upSegments := fun hd => ⟨hd, rfl, rfl⟩
  have hpop : ∀ {i : Nat} {up : Up} {rest : List Up}, (v.links i).toAgent = up :: rest →
      rest ⊆ (v.links i).toAgent := fun head u hu => head ▸ List.mem_cons_of_mem _ hu
  cases hmove with
  | agentQuiet i dead errors alive harmless =>
    refine h.put rfl rfl rfl rfl rfl rfl (fun _ hj => hj) (fun hd => ⟨?_, rfl, rfl⟩) id
      (List.Subset.refl _) (fun d hd => .inl hd) (fun a ha => .inl ha) (hagent _ harmless)
      h.clientErrors
    -- a connection that was dead stays dead
    by_contra hwas
    rw [show dead = true from alive (by simpa using hwas)] at hd
    cases hd
  | clientQuiet i dead errors alive harmless =>
    exact h.put rfl rfl rfl rfl rfl rfl (fun _ hj => hj) hsame id (List.Subset.refl _)
      (fun d hd => .inl hd) (fun a ha => .inl ha) h.agentErrors (hclient _ harmless)
  | clientOpen => exact h.clientOpen
  | route i _ first fresh unanswered =>
    refine h.put rfl rfl rfl rfl rfl rfl (fun _ hj => hj) hsame id (List.Subset.refl _)
      (fun d hd => .inl hd) ?_ h.agentErrors h.clientErrors
    rintro a (⟨⟨⟩⟩ | hauth)
    · exact .inr rfl
    · exact .inl (.inr hauth)
  | completeHandshake i a routed =>
    refine h.put rfl rfl rfl rfl rfl rfl (fun _ hj => hj) hsame id (List.Subset.refl _)
      (fun d hd => .inl hd) ?_ h.agentErrors h.clientErrors
    rintro b (⟨⟨⟩⟩ | ⟨⟨⟩⟩)
    exact .inl (.inl routed)
  | resumeRefused i a e current authOk reason =>
    refine h.put rfl rfl rfl rfl rfl rfl (fun _ hj => hj) hsame id (List.Subset.refl _)
      (fun d hd => .inl hd) ?_ h.agentErrors ?_
    · rintro b (hrouted | ⟨⟨⟩⟩)
      exact .inl (.inl hrouted)
    · rcases reason with harmless | ⟨r, -, herr⟩
      · exact hclient [e] (by simpa using harmless)
      · -- the offset that the agent offered is one the client's ring still holds
        exact absurd herr (h.offered_ok stored current authOk)
  | resumeStuck i a e b current authOk attach harmless =>
    have hnone : (v.links i).clientGrid = none := (staged i).offered (.inr (by rw [authOk]; rfl))
    refine h.resumed staged rfl rfl rfl rfl rfl rfl rfl rfl current authOk attach rfl rfl rfl rfl rfl
      ?_ rfl (hclient [e] (by simpa using harmless))
    -- before its Resume a connection has sent nothing
    intro u hu
    have hu : u ∈ (v.links i).toAgent := hu
    rw [((staged i).unresumed hnone).1] at hu
    cases hu
  | resumeSent i a b gen current authOk attach gen_eq =>
    have hnone : (v.links i).clientGrid = none := (staged i).offered (.inr (by rw [authOk]; rfl))
    refine h.resumed staged rfl rfl rfl rfl rfl rfl rfl rfl current authOk attach rfl rfl rfl rfl rfl
      ?_ rfl h.clientErrors
    intro u hu
    rw [((staged i).unresumed hnone).1] at hu
    obtain rfl := List.mem_singleton.mp hu
    simp
  | agentTurned i up rest errors head harmless =>
    refine h.put rfl rfl rfl rfl rfl rfl (fun _ hj => hj) ?_ id (hpop head) (fun d hd => .inl hd)
      (fun a ha => .inl ha) (hagent _ harmless) h.clientErrors
    rintro ⟨⟩
  | agentRejected i gen off up rest e held head said known replay attach less =>
    refine h.put rfl rfl rfl rfl rfl rfl (fun _ hj => ⟨less hj.1, hj.2⟩) ?_ id (hpop head)
      (fun d hd => .inl hd) (fun a ha => .inl ha) ?_ h.clientErrors
    · rintro ⟨⟩
    · rintro (_ | ⟨_, hmem⟩)
      · -- what is refused is a position in the output, so it is no gap of the input
        rcases SendBuffer.resetSendNext_error attach with ⟨hne, -⟩ | ⟨hne, -⟩ <;> cases hne
      · exact h.agentErrors hmem
  | pathA i gen off up rest b head said first alive known replay attach =>
    exact h.attach rfl rfl rfl rfl rfl rfl rfl head (by rw [said]; rfl) first.1 rfl rfl rfl rfl rfl
      rfl rfl rfl
  | pathB i gen off up rest head said first =>
    exact h.attach rfl rfl rfl rfl rfl rfl rfl head (by rw [said]; rfl) first.1 rfl rfl rfl rfl rfl
      rfl rfl rfl
  | agentHears i up rest g out head holder alive grid hears =>
    exact h.agentHears ord fits head holder alive grid hears
  | agentSays i g said f holder grid speech =>
    obtain ⟨-, hinp⟩ := Face.says_buffer speech
    refine h.put rfl rfl hinp rfl rfl rfl (fun _ hj => hj)
      (fun hd => ⟨hd, by rw [grid]; rfl, rfl⟩) id (List.Subset.refl _) ?_ (fun a ha => .inl ha)
      h.agentErrors h.clientErrors
    intro d hd
    rcases List.mem_append.mp hd with hd | hd
    · exact .inl hd
    · obtain rfl := List.mem_singleton.mp hd
      -- the agent acknowledges at most what it has received
      refine .inr fun a ha => ?_
      cases speech with
      | data =>
        cases ha
        exact Nat.mod_le _ _
      | ack =>
        cases ha
        exact Nat.mod_le _ _
      | gridBegin _ _ _ said_eq => rcases said_eq with rfl | rfl <;> cases ha
      | _ => cases ha
  | supplied i g g' holder waiting grid =>
    exact h.put rfl rfl rfl rfl rfl rfl (fun _ hj => hj) (fun hd => ⟨hd, by rw [grid]; rfl, rfl⟩) id
      (List.Subset.refl _) (fun d hd => .inl hd) (fun a ha => .inl ha) h.agentErrors h.clientErrors
  | released =>
    exact h.rewind rfl le_rfl h.cursor.2 le_rfl (by simp) h.got
  | inputDelivered count =>
    have hmark : ∃ p, (v.inp.markDelivered count).2 = { v.inp with pending := p } ∧
        p ≤ v.inp.pending := by
      unfold ReceiveCursor.markDelivered
      split
      · exact ⟨_, rfl, le_rfl⟩
      · exact ⟨_, rfl, Nat.sub_le _ _⟩
    obtain ⟨p, hp, hle⟩ := hmark
    rw [hp]
    exact h.rewind rfl le_rfl (hle.trans h.cursor.2) (Nat.sub_le_sub_left hle _)
      (fun hheld => ⟨hheld, rfl⟩) h.got
  | inputRejected count inp ok =>
    unfold ReceiveCursor.unreceive at ok
    split at ok
    · cases ok
    next hle =>
    cases ok
    -- what is taken back was received and not delivered
    have hpending := h.cursor.2
    have hlen : v.agentGot.length = v.inp.recvOffset := by
      rw [h.got, List.length_take]
      exact min_eq_left h.recv
    refine h.rewind rfl (Nat.sub_le _ _) ?_ ?_ (by simp) ?_
    · show v.inp.pending - count ≤ v.inp.recvOffset - count
      omega
    · show v.inp.recvOffset - v.inp.pending ≤ v.inp.recvOffset - count - (v.inp.pending - count)
      omega
    · rw [hlen, h.got, List.take_take]
      congr 1
      exact min_eq_left (Nat.sub_le _ _)
  | clientTurned i down rest errors current head harmless =>
    refine h.put rfl rfl rfl rfl rfl rfl (fun _ hj => hj) hsame id (List.Subset.refl _)
      (fun d hd => .inl (head ▸ List.mem_cons_of_mem _ hd)) (fun a ha => .inl ha) h.agentErrors
      (hclient _ harmless)
  | clientHears i down rest g out current head alive grid hears =>
    exact h.clientHears staged stored current head grid hears rfl rfl rfl rfl rfl rfl rfl rfl rfl rfl
      rfl rfl rfl rfl rfl rfl
  | clientSays i g said f current grid speech =>
    exact h.clientSays stored fits current grid speech _ _
  | confirmApply i gen applied current pending applied_eq =>
    refine h.put rfl rfl rfl rfl rfl rfl (fun _ hj => hj) hsame ?_ (List.Subset.refl _)
      (fun d hd => .inl hd) (fun a ha => .inl ha) h.agentErrors h.clientErrors
    simp
  | denyApply i =>
    exact h.put rfl rfl rfl rfl rfl rfl (fun _ hj => hj) hsame id (List.Subset.refl _)
      (fun d hd => .inl hd) (fun a ha => .inl ha) h.agentErrors h.clientErrors
  | clientWrite w => exact h.clientWrite w
  | agentWrite w =>
    exact ⟨h.got, h.recv, h.cursor, h.base, h.acks, h.offered, h.slices, h.covers, h.next,
      h.agentErrors, h.clientErrors⟩
  | agentOverflow w =>
    exact ⟨h.got, h.recv, h.cursor, h.base, h.acks, h.offered, h.slices, h.covers, h.next,
      h.agentErrors, h.clientErrors⟩
  | agentDropped =>
    exact ⟨h.got, h.recv, h.cursor, h.base, h.acks, h.offered, h.slices, h.covers, h.next,
      h.agentErrors, h.clientErrors⟩

end

/-- What the client holds of the agent's stream, and what is on its way. -/
structure View.Output (cfg : Config) (v : View) : Prop where
  got : v.clientGot = v.agentLog.take v.clientInp.recvOffset
  slices : ∀ i, ∀ d ∈ (v.links i).toClient, ∀ a o p, d.said = .data a o p →
    IsSlice v.agentLog o p
  covers : ∀ i, v.Current i → (v.links i).clientDead = false →
    Covers v.clientInp.recvOffset (v.links i).downSegments
  next : ∀ i, v.Current i → (v.links i).clientDead = false → v.Holder i →
    v.out.sendNext ≤ reach v.clientInp.recvOffset (v.links i).downSegments
  /-- A ring that dropped bytes is not replayed. -/
  flagged : v.out.ringOverflowed = true → v.held = false ∧ cfg.capable
  log : v.agentLog <+: v.agentTaken ∧
    (v.out.ringOverflowed = false → v.agentLog = v.agentTaken)
  errors : .stream .streamGap ∉ v.clientErrors

section
variable {cfg : Config} {v v' : View} {m : Mark}

/-- A move that changes one connection and neither end of the stream, but perhaps who may send. -/
lemma View.Output.put (h : v.Output cfg) {i : Nat} {l : LinkView}
    (links : v'.links = Function.update v.links i l) (opened : v'.opened = v.opened)
    (inp : v'.clientInp = v.clientInp) (got : v'.clientGot = v.clientGot)
    (log : v'.agentLog = v.agentLog) (taken : v'.agentTaken = v.agentTaken)
    (flag : v'.out.ringOverflowed = v.out.ringOverflowed)
    (held : v.out.ringOverflowed = true → v'.held = true → v.held = true)
    (next : ∀ j, v.Current j → v'.Holder j → v'.out.sendNext ≤ v.clientInp.recvOffset ∨
      (v.Holder j ∧ v'.out.sendNext ≤ max v.out.sendNext v.clientInp.recvOffset))
    (alive : l.clientDead = false → (v.links i).clientDead = false ∧
      l.toClient = (v.links i).toClient)
    (downs : l.toClient ⊆ (v.links i).toClient)
    (errors : .stream .streamGap ∉ v'.clientErrors) : v'.Output cfg := by
  obtain ⟨hself, hother⟩ := View.links_put links
  have hcur : ∀ j, v'.Current j ↔ v.Current j := fun j => by
    rw [View.Current, View.Current, opened]
  have halive : ∀ j, (v'.links j).clientDead = false → (v.links j).clientDead = false ∧
      (v'.links j).downSegments = (v.links j).downSegments := by
    intro j hj
    by_cases hij : j = i
    · subst hij
      rw [hself] at hj ⊢
      obtain ⟨hdead, hsame⟩ := alive hj
      exact ⟨hdead, by rw [LinkView.downSegments, hsame]; rfl⟩
    · rw [hother j hij] at hj ⊢
      exact ⟨hj, rfl⟩
  refine ⟨?_, ?_, ?_, ?_, ?_, ?_, errors⟩
  · rw [got, log, inp]
    exact h.got
  · intro j d hd
    rw [log]
    by_cases hj : j = i
    · rw [hj, hself] at hd
      exact h.slices i d (downs hd)
    · exact h.slices j d (hother j hj ▸ hd)
  · intro j hj hdead
    obtain ⟨hdead', hsegs⟩ := halive j hdead
    rw [hsegs, inp]
    exact h.covers j ((hcur j).mp hj) hdead'
  · intro j hj hdead hhold
    obtain ⟨hdead', hsegs⟩ := halive j hdead
    rw [hsegs, inp]
    rcases next j ((hcur j).mp hj) hhold with hle | ⟨hwas, hle⟩
    · exact hle.trans (le_reach _ _)
    · exact hle.trans (max_le (h.next j ((hcur j).mp hj) hdead' hwas) (le_reach _ _))
  · intro hflag
    rw [flag] at hflag
    refine ⟨?_, (h.flagged hflag).2⟩
    by_contra hheld
    have := held hflag (by simpa using hheld)
    rw [(h.flagged hflag).1] at this
    cases this
  · rw [log, taken, flag]
    exact h.log

/-- A new connection carries no output. -/
lemma View.Output.clientOpen (h : v.Output cfg) (order : v.InOrder) :
    (View.putLink { v with opened := v.opened + 1 } v.opened .unused).Output cfg := by
  have hself : (View.putLink { v with opened := v.opened + 1 } v.opened .unused).links v.opened =
      .unused := View.links_putLink_self ..
  have hcur : ∀ j, (View.putLink { v with opened := v.opened + 1 } v.opened .unused).Current j →
      j = v.opened := fun j hj => (Nat.succ.inj hj).symm
  refine ⟨h.got, ?_, ?_, ?_, h.flagged, h.log, h.errors⟩
  · intro j d hd
    by_cases hj : j = v.opened
    · rw [hj, hself] at hd
      cases hd
    · rw [View.links_putLink_of_ne hj] at hd
      exact h.slices j d hd
  · intro j hj _
    rw [hcur j hj, hself]
    trivial
  · rintro j hj - ⟨-, hatt⟩
    have := order.opened j hatt
    have := hcur j hj
    omega

/-- What the agent says is a slice of its log. -/
lemma View.Output.agentSays (h : v.Output cfg) (stored : v.Stored)
    (fits : v.agentLog.length < 2 ^ 64) {i : Nat} {g : GridState} {said : Said} {f : Face}
    (holder : v.Holder i) (speech : (v.agentFace g).Says said f) {gen : Nat} :
    (View.putLink { v with out := f.sendBuf, inp := f.recvCursor } i { v.links i with
      agentGrid := some f.grid
      toClient := (v.links i).toClient ++ [⟨said, gen⟩] }).Output cfg := by
  obtain ⟨⟨next, hbuf⟩, -⟩ := Face.says_buffer speech
  have hflag : f.sendBuf.ringOverflowed = v.out.ringOverflowed := by
    rw [hbuf]
    rfl
  have hsays := Face.says_segment speech stored.out fits
  have hsegs : ({ v.links i with
      agentGrid := some f.grid
      toClient := (v.links i).toClient ++ [⟨said, gen⟩] } : LinkView).downSegments =
      (v.links i).downSegments ++ (segmentOf said).toList := by
    simp only [LinkView.downSegments, List.filterMap_append]
    cases hs : segmentOf said <;> simp [hs]
  refine ⟨h.got, ?_, ?_, ?_, ?_, ?_, h.errors⟩
  · intro j d hd a o p hsaid
    by_cases hj : j = i
    · subst hj
      rw [View.links_putLink_self] at hd
      rcases List.mem_append.mp hd with hd | hd
      · exact h.slices j d hd a o p hsaid
      · obtain rfl := List.mem_singleton.mp hd
        have hsaid : said = .data a o p := hsaid
        rcases hsays with ⟨hnone, -⟩ | ⟨a', p', heq, hslice, -⟩
        · simp [hsaid, segmentOf] at hnone
        · rw [hsaid] at heq
          cases heq
          exact hslice
    · rw [View.links_putLink_of_ne hj] at hd
      exact h.slices j d hd a o p hsaid
  · intro j hj hdead
    by_cases hij : j = i
    · subst hij
      rw [View.links_putLink_self] at hdead ⊢
      have hcovers := h.covers j hj hdead
      rw [hsegs]
      rcases hsays with ⟨hnone, -⟩ | ⟨a', p', heq, -, -⟩
      · rw [hnone, Option.toList_none, List.append_nil]
        exact hcovers
      · rw [heq]
        exact hcovers.append (h.next j hj hdead holder)
    · rw [View.links_putLink_of_ne hij] at hdead ⊢
      exact h.covers j hj hdead
  · intro j hj hdead hhold
    obtain rfl : j = i := Option.some.inj (hhold.2.symm.trans holder.2)
    rw [View.links_putLink_self] at hdead ⊢
    have hnext := h.next j hj hdead holder
    rw [hsegs]
    rcases hsays with ⟨hnone, hle⟩ | ⟨a', p', heq, -, hle⟩
    · rw [hnone, Option.toList_none, List.append_nil]
      exact hle.trans hnext
    · rw [heq]
      refine hle.trans ?_
      show _ ≤ reach v.clientInp.recvOffset ((v.links j).downSegments ++ [(v.out.sendNext, _)])
      rw [reach_append]
      exact le_max_right _ _
  · show f.sendBuf.ringOverflowed = true → _
    rw [hflag]
    exact h.flagged
  · refine ⟨h.log.1, ?_⟩
    show f.sendBuf.ringOverflowed = false → _
    rw [hflag]
    exact h.log.2

/-- What the client hears is delivered once and in order. -/
lemma View.Output.clientHears (h : v.Output cfg) (held : v.clientInp.recvOffset ≤ v.agentLog.length)
    (fits : v.agentLog.length < 2 ^ 64) {i : Nat} {down : Down} {rest : List Down} {g : GridState}
    {out : Except SessionError IncomingEvent × Face} (current : v.Current i)
    (head : (v.links i).toClient = down :: rest) (alive : (v.links i).clientDead = false)
    (hears : (v.clientFace g).Hears down.said out) (whole : snapshotOf out.1 = none)
    {cursorGen : Nat} {pending : Option Nat} :
    (View.putLink { v with
        clientOut := out.2.sendBuf
        clientInp := out.2.recvCursor
        cursorGen := cursorGen
        clientGot := v.clientGot ++ deliveredOf out.1
        clientErrors := (errorOf out.1).toList ++ v.clientErrors } i
      { v.links i with
        toClient := rest, clientGrid := some out.2.grid, clientDead := (errorOf out.1).isSome
        pendingApply := pending }).Output cfg := by
  have hmem : down ∈ (v.links i).toClient := head ▸ List.mem_cons_self
  have hcovers := h.covers i current alive
  have hcur : ∀ j, v.Current j → j = i := by
    intro j hj
    simp only [View.Current] at hj current
    omega
  rcases Face.hears_delivered hears whole with
    ⟨hok, a, o, p, hsaid, hrec⟩ | ⟨hinp, hnothing, hseg, hgap⟩
  · -- the frame's data continues what the client holds
    have hslice := h.slices i down hmem a o p hsaid
    have hsegs : (v.links i).downSegments = (o, o + p.length) :: rest.filterMap
        fun d => segmentOf d.said := by
      simp only [LinkView.downSegments, head, List.filterMap_cons, hsaid, segmentOf]
    have hrec : v.clientInp.receive o p = .ok (deliveredOf out.1, out.2.recvCursor) := hrec
    obtain ⟨hgot, hmax, -⟩ := receive_extends hslice hrec held
    rw [hok]
    refine ⟨?_, ?_, ?_, ?_, h.flagged, h.log, h.errors⟩
    · show v.clientGot ++ _ = _
      rw [h.got]
      exact hgot
    · intro j d hd
      by_cases hj : j = i
      · subst hj
        rw [View.links_putLink_self] at hd
        exact h.slices j d (head ▸ List.mem_cons_of_mem down hd)
      · rw [View.links_putLink_of_ne hj] at hd
        exact h.slices j d hd
    · intro j hj _
      obtain rfl := hcur j hj
      rw [View.links_putLink_self]
      rw [hsegs] at hcovers
      show Covers out.2.recvCursor.recvOffset _
      rw [hmax]
      exact hcovers.2
    · intro j hj _ hhold
      obtain rfl := hcur j hj
      rw [View.links_putLink_self]
      have hnext := h.next j current alive hhold
      rw [hsegs] at hnext
      show _ ≤ reach out.2.recvCursor.recvOffset _
      rw [hmax]
      exact hnext
  · -- any other frame leaves the cursor where it was
    have hkept : errorOf out.1 = none → rest.filterMap (fun d => segmentOf d.said) =
        (v.links i).downSegments := by
      intro hok
      rcases hseg with hnone | herr
      · simp only [LinkView.downSegments, head, List.filterMap_cons, hnone]
      · rw [hok] at herr
        cases herr
    have hinp : out.2.recvCursor = v.clientInp := hinp
    have halive : (errorOf out.1).isSome = false → errorOf out.1 = none := by simp
    refine ⟨?_, ?_, ?_, ?_, h.flagged, h.log, ?_⟩
    · show v.clientGot ++ _ = v.agentLog.take out.2.recvCursor.recvOffset
      rw [hnothing, List.append_nil, hinp]
      exact h.got
    · intro j d hd
      by_cases hj : j = i
      · subst hj
        rw [View.links_putLink_self] at hd
        exact h.slices j d (head ▸ List.mem_cons_of_mem down hd)
      · rw [View.links_putLink_of_ne hj] at hd
        exact h.slices j d hd
    · intro j hj hdead
      obtain rfl := hcur j hj
      rw [View.links_putLink_self] at hdead ⊢
      show Covers out.2.recvCursor.recvOffset (rest.filterMap _)
      rw [hinp, hkept (halive hdead)]
      exact hcovers
    · intro j hj hdead hhold
      obtain rfl := hcur j hj
      rw [View.links_putLink_self] at hdead ⊢
      show _ ≤ reach out.2.recvCursor.recvOffset (rest.filterMap _)
      rw [hinp, hkept (halive hdead)]
      exact h.next j current alive hhold
    · refine not_mem_noted h.errors fun hmem' => ?_
      obtain ⟨a, o, p, e, hsaid, herr⟩ := hgap (by simpa using hmem')
      have hslice := h.slices i down hmem a o p hsaid
      have hsegs : (v.links i).downSegments = (o, o + p.length) :: rest.filterMap
          fun d => segmentOf d.said := by
        simp only [LinkView.downSegments, head, List.filterMap_cons, hsaid, segmentOf]
      rw [hsegs] at hcovers
      -- what is on its way covers the cursor, so no frame of it leaves a gap
      exact receive_covered hslice hcovers.1 fits herr

/-- The ring takes more of the stream. -/
lemma View.Output.grow (h : v.Output cfg) (held : v.clientInp.recvOffset ≤ v.agentLog.length)
    {out : SendBuffer} {more taken : Bytes} (next : out.sendNext = v.out.sendNext)
    (flagged : out.ringOverflowed = true → v.held = false ∧ cfg.capable)
    (log : v.agentLog ++ more <+: taken ∧
      (out.ringOverflowed = false → v.agentLog ++ more = taken)) :
    ({ v with out := out, agentLog := v.agentLog ++ more, agentTaken := taken } : View).Output
      cfg where
  got := by
    show v.clientGot = _
    rw [h.got, List.take_append_of_le_length held]
  slices i d hd a o p hsaid := (h.slices i d hd a o p hsaid).append _
  covers := h.covers
  next i hi hdead hhold := next.le.trans (h.next i hi hdead hhold)
  flagged := flagged
  log := log
  errors := h.errors

end

section
variable {cfg : Config} {v v' : View} {m : Mark}

/-- Every move keeps the client's side of the agent's stream. -/
theorem View.Output.move (h : v.Output cfg) (ord : v.Ordered cfg) (order : v.InOrder)
    (stored : v.Stored) (first : v.gen = 0) (replays : Replays v m)
    (fits : v.agentLog.length < 2 ^ 64) (hmove : Move cfg v m v') : v'.Output cfg := by
  have heq : v.cursorGen = v.gen := by
    have := ord.cursor_le
    omega
  have hheld := ord.held heq
  have hharmless : ∀ {errors : List SessionError}, (∀ e ∈ errors, e.Harmless) →
      SessionError.stream .streamGap ∉ errors ++ v.clientErrors :=
    fun harmless => not_mem_noted h.errors fun hmem => (harmless _ hmem).2.1 rfl
  have hnext : ∀ j, v.Current j → v.Holder j → v.out.sendNext ≤ v.clientInp.recvOffset ∨
      (v.Holder j ∧ v.out.sendNext ≤ max v.out.sendNext v.clientInp.recvOffset) :=
    fun j _ hj => .inr ⟨hj, le_max_left _ _⟩
  have hsame : ∀ {i : Nat}, (v.links i).clientDead = false → (v.links i).clientDead = false ∧
      (v.links i).toClient = (v.links i).toClient := fun hd => ⟨hd, rfl⟩
  cases hmove with
  | agentQuiet i dead errors alive harmless =>
    exact h.put rfl rfl rfl rfl rfl rfl rfl (fun _ hj => hj) hnext hsame (List.Subset.refl _) h.errors
  | clientQuiet i dead errors alive harmless =>
    refine h.put rfl rfl rfl rfl rfl rfl rfl (fun _ hj => hj) hnext (fun hd => ⟨?_, rfl⟩)
      (List.Subset.refl _) (hharmless harmless)
    by_contra hwas
    rw [show dead = true from alive (by simpa using hwas)] at hd
    cases hd
  | clientOpen => exact h.clientOpen order
  | route i _ _ _ _ =>
    exact h.put rfl rfl rfl rfl rfl rfl rfl (fun _ hj => hj) hnext hsame (List.Subset.refl _) h.errors
  | completeHandshake i a _ =>
    exact h.put rfl rfl rfl rfl rfl rfl rfl (fun _ hj => hj) hnext hsame (List.Subset.refl _) h.errors
  | resumeRefused i a e current authOk reason =>
    refine h.put rfl rfl rfl rfl rfl rfl rfl (fun _ hj => hj) hnext (by simp) (List.Subset.refl _) ?_
    rcases reason with harmless | ⟨r, rfl, herr⟩
    · exact hharmless (List.forall_mem_singleton.mpr harmless)
    · rintro (_ | ⟨_, hmem⟩)
      · rcases SendBuffer.resetSendNext_error herr with ⟨hne, -⟩ | ⟨hne, -⟩ <;> cases hne
      · exact h.errors hmem
  | resumeStuck i a e b current authOk attach harmless =>
    exact h.put rfl rfl rfl rfl rfl rfl rfl (fun _ hj => hj) hnext (by simp) (List.Subset.refl _)
      (hharmless (List.forall_mem_singleton.mpr harmless))
  | resumeSent i a b gen current authOk attach gen_eq =>
    exact h.put rfl rfl rfl rfl rfl rfl rfl (fun _ hj => hj) hnext hsame (List.Subset.refl _) h.errors
  | agentTurned i up rest errors head harmless =>
    exact h.put rfl rfl rfl rfl rfl rfl rfl (fun _ hj => hj) hnext hsame (List.Subset.refl _) h.errors
  | agentRejected i gen off up rest e held head said known replay attach less =>
    exact h.put rfl rfl rfl rfl rfl rfl rfl (fun _ hj => less hj)
      (fun j hj hhold => hnext j hj ⟨less hhold.1, hhold.2⟩) hsame (List.Subset.refl _) h.errors
  | pathA i gen off up rest b head said first alive known replay attach =>
    have hmem : up ∈ (v.links i).toAgent := head ▸ List.mem_cons_self
    obtain ⟨-, hall⟩ := ord.replayed head said fun hcap => (replay hcap).1
    have hpos := (ord.up_le hmem).2 ((hall up List.mem_cons_self).trans heq.symm)
    have honest := ((ord.link i).ups up hmem).2.2
    simp only [Up.Honest, said] at honest
    obtain ⟨rfl, -, -⟩ := SendBuffer.resetSendNext_ok attach
    refine h.put rfl rfl rfl rfl rfl rfl rfl ?_ (fun _ _ _ => .inl ?_) hsame (List.Subset.refl _)
      h.errors
    · intro hflag
      have := (replay (h.flagged hflag).2).2
      rw [hflag] at this
      cases this
    · -- the replay starts where the client stands
      exact (honest.2.le.trans (Nat.mod_le _ _)).trans hpos
  | pathB i => exact absurd rfl (replays.2 i)
  | agentHears i up rest g out head holder alive grid hears =>
    have hmem : up ∈ (v.links i).toAgent := head ▸ List.mem_cons_self
    have hgen : up.gen = v.cursorGen := by
      have := (ord.up_le hmem).1
      omega
    have hpos := (ord.up_le hmem).2 hgen
    obtain ⟨base, next, hbuf⟩ := Face.hears_buffer hears
    -- an acknowledgement moves the next byte no further than the client has come
    have hle : out.2.sendBuf.sendNext ≤ max v.out.sendNext v.clientInp.recvOffset := by
      rcases Face.hears_acknowledge hears with ⟨hkept, -⟩ | ⟨-, a, hsaid, hcases⟩
      · rw [hkept]
        exact le_max_left _ _
      · obtain ⟨rfl, -⟩ := ((ord.link i).ups up hmem).2.2.ack_eq hsaid
        rcases hcases with ⟨b, hack, rfl, -⟩ | ⟨e, -, hface, -⟩
        · obtain ⟨hb, -⟩ := SendBuffer.acknowledge_ok hack stored.out.base_le
          rw [hb]
          exact max_le_max le_rfl ((Nat.mod_le _ _).trans hpos)
        · rw [hface]
          exact le_max_left _ _
    refine h.put rfl rfl rfl rfl rfl rfl ?_ (fun _ hj => hj) (fun j _ hj => .inr ⟨hj, hle⟩) hsame
      (List.Subset.refl _) h.errors
    show out.2.sendBuf.ringOverflowed = v.out.ringOverflowed
    rw [hbuf]
    rfl
  | agentSays i g said f holder grid speech => exact h.agentSays stored fits holder speech
  | supplied i g g' holder waiting =>
    rw [replays.1 i] at waiting
    cases waiting
  | released =>
    exact ⟨h.got, h.slices, h.covers, fun _ _ _ hj => (by cases hj.1),
      fun hflag => ⟨rfl, (h.flagged hflag).2⟩, h.log, h.errors⟩
  | inputDelivered =>
    exact ⟨h.got, h.slices, h.covers, h.next, h.flagged, h.log, h.errors⟩
  | inputRejected =>
    exact ⟨h.got, h.slices, h.covers, fun _ _ _ hj => (by cases hj.1),
      fun hflag => ⟨rfl, (h.flagged hflag).2⟩, h.log, h.errors⟩
  | clientTurned i down rest errors current head harmless =>
    exact h.put rfl rfl rfl rfl rfl rfl rfl (fun _ hj => hj) hnext (by simp)
      (fun d hd => head ▸ List.mem_cons_of_mem _ hd) (hharmless harmless)
  | clientHears i down rest g out current head alive grid hears =>
    -- in the first generation no snapshot is on its way
    have hwhole : snapshotOf out.1 = none := by
      rcases Face.hears_client hears ((ord.link i).clientGrid g grid).1 with
        ⟨hnone, -⟩ | ⟨r, hr, -, -, -⟩
      · exact hnone
      · have hmem : r.streamGen ∈ (v.links i).ahead := by
          have : g.receiving = some r := hr
          simp [LinkView.ahead, LinkView.receiving, grid, this]
        have := ord.ahead_lt current hmem
        omega
    simp only [hwhole, Option.getD_none, Option.none_or, Option.isSome_none, Bool.false_eq_true,
      if_false]
    exact h.clientHears hheld fits current head alive hears hwhole
  | clientSays i g said f current grid speech =>
    obtain ⟨-, hinp⟩ := Face.says_buffer speech
    exact h.put rfl rfl hinp rfl rfl rfl rfl (fun _ hj => hj) hnext hsame (List.Subset.refl _)
      h.errors
  | confirmApply i gen applied current pending applied_eq =>
    exact h.put rfl rfl rfl rfl rfl rfl rfl (fun _ hj => hj) hnext hsame (List.Subset.refl _) h.errors
  | denyApply i =>
    exact h.put rfl rfl rfl rfl rfl rfl rfl (fun _ hj => hj) hnext hsame (List.Subset.refl _) h.errors
  | clientWrite w => exact ⟨h.got, h.slices, h.covers, h.next, h.flagged, h.log, h.errors⟩
  | agentWrite w open_ =>
    -- a ring that the agent writes into has dropped nothing
    have hopen : v.out.ringOverflowed = false := by
      by_contra hflag
      have hflag : v.out.ringOverflowed = true := by simpa using hflag
      have := open_ hflag
      rw [(h.flagged hflag).1] at this
      cases this
    have hall := h.log.2 hopen
    refine h.grow hheld (SendBuffer.append_sendNext ..) ?_ ?_
    · rw [SendBuffer.append_ringOverflowed]
      exact h.flagged
    · rw [hall]
      exact ⟨List.prefix_rfl, fun _ => rfl⟩
  | agentOverflow w bytes fits' capable first alone =>
    have hall := h.log.2 first
    refine h.grow hheld (SendBuffer.append_sendNext ..) (fun _ => ⟨alone, capable⟩) ⟨?_, ?_⟩
    · rw [hall]
      exact (List.prefix_append_right_inj _).mpr ((List.take_prefix _ _).trans fits')
    · rintro ⟨⟩
  | agentDropped bytes overflowed alone =>
    refine ⟨h.got, h.slices, h.covers, h.next, h.flagged, ?_, h.errors⟩
    refine ⟨h.log.1.trans (List.prefix_append _ _), fun hno => ?_⟩
    rw [show v.out.ringOverflowed = true from overflowed] at hno
    cases hno

/-- What holds of a system that only replays. -/
structure View.Replaying (cfg : Config) (v : View) : Prop where
  ordered : v.Ordered cfg
  trimmed : v.Trimmed
  inOrder : v.InOrder
  newest : v.Newest
  staged : v.Staged
  first : v.gen = 0
  waiting : ∀ i, (v.links i).waiting = false
  input : v.Input
  output : v.Output cfg

/-- Resumes are taken in order and replayed, at offsets of 64 bits. -/
structure ReplayedOnly (v : View) (m : Mark) : Prop where
  orderly : ∀ i snapshot, m = .resume i snapshot → ∀ a, v.attached = some a → a < i
  replayed : ∀ i, m ≠ .resume i true
  agentFits : v.agentLog.length < 2 ^ 64
  clientFits : v.clientTaken.length < 2 ^ 64

/-- A connection waits for a snapshot once one was chosen for it. -/
lemma waiting_move (hmove : Move cfg v m v') (replayed : ∀ i, m ≠ .resume i true)
    (waiting : ∀ i, (v.links i).waiting = false) (i : Nat) : (v'.links i).waiting = false := by
  have put : ∀ {w : View} {j : Nat} {l : LinkView}, w.links = v.links → l.waiting = false →
      ((w.putLink j l).links i).waiting = false := by
    intro w j l hw hl
    by_cases hij : i = j
    · rw [hij, View.links_putLink_self]
      exact hl
    · rw [View.links_putLink_of_ne hij, hw]
      exact waiting i
  cases hmove with
  | pathB j => exact absurd rfl (replayed j)
  | clientOpen => exact put rfl rfl
  | supplied => exact put rfl rfl
  | released => exact waiting i
  | inputDelivered => exact waiting i
  | inputRejected => exact waiting i
  | clientWrite => exact waiting i
  | agentWrite => exact waiting i
  | agentOverflow => exact waiting i
  | agentDropped => exact waiting i
  | _ => exact put rfl (waiting _)

/-- Without a snapshot the generation stays. -/
lemma gen_move (hmove : Move cfg v m v') (waiting : ∀ i, (v.links i).waiting = false) :
    v'.gen = v.gen := by
  rcases hmove.gen_cases with hsame | ⟨-, ⟨i, hwait⟩, -⟩
  · exact hsame
  · rw [waiting i] at hwait
    cases hwait

/-- Every move of a system that only replays. -/
theorem View.Replaying.move (h : v.Replaying cfg) (stored : v.Stored) (only : ReplayedOnly v m)
    (hmove : Move cfg v m v') : v'.Replaying cfg := by
  have hgen : GenFits v m := by
    intro _
    rw [h.first]
    decide
  have hunstale : Unstale v m := by
    intro i up _ hwait
    rw [h.waiting i] at hwait
    cases hwait
  have horderly : Orderly v m := h.newest.orderly fun i snapshot hm =>
    ⟨only.orderly i snapshot hm, only.agentFits⟩
  have hreplays : Replays v m := ⟨h.waiting, only.replayed⟩
  exact ⟨h.ordered.move stored hgen hmove, h.trimmed.move h.ordered stored hunstale hmove,
    h.inOrder.move h.ordered stored hgen horderly hmove, h.newest.move only.orderly hmove,
    h.staged.move hmove,
    (gen_move hmove h.waiting).trans h.first, waiting_move hmove only.replayed h.waiting,
    h.input.move h.ordered h.staged stored only.clientFits hmove,
    h.output.move h.ordered h.inOrder stored h.first hreplays only.agentFits hmove⟩

end

section
variable {K : Type} [DecidableEq K]

/-- Both streams are counted in 64 bits, and every Resume is taken in the order of its connection and
answered by replay. -/
def State.ReplaysInOrder (P : KeySchedule K) (s : State K) (a : Action) : Prop :=
  s.agentLog.length < 2 ^ 64 ∧ s.clientTaken.length < 2 ^ 64 ∧
    match a with
    | .agentFrame i _ => ∀ c ∈ (s.links i).agent, c.stage = .awaitResume →
        (∀ a ∈ s.attached, a < i) ∧ ∀ up ∈ (s.links i).toAgent.head?,
          ∀ message ∈ resumeOf P c up.frame, c.usePathB s.agent message = false
    | _ => True

instance (P : KeySchedule K) (s : State K) (a : Action) : Decidable (s.ReplaysInOrder P a) :=
  match a with
  | .agentFrame i _ => inferInstanceAs (Decidable (s.agentLog.length < 2 ^ 64 ∧
      s.clientTaken.length < 2 ^ 64 ∧ ∀ c ∈ (s.links i).agent, c.stage = .awaitResume →
        (∀ a ∈ s.attached, a < i) ∧ ∀ up ∈ (s.links i).toAgent.head?,
          ∀ message ∈ resumeOf P c up.frame, c.usePathB s.agent message = false))
  | .clientOpen .. | .route .. | .completeHandshake .. | .sendResume .. | .agentIdle ..
  | .supplySnapshot .. | .agentClose .. | .clientFrame .. | .clientIdle .. | .confirmApply ..
  | .denyApply .. | .queueResize .. | .clientClose .. | .clientWrite .. | .agentWrite ..
  | .inputDelivered .. | .inputRejected .. | .endSession .. | .agentTimer .. | .agentGates ..
  | .clientGates .. =>
    inferInstanceAs (Decidable (s.agentLog.length < 2 ^ 64 ∧ s.clientTaken.length < 2 ^ 64 ∧ True))

variable {P : KeySchedule K} {cfg : Config} {s s' : State K}

/-- What the condition on steps comes to for moves. -/
lemma State.ReplaysInOrder.marked {a : Action} {m : Mark} (h : s.ReplaysInOrder P a)
    (hm : m.Of P cfg s a) : ReplayedOnly (s.view cfg) m := by
  obtain ⟨hagent, hclient, hframe⟩ := h
  refine ⟨?_, ?_, hagent, hclient⟩
  · rintro i snapshot rfl
    obtain ⟨now, c, up, rest, used, chosen, message, rfl, hc, -, hup, resumes, -⟩ := hm
    exact (hframe c hc resumes.stage).1
  · rintro i rfl
    obtain ⟨now, c, up, rest, used, chosen, message, rfl, hc, -, hup, resumes, hpath⟩ := hm
    have := (hframe c hc resumes.stage).2 up (by simp [hup]) message (resumeOf_eq resumes)
    rw [hpath] at this
    cases this

omit [DecidableEq K] in
/-- The system starts with nothing to replay. -/
lemma replaying_start (seed : K) (agentStorage clientStorage : Bytes)
    (agentLimits clientLimits : SessionLimits) (now : Timestamp) :
    (State.view cfg
      (.start seed agentStorage clientStorage agentLimits clientLimits now)).Replaying cfg where
  ordered := ordered_start ..
  trimmed := trimmed_start ..
  inOrder := inOrder_start ..
  newest := newest_start _ _ _ _ _ _
  staged _ := ⟨fun _ => ⟨rfl, rfl⟩, fun _ => rfl, fun _ => rfl, fun _ => rfl⟩
  first := rfl
  waiting _ := rfl
  input :=
    { got := rfl
      recv := le_rfl
      cursor := ⟨rfl, le_rfl⟩
      base := le_rfl
      acks := fun i d hd => by cases hd
      offered := fun i a hor => by rcases hor with ⟨⟨⟩⟩ | ⟨⟨⟩⟩
      slices := fun i u hu => by cases hu
      covers := fun i r _ => trivial
      next := fun i r _ hi => by cases hi
      agentErrors := fun h => by cases h
      clientErrors := ⟨fun h => (by cases h), fun h => (by cases h)⟩ }
  output :=
    { got := rfl
      slices := fun i d hd => by cases hd
      covers := fun i _ _ => trivial
      next := fun i hi => by cases hi
      flagged := fun h => by cases h
      log := ⟨List.prefix_rfl, fun _ => rfl⟩
      errors := fun h => by cases h }

/-- Between two honest ends that only replay, each end has been delivered a prefix of what the other
wrote, and neither was ever turned away for where its stream stands. -/
theorem exactly_once (seed : K) (agentStorage clientStorage : Bytes)
    (agentLimits clientLimits : SessionLimits) (now : Timestamp) {as : List Action} {t : State K}
    (run : Run (State.step P cfg) (State.ReplaysInOrder P)
      (.start seed agentStorage clientStorage agentLimits clientLimits now) as t) :
    t.agentGot <+: t.clientTaken ∧ t.clientGot <+: t.agentTaken ∧
      ∀ e ∈ [StreamError.ackBeyondSent, .streamGap, .peerBehindBuffer],
        .stream e ∉ t.agentErrors ∧ .stream e ∉ t.clientErrors := by
  obtain ⟨h, -, -⟩ := run_inv (fun v => v.Replaying cfg) ReplayedOnly
    (fun s a m _ hC hm => hC.marked hm) (fun v m v' stored inv hD hmove => inv.move stored hD hmove)
    run (.start ..) (stored_start ..) (replaying_start ..)
  refine ⟨?_, ?_, ?_⟩
  · have hgot : t.agentGot = t.clientTaken.take _ := h.input.got
    rw [hgot]
    exact List.take_prefix _ _
  · have hgot : t.clientGot = t.agentLog.take _ := h.output.got
    rw [hgot]
    exact (List.take_prefix _ _).trans h.output.log.1
  · intro e he
    simp only [List.mem_cons, List.not_mem_nil, or_false] at he
    rcases he with rfl | rfl | rfl
    · exact ⟨h.trimmed.errors, h.input.clientErrors.1⟩
    · exact ⟨h.input.agentErrors, h.output.errors⟩
    · exact ⟨h.inOrder.errors, h.input.clientErrors.2⟩

/-- Both ends write, the connection is cut with data on its way in both directions, input is refused
once, and the next connection starts from an offset read before the last byte was delivered. -/
def cutAndResume : List Action :=
  sampleResume 0 0 ++ [.agentFrame 0 0] ++ sampleByte 0 0 ++
    [.clientWrite [7, 8], .clientIdle 0 1000 1000, .agentFrame 0 0, .inputRejected 0 1 0,
      .agentWrite [2, 3]] ++
    [.clientOpen 1 1 [] 0, .route 1 0, .inputDelivered 1, .completeHandshake 1,
      .sendResume 0 1000, .agentFrame 1 0, .agentIdle 1 0 1000 1000, .clientFrame 0,
      .clientIdle 0 1000 1000, .agentFrame 1 0]

/-- A cut connection is resumed, and both streams go on where they were. -/
theorem exactly_once_sample :
    ∃ t, Run (State.step .counting sampleConfig) (State.ReplaysInOrder .counting) sampleStart
      cutAndResume t ∧ t.agentGot = [7, 8] ∧ t.clientGot = [1, 2, 3] ∧
      [7, 8] <+: t.clientTaken ∧ .stream .streamGap ∉ t.agentErrors := by
  have hreach : ((exec (guarded (State.step .counting sampleConfig)
      (State.ReplaysInOrder .counting)) sampleStart cutAndResume).any fun t =>
        decide (t.agentGot = [7, 8] ∧ t.clientGot = [1, 2, 3])) = true := by
    decide +kernel
  obtain ⟨t, ht, hstate⟩ := (Option.any_eq_true _ _).mp hreach
  have run := Run.of_guarded ht
  obtain ⟨hagent, hclient⟩ := of_decide_eq_true hstate
  obtain ⟨hgot, -, herrors⟩ := exactly_once 0 _ _ {} {} 0 run
  exact ⟨t, run, hagent, hclient, hagent ▸ hgot, (herrors .streamGap (by simp)).1⟩

end

end Zet.Net
