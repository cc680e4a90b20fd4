import Zet.Net.Acknowledgement

/-!
# Resumes in order

A Resume names what the client held when it was sealed. The ring can replay from there as long as
nothing sealed later has been acknowledged, that is, as long as Resumes reach the agent in the order
the client opened its connections. `View.InOrder` states what that order gives: positions grow from
one connection to the next, and no Resume of a connection after all those that have attached is behind
the ring. A Resume that comes after a later connection has attached may name an offset the ring no
longer holds, and is refused by ending the session. Where the ring still holds it nothing is lost, but
the older connection takes the session over.
-/

namespace Zet.Net
open Zet.Core Zet.Wire Zet.Lib Zet.Session

section
variable {cfg : Config} {v v' : View} {m : Mark}

/-- A snapshot a client is receiving it has been receiving, or it was just begun. -/
lemma Face.hears_receiving {f : Face} {down : Down} {out : Except SessionError IncomingEvent × Face}
    (h : f.Hears down.said out) (client : f.grid.role = .client) :
    (out.2.grid.receiving.map GridReception.streamGen).toList.Sublist
      ((f.grid.receiving.map GridReception.streamGen).toList ++ down.begins.toList) := by
  rcases Face.hears_client h client with ⟨-, -, -, hrecv, -⟩ | ⟨r, -, -, -, hgrid⟩
  · rcases hrecv with hsame | ⟨gen, hidle, hsaid, hgen⟩
    · rw [hsame]
      exact List.sublist_append_left _ _
    · rw [hgen]
      simp [Down.begins, hsaid]
  · simp [hgrid]

/-- Only a new generation is put ahead of the client. -/
lemma View.Ordered.ahead_move (ord : v.Ordered cfg) (hmove : Move cfg v m v') (hm : m ≠ .supplied)
    {i : Nat} (current : v'.Current i) :
    (v'.links i).ahead = [] ∨ (v.Current i ∧ (v'.links i).ahead.Sublist (v.links i).ahead) := by
  have put : ∀ {w : View} {j : Nat} {l : LinkView}, w.opened = v.opened → w.links = v.links →
      (w.putLink j l).Current i → l.ahead.Sublist (v.links j).ahead →
      ((w.putLink j l).links i).ahead = [] ∨
        (v.Current i ∧ ((w.putLink j l).links i).ahead.Sublist (v.links i).ahead) := by
    intro w j l hopened hlinks hcur hsub
    refine .inr ⟨hopened.symm.trans hcur, ?_⟩
    by_cases hij : i = j
    · subst hij
      rw [View.links_putLink_self]
      exact hsub
    · rw [View.links_putLink_of_ne hij, hlinks]
  cases hmove with
  | clientOpen =>
    left
    obtain rfl : v.opened = i := Nat.succ.inj current
    rw [View.links_putLink_self]
    rfl
  | resumeSent j a b gen _ _ _ _ => exact put rfl rfl current (LinkView.ahead_sendUp (.inl rfl))
  | pathA j gen off up rest b head said first alive known replay attach =>
    refine put rfl rfl current ?_
    simp [LinkView.ahead, LinkView.receiving, LinkView.unsent, first.1, AgentConnection.freshGrid]
  | pathB j gen off up rest head said first alive known capable =>
    refine put rfl rfl current ?_
    simp [LinkView.ahead, LinkView.receiving, LinkView.unsent, first.1, AgentConnection.freshGrid]
  | agentHears j up rest g out head holder alive grid hears =>
    refine put rfl rfl current ?_
    have hsame : out.2.grid.emitting = g.emitting := by
      rcases Face.hears_agentGrid hears ((ord.link j).agentGrid g grid).1 with heq | ⟨-, -, -, heq⟩ <;>
        rw [heq] <;> rfl
    simp [LinkView.ahead, LinkView.receiving, LinkView.unsent, grid, hsame]
  | agentSays j g said f holder grid speech => exact put rfl rfl current (ord.ahead_spoken grid speech)
  | supplied => exact absurd rfl hm
  | clientTurned j down rest errors _ head _ =>
    exact put rfl rfl current (LinkView.ahead_popDown head (List.sublist_append_left _ _))
  | clientHears j down rest g out _ head alive grid hears =>
    refine put rfl rfl current (LinkView.ahead_popDown head ?_)
    have hreceiving : (v.links j).receiving = (g.receiving.map GridReception.streamGen).toList := by
      simp [LinkView.receiving, grid]
    rw [hreceiving]
    exact Face.hears_receiving hears ((ord.link j).clientGrid g grid).1
  | clientSays j g said f _ grid speech =>
    refine put rfl rfl current (LinkView.ahead_sendUp ?_)
    cases speech <;> exact .inr (by simp [grid, View.clientFace])
  | confirmApply j gen applied _ pending _ =>
    refine put rfl rfl current ?_
    cases hg : (v.links j).clientGrid with
    | none => simp [LinkView.ahead, LinkView.receiving, LinkView.unsent, hg]
    | some g =>
      have hrole := ((ord.link j).clientGrid g hg).1
      simp [LinkView.ahead, LinkView.receiving, LinkView.unsent, hg, hrole]
  | agentQuiet => exact put rfl rfl current (List.Sublist.refl _)
  | clientQuiet => exact put rfl rfl current (List.Sublist.refl _)
  | route => exact put rfl rfl current (List.Sublist.refl _)
  | completeHandshake => exact put rfl rfl current (List.Sublist.refl _)
  | resumeRefused => exact put rfl rfl current (List.Sublist.refl _)
  | resumeStuck => exact put rfl rfl current (List.Sublist.refl _)
  | agentTurned => exact put rfl rfl current (List.Sublist.refl _)
  | agentRejected => exact put rfl rfl current (List.Sublist.refl _)
  | denyApply => exact put rfl rfl current (List.Sublist.refl _)
  | _ => exact .inr ⟨current, List.Sublist.refl _⟩

/-- Every connection that has attached was opened before this one. -/
def View.Next (v : View) (i : Nat) : Prop := ∀ j, (v.links j).agentGrid.isSome → j < i

/-- No Resume still to come in order is behind the ring. -/
structure View.InOrder (v : View) : Prop where
  opened : ∀ a, v.attached = some a → a < v.opened
  used : ∀ j, (v.links j).agentGrid.isSome → j < v.opened
  unopened : ∀ j, v.opened ≤ j → (v.links j).toAgent = []
  /-- The client's position grows from one connection to the next. -/
  stamps : ∀ i j, i < j → ∀ u ∈ (v.links i).toAgent, ∀ w ∈ (v.links j).toAgent,
    u.gen ≤ w.gen ∧ (u.gen = w.gen → u.pos ≤ w.pos)
  /-- Nothing is ahead of the client on a connection that has sent no snapshot. -/
  idle : ∀ i, v.Current i → (v.links i).agentGrid = none ∨ (v.links i).waiting = true →
    (v.links i).ahead = []
  /-- What is on its way to a connection yet to attach in order, or to one that attached last and waits
  for its snapshot, was sealed in the generation the client is in. -/
  untouched : ∀ j, v.Next j ∨ (v.attached = some j ∧ (v.links j).waiting = true) →
    v.cursorGen = v.gen → ∀ u ∈ (v.links j).toAgent, u.gen = v.gen
  /-- A connection that waits for its snapshot attached in order, or in the generation of the client. -/
  waited : ∀ i, v.attached = some i → (v.links i).waiting = true →
    (∀ j, (v.links j).agentGrid.isSome → j ≤ i) ∨ v.cursorGen = v.gen
  entering : ∀ i, v.Current i → v.gen ∈ (v.links i).ahead → v.out.base = 0
  base : v.cursorGen = v.gen → v.out.base ≤ v.clientInp.recvOffset
  next : v.cursorGen = v.gen → ∀ j, v.Next j → ∀ u ∈ (v.links j).toAgent, u.gen = v.gen → v.out.base ≤ u.pos
  errors : .stream .peerBehindBuffer ∉ v.agentErrors

/-- A frame on its way was sealed at or below the client's position. -/
lemma View.Ordered.up_le (ord : v.Ordered cfg) {i : Nat} {u : Up} (mem : u ∈ (v.links i).toAgent) :
    u.gen ≤ v.cursorGen ∧ (u.gen = v.cursorGen → u.pos ≤ v.clientInp.recvOffset) := by
  obtain ⟨hle, hpos, -⟩ := (ord.link i).ups u mem
  rw [← ord.pos_eq]
  exact ⟨hle, hpos⟩

/-- A generation the client has yet to enter is later than the one it is in. -/
lemma View.Ordered.ahead_lt (ord : v.Ordered cfg) {i gen : Nat} (current : v.Current i)
    (mem : gen ∈ (v.links i).ahead) : v.cursorGen < gen ∧ gen ≤ v.gen :=
  ((ord.link i).ahead current).2 gen mem

/-- A snapshot the client has yet to receive comes on a connection that does not wait for one. -/
lemma View.InOrder.emitted (h : v.InOrder) {i gen : Nat} (current : v.Current i)
    (mem : gen ∈ (v.links i).ahead) :
    (v.links i).agentGrid.isSome ∧ (v.links i).waiting = false := by
  by_contra hnot
  rw [h.idle i current] at mem
  · cases mem
  · by_cases hnone : (v.links i).agentGrid = none
    · exact .inl hnone
    · exact .inr (by_contra fun hw =>
        hnot ⟨Option.isSome_iff_ne_none.mpr hnone, by simpa using hw⟩)

/-- Where it does, the connection that attached last waits for none. -/
lemma View.InOrder.not_waiting (h : v.InOrder) (ord : v.Ordered cfg) {i a gen : Nat}
    (current : v.Current i) (mem : gen ∈ (v.links i).ahead) (attached : v.attached = some a) :
    (v.links a).waiting = false := by
  obtain ⟨hgrid, hidle⟩ := h.emitted current mem
  by_contra hwait
  rcases h.waited a attached (by simpa using hwait) with hlatest | heq
  · have hle := hlatest i hgrid
    have hlt := h.opened a attached
    simp only [View.Current] at current
    obtain rfl : a = i := by omega
    exact hwait hidle
  · obtain ⟨hlt, hle⟩ := ord.ahead_lt current mem
    omega

/-- A move that changes one connection, and at most raises the ring's base: to a position of a
connection that has attached, or while the client counts an older generation. -/
lemma View.InOrder.put (h : v.InOrder) (ord : v.Ordered cfg) {i : Nat} {l : LinkView}
    (links : v'.links = Function.update v.links i l) (gen : v'.gen = v.gen)
    (cursorGen : v'.cursorGen = v.cursorGen) (attached : v'.attached = v.attached)
    (opened : v'.opened = v.opened) (recv : v.clientInp.recvOffset ≤ v'.clientInp.recvOffset)
    (ups : ∀ u ∈ l.toAgent, u ∈ (v.links i).toAgent ∨
      (v.Current i ∧ u.gen = v.cursorGen ∧ u.pos = v.clientInp.recvOffset))
    (grid : l.agentGrid.isSome = (v.links i).agentGrid.isSome)
    (waiting : l.waiting = (v.links i).waiting)
    (ahead : ∀ j, v'.Current j → (v'.links j).ahead = [] ∨
      (v.Current j ∧ (v'.links j).ahead.Sublist (v.links j).ahead))
    (base : v'.out.base = v.out.base ∨
      (∃ a up, (v.links a).agentGrid.isSome ∧ up ∈ (v.links a).toAgent ∧ up.gen = v.gen ∧
        v'.out.base ≤ max v.out.base up.pos) ∨
      (v.cursorGen ≠ v.gen ∧ ∀ j, v.Current j → v.gen ∉ (v.links j).ahead))
    (errors : .stream .peerBehindBuffer ∉ v'.agentErrors) : v'.InOrder := by
  obtain ⟨hself, hother⟩ := View.links_put links
  have hgrid : ∀ j, (v'.links j).agentGrid.isSome = (v.links j).agentGrid.isSome :=
    View.same_put (·.agentGrid.isSome) links grid
  have hwait : ∀ j, (v'.links j).waiting = (v.links j).waiting :=
    View.same_put (·.waiting) links waiting
  have hups : ∀ j, ∀ u ∈ (v'.links j).toAgent, u ∈ (v.links j).toAgent ∨
      (v.Current j ∧ u.gen = v.cursorGen ∧ u.pos = v.clientInp.recvOffset) := by
    intro j u hu
    by_cases hj : j = i
    · rw [hj, hself] at hu
      rw [hj]
      exact ups u hu
    · exact .inl (hother j hj ▸ hu)
  have hlast : ∀ j, v.Current j → ∀ k, j < k → (v.links k).toAgent = [] := by
    intro j hj k hk
    refine h.unopened k ?_
    simp only [View.Current] at hj
    omega
  have hnext : ∀ j, v'.Next j → v.Next j := fun j hj k hk => hj k (hgrid k ▸ hk)
  -- a frame that is new was sealed by the newest connection, and at the client's position
  refine ⟨?_, ?_, ?_, ?_, ?_, ?_, ?_, ?_, ?_, ?_, errors⟩
  · intro a ha
    rw [opened]
    exact h.opened a (attached ▸ ha)
  · intro j hj
    rw [opened]
    exact h.used j (hgrid j ▸ hj)
  · intro j hj
    rw [opened] at hj
    refine List.eq_nil_iff_forall_not_mem.mpr fun u hu => ?_
    rcases hups j u hu with hmem | ⟨hcur, -, -⟩
    · rw [h.unopened j hj] at hmem
      cases hmem
    · simp only [View.Current] at hcur
      omega
  · intro j k hjk u hu w hw
    rcases hups k w hw with hw | ⟨hk, hwgen, hwpos⟩
    · rcases hups j u hu with hu | ⟨hj, -, -⟩
      · exact h.stamps j k hjk u hu w hw
      · rw [hlast j hj k hjk] at hw
        cases hw
    · rcases hups j u hu with hu | ⟨hj, -, -⟩
      · rw [hwgen, hwpos]
        exact ord.up_le hu
      · simp only [View.Current] at hj hk
        omega
  · intro j hj hor
    rcases ahead j hj with hnil | ⟨hcur, hsub⟩
    · exact hnil
    · have hor' : (v.links j).agentGrid = none ∨ (v.links j).waiting = true := by
        rcases hor with hnone | hw
        · have := hgrid j
          rw [hnone] at this
          exact .inl (by simpa using this.symm)
        · exact .inr (hwait j ▸ hw)
      exact List.sublist_nil.mp (h.idle j hcur hor' ▸ hsub)
  · intro j hj heq u hu
    rw [gen]
    rw [cursorGen, gen] at heq
    rw [attached, hwait] at hj
    rcases hups j u hu with hmem | ⟨-, hgen, -⟩
    · exact h.untouched j (hj.imp_left (hnext j)) heq u hmem
    · exact hgen.trans heq
  · intro j hj hw
    rw [attached] at hj
    rw [cursorGen, gen]
    exact (h.waited j hj (hwait j ▸ hw)).imp_left fun hlatest k hk => hlatest k (hgrid k ▸ hk)
  · intro j hj hmem
    rw [gen] at hmem
    rcases ahead j hj with hnil | ⟨hcur, hsub⟩
    · rw [hnil] at hmem
      cases hmem
    · have hold := hsub.subset hmem
      rcases base with hsame | ⟨a, up, -, hup, hgen, -⟩ | ⟨-, hnone⟩
      · rw [hsame]
        exact h.entering j hcur hold
      · -- nothing is acknowledged in a generation the client has yet to enter
        have := (ord.ahead_lt hcur hold).1
        have := (ord.up_le hup).1
        omega
      · exact absurd hold (hnone j hcur)
  · intro heq
    rw [cursorGen, gen] at heq
    refine le_trans ?_ recv
    rcases base with hsame | ⟨a, up, -, hup, hgen, hle⟩ | ⟨hne, -⟩
    · rw [hsame]
      exact h.base heq
    · exact hle.trans (max_le (h.base heq) ((ord.up_le hup).2 (hgen.trans heq.symm)))
    · exact absurd heq hne
  · intro heq j hj u hu hugen
    rw [cursorGen, gen] at heq
    replace hj := hnext j hj
    rw [gen] at hugen
    rcases base with hsame | ⟨a, up, ha, hup, hgen, hle⟩ | ⟨hne, -⟩
    · rw [hsame]
      rcases hups j u hu with hmem | ⟨-, -, hpos⟩
      · exact h.next heq j hj u hmem hugen
      · rw [hpos]
        exact h.base heq
    · refine hle.trans ?_
      rcases hups j u hu with hmem | ⟨-, -, hpos⟩
      · refine max_le (h.next heq j hj u hmem hugen) ?_
        -- the connection that acknowledged comes first, and positions grow
        exact (h.stamps a j (hj a ha) up hup u hmem).2 (hgen.trans hugen.symm)
      · rw [hpos]
        exact max_le (h.base heq) ((ord.up_le hup).2 (hgen.trans heq.symm))
    · exact absurd heq hne

/-- A connection attaches, in order or with a Resume of the ring's generation. -/
lemma View.InOrder.attach (h : v.InOrder) (ord : v.Ordered cfg) {i : Nat} {l : LinkView} {up : Up}
    {rest : List Up} (links : v'.links = Function.update v.links i l) (gen : v'.gen = v.gen)
    (cursorGen : v'.cursorGen = v.cursorGen) (attached : v'.attached = some i)
    (opened : v'.opened = v.opened) (clientInp : v'.clientInp = v.clientInp)
    (head : (v.links i).toAgent = up :: rest) (ups : l.toAgent = rest)
    (first : (v.links i).agentGrid = none) (grid : l.agentGrid.isSome)
    (order : v.Next i ∨ up.gen = v.gen)
    (ahead : ∀ j, v'.Current j → (v'.links j).ahead = [] ∨
      (v.Current j ∧ (v'.links j).ahead.Sublist (v.links j).ahead))
    (base : v'.out.base = v.out.base ∨ (up.gen = v.gen ∧ v'.out.base ≤ up.pos))
    (errors : v'.agentErrors = v.agentErrors) : v'.InOrder := by
  obtain ⟨hself, hother⟩ := View.links_put links
  have hup : up ∈ (v.links i).toAgent := head ▸ List.mem_cons_self
  have hups : ∀ j, ∀ u ∈ (v'.links j).toAgent, u ∈ (v.links j).toAgent := by
    intro j u hu
    by_cases hj : j = i
    · rw [hj, hself, ups] at hu
      rw [hj, head]
      exact List.mem_cons_of_mem up hu
    · exact hother j hj ▸ hu
  have hopen : i < v.opened := by
    by_contra hge
    rw [h.unopened i (by omega)] at head
    cases head
  have hgrid : ∀ j, (v.links j).agentGrid.isSome → (v'.links j).agentGrid.isSome := by
    intro j hj
    by_cases hij : j = i
    · rw [hij, first] at hj
      cases hj
    · rwa [hother j hij]
  have hnext : ∀ j, v'.Next j → v.Next j ∧ i < j := fun j hj =>
    ⟨fun k hk => hj k (hgrid k hk), hj i (hself ▸ grid)⟩
  -- a Resume of the ring's generation can only be followed by frames of it
  have hsame : up.gen = v.gen → v.cursorGen = v.gen ∧ ∀ u ∈ up :: rest, u.gen = v.gen := by
    intro hgen
    have hle := (ord.up_le hup).1
    have hcursor := ord.cursor_le
    exact ⟨by omega, (ord.link i).rest_gen head hcursor hgen.ge⟩
  refine ⟨?_, ?_, ?_, ?_, ?_, ?_, ?_, ?_, ?_, ?_, errors ▸ h.errors⟩
  · rintro a ha
    rw [attached] at ha
    cases ha
    rw [opened]
    exact hopen
  · intro j hj
    rw [opened]
    by_cases hij : j = i
    · exact hij ▸ hopen
    · exact h.used j (hother j hij ▸ hj)
  · intro j hj
    rw [opened] at hj
    exact List.eq_nil_iff_forall_not_mem.mpr fun u hu => by
      have := hups j u hu
      rw [h.unopened j hj] at this
      cases this
  · intro j k hjk u hu w hw
    exact h.stamps j k hjk u (hups j u hu) w (hups k w hw)
  · intro j hj hor
    rcases ahead j hj with hnil | ⟨hcur, hsub⟩
    · exact hnil
    · refine List.sublist_nil.mp (h.idle j hcur ?_ ▸ hsub)
      by_cases hij : j = i
      · exact .inl (hij ▸ first)
      · rwa [hother j hij] at hor
  · intro j hj heq u hu
    rw [gen]
    rw [cursorGen, gen] at heq
    rcases hj with hj | ⟨hatt, -⟩
    · exact h.untouched j (.inl (hnext j hj).1) heq u (hups j u hu)
    · rw [attached] at hatt
      cases hatt
      rw [hself, ups] at hu
      rcases order with hnew | hgen
      · exact h.untouched i (.inl hnew) heq u (head ▸ List.mem_cons_of_mem up hu)
      · exact (hsame hgen).2 u (List.mem_cons_of_mem up hu)
  · intro j hj _
    rw [attached] at hj
    cases hj
    rw [cursorGen, gen]
    refine order.imp (fun hnew k hk => ?_) fun hgen => (hsame hgen).1
    by_cases hki : k = i
    · exact hki.le
    · exact (hnew k (hother k hki ▸ hk)).le
  · intro j hj hmem
    rw [gen] at hmem
    rcases ahead j hj with hnil | ⟨hcur, hsub⟩
    · rw [hnil] at hmem
      cases hmem
    · have hmem := hsub.subset hmem
      rcases base with hsame | ⟨hgen, -⟩
      · rw [hsame]
        exact h.entering j hcur hmem
      · have := (ord.ahead_lt hcur hmem).1
        have := (ord.up_le hup).1
        omega
  · intro heq
    rw [cursorGen, gen] at heq
    rw [clientInp]
    rcases base with hsame | ⟨hgen, hle⟩
    · rw [hsame]
      exact h.base heq
    · exact hle.trans ((ord.up_le hup).2 (hgen.trans heq.symm))
  · intro heq j hj u hu hugen
    rw [cursorGen, gen] at heq
    rw [gen] at hugen
    obtain ⟨hj, hij⟩ := hnext j hj
    rcases base with hsame | ⟨hgen, hle⟩
    · rw [hsame]
      exact h.next heq j hj u (hups j u hu) hugen
    · exact hle.trans ((h.stamps i j hij up hup u (hups j u hu)).2 (hgen.trans hugen.symm))

/-- A new generation: the client is behind it, and nothing of it has been dropped. -/
lemma View.InOrder.supplied (h : v.InOrder) (ord : v.Ordered cfg) {i : Nat} {l : LinkView}
    (links : v'.links = Function.update v.links i l) (gen : v'.gen = v.gen + 1)
    (cursorGen : v'.cursorGen = v.cursorGen) (attached : v'.attached = v.attached)
    (holder : v.attached = some i) (opened : v'.opened = v.opened) (base : v'.out.base = 0)
    (ups : l.toAgent = (v.links i).toAgent) (grid : (v.links i).agentGrid.isSome)
    (attachedGrid : l.agentGrid.isSome) (waiting : l.waiting = false)
    (errors : v'.agentErrors = v.agentErrors) : v'.InOrder := by
  obtain ⟨hself, hother⟩ := View.links_put links
  have hups : ∀ j, (v'.links j).toAgent = (v.links j).toAgent := View.same_put (·.toAgent) links ups
  have hbehind : v'.cursorGen ≠ v'.gen := by
    have := ord.cursor_le
    omega
  refine ⟨?_, ?_, ?_, ?_, ?_, fun j _ heq => absurd heq hbehind, ?_, fun _ _ _ => base,
    fun heq => absurd heq hbehind, fun heq => absurd heq hbehind, errors ▸ h.errors⟩
  · intro a ha
    rw [opened]
    exact h.opened a (attached ▸ ha)
  · intro j hj
    rw [opened]
    by_cases hij : j = i
    · exact h.used j (hij ▸ grid)
    · exact h.used j (hother j hij ▸ hj)
  · intro j hj
    rw [hups]
    exact h.unopened j (opened ▸ hj)
  · intro j k hjk
    rw [hups, hups]
    exact h.stamps j k hjk
  · intro j hj hor
    by_cases hij : j = i
    · rw [hij, hself] at hor
      rcases hor with hnone | hw
      · simp [hnone] at attachedGrid
      · simp [hw] at waiting
    · rw [hother j hij] at hor ⊢
      exact h.idle j (opened.symm.trans hj) hor
  · intro j hj hw
    rw [attached, holder] at hj
    cases hj
    simp [hself, waiting] at hw

/-- The client enters the generation of the snapshot it has received. -/
lemma View.InOrder.enter (h : v.InOrder) (ord : v.Ordered cfg) {i gen : Nat} {l : LinkView}
    (links : v'.links = Function.update v.links i l) (same : v'.gen = v.gen)
    (cursorGen : v'.cursorGen = gen) (attached : v'.attached = v.attached)
    (opened : v'.opened = v.opened) (base : v'.out.base = v.out.base) (current : v.Current i)
    (mem : gen ∈ (v.links i).ahead) (ups : l.toAgent = (v.links i).toAgent)
    (grid : l.agentGrid = (v.links i).agentGrid) (waiting : l.waiting = (v.links i).waiting)
    (ahead : ∀ j, v'.Current j → (v'.links j).ahead = [] ∨
      (v.Current j ∧ (v'.links j).ahead.Sublist (v.links j).ahead))
    (errors : v'.agentErrors = v.agentErrors) : v'.InOrder := by
  have hups : ∀ j, (v'.links j).toAgent = (v.links j).toAgent := View.same_put (·.toAgent) links ups
  have hgrid : ∀ j, (v'.links j).agentGrid = (v.links j).agentGrid :=
    View.same_put (·.agentGrid) links grid
  have hwait : ∀ j, (v'.links j).waiting = (v.links j).waiting :=
    View.same_put (·.waiting) links waiting
  -- nothing has been acknowledged in the generation that is entered
  have hempty : v'.cursorGen = v'.gen → v'.out.base = 0 := by
    intro heq
    rw [base]
    refine h.entering i current ?_
    rwa [← same, ← heq, cursorGen]
  have hlate : v.cursorGen ≠ v.gen := by
    obtain ⟨hlt, hle⟩ := ord.ahead_lt current mem
    omega
  refine ⟨?_, ?_, ?_, ?_, ?_, ?_, ?_, ?_, ?_, ?_, errors ▸ h.errors⟩
  · intro a ha
    rw [opened]
    exact h.opened a (attached ▸ ha)
  · intro j hj
    rw [opened]
    exact h.used j (hgrid j ▸ hj)
  · intro j hj
    rw [hups]
    exact h.unopened j (opened ▸ hj)
  · intro j k hjk
    rw [hups, hups]
    exact h.stamps j k hjk
  · intro j hj hor
    rw [hgrid, hwait] at hor
    rcases ahead j hj with hnil | ⟨hcur, hsub⟩
    · exact hnil
    · exact List.sublist_nil.mp (h.idle j hcur hor ▸ hsub)
  · intro j hj _ u hu
    rw [attached, hwait] at hj
    rcases hj with hlt | ⟨hatt, hw⟩
    · have hlt := hlt i (hgrid i ▸ (h.emitted current mem).1)
      simp only [View.Current] at current
      rw [hups, h.unopened j (by omega)] at hu
      cases hu
    · rw [h.not_waiting ord current mem hatt] at hw
      cases hw
  · intro j hj hw
    rw [attached] at hj
    refine .inl ?_
    rcases h.waited j hj (hwait j ▸ hw) with hlatest | heq
    · exact fun k hk => hlatest k (hgrid k ▸ hk)
    · exact absurd heq hlate
  · intro j hj hmem
    rw [base]
    rcases ahead j hj with hnil | ⟨hcur, hsub⟩
    · rw [hnil] at hmem
      cases hmem
    · exact h.entering j hcur (hsub.subset (same ▸ hmem))
  · intro heq
    rw [hempty heq]
    exact Nat.zero_le _
  · intro heq j _ u _ _
    rw [hempty heq]
    exact Nat.zero_le _

/-- A connection the client opened no earlier has attached. -/
def View.Late (v : View) (i : Nat) : Prop := ∃ j < v.opened, i ≤ j ∧ (v.links j).agentGrid.isSome

/-- A connection that is not late comes after all that have attached. -/
lemma View.InOrder.late (h : v.InOrder) {i : Nat} (intime : ¬v.Late i) : v.Next i := fun j hj =>
  Nat.lt_of_not_le fun hle => intime ⟨j, h.used j hj, hle, hj⟩

/-- Offsets fit 64 bits, and what a late Resume names the ring still holds: the offset it is to be
replayed from, or the generation the snapshot comes after. -/
def Orderly (v : View) (m : Mark) : Prop :=
  ∀ i snapshot, m = .resume i snapshot → v.agentLog.length < 2 ^ 64 ∧
    (v.Late i → ∀ up ∈ (v.links i).toAgent.head?, ∀ gen off, up.said = .resume gen off →
      if snapshot then up.gen = v.gen else v.out.base ≤ off)

/-- A harmless error is not one of a client behind the ring. -/
lemma not_mem_noted {e : SessionError} {errors noted : List SessionError} (h : e ∉ noted)
    (new : e ∉ errors) : e ∉ errors ++ noted := by
  simp [h, new]

/-- No frame is turned away for being behind the buffer. -/
lemma Face.hears_not_behind {f : Face} {said : Said} {out : Except SessionError IncomingEvent × Face}
    (h : f.Hears said out) : errorOf out.1 ≠ some (.stream .peerBehindBuffer) := by
  have hack : ∀ {a : Nat} {e : StreamError}, f.applyAck a = .error e → e = .ackBeyondSent :=
    fun herr => (SendBuffer.acknowledge_error (Face.applyAck_error herr).2).1
  cases h with
  | data =>
    unfold Face.hearData
    split
    · next e herr =>
      rw [hack herr]
      simp [errorOf]
    · unfold Face.deliver
      split
      · next e herr =>
        rw [(ReceiveCursor.receive_error herr).1]
        simp [errorOf]
      · simp [errorOf]
  | ack =>
    unfold Face.hearAck
    split
    · next e herr =>
      rw [hack herr]
      simp [errorOf]
    · simp [errorOf]
  | _ => simp [errorOf]

/-- A new connection has nothing on it. -/
lemma View.InOrder.clientOpen (h : v.InOrder) :
    (View.putLink { v with opened := v.opened + 1 } v.opened .unused).InOrder := by
  have hself : (View.putLink { v with opened := v.opened + 1 } v.opened .unused).links v.opened =
      .unused := View.links_putLink_self ..
  have hother : ∀ j, j ≠ v.opened →
      (View.putLink { v with opened := v.opened + 1 } v.opened .unused).links j = v.links j :=
    fun j hj => View.links_putLink_of_ne hj
  have hups : ∀ j, ∀ u ∈ ((View.putLink { v with opened := v.opened + 1 } v.opened
      .unused).links j).toAgent, u ∈ (v.links j).toAgent ∧ j ≠ v.opened := by
    intro j u hu
    by_cases hj : j = v.opened
    · rw [hj, hself] at hu
      cases hu
    · exact ⟨hother j hj ▸ hu, hj⟩
  have hcur : ∀ j, (View.putLink { v with opened := v.opened + 1 } v.opened .unused).Current j →
      j = v.opened := fun j hj => (Nat.succ.inj hj).symm
  have hnext : ∀ j, (View.putLink { v with opened := v.opened + 1 } v.opened .unused).Next j →
      v.Next j := by
    intro j hj k hk
    refine hj k ?_
    rwa [hother k (h.used k hk).ne]
  refine ⟨fun a ha => Nat.lt_succ_of_lt (h.opened a ha), ?_, ?_, ?_, ?_, ?_, ?_, ?_, h.base, ?_,
    h.errors⟩
  · intro j hj
    by_cases hij : j = v.opened
    · rw [hij, hself] at hj
      cases hj
    · exact Nat.lt_succ_of_lt (h.used j (hother j hij ▸ hj))
  · intro j hj
    have hj : v.opened + 1 ≤ j := hj
    rw [hother j (by omega)]
    exact h.unopened j (by omega)
  · intro j k hjk u hu w hw
    exact h.stamps j k hjk u (hups j u hu).1 w (hups k w hw).1
  · intro j hj _
    rw [hcur j hj, hself]
    rfl
  · intro j hj heq u hu
    obtain ⟨hmem, hne⟩ := hups j u hu
    rw [hother j hne] at hj
    exact h.untouched j (hj.imp_left (hnext j)) heq u hmem
  · intro j hj hw
    rw [hother j (h.opened j hj).ne] at hw
    refine (h.waited j hj hw).imp_left fun hlatest k hk => ?_
    by_cases hk' : k = v.opened
    · rw [hk', hself] at hk
      cases hk
    · exact hlatest k (hother k hk' ▸ hk)
  · intro j hj hmem
    rw [hcur j hj, hself] at hmem
    cases hmem
  · intro heq j hj u hu
    exact h.next heq j (hnext j hj) u (hups j u hu).1

/-- The base moves to a position of a connection that has attached, if at all. -/
lemma View.InOrder.hears_base (h : v.InOrder) (ord : v.Ordered cfg) (stored : v.Stored) {i : Nat}
    {up : Up} {rest : List Up} {g : GridState} {out : Except SessionError IncomingEvent × Face}
    (head : (v.links i).toAgent = up :: rest) (holder : v.Holder i)
    (alive : (v.links i).agentDead = false) (grid : (v.links i).agentGrid = some g)
    (hears : (v.agentFace g).Hears up.said out) :
    out.2.sendBuf.base = v.out.base ∨
      (∃ a up, (v.links a).agentGrid.isSome ∧ up ∈ (v.links a).toAgent ∧ up.gen = v.gen ∧
        out.2.sendBuf.base ≤ max v.out.base up.pos) ∨
      (v.cursorGen ≠ v.gen ∧ ∀ j, v.Current j → v.gen ∉ (v.links j).ahead) := by
  have hmem : up ∈ (v.links i).toAgent := head ▸ List.mem_cons_self
  have hgrid : (v.links i).agentGrid.isSome := by rw [grid]; rfl
  rcases Face.hears_acknowledge hears with ⟨hbuf, -⟩ | ⟨hfree, a, hsaid, hcases⟩
  · exact .inl (congrArg SendBuffer.base hbuf)
  rcases hcases with ⟨b, hack, rfl, -⟩ | ⟨e, -, hface, -⟩
  · obtain ⟨rfl, -⟩ := ((ord.link i).ups up hmem).2.2.ack_eq hsaid
    obtain ⟨hb, -⟩ := SendBuffer.acknowledge_ok hack stored.out.base_le
    have hle : out.2.sendBuf.base ≤ max v.out.base up.pos := by
      rw [hb]
      exact max_le_max le_rfl (Nat.mod_le _ _)
    cases hwait : (v.links i).waiting with
    | false =>
      exact .inr (.inl ⟨i, up, hgrid, hmem, ord.heard holder alive grid hfree hwait up hmem, hle⟩)
    | true =>
      by_cases heq : v.cursorGen = v.gen
      · exact .inr (.inl ⟨i, up, hgrid, hmem, h.untouched i (.inr ⟨holder.2, hwait⟩) heq up hmem, hle⟩)
      · refine .inr (.inr ⟨heq, fun j hj hgen => ?_⟩)
        rw [h.not_waiting ord hj hgen holder.2] at hwait
        cases hwait
  · exact .inl (by rw [hface]; rfl)

/-- Every move keeps the order of Resumes, when no late one asks for what the ring has dropped. -/
theorem View.InOrder.move (h : v.InOrder) (ord : v.Ordered cfg) (stored : v.Stored)
    (fits : GenFits v m) (orderly : Orderly v m) (hmove : Move cfg v m v') : v'.InOrder := by
  have ahead := fun hm j hj => ord.ahead_move (i := j) hmove hm hj
  have keep : ∀ {w : View}, w.links = v.links → Function.update v.links 0 (v.links 0) = w.links :=
    fun hw => (Function.update_eq_self ..).trans hw.symm
  have old : ∀ {i : Nat}, ∀ u ∈ (v.links i).toAgent, u ∈ (v.links i).toAgent ∨
      (v.Current i ∧ u.gen = v.cursorGen ∧ u.pos = v.clientInp.recvOffset) := fun u hu => .inl hu
  have popped : ∀ {i : Nat} {up : Up} {rest : List Up}, (v.links i).toAgent = up :: rest →
      ∀ u ∈ rest, u ∈ (v.links i).toAgent ∨
        (v.Current i ∧ u.gen = v.cursorGen ∧ u.pos = v.clientInp.recvOffset) :=
    fun head u hu => .inl (head ▸ List.mem_cons_of_mem _ hu)
  have sent : ∀ {i : Nat}, v.Current i → ∀ said, ∀ u ∈ (v.links i).toAgent ++
      [Up.mk said v.cursorGen v.clientInp.ackOffset], u ∈ (v.links i).toAgent ∨
        (v.Current i ∧ u.gen = v.cursorGen ∧ u.pos = v.clientInp.recvOffset) := by
    intro i hcur said u hu
    rcases List.mem_append.mp hu with hu | hu
    · exact .inl hu
    · obtain rfl := List.mem_singleton.mp hu
      exact .inr ⟨hcur, rfl, ord.pos_eq⟩
  have harmless_noted : ∀ {errors : List SessionError}, (∀ e ∈ errors, e.Harmless) →
      SessionError.stream .peerBehindBuffer ∉ errors ++ v.agentErrors := by
    intro errors harmless hmem
    rcases List.mem_append.mp hmem with hmem | hmem
    · exact (harmless _ hmem).2.2 rfl
    · exact h.errors hmem
  cases hmove with
  | agentQuiet i dead errors alive harmless =>
    exact h.put ord rfl rfl rfl rfl rfl le_rfl old rfl rfl (ahead (by simp)) (.inl rfl)
      (harmless_noted harmless)
  | clientQuiet i dead errors alive harmless =>
    exact h.put ord rfl rfl rfl rfl rfl le_rfl old rfl rfl (ahead (by simp)) (.inl rfl) h.errors
  | clientOpen =>
    exact h.clientOpen
  | route i _ _ _ _ =>
    exact h.put ord rfl rfl rfl rfl rfl le_rfl old rfl rfl (ahead (by simp)) (.inl rfl) h.errors
  | completeHandshake i a _ =>
    exact h.put ord rfl rfl rfl rfl rfl le_rfl old rfl rfl (ahead (by simp)) (.inl rfl) h.errors
  | resumeRefused i a e _ _ _ =>
    exact h.put ord rfl rfl rfl rfl rfl le_rfl old rfl rfl (ahead (by simp)) (.inl rfl) h.errors
  | resumeStuck i a e b _ _ _ _ =>
    exact h.put ord rfl rfl rfl rfl rfl le_rfl old rfl rfl (ahead (by simp)) (.inl rfl) h.errors
  | resumeSent i a b gen current _ _ gen_eq =>
    exact h.put ord rfl rfl rfl rfl rfl le_rfl (sent current _) rfl rfl (ahead (by simp)) (.inl rfl)
      h.errors
  | agentTurned i up rest errors head harmless =>
    exact h.put ord rfl rfl rfl rfl rfl le_rfl (popped head) rfl rfl (ahead (by simp)) (.inl rfl)
      (harmless_noted harmless)
  | agentRejected i gen off up rest e held head said known replay attach less =>
    refine h.put ord rfl rfl rfl rfl rfl le_rfl (popped head) rfl rfl (ahead (by simp)) (.inl rfl) ?_
    rintro (_ | ⟨_, hmem⟩)
    · obtain ⟨hlen, hlate⟩ := orderly i false rfl
      have hlt : off < v.out.base := by
        rcases SendBuffer.resetSendNext_error attach with ⟨hne, -⟩ | ⟨-, hlt⟩
        · cases hne
        · exact hlt
      have horder : v.Next i := h.late fun late => by
        have hheld := hlate late up (by rw [head]; rfl) gen off said
        simp only [Bool.false_eq_true, if_false] at hheld
        omega
      -- the Resume is the next in order, so its offset is still in the ring
      obtain ⟨heq, hall⟩ := ord.replayed head said fun hcap => (replay hcap).1
      have hmem : up ∈ (v.links i).toAgent := head ▸ List.mem_cons_self
      have hgen := hall up List.mem_cons_self
      have hbase := h.next heq i horder up hmem hgen
      have hpos := (ord.up_le hmem).2 (hgen.trans heq.symm)
      have hheld := ord.held heq
      have honest := ((ord.link i).ups up hmem).2.2
      simp only [Up.Honest, said] at honest
      have hmod : up.pos % 256 ^ 8 = up.pos := Nat.mod_eq_of_lt (by omega)
      omega
    · exact h.errors hmem
  | pathA i gen off up rest b head said first alive known replay attach =>
    obtain ⟨-, hall⟩ := ord.replayed head said fun hcap => (replay hcap).1
    have honest := ((ord.link i).ups up (head ▸ List.mem_cons_self)).2.2
    simp only [Up.Honest, said] at honest
    obtain ⟨rfl, -, -⟩ := SendBuffer.resetSendNext_ok attach
    refine h.attach ord rfl rfl rfl rfl rfl rfl head rfl first.1 rfl
      (.inr (hall up List.mem_cons_self)) (ahead (by simp)) ?_ rfl
    exact .inr ⟨hall up List.mem_cons_self, honest.2.le.trans (Nat.mod_le _ _)⟩
  | pathB i gen off up rest head said first alive known capable =>
    obtain ⟨-, hlate⟩ := orderly i true rfl
    -- the Resume comes in order, or in the generation that the ring is in
    have order : v.Next i ∨ up.gen = v.gen := by
      by_cases late : v.Late i
      · exact .inr (hlate late up (by rw [head]; rfl) gen off said)
      · exact .inl (h.late late)
    exact h.attach ord rfl rfl rfl rfl rfl rfl head rfl first.1 rfl order (ahead (by simp)) (.inl rfl) rfl
  | agentHears i up rest g out head holder alive grid hears =>
    obtain ⟨base, next, hbuf⟩ := Face.hears_buffer hears
    refine h.put ord rfl (by simp only [View.gen, View.putLink, hbuf]; rfl) rfl rfl rfl le_rfl
      (popped head) (by rw [grid]; rfl) rfl (ahead (by simp))
      (h.hears_base ord stored head holder alive grid hears) ?_
    intro hmem
    rcases List.mem_append.mp hmem with hmem | hmem
    · exact Face.hears_not_behind hears (by simpa using hmem)
    · exact h.errors hmem
  | agentSays i g said f holder grid speech =>
    obtain ⟨⟨next, hbuf⟩, -⟩ := Face.says_buffer speech
    refine h.put ord rfl (by simp only [View.gen, View.putLink, hbuf]; rfl) rfl rfl rfl le_rfl
      old (by rw [grid]; rfl) rfl (ahead (by simp)) (.inl ?_) h.errors
    simp only [View.putLink, hbuf]
    rfl
  | supplied i g g' holder waiting grid start =>
    exact h.supplied ord rfl (View.gen_newGeneration (fits rfl)) rfl rfl holder.2 rfl rfl rfl
      (by rw [grid]; rfl) rfl rfl rfl
  | released =>
    exact h.put ord (keep rfl).symm rfl rfl rfl rfl le_rfl old rfl rfl (ahead (by simp)) (.inl rfl)
      h.errors
  | inputDelivered =>
    exact h.put ord (keep rfl).symm rfl rfl rfl rfl le_rfl old rfl rfl (ahead (by simp)) (.inl rfl)
      h.errors
  | inputRejected =>
    exact h.put ord (keep rfl).symm rfl rfl rfl rfl le_rfl old rfl rfl (ahead (by simp)) (.inl rfl)
      h.errors
  | clientTurned i down rest errors current head _ =>
    exact h.put ord rfl rfl rfl rfl rfl le_rfl old rfl rfl (ahead (by simp)) (.inl rfl) h.errors
  | clientHears i down rest g out current head alive grid hears =>
    have hahead := ahead (by simp)
    rcases Face.hears_client hears ((ord.link i).clientGrid g grid).1 with
      ⟨hsnap, -, -, -, hrecv⟩ | ⟨r, hr, hsnap, -, -⟩
    · rw [hsnap] at hahead ⊢
      refine h.put ord rfl rfl rfl rfl rfl ?_ old rfl rfl hahead (.inl rfl) h.errors
      rcases hrecv with heq | ⟨a, o, p, bytes, -, hrec⟩
      · exact (congrArg ReceiveCursor.recvOffset heq).ge
      · exact (le_max_left _ _).trans (ReceiveCursor.receive_recvOffset hrec).ge
    · -- the snapshot is whole, and the client enters its generation
      rw [hsnap] at hahead ⊢
      have hmem : r.streamGen ∈ (v.links i).ahead := by
        have : g.receiving = some r := hr
        simp [LinkView.ahead, LinkView.receiving, grid, this]
      exact h.enter ord rfl rfl rfl rfl rfl rfl current hmem rfl rfl rfl hahead rfl
  | clientSays i g said f current grid speech =>
    obtain ⟨-, hinp⟩ := Face.says_buffer speech
    exact h.put ord rfl rfl rfl rfl rfl (congrArg ReceiveCursor.recvOffset hinp).ge
      (sent current said) rfl rfl (ahead (by simp)) (.inl rfl) h.errors
  | confirmApply i gen applied current pending applied_eq =>
    exact h.put ord rfl rfl rfl rfl rfl le_rfl old rfl rfl (ahead (by simp)) (.inl rfl) h.errors
  | denyApply i =>
    exact h.put ord rfl rfl rfl rfl rfl le_rfl old rfl rfl (ahead (by simp)) (.inl rfl) h.errors
  | clientWrite w =>
    exact h.put ord (keep rfl).symm rfl rfl rfl rfl le_rfl old rfl rfl (ahead (by simp)) (.inl rfl)
      h.errors
  | agentWrite w =>
    exact h.put ord (keep rfl).symm (SendBuffer.append_sessionGen ..) rfl rfl rfl le_rfl old rfl rfl
      (ahead (by simp)) (.inl (SendBuffer.append_base ..)) h.errors
  | agentOverflow w =>
    exact h.put ord (keep rfl).symm (SendBuffer.append_sessionGen ..) rfl rfl rfl le_rfl old rfl rfl
      (ahead (by simp)) (.inl (SendBuffer.append_base ..)) h.errors
  | agentDropped =>
    exact h.put ord (keep rfl).symm rfl rfl rfl rfl le_rfl old rfl rfl (ahead (by simp)) (.inl rfl)
      h.errors

/-- No connection opened after the one that attached last has attached. -/
def View.Newest (v : View) : Prop :=
  ∀ j, (v.links j).agentGrid.isSome → ∃ a, v.attached = some a ∧ j ≤ a

/-- Every move keeps it, when Resumes are taken in the order of their connections. -/
lemma View.Newest.move (h : v.Newest) (order : ∀ i snapshot, m = .resume i snapshot →
    ∀ a, v.attached = some a → a < i) (hmove : Move cfg v m v') : v'.Newest := by
  have same : ∀ {w : View} {i : Nat} {l : LinkView}, w.attached = v.attached → w.links = v.links →
      (l.agentGrid.isSome → (v.links i).agentGrid.isSome) → (w.putLink i l).Newest := by
    intro w i l hatt hlinks hl j hj
    rw [show (w.putLink i l).attached = v.attached from hatt]
    by_cases hji : j = i
    · rw [hji, View.links_putLink_self] at hj
      exact hji ▸ h i (hl hj)
    · rw [View.links_putLink_of_ne hji, hlinks] at hj
      exact h j hj
  have attach : ∀ {w : View} {i : Nat} {l : LinkView} {snapshot : Bool}, m = .resume i snapshot →
      w.attached = some i → w.links = v.links → (w.putLink i l).Newest := by
    intro w i l snapshot hm hatt hlinks j hj
    refine ⟨i, hatt, ?_⟩
    by_cases hji : j = i
    · exact hji.le
    · rw [View.links_putLink_of_ne hji, hlinks] at hj
      obtain ⟨a, ha, hle⟩ := h j hj
      exact hle.trans (order i snapshot hm a ha).le
  cases hmove with
  | clientOpen => exact same rfl rfl nofun
  | pathA => exact attach rfl rfl rfl
  | pathB => exact attach rfl rfl rfl
  | agentHears i up rest g out _ _ _ grid => exact same rfl rfl fun _ => by rw [grid]; rfl
  | agentSays i g said f _ grid => exact same rfl rfl fun _ => by rw [grid]; rfl
  | supplied i g g' _ _ grid => exact same rfl rfl fun _ => by rw [grid]; rfl
  | released => exact h
  | inputDelivered => exact h
  | inputRejected => exact h
  | clientWrite => exact h
  | agentWrite => exact h
  | agentOverflow => exact h
  | agentDropped => exact h
  | _ => exact same rfl rfl id

/-- Where Resumes are taken in the order of their connections, none is late. -/
lemma View.Newest.orderly (h : v.Newest) (order : ∀ i snapshot, m = .resume i snapshot →
    (∀ a, v.attached = some a → a < i) ∧ v.agentLog.length < 2 ^ 64) : Orderly v m := by
  intro i snapshot hm
  obtain ⟨hlater, hlen⟩ := order i snapshot hm
  refine ⟨hlen, ?_⟩
  rintro ⟨j, -, hij, hgrid⟩
  obtain ⟨a, ha, hle⟩ := h j hgrid
  have := hlater a ha
  omega

end

section
variable {K : Type}

/-- A session that ended for a client behind its ring, ended with that error. -/
def State.Blamed (s : State K) : Prop :=
  s.agent.streams.reapReason = some .peerBehindBuffer →
    .stream .peerBehindBuffer ∈ s.agentErrors

/-- A connection the client opened no earlier has attached. -/
def State.Late (s : State K) (i : Nat) : Prop :=
  ∃ j < s.opened, i ≤ j ∧ (s.links j).agent.any (·.channel.isSome) = true

instance (s : State K) (i : Nat) : Decidable (s.Late i) :=
  inferInstanceAs (Decidable (∃ j < s.opened, i ≤ j ∧ (s.links j).agent.any (·.channel.isSome) = true))

/-- Resumes are taken in the order the client opened their connections; what is counted fits the
widths it is counted in. -/
def State.ResumesInOrder (s : State K) : Action → Prop
  | .agentFrame i _ => ∀ c ∈ (s.links i).agent, c.stage = .awaitResume →
      (∀ a ∈ s.attached, a < i) ∧ s.agentLog.length < 2 ^ 64
  | .supplySnapshot .. => s.agent.streams.output.sessionGen + 1 < 2 ^ 32
  | _ => True

instance (s : State K) (a : Action) : Decidable (s.ResumesInOrder a) :=
  match a with
  | .agentFrame i _ => inferInstanceAs (Decidable (∀ c ∈ (s.links i).agent, c.stage = .awaitResume →
      (∀ a ∈ s.attached, a < i) ∧ s.agentLog.length < 2 ^ 64))
  | .supplySnapshot .. => inferInstanceAs (Decidable (s.agent.streams.output.sessionGen + 1 < 2 ^ 32))
  | .clientOpen .. | .route .. | .completeHandshake .. | .sendResume .. | .agentIdle ..
  | .agentClose .. | .clientFrame .. | .clientIdle .. | .confirmApply .. | .denyApply ..
  | .queueResize .. | .clientClose .. | .clientWrite .. | .agentWrite .. | .inputDelivered ..
  | .inputRejected .. | .endSession .. | .agentTimer .. | .agentGates .. | .clientGates .. => .isTrue trivial

/-- The blame stays where the reason does, or where there is none. -/
lemma State.Blamed.keep {s s' : State K} (h : s.Blamed)
    (reason : s'.agent.streams.reapReason = s.agent.streams.reapReason ∨
      s'.agent.streams.reapReason ≠ some .peerBehindBuffer)
    (errors : s.agentErrors ⊆ s'.agentErrors) : s'.Blamed := by
  intro hreason
  rcases reason with heq | hne
  · exact errors (h (heq ▸ hreason))
  · exact absurd hreason hne

/-- A reason is never replaced. -/
lemma reap_reason (a : StreamState) (e : StreamError) :
    (a.reap e).reapReason = a.reapReason ∨ (a.reap e).reapReason = some e := by
  unfold StreamState.reap
  split
  · exact .inl rfl
  · exact .inr rfl

/-- Detaching gives none. -/
lemma detach_reason (a : StreamState) (handle : Nat) (now : Timestamp) :
    (a.detach handle now).reapReason = a.reapReason := by
  unfold StreamState.detach
  split <;> rfl

/-- Closing a connection gives none. -/
lemma close_reason (c : AgentConnection K) (a : AgentSession K) (now : Timestamp) :
    (c.close a now).streams.reapReason = a.streams.reapReason := by
  unfold AgentConnection.close
  split
  · exact detach_reason ..
  · rfl

/-- A write of the session is one of its streams. -/
lemma write_streams (a : AgentSession K) (bytes : Bytes) :
    (a.write bytes).2.streams = (a.streams.write bytes).2 := by
  simp only [AgentSession.write, AgentSession.endWith]
  split
  · split <;> rfl
  · rfl

/-- No error is forgotten. -/
lemma noted_subset {α : Type} (errors : List SessionError) (res : Except SessionError α) :
    errors ⊆ State.noted errors res := by
  cases res
  · exact List.subset_cons_self _ _
  · exact List.Subset.refl _

variable [DecidableEq K] {P : KeySchedule K} {cfg : Config} {s s' : State K}

/-- The Resume a frame carries to a connection that waits for one. -/
def resumeOf (P : KeySchedule K) (c : AgentConnection K) (frame : FrameView K) :
    Option ResumeMessage :=
  match c.openResume P frame with
  | .ok (plain, _, _) =>
    match parseMessageType plain with
    | .ok (.resume, body) => (parseResume c.negotiatedVersion body).toOption.map Prod.fst
    | _ => none
  | .error _ => none

/-- A Resume that opened and parsed is the one the frame carries. -/
lemma resumeOf_eq {c : AgentConnection K} {frame : FrameView K} {used : ResumeKeys}
    {chosen : DirectionFrames K} {message : ResumeMessage}
    (h : c.Resumes P frame used chosen message) : resumeOf P c frame = some message := by
  obtain ⟨body, rest, htype, hresume⟩ := h.parsed
  simp [resumeOf, h.opened, htype, hresume, Except.toOption]

/-- What a late Resume asks for is there: the ring holds the offset it is replayed from, or is still in
the generation it was sealed in, if a snapshot answers it. What is counted fits the widths it is counted
in. -/
def State.ResumesHeld (P : KeySchedule K) (s : State K) : Action → Prop
  | .agentFrame i _ => ∀ c ∈ (s.links i).agent, c.stage = .awaitResume →
      s.agentLog.length < 2 ^ 64 ∧
        (s.Late i → ∀ up ∈ (s.links i).toAgent.head?, ∀ message ∈ resumeOf P c up.frame,
          if c.usePathB s.agent message then up.gen = s.agent.streams.output.sessionGen
          else s.agent.streams.output.base ≤ message.clientReceiveOffset)
  | .supplySnapshot .. => s.agent.streams.output.sessionGen + 1 < 2 ^ 32
  | _ => True

instance (P : KeySchedule K) (s : State K) (a : Action) : Decidable (s.ResumesHeld P a) :=
  match a with
  | .agentFrame i _ => inferInstanceAs (Decidable (∀ c ∈ (s.links i).agent, c.stage = .awaitResume →
      s.agentLog.length < 2 ^ 64 ∧
        (s.Late i → ∀ up ∈ (s.links i).toAgent.head?, ∀ message ∈ resumeOf P c up.frame,
          if c.usePathB s.agent message then up.gen = s.agent.streams.output.sessionGen
          else s.agent.streams.output.base ≤ message.clientReceiveOffset)))
  | .supplySnapshot .. => inferInstanceAs (Decidable (s.agent.streams.output.sessionGen + 1 < 2 ^ 32))
  | .clientOpen .. | .route .. | .completeHandshake .. | .sendResume .. | .agentIdle ..
  | .agentClose .. | .clientFrame .. | .clientIdle .. | .confirmApply .. | .denyApply ..
  | .queueResize .. | .clientClose .. | .clientWrite .. | .agentWrite .. | .inputDelivered ..
  | .inputRejected .. | .endSession .. | .agentTimer .. | .agentGates .. | .clientGates .. => .isTrue trivial

/-- What a frame does to the reason, it says. -/
lemma Coherent.frame_reason (coh : Coherent cfg s) (P : KeySchedule K) (now : Timestamp)
    (frame : FrameView K) {i : Nat} {c : AgentConnection K} (hc : (s.links i).agent = some c)
    (hfail : c.failed = none) :
    (c.onFrame P s.agent now frame).2.2.streams.reapReason = s.agent.streams.reapReason ∨
      ∃ e, (c.onFrame P s.agent now frame).2.2.streams.reapReason = some e ∧
        (c.onFrame P s.agent now frame).1 = .error (.stream e) := by
  rcases AgentConnection.onFrame_cases P s.agent now frame hfail with
    turned | ⟨used, chosen, message, resumes, heq⟩ | ⟨f, out, carried⟩
  · rw [turned.session]
    exact .inl rfl
  · rw [heq]
    obtain ⟨-, hcur, hfb⟩ := (coh.agentEnd i c hc).terms hfail resumes.stage
    have hresumed := AgentConnection.resume_cases P s.agent now used message hfail
      (openResume_role resumes.opened hcur hfb)
    cases hresumed with
    | unknown turned =>
      rw [turned.session]
      exact .inl rfl
    | refused confirmed turned =>
      obtain ⟨_, _, rfl⟩ := confirmResume_rest confirmed
      rw [turned.session]
      exact .inl rfl
    | rejected confirmed _ _ _ _ session _ _ _ result =>
      obtain ⟨_, _, rfl⟩ := confirmResume_rest confirmed
      rcases session with hsame | ⟨-, hkill⟩
      · rw [hsame]
        exact .inl rfl
      · rw [hkill]
        rcases reap_reason _ _ with hkept | hnew
        · exact .inl hkept
        · exact .inr ⟨_, hnew, result⟩
    | pathA confirmed _ _ _ _ session =>
      obtain ⟨_, _, rfl⟩ := confirmResume_rest confirmed
      rw [session]
      exact .inl rfl
    | pathB confirmed _ _ _ session =>
      obtain ⟨_, _, rfl⟩ := confirmResume_rest confirmed
      rw [session]
      exact .inl rfl
  · rw [carried.streams]
    exact .inl rfl

/-- Every step keeps the blame. -/
lemma State.Blamed.step {a : Action} (h : s.Blamed) (coh : Coherent cfg s)
    (hstep : s.step P cfg a = some s') : s'.Blamed := by
  have client : ∀ {i : Nat} {l : Link K} {res : ClientConnection.Pumped K},
      (s.clientReturns i l res).Blamed := by
    intro i l res
    rw [State.clientReturns_eq]
    exact h
  have dropped : ∀ now, (s.dropClient now).Blamed := by
    intro now
    obtain ⟨streams, -, -, -, heq⟩ := dropClient_rest s now
    rw [heq]
    exact h
  cases a with
  | clientOpen clientNonce serverNonce snapshotBuf now =>
    cases hstep
    exact dropped now
  | route i now =>
    simp only [State.step] at hstep
    split at hstep
    · cases hstep
      exact h
    · cases hstep
  | completeHandshake i =>
    obtain ⟨c, res, hc, -, hres, rfl⟩ := State.step_completeHandshake hstep
    unfold AgentConnection.completeHandshake at hres
    split at hres
    · cases hres
      exact h
    · cases hres
  | sendResume now out =>
    obtain ⟨i, offset, -, -, -, rfl⟩ := State.step_sendResume hstep
    exact client
  | agentFrame i now =>
    obtain ⟨c, up, rest, hc, hfail, -, -, rfl⟩ := State.step_agentFrame hstep
    rw [State.agentReturns_eq]
    rcases coh.frame_reason P now up.frame hc hfail with
      hsame | ⟨e, hreason, herr⟩
    · exact h.keep (.inl hsame) (noted_subset _ _)
    · intro hpeer
      have hpeer : (c.onFrame P s.agent now up.frame).2.2.streams.reapReason =
          some .peerBehindBuffer := hpeer
      rw [hreason] at hpeer
      cases hpeer
      simp [State.putLink, herr, State.noted]
  | agentIdle i now out scratch =>
    obtain ⟨c, hc, hfail, rfl⟩ := State.step_agentIdle hstep
    rw [State.agentReturns_eq]
    refine h.keep (.inl ?_) (noted_subset _ _)
    rcases AgentConnection.onIdle_cases P s.agent now out scratch hfail with
      quiet | ⟨f, m, f', speaks⟩
    · exact congrArg StreamState.reapReason quiet.streams
    · exact (congrArg StreamState.reapReason speaks.streams).trans rfl
  | supplySnapshot i now snapshot scrollbackLen flags =>
    simp only [State.step, Option.bind_eq_bind, Option.bind_eq_some_iff] at hstep
    obtain ⟨c, hc, hstep⟩ := hstep
    cases hstep
    refine h.keep (.inl ?_) (List.Subset.refl _)
    rcases AgentConnection.supplySnapshot_cases c s.agent now snapshot scrollbackLen flags with
      ⟨hsame, -⟩ | supplied
    · exact congrArg (fun a : AgentSession K => a.streams.reapReason) hsame
    · exact (congrArg StreamState.reapReason supplied.streams).trans rfl
  | agentClose i now =>
    simp only [State.step, Option.bind_eq_bind, Option.bind_eq_some_iff] at hstep
    obtain ⟨c, hc, hstep⟩ := hstep
    cases hstep
    exact h.keep (.inl (close_reason ..)) (List.Subset.refl _)
  | clientFrame now =>
    obtain ⟨i, down, rest, -, -, -, -, rfl⟩ := State.step_clientFrame hstep
    exact client
  | clientIdle now out scratch =>
    obtain ⟨i, -, -, rfl⟩ := State.step_clientIdle hstep
    exact client
  | confirmApply gen =>
    simp only [State.step, Option.bind_eq_bind, Option.bind_eq_some_iff] at hstep
    obtain ⟨i, hi, hstep⟩ := hstep
    cases hstep
    exact h
  | denyApply gen =>
    simp only [State.step, Option.bind_eq_bind, Option.bind_eq_some_iff] at hstep
    obtain ⟨i, hi, hstep⟩ := hstep
    cases hstep
    exact h
  | queueResize size =>
    simp only [State.step, Option.bind_eq_bind, Option.bind_eq_some_iff] at hstep
    obtain ⟨i, hi, hstep⟩ := hstep
    cases hstep
    exact h
  | clientClose now =>
    cases hstep
    exact dropped now
  | clientWrite bytes =>
    simp only [State.step] at hstep
    split at hstep <;> cases hstep <;> exact h
  | agentWrite bytes =>
    have hreason : (s.agent.write bytes).2.streams.reapReason = s.agent.streams.reapReason ∨
        (s.agent.write bytes).2.streams.reapReason ≠ some .peerBehindBuffer := by
      rw [write_streams]
      have hwrote := StreamState.write_cases s.agent.streams bytes
      generalize s.agent.streams.write bytes = res at hwrote
      cases hwrote with
      | reaped =>
        rcases reap_reason s.agent.streams .disconnectBufferOverflow with hkept | hnew
        · exact .inl hkept
        · exact .inr (by simp [hnew])
      | _ => exact .inl rfl
    simp only [State.step] at hstep
    split at hstep
    · next taken agent heq =>
      cases hstep
      rw [heq] at hreason
      exact h.keep hreason (List.Subset.refl _)
    · next e agent heq =>
      cases hstep
      rw [heq] at hreason
      exact h.keep hreason (List.Subset.refl _)
  | inputDelivered count =>
    cases hstep
    exact h
  | inputRejected i count now =>
    simp only [State.step, Option.bind_eq_bind, Option.bind_eq_some_iff] at hstep
    obtain ⟨c, hc, hstep⟩ := hstep
    split at hstep
    · split at hstep
      · next agent heq =>
        cases hstep
        obtain ⟨-, rfl⟩ := Prod.mk.inj heq
        exact h.keep (.inl (close_reason ..)) (List.Subset.refl _)
      · next agent heq =>
        cases hstep
        obtain ⟨-, rfl⟩ := Prod.mk.inj heq
        exact h.keep (.inl (close_reason ..)) (List.Subset.refl _)
    · cases hstep
  | endSession message =>
    cases hstep
    exact h
  | agentTimer now =>
    cases hstep
    refine h.keep ?_ (List.Subset.refl _)
    simp only [AgentSession.onTimer, StreamState.onTimer]
    split
    · split
      · rcases reap_reason s.agent.streams .orphanTimeout with hkept | hnew
        · exact .inl hkept
        · exact .inr (by simp [hnew])
      · exact .inl rfl
    · exact .inl rfl
  | agentGates i sendOpen readOpen now =>
    cases hstep
    exact h
  | clientGates sendOpen readOpen now =>
    cases hstep
    unfold State.onClientChannel
    split <;> exact h

/-- What the first condition on steps comes to for moves. -/
lemma State.ResumesHeld.marked {a : Action} {m : Mark} (coh : Coherent cfg s) (h : s.ResumesHeld P a)
    (hm : m.Of P cfg s a) : GenFits (s.view cfg) m ∧ Orderly (s.view cfg) m := by
  constructor
  · rintro rfl
    obtain ⟨i, now, snapshot, scrollbackLen, flags, rfl⟩ := hm
    exact h
  · rintro i snapshot rfl
    obtain ⟨now, c, up, rest, used, chosen, message, rfl, hc, hfail, hup, resumes, rfl⟩ := hm
    obtain ⟨hlen, hlate⟩ := h c hc resumes.stage
    refine ⟨hlen, ?_⟩
    rintro ⟨j, hj, hij, hgrid⟩ u hu gen off said
    have hchan : ((s.links j).agent.any fun c => c.channel.isSome) = true := by
      cases hagent : (s.links j).agent with
      | none => simp [State.view, Link.view, hagent] at hgrid
      | some c => simpa [State.view, Link.view, hagent] using hgrid
    have late : s.Late i := ⟨j, hj, hij, hchan⟩
    have hheld := hlate late up (by rw [hup]; rfl) message (resumeOf_eq resumes)
    obtain rfl : up.view cfg.version = u := by simpa [State.view, Link.view, hup] using hu
    obtain ⟨rfl, rfl⟩ : message.streamGen = gen ∧ message.clientReceiveOffset = off := by
      simpa [coh.resume_said hc hfail resumes] using said
    exact hheld

/-- What the second one comes to. -/
lemma State.ResumesInOrder.marked {a : Action} {m : Mark} (h : s.ResumesInOrder a)
    (hm : m.Of P cfg s a) : GenFits (s.view cfg) m ∧ ∀ i snapshot, m = .resume i snapshot →
      (∀ a, (s.view cfg).attached = some a → a < i) ∧ (s.view cfg).agentLog.length < 2 ^ 64 := by
  constructor
  · rintro rfl
    obtain ⟨i, now, snapshot, scrollbackLen, flags, rfl⟩ := hm
    exact h
  · rintro i snapshot rfl
    obtain ⟨now, c, up, rest, used, chosen, message, rfl, hc, -, hup, resumes, -⟩ := hm
    exact h c hc resumes.stage

omit [DecidableEq K] in
/-- At the start no Resume is behind the ring. -/
lemma inOrder_start (seed : K) (agentStorage clientStorage : Bytes)
    (agentLimits clientLimits : SessionLimits) (now : Timestamp) :
    (State.view cfg
      (.start seed agentStorage clientStorage agentLimits clientLimits now)).InOrder where
  opened a ha := by cases ha
  used j hj := by cases hj
  unopened _ _ := rfl
  stamps i j _ u hu := by cases hu
  idle i hi := by cases hi
  untouched j _ _ u hu := by cases hu
  waited i hi := by cases hi
  entering i hi := by cases hi
  base _ := le_rfl
  next _ j _ u hu := by cases hu
  errors h := by cases h

omit [DecidableEq K] in
/-- At the start none has attached. -/
lemma newest_start (seed : K) (agentStorage clientStorage : Bytes)
    (agentLimits clientLimits : SessionLimits) (now : Timestamp) :
    (State.view cfg
      (.start seed agentStorage clientStorage agentLimits clientLimits now)).Newest := nofun

/-- However a run goes, an end for a client behind its ring is one of the errors. -/
lemma blamed_run {C : State K → Action → Prop} {seed : K} {agentStorage clientStorage : Bytes}
    {agentLimits clientLimits : SessionLimits} {now : Timestamp} {as : List Action} {t : State K}
    (run : Run (State.step P cfg) C
      (.start seed agentStorage clientStorage agentLimits clientLimits now) as t) : t.Blamed := by
  refine (run.inv (fun s => s.Blamed ∧ Coherent cfg s ∧ (s.view cfg).Stored) ?_
    ⟨fun h => (by cases h), .start .., stored_start ..⟩).1
  rintro s a s' ⟨hblame, hcoh, hstored⟩ - hstep
  obtain ⟨⟨m, -, hmove⟩, hcoh'⟩ := step_moves hcoh hstored hstep
  exact ⟨hblame.step hcoh hstep, hcoh', hstored.move hmove⟩

/-- As long as what late Resumes ask for is there, no Resume is behind the ring, and the session does not
end for one. In a run that takes its Resumes in order, none is late, and the session stays with the
newest connection that attached. -/
theorem session_outlives_resumes (seed : K) (agentStorage clientStorage : Bytes)
    (agentLimits clientLimits : SessionLimits) (now : Timestamp) {as : List Action} {t : State K} :
    (Run (State.step P cfg) (State.ResumesHeld P)
        (.start seed agentStorage clientStorage agentLimits clientLimits now) as t →
      .stream .peerBehindBuffer ∉ t.agentErrors ∧
        t.agent.streams.reapReason ≠ some .peerBehindBuffer) ∧
    (Run (State.step P cfg) State.ResumesInOrder
        (.start seed agentStorage clientStorage agentLimits clientLimits now) as t →
      .stream .peerBehindBuffer ∉ t.agentErrors ∧
        t.agent.streams.reapReason ≠ some .peerBehindBuffer ∧
        ∀ j c, (t.links j).agent = some c → c.channel.isSome → ∃ a, t.attached = some a ∧ j ≤ a) := by
  constructor
  · intro run
    obtain ⟨⟨-, hin⟩, -, -⟩ := run_inv (fun v => v.Ordered cfg ∧ v.InOrder)
      (fun v m => GenFits v m ∧ Orderly v m) (fun s a m coh hC hm => hC.marked coh hm)
      (fun v m v' stored inv hD hmove =>
        ⟨inv.1.move stored hD.1 hmove, inv.2.move inv.1 stored hD.1 hD.2 hmove⟩)
      run (.start ..) (stored_start ..) ⟨ordered_start .., inOrder_start ..⟩
    exact ⟨hin.errors, fun hreason => hin.errors (blamed_run run hreason)⟩
  · intro run
    obtain ⟨⟨-, hin, hnewest⟩, -, -⟩ := run_inv (fun v => v.Ordered cfg ∧ v.InOrder ∧ v.Newest)
      (fun v m => GenFits v m ∧ ∀ i snapshot, m = .resume i snapshot →
        (∀ a, v.attached = some a → a < i) ∧ v.agentLog.length < 2 ^ 64)
      (fun s a m _ hC hm => State.ResumesInOrder.marked hC hm)
      (fun v m v' stored inv hD hmove => ⟨inv.1.move stored hD.1 hmove,
        inv.2.1.move inv.1 stored hD.1 (inv.2.2.orderly hD.2) hmove,
        inv.2.2.move (fun i snapshot hm => (hD.2 i snapshot hm).1) hmove⟩)
      run (.start ..) (stored_start ..) ⟨ordered_start .., inOrder_start .., newest_start _ _ _ _ _ _⟩
    refine ⟨hin.errors, fun hreason => hin.errors (blamed_run run hreason), fun j c hc hchan => ?_⟩
    exact hnewest j (by simpa [State.view, Link.view, hc] using hchan)

/-- The Resume of an abandoned connection arrives after the next one has acknowledged a byte. -/
def lateResume : List Action :=
  sampleResume 0 0 ++ sampleResume 1 0 ++ [.agentFrame 1 0] ++ sampleByte 1 0 ++ sampleAck 1 0 ++
    [.agentFrame 0 ackIdleDelay]

/-- The session ends for it. -/
theorem late_resume_ends_session : ¬∀ as t, Run (State.step .counting sampleConfig) Anywhere
    sampleStart as t → t.agent.streams.reapReason ≠ some .peerBehindBuffer := by
  intro h
  have hreach : ((exec (State.step .counting sampleConfig) sampleStart lateResume).any
      fun t => decide (t.agent.streams.reapReason = some .peerBehindBuffer)) = true := by
    decide +kernel
  obtain ⟨t, ht, hreason⟩ := (Option.any_eq_true _ _).mp hreach
  exact h lateResume t (.of_exec ht) (of_decide_eq_true hreason)

/-- The client comes back after its acknowledgement has been taken. -/
def orderlyResume : List Action :=
  sampleResume 0 0 ++ [.agentFrame 0 0] ++ sampleByte 0 0 ++ sampleAck 0 0 ++
    sampleResume 1 ackIdleDelay ++ [.agentFrame 1 ackIdleDelay]

/-- The Resume of an abandoned connection arrives after the next one has attached, and nothing has been
acknowledged. -/
def heldResume : List Action :=
  sampleResume 0 0 ++ sampleResume 1 0 ++ [.agentFrame 1 0, .agentFrame 0 0]

/-- A late Resume that is held takes the session over; one in order goes on at its offset. -/
theorem session_outlives_resumes_sample :
    (∃ t, Run (State.step .counting sampleConfig) (State.ResumesHeld .counting) sampleStart heldResume t ∧
      t.attached = some 0 ∧ t.agent.streams.reapReason ≠ some .peerBehindBuffer) ∧
    ∃ t, Run (State.step .counting sampleConfig) State.ResumesInOrder sampleStart orderlyResume t ∧
      t.agent.streams.output.base = 1 ∧ t.attached = some 1 ∧
      t.agent.streams.reapReason ≠ some .peerBehindBuffer := by
  constructor
  · have hreach : ((exec (guarded (State.step .counting sampleConfig) (State.ResumesHeld .counting))
        sampleStart heldResume).any fun t => decide (t.attached = some 0)) = true := by
      decide +kernel
    obtain ⟨t, ht, hstate⟩ := (Option.any_eq_true _ _).mp hreach
    have run := Run.of_guarded ht
    exact ⟨t, run, of_decide_eq_true hstate, ((session_outlives_resumes 0 _ _ {} {} 0).1 run).2⟩
  · have hreach : ((exec (guarded (State.step .counting sampleConfig)
        State.ResumesInOrder) sampleStart orderlyResume).any fun t =>
          decide (t.agent.streams.output.base = 1 ∧ t.attached = some 1)) = true := by
      decide +kernel
    obtain ⟨t, ht, hstate⟩ := (Option.any_eq_true _ _).mp hreach
    have run := Run.of_guarded ht
    obtain ⟨hbase, hatt⟩ := of_decide_eq_true hstate
    exact ⟨t, run, hbase, hatt, ((session_outlives_resumes 0 _ _ {} {} 0).2 run).2.1⟩

end

end Zet.Net
