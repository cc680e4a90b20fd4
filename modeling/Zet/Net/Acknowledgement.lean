import Zet.Net.Generations

/-!
# What acknowledgements may trim

The ring drops what the client says it holds. `View.Trimmed` states that it drops no more: in the
generation of the ring the client holds every byte below `base`, and while the client still counts an
older one nothing has been dropped. A live connection applies only acknowledgements of the ring's own
generation (`Ordered.heard`). A connection that waits for its snapshot applies whatever it takes, so
there the runs are restricted to those in which it takes nothing stale.
-/

namespace Zet.Net
open Zet.Core Zet.Wire Zet.Lib Zet.Session

/-- The frame acknowledges output. -/
def Acknowledges (said : Said) : Prop :=
  match said with
  | .data .. | .ack _ => True
  | _ => False

instance : DecidablePred Acknowledges
  | .data .. | .ack _ => isTrue trivial
  | .resume .. | .gridBegin _ | .gridEnd | .gridApplied _ | .other => isFalse id

/-- No frame that acknowledges an older generation is taken by a connection that waits for its
snapshot. -/
def Unstale (v : View) (m : Mark) : Prop :=
  ∀ i up, m = .heard i up → (v.links i).waiting = true → Acknowledges up.said → up.gen = v.gen

/-- The ring has dropped nothing the client does not hold. -/
structure View.Trimmed (v : View) : Prop where
  base : 0 < v.out.base → v.cursorGen = v.gen ∧ v.out.base ≤ v.clientInp.recvOffset
  errors : .stream .ackBeyondSent ∉ v.agentErrors

section
variable {cfg : Config} {v v' : View} {m : Mark}

/-- A frame that will be applied was sealed in the ring's generation, unless the connection waits. -/
lemma View.Ordered.heard (h : v.Ordered cfg) {i : Nat} {g : GridState} (holder : v.Holder i)
    (alive : (v.links i).agentDead = false) (grid : (v.links i).agentGrid = some g)
    (free : g.awaitingApplied = false) (waiting : (v.links i).waiting = false) :
    ∀ u ∈ (v.links i).toAgent, u.gen = v.gen :=
  (((h.link i).holder holder alive g grid).2 free waiting).2

/-- A position of the ring's generation is one the client holds, and one the ring has reached. -/
lemma View.Ordered.position (h : v.Ordered cfg) (stored : v.Stored) {i : Nat} {up : Up}
    (mem : up ∈ (v.links i).toAgent) (gen : up.gen = v.gen) :
    v.cursorGen = v.gen ∧ up.pos % 256 ^ 8 ≤ v.clientInp.recvOffset ∧
      v.clientInp.recvOffset ≤ v.out.end_ := by
  obtain ⟨hle, hpos, -⟩ := (h.link i).ups up mem
  have hcursor := h.cursor_le
  simp only at hle hpos
  have heq : v.cursorGen = v.gen := by omega
  have hmod := Nat.mod_le up.pos (256 ^ 8)
  have hheld := h.held heq
  have hend := stored.out.end_eq
  have hpos := hpos (by omega)
  rw [h.pos_eq] at hpos
  exact ⟨heq, by omega, by omega⟩

/-- Nothing that is trimmed has changed, and no error of the streams is new. -/
lemma View.Trimmed.keep (h : v.Trimmed) (base : v'.out.base = v.out.base) (gen : v'.gen = v.gen)
    (cursorGen : v'.cursorGen = v.cursorGen) (clientInp : v'.clientInp = v.clientInp)
    {errors : List SessionError} (noted : v'.agentErrors = errors ++ v.agentErrors)
    (harmless : ∀ e ∈ errors, e.Harmless) : v'.Trimmed where
  base hpos := by
    rw [base] at hpos ⊢
    rw [cursorGen, gen, clientInp]
    exact h.base hpos
  errors hmem := by
    rw [noted] at hmem
    rcases List.mem_append.mp hmem with hmem | hmem
    · exact (harmless _ hmem).1 rfl
    · exact h.errors hmem

/-- What a frame acknowledges, if it moves the buffer or is turned away for it. -/
lemma Face.hears_acknowledge {f : Face} {said : Said}
    {out : Except SessionError IncomingEvent × Face} (h : f.Hears said out) :
    (out.2.sendBuf = f.sendBuf ∧ errorOf out.1 ≠ some (.stream .ackBeyondSent)) ∨
      (f.grid.awaitingApplied = false ∧ ∃ ack, (said = .ack ack ∨ ∃ o p, said = .data ack o p) ∧
        ((∃ b, f.sendBuf.acknowledge ack = .ok b ∧ out.2.sendBuf = b ∧
            errorOf out.1 ≠ some (.stream .ackBeyondSent)) ∨
          ∃ e, f.sendBuf.acknowledge ack = .error e ∧ out.2 = f ∧
            errorOf out.1 = some (.stream e))) := by
  cases h with
  | @data a o p free =>
    unfold Face.hearData
    split
    · next e hack =>
      obtain ⟨hfree, herr⟩ := Face.applyAck_error hack
      exact .inr ⟨hfree, a, .inr ⟨o, p, rfl⟩, .inr ⟨e, herr, rfl, rfl⟩⟩
    · next f' hack =>
      have hgap : errorOf (f'.deliver o p).1 ≠ some (.stream .ackBeyondSent) := by
        unfold Face.deliver
        split
        · next e herr =>
          rw [(ReceiveCursor.receive_error herr).1]
          simp [errorOf]
        · simp [errorOf]
      rw [Face.deliver_sendBuf]
      rcases Face.applyAck_ok hack with ⟨-, rfl⟩ | ⟨hfree, b, hb, rfl⟩
      · exact .inl ⟨rfl, hgap⟩
      · exact .inr ⟨hfree, a, .inr ⟨o, p, rfl⟩, .inl ⟨b, hb, rfl, hgap⟩⟩
  | @ack a =>
    unfold Face.hearAck
    split
    · next e hack =>
      obtain ⟨hfree, herr⟩ := Face.applyAck_error hack
      exact .inr ⟨hfree, a, .inl rfl, .inr ⟨e, herr, rfl, rfl⟩⟩
    · next f' hack =>
      rcases Face.applyAck_ok hack with ⟨-, rfl⟩ | ⟨hfree, b, hb, rfl⟩
      · exact .inl ⟨rfl, by simp [errorOf]⟩
      · exact .inr ⟨hfree, a, .inl rfl, .inl ⟨b, hb, rfl, by simp [errorOf]⟩⟩
  | rejected said e => exact .inl ⟨rfl, by simp [errorOf]⟩
  | _ => exact .inl ⟨rfl, by simp [errorOf]⟩

/-- An honest frame acknowledges its position. -/
lemma Up.Honest.ack_eq {u : Up} (h : u.Honest) {a : Nat}
    (said : u.said = .ack a ∨ ∃ o p, u.said = .data a o p) :
    a = u.pos % 256 ^ 8 ∧ Acknowledges u.said := by
  rcases said with hsaid | ⟨o, p, hsaid⟩ <;>
    · simp only [Up.Honest, hsaid] at h
      simp [hsaid, Acknowledges, h]

/-- Hearing a frame trims the ring to what the client holds. -/
lemma View.Trimmed.agentHears (h : v.Trimmed) (ord : v.Ordered cfg) (stored : v.Stored) {i : Nat}
    {up : Up} {rest : List Up} {g : GridState} {out : Except SessionError IncomingEvent × Face}
    (head : (v.links i).toAgent = up :: rest) (holder : v.Holder i)
    (alive : (v.links i).agentDead = false) (grid : (v.links i).agentGrid = some g)
    (hears : (v.agentFace g).Hears up.said out) (unstale : Unstale v (.heard i up)) :
    (0 < out.2.sendBuf.base →
      v.cursorGen = v.gen ∧ out.2.sendBuf.base ≤ v.clientInp.recvOffset) ∧
      errorOf out.1 ≠ some (.stream .ackBeyondSent) := by
  rcases Face.hears_acknowledge hears with ⟨hbuf, herr⟩ | ⟨hfree, a, hsaid, hcases⟩
  · rw [hbuf]
    exact ⟨h.base, herr⟩
  have hmem : up ∈ (v.links i).toAgent := head ▸ List.mem_cons_self
  obtain ⟨rfl, hacks⟩ := ((ord.link i).ups up hmem).2.2.ack_eq hsaid
  have hgen : up.gen = v.gen := by
    cases hwait : (v.links i).waiting with
    | false => exact ord.heard holder alive grid hfree hwait up hmem
    | true => exact unstale i up rfl hwait hacks
  obtain ⟨hcursor, hpos, hend⟩ := ord.position stored hmem hgen
  rcases hcases with ⟨b, hack, rfl, herr⟩ | ⟨e, hack, -, -⟩
  · refine ⟨fun hbase => ⟨hcursor, ?_⟩, herr⟩
    obtain ⟨hb, -⟩ := SendBuffer.acknowledge_ok hack stored.out.base_le
    rw [hb] at hbase ⊢
    rcases Nat.eq_zero_or_pos v.out.base with hzero | hbefore
    · simp only [View.agentFace, hzero]
      omega
    · have := (h.base hbefore).2
      exact max_le this hpos
  · obtain ⟨-, hlt⟩ := SendBuffer.acknowledge_error hack
    have : (v.agentFace g).sendBuf.end_ = v.out.end_ := rfl
    omega

/-- Every move keeps what the ring has dropped within what the client holds. -/
theorem View.Trimmed.move (h : v.Trimmed) (ord : v.Ordered cfg) (stored : v.Stored)
    (unstale : Unstale v m) (hmove : Move cfg v m v') : v'.Trimmed := by
  have silent : ∀ e ∈ ([] : List SessionError), e.Harmless := by simp
  cases hmove with
  | agentQuiet i dead errors alive harmless => exact h.keep rfl rfl rfl rfl rfl harmless
  | agentTurned i up rest errors head harmless => exact h.keep rfl rfl rfl rfl rfl harmless
  | agentRejected i gen off up rest e held head said known replay attach less =>
    refine ⟨h.base, ?_⟩
    rintro (_ | ⟨_, hmem⟩)
    · -- replayed at a position the ring has reached
      obtain ⟨-, hall⟩ := ord.replayed head said fun hcap => (replay hcap).1
      have hmem : up ∈ (v.links i).toAgent := head ▸ List.mem_cons_self
      obtain ⟨-, hpos, hend⟩ := ord.position stored hmem (hall up List.mem_cons_self)
      have honest := ((ord.link i).ups up hmem).2.2
      simp only [Up.Honest, said] at honest
      rcases SendBuffer.resetSendNext_error attach with ⟨-, hlt⟩ | ⟨hne, -⟩
      · omega
      · cases hne
    · exact h.errors hmem
  | pathA i gen off up rest b head said first alive known replay attach =>
    refine ⟨fun _ => ?_, h.errors⟩
    obtain ⟨hcursor, hall⟩ := ord.replayed head said fun hcap => (replay hcap).1
    have hmem : up ∈ (v.links i).toAgent := head ▸ List.mem_cons_self
    obtain ⟨-, hpos, -⟩ := ord.position stored hmem (hall up List.mem_cons_self)
    have honest := ((ord.link i).ups up hmem).2.2
    simp only [Up.Honest, said] at honest
    obtain ⟨rfl, -, -⟩ := SendBuffer.resetSendNext_ok attach
    -- the ring is replayed from a position that the client has come to
    exact ⟨hcursor, honest.2.le.trans hpos⟩
  | agentHears i up rest g out head holder alive grid hears =>
    obtain ⟨hbase, herr⟩ := h.agentHears ord stored head holder alive grid hears unstale
    obtain ⟨base, next, hbuf⟩ := Face.hears_buffer hears
    refine ⟨fun hpos => ?_, fun hmem => ?_⟩
    · have hgen : out.2.sendBuf.sessionGen = v.out.sessionGen := by
        rw [hbuf]
        rfl
      exact ⟨(hbase hpos).1.trans hgen.symm, (hbase hpos).2⟩
    · rcases List.mem_append.mp hmem with hmem | hmem
      · exact herr (by simpa using hmem)
      · exact h.errors hmem
  | agentSays i g said f holder grid speech =>
    obtain ⟨⟨next, hbuf⟩, -⟩ := Face.says_buffer speech
    have hbase : f.sendBuf.base = v.out.base := by
      rw [hbuf]
      rfl
    have hgen : f.sendBuf.sessionGen = v.out.sessionGen := by
      rw [hbuf]
      rfl
    exact h.keep hbase hgen rfl rfl (List.nil_append _).symm silent
  | supplied => exact ⟨fun hpos => (by cases hpos), h.errors⟩
  | clientHears i down rest g out current head alive grid hears =>
    refine ⟨fun hpos => ?_, h.errors⟩
    obtain ⟨hcursor, hle⟩ := h.base hpos
    have hrole := ((ord.link i).clientGrid g grid).1
    rcases Face.hears_client hears hrole with ⟨hsnap, -, -, -, hrecv⟩ | ⟨r, hr, -, -, -⟩
    · rw [hsnap]
      refine ⟨hcursor, hle.trans ?_⟩
      rcases hrecv with heq | ⟨a, o, p, bytes, -, hrec⟩
      · exact (congrArg ReceiveCursor.recvOffset heq).ge
      · exact (le_max_left _ _).trans (ReceiveCursor.receive_recvOffset hrec).ge
    · -- no generation is ahead of a client that counts in the ring's
      have hahead := ((ord.link i).ahead current).2 r.streamGen (by
        have : g.receiving = some r := hr
        simp [LinkView.ahead, LinkView.receiving, grid, this])
      simp only at hahead
      omega
  | clientSays i g said f current grid speech =>
    obtain ⟨-, hinp⟩ := Face.says_buffer speech
    exact h.keep rfl rfl rfl hinp (List.nil_append _).symm silent
  | agentWrite w =>
    exact h.keep (SendBuffer.append_base ..) (SendBuffer.append_sessionGen ..) rfl rfl
      (List.nil_append _).symm silent
  | agentOverflow w =>
    exact h.keep (SendBuffer.append_base ..) (SendBuffer.append_sessionGen ..) rfl rfl
      (List.nil_append _).symm silent
  | _ => exact h.keep rfl rfl rfl rfl (List.nil_append _).symm silent

end

section
variable {K : Type}

/-- The acknowledgement of the frame a connection takes next would reach the ring. -/
def State.Applies (cfg : Config) (s : State K) (i : Nat) (up : Upward K) : Prop :=
  ∃ c chan, (s.links i).agent = some c ∧ c.failed = none ∧ c.isCurrent s.agent = true ∧
    c.channel = some chan ∧ chan.gridAwaitingApplied = false ∧
    up ∈ (s.links i).toAgent.head? ∧ Acknowledges (.of cfg.version up.frame.body.plaintext)

/-- A connection that waits for its snapshot takes no acknowledgement the client sealed in an older
generation, and a new generation does not wrap. -/
def State.AcksTimely (cfg : Config) (s : State K) : Action → Prop
  | .agentFrame i _ => ∀ c ∈ (s.links i).agent, ∀ up ∈ (s.links i).toAgent.head?,
      c.stage = .awaitSnapshot → Acknowledges (.of cfg.version up.frame.body.plaintext) →
        up.gen = s.agent.streams.output.sessionGen
  | .supplySnapshot .. => s.agent.streams.output.sessionGen + 1 < 2 ^ 32
  | _ => True

instance (cfg : Config) (s : State K) (a : Action) : Decidable (s.AcksTimely cfg a) :=
  match a with
  | .agentFrame i _ => inferInstanceAs (Decidable
      (∀ c ∈ (s.links i).agent, ∀ up ∈ (s.links i).toAgent.head?, c.stage = .awaitSnapshot →
        Acknowledges (.of cfg.version up.frame.body.plaintext) →
          up.gen = s.agent.streams.output.sessionGen))
  | .supplySnapshot .. => inferInstanceAs (Decidable (s.agent.streams.output.sessionGen + 1 < 2 ^ 32))
  | .clientOpen .. | .route .. | .completeHandshake .. | .sendResume .. | .agentIdle ..
  | .agentClose .. | .clientFrame .. | .clientIdle .. | .confirmApply .. | .denyApply ..
  | .queueResize .. | .clientClose .. | .clientWrite .. | .agentWrite .. | .inputDelivered ..
  | .inputRejected .. | .endSession .. | .agentTimer .. | .agentGates .. | .clientGates .. => .isTrue trivial

variable [DecidableEq K] {P : KeySchedule K} {cfg : Config}

/-- What the condition on steps comes to for moves. -/
lemma State.AcksTimely.marked {s : State K} {a : Action} {m : Mark} (h : s.AcksTimely cfg a)
    (hm : m.Of P cfg s a) : GenFits (s.view cfg) m ∧ Unstale (s.view cfg) m := by
  constructor
  · rintro rfl
    obtain ⟨i, now, snapshot, scrollbackLen, flags, rfl⟩ := hm
    exact h
  · rintro i up rfl hwait hacks
    obtain ⟨now, c, up', rest, rfl, hc, hhead, rfl⟩ := hm
    refine h c hc up' (by simp [hhead]) ?_ hacks
    simpa [State.view, Link.view, hc] using hwait

omit [DecidableEq K] in
/-- The system starts in order. -/
lemma ordered_start (seed : K) (agentStorage clientStorage : Bytes)
    (agentLimits clientLimits : SessionLimits) (now : Timestamp) :
    (State.view cfg (.start seed agentStorage clientStorage agentLimits clientLimits now)).Ordered
      cfg where
  cursor_le := le_rfl
  applied_le := le_rfl
  small := Nat.two_pow_pos 32
  incapable _ := rfl
  receipt := ⟨rfl, rfl⟩
  held _ := le_rfl
  link _ := .unused

omit [DecidableEq K] in
/-- It starts with nothing trimmed. -/
lemma trimmed_start (seed : K) (agentStorage clientStorage : Bytes)
    (agentLimits clientLimits : SessionLimits) (now : Timestamp) :
    (State.view cfg
      (.start seed agentStorage clientStorage agentLimits clientLimits now)).Trimmed where
  base h := by cases h
  errors h := by cases h

/-- In a run without stale acknowledgements to a connection that waits for its snapshot, none reaches
the ring of another generation, the ring never rejects one, and it drops only what the client holds. -/
theorem acks_keep_to_their_generation (seed : K) (agentStorage clientStorage : Bytes)
    (agentLimits clientLimits : SessionLimits) (now : Timestamp) {as : List Action} {t : State K}
    (run : Run (State.step P cfg) (State.AcksTimely cfg)
      (.start seed agentStorage clientStorage agentLimits clientLimits now) as t) :
    (∀ i at_, t.AcksTimely cfg (.agentFrame i at_) → ∀ up, t.Applies cfg i up →
      up.gen = t.agent.streams.output.sessionGen) ∧
    .stream .ackBeyondSent ∉ t.agentErrors ∧
    (0 < t.agent.streams.output.base → t.cursorGen = t.agent.streams.output.sessionGen ∧
      t.agent.streams.output.base ≤ t.client.streams.input.recvOffset) := by
  obtain ⟨⟨hord, htrim⟩, hcoh, -⟩ := run_inv (fun v => v.Ordered cfg ∧ v.Trimmed)
    (fun v m => GenFits v m ∧ Unstale v m) (fun s a m _ hC hm => hC.marked hm)
    (fun v m v' stored inv hD hmove =>
      ⟨inv.1.move stored hD.1 hmove, inv.2.move inv.1 stored hD.2 hmove⟩)
    run (.start ..) (stored_start ..) ⟨ordered_start .., trimmed_start ..⟩
  refine ⟨?_, htrim.errors, htrim.base⟩
  rintro i at_ htimely up ⟨c, chan, hc, halive, hcur, hchan, hfree, hhead, hacks⟩
  obtain ⟨rest, hup⟩ := List.head?_eq_some_iff.mp hhead
  cases hwait : ((t.view cfg).links i).waiting with
  | true => exact htimely c hc up hhead (by simpa [State.view, Link.view, hc] using hwait) hacks
  | false =>
    have hholder := hcoh.holder hc (by
      unfold AgentConnection.isCurrent at hcur
      split at hcur
      · next handle hhandle => exact ⟨handle, hhandle, hcur⟩
      · cases hcur)
    have hmem : up.view cfg.version ∈ ((t.view cfg).links i).toAgent :=
      List.mem_map_of_mem (hup ▸ List.mem_cons_self)
    exact hord.heard hholder (by simp [State.view, Link.view, hc, halive])
      (g := chan.grid) (by simp [State.view, Link.view, hc, hchan]) hfree hwait _ hmem

/-- The client is cut after its snapshot was supplied and before any of it came, and resumes with
input to send. -/
def staleAck : List Action :=
  sampleResume 0 0 ++ [.agentFrame 0 0] ++ sampleByte 0 0 ++
    [.agentClose 0 0, .agentWrite (List.replicate 10 7)] ++
    sampleResume 1 0 ++ [.agentFrame 1 0, .supplySnapshot 1 0 [65] 0 0, .clientWrite [9]] ++
    sampleResume 2 0 ++ [.agentFrame 2 0, .clientIdle 0 1000 1000, .agentFrame 2 0]

/-- Its input carries an offset of the generation before, and the ring rejects it. -/
theorem stale_ack_rejected : ¬∀ as t, Run (State.step .counting sampleConfig) Anywhere sampleStart
    as t → .stream .ackBeyondSent ∉ t.agentErrors := by
  intro h
  have hreach : ((exec (State.step .counting sampleConfig) sampleStart staleAck).any
      fun t => decide (.stream .ackBeyondSent ∈ t.agentErrors)) = true := by decide +kernel
  obtain ⟨t, ht, herr⟩ := (Option.any_eq_true _ _).mp hreach
  exact h staleAck t (.of_exec ht) (of_decide_eq_true herr)

/-- A ring that overflowed, the snapshot in its place, and an acknowledgement in the generation of
each. -/
def timelyAck : List Action :=
  sampleResume 0 0 ++ [.agentFrame 0 0] ++ sampleByte 0 0 ++ sampleAck 0 0 ++
    [.agentClose 0 ackIdleDelay, .agentWrite (List.replicate 10 7)] ++
    sampleResume 1 ackIdleDelay ++
    [.agentFrame 1 ackIdleDelay, .supplySnapshot 1 ackIdleDelay [65] 0 0,
      .agentIdle 1 ackIdleDelay 1000 1000, .agentIdle 1 ackIdleDelay 1000 1000,
      .agentIdle 1 ackIdleDelay 1000 1000, .clientFrame ackIdleDelay, .clientFrame ackIdleDelay,
      .clientFrame ackIdleDelay, .confirmApply 1, .clientIdle ackIdleDelay 1000 1000,
      .agentFrame 1 ackIdleDelay] ++
    sampleByte 1 ackIdleDelay ++ sampleAck 1 ackIdleDelay

/-- A snapshot is supplied, applied and acknowledged, and so is a byte behind it. -/
theorem acks_keep_to_their_generation_sample :
    ∃ t, Run (State.step .counting sampleConfig) (State.AcksTimely sampleConfig) sampleStart
      timelyAck t ∧ t.agent.streams.output.base = 1 ∧ t.cursorGen = 1 ∧
      .stream .ackBeyondSent ∉ t.agentErrors := by
  have hreach : ((exec (guarded (State.step .counting sampleConfig)
      (State.AcksTimely sampleConfig)) sampleStart timelyAck).any fun t =>
        decide (t.agent.streams.output.base = 1 ∧ t.agent.streams.output.sessionGen = 1)) = true := by
    decide +kernel
  obtain ⟨t, ht, hbase⟩ := (Option.any_eq_true _ _).mp hreach
  obtain ⟨hbase, hgen⟩ := of_decide_eq_true hbase
  have run := Run.of_guarded ht
  obtain ⟨-, herr, htrim⟩ := acks_keep_to_their_generation 0 _ _ {} {} 0 run
  exact ⟨t, run, hbase, (htrim (by omega)).1.trans hgen, herr⟩

end

end Zet.Net
