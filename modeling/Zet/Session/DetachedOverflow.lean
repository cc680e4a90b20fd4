import Zet.Lib.Run
import Zet.Session.StreamState

/-!
# A detached session that drops its overflow

A session in `Resync` mode is never to hold its shell up while nobody is attached: what does not fit
the ring is dropped behind a flag, and the next connection starts a new output generation. `Write`
takes everything, whatever the ring holds. But it is asked to only while `AcceptsWrites` says so, and
that looks at the flag, which only a write that finds too little room raises. A ring that is exactly
full, with the flag down, accepts nothing any more (`exact_fill_blocks`).

`streamStep` is a stream state under any calls. `StreamState.Brims` is the call that fills the ring to
its brim; `detached_flows` is what holds as long as none does.
-/

namespace Zet.Session
open Zet.Core Zet.Wire Zet.Lib

/-- What can happen to the streams of a session. -/
inductive StreamCall where
  | write (bytes : Bytes)
  | acknowledge (ack : Nat)
  | advanceSendNext (count : Nat)
  | attach (peerReceiveOffset : Nat)
  | attachPathB
  | newGeneration
  | detach (generation : Nat) (now : Timestamp)
  | setOverflowMode (negotiatedVer : Nat) (gridCapable : Bool)
  | onTimer (now : Timestamp)
  | kill (reason : StreamError)

/-- One call. A refused one changes nothing. -/
def streamStep (s : StreamState) : StreamCall → Option StreamState
  | .write bytes => some (s.write bytes).2
  | .acknowledge ack =>
    match s.output.acknowledge ack with
    | .ok output => some { s with output := output }
    | .error _ => some s
  | .advanceSendNext count => some { s with output := s.output.advanceSendNext count }
  | .attach peerReceiveOffset =>
    match s.attach peerReceiveOffset with
    | .ok (_, s) => some s
    | .error _ => some s
  | .attachPathB =>
    match s.attachPathB with
    | .ok (_, s) => some s
    | .error _ => some s
  | .newGeneration => some s.newGeneration
  | .detach generation now => some (s.detach generation now)
  | .setOverflowMode negotiatedVer gridCapable => some (s.setOverflowMode negotiatedVer gridCapable)
  | .onTimer now => some (s.onTimer now)
  | .kill reason => some (s.kill reason)

namespace StreamState

/-- How much a detached session may hold: its ceiling, or its storage if that is less. -/
def brim (s : StreamState) : Nat := min s.limits.disconnectMax s.output.storage.length

/-- The call leaves the ring of a detached session that drops its overflow exactly full, or detaches
one that is full, with the flag down. -/
def Brims (s : StreamState) : StreamCall → Prop
  | .write bytes => s.state = .detached ∧ s.overflow = .resync ∧ s.output.ringOverflowed = false ∧
      bytes.length = s.writeRoom
  | .detach generation _ => s.isCurrent generation = true ∧ s.overflow = .resync ∧
      s.output.ringOverflowed = false ∧ s.brim ≤ s.output.size
  | .setOverflowMode negotiatedVer gridCapable => s.state = .detached ∧
      (negotiatedVer ≥ protocolVersionGrid ∧ gridCapable = true) ∧
      s.output.ringOverflowed = false ∧ s.brim ≤ s.output.size
  | _ => False

instance (s : StreamState) (call : StreamCall) : Decidable (s.Brims call) := by
  cases call <;> dsimp only [Brims] <;> infer_instance

/-- A detached session that drops its overflow accepts writes, and takes all of each. -/
def Flows (s : StreamState) : Prop :=
  s.state = .detached → s.overflow = .resync →
    s.acceptsWrites = true ∧ ∀ bytes, (s.write bytes).1 = .ok bytes.length

/-- The ring is not full with the flag down. -/
def Open (s : StreamState) : Prop :=
  s.state = .detached → s.overflow = .resync →
    s.output.ringOverflowed = true ∨ s.output.size < s.brim

variable {s s' : StreamState}

/-- What a detached session has room for. -/
lemma writeRoom_detached (detached : s.state = .detached) : s.writeRoom = s.brim - s.output.size := by
  rw [writeRoom, if_neg (by simp [detached]), brim, SendBuffer.room]
  omega

/-- What fits is appended whole. -/
lemma append_fits {b : SendBuffer} {bytes : Bytes} (fits : bytes.length ≤ b.room) :
    (b.append bytes).1 = bytes.length := by
  unfold SendBuffer.append
  split
  · next hempty =>
    have hzero : b.storage.length = 0 := by simpa using hempty
    rw [SendBuffer.room, hzero] at fits
    simp only
    omega
  · dsimp only
    split <;> simp only <;> omega

/-- A write of a detached session that drops its overflow is taken whole. -/
lemma write_takes (detached : s.state = .detached) (resync : s.overflow = .resync) (bytes : Bytes) :
    (s.write bytes).1 = .ok bytes.length := by
  unfold write
  rw [if_neg (by simp [detached])]
  split
  · rfl
  dsimp only
  rw [if_neg (by simp [resync])]
  split
  · split <;> rfl
  · next hroom =>
    have hfits : bytes.length ≤ s.writeRoom := by
      by_contra hmore
      exact hroom ⟨Nat.not_le.mp hmore, detached, resync⟩
    have htake : bytes.take (min bytes.length s.writeRoom) = bytes :=
      List.take_of_length_le (by omega)
    have hle : s.writeRoom ≤ s.output.room := Nat.min_le_right _ _
    rw [htake]
    simp only [append_fits (hfits.trans hle)]

/-- Output flows where the session is open to it. -/
lemma flows_iff : s.Flows ↔ s.Open := by
  have haccepts : s.state = .detached → s.overflow = .resync → (s.acceptsWrites = true ↔
      s.output.ringOverflowed = true ∨ s.output.size < s.brim) := by
    intro hdetached hresync
    rw [acceptsWrites, hdetached]
    simp only [hresync, brim, SendBuffer.room, Bool.or_eq_true, Bool.and_eq_true, decide_eq_true_eq,
      Bool.false_eq_true, false_or, gt_iff_lt, show (DetachedOverflow.resync == .reap) = false from rfl]
    refine or_congr_right ?_
    omega
  refine ⟨fun h hdetached hresync => ?_, fun h hdetached hresync => ?_⟩
  · exact (haccepts hdetached hresync).mp (h hdetached hresync).1
  · exact ⟨(haccepts hdetached hresync).mpr (h hdetached hresync), write_takes hdetached hresync⟩

/-- Storage does not grow or shrink. -/
lemma length_append_storage {b : SendBuffer} (bytes : Bytes) :
    (b.append bytes).2.storage.length = b.storage.length := by
  unfold SendBuffer.append
  split
  · rfl
  next hempty =>
  dsimp only
  split
  · rfl
  · have hpos : 0 < b.storage.length := List.length_pos_iff.mpr (by simpa using hempty)
    refine Lib.length_ringWrite hpos ?_
    rw [List.length_take, SendBuffer.room]
    omega

/-- What there is room for is appended whole. -/
lemma append_size {b : SendBuffer} {bytes : Bytes} (fits : bytes.length ≤ b.room)
    (low : b.base ≤ b.end_) : (b.append bytes).2.size = b.size + bytes.length := by
  have hfirst := append_fits fits
  unfold SendBuffer.append at hfirst ⊢
  split at hfirst
  · next hempty =>
    rw [if_pos hempty]
    simp only at hfirst ⊢
    omega
  next hempty =>
  rw [if_neg hempty]
  dsimp only at hfirst ⊢
  split at hfirst
  · next hzero =>
    rw [if_pos hzero]
    simp only at hfirst ⊢
    omega
  · next hsome =>
    rw [if_neg hsome]
    simp only [SendBuffer.size] at hfirst ⊢
    omega

/-- What every step keeps, besides the ring being open. -/
structure Sound (s : StreamState) : Prop where
  low : s.output.base ≤ s.output.end_
  roomy : 0 < s.brim

variable {call : StreamCall}

/-- An acknowledgement only takes away. -/
lemma acknowledge_output {b b' : SendBuffer} {ack : Nat} (h : b.acknowledge ack = .ok b')
    (low : b.base ≤ b.end_) : b'.base ≤ b'.end_ ∧ b'.size ≤ b.size ∧ b'.storage = b.storage ∧
      b'.ringOverflowed = b.ringOverflowed := by
  unfold SendBuffer.acknowledge at h
  split at h
  · cases h
    exact ⟨low, le_rfl, rfl, rfl⟩
  split at h
  · cases h
  · cases h
    simp only [SendBuffer.size]
    exact ⟨by omega, by omega, trivial, trivial⟩

/-- Going back to an offset leaves what is stored. -/
lemma resetSendNext_output {b b' : SendBuffer} {offset : Nat} (h : b.resetSendNext offset = .ok b')
    (low : b.base ≤ b.end_) : b'.base ≤ b'.end_ ∧ b'.storage = b.storage := by
  unfold SendBuffer.resetSendNext at h
  split at h
  · cases h
  split at h
  · cases h
  cases hack : b.acknowledge offset with
  | error e => simp [hack, Except.map] at h
  | ok next =>
    obtain ⟨hlow, -, hstorage, -⟩ := acknowledge_output hack low
    simp only [hack, Except.map, Except.ok.injEq] at h
    rw [← h]
    exact ⟨hlow, hstorage⟩

/-- Everything a write does to the size of the ring and its flag. -/
lemma write_output (s : StreamState) (bytes : Bytes) (low : s.output.base ≤ s.output.end_) :
    (s.write bytes).2.output.base ≤ (s.write bytes).2.output.end_ ∧
      (s.write bytes).2.output.storage.length = s.output.storage.length ∧
      (s.write bytes).2.limits = s.limits ∧ (s.write bytes).2.overflow = s.overflow := by
  have happend : ∀ bytes, (s.output.append bytes).2.base ≤ (s.output.append bytes).2.end_ := by
    intro bytes
    unfold SendBuffer.append
    split
    · exact low
    · dsimp only
      split
      · exact low
      · exact low.trans (Nat.le_add_right _ _)
  have hwrote := write_cases s bytes
  generalize s.write bytes = res at hwrote
  cases hwrote with
  | refused => exact ⟨low, rfl, rfl, rfl⟩
  | reaped =>
    unfold reap
    split <;> exact ⟨low, rfl, rfl, rfl⟩
  | dropped => exact ⟨low, rfl, rfl, rfl⟩
  | overflowed => exact ⟨happend _, length_append_storage _, rfl, rfl⟩
  | appended => exact ⟨happend _, length_append_storage _, rfl, rfl⟩

/-- Every call keeps the streams sound. -/
lemma Sound.step (h : s.Sound) (hstep : streamStep s call = some s') : s'.Sound := by
  cases call with
  | write bytes =>
    cases hstep
    obtain ⟨hlow, hstorage, hlimits, -⟩ := write_output s bytes h.low
    exact ⟨hlow, by rw [brim, hstorage, hlimits]; exact h.roomy⟩
  | acknowledge ack =>
    simp only [streamStep] at hstep
    split at hstep
    · next output hack =>
      cases hstep
      obtain ⟨hlow, -, hstorage, -⟩ := acknowledge_output hack h.low
      refine ⟨hlow, ?_⟩
      simp only [brim, hstorage]
      exact h.roomy
    · cases hstep
      exact h
  | advanceSendNext count =>
    cases hstep
    exact ⟨h.low, h.roomy⟩
  | attach offset =>
    simp only [streamStep, attach] at hstep
    split at hstep
    · next hattach =>
      cases hstep
      split at hattach
      · cases hattach
      split at hattach
      · cases hattach
      · next output hreset =>
        cases hattach
        obtain ⟨hlow, hstorage⟩ := resetSendNext_output hreset h.low
        refine ⟨hlow, ?_⟩
        simp only [brim, goLive, hstorage]
        exact h.roomy
    · cases hstep
      exact h
  | attachPathB =>
    simp only [streamStep, attachPathB] at hstep
    split at hstep
    · next hattach =>
      cases hstep
      split at hattach
      · cases hattach
      · cases hattach
        exact ⟨h.low, h.roomy⟩
    · cases hstep
      exact h
  | newGeneration =>
    cases hstep
    exact ⟨le_rfl, h.roomy⟩
  | detach generation now =>
    cases hstep
    unfold detach
    split <;> exact ⟨h.low, h.roomy⟩
  | setOverflowMode negotiatedVer gridCapable =>
    cases hstep
    exact ⟨h.low, h.roomy⟩
  | onTimer now =>
    cases hstep
    unfold onTimer reap
    repeat' split
    all_goals exact ⟨h.low, h.roomy⟩
  | kill reason =>
    cases hstep
    unfold kill reap
    split <;> exact ⟨h.low, h.roomy⟩

/-- A write leaves the ring of a detached session open, exactly when it does not fill it to its brim. -/
lemma write_open (h : s.Sound) (open_ : s.Open) (bytes : Bytes) :
    (s.write bytes).2.Open ↔ ¬s.Brims (.write bytes) := by
  obtain ⟨-, hstorage, hlimits, hoverflow⟩ := write_output s bytes h.low
  have hbrim : (s.write bytes).2.brim = s.brim := by rw [brim, hstorage, hlimits, brim]
  by_cases hmode : s.state = .detached ∧ s.overflow = .resync ∧ s.output.ringOverflowed = false
  · obtain ⟨hdetached, hresync, hflag⟩ := hmode
    have hsize : s.output.size < s.brim :=
      (open_ hdetached hresync).resolve_left (by simp [hflag])
    have hroom := writeRoom_detached hdetached
    have hle : s.writeRoom ≤ s.output.room := Nat.min_le_right _ _
    by_cases hmore : bytes.length > s.writeRoom
    · refine iff_of_true (fun _ _ => .inl ?_) (fun hbrims => by have := hbrims.2.2.2; omega)
      rw [write, if_neg (by simp [hdetached]), if_neg (by simp [hflag])]
      dsimp only
      rw [if_neg (by simp [hresync]), if_pos ⟨hmore, hdetached, hresync⟩, if_neg (by omega)]
      rfl
    · have hafter : (s.write bytes).2 = { s with output := (s.output.append bytes).2 } := by
        have htake : bytes.take (min bytes.length s.writeRoom) = bytes :=
          List.take_of_length_le (by omega)
        rw [write, if_neg (by simp [hdetached]), if_neg (by simp [hflag])]
        dsimp only
        rw [if_neg (by simp [hresync]), if_neg (fun hgt => hmore hgt.1), htake]
      have hfits := append_size ((Nat.not_lt.mp hmore).trans hle) h.low
      have hstill : (s.output.append bytes).2.ringOverflowed = false := by
        unfold SendBuffer.append
        split
        · exact hflag
        · dsimp only
          split <;> exact hflag
      rw [Open, hbrim, hafter]
      simp only [hdetached, hresync, hstill, hfits, Bool.false_eq_true, false_or, forall_const, Brims,
        hflag, true_and]
      omega
  · refine iff_of_true (fun hdetached hresync => ?_)
      (fun hbrims => hmode ⟨hbrims.1, hbrims.2.1, hbrims.2.2.1⟩)
    rw [hoverflow] at hresync
    left
    have hflag : s.state = .detached → s.output.ringOverflowed = true := fun halone => by
      by_contra hdown
      exact hmode ⟨halone, hresync, by simpa using hdown⟩
    have hwrote := write_cases s bytes
    generalize s.write bytes = res at hwrote hdetached
    cases hwrote with
    | refused reaped => exact hflag hdetached
    | reaped alone mode =>
      rw [mode] at hresync
      cases hresync
    | dropped alone mode flag => exact flag
    | overflowed => rfl
    | appended alive open_ =>
      have hup := hflag hdetached
      rw [open_ hdetached hresync] at hup
      cases hup

/-- A call leaves the ring of a detached session open, exactly when it does not fill it to its brim. -/
lemma open_step (h : s.Sound) (open_ : s.Open) (hstep : streamStep s call = some s') :
    s'.Open ↔ ¬s.Brims call := by
  have live : ∀ {t : StreamState}, t.state ≠ .detached → t.Open := fun hne hdetached =>
    absurd hdetached hne
  cases call with
  | write bytes =>
    cases hstep
    exact write_open h open_ bytes
  | acknowledge ack =>
    refine iff_of_true ?_ id
    simp only [streamStep] at hstep
    split at hstep
    · next output hack =>
      cases hstep
      obtain ⟨-, hsize, hstorage, hflag⟩ := acknowledge_output hack h.low
      intro hdetached hresync
      simp only [brim, hstorage, hflag]
      -- an acknowledgement only makes room
      exact (open_ hdetached hresync).imp_right hsize.trans_lt
    · cases hstep
      exact open_
  | advanceSendNext count =>
    cases hstep
    exact iff_of_true open_ id
  | attach offset =>
    refine iff_of_true ?_ id
    simp only [streamStep, attach] at hstep
    split at hstep
    · next hattach =>
      cases hstep
      split at hattach
      · cases hattach
      split at hattach
      · cases hattach
      · cases hattach
        exact live (by simp [goLive])
    · cases hstep
      exact open_
  | attachPathB =>
    refine iff_of_true ?_ id
    simp only [streamStep, attachPathB] at hstep
    split at hstep
    · next hattach =>
      cases hstep
      split at hattach
      · cases hattach
      · cases hattach
        exact live (by simp [goLive])
    · cases hstep
      exact open_
  | newGeneration =>
    cases hstep
    exact iff_of_true (fun _ _ => .inr h.roomy) id
  | detach generation now =>
    cases hstep
    unfold detach
    split
    · next hcurrent =>
      simp only [Open, Brims, hcurrent, brim, forall_const, true_and, not_and, not_le]
      -- detaching from a full ring whose flag is down is what brims
      exact forall_congr' fun _ => by cases s.output.ringOverflowed <;> simp
    · next hpast => exact iff_of_true open_ fun hbrims => hpast hbrims.1
  | setOverflowMode negotiatedVer gridCapable =>
    cases hstep
    simp only [setOverflowMode, Open, Brims, brim]
    by_cases hmode : negotiatedVer ≥ protocolVersionGrid ∧ gridCapable = true
    · simp only [hmode, and_self, if_true, forall_const, true_and, not_and, not_le]
      exact forall_congr' fun _ => by cases s.output.ringOverflowed <;> simp
    · simp [hmode]
  | onTimer now =>
    cases hstep
    refine iff_of_true ?_ id
    unfold onTimer reap
    repeat' split
    all_goals first | exact open_ | exact live (by simp)
  | kill reason =>
    cases hstep
    refine iff_of_true ?_ id
    unfold kill reap
    split
    · exact open_
    · exact live (by simp)

end StreamState

/-- In every run none of whose calls fills the ring of a detached session to its brim with the flag
down, a detached session that drops its overflow accepts writes and takes all of each; and the next
call keeps it so exactly when it does not either. -/
theorem detached_flows (storage : Bytes) (now : Timestamp) (limits : SessionLimits)
    (overflow : DetachedOverflow) (inputAck : InputAck) (room : 0 < storage.length)
    (ceiling : 0 < limits.disconnectMax) {calls : List StreamCall} {s : StreamState}
    (run : Run streamStep (fun s call => ¬s.Brims call) (.create storage now limits overflow inputAck)
      calls s) :
    s.Flows ∧ ∀ call s', streamStep s call = some s' → (s'.Flows ↔ ¬s.Brims call) := by
  have hstart : (StreamState.create storage now limits overflow inputAck).Sound :=
    ⟨le_rfl, by simp only [StreamState.brim]; exact Nat.lt_min.mpr ⟨ceiling, room⟩⟩
  obtain ⟨hsound, hopen⟩ := run.inv (fun s => s.Sound ∧ s.Open)
    (fun _ _ _ h ok hstep => ⟨h.1.step hstep, (StreamState.open_step h.1 h.2 hstep).mpr ok⟩)
    ⟨hstart, fun _ _ => .inr hstart.roomy⟩
  refine ⟨StreamState.flows_iff.mpr hopen, fun call s' hstep => ?_⟩
  rw [StreamState.flows_iff]
  exact StreamState.open_step hsound hopen hstep

/-- A ring of two bytes. -/
def sampleRing : StreamState := .create [0, 0] 0 {} .resync .onDelivery

/-- A ring that has not quite been filled flows on over its edge. -/
theorem detached_flows_sample : ∃ s,
    Run streamStep (fun s call => ¬s.Brims call) sampleRing [.write [65], .write [66, 67]] s ∧
      s.state = .detached ∧ s.overflow = .resync ∧ s.acceptsWrites = true ∧
      (s.write [68]).1 = .ok 1 := by
  have hreach : ((exec (guarded streamStep fun s call => ¬s.Brims call) sampleRing
      [.write [65], .write [66, 67]]).any fun s =>
        decide (s.state = .detached ∧ s.overflow = .resync)) = true := by decide +kernel
  obtain ⟨s, hs, hend⟩ := (Option.any_eq_true _ _).mp hreach
  obtain ⟨hdetached, hresync⟩ := of_decide_eq_true hend
  have run := Run.of_guarded hs
  obtain ⟨hflows, -⟩ := detached_flows [0, 0] 0 {} .resync .onDelivery (by decide) (by decide) run
  obtain ⟨haccepts, hwrites⟩ := hflows hdetached hresync
  exact ⟨s, run, hdetached, hresync, haccepts, hwrites [68]⟩

/-- A write that fills the ring exactly is the last one the session accepts. -/
theorem exact_fill_blocks : ∃ s, Run streamStep Anywhere sampleRing [.write [65, 66]] s ∧
    s.state = .detached ∧ s.overflow = .resync ∧ s.acceptsWrites = false :=
  ⟨(sampleRing.write [65, 66]).2, .of_exec rfl, rfl, rfl, by decide +kernel⟩

end Zet.Session
