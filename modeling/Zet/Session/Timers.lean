import Zet.Lib.Run
import Zet.Session.ChannelSpec

/-!
# The timers of a channel

`Channel::NextDeadline`: when the owner of a channel has to poll though nothing arrived. Four timers feed
it (the idle Ack, the epoch of the keys, the keepalive and the silence of the peer), each armed and
cleared elsewhere than where it is read.

`Channel.Timed` is what keeps them honest on every channel (`Port.Kept.step`). From it `Port.poll_waits`:
a poll that has nothing to send has named a time later than now, and until then the same poll comes to
the same nothing.
-/

namespace Zet.Session
open Zet.Core Zet.Wire Zet.Lib

/-- `Deadline`; `none` never comes. -/
abbrev Deadline := Option Timestamp

/-- The time is before the deadline. -/
def Deadline.Later (d : Deadline) (t : Timestamp) : Prop := ∀ time, d = some time → t < time

/-- `Earliest`. -/
def earliest : Deadline → Deadline → Deadline
  | some a, some b => some (min a b)
  | some a, none => some a
  | none, d => d

/-- A deadline in force lies ahead when its time does. -/
lemma later_some {time t : Timestamp} : Deadline.Later (some time) t ↔ t < time := by
  constructor
  · exact fun h => h time rfl
  · rintro h _ ⟨⟩
    exact h

/-- No deadline lies ahead of every time. -/
lemma later_none {t : Timestamp} : Deadline.Later none t := fun _ h => (by cases h)

instance : (d : Deadline) → (t : Timestamp) → Decidable (d.Later t)
  | some time, t => decidable_of_iff (t < time) later_some.symm
  | none, _ => .isTrue later_none

/-- The earlier of two deadlines lies ahead when both do. -/
lemma later_earliest {a b : Deadline} {t : Timestamp} :
    (earliest a b).Later t ↔ a.Later t ∧ b.Later t := by
  cases a with
  | none => simp [earliest, later_none]
  | some a =>
    cases b with
    | none => simp [earliest, later_none]
    | some b => simp [earliest, later_some]

/-- The deadline of the peer's silence. -/
def Channel.silenceDeadline {K : Type} (c : Channel K) : Deadline :=
  if ¬c.readGateClosed ∧ c.liveness.peerSilenceTimeout > 0 then
    some (c.lastHeard + c.liveness.peerSilenceTimeout)
  else none

/-- `Channel::NextDeadline`. -/
def Channel.nextDeadline {K : Type} (c : Channel K) : Deadline :=
  let ackDeadline := c.ackPendingSince.map (· + ackIdleDelay)
  let rekeyDeadline := some (c.epochStart + rekeyInterval)
  let keepaliveDeadline :=
    if c.liveness.keepaliveInterval > 0 then some (c.lastSent + c.liveness.keepaliveInterval)
    else none
  if c.sendGateClosed then c.silenceDeadline
  else earliest (earliest ackDeadline rekeyDeadline) (earliest keepaliveDeadline c.silenceDeadline)

variable {K : Type}

/-- What keeps the timers of a channel honest: an Ack is waited for only while one is owed, and an
epoch has room for a frame. -/
structure Channel.Timed (c : Channel K) (input : ReceiveCursor) : Prop where
  ack : c.ackPendingSince.isSome → c.lastAckedOffset < input.ackOffset
  frames : 0 < c.sealer.frameLimit
  bytes : 0 < c.sealer.byteLimit

/-- The timers behind the deadline of a channel that may send. -/
lemma Channel.nextDeadline_later (c : Channel K) (open_ : c.sendGateClosed = false) (t : Timestamp) :
    c.nextDeadline.Later t ↔
      (Deadline.Later (c.ackPendingSince.map (· + ackIdleDelay)) t ∧
        t < c.epochStart + rekeyInterval) ∧
      ¬(c.liveness.keepaliveInterval > 0 ∧ t ≥ c.lastSent + c.liveness.keepaliveInterval) ∧
      c.silenceDeadline.Later t := by
  have hkeepalive : Deadline.Later (if c.liveness.keepaliveInterval > 0 then
      some (c.lastSent + c.liveness.keepaliveInterval) else none) t ↔
      ¬(c.liveness.keepaliveInterval > 0 ∧ t ≥ c.lastSent + c.liveness.keepaliveInterval) := by
    split
    · next hpos => simp [later_some, hpos]
    · next hzero => simp [later_none, hzero]
  rw [nextDeadline, open_]
  simp only [Bool.false_eq_true, if_false]
  rw [later_earliest, later_earliest, later_earliest, hkeepalive, later_some]

namespace Port
variable {p q : Port K} {now t : Timestamp} {out scratch : Nat}

/-- Sealing is never nothing. -/
lemma sealThen_some (p : Port K) (out : Nat) (plain : Bytes) (done : Port K → Port K) :
    (p.sealThen out plain done).1 ≠ .ok none := by
  unfold sealThen
  split <;> simp

/-- Nothing goes before the Ack and the keepalive. -/
structure Empty (p : Port K) (out scratch : Nat) : Prop where
  pong : p.pollPong out = none
  gridApplied : p.pollGridApplied out = none
  grid : p.pollGrid out scratch = none
  data : p.pollData out scratch = none
  sessionEnd : p.pollSessionEnd out = none
  resize : p.pollResize out = none

/-- A port with nothing else to send polls its Ack. -/
lemma pollNext_empty (h : p.Empty out scratch) (now : Timestamp) :
    p.pollNext now out scratch = p.pollAck now out := by
  simp [pollNext, h.pong, h.gridApplied, h.grid, h.data, h.sessionEnd, h.resize]

/-- A poll that returned nothing found nothing to send. -/
lemma empty_of_pollNext (h : (p.pollNext now out scratch).1 = .ok none) : p.Empty out scratch := by
  -- whatever a candidate answers, it is not nothing
  have hpong : ∀ res, p.pollPong out = some res → res.1 ≠ .ok none := by
    intro res hres
    unfold pollPong at hres
    repeat' split at hres
    all_goals cases hres
    exact sealThen_some _ _ _ _
  have happlied : ∀ res, p.pollGridApplied out = some res → res.1 ≠ .ok none := by
    intro res hres
    unfold pollGridApplied at hres
    repeat' split at hres
    all_goals cases hres
    exact sealThen_some _ _ _ _
  have hgrid : ∀ res, p.pollGrid out scratch = some res → res.1 ≠ .ok none := by
    intro res hres
    unfold pollGrid pollGridBegin pollGridEnd at hres
    repeat' split at hres
    all_goals cases hres
    · exact sealThen_some _ _ _ _
    · unfold pollGridChunk
      dsimp only
      repeat' split
      · exact fun h => (by cases h)
      · exact fun h => (by cases h)
      · exact sealThen_some _ _ _ _
    · exact sealThen_some _ _ _ _
  have hdata : ∀ res, p.pollData out scratch = some res → res.1 ≠ .ok none := by
    intro res hres
    unfold pollData at hres
    dsimp only at hres
    repeat' split at hres
    all_goals cases hres
    · exact fun h => (by cases h)
    · exact sealThen_some _ _ _ _
  have hend : ∀ res, p.pollSessionEnd out = some res → res.1 ≠ .ok none := by
    intro res hres
    unfold pollSessionEnd at hres
    repeat' split at hres
    all_goals cases hres
    · exact fun h => (by cases h)
    · exact sealThen_some _ _ _ _
  have hresize : ∀ res, p.pollResize out = some res → res.1 ≠ .ok none := by
    intro res hres
    unfold pollResize at hres
    repeat' split at hres
    all_goals cases hres
    exact sealThen_some _ _ _ _
  unfold pollNext at h
  rcases hp : p.pollPong out with _ | res
  swap; · exact absurd (by rw [hp] at h; exact h) (hpong res hp)
  rcases ha : p.pollGridApplied out with _ | res
  swap; · exact absurd (by rw [hp, ha] at h; exact h) (happlied res ha)
  rcases hg : p.pollGrid out scratch with _ | res
  swap; · exact absurd (by rw [hp, ha, hg] at h; exact h) (hgrid res hg)
  rcases hd : p.pollData out scratch with _ | res
  swap; · exact absurd (by rw [hp, ha, hg, hd] at h; exact h) (hdata res hd)
  rcases he : p.pollSessionEnd out with _ | res
  swap; · exact absurd (by rw [hp, ha, hg, hd, he] at h; exact h) (hend res he)
  rcases hr : p.pollResize out with _ | res
  swap; · exact absurd (by rw [hp, ha, hg, hd, he, hr] at h; exact h) (hresize res hr)
  exact ⟨hp, ha, hg, hd, he, hr⟩

/-- What goes before the Ack does not depend on the timer of the Ack. -/
lemma Empty.armed (h : p.Empty out scratch) (since : Option Timestamp) :
    ({ p with chan := { p.chan with ackPendingSince := since } } : Port K).Empty out scratch := by
  have hpong := h.pong
  have happlied := h.gridApplied
  have hgrid := h.grid
  have hdata := h.data
  have hend := h.sessionEnd
  have hresize := h.resize
  constructor
  · unfold pollPong at hpong ⊢
    repeat' split at hpong
    all_goals simp_all
  · unfold pollGridApplied at happlied ⊢
    repeat' split at happlied
    all_goals simp_all
  · unfold pollGrid pollGridBegin pollGridEnd at hgrid ⊢
    repeat' split at hgrid
    all_goals simp_all
  · unfold pollData dataSuppressed Channel.gridInFlight at hdata ⊢
    dsimp only at hdata ⊢
    repeat' split at hdata
    all_goals simp_all
  · unfold pollSessionEnd at hend ⊢
    repeat' split at hend
    all_goals simp_all
  · unfold pollResize at hresize ⊢
    repeat' split at hresize
    all_goals simp_all

/-- The keepalive's deadline. -/
lemma pollPing_none (h : (p.pollPing now out).1 = .ok none) : p.pollPing now out = (.ok none, p) ∧
    ¬(p.chan.liveness.keepaliveInterval > 0 ∧
      now ≥ p.chan.lastSent + p.chan.liveness.keepaliveInterval) := by
  unfold pollPing at h ⊢
  split at h
  · split at h
    · cases h
    · exact absurd h (sealThen_some _ _ _ _)
  · next hnot => exact ⟨by rw [if_neg hnot], hnot⟩

/-- Waiting for an Ack to be due, or for none, is over at the deadline of the Ack alone. -/
lemma pollAck_none (h : p.pollAck now out = (.ok none, q)) (timed : p.chan.Timed p.recvCursor) :
    q = { p with chan := { p.chan with ackPendingSince := q.chan.ackPendingSince } } ∧
      q.chan.Timed q.recvCursor ∧
      ¬(p.chan.liveness.keepaliveInterval > 0 ∧
        now ≥ p.chan.lastSent + p.chan.liveness.keepaliveInterval) ∧
      Deadline.Later (q.chan.ackPendingSince.map (· + ackIdleDelay)) now ∧
      ∀ t, Deadline.Later (q.chan.ackPendingSince.map (· + ackIdleDelay)) t →
        q.pollAck t out = q.pollPing t out := by
  unfold pollAck at h
  dsimp only at h
  split at h
  · next howed =>
    split at h
    · next hnone =>
      obtain ⟨heq, hping⟩ := pollPing_none (congrArg Prod.fst h)
      obtain rfl := Prod.mk.inj (heq.symm.trans h) |>.2
      refine ⟨rfl, ⟨fun _ => howed, timed.frames, timed.bytes⟩, hping, ?_, fun t ht => ?_⟩
      · exact later_some.mpr (Nat.lt_add_of_pos_right (by decide))
      · have ht := later_some.mp ht
        unfold pollAck
        simp only [howed, if_true]
        rw [if_neg (Nat.not_le.mpr ht)]
    · next since hsince =>
      split at h
      · rw [writeInto_ack] at h
        exact absurd (congrArg Prod.fst h) (sealThen_some _ _ _ _)
      · next hearly =>
        obtain ⟨heq, hping⟩ := pollPing_none (congrArg Prod.fst h)
        obtain rfl := Prod.mk.inj (heq.symm.trans h) |>.2
        rw [hsince]
        refine ⟨by rw [← hsince], timed, hping, later_some.mpr (Nat.not_le.mp hearly), fun t ht => ?_⟩
        have ht := later_some.mp ht
        unfold pollAck
        simp only [howed, if_true, hsince]
        rw [if_neg (Nat.not_le.mpr ht)]
  · next hnot =>
    obtain ⟨heq, hping⟩ := pollPing_none (congrArg Prod.fst h)
    obtain rfl := Prod.mk.inj (heq.symm.trans h) |>.2
    have hidle : p.chan.ackPendingSince = none := by
      cases hsince : p.chan.ackPendingSince with
      | none => rfl
      | some since => exact absurd (timed.ack (by rw [hsince]; rfl)) hnot
    refine ⟨rfl, timed, hping, by rw [hidle]; exact later_none, fun t _ => ?_⟩
    unfold pollAck
    rw [if_neg hnot]

/-- The peer is not silent before the deadline, and only then. -/
lemma silence_iff (p : Port K) (t : Timestamp) :
    ¬(¬p.chan.readGateClosed ∧ p.chan.liveness.peerSilenceTimeout > 0 ∧
      t ≥ p.chan.lastHeard + p.chan.liveness.peerSilenceTimeout) ↔
      p.chan.silenceDeadline.Later t := by
  unfold Channel.silenceDeadline
  split
  · next hboth =>
    rw [later_some]
    constructor
    · intro hnot
      by_contra hlate
      exact hnot ⟨hboth.1, hboth.2, Nat.not_lt.mp hlate⟩
    · rintro hlt ⟨-, -, hlate⟩
      exact absurd hlate (Nat.not_le.mpr hlt)
  · next hnot =>
    refine ⟨fun _ => later_none, ?_⟩
    rintro - ⟨hgate, htimeout, -⟩
    exact hnot ⟨hgate, htimeout⟩

/-- The epoch lasts until its deadline, once it has room for a frame. -/
lemma rekeyIfNeeded_waits (P : KeySchedule K) {p₁ : Port K} (timed : p.chan.Timed p.recvCursor)
    (h : p.rekeyIfNeeded P now = .ok p₁) :
    p₁.chan.Timed p₁.recvCursor ∧ now < p₁.chan.epochStart + rekeyInterval ∧
      p₁.chan.sealer.needsRekey = false ∧
      p₁ = { p with chan := { p.chan with
        sealer := p₁.chan.sealer, epochStart := p₁.chan.epochStart } } := by
  unfold rekeyIfNeeded at h
  split at h
  · next hno =>
    cases h
    exact ⟨timed, Nat.not_le.mp hno.2, by simpa using hno.1, rfl⟩
  split at h
  · cases h
  · next sealer hsealer =>
    cases h
    unfold FrameSealer.rekey at hsealer
    split at hsealer
    · cases hsealer
    · cases hsealer
      refine ⟨⟨timed.ack, timed.frames, timed.bytes⟩, Nat.lt_add_of_pos_right (by decide), ?_, rfl⟩
      have hframes := timed.frames
      have hbytes := timed.bytes
      simp only [FrameSealer.needsRekey, Bool.or_eq_false_iff, decide_eq_false_iff_not]
      omega

/-- Where nothing goes before the Ack and the keys are fresh, a poll before the deadline does nothing. -/
lemma poll_still (P : KeySchedule K) (empty : p.Empty out scratch)
    (keys : p.chan.sealer.needsRekey = false) (gate : p.chan.sendGateClosed = false)
    (room : ¬out < headerSize + 1 + tagSize)
    (ack : ∀ t, Deadline.Later (p.chan.ackPendingSince.map (· + ackIdleDelay)) t →
      p.pollAck t out = p.pollPing t out) (later : p.chan.nextDeadline.Later t) :
    p.poll P t out scratch = (.ok none, p) := by
  obtain ⟨⟨hack, hepoch⟩, hping, hheard⟩ := (p.chan.nextDeadline_later gate t).mp later
  have hkeys : p.rekeyIfNeeded P t = .ok p := by
    rw [rekeyIfNeeded, if_pos]
    rw [keys]
    exact ⟨Bool.false_ne_true, Nat.not_le.mpr hepoch⟩
  have honce : p.pollOnce P t out scratch = (.ok none, p) := by
    rw [pollOnce, hkeys]
    dsimp only
    rw [if_neg room, pollNext_empty empty, ack t hack, pollPing, if_neg hping]
  rw [poll, if_neg ((silence_iff p t).mpr hheard), if_neg (by rw [gate]; exact Bool.false_ne_true),
    honce]

/-- A poll that had nothing to send: it is later than any deadline, and nothing comes of another poll
before the next. -/
theorem poll_waits (P : KeySchedule K) (timed : p.chan.Timed p.recvCursor)
    (h : p.poll P now out scratch = (.ok none, q)) :
    q.chan.Timed q.recvCursor ∧ q.chan.nextDeadline.Later now ∧
      ∀ t, q.chan.nextDeadline.Later t → q.poll P t out scratch = (.ok none, q) := by
  unfold poll at h
  split at h
  · cases h
  next hheard =>
  have hheard := (silence_iff p now).mp hheard
  split at h
  · -- a closed gate sends nothing, and waits for the peer alone
    next hgate =>
    cases h
    have hnext : p.chan.nextDeadline = p.chan.silenceDeadline := by
      rw [Channel.nextDeadline, if_pos hgate]
    refine ⟨timed, by rw [hnext]; exact hheard, fun t ht => ?_⟩
    rw [hnext] at ht
    rw [poll, if_neg ((silence_iff p t).mpr ht), if_pos hgate]
  next hgate =>
  split at h
  · cases h
  next result hnone =>
  unfold pollOnce at h
  split at h
  · cases h
  next p₁ hrekey =>
  obtain ⟨htimed, hepoch, hneeds, hp₁⟩ := rekeyIfNeeded_waits P timed hrekey
  split at h
  · cases h
  next hroom =>
  have hempty := empty_of_pollNext (congrArg Prod.fst h)
  rw [pollNext_empty hempty] at h
  obtain ⟨hq, htimed', hping, hack, hpoll⟩ := pollAck_none h htimed
  have hempty' := hempty.armed q.chan.ackPendingSince
  rw [← hq] at hempty'
  have hfields : q.chan.sealer = p₁.chan.sealer ∧ q.chan.epochStart = p₁.chan.epochStart ∧
      q.chan.sendGateClosed = p.chan.sendGateClosed ∧ q.chan.liveness = p₁.chan.liveness ∧
      q.chan.lastSent = p₁.chan.lastSent ∧ q.chan.silenceDeadline = p.chan.silenceDeadline := by
    rw [hq, hp₁]
    exact ⟨rfl, rfl, rfl, rfl, rfl, rfl⟩
  obtain ⟨hsealer, hstart, hgate', hliveness, hsent, hsilence⟩ := hfields
  have hopen : q.chan.sendGateClosed = false := by simpa [hgate'] using hgate
  have hnext := fun t => q.chan.nextDeadline_later hopen t
  refine ⟨htimed', (hnext now).mpr ⟨⟨hack, by rw [hstart]; exact hepoch⟩, ?_, ?_⟩, fun t ht => ?_⟩
  · rw [hliveness, hsent]
    exact hping
  · rw [hsilence]
    exact hheard
  · exact poll_still P hempty' (by rw [hsealer]; exact hneeds) hopen hroom hpoll ht

/-- What a frame does to the Ack that is owed: it may owe more, or the stream starts over. -/
structure Heard (p q : Port K) : Prop where
  valid : q.recvCursor.Valid
  acks : q.chan.lastAckedOffset = p.chan.lastAckedOffset ∧
      q.chan.ackPendingSince = p.chan.ackPendingSince ∧
      p.recvCursor.ackOffset ≤ q.recvCursor.ackOffset ∨
    q.chan.ackPendingSince = none ∧ p.chan.role = .client

/-- Nothing was heard if neither the cursor nor the pending Ack changed. -/
lemma Heard.same (valid : p.recvCursor.Valid) (cursor : q.recvCursor = p.recvCursor)
    (acked : q.chan.lastAckedOffset = p.chan.lastAckedOffset)
    (since : q.chan.ackPendingSince = p.chan.ackPendingSince) : Heard p q :=
  ⟨cursor ▸ valid, .inl ⟨acked, since, by rw [cursor]⟩⟩

/-- Delivering Data hears it. -/
lemma deliver_heard (valid : p.recvCursor.Valid) (m : DataMessage) : Heard p (p.deliver m).2 := by
  unfold deliver
  dsimp only
  split
  · exact .same valid rfl rfl rfl
  next delivered cursor hreceive =>
  have hvalid := valid.receive hreceive
  obtain ⟨-, -, hrecv, -, hpending⟩ := ReceiveCursor.receive_ok hreceive
  have hgrows : p.recvCursor.ackOffset ≤ cursor.ackOffset := by
    simp only [ReceiveCursor.ackOffset, hrecv, hpending]
    split <;> omega
  split <;> exact ⟨hvalid, .inl ⟨rfl, rfl, hgrows⟩⟩

/-- So does receiving an opened frame. -/
lemma receivePlain_heard (valid : p.recvCursor.Valid) (plain : Bytes) :
    Heard p (p.receivePlain plain).2 := by
  have hsame : Heard p p := .same valid rfl rfl rfl
  unfold receivePlain
  split
  · exact .same valid rfl rfl rfl
  · exact hsame
  next type body _ =>
  split
  · unfold receiveData
    split
    · exact hsame
    split
    · exact hsame
    split
    · exact hsame
    next p' hack =>
    -- its acknowledgement is for the ring, and its data for the cursor
    have hchan := applyAck_chan hack
    have hcursor := applyAck_recvCursor hack
    have hdeliver := deliver_heard (p := p') (hcursor ▸ valid) ‹DataMessage›
    exact ⟨hdeliver.valid, by rw [← hcursor, ← hchan]; exact hdeliver.acks⟩
  · unfold receiveAck
    split
    · exact hsame
    split
    · exact hsame
    next p' hack =>
    exact .same valid (applyAck_recvCursor hack) (by rw [applyAck_chan hack])
      (by rw [applyAck_chan hack])
  · unfold receiveResize
    split <;> exact hsame
  · unfold receivePing
    split
    · exact hsame
    · exact .same valid rfl rfl rfl
  · unfold receivePong
    split <;> exact hsame
  · unfold receiveSessionEnd
    repeat' split
    all_goals exact hsame
  · unfold receiveGridBegin
    repeat' split
    all_goals first | exact hsame | exact .same valid rfl rfl rfl
  · unfold receiveGridChunk
    repeat' split
    all_goals first | exact hsame | exact .same valid rfl rfl rfl
  · -- the stream starts over, and nothing of it is owed an Ack
    unfold receiveGridEnd
    split
    · exact hsame
    split
    · exact hsame
    next hrole =>
    repeat' split
    all_goals first | exact hsame | exact ⟨.reset _ 0, .inr ⟨rfl, not_not.mp hrole⟩⟩
  · unfold receiveGridApplied
    repeat' split
    all_goals first | exact hsame | exact .same valid rfl rfl rfl
  all_goals exact hsame

/-- So does receiving a sealed one. -/
lemma receive_heard [DecidableEq K] (P : KeySchedule K) (valid : p.recvCursor.Valid) (now : Timestamp)
    (frame : FrameView K) : Heard p (p.receive P now frame).2 := by
  unfold receive
  split
  · exact .same valid rfl rfl rfl
  next plain opener _ =>
  have h := receivePlain_heard
    (p := { p with chan := { p.chan with opener := opener, lastHeard := now } }) valid plain
  exact ⟨h.valid, h.acks⟩

/-- What an agent has disposed of is never less. -/
lemma receive_grows [DecidableEq K] (P : KeySchedule K) (valid : p.recvCursor.Valid)
    (agent : p.chan.role = .agent) (now : Timestamp) (frame : FrameView K) :
    p.recvCursor.ackOffset ≤ (p.receive P now frame).2.recvCursor.ackOffset := by
  rcases (receive_heard P valid now frame).acks with ⟨-, -, hgrows⟩ | ⟨-, hclient⟩
  · exact hgrows
  · rw [agent] at hclient
    cases hclient

/-- A frame keeps the timers honest. -/
lemma receive_timed [DecidableEq K] (P : KeySchedule K) (timed : p.chan.Timed p.recvCursor)
    (valid : p.recvCursor.Valid) (now : Timestamp) (frame : FrameView K) :
    (p.receive P now frame).2.chan.Timed (p.receive P now frame).2.recvCursor ∧
      (p.receive P now frame).2.recvCursor.Valid := by
  have hsealer : (p.receive P now frame).2.chan.sealer = p.chan.sealer :=
    congrArg Prod.fst (receive_outbox P p now frame)
  have hheard := receive_heard P valid now frame
  refine ⟨⟨fun hsome => ?_, by rw [hsealer]; exact timed.frames, by rw [hsealer]; exact timed.bytes⟩,
    hheard.valid⟩
  rcases hheard.acks with ⟨hacked, hsince, hgrows⟩ | ⟨hnone, -⟩
  · rw [hacked]
    exact (timed.ack (hsince ▸ hsome)).trans_le hgrows
  · rw [hnone] at hsome
    cases hsome

/-- What a poll does to the Ack that is owed: none is, or the timer stands, or it is armed because one
is. -/
structure Spoke (p q : Port K) : Prop where
  cursor : q.recvCursor = p.recvCursor
  acks : q.chan.ackPendingSince = none ∨ q.chan.lastAckedOffset = p.chan.lastAckedOffset ∧
    (q.chan.ackPendingSince = p.chan.ackPendingSince ∨
      p.chan.lastAckedOffset < p.recvCursor.ackOffset)

/-- Nothing was said if neither the cursor nor the pending Ack changed. -/
lemma Spoke.same (cursor : q.recvCursor = p.recvCursor)
    (acked : q.chan.lastAckedOffset = p.chan.lastAckedOffset)
    (since : q.chan.ackPendingSince = p.chan.ackPendingSince) : Spoke p q :=
  ⟨cursor, .inr ⟨acked, .inl since⟩⟩

/-- A port as it was has said nothing. -/
lemma Spoke.refl (p : Port K) : Spoke p p := .same rfl rfl rfl

/-- Sealing says nothing of its own. -/
lemma sealThen_spoke (p : Port K) (out : Nat) (plain : Bytes) {done : Port K → Port K}
    (h : ∀ sealer, Spoke p (done { p with chan := { p.chan with sealer := sealer } })) :
    Spoke p (p.sealThen out plain done).2 := by
  unfold sealThen
  split
  · exact .refl p
  · exact h _

/-- A poll for Ping settles no Ack without sending it. -/
lemma pollPing_spoke (p : Port K) (now : Timestamp) (out : Nat) : Spoke p (p.pollPing now out).2 := by
  unfold pollPing
  repeat' split
  · exact .refl p
  · exact sealThen_spoke p out _ fun _ => .same rfl rfl rfl
  · exact .refl p

/-- Nor does a poll for Ack. -/
lemma pollAck_spoke (p : Port K) (now : Timestamp) (out : Nat) : Spoke p (p.pollAck now out).2 := by
  unfold pollAck
  dsimp only
  split
  · next howed =>
    split
    · have h := pollPing_spoke
        { p with chan := { p.chan with ackPendingSince := some now } } now out
      refine ⟨h.cursor, ?_⟩
      rcases h.acks with hnone | ⟨hacked, -⟩
      · exact .inl hnone
      · exact .inr ⟨hacked, .inr howed⟩
    · split
      · rw [writeInto_ack]
        exact sealThen_spoke p out _ fun _ => ⟨rfl, .inl rfl⟩
      · exact pollPing_spoke p now out
  · exact pollPing_spoke p now out

/-- Every candidate before the Ack leaves the Ack alone, but Data, which carries it. -/
lemma candidate_spoke (p : Port K) (out scratch : Nat) {res : Polled K}
    (h : p.pollPong out = some res ∨ p.pollGridApplied out = some res ∨
      p.pollGrid out scratch = some res ∨ p.pollData out scratch = some res ∨
      p.pollSessionEnd out = some res ∨ p.pollResize out = some res) : Spoke p res.2 := by
  rcases h with h | h | h | h | h | h
  · unfold pollPong at h
    repeat' split at h
    all_goals cases h
    exact sealThen_spoke p out _ fun _ => .same rfl rfl rfl
  · unfold pollGridApplied at h
    repeat' split at h
    all_goals cases h
    exact sealThen_spoke p out _ fun _ => .same rfl rfl rfl
  · unfold pollGrid pollGridBegin pollGridEnd at h
    repeat' split at h
    all_goals cases h
    · exact sealThen_spoke p out _ fun _ => .same rfl rfl rfl
    · unfold pollGridChunk
      dsimp only
      repeat' split
      · exact .refl p
      · exact .refl p
      · exact sealThen_spoke p out _ fun _ => .same rfl rfl rfl
    · exact sealThen_spoke p out _ fun _ => .same rfl rfl rfl
  · unfold pollData at h
    dsimp only at h
    repeat' split at h
    all_goals cases h
    · exact .refl p
    · exact sealThen_spoke p out _ fun _ => ⟨rfl, .inl rfl⟩
  · unfold pollSessionEnd at h
    repeat' split at h
    all_goals cases h
    · exact .refl p
    · exact sealThen_spoke p out _ fun _ => .same rfl rfl rfl
  · unfold pollResize at h
    repeat' split at h
    all_goals cases h
    exact sealThen_spoke p out _ fun _ => .same rfl rfl rfl

/-- Nor does the poll for the next frame. -/
lemma pollNext_spoke (p : Port K) (now : Timestamp) (out scratch : Nat) :
    Spoke p (p.pollNext now out scratch).2 := by
  have hcandidate : ∀ res : Polled K, _ → Spoke p res.2 := fun _ h => candidate_spoke p out scratch h
  unfold pollNext
  rcases hp : p.pollPong out with _ | res
  swap; · exact hcandidate res (.inl hp)
  rcases ha : p.pollGridApplied out with _ | res
  swap; · exact hcandidate res (.inr (.inl ha))
  rcases hg : p.pollGrid out scratch with _ | res
  swap; · exact hcandidate res (.inr (.inr (.inl hg)))
  rcases hd : p.pollData out scratch with _ | res
  swap; · exact hcandidate res (.inr (.inr (.inr (.inl hd))))
  rcases he : p.pollSessionEnd out with _ | res
  swap; · exact hcandidate res (.inr (.inr (.inr (.inr (.inl he)))))
  rcases hr : p.pollResize out with _ | res
  swap; · exact hcandidate res (.inr (.inr (.inr (.inr (.inr hr)))))
  exact pollAck_spoke p now out

/-- Nor does a whole poll. -/
lemma poll_spoke (P : KeySchedule K) (p : Port K) (now : Timestamp) (out scratch : Nat) :
    Spoke p (p.poll P now out scratch).2 := by
  have honce : Spoke p (p.pollOnce P now out scratch).2 := by
    unfold pollOnce
    split
    · exact .refl p
    next p₁ hrekey =>
    obtain ⟨sealer, start, rfl⟩ : ∃ sealer start,
        p₁ = { p with chan := { p.chan with sealer := sealer, epochStart := start } } := by
      unfold rekeyIfNeeded at hrekey
      repeat' split at hrekey
      all_goals cases hrekey
      · exact ⟨_, _, rfl⟩
      · exact ⟨_, _, rfl⟩
    split
    · exact .same rfl rfl rfl
    · have h := pollNext_spoke
        { p with chan := { p.chan with sealer := sealer, epochStart := start } } now out scratch
      exact ⟨h.cursor, h.acks⟩
  unfold poll
  split
  · exact .refl p
  split
  · exact .refl p
  split
  · next frame q hres =>
    rw [hres] at honce
    exact ⟨honce.cursor, honce.acks⟩
  · exact honce

/-- The limits of the sealer never change. -/
lemma seal_limits {s s' : FrameSealer K} {frame : FrameView K} {plain : Bytes}
    (h : s.seal out plain = .ok (frame, s')) :
    s'.frameLimit = s.frameLimit ∧ s'.byteLimit = s.byteLimit := by
  unfold FrameSealer.seal at h
  dsimp only at h
  repeat' split at h
  all_goals cases h
  exact ⟨rfl, rfl⟩

/-- Epochs are all of one size. -/
lemma poll_limits (P : KeySchedule K) (p : Port K) (now : Timestamp) (out scratch : Nat) :
    (p.poll P now out scratch).2.chan.sealer.frameLimit = p.chan.sealer.frameLimit ∧
      (p.poll P now out scratch).2.chan.sealer.byteLimit = p.chan.sealer.byteLimit := by
  have hkeys : ∀ sealer, p.SealsWith P now sealer →
      sealer.frameLimit = p.chan.sealer.frameLimit ∧ sealer.byteLimit = p.chan.sealer.byteLimit := by
    rintro sealer (rfl | ⟨-, hrekey⟩)
    · exact ⟨rfl, rfl⟩
    · unfold FrameSealer.rekey at hrekey
      split at hrekey
      · cases hrekey
      · cases hrekey
        exact ⟨rfl, rfl⟩
  cases poll_polls P p now out scratch with
  | silent start since keys answer after =>
    rw [after]
    exact hkeys _ keys
  | @sent sealer sealer' start since m done frame keys turn sealed answer after =>
    obtain ⟨q, hq, hafter⟩ := after
    have hsealer : q.chan.sealer = sealer' := by
      rw [hq]
      cases turn <;> rfl
    rw [hafter]
    obtain ⟨hframes, hbytes⟩ := seal_limits sealed
    obtain ⟨hframes', hbytes'⟩ := hkeys _ keys
    simp only [hsealer]
    exact ⟨hframes.trans hframes', hbytes.trans hbytes'⟩

/-- A poll keeps the timers honest. -/
lemma poll_timed (P : KeySchedule K) (timed : p.chan.Timed p.recvCursor) (now : Timestamp)
    (out scratch : Nat) :
    (p.poll P now out scratch).2.chan.Timed (p.poll P now out scratch).2.recvCursor ∧
      (p.poll P now out scratch).2.recvCursor = p.recvCursor := by
  have hspoke := poll_spoke P p now out scratch
  have hlimits := poll_limits P p now out scratch
  refine ⟨⟨fun hsome => ?_, hlimits.1 ▸ timed.frames, hlimits.2 ▸ timed.bytes⟩, hspoke.cursor⟩
  rw [hspoke.cursor]
  rcases hspoke.acks with hnone | ⟨hacked, hsince | howed⟩
  · rw [hnone] at hsome
    cases hsome
  · rw [hacked]
    exact timed.ack (hsince ▸ hsome)
  · rw [hacked]
    exact howed

end Port

/-- What can be called on a channel, and what its session does to the streams it borrows. -/
inductive PortCall (K : Type) where
  | receive (now : Timestamp) (frame : FrameView K)
  | poll (now : Timestamp) (out scratch : Nat)
  | setReadGate (open_ : Bool) (now : Timestamp)
  | setSendGate (open_ : Bool)
  | queueResize (size : ResizeMessage)
  | queueSessionEnd (message : SessionEndMessage)
  | queueGridApplied (streamGen : Nat)
  | suppressDataUntilGrid
  | startGrid (snapshot : Bytes) (flags streamGen scrollbackLen : Nat)
  /-- More is written, or a new generation opened. -/
  | output (sendBuf : SendBuffer)
  | markDelivered (count : Nat)
  | unreceive (count : Nat)

/-- One call. -/
def portStep [DecidableEq K] (P : KeySchedule K) (p : Port K) : PortCall K → Option (Port K)
  | .receive now frame => some (p.receive P now frame).2
  | .poll now out scratch => some (p.poll P now out scratch).2
  | .setReadGate open_ now => some { p with chan := p.chan.setReadGate open_ now }
  | .setSendGate open_ => some { p with chan := p.chan.setSendGate open_ }
  | .queueResize size => some { p with chan := p.chan.queueResize size }
  | .queueSessionEnd message => some { p with chan := p.chan.queueSessionEnd message }
  | .queueGridApplied streamGen => some { p with chan := p.chan.queueGridApplied streamGen }
  | .suppressDataUntilGrid => some { p with chan := p.chan.suppressDataUntilGrid }
  | .startGrid snapshot flags streamGen scrollbackLen =>
    some { p with chan := (p.chan.startGrid snapshot flags streamGen scrollbackLen).2 }
  | .output sendBuf => some { p with sendBuf := sendBuf }
  | .markDelivered count => some { p with recvCursor := (p.recvCursor.markDelivered count).2 }
  | .unreceive count => some { p with recvCursor := (p.recvCursor.unreceive count).2 }

/-- A channel just made on the streams of a session, with keys of which a Resume at most was sealed. -/
structure Port.Fresh (p : Port K) : Prop where
  chan : ∃ (frames : DirectionFrames K) (now : Timestamp) (liveness : LivenessLimits) (version : Nat)
    (snapshotBuf : Bytes) (agentStreamGen : Nat),
    0 < frames.sealer.frameLimit ∧ 0 < frames.sealer.byteLimit ∧
      p.chan = .create frames p.recvCursor now liveness version snapshotBuf agentStreamGen
  cursor : p.recvCursor.Valid

/-- What every channel keeps. -/
def Port.Kept (p : Port K) : Prop := p.chan.Timed p.recvCursor ∧ p.recvCursor.Valid

/-- A fresh port keeps its timers. -/
lemma Port.Fresh.kept {p : Port K} (h : p.Fresh) : p.Kept := by
  obtain ⟨⟨frames, now, liveness, version, snapshotBuf, agentStreamGen, hframes, hbytes, hchan⟩,
    hvalid⟩ := h
  refine ⟨?_, hvalid⟩
  rw [hchan]
  exact ⟨fun hsome => (by cases hsome), hframes, hbytes⟩

/-- Nothing the owner queues touches a timer of the Ack, or the keys. -/
lemma Channel.Timed.same {c c' : Channel K} {input : ReceiveCursor} (h : c.Timed input)
    (since : c'.ackPendingSince = c.ackPendingSince) (acked : c'.lastAckedOffset = c.lastAckedOffset)
    (sealer : c'.sealer = c.sealer) : c'.Timed input where
  ack := by rw [since, acked]; exact h.ack
  frames := sealer ▸ h.frames
  bytes := sealer ▸ h.bytes

/-- More of the input is disposed of. -/
lemma Channel.Timed.advance {c : Channel K} {input input' : ReceiveCursor} (h : c.Timed input)
    (grows : input.ackOffset ≤ input'.ackOffset) : c.Timed input' :=
  ⟨fun hsome => (h.ack hsome).trans_le grows, h.frames, h.bytes⟩

/-- Marking bytes delivered takes back no acknowledgement. -/
lemma ReceiveCursor.markDelivered_grows {c : ReceiveCursor} (h : c.Valid) (count : Nat) :
    (c.markDelivered count).2.Valid ∧ c.ackOffset ≤ (c.markDelivered count).2.ackOffset := by
  have hle := h.pending_le
  unfold markDelivered
  split
  · exact ⟨h, le_rfl⟩
  · refine ⟨⟨?_, fun hack => ?_⟩, ?_⟩
    · show c.pending - count ≤ c.recvOffset
      omega
    · show c.pending - count = 0
      rw [h.onReceipt hack, Nat.zero_sub]
    · show c.recvOffset - c.pending ≤ c.recvOffset - (c.pending - count)
      omega

/-- Nor does taking back what was never delivered. -/
lemma ReceiveCursor.unreceive_grows {c : ReceiveCursor} (h : c.Valid) (count : Nat) :
    (c.unreceive count).2.Valid ∧ c.ackOffset ≤ (c.unreceive count).2.ackOffset := by
  have hle := h.pending_le
  unfold unreceive
  split
  · exact ⟨h, le_rfl⟩
  · next hcount =>
    refine ⟨⟨?_, fun hack => ?_⟩, ?_⟩
    · show c.pending - count ≤ c.recvOffset - count
      omega
    · show c.pending - count = 0
      rw [h.onReceipt hack, Nat.zero_sub]
    · show c.recvOffset - c.pending ≤ c.recvOffset - count - (c.pending - count)
      omega

/-- Every call keeps the timers. -/
lemma Port.Kept.step [DecidableEq K] {P : KeySchedule K} {p q : Port K} {call : PortCall K}
    (h : p.Kept) (hstep : portStep P p call = some q) : q.Kept := by
  obtain ⟨htimed, hvalid⟩ := h
  cases call with
  | receive now frame =>
    cases hstep
    exact Port.receive_timed P htimed hvalid now frame
  | poll now out scratch =>
    cases hstep
    obtain ⟨htimed', hcursor⟩ := Port.poll_timed P htimed now out scratch
    exact ⟨htimed', hcursor ▸ hvalid⟩
  | queueGridApplied streamGen =>
    cases hstep
    refine ⟨?_, hvalid⟩
    dsimp only [Channel.queueGridApplied]
    split <;> exact htimed.same rfl rfl rfl
  | suppressDataUntilGrid =>
    cases hstep
    refine ⟨?_, hvalid⟩
    dsimp only [Channel.suppressDataUntilGrid]
    split <;> exact htimed.same rfl rfl rfl
  | startGrid snapshot flags streamGen scrollbackLen =>
    cases hstep
    refine ⟨?_, hvalid⟩
    rcases p.chan.startGrid_cases snapshot flags streamGen scrollbackLen with
      hno | ⟨-, -, -, -, hyes⟩
    · rw [hno]
      exact htimed
    · rw [hyes]
      exact htimed.same rfl rfl rfl
  | markDelivered count =>
    cases hstep
    obtain ⟨hvalid', hgrows⟩ := ReceiveCursor.markDelivered_grows hvalid count
    exact ⟨htimed.advance hgrows, hvalid'⟩
  | unreceive count =>
    cases hstep
    obtain ⟨hvalid', hgrows⟩ := ReceiveCursor.unreceive_grows hvalid count
    exact ⟨htimed.advance hgrows, hvalid'⟩
  | setReadGate | setSendGate | queueResize | queueSessionEnd | output =>
    cases hstep
    exact ⟨htimed.same rfl rfl rfl, hvalid⟩

end Zet.Session
