import Zet.Session.SealedStream
import Zet.Wire.Canonical

/-!
# What a channel refuses and what it accepts

`Channel::Receive` is to leave everything as it was when it refuses a frame. It parses and checks each
message before it changes anything, with one exception: the acknowledgement of a Data is taken before
its offset is looked at, and a Data that acknowledges and leaves a gap is refused with the
acknowledgement kept (`rejected_unmoved`).

It is to accept only what the codec of the message accepts. Every message is parsed, with one
exception: nothing looks at what follows the type byte of a GridEnd (`accepted_parses`).
-/

namespace Zet.Session
open Zet.Core Zet.Wire Zet.Lib

variable {K : Type}

/-- A Data that the port takes, that acknowledges something, and that starts above what has arrived or
ends beyond the 64 bits of an offset. -/
def Port.AcksAcrossGap (p : Port K) (plain : Bytes) : Prop :=
  ∃ body m rest, parseMessageType plain = .ok (.data, body) ∧ parseData body = .ok (m, rest) ∧
    ¬(p.chan.role = .client ∧ p.chan.gridReceiving.isSome) ∧ p.chan.gridAwaitingApplied = false ∧
    (p.sendBuf.base < m.ack ∧ m.ack ≤ p.sendBuf.end_) ∧
    (p.recvCursor.recvOffset < m.offset ∨ 2 ^ 64 - 1 < m.offset + m.payload.length)

/-- A segment is refused exactly when it leaves a gap. -/
lemma ReceiveCursor.receive_error_iff {c : ReceiveCursor} {offset : Nat} {bytes : Bytes}
    (some_ : bytes ≠ []) : (∃ e, c.receive offset bytes = .error e) ↔
      c.recvOffset < offset ∨ 2 ^ 64 - 1 < offset + bytes.length := by
  refine ⟨fun ⟨e, he⟩ => (receive_error he).2, fun h => ?_⟩
  cases hres : c.receive offset bytes with
  | error e => exact ⟨e, rfl⟩
  | ok r =>
    exfalso
    have hpos := List.length_pos_iff.mpr some_
    unfold ReceiveCursor.receive at hres
    split at hres
    · cases hres
    dsimp only at hres
    split at hres
    · cases hres
    · omega

/-- What an acknowledgement that is taken leaves: the same port, or one whose buffer starts later. -/
lemma Port.applyAck_cases {p q : Port K} {ack : Nat} (h : p.applyAck ack = .ok q) :
    q = p ∨ (p.chan.gridAwaitingApplied = false ∧ (p.sendBuf.base < ack ∧ ack ≤ p.sendBuf.end_) ∧
      q.sendBuf.base = ack) := by
  unfold Port.applyAck at h
  split at h
  · cases h
    exact .inl rfl
  next hwait =>
  unfold SendBuffer.acknowledge at h
  split at h
  · cases h
    exact .inl rfl
  next hlow =>
  split at h
  · cases h
  · next hhigh =>
    cases h
    exact .inr ⟨by simpa using hwait, ⟨by omega, by omega⟩, rfl⟩

/-- A Data that parses carries something. -/
lemma parseData_some {body rest : Bytes} {m : DataMessage} (h : parseData body = .ok (m, rest)) :
    m.payload ≠ [] := by
  obtain ⟨_, _, _, h⟩ := Reader.bind_eq_ok h
  obtain ⟨_, _, _, h⟩ := Reader.bind_eq_ok h
  obtain ⟨payload, _, _, h⟩ := Reader.bind_eq_ok h
  obtain ⟨hempty, h⟩ := Reader.check_eq_ok h
  obtain ⟨_, h⟩ := Reader.check_eq_ok h
  obtain ⟨_, _, _, h⟩ := Reader.bind_eq_ok h
  obtain ⟨rfl, _⟩ := Reader.pure_eq_ok h
  simpa using hempty

/-- A Data that is taken as far as its offset. -/
lemma Port.receiveData_parsed {p q : Port K} {body rest : Bytes} {m : DataMessage}
    (free : ¬(p.chan.role = .client ∧ p.chan.gridReceiving.isSome))
    (parsed : parseData body = .ok (m, rest)) (acked : p.applyAck m.ack = .ok q) :
    p.receiveData body = q.deliver m := by
  rw [Port.receiveData, if_neg free, parsed]
  simp only [acked]

/-- A segment that leaves a gap is refused with the port it was given to. -/
lemma Port.deliver_gap {p : Port K} {m : DataMessage} {e : StreamError}
    (h : p.recvCursor.receive m.offset m.payload = .error e) :
    p.deliver m = (.error (.stream e), p) := by
  unfold Port.deliver
  simp only [h]

/-- A segment is refused only for a gap. -/
lemma Port.deliver_error {p : Port K} {m : DataMessage} {e : SessionError}
    (h : (p.deliver m).1 = .error e) : ∃ e, p.recvCursor.receive m.offset m.payload = .error e := by
  cases hres : p.recvCursor.receive m.offset m.payload with
  | error e => exact ⟨e, rfl⟩
  | ok r =>
    exfalso
    unfold Port.deliver at h
    simp only [hres] at h
    split at h <;> cases h

/-- A refusal leaves the port as it was. -/
structure Port.Keeps (p : Port K) (res : Port.Received K) : Prop where
  same : ∀ e, res.1 = .error e → res.2 = p

/-- A refusal that leaves the port as it was keeps it. -/
lemma Port.Keeps.refused (p : Port K) (e : SessionError) : p.Keeps (.error e, p) := ⟨fun _ _ => rfl⟩

/-- Nothing is asked of a frame that is accepted. -/
lemma Port.Keeps.accepted (p q : Port K) (event : IncomingEvent) : p.Keeps (.ok event, q) :=
  ⟨fun _ h => (by cases h)⟩

/-- The acknowledgement of a Data that leaves a gap is kept. -/
lemma Port.receivePlain_gap {p : Port K} {plain : Bytes} (h : p.AcksAcrossGap plain) :
    ∃ e, (p.receivePlain plain).1 = .error e ∧
      (p.receivePlain plain).2.sendBuf.base ≠ p.sendBuf.base := by
  obtain ⟨body, m, rest, htype, hparse, hfree, hwait, ⟨hlow, hhigh⟩, hgap⟩ := h
  have hack : ∃ q, p.applyAck m.ack = .ok q ∧ q.sendBuf.base = m.ack := by
    rw [Port.applyAck, if_neg (by simp [hwait]), SendBuffer.acknowledge, if_neg (by omega),
      if_neg (by omega)]
    exact ⟨_, rfl, rfl⟩
  obtain ⟨q, hack, hbase⟩ := hack
  obtain ⟨e, he⟩ := (ReceiveCursor.receive_error_iff (parseData_some hparse)).mpr hgap
  rw [← Port.applyAck_recvCursor hack] at he
  rw [Port.receivePlain, htype]
  dsimp only
  rw [Port.receiveData_parsed hfree hparse hack, Port.deliver_gap he]
  exact ⟨_, rfl, by rw [hbase]; omega⟩

/-- Every other Data that is refused leaves the port as it was. -/
lemma Port.receiveData_keeps {p : Port K} {body : Bytes}
    (h : ∀ m rest, parseData body = .ok (m, rest) →
      ¬(p.chan.role = .client ∧ p.chan.gridReceiving.isSome) → p.chan.gridAwaitingApplied = false →
      p.sendBuf.base < m.ack ∧ m.ack ≤ p.sendBuf.end_ →
      ¬(p.recvCursor.recvOffset < m.offset ∨ 2 ^ 64 - 1 < m.offset + m.payload.length)) :
    p.Keeps (p.receiveData body) := by
  by_cases hfree : p.chan.role = .client ∧ p.chan.gridReceiving.isSome
  · rw [Port.receiveData, if_pos hfree]
    exact .refused ..
  cases hparse : parseData body with
  | error e =>
    rw [Port.receiveData, if_neg hfree, hparse]
    exact .refused ..
  | ok r =>
    obtain ⟨m, rest⟩ := r
    cases hack : p.applyAck m.ack with
    | error e =>
      rw [Port.receiveData, if_neg hfree, hparse]
      simp only [hack]
      exact .refused ..
    | ok q =>
      rw [Port.receiveData_parsed hfree hparse hack]
      refine ⟨fun e herr => ?_⟩
      obtain ⟨e, he⟩ := Port.deliver_error herr
      rw [Port.deliver_gap he]
      rcases Port.applyAck_cases hack with hsame | ⟨hwait, hmoves, -⟩
      · exact hsame
      · rw [Port.applyAck_recvCursor hack] at he
        exact absurd ((ReceiveCursor.receive_error_iff (parseData_some hparse)).mp ⟨e, he⟩)
          (h m rest hparse hfree hwait hmoves)

/-- A refused message of another type leaves the port as it was. -/
lemma Port.receivePlain_keeps {p : Port K} {plain body : Bytes} {type : MessageType}
    (htype : parseMessageType plain = .ok (type, body)) (other : type ≠ .data) :
    p.Keeps (p.receivePlain plain) := by
  rw [Port.receivePlain, htype]
  cases type with
  | data => exact absurd rfl other
  | ack =>
    simp only [Port.receiveAck]
    repeat' split
    all_goals first | exact .refused .. | exact .accepted ..
  | resize =>
    simp only [Port.receiveResize]
    split <;> first | exact .refused .. | exact .accepted ..
  | ping =>
    simp only [Port.receivePing]
    split <;> first | exact .refused .. | exact .accepted ..
  | pong =>
    simp only [Port.receivePong]
    split <;> first | exact .refused .. | exact .accepted ..
  | sessionEnd =>
    simp only [Port.receiveSessionEnd]
    repeat' split
    all_goals first | exact .refused .. | exact .accepted ..
  | gridBegin =>
    simp only [Port.receiveGridBegin]
    repeat' split
    all_goals first | exact .refused .. | exact .accepted ..
  | gridChunk =>
    simp only [Port.receiveGridChunk]
    repeat' split
    all_goals first | exact .refused .. | exact .accepted ..
  | gridEnd =>
    simp only [Port.receiveGridEnd]
    repeat' split
    all_goals first | exact .refused .. | exact .accepted ..
  | gridApplied =>
    simp only [Port.receiveGridApplied]
    repeat' split
    all_goals first | exact .refused .. | exact .accepted ..
  | _ => exact .refused ..

/-- A message that is refused, and is not such a Data, leaves the port as it was. -/
lemma Port.receivePlain_refused {p : Port K} {plain : Bytes} (h : ¬p.AcksAcrossGap plain) :
    p.Keeps (p.receivePlain plain) := by
  cases htype : parseMessageType plain with
  | error e =>
    unfold Port.receivePlain
    rw [htype]
    split
    · exact .accepted ..
    · exact .refused ..
    · next heq => cases heq
  | ok r =>
    obtain ⟨type, body⟩ := r
    by_cases hdata : type = .data
    · subst hdata
      rw [Port.receivePlain, htype]
      exact Port.receiveData_keeps fun m rest hparse hfree hwait hmoves hgap =>
        h ⟨body, m, rest, htype, hparse, hfree, hwait, hmoves, hgap⟩
    · exact Port.receivePlain_keeps htype hdata

variable [DecidableEq K]

/-- A frame that does not open leaves the opener where it was: at most the key of the next epoch has
been derived. -/
lemma FrameOpener.open_refused {P : KeySchedule K} {o : FrameOpener K} {frame : FrameView K}
    {e : ProtoError} (h : (o.open P frame).1 = .error e) :
    (o.open P frame).2 = o ∨ (o.open P frame).2 = o.prepareNext P := by
  unfold FrameOpener.open at h ⊢
  split
  · dsimp only
    split
    · exact .inr rfl
    · split
      · exact .inr rfl
      · next heq =>
        exfalso
        simp_all
  · split
    · exact .inl rfl
    split
    · exact .inl rfl
    split
    · exact .inl rfl
    · next heq =>
      exfalso
      simp_all

/-- What a frame that is refused leaves: the streams and all of the channel as they were, the time the
peer was heard and the opener apart; and these too if the frame did not open. -/
structure Port.Unmoved (P : KeySchedule K) (p q : Port K) (now : Timestamp) (frame : FrameView K) :
    Prop where
  sendBuf : q.sendBuf = p.sendBuf
  recvCursor : q.recvCursor = p.recvCursor
  chan : q.chan = { p.chan with lastHeard := q.chan.lastHeard, opener := q.chan.opener }
  opened : ∀ plain, (p.chan.opener.open P frame).1 = .ok plain → q.chan.lastHeard = now ∧
    q.chan.opener = (p.chan.opener.open P frame).2
  unopened : ∀ e, (p.chan.opener.open P frame).1 = .error e → q.chan.lastHeard = p.chan.lastHeard ∧
    q.chan.opener.counter = p.chan.opener.counter ∧ q.chan.opener.epoch = p.chan.opener.epoch ∧
    q.chan.opener.key = p.chan.opener.key

/-- Whatever the port and the frame, a refusal moves nothing, exactly when the frame does not open to a
Data that leaves a gap behind an acknowledgement. -/
theorem rejected_unmoved (P : KeySchedule K) (p : Port K) (now : Timestamp) (frame : FrameView K) :
    (∀ e, (p.receive P now frame).1 = .error e → p.Unmoved P (p.receive P now frame).2 now frame) ↔
      ¬∃ plain, (p.chan.opener.open P frame).1 = .ok plain ∧ p.AcksAcrossGap plain := by
  cases hopen : (p.chan.opener.open P frame).1 with
  | error e =>
    refine iff_of_true (fun _ _ => ?_) (by rintro ⟨_, ⟨⟩, -⟩)
    have hres : (p.receive P now frame).2 =
        { p with chan := { p.chan with opener := (p.chan.opener.open P frame).2 } } := by
      unfold Port.receive
      split
      · next heq => rw [heq]
      · next heq => rw [heq] at hopen; cases hopen
    rw [hres]
    refine ⟨rfl, rfl, rfl, fun _ hok => ?_, fun _ _ => ⟨rfl, ?_⟩⟩
    · rw [hopen] at hok
      cases hok
    dsimp only
    rcases FrameOpener.open_refused hopen with hsame | hnext
    · rw [hsame]
      exact ⟨rfl, rfl, rfl⟩
    · rw [hnext]
      unfold FrameOpener.prepareNext
      split <;> exact ⟨rfl, rfl, rfl⟩
  | ok plain =>
    rw [Port.receive_opened hopen]
    refine ⟨?_, fun hnot e herr => ?_⟩
    · rintro hkeeps ⟨_, ⟨⟩, hgap⟩
      obtain ⟨e, herr, hmoved⟩ := Port.receivePlain_gap
        (p := p.opened now (p.chan.opener.open P frame).2) hgap
      exact hmoved (congrArg SendBuffer.base (hkeeps e herr).sendBuf)
    · have hkeeps := Port.receivePlain_refused (p := p.opened now (p.chan.opener.open P frame).2)
        (fun hgap => hnot ⟨plain, rfl, hgap⟩)
      rw [hkeeps.same e herr]
      refine ⟨rfl, rfl, rfl, fun _ _ => ⟨rfl, rfl⟩, fun e' hopen' => ?_⟩
      rw [hopen] at hopen'
      cases hopen'

/-- The frame of a client that acknowledges the one byte there is, and skips five of its own. -/
def skippingFrame : Option (FrameView Nat) :=
  (((FrameSealer.create 7 [0] 10 1000).seal 1000 (Message.data 1 5 [66]).bytes).toOption).map Prod.fst

/-- After one poll, an agent's channel refuses the frame and gives up the byte it acknowledges. -/
theorem skipping_frame_acknowledges : ∃ w frame, skippingFrame = some frame ∧
    Run (wireStep .counting) Anywhere sampleWire [.poll 0 1000 1000] w ∧
    (w.port.receive .counting 0 frame).1 = .error (.stream .streamGap) ∧ w.port.sendBuf.base = 0 ∧
    (w.port.receive .counting 0 frame).2.sendBuf.base = 1 := by
  have hreach : ((exec (wireStep .counting) sampleWire [.poll 0 1000 1000]).any fun w =>
      skippingFrame.any fun frame =>
        decide ((w.port.receive .counting 0 frame).1 = .error (.stream .streamGap) ∧
          w.port.sendBuf.base = 0 ∧ (w.port.receive .counting 0 frame).2.sendBuf.base = 1)) = true := by
    decide +kernel
  obtain ⟨w, hw, hany⟩ := (Option.any_eq_true _ _).mp hreach
  obtain ⟨frame, hframe, hend⟩ := (Option.any_eq_true _ _).mp hany
  exact ⟨w, frame, hframe, .of_exec hw, of_decide_eq_true hend⟩

omit [DecidableEq K] in
/-- A GridEnd that ends a snapshot that is whole, with more behind its type byte. -/
def Port.EndsWithMore (p : Port K) (type : MessageType) (body : Bytes) : Prop :=
  type = .gridEnd ∧ body ≠ [] ∧ protocolVersionGrid ≤ p.chan.version ∧ p.chan.role = .client ∧
    ∃ r, p.chan.gridReceiving = some r ∧ r.bytesReceived = r.totalLen

omit [DecidableEq K] in
/-- What is read of a body, inside the sum of all messages. -/
lemma parseBody_ok {α : Type} {version : Nat} {type : MessageType} {parse : Reader α}
    {wrap : α → Wire.Message} (hparse : parseBody version type = wrap <$> parse) {body rest : Bytes}
    {a : α} (h : parse body = .ok (a, rest)) : ∃ m, parseBody version type body = .ok (m, []) := by
  have hbody : parseBody version type body = .ok (wrap a, rest) := by
    rw [hparse, map_eq_pure_bind, Reader.bind_ok h]
    rfl
  obtain ⟨rfl, -⟩ := parseBody_canonical hbody
  exact ⟨wrap a, hbody⟩

omit [DecidableEq K] in
/-- A message of another type is parsed before it is accepted. -/
lemma Port.receivePlain_parses {p : Port K} {plain body : Bytes} {type : MessageType}
    (htype : parseMessageType plain = .ok (type, body)) (other : type ≠ .gridEnd)
    (accepted : ∀ e, (p.receivePlain plain).1 ≠ .error e) :
    ∃ m, parseBody p.chan.version type body = .ok (m, []) := by
  rw [Port.receivePlain, htype] at accepted
  cases type with
  | gridEnd => exact absurd rfl other
  | data =>
    simp only [Port.receiveData] at accepted
    split at accepted
    · exact absurd rfl (accepted _)
    split at accepted
    · exact absurd rfl (accepted _)
    · next hparse => exact parseBody_ok rfl hparse
  | ack =>
    simp only [Port.receiveAck] at accepted
    split at accepted
    · exact absurd rfl (accepted _)
    · next hparse => exact parseBody_ok rfl hparse
  | resize =>
    simp only [Port.receiveResize] at accepted
    split at accepted
    · exact absurd rfl (accepted _)
    · next hparse => exact parseBody_ok rfl hparse
  | ping =>
    simp only [Port.receivePing] at accepted
    split at accepted
    · exact absurd rfl (accepted _)
    · next hparse => exact parseBody_ok rfl hparse
  | pong =>
    simp only [Port.receivePong] at accepted
    split at accepted
    · exact absurd rfl (accepted _)
    · next hparse => exact parseBody_ok rfl hparse
  | sessionEnd =>
    simp only [Port.receiveSessionEnd] at accepted
    split at accepted
    · exact absurd rfl (accepted _)
    split at accepted
    · exact absurd rfl (accepted _)
    · next hparse => exact parseBody_ok rfl hparse
  | gridBegin =>
    simp only [Port.receiveGridBegin] at accepted
    split at accepted
    · exact absurd rfl (accepted _)
    split at accepted
    · exact absurd rfl (accepted _)
    split at accepted
    · exact absurd rfl (accepted _)
    · next hparse => exact parseBody_ok rfl hparse
  | gridChunk =>
    simp only [Port.receiveGridChunk] at accepted
    split at accepted
    · exact absurd rfl (accepted _)
    split at accepted
    · exact absurd rfl (accepted _)
    split at accepted
    · exact absurd rfl (accepted _)
    · next hparse => exact parseBody_ok rfl hparse
  | gridApplied =>
    simp only [Port.receiveGridApplied] at accepted
    split at accepted
    · exact absurd rfl (accepted _)
    split at accepted
    · exact absurd rfl (accepted _)
    split at accepted
    · exact absurd rfl (accepted _)
    · next hparse => exact parseBody_ok rfl hparse
  | _ => exact absurd rfl (accepted _)

omit [DecidableEq K] in
/-- A GridEnd is accepted when a snapshot is whole, whatever follows its type byte. -/
lemma Port.receiveGridEnd_accepted (p : Port K) (body : Bytes) :
    (∀ e, (p.receiveGridEnd body).1 ≠ .error e) ↔
      protocolVersionGrid ≤ p.chan.version ∧ p.chan.role = .client ∧
        ∃ r, p.chan.gridReceiving = some r ∧ r.bytesReceived = r.totalLen := by
  refine ⟨fun accepted => ?_, ?_⟩
  · unfold Port.receiveGridEnd at accepted
    split at accepted
    · exact absurd rfl (accepted _)
    next hversion =>
    split at accepted
    · exact absurd rfl (accepted _)
    next hrole =>
    split at accepted
    · exact absurd rfl (accepted _)
    next r hr =>
    split at accepted
    · exact absurd rfl (accepted _)
    · next hwhole => exact ⟨Nat.not_lt.mp hversion, not_not.mp hrole, r, hr, not_not.mp hwhole⟩
  · rintro ⟨hversion, hrole, r, hr, hwhole⟩ e
    rw [Port.receiveGridEnd, if_neg (Nat.not_lt.mpr hversion), if_neg (not_not.mpr hrole), hr]
    simp [hwhole]

omit [DecidableEq K] in
/-- A message that is accepted parses, exactly when it is not such a GridEnd. -/
lemma Port.receivePlain_accepted {p : Port K} {plain body : Bytes} {type : MessageType}
    (htype : parseMessageType plain = .ok (type, body)) :
    ((∀ e, (p.receivePlain plain).1 ≠ .error e) →
      ∃ m, parseBody p.chan.version type body = .ok (m, [])) ↔ ¬p.EndsWithMore type body := by
  by_cases hend : type = .gridEnd
  · subst hend
    have hplain : p.receivePlain plain = p.receiveGridEnd body := by rw [Port.receivePlain, htype]
    have hparse : (∃ m, parseBody p.chan.version .gridEnd body = .ok (m, [])) ↔ body = [] := by
      refine ⟨fun ⟨m, hm⟩ => ?_, fun hnil => ⟨.gridEnd, by rw [hnil]; rfl⟩⟩
      obtain ⟨_, hread, -⟩ := Reader.map_eq_ok hm
      exact (requireExhausted_eq_ok hread).1
    rw [hplain, Port.receiveGridEnd_accepted, hparse]
    refine ⟨fun hnil hmore => hmore.2.1 (hnil hmore.2.2), fun hnot hwhole => ?_⟩
    by_contra hsome
    exact hnot ⟨rfl, hsome, hwhole⟩
  · exact iff_of_true (Port.receivePlain_parses htype hend) fun hmore => hend hmore.1

/-- Whatever the channel, a frame that opens to a message of a known type and is not refused is one
whose body the parser of that type accepts at the channel's version, exactly when it is not a GridEnd
that ends a whole snapshot with more behind its type byte. -/
theorem accepted_parses (P : KeySchedule K) (p : Port K) (now : Timestamp) (frame : FrameView K)
    {plain body : Bytes} {type : MessageType} (opened : (p.chan.opener.open P frame).1 = .ok plain)
    (known : parseMessageType plain = .ok (type, body)) :
    ((∀ e, (p.receive P now frame).1 ≠ .error e) →
      ∃ m, parseBody p.chan.version type body = .ok (m, [])) ↔ ¬p.EndsWithMore type body := by
  rw [Port.receive_opened opened]
  exact Port.receivePlain_accepted (p := p.opened now (p.chan.opener.open P frame).2) known

/-- A client's channel over counted keys, with storage for a snapshot. -/
def sampleScreen : Wired Nat where
  port :=
    ⟨.create (makeDirectionFrames .counting ⟨7, 8, [0], [1]⟩ .client 10 1000) (.create 0 .onReceipt) 0
        ⟨0, 0⟩ protocolVersionGrid [0, 0, 0, 0] 0, .create [] 0, .create 0 .onReceipt⟩
  sent := []

/-- What an agent seals: a snapshot of one byte, and its end with this behind it. -/
def sampleSnapshot (more : Bytes) : List (FrameView Nat) :=
  ((exec (sealStep .counting) (.start 8 [1] 10 1000)
    [.frame 1000 (Message.gridBegin ⟨0, 1, 0, 1⟩).bytes, .frame 1000 (Message.gridChunk 0 [65]).bytes,
      .frame 1000 (Message.gridEnd.bytes ++ more)]).map Sealing.sent).getD []

/-- The first two frames, and the one that ends the snapshot. -/
def sampleReceives (more : Bytes) : List (ChannelCall Nat) :=
  ((sampleSnapshot more).take 2).map (.receive 0)

/-- A snapshot frame that is accepted on a run from the start, and parses. -/
theorem accepted_parses_sample : ∃ w frame,
    Run (wireStep .counting) Anywhere sampleScreen (sampleReceives []) w ∧
    (w.port.receive .counting 0 frame).1 = .ok (.gridSnapshot [65] 1 0 0) ∧
    ∃ m, parseBody w.port.chan.version .gridEnd [] = .ok (m, []) := by
  have hreach : ((exec (wireStep .counting) sampleScreen (sampleReceives [])).any fun w =>
      ((sampleSnapshot [])[2]?).any fun frame =>
        decide ((w.port.chan.opener.open .counting frame).1 = .ok [0x18] ∧
          (w.port.receive .counting 0 frame).1 = .ok (.gridSnapshot [65] 1 0 0))) = true := by
    decide +kernel
  obtain ⟨w, hw, hany⟩ := (Option.any_eq_true _ _).mp hreach
  obtain ⟨frame, -, hend⟩ := (Option.any_eq_true _ _).mp hany
  obtain ⟨hopened, hsnapshot⟩ := of_decide_eq_true hend
  have hknown : parseMessageType [0x18] = .ok (.gridEnd, []) := rfl
  refine ⟨w, frame, .of_exec hw, hsnapshot, ?_⟩
  refine (accepted_parses .counting w.port 0 frame hopened hknown).mpr (fun hmore => hmore.2.1 rfl) ?_
  rintro e herr
  rw [hsnapshot] at herr
  cases herr

/-- A GridEnd with a byte behind it ends the snapshot all the same. -/
theorem trailing_gridEnd_accepted : ∃ w frame, (sampleSnapshot [0])[2]? = some frame ∧
    Run (wireStep .counting) Anywhere sampleScreen (sampleReceives [0]) w ∧
    (w.port.chan.opener.open .counting frame).1 = .ok [0x18, 0] ∧
    (w.port.receive .counting 0 frame).1 = .ok (.gridSnapshot [65] 1 0 0) ∧
    parseMessageType [0x18, 0] = .ok (.gridEnd, [0]) ∧
    parseBody w.port.chan.version .gridEnd [0] = .error .malformedField := by
  have hreach : ((exec (wireStep .counting) sampleScreen (sampleReceives [0])).any fun w =>
      ((sampleSnapshot [0])[2]?).any fun frame =>
        decide ((w.port.chan.opener.open .counting frame).1 = .ok [0x18, 0] ∧
          (w.port.receive .counting 0 frame).1 = .ok (.gridSnapshot [65] 1 0 0))) = true := by
    decide +kernel
  obtain ⟨w, hw, hany⟩ := (Option.any_eq_true _ _).mp hreach
  obtain ⟨frame, hframe, hend⟩ := (Option.any_eq_true _ _).mp hany
  obtain ⟨hopened, hsnapshot⟩ := of_decide_eq_true hend
  exact ⟨w, frame, hframe, .of_exec hw, hopened, hsnapshot, rfl, rfl⟩

end Zet.Session
