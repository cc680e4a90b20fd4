import Zet.Session.GridReception

/-!
# The transfer of a snapshot

The agent's channel is a sender of snapshots, however it is polled (`Port.Turn.conveys`). `Pair` is an
agent's and a client's channel under any calls of their owners, with the frames between them taken in
order. Its invariant is `Pair.Conveys`: the client, once it has taken the frames on their way, will
hold exactly what the agent has sent. `grid_transfer` is the conclusion.
-/

namespace Zet.Session
open Zet.Core Zet.Wire Zet.Lib

variable {K : Type}

/-- What the GridBegin of a snapshot on its way out announces. -/
def GridEmission.header (ge : GridEmission) : GridBeginMessage :=
  ⟨ge.flags, ge.streamGen, ge.scrollbackLen, ge.totalLen⟩

/-- A snapshot that can be sent to a client with this much storage, as far as it has been. -/
structure GridEmission.Conveyable (capacity : Nat) (ge : GridEmission) : Prop where
  flags : ge.flags < 256 ∧ gridBeginFlagReserved ge.flags = false
  gen : ge.streamGen < 2 ^ 32
  total : ge.totalLen = ge.snapshot.length
  pos : ge.totalLen ≠ 0
  fits : GridBeginMessage.Fits capacity ge.header
  within : ge.bytesSent ≤ ge.totalLen
  unbegun : ge.beginSent = false → ge.bytesSent = 0

/-- The receiver that has taken everything the channel sent, if it had delivered `shown` when the
snapshot that is on its way out was started. -/
def Channel.outgoing (c : Channel K) (newest : Nat) (shown : List (GridBeginMessage × Bytes)) :
    Intake GridBeginMessage UInt8 where
  coming := c.gridEmitting.bind fun ge =>
    if ge.beginSent then some (ge.header, ge.snapshot.take ge.bytesSent) else none
  newest := newest
  shown := shown

/-- The snapshot that is on its way out. -/
def Channel.emission (c : Channel K) : List (GridBeginMessage × Bytes) :=
  (c.gridEmitting.map fun ge => (ge.header, ge.snapshot)).toList

/-- What is on its way out can be sent, and its generation is later than `newest`. -/
def Channel.Conveyable (capacity newest : Nat) (c : Channel K) : Prop :=
  ∀ ge, c.gridEmitting = some ge → ge.Conveyable capacity ∧ newest < ge.streamGen

/-- Only the three messages of a snapshot are read as a part of one. -/
lemma pieceOf_other {m : Message} (hbegin : m.type ≠ .gridBegin) (hchunk : m.type ≠ .gridChunk)
    (hend : m.type ≠ .gridEnd) : pieceOf m.bytes = none := by
  rw [pieceOf, Message.bytes, parseMessageType_write m.type m.body]
  cases m with
  | gridBegin => exact absurd rfl hbegin
  | gridChunk => exact absurd rfl hchunk
  | gridEnd => exact absurd rfl hend
  | _ => rfl

/-- A GridBegin that can be conveyed is the piece that begins a snapshot. -/
lemma pieceOf_gridBegin {capacity : Nat} {ge : GridEmission} (h : ge.Conveyable capacity) :
    pieceOf (Message.gridBegin ge.header).bytes = some (.begins ge.header) := by
  have hgen : ge.header.streamGen % 256 ^ 4 = ge.header.streamGen := Nat.mod_eq_of_lt h.gen
  have hparse : parseGridBegin (Message.gridBegin ge.header).body = .ok (_, []) :=
    parseGridBegin_write h.flags.2 h.flags.1 h.pos h.fits.1 h.fits.2.2
  rw [pieceOf, Message.bytes, parseMessageType_write]
  simp only [Message.type, hparse, Except.toOption, Option.map_some, hgen]

/-- A GridChunk of some bytes is a chunk of one. -/
lemma pieceOf_gridChunk {offset : Nat} {items : Bytes} (low : offset < 256 ^ 4) (some_ : items ≠ [])
    (short : items.length ≤ gridChunkMaxData) :
    pieceOf (Message.gridChunk offset items).bytes = some (.chunk offset items) := by
  have hparse : parseGridChunk (Message.gridChunk offset items).body = .ok (_, []) :=
    parseGridChunk_write some_ short
  rw [pieceOf, Message.bytes, parseMessageType_write]
  simp only [Message.type, hparse, Except.toOption, Option.map_some, Nat.mod_eq_of_lt low]

/-- What a GridChunk that can be written carries. -/
lemma writeGridChunk_ok {offset room : Nat} {items plain : Bytes}
    (h : writeInto room (writeGridChunk ⟨offset, items⟩) = .ok plain) :
    items ≠ [] ∧ items.length ≤ gridChunkMaxData := by
  rw [writeInto, writeGridChunk] at h
  by_cases hempty : items.isEmpty = true
  · rw [if_pos hempty] at h
    cases h
  by_cases hlong : items.length > gridChunkMaxData
  · rw [if_neg hempty, if_pos hlong] at h
    cases h
  · exact ⟨fun hnil => hempty (by simp [hnil]), Nat.not_lt.mp hlong⟩

/-- What a turn of the agent's channel does for a receiver that takes everything it sends. -/
inductive Conveyed (capacity newest : Nat) (shown : List (GridBeginMessage × Bytes)) (c c' : Channel K)
    (plain : Bytes) : Prop
  | other (none : pieceOf plain = none) (same : c'.gridEmitting = c.gridEmitting)
  | piece (newest' : Nat) (shown' : List (GridBeginMessage × Bytes))
      {piece : Piece GridBeginMessage UInt8} (part : pieceOf plain = some piece)
      (take : takeGrid capacity (c.outgoing newest shown) piece = some (c'.outgoing newest' shown'))
      (all : shown' ++ c'.emission = shown ++ c.emission) (conveyable : c'.Conveyable capacity newest')
      (from_ : newest' = newest ∧ shown' = shown ∨ ∃ x ∈ shown', x.1.streamGen = newest')

/-- The agent's channel is a sender of snapshots. -/
lemma Port.Turn.conveys {p : Port K} {m : Message} {done : Port K → Port K} (turn : p.Turn m done)
    {capacity newest : Nat} (h : p.chan.Conveyable capacity newest)
    (shown : List (GridBeginMessage × Bytes)) {q : Port K}
    (same : q.chan.gridEmitting = p.chan.gridEmitting) :
    Conveyed capacity newest shown p.chan (done q).chan m.bytes := by
  have hwide : snapshotMaxBytes < 256 ^ 4 := by decide
  cases turn with
  | @gridBegin ge agent emitting first written =>
    obtain ⟨hge, hnewer⟩ := h ge emitting
    have hzero := hge.unbegun first
    refine .piece newest shown (pieceOf_gridBegin hge) ?_ ?_ ?_ (.inl ⟨rfl, rfl⟩)
    · have hok : (p.chan.outgoing newest shown).coming.isNone ∧
          GridBeginMessage.Fits capacity ge.header ∧
          (p.chan.outgoing newest shown).newest < ge.header.streamGen := by
        refine ⟨?_, hge.fits, hnewer⟩
        simp [Channel.outgoing, emitting, first]
      rw [takeGrid, Intake.take, if_pos hok]
      simp [Channel.outgoing, hzero]
      rfl
    · simp [Channel.emission, emitting]
      rfl
    · rintro _ ⟨⟩
      refine ⟨⟨hge.flags, hge.gen, hge.total, hge.pos, hge.fits, hge.within, ?_⟩, hnewer⟩
      rintro ⟨⟩
  | @gridChunk ge scratch agent emitting begun more written =>
    obtain ⟨hge, hnewer⟩ := h ge emitting
    obtain ⟨hsome, hshort⟩ := writeGridChunk_ok written
    have hmax := hge.fits.1
    have hlow : ge.bytesSent < 256 ^ 4 := by
      have hmax : ge.totalLen ≤ snapshotMaxBytes := hmax
      omega
    have hheld : (ge.snapshot.take ge.bytesSent).length = ge.bytesSent := by
      rw [List.length_take, ← hge.total]
      omega
    -- the chunk continues what was sent
    have hnext : ge.snapshot.take ge.bytesSent ++ ge.nextChunk scratch =
        ge.snapshot.take (ge.bytesSent + (ge.nextChunk scratch).length) := by
      rw [List.take_add]
      congr 1
      simp [GridEmission.nextChunk]
    have hroom : ge.bytesSent + (ge.nextChunk scratch).length ≤ ge.totalLen := by
      simp only [GridEmission.nextChunk, List.length_take]
      omega
    refine .piece newest shown (pieceOf_gridChunk hlow hsome hshort) ?_ ?_ ?_ (.inl ⟨rfl, rfl⟩)
    · have hcoming : (p.chan.outgoing newest shown).coming =
          some (ge.header, ge.snapshot.take ge.bytesSent) := by
        simp [Channel.outgoing, emitting, begun]
      rw [takeGrid, Intake.take, hcoming]
      dsimp only
      rw [if_pos ⟨by simpa using hsome, by rw [hheld], by rw [hheld]; exact hroom⟩, hnext]
      simp only [Channel.outgoing, Option.bind_some, begun, if_true]
      rfl
    · simp [Channel.emission, emitting]
      rfl
    · rintro _ ⟨⟩
      refine ⟨⟨hge.flags, hge.gen, hge.total, hge.pos, hge.fits, hroom, ?_⟩, hnewer⟩
      intro hnot
      rw [show ge.beginSent = false from hnot] at begun
      cases begun
  | @gridEnd ge agent emitting begun all =>
    obtain ⟨hge, hnewer⟩ := h ge emitting
    have hpart : pieceOf Message.gridEnd.bytes = some .ends := by
      rw [pieceOf, Message.bytes, parseMessageType_write]
      rfl
    -- nothing is left, so what the peer holds is the snapshot
    have hwhole : ge.snapshot.take ge.bytesSent = ge.snapshot :=
      List.take_of_length_le (by rw [← hge.total, all])
    refine .piece ge.streamGen (shown ++ [(ge.header, ge.snapshot)]) hpart ?_ ?_ ?_
      (.inr ⟨_, List.mem_append_right _ (List.mem_singleton_self _), rfl⟩)
    · have hcoming : (p.chan.outgoing newest shown).coming = some (ge.header, ge.snapshot) := by
        simp [Channel.outgoing, emitting, begun, hwhole]
      rw [takeGrid, Intake.take, hcoming]
      dsimp only
      rw [if_pos (show ge.snapshot.length = ge.header.totalLen from hge.total.symm)]
      rfl
    · simp [Channel.emission, emitting]
    · rintro _ ⟨⟩
  | _ => exact .other (pieceOf_other (by simp [Message.type]) (by simp [Message.type])
      (by simp [Message.type])) same

/-- An agent's and a client's channel. -/
structure Pair (K : Type) where
  agent : Wired K
  client : Hearing K
  /-- How many of the agent's frames the client has taken, and how many of the client's the agent. -/
  taken : Nat
  read : Nat
  /-- The snapshots StartGrid accepted. -/
  started : List (GridBeginMessage × Bytes)

/-- What can happen: a call of either owner, or a frame taken from the other end. -/
inductive PairCall (K : Type) where
  | agent (call : ChannelCall K)
  | client (call : ChannelCall K)
  | agentTakes (now : Timestamp)
  | clientTakes (now : Timestamp)

/-- Frames come from the other end only. -/
def ChannelCall.isReceive : ChannelCall K → Bool
  | .receive .. => true
  | _ => false

/-- The snapshot a call starts. -/
def startedBy (c : Channel K) : ChannelCall K → List (GridBeginMessage × Bytes)
  | .startGrid snapshot flags streamGen scrollbackLen =>
    if (c.startGrid snapshot flags streamGen scrollbackLen).1 then
      [(⟨flags, streamGen, scrollbackLen, snapshot.length⟩, snapshot)]
    else []
  | _ => []

section
variable [DecidableEq K]

/-- One step of the two channels. -/
def pairStep (P : KeySchedule K) (s : Pair K) : PairCall K → Option (Pair K)
  | .agent call =>
    if call.isReceive then none
    else (wireStep P s.agent call).map fun w =>
      { s with agent := w, started := s.started ++ startedBy s.agent.port.chan call }
  | .client call =>
    if call.isReceive then none else (hearStep P s.client call).map fun h => { s with client := h }
  | .agentTakes now =>
    (s.client.sent[s.read]?).map fun frame =>
      { s with
        agent := { s.agent with port := (s.agent.port.receive P now frame).2 }, read := s.read + 1 }
  | .clientTakes now =>
    (s.agent.sent[s.taken]?).map fun frame =>
      { s with client := s.client.receive P now frame, taken := s.taken + 1 }

/-- The agent announces its epochs, and its owner starts snapshots the wire knows, that the client has
room for, of ever later generations: later than `floor`, where the client began. -/
def Pair.InOrder (floor : Nat) (s : Pair K) : PairCall K → Prop
  | .agent (.startGrid snapshot flags streamGen scrollbackLen) =>
    (flags < 256 ∧ gridBeginFlagReserved flags = false) ∧ scrollbackLen ≤ snapshot.length ∧
      snapshot.length ≤ s.client.port.chan.snapshotBuf.length ∧ streamGen < 2 ^ 32 ∧
      floor < streamGen ∧ ∀ x ∈ s.started, x.1.streamGen < streamGen
  | .agent call => Announces s.agent call
  | _ => True

instance (floor : Nat) (s : Pair K) (call : PairCall K) : Decidable (s.InOrder floor call) := by
  unfold Pair.InOrder
  split <;> infer_instance

omit [DecidableEq K] in
/-- The pieces among frames. -/
def piecesOf (frames : List (FrameView K)) : List (Piece GridBeginMessage UInt8) :=
  frames.filterMap fun frame => pieceOf frame.body.plaintext

/-- What is on its way to the client brings it to where the agent is. -/
structure Pair.Flight (floor capacity : Nat) (s : Pair K) (newest : Nat)
    (shown : List (GridBeginMessage × Bytes)) : Prop where
  all : s.started = shown ++ s.agent.port.chan.emission
  run : Run (takeGrid capacity) Anywhere (s.client.port.chan.intake s.client.shown)
    (piecesOf (s.agent.sent.drop s.taken)) (s.agent.port.chan.outgoing newest shown)
  conveyable : s.agent.port.chan.Conveyable capacity newest
  from_ : newest = floor ∨ ∃ x ∈ shown, x.1.streamGen = newest

/-- The client, once it has taken the frames on their way, will hold what the agent has sent. -/
structure Pair.Conveys (P : KeySchedule K) (key : K) (o : FrameOpener K) (floor capacity : Nat)
    (s : Pair K) : Prop where
  followed : s.agent.sealing.Followed P key o
  agent : s.agent.port.chan.role = .agent
  client : s.client.port.chan.role = .client ∧ protocolVersionGrid ≤ s.client.port.chan.version
  opener : s.client.port.chan.opener = (openAll P o (s.agent.sent.take s.taken)).2
  receives : s.client.port.chan.Receives
  storage : s.client.port.chan.snapshotBuf.length = capacity
  taken : s.taken ≤ s.agent.sent.length
  flight : ∃ newest shown, s.Flight floor capacity newest shown

omit [DecidableEq K] in
/-- The snapshot on its way out, and the confirmation that is waited for. -/
def Channel.exchange (c : Channel K) : Option GridEmission × Bool × Nat :=
  (c.gridEmitting, c.gridAwaitingApplied, c.gridExpectedAppliedGen)

/-- What a call on the agent's channel does to the snapshot on its way out. -/
inductive Wired.Emits (w w' : Wired K) (call : ChannelCall K) : Prop
  | quiet (sent : w'.sent = w.sent) (same : w'.port.chan.exchange = w.port.chan.exchange)
      (none : startedBy w.port.chan call = [])
  | starts {snapshot : Bytes} {flags streamGen scrollbackLen : Nat}
      (starts : call = .startGrid snapshot flags streamGen scrollbackLen) (sent : w'.sent = w.sent)
      (idle : w.port.chan.gridEmitting = none ∧ w.port.chan.gridAwaitingApplied = false)
      (size : snapshot ≠ [] ∧ snapshot.length ≤ snapshotMaxBytes)
      (after : w'.port.chan.exchange =
        (some ⟨snapshot, streamGen, snapshot.length, scrollbackLen, flags, 0, false⟩, true, streamGen))
      (started : startedBy w.port.chan call =
        [(⟨flags, streamGen, scrollbackLen, snapshot.length⟩, snapshot)])
  | sends {m : Message} {done : Port K → Port K} {q : Port K} {frame : FrameView K}
      (turn : w.port.Turn m done) (same : q.chan.exchange = w.port.chan.exchange)
      (sent : w'.sent = w.sent ++ [frame]) (plain : frame.body.plaintext = m.bytes)
      (after : w'.port.chan.exchange = (done q).chan.exchange)
      (none : startedBy w.port.chan call = [])

/-- What a call sends is the next piece of the snapshot, or none. -/
lemma wireStep_emits {P : KeySchedule K} {w w' : Wired K} {call : ChannelCall K}
    (h : wireStep P w call = some w') (other : call.isReceive = false) : w.Emits w' call := by
  cases call with
  | poll now out scratch =>
    obtain rfl : w' = ⟨(w.port.poll P now out scratch).2,
        w.sent ++ frameOf (w.port.poll P now out scratch).1⟩ := (Option.some.inj h).symm
    cases Port.poll_polls P w.port now out scratch with
    | silent start since keys answer after =>
      refine .quiet ?_ (by rw [after]; rfl) rfl
      rcases answer with hnone | ⟨e, herr, -⟩
      · simp [hnone, frameOf]
      · simp [herr, frameOf]
    | sent start since keys turn sealed answer after =>
      obtain ⟨q, rfl, hafter⟩ := after
      refine .sends turn ?_ ?_ (FrameSealer.seal_plaintext sealed) (by rw [hafter]; rfl) rfl
      · rfl
      · simp [answer, frameOf]
  | receive now frame => cases other
  | queueGridApplied streamGen =>
    cases h
    refine .quiet rfl ?_ rfl
    simp only [Wired.onChannel, Channel.queueGridApplied]
    split <;> rfl
  | startGrid snapshot flags streamGen scrollbackLen =>
    cases h
    rcases w.port.chan.startGrid_cases snapshot flags streamGen scrollbackLen with
      hno | ⟨hidle, hfree, hsome, hmax, hyes⟩
    · refine .quiet rfl ?_ ?_
      · simp [Wired.onChannel, hno]
      · simp [startedBy, hno]
    · refine .starts rfl rfl ⟨hidle, hfree⟩ ⟨hsome, hmax⟩ ?_ ?_
      · simp [Wired.onChannel, hyes, Channel.exchange]
      · simp [startedBy, hyes]
  | suppressDataUntilGrid =>
    cases h
    refine .quiet rfl ?_ rfl
    simp only [Wired.onChannel, Channel.suppressDataUntilGrid]
    split <;> rfl
  | _ =>
    cases h
    exact .quiet rfl rfl rfl

omit [DecidableEq K] in
/-- A call that receives nothing is not one that does. -/
lemma ChannelCall.not_receive {call : ChannelCall K} (h : call.isReceive = false) :
    ∀ now frame, call ≠ .receive now frame := by
  rintro now frame rfl
  cases h

variable {P : KeySchedule K} {key : K} {o : FrameOpener K} {floor capacity : Nat} {s s' : Pair K}

omit [DecidableEq K] in
/-- What is going out depends on the emission alone. -/
lemma Channel.outgoing_eq {c c' : Channel K} (h : c'.gridEmitting = c.gridEmitting) (newest : Nat)
    (shown : List (GridBeginMessage × Bytes)) : c'.outgoing newest shown = c.outgoing newest shown := by
  rw [Channel.outgoing, h, Channel.outgoing]

omit [DecidableEq K] in
/-- So does the emission. -/
lemma Channel.emission_eq {c c' : Channel K} (h : c'.gridEmitting = c.gridEmitting) :
    c'.emission = c.emission := by
  rw [Channel.emission, h, Channel.emission]

/-- The agent's owner calls its channel. -/
lemma Pair.Conveys.agentCall (h : s.Conveys P key o floor capacity) {call : ChannelCall K}
    (ok : s.InOrder floor (.agent call)) (hstep : pairStep P s (.agent call) = some s') :
    s'.Conveys P key o floor capacity := by
  simp only [pairStep] at hstep
  split at hstep
  · cases hstep
  next hother =>
  have hother : call.isReceive = false := by simpa using hother
  obtain ⟨w, hw, rfl⟩ := Option.map_eq_some_iff.mp hstep
  have hannounces : Announces s.agent call := by
    cases call with
    | startGrid => trivial
    | _ => exact ok
  have hsent : ∃ more, w.sent = s.agent.sent ++ more := by
    cases wireStep_emits hw hother with
    | quiet sent => exact ⟨[], by simp [sent]⟩
    | starts _ sent => exact ⟨[], by simp [sent]⟩
    | sends _ _ sent => exact ⟨_, sent⟩
  obtain ⟨more, hmore⟩ := hsent
  have htaken := h.taken
  have hrole : w.port.chan.role = .agent := by
    have := congrArg Prod.fst (wireStep_inbox hw (ChannelCall.not_receive hother)).2
    exact this.trans h.agent
  refine ⟨followed_step h.followed hannounces hw, hrole, h.client, ?_, h.receives, h.storage, ?_, ?_⟩
  · rw [hmore, List.take_append_of_le_length htaken]
    exact h.opener
  · rw [hmore, List.length_append]
    exact Nat.le_add_right_of_le htaken
  obtain ⟨newest, shown, hflight⟩ := h.flight
  cases wireStep_emits hw hother with
  | quiet sent same none =>
    have same : w.port.chan.gridEmitting = s.agent.port.chan.gridEmitting := congrArg Prod.fst same
    refine ⟨newest, shown, ?_, ?_, ?_, hflight.from_⟩
    · simp only [none, List.append_nil, Channel.emission_eq same, hflight.all]
    · rw [sent, Channel.outgoing_eq same]
      exact hflight.run
    · rw [Channel.Conveyable, same]
      exact hflight.conveyable
  | @starts snapshot flags streamGen scrollbackLen starts sent idle size after started =>
    subst starts
    obtain ⟨idle, -⟩ := idle
    have emitting : w.port.chan.gridEmitting = some _ := congrArg Prod.fst after
    obtain ⟨hflags, hsplit, hroom, hgen, hfloor, hnewer⟩ := ok
    -- no snapshot is being sent, so all those started have been shown
    have hall : s.started = shown := by
      rw [hflight.all]
      simp [Channel.emission, idle]
    refine ⟨newest, shown, ?_, ?_, ?_, hflight.from_⟩
    · simp only [started, hall, Channel.emission, emitting, Option.map_some, Option.toList_some,
        GridEmission.header]
    · have hout : w.port.chan.outgoing newest shown = s.agent.port.chan.outgoing newest shown := by
        simp [Channel.outgoing, emitting, idle]
      rw [sent, hout]
      exact hflight.run
    · intro ge hge
      rw [emitting] at hge
      cases hge
      refine ⟨⟨hflags, hgen, rfl, ?_, ⟨size.2, ?_, hsplit⟩, Nat.zero_le _, fun _ => rfl⟩, ?_⟩
      · exact fun hzero => size.1 (List.length_eq_zero_iff.mp hzero)
      · rw [← h.storage]
        exact hroom
      · rcases hflight.from_ with rfl | ⟨x, hx, rfl⟩
        · exact hfloor
        · exact hnewer x (hall ▸ hx)
  | @sends m done q frame turn same sent plain after none =>
    -- one frame more is on its way, and at most one piece
    have hdrop : piecesOf (w.sent.drop s.taken) =
        piecesOf (s.agent.sent.drop s.taken) ++ (pieceOf m.bytes).toList := by
      rw [sent, List.drop_append_of_le_length htaken, piecesOf, List.filterMap_append]
      congr 1
      cases hp : pieceOf m.bytes <;> simp [plain, hp]
    have after : w.port.chan.gridEmitting = (done q).chan.gridEmitting := congrArg Prod.fst after
    cases turn.conveys hflight.conveyable shown (congrArg Prod.fst same) with
    | other nothing still =>
      have hsame : w.port.chan.gridEmitting = s.agent.port.chan.gridEmitting := after.trans still
      refine ⟨newest, shown, ?_, ?_, ?_, hflight.from_⟩
      · simp only [none, List.append_nil, Channel.emission_eq hsame, hflight.all]
      · rw [hdrop, nothing, Option.toList_none, List.append_nil, Channel.outgoing_eq hsame]
        exact hflight.run
      · rw [Channel.Conveyable, hsame]
        exact hflight.conveyable
    | piece newest' shown' part take all conveyable from_ =>
      refine ⟨newest', shown', ?_, ?_, ?_, ?_⟩
      · simp only [none, List.append_nil, Channel.emission_eq after, all, hflight.all]
      · rw [hdrop, part, Channel.outgoing_eq after]
        exact hflight.run.concat trivial take
      · rw [Channel.Conveyable, after]
        exact conveyable
      · rcases from_ with ⟨rfl, rfl⟩ | hfrom
        · exact hflight.from_
        · exact .inr hfrom

/-- The client's owner calls its channel. -/
lemma Pair.Conveys.clientCall (h : s.Conveys P key o floor capacity) {call : ChannelCall K}
    (hstep : pairStep P s (.client call) = some s') : s'.Conveys P key o floor capacity := by
  simp only [pairStep] at hstep
  split at hstep
  · cases hstep
  next hother =>
  have hother := ChannelCall.not_receive (by simpa using hother : call.isReceive = false)
  obtain ⟨client, hclient, rfl⟩ := Option.map_eq_some_iff.mp hstep
  rcases hearStep_cases hclient with ⟨now, frame, hreceive, -⟩ | ⟨w, -, hw, rfl⟩
  · exact absurd hreceive (hother now frame)
  obtain ⟨hinbox, hterms⟩ := wireStep_inbox hw hother
  obtain ⟨hrole, hrest⟩ := Prod.mk.inj hterms
  obtain ⟨hversion, hopener⟩ := Prod.mk.inj hrest
  obtain ⟨newest, shown, hflight⟩ := h.flight
  refine ⟨h.followed, h.agent, ⟨hrole.trans h.client.1, h.client.2.trans_eq hversion.symm⟩,
    hopener.trans h.opener, h.receives.keep hinbox, ?_, h.taken, newest, shown, hflight.all, ?_,
    hflight.conveyable, hflight.from_⟩
  · rw [← h.storage]
    exact congrArg List.length (Prod.mk.inj (Prod.mk.inj hinbox).2).1
  · have hintake := Channel.intake_eq hinbox s.client.shown
    exact hintake ▸ hflight.run

/-- The agent takes a frame of the client. -/
lemma Pair.Conveys.agentTakes (h : s.Conveys P key o floor capacity) {now : Timestamp}
    (hstep : pairStep P s (.agentTakes now) = some s') : s'.Conveys P key o floor capacity := by
  obtain ⟨frame, -, rfl⟩ := Option.map_eq_some_iff.mp hstep
  have hgrid : (s.agent.port.receive P now frame).2.chan.gridEmitting =
      s.agent.port.chan.gridEmitting := by
    rcases Face.hears_agentGrid (Port.receive_cases P 0 s.agent.port now frame) h.agent with
      hsame | ⟨-, -, -, hcleared⟩
    · exact congrArg GridState.emitting hsame
    · exact congrArg GridState.emitting hcleared
  have hrole : (s.agent.port.receive P now frame).2.chan.role = s.agent.port.chan.role :=
    congrArg Prod.fst (Port.receive_terms P s.agent.port now frame)
  have hsealing : (⟨(s.agent.port.receive P now frame).2, s.agent.sent⟩ : Wired K).sealing =
      s.agent.sealing :=
    congrArg (Sealing.mk · s.agent.sent) (Port.receive_sealer P s.agent.port now frame)
  obtain ⟨newest, shown, hflight⟩ := h.flight
  refine ⟨hsealing ▸ h.followed, hrole.trans h.agent, h.client, h.opener, h.receives, h.storage,
    h.taken, newest, shown, ?_, ?_, ?_, hflight.from_⟩
  · rw [hflight.all, ← Channel.emission_eq hgrid]
  · rw [Channel.outgoing_eq hgrid]
    exact hflight.run
  · rw [Channel.Conveyable, hgrid]
    exact hflight.conveyable

/-- The next frame of the agent opens. -/
lemma Pair.Conveys.opens (h : s.Conveys P key o floor capacity) {frame : FrameView K}
    (next : s.agent.sent[s.taken]? = some frame) :
    (s.client.port.chan.opener.open P frame).1 = .ok frame.body.plaintext ∧
      (s.client.port.chan.opener.open P frame).2 =
        (openAll P o (s.agent.sent.take (s.taken + 1))).2 := by
  have htake : s.agent.sent.take (s.taken + 1) = s.agent.sent.take s.taken ++ [frame] := by
    rw [List.take_add_one, next]
    rfl
  have hopened := openAll_take (P := P) o s.agent.sent (s.taken + 1)
  have hall : (openAll P o s.agent.sent).1 = s.agent.sent.map fun frame => .ok frame.body.plaintext :=
    h.followed.opened
  rw [hall, ← List.map_take, htake, openAll_append, List.map_append] at hopened
  rw [htake, openAll_append, h.opener]
  refine ⟨?_, rfl⟩
  have hlast := congrArg List.getLast? hopened
  simpa using hlast

/-- The client takes a frame of the agent. -/
lemma Pair.Conveys.clientTakes (h : s.Conveys P key o floor capacity) {now : Timestamp}
    (hstep : pairStep P s (.clientTakes now) = some s') : s'.Conveys P key o floor capacity := by
  obtain ⟨frame, hnext, rfl⟩ := Option.map_eq_some_iff.mp hstep
  obtain ⟨hopen, hopener⟩ := h.opens hnext
  obtain ⟨newest, shown, hflight⟩ := h.flight
  have hlt := (List.getElem?_eq_some_iff.mp hnext).1
  have hterms := Port.receive_terms P s.client.port now frame
  obtain ⟨hrole, hrest⟩ := Prod.mk.inj hterms
  obtain ⟨hversion, hopener'⟩ := Prod.mk.inj hrest
  have hdrop : piecesOf (s.agent.sent.drop s.taken) =
      (pieceOf frame.body.plaintext).toList ++ piecesOf (s.agent.sent.drop (s.taken + 1)) := by
    rw [List.drop_eq_getElem_cons hlt, (List.getElem?_eq_some_iff.mp hnext).2]
    cases hp : pieceOf frame.body.plaintext <;> simp [piecesOf, hp]
  have hrun := hflight.run
  rw [hdrop] at hrun
  have finish : ∀ {client : Hearing K}, client.port.chan = (s.client.port.receive P now frame).2.chan →
      client.port.chan.Receives → client.port.chan.snapshotBuf.length = capacity →
      Run (takeGrid capacity) Anywhere (client.port.chan.intake client.shown)
        (piecesOf (s.agent.sent.drop (s.taken + 1))) (s.agent.port.chan.outgoing newest shown) →
      ({ s with client := client, taken := s.taken + 1 } : Pair K).Conveys P key o floor capacity := by
    intro client hchan hreceives hstorage hrun
    refine ⟨h.followed, h.agent, ?_, ?_, hreceives, hstorage, hlt, newest, shown, hflight.all, hrun,
      hflight.conveyable, hflight.from_⟩
    · rw [hchan]
      exact ⟨hrole.trans h.client.1, h.client.2.trans_eq hversion.symm⟩
    · rw [hchan]
      exact hopener'.trans hopener
  cases Port.receive_took P h.receives s.client.shown now frame with
  | passed other nothing same =>
    have hnone : pieceOf frame.body.plaintext = none := by
      rcases other with hnone | ⟨e, herr⟩
      · exact hnone
      -- a piece where it belongs is not refused
      by_contra hsome
      obtain ⟨piece, hpiece⟩ := Option.ne_none_iff_exists'.mp hsome
      rw [hpiece] at hrun
      rw [Port.receive_opened hopen] at herr
      cases hrun with
      | cons _ take _ =>
        rw [← h.storage] at take
        obtain ⟨event, hok⟩ := Port.receivePlain_takes
          (p := s.client.port.opened now (s.client.port.chan.opener.open P frame).2) h.client.1
          h.client.2 h.receives hpiece take
        rw [hok] at herr
        cases herr
    rw [hnone] at hrun
    refine finish rfl (h.receives.keep same) ?_ ?_
    · rw [← h.storage]
      exact congrArg List.length (Prod.mk.inj (Prod.mk.inj same).2).1
    · have hintake := Channel.intake_eq same s.client.shown
      simp only [Hearing.receive, nothing, List.append_nil, hintake]
      exact hrun
  | @piece piece event part answer take storage receives =>
    rw [part] at hrun
    rw [h.storage] at take storage
    cases hrun with
    | cons _ take' rest =>
      rw [take] at take'
      cases take'
      exact finish rfl receives storage rest

omit [DecidableEq K] in
/-- Whether a frame carries Data. -/
def carriesData (frame : FrameView K) : Bool :=
  match parseMessageType frame.body.plaintext with
  | .ok (.data, _) => true
  | _ => false

omit [DecidableEq K] in
/-- A frame that begins a snapshot of this generation. -/
def Begins (gen : Nat) (frame : FrameView K) : Prop :=
  ∃ m, pieceOf frame.body.plaintext = some (.begins m) ∧ m.streamGen = gen

omit [DecidableEq K] in
/-- The client has said that the snapshot of this generation is on its screen. -/
def Applied (gen : Nat) (sent : List (FrameView K)) : Prop :=
  ∃ frame ∈ sent, Said.of protocolVersionGrid frame.body.plaintext = .gridApplied gen

omit [DecidableEq K] in
/-- What is on its way out is waited for. -/
structure Channel.Awaits (c : Channel K) : Prop where
  role : c.role = .agent
  emits : ∀ ge, c.gridEmitting = some ge →
    c.gridAwaitingApplied = true ∧ ge.streamGen = c.gridExpectedAppliedGen
  wide : c.gridExpectedAppliedGen < 2 ^ 32

omit [DecidableEq K] in
/-- A snapshot is begun only while it is waited for, and Data goes out only when none is. -/
lemma Port.Turn.awaits {p : Port K} {m : Message} {done : Port K → Port K} (turn : p.Turn m done)
    (h : p.chan.Awaits) {frame : FrameView K} (plain : frame.body.plaintext = m.bytes) {q : Port K}
    (same : q.chan.exchange = p.chan.exchange) :
    (∀ ge, (done q).chan.gridEmitting = some ge →
      p.chan.gridAwaitingApplied = true ∧ ge.streamGen = p.chan.gridExpectedAppliedGen) ∧
    (done q).chan.exchange.2 = p.chan.exchange.2 ∧
    (carriesData frame = true → p.chan.gridAwaitingApplied = false) ∧
    ∀ gen, Begins gen frame →
      p.chan.gridAwaitingApplied = true ∧ gen = p.chan.gridExpectedAppliedGen := by
  obtain ⟨hemitting, hwaits⟩ := Prod.mk.inj same
  obtain ⟨hawaiting, hexpected⟩ := Prod.mk.inj hwaits
  have hdata : carriesData frame = true → m.type = .data := by
    rw [carriesData, plain, Message.bytes, parseMessageType_write m.type m.body]
    cases m <;> simp [Message.type]
  have hbegins : ∀ gen, Begins gen frame → ∃ body rest m', m.type = .gridBegin ∧ body = m.body ∧
      parseGridBegin body = .ok (m', rest) ∧ m'.streamGen = gen := by
    rintro gen ⟨m', hpiece, hgen⟩
    rw [plain] at hpiece
    obtain ⟨body, rest, htype, hparse⟩ := pieceOf_begins hpiece
    rw [Message.bytes, parseMessageType_write] at htype
    obtain ⟨htype, hbody⟩ := Prod.mk.inj (Except.ok.inj htype)
    exact ⟨body, rest, m', htype, hbody.symm, hparse, hgen⟩
  have hother : m.type ≠ .gridBegin → ∀ gen, Begins gen frame →
      p.chan.gridAwaitingApplied = true ∧ gen = p.chan.gridExpectedAppliedGen := by
    intro hne gen hbegin
    obtain ⟨_, _, _, htype, _⟩ := hbegins gen hbegin
    exact absurd htype hne
  have hkeep : ∀ ge, q.chan.gridEmitting = some ge →
      p.chan.gridAwaitingApplied = true ∧ ge.streamGen = p.chan.gridExpectedAppliedGen := by
    rw [hemitting]
    exact h.emits
  cases turn with
  | @gridBegin ge agent emitting first written =>
    obtain ⟨hawait, hgen⟩ := h.emits ge emitting
    refine ⟨?_, hwaits, fun hd => (by cases hdata hd), fun gen hbegin => ⟨hawait, ?_⟩⟩
    · rintro _ ⟨⟩
      exact ⟨hawait, hgen⟩
    · obtain ⟨body, rest, m', -, rfl, hparse, rfl⟩ := hbegins gen hbegin
      rw [parseGridBegin_gen hparse, hgen]
      exact Nat.mod_eq_of_lt h.wide
  | @gridChunk ge scratch agent emitting begun more written =>
    obtain ⟨hawait, hgen⟩ := h.emits ge emitting
    refine ⟨?_, hwaits, fun hd => (by cases hdata hd), hother (by simp [Message.type])⟩
    rintro _ ⟨⟩
    exact ⟨hawait, hgen⟩
  | @gridEnd ge agent emitting begun all =>
    obtain ⟨hawait, -⟩ := h.emits ge emitting
    refine ⟨?_, ?_, fun hd => (by cases hdata hd), hother (by simp [Message.type])⟩
    · rintro _ ⟨⟩
    · exact Prod.ext hawait.symm hexpected
  | data pos cap avail free =>
    refine ⟨hkeep, hwaits, fun _ => ?_, hother (by simp [Message.type])⟩
    simp only [Port.dataSuppressed, h.role, beq_self_eq_true, Bool.true_and, Bool.or_eq_false_iff,
      Channel.gridInFlight] at free
    exact free.1.2
  | _ => exact ⟨hkeep, hwaits, fun hd => (by cases hdata hd), hother (by simp [Message.type])⟩

/-- Every snapshot that was begun is applied or waited for, and no Data went out behind one that was
not applied. -/
structure Pair.Withholds (s : Pair K) : Prop where
  awaits : s.agent.port.chan.Awaits
  begun : ∀ frame ∈ s.agent.sent, ∀ gen, Begins gen frame →
    Applied gen s.client.sent ∨ s.agent.port.chan.gridAwaitingApplied = true ∧
      gen = s.agent.port.chan.gridExpectedAppliedGen
  order : s.agent.sent.Pairwise fun a b => carriesData b = true → ∀ gen, Begins gen a →
    Applied gen s.client.sent

/-- The agent's owner calls its channel. -/
lemma Pair.Withholds.agentCall (h : s.Withholds) {call : ChannelCall K}
    (ok : s.InOrder floor (.agent call)) (hstep : pairStep P s (.agent call) = some s') :
    s'.Withholds := by
  simp only [pairStep] at hstep
  split at hstep
  · cases hstep
  next hother =>
  have hother : call.isReceive = false := by simpa using hother
  obtain ⟨w, hw, rfl⟩ := Option.map_eq_some_iff.mp hstep
  have hrole : w.port.chan.role = .agent := by
    have := congrArg Prod.fst (wireStep_inbox hw (ChannelCall.not_receive hother)).2
    exact this.trans h.awaits.role
  cases wireStep_emits hw hother with
  | quiet sent same none =>
    obtain ⟨hemitting, hwaits⟩ := Prod.mk.inj same
    obtain ⟨hawaiting, hexpected⟩ := Prod.mk.inj hwaits
    refine ⟨⟨hrole, ?_, by rw [hexpected]; exact h.awaits.wide⟩, ?_, by rw [sent]; exact h.order⟩
    · rw [hemitting, hawaiting, hexpected]
      exact h.awaits.emits
    · rw [sent, hawaiting, hexpected]
      exact h.begun
  | @starts snapshot flags streamGen scrollbackLen starts sent idle size after started =>
    subst starts
    obtain ⟨hemitting, hwaits⟩ := Prod.mk.inj after
    obtain ⟨hawaiting, hexpected⟩ := Prod.mk.inj hwaits
    refine ⟨⟨hrole, ?_, ?_⟩, ?_, by rw [sent]; exact h.order⟩
    · intro ge hge
      rw [hemitting] at hge
      cases hge
      exact ⟨hawaiting, hexpected.symm⟩
    · rw [hexpected]
      exact ok.2.2.2.1
    · rw [sent]
      intro frame hframe gen hbegins
      rcases h.begun frame hframe gen hbegins with happlied | ⟨hwaiting, -⟩
      · exact .inl happlied
      · rw [idle.2] at hwaiting
        cases hwaiting
  | @sends m done q frame turn same sent plain after none =>
    obtain ⟨hemits, hstill, hdata, hbegins⟩ := turn.awaits h.awaits plain same
    have hwaits : w.port.chan.exchange.2 = s.agent.port.chan.exchange.2 :=
      (congrArg Prod.snd after).trans hstill
    obtain ⟨hawaiting, hexpected⟩ := Prod.mk.inj hwaits
    have hemitting : w.port.chan.gridEmitting = (done q).chan.gridEmitting := congrArg Prod.fst after
    refine ⟨⟨hrole, ?_, by rw [hexpected]; exact h.awaits.wide⟩, ?_, ?_⟩
    · rw [hemitting, hawaiting, hexpected]
      exact hemits
    · rw [sent, hawaiting, hexpected]
      intro x hx gen hbegin
      rcases List.mem_append.mp hx with hx | hx
      · exact h.begun x hx gen hbegin
      · rw [List.mem_singleton.mp hx] at hbegin
        exact .inr (hbegins gen hbegin)
    · rw [sent, List.pairwise_append]
      refine ⟨h.order, List.pairwise_singleton _ _, fun a ha b hb hcarries gen hbegin => ?_⟩
      rw [List.mem_singleton.mp hb] at hcarries
      rcases h.begun a ha gen hbegin with happlied | ⟨hwaiting, -⟩
      · exact happlied
      · rw [hdata hcarries] at hwaiting
        cases hwaiting

omit [DecidableEq K] in
/-- What has been applied stays so. -/
lemma Applied.mono {gen : Nat} {sent sent' : List (FrameView K)} (h : Applied gen sent)
    (more : sent ⊆ sent') : Applied gen sent' := by
  obtain ⟨frame, hframe, hsaid⟩ := h
  exact ⟨frame, more hframe, hsaid⟩

omit [DecidableEq K] in
/-- What the client says later changes nothing. -/
lemma Pair.Withholds.more (h : s.Withholds) (agent : s'.agent = s.agent)
    (more : s.client.sent ⊆ s'.client.sent) : s'.Withholds := by
  refine ⟨agent ▸ h.awaits, ?_, ?_⟩
  · rw [agent]
    intro frame hframe gen hbegins
    exact (h.begun frame hframe gen hbegins).imp_left fun happlied => happlied.mono more
  · rw [agent]
    exact h.order.imp fun hab hcarries gen hbegins => (hab hcarries gen hbegins).mono more

/-- No call takes a frame back. -/
lemma wireStep_sent {w w' : Wired K} {call : ChannelCall K} (h : wireStep P w call = some w') :
    w.sent ⊆ w'.sent := by
  rcases wireStep_cases h with heq | ⟨_, _, _, res, _, _, _, _, hsent⟩
  · rw [← show w'.sent = w.sent from congrArg Sealing.sent heq]
    exact List.Subset.refl _
  · rw [hsent]
    exact List.subset_append_left _ _

/-- The agent takes a frame of the client. -/
lemma Pair.Withholds.agentTakes (h : s.Withholds) {now : Timestamp}
    (hstep : pairStep P s (.agentTakes now) = some s') : s'.Withholds := by
  obtain ⟨frame, hframe, rfl⟩ := Option.map_eq_some_iff.mp hstep
  rcases Face.hears_agentGrid (Port.receive_cases P protocolVersionGrid s.agent.port now frame)
    h.awaits.role with hsame | ⟨hsaid, hwaiting, hidle, hcleared⟩
  · have hrole : (s.agent.port.receive P now frame).2.chan.role = s.agent.port.chan.role :=
      congrArg GridState.role hsame
    have hemitting : (s.agent.port.receive P now frame).2.chan.gridEmitting =
        s.agent.port.chan.gridEmitting := congrArg GridState.emitting hsame
    have hawaiting : (s.agent.port.receive P now frame).2.chan.gridAwaitingApplied =
        s.agent.port.chan.gridAwaitingApplied := congrArg GridState.awaitingApplied hsame
    have hexpected : (s.agent.port.receive P now frame).2.chan.gridExpectedAppliedGen =
        s.agent.port.chan.gridExpectedAppliedGen := congrArg GridState.expectedGen hsame
    refine ⟨⟨hrole.trans h.awaits.role, ?_, by rw [hexpected]; exact h.awaits.wide⟩, ?_, h.order⟩
    · rw [hemitting, hawaiting, hexpected]
      exact h.awaits.emits
    · rw [hawaiting, hexpected]
      exact h.begun
  · have hrole : (s.agent.port.receive P now frame).2.chan.role = s.agent.port.chan.role :=
      congrArg GridState.role hcleared
    have hemitting : (s.agent.port.receive P now frame).2.chan.gridEmitting = none :=
      (congrArg GridState.emitting hcleared).trans hidle
    have hexpected : (s.agent.port.receive P now frame).2.chan.gridExpectedAppliedGen =
        s.agent.port.chan.gridExpectedAppliedGen := congrArg GridState.expectedGen hcleared
    refine ⟨⟨hrole.trans h.awaits.role, ?_, by rw [hexpected]; exact h.awaits.wide⟩, ?_, h.order⟩
    · rw [hemitting]
      rintro _ ⟨⟩
    · intro x hx gen hbegins
      left
      rcases h.begun x hx gen hbegins with happlied | ⟨-, rfl⟩
      · exact happlied
      · exact ⟨frame, List.mem_of_getElem? hframe, hsaid⟩

omit [DecidableEq K] in
/-- How much of a snapshot is still to be sent: GridBegin, its bytes, GridEnd. -/
def Channel.remaining (c : Channel K) : Nat :=
  match c.gridEmitting with
  | none => 0
  | some ge => (if ge.beginSent then 1 else 2) + (ge.totalLen - ge.bytesSent)

/-- A GridChunk with something in it, and not too much, is written. -/
lemma writeInto_gridChunk_ok {offset : Nat} {items : Bytes} (some_ : items ≠ [])
    (short : items.length ≤ gridChunkMaxData) :
    writeInto (5 + items.length) (writeGridChunk ⟨offset, items⟩) =
      .ok (Message.gridChunk offset items).bytes := by
  have hfive : ¬5 + items.length < 1 := by omega
  rw [writeInto, writeGridChunk, if_neg (by simpa using some_), if_neg (Nat.not_lt.mpr short)]
  simp [writeMessageType, writeBE, writeBytes, bind, StateT.bind, Except.bind, Except.map, hfive,
    Message.bytes, Message.type, Message.body]

omit [DecidableEq K] in
/-- With keys and room for it, the next piece of a snapshot is sent. -/
lemma Port.pollGrid_sends {p : Port K} {ge : GridEmission} {out scratch : Nat}
    (emitting : p.chan.gridEmitting = some ge) (h : ge.Conveyable capacity)
    (agent : p.chan.role = .agent) (fresh : p.chan.sealer.counter < p.chan.sealer.frameLimit)
    (admissible : 6 ≤ scratch) (room : headerSize + (max scratch 14 + tagSize) ≤ out) :
    ∃ frame piece q, p.pollGrid out scratch = some (.ok (some frame), q) ∧
      pieceOf frame.body.plaintext = some piece ∧ q.chan.remaining < p.chan.remaining := by
  have hframe : 14 + tagSize ≤ maxFrame := by decide
  have hchunk : 5 + gridChunkMaxData + tagSize = maxFrame := by decide
  have hmax : ge.totalLen ≤ snapshotMaxBytes := h.fits.1
  have hwide : snapshotMaxBytes < 256 ^ 4 := by decide
  have hwithin := h.within
  rw [Port.pollGrid, emitting]
  dsimp only
  rw [if_neg (by simp [agent])]
  by_cases hfirst : ge.beginSent = false
  · -- the GridBegin comes first
    have hwrite : ∃ plain, writeInto 14 (writeGridBegin ge.header) = .ok plain :=
      writeGridBegin_ok h.flags.2 h.pos hmax h.fits.2.2
    obtain ⟨plain, hplain⟩ := hwrite
    have hbytes := writeInto_gridBegin hplain
    have hlength : plain.length = 14 := by
      rw [hbytes]
      simp [Message.bytes, Message.body]
    obtain ⟨frame, sealer, hseal⟩ := FrameSealer.seal_fresh fresh (by omega)
      (by omega : headerSize + (plain.length + tagSize) ≤ out)
    rw [if_pos (by simp [hfirst]), Port.pollGridBegin]
    simp only [GridEmission.header] at hplain
    simp only [hplain, Port.sealThen, hseal]
    refine ⟨frame, .begins ge.header, _, rfl, ?_, ?_⟩
    · rw [FrameSealer.seal_plaintext hseal, hbytes]
      exact pieceOf_gridBegin h
    · simp [Channel.remaining, emitting, hfirst]
  have hbegun : ge.beginSent = true := by simpa using hfirst
  rw [if_neg (by simp [hbegun])]
  by_cases hmore : ge.bytesSent < ge.totalLen
  · -- then what the scratch holds of the rest, which is never nothing
    have hlength : (ge.nextChunk scratch).length =
        min (min gridChunkMaxData (scratch - 5)) (ge.totalLen - ge.bytesSent) := by
      simp only [GridEmission.nextChunk, List.length_take, List.length_drop, ← h.total]
      omega
    have hpositive : 0 < gridChunkMaxData := by decide
    have hsome : ge.nextChunk scratch ≠ [] := by
      rw [← List.length_pos_iff, hlength]
      omega
    have hshort : (ge.nextChunk scratch).length ≤ gridChunkMaxData := by omega
    have hbytes : (Message.gridChunk ge.bytesSent (ge.nextChunk scratch)).bytes.length =
        5 + (ge.nextChunk scratch).length := by
      simp [Message.bytes, Message.body]
      omega
    obtain ⟨frame, sealer, hseal⟩ := FrameSealer.seal_fresh fresh
      (by omega : (Message.gridChunk ge.bytesSent (ge.nextChunk scratch)).bytes.length + tagSize ≤ maxFrame)
      (by omega : headerSize +
        ((Message.gridChunk ge.bytesSent (ge.nextChunk scratch)).bytes.length + tagSize) ≤ out)
    rw [if_pos hmore, Port.pollGridChunk, if_neg (by omega)]
    simp only [writeInto_gridChunk_ok hsome hshort, Port.sealThen, hseal]
    refine ⟨frame, .chunk ge.bytesSent (ge.nextChunk scratch), _, rfl, ?_, ?_⟩
    · rw [FrameSealer.seal_plaintext hseal]
      exact pieceOf_gridChunk (by omega) hsome hshort
    · simp only [Channel.remaining, emitting, hbegun]
      omega
  · -- and the GridEnd once all of it is sent
    have hroom : headerSize + (Message.gridEnd.bytes.length + tagSize) ≤ out := by
      simp [Message.bytes, Message.body]
      omega
    obtain ⟨frame, sealer, hseal⟩ := FrameSealer.seal_fresh fresh (by decide) hroom
    rw [if_neg hmore, if_pos (by omega), Port.pollGridEnd, writeInto_gridEnd]
    simp only [Port.sealThen, hseal]
    refine ⟨frame, .ends, _, rfl, ?_, ?_⟩
    · rw [FrameSealer.seal_plaintext hseal, pieceOf, Message.bytes, parseMessageType_write]
      rfl
    · simp [Channel.remaining, emitting, hbegun]

omit [DecidableEq K] in
/-- A snapshot comes right behind the Pong. -/
lemma Port.pollNext_grid {p : Port K} {out scratch : Nat} {res : Port.Polled K}
    (h : p.pollGrid out scratch = some res) (noPong : p.chan.pendingPong = none)
    (agent : p.chan.role = .agent) (now : Timestamp) : p.pollNext now out scratch = res := by
  have hpong : p.pollPong out = none := by rw [Port.pollPong, noPong]
  have happlied : p.pollGridApplied out = none := by
    unfold Port.pollGridApplied
    split
    · rfl
    · rw [if_pos (by simp [agent])]
  rw [Port.pollNext, hpong, happlied, h]
  rfl

omit [DecidableEq K] in
/-- A poll of the agent sends the next piece of its snapshot, when nothing else keeps it from it. -/
lemma Port.poll_grid (P : KeySchedule K) {p : Port K} {ge : GridEmission} {now : Timestamp}
    {out scratch : Nat} (emitting : p.chan.gridEmitting = some ge) (h : ge.Conveyable capacity)
    (agent : p.chan.role = .agent) (noPong : p.chan.pendingPong = none)
    (keys : p.chan.sealer.epoch < 0xFF ∧ 0 < p.chan.sealer.frameLimit)
    (heard : now < p.chan.lastHeard + p.chan.liveness.peerSilenceTimeout ∨
      p.chan.liveness.peerSilenceTimeout = 0)
    (gate : p.chan.sendGateClosed = false) (admissible : 6 ≤ scratch)
    (room : headerSize + (max scratch 14 + tagSize) ≤ out) :
    ∃ frame piece, (p.poll P now out scratch).1 = .ok (some frame) ∧
      pieceOf frame.body.plaintext = some piece ∧
      (p.poll P now out scratch).2.chan.remaining < p.chan.remaining := by
  have hroom : headerSize + 1 + tagSize ≤ out := by omega
  obtain ⟨sealer, start, hfresh, hpoll⟩ := Port.poll_next P keys heard gate hroom scratch
  obtain ⟨frame, piece, q, hgrid, hpiece, hless⟩ := Port.pollGrid_sends
    (p := { p with chan := { p.chan with sealer := sealer, epochStart := start } })
    emitting h agent hfresh admissible room
  rw [hpoll (Port.pollNext_grid hgrid noPong agent now)]
  exact ⟨frame, piece, rfl, hpiece, hless⟩

/-- An end that delivers a snapshot starts its stream at 0. -/
lemma Face.hears_snapshot {f : Face} {said : Said} {out : Except SessionError IncomingEvent × Face}
    (h : f.Hears said out) {bytes : Bytes} {streamGen scrollbackLen flags : Nat}
    (hout : out.1 = .ok (.gridSnapshot bytes streamGen scrollbackLen flags)) :
    out.2.recvCursor.recvOffset = 0 ∧ out.2.grid.receiving = none := by
  cases h with
  | gridEnd => exact ⟨rfl, rfl⟩
  | data =>
    unfold Face.hearData Face.deliver at hout
    split at hout
    · cases hout
    split at hout
    · cases hout
    split at hout <;> cases hout
  | ack =>
    unfold Face.hearAck at hout
    split at hout <;> cases hout
  | _ => cases hout

omit [DecidableEq K] in
/-- A channel whose stream is at 0 delivers Data from there. -/
lemma Port.receivePlain_first {p q : Port K} {ack : Nat} {payload : Bytes}
    (idle : p.chan.gridReceiving = none) (start : p.recvCursor.recvOffset = 0)
    (acked : p.applyAck (ack % 256 ^ 8) = .ok q) (some_ : payload ≠ [])
    (short : payload.length ≤ maxDataPayload) :
    (p.receivePlain (Message.data ack 0 payload).bytes).1 = .ok (.data payload 0) := by
  have hcursor := Port.applyAck_recvCursor acked
  have hmax : maxDataPayload ≤ 2 ^ 64 - 1 := by decide
  have hpos := List.length_pos_iff.mpr some_
  rw [Port.receivePlain, Message.bytes, parseMessageType_write]
  simp only [Message.type, Message.body, Port.receiveData, idle, Option.isSome_none,
    Bool.false_eq_true, and_false, if_false, parseData_write some_ short, acked, Port.deliver, hcursor]
  rw [ReceiveCursor.receive, if_neg (by omega)]
  simp only [start]
  rw [if_neg (by simp), if_neg (by simp; omega)]
  simp [some_]

/-- The two channels of a connection that has just been made: the client opens what the agent seals,
and nothing has been sent. -/
structure Pair.Fresh (P : KeySchedule K) (key : K) (salt : Bytes) (frameLimit byteLimit : Nat)
    (s : Pair K) : Prop where
  sealer : s.agent.port.chan.sealer = .create key salt frameLimit byteLimit
  opener : s.client.port.chan.opener = .create P key salt frameLimit
  agent : s.agent.port.chan.role = .agent ∧ s.agent.port.chan.exchange = (none, false, 0)
  client : s.client.port.chan.role = .client ∧ protocolVersionGrid ≤ s.client.port.chan.version
  idle : s.client.port.chan.gridReceiving = none
  unsent : s.agent.sent = [] ∧ s.client.sent = [] ∧ s.taken = 0
  unheard : s.client.heard = [] ∧ s.client.shown = [] ∧ s.started = []

/-- What every step keeps. -/
structure Pair.Inv (P : KeySchedule K) (key : K) (o : FrameOpener K) (floor capacity : Nat)
    (s : Pair K) : Prop where
  conveys : s.Conveys P key o floor capacity
  withholds : s.Withholds

/-- A fresh pair has nothing under way. -/
lemma Pair.Fresh.inv {salt : Bytes} {frameLimit byteLimit : Nat}
    (h : s.Fresh P key salt frameLimit byteLimit) :
    s.Inv P key (.create P key salt frameLimit) s.client.port.chan.agentStreamGen
      s.client.port.chan.snapshotBuf.length := by
  obtain ⟨hsent, hsaid, htaken⟩ := h.unsent
  obtain ⟨-, hshown, hstarted⟩ := h.unheard
  obtain ⟨hrole, hexchange⟩ := h.agent
  obtain ⟨hemitting, hwaits⟩ := Prod.mk.inj hexchange
  obtain ⟨hawaiting, hexpected⟩ := Prod.mk.inj hwaits
  have hsealing : s.agent.sealing = .start key salt frameLimit byteLimit := by
    rw [Wired.sealing, h.sealer, hsent]
    rfl
  refine ⟨⟨hsealing ▸ .start .., hrole, h.client, ?_, ?_, rfl, by rw [htaken]; exact Nat.zero_le _,
    s.client.port.chan.agentStreamGen, [], ?_, ?_, ?_, .inl rfl⟩, ⟨hrole, ?_, ?_⟩, ?_, ?_⟩
  · rw [h.opener, hsent, List.take_nil]
    rfl
  · intro r hr
    rw [h.idle] at hr
    cases hr
  · simp [hstarted, Channel.emission, hemitting]
  · have hsame : s.agent.port.chan.outgoing s.client.port.chan.agentStreamGen [] =
        s.client.port.chan.intake s.client.shown := by
      simp [Channel.outgoing, Channel.intake, hemitting, h.idle, hshown]
    rw [hsent, List.drop_nil, hsame]
    exact .nil _
  · intro ge hge
    rw [hemitting] at hge
    cases hge
  · intro ge hge
    rw [hemitting] at hge
    cases hge
  · rw [hexpected]
    decide
  · simp [hsent]
  · simp [hsent]

/-- Every step keeps the invariant. -/
lemma Pair.Inv.step (h : s.Inv P key o floor capacity) {call : PairCall K}
    (ok : s.InOrder floor call) (hstep : pairStep P s call = some s') :
    s'.Inv P key o floor capacity := by
  cases call with
  | agent call => exact ⟨h.conveys.agentCall ok hstep, h.withholds.agentCall ok hstep⟩
  | agentTakes now => exact ⟨h.conveys.agentTakes hstep, h.withholds.agentTakes hstep⟩
  | client call =>
    refine ⟨h.conveys.clientCall hstep, ?_⟩
    simp only [pairStep] at hstep
    split at hstep
    · cases hstep
    obtain ⟨client, hclient, rfl⟩ := Option.map_eq_some_iff.mp hstep
    rcases hearStep_cases hclient with ⟨now, frame, -, rfl⟩ | ⟨w, -, hw, rfl⟩
    · exact h.withholds.more rfl (List.Subset.refl _)
    · exact h.withholds.more rfl (wireStep_sent hw)
  | clientTakes now =>
    refine ⟨h.conveys.clientTakes hstep, ?_⟩
    obtain ⟨frame, -, rfl⟩ := Option.map_eq_some_iff.mp hstep
    exact h.withholds.more rfl (List.Subset.refl _)

/-- The snapshots the client has delivered are those the agent has started, as far as they have come. -/
lemma Pair.Conveys.shown (h : s.Conveys P key o floor capacity) :
    s.client.shown <+: s.started ∧
      (s.agent.port.chan.gridEmitting = none → s.taken = s.agent.sent.length →
        s.client.shown = s.started) := by
  obtain ⟨newest, shown, hflight⟩ := h.flight
  refine ⟨?_, fun hidle hall => ?_⟩
  · rw [hflight.all]
    exact hflight.run.shown.trans (List.prefix_append _ _)
  · have hrun := hflight.run
    rw [hall, List.drop_length] at hrun
    generalize hleft : s.client.port.chan.intake s.client.shown = left at hrun
    cases hrun
    have hshown : s.client.shown = shown := congrArg Intake.shown hleft
    rw [hflight.all, hshown]
    simp [Channel.emission, hidle]

omit [DecidableEq K] in
/-- Data that is next for the client comes after its GridApplied for every snapshot begun before. -/
lemma Pair.Withholds.next (h : s.Withholds) {frame : FrameView K}
    (next : s.agent.sent[s.taken]? = some frame) (carries : carriesData frame = true)
    {begun : FrameView K} (before : begun ∈ s.agent.sent.take s.taken) {gen : Nat}
    (begins : Begins gen begun) : Applied gen s.client.sent := by
  obtain ⟨hlt, hget⟩ := List.getElem?_eq_some_iff.mp next
  have horder := h.order
  rw [← List.take_append_drop s.taken s.agent.sent, List.drop_eq_getElem_cons hlt, hget] at horder
  exact (List.pairwise_append.mp horder).2.2 begun before frame (List.mem_cons_self ..) carries gen
    begins

/-- Once the next frame has brought a snapshot in whole, the client takes Data from offset 0. -/
def Pair.Restarts (P : KeySchedule K) (s : Pair K) : Prop :=
  ∀ now frame bytes streamGen scrollbackLen flags ack payload q, s.agent.sent[s.taken]? = some frame →
    (s.client.port.receive P now frame).1 =
      .ok (.gridSnapshot bytes streamGen scrollbackLen flags) →
    (s.client.port.receive P now frame).2.applyAck (ack % 256 ^ 8) = .ok q →
    payload ≠ [] → payload.length ≤ maxDataPayload →
    ((s.client.port.receive P now frame).2.receivePlain (Message.data ack 0 payload).bytes).1 =
      .ok (.data payload 0)

/-- While a snapshot is on its way out, a poll of the agent sends the next piece of it: unless the
agent owes a Pong, has no keys left, has given its peer up or may not send, or the poll is given too
little room. -/
def Pair.GoesOn (P : KeySchedule K) (s : Pair K) : Prop :=
  ∀ now out scratch, let p := s.agent.port
    p.chan.gridEmitting ≠ none → p.chan.pendingPong = none →
    p.chan.sealer.epoch < 0xFF → 0 < p.chan.sealer.frameLimit →
    now < p.chan.lastHeard + p.chan.liveness.peerSilenceTimeout ∨
      p.chan.liveness.peerSilenceTimeout = 0 →
    p.chan.sendGateClosed = false → 6 ≤ scratch → headerSize + (max scratch 14 + tagSize) ≤ out →
    ∃ frame piece, (p.poll P now out scratch).1 = .ok (some frame) ∧
      pieceOf frame.body.plaintext = some piece ∧
      (p.poll P now out scratch).2.chan.remaining < p.chan.remaining

/-- A snapshot that starts, starts at its first byte. -/
lemma Pair.restarts (P : KeySchedule K) (s : Pair K) : s.Restarts P := by
  intro now frame bytes streamGen scrollbackLen flags ack payload q _ hres hack hsome hshort
  obtain ⟨hstart, hidle⟩ := Face.hears_snapshot
    (Port.receive_cases P protocolVersionGrid s.client.port now frame) hres
  exact Port.receivePlain_first hidle hstart hack hsome hshort

/-- One that is under way goes on at the next. -/
lemma Pair.Conveys.goesOn (h : s.Conveys P key o floor capacity) : s.GoesOn P := by
  intro now out scratch p hemitting hpong hepoch hlimit hheard hgate hscratch hroom
  obtain ⟨newest, shown, hflight⟩ := h.flight
  obtain ⟨ge, hge⟩ := Option.ne_none_iff_exists'.mp hemitting
  exact Port.poll_grid P hge (hflight.conveyable ge hge).1 h.agent hpong ⟨hepoch, hlimit⟩ hheard hgate
    hscratch hroom

/-- In every run of an agent's and a client's channel in which the agent announces its epochs and its
owner starts only snapshots of ever later generations that the wire and the client have room for: the
client delivers exactly the snapshots that were started, in order, is given no Data between the
GridBegin of one and its own GridApplied for it, and takes Data from offset 0 once it has one; and an
agent that has a snapshot to send goes on with it. A client's channel, whatever it is given, delivers a
snapshot only if it was announced, brought whole by contiguous chunks that are not empty, and of a
generation later than every one delivered before. -/
theorem grid_transfer (P : KeySchedule K) (key : K) (salt : Bytes) (frameLimit byteLimit : Nat) :
    (∀ {s₀ s : Pair K} {calls : List (PairCall K)}, s₀.Fresh P key salt frameLimit byteLimit →
      Run (pairStep P) (Pair.InOrder s₀.client.port.chan.agentStreamGen) s₀ calls s →
      (s.client.shown <+: s.started ∧
        (s.agent.port.chan.gridEmitting = none → s.taken = s.agent.sent.length →
          s.client.shown = s.started)) ∧
      (∀ frame, s.agent.sent[s.taken]? = some frame → carriesData frame = true →
        ∀ begun ∈ s.agent.sent.take s.taken, ∀ gen, Begins gen begun → Applied gen s.client.sent) ∧
      s.Restarts P ∧ s.GoesOn P) ∧
    (∀ {h₀ h : Hearing K} {calls : List (ChannelCall K)}, h₀.port.chan.gridReceiving = none →
      h₀.heard = [] → h₀.shown = [] → Run (hearStep P) Anywhere h₀ calls h →
      ∀ now frame bytes streamGen scrollbackLen flags, (h.port.receive P now frame).1 =
        .ok (.gridSnapshot bytes streamGen scrollbackLen flags) →
      (∃ before since, h.heard =
          before ++ .begins ⟨flags, streamGen, scrollbackLen, bytes.length⟩ :: since ∧
        Tiles 0 since bytes.length ∧ itemsOf since = bytes) ∧
      ∀ x ∈ h.shown, x.1.streamGen < streamGen) := by
  refine ⟨fun {s₀ s calls} fresh run => ?_, fun {h₀ h calls} idle heard shown run => ?_⟩
  · have hinv := run.inv (Pair.Inv P key (.create P key salt frameLimit)
        s₀.client.port.chan.agentStreamGen s₀.client.port.chan.snapshotBuf.length)
      (fun _ _ _ h ok hstep => h.step ok hstep) fresh.inv
    exact ⟨hinv.conveys.shown, fun frame next carries begun before gen begins =>
      hinv.withholds.next next carries before begins, s.restarts P, hinv.conveys.goesOn⟩
  · have hstart : h₀.Hears (h₀.port.chan.intake []) h₀.port.chan.snapshotBuf.length := by
      refine ⟨fun r hr => ?_, rfl, ?_⟩
      · rw [idle] at hr
        cases hr
      · rw [heard, shown]
        exact .nil _
    have hhears := run.inv (Hearing.Hears (h₀.port.chan.intake []) h₀.port.chan.snapshotBuf.length)
      (fun _ _ _ h _ hstep => h.step hstep) hstart
    intro now frame bytes streamGen scrollbackLen flags hres
    exact hhears.delivers idle hres

end

/-- The channels of an agent and a client over counted keys, without timers, the client with this much
storage. -/
def samplePair (storage : Nat) : Pair Nat where
  agent := ⟨⟨.create (makeDirectionFrames .counting ⟨7, 8, [0], [1]⟩ .agent 100 1000)
    (.create 0 .onDelivery) 0 ⟨0, 0⟩ protocolVersionGrid [] 0, .create [0, 0] 0, .create 0 .onDelivery⟩, []⟩
  client := ⟨⟨⟨.create (makeDirectionFrames .counting ⟨7, 8, [0], [1]⟩ .client 100 1000)
    (.create 0 .onReceipt) 0 ⟨0, 0⟩ protocolVersionGrid (List.replicate storage 0) 0, .create [0, 0] 0,
    .create 0 .onReceipt⟩, []⟩, [], []⟩
  taken := 0
  read := 0
  started := []

/-- Three bytes, sent one at a time, and this many frames taken. -/
def sampleTransfer (flags streamGen scrollbackLen frames : Nat) : List (PairCall Nat) :=
  .agent (.startGrid [65, 66, 67] flags streamGen scrollbackLen) ::
    List.replicate 5 (.agent (.poll 0 1000 6)) ++ List.replicate frames (.clientTakes 0)

/-- Three bytes are sent in pieces, and shown whole. -/
theorem grid_transfer_sample : ∃ s,
    Run (pairStep .counting) (Pair.InOrder 0) (samplePair 4) (sampleTransfer 0 1 0 5) s ∧
      s.client.shown = [(⟨0, 1, 0, 3⟩, [65, 66, 67])] := by
  have hreach : ((exec (guarded (pairStep .counting) (Pair.InOrder 0)) (samplePair 4)
      (sampleTransfer 0 1 0 5)).any fun s => decide (s.started = [(⟨0, 1, 0, 3⟩, [65, 66, 67])] ∧
        s.agent.port.chan.gridEmitting = none ∧ s.taken = s.agent.sent.length)) = true := by
    decide +kernel
  obtain ⟨s, hs, hend⟩ := (Option.any_eq_true _ _).mp hreach
  obtain ⟨hstarted, hidle, htaken⟩ := of_decide_eq_true hend
  have run := Run.of_guarded hs
  have fresh : (samplePair 4).Fresh .counting 8 [1] 100 1000 :=
    ⟨rfl, rfl, ⟨rfl, rfl⟩, ⟨rfl, by decide⟩, rfl, ⟨rfl, rfl, rfl⟩, rfl, rfl, rfl⟩
  obtain ⟨⟨-, hshown⟩, -⟩ := (grid_transfer .counting 8 [1] 100 1000).1 fresh run
  exact ⟨s, run, (hshown hidle htaken).trans hstarted⟩

/-- The snapshot was accepted, everything sent of it was taken, and nothing came of it. -/
def Refused (storage flags streamGen scrollbackLen frames : Nat) : Prop :=
  ∃ s, Run (pairStep .counting) Anywhere (samplePair storage)
    (sampleTransfer flags streamGen scrollbackLen frames) s ∧
    s.started ≠ [] ∧ s.taken = s.agent.sent.length ∧ s.client.shown = []

/-- A run that ends without a snapshot has refused it. -/
lemma Refused.of_exec {storage flags streamGen scrollbackLen frames : Nat}
    (h : ((exec (pairStep .counting) (samplePair storage)
      (sampleTransfer flags streamGen scrollbackLen frames)).any fun s =>
        decide (s.started ≠ [] ∧ s.taken = s.agent.sent.length ∧ s.client.shown = [])) = true) :
    Refused storage flags streamGen scrollbackLen frames := by
  obtain ⟨s, hs, hend⟩ := (Option.any_eq_true _ _).mp h
  exact ⟨s, .of_exec hs, of_decide_eq_true hend⟩

/-- A snapshot of a generation the client already has, or one it has no storage for, is sent whole and
not delivered; one with reserved flags, or with more history than bytes, is accepted and never sent. -/
theorem grid_transfer_refused :
    Refused 4 0 0 0 5 ∧ Refused 2 0 1 0 5 ∧ Refused 4 128 1 0 0 ∧ Refused 4 0 1 4 0 :=
  ⟨.of_exec (by decide +kernel), .of_exec (by decide +kernel), .of_exec (by decide +kernel),
    .of_exec (by decide +kernel)⟩

end Zet.Session
