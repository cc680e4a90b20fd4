import Zet.Lib.Transfer
import Zet.Session.SealedStream

/-!
# A snapshot coming in

The snapshot of a new generation travels as GridBegin, any number of GridChunks and GridEnd, with
whatever else the channels send between them; `Zet.Lib.Transfer` says what such a transfer is. The
client's channel is a receiver of it, whatever frames it is given (`Port.receivePlain_took`), and takes
every piece that is where it belongs (`Port.receivePlain_takes`).

`hearStep` is a channel under any calls and any frames, with the pieces it has taken and the snapshots
it has delivered. `Hearing.Hears.delivers` is what it takes to deliver one.
-/

namespace Zet.Session
open Zet.Core Zet.Wire Zet.Lib

variable {K : Type}

/-- What a plaintext brings of a snapshot. -/
def pieceOf (plain : Bytes) : Option (Piece GridBeginMessage UInt8) :=
  match parseMessageType plain with
  | .ok (.gridBegin, body) => (parseGridBegin body).toOption.map fun m => .begins m.1
  | .ok (.gridChunk, body) =>
    (parseGridChunk body).toOption.map fun m => .chunk m.1.chunkOffset m.1.data
  | .ok (.gridEnd, _) => some .ends
  | _ => none

/-- The piece that begins a snapshot is a GridBegin that parses. -/
lemma pieceOf_begins {plain : Bytes} {m : GridBeginMessage} (h : pieceOf plain = some (.begins m)) :
    ∃ body rest, parseMessageType plain = .ok (.gridBegin, body) ∧
      parseGridBegin body = .ok (m, rest) := by
  unfold pieceOf at h
  split at h
  · next body htype =>
    cases hparse : parseGridBegin body with
    | error e => simp [hparse, Except.toOption] at h
    | ok r =>
      obtain ⟨m', rest⟩ := r
      obtain rfl : m' = m := by simpa [hparse, Except.toOption] using h
      exact ⟨body, rest, htype, hparse⟩
  · next body htype => cases hparse : parseGridChunk body <;> simp [hparse, Except.toOption] at h
  · cases h
  · cases h

/-- A chunk of one is a GridChunk that parses. -/
lemma pieceOf_chunk {plain : Bytes} {offset : Nat} {items : Bytes}
    (h : pieceOf plain = some (.chunk offset items)) :
    ∃ body rest m, parseMessageType plain = .ok (.gridChunk, body) ∧
      parseGridChunk body = .ok (m, rest) ∧ m.chunkOffset = offset ∧ m.data = items := by
  unfold pieceOf at h
  split at h
  · next body htype => cases hparse : parseGridBegin body <;> simp [hparse, Except.toOption] at h
  · next body htype =>
    cases hparse : parseGridChunk body with
    | error e => simp [hparse, Except.toOption] at h
    | ok r =>
      obtain ⟨m, rest⟩ := r
      obtain ⟨rfl, rfl⟩ : m.chunkOffset = offset ∧ m.data = items := by
        simpa [hparse, Except.toOption] using h
      exact ⟨body, rest, m, htype, hparse, rfl, rfl⟩
  · cases h
  · cases h

/-- The piece that ends one is a GridEnd. -/
lemma pieceOf_ends {plain : Bytes} (h : pieceOf plain = some .ends) :
    ∃ body, parseMessageType plain = .ok (.gridEnd, body) := by
  unfold pieceOf at h
  split at h
  · next body htype => cases hparse : parseGridBegin body <;> simp [hparse, Except.toOption] at h
  · next body htype => cases hparse : parseGridChunk body <;> simp [hparse, Except.toOption] at h
  · next body htype => exact ⟨body, htype⟩
  · cases h

/-- A snapshot the wire and the client's storage have room for. -/
def GridBeginMessage.Fits (capacity : Nat) (m : GridBeginMessage) : Prop :=
  m.totalLen ≤ snapshotMaxBytes ∧ m.totalLen ≤ capacity ∧ m.scrollbackLen ≤ m.totalLen

instance (capacity : Nat) : DecidablePred (GridBeginMessage.Fits capacity) := fun m => by
  unfold GridBeginMessage.Fits
  infer_instance

/-- A receiver of snapshots with this much storage. -/
def takeGrid (capacity : Nat) :
    Intake GridBeginMessage UInt8 → Piece GridBeginMessage UInt8 → Option (Intake GridBeginMessage UInt8) :=
  Intake.take GridBeginMessage.totalLen GridBeginMessage.streamGen (GridBeginMessage.Fits capacity)

/-- What the GridBegin of a snapshot that is coming in announced. -/
def GridReception.header (r : GridReception) : GridBeginMessage :=
  ⟨r.flags, r.streamGen, r.scrollbackLen, r.totalLen⟩

/-- The channel as a receiver that has delivered `shown`. -/
def Channel.intake (c : Channel K) (shown : List (GridBeginMessage × Bytes)) :
    Intake GridBeginMessage UInt8 where
  coming := c.gridReceiving.map fun r => (r.header, c.snapshotBuf.take r.bytesReceived)
  newest := c.agentStreamGen
  shown := shown

/-- What has come in of a snapshot is within what was announced, and that within the storage. -/
def Channel.Receives (c : Channel K) : Prop :=
  ∀ r, c.gridReceiving = some r → r.bytesReceived ≤ r.totalLen ∧ r.totalLen ≤ c.snapshotBuf.length

/-- What a receive delivered of snapshots. -/
def shownOf : Except SessionError IncomingEvent → List (GridBeginMessage × Bytes)
  | .ok (.gridSnapshot bytes streamGen scrollbackLen flags) =>
    [(⟨flags, streamGen, scrollbackLen, bytes.length⟩, bytes)]
  | _ => []

/-- What of a channel a snapshot comes in to. -/
def Channel.inbox (c : Channel K) : Option GridReception × Bytes × Nat :=
  (c.gridReceiving, c.snapshotBuf, c.agentStreamGen)

/-- What a frame that opens does to the snapshot that is coming in: it is no part of one, it is
refused, or it is taken where it belongs. -/
inductive Port.Took (p : Port K) (shown : List (GridBeginMessage × Bytes)) (plain : Bytes)
    (res : Port.Received K) : Prop
  | passed (other : pieceOf plain = none ∨ ∃ e, res.1 = .error e) (nothing : shownOf res.1 = [])
      (same : res.2.chan.inbox = p.chan.inbox)
  | piece {piece : Piece GridBeginMessage UInt8} {event : IncomingEvent}
      (part : pieceOf plain = some piece) (answer : res.1 = .ok event)
      (take : takeGrid p.chan.snapshotBuf.length (p.chan.intake shown) piece =
        some (res.2.chan.intake (shown ++ shownOf res.1)))
      (storage : res.2.chan.snapshotBuf.length = p.chan.snapshotBuf.length)
      (receives : res.2.chan.Receives)

section
variable {p : Port K} {body : Bytes}

/-- Delivering shows no snapshot. -/
lemma Port.deliver_nothing (p : Port K) (m : DataMessage) :
    shownOf (p.deliver m).1 = [] ∧ (p.deliver m).2.chan = p.chan := by
  unfold Port.deliver
  dsimp only
  split
  · exact ⟨rfl, rfl⟩
  · split <;> exact ⟨rfl, rfl⟩

/-- Data shows none. -/
lemma Port.receiveData_nothing (p : Port K) (body : Bytes) :
    shownOf (p.receiveData body).1 = [] ∧ (p.receiveData body).2.chan = p.chan := by
  unfold Port.receiveData
  split
  · exact ⟨rfl, rfl⟩
  split
  · exact ⟨rfl, rfl⟩
  split
  · exact ⟨rfl, rfl⟩
  · next p' hack =>
    rw [← Port.applyAck_chan hack]
    exact Port.deliver_nothing p' _

/-- An Ack shows none. -/
lemma Port.receiveAck_nothing (p : Port K) (body : Bytes) :
    shownOf (p.receiveAck body).1 = [] ∧ (p.receiveAck body).2.chan = p.chan := by
  unfold Port.receiveAck
  split
  · exact ⟨rfl, rfl⟩
  split
  · exact ⟨rfl, rfl⟩
  · next p' hack => exact ⟨rfl, Port.applyAck_chan hack⟩

end

section
variable {p : Port K} {plain body : Bytes}

/-- A refusal takes nothing. -/
lemma Port.Took.refused (p : Port K) (shown : List (GridBeginMessage × Bytes)) (plain : Bytes)
    (e : SessionError) : p.Took shown plain (.error e, p) := .passed (.inr ⟨e, rfl⟩) rfl rfl

/-- A GridBegin is taken as the start of a snapshot, or refused. -/
lemma Port.receiveGridBegin_took (shown : List (GridBeginMessage × Bytes))
    (type : parseMessageType plain = .ok (.gridBegin, body)) :
    p.Took shown plain (p.receiveGridBegin body) := by
  unfold Port.receiveGridBegin
  split
  · exact .refused ..
  split
  · exact .refused ..
  split
  · exact .refused ..
  next m rest hparse =>
  split
  · exact .refused ..
  next hidle =>
  split
  · exact .refused ..
  next hsize =>
  split
  · exact .refused ..
  next hsplit =>
  split
  · exact .refused ..
  next hnewer =>
  have hidle : p.chan.gridReceiving = none := by simpa using hidle
  have hfits : GridBeginMessage.Fits p.chan.snapshotBuf.length m := by
    unfold GridBeginMessage.Fits
    omega
  have hpart : pieceOf plain = some (.begins m) := by
    simp [pieceOf, type, hparse, Except.toOption]
  refine .piece hpart rfl ?_ rfl ?_
  · have hok : (p.chan.intake shown).coming.isNone ∧
        GridBeginMessage.Fits p.chan.snapshotBuf.length m ∧
        (p.chan.intake shown).newest < m.streamGen :=
      ⟨by simp [Channel.intake, hidle], hfits, Nat.not_le.mp hnewer⟩
    rw [takeGrid, Intake.take, if_pos hok]
    simp [Channel.intake, GridReception.header, shownOf]
  · rintro r ⟨⟩
    exact ⟨Nat.zero_le _, hfits.2.1⟩

/-- A GridChunk is taken as the next of its bytes, or refused. -/
lemma Port.receiveGridChunk_took (receives : p.chan.Receives)
    (shown : List (GridBeginMessage × Bytes))
    (type : parseMessageType plain = .ok (.gridChunk, body)) :
    p.Took shown plain (p.receiveGridChunk body) := by
  unfold Port.receiveGridChunk
  split
  · exact .refused ..
  split
  · exact .refused ..
  split
  · exact .refused ..
  next m rest hparse =>
  split
  · exact .refused ..
  next r hr =>
  split
  · exact .refused ..
  next hsome =>
  split
  · exact .refused ..
  next hoffset =>
  split
  · exact .refused ..
  next hroom =>
  obtain ⟨hwithin, hstorage⟩ := receives r hr
  have hoffset : m.chunkOffset = r.bytesReceived := not_not.mp hoffset
  have hfits : r.bytesReceived + m.data.length ≤ p.chan.snapshotBuf.length := by omega
  have hheld : (p.chan.snapshotBuf.take r.bytesReceived).length = r.bytesReceived := by
    rw [List.length_take]
    omega
  have hcopied : (copyAt p.chan.snapshotBuf r.bytesReceived m.data).take
      (r.bytesReceived + m.data.length) = p.chan.snapshotBuf.take r.bytesReceived ++ m.data :=
    List.take_left' (by simp [hheld])
  have hpart : pieceOf plain = some (.chunk m.chunkOffset m.data) := by
    simp [pieceOf, type, hparse, Except.toOption]
  refine .piece hpart rfl ?_ (length_copyAt hfits) ?_
  · have hcoming : (p.chan.intake shown).coming =
        some (r.header, p.chan.snapshotBuf.take r.bytesReceived) := by simp [Channel.intake, hr]
    rw [takeGrid, Intake.take, hcoming]
    dsimp only
    rw [if_pos ⟨hsome, by rw [hheld, hoffset], by rw [hheld]; exact (by omega :
      r.bytesReceived + m.data.length ≤ r.totalLen)⟩]
    simp only [Channel.intake, Option.map_some, hcopied, shownOf, List.append_nil]
    rfl
  · rintro _ ⟨⟩
    rw [length_copyAt hfits]
    exact ⟨by simp only; omega, hstorage⟩

/-- A GridEnd is taken as its end, or refused. -/
lemma Port.receiveGridEnd_took (receives : p.chan.Receives) (shown : List (GridBeginMessage × Bytes))
    (type : parseMessageType plain = .ok (.gridEnd, body)) :
    p.Took shown plain (p.receiveGridEnd body) := by
  unfold Port.receiveGridEnd
  split
  · exact .refused ..
  split
  · exact .refused ..
  split
  · exact .refused ..
  next r hr =>
  split
  · exact .refused ..
  next hwhole =>
  obtain ⟨-, hstorage⟩ := receives r hr
  have hwhole : r.bytesReceived = r.totalLen := not_not.mp hwhole
  have hlength : (p.chan.snapshotBuf.take r.totalLen).length = r.header.totalLen := by
    rw [List.length_take]
    exact Nat.min_eq_left hstorage
  have hpart : pieceOf plain = some .ends := by simp [pieceOf, type]
  refine .piece hpart rfl ?_ rfl (by rintro _ ⟨⟩)
  have hcoming : (p.chan.intake shown).coming =
      some (r.header, p.chan.snapshotBuf.take r.totalLen) := by
    simp [Channel.intake, hr, hwhole]
  rw [takeGrid, Intake.take, hcoming]
  dsimp only
  rw [if_pos hlength]
  simp only [Channel.intake, shownOf, Option.map_none, hlength]
  rfl

/-- Whatever a client's channel is given, it is a receiver of snapshots. -/
theorem Port.receivePlain_took (receives : p.chan.Receives)
    (shown : List (GridBeginMessage × Bytes)) (plain : Bytes) :
    p.Took shown plain (p.receivePlain plain) := by
  unfold Port.receivePlain
  split
  · next htype => exact .passed (.inl (by simp [pieceOf, htype])) rfl rfl
  · exact .refused ..
  next type body htype =>
  have stream : ∀ {res : Port.Received K}, pieceOf plain = none →
      shownOf res.1 = [] ∧ res.2.chan = p.chan → p.Took shown plain res := by
    intro res hother hres
    exact .passed (.inl hother) hres.1 (by rw [hres.2])
  cases type with
  | gridBegin => exact receiveGridBegin_took shown htype
  | gridChunk => exact receiveGridChunk_took receives shown htype
  | gridEnd => exact receiveGridEnd_took receives shown htype
  | data => exact stream (by simp [pieceOf, htype]) (receiveData_nothing p body)
  | ack => exact stream (by simp [pieceOf, htype]) (receiveAck_nothing p body)
  | gridApplied =>
    simp only [Port.receiveGridApplied]
    repeat' split
    all_goals exact .passed (.inl (by simp [pieceOf, htype])) rfl rfl
  | resize =>
    simp only [Port.receiveResize]
    split <;> exact .passed (.inl (by simp [pieceOf, htype])) rfl rfl
  | ping =>
    simp only [Port.receivePing]
    split <;> exact .passed (.inl (by simp [pieceOf, htype])) rfl rfl
  | pong =>
    simp only [Port.receivePong]
    split <;> exact .passed (.inl (by simp [pieceOf, htype])) rfl rfl
  | sessionEnd =>
    simp only [Port.receiveSessionEnd]
    split
    · exact .refused ..
    · split <;> exact .passed (.inl (by simp [pieceOf, htype])) rfl rfl
  | _ => exact .refused ..

/-- A client's channel takes every piece where it belongs. -/
theorem Port.receivePlain_takes (client : p.chan.role = .client)
    (version : protocolVersionGrid ≤ p.chan.version) (receives : p.chan.Receives)
    {shown : List (GridBeginMessage × Bytes)} {piece : Piece GridBeginMessage UInt8}
    {r : Intake GridBeginMessage UInt8} (part : pieceOf plain = some piece)
    (take : takeGrid p.chan.snapshotBuf.length (p.chan.intake shown) piece = some r) :
    ∃ event, (p.receivePlain plain).1 = .ok event := by
  have hversion : ¬p.chan.version < protocolVersionGrid := Nat.not_lt.mpr version
  have hclient : ¬p.chan.role ≠ .client := not_not.mpr client
  rcases Intake.take_cases take with ⟨m, rfl, hidle, ⟨hmax, hroom, hsplit⟩, hnewer, -⟩ |
      ⟨header, held, items, rfl, hcoming, hsome, hroom, -⟩ | ⟨header, held, rfl, hcoming, hwhole, -⟩
  · obtain ⟨body, rest, htype, hparse⟩ := pieceOf_begins part
    have hidle : p.chan.gridReceiving = none := by simpa [Channel.intake] using hidle
    have hnewer : ¬m.streamGen ≤ p.chan.agentStreamGen := Nat.not_le.mpr hnewer
    rw [Port.receivePlain, htype]
    dsimp only
    rw [Port.receiveGridBegin, if_neg hversion, if_neg hclient, hparse]
    dsimp only
    rw [if_neg (by simp [hidle]), if_neg (by omega), if_neg (by omega), if_neg hnewer]
    exact ⟨_, rfl⟩
  · obtain ⟨body, rest, m, htype, hparse, hoffset, rfl⟩ := pieceOf_chunk part
    obtain ⟨r, hr, heq⟩ := Option.map_eq_some_iff.mp hcoming
    obtain ⟨rfl, rfl⟩ := Prod.mk.inj heq
    obtain ⟨hwithin, hstorage⟩ := receives r hr
    rw [List.length_take, Nat.min_eq_left (by omega)] at hoffset hroom
    have hroom : r.bytesReceived + m.data.length ≤ r.totalLen := hroom
    rw [Port.receivePlain, htype]
    dsimp only
    rw [Port.receiveGridChunk, if_neg hversion, if_neg hclient, hparse]
    dsimp only
    rw [hr]
    dsimp only
    rw [if_neg (by simpa using hsome), if_neg (by simpa using hoffset), if_neg (by omega)]
    exact ⟨_, rfl⟩
  · obtain ⟨body, htype⟩ := pieceOf_ends part
    obtain ⟨r, hr, heq⟩ := Option.map_eq_some_iff.mp hcoming
    obtain ⟨rfl, rfl⟩ := Prod.mk.inj heq
    obtain ⟨hwithin, hstorage⟩ := receives r hr
    rw [List.length_take, Nat.min_eq_left (by omega)] at hwhole
    have hwhole : r.bytesReceived = r.totalLen := hwhole
    rw [Port.receivePlain, htype]
    dsimp only
    rw [Port.receiveGridEnd, if_neg hversion, if_neg hclient, hr]
    dsimp only
    rw [if_neg (by simpa using hwhole)]
    exact ⟨_, rfl⟩

end

/-- What the other end opens its frames with, and who is at this one. -/
def Channel.terms (c : Channel K) : Role × Nat × FrameOpener K := (c.role, c.version, c.opener)

/-- No body changes the terms. -/
lemma Port.receivePlain_terms (p : Port K) (plain : Bytes) :
    (p.receivePlain plain).2.chan.terms = p.chan.terms := by
  unfold Port.receivePlain
  split
  · rfl
  · rfl
  next type body _ =>
  cases type with
  | data => exact congrArg Channel.terms (Port.receiveData_nothing p body).2
  | ack => exact congrArg Channel.terms (Port.receiveAck_nothing p body).2
  | gridBegin =>
    simp only [Port.receiveGridBegin]
    repeat' split
    all_goals rfl
  | gridChunk =>
    simp only [Port.receiveGridChunk]
    repeat' split
    all_goals rfl
  | gridEnd =>
    simp only [Port.receiveGridEnd]
    repeat' split
    all_goals rfl
  | gridApplied =>
    simp only [Port.receiveGridApplied]
    repeat' split
    all_goals rfl
  | resize =>
    simp only [Port.receiveResize]
    split <;> rfl
  | ping =>
    simp only [Port.receivePing]
    split <;> rfl
  | pong =>
    simp only [Port.receivePong]
    split <;> rfl
  | sessionEnd =>
    simp only [Port.receiveSessionEnd]
    split
    · rfl
    · split <;> rfl
  | _ => rfl

/-- A turn of the sender is no matter to what comes in. -/
lemma Port.Turn.inbox {p : Port K} {m : Message} {done : Port K → Port K} (h : p.Turn m done)
    (q : Port K) : (done q).chan.inbox = q.chan.inbox ∧ (done q).chan.terms = q.chan.terms := by
  cases h <;> exact ⟨rfl, rfl⟩

/-- A poll leaves what is being received alone. -/
lemma Port.poll_inbox (P : KeySchedule K) (p : Port K) (now : Timestamp) (out scratch : Nat) :
    (p.poll P now out scratch).2.chan.inbox = p.chan.inbox ∧
      (p.poll P now out scratch).2.chan.terms = p.chan.terms := by
  cases Port.poll_polls P p now out scratch with
  | silent start since keys answer after =>
    rw [after]
    exact ⟨rfl, rfl⟩
  | sent start since keys turn sealed answer after =>
    obtain ⟨q, rfl, hafter⟩ := after
    rw [hafter]
    exact turn.inbox _

/-- Everything that a receiver is, is in the inbox. -/
lemma Channel.intake_eq {c c' : Channel K} (h : c'.inbox = c.inbox)
    (shown : List (GridBeginMessage × Bytes)) : c'.intake shown = c.intake shown := by
  obtain ⟨hreceiving, hrest⟩ := Prod.mk.inj h
  obtain ⟨hbuf, hgen⟩ := Prod.mk.inj hrest
  simp only [Channel.intake, hreceiving, hbuf, hgen]

/-- A channel of the same inbox still receives. -/
lemma Channel.Receives.keep {c c' : Channel K} (receives : c.Receives) (h : c'.inbox = c.inbox) :
    c'.Receives := by
  obtain ⟨hreceiving, hrest⟩ := Prod.mk.inj h
  obtain ⟨hbuf, -⟩ := Prod.mk.inj hrest
  intro r hr
  rw [hbuf]
  exact receives r (hreceiving ▸ hr)

variable [DecidableEq K] {P : KeySchedule K}

/-- A frame, opened or not, comes in to a receiver of snapshots. -/
lemma Port.receive_took (P : KeySchedule K) {p : Port K} (receives : p.chan.Receives)
    (shown : List (GridBeginMessage × Bytes)) (now : Timestamp) (frame : FrameView K) :
    p.Took shown frame.body.plaintext (p.receive P now frame) := by
  unfold Port.receive
  split
  · exact .passed (.inr ⟨_, rfl⟩) rfl rfl
  · next plain opener hopen =>
    obtain rfl := FrameOpener.open_plaintext hopen
    cases Port.receivePlain_took
      (p := { p with chan := { p.chan with opener := opener, lastHeard := now } }) receives shown
      frame.body.plaintext with
    | passed other nothing same => exact .passed other nothing same
    | piece part answer take storage receives => exact .piece part answer take storage receives

/-- The opener is what opening the frame left. -/
lemma Port.receive_terms (P : KeySchedule K) (p : Port K) (now : Timestamp) (frame : FrameView K) :
    (p.receive P now frame).2.chan.terms =
      (p.chan.role, p.chan.version, (p.chan.opener.open P frame).2) := by
  unfold Port.receive
  split
  · next hopen => rw [hopen]; rfl
  · next hopen => rw [Port.receivePlain_terms, hopen]; rfl

/-- Calls other than a receive leave what comes in alone. -/
lemma wireStep_inbox {w w' : Wired K} {call : ChannelCall K} (h : wireStep P w call = some w')
    (other : ∀ now frame, call ≠ .receive now frame) :
    w'.port.chan.inbox = w.port.chan.inbox ∧ w'.port.chan.terms = w.port.chan.terms := by
  cases call with
  | poll now out scratch =>
    cases h
    exact Port.poll_inbox P w.port now out scratch
  | receive now frame => exact absurd rfl (other now frame)
  | queueGridApplied streamGen =>
    cases h
    simp only [Wired.onChannel, Channel.queueGridApplied]
    split <;> exact ⟨rfl, rfl⟩
  | startGrid snapshot flags streamGen scrollbackLen =>
    cases h
    simp only [Wired.onChannel, Channel.startGrid]
    repeat' split
    all_goals exact ⟨rfl, rfl⟩
  | suppressDataUntilGrid =>
    cases h
    simp only [Wired.onChannel, Channel.suppressDataUntilGrid]
    split <;> exact ⟨rfl, rfl⟩
  | _ =>
    cases h
    exact ⟨rfl, rfl⟩

/-- A channel with the pieces of snapshots it has taken, and the snapshots it has delivered. -/
structure Hearing (K : Type) extends Wired K where
  heard : List (Piece GridBeginMessage UInt8)
  shown : List (GridBeginMessage × Bytes)

omit [DecidableEq K] in
/-- The piece of a frame that was not refused. -/
def heardOf (res : Except SessionError IncomingEvent) (plain : Bytes) :
    List (Piece GridBeginMessage UInt8) :=
  match res with
  | .ok _ => (pieceOf plain).toList
  | .error _ => []

/-- A frame, with what it brought in. -/
def Hearing.receive (P : KeySchedule K) (h : Hearing K) (now : Timestamp) (frame : FrameView K) :
    Hearing K where
  port := (h.port.receive P now frame).2
  sent := h.sent
  heard := h.heard ++ heardOf (h.port.receive P now frame).1 frame.body.plaintext
  shown := h.shown ++ shownOf (h.port.receive P now frame).1

/-- One call. -/
def hearStep (P : KeySchedule K) (h : Hearing K) : ChannelCall K → Option (Hearing K)
  | .receive now frame => some (h.receive P now frame)
  | call => (wireStep P h.toWired call).map fun w => { h with toWired := w }

/-- The channel has taken the pieces as a receiver does. -/
structure Hearing.Hears (start : Intake GridBeginMessage UInt8) (capacity : Nat) (h : Hearing K) :
    Prop where
  receives : h.port.chan.Receives
  storage : h.port.chan.snapshotBuf.length = capacity
  run : Run (takeGrid capacity) Anywhere start h.heard (h.port.chan.intake h.shown)

omit [DecidableEq K] in
/-- What comes in is as it was. -/
lemma Hearing.Hears.keep {start : Intake GridBeginMessage UInt8} {capacity : Nat} {h h' : Hearing K}
    (hears : h.Hears start capacity) (inbox : h'.port.chan.inbox = h.port.chan.inbox)
    (heard : h'.heard = h.heard) (shown : h'.shown = h.shown) : h'.Hears start capacity := by
  refine ⟨hears.receives.keep inbox, ?_, ?_⟩
  · rw [← hears.storage, (Prod.mk.inj (Prod.mk.inj inbox).2).1]
  · rw [heard, shown, Channel.intake_eq inbox]
    exact hears.run

/-- A frame keeps the channel a receiver. -/
lemma Hearing.Hears.receive {start : Intake GridBeginMessage UInt8} {capacity : Nat} {h : Hearing K}
    (hears : h.Hears start capacity) (now : Timestamp) (frame : FrameView K) :
    (h.receive P now frame).Hears start capacity := by
  cases Port.receive_took P hears.receives h.shown now frame with
  | passed other nothing same =>
    refine hears.keep same ?_ (by simp [Hearing.receive, nothing])
    rcases other with hnone | ⟨e, herr⟩
    · cases hres : (h.port.receive P now frame).1 <;> simp [Hearing.receive, heardOf, hres, hnone]
    · simp [Hearing.receive, heardOf, herr]
  | @piece piece event part answer take storage receives =>
    rw [hears.storage] at take storage
    refine ⟨receives, storage, ?_⟩
    have hheard : heardOf (h.port.receive P now frame).1 frame.body.plaintext = [piece] := by
      simp [heardOf, answer, part]
    rw [Hearing.receive, hheard]
    exact hears.run.concat trivial take

/-- A call is a receive, or leaves what came in alone. -/
lemma hearStep_cases {h h' : Hearing K} {call : ChannelCall K} (hstep : hearStep P h call = some h') :
    (∃ now frame, call = .receive now frame ∧ h' = h.receive P now frame) ∨
      ∃ w, (∀ now frame, call ≠ .receive now frame) ∧ wireStep P h.toWired call = some w ∧
        h' = { h with toWired := w } := by
  cases call with
  | receive now frame => exact .inl ⟨now, frame, rfl, (Option.some.inj hstep).symm⟩
  | _ =>
    rw [hearStep.eq_def] at hstep
    obtain ⟨w, hw, rfl⟩ := Option.map_eq_some_iff.mp hstep
    exact .inr ⟨w, by simp, hw, rfl⟩

/-- Every call keeps the channel a receiver. -/
lemma Hearing.Hears.step {start : Intake GridBeginMessage UInt8} {capacity : Nat} {h h' : Hearing K}
    {call : ChannelCall K} (hears : h.Hears start capacity) (hstep : hearStep P h call = some h') :
    h'.Hears start capacity := by
  rcases hearStep_cases hstep with ⟨now, frame, -, rfl⟩ | ⟨w, hother, hw, rfl⟩
  · exact hears.receive now frame
  · exact hears.keep (wireStep_inbox hw hother).1 rfl rfl

/-- A snapshot that is delivered was announced, and brought whole by chunks that are contiguous and
not empty; its generation is later than that of every snapshot before it. -/
lemma Hearing.Hears.delivers {capacity : Nat} {c : Channel K} (idle : c.gridReceiving = none)
    {h : Hearing K} (hears : h.Hears (c.intake []) capacity) {now : Timestamp} {frame : FrameView K}
    {bytes : Bytes} {streamGen scrollbackLen flags : Nat}
    (hres : (h.port.receive P now frame).1 =
      .ok (.gridSnapshot bytes streamGen scrollbackLen flags)) :
    (∃ before since, h.heard =
        before ++ .begins ⟨flags, streamGen, scrollbackLen, bytes.length⟩ :: since ∧
      Tiles 0 since bytes.length ∧ itemsOf since = bytes) ∧
    ∀ x ∈ h.shown, x.1.streamGen < streamGen := by
  have hcoming : (c.intake []).coming = none := by simp [Channel.intake, idle]
  have hranked : (h.port.chan.intake h.shown).Ranked GridBeginMessage.streamGen c.agentStreamGen := by
    refine hears.run.inv (Intake.Ranked GridBeginMessage.streamGen c.agentStreamGen)
      (fun _ _ _ hr _ hstep => hr.take hstep) ⟨le_rfl, ?_, .nil, ?_⟩
    · rintro x ⟨⟩
    · rw [hcoming]
      rintro _ _ ⟨⟩
  cases Port.receive_took P hears.receives h.shown now frame with
  | passed other nothing same =>
    rw [hres] at nothing
    cases nothing
  | piece part answer take storage receives =>
    rw [hres] at take
    rcases Intake.take_cases take with ⟨m, -, -, -, -, heq⟩ | ⟨header, held, items, -, -, -, -, heq⟩ |
        ⟨header, held, -, hheld, hwhole, heq⟩
    · have hshown := congrArg Intake.shown heq
      simp [Channel.intake, shownOf] at hshown
    · have hshown := congrArg Intake.shown heq
      simp [Channel.intake, shownOf] at hshown
    · have hshown := congrArg Intake.shown heq
      obtain ⟨rfl, rfl⟩ : (⟨flags, streamGen, scrollbackLen, bytes.length⟩ : GridBeginMessage) =
          header ∧ bytes = held := by simpa [Channel.intake, shownOf] using hshown
      obtain ⟨⟨-, hnewer⟩, before, since, hheard, htiles, hitems⟩ := hears.run.coming hcoming hheld
      exact ⟨⟨before, since, hheard, htiles, hitems⟩, fun x hx =>
        (hranked.within x hx).2.trans_lt hnewer⟩

end Zet.Session
