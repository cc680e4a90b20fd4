import Zet.Session.Channel

/-!
# What a channel says and hears

A `Face` is what of a port the other end can tell: the two streams and the state of the snapshot
exchange, without keys, timers and counters. `poll_cases` says once everything a poll can do: nothing
the other end can tell, or one message, each in the state that allows it (`Face.Sends`).
`receive_cases` says the same of `receive`: a frame that does not open changes nothing, and one that
opens acts on the face by what its plaintext says (`Face.Hears`, `Said`).

Every statement about whole connections is proved from these two; nothing above unfolds `poll` or
`receive`.
-/

namespace Zet.Session
open Zet.Core Zet.Wire

/-- A message of the sealed stream. -/
inductive Message where
  | data (ack offset : Nat) (payload : Bytes)
  | ack (ack : Nat)
  | resize (size : ResizeMessage)
  | ping (token : Nat)
  | pong (token : Nat)
  | sessionEnd (message : SessionEndMessage)
  | gridBegin (message : GridBeginMessage)
  | gridChunk (offset : Nat) (data : Bytes)
  | gridEnd
  | gridApplied (streamGen : Nat)
deriving DecidableEq, Repr

/-- The type of a message. -/
def Message.type : Message → MessageType
  | .data .. => .data
  | .ack _ => .ack
  | .resize _ => .resize
  | .ping _ => .ping
  | .pong _ => .pong
  | .sessionEnd _ => .sessionEnd
  | .gridBegin _ => .gridBegin
  | .gridChunk .. => .gridChunk
  | .gridEnd => .gridEnd
  | .gridApplied _ => .gridApplied

/-- The fields of a message after its type byte. -/
def Message.body : Message → Bytes
  | .data a offset payload => encodeBE 8 a ++ (encodeBE 8 offset ++ payload)
  | .ack a => encodeBE 8 a
  | .resize s =>
    encodeBE 2 s.rows ++ (encodeBE 2 s.cols ++ (encodeBE 2 s.xpixel ++ encodeBE 2 s.ypixel))
  | .ping token => encodeBE 8 token
  | .pong token => encodeBE 8 token
  | .sessionEnd m => encodeBE 1 m.kind.toByte ++ encodeBE 1 m.value
  | .gridBegin m =>
    encodeBE 1 m.flags ++ (encodeBE 4 m.streamGen ++
      (encodeBE 4 m.scrollbackLen ++ encodeBE 4 m.totalLen))
  | .gridChunk offset chunk => encodeBE 4 offset ++ chunk
  | .gridEnd => []
  | .gridApplied gen => encodeBE 4 gen

/-- The plaintext of a message. -/
def Message.bytes (m : Message) : Bytes := encodeBE 1 m.type.toByte ++ m.body

/-- Messages that touch neither stream nor the snapshot exchange. -/
def Message.IsControl : Message → Prop
  | .resize _ | .ping _ | .pong _ | .sessionEnd _ => True
  | _ => False

/-- What the other end reads in a plaintext, as far as the streams and the snapshot exchange go. -/
inductive Said where
  | resume (streamGen offset : Nat)
  | data (ack offset : Nat) (payload : Bytes)
  | ack (ack : Nat)
  | gridBegin (streamGen : Nat)
  | gridEnd
  | gridApplied (streamGen : Nat)
  | other
deriving DecidableEq, Repr

/-- Reading a plaintext under a negotiated version. -/
def Said.of (version : Nat) (plain : Bytes) : Said :=
  match parseMessageType plain with
  | .ok (.resume, body) =>
    match parseResume version body with
    | .ok (m, _) => .resume m.streamGen m.clientReceiveOffset
    | .error _ => .other
  | .ok (.data, body) =>
    match parseData body with
    | .ok (m, _) => .data m.ack m.offset m.payload
    | .error _ => .other
  | .ok (.ack, body) =>
    match parseAck body with
    | .ok (m, _) => .ack m.ack
    | .error _ => .other
  | .ok (.gridBegin, body) =>
    match parseGridBegin body with
    | .ok (m, _) => .gridBegin m.streamGen
    | .error _ => .other
  | .ok (.gridEnd, _) => .gridEnd
  | .ok (.gridApplied, body) =>
    match parseGridApplied body with
    | .ok (m, _) => .gridApplied m.streamGen
    | .error _ => .other
  | _ => .other

/-- The state of the snapshot exchange. -/
structure GridState where
  role : Role
  version : Nat
  emitting : Option GridEmission
  receiving : Option GridReception
  streamGen : Nat
  pendingApplied : Option Nat
  awaitingApplied : Bool
  expectedGen : Nat
  awaitingSupply : Bool
deriving DecidableEq, Repr

/-- What of a port the other end can tell. -/
structure Face where
  sendBuf : SendBuffer
  recvCursor : ReceiveCursor
  grid : GridState
deriving DecidableEq, Repr

/-- The state of a channel's snapshot exchange. -/
def Channel.grid {K : Type} (c : Channel K) : GridState where
  role := c.role
  version := c.version
  emitting := c.gridEmitting
  receiving := c.gridReceiving
  streamGen := c.agentStreamGen
  pendingApplied := c.pendingGridApplied
  awaitingApplied := c.gridAwaitingApplied
  expectedGen := c.gridExpectedAppliedGen
  awaitingSupply := c.awaitingSnapshotSupply

/-- The face of a port. -/
def Port.face {K : Type} (p : Port K) : Face := ⟨p.sendBuf, p.recvCursor, p.chan.grid⟩

/-- An error that is not one of the three the laws of the streams are about. -/
def SessionError.Harmless (e : SessionError) : Prop :=
  e ≠ .stream .ackBeyondSent ∧ e ≠ .stream .streamGap ∧ e ≠ .stream .peerBehindBuffer

/-- An error of the protocol is harmless. -/
@[simp] lemma SessionError.harmless_proto (e : ProtoError) : (SessionError.proto e).Harmless := by
  simp [SessionError.Harmless]

/-- Data is held back by the agent from the choice of a snapshot to its GridApplied. -/
def GridState.Suppressed (g : GridState) : Prop :=
  g.role = .agent ∧ (g.emitting.isSome ∨ g.awaitingApplied ∨ g.awaitingSupply)

/-- Everything a poll can put on the wire, and what it leaves behind. -/
inductive Face.Sends (f : Face) : Message → Face → Prop
  | data {n : Nat} (pos : 0 < n) (cap : n ≤ maxDataPayload) (avail : n ≤ f.sendBuf.unsent)
      (free : ¬f.grid.Suppressed) :
      Face.Sends f
        (.data f.recvCursor.ackOffset f.sendBuf.sendNext (f.sendBuf.copyOut f.sendBuf.sendNext n))
        { f with sendBuf :=
          f.sendBuf.advanceSendNext (f.sendBuf.copyOut f.sendBuf.sendNext n).length }
  | ack : Face.Sends f (.ack f.recvCursor.ackOffset) f
  | control {m : Message} (h : m.IsControl) : Face.Sends f m f
  | gridApplied {gen : Nat} (client : f.grid.role = .client)
      (pending : f.grid.pendingApplied = some gen) :
      Face.Sends f (.gridApplied gen) { f with grid := { f.grid with pendingApplied := none } }
  | gridBegin {ge : GridEmission} (agent : f.grid.role = .agent) (emitting : f.grid.emitting = some ge)
      (first : ge.beginSent = false) :
      Face.Sends f (.gridBegin ⟨ge.flags, ge.streamGen, ge.scrollbackLen, ge.totalLen⟩)
        { f with grid := { f.grid with emitting := some { ge with beginSent := true } } }
  | gridChunk {ge : GridEmission} {scratch : Nat} (agent : f.grid.role = .agent)
      (emitting : f.grid.emitting = some ge) (begun : ge.beginSent = true)
      (more : ge.bytesSent < ge.totalLen) :
      Face.Sends f (.gridChunk ge.bytesSent (ge.nextChunk scratch))
        { f with grid := { f.grid with
          emitting := some { ge with bytesSent := ge.bytesSent + (ge.nextChunk scratch).length } } }
  | gridEnd {ge : GridEmission} (agent : f.grid.role = .agent) (emitting : f.grid.emitting = some ge)
      (begun : ge.beginSent = true) (all : ge.bytesSent = ge.totalLen) :
      Face.Sends f .gridEnd
        { f with grid := { f.grid with emitting := none, awaitingApplied := true } }

/-- StartGrid refuses, or borrows the snapshot on a channel that is not busy with one. -/
lemma Channel.startGrid_cases {K : Type} (c : Channel K) (snapshot : Bytes)
    (flags streamGen scrollbackLen : Nat) :
    c.startGrid snapshot flags streamGen scrollbackLen = (false, c) ∨
      (c.gridEmitting = none ∧ c.gridAwaitingApplied = false ∧ snapshot ≠ [] ∧
        snapshot.length ≤ snapshotMaxBytes ∧
        c.startGrid snapshot flags streamGen scrollbackLen =
          (true, { c with
            gridEmitting :=
              some ⟨snapshot, streamGen, snapshot.length, scrollbackLen, flags, 0, false⟩
            gridAwaitingApplied := true
            gridExpectedAppliedGen := streamGen
            awaitingSnapshotSupply := false })) := by
  unfold Channel.startGrid
  split
  · exact .inl rfl
  split
  · exact .inl rfl
  next hbusy =>
  split
  · exact .inl rfl
  next hsize =>
  right
  simp only [not_or, Bool.not_eq_true, Option.isSome_eq_false_iff, Option.isNone_iff_eq_none]
    at hbusy
  simp only [not_or, List.isEmpty_iff, Nat.not_lt] at hsize
  exact ⟨hbusy.1, hbusy.2, hsize.1, hsize.2, rfl⟩

section
variable {K : Type} {P : KeySchedule K} {p : Port K} {out scratch : Nat} {now : Timestamp}

/-- What a writer with exactly enough room writes. -/
lemma writeInto_pong (token : Nat) :
    writeInto 9 (writePong ⟨token⟩) = .ok (Message.pong token).bytes := by
  simp [writeInto, writePong, writeMessageType, writeBE, writeBytes, bind, StateT.bind,
    Except.bind, Except.map, Message.bytes, Message.type, Message.body]

/-- A Ping is written as its bytes. -/
lemma writeInto_ping (token : Nat) :
    writeInto 9 (writePing ⟨token⟩) = .ok (Message.ping token).bytes := by
  simp [writeInto, writePing, writeMessageType, writeBE, writeBytes, bind, StateT.bind,
    Except.bind, Except.map, Message.bytes, Message.type, Message.body]

/-- So is an Ack. -/
lemma writeInto_ack (ack : Nat) :
    writeInto 9 (writeAck ⟨ack⟩) = .ok (Message.ack ack).bytes := by
  simp [writeInto, writeAck, writeMessageType, writeBE, writeBytes, bind, StateT.bind,
    Except.bind, Except.map, Message.bytes, Message.type, Message.body]

/-- So is a Resize. -/
lemma writeInto_resize (size : ResizeMessage) :
    writeInto 9 (writeResize size) = .ok (Message.resize size).bytes := by
  simp [writeInto, writeResize, writeMessageType, writeBE, writeBytes, bind, StateT.bind,
    Except.bind, Except.map, Message.bytes, Message.type, Message.body]

/-- So is a GridApplied. -/
lemma writeInto_gridApplied (gen : Nat) :
    writeInto 5 (writeGridApplied ⟨gen⟩) = .ok (Message.gridApplied gen).bytes := by
  simp [writeInto, writeGridApplied, writeMessageType, writeBE, writeBytes, bind, StateT.bind,
    Except.bind, Except.map, Message.bytes, Message.type, Message.body]

/-- So is a GridEnd. -/
lemma writeInto_gridEnd : writeInto 1 writeGridEnd = .ok Message.gridEnd.bytes := by
  simp [writeInto, writeGridEnd, writeMessageType, writeBE, writeBytes, Except.map,
    Message.bytes, Message.type, Message.body]

/-- So is a SessionEnd that is written at all. -/
lemma writeInto_sessionEnd {m : SessionEndMessage} {version : Nat} {plain : Bytes}
    (h : writeInto 3 (writeSessionEnd m version) = .ok plain) :
    plain = (Message.sessionEnd m).bytes := by
  by_cases hver : m.kind = .overflow ∧ version < protocolVersionGrid
  · rw [writeInto, writeSessionEnd, if_pos hver] at h
    cases h
  · by_cases hval : m.kind = .overflow ∧ m.value ≠ 0
    · rw [writeInto, writeSessionEnd, if_neg hver, if_pos hval] at h
      cases h
    · rw [writeInto, writeSessionEnd, if_neg hver, if_neg hval] at h
      simp [writeMessageType, writeBE, writeBytes, bind, StateT.bind, Except.bind,
        Except.map] at h
      rw [← h]
      simp [Message.bytes, Message.type, Message.body]

/-- So is a GridBegin. -/
lemma writeInto_gridBegin {m : GridBeginMessage} {plain : Bytes}
    (h : writeInto 14 (writeGridBegin m) = .ok plain) : plain = (Message.gridBegin m).bytes := by
  by_cases hflags : gridBeginFlagReserved m.flags = true
  · rw [writeInto, writeGridBegin, if_pos hflags] at h
    cases h
  by_cases htotal : m.totalLen = 0 ∨ m.totalLen > snapshotMaxBytes
  · rw [writeInto, writeGridBegin, if_neg hflags, if_pos htotal] at h
    cases h
  by_cases hscroll : m.scrollbackLen > m.totalLen
  · rw [writeInto, writeGridBegin, if_neg hflags, if_neg htotal, if_pos hscroll] at h
    cases h
  rw [writeInto, writeGridBegin, if_neg hflags, if_neg htotal, if_neg hscroll] at h
  simp [writeMessageType, writeBE, writeBytes, bind, StateT.bind, Except.bind,
    Except.map] at h
  rw [← h]
  simp [Message.bytes, Message.type, Message.body]

/-- A snapshot of a size StartGrid accepts, with flags and a split the wire knows. -/
lemma writeGridBegin_ok {flags gen scrollbackLen total : Nat}
    (hflags : gridBeginFlagReserved flags = false) (pos : total ≠ 0) (max : total ≤ snapshotMaxBytes)
    (split : scrollbackLen ≤ total) : ∃ plain, writeInto 14
      (writeGridBegin ⟨flags, gen, scrollbackLen, total⟩) = .ok plain := by
  rw [writeInto, writeGridBegin, if_neg (by simp [hflags]), if_neg (by simp only; omega),
    if_neg (by simp only; omega)]
  simp [writeMessageType, writeBE, writeBytes, bind, StateT.bind, Except.bind, Except.map]

/-- So is a GridChunk. -/
lemma writeInto_gridChunk {offset : Nat} {data plain : Bytes}
    (h : writeInto (5 + data.length) (writeGridChunk ⟨offset, data⟩) = .ok plain) :
    plain = (Message.gridChunk offset data).bytes := by
  by_cases hempty : data.isEmpty = true
  · rw [writeInto, writeGridChunk, if_pos hempty] at h
    cases h
  by_cases hlong : data.length > gridChunkMaxData
  · rw [writeInto, writeGridChunk, if_neg hempty, if_pos hlong] at h
    cases h
  have hfive : ¬5 + data.length < 1 := by omega
  rw [writeInto, writeGridChunk, if_neg hempty, if_neg hlong] at h
  simp [writeMessageType, writeBE, writeBytes, bind, StateT.bind, Except.bind,
    Except.map, hfive] at h
  rw [← h]
  simp [Message.bytes, Message.type, Message.body]

/-- Everything a poll can send, with what it does to the port once the message is sealed. -/
inductive Port.Turn (p : Port K) : Message → (Port K → Port K) → Prop
  | pong {pong : PingMessage} (due : p.chan.pendingPong = some pong) :
      Port.Turn p (.pong pong.token) fun q => { q with chan := { q.chan with pendingPong := none } }
  | gridApplied {gen : Nat} (client : p.chan.role = .client)
      (due : p.chan.pendingGridApplied = some gen) :
      Port.Turn p (.gridApplied gen) fun q =>
        { q with chan := { q.chan with pendingGridApplied := none } }
  | gridBegin {ge : GridEmission} (agent : p.chan.role = .agent)
      (emitting : p.chan.gridEmitting = some ge) (first : ge.beginSent = false)
      (written : writeInto 14 (writeGridBegin ⟨ge.flags, ge.streamGen, ge.scrollbackLen, ge.totalLen⟩) =
        .ok (Message.gridBegin ⟨ge.flags, ge.streamGen, ge.scrollbackLen, ge.totalLen⟩).bytes) :
      Port.Turn p (.gridBegin ⟨ge.flags, ge.streamGen, ge.scrollbackLen, ge.totalLen⟩) fun q =>
        { q with chan := { q.chan with gridEmitting := some { ge with beginSent := true } } }
  | gridChunk {ge : GridEmission} {scratch : Nat} (agent : p.chan.role = .agent)
      (emitting : p.chan.gridEmitting = some ge) (begun : ge.beginSent = true)
      (more : ge.bytesSent < ge.totalLen)
      (written : writeInto (5 + (ge.nextChunk scratch).length)
          (writeGridChunk ⟨ge.bytesSent, ge.nextChunk scratch⟩) =
        .ok (Message.gridChunk ge.bytesSent (ge.nextChunk scratch)).bytes) :
      Port.Turn p (.gridChunk ge.bytesSent (ge.nextChunk scratch)) fun q =>
        { q with chan := { q.chan with
          gridEmitting := some { ge with bytesSent := ge.bytesSent + (ge.nextChunk scratch).length } } }
  | gridEnd {ge : GridEmission} (agent : p.chan.role = .agent)
      (emitting : p.chan.gridEmitting = some ge) (begun : ge.beginSent = true)
      (all : ge.bytesSent = ge.totalLen) :
      Port.Turn p .gridEnd fun q =>
        { q with chan := { q.chan with gridEmitting := none, gridAwaitingApplied := true } }
  | data {n : Nat} (pos : 0 < n) (cap : n ≤ maxDataPayload) (avail : n ≤ p.sendBuf.unsent)
      (free : p.dataSuppressed = false) :
      Port.Turn p
        (.data p.recvCursor.ackOffset p.sendBuf.sendNext (p.sendBuf.copyOut p.sendBuf.sendNext n))
        fun q => { q with
          sendBuf := q.sendBuf.advanceSendNext (p.sendBuf.copyOut p.sendBuf.sendNext n).length
          chan := { q.chan with
            lastAckedOffset := q.recvCursor.ackOffset, ackPendingSince := none } }
  /-- Behind a snapshot that is done, or that cannot be sent. -/
  | sessionEnd {message : SessionEndMessage} (due : p.chan.pendingEnd = some message)
      (first : p.chan.endSent = false) (empty : p.sendBuf.size = 0)
      (behind : p.chan.role = .agent → ∀ ge, p.chan.gridEmitting = some ge →
        (∃ e, writeInto 14 (writeGridBegin
          ⟨ge.flags, ge.streamGen, ge.scrollbackLen, ge.totalLen⟩) = .error e) ∨
        ge.totalLen < ge.bytesSent) :
      Port.Turn p (.sessionEnd message) fun q => { q with chan := { q.chan with endSent := true } }
  | resize {size : ResizeMessage} (due : p.chan.pendingResize = some size) :
      Port.Turn p (.resize size) fun q => { q with chan := { q.chan with pendingResize := none } }
  | ack :
      Port.Turn p (.ack p.recvCursor.ackOffset) fun q => { q with chan := { q.chan with
        lastAckedOffset := p.recvCursor.ackOffset, ackPendingSince := none } }
  | ping :
      Port.Turn p (.ping p.chan.nextPingToken) fun q => { q with chan := { q.chan with
        nextPingToken := q.chan.nextPingToken + 1 } }

/-- What a candidate answers: nothing, at most with the acknowledgement's timer armed, or the frame of
its message. -/
inductive Port.Answers (p : Port K) (out : Nat) (res : Port.Polled K) : Prop
  | silent (since : Option Timestamp)
      (answer : res.1 = .ok none ∨ ∃ e, res.1 = .error e ∧ e.Harmless)
      (after : res.2 = { p with chan := { p.chan with ackPendingSince := since } })
  | sent (since : Option Timestamp) {m : Message} {done : Port K → Port K} {frame : FrameView K}
      {sealer : FrameSealer K} (turn : p.Turn m done)
      (sealed : p.chan.sealer.seal out m.bytes = .ok (frame, sealer))
      (answer : res.1 = .ok (some frame))
      (after : res.2 =
        done { p with chan := { p.chan with sealer := sealer, ackPendingSince := since } })

/-- Sealing a message that may be sent. -/
lemma Port.Turn.answers {m : Message} {done : Port K → Port K} (h : p.Turn m done) (out : Nat) :
    p.Answers out (p.sealThen out m.bytes done) := by
  unfold Port.sealThen
  split
  · exact .silent p.chan.ackPendingSince (.inr ⟨_, rfl, by simp⟩) rfl
  · next frame sealer hseal => exact .sent p.chan.ackPendingSince h hseal rfl rfl

/-- An answer that sends nothing and changes nothing. -/
lemma Port.Answers.error {e : SessionError} (harmless : e.Harmless) : p.Answers out (.error e, p) :=
  .silent p.chan.ackPendingSince (.inr ⟨e, rfl, harmless⟩) rfl

/-- A Pong is an answer of the port. -/
lemma Port.pollPong_answers {res : Port.Polled K} (h : p.pollPong out = some res) :
    p.Answers out res := by
  unfold Port.pollPong at h
  split at h
  · cases h
  · next pong hpong =>
    rw [writeInto_pong pong.token] at h
    cases h
    exact (Port.Turn.pong hpong).answers out

/-- So is a GridApplied. -/
lemma Port.pollGridApplied_answers {res : Port.Polled K} (h : p.pollGridApplied out = some res) :
    p.Answers out res := by
  unfold Port.pollGridApplied at h
  split at h
  · cases h
  · next gen hgen =>
    split at h
    · cases h
    · next hrole =>
      rw [writeInto_gridApplied] at h
      cases h
      exact (Port.Turn.gridApplied (not_not.mp hrole) hgen).answers out

/-- So is what is sent of a snapshot. -/
lemma Port.pollGrid_answers {res : Port.Polled K} (h : p.pollGrid out scratch = some res) :
    p.Answers out res := by
  unfold Port.pollGrid at h
  split at h
  · cases h
  next ge emitting =>
  split at h
  · cases h
  next hrole =>
  have agent : p.chan.role = .agent := not_not.mp hrole
  split at h
  · next hbegin =>
    unfold Port.pollGridBegin at h
    split at h
    · cases h
    · next plain hplain =>
      cases h
      have hbytes := writeInto_gridBegin hplain
      rw [hbytes] at hplain ⊢
      exact (Port.Turn.gridBegin agent emitting (by simpa using hbegin) hplain).answers out
  next hbegin =>
  have begun : ge.beginSent = true := by simpa using hbegin
  split at h
  · next more =>
    cases h
    unfold Port.pollGridChunk
    split
    · exact .error (by simp)
    · dsimp only
      split
      · exact .error (by simp)
      · next plain hplain =>
        have hbytes := writeInto_gridChunk hplain
        rw [hbytes] at hplain ⊢
        exact (Port.Turn.gridChunk agent emitting begun more hplain).answers out
  · split at h
    · next all =>
      rw [Port.pollGridEnd, writeInto_gridEnd] at h
      cases h
      exact (Port.Turn.gridEnd agent emitting begun all).answers out
    · cases h

/-- A snapshot holds back what comes after it, unless it cannot be sent. -/
lemma Port.pollGrid_none (h : p.pollGrid out scratch = none) (agent : p.chan.role = .agent)
    {ge : GridEmission} (emitting : p.chan.gridEmitting = some ge) :
    (∃ e, writeInto 14 (writeGridBegin ⟨ge.flags, ge.streamGen, ge.scrollbackLen, ge.totalLen⟩) =
      .error e) ∨ ge.totalLen < ge.bytesSent := by
  rw [Port.pollGrid, emitting] at h
  simp only [agent, ne_eq, not_true_eq_false, if_false] at h
  split at h
  · unfold Port.pollGridBegin at h
    split at h
    · next e hwrite => exact .inl ⟨e, hwrite⟩
    · cases h
  split at h
  · cases h
  split at h
  · rw [Port.pollGridEnd, writeInto_gridEnd] at h
    cases h
  · exact .inr (by omega)

/-- So is Data. -/
lemma Port.pollData_answers {res : Port.Polled K} (h : p.pollData out scratch = some res) :
    p.Answers out res := by
  unfold Port.pollData at h
  split at h
  · cases h
  · next hfree =>
    split at h
    · cases h
      exact .error (by simp)
    · dsimp only at h
      split at h
      · cases h
      · next hsize =>
        cases h
        refine Port.Turn.answers (m := .data _ _ _) (.data (by omega) (by omega)
          (Nat.min_le_right _ _) ?_) out
        simpa using fun hsup => hfree (.inr hsup)

/-- So is a SessionEnd, once nothing of a snapshot is left. -/
lemma Port.pollSessionEnd_answers {res : Port.Polled K} (h : p.pollSessionEnd out = some res)
    (behind : p.pollGrid out scratch = none) : p.Answers out res := by
  unfold Port.pollSessionEnd at h
  split at h
  · cases h
  next message hpending =>
  split at h
  · cases h
  next hdue =>
  simp only [not_or, Bool.not_eq_true, not_not] at hdue
  split at h
  · cases h
    exact .error (by simp)
  · next plain hplain =>
    cases h
    rw [writeInto_sessionEnd hplain]
    exact (Port.Turn.sessionEnd hpending hdue.1 hdue.2 fun agent ge hge =>
      Port.pollGrid_none behind agent hge).answers out

/-- So is a Resize. -/
lemma Port.pollResize_answers {res : Port.Polled K} (h : p.pollResize out = some res) :
    p.Answers out res := by
  unfold Port.pollResize at h
  split at h
  · cases h
  · next size hsize =>
    rw [writeInto_resize] at h
    cases h
    exact (Port.Turn.resize hsize).answers out

/-- So is a Ping, or nothing. -/
lemma Port.pollPing_answers (p : Port K) (now : Timestamp) (out : Nat) :
    p.Answers out (p.pollPing now out) := by
  unfold Port.pollPing
  split
  · rw [writeInto_ping]
    exact Port.Turn.ping.answers out
  · exact .silent p.chan.ackPendingSince (.inl rfl) rfl

/-- Only the timer of a bare Ack has been armed. -/
lemma Port.Answers.armed {res : Port.Polled K} {since : Option Timestamp}
    (h : ({ p with chan := { p.chan with ackPendingSince := since } } : Port K).Answers out res) :
    p.Answers out res := by
  cases h with
  | silent since' answer after => exact .silent since' answer after
  | sent since' turn sealed answer after =>
    refine .sent since' ?_ sealed answer after
    cases turn <;> constructor <;> assumption

/-- So is an Ack, or nothing. -/
lemma Port.pollAck_answers (p : Port K) (now : Timestamp) (out : Nat) :
    p.Answers out (p.pollAck now out) := by
  unfold Port.pollAck
  dsimp only
  split
  · split
    · exact .armed (Port.pollPing_answers
        { p with chan := { p.chan with ackPendingSince := some now } } now out)
    · split
      · rw [writeInto_ack]
        exact Port.Turn.ack.answers out
      · exact Port.pollPing_answers p now out
  · exact Port.pollPing_answers p now out

/-- The candidates in their order. -/
lemma Port.pollNext_answers (p : Port K) (now : Timestamp) (out scratch : Nat) :
    p.Answers out (p.pollNext now out scratch) := by
  unfold Port.pollNext
  rcases hpong : p.pollPong out with _ | res
  swap; · exact Port.pollPong_answers hpong
  rcases happlied : p.pollGridApplied out with _ | res
  swap; · exact Port.pollGridApplied_answers happlied
  rcases hgrid : p.pollGrid out scratch with _ | res
  swap; · exact Port.pollGrid_answers hgrid
  rcases hdata : p.pollData out scratch with _ | res
  swap; · exact Port.pollData_answers hdata
  rcases hend : p.pollSessionEnd out with _ | res
  swap; · exact Port.pollSessionEnd_answers hend hgrid
  rcases hresize : p.pollResize out with _ | res
  swap; · exact Port.pollResize_answers hresize
  exact Port.pollAck_answers p now out

/-- Whether a poll goes on to the sealer and finds it due for the next epoch. -/
def Port.Rekeys (p : Port K) (now : Timestamp) : Prop :=
  ¬(¬p.chan.readGateClosed ∧ p.chan.liveness.peerSilenceTimeout > 0 ∧
    now ≥ p.chan.lastHeard + p.chan.liveness.peerSilenceTimeout) ∧ ¬p.chan.sendGateClosed ∧
  (p.chan.sealer.needsRekey ∨ now ≥ p.chan.epochStart + rekeyInterval)

instance (p : Port K) (now : Timestamp) : Decidable (p.Rekeys now) := by
  unfold Port.Rekeys
  infer_instance

/-- The sealer a poll seals with: the one it found, or the one of the next epoch if that is due. -/
def Port.SealsWith (P : KeySchedule K) (p : Port K) (now : Timestamp) (sealer : FrameSealer K) : Prop :=
  sealer = p.chan.sealer ∨ p.Rekeys now ∧ p.chan.sealer.rekey P = .ok sealer

/-- Everything a poll can do. -/
inductive Port.Polls (P : KeySchedule K) (p : Port K) (now : Timestamp) (out : Nat)
    (res : Port.Polled K) : Prop
  | silent {sealer : FrameSealer K} (start : Timestamp) (since : Option Timestamp)
      (keys : p.SealsWith P now sealer)
      (answer : res.1 = .ok none ∨ ∃ e, res.1 = .error e ∧ e.Harmless)
      (after : res.2 = { p with chan := { p.chan with
        sealer := sealer, epochStart := start, ackPendingSince := since } })
  | sent {sealer sealer' : FrameSealer K} (start : Timestamp) (since : Option Timestamp)
      {m : Message} {done : Port K → Port K} {frame : FrameView K}
      (keys : p.SealsWith P now sealer) (turn : p.Turn m done)
      (sealed : sealer.seal out m.bytes = .ok (frame, sealer')) (answer : res.1 = .ok (some frame))
      (after : ∃ q, q = done { p with chan := { p.chan with
          sealer := sealer', epochStart := start, ackPendingSince := since } } ∧
        res.2 = { q with chan := { q.chan with lastSent := now } })

/-- Running out of keys is harmless. -/
lemma Port.rekeyIfNeeded_error {e : SessionError} (h : p.rekeyIfNeeded P now = .error e) :
    e.Harmless := by
  unfold Port.rekeyIfNeeded at h
  split at h
  · cases h
  · split at h
    · cases h
      simp
    · cases h

/-- New keys are all that changes. -/
lemma Port.rekeyIfNeeded_ok {p' : Port K} (h : p.rekeyIfNeeded P now = .ok p')
    (heard : ¬(¬p.chan.readGateClosed ∧ p.chan.liveness.peerSilenceTimeout > 0 ∧
      now ≥ p.chan.lastHeard + p.chan.liveness.peerSilenceTimeout))
    (gate : ¬p.chan.sendGateClosed) :
    ∃ sealer start, p.SealsWith P now sealer ∧
      p' = { p with chan := { p.chan with sealer := sealer, epochStart := start } } := by
  unfold Port.rekeyIfNeeded at h
  split at h
  · cases h
    exact ⟨p.chan.sealer, p.chan.epochStart, .inl rfl, rfl⟩
  next hdue =>
  split at h
  · cases h
  · next sealer hsealer =>
    cases h
    refine ⟨sealer, now, .inr ⟨⟨heard, gate, ?_⟩, hsealer⟩, rfl⟩
    by_contra hnot
    exact hdue ⟨fun h => hnot (.inl h), fun h => hnot (.inr h)⟩

/-- Every poll does one of them. -/
theorem Port.poll_polls (P : KeySchedule K) (p : Port K) (now : Timestamp) (out scratch : Nat) :
    p.Polls P now out (p.poll P now out scratch) := by
  have still : ∀ {res : Port.Polled K}, res.2 = p →
      (res.1 = .ok none ∨ ∃ e, res.1 = .error e ∧ e.Harmless) → p.Polls P now out res :=
    fun hsame hanswer => .silent p.chan.epochStart p.chan.ackPendingSince (.inl rfl) hanswer hsame
  unfold Port.poll
  split
  · exact still rfl (.inr ⟨_, rfl, by simp [SessionError.Harmless]⟩)
  next hheard =>
  split
  · exact still rfl (.inl rfl)
  next hgate =>
  unfold Port.pollOnce
  cases hrekey : p.rekeyIfNeeded P now with
  | error e => exact still rfl (.inr ⟨e, rfl, Port.rekeyIfNeeded_error hrekey⟩)
  | ok p' =>
    obtain ⟨sealer, start, hkeys, rfl⟩ := Port.rekeyIfNeeded_ok hrekey hheard hgate
    dsimp only
    by_cases hroom : out < headerSize + 1 + tagSize
    · rw [if_pos hroom]
      exact .silent start p.chan.ackPendingSince hkeys (.inr ⟨_, rfl, by simp⟩) rfl
    rw [if_neg hroom]
    rcases hres : ({ p with chan := { p.chan with sealer := sealer, epochStart := start } } :
      Port K).pollNext now out scratch with ⟨answer, q⟩
    have hnext := Port.pollNext_answers
      { p with chan := { p.chan with sealer := sealer, epochStart := start } } now out scratch
    rw [hres] at hnext
    cases hnext with
    | silent since answer after =>
      rcases answer with hnone | ⟨e, herr, harmless⟩
      · cases hnone
        exact .silent start since hkeys (.inl rfl) after
      · cases herr
        exact .silent start since hkeys (.inr ⟨e, rfl, harmless⟩) after
    | sent since turn sealed answer after =>
      cases answer
      refine .sent start since hkeys ?_ sealed rfl ⟨q, after, rfl⟩
      -- a turn is not about the sealer
      cases turn <;> constructor <;> assumption

/-- A poll that sent no frame changed nothing the other end can tell; one that sent a frame sent a
message the state allowed. -/
def Port.PollSpec (p : Port K) (res : Port.Polled K) : Prop :=
  (res.2.face = p.face ∧ (res.1 = .ok none ∨ ∃ e, res.1 = .error e ∧ e.Harmless)) ∨
    ∃ frame m, res.1 = .ok (some frame) ∧ frame.body.plaintext = m.bytes ∧
      p.face.Sends m res.2.face

/-- What a turn does is what its message does. -/
lemma Port.Turn.sends {m : Message} {done : Port K → Port K} (h : p.Turn m done)
    (sealer : FrameSealer K) (start : Timestamp) (since : Option Timestamp) :
    p.face.Sends m (done { p with chan := { p.chan with
      sealer := sealer, epochStart := start, ackPendingSince := since } }).face := by
  cases h with
  | gridApplied client due => exact .gridApplied client due
  | gridBegin agent emitting first => exact .gridBegin agent emitting first
  | gridChunk agent emitting begun more => exact .gridChunk agent emitting begun more
  | gridEnd agent emitting begun all => exact .gridEnd agent emitting begun all
  | data pos cap avail free =>
    refine .data pos cap avail ?_
    rintro ⟨hrole, hgrid⟩
    simp only [Port.face, Channel.grid] at hrole hgrid
    simp only [Port.dataSuppressed, hrole, Channel.gridInFlight, beq_self_eq_true, Bool.true_and,
      Bool.or_eq_false_iff] at free
    simp [free] at hgrid
  | ack => exact .ack
  | _ => exact .control trivial

/-- What the other end can tell of a poll. -/
theorem Port.poll_cases (P : KeySchedule K) (p : Port K) (now : Timestamp) (out scratch : Nat) :
    p.PollSpec (p.poll P now out scratch) := by
  cases Port.poll_polls P p now out scratch with
  | silent start since keys answer after =>
    rw [Port.PollSpec, after]
    exact .inl ⟨rfl, answer⟩
  | sent start since keys turn sealed answer after =>
    obtain ⟨q, rfl, hafter⟩ := after
    rw [Port.PollSpec, hafter]
    exact .inr ⟨_, _, answer, FrameSealer.seal_plaintext sealed, turn.sends _ start since⟩

/-- The keys are renewed when that is due, and let another frame be sealed. -/
lemma Port.rekeyIfNeeded_fresh (P : KeySchedule K) (p : Port K) (now : Timestamp)
    (epoch : p.chan.sealer.epoch < 0xFF) (limit : 0 < p.chan.sealer.frameLimit) :
    ∃ sealer start, p.rekeyIfNeeded P now =
        .ok { p with chan := { p.chan with sealer := sealer, epochStart := start } } ∧
      sealer.counter < sealer.frameLimit := by
  unfold Port.rekeyIfNeeded
  split
  · next hno =>
    refine ⟨p.chan.sealer, p.chan.epochStart, rfl, ?_⟩
    have hneeds : p.chan.sealer.needsRekey = false := by simpa using hno.1
    simp only [FrameSealer.needsRekey, Bool.or_eq_false_iff, decide_eq_false_iff_not] at hneeds
    omega
  · rw [FrameSealer.rekey, if_neg (by omega)]
    exact ⟨_, _, rfl, limit⟩

/-- A poll with keys to seal with, an open gate and a peer that is not silent sends what is next. -/
lemma Port.poll_next (P : KeySchedule K) {p : Port K} {now : Timestamp} {out : Nat}
    (keys : p.chan.sealer.epoch < 0xFF ∧ 0 < p.chan.sealer.frameLimit)
    (heard : now < p.chan.lastHeard + p.chan.liveness.peerSilenceTimeout ∨
      p.chan.liveness.peerSilenceTimeout = 0)
    (gate : p.chan.sendGateClosed = false) (room : headerSize + 1 + tagSize ≤ out) (scratch : Nat) :
    ∃ sealer start, sealer.counter < sealer.frameLimit ∧ ∀ {frame : FrameView K} {q : Port K},
      ({ p with chan := { p.chan with sealer := sealer, epochStart := start } } : Port K).pollNext
        now out scratch = (.ok (some frame), q) →
      p.poll P now out scratch = (.ok (some frame), { q with chan := { q.chan with lastSent := now } }) := by
  obtain ⟨sealer, start, hrekey, hfresh⟩ := Port.rekeyIfNeeded_fresh P p now keys.1 keys.2
  have hsilent : ¬(¬p.chan.readGateClosed = true ∧ p.chan.liveness.peerSilenceTimeout > 0 ∧
      now ≥ p.chan.lastHeard + p.chan.liveness.peerSilenceTimeout) := by
    rintro ⟨-, hpos, hlate⟩
    rcases heard with hlt | hzero
    · exact absurd hlate (Nat.not_le.mpr hlt)
    · exact absurd hzero (Nat.ne_of_gt hpos)
  refine ⟨sealer, start, hfresh, fun {frame q} hnext => ?_⟩
  unfold Port.poll
  rw [if_neg hsilent, if_neg (by simp [gate]), Port.pollOnce, hrekey]
  simp only
  rw [if_neg (by omega), hnext]

/-- Everything a poll can say, and what it leaves behind. -/
inductive Face.Says (f : Face) : Said → Face → Prop
  | data {n : Nat} (pos : 0 < n) (avail : n ≤ f.sendBuf.unsent) (free : ¬f.grid.Suppressed)
      (some : f.sendBuf.copyOut f.sendBuf.sendNext n ≠ []) :
      Face.Says f
        (.data (f.recvCursor.ackOffset % 256 ^ 8) (f.sendBuf.sendNext % 256 ^ 8)
          (f.sendBuf.copyOut f.sendBuf.sendNext n))
        { f with sendBuf :=
          f.sendBuf.advanceSendNext (f.sendBuf.copyOut f.sendBuf.sendNext n).length }
  | blank {n : Nat} (pos : 0 < n) (avail : n ≤ f.sendBuf.unsent)
      (none : f.sendBuf.copyOut f.sendBuf.sendNext n = []) :
      Face.Says f .other { f with sendBuf := f.sendBuf.advanceSendNext 0 }
  | ack : Face.Says f (.ack (f.recvCursor.ackOffset % 256 ^ 8)) f
  | other : Face.Says f .other f
  | gridApplied {gen : Nat} (client : f.grid.role = .client)
      (pending : f.grid.pendingApplied = some gen) :
      Face.Says f (.gridApplied (gen % 256 ^ 4))
        { f with grid := { f.grid with pendingApplied := none } }
  | gridBegin {ge : GridEmission} {said : Said} (agent : f.grid.role = .agent)
      (emitting : f.grid.emitting = some ge) (first : ge.beginSent = false)
      (said_eq : said = .gridBegin (ge.streamGen % 256 ^ 4) ∨ said = .other) :
      Face.Says f said
        { f with grid := { f.grid with emitting := some { ge with beginSent := true } } }
  | gridChunk {ge : GridEmission} {sent : Nat} (agent : f.grid.role = .agent)
      (emitting : f.grid.emitting = some ge) (begun : ge.beginSent = true) :
      Face.Says f .other
        { f with grid := { f.grid with emitting := some { ge with bytesSent := sent } } }
  | gridEnd {ge : GridEmission} (agent : f.grid.role = .agent) (emitting : f.grid.emitting = some ge)
      (begun : ge.beginSent = true) :
      Face.Says f .gridEnd
        { f with grid := { f.grid with emitting := none, awaitingApplied := true } }

/-- No read of the buffer is longer than its destination. -/
lemma SendBuffer.length_copyOut_le (b : SendBuffer) (from_ dest : Nat)
    (size_le : b.end_ - b.base ≤ b.storage.length) : (b.copyOut from_ dest).length ≤ dest := by
  unfold SendBuffer.copyOut
  split
  · exact Nat.zero_le _
  · next hin =>
    simp only [not_or, Nat.not_lt, ge_iff_le, Nat.not_le, List.isEmpty_iff] at hin
    rw [Lib.length_ringRead (List.length_pos_iff.mpr hin.1) (by omega)]
    omega

/-- The other end reads a written message as it was meant, up to the width of its fields. -/
lemma Face.Sends.spoken {f f' : Face} {m : Message} (version : Nat) (h : f.Sends m f')
    (size_le : f.sendBuf.end_ - f.sendBuf.base ≤ f.sendBuf.storage.length) :
    f.Says (.of version m.bytes) f' := by
  rw [Said.of, Message.bytes, parseMessageType_write m.type m.body]
  cases h with
  | @data n pos cap avail free =>
    by_cases hnil : f.sendBuf.copyOut f.sendBuf.sendNext n = []
    · have hparse : ∀ a o, ∃ e, parseData (encodeBE 8 a ++ (encodeBE 8 o ++ [])) = .error e := by
        intro a o
        refine ⟨.malformedField, ?_⟩
        rw [parseData, Reader.bind_ok (readBE_encodeBE 8 a _),
          Reader.bind_ok (readBE_encodeBE 8 o _)]
        rfl
      obtain ⟨e, herr⟩ := hparse f.recvCursor.ackOffset f.sendBuf.sendNext
      simp only [Message.type, Message.body, hnil, herr]
      exact .blank pos avail hnil
    · have hlen := (SendBuffer.length_copyOut_le f.sendBuf f.sendBuf.sendNext n size_le).trans cap
      simp only [Message.type, Message.body, parseData_write hnil hlen]
      exact .data pos avail free hnil
  | ack =>
    simp only [Message.type, Message.body, parseAck_write]
    exact .ack
  | control hm =>
    cases m with
    | resize | ping | pong | sessionEnd => exact .other
    | _ => exact absurd hm (by simp [Message.IsControl])
  | gridApplied client pending =>
    simp only [Message.type, Message.body, parseGridApplied_write]
    exact .gridApplied client pending
  | @gridBegin ge agent emitting first =>
    refine .gridBegin agent emitting first ?_
    simp only [Message.type, Message.body]
    split
    · next m rest hparse =>
      left
      rw [parseGridBegin_gen hparse]
    · exact .inr rfl
  | gridChunk agent emitting begun => exact .gridChunk agent emitting begun
  | gridEnd agent emitting begun => exact .gridEnd agent emitting begun

/-- The face after an acknowledgement, which is ignored while GridApplied is pending. -/
def Face.applyAck (f : Face) (ack : Nat) : Except StreamError Face :=
  if f.grid.awaitingApplied then .ok f
  else (f.sendBuf.acknowledge ack).map fun sendBuf => { f with sendBuf := sendBuf }

/-- The face after a piece of the stream. -/
def Face.deliver (f : Face) (offset : Nat) (payload : Bytes) :
    Except SessionError IncomingEvent × Face :=
  match f.recvCursor.receive offset payload with
  | .error e => (.error (.stream e), f)
  | .ok (delivered, recvCursor) =>
    (.ok (if delivered.isEmpty then .nothing else .data delivered f.recvCursor.recvOffset),
      { f with recvCursor := recvCursor })

/-- The face after a Data message that parsed. -/
def Face.hearData (f : Face) (ack offset : Nat) (payload : Bytes) :
    Except SessionError IncomingEvent × Face :=
  match f.applyAck ack with
  | .error e => (.error (.stream e), f)
  | .ok f => f.deliver offset payload

/-- The face after an Ack message that parsed. -/
def Face.hearAck (f : Face) (ack : Nat) : Except SessionError IncomingEvent × Face :=
  match f.applyAck ack with
  | .error e => (.error (.stream e), f)
  | .ok f => (.ok .nothing, f)

/-- An acknowledgement moves the send buffer, or nothing while GridApplied is pending. -/
lemma Face.applyAck_ok {f f' : Face} {a : Nat} (h : f.applyAck a = .ok f') :
    (f.grid.awaitingApplied = true ∧ f' = f) ∨
      (f.grid.awaitingApplied = false ∧
        ∃ b, f.sendBuf.acknowledge a = .ok b ∧ f' = { f with sendBuf := b }) := by
  unfold Face.applyAck at h
  split at h
  · next hawait =>
    cases h
    exact .inl ⟨hawait, rfl⟩
  · next hawait =>
    cases hb : f.sendBuf.acknowledge a with
    | error e =>
      rw [hb] at h
      cases h
    | ok b =>
      rw [hb] at h
      cases h
      exact .inr ⟨by simpa using hawait, b, rfl, rfl⟩

/-- An Ack is refused by the buffer, and only outside a snapshot. -/
lemma Face.applyAck_error {f : Face} {a : Nat} {e : StreamError} (h : f.applyAck a = .error e) :
    f.grid.awaitingApplied = false ∧ f.sendBuf.acknowledge a = .error e := by
  unfold Face.applyAck at h
  split at h
  · cases h
  · next hawait =>
    cases hb : f.sendBuf.acknowledge a with
    | error e' =>
      rw [hb] at h
      cases h
      exact ⟨by simpa using hawait, rfl⟩
    | ok b =>
      rw [hb] at h
      cases h

/-- Delivering leaves the exchange of snapshots alone. -/
@[simp] lemma Face.deliver_grid (f : Face) (offset : Nat) (payload : Bytes) :
    (f.deliver offset payload).2.grid = f.grid := by
  unfold Face.deliver
  split <;> rfl

/-- It leaves the buffer alone. -/
@[simp] lemma Face.deliver_sendBuf (f : Face) (offset : Nat) (payload : Bytes) :
    (f.deliver offset payload).2.sendBuf = f.sendBuf := by
  unfold Face.deliver
  split <;> rfl

/-- Hearing Data leaves the exchange of snapshots alone. -/
@[simp] lemma Face.hearData_grid (f : Face) (a offset : Nat) (payload : Bytes) :
    (f.hearData a offset payload).2.grid = f.grid := by
  unfold Face.hearData
  split
  · rfl
  · next f' hack =>
    rcases Face.applyAck_ok hack with ⟨-, rfl⟩ | ⟨-, b, -, rfl⟩ <;> simp

/-- So does hearing an Ack. -/
@[simp] lemma Face.hearAck_grid (f : Face) (a : Nat) : (f.hearAck a).2.grid = f.grid := by
  unfold Face.hearAck
  split
  · rfl
  · next f' hack =>
    rcases Face.applyAck_ok hack with ⟨-, rfl⟩ | ⟨-, b, -, rfl⟩ <;> rfl

/-- Everything a frame can do that says what it says: act, or be rejected. -/
inductive Face.Hears (f : Face) : Said → Except SessionError IncomingEvent × Face → Prop
  | rejected (said : Said) (e : ProtoError) : Face.Hears f said (.error (.proto e), f)
  | nothing (said : Said) (other : said = .other) : Face.Hears f said (.ok .nothing, f)
  | resize (size : ResizeMessage) : Face.Hears f .other (.ok (.resize size), f)
  | sessionEnd (client : f.grid.role = .client) (message : SessionEndMessage) :
      Face.Hears f .other (.ok (.sessionEnd message), f)
  | data {ack offset : Nat} {payload : Bytes}
      (free : ¬(f.grid.role = .client ∧ f.grid.receiving.isSome)) :
      Face.Hears f (.data ack offset payload) (f.hearData ack offset payload)
  | ack {ack : Nat} : Face.Hears f (.ack ack) (f.hearAck ack)
  | gridBegin {r : GridReception} (client : f.grid.role = .client)
      (idle : f.grid.receiving = none) (newer : f.grid.streamGen < r.streamGen) :
      Face.Hears f (.gridBegin r.streamGen)
        (.ok .nothing, { f with grid := { f.grid with receiving := some r } })
  | gridChunk {r r' : GridReception} (client : f.grid.role = .client)
      (receiving : f.grid.receiving = some r) (same : r'.streamGen = r.streamGen) :
      Face.Hears f .other (.ok .nothing, { f with grid := { f.grid with receiving := some r' } })
  | gridEnd {r : GridReception} (client : f.grid.role = .client) (bytes : Bytes)
      (receiving : f.grid.receiving = some r) :
      Face.Hears f .gridEnd (.ok (.gridSnapshot bytes r.streamGen r.scrollbackLen r.flags),
        { f with
          recvCursor := f.recvCursor.reset 0
          grid := { f.grid with receiving := none, streamGen := r.streamGen } })
  | gridApplied (agent : f.grid.role = .agent) (awaiting : f.grid.awaitingApplied = true)
      (done : f.grid.emitting = none) :
      Face.Hears f (.gridApplied f.grid.expectedGen) (.ok (.gridApplied f.grid.expectedGen),
        { f with grid := { f.grid with awaitingApplied := false } })

/-- The result of a receive, seen from the other end. -/
def Port.heard (res : Port.Received K) : Except SessionError IncomingEvent × Face :=
  (res.1, res.2.face)

/-- An Ack does to the port what it does to its face. -/
lemma Port.applyAck_face (p : Port K) (ack : Nat) :
    (p.applyAck ack).map Port.face = p.face.applyAck ack := by
  unfold Port.applyAck Face.applyAck
  by_cases hawait : p.chan.gridAwaitingApplied = true
  · rw [if_pos hawait, if_pos (by exact hawait)]
    rfl
  · rw [if_neg hawait, if_neg (by exact hawait)]
    simp only [Port.face]
    cases p.sendBuf.acknowledge ack <;> rfl

/-- So does a delivery. -/
lemma Port.deliver_face (p : Port K) (m : DataMessage) :
    Port.heard (p.deliver m) = p.face.deliver m.offset m.payload := by
  unfold Port.deliver Face.deliver
  simp only [Port.face]
  cases p.recvCursor.receive m.offset m.payload with
  | error e => rfl
  | ok r =>
    dsimp only
    split <;> rfl

/-- A Data message acts on the face alone. -/
lemma Port.receiveData_face {p : Port K} {body rest : Bytes} {m : DataMessage}
    (free : ¬(p.chan.role = .client ∧ p.chan.gridReceiving.isSome))
    (parsed : parseData body = .ok (m, rest)) :
    Port.heard (p.receiveData body) = p.face.hearData m.ack m.offset m.payload := by
  rw [Port.receiveData, if_neg free, parsed]
  dsimp only
  unfold Face.hearData
  rw [← Port.applyAck_face]
  cases hack : p.applyAck m.ack with
  | error e => rfl
  | ok p' => exact Port.deliver_face p' m

/-- An Ack message acts on the face alone. -/
lemma Port.receiveAck_face {p : Port K} {body rest : Bytes} {m : AckMessage}
    (parsed : parseAck body = .ok (m, rest)) :
    Port.heard (p.receiveAck body) = p.face.hearAck m.ack := by
  rw [Port.receiveAck, parsed]
  dsimp only
  unfold Face.hearAck
  rw [← Port.applyAck_face]
  cases hack : p.applyAck m.ack with
  | error e => rfl
  | ok p' => rfl

/-- A GridBegin is heard as one. -/
lemma Port.receiveGridBegin_hears {p : Port K} {body rest : Bytes} {m : GridBeginMessage}
    (parsed : parseGridBegin body = .ok (m, rest)) :
    p.face.Hears (.gridBegin m.streamGen) (Port.heard (p.receiveGridBegin body)) := by
  unfold Port.receiveGridBegin
  rw [parsed]
  split
  · exact .rejected _ _
  split
  · exact .rejected _ _
  next hrole =>
  dsimp only
  split
  · exact .rejected _ _
  next hfree =>
  split
  · exact .rejected _ _
  split
  · exact .rejected _ _
  split
  · exact .rejected _ _
  next hgen =>
  refine .gridBegin (r := ⟨m.streamGen, m.totalLen, m.scrollbackLen, m.flags, 0⟩)
    (not_not.mp hrole) ?_ (Nat.not_le.mp hgen)
  simpa [Port.face, Channel.grid] using hfree

/-- A GridChunk is heard as nothing the streams can tell. -/
lemma Port.receiveGridChunk_hears (p : Port K) (body : Bytes) :
    p.face.Hears .other (Port.heard (p.receiveGridChunk body)) := by
  unfold Port.receiveGridChunk
  split
  · exact .rejected _ _
  split
  · exact .rejected _ _
  next hrole =>
  split
  · exact .rejected _ _
  split
  · exact .rejected _ _
  next r hr =>
  split
  · exact .rejected _ _
  split
  · exact .rejected _ _
  split
  · exact .rejected _ _
  exact .gridChunk (not_not.mp hrole) hr rfl

/-- A GridEnd is heard as one. -/
lemma Port.receiveGridEnd_hears (p : Port K) (body : Bytes) :
    p.face.Hears .gridEnd (Port.heard (p.receiveGridEnd body)) := by
  unfold Port.receiveGridEnd
  split
  · exact .rejected _ _
  split
  · exact .rejected _ _
  next hrole =>
  split
  · exact .rejected _ _
  next r hr =>
  split
  · exact .rejected _ _
  exact .gridEnd (not_not.mp hrole) _ hr

/-- A GridApplied is heard as one. -/
lemma Port.receiveGridApplied_hears {p : Port K} {body rest : Bytes} {m : GridAppliedMessage}
    (parsed : parseGridApplied body = .ok (m, rest)) :
    p.face.Hears (.gridApplied m.streamGen) (Port.heard (p.receiveGridApplied body)) := by
  unfold Port.receiveGridApplied
  rw [parsed]
  split
  · exact .rejected _ _
  split
  · exact .rejected _ _
  next hrole =>
  dsimp only
  split
  · exact .rejected _ _
  next hopen =>
  split
  · exact .rejected _ _
  next hgen =>
  have hsame : m.streamGen = p.chan.gridExpectedAppliedGen := not_not.mp hgen
  simp only [not_or, Bool.not_eq_true, Option.isSome_eq_false_iff, Option.isNone_iff_eq_none,
    Bool.not_eq_false] at hopen
  rw [hsame]
  exact .gridApplied (not_not.mp hrole) hopen.1 hopen.2

/-- Everything an opened frame can do. The version a Resume is read under is no matter here. -/
lemma Port.receivePlain_hears (version : Nat) (p : Port K) (plain : Bytes) :
    p.face.Hears (.of version plain) (Port.heard (p.receivePlain plain)) := by
  unfold Port.receivePlain Said.of
  cases htype : parseMessageType plain with
  | error e =>
    cases e with
    | unknownMessageType => exact .nothing _ rfl
    | _ => exact .rejected _ _
  | ok typed =>
  obtain ⟨type, body⟩ := typed
  cases type with
  | data =>
    by_cases hfree : p.chan.role = .client ∧ p.chan.gridReceiving.isSome
    · simp only [Port.receiveData, if_pos hfree]
      exact .rejected _ _
    · cases hparse : parseData body with
      | error e =>
        simp only [Port.receiveData, if_neg hfree, hparse]
        exact .rejected _ _
      | ok m =>
        have hface := Port.receiveData_face hfree hparse
        simp only [hface, hparse]
        exact .data hfree
  | ack =>
    cases hparse : parseAck body with
    | error e =>
      simp only [Port.receiveAck, hparse]
      exact .rejected _ _
    | ok m =>
      have hface := Port.receiveAck_face (p := p) hparse
      simp only [hface, hparse]
      exact .ack
  | resize =>
    simp only [Port.receiveResize]
    split
    · exact .rejected _ _
    · exact .resize _
  | ping =>
    simp only [Port.receivePing]
    split
    · exact .rejected _ _
    · exact .nothing _ rfl
  | pong =>
    simp only [Port.receivePong]
    split
    · exact .rejected _ _
    · exact .nothing _ rfl
  | sessionEnd =>
    simp only [Port.receiveSessionEnd]
    split
    · exact .rejected _ _
    · next hrole =>
      split
      · exact .rejected _ _
      · exact .sessionEnd (not_not.mp hrole) _
  | gridBegin =>
    cases hparse : parseGridBegin body with
    | error e =>
      simp only [Port.receiveGridBegin, hparse]
      split
      · exact .rejected _ _
      split <;> exact .rejected _ _
    | ok m =>
      simp only [hparse]
      exact Port.receiveGridBegin_hears hparse
  | gridChunk => exact Port.receiveGridChunk_hears p body
  | gridEnd => exact Port.receiveGridEnd_hears p body
  | gridApplied =>
    cases hparse : parseGridApplied body with
    | error e =>
      simp only [Port.receiveGridApplied, hparse]
      split
      · exact .rejected _ _
      split <;> exact .rejected _ _
    | ok m =>
      simp only [hparse]
      exact Port.receiveGridApplied_hears hparse
  | _ => exact .rejected _ _

/-- Everything a receive can do, whoever sealed the frame. -/
theorem Port.receive_cases [DecidableEq K] (P : KeySchedule K) (version : Nat) (p : Port K)
    (now : Timestamp) (frame : FrameView K) :
    p.face.Hears (.of version frame.body.plaintext) (Port.heard (p.receive P now frame)) := by
  unfold Port.receive
  split
  · exact .rejected _ _
  · next plain opener hopen =>
    rw [FrameOpener.open_plaintext hopen]
    exact Port.receivePlain_hears version
      { p with chan := { p.chan with opener := opener, lastHeard := now } } _

/-- The port once a frame has opened. -/
def Port.opened (p : Port K) (now : Timestamp) (opener : FrameOpener K) : Port K :=
  { p with chan := { p.chan with opener := opener, lastHeard := now } }

/-- What a frame that opens does is what its plaintext does. -/
lemma Port.receive_opened [DecidableEq K] {P : KeySchedule K} {p : Port K} {now : Timestamp}
    {frame : FrameView K} {plain : Bytes} (h : (p.chan.opener.open P frame).1 = .ok plain) :
    p.receive P now frame =
      (p.opened now (p.chan.opener.open P frame).2).receivePlain plain := by
  unfold Port.receive
  split
  · next hopen => rw [hopen] at h; cases h
  · next hopen =>
    rw [hopen] at h ⊢
    cases h
    rfl

/-- An acknowledgement keeps the window, whatever becomes of it. -/
lemma Face.hears_holds {f : Face} {said : Said} {out : Except SessionError IncomingEvent × Face}
    {log : Bytes} (h : f.Hears said out) (holds : f.sendBuf.Holds log) :
    out.2.sendBuf.Holds log := by
  have happly : ∀ {a : Nat} {f' : Face}, f.applyAck a = .ok f' → f'.sendBuf.Holds log := by
    intro a f' hack
    rcases Face.applyAck_ok hack with ⟨-, rfl⟩ | ⟨-, b, hb, rfl⟩
    · exact holds
    · exact holds.acknowledge hb
  cases h with
  | data =>
    unfold Face.hearData
    split
    · exact holds
    · next hack =>
      rw [Face.deliver_sendBuf]
      exact happly hack
  | ack =>
    unfold Face.hearAck
    split
    · exact holds
    · next hack => exact happly hack
  | _ => exact holds

/-- Saying anything keeps the window. -/
lemma Face.says_holds {f f' : Face} {said : Said} {log : Bytes} (h : f.Says said f')
    (holds : f.sendBuf.Holds log) : f'.sendBuf.Holds log := by
  cases h with
  | data => exact holds.advanceSendNext _
  | blank => exact holds.advanceSendNext _
  | _ => exact holds

/-- What an agent's end does with a frame: nothing to the exchange, or it takes the GridApplied it
was waiting for. -/
lemma Face.hears_agentGrid {f : Face} {said : Said}
    {out : Except SessionError IncomingEvent × Face} (h : f.Hears said out)
    (agent : f.grid.role = .agent) :
    out.2.grid = f.grid ∨
      (said = .gridApplied f.grid.expectedGen ∧ f.grid.awaitingApplied = true ∧
        f.grid.emitting = none ∧ out.2.grid = { f.grid with awaitingApplied := false }) := by
  cases h with
  | data => exact .inl (by simp)
  | ack => exact .inl (by simp)
  | gridBegin client => simp [agent] at client
  | gridChunk client => simp [agent] at client
  | gridEnd client => simp [agent] at client
  | gridApplied _ awaiting done => exact .inr ⟨rfl, awaiting, done, rfl⟩
  | _ => exact .inl rfl

/-- What a channel sends with, and what it is to say at the end of its session. -/
def Channel.outbox (c : Channel K) : FrameSealer K × Option SessionEndMessage × Bool :=
  (c.sealer, c.pendingEnd, c.endSent)

/-- Delivering queues nothing. -/
lemma Port.deliver_outbox (p : Port K) (m : DataMessage) :
    (p.deliver m).2.chan.outbox = p.chan.outbox := by
  unfold Port.deliver
  dsimp only
  split
  · rfl
  · split <;> rfl

/-- An Ack leaves the channel alone. -/
lemma Port.applyAck_chan {p p' : Port K} {ack : Nat} (h : p.applyAck ack = .ok p') :
    p'.chan = p.chan := by
  unfold Port.applyAck at h
  split at h
  · cases h
    rfl
  · cases hack : p.sendBuf.acknowledge ack with
    | error e => simp [hack, Except.map] at h
    | ok sendBuf =>
      simp only [hack, Except.map, Except.ok.injEq] at h
      rw [← h]

/-- It leaves the cursor alone. -/
lemma Port.applyAck_recvCursor {p q : Port K} {ack : Nat} (h : p.applyAck ack = .ok q) :
    q.recvCursor = p.recvCursor := by
  unfold Port.applyAck at h
  split at h
  · cases h
    rfl
  · cases hsend : p.sendBuf.acknowledge ack with
    | error e => simp [hsend, Except.map] at h
    | ok sendBuf =>
      simp only [hsend, Except.map, Except.ok.injEq] at h
      rw [← h]

/-- Data and Acks queue nothing. -/
lemma Port.receiveStream_outbox (p : Port K) (body : Bytes) :
    (p.receiveData body).2.chan.outbox = p.chan.outbox ∧
      (p.receiveAck body).2.chan.outbox = p.chan.outbox := by
  constructor
  · unfold Port.receiveData
    split
    · rfl
    split
    · rfl
    split
    · rfl
    · next p' hack =>
      rw [deliver_outbox, applyAck_chan hack]
  · unfold Port.receiveAck
    split
    · rfl
    split
    · rfl
    · next p' hack => exact congrArg Channel.outbox (applyAck_chan hack)

/-- The messages of a snapshot queue nothing. -/
lemma Port.receiveGrid_outbox (p : Port K) (body : Bytes) :
    (p.receiveGridBegin body).2.chan.outbox = p.chan.outbox ∧
      (p.receiveGridChunk body).2.chan.outbox = p.chan.outbox ∧
      (p.receiveGridEnd body).2.chan.outbox = p.chan.outbox ∧
      (p.receiveGridApplied body).2.chan.outbox = p.chan.outbox := by
  refine ⟨?_, ?_, ?_, ?_⟩
  · unfold Port.receiveGridBegin
    repeat' split
    all_goals rfl
  · unfold Port.receiveGridChunk
    repeat' split
    all_goals rfl
  · unfold Port.receiveGridEnd
    repeat' split
    all_goals rfl
  · unfold Port.receiveGridApplied
    repeat' split
    all_goals rfl

/-- No body queues anything. -/
lemma Port.receivePlain_outbox (p : Port K) (plain : Bytes) :
    (p.receivePlain plain).2.chan.outbox = p.chan.outbox := by
  unfold Port.receivePlain
  split
  · rfl
  · rfl
  next type body _ =>
  cases type with
  | data => exact (receiveStream_outbox p body).1
  | ack => exact (receiveStream_outbox p body).2
  | gridBegin => exact (receiveGrid_outbox p body).1
  | gridChunk => exact (receiveGrid_outbox p body).2.1
  | gridEnd => exact (receiveGrid_outbox p body).2.2.1
  | gridApplied => exact (receiveGrid_outbox p body).2.2.2
  | resize =>
    simp only [Port.receiveResize]
    split <;> rfl
  | ping =>
    simp only [Port.receivePing]
    split <;> rfl
  | pong =>
    simp only [Port.receivePong]
    split <;> rfl
  | sessionEnd =>
    simp only [Port.receiveSessionEnd]
    split
    · rfl
    · split <;> rfl
  | _ => rfl

/-- Receiving neither seals nor says anything of the end. -/
lemma Port.receive_outbox [DecidableEq K] (P : KeySchedule K) (p : Port K) (now : Timestamp)
    (frame : FrameView K) : (p.receive P now frame).2.chan.outbox = p.chan.outbox := by
  unfold Port.receive
  split
  · rfl
  · rw [receivePlain_outbox]
    rfl

end

end Zet.Session
