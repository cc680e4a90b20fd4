import Zet.Lib.Run
import Zet.Session.ChannelSpec

/-!
# Emitting a snapshot

The life of the snapshot an agent channel borrows, from `StartGrid` to the poll that seals its
GridEnd. The machine of this module is one channel under any calls its owner can make: snapshots
handed to it, frames received, polls with buffers of any size, gates opened and closed, and the
streams it borrows moving between the calls. The history variable `owed` remembers from the results
alone that a snapshot was accepted and its GridEnd has not come out of a poll yet.

`Kept` is the invariant: `owed` is exactly "an emission is in progress", and through all of an
emission `gridAwaitingApplied` is already set. From it `truthful_iff_not_owed`: what
`GridEmissionDone` says is true of the channel exactly when nothing is owed.
-/

namespace Zet.Session
open Zet.Core Zet.Wire Zet.Lib

/-- Messages with the same bytes have the same type. -/
lemma Message.type_eq_of_bytes_eq {m m' : Message} (h : m.bytes = m'.bytes) : m.type = m'.type := by
  have hm := parseMessageType_write m.type m.body
  have hm' := parseMessageType_write m'.type m'.body
  unfold Message.bytes at h
  rw [h, hm'] at hm
  injection hm with hpair
  exact (congrArg Prod.fst hpair).symm

/-- Only a GridEnd has the bytes of one. -/
lemma Message.bytes_eq_gridEnd {m : Message} (h : m.bytes = Message.gridEnd.bytes) :
    m = .gridEnd := by
  have htype := Message.type_eq_of_bytes_eq h
  cases m <;> first | rfl | cases htype

/-- The borrowed span a snapshot exchange still reads from. -/
def GridState.borrowed (g : GridState) : Option Bytes := g.emitting.map GridEmission.snapshot

/-- GridEnd gives the span back; nothing else a poll sends does. -/
lemma Face.Sends.borrowed {f f' : Face} {m : Message} (h : f.Sends m f') :
    f'.grid.role = f.grid.role ∧
      ((m = .gridEnd ∧ f'.grid.borrowed = none ∧ f'.grid.awaitingApplied = true) ∨
        (m ≠ .gridEnd ∧ f'.grid.borrowed = f.grid.borrowed ∧
          f'.grid.awaitingApplied = f.grid.awaitingApplied)) := by
  cases h with
  | data => exact ⟨rfl, .inr ⟨by simp, rfl, rfl⟩⟩
  | ack => exact ⟨rfl, .inr ⟨by simp, rfl, rfl⟩⟩
  | control hm =>
    refine ⟨rfl, .inr ⟨?_, rfl, rfl⟩⟩
    rintro rfl
    exact hm
  | gridApplied => exact ⟨rfl, .inr ⟨by simp, rfl, rfl⟩⟩
  | gridBegin _ hemit => exact ⟨rfl, .inr ⟨by simp, by simp [GridState.borrowed, hemit], rfl⟩⟩
  | gridChunk _ hemit => exact ⟨rfl, .inr ⟨by simp, by simp [GridState.borrowed, hemit], rfl⟩⟩
  | gridEnd => exact ⟨rfl, .inl ⟨rfl, rfl, rfl⟩⟩

/-- A frame never starts or ends an emission, and GridApplied counts only once it has ended. -/
lemma Face.Hears.borrowed {f : Face} {said : Said} {res : Except SessionError IncomingEvent × Face}
    (h : f.Hears said res) :
    res.2.grid.role = f.grid.role ∧ res.2.grid.borrowed = f.grid.borrowed ∧
      (res.2.grid.awaitingApplied = f.grid.awaitingApplied ∨ f.grid.borrowed = none) := by
  cases h with
  | data => simp
  | ack => simp
  | gridApplied _ _ done => exact ⟨rfl, rfl, .inr (by simp [GridState.borrowed, done])⟩
  | _ => exact ⟨rfl, rfl, .inl rfl⟩

namespace Emission

/-- A channel with its streams, and whether a GridEnd is owed for an accepted snapshot. -/
structure State (K : Type) where
  port : Port K
  owed : Bool
deriving DecidableEq, Repr

/-- What the owner of a channel can do. -/
inductive Action (K : Type) where
  | startGrid (snapshot : Bytes) (flags streamGen scrollbackLen : Nat)
  | poll (now : Timestamp) (out scratch : Nat)
  | receive (now : Timestamp) (frame : FrameView K)
  | setSendGate (open_ : Bool)
  | setReadGate (open_ : Bool) (now : Timestamp)
  | queueResize (size : ResizeMessage)
  | queueSessionEnd (message : SessionEndMessage)
  | suppressDataUntilGrid
  /-- The session moved the streams the channel borrows. -/
  | streams (sendBuf : SendBuffer) (recvCursor : ReceiveCursor)

variable {K : Type}

/-- Whether a poll returned the GridEnd frame. -/
def endsGrid (res : Except SessionError (Option (FrameView K))) : Bool :=
  match res with
  | .ok (some frame) => frame.body.plaintext == Message.gridEnd.bytes
  | _ => false

/-- The state with the channel's own bookkeeping changed. -/
def State.onChannel (s : State K) (f : Channel K → Channel K) : State K :=
  { s with port := { s.port with chan := f s.port.chan } }

/-- One call. A snapshot accepted is a GridEnd owed, until a poll returns it. -/
def State.apply [DecidableEq K] (P : KeySchedule K) (s : State K) : Action K → State K
  | .startGrid snapshot flags gen scrollbackLen =>
    let (started, chan) := s.port.chan.startGrid snapshot flags gen scrollbackLen
    { port := { s.port with chan := chan }, owed := s.owed || started }
  | .poll now out scratch =>
    let (res, port) := s.port.poll P now out scratch
    { port := port, owed := s.owed && !endsGrid res }
  | .receive now frame => { s with port := (s.port.receive P now frame).2 }
  | .setSendGate open_ => s.onChannel (·.setSendGate open_)
  | .setReadGate open_ now => s.onChannel (·.setReadGate open_ now)
  | .queueResize size => s.onChannel (·.queueResize size)
  | .queueSessionEnd message => s.onChannel (·.queueSessionEnd message)
  | .suppressDataUntilGrid => s.onChannel Channel.suppressDataUntilGrid
  | .streams sendBuf recvCursor => { s with port := ⟨s.port.chan, sendBuf, recvCursor⟩ }

/-- The machine: every call is possible in every state. -/
def step [DecidableEq K] (P : KeySchedule K) (s : State K) (a : Action K) : Option (State K) :=
  some (s.apply P a)

/-- A new agent channel, with nothing owed. -/
def Fresh (s : State K) : Prop :=
  s.owed = false ∧ ∃ (frames : DirectionFrames K) (cursor : ReceiveCursor) (now : Timestamp)
    (liveness : LivenessLimits) (version : Nat) (snapshotBuf : Bytes) (streamGen : Nat),
    frames.role = .agent ∧
      s.port.chan = .create frames cursor now liveness version snapshotBuf streamGen

/-- Any call but StartGrid. -/
def NoStart (_ : State K) : Action K → Prop
  | .startGrid .. => False
  | _ => True

/-- What `GridEmissionDone` promises: if it answers true, the channel holds no borrowed span until
the next StartGrid, so that no poll reads one. -/
def Truthful [DecidableEq K] (P : KeySchedule K) (s : State K) : Prop :=
  s.port.chan.gridEmissionDone = true →
    ∀ as t, Run (step P) NoStart s as t → t.port.chan.gridEmitting = none

/-- A GridEnd is owed exactly while a span is borrowed, and all that time `gridAwaitingApplied` is
set already. -/
structure Kept (s : State K) : Prop where
  agent : s.port.chan.role = .agent
  owed : s.owed = s.port.face.grid.borrowed.isSome
  awaiting : s.port.face.grid.borrowed.isSome → s.port.chan.gridAwaitingApplied = true

/-- At the start no snapshot is owed. -/
lemma Kept.fresh {s : State K} (h : Fresh s) : Kept s := by
  obtain ⟨howed, frames, cursor, now, liveness, version, buf, gen, hrole, hchan⟩ := h
  constructor
  · rw [hchan]
    exact hrole
  · simp [howed, Port.face, Channel.grid, hchan, Channel.create, GridState.borrowed]
  · simp [Port.face, Channel.grid, hchan, Channel.create, GridState.borrowed]

/-- A change of a channel's bookkeeping keeps the invariant. -/
lemma Kept.onChannel {s : State K} (k : Kept s) (f : Channel K → Channel K)
    (hrole : (f s.port.chan).role = s.port.chan.role)
    (hemit : (f s.port.chan).gridEmitting = s.port.chan.gridEmitting)
    (hawait : (f s.port.chan).gridAwaitingApplied = s.port.chan.gridAwaitingApplied) :
    Kept (s.onChannel f) := by
  obtain ⟨hagent, howed, hset⟩ := k
  constructor
  · exact hrole.trans hagent
  · simpa [State.onChannel, Port.face, Channel.grid, GridState.borrowed, hemit] using howed
  · simpa [State.onChannel, Port.face, Channel.grid, GridState.borrowed, hemit, hawait] using hset

/-- Starting a snapshot keeps count of those owed. -/
lemma Kept.startGrid [DecidableEq K] {P : KeySchedule K} {s : State K} (k : Kept s)
    (snapshot : Bytes) (flags gen scrollbackLen : Nat) :
    Kept (s.apply P (.startGrid snapshot flags gen scrollbackLen)) := by
  obtain ⟨hagent, howed, hset⟩ := k
  simp only [State.apply]
  rcases s.port.chan.startGrid_cases snapshot flags gen scrollbackLen with
    hno | ⟨-, -, -, -, hyes⟩
  · rw [hno]
    exact ⟨hagent, by simpa using howed, hset⟩
  · rw [hyes]
    exact ⟨hagent, by simp [Port.face, Channel.grid, GridState.borrowed], fun _ => rfl⟩

/-- So does a poll, whatever it sends. -/
lemma Kept.poll [DecidableEq K] {P : KeySchedule K} {s : State K} (k : Kept s) (now : Timestamp)
    (out scratch : Nat) : Kept (s.apply P (.poll now out scratch)) := by
  obtain ⟨hagent, howed, hset⟩ := k
  simp only [State.apply]
  rcases Port.poll_cases P s.port now out scratch with ⟨hface, hno⟩ | ⟨frame, m, hres, hplain, hs⟩
  · have hnot : endsGrid (s.port.poll P now out scratch).1 = false := by
      rcases hno with hnone | ⟨e, herr, -⟩
      · rw [hnone]
        rfl
      · rw [herr]
        rfl
    refine ⟨?_, ?_, ?_⟩
    · exact (congrArg (fun f => f.grid.role) hface).trans hagent
    · simp [hnot, hface, howed]
    · intro hb
      rw [hface] at hb
      exact (congrArg (fun f => f.grid.awaitingApplied) hface).trans (hset hb)
  · obtain ⟨hrole, ⟨rfl, hnone, hawait⟩ | ⟨hne, hsame, hawait⟩⟩ := hs.borrowed
    · refine ⟨hrole.trans hagent, ?_, fun _ => hawait⟩
      simp [endsGrid, hres, hplain, hnone]
    · have hnot : endsGrid (s.port.poll P now out scratch).1 = false := by
        simp only [endsGrid, hres, hplain, beq_eq_false_iff_ne, ne_eq]
        exact fun heq => hne (Message.bytes_eq_gridEnd heq)
      refine ⟨hrole.trans hagent, ?_, ?_⟩
      · simp [hnot, hsame, howed]
      · intro hb
        rw [hsame] at hb
        exact hawait.trans (hset hb)

/-- So does a frame that is received. -/
lemma Kept.receive [DecidableEq K] {P : KeySchedule K} {s : State K} (k : Kept s) (now : Timestamp)
    (frame : FrameView K) : Kept (s.apply P (.receive now frame)) := by
  obtain ⟨hagent, howed, hset⟩ := k
  obtain ⟨hrole, hsame, hawait⟩ := (Port.receive_cases P 0 s.port now frame).borrowed
  simp only [Port.heard] at hrole hsame hawait
  refine ⟨hrole.trans hagent, ?_, ?_⟩
  · simp [State.apply, hsame, howed]
  · intro hb
    simp only [State.apply, hsame] at hb
    rcases hawait with hawait | hnone
    · exact hawait.trans (hset hb)
    · simp [hnone] at hb

/-- Every call keeps the invariant. -/
lemma Kept.apply [DecidableEq K] {P : KeySchedule K} {s : State K} (k : Kept s) (a : Action K) :
    Kept (s.apply P a) := by
  cases a with
  | startGrid snapshot flags gen scrollbackLen => exact k.startGrid snapshot flags gen scrollbackLen
  | poll now out scratch => exact k.poll now out scratch
  | receive now frame => exact k.receive now frame
  | setSendGate open_ => exact k.onChannel (·.setSendGate open_) rfl rfl rfl
  | setReadGate open_ now => exact k.onChannel (·.setReadGate open_ now) rfl rfl rfl
  | queueResize size => exact k.onChannel (·.queueResize size) rfl rfl rfl
  | queueSessionEnd message => exact k.onChannel (·.queueSessionEnd message) rfl rfl rfl
  | suppressDataUntilGrid =>
    refine k.onChannel Channel.suppressDataUntilGrid ?_ ?_ ?_ <;>
      (unfold Channel.suppressDataUntilGrid; split <;> rfl)
  | streams sendBuf recvCursor => exact ⟨k.agent, k.owed, k.awaiting⟩

/-- The invariant holds of every reachable state. -/
lemma Kept.run [DecidableEq K] {P : KeySchedule K} {C : State K → Action K → Prop} {s t : State K}
    {as : List (Action K)} (h : Kept s) (run : Run (step P) C s as t) : Kept t := by
  refine run.inv Kept (fun s a t k _ hs => ?_) h
  cases hs
  exact k.apply a

/-- Nothing but StartGrid borrows a span. -/
lemma borrowed_apply [DecidableEq K] {P : KeySchedule K} {s : State K} {a : Action K}
    (hno : NoStart s a) :
    (s.apply P a).port.face.grid.borrowed = s.port.face.grid.borrowed ∨
      (s.apply P a).port.face.grid.borrowed = none := by
  cases a with
  | startGrid => exact hno.elim
  | poll now out scratch =>
    rcases Port.poll_cases P s.port now out scratch with ⟨hface, -⟩ | ⟨frame, m, -, -, hs⟩
    · exact .inl (congrArg (fun f => f.grid.borrowed) hface)
    · obtain ⟨-, ⟨-, hnone, -⟩ | ⟨-, hsame, -⟩⟩ := hs.borrowed
      · exact .inr hnone
      · exact .inl hsame
  | receive now frame => exact .inl (Port.receive_cases P 0 s.port now frame).borrowed.2.1
  | suppressDataUntilGrid =>
    left
    simp only [State.apply, State.onChannel, Port.face, Channel.suppressDataUntilGrid]
    split <;> rfl
  | _ => exact .inl rfl

/-- `GridEmissionDone` tells the truth exactly where no GridEnd is owed. -/
lemma truthful_iff_not_owed [DecidableEq K] {P : KeySchedule K} {s : State K} (k : Kept s) :
    Truthful P s ↔ s.owed = false := by
  constructor
  · intro truthful
    by_contra howed
    have hborrowed : s.port.face.grid.borrowed.isSome := by
      rw [← k.owed]
      simpa using howed
    have hnone := truthful (k.awaiting hborrowed) [] s (.nil s)
    simp [GridState.borrowed, Port.face, Channel.grid, hnone] at hborrowed
  · intro howed _ as t run
    have hstart : s.port.face.grid.borrowed = none := by
      have := k.owed
      rw [howed] at this
      simpa using this.symm
    have hend : t.port.face.grid.borrowed = none := by
      refine run.inv (fun s => s.port.face.grid.borrowed = none) ?_ hstart
      intro s a t h hno hs
      cases hs
      rcases borrowed_apply (P := P) hno with hsame | hnone
      · exact hsame.trans h
      · exact hnone
    simpa [GridState.borrowed, Port.face, Channel.grid] using hend

end Emission

end Zet.Session
