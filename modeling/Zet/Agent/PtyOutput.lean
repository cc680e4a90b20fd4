import Mathlib.Data.List.Induction
import Zet.Agent.SnapshotSupply
import Zet.Session.Supersession
import Zet.Terminal.Ladder

/-!
# From the shell to the ring

What `src/agent/agent.cpp` does with the bytes it reads off the pty. Three cursors run through one read
buffer: what lies before `gridFed` the grid has seen, what lies before `ptyFrom` the session has taken,
and `ptyTo` is where the read ended. `ReadPty` fills the buffer, `MovePtyOutput` moves the first two
cursors up, and handing a snapshot over skips what the session has not taken: it belongs to the stream
before the snapshot.

The agent's session and its connections are those of `Shared`; every call on them may come at any time.
The grid and its parser are left open: a step carries what they answered, as a terminal answers it
(`GridAnswer.ofEmulator`).

Bytes keep an account (`settled`) of what became of each. The skip is made whether or not
`SupplySnapshot` did anything (`superseded_supply_loses`); `ptyOutput_conserved` is what holds in every
run that hands a snapshot over only where it is taken.
-/

namespace Zet.Agent
open Zet.Core Zet.Wire Zet.Lib Zet.Session

/-- `GROUND_WAIT_TIMEOUT`. -/
def groundWaitTimeout : Duration := 5 * 1000 * 1000 * 1000
/-- `GROUND_WAIT_BYTES`. -/
def groundWaitBytes : Nat := 1024 * 1024
/-- `PTY_READ_CHUNK`. -/
def ptyReadChunk : Nat := 64 * 1024

/-- A snapshot as `Snapshot::Create` returns it: never empty, and never over the cap (`Built.ofGrid`). -/
structure Built extends SnapReady where
  nonempty : bytes ≠ []
  fits : bytes.length ≤ snapshotMaxBytes

/-- What the parser and the grid have to say when a snapshot is wanted. -/
structure GridAnswer where
  /-- The parser is in Ground. -/
  inGround : Bool
  /-- What the resize and `Snapshot::Create` come to. -/
  created : Option Built

/-- What `DoBuild` hands on of what `Snapshot::Create` made of a grid. -/
def Built.ofGrid (buffer snapshot : Bool) (g : Terminal.Grid) : Option Built :=
  match h : Terminal.Snapshot.create buffer snapshot g 0 with
  | .error _ => none
  | .ok s => some ⟨⟨s.bytes, s.scrollbackLen % 2 ^ 32, if s.possiblyDiverged then 1 else 0⟩,
      (Terminal.Snapshot.create_bounds h).1, (Terminal.Snapshot.create_bounds h).2⟩

/-- The answer of a terminal. A sequence that is still open is cut short, and the grid marked, before it is
resized to the size asked for. -/
def GridAnswer.ofEmulator (screens ring buffer snapshot : Bool) (t : Terminal.Emulator) (cols rows : Nat) :
    GridAnswer :=
  let inGround := decide (t.parser.state = .ground)
  let g := if inGround then t.grid else t.grid.setPossiblyDiverged true
  let (resized, g) := if cols ≠ 0 ∧ rows ≠ 0 ∧ (g.cols ≠ cols ∨ g.rows ≠ rows) then
    g.resize screens ring cols rows else (.ok (), g)
  { inGround, created := resized.toOption.bind fun _ => Built.ofGrid buffer snapshot g }

/-- `GridPump::SnapWait`, less the size asked for. -/
structure SnapWait where
  deadline : Timestamp
  bytesCap : Nat
deriving DecidableEq, Repr

/-- `GridPump`, less its grid and its parser; `TotalGridBytes_` is the length of `fed`. -/
structure GridPump where
  fed : Bytes
  snapWait : Option SnapWait
  snap : Option Bytes
deriving DecidableEq, Repr

namespace GridPump

/-- `GridPump::FeedBytes`. -/
def feedBytes (g : GridPump) (data : Bytes) : GridPump := { g with fed := g.fed ++ data }

/-- `GridPump::DoBuild`; the outer `none` is a failed build. -/
def doBuild (g : GridPump) (answer : GridAnswer) : Option (Option Built) × GridPump :=
  match g.snapWait, answer.created with
  | none, _ => (some none, g)
  | some _, none => (none, { g with snapWait := none })
  | some _, some ready => (some (some ready), { g with snapWait := none, snap := some ready.bytes })

/-- `GridPump::OnNeedsSnapshot`. -/
def onNeedsSnapshot (g : GridPump) (now : Timestamp) (answer : GridAnswer) :
    Option Built × GridPump :=
  let g := { g with snapWait := some ⟨now + groundWaitTimeout, g.fed.length + groundWaitBytes⟩ }
  if ¬answer.inGround then (none, g)
  else
    let (built, g) := g.doBuild answer
    (built.join, g)

/-- `GridPump::TryBuild`. -/
def tryBuild (g : GridPump) (now : Timestamp) (answer : GridAnswer) :
    Option (Option Built) × GridPump :=
  match g.snapWait with
  | none => (some none, g)
  | some wait =>
    if ¬answer.inGround ∧ ¬now ≥ wait.deadline ∧ ¬g.fed.length ≥ wait.bytesCap then (some none, g)
    else g.doBuild answer

/-- Building a snapshot feeds the emulator nothing. -/
lemma doBuild_fed (g : GridPump) (answer : GridAnswer) :
    (g.doBuild answer).2.fed = g.fed := by
  unfold doBuild
  split <;> rfl

/-- Neither does asking for one. -/
lemma onNeedsSnapshot_fed (g : GridPump) (now : Timestamp) (answer : GridAnswer) :
    (g.onNeedsSnapshot now answer).2.fed = g.fed := by
  unfold onNeedsSnapshot
  dsimp only
  split
  · rfl
  · exact doBuild_fed _ answer

/-- Neither does trying to build one. -/
lemma tryBuild_fed (g : GridPump) (now : Timestamp) (answer : GridAnswer) :
    (g.tryBuild now answer).2.fed = g.fed := by
  unfold tryBuild
  split
  · rfl
  split
  · rfl
  · exact doBuild_fed g answer

end GridPump

/-- What became of a byte. -/
inductive Fate where
  /-- The output ring took it. -/
  | appended
  /-- `Write` took it and kept it nowhere: the state of the session and the flag of the ring then. -/
  | dropped (state : SessionState) (ringOverflowed : Bool)
  /-- It was skipped when a snapshot was handed over: whether that opened a generation on the current
  connection, and whether the grid had seen the byte. -/
  | discarded (opened seen : Bool)
deriving DecidableEq, Repr

/-- What may become of a byte. -/
def Fate.Due : Fate → Prop
  | .appended => True
  | .dropped state ringOverflowed => state = .detached ∧ ringOverflowed = true
  | .discarded opened seen => opened = true ∧ seen = true

instance (f : Fate) : Decidable f.Due := by
  cases f <;> dsimp only [Fate.Due] <;> infer_instance

namespace PtyOutput

/-- Bytes of which the first `n` meet one fate and the rest another. -/
def fates (bytes : Bytes) (n : Nat) (first rest : Fate) : List (UInt8 × Fate) :=
  (bytes.take n).map (·, first) ++ (bytes.drop n).map (·, rest)

/-- The part of `Agent` that moves the shell's output. `read` and `settled` are its history. -/
structure State (K : Type) where
  shared : Shared K
  /-- The connections with `Closing` set, and those dropped. -/
  closing : List Nat
  ptyRead : Bytes
  ptyFrom : Nat
  ptyTo : Nat
  gridFed : Nat
  ptyEnded : Bool
  gridPump : GridPump
  snapWaitConn : Option Nat
  /-- Every byte read off the pty. -/
  read : Bytes
  /-- The bytes that have left the buffer, with what became of them. -/
  settled : List (UInt8 × Fate)

/-- What the agent's loop does. -/
inductive Action (K : Type) where
  /-- `ReadPty`; `none` is an error other than "try again". -/
  | readPty (n : Option Bytes)
  | movePtyOutput
  | trySupplySnapshot (now : Timestamp) (answer : GridAnswer)
  /-- `Pump` on a whole frame. -/
  | onFrame (i : Nat) (now : Timestamp) (frame : FrameView K)
  /-- `Pump` when no whole frame is left. -/
  | onIdle (i : Nat) (now : Timestamp) (out scratch : Nat) (answer : GridAnswer)
  /-- `Closing` is set: the socket failed, or a queue is full. -/
  | closing (i : Nat)
  /-- `DropClosed`, one connection. -/
  | dropClosed (i : Nat) (now : Timestamp)
  /-- Any other call on the session or on a connection. -/
  | shared (a : SharedAct K)

namespace State
variable {K : Type}

/-- An agent that has just started. -/
def create (seed : K) (storage : Bytes) (now : Timestamp) (limits : SessionLimits) : State K where
  shared := .create seed storage now limits
  closing := []
  ptyRead := []
  ptyFrom := 0
  ptyTo := 0
  gridFed := 0
  ptyEnded := false
  gridPump := ⟨[], none, none⟩
  snapWaitConn := none
  read := []
  settled := []

/-- The bytes of the read buffer from `i` to where the read ended. -/
def tail (s : State K) (i : Nat) : Bytes := (s.ptyRead.take s.ptyTo).drop i

/-- `Agent::ReadPty`. -/
def readPty (s : State K) (n : Option Bytes) : State K :=
  if s.ptyEnded ∨ s.ptyTo ≠ 0 then s
  else
    match n with
    | none | some [] => { s with ptyEnded := true }
    | some bytes =>
      { s with
        ptyRead := bytes ++ s.ptyRead.drop bytes.length
        ptyFrom := 0
        ptyTo := bytes.length
        read := s.read ++ bytes }

/-- One turn of the loop of `MovePtyOutput`, and whether the loop goes on. -/
def moveOnce (s : State K) : State K × Bool :=
  if s.ptyFrom < s.ptyTo ∧ s.shared.session.streams.acceptsWrites then
    let bytes := s.tail s.ptyFrom
    let (result, session) := s.shared.session.write bytes
    let taken := result.toOption.getD 0
    let after := session.streams.output
    let kept := after.end_ - s.shared.session.streams.output.end_
    let lost := Fate.dropped session.streams.state after.ringOverflowed
    ({ s with
      shared := { s.shared with session := session }
      ptyFrom := s.ptyFrom + taken
      settled := s.settled ++ fates (bytes.take taken) kept .appended lost }, taken ≠ 0)
  else (s, false)

/-- The loop of `MovePtyOutput`. It moves `ptyFrom` up in each turn but the last. -/
def moveLoop : Nat → State K → State K
  | 0, s => s
  | n + 1, s =>
    match s.moveOnce with
    | (s, true) => moveLoop n s
    | (s, false) => s

/-- `MovePtyOutput` before its loop: the grid sees what it has not. -/
def feedGrid (s : State K) : State K :=
  if s.gridFed < s.ptyTo then
    { s with gridPump := s.gridPump.feedBytes (s.tail s.gridFed), gridFed := s.ptyTo }
  else s

/-- `MovePtyOutput` after its loop. Where the loop returned early, something is left. -/
def rewindIfEmpty (s : State K) : State K :=
  if s.ptyFrom = s.ptyTo then { s with ptyFrom := 0, ptyTo := 0, gridFed := 0 } else s

/-- `Agent::MovePtyOutput`. -/
def movePtyOutput (s : State K) : State K :=
  (s.feedGrid.moveLoop (s.ptyTo - s.ptyFrom)).rewindIfEmpty

/-- `SupplySnapshot` on connection `i`, and the skip after it. -/
def supply (s : State K) (i : Nat) (now : Timestamp) (ready : Built) : State K :=
  match s.shared.connections[i]? with
  | none => s
  | some c =>
    let (c', session) :=
      c.supplySnapshot s.shared.session now ready.bytes ready.scrollbackLen ready.flags
    let opened := c.isCurrent s.shared.session &&
      session.streams.output.sessionGen != s.shared.session.streams.output.sessionGen
    { s with
      shared := s.shared.put i c c' session
      ptyFrom := s.ptyTo
      settled := s.settled ++ fates (s.tail s.ptyFrom) (s.gridFed - s.ptyFrom)
        (.discarded opened true) (.discarded opened false) }

/-- Whether `SnapWaitConn_` is still there. -/
def alive (s : State K) (i : Nat) : Bool :=
  i < s.shared.connections.length && !s.closing.contains i

/-- `AgentConnection::GridEmissionDone` of connection `i`. -/
def gridEmissionDone (s : State K) (i : Nat) : Bool :=
  match (s.shared.connections[i]?).bind AgentConnection.channel with
  | some chan => chan.gridEmissionDone
  | none => false

/-- `Agent::TrySupplySnapshot`. -/
def trySupplySnapshot (s : State K) (now : Timestamp) (answer : GridAnswer) : State K :=
  match s.snapWaitConn with
  | none => s
  | some i =>
    if ¬s.alive i then
      { s with gridPump := { s.gridPump with snapWait := none }, snapWaitConn := none }
    else if s.gridPump.snap.isSome ∧ s.gridEmissionDone i then
      { s with gridPump := { s.gridPump with snap := none }, snapWaitConn := none }
    else if s.gridPump.snap.isSome then s
    else
      match s.gridPump.tryBuild now answer with
      | (none, g) => { s with gridPump := g, closing := i :: s.closing, snapWaitConn := none }
      | (some none, g) => { s with gridPump := g }
      | (some (some ready), g) => supply { s with gridPump := g } i now ready

/-- The NeedsSnapshot branch of `Agent::Pump`. -/
def needsSnapshot (s : State K) (i : Nat) (now : Timestamp) (answer : GridAnswer) : State K :=
  match s.gridPump.onNeedsSnapshot now answer with
  | (none, g) => { s with gridPump := g, snapWaitConn := some i }
  | (some ready, g) => supply { s with gridPump := g, snapWaitConn := some i } i now ready

/-- `Agent::Pump` after a call of the connection that came to `event`: an error closes it. -/
def pumped (s : State K) (i : Nat) (c : AgentConnection K) (res : AgentConnection.Pumped K) :
    State K :=
  { s with
    shared := s.shared.put i c res.2.1 res.2.2
    closing := match res.1 with
      | .error _ => i :: s.closing
      | .ok _ => s.closing }

end State

variable {K : Type} [DecidableEq K] (P : KeySchedule K)

/-- One step. Output is written, and snapshots are supplied, only by the steps that say so; a
connection that is closing is not pumped. -/
def step (s : State K) : Action K → Option (State K)
  | .readPty n => if (n.getD []).length ≤ ptyReadChunk then some (s.readPty n) else none
  | .movePtyOutput => some s.movePtyOutput
  | .trySupplySnapshot now answer => some (s.trySupplySnapshot now answer)
  | .onFrame i now frame => do
    let c ← s.shared.connections[i]?
    if i ∈ s.closing then none
    else some (s.pumped i c (c.onFrame P s.shared.session now frame))
  | .onIdle i now out scratch answer => do
    let c ← s.shared.connections[i]?
    let res := c.onIdle P s.shared.session now out scratch
    if i ∈ s.closing then none
    else
      match res.1 with
      | .ok (.needsSnapshot _ _) => some ((s.pumped i c res).needsSnapshot i now answer)
      | _ => some (s.pumped i c res)
  | .closing i => some { s with closing := i :: s.closing }
  | .dropClosed i now => do
    let c ← s.shared.connections[i]?
    some { s with
      shared := { s.shared with session := c.close s.shared.session now }
      closing := i :: s.closing }
  | .shared (.write _) | .shared (.supplySnapshot ..) | .shared (.onFrame ..)
  | .shared (.onIdle ..) | .shared (.close ..) => none
  | .shared a => (s.shared.step P a).map fun v => { s with shared := v }

/-- The bytes the ring took, in order. -/
def appendedOf (settled : List (UInt8 × Fate)) : Bytes :=
  (settled.filter fun e => e.2 = .appended).map Prod.fst

/-- What was appended of two stretches, one after the other. -/
lemma appendedOf_append (one two : List (UInt8 × Fate)) :
    appendedOf (one ++ two) = appendedOf one ++ appendedOf two := by
  rw [appendedOf, List.filter_append, List.map_append, appendedOf, appendedOf]

/-- Where nothing was appended the stream is empty. -/
lemma appendedOf_none {settled : List (UInt8 × Fate)} (none : ∀ e ∈ settled, e.2 ≠ .appended) :
    appendedOf settled = [] := by
  have hnil : settled.filter (fun e => e.2 = .appended) = [] := by
    rw [List.filter_eq_nil_iff]
    intro e he
    simpa using none e he
  rw [appendedOf, hnil]
  rfl

/-- The bytes of a stretch are those it was given for. -/
lemma fates_bytes (bytes : Bytes) (n : Nat) (first rest : Fate) :
    (fates bytes n first rest).map Prod.fst = bytes := by
  rw [fates, List.map_append, List.map_map, List.map_map]
  exact (congrArg₂ _ (List.map_id _) (List.map_id _)).trans (List.take_append_drop n bytes)

/-- Every byte of a stretch has one of its two fates. -/
lemma mem_fates {bytes : Bytes} {n : Nat} {first rest : Fate} {e : UInt8 × Fate}
    (he : e ∈ fates bytes n first rest) :
    e.2 = first ∧ 0 < n ∧ bytes ≠ [] ∨ e.2 = rest ∧ n < bytes.length := by
  rcases List.mem_append.mp he with hfirst | hrest
  · obtain ⟨byte, hbyte, rfl⟩ := List.mem_map.mp hfirst
    have hpos := List.length_pos_of_mem hbyte
    rw [List.length_take] at hpos
    exact .inl ⟨rfl, by omega, List.length_pos_iff.mp (by omega)⟩
  · obtain ⟨byte, hbyte, rfl⟩ := List.mem_map.mp hrest
    have hpos := List.length_pos_of_mem hbyte
    rw [List.length_drop] at hpos
    exact .inr ⟨rfl, by omega⟩

/-- Where each fate is met. -/
lemma fates_due (bytes : Bytes) (n : Nat) (first rest : Fate) :
    (∀ e ∈ fates bytes n first rest, e.2.Due) ↔
      (0 < n → bytes ≠ [] → first.Due) ∧ (n < bytes.length → rest.Due) := by
  constructor
  · intro hdue
    refine ⟨fun hn hbytes => ?_, fun hn => ?_⟩
    · obtain ⟨byte, hbyte⟩ := List.exists_mem_of_ne_nil (bytes.take n)
        (by simpa [List.take_eq_nil_iff, Nat.ne_of_gt hn] using hbytes)
      exact hdue (byte, first) (List.mem_append_left _ (List.mem_map_of_mem hbyte))
    · obtain ⟨byte, hbyte⟩ := List.exists_mem_of_ne_nil (bytes.drop n)
        (by simpa [List.drop_eq_nil_iff] using hn)
      exact hdue (byte, rest) (List.mem_append_right _ (List.mem_map_of_mem hbyte))
  · rintro ⟨hfirst, hrest⟩ e he
    rcases mem_fates he with ⟨hfate, hn, hbytes⟩ | ⟨hfate, hn⟩
    · rw [hfate]
      exact hfirst hn hbytes
    · rw [hfate]
      exact hrest hn

/-- What was appended of a stretch is its front. -/
lemma fates_appended (bytes : Bytes) (n : Nat) {rest : Fate} (hrest : rest ≠ .appended) :
    appendedOf (fates bytes n .appended rest) = bytes.take n := by
  have hfirst : ((bytes.take n).map (·, Fate.appended)).filter
      (fun e : UInt8 × Fate => e.2 = .appended) = (bytes.take n).map (·, Fate.appended) := by
    rw [List.filter_eq_self]
    intro e he
    obtain ⟨byte, -, rfl⟩ := List.mem_map.mp he
    rfl
  have hnone : appendedOf ((bytes.drop n).map (·, rest)) = [] := by
    apply appendedOf_none
    intro e he
    obtain ⟨byte, -, rfl⟩ := List.mem_map.mp he
    exact hrest
  rw [fates, appendedOf_append, hnone, List.append_nil, appendedOf, hfirst, List.map_map]
  exact List.map_id _

/-- Of what a write takes, the ring keeps the start; the rest is lost behind the flag, while nobody is
attached. -/
lemma write_account {s : StreamState} {log : Bytes} (holds : s.output.Holds log) (bytes : Bytes)
    {taken kept : Nat} (htaken : (s.write bytes).1.toOption.getD 0 = taken)
    (hkept : (s.write bytes).2.output.end_ - s.output.end_ = kept) :
    taken ≤ bytes.length ∧ kept ≤ taken ∧ (s.write bytes).2.output.Holds (log ++ bytes.take kept) ∧
      (kept < taken →
        (s.write bytes).2.state = .detached ∧ (s.write bytes).2.output.ringOverflowed = true) := by
  have happend : ∀ count, (s.output.append (bytes.take count)).2.Holds
      (log ++ bytes.take (s.output.append (bytes.take count)).1) ∧
      (s.output.append (bytes.take count)).2.end_ - s.output.end_ =
        (s.output.append (bytes.take count)).1 ∧
      (s.output.append (bytes.take count)).1 ≤ bytes.length := by
    intro count
    have hholds := holds.append (bytes.take count)
    have hfirst := SendBuffer.append_fst s.output (bytes.take count)
    rw [List.length_take] at hfirst
    rw [List.take_take, Nat.min_eq_left (by omega)] at hholds
    refine ⟨hholds, ?_, by omega⟩
    rw [hholds.end_eq, holds.end_eq, List.length_append, List.length_take]
    omega
  have hwrote := s.write_cases bytes
  generalize s.write bytes = res at hwrote htaken hkept ⊢
  cases hwrote with
  | refused reaped =>
    simp only [Nat.sub_self, Except.toOption, Option.getD_none] at hkept htaken
    subst hkept htaken
    simpa using holds
  | reaped alone mode =>
    have houtput : (s.reap .disconnectBufferOverflow).output = s.output := by
      unfold StreamState.reap
      split <;> rfl
    simp only [houtput, Nat.sub_self, Except.toOption, Option.getD_none] at hkept htaken ⊢
    subst hkept htaken
    simpa using holds
  | dropped alone mode flag =>
    simp only [Nat.sub_self, Except.toOption, Option.getD_some] at hkept htaken
    subst hkept htaken
    refine ⟨le_rfl, Nat.zero_le _, by simpa using holds, fun _ => ⟨alone, flag⟩⟩
  | overflowed alone mode flag =>
    obtain ⟨hholds, hend, hle⟩ := happend s.writeRoom
    simp only [SendBuffer.setRingOverflowed, hend, Except.toOption, Option.getD_some] at hkept htaken
    subst hkept htaken
    exact ⟨le_rfl, hle, hholds.setRingOverflowed, fun _ => ⟨alone, rfl⟩⟩
  | appended alive open_ =>
    obtain ⟨hholds, hend, hle⟩ := happend s.writeRoom
    simp only [hend, Except.toOption, Option.getD_some] at hkept htaken
    subst hkept htaken
    exact ⟨hle, le_rfl, hholds, fun hless => absurd hless (lt_irrefl _)⟩

namespace State
omit [DecidableEq K]

/-- Every byte read is fed to the grid once and in order; those that have left the buffer are
accounted for, in order; what became of each was due; and the ring is a window onto those it took
since its generation was opened. -/
structure Conserved (s : State K) : Prop where
  fed : s.gridPump.fed ++ s.tail s.gridFed = s.read
  settled : s.settled.map Prod.fst ++ s.tail s.ptyFrom = s.read
  due : ∀ e ∈ s.settled, e.2.Due
  ring : ∃ earlier log, appendedOf s.settled = earlier ++ log ∧ s.shared.session.streams.output.Holds log

/-- What holds in every run, whatever a snapshot was handed over to. -/
structure Accounted (s : State K) : Prop where
  fed : s.gridPump.fed ++ s.tail s.gridFed = s.read
  settled : s.settled.map Prod.fst ++ s.tail s.ptyFrom = s.read
  ring : ∃ earlier log, appendedOf s.settled = earlier ++ log ∧ s.shared.session.streams.output.Holds log
  from_le : s.ptyFrom ≤ s.ptyTo
  gridFed_le : s.gridFed ≤ s.ptyTo
  to_le : s.ptyTo ≤ s.ptyRead.length
  succession : s.shared.Succession

variable {s : State K}

/-- In an accounted state conservation is a matter of the fates alone. -/
lemma conserved_iff (h : s.Accounted) : s.Conserved ↔ ∀ e ∈ s.settled, e.2.Due :=
  ⟨fun hc => hc.due, fun hdue => ⟨h.fed, h.settled, hdue, h.ring⟩⟩

/-- Nothing of the buffer lies behind its end. -/
lemma tail_to (s : State K) : s.tail s.ptyTo = [] := by
  rw [tail, List.drop_eq_nil_iff, List.length_take]
  exact Nat.min_le_left _ _

/-- How much lies behind a place. -/
lemma length_tail (h : s.ptyTo ≤ s.ptyRead.length) (i : Nat) : (s.tail i).length = s.ptyTo - i := by
  rw [tail, List.length_drop, List.length_take, Nat.min_eq_left h]

/-- A new agent has nothing to account for. -/
lemma create_accounted (seed : K) (storage : Bytes) (now : Timestamp) (limits : SessionLimits) :
    (create seed storage now limits).Accounted where
  fed := rfl
  settled := rfl
  ring := ⟨[], [], rfl, SendBuffer.Holds.create storage⟩
  from_le := le_rfl
  gridFed_le := le_rfl
  to_le := Nat.zero_le _
  succession := Shared.create_succession seed storage now limits

/-- A read of the pty is accounted for. -/
lemma Accounted.readPty (h : s.Accounted) (n : Option Bytes) : (s.readPty n).Accounted := by
  unfold State.readPty
  split
  · exact h
  next hempty =>
  have hto : s.ptyTo = 0 := by
    by_contra hne
    exact hempty (.inr hne)
  split
  · exact ⟨h.fed, h.settled, h.ring, h.from_le, h.gridFed_le, h.to_le, h.succession⟩
  · exact ⟨h.fed, h.settled, h.ring, h.from_le, h.gridFed_le, h.to_le, h.succession⟩
  · next bytes hbytes =>
    -- the buffer is empty, so everything before is fed and settled
    have hnone : ∀ i, s.tail i = [] := fun i => by rw [tail, hto, List.take_zero, List.drop_nil]
    have hfed := h.fed
    have hsettled := h.settled
    have hzero : s.gridFed = 0 := Nat.le_zero.mp (hto ▸ h.gridFed_le)
    rw [hnone, List.append_nil] at hfed hsettled
    refine ⟨?_, ?_, h.ring, Nat.zero_le _, ?_, ?_, h.succession⟩
    · simp [tail, hzero, hfed]
    · simp [tail, hsettled]
    · simp only [hzero]
      exact Nat.zero_le _
    · simp

/-- One turn of the loop: what it takes is due, and nothing else moves. -/
lemma Accounted.moveOnce (h : s.Accounted) :
    s.moveOnce.1.Accounted ∧ s.moveOnce.1.ptyTo = s.ptyTo ∧ s.moveOnce.1.gridFed = s.gridFed ∧
      ((∀ e ∈ s.settled, e.2.Due) → ∀ e ∈ s.moveOnce.1.settled, e.2.Due) := by
  unfold State.moveOnce
  split
  next hopen =>
    obtain ⟨earlier, log, happ, hholds⟩ := h.ring
    have hpasses := s.shared.session.passes_write (s.tail s.ptyFrom)
    have hstreams := s.shared.session.write_streams (s.tail s.ptyFrom)
    have haccount := write_account hholds (s.tail s.ptyFrom) rfl rfl
    rw [← hstreams.1, ← hstreams.2] at haccount
    dsimp only
    generalize s.shared.session.write (s.tail s.ptyFrom) = res at hpasses haccount ⊢
    obtain ⟨result, session⟩ := res
    dsimp only at hpasses haccount ⊢
    generalize result.toOption.getD 0 = taken at haccount ⊢
    generalize session.streams.output.end_ - s.shared.session.streams.output.end_ = kept at haccount ⊢
    obtain ⟨htaken, hkept, hholds', hlost⟩ := haccount
    have hlen := length_tail h.to_le s.ptyFrom
    have htail : (s.tail s.ptyFrom).take taken ++ s.tail (s.ptyFrom + taken) = s.tail s.ptyFrom := by
      rw [tail, tail, ← List.drop_drop, List.take_append_drop]
    refine ⟨⟨h.fed, ?_, ⟨earlier, log ++ (s.tail s.ptyFrom).take kept, ?_, hholds'⟩, ?_,
      h.gridFed_le, h.to_le, h.succession.passes hpasses⟩, rfl, rfl, ?_⟩
    · rw [List.map_append, fates_bytes, List.append_assoc]
      exact (congrArg _ htail).trans h.settled
    · rw [appendedOf_append, fates_appended _ _ (fun h => (by cases h)), happ, List.take_take,
        Nat.min_eq_left hkept, List.append_assoc]
    · show s.ptyFrom + taken ≤ s.ptyTo
      omega
    · intro hdue e he
      rcases List.mem_append.mp he with hold | hnew
      · exact hdue e hold
      rcases mem_fates hnew with ⟨hfate, -⟩ | ⟨hfate, hless⟩
      · rw [hfate]
        trivial
      · rw [hfate]
        rw [List.length_take] at hless
        exact hlost (by omega)
  next => exact ⟨h, rfl, rfl, fun hdue => hdue⟩

/-- So is what the emulator is fed. -/
lemma Accounted.feedGrid (h : s.Accounted) :
    s.feedGrid.Accounted ∧ s.feedGrid.gridFed = s.feedGrid.ptyTo := by
  unfold State.feedGrid
  split
  · refine ⟨⟨?_, h.settled, h.ring, h.from_le, le_rfl, h.to_le, h.succession⟩, rfl⟩
    have hto := tail_to s
    have hfed := h.fed
    unfold tail at hto hfed
    simp only [GridPump.feedBytes, tail, hto, List.append_nil]
    exact hfed
  · next hfull => exact ⟨h, Nat.le_antisymm h.gridFed_le (Nat.not_lt.mp hfull)⟩

/-- The loop ends by itself: more turns than there are bytes make no difference. -/
lemma moveLoop_enough {n : Nat} (s : State K) (enough : s.ptyTo - s.ptyFrom ≤ n) :
    s.moveLoop (n + 1) = s.moveLoop n := by
  induction n generalizing s with
  | zero =>
    have hdone : s.moveOnce = (s, false) := by
      rw [State.moveOnce, if_neg]
      rintro ⟨hlt, -⟩
      omega
    simp only [State.moveLoop, hdone]
  | succ n ih =>
    conv_lhs => rw [State.moveLoop]
    conv_rhs => rw [State.moveLoop]
    split
    next s' hmore =>
      apply ih
      unfold State.moveOnce at hmore
      split at hmore
      · simp only [Prod.mk.injEq, decide_eq_true_eq] at hmore
        obtain ⟨rfl, hsome⟩ := hmore
        show s.ptyTo - (s.ptyFrom + _) ≤ n
        omega
      · cases hmore
    next => rfl

/-- So is what the loop moves into the ring. -/
lemma Accounted.moveLoop (n : Nat) (h : s.Accounted) :
    (s.moveLoop n).Accounted ∧ (s.moveLoop n).ptyTo = s.ptyTo ∧ (s.moveLoop n).gridFed = s.gridFed ∧
      ((∀ e ∈ s.settled, e.2.Due) → ∀ e ∈ (s.moveLoop n).settled, e.2.Due) := by
  induction n generalizing s with
  | zero => exact ⟨h, rfl, rfl, fun hdue => hdue⟩
  | succ n ih =>
    obtain ⟨hacc, hto, hfed, hdue⟩ := h.moveOnce
    unfold State.moveLoop
    split
    next s' hmore =>
      rw [hmore] at hacc hto hfed hdue
      obtain ⟨hacc', hto', hfed', hdue'⟩ := ih hacc
      exact ⟨hacc', hto'.trans hto, hfed'.trans hfed, hdue' ∘ hdue⟩
    next s' hlast =>
      rw [hlast] at hacc hto hfed hdue
      exact ⟨hacc, hto, hfed, hdue⟩

/-- Rewinding an empty buffer forgets nothing. -/
lemma Accounted.rewindIfEmpty (h : s.Accounted) (hfed : s.gridFed = s.ptyTo) :
    s.rewindIfEmpty.Accounted := by
  unfold State.rewindIfEmpty
  split
  · next hempty =>
    have hfed' := h.fed
    have hsettled := h.settled
    rw [hfed, tail_to, List.append_nil] at hfed'
    rw [hempty, tail_to, List.append_nil] at hsettled
    refine ⟨?_, ?_, h.ring, le_rfl, le_rfl, Nat.zero_le _, h.succession⟩
    · simp [tail, hfed']
    · simp [tail, hsettled]
  · exact h

/-- `MovePtyOutput` leaves everything read fed, and does with it only what is due. -/
lemma Accounted.movePtyOutput (h : s.Accounted) :
    s.movePtyOutput.Accounted ∧ s.movePtyOutput.gridFed = s.movePtyOutput.ptyTo ∧
      ((∀ e ∈ s.settled, e.2.Due) → ∀ e ∈ s.movePtyOutput.settled, e.2.Due) := by
  obtain ⟨hfeed, hall⟩ := h.feedGrid
  obtain ⟨hloop, hto, hfed, hdue⟩ := hfeed.moveLoop (s.ptyTo - s.ptyFrom)
  have hall' := hfed.trans (hall.trans hto.symm)
  refine ⟨hloop.rewindIfEmpty hall', ?_, ?_⟩
  · unfold State.movePtyOutput State.rewindIfEmpty
    split
    · rfl
    · exact hall'
  · have hsame : s.feedGrid.settled = s.settled := by
      unfold State.feedGrid
      split <;> rfl
    rw [hsame] at hdue
    unfold State.movePtyOutput State.rewindIfEmpty
    split <;> exact hdue

/-- The connection is waiting for a snapshot, and carries the session. -/
def TakesSnapshot (c : AgentConnection K) (session : AgentSession K) : Prop :=
  c.stage = .awaitSnapshot ∧ c.channel.isSome ∧ c.isCurrent session = true

/-- Handing a snapshot over now loses nothing: the session has taken everything read, or the grid has
seen it all and connection `i` takes the snapshot. -/
def Ready (s : State K) (i : Nat) : Prop :=
  s.ptyFrom < s.ptyTo → s.gridFed = s.ptyTo ∧
    ∀ c, s.shared.connections[i]? = some c → TakesSnapshot c s.shared.session

instance (c : AgentConnection K) (session : AgentSession K) : Decidable (TakesSnapshot c session) := by
  unfold TakesSnapshot
  infer_instance

instance (s : State K) (i : Nat) : Decidable (s.Ready i) :=
  inferInstanceAs (Decidable (s.ptyFrom < s.ptyTo → s.gridFed = s.ptyTo ∧
    ∀ c ∈ s.shared.connections[i]?, TakesSnapshot c s.shared.session))

/-- A snapshot is taken where it is waited for, and nowhere else. -/
lemma supplySnapshot_opens (c : AgentConnection K) (session : AgentSession K) (now : Timestamp)
    (ready : Built) :
    let res := c.supplySnapshot session now ready.bytes ready.scrollbackLen ready.flags
    (TakesSnapshot c session ∧ res.2.streams = session.streams.newGeneration) ∨
      (¬TakesSnapshot c session ∧ res.2 = session) := by
  unfold AgentConnection.supplySnapshot
  split
  next chan handle hstage hchan hhandle =>
    have hcur : c.isCurrent session = session.isCurrent handle := by
      rw [AgentConnection.isCurrent, hhandle]
    split
    next hnot =>
      refine .inr ⟨?_, rfl⟩
      rintro ⟨-, -, htakes⟩
      exact hnot (hcur ▸ htakes)
    next hheld =>
      have hheld : session.isCurrent handle = true := by simpa using hheld
      have hsize : ¬(ready.bytes.isEmpty ∨ ready.bytes.length > snapshotMaxBytes) := by
        simp [ready.nonempty, ready.fits]
      rw [if_neg hsize]
      refine .inl ⟨⟨hstage, by rw [hchan]; rfl, hcur.trans hheld⟩, ?_⟩
      simp only [AgentSession.newGeneration, if_pos hheld]
  next hnone =>
    refine .inr ⟨?_, rfl⟩
    rintro ⟨hstage, hchan, hcur⟩
    obtain ⟨chan, hchan⟩ := Option.isSome_iff_exists.mp hchan
    unfold AgentConnection.isCurrent at hcur
    split at hcur
    next handle hhandle => exact hnone chan handle hstage hchan hhandle
    next => cases hcur

/-- A new generation has a number of its own. -/
lemma newGeneration_sessionGen (b : SendBuffer) : b.newGeneration.sessionGen ≠ b.sessionGen := by
  simp only [SendBuffer.newGeneration]
  omega

/-- A snapshot supplied settles what it stands for. -/
lemma Accounted.supply (h : s.Accounted) {i : Nat} {c : AgentConnection K}
    (hc : s.shared.connections[i]? = some c) (now : Timestamp) (ready : Built) :
    (s.supply i now ready).Accounted ∧ ((∀ e ∈ s.settled, e.2.Due) →
      ((∀ e ∈ (s.supply i now ready).settled, e.2.Due) ↔ s.Ready i)) := by
  obtain ⟨earlier, log, happ, hholds⟩ := h.ring
  have heffect := AgentConnection.supplySnapshot_effect (c := c) (s := s.shared.session) now
    ready.bytes ready.scrollbackLen ready.flags
  have hopens := supplySnapshot_opens c s.shared.session now ready
  unfold State.supply
  simp only [hc]
  generalize c.supplySnapshot s.shared.session now ready.bytes ready.scrollbackLen ready.flags = res
    at heffect hopens ⊢
  obtain ⟨c', session⟩ := res
  dsimp only at heffect hopens ⊢
  generalize hopened : (c.isCurrent s.shared.session &&
    session.streams.output.sessionGen != s.shared.session.streams.output.sessionGen) = opened
  -- a generation was opened exactly where the connection took the snapshot
  have htakes : opened = true ↔ TakesSnapshot c s.shared.session := by
    rcases hopens with ⟨htakes, hstreams⟩ | ⟨hnot, rfl⟩
    · have hgen : session.streams.output.sessionGen ≠ s.shared.session.streams.output.sessionGen := by
        rw [hstreams]
        exact newGeneration_sessionGen _
      simp [← hopened, htakes, htakes.2.2, hgen]
    · simp [← hopened, hnot]
  have hbytes := fates_bytes (s.tail s.ptyFrom) (s.gridFed - s.ptyFrom) (.discarded opened true)
    (.discarded opened false)
  have hskip : appendedOf (fates (s.tail s.ptyFrom) (s.gridFed - s.ptyFrom) (.discarded opened true)
      (.discarded opened false)) = [] := by
    apply appendedOf_none
    intro e he
    rcases mem_fates he with ⟨hfate, -⟩ | ⟨hfate, -⟩ <;> rw [hfate] <;> exact fun h => (by cases h)
  refine ⟨⟨h.fed, ?_, ?_, le_rfl, h.gridFed_le, h.to_le, h.succession.effect hc heffect⟩, ?_⟩
  · rw [List.map_append, hbytes]
    refine Eq.trans ?_ h.settled
    rw [List.append_assoc]
    exact congrArg _ ((congrArg _ (tail_to s)).trans (List.append_nil _))
  · rw [appendedOf_append, hskip, List.append_nil]
    rcases hopens with ⟨-, hstreams⟩ | ⟨-, rfl⟩
    · refine ⟨appendedOf s.settled, [], (List.append_nil _).symm, ?_⟩
      show session.streams.output.Holds []
      rw [hstreams]
      exact SendBuffer.Holds.newGeneration _
    · exact ⟨earlier, log, happ, hholds⟩
  · intro hdue
    have hlen := length_tail h.to_le s.ptyFrom
    have hfrom := h.from_le
    have hfed := h.gridFed_le
    have hiff : (∀ e ∈ fates (s.tail s.ptyFrom) (s.gridFed - s.ptyFrom) (.discarded opened true)
        (.discarded opened false), e.2.Due) ↔ s.Ready i := by
      rw [fates_due, Ready, hlen]
      constructor
      · rintro ⟨hseen, hunseen⟩ hsome
        -- a byte that the emulator has not seen is in no snapshot
        have hall : s.gridFed = s.ptyTo := by
          by_contra hne
          exact Bool.false_ne_true (hunseen (by omega)).2
        have hne : s.tail s.ptyFrom ≠ [] := List.length_pos_iff.mp (by omega)
        refine ⟨hall, fun d hd => ?_⟩
        obtain rfl : c = d := Option.some.inj (hc.symm.trans hd)
        exact htakes.mp (hseen (by omega) hne).1
      · intro hready
        refine ⟨fun hn _ => ⟨htakes.mpr ((hready (by omega)).2 c hc), rfl⟩, fun hn => ?_⟩
        have hall := (hready (by omega)).1
        omega
    rw [← hiff]
    constructor
    · exact fun hall e he => hall e (List.mem_append_right _ he)
    · intro hnew e he
      rcases List.mem_append.mp he with hold | hskipped
      · exact hdue e hold
      · exact hnew e hskipped

end State

section Calls
variable {c : AgentConnection K} {session : AgentSession K} {log : Bytes}

omit [DecidableEq K] in
/-- Killing the session leaves the ring alone. -/
lemma kill_output (session : AgentSession K) (reason : StreamError) :
    (session.kill reason).streams.output = session.streams.output := by
  unfold AgentSession.kill StreamState.kill StreamState.reap
  split <;> rfl

omit [DecidableEq K] in
/-- So does closing a connection. -/
lemma close_output (c : AgentConnection K) (session : AgentSession K) (now : Timestamp) :
    (c.close session now).streams.output = session.streams.output := by
  unfold AgentConnection.close AgentSession.detach StreamState.detach
  split
  · dsimp only
    split <;> rfl
  · rfl

/-- A frame only acknowledges, or moves what is sent next. -/
lemma onFrame_holds (sound : c.Sound) (now : Timestamp) (frame : FrameView K)
    (holds : session.streams.output.Holds log) :
    (c.onFrame P session now frame).2.2.streams.output.Holds log := by
  cases hfail : c.failed with
  | some e =>
    rw [AgentConnection.onFrame, hfail]
    exact holds
  | none =>
    rcases AgentConnection.onFrame_cases P session now frame hfail with
      hturned | ⟨used, chosen, message, hresumes, heq⟩ | ⟨f, out, hcarried⟩
    · rw [hturned.session]
      exact holds
    · obtain ⟨hcurrent, hfallback⟩ := sound.roles hfail hresumes.stage
      have hcases := AgentConnection.resume_cases P session now used message hfail
        (openResume_role hresumes.opened hcurrent hfallback)
      rw [heq]
      cases hcases with
      | unknown turned =>
        rw [turned.session]
        exact holds
      | refused confirmed turned =>
        obtain ⟨_, _, rfl⟩ := confirmResume_rest confirmed
        rw [turned.session]
        exact holds
      | rejected confirmed gen pathA attach alive session' =>
        obtain ⟨_, _, rfl⟩ := confirmResume_rest confirmed
        rcases session' with hsession | ⟨-, hsession⟩
        · rw [hsession]
          exact holds
        · rw [hsession, kill_output]
          exact holds
      | pathA confirmed gen pathA attach alive session' =>
        obtain ⟨_, _, rfl⟩ := confirmResume_rest confirmed
        rw [session']
        exact holds.resetSendNext attach
      | pathB confirmed gen pathB alive session' =>
        obtain ⟨_, _, rfl⟩ := confirmResume_rest confirmed
        rw [session']
        exact holds
    · obtain ⟨chan, -, rfl⟩ := hcarried.before
      rw [hcarried.streams]
      exact Face.hears_holds (hcarried.hears 0) holds

omit [DecidableEq K] in
/-- A poll only moves what is sent next. -/
lemma onIdle_holds (now : Timestamp) (out scratch : Nat) (holds : session.streams.output.Holds log) :
    (c.onIdle P session now out scratch).2.2.streams.output.Holds log := by
  cases hfail : c.failed with
  | some e =>
    rw [AgentConnection.onIdle, hfail]
    exact holds
  | none =>
    rcases AgentConnection.onIdle_cases P session now out scratch hfail with
      hquiet | ⟨f, m, f', hspeaks⟩
    · rw [hquiet.streams]
      exact holds
    · obtain ⟨chan, -, rfl⟩ := hspeaks.before
      rw [hspeaks.streams]
      have hsends := hspeaks.sends
      cases hsends with
      | data => exact holds.advanceSendNext _
      | _ => exact holds

omit [DecidableEq K] in
/-- Asking for a snapshot leaves the connection as ready for one as it was. -/
lemma onIdle_takesSnapshot {now : Timestamp} {out scratch rows cols : Nat}
    (asks : (c.onIdle P session now out scratch).1 = .ok (.needsSnapshot rows cols)) :
    State.TakesSnapshot (c.onIdle P session now out scratch).2.1
      (c.onIdle P session now out scratch).2.2 ↔ State.TakesSnapshot c session := by
  cases hfail : c.failed with
  | some e =>
    rw [AgentConnection.onIdle, hfail] at asks
    cases asks
  | none =>
    rcases AgentConnection.onIdle_cases P session now out scratch hfail with
      hquiet | ⟨f, m, f', hspeaks⟩
    · have hchan := congrArg Option.isSome hquiet.channel
      rw [Option.isSome_map, Option.isSome_map] at hchan
      simp only [State.TakesSnapshot, AgentConnection.isCurrent, AgentSession.isCurrent,
        hquiet.stage, hquiet.handle, hquiet.streams, hchan]
    · obtain ⟨frame, hframe, -⟩ := hspeaks.frame
      rw [hframe] at asks
      cases asks

end Calls

namespace State
variable {s t : State K}

omit [DecidableEq K] in
/-- A step that leaves the buffer and the account alone, and of the ring what it holds. -/
lemma Accounted.shared (h : s.Accounted) {v : Shared K} (succession : v.Succession)
    (holds : ∀ log, s.shared.session.streams.output.Holds log → v.session.streams.output.Holds log)
    (closing : List Nat) : { s with shared := v, closing := closing }.Accounted := by
  obtain ⟨earlier, log, happ, hholds⟩ := h.ring
  exact ⟨h.fed, h.settled, ⟨earlier, log, happ, holds log hholds⟩, h.from_le, h.gridFed_le, h.to_le,
    succession⟩

omit [DecidableEq K] in
/-- The pump's own state is not in the account, but for what it was fed. -/
lemma Accounted.gridPump (h : s.Accounted) {g : GridPump} (fed : g.fed = s.gridPump.fed)
    (closing : List Nat) (snapWaitConn : Option Nat) :
    { s with gridPump := g, closing := closing, snapWaitConn := snapWaitConn }.Accounted :=
  ⟨(congrArg (· ++ _) fed).trans h.fed, h.settled, h.ring, h.from_le, h.gridFed_le, h.to_le,
    h.succession⟩

end State

/-- The connection a step hands a snapshot over to, if it hands one over. -/
def handsOver (s : State K) : Action K → Option Nat
  | .trySupplySnapshot now answer =>
    match s.snapWaitConn, (s.gridPump.tryBuild now answer).1 with
    | some i, some (some _) => if s.alive i ∧ s.gridPump.snap.isNone then some i else none
    | _, _ => none
  | .onIdle i now out scratch answer => do
    let c ← s.shared.connections[i]?
    match (c.onIdle P s.shared.session now out scratch).1 with
    | .ok (.needsSnapshot _ _) =>
      if (s.gridPump.onNeedsSnapshot now answer).1.isSome then some i else none
    | _ => none
  | _ => none

/-- A snapshot is handed over only where that loses nothing. -/
def Effective (s : State K) (a : Action K) : Prop := ∀ i, handsOver P s a = some i → s.Ready i

instance (s : State K) (a : Action K) : Decidable (Effective P s a) :=
  inferInstanceAs (Decidable (∀ i ∈ handsOver P s a, s.Ready i))

/-- What a step does to the account: what becomes of a byte in it is due exactly when a snapshot it
hands over loses nothing. -/
structure Settles (s : State K) (a : Action K) (t : State K) : Prop where
  accounted : t.Accounted
  due : (∀ e ∈ s.settled, e.2.Due) → ((∀ e ∈ t.settled, e.2.Due) ↔ Effective P s a)

variable {P} {s t : State K}

omit [DecidableEq K] in
/-- An action that hands over nothing settles if no fate comes undone. -/
lemma Settles.silent {a : Action K} (accounted : t.Accounted) (none : handsOver P s a = none)
    (due : (∀ e ∈ s.settled, e.2.Due) → ∀ e ∈ t.settled, e.2.Due) : Settles P s a t where
  accounted := accounted
  due := by
    intro hdue
    refine ⟨fun _ i hi => ?_, fun _ => due hdue⟩
    rw [none] at hi
    cases hi

omit [DecidableEq K] in
/-- Handing a snapshot over, after a change that left the buffer and the account alone. -/
lemma Settles.supply {a : Action K} {u : State K} {i : Nat} {c : AgentConnection K}
    (accounted : u.Accounted) (hc : u.shared.connections[i]? = some c) (now : Timestamp) (ready : Built)
    (settled : u.settled = s.settled) (hands : handsOver P s a = some i)
    (same : u.Ready i ↔ s.Ready i) : Settles P s a (u.supply i now ready) := by
  obtain ⟨hacc, hdue⟩ := accounted.supply hc now ready
  refine ⟨hacc, fun hall => ?_⟩
  rw [hdue (settled ▸ hall), same]
  exact ⟨fun hready j hj => by rw [hands] at hj; cases hj; exact hready, fun heff => heff i hands⟩

omit [DecidableEq K] in
/-- When a turn of the loop hands a snapshot over. -/
lemma handsOver_trySupplySnapshot (s : State K) (now : Timestamp) (answer : GridAnswer) (i : Nat) :
    handsOver P s (.trySupplySnapshot now answer) = some i ↔
      s.snapWaitConn = some i ∧ s.alive i = true ∧ s.gridPump.snap = none ∧
        ∃ ready, (s.gridPump.tryBuild now answer).1 = some (some ready) := by
  simp only [handsOver]
  split
  next j ready hwait hbuild =>
    rw [hwait, hbuild]
    split
    next hboth =>
      obtain ⟨halive, hsnap⟩ := hboth
      simp only [Option.some.injEq]
      constructor
      · rintro rfl
        exact ⟨rfl, halive, Option.isNone_iff_eq_none.mp hsnap, ready, rfl⟩
      · exact fun h => h.1
    next hnot =>
      constructor
      · intro h
        cases h
      · rintro ⟨hij, halive, hsnap, -⟩
        cases hij
        exact absurd ⟨halive, by rw [hsnap]; rfl⟩ hnot
  next hnone =>
    constructor
    · intro h
      cases h
    · rintro ⟨hwait, -, -, ready, hbuild⟩
      exact absurd hbuild (hnone i ready hwait)

omit [DecidableEq K] in
/-- Trying to supply a snapshot settles. -/
lemma trySupplySnapshot_settles (h : s.Accounted) (now : Timestamp) (answer : GridAnswer) :
    Settles P s (.trySupplySnapshot now answer) (s.trySupplySnapshot now answer) := by
  have hfed := s.gridPump.tryBuild_fed now answer
  -- without a snapshot that is ready nothing is handed over
  have hsilent : (∀ i, s.snapWaitConn = some i → s.alive i = true → s.gridPump.snap = none →
      ∀ ready, (s.gridPump.tryBuild now answer).1 ≠ some (some ready)) →
      handsOver P s (.trySupplySnapshot now answer) = none := by
    intro hno
    rw [Option.eq_none_iff_forall_ne_some]
    intro i hi
    obtain ⟨hwait, halive, hsnap, ready, hbuild⟩ := (handsOver_trySupplySnapshot ..).mp hi
    exact hno i hwait halive hsnap ready hbuild
  unfold State.trySupplySnapshot
  split
  next hnone =>
    refine .silent h (hsilent fun i hi => ?_) id
    rw [hnone] at hi
    cases hi
  next i hwait =>
  split
  next hdead =>
    refine .silent (h.gridPump (g := { s.gridPump with snapWait := none }) rfl _ _)
      (hsilent fun j hj halive => ?_) id
    rw [hwait] at hj
    cases hj
    exact absurd halive hdead
  next halive =>
  have hhas : s.gridPump.snap.isSome →
      handsOver P s (.trySupplySnapshot now answer) = none := by
    intro hsome
    refine hsilent fun j _ _ hsnap => ?_
    rw [hsnap] at hsome
    cases hsome
  split
  next hdone =>
    exact .silent (h.gridPump (g := { s.gridPump with snap := none }) rfl _ _) (hhas hdone.1) id
  next =>
  split
  next hsnap => exact .silent h (hhas hsnap) id
  next hsnap =>
  split
  next g hbuild =>
    rw [hbuild] at hfed
    refine .silent (h.gridPump hfed _ _) (hsilent fun j _ _ _ ready => ?_) id
    rw [hbuild]
    exact fun hready => (by cases hready)
  next g hbuild =>
    rw [hbuild] at hfed
    refine .silent (h.gridPump hfed s.closing s.snapWaitConn) (hsilent fun j _ _ _ ready => ?_) id
    rw [hbuild]
    exact fun hready => (by cases hready)
  next ready g hbuild =>
    rw [hbuild] at hfed
    have halive : s.alive i = true := by simpa using halive
    have hlt : i < s.shared.connections.length := by
      simp only [State.alive, Bool.and_eq_true, decide_eq_true_eq] at halive
      exact halive.1
    refine .supply (h.gridPump hfed s.closing s.snapWaitConn) (List.getElem?_eq_getElem hlt) now ready
      rfl ?_ Iff.rfl
    rw [handsOver_trySupplySnapshot]
    exact ⟨hwait, halive, by simpa using hsnap, ready, by rw [hbuild]⟩

omit [DecidableEq K] in
/-- A pump keeps the account. -/
lemma pumped_accounted (h : s.Accounted) {i : Nat} {c : AgentConnection K}
    (hc : s.shared.connections[i]? = some c) (res : AgentConnection.Pumped K)
    (effect : Effect c s.shared.session res.2.1 res.2.2)
    (holds : ∀ log, s.shared.session.streams.output.Holds log →
      res.2.2.streams.output.Holds log) : (s.pumped i c res).Accounted :=
  h.shared (h.succession.effect hc effect) holds _

/-- So does the idle step of a connection. -/
lemma onIdle_settles (h : s.Accounted) {i : Nat} {now : Timestamp} {out scratch : Nat}
    {answer : GridAnswer} (hstep : step P s (.onIdle i now out scratch answer) = some t) :
    Settles P s (.onIdle i now out scratch answer) t := by
  obtain ⟨c, hc, hrest⟩ := Option.bind_eq_some_iff.mp hstep
  have hacc := pumped_accounted h hc (c.onIdle P s.shared.session now out scratch)
    (AgentConnection.onIdle_effect P now out scratch)
    (fun log holds => onIdle_holds P now out scratch holds)
  have hhands : handsOver P s (.onIdle i now out scratch answer) =
      match (c.onIdle P s.shared.session now out scratch).1 with
      | .ok (.needsSnapshot _ _) =>
        if (s.gridPump.onNeedsSnapshot now answer).1.isSome then some i else none
      | _ => none := by
    rw [handsOver, hc]
    rfl
  split at hrest
  · cases hrest
  dsimp only at hrest
  split at hrest
  next rows cols hasks =>
    cases hrest
    rw [hasks] at hhands
    unfold State.needsSnapshot
    have hfed := s.gridPump.onNeedsSnapshot_fed now answer
    have hsame : ((s.pumped i c (c.onIdle P s.shared.session now out scratch)).gridPump) =
      s.gridPump := rfl
    rw [hsame]
    split
    next g hbuild =>
      rw [hbuild] at hfed hhands
      exact .silent (hacc.gridPump hfed _ _) hhands id
    next ready g hbuild =>
      rw [hbuild] at hfed hhands
      have hput : (s.pumped i c (c.onIdle P s.shared.session now out scratch)).shared.connections[i]? =
          some (c.onIdle P s.shared.session now out scratch).2.1 := by
        simp only [State.pumped, Shared.put, Shared.getElem?_put hc, if_true]
      refine Settles.supply (s := s) (hacc.gridPump hfed _ (some i)) hput now ready rfl hhands ?_
      have htakes := onIdle_takesSnapshot P hasks
      simp only [State.Ready, hput, hc, Option.some.injEq, forall_eq']
      exact forall_congr' fun _ => and_congr_right fun _ => htakes
  next hother =>
    cases hrest
    refine .silent hacc ?_ id
    rw [hhands]
    split
    next rows cols hasks => exact absurd hasks (hother rows cols)
    next => rfl

/-- The calls made on the session and its connections besides leave the ring alone. -/
lemma shared_output {a : SharedAct K} (hstep : step P s (.shared a) = some t) :
    ∃ v, s.shared.step P a = some v ∧ t = { s with shared := v } ∧
      v.session.streams.output = s.shared.session.streams.output := by
  have hmap : (s.shared.step P a).map (fun v => { s with shared := v }) = some t →
      (∀ v, s.shared.step P a = some v →
        v.session.streams.output = s.shared.session.streams.output) →
      ∃ v, s.shared.step P a = some v ∧ t = { s with shared := v } ∧
        v.session.streams.output = s.shared.session.streams.output := by
    intro hsome hsame
    obtain ⟨v, hv, rfl⟩ := Option.map_eq_some_iff.mp hsome
    exact ⟨v, hv, rfl, hsame v hv⟩
  cases a with
  | write | supplySnapshot | onFrame | onIdle | close => cases hstep
  | connect | endSession | inputDelivered | inputRejected =>
    refine hmap hstep fun v hv => ?_
    cases hv
    rfl
  | route | gates =>
    refine hmap hstep fun v hv => ?_
    obtain ⟨c, -, hput⟩ := Option.bind_eq_some_iff.mp hv
    cases hput
    rfl
  | completeHandshake i clientNonce version =>
    refine hmap hstep fun v hv => ?_
    obtain ⟨c, -, hrest⟩ := Option.bind_eq_some_iff.mp hv
    obtain ⟨⟨offset, c', session⟩, hdone, hput⟩ := Option.bind_eq_some_iff.mp hrest
    cases hput
    unfold AgentConnection.completeHandshake at hdone
    split at hdone
    · cases hdone
      rfl
    · cases hdone
  | reportResize i size =>
    refine hmap hstep fun v hv => ?_
    obtain ⟨c, -, hput⟩ := Option.bind_eq_some_iff.mp hv
    cases hput
    exact congrArg StreamState.output (AgentConnection.reportResize_streams _ _ _).1
  | onTimer now =>
    refine hmap hstep fun v hv => ?_
    cases hv
    simp only [AgentSession.onTimer, StreamState.onTimer, StreamState.reap]
    split
    · split
      · split <;> rfl
      · rfl
    · rfl

/-- One step. -/
lemma step_settles (h : s.Accounted) {a : Action K} (hstep : step P s a = some t) :
    Settles P s a t := by
  cases a with
  | readPty n =>
    simp only [step] at hstep
    split at hstep
    · cases hstep
      refine .silent (h.readPty n) rfl fun hdue => ?_
      unfold State.readPty
      split
      · exact hdue
      · split <;> exact hdue
    · cases hstep
  | movePtyOutput =>
    cases hstep
    obtain ⟨hacc, -, hdue⟩ := h.movePtyOutput
    exact .silent hacc rfl hdue
  | trySupplySnapshot now answer =>
    cases hstep
    exact trySupplySnapshot_settles h now answer
  | onFrame i now frame =>
    obtain ⟨c, hc, hrest⟩ := Option.bind_eq_some_iff.mp hstep
    split at hrest
    · cases hrest
    · cases hrest
      have hsound := h.succession.sound i c hc
      exact .silent (pumped_accounted h hc _ (AgentConnection.onFrame_effect P hsound now frame)
        (fun log holds => onFrame_holds P hsound now frame holds)) rfl id
  | onIdle i now out scratch answer => exact onIdle_settles h hstep
  | closing i =>
    cases hstep
    exact .silent (h.shared h.succession (fun _ holds => holds) _) rfl id
  | dropClosed i now =>
    obtain ⟨c, hc, hrest⟩ := Option.bind_eq_some_iff.mp hstep
    cases hrest
    have hclose : s.shared.step P (.close i now) =
        some { s.shared with session := c.close s.shared.session now } := by
      rw [Shared.step, hc]
      rfl
    refine .silent (h.shared (Shared.step_succession P h.succession hclose) ?_ _) rfl id
    intro log holds
    rw [close_output]
    exact holds
  | shared a =>
    obtain ⟨v, hv, rfl, hsame⟩ := shared_output hstep
    refine .silent (h.shared (Shared.step_succession P h.succession hv) ?_ s.closing) rfl id
    intro log holds
    rw [hsame]
    exact holds

/-- Once `MovePtyOutput` has run, everything read stays fed until more is read. -/
lemma fed_kept {a : Action K} (hstep : step P s a = some t) (hread : ∀ n, a ≠ .readPty n)
    (hfed : s.gridFed = s.ptyTo) (h : s.Accounted) : t.gridFed = t.ptyTo := by
  have hsupply : ∀ (u : State K) i now ready, u.gridFed = u.ptyTo →
      (u.supply i now ready).gridFed = (u.supply i now ready).ptyTo := by
    intro u i now ready hu
    unfold State.supply
    split <;> exact hu
  cases a with
  | readPty n => exact absurd rfl (hread n)
  | movePtyOutput =>
    cases hstep
    exact h.movePtyOutput.2.1
  | trySupplySnapshot now answer =>
    cases hstep
    unfold State.trySupplySnapshot
    repeat' split
    all_goals first | exact hfed | exact hsupply _ _ _ _ hfed
  | onFrame i now frame =>
    obtain ⟨c, -, hrest⟩ := Option.bind_eq_some_iff.mp hstep
    split at hrest
    · cases hrest
    · cases hrest
      exact hfed
  | onIdle i now out scratch answer =>
    obtain ⟨c, -, hrest⟩ := Option.bind_eq_some_iff.mp hstep
    split at hrest
    · cases hrest
    dsimp only at hrest
    split at hrest
    · cases hrest
      unfold State.needsSnapshot
      split
      · exact hfed
      · exact hsupply _ _ _ _ hfed
    · cases hrest
      exact hfed
  | closing i =>
    cases hstep
    exact hfed
  | dropClosed i now =>
    obtain ⟨c, -, hrest⟩ := Option.bind_eq_some_iff.mp hstep
    cases hrest
    exact hfed
  | shared a =>
    obtain ⟨v, -, rfl, -⟩ := shared_output hstep
    exact hfed

/-- In every run that hands a snapshot over only where that loses nothing, every byte read is fed to
the grid once and in order, and is then appended to the ring, dropped behind the flag of a detached
session, or skipped for a snapshot that had seen it and was taken. One step loses a byte exactly when it
does not. The loop moves the output before it hands anything over, so there the grid has seen it all. -/
theorem ptyOutput_conserved (P : KeySchedule K) (seed : K) (storage : Bytes) (now : Timestamp)
    (limits : SessionLimits) :
    (∀ as s, Run (step P) (Effective P) (State.create seed storage now limits) as s → s.Conserved) ∧
    (∀ as s a t, Run (step P) Anywhere (State.create seed storage now limits) as s → s.Conserved →
      step P s a = some t → (t.Conserved ↔ Effective P s a)) ∧
    (∀ as bs s, Run (step P) Anywhere (State.create seed storage now limits)
      (as ++ [.movePtyOutput] ++ bs) s → (∀ n, .readPty n ∉ bs) → s.gridFed = s.ptyTo) := by
  have hstart := State.create_accounted seed storage now limits
  have hreach : ∀ as s, Run (step P) Anywhere (State.create seed storage now limits) as s →
      s.Accounted := fun as s run =>
    run.inv State.Accounted (fun s a t h _ hstep => (step_settles h hstep).accounted) hstart
  refine ⟨?_, ?_, ?_⟩
  · intro as s run
    have hboth := run.inv (fun s => s.Accounted ∧ ∀ e ∈ s.settled, e.2.Due)
      (fun s a t h ok hstep => ?_) ⟨hstart, fun e he => (by cases he)⟩
    · exact (State.conserved_iff hboth.1).mpr hboth.2
    · have hsettles := step_settles h.1 hstep
      exact ⟨hsettles.accounted, (hsettles.due h.2).mpr ok⟩
  · intro as s a t run hs hstep
    have hsettles := step_settles (hreach as s run) hstep
    rw [State.conserved_iff hsettles.accounted]
    exact hsettles.due hs.due
  · intro as bs
    induction bs using List.reverseRecOn with
    | nil =>
      intro s run _
      rw [List.append_nil] at run
      obtain ⟨r, hr, -, hstep⟩ := run.snoc
      cases hstep
      exact (hreach as r hr).movePtyOutput.2.1
    | append_singleton bs b ih =>
      intro s run hno
      rw [← List.append_assoc] at run
      obtain ⟨r, hr, -, hstep⟩ := run.snoc
      refine fed_kept hstep (fun n hn => hno n (by simp [hn])) (ih r hr fun n hn => ?_) (hreach _ r hr)
      exact hno n (List.mem_append_left _ hn)

/-- The Resume of a client that has nothing yet, under the keys of `seed`. -/
def gridResume (seed clientNonce serverNonce : Nat) : Option (FrameView Nat) :=
  let keys := KeySchedule.counting.deriveConnectionKeys seed clientNonce serverNonce
  let frames := makeDirectionFrames .counting keys .client maxFramesPerEpoch maxBytesPerEpoch
  match writeInto 13 (writeResume ⟨0, 0⟩ protocolVersionGrid) with
  | .ok plain => (frames.sealer.seal maxFrame plain).toOption.map Prod.fst
  | .error _ => none

/-- The parser is in Ground, on a grid of one cell. -/
def ground : GridAnswer :=
  .ofEmulator true true true true (.start (.allocate 1 1 0)) 1 1

/-- The parser is inside a sequence. -/
def midSequence : GridAnswer :=
  .ofEmulator true true true true ((Terminal.Emulator.start (.allocate 1 1 0)).feed [0x1B]) 1 1

/-- Five bytes overflow a detached ring of four; a client that takes snapshots resumes, and two more
bytes find the ring full. -/
def firstTurns (one : FrameView Nat) : List (Action Nat) :=
  [.shared (.connect 0 true), .shared (.route 0 11),
    .shared (.completeHandshake 0 10 protocolVersionGrid), .readPty (some [1, 2, 3, 4, 5]),
    .movePtyOutput, .trySupplySnapshot 1 ground, .onFrame 0 1 one, .readPty (some [6, 7]),
    .movePtyOutput, .trySupplySnapshot 2 ground]

/-- The parser is not in Ground when the snapshot is asked for, and in the same turn a client that takes
none supersedes the first. In the next turn the parser is in Ground. -/
def supersededTurns (one two : FrameView Nat) : List (Action Nat) :=
  firstTurns one ++
    [.onIdle 0 (resizeWaitTimeout + 1) 1000 1000 midSequence, .shared (.connect 0 false),
      .shared (.route 1 13), .shared (.completeHandshake 1 12 protocolVersionGrid), .onFrame 1 3 two,
      .movePtyOutput, .trySupplySnapshot 4 ground]

/-- A snapshot supplied to a superseded connection drops two bytes that no one has. -/
theorem superseded_supply_loses :
    ∃ one two s, Run (step .counting) Anywhere (State.create 5 [0, 0, 0, 0] 0 {})
        (supersededTurns one two) s ∧
      s.settled.drop 5 = [(6, .discarded false true), (7, .discarded false true)] ∧
      s.shared.session.streams.output.sessionGen = 0 ∧ ¬s.Conserved := by
  have hrun : ((gridResume 5 10 11).bind fun one =>
      (gridResume (KeySchedule.counting.advanceConnectionSeed 5) 12 13).bind fun two =>
        (exec (step .counting) (State.create 5 [0, 0, 0, 0] 0 {}) (supersededTurns one two)).map
          fun s => (s.settled.drop 5, s.shared.session.streams.output.sessionGen)) =
      some ([(6, .discarded false true), (7, .discarded false true)], 0) := by
    decide +kernel
  obtain ⟨one, -, hone⟩ := Option.bind_eq_some_iff.mp hrun
  obtain ⟨two, -, htwo⟩ := Option.bind_eq_some_iff.mp hone
  obtain ⟨s, hs, hboth⟩ := Option.map_eq_some_iff.mp htwo
  obtain ⟨hsettled, hgen⟩ := Prod.mk.inj hboth
  refine ⟨one, two, s, Run.of_exec hs, hsettled, hgen, fun hconserved => ?_⟩
  have hmem : ((6 : UInt8), Fate.discarded false true) ∈ s.settled :=
    List.mem_of_mem_drop (by rw [hsettled]; exact List.mem_cons_self)
  exact absurd (hconserved.due _ hmem) (by decide)

/-- The same turns, with the parser in Ground when the snapshot is asked for. -/
theorem ptyOutput_conserved_sample :
    ∃ one s, Run (step .counting) (Effective .counting) (State.create 5 [0, 0, 0, 0] 0 {})
        (firstTurns one ++ [.onIdle 0 (resizeWaitTimeout + 1) 1000 1000 ground]) s ∧
      s.settled.drop 5 = [(6, .discarded true true), (7, .discarded true true)] ∧ s.Conserved := by
  have hrun : ((gridResume 5 10 11).bind fun one =>
      (exec (guarded (step .counting) (Effective .counting)) (State.create 5 [0, 0, 0, 0] 0 {})
        (firstTurns one ++ [.onIdle 0 (resizeWaitTimeout + 1) 1000 1000 ground])).map
          fun s => s.settled.drop 5) =
      some [(6, .discarded true true), (7, .discarded true true)] := by
    decide +kernel
  obtain ⟨one, -, hone⟩ := Option.bind_eq_some_iff.mp hrun
  obtain ⟨s, hs, hsettled⟩ := Option.map_eq_some_iff.mp hone
  have hguarded := Run.of_guarded hs
  exact ⟨one, s, hguarded, hsettled, (ptyOutput_conserved _ _ _ _ _).1 _ _ hguarded⟩

end PtyOutput
end Zet.Agent
