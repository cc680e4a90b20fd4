import Zet.Session.Emission

/-!
# Supplying a snapshot

The agent loop around one connection that asked for a snapshot (`Agent::TrySupplySnapshot` and the
NeedsSnapshot branch of `Agent::Pump` in `src/agent/agent.cpp`, `AgentConnection::SupplySnapshot`).
The grid pump owns the snapshot's bytes (`snap`); the channel only borrows them. `TrySupplySnapshot`
releases them as soon as `GridEmissionDone` answers true.

What the grid pump builds, and when, is left open: a step carries whatever it answered. The result
is `borrowed_held`: as long as the loop does not ask while a GridEnd is owed, every span the channel
can still read from is held.
-/

namespace Zet.Agent
open Zet.Core Zet.Wire Zet.Lib Zet.Session

/-- `GridPump::SnapReady`. -/
structure SnapReady where
  bytes : Bytes
  scrollbackLen : Nat
  flags : Nat
deriving DecidableEq, Repr

namespace SnapshotSupply

/-- The connection that asked, and the agent's side of its snapshot. -/
structure State (K : Type) where
  chan : Emission.State K
  /-- The connection is in `EStage::AwaitSnapshot`. -/
  awaitSnapshot : Bool
  /-- `GridPump::Snap_`. -/
  snap : Option Bytes
  /-- `SnapWaitConn_` is this connection. -/
  waiting : Bool
deriving DecidableEq, Repr

/-- What happens around the connection. -/
inductive Action (K : Type) where
  /-- A call on the connection's channel. -/
  | channel (a : Emission.Action K)
  /-- The connection asks; the pump answers at once if its parser is in Ground. -/
  | needsSnapshot (ready : Option SnapReady)
  /-- One turn of the loop; `built` is what `TryBuild` answers, `none` for a failed build. -/
  | trySupplySnapshot (built : Option (Option SnapReady))

variable {K : Type}

/-- `AgentConnection::SupplySnapshot` on the connection that holds the session. -/
def supplySnapshot (s : State K) (ready : SnapReady) : State K :=
  if ¬s.awaitSnapshot then s
  else if ready.bytes.isEmpty ∨ ready.bytes.length > snapshotMaxBytes then s
  else
    let sendBuf := s.chan.port.sendBuf.newGeneration
    let (started, chan) := s.chan.port.chan.startGrid ready.bytes ready.flags sendBuf.sessionGen
      ready.scrollbackLen
    { s with
      chan := ⟨⟨chan, sendBuf, s.chan.port.recvCursor⟩, s.chan.owed || started⟩
      awaitSnapshot := false }

/-- The NeedsSnapshot branch of `Agent::Pump`. -/
def needsSnapshot (s : State K) (ready : Option SnapReady) : State K :=
  let s := { s with waiting := true }
  match ready with
  | none => s
  | some ready => supplySnapshot { s with snap := some ready.bytes } ready

/-- `Agent::TrySupplySnapshot`, while the connection lives. -/
def trySupplySnapshot (s : State K) (built : Option (Option SnapReady)) : State K :=
  if ¬s.waiting then s
  else if s.snap.isSome ∧ s.chan.port.chan.gridEmissionDone then
    { s with snap := none, waiting := false }
  else if s.snap.isSome then s
  else
    match built with
    | none => { s with waiting := false }
    | some none => s
    | some (some ready) => supplySnapshot { s with snap := some ready.bytes } ready

/-- One step. The owner calls StartGrid only through SupplySnapshot, and a connection asks for a
snapshot only while it waits for one. -/
def step [DecidableEq K] (P : KeySchedule K) (s : State K) : Action K → Option (State K)
  | .channel (.startGrid ..) => none
  | .channel a => some { s with chan := s.chan.apply P a }
  | .needsSnapshot ready => if s.awaitSnapshot then some (needsSnapshot s ready) else none
  | .trySupplySnapshot built => some (trySupplySnapshot s built)

/-- A connection that has just chosen the snapshot path. -/
def Fresh (s : State K) : Prop :=
  Emission.Fresh s.chan ∧ s.awaitSnapshot = true ∧ s.snap = none ∧ s.waiting = false

/-- The loop asks `GridEmissionDone` only while no GridEnd is owed. -/
def AskedWhenNotOwed (s : State K) : Action K → Prop
  | .trySupplySnapshot _ => s.snap.isSome → s.chan.owed = false
  | _ => True

/-- What the loop keeps: the channel borrows only what the pump holds, and nothing before the
snapshot is supplied. -/
structure Kept (s : State K) : Prop where
  chan : Emission.Kept s.chan
  held : ∀ bytes, s.chan.port.face.grid.borrowed = some bytes → s.snap = some bytes
  nothing : s.awaitSnapshot = true → s.chan.port.face.grid.borrowed = none

/-- A fresh state is kept. -/
lemma Kept.fresh {s : State K} (h : Fresh s) : Kept s := by
  obtain ⟨hchan, -, -, -⟩ := h
  have hkept := Emission.Kept.fresh hchan
  have hnone : s.chan.port.face.grid.borrowed = none := by
    have howed := hkept.owed
    rw [hchan.1] at howed
    simpa using howed.symm
  refine ⟨hkept, ?_, fun _ => hnone⟩
  intro bytes hbytes
  simp [hnone] at hbytes

variable [DecidableEq K] {P : KeySchedule K}

/-- An action of the channel that starts no snapshot keeps it. -/
lemma Kept.channel {s : State K} (k : Kept s) {a : Emission.Action K}
    (hno : Emission.NoStart s.chan a) : Kept { s with chan := s.chan.apply P a } := by
  refine ⟨k.chan.apply a, ?_, ?_⟩
  · intro bytes hbytes
    rcases Emission.borrowed_apply (P := P) hno with hsame | hnone
    · exact k.held bytes (hsame.symm.trans hbytes)
    · rw [hnone] at hbytes
      cases hbytes
  · intro hwait
    rcases Emission.borrowed_apply (P := P) hno with hsame | hnone
    · exact hsame.trans (k.nothing hwait)
    · exact hnone

omit [DecidableEq K] in
/-- Handing over the snapshot the pump has just built. -/
lemma Kept.supplySnapshot {s : State K} (k : Emission.Kept s.chan)
    (nothing : s.chan.port.face.grid.borrowed = none) (ready : SnapReady)
    (holds : s.snap = some ready.bytes) : Kept (supplySnapshot s ready) := by
  have hempty : ∀ bytes, s.chan.port.face.grid.borrowed = some bytes → s.snap = some bytes := by
    intro bytes hbytes
    simp [nothing] at hbytes
  unfold SnapshotSupply.supplySnapshot
  split
  · exact ⟨k, hempty, fun _ => nothing⟩
  split
  · exact ⟨k, hempty, fun _ => nothing⟩
  dsimp only
  rcases s.chan.port.chan.startGrid_cases ready.bytes ready.flags
      s.chan.port.sendBuf.newGeneration.sessionGen ready.scrollbackLen with
    hno | ⟨-, -, -, -, hyes⟩
  · rw [hno]
    refine ⟨⟨k.agent, ?_, k.awaiting⟩, hempty, by simp⟩
    exact (Bool.or_false _).trans k.owed
  · rw [hyes]
    refine ⟨⟨k.agent, ?_, fun _ => rfl⟩, ?_, by simp⟩
    · simp [GridState.borrowed, Port.face, Channel.grid]
    · intro bytes hbytes
      simp only [GridState.borrowed, Port.face, Channel.grid, Option.map_some,
        Option.some.injEq] at hbytes
      rw [← hbytes]
      exact holds

/-- Every step taken when nothing is owed keeps the snapshot held. -/
lemma Kept.step {s t : State K} {a : Action K} (k : Kept s) (ok : AskedWhenNotOwed s a)
    (hs : step P s a = some t) : Kept t := by
  cases a with
  | channel a =>
    cases a with
    | startGrid => cases hs
    | _ =>
      cases hs
      exact k.channel trivial
  | needsSnapshot ready =>
    simp only [SnapshotSupply.step] at hs
    split at hs
    · next hwait =>
      cases hs
      cases ready with
      | none => exact ⟨k.chan, k.held, k.nothing⟩
      | some ready =>
        exact Kept.supplySnapshot (s := { s with waiting := true, snap := some ready.bytes })
          k.chan (k.nothing hwait) ready rfl
    · cases hs
  | trySupplySnapshot built =>
    cases hs
    unfold trySupplySnapshot
    split
    · exact k
    split
    · next hdone =>
      have hnone : s.chan.port.face.grid.borrowed = none := by
        have howed := k.chan.owed
        rw [ok hdone.1] at howed
        simpa using howed.symm
      refine ⟨k.chan, ?_, k.nothing⟩
      intro bytes hbytes
      simp [hnone] at hbytes
    split
    · exact k
    next hsnap =>
    have hnone : s.chan.port.face.grid.borrowed = none := by
      cases hb : s.chan.port.face.grid.borrowed with
      | none => rfl
      | some bytes => simp [k.held bytes hb] at hsnap
    match built with
    | none => exact ⟨k.chan, k.held, k.nothing⟩
    | some none => exact k
    | some (some ready) =>
      exact Kept.supplySnapshot (s := { s with snap := some ready.bytes }) k.chan hnone ready rfl

/-- In a run that asks only when nothing is owed, every span the channel still reads from is held. -/
lemma borrowed_held {s t : State K} {as : List (Action K)} (fresh : Fresh s)
    (run : Run (step P) AskedWhenNotOwed s as t) {bytes : Bytes}
    (hborrowed : t.chan.port.face.grid.borrowed = some bytes) : t.snap = some bytes :=
  (run.inv Kept (fun _ _ _ k ok hs => k.step ok hs) (Kept.fresh fresh)).held bytes hborrowed

/-- `GridEmissionDone` answers truthfully exactly while no GridEnd is owed for an accepted snapshot;
and in every run whose loop asks it only then, no span a GridChunk is still to be copied from is ever
released. -/
theorem gridEmissionDone_truthful (P : KeySchedule K) :
    (∀ (s t : Emission.State K) (as : List (Emission.Action K)), Emission.Fresh s →
      Run (Emission.step P) Anywhere s as t → (Emission.Truthful P t ↔ t.owed = false)) ∧
    (∀ (s t : State K) (as : List (Action K)), Fresh s →
      Run (step P) AskedWhenNotOwed s as t →
        ∀ ge, t.chan.port.chan.gridEmitting = some ge → t.snap = some ge.snapshot) := by
  constructor
  · intro s t as fresh run
    exact Emission.truthful_iff_not_owed ((Emission.Kept.fresh fresh).run run)
  · intro s t as fresh run ge hge
    apply borrowed_held fresh run
    simp [GridState.borrowed, Port.face, Channel.grid, hge]

/-- A connection that has just chosen the snapshot path, over counted keys. -/
def sample : State Nat where
  chan :=
    ⟨⟨.create (makeDirectionFrames .counting ⟨1, 2, [], []⟩ .agent maxFramesPerEpoch
        maxBytesPerEpoch) (.create 0 .onDelivery) 0 {} protocolVersionGrid [] 0,
      .create [0, 0, 0, 0] 0, .create 0 .onDelivery⟩, false⟩
  awaitSnapshot := true
  snap := none
  waiting := false

omit [DecidableEq K] in
/-- The sample is fresh. -/
lemma sample_fresh : Fresh sample :=
  ⟨⟨rfl, _, _, _, _, _, _, _, rfl, rfl⟩, rfl, rfl, rfl⟩

/-- The loop releases a one-byte snapshot on the turn after it was supplied, before a single frame
of it has been sealed: `GridEmissionDone` is already true. -/
theorem gridEmissionDone_early :
    (¬∀ (s t : Emission.State Nat) (as : List (Emission.Action Nat)), Emission.Fresh s →
      Run (Emission.step .counting) Anywhere s as t → Emission.Truthful .counting t) ∧
    (exec (step .counting) sample
      [.needsSnapshot (some ⟨[65], 0, 0⟩), .trySupplySnapshot none]).map
        (fun s => (s.snap, s.chan.port.chan.gridEmitting.map GridEmission.snapshot)) =
      some (none, some [65]) := by
  constructor
  · intro truthful
    have hrun : Run (Emission.step .counting) Anywhere sample.chan
        [.startGrid [65] 0 1 0] (sample.chan.apply .counting (.startGrid [65] 0 1 0)) :=
      .of_exec rfl
    have htrue := truthful _ _ _ sample_fresh.1 hrun rfl [] _ (.nil _)
    cases htrue
  · decide

/-- The same snapshot, once supplied: a GridEnd is owed, and its bytes are held. -/
theorem gridEmissionDone_truthful_sample :
    let t := needsSnapshot sample (some ⟨[65], 0, 0⟩)
    t.chan.owed = true ∧ ¬Emission.Truthful .counting t.chan ∧ t.snap = some [65] := by
  have hrun : Run (step .counting) AskedWhenNotOwed sample [.needsSnapshot (some ⟨[65], 0, 0⟩)]
      (needsSnapshot sample (some ⟨[65], 0, 0⟩)) := .cons trivial rfl (.nil _)
  have hchan : Run (Emission.step .counting) Anywhere sample.chan
      [.startGrid [65] 0 1 0, .streams (SendBuffer.create [0, 0, 0, 0] 0).newGeneration
        (.create 0 .onDelivery)] (needsSnapshot sample (some ⟨[65], 0, 0⟩)).chan := .of_exec rfl
  have howed := (gridEmissionDone_truthful .counting).1 _ _ _ sample_fresh.1 hchan
  refine ⟨rfl, fun htrue => ?_, ?_⟩
  · exact absurd (howed.mp htrue) (by decide)
  · exact (gridEmissionDone_truthful .counting).2 _ _ _ sample_fresh hrun
      ⟨[65], 1, 1, 0, 0, 0, false⟩ rfl

end SnapshotSupply

end Zet.Agent
