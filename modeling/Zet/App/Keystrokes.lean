import Zet.App.ByteQueue
import Zet.App.EscapeScanner
import Zet.Net.Reception

/-!
# From the keyboard to the pty

`Client::ReadStdin` and `Client::FeedStdin` of `src/client/client.cpp` on one end, and on the other what
`Agent::Pump` of `src/agent/agent.cpp` does with input, `Agent::WritePty` and `Agent::DiscardPtyInput`;
between them the system of `Zet.Net.Machine`. A step is one turn of these loops or anything else the two
ends and the network do, in any order.

`Conserved` is the result: of what is typed, each byte that is meant for the session is at one place on
its way, in order, and it stays in the client's buffer until the pty has it.
-/

namespace Zet.App
open Zet.Core Zet.Wire Zet.Lib Zet.Session Zet.Net

/-- `STDIN_CHUNK`. -/
def stdinChunk : Nat := 4096

/-- The client's input, the agent's, and what lies between them. -/
structure Typing (K : Type) where
  net : State K
  escape : EscapeScanner
  /-- `In_` up to `InTo_`. -/
  input : Bytes
  inFrom : Nat
  inEnded : Bool
  escaped : Bool
  ptyInput : ByteQueue
  /-- Whether the agent has found its account of the input out of step. -/
  outOfStep : Bool
  /-- What was read from the terminal. -/
  typed : Bytes
  /-- What left the pty's queue, and whether the pty took it. -/
  disposed : List (UInt8 × Bool)

/-- What can happen. -/
inductive Press where
  /-- Anything else the two ends and the network do. -/
  | net (a : Net.Action)
  /-- `ReadStdin` gets some bytes, or finds the end of them. -/
  | readStdin (chunk : Bytes)
  | stdinEnds
  | feedStdin
  /-- The agent takes the next frame of a connection. -/
  | agentFrame (i : Nat) (now : Timestamp)
  /-- A turn of `WritePty` in which the pty takes `count` bytes. -/
  | writePty (count : Nat)
  /-- The pty is gone, or its shell is. -/
  | discardPtyInput

namespace Typing
variable {K : Type}

/-- The queue of the pty as the agent makes it. -/
def create (net : State K) (limits : SessionLimits) : Typing K where
  net := net
  escape := .create
  input := []
  inFrom := 0
  inEnded := false
  escaped := false
  ptyInput := .create (max limits.resendMax limits.disconnectMax)
  outOfStep := false
  typed := []
  disposed := []

/-- `ReadStdin`, when the terminal gives `chunk`. -/
def readStdin (t : Typing K) (chunk : Bytes) : Typing K :=
  let scanned := t.escape.feed chunk (2 * stdinChunk + 1)
  { t with
    escape := scanned.scanner
    input := scanned.out
    escaped := scanned.quit
    typed := t.typed ++ chunk }

variable [DecidableEq K] (P : KeySchedule K) (cfg : Config)

/-- The loop of `FeedStdin`. A turn that goes on has taken a byte, so `turns` are enough. -/
def feedTurns (turns : Nat) (t : Typing K) : Option (Typing K) :=
  match turns with
  | 0 => some t
  | turns + 1 =>
    if t.inFrom < t.input.length ∧ t.net.client.streams.acceptsWrites then do
      let rest := t.input.drop t.inFrom
      let net ← t.net.step P cfg (.clientWrite rest)
      match (t.net.client.write rest).1 with
      | .ok 0 | .error _ => some { t with net := net }
      | .ok taken => feedTurns turns { t with net := net, inFrom := t.inFrom + taken }
    else some t

/-- `FeedStdin`. -/
def feedStdin (t : Typing K) : Option (Typing K) :=
  (t.feedTurns P cfg (t.input.length - t.inFrom)).map fun t =>
    if t.inFrom = t.input.length then { t with input := [], inFrom := 0 } else t

/-- `ConfirmPtyInput`. -/
def confirmPtyInput (count : Nat) (t : Typing K) : Option (Typing K) :=
  (t.net.step P cfg (.inputDelivered count)).map fun net =>
    { t with net := net, outOfStep := t.outOfStep || !(t.net.agent.inputDelivered count).1 }

/-- What `Agent::Pump` does with input: it queues all of it for the pty, or refuses all of it and is done
with the connection. -/
def deliver (i : Nat) (now : Timestamp) (bytes : Bytes) (t : Typing K) : Option (Typing K) :=
  match t.ptyInput.append bytes with
  | some queue => some { t with ptyInput := queue }
  | none =>
    (t.net.step P cfg (.inputRejected i bytes.length now)).map fun net =>
      { t with net := net, outOfStep := t.outOfStep || !(t.net.agent.inputRejected bytes.length).1 }

/-- One step. -/
def step (t : Typing K) : Press → Option (Typing K)
  | .net a => do
    guard a.aside
    let net ← t.net.step P cfg a
    some { t with net := net }
  | .readStdin chunk => do
    guard (t.input = [] ∧ ¬t.inEnded ∧ chunk ≠ [] ∧ chunk.length ≤ stdinChunk)
    -- after `~.` the loop returns before it reads again
    guard ¬t.escaped
    some (t.readStdin chunk)
  | .stdinEnds => some { t with inEnded := true }
  | .feedStdin => t.feedStdin P cfg
  | .agentFrame i now => do
    let c ← (t.net.links i).agent
    let up ← (t.net.links i).toAgent.head?
    let net ← t.net.step P cfg (.agentFrame i now)
    let t' := { t with net := net }
    match (c.onFrame P t.net.agent now up.frame).1 with
    | .ok (.deliver bytes) => t'.deliver P cfg i now bytes
    | _ => some t'
  | .writePty count => do
    guard (0 < t.ptyInput.size ∧ count ≤ t.ptyInput.size)
    let taken := t.ptyInput.front.take count
    confirmPtyInput P cfg count { t with
      ptyInput := t.ptyInput.consume count
      disposed := t.disposed ++ taken.map fun b => (b, true) }
  | .discardPtyInput => do
    let t ← t.confirmPtyInput P cfg t.ptyInput.size
    some { t with
      ptyInput := t.ptyInput.consume t.ptyInput.size
      disposed := t.disposed ++ t.ptyInput.front.map fun b => (b, false) }

/-- The counters have room: for what is typed, and for the next generation of the agent's ring. -/
def Counts (t : Typing K) : Prop :=
  t.typed.length < 2 ^ 64 ∧ t.net.agent.streams.output.sessionGen + 1 < 2 ^ 32

/--
Where the typed bytes are. Those that are meant for the session have left the pty's queue, wait in it, are
on their way from the client's buffer, or wait to be taken by it; the client can send again all that the
pty's queue has not disposed of, and no acknowledgement says that it has more.
-/
structure Conserved (cfg : Config) (t : Typing K) : Prop where
  places : sessionBytes t.typed =
    t.disposed.map Prod.fst ++ t.ptyInput.front ++ t.net.clientTaken.drop t.net.agentGot.length ++
      t.input.drop t.inFrom
  escaped : t.escaped = asksToQuit t.typed
  buffered : t.net.client.streams.output.Holds t.net.clientTaken
  kept : t.net.client.streams.output.base ≤ t.disposed.length
  acknowledged : ∀ i, ∀ down ∈ (t.net.links i).toClient, ∀ a,
    ackOf (.of cfg.version down.frame.body.plaintext) = some a → a ≤ t.disposed.length
  accounted : t.outOfStep = false
  queue : t.ptyInput.size ≤ t.ptyInput.limit

/-- The invariant: the two ends agree, and what the machine added to them is in step with them. -/
structure Kept (cfg : Config) (t : Typing K) : Prop where
  received : t.net.Received cfg
  scanned : EscapeScanner.create.scan t.typed =
    ⟨t.net.clientTaken ++ t.input.drop t.inFrom, t.escaped, t.escape⟩
  inFrom_le : t.inFrom ≤ t.input.length
  got : t.disposed.map Prod.fst ++ t.ptyInput.front = t.net.agentGot
  pending : t.net.agent.streams.input.pending = t.ptyInput.size
  inStep : t.outOfStep = false
  queue : t.ptyInput.size ≤ t.ptyInput.limit

variable {P cfg} {t t' : Typing K}

omit [DecidableEq K] in
/-- What was disposed of is what the agent acknowledges. -/
lemma Kept.ackOffset (h : Kept cfg t) : (t.net.view cfg).inp.ackOffset = t.disposed.length := by
  have hgot := congrArg List.length h.got
  rw [List.length_append, List.length_map, ByteQueue.length_front] at hgot
  have hlength : t.net.agentGot.length = t.net.agent.streams.input.recvOffset :=
    h.received.receiving.input.length_got
  show t.net.agent.streams.input.recvOffset - t.net.agent.streams.input.pending = _
  rw [h.pending, ← hlength]
  omega

omit [DecidableEq K] in
/-- The client never takes more than was typed. -/
lemma Kept.taken_le (h : Kept cfg t) : t.net.clientTaken.length ≤ t.typed.length := by
  have hlength := EscapeScanner.scan_length .create t.typed
  rw [h.scanned] at hlength
  simp only [List.length_append, EscapeScanner.owed, EscapeScanner.create] at hlength
  exact (Nat.le_add_right _ _).trans (hlength.trans_eq (Nat.zero_add _))

omit [DecidableEq K] in
/-- The counters of the network stay within their widths with those of the typing. -/
lemma Kept.counts (h : Kept cfg t) (counts : t.Counts) : t.net.CountsInput :=
  ⟨h.taken_le.trans_lt counts.1, counts.2⟩

omit [DecidableEq K] in
/-- What is kept gives conservation. -/
lemma Kept.conserved (h : Kept cfg t) : Conserved cfg t where
  places := by
    obtain ⟨hout, -⟩ := EscapeScanner.scan_lines t.typed
    have hfront : t.net.agentGot = t.net.clientTaken.take t.net.agentGot.length := by
      rw [show t.net.agentGot.length = _ from h.received.receiving.input.length_got]
      exact h.received.receiving.input.got
    rw [← hout, h.scanned, h.got]
    conv_lhs => rw [← List.take_append_drop t.net.agentGot.length t.net.clientTaken, ← hfront]
  escaped := by
    obtain ⟨-, hquit⟩ := EscapeScanner.scan_lines t.typed
    rw [h.scanned] at hquit
    exact hquit
  buffered := h.received.stored.clientOut
  kept := h.received.receiving.input.base.trans_eq h.ackOffset
  acknowledged := by
    intro i down hdown a hack
    have hmem : down.view cfg.version ∈ ((t.net.view cfg).links i).toClient :=
      List.mem_map_of_mem hdown
    exact (h.received.receiving.input.acks i _ hmem a hack).trans_eq h.ackOffset
  accounted := h.inStep
  queue := h.queue

omit [DecidableEq K] in
/-- A new client keeps. -/
lemma Kept.create (cfg : Config) (seed : K) (agentStorage clientStorage : Bytes)
    (agentLimits clientLimits : SessionLimits) (now : Timestamp) :
    Kept cfg (create (.start seed agentStorage clientStorage agentLimits clientLimits now) agentLimits) where
  received := .start ..
  scanned := rfl
  inFrom_le := le_rfl
  got := rfl
  pending := rfl
  inStep := rfl
  queue := Nat.zero_le _

omit [DecidableEq K] in
/-- A read of the keyboard keeps. -/
lemma Kept.readStdin (h : Kept cfg t) (empty : t.input = []) (going : t.escaped = false) {chunk : Bytes}
    (short : chunk.length ≤ stdinChunk) : Kept cfg (t.readStdin chunk) where
  received := h.received
  scanned := by
    have hfrom : t.inFrom = 0 := by
      have := h.inFrom_le
      rwa [empty, List.length_nil, Nat.le_zero] at this
    have hfeed : t.escape.feed chunk (2 * stdinChunk + 1) = t.escape.scan chunk :=
      EscapeScanner.feed_scan (by omega)
    rw [Typing.readStdin, EscapeScanner.scan_append, h.scanned, going, hfeed, empty, hfrom]
    simp
  inFrom_le := by
    have := h.inFrom_le
    rw [empty, List.length_nil, Nat.le_zero] at this
    rw [Typing.readStdin, this]
    exact Nat.zero_le _
  got := h.got
  pending := h.pending
  inStep := h.inStep
  queue := h.queue

/-- A write takes the front of what it is given. -/
lemma Kept.clientWrite (h : Kept cfg t) (counts : t.Counts) {net : State K}
    (hstep : t.net.step P cfg (.clientWrite (t.input.drop t.inFrom)) = some net) :
    Kept cfg { t with
      net := net
      inFrom := t.inFrom + takenOf (t.net.client.write (t.input.drop t.inFrom)).1 } := by
  obtain ⟨hagent, hgot, htaken⟩ := State.step_clientWrite hstep
  have hle := takenOf_le t.net.client (t.input.drop t.inFrom)
  rw [List.length_drop] at hle
  refine ⟨h.received.step (h.counts counts) hstep, ?_, ?_, ?_, ?_, h.inStep, h.queue⟩
  · dsimp only
    rw [htaken, ← List.drop_drop, List.append_assoc, List.take_append_drop]
    exact h.scanned
  · have := h.inFrom_le
    dsimp only
    omega
  · dsimp only
    rw [hgot]
    exact h.got
  · dsimp only
    rw [hagent]
    exact h.pending

/-- Feeding what was read keeps, turn by turn. -/
lemma Kept.feedTurns (h : Kept cfg t) (counts : t.Counts) {turns : Nat}
    (hfeed : t.feedTurns P cfg turns = some t') : Kept cfg t' := by
  induction turns generalizing t with
  | zero =>
    cases hfeed
    exact h
  | succ turns ih =>
    unfold Typing.feedTurns at hfeed
    split at hfeed
    · obtain ⟨net, hnet, hfeed⟩ := Option.bind_eq_some_iff.mp hfeed
      have hkept := h.clientWrite counts hnet
      split at hfeed
      · next hnone =>
        cases hfeed
        rw [hnone] at hkept
        exact hkept
      · next hnone =>
        cases hfeed
        rw [hnone] at hkept
        exact hkept
      · next taken hne htaken =>
        rw [htaken] at hkept
        obtain ⟨hagent, -⟩ := State.step_clientWrite hnet
        -- a write of the client leaves the agent's ring alone
        refine ih hkept ⟨counts.1, ?_⟩ hfeed
        rw [hagent]
        exact counts.2
    · cases hfeed
      exact h

/-- So does the feeding loop. -/
lemma Kept.feedStdin (h : Kept cfg t) (counts : t.Counts)
    (hfeed : t.feedStdin P cfg = some t') : Kept cfg t' := by
  obtain ⟨u, hu, rfl⟩ := Option.map_eq_some_iff.mp hfeed
  have hkept := h.feedTurns counts hu
  split
  · next hall =>
    refine ⟨hkept.received, ?_, le_rfl, hkept.got, hkept.pending, hkept.inStep, hkept.queue⟩
    have hscanned := hkept.scanned
    rw [hall, List.drop_length] at hscanned
    exact hscanned
  · exact hkept

/-- A step beside the client's stream. -/
lemma Kept.aside (h : Kept cfg t) {a : Net.Action} (counts : t.net.CountsInput) (aside : a.aside = true)
    {net : State K} (hstep : t.net.step P cfg a = some net) : Kept cfg { t with net := net } := by
  obtain ⟨hcursor, hgot, htaken⟩ := State.step_aside aside hstep
  refine ⟨h.received.step counts hstep, ?_, h.inFrom_le, ?_, ?_, h.inStep, h.queue⟩
  · rw [htaken]
    exact h.scanned
  · rw [hgot]
    exact h.got
  · rw [hcursor]
    exact h.pending

/-- Some of what waits for the pty is disposed of. -/
lemma Kept.confirmed (h : Kept cfg t) {count : Nat} (counts : t.net.CountsInput)
    (fits : count ≤ t.ptyInput.size) {net : State K}
    (hstep : t.net.step P cfg (.inputDelivered count) = some net) (took : Bool) :
    Kept cfg { t with
      net := net
      outOfStep := t.outOfStep || !(t.net.agent.inputDelivered count).1
      ptyInput := t.ptyInput.consume count
      disposed := t.disposed ++ (t.ptyInput.front.take count).map fun b => (b, took) } := by
  have hreceived := h.received.step counts hstep
  have hmark : t.net.agent.streams.input.markDelivered count =
      (true, { t.net.agent.streams.input with pending := t.net.agent.streams.input.pending - count }) :=
    if_neg (by rw [h.pending]; omega)
  cases hstep
  refine ⟨hreceived, h.scanned, h.inFrom_le, ?_, ?_, ?_, ?_⟩
  · have hmap : ((t.ptyInput.front.take count).map fun b => (b, took)).map Prod.fst =
        t.ptyInput.front.take count := by
      rw [List.map_map]
      exact List.map_id _
    rw [List.map_append, hmap, ByteQueue.front_consume, List.append_assoc, List.take_append_drop]
    exact h.got
  · dsimp only [AgentSession.inputDelivered]
    rw [hmark, ByteQueue.size_consume, ← h.pending]
  · dsimp only [AgentSession.inputDelivered]
    rw [hmark, h.inStep]
    rfl
  · rw [ByteQueue.size_consume, ByteQueue.limit_consume]
    exact (Nat.sub_le _ _).trans h.queue

/-- A frame whose bytes are queued for the pty, or refused. -/
lemma Kept.deliver (h : Kept cfg t) {net : State K} (received : net.Received cfg) {i : Nat} {now : Timestamp}
    {bytes : Bytes} (counts : net.CountsInput)
    (got : net.agentGot = t.net.agentGot ++ bytes)
    (pending : net.agent.streams.input.pending = t.net.agent.streams.input.pending + bytes.length)
    (taken : net.clientTaken = t.net.clientTaken)
    (hdeliver : Typing.deliver P cfg i now bytes { t with net := net } = some t') : Kept cfg t' := by
  have hscanned := h.scanned
  rw [← taken] at hscanned
  unfold Typing.deliver at hdeliver
  split at hdeliver
  · next queue happend =>
    cases hdeliver
    obtain ⟨hfront, hlimit, hsize⟩ := ByteQueue.appendTo_some happend
    refine ⟨received, hscanned, h.inFrom_le, ?_, ?_, h.inStep, ?_⟩
    · rw [hfront, got, ← h.got, List.append_assoc]
    · rw [pending, h.pending, hsize]
    · have hroom := ByteQueue.appendTo_fits happend
      rw [hlimit]
      exact hroom
  · obtain ⟨net', hstep, rfl⟩ := Option.map_eq_some_iff.mp hdeliver
    have hreceived := received.step counts hstep
    -- all of what the frame added is pending, so the cursor gives it back whole
    have hfits : bytes.length ≤ net.agent.streams.input.pending := by
      rw [pending]
      exact Nat.le_add_left _ _
    obtain ⟨hok, hgot, hpending, htaken⟩ := State.step_inputRejected hstep hfits
    refine ⟨hreceived, ?_, h.inFrom_le, ?_, ?_, ?_, h.queue⟩
    · rw [htaken]
      exact hscanned
    · -- the agent is where it was before the frame
      have hback : net'.agentGot = t.net.agentGot := by
        rw [hgot, got, List.length_append, Nat.add_sub_cancel, List.take_left]
      rw [hback]
      exact h.got
    · rw [hpending, pending, Nat.add_sub_cancel]
      exact h.pending
    · dsimp only
      rw [hok, h.inStep]
      rfl

/-- Every step keeps it. -/
lemma Kept.step (h : Kept cfg t) {press : Press} (counts : t.Counts)
    (hstep : t.step P cfg press = some t') : Kept cfg t' := by
  have hcounts := h.counts counts
  cases press with
  | net a =>
    simp only [Typing.step, Option.bind_eq_bind, Option.bind_eq_some_iff, Option.guard_eq_some'] at hstep
    obtain ⟨-, haside, net, hnet, hstep⟩ := hstep
    cases hstep
    exact h.aside hcounts haside hnet
  | readStdin chunk =>
    simp only [Typing.step, Option.bind_eq_bind, Option.bind_eq_some_iff, Option.guard_eq_some'] at hstep
    obtain ⟨-, ⟨hempty, -, -, hshort⟩, -, hgoing, hstep⟩ := hstep
    cases hstep
    exact h.readStdin hempty (Bool.eq_false_iff.mpr hgoing) hshort
  | stdinEnds =>
    cases hstep
    exact ⟨h.received, h.scanned, h.inFrom_le, h.got, h.pending, h.inStep, h.queue⟩
  | feedStdin => exact h.feedStdin counts hstep
  | agentFrame i now =>
    simp only [Typing.step, Option.bind_eq_bind, Option.bind_eq_some_iff] at hstep
    obtain ⟨c, hc, up, hup, net, hnet, hstep⟩ := hstep
    have hreceived := h.received.step hcounts hnet
    obtain ⟨c', up', hc', hup', hgot, hpending, hsame⟩ := h.received.agentFrame hnet
    cases hc.symm.trans hc'
    cases hup.symm.trans hup'
    split at hstep
    · -- what the frame brought waits for the pty, or is taken back
      next bytes hbytes =>
      rw [hbytes] at hgot hpending
      have hnext : net.CountsInput := by
        rw [State.CountsInput, hsame, h.received.agentFrame_gen hnet]
        exact hcounts
      exact h.deliver hreceived hnext hgot hpending hsame hstep
    · next hnone =>
      cases hstep
      have hnothing := State.handedOf_nil hnone
      rw [hnothing, List.append_nil] at hgot
      rw [hnothing] at hpending
      refine ⟨hreceived, ?_, h.inFrom_le, ?_, ?_, h.inStep, h.queue⟩
      · rw [hsame]
        exact h.scanned
      · rw [hgot]
        exact h.got
      · exact hpending.trans h.pending
  | writePty count =>
    simp only [Typing.step, Option.bind_eq_bind, Option.bind_eq_some_iff, Option.guard_eq_some'] at hstep
    obtain ⟨-, ⟨-, hcount⟩, hstep⟩ := hstep
    obtain ⟨net, hnet, rfl⟩ := Option.map_eq_some_iff.mp hstep
    exact h.confirmed hcounts hcount hnet true
  | discardPtyInput =>
    simp only [Typing.step, Option.bind_eq_bind, Option.bind_eq_some_iff] at hstep
    obtain ⟨u, hu, hstep⟩ := hstep
    obtain ⟨net, hnet, rfl⟩ := Option.map_eq_some_iff.mp hu
    cases hstep
    -- the bytes go nowhere, and are acknowledged like those the pty took
    have hkept := h.confirmed hcounts le_rfl hnet false
    rw [List.take_of_length_le t.ptyInput.length_front.le] at hkept
    exact hkept

/-- Input the queue has no room for is refused, never dropped: the step after it is always there. -/
lemma Kept.delivers (h : Kept cfg t) {i : Nat} {now : Timestamp} {net : State K}
    (hstep : t.net.step P cfg (.agentFrame i now) = some net) :
    (t.step P cfg (.agentFrame i now)).isSome = true := by
  obtain ⟨c, up, hc, hup, -⟩ := h.received.agentFrame hstep
  simp only [Typing.step, hc, hup, hstep, Option.bind_eq_bind, Option.bind_some]
  split
  · next bytes hbytes =>
    unfold Typing.deliver
    split
    · rfl
    · rw [Option.isSome_map]
      exact h.received.rejects hstep hc hup hbytes bytes.length
  · rfl

instance (t : Typing K) : Decidable t.Counts := inferInstanceAs (Decidable (_ ∧ _))

/-- The two ends as the bootstrap leaves them, and what they do. -/
def Types (P : KeySchedule K) (cfg : Config) (start : Typing K) (presses : List Press) (t : Typing K) : Prop :=
  Run (Typing.step P cfg) (fun t _ => t.Counts) start presses t

/--
In every run, whatever is cut, refused, replayed, rebuilt from a snapshot or taken out of order, no byte
that is meant for the session is lost, repeated or overtaken between the keyboard and the pty.
-/
theorem keystrokes_conserved (seed : K) (agentStorage clientStorage : Bytes)
    (agentLimits clientLimits : SessionLimits) (now : Timestamp) {presses : List Press}
    (run : Types P cfg
      (create (.start seed agentStorage clientStorage agentLimits clientLimits now) agentLimits) presses t) :
    Conserved cfg t := by
  have hkept : Kept cfg t := by
    refine run.inv (Kept cfg) ?_ (.create ..)
    intro t press t' hkept counts hstep
    exact hkept.step counts hstep
  exact hkept.conserved

/-- An agent with room for two bytes, which refuses the third and the fourth until the next connection. -/
def sampleTyping : Typing Nat :=
  create (.start 0 (List.replicate 8 0) (List.replicate 8 0) { resendMax := 2, disconnectMax := 2 } {} 0)
    { resendMax := 2, disconnectMax := 2 }

/-- `~~`, a byte and a line, then `~.`; the shell is gone before the pty has taken the end of the line. -/
def samplePresses : List Press :=
  List.flatten [(sampleResume 0 0).map Press.net,
    [.agentFrame 0 0, .readStdin [tilde, tilde, 1], .feedStdin, .net (.clientIdle 0 1000 1000),
      .agentFrame 0 0, .readStdin [2, lf, tilde], .feedStdin, .net (.clientIdle 0 1000 1000),
      .agentFrame 0 0, .writePty 1, .writePty 1],
    (sampleResume 1 0).map Press.net,
    [.agentFrame 1 0, .net (.clientIdle 0 1000 1000), .agentFrame 1 0, .readStdin [dot], .writePty 1,
      .discardPtyInput]]

/-- Four keys are read and the client quits: three passed on, one dropped. -/
theorem keystrokes_conserved_sample : ∃ t, Types .counting sampleConfig sampleTyping samplePresses t ∧
    t.disposed = [(tilde, true), (1, true), (2, true), (lf, false)] ∧ t.escaped = true ∧
    Conserved sampleConfig t := by
  have hreach : ((exec (guarded (Typing.step .counting sampleConfig) fun t _ => t.Counts) sampleTyping
      samplePresses).any fun t => decide (t.disposed =
        [(tilde, true), (1, true), (2, true), (lf, false)] ∧ t.escaped = true)) = true := by
    decide +kernel
  obtain ⟨t, ht, hstate⟩ := (Option.any_eq_true _ _).mp hreach
  have run : Types .counting sampleConfig sampleTyping samplePresses t := Run.of_guarded ht
  obtain ⟨hdisposed, hescaped⟩ := of_decide_eq_true hstate
  exact ⟨t, run, hdisposed, hescaped, keystrokes_conserved 0 _ _ _ _ 0 run⟩

end Typing
end Zet.App
