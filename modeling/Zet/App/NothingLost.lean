import Zet.App.ClientLoop
import Zet.Net.ClientSide

/-!
# The client loses no byte it has received

What `stdout` has no room for is lost: the cursor has counted it, so the agent will not send it again. The
loop keeps that from happening by what it reads: `Safe` is its invariant. While no snapshot waits to be
confirmed, everything in the `FrameStream` that could still be delivered fits into the queue; while one
does, the agent sends nothing that could be (`LinkView.Quiet.unanswered`).

`Logged` is what the history then says of the terminal, and `nothing_lost` both at the end of a run.
-/

namespace Zet.App
open Zet.Core Zet.Wire Zet.Lib Zet.Session Zet.Net

/-- What was queued for the terminal, in order. -/
def queuedOf : List Entry → Bytes
  | [] => []
  | .output bytes :: log => bytes ++ queuedOf log
  | .snapshot _ bytes :: log => bytes ++ queuedOf log
  | .notice bytes :: log => bytes ++ queuedOf log
  | _ :: log => queuedOf log

/-- What the terminal took, in order. -/
def writtenOf : List Entry → Bytes
  | [] => []
  | .wrote bytes :: log => bytes ++ writtenOf log
  | _ :: log => writtenOf log

/-- The output that was queued behind the last snapshot. -/
def sinceSnapshot (log : List Entry) : Bytes :=
  log.foldl (fun got entry =>
    match entry with
    | .output bytes => got ++ bytes
    | .snapshot .. => []
    | _ => got) []

/-- The snapshots that were confirmed, the last one first. -/
def confirmedOf (log : List Entry) : List Nat :=
  log.foldl (fun gens entry => match entry with | .confirmed gen => gen :: gens | _ => gens) []

/-- What two logs queue, one after the other. -/
lemma queuedOf_append (log more : List Entry) : queuedOf (log ++ more) = queuedOf log ++ queuedOf more := by
  induction log with
  | nil => rfl
  | cons entry log ih => cases entry <;> simp [queuedOf, ih]

/-- What two logs write, one after the other. -/
lemma writtenOf_append (log more : List Entry) :
    writtenOf (log ++ more) = writtenOf log ++ writtenOf more := by
  induction log with
  | nil => rfl
  | cons entry log ih => cases entry <;> simp [writtenOf, ih]

/-- What the history says of the terminal, with `front` waiting, `got` what the cursor has counted and
`pending` a snapshot that is not confirmed. -/
structure Logged (log : List Entry) (front got : Bytes) (pending : Option Nat) : Prop where
  /-- The queue took everything. -/
  kept : ∀ bytes, .refused bytes ∉ log
  /-- The terminal took it from the front. -/
  written : queuedOf log = writtenOf log ++ front
  since : sinceSnapshot log = got
  shown : ∀ gen, pending = some gen → ∃ bytes, .snapshot gen bytes ∈ log
  /-- A snapshot is confirmed behind it, and with everything written. -/
  order : ∀ before gen after, log = before ++ .confirmed gen :: after →
    (∃ bytes, .snapshot gen bytes ∈ before) ∧ writtenOf before = queuedOf before

section
variable {log : List Entry} {front got : Bytes} {pending : Option Nat}

/-- A confirmation in a longer log is the last entry or an earlier one. -/
lemma confirmed_snoc {before after : List Entry} {entry : Entry} {gen : Nat}
    (h : log ++ [entry] = before ++ .confirmed gen :: after) :
    log = before ∧ entry = .confirmed gen ∨ ∃ after, log = before ++ .confirmed gen :: after := by
  rcases List.eq_nil_or_concat after with rfl | ⟨after, last, rfl⟩
  · obtain ⟨hlog, hlast⟩ := List.append_inj' h rfl
    exact .inl ⟨hlog, List.singleton_inj.mp hlast⟩
  · rw [List.concat_eq_append, ← List.cons_append, ← List.append_assoc] at h
    exact .inr ⟨after, (List.append_inj' h rfl).1⟩

/-- A new entry that confirms nothing. -/
lemma Logged.snoc (h : Logged log front got pending) {entry : Entry} {front' got' : Bytes}
    {pending' : Option Nat} (kept : ∀ bytes, entry ≠ .refused bytes)
    (unconfirmed : ∀ gen, entry ≠ .confirmed gen)
    (written : queuedOf log ++ queuedOf [entry] = writtenOf log ++ writtenOf [entry] ++ front')
    (since : sinceSnapshot (log ++ [entry]) = got')
    (shown : ∀ gen, pending' = some gen → pending = some gen ∨ ∃ bytes, entry = .snapshot gen bytes) :
    Logged (log ++ [entry]) front' got' pending' := by
  refine ⟨fun bytes hmem => ?_, ?_, since, fun gen hgen => ?_, fun before gen after hlog => ?_⟩
  · rcases List.mem_append.mp hmem with hmem | hmem
    · exact h.kept bytes hmem
    · exact kept bytes (List.mem_singleton.mp hmem).symm
  · rw [queuedOf_append, writtenOf_append]
    exact written
  · rcases shown gen hgen with hpending | ⟨bytes, rfl⟩
    · obtain ⟨bytes, hmem⟩ := h.shown gen hpending
      exact ⟨bytes, List.mem_append_left _ hmem⟩
    · exact ⟨bytes, List.mem_append_right _ List.mem_cons_self⟩
  · rcases confirmed_snoc hlog with ⟨-, hentry⟩ | ⟨after, hsplit⟩
    · exact absurd hentry (unconfirmed gen)
    · exact h.order before gen after hsplit

/-- One entry more since the last snapshot. -/
lemma sinceSnapshot_snoc (log : List Entry) (entry : Entry) :
    sinceSnapshot (log ++ [entry]) =
      match entry with
      | .output bytes => sinceSnapshot log ++ bytes
      | .snapshot .. => []
      | _ => sinceSnapshot log := by
  rw [sinceSnapshot, List.foldl_append]
  rfl

/-- Output is queued and counted. -/
lemma Logged.output (h : Logged log front got pending) (bytes : Bytes) :
    Logged (log ++ [.output bytes]) (front ++ bytes) (got ++ bytes) pending :=
  h.snoc (fun _ => nofun) (fun _ => nofun) (by simp [queuedOf, writtenOf, h.written])
    (by rw [sinceSnapshot_snoc, ← h.since]) fun _ hgen => .inl hgen

/-- A snapshot starts the count over and waits to be confirmed. -/
lemma Logged.snapshot (h : Logged log front got pending) (gen : Nat) (bytes : Bytes) :
    Logged (log ++ [.snapshot gen bytes]) (front ++ bytes) [] (some gen) := by
  refine h.snoc (fun _ => nofun) (fun _ => nofun) (by simp [queuedOf, writtenOf, h.written])
    (sinceSnapshot_snoc ..) ?_
  rintro gen ⟨⟩
  exact .inr ⟨bytes, rfl⟩

/-- A notice is queued and not counted. -/
lemma Logged.notice (h : Logged log front got pending) (bytes : Bytes) :
    Logged (log ++ [.notice bytes]) (front ++ bytes) got pending :=
  h.snoc (fun _ => nofun) (fun _ => nofun) (by simp [queuedOf, writtenOf, h.written])
    (by rw [sinceSnapshot_snoc, ← h.since]) fun _ hgen => .inl hgen

/-- What is written leaves the front of the queue. -/
lemma Logged.wrote (h : Logged log front got pending) (count : Nat) :
    Logged (log ++ [.wrote (front.take count)]) (front.drop count) got pending :=
  h.snoc (fun _ => nofun) (fun _ => nofun)
    (by simp [queuedOf, writtenOf, h.written]) (by rw [sinceSnapshot_snoc, ← h.since])
    fun _ hgen => .inl hgen

/-- The snapshot is confirmed once nothing is waiting. -/
lemma Logged.confirmed {gen : Nat} (h : Logged log [] got (some gen)) :
    Logged (log ++ [.confirmed gen]) [] got none := by
  refine ⟨fun bytes hmem => ?_, ?_, (sinceSnapshot_snoc ..).trans h.since, nofun,
    fun before gen' after hlog => ?_⟩
  · rcases List.mem_append.mp hmem with hmem | hmem
    · exact h.kept bytes hmem
    · cases List.mem_singleton.mp hmem
  · rw [queuedOf_append, writtenOf_append, h.written]
    simp [queuedOf, writtenOf]
  · rcases confirmed_snoc hlog with ⟨rfl, hentry⟩ | ⟨after, hsplit⟩
    · cases hentry
      exact ⟨h.shown gen rfl, by rw [h.written, List.append_nil]⟩
    · exact h.order before gen' after hsplit

/-- A snapshot that is forgotten is not confirmed. -/
lemma Logged.forget (h : Logged log front got pending) : Logged log front got none :=
  ⟨h.kept, h.written, h.since, nofun, h.order⟩

/-- One entry more confirmed, or not. -/
@[simp] lemma confirmedOf_snoc (log : List Entry) (entry : Entry) :
    confirmedOf (log ++ [entry]) =
      match entry with | .confirmed gen => gen :: confirmedOf log | _ => confirmedOf log := by
  rw [confirmedOf, List.foldl_append]
  rfl

end

section
variable {K : Type}

/-- What holds of the system whatever the client's loop does. -/
structure Sane (cfg : Config) (s : State K) : Prop where
  coherent : Coherent cfg s
  stored : (s.view cfg).Stored
  staged : (s.view cfg).Staged
  quiet : (s.view cfg).Quiet
  counted : (s.view cfg).Counted

variable {cfg : Config} {s s' : State K}

/-- Nothing is on its way to a client that has not resumed. -/
lemma Sane.silent (h : Sane cfg s) {i : Nat} (unresumed : (s.links i).client.channel = none) :
    (s.links i).toClient = [] := by
  have hgrid : ((s.view cfg).links i).clientGrid = none := by simp [State.view, Link.view, unresumed]
  have hsilent := (h.staged i).silent ((h.staged i).unresumed hgrid).2
  simpa [State.view, Link.view] using hsilent

/-- While a snapshot is to be answered for, nothing else comes. -/
lemma Sane.unanswered (h : Sane cfg s) {i : Nat}
    (pending : (s.links i).client.pendingApplyGen.isSome) {down : Downward K}
    (mem : down ∈ (s.links i).toClient) :
    segmentOf (.of cfg.version down.frame.body.plaintext) = none ∧
      Said.of cfg.version down.frame.body.plaintext ≠ .gridEnd :=
  (h.quiet i).unanswered pending (down.view cfg.version) (List.mem_map_of_mem mem)

/-- Setting the gate for sending sets both gates, one as it stood. -/
lemma setSendGate_gates (open_ : Bool) (now : Timestamp) (chan : Channel K) : ∃ sendOpen readOpen,
    chan.setSendGate open_ = (chan.setSendGate sendOpen).setReadGate readOpen now :=
  ⟨open_, !chan.readGateClosed, by simp [Channel.setReadGate, Channel.setSendGate]⟩

/-- So does setting the gate for reading. -/
lemma setReadGate_gates (open_ : Bool) (now : Timestamp) (chan : Channel K) : ∃ sendOpen readOpen,
    chan.setReadGate open_ now = (chan.setSendGate sendOpen).setReadGate readOpen now :=
  ⟨!chan.sendGateClosed, open_, by simp [Channel.setReadGate, Channel.setSendGate]⟩

variable [DecidableEq K] {P : KeySchedule K}

/-- A step of the network stays sane. -/
lemma Sane.step (h : Sane cfg s) {a : Net.Action} (hstep : s.step P cfg a = some s') : Sane cfg s' := by
  obtain ⟨⟨m, -, hmove⟩, hcoh⟩ := step_moves h.coherent h.stored hstep
  exact ⟨hcoh, h.stored.move hmove, h.staged.move hmove, h.quiet.move h.staged hmove,
    h.counted.move hmove⟩

/-- Setting one gate is setting both, the other as it was. -/
lemma Sane.onClientChannel (P : KeySchedule K) (h : Sane cfg s) {f : Channel K → Channel K}
    (now : Timestamp) (gates : ∀ chan, ∃ sendOpen readOpen,
      f chan = (chan.setSendGate sendOpen).setReadGate readOpen now) :
    Sane cfg (s.onClientChannel f) := by
  have hstep : ∃ sendOpen readOpen, s.step P cfg (.clientGates sendOpen readOpen now) =
      some (s.onClientChannel f) := by
    simp only [State.step, State.onClientChannel]
    cases s.current with
    | none => exact ⟨true, true, rfl⟩
    | some i =>
      dsimp only
      cases hchan : (s.links i).client.channel with
      | none => exact ⟨true, true, rfl⟩
      | some chan =>
        obtain ⟨sendOpen, readOpen, heq⟩ := gates chan
        exact ⟨sendOpen, readOpen, by rw [Option.map_some, Option.map_some, heq]⟩
  obtain ⟨sendOpen, readOpen, hstep⟩ := hstep
  exact h.step hstep

end

section
variable {K : Type} {o : Options} {c c' : Client K}

/-- The invariant of the client's loop, but for the room in the queue. -/
structure Held (o : Options) (c : Client K) : Prop where
  sane : Sane o.cfg c.net
  sound : ∀ i, (c.net.links i).Sound o.cfg.version (confirmedOf c.log)
  opened : c.up = true → ∃ i, c.net.current = some i
  pending : ∀ i, c.up = true → c.net.current = some i →
    (c.net.links i).client.pendingApplyGen = c.pendingSnapshot
  down : c.up = false → c.pendingSnapshot = none ∧ c.read = 0
  read : c.read ≤ headerSize + maxFrame
  wire : ∀ i, c.up = true → c.net.current = some i → c.read ≤ wireBytes (c.net.links i).toClient
  limit : c.stdout.limit = stdoutQueueMax
  logged : Logged c.log c.stdout.front c.net.clientGot c.pendingSnapshot

/-- The invariant of the client's loop: a frame that is whole can be delivered, and so can what the
`FrameStream` holds behind it. -/
structure Safe (o : Options) (c : Client K) : Prop extends Held o c where
  room : c.finishing = false → c.pendingSnapshot = none → c.arrived.isSome →
    c.stdout.size + c.read ≤ stdoutQueueMax

/-- More frames are more bytes. -/
lemma wireBytes_mono {frames more : List (Downward K)} (h : frames <+: more) :
    wireBytes frames ≤ wireBytes more := by
  obtain ⟨rest, rfl⟩ := h
  simp [wireBytes]

/-- A frame has bytes. -/
lemma frameSize_pos (f : FrameView K) : 0 < frameSize f := by
  rw [frameSize, headerSize]
  omega

/-- A client that is up is on the current link. -/
lemma connection_some {i : Nat} {l : Link K} :
    c.connection = some (i, l) ↔ c.up = true ∧ c.net.current = some i ∧ l = c.net.links i := by
  unfold Client.connection
  cases c.up with
  | false => simp
  | true =>
    simp only [if_true, Option.map_eq_some_iff, Prod.mk.injEq, true_and]
    constructor
    · rintro ⟨j, hj, rfl, rfl⟩
      exact ⟨hj, rfl⟩
    · rintro ⟨hj, rfl⟩
      exact ⟨i, hj, rfl, rfl⟩

/-- A whole frame is the first on its way. -/
lemma arrived_some {down : Downward K} : c.arrived = some down ↔ ∃ i rest, c.up = true ∧
    c.net.current = some i ∧ (c.net.links i).toClient = down :: rest ∧ frameSize down.frame ≤ c.read := by
  unfold Client.arrived
  simp only [Option.bind_eq_some_iff, Option.filter_eq_some_iff, List.head?_eq_some_iff,
    decide_eq_true_eq]
  constructor
  · rintro ⟨⟨i, l⟩, hconn, ⟨rest, hrest⟩, hsize⟩
    obtain ⟨hup, hcur, rfl⟩ := connection_some.mp hconn
    exact ⟨i, rest, hup, hcur, hrest, hsize⟩
  · rintro ⟨i, rest, hup, hcur, hrest, hsize⟩
    exact ⟨(i, _), connection_some.mpr ⟨hup, hcur, rfl⟩, ⟨rest, hrest⟩, hsize⟩

/-- What was announced or ended is no matter. -/
lemma Safe.flags (h : Safe o c) (announced fatal : Bool) (ended : Option SessionEndMessage) :
    Safe o { c with announced := announced, fatal := fatal, ended := ended } :=
  ⟨⟨h.sane, h.sound, h.opened, h.pending, h.down, h.read, h.wire, h.limit, h.logged⟩, h.room⟩

/-- Which link is current depends only on how many were opened. -/
lemma current_of_opened {s s' : State K} (h : s'.opened = s.opened) : s'.current = s.current := by
  rw [State.current, State.current, h]

/-- What is whole after a step that hands the loop nothing was whole before: bytes are read, and not yet
whole, only of frames on their way. -/
lemma Held.arrived_beside (h : Held o c) {net : State K} (beside : Beside o.cfg.version c.net net)
    (arrived : ({ c with net := net } : Client K).arrived.isSome) : c.arrived.isSome := by
  have hcur := current_of_opened beside.opened
  obtain ⟨down, harr⟩ := Option.isSome_iff_exists.mp arrived
  obtain ⟨i, rest, hup, hi, hrest, hsize⟩ := arrived_some.mp harr
  obtain ⟨more, hmore⟩ := beside.toClient i
  have hwire := h.wire i hup (hcur ▸ hi)
  rw [hrest] at hmore
  cases hfront : (c.net.links i).toClient with
  | nil =>
    rw [hfront] at hwire
    have hread : c.read = 0 := Nat.le_zero.mp hwire
    have hsize : frameSize down.frame ≤ c.read := hsize
    have := frameSize_pos down.frame
    omega
  | cons first others =>
    rw [hfront] at hmore
    obtain ⟨rfl, -⟩ := List.cons.inj hmore
    exact Option.isSome_iff_exists.mpr ⟨first, arrived_some.mpr
      ⟨i, others, hup, hcur ▸ hi, hfront, hsize⟩⟩

/-- A step of the system that hands the loop nothing. -/
lemma Safe.beside (h : Safe o c) {net : State K} (sane : Sane o.cfg net)
    (beside : Beside o.cfg.version c.net net) : Safe o { c with net := net } := by
  have hcur := current_of_opened beside.opened
  refine ⟨⟨sane, fun i => beside.sound i _ (h.sound i), fun hup => ?_, fun i hup hi => ?_, h.down,
    h.read, fun i hup hi => ?_, h.limit, ?_⟩,
    fun hfin hpend harr => h.room hfin hpend (h.arrived_beside beside harr)⟩
  · rw [hcur]
    exact h.opened hup
  · rw [beside.pending]
    exact h.pending i hup (hcur ▸ hi)
  · exact (h.wire i hup (hcur ▸ hi)).trans (wireBytes_mono (beside.toClient i))
  · rw [beside.got]
    exact h.logged

/-- A notice is queued whole, or not at all. -/
lemma notice_cases (o : Options) (text : Bytes) (c : Client K) : c.notice o text = c ∨
    ∃ stdout, c.notice o text = { c with stdout := stdout, log := c.log ++ [.notice text] } ∧
      stdout.front = c.stdout.front ++ text ∧ stdout.limit = c.stdout.limit ∧
      stdout.size = c.stdout.size + text.length := by
  unfold Client.notice
  split
  · exact .inl rfl
  · split
    · next stdout happend => exact .inr ⟨stdout, rfl, ByteQueue.appendTo_some happend⟩
    · exact .inl rfl

/-- A notice keeps a client as it should be and queues no more than its text. -/
lemma Held.notice (h : Held o c) (text : Bytes) : Held o (c.notice o text) ∧
    (c.notice o text).stdout.size ≤ c.stdout.size + text.length := by
  rcases notice_cases o text c with heq | ⟨stdout, heq, hfront, hlimit, hsize⟩
  · rw [heq]
    exact ⟨h, Nat.le_add_right _ _⟩
  · rw [heq]
    refine ⟨⟨h.sane, fun i => ?_, h.opened, h.pending, h.down, h.read, h.wire, hlimit.trans h.limit, ?_⟩,
      hsize.le⟩
    · rw [confirmedOf_snoc]
      exact h.sound i
    · rw [hfront]
      exact h.logged.notice text

/-- A notice touches the queue alone. -/
lemma notice_rest (o : Options) (text : Bytes) (c : Client K) :
    (c.notice o text).net = c.net ∧ (c.notice o text).up = c.up ∧ (c.notice o text).read = c.read ∧
      (c.notice o text).pendingSnapshot = c.pendingSnapshot ∧
      (c.notice o text).finishing = c.finishing := by
  rcases notice_cases o text c with heq | ⟨stdout, heq, -⟩ <;> rw [heq] <;> exact ⟨rfl, rfl, rfl, rfl, rfl⟩

/-- A notice leaves what has arrived as it was. -/
lemma notice_arrived (o : Options) (text : Bytes) (c : Client K) :
    (c.notice o text).arrived = c.arrived := by
  obtain ⟨hnet, hup, hread, -, -⟩ := notice_rest o text c
  rw [Client.arrived, Client.arrived, Client.connection, Client.connection, hnet, hup, hread]

section
variable [DecidableEq K]

/-- Without a connection nothing is left that could not be delivered. -/
lemma Held.drop (P : KeySchedule K) (h : Held o c) (now : Timestamp) : Safe o (c.drop o now) := by
  have hangUp : ∀ {c : Client K}, Held o c → Safe o { c with
      pendingSnapshot := none
      net := if c.up then c.net.dropClient now else c.net
      up := false
      read := 0 } := by
    intro c h
    have hstep : c.net.step P o.cfg (.clientClose now) = some (c.net.dropClient now) := rfl
    have hbeside := beside_dropClient o.cfg.version c.net now
    have hgot : (if c.up then c.net.dropClient now else c.net).clientGot = c.net.clientGot := by
      split
      · exact hbeside.got
      · rfl
    refine ⟨⟨?_, ?_, nofun, nofun, fun _ => ⟨rfl, rfl⟩, Nat.zero_le _, nofun, h.limit, ?_⟩, ?_⟩
    · dsimp only
      split
      · exact h.sane.step hstep
      · exact h.sane
    · intro i
      dsimp only
      split
      · exact hbeside.sound i _ (h.sound i)
      · exact h.sound i
    · dsimp only
      rw [hgot]
      exact h.logged.forget
    · rintro - - harr
      simp [Client.arrived, Client.connection] at harr
  unfold Client.drop
  dsimp only
  split
  · obtain ⟨hheld, -⟩ := h.notice lostNotice
    exact (hangUp hheld).flags _ _ _
  · exact hangUp h

variable {P : KeySchedule K}

/-- A turn that hands the loop nothing. -/
lemma Safe.pumped (h : Safe o c) {now : Timestamp} {res : Except SessionError (ConnectionEvent K)}
    (nothing : HandsNothing res) (hstep : c.pumped P o now res = some c') : Safe o c' := by
  cases res with
  | error e =>
    cases hstep
    exact (h.flags c.announced _ c.ended).toHeld.drop P now
  | ok event =>
    cases event with
    | deliver | applySnapshot => exact nothing.elim
    | ended | sessionOverflowed =>
      cases hstep
      exact h.flags _ _ _
    | _ =>
      cases hstep
      exact h

omit [DecidableEq K] in
/-- Regaining the network is safe once all that arrived is queued. -/
lemma Safe.regain (h : Safe o c) (idle : c.arrived = none) : Safe o (c.regain o) := by
  unfold Client.regain
  split
  · obtain ⟨hheld, -⟩ := h.toHeld.notice regainedNotice
    refine Safe.flags ⟨hheld, fun _ _ harr => ?_⟩ _ _ _
    rw [notice_arrived, idle] at harr
    cases harr
  · exact h

/-- A turn that takes a frame: what it delivers has room in the queue. -/
lemma Safe.frame (h : Safe o c) {now : Timestamp} {i : Nat} {l : Link K} {down : Downward K}
    {net : State K} (working : c.finishing = false) (conn : c.connection = some (i, l))
    (arrived : c.arrived = some down) (hnet : c.net.step P o.cfg (.clientFrame now) = some net)
    (hstep : ({ c with net := net, read := c.read - frameSize down.frame } : Client K).pumped P o now
      (l.client.onFrame P c.net.client now down.frame).1 = some c') : Safe o c' := by
  obtain ⟨j, rest, hup, hj, hfront, hsize⟩ := arrived_some.mp arrived
  obtain ⟨-, hi, rfl⟩ := connection_some.mp conn
  obtain rfl := Option.some.inj (hi.symm.trans hj)
  obtain ⟨hopened, hrest, hsound, handed⟩ := step_clientFrame_handed hi hfront hnet h.sound
  have hcur := current_of_opened hopened
  have hsane := h.sane.step hnet
  have htight : down.frame.body.plaintext.length ≤ frameSize down.frame :=
    ((h.sound i).tight down (by rw [hfront]; exact List.mem_cons_self)).trans (Nat.le_add_left _ _)
  have hwire : c.read - frameSize down.frame ≤ wireBytes rest := by
    have := h.wire i hup hi
    rw [hfront] at this
    have hsum : wireBytes (down :: rest) = frameSize down.frame + wireBytes rest := rfl
    omega
  -- a frame that says anything of the output comes only while nothing is to be confirmed
  have hroom : (segmentOf (.of o.cfg.version down.frame.body.plaintext)).isSome ∨
      Said.of o.cfg.version down.frame.body.plaintext = .gridEnd →
      c.pendingSnapshot = none ∧ c.stdout.size + c.read ≤ stdoutQueueMax := by
    intro hsaid
    have hnone : c.pendingSnapshot = none := by
      by_contra hsome
      rw [← h.pending i hup hi] at hsome
      obtain ⟨hdata, hend⟩ := h.sane.unanswered (Option.isSome_iff_ne_none.mpr hsome)
        (by rw [hfront]; exact List.mem_cons_self : down ∈ _)
      rcases hsaid with hsaid | hsaid
      · rw [hdata] at hsaid
        cases hsaid
      · exact hend hsaid
    exact ⟨hnone, h.room working hnone (by rw [arrived]; rfl)⟩
  have hopen : c.up = true → ∃ i, net.current = some i := fun _ => ⟨i, hcur.trans hi⟩
  have hwires : ∀ k, c.up = true → net.current = some k →
      c.read - frameSize down.frame ≤ wireBytes (net.links k).toClient := by
    intro k _ hk
    obtain rfl := Option.some.inj (hi.symm.trans (hcur ▸ hk))
    rw [hrest]
    exact hwire
  have hpendings : ∀ {pending : Option Nat}, (net.links i).client.pendingApplyGen = pending →
      ∀ k, c.up = true → net.current = some k → (net.links k).client.pendingApplyGen = pending := by
    intro pending hpending k _ hk
    obtain rfl := Option.some.inj (hi.symm.trans (hcur ▸ hk))
    exact hpending
  have hread : c.read - frameSize down.frame ≤ headerSize + maxFrame := (Nat.sub_le _ _).trans h.read
  have hdown : ∀ {p : Prop}, c.up = false → p := fun hdown => (by rw [hup] at hdown; cases hdown)
  generalize hres : ((c.net.links i).client.onFrame P c.net.client now down.frame).1 = res
    at handed hstep
  generalize hgot : net.clientGot = got at handed
  generalize hpend : (net.links i).client.pendingApplyGen = pending at handed
  cases handed with
  | nothing hnothing =>
    have hpend := hpend.trans (h.pending i hup hi)
    have hsafe : Safe o { c with net := net, read := c.read - frameSize down.frame } := by
      refine ⟨⟨hsane, hsound, hopen, hpendings hpend, hdown, hread, hwires, h.limit, ?_⟩, ?_⟩
      · dsimp only
        rw [hgot]
        exact h.logged
      · intro _ hnone _
        have := h.room working hnone (by rw [arrived]; rfl)
        dsimp only
        omega
    exact hsafe.pumped hnothing hstep
  | bytes bytes length data =>
    have hpend := hpend.trans (h.pending i hup hi)
    obtain ⟨hnone, hfits⟩ := hroom (.inl data)
    obtain ⟨stdout, happend, hfrontq, hlimit⟩ := ByteQueue.appendTo_eq_some
      (by rw [h.limit]; omega : c.stdout.size + bytes.length ≤ c.stdout.limit)
    have hsizeq := (ByteQueue.appendTo_some happend).2.2
    simp only [Client.pumped, ByteQueue.append, happend] at hstep
    cases hstep
    refine ⟨⟨hsane, fun k => ?_, hopen, hpendings hpend, hdown, hread, hwires, hlimit.trans h.limit, ?_⟩,
      fun _ _ _ => ?_⟩
    · rw [confirmedOf_snoc]
      exact hsound k
    · dsimp only
      rw [hgot, hfrontq]
      exact h.logged.output bytes
    · dsimp only
      omega
  | snapshot bytes gen scrollbackLen flags length gridEnd =>
    obtain ⟨hnone, hfits⟩ := hroom (.inr gridEnd)
    obtain ⟨stdout, happend, hfrontq, hlimit⟩ := ByteQueue.appendTo_eq_some
      (by rw [stdoutSnapshotCeiling]; omega : c.stdout.size + bytes.length ≤ stdoutSnapshotCeiling)
    simp only [Client.pumped, happend] at hstep
    cases hstep
    refine ⟨⟨hsane, fun k => ?_, hopen, hpendings hpend, hdown, hread, hwires,
      hlimit.trans h.limit, ?_⟩, fun _ hpending _ => (by cases hpending)⟩
    · rw [confirmedOf_snoc]
      exact hsound k
    · dsimp only
      rw [hgot, hfrontq]
      exact h.logged.snapshot gen bytes

omit [DecidableEq K] in
/-- The terminal takes bytes off the front. -/
lemma Safe.written (h : Safe o c) (count : Nat) : Safe o { c with
    stdout := c.stdout.consume count
    log := c.log ++ [.wrote (c.stdout.front.take count)] } := by
  refine ⟨⟨h.sane, fun i => ?_, h.opened, h.pending, h.down, h.read, h.wire, ?_, ?_⟩,
    fun hfin hpend harr => ?_⟩
  · rw [confirmedOf_snoc]
    exact h.sound i
  · rw [ByteQueue.limit_consume]
    exact h.limit
  · rw [ByteQueue.front_consume]
    exact h.logged.wrote count
  · have := h.room hfin hpend harr
    dsimp only
    rw [ByteQueue.size_consume]
    omega

omit [DecidableEq K] in
/-- Forgetting the snapshot that waits commutes with a notice. -/
lemma notice_forget (o : Options) (text : Bytes) (c : Client K) :
    { c.notice o text with pendingSnapshot := none } =
      ({ c with pendingSnapshot := none } : Client K).notice o text := by
  unfold Client.notice
  split
  · rfl
  · dsimp only
    split <;> rfl

omit [DecidableEq K] in
/-- `Finish` delivers nothing any more. -/
lemma Held.finishing (h : Held o c) : Safe o { c with finishing := true } :=
  ⟨⟨h.sane, h.sound, h.opened, h.pending, h.down, h.read, h.wire, h.limit, h.logged⟩, nofun⟩

/-- The snapshot is confirmed once the queue is empty. -/
lemma Safe.confirmWritten (h : Safe o c) (empty : c.stdout.size = 0)
    (hstep : c.confirmWritten P o = some c') : Safe o c' := by
  unfold Client.confirmWritten at hstep
  split at hstep
  · next gen conn hgen hconn =>
    obtain ⟨i, l⟩ := conn
    obtain ⟨hup, hi, rfl⟩ := connection_some.mp hconn
    simp only [Option.bind_eq_bind, Option.bind_eq_some_iff, Option.some.injEq] at hstep
    obtain ⟨net, hnet, rfl⟩ := hstep
    obtain ⟨hopened, hgot, hpending, htoClient, hsound⟩ :=
      step_confirmApply hi ((h.pending _ hup hi).trans hgen) hnet
    have hcur := current_of_opened hopened
    have hfront : c.stdout.front = [] := List.eq_nil_of_length_eq_zero (by rw [ByteQueue.length_front, empty])
    have hlogged := h.logged
    rw [hfront, hgen] at hlogged
    have hheld : Held o { c with
        net := net, log := c.log ++ [.confirmed gen], pendingSnapshot := none } := by
      refine ⟨h.sane.step hnet, fun j => ?_, fun _ => ⟨_, hcur.trans hi⟩, fun k _ hk => ?_,
        fun hdown => ⟨rfl, (h.down hdown).2⟩, h.read, fun k _ hk => ?_, h.limit, ?_⟩
      · rw [confirmedOf_snoc]
        exact hsound j _ (h.sound j)
      · obtain rfl := Option.some.inj (hi.symm.trans (hcur ▸ hk))
        exact hpending
      · obtain rfl := Option.some.inj (hi.symm.trans (hcur ▸ hk))
        rw [htoClient]
        exact h.wire _ hup hi
      · dsimp only
        rw [hgot, hfront]
        exact hlogged.confirmed
    obtain ⟨hrestored, hsize⟩ := hheld.notice snapshotRestoreNotice
    obtain ⟨hdiverged, hsize'⟩ := hrestored.notice snapshotDivergedNotice
    have hlengths : snapshotRestoreNotice.length + snapshotDivergedNotice.length +
        (headerSize + maxFrame) ≤ stdoutQueueMax := by decide
    have hread : ∀ {d : Client K}, d.read = c.read → d.stdout.size ≤
        snapshotRestoreNotice.length + snapshotDivergedNotice.length →
        d.stdout.size + d.read ≤ stdoutQueueMax := by
      intro d hd hsize
      have := h.read
      omega
    dsimp only at hsize hsize'
    split
    · rw [notice_forget, notice_forget]
      dsimp only
      refine ⟨hdiverged, fun _ _ _ => hread ?_ (by omega)⟩
      rw [(notice_rest ..).2.2.1, (notice_rest ..).2.2.1]
    · rw [notice_forget]
      dsimp only
      refine ⟨hrestored, fun _ _ _ => hread ?_ (by omega)⟩
      rw [(notice_rest ..).2.2.1]
  · cases hstep
    exact h

omit [DecidableEq K] in
/-- The gate lets bytes in only while all of them have room in the queue. -/
lemma Safe.readSocket (h : Safe o c) {count i : Nat} {l : Link K} (conn : c.connection = some (i, l))
    (positive : 0 < count) (fits : count ≤ min c.readRoom socketReadChunk) (gate : c.stalled = false)
    (there : c.read + count ≤ wireBytes l.toClient) : Safe o { c with read := c.read + count } := by
  obtain ⟨hup, hi, rfl⟩ := connection_some.mp conn
  -- only a live connection has anything to be read
  have hlive : c.isLive = true := by
    by_contra hdead
    have hnone : (c.net.links i).client.channel = none := by
      simpa [Client.isLive, conn] using hdead
    rw [h.sane.silent hnone] at there
    have : c.read + count ≤ 0 := there
    omega
  have hcapacity : c.readCapacity = headerSize + maxFrame := by
    rw [Client.readCapacity, if_pos hlive]
  have hroom : headerSize + maxFrame ≤ c.stdout.room := by
    simpa [Client.stalled, hlive, hcapacity] using gate
  have hread : c.read + count ≤ headerSize + maxFrame := by
    have := fits.trans (Nat.min_le_left _ _)
    rw [Client.readRoom, hcapacity] at this
    have := h.read
    omega
  refine ⟨⟨h.sane, h.sound, h.opened, h.pending, fun hdown => ?_, hread, fun k _ hk => ?_, h.limit,
    h.logged⟩,
    fun _ _ _ => ?_⟩
  · rw [hup] at hdown
    cases hdown
  · obtain rfl := Option.some.inj (hi.symm.trans hk)
    exact there
  · rw [ByteQueue.room, h.limit] at hroom
    dsimp only
    split at hroom
    · omega
    · rw [headerSize] at hroom
      omega

/-- Setting the gate for sending is safe. -/
lemma Safe.setSendGate (P : KeySchedule K) (h : Safe o c) (open_ : Bool) : Safe o (c.setSendGate open_) :=
  h.beside (h.sane.onClientChannel P 0 (setSendGate_gates open_ 0))
    (beside_onClientChannel _ _ fun _ => rfl)

/-- The client opens a connection on which nothing has come yet. -/
lemma Safe.finishConnecting (h : Safe o c) (down : c.up = false) {clientNonce serverNonce : Nat}
    {snapshotBuf : Bytes} {now : Timestamp} {net : State K}
    (hnet : c.net.step P o.cfg (.clientOpen clientNonce serverNonce snapshotBuf now) = some net) :
    Safe o { c with net := net, up := true } := by
  obtain ⟨hpending, hread⟩ := h.down down
  obtain ⟨i, hi, hgot, hsilent, hnone, hsound⟩ := step_clientOpen hnet
  refine ⟨⟨h.sane.step hnet, fun j => hsound j _ (h.sound j), fun _ => ⟨i, hi⟩, fun k _ hk => ?_, nofun,
    h.read, fun k _ _ => ?_, h.limit, ?_⟩, fun _ _ harr => ?_⟩
  · obtain rfl := Option.some.inj (hi.symm.trans hk)
    exact hnone.trans hpending.symm
  · exact hread.trans_le (Nat.zero_le _)
  · dsimp only
    rw [hgot]
    exact h.logged
  · obtain ⟨d, harr⟩ := Option.isSome_iff_exists.mp harr
    obtain ⟨k, rest, -, hk, hrest, -⟩ := arrived_some.mp harr
    obtain rfl := Option.some.inj (hi.symm.trans hk)
    rw [hsilent] at hrest
    cases hrest

/-- Every step of the loop, and of the rest of the system, keeps the invariant. -/
theorem Safe.step (h : Safe o c) {a : Action} (hstep : c.step P o a = some c') : Safe o c' := by
  cases a with
  | agent a =>
    simp only [Client.step, Option.bind_eq_bind, Option.bind_eq_some_iff, Option.guard_eq_some'] at hstep
    obtain ⟨-, hagent, net, hnet, hstep⟩ := hstep
    cases hstep
    exact h.beside (h.sane.step hnet) (beside_of_agent hagent hnet)
  | writeStdout count =>
    simp only [Client.step, Option.bind_eq_bind, Option.bind_eq_some_iff, Option.guard_eq_some'] at hstep
    obtain ⟨-, -, hstep⟩ := hstep
    split at hstep
    · next hempty => exact (h.written count).confirmWritten hempty hstep
    · cases hstep
      exact h.written count
  | finish =>
    simp only [Client.step, Option.bind_eq_bind, Option.bind_eq_some_iff, Option.guard_eq_some'] at hstep
    obtain ⟨-, -, hstep⟩ := hstep
    cases hstep
    split
    · obtain ⟨hheld, -⟩ := h.toHeld.notice overflowNotice
      exact hheld.finishing
    · exact h.toHeld.finishing
  | feedStdin bytes =>
    simp only [Client.step, Option.bind_eq_bind, Option.bind_eq_some_iff, Option.guard_eq_some'] at hstep
    obtain ⟨-, -, -, -, net, hnet, hstep⟩ := hstep
    cases hstep
    exact h.beside (h.sane.step hnet) (beside_clientWrite hnet)
  | finishConnecting clientNonce serverNonce snapshotBuf size now =>
    simp only [Client.step, Option.bind_eq_bind, Option.bind_eq_some_iff, Option.guard_eq_some'] at hstep
    obtain ⟨-, -, -, -, -, hdown, net, hnet, hstep⟩ := hstep
    have hsafe := h.finishConnecting (by simpa using hdown) hnet
    cases size with
    | none =>
      cases hstep
      exact hsafe
    | some size =>
      obtain ⟨net', hsize, hstep⟩ := Option.bind_eq_some_iff.mp hstep
      cases hstep
      exact hsafe.beside (hsafe.sane.step hsize) (beside_queueResize hsize)
  | pumpResume sendOpen now =>
    simp only [Client.step, Option.bind_eq_bind, Option.bind_eq_some_iff, Option.guard_eq_some'] at hstep
    obtain ⟨-, -, -, -, ⟨i, l⟩, hconn, offset, hoffset, net, hnet, hstep⟩ := hstep
    have hgated := h.setSendGate P sendOpen
    -- sending the Resume hands the loop no output
    obtain ⟨-, hi, rfl⟩ := connection_some.mp hconn
    obtain ⟨hbeside, j, offset', hj, hoffset', hnothing⟩ := beside_sendResume hnet
    obtain rfl := Option.some.inj (hi.symm.trans hj)
    obtain rfl := Option.some.inj (hoffset.symm.trans hoffset')
    exact (hgated.beside (hgated.sane.step hnet) hbeside).pumped hnothing hstep
  | pumpFrame sendOpen now =>
    simp only [Client.step, Option.bind_eq_bind, Option.bind_eq_some_iff, Option.guard_eq_some'] at hstep
    obtain ⟨-, hworking, -, -, ⟨i, l⟩, hconn, down, harrived, net, hnet, hstep⟩ := hstep
    have hworking : c.finishing = false := by simpa using hworking
    exact (h.setSendGate P sendOpen).frame hworking hconn harrived hnet hstep
  | pumpIdle sendOpen now =>
    simp only [Client.step, Option.bind_eq_bind, Option.bind_eq_some_iff, Option.guard_eq_some'] at hstep
    obtain ⟨-, -, -, -, ⟨i, l⟩, hconn, -, harrived, net, hnet, d, hpumped, hstep⟩ := hstep
    have hgated := h.setSendGate P sendOpen
    -- neither does the idle step, so it may go on reading
    obtain ⟨-, hi, rfl⟩ := connection_some.mp hconn
    obtain ⟨hbeside, j, hj, hnothing⟩ := beside_clientIdle hgated.sane.stored hnet
    obtain rfl := Option.some.inj (hi.symm.trans hj)
    have hbare := hgated.beside (hgated.sane.step hnet) hbeside
    have hsafe := hbare.pumped hnothing hpumped
    split at hstep
    · next hidle =>
      cases hstep
      rw [hidle] at hpumped
      cases hpumped
      refine hsafe.regain (Option.not_isSome_iff_eq_none.mp fun harr => ?_)
      -- nothing has arrived that was not taken
      have := hgated.toHeld.arrived_beside hbeside harr
      simp [Option.isNone_iff_eq_none.mp harrived] at this
    · cases hstep
      exact hsafe
  | updateInterest now =>
    simp only [Client.step, Option.bind_eq_bind, Option.bind_eq_some_iff, Option.guard_eq_some'] at hstep
    obtain ⟨-, -, -, -, -, -, hstep⟩ := hstep
    cases hstep
    exact h.beside (h.sane.onClientChannel P now (setReadGate_gates _ now))
      (beside_onClientChannel _ _ fun _ => rfl)
  | readSocket count =>
    simp only [Client.step, Option.bind_eq_bind, Option.bind_eq_some_iff, Option.guard_eq_some'] at hstep
    obtain ⟨-, -, -, -, ⟨i, l⟩, hconn, -, ⟨hpos, hfits, hgate⟩, -, hthere, hstep⟩ := hstep
    cases hstep
    exact h.readSocket hconn hpos hfits (by simpa using hgate) hthere
  | terminalGone =>
    simp only [Client.step, Option.bind_eq_bind, Option.bind_eq_some_iff, Option.guard_eq_some'] at hstep
    obtain ⟨-, -, -, -, hstep⟩ := hstep
    cases hstep
    exact h.flags _ _ _
  | resize size =>
    simp only [Client.step, Option.bind_eq_bind, Option.bind_eq_some_iff, Option.guard_eq_some'] at hstep
    obtain ⟨-, -, -, -, -, -, net, hnet, hstep⟩ := hstep
    cases hstep
    exact h.beside (h.sane.step hnet) (beside_queueResize hnet)
  | drop now =>
    simp only [Client.step, Option.bind_eq_bind, Option.bind_eq_some_iff, Option.guard_eq_some'] at hstep
    obtain ⟨-, -, -, -, hstep⟩ := hstep
    cases hstep
    exact h.toHeld.drop P now

end

/-- A generation confirmed is an entry of the log. -/
lemma mem_confirmedOf {log : List Entry} {gen : Nat} (h : gen ∈ confirmedOf log) : .confirmed gen ∈ log := by
  induction log using List.reverseRecOn with
  | nil => cases h
  | append_singleton log entry ih =>
    rw [confirmedOf_snoc] at h
    cases entry with
    | confirmed other =>
      rcases List.mem_cons.mp h with rfl | h
      · exact List.mem_append_right _ List.mem_cons_self
      · exact List.mem_append_left _ (ih h)
    | _ => exact List.mem_append_left _ (ih h)

/-- The start is sane. -/
lemma Sane.start (cfg : Config) (seed : K) (agentStorage clientStorage : Bytes)
    (agentLimits clientLimits : SessionLimits) (now : Timestamp) :
    Sane cfg (.start seed agentStorage clientStorage agentLimits clientLimits now) := by
  refine ⟨.start .., stored_start .., fun _ => ?_, fun _ => ?_, rfl⟩
  · exact ⟨fun _ => ⟨rfl, rfl⟩, fun _ => rfl, fun _ => rfl, fun _ => rfl⟩
  · refine ⟨fun g hg => ?_, fun g hg => ?_, fun hw => ?_, fun g hg => ?_, Nat.zero_le _, fun hone => ?_,
      fun _ => ⟨rfl, fun u hu => ?_, fun g hg => ?_⟩⟩
    · cases hg
    · cases hg
    · cases hw
    · cases hg
    · cases hone
    · cases hu
    · cases hg

/-- The start is safe. -/
lemma Safe.start (o : Options) (seed : K) (agentStorage clientStorage : Bytes)
    (agentLimits clientLimits : SessionLimits) (now : Timestamp) :
    Safe o (Client.start seed agentStorage clientStorage agentLimits clientLimits now) := by
  refine ⟨⟨.start .., fun i => ?_, nofun, nofun, fun _ => ⟨rfl, rfl⟩, Nat.zero_le _, nofun, rfl, ?_⟩,
    fun _ _ harr => ?_⟩
  · exact ⟨fun d hd => (by cases hd), fun chan hchan => (by cases hchan), fun u hu => (by cases hu),
      fun chan hchan => (by cases hchan)⟩
  · refine ⟨fun bytes hmem => (by cases hmem), rfl, rfl, fun gen hgen => (by cases hgen), ?_⟩
    intro before gen after hlog
    cases before <;> cases hlog
  · cases harr

end

/-- In every run of the client's loop, against an agent that does anything an agent does, the queue takes
all that the cursor has counted, in order and none of it twice; and a snapshot is confirmed, and the
agent told, only once it and all that was queued before it have been written. -/
theorem nothing_lost {K : Type} [DecidableEq K] (P : KeySchedule K) (o : Options) (seed : K)
    (agentStorage clientStorage : Bytes) (agentLimits clientLimits : SessionLimits) (now : Timestamp)
    {as : List Action} {c : Client K} (run : Run (Client.step P o) Anywhere
      (Client.start seed agentStorage clientStorage agentLimits clientLimits now) as c) :
    (∀ bytes, .refused bytes ∉ c.log) ∧
      (sinceSnapshot c.log).length = c.net.client.streams.input.recvOffset ∧
      queuedOf c.log = writtenOf c.log ++ c.stdout.front ∧
      (∀ before gen after, c.log = before ++ .confirmed gen :: after →
        (∃ bytes, .snapshot gen bytes ∈ before) ∧ writtenOf before = queuedOf before) ∧
      ∀ i, ∀ up ∈ (c.net.links i).toAgent, ∀ g,
        Said.of o.cfg.version up.frame.body.plaintext = .gridApplied g →
        ∃ gen, .confirmed gen ∈ c.log ∧ g = gen % 256 ^ 4 := by
  have hsafe := run.inv (Safe o) (fun _ _ _ h _ hstep => h.step hstep)
    (.start o seed agentStorage clientStorage agentLimits clientLimits now)
  refine ⟨hsafe.logged.kept, ?_, hsafe.logged.written, hsafe.logged.order, fun i up hup g hsaid => ?_⟩
  · rw [hsafe.logged.since]
    exact hsafe.sane.counted
  · obtain ⟨gen, hgen, heq⟩ := (hsafe.sound i).sent up hup g hsaid
    exact ⟨gen, mem_confirmedOf hgen, heq⟩

section Sample

/-- One byte reaches the terminal, the connection is cut while the ring overflows, and a snapshot takes the
place of what is missing. -/
def snapshotRun : List Action :=
  [.finishConnecting 0 0 [0, 0] none 0, .agent (.route 0 0), .agent (.completeHandshake 0),
    .pumpResume true 0, .agent (.agentFrame 0 0), .agent (.agentWrite [1]),
    .agent (.agentIdle 0 0 1000 1000), .updateInterest 0, .readSocket 39, .pumpFrame true 0,
    .writeStdout 1, .drop 0, .agent (.agentClose 0 0), .agent (.agentWrite (List.replicate 9 2)),
    .finishConnecting 1 1 [0, 0] none 0, .agent (.route 1 0), .agent (.completeHandshake 1),
    .pumpResume true 0, .agent (.agentFrame 1 0), .agent (.supplySnapshot 1 0 [7, 7] 0 0),
    .agent (.agentIdle 1 0 1000 1000), .agent (.agentIdle 1 0 1000 1000),
    .agent (.agentIdle 1 0 1000 1000), .readSocket 85, .pumpFrame true 0, .pumpFrame true 0,
    .pumpFrame true 0, .writeStdout 2]

/-- A run in which output is queued, written and confirmed. -/
theorem nothing_lost_sample : ∃ c, Run (Client.step .counting ⟨sampleConfig, false⟩) Anywhere
    (.start 0 (List.replicate 8 0) (List.replicate 8 0) {} {} 0) snapshotRun c ∧
    c.log = [.output [1], .wrote [1], .snapshot 1 [7, 7], .wrote [7, 7], .confirmed 1] ∧
    (∀ bytes, .refused bytes ∉ c.log) ∧ c.net.client.streams.input.recvOffset = 0 := by
  have hreach : ((exec (Client.step .counting ⟨sampleConfig, false⟩)
      (.start 0 (List.replicate 8 0) (List.replicate 8 0) {} {} 0) snapshotRun).any fun c =>
        decide (c.log = [.output [1], .wrote [1], .snapshot 1 [7, 7], .wrote [7, 7], .confirmed 1])) =
      true := by
    decide +kernel
  obtain ⟨c, hc, hlog⟩ := (Option.any_eq_true _ _).mp hreach
  have run := Run.of_exec hc
  have hlog := of_decide_eq_true hlog
  obtain ⟨hkept, hcount, -⟩ := nothing_lost _ _ _ _ _ _ _ _ run
  refine ⟨c, run, hlog, hkept, ?_⟩
  rw [← hcount, hlog]
  rfl

end Sample

end Zet.App
