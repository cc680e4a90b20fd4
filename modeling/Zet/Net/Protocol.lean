import Mathlib.Logic.Function.Basic
import Zet.Session.ConnectionSpec
import Zet.Net.Machine

/-!
# The protocol between the two ends

What the machine of `Zet.Net.Machine` does, with keys, timers, encodings and the causes of failure
left out. A `View` is the four stream ends, the snapshot exchange on each connection, and what is on
its way on it; `Move` says everything that can happen to one. Who may act on the agent's session is
one fact here: the connection in `attached`, while the session is `held`.

`Move` allows more than the code does where the difference is no matter (a connection may fail at any
time). `Zet.Net.Refinement` shows that every step of the machine is a move; the invariants of the
streams are proved about moves alone.
-/

namespace Zet.Net
open Zet.Core Zet.Wire Zet.Session

/-- A frame on its way to the agent: what it says, and the client's position when it was sealed. -/
structure Up where
  said : Said
  gen : Nat
  pos : Nat
deriving DecidableEq, Repr

/-- A frame on its way to the client: what it says, and the output generation it was sealed in. -/
structure Down where
  said : Said
  gen : Nat
deriving DecidableEq, Repr

/-- One connection. -/
structure LinkView where
  /-- The client's side of the snapshot exchange, once it has resumed. -/
  clientGrid : Option GridState
  /-- The client's end has failed, and takes no frame any more. -/
  clientDead : Bool
  /-- The snapshot the client's caller has not answered for yet. -/
  pendingApply : Option Nat
  /-- The offset the agent copied when it routed the Hello. -/
  routed : Option Nat
  /-- The offset of an AuthOk on its way. -/
  authOk : Option Nat
  /-- The agent's side of the snapshot exchange, once the connection has attached. -/
  agentGrid : Option GridState
  agentDead : Bool
  /-- The agent's end waits for a snapshot. -/
  waiting : Bool
  toAgent : List Up
  toClient : List Down
deriving DecidableEq, Repr

/-- A connection nobody has used. -/
def LinkView.unused : LinkView := ⟨none, false, none, none, none, none, false, false, [], []⟩

/-- The system, as far as the streams go. -/
structure View where
  /-- The agent's ring and its cursor on the input. -/
  out : SendBuffer
  inp : ReceiveCursor
  /-- The agent's session is live, under the connection in `attached`. -/
  held : Bool
  attached : Option Nat
  /-- The client's buffer and its cursor on the output. -/
  clientOut : SendBuffer
  clientInp : ReceiveCursor
  /-- The generation whose snapshot the client has applied. -/
  applied : Nat
  cursorGen : Nat
  links : Nat → LinkView
  opened : Nat
  agentLog : Bytes
  agentTaken : Bytes
  clientTaken : Bytes
  agentGot : Bytes
  clientGot : Bytes
  agentErrors : List SessionError
  clientErrors : List SessionError

namespace View

/-- The view with one connection changed. -/
def putLink (v : View) (i : Nat) (l : LinkView) : View :=
  { v with links := Function.update v.links i l }

/-- The generation of the agent's ring. -/
def gen (v : View) : Nat := v.out.sessionGen

/-- The connection holds the agent's session. -/
def Holder (v : View) (i : Nat) : Prop := v.held = true ∧ v.attached = some i

/-- The client reads this connection. -/
def Current (v : View) (i : Nat) : Prop := v.opened = i + 1

/-- The agent's end of a connection with this exchange. -/
def agentFace (v : View) (g : GridState) : Face := ⟨v.out, v.inp, g⟩

/-- The client's end of a connection with this exchange. -/
def clientFace (v : View) (g : GridState) : Face := ⟨v.clientOut, v.clientInp, g⟩

end View

/-- The error of a call, if it returned one. -/
def errorOf {α : Type} : Except SessionError α → Option SessionError
  | .error e => some e
  | .ok _ => none

/-- What an event delivers. -/
def deliveredOf : Except SessionError IncomingEvent → Bytes
  | .ok (.data bytes _) => bytes
  | _ => []

/-- The generation of a snapshot that came in whole. -/
def snapshotOf : Except SessionError IncomingEvent → Option Nat
  | .ok (.gridSnapshot _ gen _ _) => some gen
  | _ => none

/-- Whether the two ends have agreed on snapshots. -/
def Config.capable (cfg : Config) : Prop :=
  cfg.version ≥ protocolVersionGrid ∧ cfg.gridCapable = true

instance (cfg : Config) : Decidable cfg.capable := inferInstanceAs (Decidable (_ ∧ _))

/-- What of a move the conditions on runs are about. -/
inductive Mark where
  /-- The agent took a Resume that opened and parsed, and chose a path. -/
  | resume (i : Nat) (snapshot : Bool)
  /-- The agent took any other frame on the connection that holds the session. -/
  | heard (i : Nat) (up : Up)
  /-- A new output generation. -/
  | supplied
  | plain
deriving DecidableEq, Repr

/-- Everything that can happen. -/
inductive Move (cfg : Config) (v : View) : Mark → View → Prop
  /-- Nothing the streams can tell, but perhaps the failure of the agent's end. -/
  | agentQuiet (i : Nat) (dead : Bool) (errors : List SessionError)
      (alive : (v.links i).agentDead = true → dead = true) (harmless : ∀ e ∈ errors, e.Harmless) :
      Move cfg v .plain (View.putLink { v with agentErrors := errors ++ v.agentErrors } i
        { v.links i with agentDead := dead })
  | clientQuiet (i : Nat) (dead : Bool) (errors : List SessionError)
      (alive : (v.links i).clientDead = true → dead = true) (harmless : ∀ e ∈ errors, e.Harmless) :
      Move cfg v .plain (View.putLink { v with clientErrors := errors ++ v.clientErrors } i
        { v.links i with clientDead := dead })
  | clientOpen : Move cfg v .plain (View.putLink { v with opened := v.opened + 1 } v.opened .unused)
  | route (i : Nat) (opened : i < v.opened) (first : (v.links i).agentGrid = none)
      (fresh : (v.links i).clientGrid = none) (unanswered : (v.links i).authOk = none) :
      Move cfg v .plain (v.putLink i { v.links i with routed := some v.inp.ackOffset })
  | completeHandshake (i a : Nat) (routed : (v.links i).routed = some a) :
      Move cfg v .plain (v.putLink i { v.links i with routed := none, authOk := some a })
  | resumeRefused (i a : Nat) (e : SessionError) (current : v.Current i)
      (authOk : (v.links i).authOk = some a)
      (reason : e.Harmless ∨ ∃ r, e = .stream r ∧ v.clientOut.resetSendNext a = .error r) :
      Move cfg v .plain (View.putLink { v with clientErrors := e :: v.clientErrors } i
        { v.links i with authOk := none, clientDead := true })
  | resumeStuck (i a : Nat) (e : SessionError) (b : SendBuffer) (current : v.Current i)
      (authOk : (v.links i).authOk = some a) (attach : v.clientOut.resetSendNext a = .ok b)
      (harmless : e.Harmless) :
      Move cfg v .plain (View.putLink { v with clientOut := b, clientErrors := e :: v.clientErrors } i
        { v.links i with authOk := none, clientDead := true })
  | resumeSent (i a : Nat) (b : SendBuffer) (gen : Nat) (current : v.Current i)
      (authOk : (v.links i).authOk = some a) (attach : v.clientOut.resetSendNext a = .ok b)
      (gen_eq : gen = if cfg.version ≥ protocolVersionGrid then v.applied else 0) :
      Move cfg v .plain (View.putLink { v with clientOut := b } i { v.links i with
        authOk := none
        clientGrid := some (ClientConnection.freshGrid cfg.version gen)
        toAgent := (v.links i).toAgent ++
          [Up.mk (.resume (gen % 256 ^ 4) (v.clientInp.ackOffset % 256 ^ 8)) v.cursorGen
            v.clientInp.ackOffset] })
  | agentTurned (i : Nat) (up : Up) (rest : List Up) (errors : List SessionError)
      (head : (v.links i).toAgent = up :: rest) (harmless : ∀ e ∈ errors, e.Harmless) :
      Move cfg v .plain (View.putLink { v with agentErrors := errors ++ v.agentErrors } i
        { v.links i with toAgent := rest, agentDead := true })
  | agentRejected (i gen off : Nat) (up : Up) (rest : List Up) (e : StreamError) (held : Bool)
      (head : (v.links i).toAgent = up :: rest) (said : up.said = .resume gen off)
      (known : gen ≤ v.gen) (replay : cfg.capable → gen = v.gen ∧ v.out.ringOverflowed = false)
      (attach : v.out.resetSendNext off = .error e) (less : held = true → v.held = true) :
      Move cfg v (.resume i false)
        (View.putLink { v with held := held, agentErrors := .stream e :: v.agentErrors } i
          { v.links i with toAgent := rest, agentDead := true })
  | pathA (i gen off : Nat) (up : Up) (rest : List Up) (b : SendBuffer)
      (head : (v.links i).toAgent = up :: rest) (said : up.said = .resume gen off)
      (first : (v.links i).agentGrid = none ∧ (v.links i).waiting = false)
      (alive : (v.links i).agentDead = false)
      (known : gen ≤ v.gen) (replay : cfg.capable → gen = v.gen ∧ v.out.ringOverflowed = false)
      (attach : v.out.resetSendNext off = .ok b) :
      Move cfg v (.resume i false)
        (View.putLink { v with out := b, held := true, attached := some i } i { v.links i with
          toAgent := rest
          agentGrid := some (AgentConnection.freshGrid cfg.version false) })
  | pathB (i gen off : Nat) (up : Up) (rest : List Up)
      (head : (v.links i).toAgent = up :: rest) (said : up.said = .resume gen off)
      (first : (v.links i).agentGrid = none ∧ (v.links i).waiting = false)
      (alive : (v.links i).agentDead = false) (known : gen ≤ v.gen) (capable : cfg.capable) :
      Move cfg v (.resume i true)
        (View.putLink { v with held := true, attached := some i } i { v.links i with
          toAgent := rest
          agentGrid := some (AgentConnection.freshGrid cfg.version true)
          waiting := true })
  | agentHears (i : Nat) (up : Up) (rest : List Up) (g : GridState)
      (out : Except SessionError IncomingEvent × Face)
      (head : (v.links i).toAgent = up :: rest) (holder : v.Holder i)
      (alive : (v.links i).agentDead = false) (grid : (v.links i).agentGrid = some g)
      (hears : (v.agentFace g).Hears up.said out) :
      Move cfg v (.heard i up) (View.putLink { v with
          out := out.2.sendBuf
          inp := out.2.recvCursor
          agentGot := v.agentGot ++ deliveredOf out.1
          agentErrors := (errorOf out.1).toList ++ v.agentErrors } i
        { v.links i with
          toAgent := rest, agentGrid := some out.2.grid, agentDead := (errorOf out.1).isSome })
  | agentSays (i : Nat) (g : GridState) (said : Said) (f : Face) (holder : v.Holder i)
      (grid : (v.links i).agentGrid = some g) (speech : (v.agentFace g).Says said f) :
      Move cfg v .plain (View.putLink { v with out := f.sendBuf, inp := f.recvCursor } i { v.links i with
        agentGrid := some f.grid, toClient := (v.links i).toClient ++ [⟨said, v.gen⟩] })
  | supplied (i : Nat) (g g' : GridState) (holder : v.Holder i)
      (waiting : (v.links i).waiting = true) (grid : (v.links i).agentGrid = some g)
      (start : g.role = .agent → g.emitting = none → g.awaitingApplied = false →
        ∃ ge : GridEmission, ge.streamGen = v.out.newGeneration.sessionGen ∧ ge.beginSent = false ∧
          g' = { g with
            emitting := some ge, awaitingApplied := true
            expectedGen := v.out.newGeneration.sessionGen, awaitingSupply := false }) :
      Move cfg v .supplied (View.putLink { v with
          out := v.out.newGeneration, agentLog := [], agentTaken := [] } i
        { v.links i with agentGrid := some g', waiting := false })
  /-- The session is let go of. -/
  | released : Move cfg v .plain { v with held := false }
  | inputDelivered (count : Nat) : Move cfg v .plain { v with inp := (v.inp.markDelivered count).2 }
  | inputRejected (count : Nat) (inp : ReceiveCursor) (ok : v.inp.unreceive count = (true, inp)) :
      Move cfg v .plain { v with
        held := false, inp := inp, agentGot := v.agentGot.take (v.agentGot.length - count) }
  | clientTurned (i : Nat) (down : Down) (rest : List Down) (errors : List SessionError)
      (current : v.Current i) (head : (v.links i).toClient = down :: rest)
      (harmless : ∀ e ∈ errors, e.Harmless) :
      Move cfg v .plain (View.putLink { v with clientErrors := errors ++ v.clientErrors } i
        { v.links i with toClient := rest, clientDead := true })
  | clientHears (i : Nat) (down : Down) (rest : List Down) (g : GridState)
      (out : Except SessionError IncomingEvent × Face) (current : v.Current i)
      (head : (v.links i).toClient = down :: rest) (alive : (v.links i).clientDead = false)
      (grid : (v.links i).clientGrid = some g) (hears : (v.clientFace g).Hears down.said out) :
      Move cfg v .plain (View.putLink { v with
          clientOut := out.2.sendBuf
          clientInp := out.2.recvCursor
          cursorGen := (snapshotOf out.1).getD v.cursorGen
          clientGot := if (snapshotOf out.1).isSome then [] else v.clientGot ++ deliveredOf out.1
          clientErrors := (errorOf out.1).toList ++ v.clientErrors } i
        { v.links i with
          toClient := rest, clientGrid := some out.2.grid, clientDead := (errorOf out.1).isSome
          pendingApply := (snapshotOf out.1).or (v.links i).pendingApply })
  | clientSays (i : Nat) (g : GridState) (said : Said) (f : Face) (current : v.Current i)
      (grid : (v.links i).clientGrid = some g) (speech : (v.clientFace g).Says said f) :
      Move cfg v .plain (View.putLink { v with clientOut := f.sendBuf, clientInp := f.recvCursor } i
        { v.links i with
          clientGrid := some f.grid
          toAgent := (v.links i).toAgent ++ [⟨said, v.cursorGen, v.clientInp.ackOffset⟩] })
  | confirmApply (i gen applied : Nat) (current : v.Current i)
      (pending : (v.links i).pendingApply = some gen)
      (applied_eq : applied = gen ∨ applied = v.applied) :
      Move cfg v .plain (View.putLink { v with applied := applied } i { v.links i with
        pendingApply := none
        clientGrid := (v.links i).clientGrid.map fun g =>
          if g.role = .client then { g with pendingApplied := some gen } else g })
  | denyApply (i : Nat) :
      Move cfg v .plain (v.putLink i { v.links i with pendingApply := none })
  | clientWrite (w : Bytes) :
      Move cfg v .plain { v with
        clientOut := (v.clientOut.append w).2
        clientTaken := v.clientTaken ++ w.take (v.clientOut.append w).1 }
  | agentWrite (w : Bytes) (open_ : v.out.ringOverflowed = true → v.held = true) :
      Move cfg v .plain { v with
        out := (v.out.append w).2
        agentLog := v.agentLog ++ w.take (v.out.append w).1
        agentTaken := v.agentTaken ++ w.take (v.out.append w).1 }
  /-- The first bytes the ring has no room for while nobody is attached. -/
  | agentOverflow (w bytes : Bytes) (fits : w <+: bytes) (capable : cfg.capable)
      (first : v.out.ringOverflowed = false) (alone : v.held = false) :
      Move cfg v .plain { v with
        out := (v.out.append w).2.setRingOverflowed
        agentLog := v.agentLog ++ w.take (v.out.append w).1
        agentTaken := v.agentTaken ++ bytes }
  | agentDropped (bytes : Bytes) (overflowed : v.out.ringOverflowed = true) (alone : v.held = false) :
      Move cfg v .plain { v with agentTaken := v.agentTaken ++ bytes }

/-- Each end's buffer is a window onto what it took. -/
structure View.Stored (v : View) : Prop where
  out : v.out.Holds v.agentLog
  clientOut : v.clientOut.Holds v.clientTaken

/-- Hearing anything moves the buffer only within what it holds. -/
lemma Face.hears_buffer {f : Face} {said : Said} {out : Except SessionError IncomingEvent × Face}
    (h : f.Hears said out) : ∃ base next, out.2.sendBuf =
      { f.sendBuf with base := base, sendNext := next } := by
  have happly : ∀ {a : Nat} {f' : Face}, f.applyAck a = .ok f' → ∃ base next, f'.sendBuf =
      { f.sendBuf with base := base, sendNext := next } := by
    intro a f' hack
    rcases Face.applyAck_ok hack with ⟨-, rfl⟩ | ⟨-, b, hb, rfl⟩
    · exact ⟨_, _, rfl⟩
    · unfold SendBuffer.acknowledge at hb
      split at hb
      · cases hb
        exact ⟨_, _, rfl⟩
      · split at hb
        · cases hb
        · cases hb
          exact ⟨_, _, rfl⟩
  cases h with
  | data =>
    unfold Face.hearData
    split
    · exact ⟨_, _, rfl⟩
    · next hack =>
      rw [Face.deliver_sendBuf]
      exact happly hack
  | ack =>
    unfold Face.hearAck
    split
    · exact ⟨_, _, rfl⟩
    · next hack => exact happly hack
  | _ => exact ⟨_, _, rfl⟩

/-- Saying anything moves the buffer's cursor at most. -/
lemma Face.says_buffer {f f' : Face} {said : Said} (h : f.Says said f') :
    (∃ next, f'.sendBuf = { f.sendBuf with sendNext := next }) ∧ f'.recvCursor = f.recvCursor := by
  cases h with
  | _ => exact ⟨⟨_, rfl⟩, rfl⟩

/-- Every move keeps both windows. -/
lemma View.Stored.move {cfg : Config} {v v' : View} {m : Mark} (stored : v.Stored)
    (h : Move cfg v m v') : v'.Stored := by
  obtain ⟨hout, hclient⟩ := stored
  cases h with
  | resumeStuck _ _ _ _ _ _ attach => exact ⟨hout, hclient.resetSendNext attach⟩
  | resumeSent _ _ _ _ _ _ attach => exact ⟨hout, hclient.resetSendNext attach⟩
  | pathA _ _ _ _ _ _ _ _ _ _ _ _ attach => exact ⟨hout.resetSendNext attach, hclient⟩
  | agentHears _ _ _ _ _ _ _ _ _ hears => exact ⟨Face.hears_holds hears hout, hclient⟩
  | agentSays _ _ _ _ _ _ speech => exact ⟨Face.says_holds speech hout, hclient⟩
  | supplied => exact ⟨.newGeneration v.out, hclient⟩
  | clientHears _ _ _ _ _ _ _ _ _ hears => exact ⟨hout, Face.hears_holds hears hclient⟩
  | clientSays _ _ _ _ _ _ speech => exact ⟨hout, Face.says_holds speech hclient⟩
  | clientWrite w => exact ⟨hout, hclient.append w⟩
  | agentWrite w => exact ⟨hout.append w, hclient⟩
  | agentOverflow w => exact ⟨(hout.append w).setRingOverflowed, hclient⟩
  | _ => exact ⟨hout, hclient⟩

end Zet.Net
