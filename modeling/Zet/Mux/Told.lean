import Zet.Mux.Mux

/-!
# What an agent is told

The three messages the mux has for an agent, as frames with what rides on their first byte. `writeOutput`
moves the front of what is queued for an agent onto its connection and changes nothing else
(`writeOutput_wrote`), wherever the kernel cuts; so the connection carries the messages in the order they
were queued, as parcels of `Zet.Lib.Parcels`.
-/

namespace Zet.Muxd
open Zet.Core Zet.Wire Zet.Lib Zet.Session Zet.App

/-- A message to an agent, with the connection that a handoff hands over. -/
inductive Told where
  | registered (port : Nat)
  | refused (reason : MuxRefusal)
  | handoff (socket : Option Nat) (bytes : Bytes)
deriving DecidableEq, Repr

namespace Told

/-- Its encoder. -/
def write : Told → Writer Unit
  | .registered port => writeMuxRegistered ⟨port⟩
  | .refused reason => writeMuxRefused ⟨reason⟩
  | .handoff _ bytes => writeMuxHandoff ⟨bytes⟩

/-- The frame it is sent as. -/
def frame (t : Told) : Bytes := cleartextFrame t.write

/-- The connection that rides on it. -/
def rider : Told → Option Nat
  | .registered _ | .refused _ => none
  | .handoff socket _ => socket

/-- The frame with its rider. -/
def parcel (t : Told) : Parcel UInt8 Nat := ⟨t.frame, t.rider⟩

/-- What the encoder and the widths of the fields ask for. -/
def Sendable : Told → Prop
  | .registered port => 0 < port ∧ port < 256 ^ 2
  | .refused _ => True
  | .handoff _ bytes => bytes ≠ [] ∧ bytes.length ≤ maxHandoffPrefix

/-- Its bytes, inside the frame. -/
def body : Told → Bytes
  | .registered port => encodeBE 1 MessageType.muxRegistered.toByte ++ encodeBE 2 port
  | .refused reason => encodeBE 1 MessageType.muxRefused.toByte ++ encodeBE 1 reason.toByte
  | .handoff _ bytes =>
    encodeBE 1 MessageType.muxHandoff.toByte ++ (encodeBE 2 bytes.length ++ bytes)

variable {t : Told}

/-- What is told is written as its body. -/
lemma emits (h : t.Sendable) : Emits t.write t.body := by
  cases t with
  | registered port =>
    unfold write writeMuxRegistered
    refine Emits.check (Nat.ne_of_gt h.1) ?_
    exact (emits_type .muxRegistered).bind (emits_writeBE 2 port)
  | refused reason => exact (emits_type .muxRefused).bind (emits_writeBE 1 reason.toByte)
  | handoff socket bytes =>
    unfold write writeMuxHandoff
    refine Emits.check ?_ ?_
    · rintro (hempty | hlong)
      · exact h.1 (List.isEmpty_iff.mp hempty)
      · exact absurd h.2 (Nat.not_le.mpr hlong)
    · exact (emits_type .muxHandoff).bind
        ((emits_writeBE 2 bytes.length).bind (emits_writeBytes bytes))

/-- A body is not empty. -/
lemma body_pos (t : Told) : 0 < t.body.length := by
  cases t <;> simp [body]

/-- And within the limit. -/
lemma body_fits (h : t.Sendable) : t.body.length ≤ muxMaxBody := by
  cases t with
  | registered port => simp [body, muxMaxBody]
  | refused reason => simp [body, muxMaxBody, maxHandoffPrefix, headerSize]; omega
  | handoff socket bytes =>
    have := h.2
    simp only [body, muxMaxBody, List.length_append, length_encodeBE]
    omega

/-- The frame that is sent is one the reader takes. -/
def wireFrame (t : Told) (h : t.Sendable) : WireFrame := clearFrameOf t.body t.body_pos (body_fits h)

/-- The frame is the cleartext frame of the body. -/
lemma frame_eq (h : t.Sendable) : t.frame = (t.wireFrame h).bytes := by
  apply cleartextFrame_eq
  rw [(emits h).writeInto muxMaxBody, if_pos (body_fits h)]

/-- It is a header longer. -/
lemma length_frame (h : t.Sendable) : t.frame.length = headerSize + t.body.length := by
  rw [frame_eq h]
  exact (t.wireFrame h).length_bytes

/-- It is not empty. -/
lemma frame_pos (h : t.Sendable) : 0 < t.frame.length := by
  rw [length_frame h]
  exact Nat.add_pos_left (by decide) _

/-- A handoff that encodes is one that can be sent. -/
lemma sendable_of_frame {socket : Option Nat} {bytes : Bytes}
    (h : (Told.handoff socket bytes).frame ≠ []) : (Told.handoff socket bytes).Sendable := by
  by_contra hnot
  have hbad : bytes.isEmpty = true ∨ bytes.length > maxHandoffPrefix := by
    by_contra hneither
    rw [not_or] at hneither
    exact hnot ⟨fun hnil => hneither.1 (List.isEmpty_iff.mpr hnil), Nat.not_lt.mp hneither.2⟩
  apply h
  have hthrows : writeInto muxMaxBody (writeMuxHandoff ⟨bytes⟩) = .error .malformedField := by
    rw [writeMuxHandoff, if_pos hbad]
    rfl
  rw [frame, write, cleartextFrame, hthrows]

end Told

/-- What is queued for an agent and not yet on its connection. -/
def queued (output : List Outgoing) : Stretch :=
  output.flatMap fun o => ride (o.bytes.drop o.sent) o.passed

/-- Nothing queued is no stretch. -/
@[simp] lemma queued_nil : queued [] = [] := rfl

/-- One entry in front of others. -/
@[simp] lemma queued_cons (o : Outgoing) (output : List Outgoing) :
    queued (o :: output) = ride (o.bytes.drop o.sent) o.passed ++ queued output := List.flatMap_cons

/-- The entries of two queues, one after the other. -/
lemma queued_append (output more : List Outgoing) :
    queued (output ++ more) = queued output ++ queued more := List.flatMap_append

/-- A message behind what is queued. -/
lemma queued_told (output : List Outgoing) (t : Told) :
    queued (output ++ [⟨t.frame, 0, t.rider⟩]) = queued output ++ t.parcel.laid := by
  rw [queued_append, queued_cons, queued_nil, List.append_nil]
  rfl

/-- What a write did to an agent: the front of the queue went out, and no more than that. -/
structure Wrote (a a' : AgentPeer) (stretch : Stretch) : Prop where
  socket : a'.socket = a.socket
  uid : a'.uid = a.uid
  reader : a'.reader = a.reader
  closing : a.closing = true → a'.closing = true
  out : queued a.output = stretch ++ queued a'.output
  shorter : a'.output.length ≤ a.output.length
  frames : ∀ o' ∈ a'.output, ∃ o ∈ a.output, o'.bytes = o.bytes

variable {a a' b : AgentPeer} {stretch more : Stretch}

/-- Nothing was written. -/
lemma Wrote.refl (a : AgentPeer) : Wrote a a [] where
  socket := rfl
  uid := rfl
  reader := rfl
  closing := id
  out := rfl
  shorter := le_rfl
  frames := fun o ho => ⟨o, ho, rfl⟩

/-- One write after another. -/
lemma Wrote.trans (h : Wrote a b stretch) (k : Wrote b a' more) : Wrote a a' (stretch ++ more) where
  socket := k.socket.trans h.socket
  uid := k.uid.trans h.uid
  reader := k.reader.trans h.reader
  closing := fun ha => k.closing (h.closing ha)
  out := by rw [h.out, k.out, List.append_assoc]
  shorter := k.shorter.trans h.shorter
  frames := by
    intro o' ho'
    obtain ⟨o, ho, hbytes⟩ := k.frames o' ho'
    obtain ⟨o₀, ho₀, hbytes₀⟩ := h.frames o ho
    exact ⟨o₀, ho₀, hbytes.trans hbytes₀⟩

/-- Of nothing nothing goes out. -/
lemma Wrote.nothing (h : Wrote a a' stretch) (none : a.output = []) : a'.output = [] := by
  have hshorter := h.shorter
  rw [none] at hshorter
  exact List.length_eq_zero_iff.mp (Nat.le_zero.mp hshorter)

/-- An agent that is given up is one nothing more is written to. -/
lemma Wrote.shut (h : Wrote a a' stretch) : Wrote a { a' with closing := true } stretch :=
  ⟨h.socket, h.uid, h.reader, fun _ => rfl, h.out, h.shorter, h.frames⟩

/-- One answer of the kernel that took something. -/
lemma wrote_took {front : Outgoing} {rest : List Outgoing} (more : Nat) (h : a.output = front :: rest) :
    Wrote a { a with output :=
        if front.sent + min (more + 1) (front.bytes.drop front.sent).length = front.bytes.length then rest
        else { front with
          sent := front.sent + min (more + 1) (front.bytes.drop front.sent).length
          passed := none } :: rest }
      (ride ((front.bytes.drop front.sent).take (more + 1)) front.passed) := by
  have hrest : (front.bytes.drop front.sent).drop (more + 1) =
      front.bytes.drop (front.sent + min (more + 1) (front.bytes.drop front.sent).length) := by
    rw [← List.drop_drop (i := min (more + 1) (front.bytes.drop front.sent).length)]
    rcases Nat.le_total (more + 1) (front.bytes.drop front.sent).length with hle | hle
    · rw [Nat.min_eq_left hle]
    · rw [Nat.min_eq_right hle, List.drop_length, List.drop_of_length_le hle]
  have hfront : ride (front.bytes.drop front.sent) front.passed =
      ride ((front.bytes.drop front.sent).take (more + 1)) front.passed ++
        ride (front.bytes.drop (front.sent + min (more + 1) (front.bytes.drop front.sent).length)) none := by
    rw [← hrest]
    exact ride_split (more + 1) (Nat.succ_pos more)
  refine ⟨rfl, rfl, rfl, id, ?_, ?_, ?_⟩
  · rw [h, queued_cons, hfront, List.append_assoc]
    split
    next hdone => rw [hdone, List.drop_length, ride_nil, List.nil_append]
    · rw [queued_cons]
  · rw [h]
    dsimp only
    split
    · exact Nat.le_succ _
    · exact le_rfl
  · intro o' ho'
    dsimp only at ho'
    rw [h]
    split at ho'
    · exact ⟨o', List.mem_cons_of_mem _ ho', rfl⟩
    · rcases List.mem_cons.mp ho' with rfl | hrest
      · exact ⟨front, List.mem_cons_self, rfl⟩
      · exact ⟨o', List.mem_cons_of_mem _ hrest, rfl⟩

namespace Mux

/-- Whatever the kernel answers, a write puts out the front of what is queued. -/
lemma writeOutput_wrote (a : AgentPeer) (answers : List WriteAnswer) :
    Wrote a (writeOutput a answers).1 (writeOutput a answers).2 := by
  induction answers generalizing a with
  | nil => exact Wrote.refl a
  | cons answer answers ih =>
    obtain ⟨socket, uid, reader, output, closing⟩ := a
    cases output with
    | nil => exact Wrote.refl _
    | cons front rest =>
      cases answer with
      | wouldBlock => exact Wrote.refl _
      | failed => exact (Wrote.refl _).shut
      | took more => exact (wrote_took more rfl).trans (ih _)

end Mux

end Zet.Muxd
