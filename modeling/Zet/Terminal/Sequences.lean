import Zet.Terminal.TextDecoding

/-!
# Control sequences, byte by byte

What a parser makes of a whole control sequence. `ESC` starts one from any state but that of a
bypassed payload, whatever was being read; the parameters are collected; the final byte dispatches
and leaves the parser in Ground with nothing pending (`VtParser.grounded`).
-/

namespace Zet.Terminal
open Zet.Core Zet.Lib

namespace VtParser

variable {p : VtParser} {rows : Nat} {raw : UInt8}

/-- What is fed in two pieces is fed as one. -/
lemma feed_append (rows : Nat) (a b : Bytes) : p.feed rows (a ++ b) =
    (((p.feed rows a).1.feed rows b).1, (p.feed rows a).2 ++ ((p.feed rows a).1.feed rows b).2) := by
  induction a generalizing p with
  | nil => rfl
  | cons raw a ih =>
    rw [List.cons_append, feed, ih]
    dsimp only
    rw [feed, List.append_assoc]

/-- A parser in Ground with nothing pending. -/
def grounded (p : VtParser) : VtParser :=
  { p with
    utf8Remaining := 0
    state := .ground
    params := []
    intermediates := []
    privateMarker := 0
    inOsc := false
    bypassBytes := 0 }

/-- A parser in the middle of a control sequence. -/
def inCsi (p : VtParser) (state : ParserState) (marker : UInt8) (params inters : Bytes) : VtParser :=
  { p with
    utf8Remaining := 0
    state := state
    params := params
    intermediates := inters
    privateMarker := marker }

/-- Outside a bypass an escape starts a sequence. -/
lemma feed_esc (hbypass : p.state ≠ .bypass) :
    p.feedByte rows 0x1B = (p.inCsi .escape 0 [] [], []) := by
  unfold feedByte
  rw [if_neg hbypass, if_neg (by decide), if_pos rfl]
  rfl

/-- A byte that is no control, while nothing is pending and no payload is bypassed. -/
lemma feedByte_machine (hbypass : p.state ≠ .bypass) (hground : p.state ≠ .ground)
    (hnone : p.utf8Remaining = 0) (hraw : 0x20 ≤ raw ∧ raw ≤ 0x7E) :
    p.feedByte rows raw = p.machineByte rows raw := by
  have hne : ∀ b : UInt8, 0x20 ≤ b ∧ b ≤ 0x7E →
      ¬(b = 0x18 ∨ b = 0x1A) ∧ b ≠ 0x1B ∧ ¬b < 0x20 ∧ b ≠ 0x7F :=
    forall_byte (by decide +kernel)
  obtain ⟨hcan, hesc, hlow, hdel⟩ := hne raw hraw
  unfold feedByte plainByte
  rw [if_neg hbypass, if_neg hcan, if_neg hesc, if_neg (by omega), if_neg fun h => hground h.2,
    if_neg hlow, if_neg hdel]

/-- A byte of a control sequence. -/
lemma feedByte_csi {state : ParserState} {marker : UInt8} {params inters : Bytes}
    (hstate : state = .csiEntry ∨ state = .csiParam ∨ state = .csiIntermediate)
    (hraw : 0x20 ≤ raw ∧ raw ≤ 0x7E) :
    (p.inCsi state marker params inters).feedByte rows raw =
      (p.inCsi state marker params inters).machineByte rows raw := by
  rcases hstate with rfl | rfl | rfl
  all_goals exact feedByte_machine nofun nofun rfl hraw

/-- With a bracket behind it, it starts a control sequence. -/
lemma feed_csiStart (hbypass : p.state ≠ .bypass) :
    p.feed rows [0x1B, 0x5B] = (p.inCsi .csiEntry 0 [] [], []) := by
  have hmachine := @feedByte_machine (p.inCsi .escape 0 [] []) rows 0x5B
    nofun nofun rfl (by decide)
  rw [feed, feed_esc hbypass]
  dsimp only
  rw [feed, hmachine]
  rfl

/-- A digit or a separator. -/
def IsParam (raw : UInt8) : Prop := 0x30 ≤ raw ∧ raw ≤ 0x3B

instance (raw : UInt8) : Decidable (IsParam raw) := inferInstanceAs (Decidable (_ ∧ _))

/-- A byte of parameters is none of the others. -/
lemma param_ne : ∀ b, IsParam b → (0x20 ≤ b ∧ b ≤ 0x7E) ∧ (0x30 ≤ b ∧ b ≤ 0x3F) :=
  forall_byte (by decide +kernel)

/-- The parameters, as long as they fit into the buffer. -/
lemma feed_params {state : ParserState} {marker : UInt8} {params body : Bytes}
    (hstate : state = .csiEntry ∨ state = .csiParam) (hbody : ∀ b ∈ body, IsParam b)
    (hfits : params.length + body.length < maxParamBytes) :
    (p.inCsi state marker params []).feed rows body =
      (p.inCsi (if body = [] then state else .csiParam) marker (params ++ body) [], []) := by
  induction body generalizing state params with
  | nil => rw [feed, if_pos rfl, List.append_nil]
  | cons b body ih =>
    have hb := hbody b (List.mem_cons_self ..)
    obtain ⟨hprint, hparam⟩ := param_ne b hb
    have hroom : params.length < maxParamBytes - 1 := by
      rw [List.length_cons] at hfits
      omega
    have hadd : (p.inCsi state marker params []).addParam b =
        p.inCsi state marker (params ++ [b]) [] := if_pos hroom
    have hmachine : (p.inCsi state marker params []).machineByte rows b =
        (p.inCsi .csiParam marker (params ++ [b]) [], []) := by
      unfold machineByte
      rcases hstate with rfl | rfl
      · change (if 0x30 ≤ b ∧ b ≤ 0x3B then _ else _) = _
        rw [if_pos (show 0x30 ≤ b ∧ b ≤ 0x3B from hb), hadd]
        rfl
      · change (if 0x30 ≤ b ∧ b ≤ 0x3F then _ else _) = _
        rw [if_pos hparam, hadd]
    have hrest := @ih .csiParam (params ++ [b]) (.inr rfl)
      (fun x hx => hbody x (List.mem_cons_of_mem _ hx))
      (by rw [List.length_append, List.length_singleton, Nat.add_right_comm]; exact hfits)
    rw [feed, feedByte_csi (hstate.imp id .inl) hprint, hmachine]
    dsimp only
    rw [hrest, if_neg (List.cons_ne_nil _ _), List.append_assoc, ite_self]
    rfl

/-- A final byte is none of the others. -/
lemma final_ne : ∀ b : UInt8, 0x40 ≤ b ∧ b ≤ 0x7E → (0x20 ≤ b ∧ b ≤ 0x7E) ∧ ¬(0x30 ≤ b ∧ b ≤ 0x3B) ∧
    ¬(0x3C ≤ b ∧ b ≤ 0x3F) ∧ ¬(0x30 ≤ b ∧ b ≤ 0x3F) ∧ ¬(0x20 ≤ b ∧ b ≤ 0x2F) :=
  forall_byte (by decide +kernel)

/-- The final byte. -/
lemma feed_final {state : ParserState} {marker : UInt8} {params inters : Bytes}
    (hstate : state = .csiEntry ∨ state = .csiParam ∨ state = .csiIntermediate)
    (hraw : 0x40 ≤ raw ∧ raw ≤ 0x7E) :
    (p.inCsi state marker params inters).feedByte rows raw =
      dispatched ((p.inCsi state marker params inters).dispatchCsi rows raw) := by
  obtain ⟨hprint, hentry, hprivate, hparam, hinter⟩ := final_ne raw hraw
  rw [feedByte_csi hstate hprint]
  unfold machineByte
  rcases hstate with rfl | rfl | rfl
  · change (if 0x30 ≤ raw ∧ raw ≤ 0x3B then _ else _) = _
    rw [if_neg hentry, if_neg hprivate, if_neg hinter, if_pos hraw]
  · change (if 0x30 ≤ raw ∧ raw ≤ 0x3F then _ else _) = _
    rw [if_neg hparam, if_neg hinter, if_pos hraw]
  · change (if 0x20 ≤ raw ∧ raw ≤ 0x2F then _ else _) = _
    rw [if_neg hinter, if_pos hraw]

/-- A control sequence without a private marker and without intermediates. -/
lemma feed_csi (hbypass : p.state ≠ .bypass) {body : Bytes} (hbody : ∀ b ∈ body, IsParam b)
    (hfits : body.length < maxParamBytes) (hraw : 0x40 ≤ raw ∧ raw ≤ 0x7E) :
    p.feed rows ([0x1B, 0x5B] ++ body ++ [raw]) =
      dispatched ((p.inCsi (if body = [] then .csiEntry else .csiParam) 0 body []).dispatchCsi rows raw) := by
  have hparams := @feed_params p rows _ 0 [] _ (.inl rfl) hbody
    (by rw [List.length_nil, Nat.zero_add]; exact hfits)
  have hstate : ∀ state, state = (if body = [] then ParserState.csiEntry else .csiParam) →
      state = .csiEntry ∨ state = .csiParam ∨ state = .csiIntermediate := by
    rintro state rfl
    split
    · exact .inl rfl
    · exact .inr (.inl rfl)
  rw [List.append_assoc, feed_append, feed_csiStart hbypass]
  dsimp only
  rw [feed_append, hparams]
  dsimp only
  rw [feed, feed_final (hstate _ rfl) hraw]
  simp only [feed, List.append_nil, List.nil_append]

end VtParser

end Zet.Terminal
