import Zet.Session.MuxLaws
import Zet.Wire.Handshake
import Zet.Wire.Reassembly

/-!
# When the mux decides

`Feed` answers a connection once `PeekHello` does, and waits while `PeekHello` says `truncated`. That
error comes from two places: from the framing, while the first frame is not all in, and from the
reads inside its body, when a body that is all in stops short of the session id. `peekHello_truncated`
tells the two apart, and `CutShort` is the second.
-/

namespace Zet.Wire
open Zet.Core

/-- The first frame is all in, whatever its body. -/
def FirstWhole (buffer : Bytes) : Prop :=
  headerSize ≤ buffer.length ∧ headerSize + decodeBE (buffer.take 4) ≤ buffer.length

instance (buffer : Bytes) : Decidable (FirstWhole buffer) :=
  inferInstanceAs (Decidable (_ ∧ _))

/-- The body of a Hello that stops before the end of its session id: right as far as it goes. -/
def CutShort (body : Bytes) : Prop :=
  body.take 1 = encodeBE 1 MessageType.hello.toByte ∧ body.length < 9 + sessionIdSize ∧
    (5 ≤ body.length → (body.drop 1).take helloMagic.length = helloMagic) ∧
    (9 ≤ body.length → decodeBE ((body.drop 5).take 2) ≤ decodeBE ((body.drop 7).take 2))

instance (body : Bytes) : Decidable (CutShort body) := inferInstanceAs (Decidable (_ ∧ _))

/-- The first frame is all in, of a size and an epoch that a Hello may have, and its body is cut
short. -/
def CutFrame (buffer : Bytes) : Prop :=
  FirstWhole buffer ∧ decodeBE (buffer.take 4) ≤ maxHandshakeFrame ∧
    decodeBE ((buffer.drop 4).take 1) = cleartextEpoch ∧
    CutShort ((buffer.drop headerSize).take (decodeBE (buffer.take 4)))

instance (buffer : Bytes) : Decidable (CutFrame buffer) := inferInstanceAs (Decidable (_ ∧ _))

section
variable {s : Bytes} {count width : Nat}

/-- Too few bytes are truncated. -/
lemma readBytes_short (h : s.length < count) : readBytes count s = .error .truncated := if_pos h

/-- Enough of them are split where they are read. -/
lemma readBytes_long (h : count ≤ s.length) :
    readBytes count s = .ok (s.take count, s.drop count) := if_neg (Nat.not_lt.mpr h)

/-- Too few bytes make no number. -/
lemma readBE_short (h : s.length < width) : readBE width s = .error .truncated := by
  simp only [readBE, Bind.bind, StateT.bind, readBytes_short h, Except.bind]

/-- Enough of them make the number of the first. -/
lemma readBE_long (h : width ≤ s.length) :
    readBE width s = .ok (decodeBE (s.take width), s.drop width) := by
  simp only [readBE, Bind.bind, StateT.bind, readBytes_long h, Except.bind]
  rfl

/-- Too few bytes make no array. -/
lemma readArray_short (h : s.length < count) : readArray count s = .error .truncated := dif_pos h

/-- A read that fails fails all that follows. -/
lemma Reader.bind_error {α β : Type} {p : Reader α} {f : α → Reader β} {e : ProtoError}
    (h : p s = .error e) : (p >>= f) s = .error e := by
  change Except.bind (p s) _ = _
  rw [h]
  rfl

end

/-- The first byte is the type. -/
lemma parseMessageType_cons (t : UInt8) (rest : Bytes) :
    parseMessageType (t :: rest) = match MessageType.ofByte t.toNat with
      | some type => .ok (type, rest)
      | none => .error .unknownMessageType := by
  have hread : readBE 1 (t :: rest) = .ok (t.toNat, rest) := by
    rw [readBE_long (by simp)]
    simp [decodeBE]
  rw [parseMessageType, Reader.bind_ok hread]
  cases MessageType.ofByte t.toNat <;> rfl

/-- Only one byte is that of a Hello. -/
lemma ofByte_hello {n : Nat} (h : MessageType.ofByte n = some .hello) :
    n = MessageType.hello.toByte := by
  unfold MessageType.ofByte at h
  split at h <;> first | rfl | cases h

/-- Too few bytes make no range of versions. -/
lemma parseVersionRange_short {s : Bytes} (h : s.length < 4) :
    parseVersionRange s = .error .truncated := by
  unfold parseVersionRange
  by_cases h2 : s.length < 2
  · exact Reader.bind_error (readBE_short h2)
  · rw [Reader.bind_ok (readBE_long (Nat.not_lt.mp h2))]
    exact Reader.bind_error (readBE_short (by rw [List.length_drop]; omega))

/-- Four of them make one where they are in order. -/
lemma parseVersionRange_long {s : Bytes} (h : 4 ≤ s.length) :
    parseVersionRange s =
      if decodeBE (s.take 2) > decodeBE ((s.drop 2).take 2) then .error .malformedField
      else .ok ((decodeBE (s.take 2), decodeBE ((s.drop 2).take 2)), s.drop 4) := by
  unfold parseVersionRange
  rw [Reader.bind_ok (readBE_long (by omega)),
    Reader.bind_ok (readBE_long (by rw [List.length_drop]; omega)), List.drop_drop]
  split <;> rfl

/-- The reads behind the type byte run out exactly where a Hello is cut short. -/
lemma peekBody_truncated {body : Bytes} (nonempty : body ≠ []) :
    peekBody body = .error .truncated ↔ CutShort body := by
  obtain ⟨t, rest, rfl⟩ := List.exists_cons_of_ne_nil nonempty
  have hmagic : helloMagic.length = 4 := by decide
  have hid : sessionIdSize = 16 := rfl
  have hfirst : (t :: rest).take 1 = encodeBE 1 MessageType.hello.toByte ↔ t = 1 := by
    simp [encodeBE, MessageType.toByte]
  unfold CutShort peekBody
  rw [hfirst]
  simp only [List.drop_succ_cons, List.drop_zero, List.length_cons, hmagic, hid]
  cases htype : MessageType.ofByte t.toNat with
  | none =>
    have hparse : parseMessageType (t :: rest) = .error .unknownMessageType := by
      rw [parseMessageType_cons, htype]
    rw [Reader.bind_error hparse]
    refine ⟨fun h => (by cases h), ?_⟩
    rintro ⟨rfl, -⟩
    cases htype
  | some type =>
    have hparse : parseMessageType (t :: rest) = .ok (type, rest) := by
      rw [parseMessageType_cons, htype]
    rw [Reader.bind_ok hparse]
    by_cases hello : type ≠ .hello
    · rw [if_pos hello]
      refine ⟨fun h => (by cases h), ?_⟩
      rintro ⟨rfl, -⟩
      cases htype
      exact absurd rfl hello
    rw [Reader.check_ok hello]
    obtain rfl := not_not.mp hello
    -- from here on the body is a Hello, and is read field by field
    have ht : t = 1 := UInt8.toNat_inj.mp (ofByte_hello htype)
    simp only [ht, true_and]
    by_cases h4 : rest.length < 4
    · rw [Reader.bind_error (readBytes_short h4)]
      refine ⟨fun _ => ⟨by omega, by omega, by omega⟩, fun _ => rfl⟩
    rw [Reader.bind_ok (readBytes_long (Nat.not_lt.mp h4))]
    by_cases magic : rest.take 4 ≠ helloMagic
    · rw [if_pos magic]
      refine ⟨fun h => (by cases h), ?_⟩
      rintro ⟨-, h, -⟩
      exact absurd (h (by omega)) magic
    rw [Reader.check_ok magic]
    have hlong := List.length_drop (i := 4) (l := rest)
    by_cases h8 : rest.length < 8
    · rw [Reader.bind_error (parseVersionRange_short (by omega))]
      exact ⟨fun _ => ⟨by omega, fun _ => not_not.mp magic, by omega⟩, fun _ => rfl⟩
    have hversions := parseVersionRange_long (s := rest.drop 4) (by omega)
    simp only [List.drop_drop, Nat.reduceAdd] at hversions
    split at hversions
    · next hgt =>
      rw [Reader.bind_error hversions]
      refine ⟨fun h => (by cases h), ?_⟩
      rintro ⟨-, -, h⟩
      have := h (by omega)
      omega
    · next hle =>
      rw [Reader.bind_ok hversions]
      have hlong := List.length_drop (i := 8) (l := rest)
      by_cases h24 : rest.length < 24
      · rw [readArray_short (by omega)]
        exact ⟨fun _ => ⟨by omega, fun _ => not_not.mp magic, fun _ => Nat.not_lt.mp hle⟩,
          fun _ => rfl⟩
      · have hread : readArray sessionIdSize (rest.drop 8) = _ := dif_neg (by omega)
        rw [hread]
        refine ⟨fun h => (by cases h), ?_⟩
        rintro ⟨h, -⟩
        omega

/-- `PeekHello` past the framing. -/
lemma peekHello_frame {buffer : Bytes} {frame : ClearFrame}
    (hframe : readFrame buffer maxHandshakeFrame = .ok frame) :
    peekHello buffer =
      if frame.header.epoch ≠ cleartextEpoch then .error .unexpectedMessage
      else (peekBody frame.body).map fun r => ⟨frame.consumed, r.1⟩ := by
  unfold peekHello
  rw [hframe]
  change (if frame.header.epoch ≠ cleartextEpoch then _ else _) = _
  split
  · rfl
  · cases peekBody frame.body <;> rfl

/-- Where there is no frame, its error is the answer. -/
lemma peekHello_noFrame {buffer : Bytes} {e : ProtoError}
    (hframe : readFrame buffer maxHandshakeFrame = .error e) : peekHello buffer = .error e := by
  unfold peekHello
  rw [hframe]
  rfl

/-- `PeekHello` says `truncated` while the first frame is not all in, and of a frame that is cut
short: one too long, empty or of a later epoch is refused first. -/
lemma peekHello_truncated {buffer : Bytes} (whole : FirstWhole buffer) :
    peekHello buffer = .error .truncated ↔ CutFrame buffer := by
  obtain ⟨hheader, hlong⟩ := whole
  have hread := readFrame_eq buffer maxHandshakeFrame
  dsimp only at hread
  rw [if_neg (Nat.not_lt.mpr hheader)] at hread
  by_cases hlimit : maxHandshakeFrame < decodeBE (buffer.take 4)
  · rw [if_pos hlimit] at hread
    rw [peekHello_noFrame hread]
    exact ⟨fun h => (by cases h), fun cut => absurd cut.2.1 (Nat.not_le.mpr hlimit)⟩
  rw [if_neg hlimit] at hread
  by_cases hzero : decodeBE (buffer.take 4) = 0
  · rw [if_pos hzero] at hread
    rw [peekHello_noFrame hread]
    refine ⟨fun h => (by cases h), ?_⟩
    rintro ⟨-, -, -, hfirst, -⟩
    rw [hzero] at hfirst
    cases hfirst
  rw [if_neg hzero, if_neg (Nat.not_lt.mpr hlong)] at hread
  rw [peekHello_frame hread]
  by_cases hepoch : decodeBE ((buffer.drop 4).take 1) = cleartextEpoch
  · have hbody : (buffer.drop headerSize).take (decodeBE (buffer.take 4)) ≠ [] := by
      apply List.ne_nil_of_length_pos
      rw [List.length_take, List.length_drop]
      omega
    rw [if_neg (not_not.mpr hepoch)]
    have hcut := peekBody_truncated hbody
    constructor
    · intro h
      refine ⟨⟨hheader, hlong⟩, Nat.not_lt.mp hlimit, hepoch, hcut.mp ?_⟩
      cases hpeek : peekBody ((buffer.drop headerSize).take (decodeBE (buffer.take 4))) with
      | error e =>
        rw [hpeek] at h
        cases h
        rfl
      | ok r =>
        rw [hpeek] at h
        cases h
    · rintro ⟨-, -, -, cut⟩
      rw [hcut.mpr cut]
      rfl
  · rw [if_pos hepoch]
    exact ⟨fun h => (by cases h), fun cut => absurd cut.2.2.1 hepoch⟩

/-- What the agent takes as a Hello, the mux takes as the same one. -/
lemma peekHello_of_agent {buffer : Bytes} {frame : ClearFrame} {id : SessionId}
    (hframe : readFrame buffer maxHandshakeFrame = .ok frame)
    (clear : frame.header.epoch = cleartextEpoch) (hid : peekHelloSessionId frame.body = .ok id) :
    peekHello buffer = .ok ⟨frame.consumed, id⟩ := by
  rw [peekHello_frame hframe, if_neg (not_not.mpr clear)]
  unfold peekHelloSessionId at hid
  split at hid
  · next rest htype =>
    split at hid
    · next hello t hhello =>
      cases hid
      obtain ⟨magic, rest₁, hmagic, hhello⟩ := Reader.bind_eq_ok hhello
      obtain ⟨heq, hhello⟩ := Reader.check_eq_ok hhello
      obtain ⟨versions, rest₂, hversions, hhello⟩ := Reader.bind_eq_ok hhello
      obtain ⟨id, rest₃, hsid, hhello⟩ := Reader.bind_eq_ok hhello
      obtain ⟨nonce, rest₄, -, hhello⟩ := Reader.bind_eq_ok hhello
      obtain ⟨options, rest₅, -, hhello⟩ := Reader.bind_eq_ok hhello
      obtain ⟨rfl, -⟩ := Reader.pure_eq_ok hhello
      have hpeek : peekBody frame.body = .ok (id, rest₃) := by
        unfold peekBody
        rw [Reader.bind_ok htype, Reader.check_ok (by simp)]
        dsimp only
        rw [Reader.bind_ok hmagic, Reader.check_ok heq, Reader.bind_ok hversions]
        exact hsid
      rw [hpeek]
      rfl
    · cases hid
  · cases hid

end Zet.Wire

namespace Zet.Session
open Zet.Core Zet.Wire Zet.Lib

variable {sessionIdOf : KeyBytes → SessionId} {s t : MuxWatch} {call : MuxCall}
  {connection slot : Nat} {w : Waiting} {bytes fed : Bytes}

/-- The router is sound whatever is fed, beyond the room too; what is known of a connection that still
waits is right. -/
def Pending (s : MuxWatch) : Prop :=
  ∃ lives, MuxSound ⟨s.router, lives⟩ ∧
    ∀ w ∈ s.router.waiting, w.live = true → s.lives w.connection = lives w.connection

/-- What is noted of two watches that agree on a connection agrees on it. -/
lemma note_congr {u : MuxWatch} {other : Nat} (h : s.lives other = u.lives other) (fed : Bytes)
    (ends : List MuxEnd) : s.note connection fed ends other = u.note connection fed ends other := by
  by_cases hother : other = connection
  · subst hother
    rw [MuxWatch.note_self, MuxWatch.note_self, h]
  · rw [MuxWatch.note_of_ne _ _ _ hother, MuxWatch.note_of_ne _ _ _ hother, h]

/-- A call makes the same of two watches of one router: they agree afterwards where they agreed
before, and on the connection that was accepted. -/
lemma muxStep_congr (h : muxStep sessionIdOf s call = some t) (lives : Nat → Option MuxLife) :
    ∃ lives', muxStep sessionIdOf ⟨s.router, lives⟩ call = some ⟨t.router, lives'⟩ ∧
      (∀ other, s.lives other = lives other → t.lives other = lives' other) ∧
      ∀ other address now router, call = .accept other address now →
        s.router.accept other address now = .ok router → t.lives other = lives' other := by
  cases call with
  | register agent uid registration =>
    simp only [muxStep] at h ⊢
    split at h
    · cases h
      exact ⟨lives, rfl, fun _ h => h, fun _ _ _ _ hc => (by cases hc)⟩
    · cases h
      exact ⟨lives, rfl, fun _ h => h, fun _ _ _ _ hc => (by cases hc)⟩
  | unregister agent =>
    cases h
    exact ⟨lives, rfl, fun _ h => h, fun _ _ _ _ hc => (by cases hc)⟩
  | accept connection' address now =>
    simp only [muxStep] at h ⊢
    split at h
    · next e herr =>
      cases h
      refine ⟨lives, rfl, fun _ h => h, ?_⟩
      intro other address' now' router hc hok
      cases hc
      rw [herr] at hok
      cases hok
    · cases h
      refine ⟨_, rfl, ?_, ?_⟩
      · intro other hother
        by_cases hsame : other = connection'
        · subst hsame
          simp
        · simp [Function.update_of_ne hsame, hother]
      · intro other address' now' router hc _
        cases hc
        simp
  | feed connection' bytes =>
    cases h
    exact ⟨_, rfl, fun _ h => note_congr (u := ⟨s.router, lives⟩) h _ _,
      fun _ _ _ _ hc => (by cases hc)⟩
  | closed connection' =>
    cases h
    exact ⟨_, rfl, fun _ h => note_congr (u := ⟨s.router, lives⟩) h _ _,
      fun _ _ _ _ hc => (by cases hc)⟩
  | expire now =>
    simp only [muxStep] at h ⊢
    split at h
    · cases h
      exact ⟨lives, rfl, fun _ h => h, fun _ _ _ _ hc => (by cases hc)⟩
    · cases h
      exact ⟨_, rfl, fun _ h => note_congr (u := ⟨s.router, lives⟩) h _ _,
        fun _ _ _ _ hc => (by cases hc)⟩

/-- Who waits after a release waited before it. -/
lemma waiting_release {r : MuxRouter} {x : Waiting} (hw : w ∈ (r.release slot x).waiting)
    (live : w.live = true) : w ∈ r.waiting := by
  rcases List.mem_or_eq_of_mem_set hw with hold | rfl
  · exact hold
  · cases live

/-- Who waits after a copy waited before it. -/
lemma waiting_take {r : MuxRouter} {x : Waiting} (hx : r.waiting[slot]? = some x) (hw : w ∈ (r.take slot x bytes).1.waiting) :
    ∃ w' ∈ r.waiting, w'.live = w.live ∧ w'.connection = w.connection := by
  rcases List.mem_or_eq_of_mem_set hw with hold | rfl
  · exact ⟨w, hold, rfl, rfl⟩
  · exact ⟨x, List.mem_of_getElem? hx, rfl, rfl⟩

/-- Who waits after a call waited before it, or was accepted by it. -/
lemma waiting_step (h : muxStep sessionIdOf s call = some t) (hw : w ∈ t.router.waiting)
    (live : w.live = true) :
    (∃ w' ∈ s.router.waiting, w'.live = true ∧ w'.connection = w.connection) ∨
      ∃ address now router, call = .accept w.connection address now ∧
        s.router.accept w.connection address now = .ok router := by
  cases call with
  | register agent uid registration =>
    simp only [muxStep] at h
    split at h
    · cases h
      exact .inl ⟨w, hw, live, rfl⟩
    · next router hrouter =>
      cases h
      rcases MuxRouter.register_cases hrouter with ⟨_, _, _, _, rfl⟩ | ⟨_, _, _, _, _, _, rfl⟩
      · exact .inl ⟨w, hw, live, rfl⟩
      · exact .inl ⟨w, hw, live, rfl⟩
  | unregister agent =>
    cases h
    exact .inl ⟨w, hw, live, rfl⟩
  | accept connection address now =>
    simp only [muxStep] at h
    split at h
    · cases h
      exact .inl ⟨w, hw, live, rfl⟩
    · next router hrouter =>
      cases h
      obtain ⟨slot, _, new, _, _, _, _, _, rfl, _, _, _, rfl⟩ := MuxRouter.accept_cases hrouter
      rcases List.mem_or_eq_of_mem_set hw with hold | rfl
      · exact .inl ⟨w, hold, live, rfl⟩
      · exact .inr ⟨address, now, _, rfl, hrouter⟩
  | feed connection bytes =>
    have hrouter : t.router = (s.router.feed connection bytes).2 := by
      cases h
      rfl
    rw [hrouter] at hw
    rcases s.router.feed_cases connection bytes with ⟨-, hfeed⟩ | ⟨slot, x, hfind, hfeed⟩
    · rw [hfeed] at hw
      exact .inl ⟨w, hw, live, rfl⟩
    · obtain ⟨hx, -, -⟩ := MuxRouter.findWaiting_eq_some hfind
      have htaken : w ∈ (s.router.take slot x bytes).1.waiting := by
        rcases hfeed with hmore | ⟨e, -, hrouter, -⟩
        · rwa [hmore] at hw
        · rw [hrouter] at hw
          exact waiting_release hw live
      obtain ⟨w', hmem, hlive, hconnection⟩ := waiting_take hx htaken
      exact .inl ⟨w', hmem, hlive.trans live, hconnection⟩
  | closed connection =>
    cases h
    unfold MuxRouter.closed at hw
    split at hw
    · exact .inl ⟨w, hw, live, rfl⟩
    · -- to close is to release one slot, and the others stay
      exact .inl ⟨w, waiting_release hw live, live, rfl⟩
  | expire now =>
    simp only [muxStep, MuxRouter.expire] at h
    split at h
    · next heq =>
      cases h
      split at heq
      · cases heq
        exact .inl ⟨w, hw, live, rfl⟩
      · cases heq
    · next heq =>
      cases h
      split at heq
      · cases heq
      · cases heq
        exact .inl ⟨w, waiting_release hw live, live, rfl⟩

/-- `Feed` copies what there is room for. -/
lemma take_beyond (h : Attended s) (hw : s.router.waiting[slot]? = some w) (live : w.live = true)
    (bytes : Bytes) : s.router.take slot w bytes =
      s.router.take slot w (bytes.take (muxPendingBuffer - w.length)) := by
  have hlength : (s.router.bufferOf slot).length = muxPendingBuffer :=
    length_window (h.seated slot w hw live).usable h.fits
  have hcount : min (muxPendingBuffer - w.length)
      (bytes.take (muxPendingBuffer - w.length)).length =
      min (muxPendingBuffer - w.length) bytes.length := by
    rw [List.length_take]
    omega
  simp only [MuxRouter.take, hlength, hcount, List.take_take]
  rw [Nat.min_eq_left (Nat.min_le_left _ _)]

/-- More than the room is an answer. -/
lemma feed_beyond (h : Attended s) (hfind : s.router.findWaiting connection = some (slot, w))
    (beyond : muxPendingBuffer - w.length < bytes.length) :
    (s.router.feed connection bytes).1 ≠ .needMore ∧
      (s.router.feed connection bytes).2 =
        (s.router.take slot w bytes).1.release slot (s.router.take slot w bytes).2 := by
  obtain ⟨hw, live, rfl⟩ := MuxRouter.findWaiting_eq_some hfind
  have hlength : (s.router.bufferOf slot).length = muxPendingBuffer :=
    length_window (h.seated slot w hw live).usable h.fits
  have htaken : (s.router.take slot w bytes).2.length - w.length ≠ bytes.length := by
    simp only [MuxRouter.take, hlength]
    omega
  unfold MuxRouter.feed
  rw [hfind]
  dsimp only
  split
  · rw [if_neg (by tauto)]
    exact ⟨by simp, rfl⟩
  · split
    · exact ⟨by simp, rfl⟩
    · exact ⟨by simp, rfl⟩

/-- Beyond the room a connection is dropped, with what there was room for. -/
lemma MuxSound.beyond (h : MuxSound s) (hfind : s.router.findWaiting connection = some (slot, w))
    (beyond : muxPendingBuffer - w.length < bytes.length) :
    MuxSound ⟨(s.router.feed connection bytes).2,
      s.note connection (bytes.take (muxPendingBuffer - w.length)) [.gone]⟩ where
  registered :=
    h.registered.congr (s.router.feed_registrations connection bytes).1
      (s.router.feed_registrations connection bytes).2
  attended := by
    obtain ⟨hw, live, rfl⟩ := MuxRouter.findWaiting_eq_some hfind
    have hroom : (bytes.take (muxPendingBuffer - w.length)).length ≤ muxPendingBuffer - w.length :=
      List.length_take_le _ _
    have htaken := h.attended.take hw live hroom
    have htake := h.attended.take_eq hw live hroom
    have hw' : (s.router.take slot w (bytes.take (muxPendingBuffer - w.length))).1.waiting[slot]? =
        some (s.router.take slot w (bytes.take (muxPendingBuffer - w.length))).2 := by
      rw [htake]
      exact List.getElem?_set_self (List.getElem?_eq_some_iff.mp hw).1
    have hreleased := htaken.release (e := .gone) hw' (by rw [htake]; exact live)
      (fun _ hhanded => (by cases hhanded))
    rw [(feed_beyond h.attended hfind beyond).2, take_beyond h.attended hw live bytes]
    rwa [show (s.router.take slot w (bytes.take (muxPendingBuffer - w.length))).2.connection =
        w.connection by rw [htake], MuxWatch.note_note, List.append_nil, List.nil_append]
      at hreleased

/-- Any call keeps what is pending undecided. -/
lemma Pending.step (h : Pending s) (hstep : muxStep sessionIdOf s call = some t) : Pending t := by
  obtain ⟨lives, sound, agree⟩ := h
  by_cases ok : MuxAdmissible ⟨s.router, lives⟩ call
  · obtain ⟨lives', hstep', hsame, haccepted⟩ := muxStep_congr hstep lives
    refine ⟨lives', sound.step ok hstep', ?_⟩
    intro w hw live
    rcases waiting_step hstep hw live with ⟨w', hw', live', hconnection⟩ | ⟨_, _, _, hc, hok⟩
    · rw [← hconnection]
      exact hsame _ (agree w' hw' live')
    · exact haccepted _ _ _ _ hc hok
  · cases call with
    | feed connection bytes =>
      simp only [MuxAdmissible, MuxRouter.room, Nat.not_le] at ok
      have hrouter : t.router = (s.router.feed connection bytes).2 := by
        cases hstep
        rfl
      have hlives : ∀ other, other ≠ connection → t.lives other = s.lives other := by
        cases hstep
        exact fun other hne => MuxWatch.note_of_ne _ _ _ hne
      cases hfind : s.router.findWaiting connection with
      | none =>
        rcases s.router.feed_cases connection bytes with ⟨-, hfeed⟩ | ⟨slot, w, hfound, -⟩
        · rw [hfeed] at hrouter
          refine ⟨lives, by rw [hrouter]; exact sound, ?_⟩
          intro w hw live
          rw [hrouter] at hw
          rw [hlives _ (MuxRouter.findWaiting_eq_none hfind hw live)]
          exact agree w hw live
        · rw [hfind] at hfound
          cases hfound
      | some found =>
        obtain ⟨slot, w⟩ := found
        rw [hfind] at ok
        have hsound := sound.beyond hfind ok
        refine ⟨_, by rw [hrouter]; exact hsound, ?_⟩
        intro x hx live
        have hne : x.connection ≠ connection := by
          intro heq
          obtain ⟨slot', hslot'⟩ := List.getElem?_of_mem hx
          rw [hrouter] at hslot'
          obtain ⟨fed, hfed, -, -⟩ := (hsound.attended.seated slot' x hslot' live).life
          dsimp only at hfed
          rw [heq, MuxWatch.note_self] at hfed
          obtain ⟨life, -, hlife⟩ := Option.map_eq_some_iff.mp hfed
          have hends : life.ends ++ [.gone] = [] := congrArg MuxLife.ends hlife
          simp at hends
        rw [hlives _ hne, MuxWatch.note_of_ne _ _ _ hne]
        rcases waiting_step hstep hx live with ⟨x', hx', live', hconnection⟩ | ⟨_, _, _, hc, -⟩
        · rw [← hconnection]
          exact agree x' hx' live'
        · cases hc
    | _ => exact absurd trivial ok

/-- At the start nothing is pending. -/
lemma Pending.create (storage : Bytes) : Pending (.create storage) :=
  ⟨_, ⟨MuxRouter.Registered.create storage, Attended.create storage⟩, fun _ _ _ => rfl⟩

/-- What is asked of a waiting connection once it is fed: `PeekHello`, of all it was fed, unless that
is more than there is room for. -/
lemma Pending.feed (h : Pending s) (hfind : s.router.findWaiting connection = some (slot, w)) :
    ∃ fed, s.lives connection = some ⟨fed, []⟩ ∧ ∀ bytes,
      (s.router.feed connection bytes).1 = .needMore ↔
        (fed ++ bytes).length ≤ muxPendingBuffer ∧
          peekHello (fed ++ bytes) = .error .truncated := by
  obtain ⟨lives, sound, agree⟩ := h
  obtain ⟨hw, live, rfl⟩ := MuxRouter.findWaiting_eq_some hfind
  have hseat := sound.attended.seated slot w hw live
  obtain ⟨fed, hlife, hlength, -⟩ := hseat.life
  have hshort := hseat.short
  refine ⟨fed, (agree w (List.mem_of_getElem? hw) live).trans hlife, ?_⟩
  intro bytes
  rcases Nat.lt_or_ge (muxPendingBuffer - w.length) bytes.length with hover | hroom
  · refine ⟨fun h => absurd h (feed_beyond sound.attended hfind hover).1, ?_⟩
    rintro ⟨hfits, -⟩
    rw [List.length_append] at hfits
    omega
  · have htake := sound.attended.take_eq hw live hroom
    have hheld : ((s.router.take slot w bytes).1.bufferOf slot).take
        (s.router.take slot w bytes).2.length = fed ++ bytes := by
      have htaken := sound.attended.take hw live hroom
      have hw' : (s.router.take slot w bytes).1.waiting[slot]? =
          some (s.router.take slot w bytes).2 := by
        rw [htake]
        exact List.getElem?_set_self (List.getElem?_eq_some_iff.mp hw).1
      obtain ⟨fed', hlife', -, hfed'⟩ := (htaken.seated slot _ hw' (by rw [htake]; exact live)).life
      have hconnection : (s.router.take slot w bytes).2.connection = w.connection := by rw [htake]
      dsimp only at hlife'
      rw [hconnection, MuxWatch.note_self, hlife] at hlife'
      rw [hfed']
      exact (congrArg MuxLife.fed (Option.some.inj hlife')).symm
    have hcount : (s.router.take slot w bytes).2.length - w.length = bytes.length := by
      rw [htake]
      exact Nat.add_sub_cancel_left _ _
    have hfits : (fed ++ bytes).length ≤ muxPendingBuffer := by
      rw [List.length_append]
      omega
    unfold MuxRouter.feed
    rw [hfind]
    dsimp only
    rw [hheld, hcount]
    cases hpeek : peekHello (fed ++ bytes) with
    | error e =>
      dsimp only
      by_cases htruncated : e = .truncated
      · rw [if_pos ⟨htruncated, rfl⟩, htruncated]
        exact ⟨fun _ => ⟨hfits, rfl⟩, fun _ => rfl⟩
      · rw [if_neg (fun h => htruncated h.1)]
        exact ⟨fun h => (by cases h), fun h => (by cases h.2; exact absurd rfl htruncated)⟩
    | ok peek =>
      dsimp only
      split
      · exact ⟨fun h => (by cases h), fun h => (by cases h.2)⟩
      · exact ⟨fun h => (by cases h), fun h => (by cases h.2)⟩

/-- After any calls, a waiting connection whose first frame is all in is answered, unless that frame
is a Hello cut short and all of it fits the buffer; and the Hello an agent would take is the Hello
the mux routes by. -/
theorem feed_decides (sessionIdOf : KeyBytes → SessionId) (storage : Bytes) {calls : List MuxCall}
    {s : MuxWatch} (run : Run (muxStep sessionIdOf) Anywhere (.create storage) calls s) :
    (∀ connection, (s.router.findWaiting connection).isSome → ∃ fed,
      s.lives connection = some ⟨fed, []⟩ ∧ ∀ bytes,
        ((s.router.feed connection bytes).1 = .needMore → ¬FirstWhole (fed ++ bytes)) ↔
          ¬(CutFrame (fed ++ bytes) ∧ (fed ++ bytes).length ≤ muxPendingBuffer)) ∧
      ∀ buffer frame id, readFrame buffer maxHandshakeFrame = .ok frame →
        frame.header.epoch = cleartextEpoch → peekHelloSessionId frame.body = .ok id →
        peekHello buffer = .ok ⟨frame.consumed, id⟩ := by
  have hpending := run.inv Pending (fun _ _ _ h _ hstep => h.step hstep) (Pending.create storage)
  refine ⟨?_, fun _ _ _ hframe clear hid => peekHello_of_agent hframe clear hid⟩
  intro connection waits
  obtain ⟨⟨slot, w⟩, hfind⟩ := Option.isSome_iff_exists.mp waits
  obtain ⟨fed, hlife, hfeed⟩ := hpending.feed hfind
  refine ⟨fed, hlife, ?_⟩
  intro bytes
  rw [hfeed bytes]
  constructor
  · rintro hdecides ⟨cut, hfits⟩
    exact hdecides ⟨hfits, (peekHello_truncated cut.1).mpr cut⟩ cut.1
  · rintro hwhole ⟨hfits, htruncated⟩ whole
    exact hwhole ⟨(peekHello_truncated whole).mp htruncated, hfits⟩

/-- A connection that was accepted and has half a header in. -/
theorem feed_decides_sample :
    ∃ s, Run (muxStep sampleIdOf) Anywhere (.create (List.replicate muxPendingBuffer 0))
        [.accept 1 ⟨List.replicate 16 0, rfl⟩ 0, .feed 1 [0, 0]] s ∧ ∃ fed,
      s.lives 1 = some ⟨fed, []⟩ ∧
        (((s.router.feed 1 [0, 1, 0, 2]).1 = .needMore → ¬FirstWhole (fed ++ [0, 1, 0, 2])) ↔
          ¬(CutFrame (fed ++ [0, 1, 0, 2]) ∧
            (fed ++ [0, 1, 0, 2]).length ≤ muxPendingBuffer)) := by
  have hrun : (exec (muxStep sampleIdOf) (.create (List.replicate muxPendingBuffer 0))
      [.accept 1 ⟨List.replicate 16 0, rfl⟩ 0, .feed 1 [0, 0]]).map
        (fun s => (s.router.findWaiting 1).isSome) = some true := by
    decide +kernel
  obtain ⟨s, hs, waits⟩ := Option.map_eq_some_iff.mp hrun
  have run := Run.of_exec hs
  obtain ⟨fed, hlife, hfeed⟩ := (feed_decides sampleIdOf _ run).1 1 waits
  exact ⟨s, run, fed, hlife, hfeed _⟩

/-- A whole frame whose body is the type byte of a Hello and nothing else: more is asked for. -/
theorem feed_waits_on_whole_frame :
    ∃ s, Run (muxStep sampleIdOf) Anywhere (.create (List.replicate muxPendingBuffer 0))
        [.accept 1 ⟨List.replicate 16 0, rfl⟩ 0] s ∧
      (s.router.feed 1 [0, 0, 0, 1, 0, 1]).1 = .needMore ∧ FirstWhole [0, 0, 0, 1, 0, 1] := by
  have hrun : (exec (muxStep sampleIdOf) (.create (List.replicate muxPendingBuffer 0))
      [.accept 1 ⟨List.replicate 16 0, rfl⟩ 0]).map
        (fun s => (s.router.feed 1 [0, 0, 0, 1, 0, 1]).1) = some .needMore := by
    decide +kernel
  obtain ⟨s, hs, hmore⟩ := Option.map_eq_some_iff.mp hrun
  exact ⟨s, Run.of_exec hs, hmore, by decide⟩

end Zet.Session
