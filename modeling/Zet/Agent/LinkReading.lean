import Zet.Agent.MuxLink
import Zet.Mux.Told

/-!
# What a link reads

A link that is told things by a mux in the order of `Phase` takes them in that order, wherever the kernel
cuts the stream and whichever bytes a descriptor came with: what has been read is the front of what was
laid, less what is whole and taken (`takeAll_told`). The one thing that ends such a link is a refusal.
-/

namespace Zet.Agent
open Zet.Core Zet.Wire Zet.Lib Zet.Session Zet.App Zet.Muxd

/-- What can still be ahead of a link, by whether it has been told that it is registered. -/
inductive Phase : (registered : Bool) → List Told → Prop
  | waiting : Phase false []
  | refused (reason : MuxRefusal) : Phase false [.refused reason]
  | admitted (port : Nat) {told : List Told} (rest : Phase true told) : Phase false (.registered port :: told)
  | idle : Phase true []
  | handoff (socket : Nat) (bytes : Bytes) {told : List Told} (rest : Phase true told) :
      Phase true (.handoff (some socket) bytes :: told)

/-- Whether a link is registered, or will be once it has read what is ahead. -/
def Served (registered : Bool) (told : List Told) : Prop :=
  registered = true ∨ ∃ port rest, told = .registered port :: rest

variable {l : MuxLink} {t : Told} {told : List Told} {part chunk more : Stretch} {b : Bool}

/-- A handoff behind what is ahead of a link that is served. -/
lemma Phase.snoc (h : Phase b told) (served : Served b told) (socket : Nat) (bytes : Bytes) :
    Phase b (told ++ [.handoff (some socket) bytes]) := by
  induction h with
  | waiting =>
    rcases served with h | ⟨_, _, h⟩
    · cases h
    · cases h
  | refused reason =>
    rcases served with h | ⟨_, _, h⟩
    · cases h
    · cases h
  | admitted port _ ih => exact .admitted port (ih (.inl rfl))
  | idle => exact .handoff socket bytes .idle
  | handoff socket' bytes' _ ih => exact .handoff socket' bytes' (ih (.inl rfl))

/-- What is next, by whether the link is registered. -/
lemma Phase.cases_cons (h : Phase b (t :: told)) :
    (∃ reason, b = false ∧ t = .refused reason ∧ told = []) ∨
    (∃ port, b = false ∧ t = .registered port ∧ Phase true told) ∨
    ∃ socket bytes, b = true ∧ t = .handoff (some socket) bytes ∧ Phase true told := by
  cases h with
  | refused reason => exact .inl ⟨reason, rfl, rfl, rfl⟩
  | admitted port rest => exact .inr (.inl ⟨port, rfl, rfl, rest⟩)
  | handoff socket bytes rest => exact .inr (.inr ⟨socket, bytes, rfl, rfl, rest⟩)

/-- The connections handed over by what is told. -/
def handovers : List Told → List HandedOver
  | [] => []
  | .handoff (some socket) bytes :: told => ⟨socket, bytes⟩ :: handovers told
  | _ :: told => handovers told

/-- No message hands nothing over. -/
@[simp] lemma handovers_nil : handovers [] = [] := rfl

/-- A handoff with its socket hands it over with its bytes. -/
@[simp] lemma handovers_handoff (socket : Nat) (bytes : Bytes) (told : List Told) :
    handovers (.handoff (some socket) bytes :: told) = ⟨socket, bytes⟩ :: handovers told := rfl

/-- A registration hands nothing over. -/
@[simp] lemma handovers_registered (port : Nat) (told : List Told) :
    handovers (.registered port :: told) = handovers told := rfl

namespace MuxLink

/-- What a link makes of a message that can be sent. -/
lemma take_registered {port : Nat} (h : (Told.registered port).Sendable) (fresh : l.registered = false) :
    l.take (Told.registered port).body =
      some ({ l with port := port, registered := true, attempts := 0 }, []) := by
  have hwritten := ((Told.emits h).writeInto muxMaxBody).trans (if_pos (Told.body_fits h))
  obtain ⟨body, hbody, hparse⟩ := muxRegistered_readsBack (m := ⟨port⟩) h.2 _ _ hwritten
  rw [take, hbody, parseMessageType_write]
  dsimp only
  rw [hparse]
  dsimp only
  rw [fresh]
  rfl

/-- A body that refuses is not one the link takes. -/
lemma take_refused (reason : MuxRefusal) : l.take (Told.refused reason).body = none := by
  rw [take, Told.body, parseMessageType_write]

/-- A handoff is taken with the first descriptor at hand. -/
lemma take_handoff {socket : Option Nat} {bytes : Bytes} (h : (Told.handoff socket bytes).Sendable)
    (registered : l.registered = true) {d : Nat} {descriptors : List Nat}
    (hd : l.descriptors = d :: descriptors) : l.take (Told.handoff socket bytes).body =
      some ({ l with descriptors := descriptors }, [⟨d, bytes⟩]) := by
  have hwritten := ((Told.emits h).writeInto muxMaxBody).trans (if_pos (Told.body_fits h))
  obtain ⟨body, hbody, hparse⟩ := muxHandoff_readsBack ⟨bytes⟩ _ _ hwritten
  rw [take, hbody, parseMessageType_write]
  dsimp only
  rw [hparse]
  dsimp only
  rw [registered, hd]
  rfl

/-- What a link has read of what it is told, and not taken yet. -/
structure Reads (l : MuxLink) (told : List Told) (part more : Stretch) : Prop where
  laid : lay (told.map Told.parcel) = part ++ more
  reader : l.reader.bytes = cells part
  descriptors : l.descriptors = riders part
  phase : Phase l.registered told
  sendable : ∀ t ∈ told, t.Sendable

/-- What is left unread is less than the next message. -/
def Short (told : List Told) (part : Stretch) : Prop := ∀ t ∈ told.head?, part.length < t.frame.length

/-- Buffer and stream together spell the next frame and what was laid behind it. -/
lemma Reads.cells (h : Reads l (t :: told) part more) :
    l.reader.bytes ++ Lib.cells more = t.frame ++ Lib.cells (lay (told.map Told.parcel)) := by
  have := congrArg Lib.cells h.laid
  rw [List.map_cons, lay_cons, cells_append, cells_append, Parcel.laid, cells_ride] at this
  rw [h.reader]
  exact this.symm

/-- The reader gives the next message, once all of it has been read. -/
lemma Reads.next (h : Reads l (t :: told) part more) :
    l.reader.next = if part.length < t.frame.length then (.ok none, l.reader)
      else (.ok (some t.body), ⟨l.reader.bytes.drop t.frame.length⟩) := by
  have hsend := h.sendable t List.mem_cons_self
  have hcells := h.cells
  rw [Told.frame_eq hsend] at hcells
  rw [MuxFrameReader.next_front hcells rfl (Told.body_fits hsend), ← Told.frame_eq hsend, h.reader,
    length_cells]
  rfl

/-- A message that is whole is the front of what has been read. -/
lemma Reads.whole (h : Reads l (t :: told) part more) (long : ¬part.length < t.frame.length) :
    ∃ part', part = t.parcel.laid ++ part' ∧ lay (told.map Told.parcel) = part' ++ more ∧
      l.reader.bytes.drop t.frame.length = Lib.cells part' ∧ riders part = t.rider.toList ++ riders part' := by
  rcases lay_front h.laid with ⟨hshort, -⟩ | ⟨part', hpart, hlaid⟩
  · exact absurd hshort long
  refine ⟨part', hpart, hlaid, ?_, ?_⟩
  · rw [h.reader, hpart, cells_append, Parcel.laid, cells_ride]
    exact List.drop_left
  · have hpos := Told.frame_pos (h.sendable t List.mem_cons_self)
    have hlaid := riders_ride (r := t.rider) (List.ne_nil_of_length_pos hpos)
    rw [hpart, riders_append]
    exact congrArg (· ++ riders part') hlaid

/-- A link with nothing ahead of it has nothing unread. -/
lemma Reads.nil (h : Reads l [] part more) : part = [] ∧ l.reader = .empty := by
  have hpart : part = [] := (List.append_eq_nil_iff.mp h.laid.symm).1
  refine ⟨hpart, ?_⟩
  have hbytes := h.reader
  rw [hpart] at hbytes
  cases hreader : l.reader with
  | mk bytes =>
    rw [hreader] at hbytes
    exact congrArg MuxFrameReader.mk hbytes

/-- What a round of taking leaves alone. -/
structure SameLink (l l' : MuxLink) : Prop where
  registration : l'.registration = l.registration
  socket : l'.socket = l.socket
  output : l'.output = l.output
  retryAt : l'.retryAt = l.retryAt

/-- A link is the same as itself. -/
lemma SameLink.refl (l : MuxLink) : SameLink l l := ⟨rfl, rfl, rfl, rfl⟩

/-- Sameness of links composes. -/
lemma SameLink.trans {l₁ l₂ l₃ : MuxLink} (h : SameLink l₁ l₂) (k : SameLink l₂ l₃) : SameLink l₁ l₃ :=
  ⟨k.registration.trans h.registration, k.socket.trans h.socket, k.output.trans h.output,
    k.retryAt.trans h.retryAt⟩

/-- What a round of taking comes to: all that is whole has been taken, or a refusal was. -/
inductive Taken (l : MuxLink) (told : List Told) (more : Stretch) :
    MuxLink × List HandedOver × Bool → Prop
  | refused (l' : MuxLink) (reason : MuxRefusal) (same : SameLink l l') (told_eq : told = [.refused reason])
      (front : (Told.refused reason).frame <+: l.reader.bytes) : Taken l told more (l', [], true)
  | taken (l' : MuxLink) (done : List Told) (told' : List Told) (part' : Stretch) (same : SameLink l l')
      (told_eq : told = done ++ told') (reads : Reads l' told' part' more) (short : Short told' part')
      (served : Served l'.registered told' ↔ Served l.registered told) :
      Taken l told more (l', handovers done, false)

/-- A turn that takes a message. -/
lemma takeAll_step {fuel : Nat} {reader : MuxFrameReader} {body : Bytes} {l₁ : MuxLink}
    {handed : List HandedOver} (hnext : l.reader.next = (.ok (some body), reader))
    (htake : { l with reader := reader }.take body = some (l₁, handed)) :
    takeAll (fuel + 1) l =
      ((takeAll fuel l₁).1, handed ++ (takeAll fuel l₁).2.1, (takeAll fuel l₁).2.2) := by
  rw [takeAll, hnext]
  dsimp only
  rw [htake]

/-- What is taken after a message that leaves the link served. -/
lemma Taken.after {l₁ : MuxLink} {r : MuxLink × List HandedOver × Bool} {handed : List HandedOver}
    (h : Taken l₁ told more r) (same : SameLink l l₁) (rest : Phase true told)
    (registered : l₁.registered = true) (served : Served l.registered (t :: told))
    (hand : ∀ done, handovers (t :: done) = handed ++ handovers done) :
    Taken l (t :: told) more (r.1, handed ++ r.2.1, r.2.2) := by
  cases h with
  | refused l' reason _ told_eq =>
    rw [told_eq] at rest
    cases rest
  | taken l' done told' part' same' told_eq reads short served' =>
    rw [← hand done]
    refine .taken l' (t :: done) told' part' (same.trans same') ?_ reads short ?_
    · rw [told_eq, List.cons_append]
    · exact iff_of_true (served'.mpr (.inl registered)) served

/-- The turns of `MuxLink::Read` on what a mux tells. -/
lemma takeAll_told (fuel : Nat) (h : Reads l told part more) (enough : l.reader.bytes.length < fuel) :
    Taken l told more (takeAll fuel l) := by
  induction told generalizing l part fuel with
  | nil =>
    obtain ⟨rfl, hempty⟩ := h.nil
    obtain ⟨fuel, rfl⟩ := Nat.exists_eq_add_of_le' (Nat.zero_lt_of_lt enough)
    rw [takeAll, hempty, MuxFrameReader.next_empty]
    refine .taken _ [] [] [] ⟨rfl, rfl, rfl, rfl⟩ rfl ?_ (fun t ht => (by cases ht)) Iff.rfl
    exact ⟨h.laid, rfl, h.descriptors, h.phase, h.sendable⟩
  | cons t told ih =>
    obtain ⟨fuel, rfl⟩ := Nat.exists_eq_add_of_le' (Nat.zero_lt_of_lt enough)
    have hnext := h.next
    by_cases hshort : part.length < t.frame.length
    · rw [takeAll, hnext, if_pos hshort]
      refine .taken _ [] (t :: told) part ⟨rfl, rfl, rfl, rfl⟩ rfl ?_ ?_ Iff.rfl
      · exact ⟨h.laid, h.reader, h.descriptors, h.phase, h.sendable⟩
      · intro t' ht'
        cases ht'
        exact hshort
    rw [if_neg hshort] at hnext
    obtain ⟨part', hpart, hlaid, hreader, hriders⟩ := h.whole hshort
    have hsend := h.sendable t List.mem_cons_self
    have hsends : ∀ t' ∈ told, t'.Sendable := fun t' ht' => h.sendable t' (List.mem_cons_of_mem _ ht')
    have hlong : t.frame.length ≤ l.reader.bytes.length := by
      rw [h.reader, length_cells]
      exact Nat.not_lt.mp hshort
    have hless : (l.reader.bytes.drop t.frame.length).length < fuel := by
      have hpos := Told.frame_pos hsend
      rw [List.length_drop]
      omega
    have hdescriptors := h.descriptors
    rw [hriders] at hdescriptors
    -- What is next decides; what is after a message that is taken is the induction's.
    rcases h.phase.cases_cons with ⟨reason, hfresh, rfl, rfl⟩ | ⟨port, hfresh, rfl, hrest⟩ |
      ⟨socket, bytes, hregistered, rfl, hrest⟩
    · rw [takeAll, hnext]
      dsimp only
      rw [take_refused]
      refine .refused _ reason ⟨rfl, rfl, rfl, rfl⟩ rfl ?_
      have hcells := congrArg (List.take (Told.refused reason).frame.length) h.cells
      rw [List.take_left, List.take_append_of_le_length hlong] at hcells
      exact hcells ▸ List.take_prefix _ _
    · have htake := take_registered (l := { l with
        reader := ⟨l.reader.bytes.drop (Told.registered port).frame.length⟩ }) hsend hfresh
      rw [takeAll_step hnext htake]
      have hreads : Reads { l with
          reader := ⟨l.reader.bytes.drop (Told.registered port).frame.length⟩
          port := port
          registered := true
          attempts := 0 } told part' more := ⟨hlaid, hreader, hdescriptors, hrest, hsends⟩
      exact (ih fuel hreads hless).after ⟨rfl, rfl, rfl, rfl⟩ hrest rfl (.inr ⟨port, told, rfl⟩)
        fun _ => rfl
    · have htake := take_handoff (l := { l with
        reader := ⟨l.reader.bytes.drop (Told.handoff (some socket) bytes).frame.length⟩ }) hsend
        hregistered hdescriptors
      rw [takeAll_step hnext htake]
      have hreads : Reads { l with
          reader := ⟨l.reader.bytes.drop (Told.handoff (some socket) bytes).frame.length⟩
          descriptors := riders part' } told part' more := by
        refine ⟨hlaid, hreader, rfl, ?_, hsends⟩
        dsimp only
        rw [hregistered]
        exact hrest
      exact (ih fuel hreads hless).after ⟨rfl, rfl, rfl, rfl⟩ hrest hregistered (.inl hregistered)
        fun _ => rfl

/-- Bytes as the kernel gives them, with the one descriptor that came with them. -/
def received (chunk : Stretch) : Received := .got (Lib.cells chunk) (riders chunk).head?

/-- A list of at most one element is the list of its head. -/
lemma head?_toList {α : Type} {l : List α} (one : l.length ≤ 1) : l.head?.toList = l := by
  cases l with
  | nil => rfl
  | cons a l => rw [List.length_eq_zero_iff.mp (Nat.le_zero.mp (Nat.le_of_succ_le_succ one))]; rfl

/-- What has been read grows by a chunk. -/
lemma Reads.append (h : Reads l told part (chunk ++ more)) (one : (riders chunk).length ≤ 1) :
    Reads { l with
      descriptors := l.descriptors ++ (riders chunk).head?.toList
      reader := l.reader.append (Lib.cells chunk) } told (part ++ chunk) more where
  laid := by rw [h.laid, List.append_assoc]
  reader := by
    rw [cells_append, ← h.reader]
    rfl
  descriptors := by
    rw [riders_append, ← h.descriptors, head?_toList one]
  phase := h.phase
  sendable := h.sendable

/-- A link that is told things by a mux always has room for more. -/
lemma Reads.room (h : Reads l told part more) (short : Short told part) : 0 < l.readRoom := by
  have hbytes : l.reader.bytes.length < muxMaxFrame + 1 := by
    rw [h.reader, length_cells]
    cases told with
    | nil =>
      rw [h.nil.1]
      exact Nat.succ_pos _
    | cons t told =>
      have hframe := Told.length_frame (h.sendable t List.mem_cons_self)
      have hbody := Told.body_fits (h.sendable t List.mem_cons_self)
      have := short t rfl
      rw [hframe] at this
      rw [muxMaxFrame]
      omega
  have hframe : 1 < muxMaxFrame := by
    rw [muxMaxFrame, muxMaxBody, headerSize]
    omega
  rw [readRoom, MuxFrameReader.room, MuxFrameReader.capacity]
  omega

/-- A read of what a mux tells hands over what is whole, or meets a refusal: the protocol is not broken
otherwise, and no descriptor is stray. -/
lemma read_told (h : Reads l told part (chunk ++ more)) (short : Short told part)
    (one : (riders chunk).length ≤ 1) (some_bytes : chunk ≠ []) (now : Timestamp) (noise : Nat) :
    (∃ reason, told = [.refused reason] ∧
      (Told.refused reason).frame <+: l.reader.bytes ++ Lib.cells chunk ∧
      ∃ l₁, SameLink l l₁ ∧ l.read now noise (received chunk) =
        (l₁.lose now noise, [], some .brokeProtocol)) ∨
    ∃ l' done told' part', SameLink l l' ∧ told = done ++ told' ∧ Reads l' told' part' more ∧
      Short told' part' ∧ (Served l'.registered told' ↔ Served l.registered told) ∧
      l.read now noise (received chunk) = (l', handovers done, none) := by
  have hroom := h.room short
  have htaken := takeAll_told _ (h.append one) (Nat.lt_succ_self _)
  have hcells : (Lib.cells chunk).isEmpty = false := by
    cases chunk with
    | nil => exact absurd rfl some_bytes
    | cons c chunk => rfl
  unfold read received
  rw [if_neg (Nat.ne_of_gt hroom)]
  dsimp only
  rw [if_neg (by rw [hcells]; decide)]
  generalize hresult : takeAll _ _ = result at htaken ⊢
  cases htaken with
  | refused l₁ reason same told_eq front =>
    exact .inl ⟨reason, told_eq, front, l₁, ⟨same.registration, same.socket, same.output, same.retryAt⟩, rfl⟩
  | taken l' done told' part' same told_eq reads short' served =>
    refine .inr ⟨l', done, told', part', ⟨same.registration, same.socket, same.output, same.retryAt⟩,
      told_eq, reads, short', served, ?_⟩
    have hone : (riders part').length ≤ 1 := by
      apply riders_of_short reads.laid
      intro p hp
      rw [List.head?_map] at hp
      obtain ⟨t, ht, rfl⟩ := Option.map_eq_some_iff.mp hp
      exact short' t ht
    dsimp only
    rw [if_neg Bool.false_ne_true, if_neg]
    rw [reads.descriptors, maxWaitingDescriptors]
    omega

/-- A write puts out the front of what is queued, or loses the link. -/
lemma write_cases (l : MuxLink) (now : Timestamp) (noise : Nat) (answers : List WriteAnswer) :
    ∃ l', SameLink { l with output := l'.output } l' ∧ l'.reader = l.reader ∧
      l'.descriptors = l.descriptors ∧ l'.registered = l.registered ∧
      l.output.front = (l.write now noise answers).2.1 ++ l'.output.front ∧
      ((l.write now noise answers).1 = l' ∨ (l.write now noise answers).1 = l'.lose now noise) := by
  induction answers generalizing l with
  | nil => exact ⟨l, .refl l, rfl, rfl, rfl, rfl, .inl rfl⟩
  | cons answer answers ih =>
    unfold write
    split
    · exact ⟨l, .refl l, rfl, rfl, rfl, rfl, .inl rfl⟩
    · cases answer with
      | wouldBlock => exact ⟨l, .refl l, rfl, rfl, rfl, rfl, .inl rfl⟩
      | failed => exact ⟨l, .refl l, rfl, rfl, rfl, rfl, .inr rfl⟩
      | took more =>
        obtain ⟨l', hsame, hreader, hdescriptors, hregistered, hfront, hcases⟩ :=
          ih { l with output := l.output.consume (more + 1) }
        refine ⟨l', ⟨hsame.registration, hsame.socket, rfl, hsame.retryAt⟩, hreader, hdescriptors,
          hregistered, ?_, hcases⟩
        dsimp only at hfront ⊢
        rw [List.append_assoc, ← hfront, ByteQueue.front_consume, List.take_append_drop]

end MuxLink

end Zet.Agent
