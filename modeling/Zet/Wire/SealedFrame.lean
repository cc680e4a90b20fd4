import Zet.Wire.Message

/-!
# Sealed frames

The two halves of one direction of a connection (`src/wire/sealed_frame.cpp`): a sealer that numbers
and encrypts the frames it sends, and an opener that expects the numbers in order. Both move to the
next key by the same ratchet, the sealer on its own schedule and the opener when a frame of the next
epoch opens.

Encryption is ideal and symbolic: a ciphertext is the key, nonce, header and plaintext it was made
from (`Ciphertext`), and opens exactly under those (`aeadOpen`). The key derivations come from
libsodium, so they are a parameter (`KeySchedule`); nothing in this module asks anything of them.
-/

namespace Zet.Wire
open Zet.Core

/-- `MAX_FRAMES_PER_EPOCH`. -/
def maxFramesPerEpoch : Nat := 2 ^ 24
/-- `MAX_BYTES_PER_EPOCH`. -/
def maxBytesPerEpoch : Nat := 2 ^ 30

/-- The keys of one connection, by direction (`ConnectionKeys`). -/
structure ConnectionKeys (K : Type) where
  clientToServer : K
  serverToClient : K
  saltClientToServer : Bytes
  saltServerToClient : Bytes
deriving DecidableEq, Repr

/-- The key derivations of `key_schedule.cpp`, over an abstract type of keys. -/
structure KeySchedule (K : Type) where
  /-- `DeriveSubkey(key, number, REKEY_CONTEXT)`, the frame ratchet. -/
  rekey : K → Nat → K
  /-- `AdvanceConnectionSeed`, the seed ratchet. -/
  advanceConnectionSeed : K → K
  /-- `DeriveConnectionKeys(seed, clientNonce, serverNonce)`. -/
  deriveConnectionKeys : K → Nat → Nat → ConnectionKeys K
  /-- What a default or a moved-from `Key` holds. -/
  blank : K

/-- A key schedule over numbers, to run the model on: every derivation is injective and none comes
back to where it started. -/
def KeySchedule.counting : KeySchedule Nat where
  rekey key number := key * 1000 + number
  advanceConnectionSeed seed := seed + 1
  deriveConnectionKeys seed clientNonce serverNonce :=
    let key := (seed * 1000 + clientNonce) * 1000 + serverNonce
    ⟨2 * key, 2 * key + 1, [0], [1]⟩
  blank := 0

/-- `FrameHeader`. -/
structure FrameHeader where
  length : Nat
  epoch : Nat
deriving DecidableEq, Repr

/-- An ideal ciphertext: what it was sealed from. -/
structure Ciphertext (K : Type) where
  key : K
  /-- The nonce: direction salt and counter. -/
  nonce : Bytes × Nat
  associated : FrameHeader
  plaintext : Bytes
deriving DecidableEq, Repr

/-- A frame on the wire (`FrameView`). -/
structure FrameView (K : Type) where
  header : FrameHeader
  body : Ciphertext K
deriving DecidableEq, Repr

/-- `crypto::AeadOpen`: only the key, nonce and header of the seal open a ciphertext. -/
def aeadOpen {K : Type} [DecidableEq K] (c : Ciphertext K) (associated : FrameHeader) (key : K)
    (nonce : Bytes × Nat) : Except ProtoError Bytes :=
  if c.key = key ∧ c.nonce = nonce ∧ c.associated = associated then .ok c.plaintext
  else .error .authenticationFailed

/-- `FrameSealer`. -/
structure FrameSealer (K : Type) where
  key : K
  salt : Bytes
  frameLimit : Nat
  byteLimit : Nat
  counter : Nat
  bytesSealed : Nat
  epoch : Nat
deriving DecidableEq, Repr

section
variable {K : Type}

/-- A sealer nothing has been sealed with. -/
def FrameSealer.create (key : K) (salt : Bytes) (frameLimit byteLimit : Nat) : FrameSealer K :=
  ⟨key, salt, frameLimit, byteLimit, 0, 0, 0⟩

/-- `FrameSealer::Seal` into a buffer of `out` bytes. A refused seal changes nothing. -/
def FrameSealer.seal (s : FrameSealer K) (out : Nat) (plaintext : Bytes) :
    Except ProtoError (FrameView K × FrameSealer K) :=
  if s.counter ≥ s.frameLimit then .error .rekeyRequired
  else
    let bodyLength := plaintext.length + tagSize
    if bodyLength > maxFrame then .error .lengthLimitExceeded
    else if out < headerSize + bodyLength then .error .bufferTooSmall
    else
      let header : FrameHeader := ⟨bodyLength, s.epoch⟩
      .ok (⟨header, ⟨s.key, (s.salt, s.counter), header, plaintext⟩⟩,
        { s with counter := s.counter + 1, bytesSealed := s.bytesSealed + plaintext.length })

/-- `FrameSealer::NeedsRekey`. -/
def FrameSealer.needsRekey (s : FrameSealer K) : Bool :=
  s.counter ≥ s.frameLimit || s.bytesSealed ≥ s.byteLimit

/-- `FrameSealer::Rekey`. -/
def FrameSealer.rekey (P : KeySchedule K) (s : FrameSealer K) :
    Except ProtoError (FrameSealer K) :=
  if s.epoch = 0xFF then .error .epochsExhausted
  else .ok { s with
    key := P.rekey s.key (s.epoch + 1), epoch := s.epoch + 1, counter := 0, bytesSealed := 0 }

/-- A sealer that may seal another frame seals one that is not too long. -/
lemma FrameSealer.seal_fresh {s : FrameSealer K} {out : Nat} {plaintext : Bytes}
    (fresh : s.counter < s.frameLimit) (size : plaintext.length + tagSize ≤ maxFrame)
    (room : headerSize + (plaintext.length + tagSize) ≤ out) :
    ∃ frame s', s.seal out plaintext = .ok (frame, s') := by
  unfold FrameSealer.seal
  rw [if_neg (by omega)]
  dsimp only
  rw [if_neg (by omega), if_neg (by omega)]
  exact ⟨_, _, rfl⟩

/-- A sealed frame is of the epoch of its sealer, and its ciphertext what the sealer made it from. -/
lemma FrameSealer.seal_body {s s' : FrameSealer K} {out : Nat} {plaintext : Bytes}
    {frame : FrameView K} (h : s.seal out plaintext = .ok (frame, s')) :
    frame.header.epoch = s.epoch ∧
      frame.body = ⟨s.key, (s.salt, s.counter), frame.header, plaintext⟩ := by
  unfold FrameSealer.seal at h
  split at h
  · cases h
  · dsimp only at h
    split at h
    · cases h
    · split at h
      · cases h
      · cases h
        exact ⟨rfl, rfl⟩

/-- A frame that was sealed carries the plaintext it was sealed from. -/
lemma FrameSealer.seal_plaintext {s s' : FrameSealer K} {out : Nat} {plaintext : Bytes}
    {frame : FrameView K} (h : s.seal out plaintext = .ok (frame, s')) :
    frame.body.plaintext = plaintext := by
  rw [(FrameSealer.seal_body h).2]

/-- `FrameOpener`. -/
structure FrameOpener (K : Type) where
  key : K
  /-- `NextKey_`, meaningful once `nextReady`. -/
  nextKey : K
  salt : Bytes
  frameLimit : Nat
  counter : Nat
  nextCounter : Nat
  epoch : Nat
  nextReady : Bool
deriving DecidableEq, Repr

/-- An opener no frame has been given to. -/
def FrameOpener.create (P : KeySchedule K) (key : K) (salt : Bytes) (frameLimit : Nat) :
    FrameOpener K :=
  ⟨key, P.blank, salt, frameLimit, 0, 0, 0, false⟩

/-- `FrameOpener::PrepareNext`. -/
def FrameOpener.prepareNext (P : KeySchedule K) (o : FrameOpener K) : FrameOpener K :=
  if o.nextReady || o.epoch == 0xFF then o
  else { o with nextKey := P.rekey o.key (o.epoch + 1), nextCounter := 0, nextReady := true }

/-- The opener after a frame of the current epoch opened. -/
def FrameOpener.bumpCurrent (o : FrameOpener K) : FrameOpener K :=
  { o with counter := o.counter + 1 }

/-- The opener after a frame of the next epoch opened: that epoch is the only one left. The epoch
is a byte, so it is counted modulo 256. -/
def FrameOpener.switchToNext (P : KeySchedule K) (o : FrameOpener K) : FrameOpener K :=
  { o with
    key := o.nextKey, nextKey := P.blank, counter := o.nextCounter + 1,
    epoch := (o.epoch + 1) % 256, nextReady := false, nextCounter := 0 }

variable [DecidableEq K]

/-- `FrameOpener::Open`. A frame that does not open moves no counter. -/
def FrameOpener.open (P : KeySchedule K) (o : FrameOpener K) (frame : FrameView K) :
    Except ProtoError Bytes × FrameOpener K :=
  if frame.header.epoch = (o.epoch + 1) % 256 then
    let o := o.prepareNext P
    if o.nextCounter ≥ o.frameLimit then (.error .rekeyRequired, o)
    else
      match aeadOpen frame.body frame.header o.nextKey (o.salt, o.nextCounter) with
      | .error e => (.error e, o)
      | .ok plain => (.ok plain, o.switchToNext P)
  else if frame.header.epoch ≠ o.epoch then (.error .authenticationFailed, o)
  else if o.counter ≥ o.frameLimit then (.error .rekeyRequired, o)
  else
    match aeadOpen frame.body frame.header o.key (o.salt, o.counter) with
    | .error e => (.error e, o)
    | .ok plain => (.ok plain, o.bumpCurrent)

/-- What opens is what was sealed. -/
lemma aeadOpen_ok {c : Ciphertext K} {header : FrameHeader} {key : K} {nonce : Bytes × Nat}
    {plain : Bytes} (h : aeadOpen c header key nonce = .ok plain) :
    c.key = key ∧ c.nonce = nonce ∧ plain = c.plaintext := by
  unfold aeadOpen at h
  split at h
  · next same =>
    cases h
    exact ⟨same.1, same.2.1, rfl⟩
  · cases h

/-- Whatever an opener returns is the plaintext the frame was sealed from. -/
lemma FrameOpener.open_plaintext {P : KeySchedule K} {o o' : FrameOpener K}
    {frame : FrameView K} {plain : Bytes} (h : o.open P frame = (.ok plain, o')) :
    plain = frame.body.plaintext := by
  unfold FrameOpener.open at h
  split at h
  · dsimp only at h
    split at h
    · cases h
    · split at h
      · cases h
      · next heq =>
        cases h
        exact (aeadOpen_ok heq).2.2
  · split at h
    · cases h
    · split at h
      · cases h
      · split at h
        · cases h
        · next heq =>
          cases h
          exact (aeadOpen_ok heq).2.2

end

end Zet.Wire
