import Zet.Lib.Watch
import Zet.Session.Channel
import Zet.Wire.Armor
import Zet.Wire.Handshake

/-!
# The bootstrap

Both ends of the bootstrap (`src/session/bootstrap.cpp`): the client writes an Offer to the agent's
standard input, the agent answers with an Accept on its standard output, and each picks the other's
message out of whatever else a remote shell prints. An end is what `Scan` does to it over a chunk: a
scanner for armor, and `Consider` for each block it finds.

Key exchange, key derivation and hashing come from libsodium and are a parameter (`BootstrapCrypto`).
-/

namespace Zet.Session
open Zet.Core Zet.Wire Zet.Lib Zet.Lib.LineScanner

/-- `crypto::KeyPair`. -/
structure KeyPair (K : Type) where
  publicKey : KeyBytes
  privateKey : K

/-- `crypto::SessionKeys`. -/
structure SessionKeys (K : Type) where
  receive : K
  transmit : K

/-- The primitives of `crypto.hpp` that the bootstrap is made of. -/
structure BootstrapCrypto (K : Type) extends Crypto K where
  /-- `KeyPairFromSeed`. -/
  keyPairFromSeed : K → KeyPair K
  /-- `DeriveClientKeys(own, peer)`. -/
  deriveClientKeys : KeyPair K → KeyBytes → Except ProtoError (SessionKeys K)
  /-- `DeriveServerKeys(own, peer)`. -/
  deriveServerKeys : KeyPair K → KeyBytes → Except ProtoError (SessionKeys K)
  /-- `Hash` of sixteen bytes. -/
  hash : Bytes → SessionId

/-- `SessionSecrets`. -/
structure SessionSecrets (K : Type) where
  id : SessionId
  registration : K
  auth : K
  connectionSeed : K

section
variable {K : Type} (P : BootstrapCrypto K)

/-- `BOOTSTRAP_LABEL`. -/
def bootstrapLabel : Bytes := asciiBytes "zet-boot"

/-- `DeriveBootstrapMaster`. -/
def deriveBootstrapMaster (exchanged : K) (version : Nat) (clientNonce agentNonce : BootstrapNonce) : K :=
  P.deriveFromInfo exchanged
    (bootstrapLabel ++ encodeBE 2 version ++ clientNonce.val ++ agentNonce.val)

/-- `DeriveSessionSecrets`, with `SessionIdOf`. -/
def deriveSessionSecrets (master : K) : SessionSecrets K :=
  let registration := P.deriveSubkey master 1 sessionContext
  { id := P.hash (P.expose registration)
    registration := registration
    auth := P.deriveSubkey master 2 sessionContext
    connectionSeed := P.deriveSubkey master 3 sessionContext }

end

/-- `BOOTSTRAP_OFFER_SIZE`. -/
def bootstrapOfferSize : Nat :=
  1 + 2 * 2 + keySize + bootstrapNonceSize + 1 + maxBootstrapEnv * (2 * 1 + maxEnvName + maxEnvValue)

/-- `BOOTSTRAP_ACCEPT_SIZE`. -/
def bootstrapAcceptSize : Nat := 1 + 2 + keySize + 2 * bootstrapNonceSize + 2 + 4

/-- `WriteArmoredMessage` into `room` characters. -/
def writeArmoredMessage (maxBodySize room : Nat) (write : Writer Unit) : Except ProtoError Bytes := do
  let body ← writeInto maxBodySize write
  let head ← writeInto headerSize do
    writeBE 4 body.length
    writeBE 1 cleartextEpoch
  writeArmor (head ++ body) room

/-- `FrameBody`: the body of a block that is exactly one cleartext frame. -/
def frameBody (block : Bytes) : Option Bytes :=
  match readFrame block maxHandshakeFrame with
  | .ok frame =>
    if frame.consumed ≠ block.length ∨ frame.header.epoch ≠ cleartextEpoch then none
    else some frame.body
  | .error _ => none

/-- `PickVersion`. -/
def pickVersion (peerMin peerMax : Nat) : Option Nat :=
  let high := min peerMax protocolVersionMax
  let low := max peerMin protocolVersionMin
  if low > high then none else some high

/-- The fields of a block that is a message of this type. -/
def messageOf (type : MessageType) (block : Bytes) : Option Bytes :=
  match frameBody block with
  | none => none
  | some body =>
    match parseMessageType body with
    | .ok (found, fields) => if found = type then some fields else none
    | .error _ => none

/-- `BootstrapResult`. -/
structure BootstrapResult (K : Type) where
  secrets : SessionSecrets K
  version : Nat
  port : Nat
  orphanTimeoutSeconds : Nat
  environment : BootstrapEnvironment

/-- `BootstrapStep`. -/
structure BootstrapStep (K : Type) where
  consumed : Nat
  result : Option (BootstrapResult K)

/-- `Scan` over a chunk. -/
def scan {K σ : Type}
    (consider : Bytes → σ → Except SessionError (Option (BootstrapResult K)) × σ)
    (scanner : LineScanner UInt8 ArmorState) (state : σ) (chunk : Bytes) :
    Except SessionError (BootstrapStep K) × LineScanner UInt8 ArmorState × σ :=
  let (step, scanner, state) := watch consider armorJudge chunk.length 0 scanner state chunk
  (step.map fun (consumed, result) => ⟨consumed, result⟩, scanner, state)

/-- `BootstrapClient`. -/
structure BootstrapClient (K : Type) where
  keys : KeyPair K
  nonce : BootstrapNonce
  environment : BootstrapEnvironment
  scanner : LineScanner UInt8 ArmorState
  ignored : Nat
  done : Bool

namespace BootstrapClient

variable {K : Type} (P : BootstrapCrypto K)

/-- `BootstrapClient::BootstrapClient`. -/
def create (seed : K) (nonce : BootstrapNonce) (environment : BootstrapEnvironment) : BootstrapClient K :=
  ⟨P.keyPairFromSeed seed, nonce, environment, fresh .start, 0, false⟩

/-- The Offer of `WriteOffer`. -/
def offer (c : BootstrapClient K) : BootstrapOfferMessage :=
  ⟨protocolVersionMin, protocolVersionMax, c.keys.publicKey, c.nonce, c.environment⟩

/-- `BootstrapClient::WriteOffer`. -/
def writeOffer (c : BootstrapClient K) (room : Nat) : Except ProtoError Bytes :=
  writeArmoredMessage bootstrapOfferSize room (writeBootstrapOffer c.offer)

/-- What the client makes of an Accept that echoes its nonce. -/
def accepted (c : BootstrapClient K) (accept : BootstrapAcceptMessage) :
    Except SessionError (BootstrapResult K) :=
  if accept.version < protocolVersionMin ∨ accept.version > protocolVersionMax then
    .error (.proto .versionMismatch)
  else
    match P.deriveClientKeys c.keys accept.agentKey with
    | .error e => .error (.proto e)
    | .ok exchanged =>
      -- The client's transmit key is the agent's receive key.
      .ok
        { secrets := deriveSessionSecrets P
            (deriveBootstrapMaster P exchanged.transmit accept.version c.nonce accept.agentNonce)
          version := accept.version
          port := accept.port
          orphanTimeoutSeconds := accept.orphanTimeoutSeconds
          environment := c.environment }

/-- `BootstrapClient::Consider`, on the count of blocks set aside. -/
def consider (c : BootstrapClient K) (block : Bytes) (ignored : Nat) :
    Except SessionError (Option (BootstrapResult K)) × Nat :=
  match messageOf .bootstrapAccept block with
  | none => (.ok none, ignored + 1)
  | some fields =>
    match parseBootstrapAccept fields with
    | .error _ => (.ok none, ignored + 1)
    | .ok (accept, _) =>
      -- Not ours until it echoes our nonce.
      if accept.clientNonce ≠ c.nonce then (.ok none, ignored + 1)
      else ((c.accepted P accept).map some, ignored)

/-- `BootstrapClient::Feed`. -/
def feed (c : BootstrapClient K) (chunk : Bytes) :
    Except SessionError (BootstrapStep K) × BootstrapClient K :=
  if c.done then (.ok ⟨0, none⟩, c)
  else
    let (step, scanner, ignored) := scan (c.consider P) c.scanner c.ignored chunk
    let c := { c with scanner := scanner, ignored := ignored }
    match step with
    | .ok ⟨consumed, some result⟩ => (.ok ⟨consumed, some result⟩, { c with done := true })
    | step => (step, c)

end BootstrapClient

/-- `BootstrapAgent`. -/
structure BootstrapAgent (K : Type) where
  keys : KeyPair K
  nonce : BootstrapNonce
  port : UInt16
  orphanTimeoutSeconds : UInt32
  scanner : LineScanner UInt8 ArmorState
  accept : Option BootstrapAcceptMessage
  ignored : Nat

namespace BootstrapAgent

variable {K : Type} (P : BootstrapCrypto K)

/-- `BootstrapAgent::BootstrapAgent`. -/
def create (seed : K) (nonce : BootstrapNonce) (port : UInt16) (orphanTimeoutSeconds : UInt32) :
    BootstrapAgent K :=
  ⟨P.keyPairFromSeed seed, nonce, port, orphanTimeoutSeconds, fresh .start, none, 0⟩

/-- The Accept to an Offer, in the version both hold. -/
def answer (a : BootstrapAgent K) (offer : BootstrapOfferMessage) (version : Nat) :
    BootstrapAcceptMessage :=
  ⟨version, a.keys.publicKey, offer.clientNonce, a.nonce, a.port.toNat, a.orphanTimeoutSeconds.toNat⟩

/-- What the agent makes of an Offer: the result, and the Accept it will write. -/
def offered (a : BootstrapAgent K) (offer : BootstrapOfferMessage) :
    Except SessionError (BootstrapResult K × BootstrapAcceptMessage) :=
  match pickVersion offer.versionMin offer.versionMax with
  | none => .error (.proto .versionMismatch)
  | some version =>
    match P.deriveServerKeys a.keys offer.clientKey with
    | .error e => .error (.proto e)
    | .ok exchanged =>
      .ok
        ({ secrets := deriveSessionSecrets P
            (deriveBootstrapMaster P exchanged.receive version offer.clientNonce a.nonce)
           version := version
           port := a.port.toNat
           orphanTimeoutSeconds := a.orphanTimeoutSeconds.toNat
           environment := offer.environment },
          a.answer offer version)

/-- `BootstrapAgent::Consider`, on the Accept there is to write and the count of blocks set aside. -/
def consider (a : BootstrapAgent K) (block : Bytes) (state : Option BootstrapAcceptMessage × Nat) :
    Except SessionError (Option (BootstrapResult K)) × Option BootstrapAcceptMessage × Nat :=
  match messageOf .bootstrapOffer block with
  | none => (.ok none, state.1, state.2 + 1)
  | some fields =>
    match parseBootstrapOffer fields with
    | .error e => (.error (.proto e), state)
    | .ok (offer, _) =>
      match a.offered P offer with
      | .error e => (.error e, state)
      | .ok (result, accept) => (.ok (some result), some accept, state.2)

/-- `BootstrapAgent::Feed`. -/
def feed (a : BootstrapAgent K) (chunk : Bytes) :
    Except SessionError (BootstrapStep K) × BootstrapAgent K :=
  if a.accept.isSome then (.ok ⟨0, none⟩, a)
  else
    let (step, scanner, accept, ignored) := scan (a.consider P) a.scanner (a.accept, a.ignored) chunk
    (step, { a with scanner := scanner, accept := accept, ignored := ignored })

/-- `BootstrapAgent::AnnouncePort`. -/
def announcePort (a : BootstrapAgent K) (port : UInt16) : BootstrapAgent K :=
  { a with port := port, accept := a.accept.map fun accept => { accept with port := port.toNat } }

/-- `BootstrapAgent::WriteAccept`. -/
def writeAccept (a : BootstrapAgent K) (room : Nat) : Except ProtoError Bytes :=
  match a.accept with
  | none => .error .unexpectedMessage
  | some accept => writeArmoredMessage bootstrapAcceptSize room (writeBootstrapAccept accept)

end BootstrapAgent

end Zet.Session
