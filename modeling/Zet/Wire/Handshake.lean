import Zet.Wire.ClearFrame

/-!
# The resume handshake

The two automata of `src/wire/handshake.cpp`: the client says Hello, the server answers with a
Challenge, the client proves it holds the session's authentication key over all that was said, and the
server proves the same and adds how much of the client's stream it holds. Bytes in, bytes out, no
clock and no session.

Hash, key derivation and authentication come from libsodium and are a parameter (`Crypto`). The nonces
a session remembers are owned by the session and only read here, so every call is given them.
-/

namespace Zet.Wire
open Zet.Core

/-- `PreAuthError`. -/
structure PreAuthError where
  error : ProtoError
deriving DecidableEq, Repr

/-- `PreAuthError::Disposition`: what an unauthenticated peer can cause never ends a session. -/
def PreAuthError.disposition (e : PreAuthError) : Disposition :=
  if e.error.disposition = .killSession then .closeConnection else e.error.disposition

/-- `MAX_REMEMBERED_NONCES`. -/
def maxRememberedNonces : Nat := 64

/-- `NonceMemory`. -/
structure NonceMemory where
  items : List HandshakeNonce
  count : Nat
  next : Nat
deriving DecidableEq, Repr

/-- `NonceMemory{}`. -/
def NonceMemory.empty : NonceMemory :=
  ⟨List.replicate maxRememberedNonces ⟨List.replicate handshakeNonceSize 0, rfl⟩, 0, 0⟩

/-- `NonceMemory::Seen`. -/
def NonceMemory.seen (m : NonceMemory) (nonce : HandshakeNonce) : Bool :=
  (m.items.take m.count).contains nonce

/-- `NonceMemory::Remember`. -/
def NonceMemory.remember (m : NonceMemory) (nonce : HandshakeNonce) : NonceMemory where
  items := m.items.set m.next nonce
  next := (m.next + 1) % maxRememberedNonces
  count := min (m.count + 1) maxRememberedNonces

/-- The primitives of `crypto.hpp` that the handshake is made of. -/
structure Crypto (K : Type) where
  /-- `Key{}`. -/
  zero : K
  /-- `Key::Expose`. -/
  expose : K → Bytes
  /-- `DeriveFromInfo(key, info)`. -/
  deriveFromInfo : K → Bytes → K
  /-- `DeriveSubkey(key, number, context)`. -/
  deriveSubkey : K → Nat → Bytes → K
  /-- `DeriveBytes(key, number, context)` of a salt. -/
  deriveBytes : K → Nat → Bytes → Bytes
  /-- `Authenticate(message, key)`; `VerifyMac` compares with it. -/
  authenticate : Bytes → K → Mac

variable {K : Type} (P : Crypto K)

/-- `SESSION_CONTEXT`. -/
def sessionContext : Bytes := asciiBytes "zet-sess"
/-- `CONNECTION_CONTEXT`. -/
def connectionContext : Bytes := asciiBytes "zet-conn"

/-- `DeriveConnectionKeys`: both nonces go in, in a fixed order. -/
def deriveConnectionKeys (connectionSeed : K) (clientNonce serverNonce : HandshakeNonce) :
    ConnectionKeys K :=
  let connection := P.deriveFromInfo connectionSeed (clientNonce.val ++ serverNonce.val)
  { clientToServer := P.deriveSubkey connection 1 connectionContext
    serverToClient := P.deriveSubkey connection 2 connectionContext
    saltClientToServer := P.deriveBytes connection 3 connectionContext
    saltServerToClient := P.deriveBytes connection 4 connectionContext }

/-- `TRANSCRIPT_LABEL`. -/
def transcriptLabel : Bytes := asciiBytes "zet-transcript-1"
/-- `CLIENT_TAG_LABEL`. -/
def clientTagLabel : Bytes := asciiBytes "zet-c"
/-- `SERVER_TAG_LABEL`. -/
def serverTagLabel : Bytes := asciiBytes "zet-s"

/-- `Transcript`: the running hash of everything said so far. -/
@[ext] structure Transcript (K : Type) where
  state : K
deriving DecidableEq, Repr

/-- `Transcript::Transcript`. -/
def Transcript.create : Transcript K := ⟨P.deriveFromInfo P.zero transcriptLabel⟩

/-- `Transcript::Absorb`. -/
def Transcript.absorb (script : Transcript K) (message : Bytes) : Transcript K :=
  ⟨P.deriveFromInfo script.state message⟩

/-- `Transcript::Bind`. -/
def Transcript.bound (script : Transcript K) (label : Bytes) : Bytes := label ++ P.expose script.state

/-- `Transcript::Tag`. -/
def Transcript.tag (script : Transcript K) (auth : K) (label : Bytes) : Mac :=
  P.authenticate (script.bound P label) auth

/-- `Transcript::Verify`. -/
def Transcript.verify (script : Transcript K) (auth : K) (label : Bytes) (mac : Mac) : Bool :=
  script.tag P auth label == mac

/-- `AbsorbReceiveOffset`. -/
def Transcript.absorbReceiveOffset (script : Transcript K) (offset : Nat) : Transcript K :=
  script.absorb P (encodeBE 8 offset)

/-- `NegotiateVersion`. -/
def negotiateVersion (peerMin peerMax ourMax : Nat) : Except PreAuthError Nat :=
  if peerMin > peerMax then .error ⟨.malformedField⟩
  else if ourMax < protocolVersionMin then .error ⟨.versionMismatch⟩
  else if peerMin > ourMax ∨ protocolVersionMin > peerMax then .error ⟨.versionMismatch⟩
  else .ok (min peerMax ourMax)

/-- `PeekHelloSessionId`. -/
def peekHelloSessionId (body : Bytes) : Except PreAuthError SessionId :=
  match parseMessageType body with
  | .ok (.hello, rest) =>
    match parseHello rest with
    | .ok (hello, _) => .ok hello.id
    | .error e => .error ⟨e⟩
  | _ => .error ⟨.unexpectedMessage⟩

/-- `HandshakeStep`: what to put on the wire and whether anything is left to do after it. -/
structure HandshakeStep where
  written : Bytes
  complete : Bool
deriving DecidableEq, Repr

/-- `HandshakeResult`. -/
structure HandshakeResult (K : Type) where
  keys : ConnectionKeys K
  peerReceiveOffset : Nat
  clientNonce : HandshakeNonce
  serverNonce : HandshakeNonce
  fallbackKeys : Option (ConnectionKeys K)
  version : Nat
deriving DecidableEq, Repr

/-- `ClientHandshake::EStage`. -/
inductive ClientHandshakeStage where
  | fresh | sentHello | sentAuth | done | spent
deriving DecidableEq, Repr

/-- `ClientHandshake`. -/
structure ClientHandshake (K : Type) where
  id : SessionId
  auth : K
  connectionSeed : K
  clientNonce : HandshakeNonce
  serverNonce : HandshakeNonce
  script : Transcript K
  keys : Option (ConnectionKeys K)
  peerReceiveOffset : Nat
  version : Nat
  ceiling : UInt16
  gridCapable : Bool
  stage : ClientHandshakeStage
deriving DecidableEq, Repr

/-- The nonce of a handshake that has not heard one. -/
def blankNonce : HandshakeNonce := ⟨List.replicate handshakeNonceSize 0, rfl⟩

namespace ClientHandshake

/-- `ClientHandshake::ClientHandshake`. -/
def create (id : SessionId) (auth connectionSeed : K) (clientNonce : HandshakeNonce)
    (ceiling : UInt16) (gridCapable : Bool) : ClientHandshake K :=
  ⟨id, auth, connectionSeed, clientNonce, blankNonce, Transcript.create P, none, 0, 0, ceiling,
    gridCapable, .fresh⟩

/-- The options of the client's Hello. -/
def helloOptions (c : ClientHandshake K) : Except ProtoError TlvList :=
  if c.gridCapable then TlvList.empty.append ⟨tlvGridCapable, [0, 1]⟩ else .ok TlvList.empty

/-- `ClientHandshake::StartStep`. -/
def startStep (c : ClientHandshake K) (seen : NonceMemory) (out : Nat) :
    Except PreAuthError Bytes × ClientHandshake K :=
  if c.stage ≠ .fresh then (.error ⟨.unexpectedMessage⟩, c)
  else if seen.seen c.clientNonce then (.error ⟨.nonceReused⟩, c)
  else
    match c.helloOptions with
    | .error e => (.error ⟨e⟩, c)
    | .ok options =>
      let hello : HelloMessage :=
        ⟨protocolVersionMin, c.ceiling.toNat, c.id, c.clientNonce, options⟩
      match writeInto out (writeHello hello) with
      | .error e => (.error ⟨e⟩, c)
      | .ok written =>
        (.ok written, { c with script := c.script.absorb P written, stage := .sentHello })

/-- `ClientHandshake::Start`: a refusal ends the handshake. -/
def start (c : ClientHandshake K) (seen : NonceMemory) (out : Nat) :
    Except PreAuthError Bytes × ClientHandshake K :=
  match c.startStep P seen out with
  | (.error e, c) => (.error e, { c with stage := .spent })
  | (.ok written, c) => (.ok written, c)

/-- `ClientHandshake::OnChallenge`; `fields` is what follows the type byte of `body`. -/
def onChallenge (c : ClientHandshake K) (seen : NonceMemory) (fields body : Bytes) (out : Nat) :
    Except PreAuthError HandshakeStep × ClientHandshake K :=
  match parseChallenge fields with
  | .error e => (.error ⟨e⟩, c)
  | .ok (challenge, _) =>
    if challenge.version < protocolVersionMin ∨ challenge.version > c.ceiling.toNat then
      (.error ⟨.versionMismatch⟩, c)
    else if seen.seen challenge.serverNonce then (.error ⟨.nonceReused⟩, c)
    else
      let c := { c with
        serverNonce := challenge.serverNonce
        version := challenge.version
        script := c.script.absorb P body }
      match writeInto out (writeAuth ⟨c.script.tag P c.auth clientTagLabel⟩) with
      | .error e => (.error ⟨e⟩, c)
      | .ok written =>
        (.ok ⟨written, false⟩, { c with script := c.script.absorb P written, stage := .sentAuth })

/-- `ClientHandshake::OnAuthOk`. -/
def onAuthOk (c : ClientHandshake K) (fields : Bytes) :
    Except PreAuthError HandshakeStep × ClientHandshake K :=
  match parseAuthOk fields with
  | .error e => (.error ⟨e⟩, c)
  | .ok (ok, _) =>
    let c := { c with script := c.script.absorbReceiveOffset P ok.serverReceiveOffset }
    if !c.script.verify P c.auth serverTagLabel ok.serverTag then
      (.error ⟨.authenticationFailed⟩, c)
    else
      (.ok ⟨[], true⟩, { c with
        keys := some (deriveConnectionKeys P c.connectionSeed c.clientNonce c.serverNonce)
        peerReceiveOffset := ok.serverReceiveOffset
        stage := .done })

/-- `ClientHandshake::HandleStep`. -/
def handleStep (c : ClientHandshake K) (seen : NonceMemory) (body : Bytes) (out : Nat) :
    Except PreAuthError HandshakeStep × ClientHandshake K :=
  match parseMessageType body, c.stage with
  | .ok (.challenge, fields), .sentHello => c.onChallenge P seen fields body out
  | .ok (.authOk, fields), .sentAuth => c.onAuthOk P fields
  | _, _ => (.error ⟨.unexpectedMessage⟩, c)

/-- `ClientHandshake::Handle`: a refusal ends the handshake. -/
def handle (c : ClientHandshake K) (seen : NonceMemory) (body : Bytes) (out : Nat) :
    Except PreAuthError HandshakeStep × ClientHandshake K :=
  match c.handleStep P seen body out with
  | (.error e, c) => (.error e, { c with stage := .spent })
  | (.ok step, c) => (.ok step, c)

/-- `ClientHandshake::TakeResult`. -/
def takeResult (c : ClientHandshake K) : Option (HandshakeResult K) × ClientHandshake K :=
  match c.stage, c.keys with
  | .done, some keys =>
    (some ⟨keys, c.peerReceiveOffset, c.clientNonce, c.serverNonce, none, c.version⟩,
      { c with stage := .spent, keys := none })
  | _, _ => (none, c)

end ClientHandshake

/-- `ServerHandshake::EStage`. -/
inductive ServerHandshakeStage where
  | fresh | sentChallenge | done | spent
deriving DecidableEq, Repr

/-- `ServerHandshake`. -/
structure ServerHandshake (K : Type) where
  auth : K
  connectionSeed : K
  serverNonce : HandshakeNonce
  clientNonce : HandshakeNonce
  receiveOffset : UInt64
  previousSeed : Option K
  script : Transcript K
  keys : Option (ConnectionKeys K)
  fallbackKeys : Option (ConnectionKeys K)
  version : Nat
  ceiling : UInt16
  stage : ServerHandshakeStage
deriving DecidableEq, Repr

namespace ServerHandshake

/-- `ServerHandshake::ServerHandshake`. -/
def create (auth connectionSeed : K) (serverNonce : HandshakeNonce) (receiveOffset : UInt64)
    (previousSeed : Option K) (ceiling : UInt16) : ServerHandshake K :=
  ⟨auth, connectionSeed, serverNonce, blankNonce, receiveOffset, previousSeed, Transcript.create P,
    none, none, 0, ceiling, .fresh⟩

/-- `ServerHandshake::OnHello`; `fields` is what follows the type byte of `body`. -/
def onHello (s : ServerHandshake K) (seen : NonceMemory) (fields body : Bytes) (out : Nat) :
    Except PreAuthError HandshakeStep × ServerHandshake K :=
  match parseHello fields with
  | .error e => (.error ⟨e⟩, s)
  | .ok (hello, _) =>
    match negotiateVersion hello.versionMin hello.versionMax s.ceiling.toNat with
    | .error e => (.error e, s)
    | .ok version =>
      if seen.seen hello.clientNonce || seen.seen s.serverNonce then (.error ⟨.nonceReused⟩, s)
      else
        let s := { s with
          clientNonce := hello.clientNonce
          version := version
          script := s.script.absorb P body }
        match writeInto out (writeChallenge ⟨version, s.serverNonce, TlvList.empty⟩) with
        | .error e => (.error ⟨e⟩, s)
        | .ok written =>
          (.ok ⟨written, false⟩,
            { s with script := s.script.absorb P written, stage := .sentChallenge })

/-- `ServerHandshake::OnAuth`. -/
def onAuth (s : ServerHandshake K) (fields body : Bytes) (out : Nat) :
    Except PreAuthError HandshakeStep × ServerHandshake K :=
  match parseAuth fields with
  | .error e => (.error ⟨e⟩, s)
  | .ok (auth, _) =>
    if !s.script.verify P s.auth clientTagLabel auth.clientTag then
      (.error ⟨.authenticationFailed⟩, s)
    else
      let s := { s with
        script := (s.script.absorb P body).absorbReceiveOffset P s.receiveOffset.toNat
        keys := some (deriveConnectionKeys P s.connectionSeed s.clientNonce s.serverNonce)
        fallbackKeys := s.previousSeed.map fun seed =>
          deriveConnectionKeys P seed s.clientNonce s.serverNonce }
      let ok : AuthOkMessage := ⟨s.script.tag P s.auth serverTagLabel, s.receiveOffset.toNat⟩
      match writeInto out (writeAuthOk ok) with
      | .error e => (.error ⟨e⟩, s)
      | .ok written => (.ok ⟨written, true⟩, { s with stage := .done })

/-- `ServerHandshake::HandleStep`. -/
def handleStep (s : ServerHandshake K) (seen : NonceMemory) (body : Bytes) (out : Nat) :
    Except PreAuthError HandshakeStep × ServerHandshake K :=
  match parseMessageType body, s.stage with
  | .ok (.hello, fields), .fresh => s.onHello P seen fields body out
  | .ok (.auth, fields), .sentChallenge => s.onAuth P fields body out
  | _, _ => (.error ⟨.unexpectedMessage⟩, s)

/-- `ServerHandshake::Handle`: a refusal ends the handshake. -/
def handle (s : ServerHandshake K) (seen : NonceMemory) (body : Bytes) (out : Nat) :
    Except PreAuthError HandshakeStep × ServerHandshake K :=
  match s.handleStep P seen body out with
  | (.error e, s) => (.error e, { s with stage := .spent })
  | (.ok step, s) => (.ok step, s)

/-- `ServerHandshake::TakeResult`. -/
def takeResult (s : ServerHandshake K) : Option (HandshakeResult K) × ServerHandshake K :=
  match s.stage, s.keys with
  | .done, some keys =>
    (some ⟨keys, 0, s.clientNonce, s.serverNonce, s.fallbackKeys, s.version⟩,
      { s with stage := .spent, keys := none, fallbackKeys := none })
  | _, _ => (none, s)

end ServerHandshake

end Zet.Wire
