import Zet.Wire.Message

/-!
# Messages in the clear

The codecs of `src/wire/message.cpp` for what travels before authentication or beside it: the
handshake (Hello, Challenge, Auth, AuthOk) with its option lists, the bootstrap exchange with the
environment it forwards, and the local socket of `zet-muxd`. As in `Zet.Wire.Message`, each parser
reads the bytes after the type byte and each writer emits the type byte first.

`TlvList` and `BootstrapEnvironment` carry the rules their `append` and `add` enforce, so that a list
that exists can always be written.
-/

namespace Zet.Wire
open Zet.Core

/-- `PROTOCOL_VERSION_MAX`. -/
def protocolVersionMax : Nat := 2
/-- `MAX_HANDSHAKE_FRAME`. -/
def maxHandshakeFrame : Nat := 4 * 1024
/-- `SESSION_ID_SIZE`. -/
def sessionIdSize : Nat := 16
/-- `HANDSHAKE_NONCE_SIZE`. -/
def handshakeNonceSize : Nat := 16
/-- `BOOTSTRAP_NONCE_SIZE`. -/
def bootstrapNonceSize : Nat := 32
/-- `crypto::MAC_SIZE`. -/
def macSize : Nat := 32
/-- `crypto::KEY_SIZE` and `crypto::PUBLIC_KEY_SIZE`. -/
def keySize : Nat := 32
/-- `TLV_CRITICAL_BIT`. -/
def tlvCriticalBit : Nat := 0x8000
/-- `TLV_GRID_CAPABLE`. -/
def tlvGridCapable : Nat := 0x0003
/-- `MAX_TLV_OPTIONS`. -/
def maxTlvOptions : Nat := 16
/-- `MAX_TLV_VALUE_SIZE`. -/
def maxTlvValueSize : Nat := 0xFFFF
/-- `MAX_BOOTSTRAP_ENV`. -/
def maxBootstrapEnv : Nat := 17
/-- `MAX_ENV_NAME`. -/
def maxEnvName : Nat := 20
/-- `MAX_ENV_VALUE`. -/
def maxEnvValue : Nat := 64
/-- `MAX_HANDOFF_PREFIX`: one handshake frame with its header. -/
def maxHandoffPrefix : Nat := headerSize + maxHandshakeFrame

/-- `HELLO_MAGIC`. -/
def helloMagic : Bytes := asciiBytes "ZET1"

/-- `std::array<std::byte, size>`. -/
abbrev Octets (size : Nat) := { bytes : Bytes // bytes.length = size }

/-- An array of one byte over and over. -/
def Octets.fill (size : Nat) (b : UInt8) : Octets size := ⟨List.replicate size b, List.length_replicate⟩

/-- `SessionId`. -/
abbrev SessionId := Octets sessionIdSize
/-- `HandshakeNonce`. -/
abbrev HandshakeNonce := Octets handshakeNonceSize
/-- `BootstrapNonce`. -/
abbrev BootstrapNonce := Octets bootstrapNonceSize
/-- `crypto::Mac`. -/
abbrev Mac := Octets macSize
/-- `crypto::PublicKey` and the registration key. -/
abbrev KeyBytes := Octets keySize

/-- `ReadArray`. -/
def readArray (size : Nat) : Reader (Octets size) := fun left =>
  if h : size > left.length then .error .truncated
  else .ok (⟨left.take size, List.length_take_of_le (Nat.not_lt.mp h)⟩, left.drop size)

/-- `WriteBytes` of a fixed array. -/
def writeArray {size : Nat} (a : Octets size) : Writer Unit := writeBytes a.val

/-- A list without repetition grows by a new entry. -/
lemma nodup_map_concat {α β : Type} {key : α → β} {l : List α} {a : α} (h : (l.map key).Nodup)
    (new : key a ∉ l.map key) : ((l ++ [a]).map key).Nodup := by
  rw [List.map_append, List.map_singleton, List.nodup_append]
  refine ⟨h, List.nodup_cons.mpr ⟨by simp, List.nodup_nil⟩, ?_⟩
  intro b hb c hc heq
  rw [heq, List.mem_singleton.mp hc] at hb
  exact new hb

/-- `TlvOption`. -/
structure TlvOption where
  type : Nat
  value : Bytes
deriving DecidableEq, Repr

/-- `TlvOption::IsCritical`. -/
def TlvOption.isCritical (option : TlvOption) : Bool := option.type &&& tlvCriticalBit != 0

/-- `TlvList`: no type twice, no value wider than its length field, no more than fit. -/
structure TlvList where
  options : List TlvOption
  distinct : (options.map TlvOption.type).Nodup
  narrow : ∀ o ∈ options, o.value.length ≤ maxTlvValueSize
  few : options.length ≤ maxTlvOptions
deriving DecidableEq, Repr

/-- The list a message starts with. -/
def TlvList.empty : TlvList := ⟨[], List.nodup_nil, by simp, by simp⟩

/-- The list with the one option of a client that takes snapshots. -/
def TlvList.capable : TlvList := ⟨[⟨tlvGridCapable, [0, 1]⟩], by decide, by decide, by decide⟩

/-- `TlvList::Append`. -/
def TlvList.append (list : TlvList) (option : TlvOption) : Except ProtoError TlvList :=
  if wide : option.value.length > maxTlvValueSize then .error .lengthLimitExceeded
  else if taken : option.type ∈ list.options.map TlvOption.type then .error .malformedField
  else if full : list.options.length = maxTlvOptions then .error .lengthLimitExceeded
  else .ok {
    options := list.options ++ [option]
    distinct := nodup_map_concat list.distinct taken
    narrow := by
      intro o ho
      rcases List.mem_append.mp ho with ho | ho
      · exact list.narrow o ho
      · rw [List.mem_singleton.mp ho]
        exact Nat.not_lt.mp wide
    few := by
      have hfew := list.few
      rw [List.length_append, List.length_singleton]
      omega }

/-- The loop of `ParseOptions`, for at most `fuel` options. -/
def parseOptionsLoop : (fuel : Nat) → TlvList → Reader TlvList
  | 0, _ => throw .truncated
  | fuel + 1, options => do
    if (← readRest).isEmpty then return options
    let type ← readBE 2
    let length ← readBE 2
    let value ← readBytes length
    -- No version defines a critical option, so every one of them is unknown.
    if (TlvOption.mk type value).isCritical then throw .unsupportedCriticalOption
    match options.append ⟨type, value⟩ with
    | .error e => throw e
    | .ok options => parseOptionsLoop fuel options

/-- `ParseOptions`: to the end of the message. -/
def parseOptions : Reader TlvList := do
  parseOptionsLoop ((← readRest).length + 1) TlvList.empty

/-- One option of `WriteOptions`. -/
def writeOption (option : TlvOption) : Writer Unit := do
  writeBE 2 option.type
  writeBE 2 option.value.length
  writeBytes option.value

/-- `WriteOptions`. -/
def writeOptions (options : TlvList) : Writer Unit := options.options.forM writeOption

/-- `HelloMessage`. -/
structure HelloMessage where
  versionMin : Nat
  versionMax : Nat
  id : SessionId
  clientNonce : HandshakeNonce
  options : TlvList
deriving DecidableEq, Repr

/-- `ChallengeMessage`. -/
structure ChallengeMessage where
  version : Nat
  serverNonce : HandshakeNonce
  options : TlvList
deriving DecidableEq, Repr

/-- `AuthMessage`. -/
structure AuthMessage where
  clientTag : Mac
deriving DecidableEq, Repr

/-- `AuthOkMessage`. -/
structure AuthOkMessage where
  serverTag : Mac
  serverReceiveOffset : Nat
deriving DecidableEq, Repr

/-- The nine bytes every Hello opens with, less the type byte: magic and version range. -/
def parseVersionRange : Reader (Nat × Nat) := do
  let versionMin ← readBE 2
  let versionMax ← readBE 2
  if versionMin > versionMax then throw .malformedField
  return (versionMin, versionMax)

/-- `ParseHello`. -/
def parseHello : Reader HelloMessage := do
  let magic ← readBytes helloMagic.length
  if magic ≠ helloMagic then throw .malformedField
  let (versionMin, versionMax) ← parseVersionRange
  let id ← readArray sessionIdSize
  let nonce ← readArray handshakeNonceSize
  let options ← parseOptions
  return ⟨versionMin, versionMax, id, nonce, options⟩

/-- `WriteHello`. -/
def writeHello (m : HelloMessage) : Writer Unit := do
  writeMessageType .hello
  writeBytes helloMagic
  writeBE 2 m.versionMin
  writeBE 2 m.versionMax
  writeArray m.id
  writeArray m.clientNonce
  writeOptions m.options

/-- `ParseChallenge`. -/
def parseChallenge : Reader ChallengeMessage := do
  let version ← readBE 2
  let nonce ← readArray handshakeNonceSize
  let options ← parseOptions
  return ⟨version, nonce, options⟩

/-- `WriteChallenge`. -/
def writeChallenge (m : ChallengeMessage) : Writer Unit := do
  writeMessageType .challenge
  writeBE 2 m.version
  writeArray m.serverNonce
  writeOptions m.options

/-- `ParseAuth`. -/
def parseAuth : Reader AuthMessage := do
  let tag ← readArray macSize
  requireExhausted
  return ⟨tag⟩

/-- `WriteAuth`. -/
def writeAuth (m : AuthMessage) : Writer Unit := do
  writeMessageType .auth
  writeArray m.clientTag

/-- `ParseAuthOk`. -/
def parseAuthOk : Reader AuthOkMessage := do
  let tag ← readArray macSize
  let offset ← readBE 8
  requireExhausted
  return ⟨tag, offset⟩

/-- `WriteAuthOk`. -/
def writeAuthOk (m : AuthOkMessage) : Writer Unit := do
  writeMessageType .authOk
  writeArray m.serverTag
  writeBE 8 m.serverReceiveOffset

/-- `FORWARDED_NAMES`: the terminal type and the locale. -/
def forwardedNames : List Bytes :=
  ["TERM", "COLORTERM", "LANG", "LANGUAGE", "LC_ALL", "LC_ADDRESS", "LC_COLLATE", "LC_CTYPE",
    "LC_IDENTIFICATION", "LC_MEASUREMENT", "LC_MESSAGES", "LC_MONETARY", "LC_NAME", "LC_NUMERIC",
    "LC_PAPER", "LC_TELEPHONE", "LC_TIME"].map asciiBytes

/-- `IsForwardedVariable`. -/
def isForwardedVariable (name : Bytes) : Bool := forwardedNames.contains name

/-- `IsPrintable`: every byte from `FIRST_PRINTABLE` to `LAST_PRINTABLE`. -/
def isPrintable (text : Bytes) : Bool := text.all fun c => 0x20 ≤ c && c ≤ 0x7E

/-- `EnvironmentVariable`. -/
structure EnvironmentVariable where
  name : Bytes
  value : Bytes
deriving DecidableEq, Repr

/-- What `BootstrapEnvironment::Add` admits, the list it goes to apart. -/
def EnvironmentVariable.Admitted (v : EnvironmentVariable) : Prop :=
  v.name.length ≤ maxEnvName ∧ v.value.length ≤ maxEnvValue ∧
    isForwardedVariable v.name = true ∧ isPrintable v.value = true

/-- Admission is decided by the checks it is made of. -/
instance EnvironmentVariable.decidableAdmitted (v : EnvironmentVariable) :
    Decidable v.Admitted := by
  unfold EnvironmentVariable.Admitted
  infer_instance

/-- `BootstrapEnvironment`: admitted variables, none twice, no more than fit. -/
structure BootstrapEnvironment where
  entries : List EnvironmentVariable
  admitted : ∀ v ∈ entries, v.Admitted
  distinct : (entries.map EnvironmentVariable.name).Nodup
  few : entries.length ≤ maxBootstrapEnv
deriving DecidableEq, Repr

/-- The environment an Offer starts with. -/
def BootstrapEnvironment.empty : BootstrapEnvironment :=
  ⟨[], by simp, List.nodup_nil, by simp⟩

/-- `BootstrapEnvironment::Add`: `none` where the source answers false and adds nothing. -/
def BootstrapEnvironment.add (environment : BootstrapEnvironment) (name value : Bytes) :
    Option BootstrapEnvironment :=
  if full : environment.entries.length = maxBootstrapEnv then none
  else if fits : (EnvironmentVariable.mk name value).Admitted then
    if taken : name ∈ environment.entries.map EnvironmentVariable.name then none
    else some {
      entries := environment.entries ++ [⟨name, value⟩]
      admitted := by
        intro v hv
        rcases List.mem_append.mp hv with hv | hv
        · exact environment.admitted v hv
        · rw [List.mem_singleton.mp hv]
          exact fits
      distinct := nodup_map_concat environment.distinct taken
      few := by
        have hfew := environment.few
        rw [List.length_append, List.length_singleton]
        omega }
  else none

/-- `BootstrapOfferMessage`. -/
structure BootstrapOfferMessage where
  versionMin : Nat
  versionMax : Nat
  clientKey : KeyBytes
  clientNonce : BootstrapNonce
  environment : BootstrapEnvironment
deriving DecidableEq, Repr

/-- `BootstrapAcceptMessage`. -/
structure BootstrapAcceptMessage where
  version : Nat
  agentKey : KeyBytes
  clientNonce : BootstrapNonce
  agentNonce : BootstrapNonce
  port : Nat
  orphanTimeoutSeconds : Nat
deriving DecidableEq, Repr

/-- `ReadShortText`. -/
def readShortText : Reader Bytes := do
  let length ← readBE 1
  readBytes length

/-- `WriteShortText`. -/
def writeShortText (text : Bytes) : Writer Unit := do
  writeBE 1 text.length
  writeBytes text

/-- The loop of `ParseBootstrapOffer` over the variables still announced. -/
def parseVariables : (count : Nat) → BootstrapEnvironment → Reader BootstrapEnvironment
  | 0, environment => return environment
  | count + 1, environment => do
    let name ← readShortText
    let value ← readShortText
    match environment.add name value with
    | none => throw .malformedField
    | some environment => parseVariables count environment

/-- `ParseBootstrapOffer`. -/
def parseBootstrapOffer : Reader BootstrapOfferMessage := do
  let (versionMin, versionMax) ← parseVersionRange
  let key ← readArray keySize
  let nonce ← readArray bootstrapNonceSize
  let count ← readBE 1
  if count > maxBootstrapEnv then throw .lengthLimitExceeded
  let environment ← parseVariables count BootstrapEnvironment.empty
  requireExhausted
  return ⟨versionMin, versionMax, key, nonce, environment⟩

/-- One variable of `WriteBootstrapOffer`. -/
def writeVariable (v : EnvironmentVariable) : Writer Unit := do
  writeShortText v.name
  writeShortText v.value

/-- `WriteBootstrapOffer`. -/
def writeBootstrapOffer (m : BootstrapOfferMessage) : Writer Unit := do
  if m.versionMin > m.versionMax then throw .malformedField
  writeMessageType .bootstrapOffer
  writeBE 2 m.versionMin
  writeBE 2 m.versionMax
  writeArray m.clientKey
  writeArray m.clientNonce
  writeBE 1 m.environment.entries.length
  m.environment.entries.forM writeVariable

/-- `ParseBootstrapAccept`. -/
def parseBootstrapAccept : Reader BootstrapAcceptMessage := do
  let version ← readBE 2
  let key ← readArray keySize
  let echoed ← readArray bootstrapNonceSize
  let nonce ← readArray bootstrapNonceSize
  let port ← readBE 2
  if port = 0 then throw .malformedField
  let orphanTimeout ← readBE 4
  requireExhausted
  return ⟨version, key, echoed, nonce, port, orphanTimeout⟩

/-- `WriteBootstrapAccept`. -/
def writeBootstrapAccept (m : BootstrapAcceptMessage) : Writer Unit := do
  if m.port = 0 then throw .malformedField
  writeMessageType .bootstrapAccept
  writeBE 2 m.version
  writeArray m.agentKey
  writeArray m.clientNonce
  writeArray m.agentNonce
  writeBE 2 m.port
  writeBE 4 m.orphanTimeoutSeconds

/-- `MuxRegisterMessage`. -/
structure MuxRegisterMessage where
  registration : KeyBytes
deriving DecidableEq, Repr

/-- `MuxRegisteredMessage`. -/
structure MuxRegisteredMessage where
  port : Nat
deriving DecidableEq, Repr

/-- `EMuxRefusal`. -/
inductive MuxRefusal where
  | taken | limit | malformed
deriving DecidableEq, Repr

/-- The value of each `EMuxRefusal`. -/
def MuxRefusal.toByte : MuxRefusal → Nat
  | .taken => 1
  | .limit => 2
  | .malformed => 3

/-- `IsMuxRefusal` and the cast it guards. -/
def MuxRefusal.ofByte : Nat → Option MuxRefusal
  | 1 => some .taken
  | 2 => some .limit
  | 3 => some .malformed
  | _ => none

/-- `MuxRefusedMessage`. -/
structure MuxRefusedMessage where
  reason : MuxRefusal
deriving DecidableEq, Repr

/-- `MuxHandoffMessage`. -/
structure MuxHandoffMessage where
  bytes : Bytes
deriving DecidableEq, Repr

/-- `ParseMuxRegister`. -/
def parseMuxRegister : Reader MuxRegisterMessage := do
  let key ← readArray keySize
  requireExhausted
  return ⟨key⟩

/-- `WriteMuxRegister`. -/
def writeMuxRegister (m : MuxRegisterMessage) : Writer Unit := do
  writeMessageType .muxRegister
  writeArray m.registration

/-- `ParseMuxRegistered`. -/
def parseMuxRegistered : Reader MuxRegisteredMessage := do
  let port ← readBE 2
  if port = 0 then throw .malformedField
  requireExhausted
  return ⟨port⟩

/-- `WriteMuxRegistered`. -/
def writeMuxRegistered (m : MuxRegisteredMessage) : Writer Unit := do
  if m.port = 0 then throw .malformedField
  writeMessageType .muxRegistered
  writeBE 2 m.port

/-- `ParseMuxRefused`. -/
def parseMuxRefused : Reader MuxRefusedMessage := do
  let rawReason ← readBE 1
  match MuxRefusal.ofByte rawReason with
  | none => throw .malformedField
  | some reason =>
    requireExhausted
    return ⟨reason⟩

/-- `WriteMuxRefused`. -/
def writeMuxRefused (m : MuxRefusedMessage) : Writer Unit := do
  writeMessageType .muxRefused
  writeBE 1 m.reason.toByte

/-- `ParseMuxHandoff`. -/
def parseMuxHandoff : Reader MuxHandoffMessage := do
  let length ← readBE 2
  -- An empty prefix is not a connection anyone read a Hello from.
  if length = 0 ∨ length > maxHandoffPrefix then throw .malformedField
  let bytes ← readBytes length
  requireExhausted
  return ⟨bytes⟩

/-- `WriteMuxHandoff`. -/
def writeMuxHandoff (m : MuxHandoffMessage) : Writer Unit := do
  if m.bytes.isEmpty ∨ m.bytes.length > maxHandoffPrefix then throw .malformedField
  writeMessageType .muxHandoff
  writeBE 2 m.bytes.length
  writeBytes m.bytes

end Zet.Wire
