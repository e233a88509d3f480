import MucOpcua.Server.Transport

/-!
# The secure channel services

`osc_handler.c`: OpenSecureChannel and CloseSecureChannel. The state is threaded through every
return path, because a failure leaves what was assigned before it.
-/

namespace MucOpcua

variable {ω σ : Type} (cfg : ServerConfig ω σ)

/-! ## Checks on the request -/

/-- `mu_opn_time_sync_allows`: DateTimes are ticks of 100 ns, 0 stands for no clock. -/
def opnTimeSyncAllows (serverTime clientTime : Int64) (maxSkewNs : UInt64) : Bool :=
  if serverTime = 0 ∨ clientTime = 0 then true
  else
    let diff := serverTime - clientTime
    let diffTicks := (if diff < 0 then -diff else diff).toUInt64
    if 18446744073709551615 / 100 < diffTicks then false else diffTicks * 100 ≤ maxSkewNs

/-- The configured window, or `MU_TIME_SYNC_MAX_CLOCK_SKEW_MS`. -/
def acceptableSkewNs : UInt64 :=
  if cfg.acceptableClockSkewNs ≠ 0 then cfg.acceptableClockSkewNs else 300000 * 1000000

structure OpenRequest where
  securityMode : UInt32
  clientNonce : MuString
  requestedLifetime : UInt32

def readOpenRequest : ReadM OpenRequest := do
  let _clientProto ← binaryReadUint32
  let requestType ← binaryReadUint32
  let securityMode ← binaryReadUint32
  if 1 < requestType then throw Status.badRequestTypeInvalid
  let clientNonce ← binaryReadBytestring
  if 0 < clientNonce.length ∧ (clientNonce.length < 32 ∨ 128 < clientNonce.length) then
    throw Status.badNonceInvalid
  let requestedLifetime ← binaryReadUint32
  return { securityMode, clientNonce, requestedLifetime }

/-! ## The channel id -/

def secureChannelIdUsedByOtherConnection (s : Server ω σ) (channelId : UInt32) : Bool :=
  channelId ≠ 0 && s.peers.any fun peer =>
    peer.clientHandle.isSome && peer.secureChannel.isOpen &&
      peer.secureChannel.channelId == channelId

/-- The loop of `ensure_unique_secure_channel_id`. -/
def uniqueSecureChannelId (s : Server ω σ) : Nat → UInt32 → Option UInt32
  | 0, _ => none
  | rounds + 1, candidate =>
    let candidate := if candidate = 0 then 1 else candidate
    if secureChannelIdUsedByOtherConnection s candidate then
      uniqueSecureChannelId s rounds (candidate + 0x9E3779B9)
    else some candidate

/-- `ensure_unique_secure_channel_id`: one round more than there are connections. -/
def ensureUniqueSecureChannelId (s : Server ω σ) : Except BadStatus (Server ω σ) :=
  match uniqueSecureChannelId s (s.peers.length + 2) s.channel.channelId with
  | none => .error Status.badSecurityChecksFailed
  | some channelId => .ok (s.setChannel { s.channel with channelId })

/-! ## Application authentication and the server's nonce -/

def enforceOscApplicationAuth (s : Server ω σ) : Except BadStatus Unit :=
  if s.channel.policy = .none ∨ s.channel.policy = .invalid ∨ cfg.allowUntrustedClients then .ok ()
  else
    match cfg.trustList with
    | none => .error Status.badSecurityChecksFailed
    | some trustList =>
      if s.opnPendingClientCert.length ≤ 0 ∨
          trustListMatch trustList s.opnPendingClientCert.bytes = false then
        .error Status.badSecurityChecksFailed
      else .ok ()

/-- The ServerNonce; under an ECC policy it is an ephemeral public key, kept with the curve and the
context of its key pair. -/
structure ServerNonce where
  nonce : List UInt8
  keypair : Option (EccCurve × List UInt8)

def generateEccNonce (crypto : CryptoAdapter ω) (policy : SecurityPolicy) (clientNonce : MuString)
    (world : ω) : Except BadStatus ServerNonce × ω :=
  match crypto.eccGenerateEphemeral, crypto.eccEcdhDerive, securityPolicyEccCurve policy with
  | some generate, some _, some curve =>
    match generate world curve with
    | (.error status, world) => (.error status, world)
    | (.ok (nonce, ctx), world) =>
      if nonce.length ≠ securityPolicyNonceLength policy ∨ clientNonce.length ≠ nonce.length then
        (.error Status.badNonceInvalid, world)
      else (.ok ⟨nonce, some (curve, ctx)⟩, world)
  | _, _, _ => (.error Status.badSecurityPolicyRejected, world)

/-- `MU_SERVER_NONCE_LENGTH` random bytes. -/
def generateRandomNonce (world : ω) : Except BadStatus ServerNonce × ω :=
  match cfg.entropyAdapter 32 world with
  | (.error _, world) => (.error Status.badSecurityChecksFailed, world)
  | (.ok nonce, world) => (.ok ⟨nonce.toList, none⟩, world)

def generateServerNonce (policy : SecurityPolicy) (clientNonce : MuString) (world : ω) :
    Except BadStatus ServerNonce × ω :=
  match cfg.cryptoAdapter with
  | some crypto =>
    if securityPolicyAsymFamily policy = .ecc then generateEccNonce crypto policy clientNonce world
    else generateRandomNonce cfg world
  | none => generateRandomNonce cfg world

/-! ## Keys -/

/-- What a key derivation leaves in the channel: the keys, or blank ones. -/
def derivedOrBlank (policy : SecurityPolicy) : Except BadStatus SymKeys → SymKeys
  | .ok keys => keys
  | .error _ => SymKeys.blank policy

def deriveEccKeys (crypto : CryptoAdapter ω) (channel : SecureChannel) (curve : EccCurve)
    (ctx serverNonce clientNonce : List UInt8) : Except BadStatus Unit × SecureChannel :=
  match crypto.eccEcdhDerive with
  | none => (.error Status.badInternalError, channel)
  | some derive =>
    match derive curve ctx clientNonce with
    | .error status => (.error status, channel)
    | .ok shared =>
      let serverKeys := eccDeriveChannelKeys crypto channel.policy shared true serverNonce clientNonce
      let channel := { channel with serverKeys := derivedOrBlank channel.policy serverKeys }
      match serverKeys with
      | .error status => (.error status, channel)
      | .ok _ =>
        let clientKeys :=
          eccDeriveChannelKeys crypto channel.policy shared false serverNonce clientNonce
        (clientKeys.map fun _ => (),
          { channel with clientKeys := derivedOrBlank channel.policy clientKeys })

def deriveRsaKeys (crypto : CryptoAdapter ω) (channel : SecureChannel)
    (serverNonce clientNonce : List UInt8) : Except BadStatus Unit × SecureChannel :=
  let clientKeys := symKeysDerive crypto channel.policy serverNonce clientNonce
  let channel := { channel with clientKeys := derivedOrBlank channel.policy clientKeys }
  match clientKeys with
  | .error status => (.error status, channel)
  | .ok _ =>
    let serverKeys := symKeysDerive crypto channel.policy clientNonce serverNonce
    (serverKeys.map fun _ => (),
      { channel with serverKeys := derivedOrBlank channel.policy serverKeys })

def SecureChannel.prepareKeys (crypto : CryptoAdapter ω) (channel : SecureChannel) :
    SecureChannel :=
  { channel with
    keysValid := true
    clientKeys := channel.clientKeys.prepareCipher crypto
    serverKeys := channel.serverKeys.prepareCipher crypto }

def deriveChannelKeys (channel : SecureChannel) (serverNonce : ServerNonce)
    (clientNonce : MuString) : Except BadStatus Unit × SecureChannel :=
  match cfg.cryptoAdapter with
  | none => (.ok (), channel)
  | some crypto =>
    if channel.policy = .none ∨ channel.policy = .invalid then (.ok (), channel)
    else if clientNonce.length ≤ 0 then (.error Status.badSecurityChecksFailed, channel)
    else
      let derived := match serverNonce.keypair with
        | some (curve, ctx) =>
          deriveEccKeys crypto channel curve ctx serverNonce.nonce clientNonce.bytes
        | none => deriveRsaKeys crypto channel serverNonce.nonce clientNonce.bytes
      match derived with
      | (.error status, channel) => (.error status, channel)
      | (.ok (), channel) => (.ok (), channel.prepareKeys crypto)

/-! ## OpenSecureChannel -/

def idOpenSecureChannelRequest : UInt32 := 446
def idOpenSecureChannelResponse : UInt32 := 449
def idCloseSecureChannelRequest : UInt32 := 452
def idCloseSecureChannelResponse : UInt32 := 455

def encodeOscSecurityToken (returnDiagnostics requestHandle : UInt32) (channel : SecureChannel)
    (nonce : List UInt8) : RespondM ω Unit := do
  writeResponsePrefix cfg.timeAdapter returnDiagnostics idOpenSecureChannelResponse requestHandle
    Status.good
  let now ← resolveTimestamp cfg.timeAdapter
  RespondM.put (binaryWriteUint32 0)
  RespondM.put (binaryWriteUint32 channel.channelId)
  RespondM.put (binaryWriteUint32 channel.tokenId)
  RespondM.put (binaryWriteInt64 now)
  RespondM.put (binaryWriteUint32 channel.revisedLifetime)
  RespondM.put (binaryWriteBytestring (some (MuString.ofBytes nonce)))

/-- From the granted channel on: authentication, nonce, response and keys. -/
def completeOpenSecureChannel (s : Server ω σ) (slot : Server.Slot) (requestHandle : UInt32)
    (clientNonce : MuString) : Except BadStatus Nat × Server ω σ :=
  match enforceOscApplicationAuth cfg s with
  | .error status => (.error status, s)
  | .ok () =>
    match generateServerNonce cfg s.channel.policy clientNonce s.world with
    | (.error status, world) => (.error status, { s with world })
    | (.ok serverNonce, world) =>
      let s := { s with world }
      let encode := encodeOscSecurityToken cfg s.returnDiagnostics requestHandle s.channel
        serverNonce.nonce
      match s.respond slot encode with
      | (.error status, s) => (.error status, s)
      | (.ok length, s) =>
        let (result, channel) := deriveChannelKeys cfg s.channel serverNonce clientNonce
        (result.map fun _ => length, s.setChannel channel)

/-- A channel that was not open before gets an id no other connection uses, or is closed again. -/
def grantUniqueId (s : Server ω σ) (channelWasOpen : Bool) :
    Except BadStatus Unit × Server ω σ :=
  if channelWasOpen then (.ok (), s)
  else
    match ensureUniqueSecureChannelId s with
    | .ok s => (.ok (), s)
    | .error status => (.error status, s.setChannel s.channel.closed)

def grantSecureChannel (s : Server ω σ) (request : OpenRequest) :
    Except BadStatus Unit × Server ω σ :=
  match secureChannelOpen s.channel s.opnPendingSecurityPolicy
      (MessageSecurityMode.ofUInt32 request.securityMode) request.requestedLifetime
      cfg.entropyAdapter s.world with
  | (.error status, world) => (.error status, { s with world })
  | (.ok channel, world) =>
    grantUniqueId ({ s with world }.setChannel channel) s.channel.isOpen

def handleOpenSecureChannel (s : Server ω σ) (body : List UInt8) (slot : Server.Slot) :
    Except BadStatus Nat × Server ω σ :=
  match requestHeaderDecode (BinaryReader.init body) with
  | .error status _ => (.error status, s)
  | .ok header reader =>
    let (serverTime, world) := cfg.timeAdapter.getTime s.world
    let s := { s with world }
    if opnTimeSyncAllows serverTime header.timestamp (acceptableSkewNs cfg) = false then
      (.error Status.badSecurityChecksFailed, s)
    else
      match readOpenRequest.result reader with
      | .error status => (.error status, s)
      | .ok request =>
        match grantSecureChannel cfg s request with
        | (.error status, s) => (.error status, s)
        | (.ok (), s) =>
          completeOpenSecureChannel cfg s slot header.requestHandle request.clientNonce

/-! ## CloseSecureChannel -/

def handleCloseSecureChannel (s : Server ω σ) (body : List UInt8) (slot : Server.Slot) :
    Except BadStatus Nat × Server ω σ :=
  match requestHeaderDecode.result (BinaryReader.init body) with
  | .error status => (.error status, s)
  | .ok header =>
    match secureChannelClose s.channel with
    | .error status => (.error status, s)
    | .ok channel =>
      let encode := writeResponsePrefix cfg.timeAdapter s.returnDiagnostics
        idCloseSecureChannelResponse header.requestHandle Status.good
      (s.setChannel channel).respond slot encode

end MucOpcua
