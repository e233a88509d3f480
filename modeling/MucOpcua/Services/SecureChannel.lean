import MucOpcua.Core.Sequence
import MucOpcua.Security.SymChunk

/-!
# Secure channels

`secure_channel.c`: the state of a connection's secure channel and its opening, renewal and
closing. The adapters that give random bytes and the time are functions of the platform's state.
-/

namespace MucOpcua

variable {ω : Type}

/-- `mu_entropy_adapter_t`; the server is not started without one. -/
abbrev EntropyAdapter (ω : Type) := (n : Nat) → ω → Except BadStatus (Vector UInt8 n) × ω

/-- `mu_secure_channel_t`; `created_at` is never read. -/
structure SecureChannel where
  channelId : UInt32
  tokenId : UInt32
  revisedLifetime : UInt32
  sequence : SequenceValidator
  outSequenceNumber : UInt32
  inLastSequenceNumber : UInt32
  isOpen : Bool
  policy : SecurityPolicy
  mode : MessageSecurityMode
  clientKeys : SymKeys
  serverKeys : SymKeys
  keysValid : Bool
  deriving DecidableEq

/-- A zeroed `mu_sym_keys_t`: the policy is the enumeration's first member. -/
def SymKeys.zero : SymKeys := SymKeys.blank .invalid

/-- `mu_secure_channel_init`. The last inbound SequenceNumber is not among the fields it sets. -/
def SecureChannel.init (channel : SecureChannel) : SecureChannel :=
  { channel with
    channelId := 0
    tokenId := 0
    revisedLifetime := 0
    isOpen := false
    outSequenceNumber := 0
    policy := .none
    mode := .none
    clientKeys := SymKeys.zero
    serverKeys := SymKeys.zero
    keysValid := false
    sequence := SequenceValidator.init }

def requestedPolicyId (securityPolicy : MuString) : SecurityPolicy :=
  if securityPolicy.length ≤ 0 then .none else securityPolicyFromUri securityPolicy.bytes

/-- The requested policy and mode against the policy the OPN chunk was unwrapped with. -/
def checkChannelSecurity (policy requested : SecurityPolicy) (mode : MessageSecurityMode) :
    Except BadStatus Unit :=
  if requested = .invalid then .error Status.badSecurityPolicyRejected
  else if mode = .invalid then .error Status.badSecurityModeRejected
  else if policy = .none then
    if requested ≠ .none then .error Status.badSecurityPolicyRejected
    else if mode ≠ .none then .error Status.badSecurityModeRejected
    else .ok ()
  else if policy = .basic256Sha256 ∨ policy = .aes128Sha256RsaOaep ∨
      policy = .aes256Sha256RsaPss ∨ securityPolicyAsymFamily policy = .ecc then
    if requested ≠ policy then .error Status.badSecurityPolicyRejected
    else if mode = .none then .error Status.badSecurityModeRejected
    else .ok ()
  else .error Status.badSecurityPolicyRejected

/-- `generate_channel_id`: four random bytes, with 0 replaced by 1. -/
def generateChannelId (entropy : EntropyAdapter ω) (world : ω) : Except BadStatus UInt32 × ω :=
  match entropy 4 world with
  | (.error _, world) => (.error Status.badSecurityChecksFailed, world)
  | (.ok random, world) =>
    let candidate := leGetU32 random.toList
    (.ok (if candidate = 0 then 1 else candidate), world)

def boundLifetime (requested : UInt32) : UInt32 :=
  if requested < 10000 then 10000 else if 3600000 < requested then 3600000 else requested

/-- The last assignments of `mu_secure_channel_open`, common to Issue and Renew. -/
def SecureChannel.granted (channel : SecureChannel) (mode : MessageSecurityMode)
    (requestedLifetime : UInt32) : SecureChannel :=
  { channel with revisedLifetime := boundLifetime requestedLifetime, mode }

/-- `mu_secure_channel_open`: an error leaves the channel as it was. -/
def secureChannelOpen (channel : SecureChannel) (securityPolicy : MuString)
    (mode : MessageSecurityMode) (requestedLifetime : UInt32) (entropy : EntropyAdapter ω)
    (world : ω) : Except BadStatus SecureChannel × ω :=
  match checkChannelSecurity channel.policy (requestedPolicyId securityPolicy) mode with
  | .error status => (.error status, world)
  | .ok () =>
    if channel.isOpen then
      let renewed := { channel with tokenId := channel.tokenId + 1 }
      (.ok (renewed.granted mode requestedLifetime), world)
    else
      match generateChannelId entropy world with
      | (.error status, world) => (.error status, world)
      | (.ok channelId, world) =>
        let issued := { channel with channelId, tokenId := 1, isOpen := true }
        (.ok (issued.granted mode requestedLifetime), world)

def secureChannelClose (channel : SecureChannel) : Except BadStatus SecureChannel :=
  if channel.isOpen then .ok channel.init else .error Status.badTcpSecureChannelUnknown

def SecureChannel.closed (channel : SecureChannel) : SecureChannel :=
  match secureChannelClose channel with
  | .ok closed => closed
  | .error _ => channel

/-! ## What opening and closing leave -/

@[simp] theorem closed_isOpen (channel : SecureChannel) : channel.closed.isOpen = false := by
  unfold SecureChannel.closed secureChannelClose
  cases h : channel.isOpen with
  | false => simpa using h
  | true => rfl

theorem checkChannelSecurity_ok {policy requested : SecurityPolicy} {mode : MessageSecurityMode}
    (h : checkChannelSecurity policy requested mode = .ok ()) :
    mode ≠ .invalid ∧ (mode = .none ↔ policy = .none) := by
  unfold checkChannelSecurity at h
  split_ifs at h with _ hvalid hnone _ hmode _ _ hmode
  · exact ⟨hvalid,by simp [hnone,not_not.mp hmode]⟩
  · exact ⟨hvalid,by simp [hnone,hmode]⟩

theorem secureChannelOpen_ok {channel channel' : SecureChannel} {uri : MuString}
    {mode : MessageSecurityMode} {lifetime : UInt32} {entropy : EntropyAdapter ω} {world world' : ω}
    (h : secureChannelOpen channel uri mode lifetime entropy world = (.ok channel', world')) :
    checkChannelSecurity channel.policy (requestedPolicyId uri) mode = .ok () ∧
      channel'.isOpen = true ∧ channel'.policy = channel.policy ∧ channel'.mode = mode ∧
      channel'.sequence = channel.sequence := by
  unfold secureChannelOpen at h
  split at h
  · cases h
  refine ⟨by assumption,?_⟩
  split at h
  · cases h
    exact ⟨by assumption,rfl,rfl,rfl⟩
  split at h
  · cases h
  · cases h
    exact ⟨rfl,rfl,rfl,rfl⟩

end MucOpcua
