import MucOpcua.Security.CryptoAdapter

/-!
# Symmetric chunk protection

`key_derivation.c`, `asym_ecc.c` and `sym_chunk.c`: the keys of a channel and the protection of its
MSG chunks, with HMAC-SHA256 and AES-CBC or with ChaCha20-Poly1305.
-/

namespace MucOpcua

variable {ω : Type}

/-! ## Key derivation -/

def kdfMaxSeed : Nat := 128

/-- The loop of `mu_p_sha256`, one block a round. -/
def pSha256Blocks (crypto : CryptoAdapter ω) (secret seed : List UInt8) :
    Nat → Mac → Except BadStatus (List UInt8)
  | 0, _ => .ok []
  | n + 1, a => do
    let block ← crypto.hmacSha256 secret (a.toList ++ seed)
    let next ← crypto.hmacSha256 secret a.toList
    let rest ← pSha256Blocks crypto secret seed n next
    return block.toList ++ rest

def pSha256 (crypto : CryptoAdapter ω) (secret seed : List UInt8) (outputLength : Nat) :
    Except BadStatus (List UInt8) := do
  if kdfMaxSeed < seed.length then throw Status.badInternalError
  let a ← crypto.hmacSha256 secret seed
  let blocks ← pSha256Blocks crypto secret seed ((outputLength + 31) / 32) a
  return blocks.take outputLength

/-- The expansion of `mu_hkdf_sha256`; `previous` is T(i-1). -/
def hkdfBlocks (crypto : CryptoAdapter ω) (prk : Mac) (info : List UInt8) :
    Nat → List UInt8 → UInt8 → Except BadStatus (List UInt8)
  | 0, _, _ => .ok []
  | n + 1, previous, counter => do
    let block ← crypto.hmacSha256 prk.toList (previous ++ info ++ [counter + 1])
    let rest ← hkdfBlocks crypto prk info n block.toList (counter + 1)
    return block.toList ++ rest

def hkdfMaxInfo : Nat := 256

def hkdfSha256 (crypto : CryptoAdapter ω) (salt ikm info : List UInt8) (okmLength : Nat) :
    Except BadStatus (List UInt8) := do
  if hkdfMaxInfo < info.length then throw Status.badInternalError
  if 255 * 32 < okmLength then throw Status.badInternalError
  let salt := if salt.length = 0 then List.replicate 32 0 else salt
  let prk ← crypto.hmacSha256 salt ikm
  let blocks ← hkdfBlocks crypto prk info ((okmLength + 31) / 32) [] 0
  return blocks.take okmLength

/-! ## Channel keys -/

/-- `mu_sym_keys_t`. `crypto` records whether the adapter pointer is set. -/
structure SymKeys where
  policy : SecurityPolicy
  signingKey : List UInt8
  encryptingKey : List UInt8
  iv : List UInt8
  cipherCtx : List UInt8
  crypto : Bool
  cipherCtxValid : Bool
  deriving DecidableEq

/-- All-zero keys, as `memset` leaves them; the derivations then note the policy. -/
def SymKeys.blank (policy : SecurityPolicy) : SymKeys :=
  ⟨policy, List.replicate 32 0, List.replicate 32 0, List.replicate 16 0, [], false, false⟩

/-- Split derived material into signing key, encryption key and initialisation vector. -/
def SymKeys.ofMaterial (policy : SecurityPolicy) (material : List UInt8)
    (sigKeyLen encKeyLen ivLen : Nat) : SymKeys :=
  { SymKeys.blank policy with
    signingKey := Buffer.overwrite (List.replicate 32 0) 0 (Buffer.slice material 0 sigKeyLen)
    encryptingKey :=
      Buffer.overwrite (List.replicate 32 0) 0 (Buffer.slice material sigKeyLen encKeyLen)
    iv := Buffer.overwrite (List.replicate 16 0) 0
      (Buffer.slice material (sigKeyLen + encKeyLen) ivLen) }

/-- `mu_sym_keys_derive`. On failure the caller's keys are left blank. -/
def symKeysDerive (crypto : CryptoAdapter ω) (policy : SecurityPolicy) (secret seed : List UInt8) :
    Except BadStatus SymKeys := do
  let sigKeyLen := securityPolicySignatureKeyLength policy
  let encKeyLen := securityPolicyEncryptionKeyLength policy
  let ivLen := securityPolicyEncryptionBlockSize policy
  if 128 < sigKeyLen + encKeyLen + ivLen then throw Status.badInternalError
  let material ← pSha256 crypto secret seed (sigKeyLen + encKeyLen + ivLen)
  return SymKeys.ofMaterial policy material sigKeyLen encKeyLen ivLen

def eccMaxPubkeyLength : Nat := 64

/-- `mu_ecc_derive_channel_keys`; the salt names the direction and orders the nonces by it. -/
def eccDeriveChannelKeys (crypto : CryptoAdapter ω) (policy : SecurityPolicy)
    (shared : List UInt8) (isServerDirection : Bool) (serverNonce clientNonce : List UInt8) :
    Except BadStatus SymKeys := do
  let sigKeyLen := securityPolicySignatureKeyLength policy
  let encKeyLen := securityPolicyEncryptionKeyLength policy
  let ivLen := securityPolicyIvLength policy
  let derivedLen := sigKeyLen + encKeyLen + ivLen
  if 32 < sigKeyLen ∨ 32 < encKeyLen ∨ 16 < ivLen ∨ 64 < derivedLen then
    throw Status.badInternalError
  if eccMaxPubkeyLength < serverNonce.length ∨ eccMaxPubkeyLength < clientNonce.length then
    throw Status.badInternalError
  let salt := lePutU16 (UInt16.ofNat derivedLen) ++
    if isServerDirection then ascii "opcua-server" ++ serverNonce ++ clientNonce
    else ascii "opcua-client" ++ clientNonce ++ serverNonce
  let material ← hkdfSha256 crypto salt shared salt derivedLen
  return SymKeys.ofMaterial policy material sigKeyLen encKeyLen ivLen

def policyUsesAes128 (policy : SecurityPolicy) : Bool :=
  policy = .aes128Sha256RsaOaep || policy = .eccNistP256

def SymKeys.releaseCipher (keys : SymKeys) : SymKeys :=
  { keys with cipherCtxValid := false, crypto := false }

def SymKeys.prepareCipher (crypto : CryptoAdapter ω) (keys : SymKeys) : SymKeys :=
  let keys := { keys.releaseCipher with crypto := true }
  if policyUsesAes128 keys.policy then keys
  else
    match crypto.cipherCtxInit with
    | none => keys
    | some init =>
      match init keys.encryptingKey with
      | .ok ctx => { keys with cipherCtx := ctx, cipherCtxValid := true }
      | .error _ => keys

/-! ## MSG chunks with HMAC and AES-CBC -/

/-- `MU_SYM_HEADER_SIZE`, `MU_SYM_SIG_LEN` and `MU_SYM_BLOCK`. -/
def symHeaderSize : Nat := 16
def symSigLen : Nat := 32
def symBlock : Nat := 16

structure SymChunkInfo where
  mode : MessageSecurityMode
  secureChannelId : UInt32
  tokenId : UInt32
  sequenceNumber : UInt32
  requestId : UInt32
  messageType : List UInt8
  deriving DecidableEq

/-- The header fields and the sequence header of a chunk that is in cleartext. -/
def SymChunkInfo.ofChunk (mode : MessageSecurityMode) (chunk : List UInt8) : SymChunkInfo where
  mode
  secureChannelId := leGetU32 (chunk.drop 8)
  tokenId := leGetU32 (chunk.drop 12)
  sequenceNumber := leGetU32 (chunk.drop symHeaderSize)
  requestId := leGetU32 (chunk.drop (symHeaderSize + 4))
  messageType := chunk.take 3

/-- The AES-CBC call a key set selects: AES-128, the prepared context, or AES-256 with the key. -/
def SymKeys.cipher (keys : SymKeys) (aes128 ctx : Option (List UInt8 → List UInt8 → LengthPreserving))
    (aes256 : List UInt8 → List UInt8 → LengthPreserving) : Except BadStatus LengthPreserving :=
  if policyUsesAes128 keys.policy then
    match aes128 with
    | none => .error Status.badInternalError
    | some cipher => .ok (cipher keys.encryptingKey keys.iv)
  else
    match keys.cipherCtxValid, ctx with
    | true, some cipher => .ok (cipher keys.cipherCtx keys.iv)
    | _, _ => .ok (aes256 keys.encryptingKey keys.iv)

def symChunkDecrypt (crypto : CryptoAdapter ω) (keys : SymKeys) (chunk : List UInt8)
    (msgSize : Nat) : Except BadStatus (List UInt8) := do
  let cipherLen := msgSize - symHeaderSize
  if cipherLen = 0 ∨ cipherLen % symBlock ≠ 0 then throw Status.badDecodingError
  let decrypt ←
    keys.cipher crypto.aes128CbcDecrypt crypto.aes256CbcDecryptCtx crypto.aes256CbcDecrypt
  let plain ← decrypt (Buffer.slice chunk symHeaderSize cipherLen)
  return Buffer.overwrite chunk symHeaderSize plain.val

/-- Compare the trailing MAC with the HMAC of everything in front of it. -/
def symChunkVerify (crypto : CryptoAdapter ω) (keys : SymKeys) (chunk : List UInt8)
    (signedLen : Nat) : Except BadStatus Unit := do
  let mac ← crypto.hmacSha256 keys.signingKey (chunk.take signedLen)
  if mac.toList ≠ Buffer.slice chunk signedLen symSigLen then
    throw Status.badSecurityChecksFailed

def symChunkPadding (mode : MessageSecurityMode) (chunk : List UInt8) (signedLen : Nat) :
    Except BadStatus Nat :=
  if mode = .signAndEncrypt then
    let padCount := (chunk.getD (signedLen - 1) 0).toNat
    if signedLen < symHeaderSize + 8 + 1 + padCount then .error Status.badSecurityChecksFailed
    else if ∃ i ∈ List.range padCount, (chunk.getD (signedLen - 1 - (i + 1)) 0).toNat ≠ padCount then
      .error Status.badSecurityChecksFailed
    else .ok (padCount + 1)
  else .ok 0

def symChunkOpen (crypto : CryptoAdapter ω) (mode : MessageSecurityMode) (keys : SymKeys)
    (chunk : List UInt8) (msgSize : Nat) : Except BadStatus (List UInt8 × SymChunkInfo) := do
  if msgSize < symHeaderSize + 8 + symSigLen then throw Status.badDecodingError
  let signedLen := msgSize - symSigLen
  symChunkVerify crypto keys chunk signedLen
  let padCount ← symChunkPadding mode chunk signedLen
  let seqbodyLen := signedLen - symHeaderSize - padCount
  return (Buffer.slice chunk (symHeaderSize + 8) (seqbodyLen - 8), SymChunkInfo.ofChunk mode chunk)

/-- `mu_sym_chunk_unwrap`, with the chunk as it is left. -/
def symChunkUnwrap (crypto : CryptoAdapter ω) (mode : MessageSecurityMode) (keys : SymKeys)
    (chunk : List UInt8) : Except BadStatus (List UInt8 × SymChunkInfo) × List UInt8 :=
  if chunk.length < symHeaderSize then (.error Status.badDecodingError, chunk)
  else
    let msgSize := (leGetU32 (chunk.drop 4)).toNat
    if chunk.length < msgSize ∨ msgSize < symHeaderSize then
      (.error Status.badDecodingError, chunk)
    else
      match mode with
      | .signAndEncrypt =>
        match symChunkDecrypt crypto keys chunk msgSize with
        | .error status => (.error status, chunk)
        | .ok chunk => (symChunkOpen crypto mode keys chunk msgSize, chunk)
      | .sign => (symChunkOpen crypto mode keys chunk msgSize, chunk)
      | _ => (.error Status.badSecurityModeRejected, chunk)

def symChunkHeader (messageType : List UInt8) (total : Nat)
    (secureChannelId tokenId : UInt32) : List UInt8 :=
  messageType ++ ascii "F" ++ lePutU32 (UInt32.ofNat total) ++ lePutU32 secureChannelId ++
    lePutU32 tokenId

/-- `mu_sym_chunk_wrap`; `outCap` is the room for the chunk it returns. -/
def symChunkWrap (crypto : CryptoAdapter ω) (mode : MessageSecurityMode) (keys : SymKeys)
    (messageType : List UInt8) (secureChannelId tokenId sequenceNumber requestId : UInt32)
    (body : List UInt8) (outCap : Nat) : Except BadStatus (List UInt8) := do
  let seqbody := lePutU32 sequenceNumber ++ lePutU32 requestId ++ body
  match mode with
  | .sign =>
    let total := symHeaderSize + seqbody.length + symSigLen
    if outCap < total then throw Status.badResponseTooLarge
    let signed := symChunkHeader messageType total secureChannelId tokenId ++ seqbody
    let mac ← crypto.hmacSha256 keys.signingKey signed
    return signed ++ mac.toList
  | .signAndEncrypt =>
    let base := seqbody.length + 1 + symSigLen
    let padCount := (symBlock - base % symBlock) % symBlock
    let total := symHeaderSize + base + padCount
    if outCap < total then throw Status.badResponseTooLarge
    let header := symChunkHeader messageType total secureChannelId tokenId
    let padded := seqbody ++ List.replicate (padCount + 1) (UInt8.ofNat padCount)
    let mac ← crypto.hmacSha256 keys.signingKey (header ++ padded)
    let encrypt ←
      keys.cipher crypto.aes128CbcEncrypt crypto.aes256CbcEncryptCtx crypto.aes256CbcEncrypt
    let encrypted ← encrypt (padded ++ mac.toList)
    return header ++ encrypted.val
  | _ => throw Status.badSecurityModeRejected

/-! ## MSG chunks with ChaCha20-Poly1305 -/

def aeadTagLen : Nat := 16

/-- `aead_build_iv`: the first eight bytes are mixed with the token and the previous number. -/
def aeadBuildIv (derivedIv : List UInt8) (tokenId lastSeq : UInt32) : List UInt8 :=
  let iv := derivedIv.take 12
  List.zipWith (· ^^^ ·) iv (lePutU32 tokenId ++ lePutU32 lastSeq ++ List.replicate 4 0)

def symChunkUnwrapAead (crypto : CryptoAdapter ω) (keys : SymKeys) (chunk : List UInt8)
    (lastSequenceNumber : UInt32) :
    Except BadStatus (List UInt8 × SymChunkInfo) × List UInt8 :=
  match crypto.chacha20Poly1305Decrypt with
  | none => (.error Status.badInternalError, chunk)
  | some decrypt =>
    let msgSize := (leGetU32 (chunk.drop 4)).toNat
    if chunk.length < symHeaderSize then (.error Status.badDecodingError, chunk)
    else if chunk.length < msgSize ∨ msgSize < symHeaderSize + 8 + aeadTagLen then
      (.error Status.badDecodingError, chunk)
    else
      let plainLen := msgSize - symHeaderSize - aeadTagLen
      let iv := aeadBuildIv keys.iv (leGetU32 (chunk.drop 12)) lastSequenceNumber
      match decrypt keys.encryptingKey iv (chunk.take symHeaderSize)
          (Buffer.slice chunk (symHeaderSize + plainLen) aeadTagLen)
          (Buffer.slice chunk symHeaderSize plainLen) with
      | .error status => (.error status, chunk)
      | .ok plain =>
        let chunk := Buffer.overwrite chunk symHeaderSize plain.val
        (.ok (Buffer.slice chunk (symHeaderSize + 8) (plainLen - 8),
          SymChunkInfo.ofChunk .signAndEncrypt chunk), chunk)

def symChunkWrapAead (crypto : CryptoAdapter ω) (keys : SymKeys) (messageType : List UInt8)
    (secureChannelId tokenId sequenceNumber lastSequenceNumber requestId : UInt32)
    (body : List UInt8) (outCap : Nat) : Except BadStatus (List UInt8) :=
  match crypto.chacha20Poly1305Encrypt with
  | none => .error Status.badInternalError
  | some encrypt => do
    let plain := lePutU32 sequenceNumber ++ lePutU32 requestId ++ body
    let total := symHeaderSize + plain.length + aeadTagLen
    if outCap < total then throw Status.badResponseTooLarge
    let header := symChunkHeader messageType total secureChannelId tokenId
    let iv := aeadBuildIv keys.iv tokenId lastSequenceNumber
    let (encrypted, tag) ← encrypt keys.encryptingKey iv header plain
    return header ++ encrypted.val ++ tag.toList

end MucOpcua
