import MucOpcua.Security.CryptoAdapter

/-!
# Asymmetric chunk protection

`asym_chunk/unwrap.c` and `asym_chunk/wrap.c`: the OPN chunks of a channel.
-/

namespace MucOpcua

variable {ω : Type}

/-- `MU_ASYM_MAX_PLAINTEXT`, `MU_ASYM_SIGNED_INPUT_MAX`, `MU_ASYM_SCRATCH`,
`MU_OAEP_SHA1_OVERHEAD`, `MU_ECC_SIGNATURE_LENGTH`. -/
def asymMaxPlaintext : Nat := 2048
def asymSignedInputMax : Nat := 4096
def asymScratch : Nat := 512
def oaepSha1Overhead : Nat := 42
def eccSignatureLength : Nat := 64

/-- `mu_asym_chunk_info_t`; no certificate is an empty list. -/
structure AsymChunkInfo where
  policy : SecurityPolicy
  secureChannelId : UInt32
  sequenceNumber : UInt32
  requestId : UInt32
  senderCert : List UInt8
  deriving DecidableEq

def keyBytes (crypto : CryptoAdapter ω) (cert : List UInt8) : Except BadStatus Nat :=
  match crypto.getCertificateKeyBits with
  | none => .error Status.badCertificateInvalid
  | some keyBits =>
    match keyBits cert with
    | .error _ => .error Status.badCertificateInvalid
    | .ok bits =>
      if bits = 0 ∨ bits / 8 ≤ oaepSha1Overhead then .error Status.badCertificateInvalid
      else .ok (bits / 8)

/-! ## Unwrapping -/

structure AsymHeader where
  secureChannelId : UInt32
  policyUri : MuString
  senderCert : MuString
  receiverThumb : MuString
  hdrLen : Nat

def readAsymHeader : ReadM AsymHeader := do
  let secureChannelId ← binaryReadUint32
  let policyUri ← binaryReadString
  let senderCert ← binaryReadBytestring
  let receiverThumb ← binaryReadBytestring
  let reader ← get
  return { secureChannelId, policyUri, senderCert, receiverThumb, hdrLen := reader.position }

def ReadM.result {α : Type} (decode : ReadM α) (reader : BinaryReader) : Except BadStatus α :=
  match decode reader with
  | .ok value _ => .ok value
  | .error status _ => .error status

def asymChunkBody (info : AsymChunkInfo) (seqbody : List UInt8) (outCap : Nat) :
    Except BadStatus (List UInt8 × AsymChunkInfo) :=
  let info := { info with
    sequenceNumber := leGetU32 seqbody
    requestId := leGetU32 (seqbody.drop 4) }
  let body := seqbody.drop 8
  if outCap < body.length then .error Status.badResponseTooLarge else .ok (body, info)

def checkReceiverThumbprint (crypto : CryptoAdapter ω) (ownCert : List UInt8)
    (receiverThumb : MuString) : Except BadStatus Unit := do
  let ownThumb ← certificateThumbprint crypto ownCert
  if receiverThumb.bytes ≠ ownThumb.toList then throw Status.badSecurityChecksFailed

def unwrapEcc (crypto : CryptoAdapter ω) (info : AsymChunkInfo) (chunk : List UInt8)
    (hdrLen msgSize : Nat) (receiverThumb : MuString) (outCap : Nat) :
    Except BadStatus (List UInt8 × AsymChunkInfo) :=
  match securityPolicyEccCurve info.policy, crypto.eccVerify, crypto.getOwnEccCertificate with
  | some curve, some eccVerify, some getOwnEccCertificate => do
    certificateValidate crypto info.policy info.senderCert
    let ownCert ← getOwnEccCertificate curve
    checkReceiverThumbprint crypto ownCert receiverThumb
    if msgSize < hdrLen + 8 + eccSignatureLength then throw Status.badDecodingError
    let signedLen := msgSize - eccSignatureLength
    match eccVerify curve info.senderCert (chunk.take signedLen)
        (Buffer.slice chunk signedLen eccSignatureLength) with
    | .error _ => throw Status.badSecurityChecksFailed
    | .ok () => asymChunkBody info (Buffer.slice chunk hdrLen (signedLen - hdrLen)) outCap
  | _, _, _ => .error Status.badSecurityPolicyRejected

/-- `decrypt_unwrap_blocks`: one modulus-sized block a round. -/
def decryptUnwrapBlocks (crypto : CryptoAdapter ω) (policy : SecurityPolicy)
    (cipher : List UInt8) (keyBytesSize : Nat) :
    Nat → List UInt8 → Except BadStatus (List UInt8)
  | 0, plain => .ok plain
  | blocks + 1, plain =>
    let decrypt := if securityPolicyUsesPss policy then crypto.rsaOaepSha256Decrypt
      else crypto.rsaOaepDecrypt
    match decrypt (asymMaxPlaintext - plain.length) (cipher.take keyBytesSize) with
    | .error _ => .error Status.badSecurityChecksFailed
    | .ok block =>
      decryptUnwrapBlocks crypto policy (cipher.drop keyBytesSize) keyBytesSize blocks
        (plain ++ block.val)

def verifyUnwrapSignature (crypto : CryptoAdapter ω) (info : AsymChunkInfo)
    (header signed signature : List UInt8) : Except BadStatus Unit :=
  if asymSignedInputMax < header.length + signed.length then
    .error Status.badSecurityChecksFailed
  else
    match asymSignatureVerify crypto info.policy info.senderCert (header ++ signed) signature with
    | .error _ => .error Status.badSecurityChecksFailed
    | .ok () => .ok ()

/-- `extract_unwrap_payload`: strip the padding. -/
def extractUnwrapPayload (info : AsymChunkInfo) (signed : List UInt8) (outCap : Nat) :
    Except BadStatus (List UInt8 × AsymChunkInfo) :=
  let padCount := (signed.getD (signed.length - 1) 0).toNat
  if signed.length < padCount + 1 + 8 then .error Status.badSecurityChecksFailed
  else if ∃ i ∈ List.range padCount,
      (signed.getD (signed.length - 1 - (i + 1)) 0).toNat ≠ padCount then
    .error Status.badSecurityChecksFailed
  else asymChunkBody info (signed.take (signed.length - 1 - padCount)) outCap

/-- The RSA branch of `mu_asym_chunk_unwrap`. -/
def unwrapRsa (crypto : CryptoAdapter ω) (info : AsymChunkInfo) (chunk : List UInt8)
    (hdrLen msgSize : Nat) (receiverThumb : MuString) (outCap : Nat) :
    Except BadStatus (List UInt8 × AsymChunkInfo) := do
  certificateValidate crypto info.policy info.senderCert
  let ownCert ← crypto.getOwnCertificate
  checkReceiverThumbprint crypto ownCert receiverThumb
  let ownKeyBytes ← keyBytes crypto ownCert
  let sigLen ← keyBytes crypto info.senderCert
  let cipherLen := msgSize - hdrLen
  if cipherLen = 0 ∨ cipherLen % ownKeyBytes ≠ 0 then throw Status.badDecodingError
  let plain ← decryptUnwrapBlocks crypto info.policy (Buffer.slice chunk hdrLen cipherLen)
    ownKeyBytes (cipherLen / ownKeyBytes) []
  if plain.length < sigLen + 1 + 8 then throw Status.badSecurityChecksFailed
  let signedLen := plain.length - sigLen
  verifyUnwrapSignature crypto info (chunk.take hdrLen) (plain.take signedLen)
    (plain.drop signedLen)
  extractUnwrapPayload info (plain.take signedLen) outCap

def asymChunkUnwrap (crypto : CryptoAdapter ω) (chunk : List UInt8) (outCap : Nat) :
    Except BadStatus (List UInt8 × AsymChunkInfo) := do
  if chunk.length < 12 ∨ chunk.take 3 ≠ ascii "OPN" then throw Status.badDecodingError
  let msgSize := (leGetU32 (chunk.drop 4)).toNat
  if chunk.length < msgSize then throw Status.badDecodingError
  let header ← readAsymHeader.result ((BinaryReader.init (chunk.take msgSize)).seek 8)
  let info : AsymChunkInfo :=
    { policy := securityPolicyFromUri header.policyUri.bytes
      secureChannelId := header.secureChannelId
      sequenceNumber := 0
      requestId := 0
      senderCert := header.senderCert.bytes }
  if info.policy = .none then
    if msgSize < header.hdrLen + 8 then throw Status.badDecodingError
    asymChunkBody info (Buffer.slice chunk header.hdrLen (msgSize - header.hdrLen)) outCap
  else if securityPolicyAsymFamily info.policy = .ecc then
    unwrapEcc crypto info chunk header.hdrLen msgSize header.receiverThumb outCap
  else if info.policy = .basic256Sha256 ∨ info.policy = .aes128Sha256RsaOaep ∨
      info.policy = .aes256Sha256RsaPss then
    unwrapRsa crypto info chunk header.hdrLen msgSize header.receiverThumb outCap
  else throw Status.badSecurityPolicyRejected

/-! ## Wrapping -/

def WriteM.bytes (encode : WriteM Unit) (room : Nat) : Except BadStatus (List UInt8) :=
  match encode (BinaryWriter.init (List.replicate room 0)) with
  | .ok _ writer => .ok writer.written
  | .error status _ => .error status

/-- `write_header`, with the MessageSize left to be filled in. -/
def writeAsymHeader (policy : SecurityPolicy) (secureChannelId : UInt32)
    (senderCert receiverThumb : Option (List UInt8)) : WriteM Unit :=
  match securityPolicyUri policy with
  | none => throw Status.badSecurityPolicyRejected
  | some uri => do
    modify (·.put (ascii "OPNF"))
    binaryWriteUint32 0
    binaryWriteUint32 secureChannelId
    binaryWriteString (some (MuString.ofBytes uri))
    binaryWriteBytestring (some (senderCert.elim MuString.null MuString.ofBytes))
    binaryWriteBytestring (some (receiverThumb.elim MuString.null MuString.ofBytes))

def patchMessageSize (chunk : List UInt8) (total : Nat) : List UInt8 :=
  Buffer.overwrite chunk 4 (lePutU32 (UInt32.ofNat total))

structure AsymWrapParams where
  policy : SecurityPolicy
  secureChannelId : UInt32
  sequenceNumber : UInt32
  requestId : UInt32
  receiverCert : List UInt8
  body : List UInt8
  outCap : Nat

def AsymWrapParams.writeCleartext (p : AsymWrapParams)
    (senderCert receiverThumb : Option (List UInt8)) : WriteM Unit := do
  writeAsymHeader p.policy p.secureChannelId senderCert receiverThumb
  binaryWriteUint32 p.sequenceNumber
  binaryWriteUint32 p.requestId

def wrapNone (p : AsymWrapParams) : Except BadStatus (List UInt8) := do
  let front ← (p.writeCleartext none none).bytes p.outCap
  if p.outCap < front.length + p.body.length then throw Status.badResponseTooLarge
  return patchMessageSize (front ++ p.body) (front.length + p.body.length)

/-- `wrap_ecc`: signed but not encrypted. -/
def wrapEcc (crypto : CryptoAdapter ω) (p : AsymWrapParams) : Except BadStatus (List UInt8) :=
  match securityPolicyEccCurve p.policy with
  | none => .error Status.badSecurityPolicyRejected
  | some curve =>
    match crypto.eccSign, crypto.getOwnEccCertificate with
    | some eccSign, some getOwnEccCertificate => do
      if p.receiverCert = [] then throw Status.badInternalError
      let senderCert ← getOwnEccCertificate curve
      let thumb ← certificateThumbprint crypto p.receiverCert
      let front ← (p.writeCleartext (some senderCert) (some thumb.toList)).bytes p.outCap
      let total := front.length + p.body.length + eccSignatureLength
      if p.outCap < total then throw Status.badResponseTooLarge
      let signed := patchMessageSize (front ++ p.body) total
      let signature ← eccSign curve signed
      if signature.length ≠ eccSignatureLength then throw Status.badInternalError
      return signed ++ signature
    | _, _ => .error Status.badInternalError

def encryptWrapBlocks (crypto : CryptoAdapter ω) (policy : SecurityPolicy)
    (receiverCert : List UInt8) (plainBlock cipherBlock : Nat) :
    Nat → List UInt8 → Except BadStatus (List UInt8)
  | 0, _ => .ok []
  | blocks + 1, plain => do
    let encrypt := if securityPolicyUsesPss policy then crypto.rsaOaepSha256Encrypt
      else crypto.rsaOaepEncrypt
    let block ← encrypt receiverCert (plain.take plainBlock)
    if block.length ≠ cipherBlock then throw Status.badInternalError
    let rest ← encryptWrapBlocks crypto policy receiverCert plainBlock cipherBlock blocks
      (plain.drop plainBlock)
    return block ++ rest

/-- `sign_wrap_payload`: the padded SequenceHeader and body with their signature behind them. -/
def signWrapPayload (crypto : CryptoAdapter ω) (p : AsymWrapParams) (header : List UInt8)
    (padCount sigLen : Nat) : Except BadStatus (List UInt8) := do
  let presig := lePutU32 p.sequenceNumber ++ lePutU32 p.requestId ++ p.body ++
    List.replicate (padCount + 1) (UInt8.ofNat padCount)
  if asymSignedInputMax < header.length + presig.length ∨ asymScratch < sigLen then
    throw Status.badInternalError
  let sign := if securityPolicyUsesPss p.policy then crypto.rsaPssSha256Sign
    else crypto.rsaSha256Sign
  let signature ← sign (header ++ presig)
  if signature.length ≠ sigLen then throw Status.badInternalError
  return presig ++ signature

/-- The RSA branch of `mu_asym_chunk_wrap`. -/
def wrapRsa (crypto : CryptoAdapter ω) (p : AsymWrapParams) : Except BadStatus (List UInt8) := do
  if p.receiverCert = [] then throw Status.badInternalError
  let senderCert ← crypto.getOwnCertificate
  let sigLen ← keyBytes crypto senderCert
  let cipherBlock ← keyBytes crypto p.receiverCert
  let plainBlock := cipherBlock - if securityPolicyUsesPss p.policy then 66 else oaepSha1Overhead
  let thumb ← certificateThumbprint crypto p.receiverCert
  let header ←
    (writeAsymHeader p.policy p.secureChannelId (some senderCert) (some thumb.toList)).bytes
      p.outCap
  let base := 8 + p.body.length + 1 + sigLen
  let padCount := (plainBlock - base % plainBlock) % plainBlock
  let encLen := base + padCount
  let total := header.length + encLen / plainBlock * cipherBlock
  if asymMaxPlaintext < encLen then throw Status.badRequestTooLarge
  if asymSignedInputMax < header.length + (encLen - sigLen) then throw Status.badRequestTooLarge
  if p.outCap < total then throw Status.badResponseTooLarge
  let header := patchMessageSize header total
  let plain ← signWrapPayload crypto p header padCount sigLen
  let cipher ← encryptWrapBlocks crypto p.policy p.receiverCert plainBlock cipherBlock
    (encLen / plainBlock) plain
  return header ++ cipher

def asymChunkWrap (crypto : CryptoAdapter ω) (p : AsymWrapParams) :
    Except BadStatus (List UInt8) :=
  if p.policy = .none then wrapNone p
  else if securityPolicyAsymFamily p.policy = .ecc then wrapEcc crypto p
  else if p.policy = .basic256Sha256 ∨ p.policy = .aes128Sha256RsaOaep ∨
      p.policy = .aes256Sha256RsaPss then
    wrapRsa crypto p
  else .error Status.badSecurityPolicyRejected

end MucOpcua
