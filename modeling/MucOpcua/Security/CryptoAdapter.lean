import MucOpcua.Security.Policy

/-!
# The crypto adapter

`mu_crypto_adapter_t` of `platform.h`: the primitives the platform supplies. They are parameters of
the model. A function pointer that the code compares with NULL is an `Option`; a primitive that
fills a caller's buffer of known size returns a vector of that size. `ω` is the platform's own
state, which only the generation of an ephemeral key pair advances.
-/

namespace MucOpcua

abbrev Mac := Vector UInt8 32

abbrev LengthPreserving :=
  (input : List UInt8) → Except BadStatus { output : List UInt8 // output.length = input.length }

structure CryptoAdapter (ω : Type) where
  /-- key, data -/
  hmacSha256 : List UInt8 → List UInt8 → Except BadStatus Mac
  /-- key, initialisation vector -/
  aes256CbcEncrypt : List UInt8 → List UInt8 → LengthPreserving
  aes256CbcDecrypt : List UInt8 → List UInt8 → LengthPreserving
  aes128CbcEncrypt : Option (List UInt8 → List UInt8 → LengthPreserving)
  aes128CbcDecrypt : Option (List UInt8 → List UInt8 → LengthPreserving)
  /-- key; the result is the context's storage -/
  cipherCtxInit : Option (List UInt8 → Except BadStatus (List UInt8))
  /-- context, initialisation vector -/
  aes256CbcEncryptCtx : Option (List UInt8 → List UInt8 → LengthPreserving)
  aes256CbcDecryptCtx : Option (List UInt8 → List UInt8 → LengthPreserving)
  rsaSha256Sign : List UInt8 → Except BadStatus (List UInt8)
  rsaPssSha256Sign : List UInt8 → Except BadStatus (List UInt8)
  /-- certificate, data, signature -/
  rsaSha256Verify : Option (List UInt8 → List UInt8 → List UInt8 → Except BadStatus Unit)
  rsaPssSha256Verify : Option (List UInt8 → List UInt8 → List UInt8 → Except BadStatus Unit)
  /-- room for the output, input -/
  rsaOaepDecrypt : (room : Nat) → List UInt8 →
    Except BadStatus { output : List UInt8 // output.length ≤ room }
  rsaOaepSha256Decrypt : (room : Nat) → List UInt8 →
    Except BadStatus { output : List UInt8 // output.length ≤ room }
  /-- certificate, input -/
  rsaOaepEncrypt : List UInt8 → List UInt8 → Except BadStatus (List UInt8)
  rsaOaepSha256Encrypt : List UInt8 → List UInt8 → Except BadStatus (List UInt8)
  getOwnCertificate : Except BadStatus (List UInt8)
  getCertificateKeyBits : Option (List UInt8 → Except BadStatus Nat)
  getCertificateThumbprint : Option (List UInt8 → Except BadStatus (Vector UInt8 20))
  verifyCertificateValidity : Option (List UInt8 → Except BadStatus Unit)
  /-- certificate, application URI -/
  verifyCertificateApplicationUri : Option (List UInt8 → List UInt8 → Except BadStatus Unit)
  /-- the public key and the key pair's context -/
  eccGenerateEphemeral :
    Option (ω → EccCurve → Except BadStatus (List UInt8 × List UInt8) × ω)
  /-- key pair's context, peer's public key -/
  eccEcdhDerive : Option (EccCurve → List UInt8 → List UInt8 → Except BadStatus (List UInt8))
  eccSign : Option (EccCurve → List UInt8 → Except BadStatus (List UInt8))
  /-- certificate, data, signature -/
  eccVerify : Option (EccCurve → List UInt8 → List UInt8 → List UInt8 → Except BadStatus Unit)
  getOwnEccCertificate : Option (EccCurve → Except BadStatus (List UInt8))
  /-- key, nonce, additional data, input -/
  chacha20Poly1305Encrypt : Option (List UInt8 → List UInt8 → List UInt8 →
    (input : List UInt8) → Except BadStatus
      ({ output : List UInt8 // output.length = input.length } × Vector UInt8 16))
  /-- key, nonce, additional data, tag -/
  chacha20Poly1305Decrypt : Option (List UInt8 → List UInt8 → List UInt8 → List UInt8 →
    LengthPreserving)

def refusingCrypto : CryptoAdapter Unit where
  hmacSha256 _ _ := .error Status.badInternalError
  aes256CbcEncrypt _ _ _ := .error Status.badInternalError
  aes256CbcDecrypt _ _ _ := .error Status.badInternalError
  aes128CbcEncrypt := none
  aes128CbcDecrypt := none
  cipherCtxInit := none
  aes256CbcEncryptCtx := none
  aes256CbcDecryptCtx := none
  rsaSha256Sign _ := .error Status.badInternalError
  rsaPssSha256Sign _ := .error Status.badInternalError
  rsaSha256Verify := none
  rsaPssSha256Verify := none
  rsaOaepDecrypt _ _ := .error Status.badInternalError
  rsaOaepSha256Decrypt _ _ := .error Status.badInternalError
  rsaOaepEncrypt _ _ := .error Status.badInternalError
  rsaOaepSha256Encrypt _ _ := .error Status.badInternalError
  getOwnCertificate := .error Status.badInternalError
  getCertificateKeyBits := none
  getCertificateThumbprint := none
  verifyCertificateValidity := none
  verifyCertificateApplicationUri := none
  eccGenerateEphemeral := none
  eccEcdhDerive := none
  eccSign := none
  eccVerify := none
  getOwnEccCertificate := none
  chacha20Poly1305Encrypt := none
  chacha20Poly1305Decrypt := none

/-! ## Certificates -/

variable {ω : Type}

def certificateThumbprint (crypto : CryptoAdapter ω) (certificate : List UInt8) :
    Except BadStatus (Vector UInt8 20) :=
  match crypto.getCertificateThumbprint with
  | none => .error Status.badInternalError
  | some thumbprint =>
    if certificate.length = 0 then .error Status.badInternalError else thumbprint certificate

def minAsymmetricKeyBits : Nat := 2048
def maxAsymmetricKeyBits : Nat := 4096

def certificateValidate (crypto : CryptoAdapter ω) (policy : SecurityPolicy)
    (certificate : List UInt8) : Except BadStatus Unit :=
  if policy = .none then .ok ()
  else
    let family := securityPolicyAsymFamily policy
    if family ≠ .rsa ∧ family ≠ .ecc then .error Status.badSecurityPolicyRejected
    else
      match crypto.getCertificateKeyBits with
      | none => .error Status.badInternalError
      | some keyBits =>
        if certificate.length = 0 then .error Status.badCertificateInvalid
        else
          match keyBits certificate with
          | .error _ => .error Status.badCertificateInvalid
          | .ok bits =>
            if family = .rsa ∧ (bits < minAsymmetricKeyBits ∨ maxAsymmetricKeyBits < bits) then
              .error Status.badSecurityChecksFailed
            else
              match crypto.verifyCertificateValidity with
              | none => .error Status.badCertificateInvalid
              | some validity => validity certificate

/-- `mu_asym_signature_verify`: a missing primitive fails closed. -/
def asymSignatureVerify (crypto : CryptoAdapter ω) (policy : SecurityPolicy)
    (certificate data signature : List UInt8) : Except BadStatus Unit :=
  let verify := if securityPolicyUsesPss policy then crypto.rsaPssSha256Verify
    else crypto.rsaSha256Verify
  match verify with
  | none => .error Status.badSecurityChecksFailed
  | some verify => verify certificate data signature

def certificateValidateApplicationUri (crypto : Option (CryptoAdapter ω))
    (policy : SecurityPolicy) (certificate applicationUri : List UInt8) : Except BadStatus Unit :=
  if policy = .none ∨ policy = .invalid ∨ certificate.length = 0 ∨ applicationUri.length = 0 then
    .ok ()
  else
    match crypto.bind (·.verifyCertificateApplicationUri) with
    | none => .ok ()
    | some verify =>
      match verify certificate applicationUri with
      | .ok () => .ok ()
      | .error _ => .error Status.badCertificateUriInvalid

/-! ## Trust list -/

/-- `mu_trust_list_match`: an exact match with a listed certificate. -/
def trustListMatch (trustList : List (List UInt8)) (certificate : List UInt8) : Bool :=
  certificate.length ≠ 0 && trustList.contains certificate

end MucOpcua
