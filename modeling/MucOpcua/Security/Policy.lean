import MucOpcua.Core.MessageChunk

/-!
# Security policies

`security_policy.c`: the parameter row of each policy and its URI. The build has the secured
policies, RSA and ECC.
-/

namespace MucOpcua

inductive SecurityPolicy where
  | invalid | none | basic256Sha256 | aes128Sha256RsaOaep | aes256Sha256RsaPss
  | eccNistP256 | eccCurve25519
  deriving DecidableEq, Repr

inductive AsymFamily where
  | none | rsa | ecc
  deriving DecidableEq, Repr

inductive SymMode where
  | none | cbcHmac | aeadChacha20Poly1305
  deriving DecidableEq, Repr

inductive EccCurve where
  | curve25519 | nistP256
  deriving DecidableEq, Repr

/-- The wire value is 1, 2 or 3; every other value compares unequal to the named modes. -/
inductive MessageSecurityMode where
  | invalid | none | sign | signAndEncrypt
  deriving DecidableEq, Repr

def MessageSecurityMode.ofUInt32 (value : UInt32) : MessageSecurityMode :=
  if value = 1 then .none else if value = 2 then .sign else if value = 3 then .signAndEncrypt
  else .invalid

structure SecurityPolicyParams where
  id : SecurityPolicy
  uri : List UInt8
  sigKeyLen : Nat
  encKeyLen : Nat
  blockSize : Nat
  nonceLen : Nat
  ivLen : Nat
  asymFamily : AsymFamily
  symMode : SymMode
  eccCurve : EccCurve

def policyTable : List SecurityPolicyParams :=
  [⟨.none, securityPolicyNoneUri, 0, 0, 0, 0, 0, .none, .none, .curve25519⟩,
    ⟨.basic256Sha256, ascii "http://opcfoundation.org/UA/SecurityPolicy#Basic256Sha256",
      32, 32, 16, 32, 16, .rsa, .cbcHmac, .curve25519⟩,
    ⟨.aes128Sha256RsaOaep, ascii "http://opcfoundation.org/UA/SecurityPolicy#Aes128_Sha256_RsaOaep",
      32, 16, 16, 32, 16, .rsa, .cbcHmac, .curve25519⟩,
    ⟨.aes256Sha256RsaPss, ascii "http://opcfoundation.org/UA/SecurityPolicy#Aes256_Sha256_RsaPss",
      32, 32, 16, 32, 16, .rsa, .cbcHmac, .curve25519⟩,
    ⟨.eccNistP256, ascii "http://opcfoundation.org/UA/SecurityPolicy#ECC_nistP256",
      32, 16, 16, 64, 16, .ecc, .cbcHmac, .nistP256⟩,
    ⟨.eccCurve25519, ascii "http://opcfoundation.org/UA/SecurityPolicy#ECC_curve25519",
      0, 32, 1, 32, 12, .ecc, .aeadChacha20Poly1305, .curve25519⟩]

def policyRow (id : SecurityPolicy) : Option SecurityPolicyParams :=
  policyTable.find? fun row => row.id = id

def securityPolicyFromUri (uri : List UInt8) : SecurityPolicy :=
  if uri = [] then .none
  else (policyTable.find? fun row => row.uri = uri).elim .invalid (·.id)

def securityPolicyUri (id : SecurityPolicy) : Option (List UInt8) := (policyRow id).map (·.uri)

def securityPolicySignatureKeyLength (id : SecurityPolicy) : Nat :=
  (policyRow id).elim 0 (·.sigKeyLen)

def securityPolicyEncryptionKeyLength (id : SecurityPolicy) : Nat :=
  (policyRow id).elim 0 (·.encKeyLen)

def securityPolicyEncryptionBlockSize (id : SecurityPolicy) : Nat :=
  (policyRow id).elim 0 (·.blockSize)

def securityPolicyNonceLength (id : SecurityPolicy) : Nat := (policyRow id).elim 0 (·.nonceLen)

def securityPolicyIvLength (id : SecurityPolicy) : Nat := (policyRow id).elim 0 (·.ivLen)

def securityPolicyAsymFamily (id : SecurityPolicy) : AsymFamily :=
  (policyRow id).elim .none (·.asymFamily)

def securityPolicySymMode (id : SecurityPolicy) : SymMode := (policyRow id).elim .none (·.symMode)

def securityPolicyEccCurve (id : SecurityPolicy) : Option EccCurve :=
  (policyRow id).bind fun row => if row.asymFamily = .ecc then some row.eccCurve else none

def securityPolicyUsesPss (id : SecurityPolicy) : Bool := id = .aes256Sha256RsaPss

end MucOpcua
