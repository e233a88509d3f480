import MucOpcua.Security.AsymChunk
import MucOpcua.Services.SecureChannel

/-!
# Sessions

The session table of `session.c` as the dispatcher uses it, and the certificate checks of the
session handshake: `validate_create_session_security` of `create_session.c` and
`verify_activate_client_signature` of `activate_session.c`.
-/

namespace MucOpcua

variable {ω : Type}

inductive SessionState where
  | closed | created | activated
  deriving DecidableEq, Repr

/-- `mu_session_t`. A closed slot keeps its token, so that a late request can be told from one with
a token that was never issued. -/
structure Session where
  state : SessionState
  sessionId : UInt32
  authToken : UInt32
  revisedSessionTimeoutMs : UInt32
  lastActivityMs : UInt64
  serverNonce : { nonce : List UInt8 // nonce.length = 32 }
  secureChannelId : UInt32
  deriving DecidableEq

theorem Session.length_zeroNonce : (List.replicate 32 (0 : UInt8)).length = 32 := rfl

def Session.init : Session :=
  ⟨.closed, 0, 0, 0, 0, ⟨List.replicate 32 0, Session.length_zeroNonce⟩, 0⟩

/-- `mu_session_find_by_token`: the index of the first slot that is not closed and has the token. -/
def sessionFindByToken (sessions : List Session) (authToken : UInt32) : Option Nat :=
  sessions.findIdx? fun session => session.state ≠ .closed ∧ session.authToken = authToken

theorem sessionFindByToken_some {sessions : List Session} {authToken : UInt32} {index : Nat}
    (h : sessionFindByToken sessions authToken = some index) :
    ∃ session, sessions[index]? = some session ∧ session.state ≠ .closed ∧
      session.authToken = authToken := by
  obtain ⟨hlt,hmatch,-⟩ := List.findIdx?_eq_some_iff_getElem.mp h
  obtain ⟨hstate,htoken⟩ : sessions[index].state ≠ .closed ∧ sessions[index].authToken = authToken :=
    by simpa using hmatch
  exact ⟨sessions[index],List.getElem?_eq_getElem hlt,hstate,htoken⟩

def sessionFindClosedByToken (sessions : List Session) (authToken : UInt32) : Option Nat :=
  sessions.findIdx? fun session => session.state = .closed ∧ session.authToken = authToken

def sessionValidateSecureChannel (session : Session) (activeSecureChannelId : UInt32) :
    Except BadStatus Unit :=
  if session.secureChannelId ≠ activeSecureChannelId then
    .error Status.badSecureChannelIdInvalid
  else .ok ()

/-! ## The certificate checks of the session handshake -/

def securityPolicyAsymSignatureUri : SecurityPolicy → Option (List UInt8)
  | .basic256Sha256 => some (ascii "http://www.w3.org/2001/04/xmldsig-more#rsa-sha256")
  | .aes128Sha256RsaOaep => some (ascii "http://www.w3.org/2001/04/xmldsig-more#rsa-sha256")
  | .aes256Sha256RsaPss => some (ascii "http://opcfoundation.org/UA/security/rsa-pss-sha2-256")
  | _ => none

/-- `validate_create_session_security`: on a secured channel the certificate in the request has to
be the channel's, and its ApplicationUri the declared one. -/
def validateCreateSessionSecurity (crypto : Option (CryptoAdapter ω)) (policy : SecurityPolicy)
    (channelClientCert : List UInt8) (clientCert applicationUri : MuString) :
    Except BadStatus Unit :=
  if policy = .none ∨ policy = .invalid then .ok ()
  else if clientCert.length ≤ 0 ∨ clientCert.bytes ≠ channelClientCert then
    .error Status.badSecurityChecksFailed
  else certificateValidateApplicationUri crypto policy clientCert.bytes applicationUri.bytes

def activateVerifyBufSize : Nat := 1536

/-- The tail both branches of `verify_activate_client_signature` share: the signature is over the
server's certificate and the session's nonce. -/
def verifyOverNonce (ownCert : Except BadStatus (List UInt8)) (serverNonce : List UInt8)
    (verify : List UInt8 → Except BadStatus Unit) : Except BadStatus Unit :=
  match ownCert with
  | .error _ => .error Status.badSecurityChecksFailed
  | .ok ownCert =>
    if activateVerifyBufSize < ownCert.length + serverNonce.length then
      .error Status.badSecurityChecksFailed
    else
      match verify (ownCert ++ serverNonce) with
      | .error _ => .error Status.badSecurityChecksFailed
      | .ok () => .ok ()

/-- `verify_activate_client_signature`: the client has to sign with the channel's certificate. -/
def verifyActivateClientSignature (crypto : Option (CryptoAdapter ω)) (policy : SecurityPolicy)
    (channelClientCert : List UInt8) (slot : Session) (algorithm signature : MuString) :
    Except BadStatus Unit :=
  if policy = .none ∨ policy = .invalid then .ok ()
  else
    match crypto with
    | none => .error Status.badSecurityChecksFailed
    | some crypto =>
      if signature.length ≤ 0 then .error Status.badSecurityChecksFailed
      else
        match securityPolicyEccCurve policy with
        | some curve =>
          match crypto.getOwnEccCertificate, crypto.eccVerify with
          | some getOwnEccCertificate, some eccVerify =>
            if 0 < algorithm.length ∧ some algorithm.bytes ≠ securityPolicyUri policy then
              .error Status.badSecurityChecksFailed
            else if channelClientCert = [] then .error Status.badSecurityChecksFailed
            else
              verifyOverNonce (getOwnEccCertificate curve) slot.serverNonce.val fun data =>
                eccVerify curve channelClientCert data signature.bytes
          | _, _ => .error Status.badSecurityChecksFailed
        | none =>
          match securityPolicyAsymSignatureUri policy with
          | none => .error Status.badSecurityChecksFailed
          | some expectedUri =>
            if algorithm.length < 0 ∨ algorithm.bytes ≠ expectedUri then
              .error Status.badSecurityChecksFailed
            else if channelClientCert = [] then .error Status.badSecurityChecksFailed
            else
              verifyOverNonce crypto.getOwnCertificate slot.serverNonce.val fun data =>
                asymSignatureVerify crypto policy channelClientCert data signature.bytes

end MucOpcua
