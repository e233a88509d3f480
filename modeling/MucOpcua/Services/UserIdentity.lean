import MucOpcua.Services.SessionTable

/-!
# The user of a session

`verify_and_activate_session` of `activate_session.c` with the identity it leaves in the session,
and `mu_session_same_user` of `session.c`. The validator of JSON web tokens and the application's
user handler are parameters. The session keeps 64 bytes of what names its user, so two users are told
apart only by those.
-/

namespace MucOpcua

variable {ω : Type}

/-! ## The fingerprint -/

/-- `user_identity_kind`, `user_identity_len` and `user_identity` of `mu_session_t`. -/
structure UserIdentity where
  kind : UInt8
  len : UInt8
  bytes : { bytes : List UInt8 // bytes.length = 64 }

structure UserSession where
  session : Session
  identity : UserIdentity

/-- The copy into `user_identity`, which cuts the source to the size of the field. -/
def UserIdentity.copy (identity : UserIdentity) (source : List UInt8) : UserIdentity :=
  { identity with
    len := UInt8.ofNat (min source.length 64)
    bytes := ⟨source.take 64 ++ identity.bytes.val.drop (min source.length 64), by
      have := identity.bytes.property
      simp only [List.length_append, List.length_take, List.length_drop]
      omega⟩ }

def sessionSameUser (a b : UserIdentity) : Bool :=
  if a.kind ≠ b.kind ∨ a.len ≠ b.len then false
  else decide (a.bytes.val.take a.len.toNat = b.bytes.val.take a.len.toNat)

/-! ## Identity tokens -/

structure IssuedIdentityToken where
  policyId : MuString
  tokenData : MuString
  encryptionAlgorithm : MuString

/-- What `decode_user_identity_token` fills in; the members of the other types stay null. -/
structure IdentityToken where
  typeNumeric : UInt32
  anonPolicyId : MuString
  user : UserNameIdentityToken
  certificate : CertificateIdentityToken
  issued : IssuedIdentityToken

structure JwtClaims where
  sub : List UInt8
  sub_lt : sub.length < 128
  sub_ne : sub ≠ []

inductive JwtError where
  | noConfiguredIssuers | refused

structure IdentityConfig (ω : Type) where
  crypto : Option (CryptoAdapter ω)
  /-- user name, password or certificate, policy -/
  userAuthHandler : Option (Option MuString → Option MuString → MuString → Except BadStatus Unit)
  jwtValidate : List UInt8 → Int64 → Except JwtError JwtClaims
  /-- `MUC_OPCUA_CU_SESSION_CHANGE_USER` -/
  changeUser : Bool

/-- One ActivateSession request with what the server has at hand when it arrives. -/
structure ActivateCall (ω : Type) where
  cfg : IdentityConfig ω
  channelId : UInt32
  policy : SecurityPolicy
  channelClientCert : List UInt8
  getTime : Option Int64
  tick : Option UInt64
  sessions : List UserSession
  authenticationToken : NodeId
  algorithm : MuString
  signature : MuString
  token : IdentityToken
  userTokenSignature : MuString

def securityPolicyAllowsUsernamePasswordTokens (policy : SecurityPolicy) : Bool :=
  policy ≠ .none ∧ policy ≠ .invalid

def handleActivateAnonymous (cfg : IdentityConfig ω) (anonPolicyId : MuString) :
    Except BadStatus Unit :=
  match cfg.userAuthHandler with
  | some handler => handler none none anonPolicyId
  | none => .ok ()

/-- The decrypted secret: a length, the password and the session's nonce. -/
def decryptPassword (crypto : Option (CryptoAdapter ω)) (serverNonce : List UInt8)
    (password : MuString) : Except BadStatus MuString :=
  match crypto with
  | none => .error Status.badIdentityTokenRejected
  | some crypto =>
    match crypto.rsaOaepDecrypt 512 password.bytes with
    | .error _ => .error Status.badIdentityTokenRejected
    | .ok plain =>
      let secretLen := (leGetU32 plain.val).toInt32
      if plain.val.length < 4 then .error Status.badIdentityTokenRejected
      else if secretLen < 32 ∨ secretLen.toInt ≠ (plain.val.length : Int) - 4 then
        .error Status.badIdentityTokenRejected
      else
        let actualLen := secretLen.toInt.toNat - 32
        if plain.val.drop (4 + actualLen) ≠ serverNonce then
          .error Status.badIdentityTokenRejected
        else .ok (MuString.ofBytes ((plain.val.drop 4).take actualLen))

def handleActivateUsername (cfg : IdentityConfig ω) (policy : SecurityPolicy) (slot : Session)
    (token : UserNameIdentityToken) : Except BadStatus Unit := do
  if securityPolicyAllowsUsernamePasswordTokens policy = false then
    throw Status.badIdentityTokenRejected
  let password ←
    if 0 < token.encryptionAlgorithm.length ∧ 0 < token.password.length then
      decryptPassword cfg.crypto slot.serverNonce.val token.password
    else pure token.password
  match cfg.userAuthHandler with
  | some handler => handler (some token.username) (some password) token.policyId
  | none => throw Status.badIdentityTokenRejected

def handleActivateCertificate (cfg : IdentityConfig ω) (slot : Session)
    (token : CertificateIdentityToken) (userTokenSignature : MuString) : Except BadStatus Unit :=
  if token.certificateData.length ≤ 0 ∨ userTokenSignature.length ≤ 0 then
    .error Status.badIdentityTokenRejected
  else
    match cfg.crypto with
    | none => .error Status.badIdentityTokenRejected
    | some crypto =>
      match crypto.rsaSha256Verify, crypto.getOwnCertificate with
      | none, _ | _, .error _ => .error Status.badIdentityTokenRejected
      | some verify, .ok ownCert =>
        if activateVerifyBufSize < ownCert.length + 32 then .error Status.badInternalError
        else
          match verify token.certificateData.bytes (ownCert ++ slot.serverNonce.val)
              userTokenSignature.bytes with
          | .error _ => .error Status.badIdentityTokenRejected
          | .ok () =>
            match cfg.userAuthHandler with
            | some handler => handler none (some token.certificateData) token.policyId
            | none => .ok ()

def serverTimeUnix (getTime : Option Int64) : Int64 :=
  getTime.elim 0 fun now => now / 10000000 - 11644473600

def handleActivateJwt (cfg : IdentityConfig ω) (policy : SecurityPolicy) (getTime : Option Int64)
    (token : IssuedIdentityToken) : Except BadStatus JwtClaims :=
  if token.tokenData.length ≤ 0 then .error Status.badIdentityTokenInvalid
  else if policy = .none ∨ policy = .invalid then .error Status.badIdentityTokenRejected
  else if 4096 < token.tokenData.length then .error Status.badIdentityTokenInvalid
  else
    match cfg.jwtValidate token.tokenData.bytes (serverTimeUnix getTime) with
    | .ok claims => .ok claims
    | .error .noConfiguredIssuers => .error Status.badIdentityTokenRejected
    | .error .refused => .error Status.badIdentityTokenInvalid

/-! ## Activation -/

namespace ActivateCall

def checkIdentity (call : ActivateCall ω) (slot : Session) :
    Except BadStatus (Option JwtClaims) :=
  if call.token.typeNumeric = 321 then
    (handleActivateAnonymous call.cfg call.token.anonPolicyId).map fun _ => none
  else if call.token.typeNumeric = 324 then
    (handleActivateUsername call.cfg call.policy slot call.token.user).map fun _ => none
  else if call.token.typeNumeric = 327 then
    (handleActivateCertificate call.cfg slot call.token.certificate call.userTokenSignature).map
      fun _ => none
  else if call.token.typeNumeric = 940 then
    (handleActivateJwt call.cfg call.policy call.getTime call.token.issued).map some
  else .error Status.badIdentityTokenInvalid

def verify (call : ActivateCall ω) (slot : Session) : Except BadStatus (Option JwtClaims) :=
  match sessionValidateSecureChannel slot call.channelId with
  | .error status => .error status
  | .ok () =>
    if call.cfg.changeUser = false ∧ slot.state = .activated then
      .error Status.badServiceUnsupported
    else if call.token.typeNumeric = 0 then .error Status.badIdentityTokenInvalid
    else
      match verifyActivateClientSignature call.cfg.crypto call.policy call.channelClientCert slot
          call.algorithm call.signature with
      | .error status => .error status
      | .ok () => call.checkIdentity slot

def withSubject (identity : UserIdentity) : Option JwtClaims → UserIdentity
  | some claims => { identity with kind := 4 }.copy claims.sub
  | none => identity

def fingerprint (identity : UserIdentity) (token : IdentityToken) : UserIdentity :=
  if token.typeNumeric = 940 then identity
  else
    let kind := if token.typeNumeric = 324 then 2 else if token.typeNumeric = 327 then 3 else 1
    let cleared := { identity with kind, len := 0 }
    let disc :=
      if token.typeNumeric = 324 then token.user.username
      else if token.typeNumeric = 327 then token.certificate.certificateData
      else MuString.null
    if 0 < disc.length then cleared.copy disc.bytes else cleared

/-- The session's token, if the request has one of the kind the server issues. -/
def authToken (call : ActivateCall ω) : Option UInt32 :=
  match call.authenticationToken with
  | ⟨0, .numeric authToken⟩ => some authToken
  | _ => none

def slotIndex (call : ActivateCall ω) : Option Nat :=
  call.authToken.bind (sessionFindByToken (call.sessions.map UserSession.session))

/-- `verify_and_activate_session` on the slot it found. -/
def activateSlot (call : ActivateCall ω) (authToken : UInt32) (slot : UserSession) :
    Except BadStatus Unit × UserSession :=
  match call.verify slot.session with
  | .error status => (.error status, slot)
  | .ok claims =>
    let identity := withSubject slot.identity claims
    match sessionActivate slot.session authToken call.token.typeNumeric with
    | .error status => (.error status, { slot with identity })
    | .ok session =>
      (.ok (),
        { session := { session with lastActivityMs := call.tick.getD session.lastActivityMs }
          identity := fingerprint identity call.token })

/-- `verify_and_activate_session`. -/
def run (call : ActivateCall ω) : Except BadStatus Unit × List UserSession :=
  match call.authToken, call.slotIndex with
  | some authToken, some i =>
    match call.sessions[i]? with
    | some slot =>
      let (status, slot) := call.activateSlot authToken slot
      (status, call.sessions.set i slot)
    | none => (.error Status.badSessionIdInvalid, call.sessions)
  | _, _ => (.error Status.badSessionIdInvalid, call.sessions)

def activated (call : ActivateCall ω) : Option UserSession :=
  match call.run with
  | (.ok (), sessions) => call.slotIndex.bind fun i => sessions[i]?
  | _ => none

end ActivateCall

/-! ## Users -/

inductive UserKind where
  | anonymous | userName | x509 | jwt
  deriving DecidableEq

/-- The user a token denotes: its kind, and the name, certificate or subject in full. -/
structure User where
  kind : UserKind
  name : List UInt8
  deriving DecidableEq

/-- The user of a request. A JWT denotes the subject its validator reports. -/
def ActivateCall.user (call : ActivateCall ω) : Option User :=
  if call.token.typeNumeric = 321 then some ⟨.anonymous, []⟩
  else if call.token.typeNumeric = 324 then some ⟨.userName, call.token.user.username.bytes⟩
  else if call.token.typeNumeric = 327 then
    some ⟨.x509, call.token.certificate.certificateData.bytes⟩
  else if call.token.typeNumeric = 940 then
    match call.cfg.jwtValidate call.token.issued.tokenData.bytes (serverTimeUnix call.getTime) with
    | .ok claims => some ⟨.jwt, claims.sub⟩
    | .error _ => none
  else none

def UserKind.code : UserKind → UInt8
  | .anonymous => 1
  | .userName => 2
  | .x509 => 3
  | .jwt => 4

theorem UserKind.code_inj {a b : UserKind} : a.code = b.code ↔ a = b := by
  cases a <;> cases b <;> decide

structure UserIdentity.Remembers (identity : UserIdentity) (user : User) : Prop where
  kind_eq : identity.kind = user.kind.code
  len_eq : identity.len.toNat = min user.name.length 64
  bytes_eq : identity.bytes.val.take identity.len.toNat = user.name.take 64

variable (identity : UserIdentity)

theorem UserIdentity.remembers_copy (user : User)
    (hkind : identity.kind = user.kind.code) : (identity.copy user.name).Remembers user := by
  have hlen : (UInt8.ofNat (min user.name.length 64)).toNat = min user.name.length 64 := by
    exact Nat.mod_eq_of_lt (by omega)
  refine ⟨hkind,hlen,?_⟩
  change (user.name.take 64 ++ _).take (UInt8.ofNat (min user.name.length 64)).toNat = _
  rw [hlen,List.take_append_of_le_length (by simp [Nat.min_comm]),List.take_take,
    List.take_eq_take_iff]
  omega

theorem UserIdentity.remembers_cleared (user : User)
    (hkind : identity.kind = user.kind.code) (hlen : identity.len = 0) (hname : user.name = []) :
    identity.Remembers user := by
  refine ⟨hkind,?_,?_⟩
  · simp [hlen,hname]
  · simp [hlen,hname]

theorem UserIdentity.remembers_disc (kind : UserKind) (disc : MuString)
    (hkind : identity.kind = kind.code) (hlen : identity.len = 0) :
    UserIdentity.Remembers (if 0 < disc.length then identity.copy disc.bytes else identity)
      ⟨kind, disc.bytes⟩ := by
  by_cases hpos : 0 < disc.length
  · rw [if_pos hpos]
    exact identity.remembers_copy ⟨kind,disc.bytes⟩ hkind
  have hempty : disc.bytes = [] := by
    cases hdata : disc.data with
    | none => simp [MuString.bytes,hdata]
    | some d =>
      have hsized := disc.sized d (by simp [hdata])
      have hzero : d = [] := List.length_eq_zero_iff.mp (by omega)
      simp [MuString.bytes,hdata,hzero]
  rw [if_neg hpos]
  exact identity.remembers_cleared _ hkind hlen hempty

theorem UserIdentity.Remembers.sameUser_iff {a b : UserIdentity} {u v : User}
    (ha : a.Remembers u) (hb : b.Remembers v) :
    sessionSameUser a b = true ↔ u.kind = v.kind ∧ u.name.take 64 = v.name.take 64 := by
  have hlen : a.len = b.len ↔ min u.name.length 64 = min v.name.length 64 := by
    rw [← UInt8.toNat_inj,ha.len_eq,hb.len_eq]
  unfold sessionSameUser
  rw [ha.kind_eq,hb.kind_eq]
  by_cases hkind : u.kind = v.kind
  · by_cases hsame : a.len = b.len
    · have hneg : ¬ (u.kind.code ≠ v.kind.code ∨ a.len ≠ b.len) := by simp [hkind,hsame]
      rw [if_neg hneg,ha.bytes_eq,hsame,hb.bytes_eq]
      simp [hkind]
    · rw [if_pos (Or.inr hsame)]
      refine iff_of_false (by simp) ?_
      intro ⟨_,htake⟩
      apply hsame
      apply hlen.mpr
      have hlength := congrArg List.length htake
      simpa [Nat.min_comm] using hlength
  · have hcode : u.kind.code ≠ v.kind.code := fun h => hkind (UserKind.code_inj.mp h)
    rw [if_pos (Or.inl hcode)]
    simp [hkind]

theorem handleActivateJwt_ok {cfg : IdentityConfig ω} {policy : SecurityPolicy}
    {getTime : Option Int64} {token : IssuedIdentityToken} {claims : JwtClaims}
    (h : handleActivateJwt cfg policy getTime token = .ok claims) :
    cfg.jwtValidate token.tokenData.bytes (serverTimeUnix getTime) = .ok claims := by
  unfold handleActivateJwt at h
  split at h
  · cases h
  split at h
  · cases h
  split at h
  · cases h
  split at h
  · next hvalid =>
    cases h
    exact hvalid
  · cases h
  · cases h

namespace ActivateCall

variable {call : ActivateCall ω}

theorem activateSlot_ok {authToken : UInt32} {slot after : UserSession}
    (h : call.activateSlot authToken slot = (.ok (), after)) :
    ∃ claims, call.checkIdentity slot.session = .ok claims ∧
      after.identity = fingerprint (withSubject slot.identity claims) call.token := by
  unfold activateSlot at h
  split at h
  · cases h
  rename_i claims hverify
  have hcheck : call.checkIdentity slot.session = .ok claims := by
    unfold verify at hverify
    split at hverify
    · cases hverify
    split at hverify
    · cases hverify
    split at hverify
    · cases hverify
    split at hverify
    · cases hverify
    · exact hverify
  split at h
  · cases h
  · cases h
    exact ⟨claims,hcheck,rfl⟩

theorem activated_eq {after : UserSession} (h : call.activated = some after) :
    ∃ authToken slot, call.activateSlot authToken slot = (.ok (), after) := by
  unfold activated at h
  split at h
  · next sessions hrun =>
    unfold run at hrun
    split at hrun
    · next authToken i _ hindex =>
      split at hrun
      · next slot hslot =>
        obtain ⟨hstatus,rfl⟩ := Prod.mk.inj hrun
        rw [hindex,Option.bind_some,List.getElem?_set_self (List.getElem?_eq_some_iff.mp hslot).1,
          Option.some.injEq] at h
        exact ⟨authToken,slot,Prod.ext hstatus h⟩
      · cases hrun
    · cases hrun
  · cases h

theorem remembers_of_activated {after : UserSession} (h : call.activated = some after) :
    ∃ user, call.user = some user ∧ after.identity.Remembers user := by
  obtain ⟨authToken,slot,hslot⟩ := activated_eq h
  obtain ⟨claims,hcheck,hidentity⟩ := activateSlot_ok hslot
  rw [hidentity]
  unfold checkIdentity at hcheck
  unfold ActivateCall.user fingerprint
  by_cases h321 : call.token.typeNumeric = 321
  · rw [if_pos h321]
    refine ⟨_,rfl,?_⟩
    simp only [h321]
    exact UserIdentity.remembers_cleared _ _ rfl rfl rfl
  by_cases h324 : call.token.typeNumeric = 324
  · rw [if_neg h321,if_pos h324]
    refine ⟨_,rfl,?_⟩
    simp only [h324]
    exact UserIdentity.remembers_disc _ .userName _ rfl rfl
  by_cases h327 : call.token.typeNumeric = 327
  · rw [if_neg h321,if_neg h324,if_pos h327]
    refine ⟨_,rfl,?_⟩
    simp only [h327]
    exact UserIdentity.remembers_disc _ .x509 _ rfl rfl
  rw [if_neg h321,if_neg h324,if_neg h327] at hcheck
  rw [if_neg h321,if_neg h324,if_neg h327]
  by_cases h940 : call.token.typeNumeric = 940
  · rw [if_pos h940] at hcheck
    rw [if_pos h940,if_pos h940]
    cases hjwt : handleActivateJwt call.cfg call.policy call.getTime call.token.issued with
    | error status =>
      rw [hjwt] at hcheck
      cases hcheck
    | ok subject =>
      rw [hjwt] at hcheck
      cases hcheck
      rw [handleActivateJwt_ok hjwt]
      exact ⟨_,rfl,UserIdentity.remembers_copy _ ⟨.jwt,subject.sub⟩ rfl⟩
  · rw [if_neg h940] at hcheck
    cases hcheck

end ActivateCall

/-- For two activated sessions, passing for one user means being one user exactly if the two
requests differ in the kind of their tokens, or name one user, or differ in the first 64 bytes of
the names. -/
theorem sessionSameUser_sound_iff {ω' : Type} (first : ActivateCall ω) (second : ActivateCall ω')
    (a b : UserSession) (ha : first.activated = some a) (hb : second.activated = some b) :
    ∃ u v, first.user = some u ∧ second.user = some v ∧
      ((sessionSameUser a.identity b.identity = true → u = v) ↔
        (u.kind ≠ v.kind ∨ u.name = v.name ∨ u.name.take 64 ≠ v.name.take 64)) := by
  obtain ⟨u,hu,hrememberA⟩ := first.remembers_of_activated ha
  obtain ⟨v,hv,hrememberB⟩ := second.remembers_of_activated hb
  refine ⟨u,v,hu,hv,?_⟩
  rw [hrememberA.sameUser_iff hrememberB]
  have heq : u = v ↔ u.kind = v.kind ∧ u.name = v.name := by
    cases u
    cases v
    simp
  tauto

namespace Sample

def acceptingCrypto : CryptoAdapter Unit :=
  { refusingCrypto with
    getOwnEccCertificate := some fun _ => .ok [1]
    eccVerify := some fun _ _ _ _ => .ok () }

def activation (name : List UInt8) : ActivateCall Unit where
  cfg :=
    { crypto := some acceptingCrypto
      userAuthHandler := some fun _ _ _ => .ok ()
      jwtValidate := fun _ _ => .error .noConfiguredIssuers
      changeUser := false }
  channelId := 1
  policy := .eccNistP256
  channelClientCert := [1]
  getTime := none
  tick := none
  sessions :=
    [⟨{ Session.init with state := .created, authToken := 7, secureChannelId := 1 },
      ⟨0, 0, ⟨List.replicate 64 0, rfl⟩⟩⟩]
  authenticationToken := ⟨0, .numeric 7⟩
  algorithm := MuString.null
  signature := MuString.ofBytes [1]
  token :=
    { typeNumeric := 324
      anonPolicyId := MuString.null
      user := ⟨MuString.null, MuString.ofBytes name, MuString.null, MuString.null⟩
      certificate := ⟨MuString.null, MuString.null⟩
      issued := ⟨MuString.null, MuString.null, MuString.null⟩ }
  userTokenSignature := MuString.null

def activatedSlot (name : List UInt8) : UserSession :=
  ⟨{ Session.init with state := .activated, authToken := 7, secureChannelId := 1 },
    ActivateCall.fingerprint ⟨0, 0, ⟨List.replicate 64 0, rfl⟩⟩ (activation name).token⟩

end Sample

/-- Two short names are told apart. -/
theorem sessionSameUser_sound_short :
    ∃ u v, (Sample.activation [97]).user = some u ∧ (Sample.activation [98]).user = some v ∧
      ((sessionSameUser (Sample.activatedSlot [97]).identity
          (Sample.activatedSlot [98]).identity = true → u = v) ↔
        (u.kind ≠ v.kind ∨ u.name = v.name ∨ u.name.take 64 ≠ v.name.take 64)) :=
  sessionSameUser_sound_iff (Sample.activation [97]) (Sample.activation [98])
    (Sample.activatedSlot [97]) (Sample.activatedSlot [98]) rfl rfl

/-- Names of 65 bytes that differ in the last one pass for one user. -/
theorem sessionSameUser_long_names : (Sample.activation (List.replicate 64 97 ++ [97])).activated =
        some (Sample.activatedSlot (List.replicate 64 97 ++ [97])) ∧
      (Sample.activation (List.replicate 64 97 ++ [98])).activated =
        some (Sample.activatedSlot (List.replicate 64 97 ++ [98])) ∧
      sessionSameUser (Sample.activatedSlot (List.replicate 64 97 ++ [97])).identity
        (Sample.activatedSlot (List.replicate 64 97 ++ [98])).identity = true ∧
      (Sample.activation (List.replicate 64 97 ++ [97])).user ≠
        (Sample.activation (List.replicate 64 97 ++ [98])).user :=
  ⟨rfl,rfl,by decide,by decide⟩

end MucOpcua
