import MucOpcua.Server.Connections

/-!
# The session of a dispatched request

A service that requires a session is only carried out for the activated session whose token the
request header has, and only on the channel that session is bound to.
-/

namespace MucOpcua

variable {ω σ : Type} (cfg : ServerConfig ω σ)

/-- The session in a slot may use the service: the request header's authentication token is its
own, it is activated, and the request came over the channel it is bound to. -/
structure Admits (s : Server ω σ) (body : List UInt8) (index : Nat) (session : Session) : Prop where
  slot : s.sessions[index]? = some session
  activated : session.state = .activated
  token : ∃ node, binaryReadNodeid.result (BinaryReader.init body) = .ok node ∧
    ns0Numeric? node = some session.authToken
  header : ∀ header, requestHeaderDecode.result (BinaryReader.init body) = .ok header →
    ns0Numeric? header.authenticationToken = some session.authToken
  issued : session.authToken ≠ 0
  channel : session.secureChannelId = s.channel.channelId

theorem requestHeaderDecode_token {reader : BinaryReader} {header : RequestHeader}
    (h : requestHeaderDecode.result reader = .ok header) :
    binaryReadNodeid.result reader = .ok header.authenticationToken := by
  unfold ReadM.result at h ⊢
  cases hdecode : requestHeaderDecode reader with
  | error status reader' =>
    rw [hdecode] at h
    cases h
  | ok header' reader' =>
    rw [hdecode] at h
    cases h
    obtain ⟨token,r₁,htoken,hdecode⟩ := Sticky.ok_of_bind hdecode
    obtain ⟨timestamp,r₂,-,hdecode⟩ := Sticky.ok_of_bind hdecode
    obtain ⟨requestHandle,r₃,-,hdecode⟩ := Sticky.ok_of_bind hdecode
    obtain ⟨returnDiagnostics,r₄,-,hdecode⟩ := Sticky.ok_of_bind hdecode
    obtain ⟨auditEntryId,r₅,-,hdecode⟩ := Sticky.ok_of_bind hdecode
    obtain ⟨timeoutHint,r₆,-,hdecode⟩ := Sticky.ok_of_bind hdecode
    obtain ⟨_,r₇,-,hdecode⟩ := Sticky.ok_of_bind hdecode
    cases hdecode
    rw [htoken]

theorem sessionValidateSecureChannel_ok {session : Session} {channelId : UInt32}
    (h : sessionValidateSecureChannel session channelId = .ok ()) :
    session.secureChannelId = channelId := by
  unfold sessionValidateSecureChannel at h
  split at h
  · cases h
  · next heq => simpa using heq

theorem readAuthTokenFromRequest_ne_zero {body : List UInt8}
    (h : readAuthTokenFromRequest body ≠ 0) :
    ∃ node, binaryReadNodeid.result (BinaryReader.init body) = .ok node ∧
      ns0Numeric? node = some (readAuthTokenFromRequest body) := by
  unfold readAuthTokenFromRequest at h ⊢
  cases hread : binaryReadNodeid.result (BinaryReader.init body) with
  | error status =>
    rw [hread] at h
    exact (h rfl).elim
  | ok node =>
    rw [hread] at h
    refine ⟨node,rfl,?_⟩
    cases hnumber : ns0Numeric? node with
    | none =>
      dsimp only at h
      rw [hnumber] at h
      exact (h rfl).elim
    | some token => simp [hnumber]

/-! ## The checks -/

/-- The checks admit a session and make it the active one, or they leave everything but the
diagnostics counters alone. -/
theorem bindSession_cases (s : Server ω σ) (body : List UInt8) :
    (∃ index session, Admits s body index session ∧
      bindSession cfg s body = (.ok (), s.activate cfg index)) ∨
    ∃ status security, bindSession cfg s body = (.error status, s.rejectRequest security) := by
  unfold bindSession
  dsimp only
  split
  · exact .inr ⟨_,_,rfl⟩
  rename_i htoken
  split
  · exact .inr ⟨_,_,rfl⟩
  rename_i index hfind
  obtain ⟨session,hslot,-,hown⟩ := sessionFindByToken_some hfind
  have hget : s.sessions.getD index Session.init = session := by
    simp [hslot]
  rw [hget]
  split
  · exact .inr ⟨_,_,rfl⟩
  rename_i hchannel
  split
  · exact .inr ⟨_,_,rfl⟩
  rename_i hactivated
  obtain ⟨node,hnode,hnumber⟩ := readAuthTokenFromRequest_ne_zero htoken
  rw [← hown] at hnumber
  refine .inl ⟨index,session,⟨hslot,by simpa using hactivated,⟨node,hnode,hnumber⟩,
    fun header hdecode => ?_,hown ▸ htoken,sessionValidateSecureChannel_ok hchannel⟩,rfl⟩
  rw [requestHeaderDecode_token hdecode] at hnode
  cases hnode
  exact hnumber

/-! ## The dispatch -/

/-- The handler of a service that requires a session runs only for a session that is admitted, and
with it as the active one; otherwise the sessions and the services' state stay as they were. -/
theorem serviceDispatch_session_gate (s : Server ω σ) (requestId : UInt32) (body : List UInt8)
    (slot : Server.Slot) {descriptor : ServiceDescriptor}
    (hfind : findServiceDescriptor requestId = some descriptor)
    (hsession : descriptor.requiresSession = true) :
    let s' := (serviceDispatch cfg s requestId body slot).2
    (∃ index session, Admits s body index session ∧ s'.trace = s.trace ++
        [.dispatched requestId body,.handled requestId (some index) s.channelClientCert.val]) ∨
      (s'.trace = s.trace ++ [.dispatched requestId body] ∧ s'.sessions = s.sessions ∧
        s'.app = s.app) := by
  obtain ⟨-,-,hbegin⟩ := beginDispatch_frame s requestId body
  unfold serviceDispatch
  rw [hfind]
  dsimp only
  split
  · exact .inr ⟨hbegin,rfl,rfl⟩
  rcases bindSession_cases cfg (s.beginDispatch requestId body) body with
    ⟨index,session,hadmits,hbind⟩ | ⟨status,security,hbind⟩
  · rw [hbind]
    have hcall := callHandler_handled cfg
      ((s.beginDispatch requestId body).activate cfg index) requestId body slot
    refine .inl ⟨index,session,⟨hadmits.slot,hadmits.activated,hadmits.token,
      hadmits.header,hadmits.issued,hadmits.channel⟩,?_⟩
    have hactive : ((s.beginDispatch requestId body).activate cfg index).trace =
        s.trace ++ [.dispatched requestId body] := hbegin
    rw [hcall.trace,hactive,List.append_assoc]
    rfl
  · rw [hbind]
    exact .inr ⟨hbegin,rfl,rfl⟩

/-- A server with an open channel, a closed session and an activated one that has its old token. -/
def sessionServer : Server Unit Unit where
  toShared :=
    { bareShared with
      sessions :=
        [{ Session.init with authToken := 7 },
          { Session.init with state := .activated, authToken := 7, secureChannelId := 1 }] }
  conn := bareConnection .none .none
  peers := []

/-- A Read request with token 7 is for the second slot. -/
theorem serviceDispatch_session_gate_read :
    let cfg := bareConfig none
    let s' := (serviceDispatch cfg sessionServer 631 [0x00,0x07] .scratch).2
    findServiceDescriptor 631 = some ⟨631,634,true⟩ ∧
      s'.trace = [.dispatched 631 [0x00,0x07],.handled 631 (some 1) []] ∧
      ((∃ index session, Admits sessionServer [0x00,0x07] index session ∧
        s'.trace = sessionServer.trace ++ [.dispatched 631 [0x00,0x07],
          .handled 631 (some index) sessionServer.channelClientCert.val]) ∨
        (s'.trace = sessionServer.trace ++ [.dispatched 631 [0x00,0x07]] ∧
          s'.sessions = sessionServer.sessions ∧ s'.app = sessionServer.app)) :=
  ⟨by decide,by decide +kernel,
    serviceDispatch_session_gate (bareConfig none) sessionServer 631 [0x00,0x07] .scratch
      (by decide : findServiceDescriptor 631 = some ⟨631,634,true⟩) rfl⟩

end MucOpcua
