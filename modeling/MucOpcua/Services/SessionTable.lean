import MucOpcua.Lib.Probe
import MucOpcua.Lib.Slotwise
import MucOpcua.Server.OpenSecureChannel

/-!
# Session identifiers

The rest of `session.c`: how ids and tokens are made from entropy, and all that happens to the
session table from CreateSession to the timeout.
-/

namespace MucOpcua

open Probe

variable {ω : Type}
variable {i n : Nat} {id : UInt32} {random : Vector UInt8 4} {sessions : List Session}

/-! ## Identifiers -/

def sessionIdActive (sessions : List Session) (sessionId : UInt32) : Bool :=
  sessions.any fun session => session.state ≠ .closed ∧ session.sessionId = sessionId

def authenticationTokenActive (sessions : List Session) (authToken : UInt32) : Bool :=
  sessions.any fun session => session.state ≠ .closed ∧ session.authToken = authToken

/-- The candidate of `mu_session_generate_session_id` for a salt. -/
def sessionIdCandidate (base : UInt32) (salt : Nat) : UInt32 :=
  let candidate := base ^^^ (0x9E3779B9 * UInt32.ofNat salt)
  if candidate = 0 then 0x85EBCA6B ^^^ UInt32.ofNat salt else candidate

/-- The candidate of `mu_session_generate_authentication_token` for a salt. -/
def authenticationTokenCandidate (base : UInt32) (salt : Nat) : UInt32 :=
  let candidate := (base ^^^ 0xA5A5A5A5) + 0x9E3779B9 * UInt32.ofNat salt
  if candidate = 0 then 0xC2B2AE35 ^^^ UInt32.ofNat salt else candidate

def generateIdentifier (candidate : UInt32 → Nat → UInt32) (active : UInt32 → Bool) (count : Nat)
    (entropy : EntropyAdapter ω) (world : ω) : Except BadStatus UInt32 × ω :=
  match entropy 4 world with
  | (.error _, world) => (.error Status.badSecurityChecksFailed, world)
  | (.ok random, world) =>
    match probe (candidate (leGetU32 random.toList)) active (count + 1) 0 with
    | some identifier => (.ok identifier, world)
    | none => (.error Status.badSecurityChecksFailed, world)

def sessionGenerateSessionId (sessions : List Session) : EntropyAdapter ω → ω →
    Except BadStatus UInt32 × ω :=
  generateIdentifier sessionIdCandidate (sessionIdActive sessions) sessions.length

def sessionGenerateAuthenticationToken (sessions : List Session) : EntropyAdapter ω → ω →
    Except BadStatus UInt32 × ω :=
  generateIdentifier authenticationTokenCandidate (authenticationTokenActive sessions)
    sessions.length

/-! ## The life of a session -/

def sessionFindFree (sessions : List Session) : Option Nat :=
  sessions.findIdx? fun session => session.state = .closed

def clampTimeoutBits (bits : UInt64) : UInt64 :=
  if bits &&& 0x8000000000000000 ≠ 0 then 0x40c3880000000000
  else if bits < 0x40c3880000000000 then 0x40c3880000000000
  else if 0x414b774000000000 < bits then 0x414b774000000000
  else bits

def durationBitsToMs (bits : UInt64) : UInt32 :=
  let exponent := ((bits >>> 52) &&& 0x7FF).toUInt32
  let mantissa := ((1 : UInt64) <<< 52) ||| (bits &&& 0x000FFFFFFFFFFFFF)
  let unbiased := exponent - 1023
  if 52 ≤ unbiased then (mantissa <<< (unbiased - 52).toUInt64).toUInt32
  else (mantissa >>> (52 - unbiased).toUInt64).toUInt32

def sessionCreateWithIdentifiers (session : Session) (requestedTimeoutBits : UInt64)
    (sessionId authToken secureChannelId : UInt32) : Except BadStatus Session :=
  if session.state ≠ .closed then .error Status.badInternalError
  else .ok
    { session with
      sessionId, authToken, secureChannelId
      revisedSessionTimeoutMs := durationBitsToMs (clampTimeoutBits requestedTimeoutBits)
      state := .created }

def Session.ended (session : Session) : Session :=
  { session with state := .closed, serverNonce := ⟨List.replicate 32 0, Session.length_zeroNonce⟩ }

def sessionClose (session : Session) (authToken : UInt32) : Except BadStatus Session :=
  if session.state = .closed then .error Status.badSessionIdInvalid
  else if session.authToken ≠ authToken then .error Status.badSessionIdInvalid
  else .ok session.ended

def sessionActivate (session : Session) (authToken identityTokenEncodingId : UInt32) :
    Except BadStatus Session :=
  if session.state ≠ .created ∧ session.state ≠ .activated then .error Status.badSessionIdInvalid
  else if session.authToken ≠ authToken then .error Status.badSessionIdInvalid
  else if identityTokenEncodingId ≠ 321 ∧ identityTokenEncodingId ≠ 324 ∧
      identityTokenEncodingId ≠ 327 ∧ identityTokenEncodingId ≠ 940 then
    .error Status.badIdentityTokenInvalid
  else .ok { session with state := .activated }

def sessionCloseTimeout (session : Session) : Session :=
  if session.state = .closed then session else session.ended

/-- The test of `mu_server_poll_background`. -/
def sessionTimedOut (now : UInt64) (session : Session) : Bool :=
  session.state ≠ .closed ∧ session.revisedSessionTimeoutMs ≠ 0 ∧ session.lastActivityMs ≠ 0 ∧
    session.lastActivityMs < now ∧
    session.revisedSessionTimeoutMs.toUInt64 < now - session.lastActivityMs

/-! ## The table -/

structure SessionTable (ω : Type) where
  sessions : List Session
  world : ω

/-- What a CreateSession request and its response come down to for the table: the tick is there if
the platform has one, and the response may not fit its buffer. -/
structure CreateSession where
  requestedTimeoutBits : UInt64
  secureChannelId : UInt32
  tick : Option UInt64
  headFits : Bool
  bodyFits : Bool

/-- Likewise for ActivateSession; `identityAccepted` is the outcome of the signature and identity
checks. -/
structure ActivateSession where
  authToken : UInt32
  secureChannelId : UInt32
  identityTokenEncodingId : UInt32
  identityAccepted : Bool
  tick : Option UInt64
  responseFits : Bool

inductive SessionInput where
  | create (request : CreateSession)
  | activate (request : ActivateSession)
  /-- A service that needs a session, and whether it is CloseSession. -/
  | request (authToken secureChannelId : UInt32) (tick : Option UInt64) (closes : Bool)
  | poll (now : UInt64)
  /-- The single-connection build forgets all sessions when it accepts a client. -/
  | accept

section

variable (entropy : EntropyAdapter ω)

/-- The session a slot holds after `initialize_create_session`. -/
def createdSession (request : CreateSession) (sessionId authToken : UInt32) (slot : Session) :
    Except BadStatus Session := do
  let session ← sessionCreateWithIdentifiers slot request.requestedTimeoutBits sessionId authToken
    request.secureChannelId
  return { session with lastActivityMs := request.tick.getD session.lastActivityMs }

/-- `handle_create_session` from the nonce on. The slot is given up again if the response does not
fit. -/
def handleCreateSession (request : CreateSession) (table : SessionTable ω) :
    Except BadStatus Unit × SessionTable ω :=
  match entropy 32 table.world with
  | (.error _, world) => (.error Status.badSecurityChecksFailed, { table with world })
  | (.ok nonce, world) =>
    match sessionFindFree table.sessions with
    | none => (.error Status.badTooManySessions, { table with world })
    | some i =>
      match sessionGenerateSessionId table.sessions entropy world with
      | (.error status, world) => (.error status, { table with world })
      | (.ok sessionId, world) =>
        match sessionGenerateAuthenticationToken table.sessions entropy world with
        | (.error status, world) => (.error status, { table with world })
        | (.ok authToken, world) =>
          if request.headFits = false then
            (.error Status.badEncodingLimitsExceeded, { table with world })
          else
            match table.sessions[i]?.map (createdSession request sessionId authToken) with
            | none | some (.error _) => (.error Status.badInternalError, { table with world })
            | some (.ok session) =>
              let session := { session with serverNonce := ⟨nonce.toList, by simp⟩ }
              if request.bodyFits then (.ok (), ⟨table.sessions.set i session, world⟩)
              else
                (.error Status.badEncodingLimitsExceeded,
                  ⟨table.sessions.set i session.ended, world⟩)

/-- `handle_activate_session`: the session is active before the response is written. -/
def handleActivateSession (request : ActivateSession) (table : SessionTable ω) :
    SessionTable ω :=
  match sessionFindByToken table.sessions request.authToken with
  | none => { table with world := (entropy 32 table.world).2 }
  | some i =>
    let activated := table.sessions[i]?.bind fun slot =>
      if slot.secureChannelId = request.secureChannelId ∧ request.identityAccepted then
        (sessionActivate slot request.authToken request.identityTokenEncodingId).toOption
      else none
    match activated, entropy 32 table.world with
    | none, (_, world) => { table with world }
    | some session, (random, world) =>
      let session := { session with lastActivityMs := request.tick.getD session.lastActivityMs }
      match random with
      | .ok nonce =>
        let kept := if request.responseFits then ⟨nonce.toList, by simp⟩ else session.serverNonce
        ⟨table.sessions.set i { session with serverNonce := kept }, world⟩
      | .error _ => ⟨table.sessions.set i session, world⟩

/-- The gate of `mu_service_dispatch` before a service that needs a session, with the end of the
session by `handle_close_session`. -/
def handleSessionRequest (authToken secureChannelId : UInt32) (tick : Option UInt64) (closes : Bool)
    (sessions : List Session) : List Session :=
  if authToken = 0 then sessions
  else
    match sessionFindByToken sessions authToken with
    | none => sessions
    | some i =>
      match sessions[i]? with
      | none => sessions
      | some session =>
        if session.secureChannelId ≠ secureChannelId ∨ session.state ≠ .activated then sessions
        else
          let session := { session with lastActivityMs := tick.getD session.lastActivityMs }
          match closes, sessionClose session authToken with
          | true, .ok closed => sessions.set i closed
          | _, _ => sessions.set i session

def SessionTable.step (table : SessionTable ω) : SessionInput → SessionTable ω
  | .create request => (handleCreateSession entropy request table).2
  | .activate request => handleActivateSession entropy request table
  | .request authToken secureChannelId tick closes =>
    { table with
      sessions := handleSessionRequest authToken secureChannelId tick closes table.sessions }
  | .poll now =>
    { table with
      sessions := if now = 0 then table.sessions else table.sessions.map fun session =>
        if sessionTimedOut now session then sessionCloseTimeout session else session }
  | .accept => { table with sessions := table.sessions.map fun _ => Session.init }

def SessionTable.run (table : SessionTable ω) (inputs : List SessionInput) : SessionTable ω :=
  inputs.foldl (SessionTable.step entropy) table

end

/-- `mu_server_init`: all slots are free. -/
def SessionTable.start (slots : Nat) (world : ω) : SessionTable ω :=
  ⟨List.replicate slots Session.init, world⟩

def LiveDistinct (identifier : Session → UInt32) (sessions : List Session) : Prop :=
  ∀ (i : Nat) a, sessions[i]? = some a → a.state ≠ .closed → identifier a ≠ 0 ∧
    ∀ (j : Nat) b, sessions[j]? = some b → b.state ≠ .closed → identifier a = identifier b → i = j

/-! ## The candidates -/

def maxSafeSlots : Nat := 0x85EBCA6B

def foldZero (fold : UInt32) (raw : Nat → UInt32) (salt : Nat) : UInt32 :=
  if raw salt = 0 then fold ^^^ UInt32.ofNat salt else raw salt

theorem toNat_salt {salt : Nat} (h : salt < 2 ^ 32) : (UInt32.ofNat salt).toNat = salt := by
  simpa using Nat.mod_eq_of_lt h

theorem salt_inj {a b : Nat} (ha : a < 2 ^ 32) (hb : b < 2 ^ 32)
    (h : UInt32.ofNat a = UInt32.ofNat b) : a = b :=
  calc a = (UInt32.ofNat a).toNat := (toNat_salt ha).symm
    _ = (UInt32.ofNat b).toNat := by rw [h]
    _ = b := toNat_salt hb

theorem golden_mul_inj {a b : UInt32} (h : 0x9E3779B9 * a = 0x9E3779B9 * b) : a = b := by
  have hinverse (x : UInt32) : 0x144CBC89 * (0x9E3779B9 * x) = x := by
    rw [← UInt32.mul_assoc,show (0x144CBC89 : UInt32) * 0x9E3779B9 = 1 from rfl,UInt32.one_mul]
  rw [← hinverse a,h,hinverse]

theorem foldZero_ne_zero {fold : UInt32} {raw : Nat → UInt32} {salt : Nat}
    (h : salt < fold.toNat) : foldZero fold raw salt ≠ 0 := by
  unfold foldZero
  split
  · intro hzero
    have htoNat := congrArg UInt32.toNat (UInt32.xor_eq_zero_iff.mp hzero)
    have hlt := fold.toNat_lt
    rw [toNat_salt (by omega)] at htoNat
    omega
  · next hne => exact hne

theorem exists_probe_foldZero {fold : UInt32} {raw : Nat → UInt32} {used : UInt32 → Bool}
    {taken : List UInt32} (hn : n < 2 ^ 32)
    (hraw : ∀ a < 2 ^ 32, ∀ b < 2 ^ 32, raw a = raw b → a = b)
    (htaken : ∀ x, used x = true → x ∈ taken) (hfew : taken.length < n) :
    ∃ x, probe (foldZero fold raw) used (n + 1) 0 = some x := by
  let indices := (Finset.range (n + 1)).filter fun i => raw i ≠ 0
  have hmem {i : Nat} (hi : i ∈ indices) : i < n + 1 ∧ raw i ≠ 0 := by
    simpa [indices] using hi
  have hzeros : ((Finset.range (n + 1)).filter fun i => ¬ raw i ≠ 0).card ≤ 1 := by
    refine Finset.card_le_one.mpr fun a ha b hb => ?_
    simp only [Finset.mem_filter,Finset.mem_range,not_not] at ha hb
    exact hraw a (by omega) b (by omega) (ha.2.trans hb.2.symm)
  have hcount : n ≤ indices.card := by
    have hsum := Finset.card_filter_add_card_filter_not (s := Finset.range (n + 1))
      fun i => raw i ≠ 0
    rw [Finset.card_range] at hsum
    have : indices.card = ((Finset.range (n + 1)).filter fun i => raw i ≠ 0).card := rfl
    omega
  refine exists_probe_eq_some indices htaken (fun i hi => (hmem hi).1) ?_ (by omega)
  intro a ha b hb heq
  obtain ⟨hlta,hnea⟩ := hmem ha
  obtain ⟨hltb,hneb⟩ := hmem hb
  rw [foldZero,foldZero,if_neg hnea,if_neg hneb] at heq
  exact hraw a (by omega) b (by omega) heq

theorem sessionId_raw_inj (base : UInt32) : ∀ a < 2 ^ 32, ∀ b < 2 ^ 32,
    base ^^^ (0x9E3779B9 * UInt32.ofNat a) = base ^^^ (0x9E3779B9 * UInt32.ofNat b) → a = b := by
  intro a ha b hb h
  exact salt_inj ha hb (golden_mul_inj ((UInt32.xor_right_inj base).mp h))

theorem authenticationToken_raw_inj (base : UInt32) : ∀ a < 2 ^ 32, ∀ b < 2 ^ 32,
    (base ^^^ 0xA5A5A5A5) + 0x9E3779B9 * UInt32.ofNat a =
      (base ^^^ 0xA5A5A5A5) + 0x9E3779B9 * UInt32.ofNat b → a = b := by
  intro a ha b hb h
  exact salt_inj ha hb (golden_mul_inj ((UInt32.add_right_inj _).mp h))

/-! ## The generators -/

def liveIdentifiers (identifier : Session → UInt32) (sessions : List Session) : List UInt32 :=
  (sessions.filter fun session => session.state ≠ .closed).map identifier

theorem length_liveIdentifiers_lt {identifier : Session → UInt32}
    (hfree : ∃ session ∈ sessions, session.state = .closed) :
    (liveIdentifiers identifier sessions).length < sessions.length := by
  rw [liveIdentifiers,List.length_map,List.length_filter_lt_length_iff_exists]
  obtain ⟨session,hmem,hclosed⟩ := hfree
  exact ⟨session,hmem,by simp [hclosed]⟩

theorem sessionIdActive_iff :
    sessionIdActive sessions id = true ↔ id ∈ liveIdentifiers (·.sessionId) sessions := by
  simp only [sessionIdActive,liveIdentifiers,List.any_eq_true,List.mem_map,List.mem_filter,
    decide_eq_true_eq,and_assoc]

theorem authenticationTokenActive_iff {token : UInt32} :
    authenticationTokenActive sessions token = true ↔
      token ∈ liveIdentifiers (·.authToken) sessions := by
  simp only [authenticationTokenActive,liveIdentifiers,List.any_eq_true,List.mem_map,
    List.mem_filter,decide_eq_true_eq,and_assoc]

section

variable {fold : UInt32} {raw : UInt32 → Nat → UInt32} {active : UInt32 → Bool}
  {identifier : Session → UInt32} {sessions : List Session} {entropy : EntropyAdapter ω}
  {world world' : ω}

theorem generateIdentifier_fresh {x : UInt32} (hsmall : sessions.length < fold.toNat)
    (hrun : generateIdentifier (fun base => foldZero fold (raw base)) active sessions.length entropy
      world = (.ok x, world')) : x ≠ 0 ∧ active x = false := by
  unfold generateIdentifier at hrun
  split at hrun
  · cases hrun
  rename_i random world' hentropy
  split at hrun
  · next x hprobe =>
    cases hrun
    obtain ⟨hfree,salt,-,hsalt,rfl⟩ := probe_eq_some hprobe
    exact ⟨foldZero_ne_zero (by omega),hfree⟩
  · cases hrun

theorem exists_generateIdentifier (hsmall : sessions.length < 2 ^ 32)
    (hfree : ∃ session ∈ sessions, session.state = .closed)
    (hactive : ∀ x, active x = true → x ∈ liveIdentifiers identifier sessions)
    (hraw : ∀ base, ∀ a < 2 ^ 32, ∀ b < 2 ^ 32, raw base a = raw base b → a = b)
    (hentropy : entropy 4 world = (.ok random, world')) :
    ∃ x, generateIdentifier (fun base => foldZero fold (raw base)) active sessions.length entropy
      world = (.ok x, world') := by
  have hfound : ∃ x, probe (foldZero fold (raw (leGetU32 random.toList))) active
      (sessions.length + 1) 0 = some x :=
    exists_probe_foldZero hsmall (hraw _) hactive (length_liveIdentifiers_lt hfree)
  obtain ⟨x,hprobe⟩ := hfound
  exact ⟨x,by simp [generateIdentifier,hentropy,hprobe]⟩

theorem sessionGenerateSessionId_fresh (hsmall : sessions.length < maxSafeSlots)
    (hrun : sessionGenerateSessionId sessions entropy world = (.ok id, world')) :
    id ≠ 0 ∧ sessionIdActive sessions id = false :=
  generateIdentifier_fresh hsmall hrun

theorem sessionGenerateAuthenticationToken_fresh {token : UInt32}
    (hsmall : sessions.length < maxSafeSlots)
    (hrun : sessionGenerateAuthenticationToken sessions entropy world = (.ok token, world')) :
    token ≠ 0 ∧ authenticationTokenActive sessions token = false :=
  generateIdentifier_fresh (hsmall.trans (by decide)) hrun

theorem exists_sessionGenerateSessionId (hsmall : sessions.length < maxSafeSlots)
    (hfree : ∃ session ∈ sessions, session.state = .closed)
    (hentropy : entropy 4 world = (.ok random, world')) :
    ∃ id, sessionGenerateSessionId sessions entropy world = (.ok id, world') :=
  exists_generateIdentifier (hsmall.trans (by decide)) hfree (fun _ => sessionIdActive_iff.mp)
    sessionId_raw_inj hentropy

theorem exists_sessionGenerateAuthenticationToken (hsmall : sessions.length < maxSafeSlots)
    (hfree : ∃ session ∈ sessions, session.state = .closed)
    (hentropy : entropy 4 world = (.ok random, world')) :
    ∃ token, sessionGenerateAuthenticationToken sessions entropy world = (.ok token, world') :=
  exists_generateIdentifier (hsmall.trans (by decide)) hfree
    (fun _ => authenticationTokenActive_iff.mp) authenticationToken_raw_inj hentropy

end

/-! ## What the steps do to the table -/

def Retires (before after : Session) : Prop :=
  after.state ≠ .closed → before.state ≠ .closed ∧ after.sessionId = before.sessionId ∧
    after.authToken = before.authToken

/-- All that a step can do: no session begins, or one begins in a free slot with identifiers that
are not in use. -/
inductive SessionMove (sessions : List Session) : List Session → Prop where
  | retire {sessions' : List Session} (length : sessions'.length = sessions.length)
      (slots : ∀ (i : Nat) after, sessions'[i]? = some after →
        ∃ before, sessions[i]? = some before ∧ Retires before after) :
      SessionMove sessions sessions'
  | begins (i : Nat) (session : Session) (id : session.sessionId ≠ 0)
      (freshId : sessionIdActive sessions session.sessionId = false)
      (token : session.authToken ≠ 0)
      (freshToken : authenticationTokenActive sessions session.authToken = false) :
      SessionMove sessions (sessions.set i session)

theorem SessionMove.refl (sessions : List Session) : SessionMove sessions sessions :=
  .retire rfl fun _ after h => ⟨after,h,fun hlive => ⟨hlive,rfl,rfl⟩⟩

theorem SessionMove.map {f : Session → Session}
    (h : ∀ session, Retires session (f session)) : SessionMove sessions (sessions.map f) := by
  refine .retire (List.length_map f) fun i after hafter => ?_
  rw [List.getElem?_map,Option.map_eq_some_iff] at hafter
  obtain ⟨before,hbefore,rfl⟩ := hafter
  exact ⟨before,hbefore,h before⟩

theorem SessionMove.set {before after : Session}
    (hbefore : sessions[i]? = some before) (h : Retires before after) :
    SessionMove sessions (sessions.set i after) := by
  refine .retire (List.length_set) fun j session hsession => ?_
  rcases Slotwise.set_cases hsession with ⟨rfl,rfl⟩ | ⟨-,hsession⟩
  · exact ⟨before,hbefore,h⟩
  · exact ⟨session,hsession,fun hlive => ⟨hlive,rfl,rfl⟩⟩

theorem retires_ended (before : Session) {after : Session} (h : after.state = .closed) :
    Retires before after := fun hlive => absurd h hlive

variable {entropy : EntropyAdapter ω}

theorem SessionMove.length {sessions' : List Session} (h : SessionMove sessions sessions') :
    sessions'.length = sessions.length := by
  cases h with
  | retire length => exact length
  | begins => exact List.length_set

theorem createdSession_ok {request : CreateSession} {token : UInt32} {slot session : Session}
    (h : createdSession request id token slot = .ok session) :
    slot.state = .closed ∧ session.state ≠ .closed ∧ session.sessionId = id ∧
      session.authToken = token := by
  unfold createdSession sessionCreateWithIdentifiers at h
  split at h
  · cases h
  rename_i hclosed
  cases h
  exact ⟨not_not.mp hclosed,nofun,rfl,rfl⟩

/-- How CreateSession ends: the slot is given up again, or a session begins in it. -/
inductive Creation (entropy : EntropyAdapter ω) (sessions : List Session) :
    Except BadStatus Unit × SessionTable ω → Prop where
  | refused (status : BadStatus) (world : ω) :
      Creation entropy sessions (.error status, ⟨sessions, world⟩)
  | dropped (status : BadStatus) (world : ω) {i : Nat} {before after : Session}
      (hslot : sessions[i]? = some before) (hfree : before.state = .closed)
      (hclosed : after.state = .closed) :
      Creation entropy sessions (.error status, ⟨sessions.set i after, world⟩)
  | begun (world : ω) {world₁ world₂ : ω} {i : Nat} {before after : Session}
      (hslot : sessions[i]? = some before) (hfree : before.state = .closed)
      (hlive : after.state ≠ .closed)
      (hid : sessionGenerateSessionId sessions entropy world₁ = (.ok after.sessionId, world₂))
      (htoken : sessionGenerateAuthenticationToken sessions entropy world₂ =
        (.ok after.authToken, world)) :
      Creation entropy sessions (.ok (), ⟨sessions.set i after, world⟩)

theorem handleCreateSession_ends (entropy : EntropyAdapter ω) (request : CreateSession)
    (table : SessionTable ω) :
    Creation entropy table.sessions (handleCreateSession entropy request table) := by
  unfold handleCreateSession
  split
  · exact .refused ..
  split
  · exact .refused ..
  split
  · exact .refused ..
  rename_i id world₁ hid
  split
  · exact .refused ..
  rename_i token world₂ htoken
  split
  · exact .refused ..
  split
  · exact .refused ..
  · exact .refused ..
  rename_i session hcreated
  obtain ⟨slot,hslot,hmade⟩ := Option.map_eq_some_iff.mp hcreated
  obtain ⟨hfree,hlive,rfl,rfl⟩ := createdSession_ok hmade
  split
  · exact .begun _ hslot hfree hlive hid htoken
  · exact .dropped _ _ hslot hfree rfl

theorem handleCreateSession_move {request : CreateSession} {table : SessionTable ω}
    (hsmall : table.sessions.length < maxSafeSlots) :
    SessionMove table.sessions (handleCreateSession entropy request table).2.sessions := by
  have hends := handleCreateSession_ends entropy request table
  generalize handleCreateSession entropy request table = run at hends ⊢
  cases hends with
  | refused => exact .refl _
  | dropped status world hslot hfree hclosed => exact .set hslot (retires_ended _ hclosed)
  | begun world hslot hfree hlive hid htoken =>
    obtain ⟨hid,hfreshId⟩ := sessionGenerateSessionId_fresh hsmall hid
    obtain ⟨htoken,hfreshToken⟩ := sessionGenerateAuthenticationToken_fresh hsmall htoken
    exact .begins _ _ hid hfreshId htoken hfreshToken

theorem handleActivateSession_ends (entropy : EntropyAdapter ω) (request : ActivateSession)
    (table : SessionTable ω) :
    (handleActivateSession entropy request table).sessions = table.sessions ∨
      ∃ (i : Nat) (before after : Session), table.sessions[i]? = some before ∧
        (handleActivateSession entropy request table).sessions = table.sessions.set i after ∧
        before.state ≠ .closed ∧ after.state = .activated ∧ after.sessionId = before.sessionId ∧
        after.authToken = before.authToken := by
  have hkeeps {slot session : Session} (h : (sessionActivate slot request.authToken
      request.identityTokenEncodingId).toOption = some session) :
      slot.state ≠ .closed ∧ session.state = .activated ∧ session.sessionId = slot.sessionId ∧
        session.authToken = slot.authToken := by
    unfold sessionActivate at h
    split at h
    · cases h
    rename_i hstate
    split at h
    · cases h
    split at h
    · cases h
    cases h
    refine ⟨fun hclosed => hstate ?_,rfl,rfl,rfl⟩
    simp [hclosed]
  unfold handleActivateSession
  split
  · exact .inl rfl
  rename_i i hfound
  dsimp only
  split
  · exact .inl rfl
  rename_i session random world hactivated hentropy
  obtain ⟨slot,hslot,hsession⟩ := Option.bind_eq_some_iff.mp hactivated
  split at hsession
  · obtain ⟨hlive,hactive,hid,htoken⟩ := hkeeps hsession
    split <;> exact .inr ⟨i,slot,_,hslot,rfl,hlive,hactive,hid,htoken⟩
  · cases hsession

theorem handleActivateSession_move (request : ActivateSession) (table : SessionTable ω) :
    SessionMove table.sessions (handleActivateSession entropy request table).sessions := by
  rcases handleActivateSession_ends entropy request table with
    hsame | ⟨i,before,after,hslot,hset,hlive,-,hid,htoken⟩
  · rw [hsame]
    exact .refl _
  · rw [hset]
    exact .set hslot fun _ => ⟨hlive,hid,htoken⟩

def gatedSession (authToken secureChannelId : UInt32) (sessions : List Session) :
    Option (Nat × Session) :=
  if authToken = 0 then none
  else
    match sessionFindByToken sessions authToken with
    | none => none
    | some i =>
      match sessions[i]? with
      | none => none
      | some session =>
        if session.secureChannelId ≠ secureChannelId ∨ session.state ≠ .activated then none
        else some (i, session)

theorem gatedSession_some {authToken secureChannelId : UInt32}
    {session : Session} (h : gatedSession authToken secureChannelId sessions = some (i, session)) :
    sessions[i]? = some session ∧ session.state = .activated ∧ session.authToken = authToken := by
  unfold gatedSession at h
  split at h
  · cases h
  split at h
  · cases h
  rename_i i' hfind
  obtain ⟨found,hfound,-,htoken⟩ := sessionFindByToken_some hfind
  rw [hfound] at h
  dsimp only at h
  split at h
  · cases h
  rename_i hpass
  cases h
  push Not at hpass
  exact ⟨hfound,hpass.2,htoken⟩

theorem handleSessionRequest_eq (authToken secureChannelId : UInt32) (tick : Option UInt64)
    (closes : Bool) (sessions : List Session) :
    handleSessionRequest authToken secureChannelId tick closes sessions =
      match gatedSession authToken secureChannelId sessions with
      | none => sessions
      | some (i, session) =>
        sessions.set i (if closes then
            Session.ended { session with lastActivityMs := tick.getD session.lastActivityMs }
          else { session with lastActivityMs := tick.getD session.lastActivityMs }) := by
  unfold handleSessionRequest gatedSession
  by_cases hzero : authToken = 0
  · simp only [hzero,if_true]
  simp only [hzero,if_false]
  cases hfind : sessionFindByToken sessions authToken with
  | none => rfl
  | some i =>
    obtain ⟨session,hslot,hlive,htoken⟩ := sessionFindByToken_some hfind
    simp only [hslot]
    by_cases hrefused : session.secureChannelId ≠ secureChannelId ∨ session.state ≠ .activated
    · rw [if_pos hrefused,if_pos hrefused]
    rw [if_neg hrefused,if_neg hrefused]
    have hclose : sessionClose
        { session with lastActivityMs := tick.getD session.lastActivityMs } authToken =
          .ok (Session.ended
            { session with lastActivityMs := tick.getD session.lastActivityMs }) := by
      unfold sessionClose
      rw [if_neg hlive,if_neg (not_not.mpr htoken)]
    rw [hclose]
    cases closes <;> rfl

theorem handleSessionRequest_move (authToken secureChannelId : UInt32) (tick : Option UInt64)
    (closes : Bool) (sessions : List Session) :
    SessionMove sessions (handleSessionRequest authToken secureChannelId tick closes sessions) := by
  rw [handleSessionRequest_eq]
  split
  · exact .refl _
  rename_i i session hgate
  refine .set (gatedSession_some hgate).1 ?_
  cases closes with
  | true => exact retires_ended session rfl
  | false => exact fun hlive => ⟨hlive,rfl,rfl⟩

theorem SessionTable.step_move {table : SessionTable ω}
    (hsmall : table.sessions.length < maxSafeSlots) (input : SessionInput) :
    SessionMove table.sessions (table.step entropy input).sessions := by
  cases input with
  | create request => exact handleCreateSession_move hsmall
  | activate request => exact handleActivateSession_move request table
  | request authToken secureChannelId tick closes =>
    exact handleSessionRequest_move authToken secureChannelId tick closes table.sessions
  | poll now =>
    simp only [SessionTable.step]
    split
    · exact .refl _
    refine .map fun session => ?_
    split
    · unfold sessionCloseTimeout
      split
      · exact fun hlive => ⟨hlive,rfl,rfl⟩
      · exact retires_ended session rfl
    · exact fun hlive => ⟨hlive,rfl,rfl⟩
  | accept => exact .map fun session => retires_ended session rfl

/-! ## Identifiers along a run -/

theorem LiveDistinct.move {identifier : Session → UInt32} {sessions' : List Session}
    (hdistinct : LiveDistinct identifier sessions) (hmove : SessionMove sessions sessions')
    (hkept : ∀ before after, Retires before after → after.state ≠ .closed →
      identifier after = identifier before)
    (hfresh : ∀ session, session.sessionId ≠ 0 → session.authToken ≠ 0 →
      sessionIdActive sessions session.sessionId = false →
      authenticationTokenActive sessions session.authToken = false →
      identifier session ≠ 0 ∧ identifier session ∉ liveIdentifiers identifier sessions) :
    LiveDistinct identifier sessions' := by
  cases hmove with
  | retire length slots =>
    intro i a ha hlive
    obtain ⟨before,hbefore,hretires⟩ := slots i a ha
    have hsame := hkept before a hretires hlive
    obtain ⟨hne,hunique⟩ := hdistinct i before hbefore (hretires hlive).1
    refine ⟨hsame ▸ hne,fun j b hb hliveb heq => ?_⟩
    obtain ⟨before',hbefore',hretires'⟩ := slots j b hb
    have hsame' := hkept before' b hretires' hliveb
    exact hunique j before' hbefore' (hretires' hliveb).1 (by rw [← hsame,heq,hsame'])
  | begins k session hid hfreshId htoken hfreshToken =>
    obtain ⟨hnonzero,hunused⟩ := hfresh session hid htoken hfreshId hfreshToken
    have hnot {i : Nat} {a : Session} (ha : sessions[i]? = some a) (hlive : a.state ≠ .closed) :
        identifier a ≠ identifier session := by
      intro heq
      refine hunused (List.mem_map.mpr ⟨a,?_,heq⟩)
      exact List.mem_filter.mpr ⟨List.mem_of_getElem? ha,by simpa using hlive⟩
    have hslot {i : Nat} {a : Session} (ha : (sessions.set k session)[i]? = some a) :
        (i = k ∧ a = session) ∨ (i ≠ k ∧ sessions[i]? = some a) := Slotwise.set_cases ha
    intro i a ha hlive
    rcases hslot ha with ⟨rfl,rfl⟩ | ⟨-,hold⟩
    · refine ⟨hnonzero,fun j b hb hliveb heq => ?_⟩
      rcases hslot hb with ⟨rfl,rfl⟩ | ⟨-,holdb⟩
      · rfl
      · exact absurd heq.symm (hnot holdb hliveb)
    obtain ⟨hne,hunique⟩ := hdistinct i a hold hlive
    refine ⟨hne,fun j b hb hliveb heq => ?_⟩
    rcases hslot hb with ⟨-,rfl⟩ | ⟨-,holdb⟩
    · exact absurd heq (hnot hold hlive)
    · exact hunique j b holdb hliveb heq

theorem liveDistinct_start (identifier : Session → UInt32) (slots : Nat) (world : ω) :
    LiveDistinct identifier (SessionTable.start slots world).sessions := by
  intro i a ha hlive
  have hmem := List.mem_of_getElem? ha
  rw [List.eq_of_mem_replicate hmem] at hlive
  exact absurd rfl hlive

theorem SessionTable.run_liveDistinct {slots : Nat} (hsmall : slots < maxSafeSlots) (world : ω)
    (inputs : List SessionInput) :
    let sessions := ((SessionTable.start slots world).run entropy inputs).sessions
    LiveDistinct (·.sessionId) sessions ∧ LiveDistinct (·.authToken) sessions := by
  suffices h : ∀ (inputs : List SessionInput) (table : SessionTable ω),
      table.sessions.length = slots → LiveDistinct (·.sessionId) table.sessions →
      LiveDistinct (·.authToken) table.sessions →
      LiveDistinct (·.sessionId) (table.run entropy inputs).sessions ∧
        LiveDistinct (·.authToken) (table.run entropy inputs).sessions from
    h inputs (SessionTable.start slots world) List.length_replicate (liveDistinct_start _ _ _)
      (liveDistinct_start _ _ _)
  intro inputs
  induction inputs with
  | nil => exact fun table _ hids htokens => ⟨hids,htokens⟩
  | cons input rest ih =>
    intro table hlength hids htokens
    have hmove : SessionMove table.sessions (table.step entropy input).sessions :=
      SessionTable.step_move (hlength ▸ hsmall) input
    refine ih _ (hmove.length.trans hlength) (hids.move hmove ?_ ?_) (htokens.move hmove ?_ ?_)
    · exact fun _ _ hretires hlive => (hretires hlive).2.1
    · intro session hid _ hfresh _
      exact ⟨hid,fun hmem => by simp [sessionIdActive_iff.mpr hmem] at hfresh⟩
    · exact fun _ _ hretires hlive => (hretires hlive).2.2
    · intro session _ htoken _ hfresh
      exact ⟨htoken,fun hmem => by simp [authenticationTokenActive_iff.mpr hmem] at hfresh⟩

/-! ## Channel ids -/

/-- The candidates for a channel id are multiples of the step. Their factors count up, and from the
one that would be 0 they go on with the factor of 1. -/
def channelFactor (n : Nat) : Nat := if n < 2 ^ 32 then n else n - 2 ^ 32 + 0x144CBC89

def channelCandidate (first i : Nat) : UInt32 :=
  0x9E3779B9 * UInt32.ofNat (channelFactor (first + i))

def maxChannelRounds : Nat := 2 ^ 32 - 0x144CBC89

section

variable {first : Nat}

theorem golden_mul_eq_zero (hn : n < 2 ^ 32) (h : 0x9E3779B9 * UInt32.ofNat n = 0) : n = 0 :=
  salt_inj hn (by decide) (golden_mul_inj (h.trans rfl))

theorem channelFactor_bounds (hfirst : first < 2 ^ 32) (hpos : 0 < first)
    (hi : i < maxChannelRounds) :
    0 < channelFactor (first + i) ∧ channelFactor (first + i) < 2 ^ 32 := by
  unfold channelFactor maxChannelRounds at *
  split <;> omega

theorem channelCandidate_ne_zero (hfirst : first < 2 ^ 32) (hpos : 0 < first)
    (hi : i < maxChannelRounds) : channelCandidate first i ≠ 0 := by
  obtain ⟨hne,hlt⟩ := channelFactor_bounds hfirst hpos hi
  intro hzero
  have := golden_mul_eq_zero hlt hzero
  omega

theorem channelCandidate_inj {j : Nat} (hfirst : first < 2 ^ 32) (hpos : 0 < first)
    (hi : i < maxChannelRounds) (hj : j < maxChannelRounds)
    (h : channelCandidate first i = channelCandidate first j) : i = j := by
  have hfactor := salt_inj (channelFactor_bounds hfirst hpos hi).2
    (channelFactor_bounds hfirst hpos hj).2 (golden_mul_inj h)
  unfold channelFactor maxChannelRounds at *
  split at hfactor <;> split at hfactor <;> omega

theorem channelCandidate_succ (hfirst : first < 2 ^ 32) (hpos : 0 < first)
    (hi : i + 1 < maxChannelRounds) :
    (if channelCandidate first i + 0x9E3779B9 = 0 then 1
      else channelCandidate first i + 0x9E3779B9) = channelCandidate first (i + 1) := by
  have hsum : channelCandidate first i + 0x9E3779B9 =
      0x9E3779B9 * UInt32.ofNat (channelFactor (first + i) + 1) := by
    rw [UInt32.ofNat_add,UInt32.mul_add]
    rfl
  by_cases hwrap : first + i + 1 = 2 ^ 32
  · have hfactor : channelFactor (first + i) + 1 = 2 ^ 32 := by
      unfold channelFactor
      split <;> omega
    have hnext : channelFactor (first + (i + 1)) = 0x144CBC89 := by
      rw [← Nat.add_assoc,hwrap]
      rfl
    rw [hsum,hfactor,channelCandidate,hnext]
    rfl
  · have hnext : channelFactor (first + i) + 1 = channelFactor (first + (i + 1)) := by
      unfold channelFactor maxChannelRounds at *
      split <;> split <;> omega
    have hne := channelCandidate_ne_zero hfirst hpos hi
    rw [hsum,hnext]
    exact if_neg hne

theorem uniqueSecureChannelId_eq_probe {σ : Type} (s : Server ω σ) (hfirst : first < 2 ^ 32)
    (hpos : 0 < first) {rounds : Nat} (hrounds : i + rounds ≤ maxChannelRounds) {candidate : UInt32}
    (hcandidate : (if candidate = 0 then 1 else candidate) = channelCandidate first i) :
    uniqueSecureChannelId s rounds candidate =
      probe (channelCandidate first) (secureChannelIdUsedByOtherConnection s) rounds i := by
  induction rounds generalizing i candidate with
  | zero => rfl
  | succ rounds ih =>
    rw [uniqueSecureChannelId,probe]
    simp only [hcandidate]
    split
    · cases rounds with
      | zero => rfl
      | succ rounds =>
        exact ih (by omega) (channelCandidate_succ hfirst hpos (by omega))
    · rfl

end

theorem exists_channelFactor (h : id ≠ 0) :
    ∃ first, 0 < first ∧ first < 2 ^ 32 ∧ channelCandidate first 0 = id := by
  have hid : 0x9E3779B9 * (0x144CBC89 * id) = id := by
    rw [← UInt32.mul_assoc,show (0x9E3779B9 : UInt32) * 0x144CBC89 = 1 from rfl,UInt32.one_mul]
  have hlt := (0x144CBC89 * id).toNat_lt
  refine ⟨(0x144CBC89 * id).toNat,Nat.pos_of_ne_zero ?_,hlt,?_⟩
  · intro hzero
    have hfactor : 0x144CBC89 * id = 0 := UInt32.toNat_inj.mp hzero
    rw [hfactor] at hid
    exact h hid.symm
  · rw [channelCandidate,channelFactor,Nat.add_zero,if_pos hlt,UInt32.ofNat_toNat,hid]

theorem ensureUniqueSecureChannelId_unused {σ : Type} (s : Server ω σ)
    (hsmall : s.peers.length + 2 ≤ maxChannelRounds) :
    ∃ channelId, ensureUniqueSecureChannelId s =
        .ok (s.setChannel { s.channel with channelId }) ∧ channelId ≠ 0 ∧
      ∀ peer ∈ s.peers, peer.clientHandle.isSome → peer.secureChannel.isOpen →
        peer.secureChannel.channelId ≠ channelId := by
  have hfolded : (if s.channel.channelId = 0 then 1 else s.channel.channelId) ≠ 0 := by
    split
    · decide
    · next hne => exact hne
  obtain ⟨first,hpos,hfirst,hcandidate⟩ := exists_channelFactor hfolded
  have hloop : uniqueSecureChannelId s (s.peers.length + 2) s.channel.channelId =
      probe (channelCandidate first) (secureChannelIdUsedByOtherConnection s)
        (s.peers.length + 2) 0 :=
    uniqueSecureChannelId_eq_probe s hfirst hpos (by omega) hcandidate.symm
  have hlisted (x : UInt32) (hx : secureChannelIdUsedByOtherConnection s x = true) :
      x ∈ s.peers.map (·.secureChannel.channelId) := by
    simp only [secureChannelIdUsedByOtherConnection,Bool.and_eq_true,List.any_eq_true,
      beq_iff_eq] at hx
    obtain ⟨-,peer,hpeer,-,hid⟩ := hx
    exact List.mem_map.mpr ⟨peer,hpeer,hid⟩
  have hfound : ∃ x, probe (channelCandidate first) (secureChannelIdUsedByOtherConnection s)
      (s.peers.length + 2) 0 = some x := by
    refine exists_probe_eq_some (Finset.range (s.peers.length + 2)) hlisted
      (fun i hi => Finset.mem_range.mp hi) (fun i hi j hj h => ?_) (by simp)
    rw [Finset.mem_range] at hi hj
    exact channelCandidate_inj hfirst hpos (by omega) (by omega) h
  obtain ⟨x,hx⟩ := hfound
  obtain ⟨hunused,i,-,hi,rfl⟩ := probe_eq_some hx
  have hne := channelCandidate_ne_zero hfirst hpos (by omega : i < maxChannelRounds)
  refine ⟨channelCandidate first i,by rw [ensureUniqueSecureChannelId,hloop,hx],hne,?_⟩
  intro peer hpeer hconnected hopen hsame
  have hused : secureChannelIdUsedByOtherConnection s (channelCandidate first i) = true := by
    simp only [secureChannelIdUsedByOtherConnection,Bool.and_eq_true,List.any_eq_true,beq_iff_eq,
      decide_eq_true_eq]
    exact ⟨hne,peer,hpeer,⟨hconnected,hopen⟩,hsame⟩
  rw [hunused] at hused
  cases hused

/-- In a server with fewer than 0x85EBCA6B session slots, the generators succeed while a slot is
free, and ids and tokens of sessions that are not closed are distinct in every state. A channel gets
an id that no other open channel has, as long as the loop over the candidates does not wrap. -/
theorem identifiers_unique {σ : Type} (entropy : EntropyAdapter ω) (n : Nat)
    (hn : n < maxSafeSlots) :
    (∀ (sessions : List Session) (random : Vector UInt8 4) (world world' : ω),
      sessions.length = n → (∃ session ∈ sessions, session.state = .closed) →
      entropy 4 world = (.ok random, world') →
      (∃ id, sessionGenerateSessionId sessions entropy world = (.ok id, world') ∧ id ≠ 0 ∧
        ∀ session ∈ sessions, session.state ≠ .closed → session.sessionId ≠ id) ∧
      ∃ token, sessionGenerateAuthenticationToken sessions entropy world = (.ok token, world') ∧
        token ≠ 0 ∧ ∀ session ∈ sessions, session.state ≠ .closed → session.authToken ≠ token) ∧
    (∀ (world : ω) (inputs : List SessionInput),
      let sessions := ((SessionTable.start n world).run entropy inputs).sessions
      LiveDistinct (·.sessionId) sessions ∧ LiveDistinct (·.authToken) sessions) ∧
    ∀ s : Server ω σ, s.peers.length + 2 ≤ maxChannelRounds →
      ∃ channelId, ensureUniqueSecureChannelId s =
          .ok (s.setChannel { s.channel with channelId }) ∧ channelId ≠ 0 ∧
        ∀ peer ∈ s.peers, peer.clientHandle.isSome → peer.secureChannel.isOpen →
          peer.secureChannel.channelId ≠ channelId := by
  refine ⟨?_,?_,?_⟩
  · intro sessions random world world' hlength hfree hentropy
    have hsmall : sessions.length < maxSafeSlots := hlength ▸ hn
    obtain ⟨id,hid⟩ := exists_sessionGenerateSessionId hsmall hfree hentropy
    obtain ⟨token,htoken⟩ := exists_sessionGenerateAuthenticationToken hsmall hfree hentropy
    obtain ⟨hidne,hidfree⟩ := sessionGenerateSessionId_fresh hsmall hid
    obtain ⟨htokenne,htokenfree⟩ := sessionGenerateAuthenticationToken_fresh hsmall htoken
    refine ⟨⟨id,hid,hidne,fun session hmem hlive heq => ?_⟩,
      token,htoken,htokenne,fun session hmem hlive heq => ?_⟩
    · have hactive : sessionIdActive sessions id = true :=
        List.any_eq_true.mpr ⟨session,hmem,by simp [hlive,heq]⟩
      simp [hactive] at hidfree
    · have hactive : authenticationTokenActive sessions token = true :=
        List.any_eq_true.mpr ⟨session,hmem,by simp [hlive,heq]⟩
      simp [hactive] at htokenfree
  · exact fun world inputs => SessionTable.run_liveDistinct hn world inputs
  · exact fun s hpeers => ensureUniqueSecureChannelId_unused s hpeers

/-- Two sessions from an adapter that only returns zeros. -/
theorem identifiers_unique_two :
    let zeros : EntropyAdapter Unit := fun n _ => (.ok (Vector.replicate n 0), ())
    let request : SessionInput := .create ⟨0x40ED4C0000000000,7,none,true,true⟩
    let table := (SessionTable.start 2 ()).run zeros [request,request]
    table.sessions.map (fun session => (session.state, session.sessionId)) =
        [(.created, 0x85EBCA6B),(.created, 0x9E3779B9)] ∧
      LiveDistinct (·.sessionId) table.sessions ∧ LiveDistinct (·.authToken) table.sessions := by
  intro zeros request table
  have hrun := (@identifiers_unique Unit Unit zeros 2 (by decide)).2.1 () [request,request]
  exact ⟨by decide +kernel,hrun⟩

/-! ## A table with too many slots -/

def crowdedSessions (base : UInt32) (n : Nat) : List Session :=
  (List.range n).map (fun salt =>
    { Session.init with state := .created, sessionId := sessionIdCandidate base salt }) ++
    [Session.init]

theorem sessionIdActive_crowded {base : UInt32} :
    sessionIdActive (crowdedSessions base n) id = true ↔
      ∃ salt < n, sessionIdCandidate base salt = id := by
  simp [sessionIdActive,crowdedSessions,Session.init]

theorem sessionGenerateSessionId_crowded (hn : n < 2 ^ 32)
    (hfold : UInt32.ofNat n = 0x85EBCA6B) {entropy : EntropyAdapter ω} {world world' : ω}
    (hentropy : entropy 4 world = (.ok random, world'))
    (hbase : leGetU32 random.toList = 0x9E3779B9 * UInt32.ofNat n) :
    sessionGenerateSessionId (crowdedSessions (leGetU32 random.toList) n) entropy world =
      (.ok 0, world') := by
  have hlength : (crowdedSessions (leGetU32 random.toList) n).length + 1 = n + 2 := by
    simp [crowdedSessions]
  have hlast : sessionIdCandidate (leGetU32 random.toList) n = 0 := by
    simp [sessionIdCandidate,hbase,hfold]
  have hearlier {salt : Nat} (hsalt : salt < n) :
      sessionIdCandidate (leGetU32 random.toList) salt ≠ 0 := by
    have hraw : leGetU32 random.toList ^^^ (0x9E3779B9 * UInt32.ofNat salt) ≠ 0 := by
      intro hzero
      rw [UInt32.xor_eq_zero_iff,hbase] at hzero
      have := salt_inj hn (by omega) (golden_mul_inj hzero)
      omega
    simp only [sessionIdCandidate,if_neg hraw]
    exact hraw
  have hfree : ¬ sessionIdActive (crowdedSessions (leGetU32 random.toList) n) 0 = true := by
    rw [sessionIdActive_crowded]
    rintro ⟨salt,hsalt,hzero⟩
    exact hearlier hsalt hzero
  have hprobe : probe (sessionIdCandidate (leGetU32 random.toList))
      (sessionIdActive (crowdedSessions (leGetU32 random.toList) n)) (n + 2) 0 = some 0 := by
    rw [probe_add fun salt _ hsalt => sessionIdActive_crowded.mpr ⟨salt,by omega,rfl⟩,
      Nat.zero_add,probe,hlast,if_neg hfree]
  rw [sessionGenerateSessionId,generateIdentifier,hentropy]
  simp only [hlength,hprobe]

/-- With 0x85EBCA6C slots, one of them free, the session id can be 0. -/
theorem sessionId_zero_crowded :
    ∃ (sessions : List Session) (entropy : EntropyAdapter Unit),
      sessions.length = 0x85EBCA6C ∧ (∃ session ∈ sessions, session.state = .closed) ∧
      sessionGenerateSessionId sessions entropy () = (.ok 0, ()) := by
  let entropy : EntropyAdapter Unit := fun n _ =>
    (.ok ((Vector.replicate n 0).mapIdx fun i _ => [0x53,0xDA,0x0E,0xC1].getD i 0), ())
  have hentropy : entropy 4 () = (.ok #v[0x53,0xDA,0x0E,0xC1], ()) := rfl
  refine ⟨crowdedSessions (leGetU32 #v[0x53,0xDA,0x0E,0xC1].toList) 0x85EBCA6B,entropy,?_,?_,
    sessionGenerateSessionId_crowded (by decide) rfl hentropy rfl⟩
  · rw [crowdedSessions,List.length_append,List.length_map,List.length_range]
    rfl
  · exact ⟨Session.init,List.mem_append_right _ List.mem_cons_self,rfl⟩

end MucOpcua
