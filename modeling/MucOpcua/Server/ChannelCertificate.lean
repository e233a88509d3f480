import MucOpcua.Server.Interleaving

/-!
# The client certificate of a channel

CreateSession and ActivateSession check the client against the certificate of its channel, but the
server has one field for it and every OPN chunk overwrites that field.
-/

namespace MucOpcua

variable {ω σ : Type} {cfg : ServerConfig ω σ}
variable {body msg : List UInt8} {i : Nat} {m : Inbound} {s s' : Server ω σ} {typeId : NodeId}

/-! ## Certificates that were accepted -/

def lastOpened (log : List Event) : Option (List UInt8) :=
  (log.filterMap fun event => match event with
    | .opened clientCert => some clientCert
    | _ => none).getLast?

/-- A server together with the certificate each slot's connection was last accepted with. -/
structure Certified (ω σ : Type) where
  pool : Pool ω σ
  opened : Nat → Option (List UInt8)

def Certified.step (cfg : ServerConfig ω σ) (t : Certified ω σ) (x : Input) : Certified ω σ where
  pool := t.pool.step cfg x
  opened := match x with
    | .message i _ => Function.update t.opened i
        ((lastOpened (t.pool.step cfg x).shared.log).or (t.opened i))
    | .accept _ =>
      match t.pool.conns.findIdx? fun conn => conn.clientHandle.isNone with
      | some i => Function.update t.opened i none
      | none => t.opened
    | .disconnect _ => t.opened

def SecurityPolicy.ChecksCertificate (policy : SecurityPolicy) : Prop :=
  policy ≠ .none ∧ policy ≠ .invalid

/-- The connection has an open channel whose certificate will be checked against. -/
structure Connection.HoldsCertificate (conn : Connection) : Prop where
  up : conn.clientHandle.isSome = true
  isOpen : conn.secureChannel.isOpen = true
  policy : conn.secureChannel.policy.ChecksCertificate

def Certified.Kept (t : Certified ω σ) : Prop :=
  ∀ j conn, t.pool.conns[j]? = some conn → conn.HoldsCertificate →
    t.opened j = some t.pool.shared.channelClientCert.val

def Inbound.storing (m : Inbound) : Option OpnHeader :=
  (m.request.bind fun r => ns0Numeric? r.1).bind fun _ => m.opn

def Inbound.MatchesType (m : Inbound) : Prop :=
  ∀ typeId body id, m.request = some (typeId, body) → ns0Numeric? typeId = some id →
    (m.opn.isSome = true ↔ id = idOpenSecureChannelRequest)

/-- A chunk that respects the certificate in store: its request is of the chunk's type, and one that
cannot be decoded came under the channel's policy; a certificate fits the field and, while other
channels are secured, is the one in store. -/
structure Respects (t : Certified ω σ) (i : Nat) (channel : SecureChannel)
    (policy : SecurityPolicy) (m : Inbound) : Prop where
  undecodable : m.request = none → policy = channel.policy
  request : m.MatchesType
  size : ∀ o, m.storing = some o → o.clientCert.bytes.length ≤ maxClientCertSize
  others : ∀ o, m.storing = some o → ∀ j conn, j ≠ i → t.pool.conns[j]? = some conn →
    conn.HoldsCertificate → o.clientCert.bytes = t.pool.shared.channelClientCert.val

def RespectsCertificate (cfg : ServerConfig ω σ) (t : Certified ω σ) : Input → Prop
  | .message i msg => ∀ conn policy m, t.pool.conns[i]? = some conn →
    conn.clientHandle.isSome = true →
    messageInbound cfg (t.pool.focus i conn) msg = some (policy, m) →
    Accepts conn.secureChannel m → Respects t i conn.secureChannel policy m
  | _ => True

/-- On a channel with one of these policies, CreateSession and ActivateSession see the certificate
their connection was last accepted with. -/
def SeesOwnCertificate (cfg : ServerConfig ω σ) (t : Certified ω σ) : Input → Prop
  | .message i msg => ∀ conn policy m requestId session clientCert, t.pool.conns[i]? = some conn →
    conn.clientHandle.isSome = true →
    messageInbound cfg (t.pool.focus i conn) msg = some (policy, m) → policy.ChecksCertificate →
    requestId = idCreateSessionRequest ∨ requestId = idActivateSessionRequest →
    Event.handled requestId session clientCert ∈ (t.pool.step cfg (.message i msg)).shared.log →
    t.opened i = some clientCert
  | _ => True

/-! ## One message -/

theorem lastOpened_trace (s : Server ω σ) : lastOpened s.trace = lastOpened s.log := by
  unfold Server.trace lastOpened
  rw [List.filterMap_filter]
  congr 2
  funext event
  cases event <;> rfl

theorem lastOpened_of_mem {log : List Event} {clientCert : List UInt8}
    (hmem : Event.opened clientCert ∈ log)
    (hall : ∀ clientCert', Event.opened clientCert' ∈ log → clientCert' = clientCert) :
    lastOpened log = some clientCert := by
  unfold lastOpened
  cases hlast : (log.filterMap _).getLast? with
  | none =>
    rw [List.getLast?_eq_none_iff,List.filterMap_eq_nil_iff] at hlast
    cases hlast _ hmem
  | some clientCert' =>
    obtain ⟨event,hevent,heq⟩ := List.mem_filterMap.mp (List.mem_of_getLast? hlast)
    cases event <;> cases heq
    rw [hall _ hevent]

theorem lastOpened_of_not_mem {log : List Event}
    (h : ∀ clientCert, Event.opened clientCert ∉ log) : lastOpened log = none := by
  unfold lastOpened
  rw [List.getLast?_eq_none_iff,List.filterMap_eq_nil_iff]
  intro event hevent
  cases event with
  | opened clientCert => exact (h _ hevent).elim
  | _ => rfl

theorem keptClientCert_of_le {cert : MuString} (h : cert.bytes.length ≤ maxClientCertSize) :
    (keptClientCert cert).val = cert.bytes := by
  simp [keptClientCert,h]

theorem certDuring_eq (s : Server ω σ) (hreq : m.request = some (typeId, body)) :
    certDuring s typeId m.opn =
      m.storing.elim s.channelClientCert fun o => keptClientCert o.clientCert := by
  unfold certDuring Inbound.storing
  rw [hreq]
  cases htype : ns0Numeric? typeId with
  | none => simp [htype]
  | some id => cases hopn : m.opn <;> simp [htype]

def Inbound.stored (channel : SecureChannel) (m : Inbound) : Option OpnHeader :=
  if Accepts channel m then m.storing else none

theorem Route.channelClientCert (h : Route cfg s m s') :
    s'.channelClientCert = (m.stored s.channel).elim s.channelClientCert fun o =>
      keptClientCert o.clientCert := by
  unfold Inbound.stored
  cases h with
  | refused hrefused hs =>
    rw [if_neg hrefused,hs]
    rfl
  | undecodable inLast haccept hreq hs =>
    rw [if_pos haccept,hs,Inbound.storing,hreq]
    rfl
  | served inLast typeId body haccept hreq hserved _ =>
    rw [if_pos haccept,hserved.channelClientCert,certDuring_eq _ hreq]
    rfl

/-- A message puts a certificate in store exactly if it brings an OPN chunk whose number is in order
and whose request has a numbered type, whatever becomes of the request. -/
theorem processMessage_channelClientCert (cfg : ServerConfig ω σ) (s : Server ω σ)
    (msg : List UInt8) :
    (processMessage cfg s msg).channelClientCert =
      ((messageInbound cfg s msg).bind fun r => r.2.stored s.channel).elim s.channelClientCert
        fun o => keptClientCert o.clientCert := by
  have hcases := processMessage_cases cfg s msg
  cases hin : messageInbound cfg s msg with
  | none =>
    rw [hin] at hcases
    exact hcases.channelClientCert
  | some r =>
    obtain ⟨policy,m⟩ := r
    rw [hin] at hcases
    obtain ⟨ca,u,hroute,heq⟩ := hcases
    have hsame : m.stored { s.channel with policy } = m.stored s.channel := by
      have hiff : Accepts { s.channel with policy } m ↔ Accepts s.channel m :=
        ⟨fun h => ⟨h.binding,h.sequence⟩,fun h => ⟨h.binding,h.sequence⟩⟩
      simp only [Inbound.stored,hiff]
    have hcert := hroute.channelClientCert
    rw [show m.stored (Server.channel _) = m.stored s.channel from hsame] at hcert
    rw [heq]
    exact hcert

theorem Served.holdsCertificate {opn : Option OpnHeader} (h : Served s typeId body opn s')
    (hne : ns0Numeric? typeId ≠ some idOpenSecureChannelRequest)
    (hholds : s'.conn.HoldsCertificate) : s.conn.HoldsCertificate := by
  have hsame := h.kept hne hholds.isOpen
  refine ⟨?_,hsame.isOpen.symm.trans hholds.isOpen,?_⟩
  · rcases h.clientHandle with hkept | hnone
    · rw [← hkept]
      exact hholds.up
    · have hup := hholds.up
      rw [hnone] at hup
      cases hup
  · show s.channel.policy.ChecksCertificate
    rw [← hsame.policy]
    exact hholds.policy

theorem Served.lastOpened_none
    (h : Served s typeId body none s') (hnil : s.trace = []) : lastOpened s'.log = none := by
  rw [← lastOpened_trace]
  have htrace := h.trace
  cases htype : ns0Numeric? typeId with
  | none =>
    rw [htype] at htrace
    rw [htrace,hnil]
    rfl
  | some id =>
    rw [htype] at htrace
    obtain ⟨calls,hcalls,hspec⟩ := htrace
    rw [hcalls,hnil]
    apply lastOpened_of_not_mem
    intro clientCert hmem
    obtain ⟨-,o,ho,-⟩ := hspec.opened clientCert hmem
    cases ho

theorem Served.lastOpened_opn
    {o : OpnHeader} (h : Served s typeId body (some o) s') (hnil : s.trace = [])
    (htype : ns0Numeric? typeId = some idOpenSecureChannelRequest)
    (hopn : OpnAnswered typeId (some o) s') (hopen : s'.channel.isOpen = true) :
    lastOpened s'.log = some o.clientCert.bytes := by
  rw [← lastOpened_trace]
  obtain ⟨id,hid,hlogged⟩ := hopn o rfl hopen
  rw [htype] at hid
  cases hid
  apply lastOpened_of_mem (hlogged rfl)
  intro clientCert hmem
  have htrace := h.trace
  rw [htype] at htrace
  obtain ⟨calls,hcalls,hspec⟩ := htrace
  rw [hcalls,hnil] at hmem
  obtain ⟨-,o',ho,heq⟩ := hspec.opened clientCert hmem
  cases ho
  exact heq

theorem Route.ownCertificate {own : Option (List UInt8)}
    (h : Route cfg s m s') (hnil : s.trace = []) (hmatches : Accepts s.channel m → m.MatchesType)
    (hsize : Accepts s.channel m → ∀ o, m.storing = some o →
      o.clientCert.bytes.length ≤ maxClientCertSize)
    (hown : Accepts s.channel m → m.request = none ∨ m.opn = none → s.conn.HoldsCertificate →
      own = some s.channelClientCert.val) (hholds : s'.conn.HoldsCertificate) :
    (lastOpened s'.log).or own = some s'.channelClientCert.val := by
  cases h with
  | refused _ hs =>
    have hup := hholds.up
    rw [hs] at hup
    cases hup
  | undecodable inLast haccept hreq hs =>
    subst hs
    have hnone : lastOpened s.log = none := by
      rw [← lastOpened_trace,hnil]
      rfl
    show (lastOpened s.log).or own = some s.channelClientCert.val
    rw [hnone]
    exact hown haccept (.inl hreq) ⟨hholds.up,hholds.isOpen,hholds.policy⟩
  | served inLast typeId body haccept hreq hserved hopn =>
    have hcert := hserved.channelClientCert
    rw [certDuring_eq _ hreq] at hcert
    cases hheader : m.opn with
    | none =>
      rw [hheader] at hserved
      have hne : ns0Numeric? typeId ≠ some idOpenSecureChannelRequest := by
        intro htype
        have hsome := (hmatches haccept typeId body _ hreq htype).mpr rfl
        rw [hheader] at hsome
        cases hsome
      have hbefore := hserved.holdsCertificate hne hholds
      have hstoring : m.storing = none := by simp [Inbound.storing,hheader]
      rw [hserved.lastOpened_none hnil,hcert,hstoring]
      exact hown haccept (.inr hheader) ⟨hbefore.up,hbefore.isOpen,hbefore.policy⟩
    | some o =>
      rw [hheader] at hserved hopn
      obtain ⟨id,htype,-⟩ := hopn o rfl hholds.isOpen
      have hid : id = idOpenSecureChannelRequest :=
        (hmatches haccept typeId body id hreq htype).mp (by rw [hheader]; rfl)
      rw [hid] at htype
      have hstoring : m.storing = some o := by simp [Inbound.storing,hreq,htype,hheader]
      rw [hserved.lastOpened_opn hnil htype hopn hholds.isOpen,hcert,hstoring]
      show some _ = some (keptClientCert o.clientCert).val
      rw [keptClientCert_of_le (hsize haccept o hstoring)]

/-- Any other handler than that of OpenSecureChannel sees the certificate that was in store, and
its channel was open. -/
theorem Route.handled (h : Route cfg s m s')
    (hnil : s.trace = []) (hmatches : Accepts s.channel m → m.MatchesType) {requestId : UInt32}
    {session : Option Nat} {clientCert : List UInt8} (hne : requestId ≠ idOpenSecureChannelRequest)
    (hmem : Event.handled requestId session clientCert ∈ s'.log) :
    Accepts s.channel m ∧ m.opn = none ∧ s.channel.isOpen = true ∧
      clientCert = s.channelClientCert.val := by
  have hnot (hlog : s'.trace = []) : False := by
    have htrace : Event.handled requestId session clientCert ∈ s'.trace :=
      List.mem_filter.mpr ⟨hmem,rfl⟩
    rw [hlog] at htrace
    cases htrace
  cases h with
  | refused _ hs | undecodable inLast _ _ hs => exact (hnot (hs ▸ hnil)).elim
  | served inLast typeId body haccept hreq hserved _ =>
    have htrace := hserved.trace
    cases htype : ns0Numeric? typeId with
    | none =>
      rw [htype] at htrace
      exact (hnot (htrace.trans hnil)).elim
    | some id =>
      rw [htype] at htrace
      obtain ⟨calls,hcalls,hspec⟩ := htrace
      have hcall : Event.handled requestId session clientCert ∈ calls := by
        have hin : Event.handled requestId session clientCert ∈ s'.trace :=
          List.mem_filter.mpr ⟨hmem,rfl⟩
        have hstart : (s.setChannel (s.channel.accepted m inLast)).trace = [] := hnil
        rwa [hcalls,hstart] at hin
      obtain ⟨rfl,rfl,hopen⟩ := hspec.handled _ _ _ hcall
      have hheader : m.opn = none := by
        cases hopn : m.opn with
        | none => rfl
        | some o =>
          exact (hne ((hmatches haccept typeId body _ hreq htype).mp (by rw [hopn]; rfl))).elim
      have hstoring : m.storing = none := by simp [Inbound.storing,hheader]
      refine ⟨haccept,hheader,hopen.resolve_left hne,?_⟩
      rw [certDuring_eq _ hreq,hstoring]
      rfl

/-! ## Runs -/

theorem processMessage_certificate (cfg : ServerConfig ω σ) (hnil : s.trace = [])
    {own : Option (List UInt8)}
    (hown : s.conn.HoldsCertificate → own = some s.channelClientCert.val)
    (hrespects : ∀ policy m, messageInbound cfg s msg = some (policy, m) → Accepts s.channel m →
      (m.request = none → policy = s.channel.policy) ∧ m.MatchesType ∧
        ∀ o, m.storing = some o → o.clientCert.bytes.length ≤ maxClientCertSize) :
    let s' := processMessage cfg s msg
    s'.conn.HoldsCertificate → (lastOpened s'.log).or own = some s'.channelClientCert.val := by
  intro s' hholds
  have hcases := processMessage_cases cfg s msg
  cases hin : messageInbound cfg s msg with
  | none =>
    rw [hin] at hcases
    have hnone : lastOpened s'.log = none := by
      rw [← lastOpened_trace,hcases.trace,hnil]
      rfl
    rw [hnone,hcases.channelClientCert]
    apply hown
    have hup := hholds.up
    have hopen := hholds.isOpen
    have hpolicy := hholds.policy
    rcases hcases.clientHandle with hkept | hgone
    · rcases hcases.channel with hsame | hclosed
      · refine ⟨hkept ▸ hup,?_,?_⟩
        · have heq := congrArg SecureChannel.isOpen hsame
          exact heq.symm.trans hopen
        · have heq := congrArg SecureChannel.policy hsame
          exact (show s'.channel.policy = s.channel.policy from heq) ▸ hpolicy
      · rw [show s'.conn.secureChannel.isOpen = false from hclosed] at hopen
        cases hopen
    · rw [hgone] at hup
      cases hup
  | some r =>
    obtain ⟨policy,m⟩ := r
    rw [hin] at hcases
    obtain ⟨ca,u,hroute,heq⟩ := hcases
    have hfield : s'.conn = u.conn ∧ s'.log = u.log ∧
        s'.channelClientCert = u.channelClientCert := by
      rw [show s' = _ from heq]
      exact ⟨rfl,rfl,rfl⟩
    obtain ⟨hconn,hlog,hcert⟩ := hfield
    have haccepts {P : Prop} (h : Accepts s.channel m → P) :
        Accepts { s.channel with policy } m → P := fun h' => h ⟨h'.binding,h'.sequence⟩
    rw [hconn] at hholds
    rw [hlog,hcert]
    refine hroute.ownCertificate hnil (haccepts fun h => (hrespects _ _ hin h).2.1)
      (haccepts fun h => (hrespects _ _ hin h).2.2) (haccepts fun h hplain hheld => ?_) hholds
    have hpolicy : policy = s.channel.policy := by
      rcases hplain with hreq | hopn
      · exact (hrespects _ _ hin h).1 hreq
      · exact messageInbound_policy cfg hin hopn
    subst hpolicy
    exact hown ⟨hheld.up,hheld.isOpen,hheld.policy⟩

theorem Pool.Step.channelClientCert {p p' : Pool ω σ} {x : Input} (h : Pool.Step cfg p x p')
    (hx : ∀ i msg, x ≠ .message i msg) :
    p'.shared.channelClientCert = p.shared.channelClientCert := by
  cases h with
  | idle i msg _ | message i msg conn _ _ => exact (hx i msg rfl).elim
  | _ => rfl

theorem Pool.ConnStep.holdsCertificate {p : Pool ω σ} {x : Input} {conn' : Connection}
    (h : Pool.ConnStep cfg p i x conn') (hx : ∀ msg, x ≠ .message i msg)
    (hholds : conn'.HoldsCertificate) : p.conns[i]? = some conn' := by
  cases h with
  | kept _ h => exact h
  | message _ msg _ _ heq => exact (hx msg heq).elim
  | disconnect _ _ _ => cases hholds.up
  | accepted _ _ _ _ _ => cases hholds.isOpen

theorem Certified.step_opened_of_ne (t : Certified ω σ) {j : Nat} (hj : j ≠ i)
    (msg : List UInt8) : (t.step cfg (.message i msg)).opened j = t.opened j :=
  Function.update_of_ne hj _ _

variable {t : Certified ω σ}

theorem Certified.message_kept (h : t.Kept)
    {conn : Connection} (hconn : t.pool.conns[i]? = some conn)
    (hup : conn.clientHandle.isSome = true) (hx : RespectsCertificate cfg t (.message i msg)) :
    (t.step cfg (.message i msg)).Kept := by
  have hrespects policy m hin haccept := hx conn policy m hconn hup hin haccept
  have hown := processMessage_certificate cfg (s := t.pool.focus i conn) rfl
    (h i conn hconn) fun policy m hin haccept =>
      have hr := hrespects policy m hin haccept
      ⟨hr.undecodable,hr.request,hr.size⟩
  have hshared : (t.pool.step cfg (.message i msg)).shared = _ :=
    Pool.step_message_shared hconn hup msg
  intro j conn' hconn' hholds
  by_cases hj : j = i
  · subst hj
    rw [step,Pool.step_message_conns_self hconn hup] at hconn'
    cases hconn'
    simp only [step,hshared]
    rw [Function.update_self]
    exact hown hholds
  · rw [step,Pool.step_message_conns_of_ne _ hj] at hconn'
    rw [step_opened_of_ne t hj,h j conn' hconn' hholds]
    show some _ = some (t.pool.step cfg (.message i msg)).shared.channelClientCert.val
    rw [hshared]
    rw [processMessage_channelClientCert]
    cases hstored : (messageInbound cfg (t.pool.focus i conn) msg).bind fun r =>
        r.2.stored (t.pool.focus i conn).channel with
    | none => rfl
    | some o =>
      obtain ⟨⟨policy,m⟩,hin,hm⟩ := Option.bind_eq_some_iff.mp hstored
      obtain ⟨haccept,hstoring⟩ := Option.ite_none_right_eq_some.mp hm
      have hr := hrespects policy m hin haccept
      show some _ = some (keptClientCert o.clientCert).val
      rw [keptClientCert_of_le (hr.size o hstoring),hr.others o hstoring j conn' hj hconn' hholds]

theorem Certified.message_sees (h : t.Kept) (hx : RespectsCertificate cfg t (.message i msg)) :
    SeesOwnCertificate cfg t (.message i msg) := by
  intro conn policy m requestId session clientCert hconn hup hin hpolicy hid hmem
  rw [Pool.step_message_shared hconn hup] at hmem
  have hcases := processMessage_cases cfg (t.pool.focus i conn) msg
  rw [hin] at hcases
  obtain ⟨ca,u,hroute,heq⟩ := hcases
  have hlog : Event.handled requestId session clientCert ∈ u.log := by
    have hmem' : Event.handled requestId session clientCert ∈
      (processMessage cfg (t.pool.focus i conn) msg).log := hmem
    rwa [heq] at hmem'
  have hne : requestId ≠ idOpenSecureChannelRequest := by
    rcases hid with rfl | rfl <;> decide
  have hmatches (h' : Accepts { conn.secureChannel with policy } m) : m.MatchesType :=
    (hx conn policy m hconn hup hin ⟨h'.binding,h'.sequence⟩).request
  obtain ⟨-,hopn,hopen,rfl⟩ := hroute.handled rfl hmatches hne hlog
  have hsame : policy = conn.secureChannel.policy := messageInbound_policy cfg hin hopn
  exact h i conn hconn ⟨hup,hopen,hsame ▸ hpolicy⟩

theorem Certified.step_kept (h : t.Kept) {x : Input}
    (hx : RespectsCertificate cfg t x) : SeesOwnCertificate cfg t x ∧ (t.step cfg x).Kept := by
  have hrest := Pool.step_cases cfg t.pool x
  cases x with
  | message i msg =>
    refine ⟨message_sees h hx,?_⟩
    by_cases hup : ∃ conn, t.pool.conns[i]? = some conn ∧ conn.clientHandle.isSome = true
    · obtain ⟨conn,hconn,hsome⟩ := hup
      exact message_kept h hconn hsome hx
    have hidle : t.pool.step cfg (.message i msg) = t.pool.idle := by
      generalize t.pool.step cfg (.message i msg) = p' at hrest ⊢
      cases hrest with
      | idle => rfl
      | message _ _ conn hconn hsome => exact (hup ⟨conn,hconn,hsome⟩).elim
    intro j conn' hconn' hholds
    simp only [step,hidle] at hconn' ⊢
    have hopened : (lastOpened t.pool.idle.shared.log).or (t.opened i) = t.opened i := rfl
    rw [hopened,Function.update_eq_self]
    exact h j conn' hconn' hholds
  | accept handle =>
    refine ⟨trivial,fun j conn' hconn' hholds => ?_⟩
    have hbefore := (hrest.conn hconn').holdsCertificate (fun _ => Input.noConfusion) hholds
    have hcert := hrest.channelClientCert fun _ _ => Input.noConfusion
    simp only [step,hcert]
    cases hfree : t.pool.conns.findIdx? fun conn => conn.clientHandle.isNone with
    | none => exact h j conn' hbefore hholds
    | some i =>
      have hj : j ≠ i := by
        rintro rfl
        obtain ⟨hlt,hnone,-⟩ := List.findIdx?_eq_some_iff_getElem.mp hfree
        rw [List.getElem?_eq_getElem hlt] at hbefore
        cases hbefore
        have hup := hholds.up
        simp_all
      dsimp only
      rw [Function.update_of_ne hj]
      exact h j conn' hbefore hholds
  | disconnect i =>
    refine ⟨trivial,fun j conn' hconn' hholds => ?_⟩
    have hbefore := (hrest.conn hconn').holdsCertificate (fun _ => Input.noConfusion) hholds
    have hcert := hrest.channelClientCert fun _ _ => Input.noConfusion
    simp only [step,hcert]
    exact h j conn' hbefore hholds

/-- While the chunks respect the certificate in store, CreateSession and ActivateSession on secured
channels always see the certificate their own connection was last accepted with, and it stays in
store whatever the other connections do. -/
theorem certified_run_sees_own {t : Certified ω σ} (hstart : t.Kept) (inputs : List Input)
    (hrun : Run.AllSteps (Certified.step cfg) (RespectsCertificate cfg) t inputs) :
    Run.AllSteps (Certified.step cfg)
      (fun t x => SeesOwnCertificate cfg t x ∧ (t.step cfg x).Kept) t inputs := by
  refine Run.AllSteps.of_invariant ?_ hstart hrun
  intro t x h hx
  have hstep := Certified.step_kept h hx
  exact ⟨hstep,hstep.2⟩

/-! ## Two connections -/

theorem messageInbound_congr (hconn : s'.conn = s.conn)
    (hassembly : s'.chunkAssembly = s.chunkAssembly) (msg : List UInt8) :
    messageInbound cfg s' msg = messageInbound cfg s msg := by
  simp only [messageInbound,Server.channel,hconn,hassembly]

theorem processMessage_reaches {policy : SecurityPolicy}
    (hin : messageInbound cfg s msg = some (policy, m))
    (haccept : Accepts s.channel m) (hopn : m.opn = none)
    {id : UInt32} (hreq : m.request = some (typeId, body)) (htype : ns0Numeric? typeId = some id)
    (hopen : s.channel.isOpen = true) {descriptor : ServiceDescriptor}
    (hfind : findServiceDescriptor id = some descriptor)
    (hfree : descriptor.requiresSession = false) :
    ∃ session, Event.handled id session s.channelClientCert.val ∈ (processMessage cfg s msg).log := by
  have hcases := processMessage_cases cfg s msg
  rw [hin] at hcases
  obtain ⟨ca,u,hroute,heq⟩ := hcases
  rw [heq]
  cases hroute with
  | refused hrefused _ => exact (hrefused ⟨haccept.binding,haccept.sequence⟩).elim
  | undecodable _ _ hnone _ =>
    rw [hreq] at hnone
    cases hnone
  | served inLast typeId' body' _ hreq' hserved _ =>
    rw [hreq] at hreq'
    cases hreq'
    have htrace := hserved.trace
    rw [htype] at htrace
    obtain ⟨calls,hcalls,hspec⟩ := htrace
    obtain ⟨session,hmem⟩ := hspec.reaches hopen descriptor hfind hfree
    refine ⟨session,?_⟩
    have hin' : Event.handled id session s.channelClientCert.val ∈ u.trace := by
      have hstoring : m.storing = none := by simp [Inbound.storing,hopn]
      rw [certDuring_eq _ hreq,hstoring] at hmem
      rw [hcalls]
      exact List.mem_append_right _ hmem
    exact (List.mem_filter.mp hin').1

def zeroMacCrypto : CryptoAdapter Unit :=
  { refusingCrypto with hmacSha256 := fun _ _ => .ok (Vector.replicate 32 0) }

def certifiedPool : Certified Unit Unit where
  pool :=
    { shared := { bareShared with channelClientCert := ⟨[0x61], by decide⟩ }
      conns := [bareConnection .basic256Sha256 .sign, bareConnection .none .none] }
  opened i := if i = 0 then some [0x61] else none

def foreignOpn : List UInt8 :=
  opnChunk securityPolicyNoneUri [0x62] 1 6 9 [0x01, 0x00, 0xbe, 0x01]

def createSessionChunk : List UInt8 :=
  plainChunk .final ⟨1, 1, 6, 9⟩ ([0x01, 0x00, 0xcd, 0x01] ++ List.replicate 32 0)

theorem certifiedPool_kept : certifiedPool.Kept := by
  intro j conn hconn hholds
  match j with
  | 0 => rfl
  | 1 =>
    cases hconn
    exact (hholds.policy.1 rfl).elim
  | j + 2 => cases hconn

theorem createSessionChunk_inbound : messageInbound (bareConfig (some zeroMacCrypto))
    (certifiedPool.pool.focus 0 (bareConnection .basic256Sha256 .sign)) createSessionChunk =
    some (.basic256Sha256, ⟨1, 1, 6, 9, some (⟨0, .numeric idCreateSessionRequest⟩, []), none⟩) := by
  decide +kernel

private theorem createSessionChunk_respects :
    Run.AllSteps (Certified.step (bareConfig (some zeroMacCrypto)))
      (RespectsCertificate (bareConfig (some zeroMacCrypto))) certifiedPool
      [.message 0 createSessionChunk] := by
  refine ⟨fun conn policy m hconn _ hin _ => ?_,trivial⟩
  cases hconn
  rw [createSessionChunk_inbound] at hin
  cases hin
  refine ⟨nofun,?_,nofun,nofun⟩
  rintro typeId body id hreq htype
  cases hreq
  cases htype
  decide

theorem certified_run_sees_own_create :
    let cfg := bareConfig (some zeroMacCrypto)
    certifiedPool.Kept ∧ Run.AllSteps (Certified.step cfg) (RespectsCertificate cfg) certifiedPool
        [.message 0 createSessionChunk] ∧
      (certifiedPool.step cfg (.message 0 createSessionChunk)).pool.shared.log =
        [.dispatched idCreateSessionRequest [],.handled idCreateSessionRequest none [0x61]] ∧
      Run.AllSteps (Certified.step cfg)
        (fun t x => SeesOwnCertificate cfg t x ∧ (t.step cfg x).Kept) certifiedPool
        [.message 0 createSessionChunk] :=
  ⟨certifiedPool_kept,createSessionChunk_respects,by decide +kernel,
    certified_run_sees_own certifiedPool_kept _ createSessionChunk_respects⟩

private theorem foreignOpn_stored {t : Certified Unit Unit}
    (ht : t = certifiedPool.step (bareConfig (some zeroMacCrypto)) (.message 1 foreignOpn)) :
    t.pool.conns[0]? = certifiedPool.pool.conns[0]? ∧ t.pool.shared.channelClientCert.val = [0x62] ∧
      t.pool.shared.chunkAssembly = certifiedPool.pool.shared.chunkAssembly ∧
      t.opened 0 = certifiedPool.opened 0 := by
  have hconn : certifiedPool.pool.conns[1]? = some (bareConnection .none .none) := rfl
  have hpool : t.pool = certifiedPool.pool.step (bareConfig (some zeroMacCrypto))
      (.message 1 foreignOpn) := by rw [ht]; rfl
  have hshared : (certifiedPool.pool.step (bareConfig (some zeroMacCrypto))
      (.message 1 foreignOpn)).shared = _ := Pool.step_message_shared hconn rfl foreignOpn
  have htouch : touchesAssembler foreignOpn = false := by decide +kernel
  refine ⟨?_,?_,?_,?_⟩
  · rw [hpool]
    exact Pool.step_message_conns_of_ne _ (by decide) foreignOpn
  · rw [hpool,hshared,processMessage_channelClientCert]
    decide +kernel
  · rw [hpool,hshared,processMessage_chunkAssembly,ChunkAssembler.next_of_not_touches htouch]
    exact ite_self _
  · rw [ht]
    exact Certified.step_opened_of_ne _ (by decide) foreignOpn

private theorem createSessionChunk_sees {t : Certified Unit Unit}
    (hconn : t.pool.conns[0]? = certifiedPool.pool.conns[0]?)
    (hassembly : t.pool.shared.chunkAssembly = certifiedPool.pool.shared.chunkAssembly)
    (hne : t.opened 0 ≠ some t.pool.shared.channelClientCert.val) :
    let cfg := bareConfig (some zeroMacCrypto)
    ¬ t.Kept ∧
      (∃ session, .handled idCreateSessionRequest session t.pool.shared.channelClientCert.val ∈
        (t.step cfg (.message 0 createSessionChunk)).pool.shared.log) ∧
      ¬ SeesOwnCertificate cfg t (.message 0 createSessionChunk) := by
  intro cfg
  have hsame (conn : Connection) : messageInbound cfg (t.pool.focus 0 conn) createSessionChunk =
      messageInbound cfg (certifiedPool.pool.focus 0 conn) createSessionChunk := by
    apply messageInbound_congr
    · rfl
    · exact hassembly
  have hin := (hsame _).trans createSessionChunk_inbound
  have haccept : Accepts (bareConnection .basic256Sha256 .sign).secureChannel
      ⟨1,1,6,9,some (⟨0,.numeric idCreateSessionRequest⟩, []),none⟩ := by decide
  have hcreate : ⟨idCreateSessionRequest,464,false⟩ ∈ supportedServices := by decide
  obtain ⟨session,hmem⟩ := processMessage_reaches hin haccept rfl rfl rfl rfl
    (findServiceDescriptor_of_mem hcreate) rfl
  have hlog : .handled idCreateSessionRequest session t.pool.shared.channelClientCert.val ∈
      (t.pool.step cfg (.message 0 createSessionChunk)).shared.log := by
    rw [Pool.step_message_shared hconn rfl]
    exact hmem
  refine ⟨fun hkept => ?_,⟨session,hlog⟩,fun hsees => ?_⟩
  · exact hne (hkept 0 _ hconn ⟨rfl,rfl,by decide,by decide⟩)
  · exact hne (hsees _ _ _ _ _ _ hconn rfl hin ⟨by decide,by decide⟩ (.inl rfl) hlog)

/-- A rejected OPN chunk of another connection: the first connection's CreateSession is then checked
against the wrong certificate, so its own is refused. -/
theorem foreignOpn_replaces_certificate :
    let cfg := bareConfig (some zeroMacCrypto)
    let t := certifiedPool.step cfg (.message 1 foreignOpn)
    let check := validateCreateSessionSecurity cfg.cryptoAdapter .basic256Sha256
    certifiedPool.Kept ∧ t.opened 0 = some [0x61] ∧ ¬ t.Kept ∧
      (∃ session, .handled idCreateSessionRequest session [0x62] ∈
        (t.step cfg (.message 0 createSessionChunk)).pool.shared.log) ∧
      check [0x61] (.ofBytes [0x61]) .null = .ok () ∧
      check [0x62] (.ofBytes [0x61]) .null = .error Status.badSecurityChecksFailed ∧
      ¬ SeesOwnCertificate cfg t (.message 0 createSessionChunk) := by
  intro cfg t check
  have ht : t = certifiedPool.step cfg (.message 1 foreignOpn) := rfl
  clear_value t
  obtain ⟨hconn,hcert,hassembly,hopened⟩ := foreignOpn_stored ht
  have hne : t.opened 0 ≠ some t.pool.shared.channelClientCert.val := by
    rw [hopened,hcert]
    decide
  obtain ⟨hkept,hmem,hsees⟩ := createSessionChunk_sees hconn hassembly hne
  rw [hcert] at hmem
  exact ⟨certifiedPool_kept,hopened,hkept,hmem,by decide +kernel,by decide +kernel,hsees⟩

end MucOpcua
