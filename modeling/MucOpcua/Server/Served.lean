import MucOpcua.Server.DispatchFrame
import MucOpcua.Services.ServiceFault

/-!
# What serving a decoded request does

The two ways of answering, in place and through the scratch buffer, have the same effects on the
connection.
-/

namespace MucOpcua

variable {ω σ : Type} (cfg : ServerConfig ω σ)
variable {body : List UInt8} {opn : Option OpnHeader} {typeId : NodeId} (s : Server ω σ)

def dispatches (log : List Event) : List (UInt32 × List UInt8) :=
  log.filterMap fun event => match event with
    | .dispatched requestId body => some (requestId, body)
    | _ => none

theorem dispatches_append (xs ys : List Event) :
    dispatches (xs ++ ys) = dispatches xs ++ dispatches ys := List.filterMap_append

variable {requestId : UInt32}

theorem mem_dispatches {log : List Event} :
    (requestId, body) ∈ dispatches log ↔ Event.dispatched requestId body ∈ log := by
  unfold dispatches
  rw [List.mem_filterMap]
  constructor
  · rintro ⟨event,hmem,heq⟩
    cases event <;> cases heq
    exact hmem
  · exact fun hmem => ⟨_,hmem,rfl⟩

theorem dispatches_trace : dispatches s.trace = dispatches s.log := by
  unfold Server.trace dispatches
  rw [List.filterMap_filter]
  congr 1
  funext event
  cases event <;> rfl

structure RequestCalls (requestId : UInt32) (body cert : List UInt8) (isOpen : Bool)
    (opn : Option OpnHeader) (calls : List Event) : Prop where
  dispatches : dispatches calls = [(requestId, body)]
  handled : ∀ id session cert', Event.handled id session cert' ∈ calls →
    id = requestId ∧ cert' = cert ∧ (requestId = idOpenSecureChannelRequest ∨ isOpen = true)
  opened : ∀ cert', Event.opened cert' ∈ calls →
    requestId = idOpenSecureChannelRequest ∧ ∃ o, opn = some o ∧ cert' = o.clientCert.bytes
  reaches : isOpen = true → ∀ descriptor, findServiceDescriptor requestId = some descriptor →
    descriptor.requiresSession = false → ∃ session, Event.handled requestId session cert ∈ calls

def certDuring (s : Server ω σ) (typeId : NodeId) (opn : Option OpnHeader) :
    { cert : List UInt8 // cert.length ≤ maxClientCertSize } :=
  match ns0Numeric? typeId, opn with
  | some _, some o => keptClientCert o.clientCert
  | _, _ => s.channelClientCert

structure Served (s : Server ω σ) (typeId : NodeId) (body : List UInt8) (opn : Option OpnHeader)
    (s' : Server ω σ) : Prop where
  tcpConn : s'.conn.tcpConn = s.conn.tcpConn
  clientHandle : s'.conn.clientHandle = s.conn.clientHandle ∨ s'.conn.clientHandle = none
  chunkAssembly : s'.chunkAssembly = s.chunkAssembly
  peers : s'.peers = s.peers
  channelClientCert : s'.channelClientCert = certDuring s typeId opn
  channel : ChannelStep s.channel s'.channel
  kept : ns0Numeric? typeId ≠ some idOpenSecureChannelRequest → s'.channel.isOpen = true →
    SameGrant s.channel s'.channel
  sequence : opn = none → s.channel.isOpen = true → s'.channel.sequence =
    (ns0Numeric? typeId).elim s.channel.sequence (sequenceAfter s.channel.sequence · body)
  trace : match ns0Numeric? typeId with
    | none => s'.trace = s.trace
    | some id => ∃ calls, s'.trace = s.trace ++ calls ∧
        RequestCalls id body (certDuring s typeId opn).val s.channel.isOpen opn calls

theorem RequestCalls.of_dispatched {s s' : Server ω σ} {id : UInt32} (h : Dispatched s id body s') :
    ∃ calls, s'.trace = s.trace ++ calls ∧
      RequestCalls id body s.channelClientCert.val s.channel.isOpen opn calls := by
  rcases h.trace with ⟨hquiet,hstops⟩ | ⟨session,hcalled,hopen⟩
  · refine ⟨_,hquiet,rfl,by simp,by simp,fun hisOpen descriptor hfind hfree => ?_⟩
    rw [hstops hisOpen descriptor hfind] at hfree
    cases hfree
  refine ⟨_,hcalled,rfl,?_,by simp,fun _ _ _ _ => ⟨session,by simp⟩⟩
  intro id' session' cert' hmem
  simp only [List.mem_cons,reduceCtorEq,List.not_mem_nil,or_false,false_or,
    Event.handled.injEq] at hmem
  exact ⟨hmem.1,hmem.2.2,hopen⟩

private theorem setOpnPending_certDuring {id : UInt32}
    (htype : ns0Numeric? typeId = some id) (opn : OpnHeader) :
    (s.setOpnPending opn).channelClientCert = certDuring s typeId (some opn) := by
  simp [certDuring,htype,Server.setOpnPending]

private theorem recordOpened_trace (id : UInt32) (opn : OpnHeader) (reply : Except BadStatus Nat) :
    let s' := s.clearOpnPending.recordOpened id opn reply
    s'.trace = s.trace ∨
      (id = idOpenSecureChannelRequest ∧ s'.trace = s.trace ++ [.opened opn.clientCert.bytes]) := by
  cases reply with
  | error status => exact .inl rfl
  | ok length =>
    by_cases hid : id = idOpenSecureChannelRequest
    · right
      simp [Server.recordOpened,hid,Server.record,Server.trace,Event.isSent,Server.clearOpnPending]
    · left
      simp [Server.recordOpened,hid,Server.trace,Server.clearOpnPending]

private theorem recordOpened_rest (id : UInt32) (opn : OpnHeader) (reply : Except BadStatus Nat) :
    let s' := s.clearOpnPending.recordOpened id opn reply
    s'.conn = s.conn ∧ s'.chunkAssembly = s.chunkAssembly ∧ s'.peers = s.peers ∧
      s'.channelClientCert = s.channelClientCert := by
  cases reply with
  | error status => exact ⟨rfl,rfl,rfl,rfl⟩
  | ok length =>
    dsimp only [Server.recordOpened]
    split <;> exact ⟨rfl,rfl,rfl,rfl⟩

theorem RequestCalls.opened_append {id : UInt32} {cert : List UInt8} {isOpen : Bool}
    {opn : OpnHeader} {calls : List Event}
    (h : RequestCalls id body cert isOpen (some opn) calls) (hid : id = idOpenSecureChannelRequest) :
    RequestCalls id body cert isOpen (some opn) (calls ++ [.opened opn.clientCert.bytes]) where
  dispatches := by
    rw [dispatches_append,h.dispatches]
    rfl
  handled := by
    intro id' session cert' hmem
    apply h.handled
    simpa using hmem
  opened := by
    intro cert' hmem
    simp only [List.mem_append,List.mem_singleton,Event.opened.injEq] at hmem
    rcases hmem with hmem | rfl
    · exact h.opened _ hmem
    · exact ⟨hid,opn,rfl,rfl⟩
  reaches := by
    intro hopen descriptor hfind hfree
    obtain ⟨session,hmem⟩ := h.reaches hopen descriptor hfind hfree
    exact ⟨session,List.mem_append_left _ hmem⟩

theorem dispatchRequest_served (typeId : NodeId) (body : List UInt8)
    (slot : Server.Slot) (opn : Option OpnHeader) :
    Served s typeId body opn (dispatchRequest cfg s typeId body slot opn).2 := by
  unfold dispatchRequest
  split
  · next htype =>
    refine ⟨rfl,.inl rfl,rfl,rfl,?_,ChannelStep.refl _,fun _ _ => SameGrant.refl _,
      fun _ _ => ?_,?_⟩
    · simp [certDuring,htype]
    · simp [htype]
    · simp [htype]
  · next id htype =>
    cases opn with
    | none =>
      have h := serviceDispatch_dispatched cfg s id body slot
      refine ⟨h.tcpConn,h.clientHandle,h.chunkAssembly,h.peers,?_,h.channel,fun hne => ?_,
        fun _ hopen => ?_,?_⟩
      · simp [certDuring,h.channelClientCert]
      · exact h.kept fun hid => hne (by rw [htype,hid])
      · rw [htype]
        exact h.sequence hopen
      · simp only [htype,certDuring]
        exact RequestCalls.of_dispatched h
    | some o =>
      have h := serviceDispatch_dispatched cfg (s.setOpnPending o) id body slot
      have hcert := setOpnPending_certDuring s htype o
      dsimp only
      generalize serviceDispatch cfg (s.setOpnPending o) id body slot = run at h ⊢
      obtain ⟨reply,t⟩ := run
      obtain ⟨calls,htrace,hcalls⟩ : ∃ calls, t.trace = s.trace ++ calls ∧
          RequestCalls id body (s.setOpnPending o).channelClientCert.val s.channel.isOpen (some o)
            calls := RequestCalls.of_dispatched h
      rw [hcert] at hcalls
      obtain ⟨hconn,hassembly,hpeers,hkept⟩ := recordOpened_rest t id o reply
      refine ⟨?_,?_,hassembly.trans h.chunkAssembly,hpeers.trans h.peers,
        (hkept.trans h.channelClientCert).trans hcert,?_,fun hne => ?_,nofun,?_⟩
      · rw [hconn]
        exact h.tcpConn
      · rw [hconn]
        exact h.clientHandle
      · have hstep : ChannelStep s.channel t.conn.secureChannel := h.channel
        rwa [← hconn] at hstep
      · have hsame := h.kept fun hid => hne (by rw [htype,hid])
        rw [Server.channel,hconn]
        exact hsame
      · simp only [htype]
        rcases recordOpened_trace t id o reply with hsame | ⟨hid,hopened⟩
        · exact ⟨calls,hsame.trans htrace,hcalls⟩
        · refine ⟨calls ++ [.opened o.clientCert.bytes],?_,hcalls.opened_append hid⟩
          rw [hopened,htrace,List.append_assoc]

/-! ## Answering -/

theorem Served.trans_quiet {s t u : Server ω σ} (h : Served s typeId body opn t) (hq : Quiet t u) :
    Served s typeId body opn u where
  tcpConn := hq.tcpConn.trans h.tcpConn
  clientHandle := by
    rcases hq.clientHandle with hkept | hnone
    · rw [hkept]
      exact h.clientHandle
    · exact .inr hnone
  chunkAssembly := hq.chunkAssembly.trans h.chunkAssembly
  peers := hq.peers.trans h.peers
  channelClientCert := hq.channelClientCert.trans h.channelClientCert
  channel := h.channel.trans_quiet hq
  kept hne hopen := (h.kept hne (hq.isOpen ▸ hopen)).trans (SameGrant.of_quiet hq)
  sequence := by
    intro hopn hopen
    rw [hq.channel]
    exact h.sequence hopn hopen
  trace := by
    rw [hq.trace]
    exact h.trace

theorem Served.dispatches {s s' : Server ω σ} (h : Served s typeId body opn s') :
    dispatches s'.log =
      dispatches s.log ++ ((ns0Numeric? typeId).map fun id => (id, body)).toList := by
  have htrace := h.trace
  rw [← dispatches_trace,← dispatches_trace s]
  cases htype : ns0Numeric? typeId with
  | none =>
    rw [htype] at htrace
    simp [htrace]
  | some id =>
    rw [htype] at htrace
    obtain ⟨calls,hcalls,hspec⟩ := htrace
    rw [hcalls,dispatches_append,hspec.dispatches]
    rfl

theorem Served.closeIfRejected {s t : Server ω σ}
    (h : Served s typeId body opn t) (reply : Except BadStatus Nat) :
    Served s typeId body opn (closeIfRejected t opn.isSome reply) := by
  cases opn with
  | none => exact h
  | some o =>
    unfold MucOpcua.closeIfRejected
    split
    · split
      · exact ⟨h.tcpConn,h.clientHandle,h.chunkAssembly,h.peers,h.channelClientCert,
          .closed (closed_isOpen _),
          fun _ hopen => Bool.noConfusion (hopen.symm.trans (closed_isOpen _)),nofun,h.trace⟩
      · exact h
    · exact h

private theorem Served.of_currentRequestId {s s' : Server ω σ}
    (h : Served { s with currentRequestId := requestId } typeId body opn s') :
    Served s typeId body opn s' :=
  ⟨h.tcpConn,h.clientHandle,h.chunkAssembly,h.peers,h.channelClientCert,h.channel,
    h.kept,h.sequence,h.trace⟩

theorem plaintextOffset_lt (isOpn : Bool) : plaintextOffset isOpn < s.sendBuffer.val.length := by
  have hsize : minChunkSize ≤ s.sendBuffer.val.length := s.sendBuffer.property
  have hoffset : plaintextOffset isOpn < minChunkSize := by cases isOpn <;> decide
  omega

theorem servePlaintext_served (typeId : NodeId) (body : List UInt8)
    (requestId : UInt32) (opn : Option OpnHeader) :
    Served s typeId body opn (servePlaintext cfg s typeId body requestId opn) := by
  unfold servePlaintext
  have hroom := plaintextOffset_lt s opn.isSome
  rw [if_neg (by omega)]
  have h := dispatchRequest_served cfg { s with currentRequestId := requestId } typeId body
    (.inPlace (plaintextOffset opn.isSome)) opn
  exact ((h.of_currentRequestId).trans_quiet (answerInPlace_acts cfg _ _ _ _).quiet).closeIfRejected _

variable (crypto : CryptoAdapter ω)

theorem serveSecure_served (s : Server ω σ) (typeId : NodeId)
    (body : List UInt8) (req : SecureRequest) :
    Served s typeId body req.opn (serveSecure cfg crypto s typeId body req) := by
  unfold serveSecure
  dsimp only
  have h := (dispatchRequest_served cfg { s with currentRequestId := req.requestId } typeId body
    .scratch req.opn).of_currentRequestId
  have hfault := (faultOrBody_acts cfg
    (dispatchRequest cfg { s with currentRequestId := req.requestId } typeId body .scratch
      req.opn).2 .scratch
    (dispatchRequest cfg { s with currentRequestId := req.requestId } typeId body .scratch
      req.opn).1).quiet
  have hanswered := h.trans_quiet hfault
  split
  · next heq =>
    rw [heq] at hanswered
    exact hanswered
  · next heq =>
    rw [heq] at hanswered
    exact hanswered
  rename_i heq
  rw [heq] at hanswered
  exact (hanswered.trans_quiet (sendSecure_acts cfg crypto _ _ _).quiet).closeIfRejected _

/-! ## Refused requests -/

theorem closeIfRejected_isOpen (status : BadStatus) :
    (closeIfRejected s true (.error status)).channel.isOpen = false := by
  unfold closeIfRejected
  dsimp only
  split
  · exact closed_isOpen _
  · next h => simpa using h

theorem faultOrBody_scratch (status : BadStatus) :
    ∃ length s', faultOrBody cfg s .scratch (.error status) = (.ok (length + 1), s') := by
  have hroom : (BinaryWriter.init s.scratch.val).position + 32 ≤
      (BinaryWriter.init s.scratch.val).length := by
    show 0 + 32 ≤ s.scratch.val.length
    rw [s.scratch.property]
    decide
  obtain ⟨bytes,world,hbytes,hwrite⟩ := writeServiceFault_ok cfg.timeAdapter s.returnDiagnostics 0
    status.val (w := BinaryWriter.init s.scratch.val) rfl rfl hroom s.world
  obtain ⟨b,bytes,rfl⟩ := List.exists_cons_of_ne_nil hbytes
  have hreply : (faultOrBody cfg s .scratch (.error status)).1 = .ok (bytes.length + 1) := by
    simp only [faultOrBody,Server.respond,Server.region,hwrite]
    simp [BinaryWriter.init]
  exact ⟨bytes.length,_,Prod.ext hreply rfl⟩

theorem serveSecure_rejected (s : Server ω σ)
    {req : SecureRequest} {status : BadStatus} (hopn : req.opn.isSome = true)
    (hreply : (dispatchRequest cfg { s with currentRequestId := req.requestId } typeId body .scratch
      req.opn).1 = .error status) :
    (serveSecure cfg crypto s typeId body req).channel.isOpen = false := by
  unfold serveSecure
  dsimp only
  generalize dispatchRequest cfg { s with currentRequestId := req.requestId } typeId body .scratch
    req.opn = run at hreply ⊢
  obtain ⟨reply,t⟩ := run
  subst hreply
  obtain ⟨length,t',hfault⟩ := faultOrBody_scratch cfg t status
  rw [hfault,hopn]
  exact closeIfRejected_isOpen _ _

theorem servePlaintext_rejected {status : BadStatus} (hopn : opn.isSome = true)
    (hreply : (dispatchRequest cfg { s with currentRequestId := requestId } typeId body
      (.inPlace (plaintextOffset true)) opn).1 = .error status) :
    (servePlaintext cfg s typeId body requestId opn).channel.isOpen = false := by
  have hroom := plaintextOffset_lt s opn.isSome
  unfold servePlaintext
  dsimp only
  rw [if_neg (by omega),hopn]
  generalize dispatchRequest cfg { s with currentRequestId := requestId } typeId body
    (.inPlace (plaintextOffset true)) opn = run at hreply ⊢
  obtain ⟨reply,t⟩ := run
  subst hreply
  exact closeIfRejected_isOpen _ _

/-- An OPN chunk leaves the channel open only with a Good result; the certificate of an accepted
OpenSecureChannel request is in the log then. -/
def OpnAnswered (typeId : NodeId) (opn : Option OpnHeader) (s' : Server ω σ) : Prop :=
  ∀ o, opn = some o → s'.channel.isOpen = true → ∃ id, ns0Numeric? typeId = some id ∧
    (id = idOpenSecureChannelRequest → Event.opened o.clientCert.bytes ∈ s'.trace)

theorem dispatchRequest_opened {s : Server ω σ} {slot : Server.Slot} {o : OpnHeader} {length : Nat}
    (h : (dispatchRequest cfg s typeId body slot (some o)).1 = .ok length) :
    ∃ id, ns0Numeric? typeId = some id ∧ (id = idOpenSecureChannelRequest →
      Event.opened o.clientCert.bytes ∈
        (dispatchRequest cfg s typeId body slot (some o)).2.trace) := by
  unfold dispatchRequest at h ⊢
  cases htype : ns0Numeric? typeId with
  | none =>
    rw [htype] at h
    cases h
  | some id =>
    rw [htype] at h
    refine ⟨id,rfl,fun hid => ?_⟩
    dsimp only at h ⊢
    rw [h]
    simp [Server.recordOpened,hid,Server.record,Server.trace,Event.isSent]

theorem serveSecure_opnAnswered (s : Server ω σ) (typeId : NodeId)
    (body : List UInt8) (req : SecureRequest) :
    OpnAnswered typeId req.opn (serveSecure cfg crypto s typeId body req) := by
  intro o hopn hopen
  cases hreply : (dispatchRequest cfg { s with currentRequestId := req.requestId } typeId body
      .scratch req.opn).1 with
  | error status =>
    rw [serveSecure_rejected cfg crypto s (by rw [hopn]; rfl) hreply] at hopen
    cases hopen
  | ok length =>
    rw [hopn] at hreply
    obtain ⟨id,htype,hlogged⟩ := dispatchRequest_opened cfg hreply
    refine ⟨id,htype,fun hid => ?_⟩
    unfold serveSecure
    dsimp only
    rw [hopn,hreply]
    cases length with
    | zero => exact hlogged hid
    | succ n =>
      show _ ∈ (sendSecure cfg crypto _ _ _).trace
      rw [(sendSecure_acts cfg crypto _ _ _).quiet.trace]
      exact hlogged hid

theorem servePlaintext_opnAnswered (typeId : NodeId) (body : List UInt8)
    (requestId : UInt32) (opn : Option OpnHeader) :
    OpnAnswered typeId opn (servePlaintext cfg s typeId body requestId opn) := by
  intro o hopn hopen
  subst hopn
  cases hreply : (dispatchRequest cfg { s with currentRequestId := requestId } typeId body
      (.inPlace (plaintextOffset true)) (some o)).1 with
  | error status =>
    rw [servePlaintext_rejected cfg s rfl hreply] at hopen
    cases hopen
  | ok length =>
    obtain ⟨id,htype,hlogged⟩ := dispatchRequest_opened cfg hreply
    refine ⟨id,htype,fun hid => ?_⟩
    have hroom := plaintextOffset_lt s true
    unfold servePlaintext
    dsimp only [Option.isSome_some]
    rw [if_neg (by omega),hreply]
    show _ ∈ (answerInPlace cfg _ _ _ _).trace
    rw [(answerInPlace_acts cfg _ _ _ _).quiet.trace]
    exact hlogged hid

end MucOpcua
