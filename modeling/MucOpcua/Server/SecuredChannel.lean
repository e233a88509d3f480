import MucOpcua.Security.SymRoundTrip
import MucOpcua.Server.Connections
import MucOpcua.Server.PlainChunk

/-!
# Requests on a secured channel

On a channel with mode Sign or SignAndEncrypt every request should come out of the unwrapping under
the client keys.
-/

namespace MucOpcua

variable {ω σ : Type} {cfg : ServerConfig ω σ}
variable {crypto : CryptoAdapter ω} {msg : List UInt8} {s : Server ω σ}

/-- The channel protects its messages; `policy` is what selects the secured path. -/
structure SecureChannel.Secured (channel : SecureChannel) : Prop where
  mode : channel.mode = .sign ∨ channel.mode = .signAndEncrypt
  policy : channel.policy ≠ .none

def Unwrapped (crypto : CryptoAdapter ω) (channel : SecureChannel) (msg : List UInt8)
    (requestId : UInt32) (body : List UInt8) : Prop :=
  ∃ plain info typeId reader,
    (unwrapWithClientKeys crypto channel msg).1 = .ok (plain, info) ∧
    binaryReadNodeid (BinaryReader.init plain) = .ok typeId reader ∧
    ns0Numeric? typeId = some requestId ∧ body = plain.drop reader.position

def Event.Authentic (crypto : CryptoAdapter ω) (channel : SecureChannel) (msg : List UInt8) :
    Event → Prop
  | .dispatched requestId body =>
    requestId ≠ idOpenSecureChannelRequest → Unwrapped crypto channel msg requestId body
  | .handled requestId _ _ =>
    requestId ≠ idOpenSecureChannelRequest → ∃ body, Unwrapped crypto channel msg requestId body
  | _ => True

/-- A message that keeps to the secured path: it does not end a split request, and an OPN chunk that
is accepted is protected and carries an OpenSecureChannel request. -/
structure KeepsToSecured (crypto : CryptoAdapter ω) (s : Server ω σ) (msg : List UInt8) : Prop where
  single : ∀ header, s.conn.tcpConn.state ≠ .closed → parseMessageHeader msg = .ok header →
    header.messageType = .msg → header.chunkType = .final → s.chunkAssembly.isActive = false
  opn : ∀ header policy req, s.conn.tcpConn.state ≠ .closed → parseMessageHeader msg = .ok header →
    header.messageType = .opn → secureUnwrapOpn crypto msg = some (policy, req) →
    Accepts s.channel req.inbound →
    policy ≠ .none ∧ ∀ typeId body id, req.inbound.request = some (typeId, body) →
      ns0Numeric? typeId = some id → id = idOpenSecureChannelRequest

/-! ## One message -/

theorem ChannelStep.secured {c c' : SecureChannel} (h : ChannelStep c c') (hc : c.Secured)
    (hopen : c'.isOpen = true) : c'.Secured := by
  cases h with
  | kept h =>
    rw [h]
    exact ⟨hc.mode,hc.policy⟩
  | closed h =>
    rw [h] at hopen
    cases hopen
  | granted h =>
    obtain ⟨requested,hcheck⟩ := h.check
    obtain ⟨hvalid,hnone⟩ := checkChannelSecurity_ok hcheck
    refine ⟨?_,h.policy ▸ hc.policy⟩
    cases hmode : c'.mode with
    | invalid => exact (hvalid hmode).elim
    | none => exact (hc.policy (hnone.mp hmode)).elim
    | sign => exact .inl rfl
    | signAndEncrypt => exact .inr rfl

theorem mem_trace {e : Event} : e ∈ s.trace ↔ e ∈ s.log ∧ e.isSent = false := by
  simp [Server.trace]

theorem RequestCalls.authentic {channel : SecureChannel}
    {id : UInt32} {body cert : List UInt8} {isOpen : Bool}
    {opn : Option OpnHeader} {calls : List Event} (h : RequestCalls id body cert isOpen opn calls)
    (hreq : id ≠ idOpenSecureChannelRequest → Unwrapped crypto channel msg id body) :
    ∀ e ∈ calls, e.Authentic crypto channel msg := by
  intro e he
  cases e with
  | sent bytes => trivial
  | opened cert => trivial
  | dispatched id' body' =>
    have hmem := mem_dispatches.mpr he
    rw [h.dispatches,List.mem_singleton] at hmem
    cases hmem
    exact hreq
  | handled id' session cert' =>
    obtain ⟨rfl,-,-⟩ := h.handled id' session cert' he
    exact fun hne => ⟨body,hreq hne⟩

/-- What a route does to a secured channel. `hreq` says that the request it serves is authentic. -/
theorem Route.secured {s' : Server ω σ} {m : Inbound} (h : Route cfg s m s')
    (hs : Accepts s.channel m → s.channel.Secured) {P : Event → Prop}
    (hreq : ∀ typeId body id calls cert isOpen, Accepts s.channel m →
      m.request = some (typeId, body) → ns0Numeric? typeId = some id →
      RequestCalls id body cert isOpen m.opn calls → ∀ e ∈ calls, P e) (hlog : ∀ e ∈ s.trace, P e) :
    (∀ e ∈ s'.trace, P e) ∧
      (s'.conn.clientHandle.isSome = true → s'.channel.isOpen = true → s'.channel.Secured) := by
  cases h with
  | refused h hs' =>
    subst hs'
    exact ⟨hlog,nofun⟩
  | undecodable inLast haccept _ hs' =>
    subst hs'
    exact ⟨hlog,fun _ _ => ⟨(hs haccept).mode,(hs haccept).policy⟩⟩
  | served inLast typeId body haccept hrequest hserved _ =>
    have hsecured : (s.channel.accepted m inLast).Secured :=
      ⟨(hs haccept).mode,(hs haccept).policy⟩
    refine ⟨?_,fun _ hopen => hserved.channel.secured hsecured hopen⟩
    have htrace := hserved.trace
    cases htype : ns0Numeric? typeId with
    | none =>
      rw [htype] at htrace
      rw [htrace]
      exact hlog
    | some id =>
      rw [htype] at htrace
      obtain ⟨calls,hcalls,hspec⟩ := htrace
      rw [hcalls]
      intro e he
      rcases List.mem_append.mp he with hold | hnew
      · exact hlog e hold
      · exact hreq typeId body id calls _ _ haccept hrequest htype hspec e hnew

theorem messageInbound_secured (hcrypto : cfg.cryptoAdapter = some crypto)
    (hs : s.channel.policy ≠ .none) {policy : SecurityPolicy}
    {m : Inbound} (h : messageInbound cfg s msg = some (policy, m)) :
    s.conn.tcpConn.state ≠ .closed ∧ ∃ header, parseMessageHeader msg = .ok header ∧
      ((header.messageType = .msg ∧ header.chunkType = .final ∧ s.chunkAssembly.isActive = true) ∨
        (header.messageType = .opn ∧ ∃ req, secureUnwrapOpn crypto msg = some (policy, req) ∧
          m = req.inbound) ∨
        (policy = s.channel.policy ∧ ∃ req, secureUnwrapMsg crypto s.channel msg = some req ∧
          m = req.inbound)) := by
  unfold messageInbound at h
  split at h
  · cases h
  rename_i hup
  refine ⟨hup,?_⟩
  split at h
  · cases h
  rename_i header hparse
  refine ⟨header,hparse,?_⟩
  split at h
  · cases h
  split at h
  · next hfinal => exact .inl hfinal
  split at h
  · cases h
  split at h
  · cases h
  unfold chunkInbound at h
  rw [hcrypto] at h
  dsimp only at h
  split at h
  · next hopn =>
    obtain ⟨⟨policy',req⟩,hunwrap,heq⟩ := Option.map_eq_some_iff.mp h
    cases heq
    exact .inr (.inl ⟨by simpa using hopn,req,hunwrap,rfl⟩)
  obtain ⟨req,hunwrap,heq⟩ := Option.map_eq_some_iff.mp h
  cases heq
  exact .inr (.inr ⟨rfl,req,hunwrap,rfl⟩)

/-- What `secure_unwrap_msg` lets through. -/
theorem secureUnwrapMsg_unwrapped {channel : SecureChannel}
    {req : SecureRequest} (h : secureUnwrapMsg crypto channel msg = some req)
    {typeId : NodeId} {body : List UInt8} {id : UInt32}
    (hrequest : req.inbound.request = some (typeId, body)) (htype : ns0Numeric? typeId = some id) :
    Unwrapped crypto channel msg id body := by
  unfold secureUnwrapMsg at h
  split at h
  · split at h
    · cases h
    · next plain info hunwrap =>
      cases h
      unfold SecureRequest.inbound typeAndBody at hrequest
      split at hrequest
      · cases hrequest
      rename_i reader hread
      cases hrequest
      exact ⟨plain,info,typeId,reader,hunwrap,hread,htype,rfl⟩
  · cases h

/-- A message that keeps to the secured path has its requests unwrapped, and the channel stays
secured while it is in use. -/
theorem processMessage_secured (hcrypto : cfg.cryptoAdapter = some crypto)
    (hs : s.channel.Secured) (hlog : s.log = []) (hkeeps : KeepsToSecured crypto s msg) :
    let s' := processMessage cfg s msg
    (∀ e ∈ s'.log, e.Authentic crypto s.channel msg) ∧
      (s'.conn.clientHandle.isSome = true → s'.channel.isOpen = true → s'.channel.Secured) := by
  have hempty : ∀ e ∈ s.trace, e.Authentic crypto s.channel msg := by simp [Server.trace,hlog]
  suffices h : (∀ e ∈ (processMessage cfg s msg).trace, e.Authentic crypto s.channel msg) ∧
      ((processMessage cfg s msg).conn.clientHandle.isSome = true →
        (processMessage cfg s msg).channel.isOpen = true →
        (processMessage cfg s msg).channel.Secured) by
    refine ⟨fun e he => ?_,h.2⟩
    cases e with
    | sent bytes => trivial
    | opened cert => trivial
    | dispatched id body | handled id session cert => exact h.1 _ (mem_trace.mpr ⟨he,rfl⟩)
  have hcases := processMessage_cases cfg s msg
  cases hm : messageInbound cfg s msg with
  | none =>
    rw [hm] at hcases
    refine ⟨hcases.trace ▸ hempty,fun _ hopen => ?_⟩
    rcases hcases.channel with hkept | hclosed
    · rw [hkept]
      exact ⟨hs.mode,hs.policy⟩
    · rw [hclosed] at hopen
      cases hopen
  | some r =>
    obtain ⟨policy,m⟩ := r
    rw [hm] at hcases
    obtain ⟨ca,u,hroute,heq⟩ := hcases
    rw [heq]
    obtain ⟨hup,header,hparse,hwhich⟩ := messageInbound_secured hcrypto hs.policy hm
    rcases hwhich with ⟨hmsg,hfinal,hactive⟩ | ⟨hopn,req,hunwrap,rfl⟩ | ⟨rfl,req,hunwrap,rfl⟩
    · rw [hkeeps.single header hup hparse hmsg hfinal] at hactive
      cases hactive
    · apply hroute.secured
      · intro haccept
        have hopn' := hkeeps.opn header policy req hup hparse hopn hunwrap
          ⟨haccept.binding,haccept.sequence⟩
        exact ⟨hs.mode,hopn'.1⟩
      · intro typeId body id calls cert isOpen haccept hrequest htype hcalls
        have hopn' := hkeeps.opn header policy req hup hparse hopn hunwrap
          ⟨haccept.binding,haccept.sequence⟩
        exact hcalls.authentic fun hne => (hne (hopn'.2 typeId body id hrequest htype)).elim
      · exact hempty
    · apply hroute.secured
      · exact fun _ => ⟨hs.mode,hs.policy⟩
      · intro typeId body id calls cert isOpen _ hrequest htype hcalls
        exact hcalls.authentic fun _ => secureUnwrapMsg_unwrapped hunwrap hrequest htype
      · exact hempty

/-! ## Runs -/

section Runs

variable (cfg) (crypto : CryptoAdapter ω) (i : Nat)

/-- The channel of connection `i` is open, and an input for it keeps to the secured path. -/
structure SecuredInput (p : Pool ω σ) (x : Input) : Prop where
  isOpen : ∃ conn, p.conns[i]? = some conn ∧ conn.secureChannel.isOpen = true
  keeps : ∀ conn msg, p.conns[i]? = some conn → x = .message i msg →
    KeepsToSecured crypto (p.focus i conn) msg

/-- Connection `i` has a secured channel, and an input for it leads to authentic requests only. -/
structure AuthenticStep (p : Pool ω σ) (x : Input) : Prop where
  mode : ∀ conn, p.conns[i]? = some conn → conn.clientHandle.isSome = true →
    conn.secureChannel.mode = .sign ∨ conn.secureChannel.mode = .signAndEncrypt
  authentic : ∀ conn msg, p.conns[i]? = some conn → x = .message i msg →
    ∀ e ∈ (p.step cfg x).shared.log, e.Authentic crypto conn.secureChannel msg

def StaysSecured (p : Pool ω σ) : Prop :=
  ∀ conn, p.conns[i]? = some conn → conn.clientHandle.isSome = true →
    conn.secureChannel.isOpen = true → conn.secureChannel.Secured

end Runs

variable {crypto : CryptoAdapter ω} {i : Nat}

theorem Pool.step_message_log {p : Pool ω σ} {conn : Connection} (h : p.conns[i]? = some conn)
    (msg : List UInt8) {P : Event → Prop}
    (hup : conn.clientHandle.isSome = true →
      ∀ e ∈ (processMessage cfg (p.focus i conn) msg).log, P e) :
    ∀ e ∈ (p.step cfg (.message i msg)).shared.log, P e := by
  simp only [Pool.step,Pool.serve,h]
  split
  · next hsome => exact hup hsome
  · simp [Pool.idle]

/-- While the channel of a connection is open and its messages keep to the secured path, its
requests come out of the unwrapping under the client keys. What the other connections send does not
matter. -/
theorem secured_run_authentic (hcrypto : cfg.cryptoAdapter = some crypto) {p : Pool ω σ}
    {conn : Connection} (hconn : p.conns[i]? = some conn)
    (hsecured : conn.secureChannel.Secured) (inputs : List Input)
    (hrun : Run.AllSteps (Pool.step cfg) (SecuredInput crypto i) p inputs) :
    Run.AllSteps (Pool.step cfg) (AuthenticStep cfg crypto i) p inputs := by
  have hstart : StaysSecured i p := by
    intro conn' hconn' _ _
    rw [hconn] at hconn'
    cases hconn'
    exact hsecured
  refine Run.AllSteps.of_invariant ?_ hstart hrun
  intro p x hp hx
  have hprocess : ∀ conn msg, p.conns[i]? = some conn → conn.clientHandle.isSome = true →
      x = .message i msg →
      let s' := processMessage cfg (p.focus i conn) msg
      (∀ e ∈ s'.log, e.Authentic crypto conn.secureChannel msg) ∧
        (s'.conn.clientHandle.isSome = true → s'.channel.isOpen = true → s'.channel.Secured) := by
    intro conn msg hconn hup hmsg
    obtain ⟨conn',hconn',hopen⟩ := hx.isOpen
    rw [hconn] at hconn'
    cases hconn'
    exact processMessage_secured hcrypto (hp conn hconn hup hopen) rfl (hx.keeps conn msg hconn hmsg)
  refine ⟨⟨?_,?_⟩,?_⟩
  · intro conn hconn hup
    obtain ⟨conn',hconn',hopen⟩ := hx.isOpen
    rw [hconn] at hconn'
    cases hconn'
    exact (hp conn hconn hup hopen).mode
  · rintro conn msg hconn rfl
    exact Pool.step_message_log hconn msg fun hup => (hprocess conn msg hconn hup rfl).1
  · intro conn' hconn'
    cases (Pool.step_cases cfg p x).conn hconn' with
    | kept _ h => exact hp conn' h
    | message conn msg h hup hmsg => exact (hprocess conn msg h hup hmsg).2
    | disconnect conn h _ => exact nofun
    | accepted conn handle h _ _ => exact fun _ => nofun

def securedPool : Pool Unit Unit := ⟨bareShared, [bareConnection .basic256Sha256 .signAndEncrypt]⟩

/-- A Read request with the body 42, wrapped with the keys of the channel. -/
def wrappedRead : List UInt8 :=
  (symChunkWrap echoCrypto .signAndEncrypt (SymKeys.blank .basic256Sha256) (ascii "MSG") 1 1 6 9
    [0x01, 0x00, 0x77, 0x02, 0x2a] 96).toOption.getD []

/-- The request is dispatched, and it is what the unwrapping yields. -/
theorem secured_run_authentic_read :
    let cfg := bareConfig (some echoCrypto)
    Run.AllSteps (Pool.step cfg) (SecuredInput echoCrypto 0) securedPool [.message 0 wrappedRead] ∧
      .dispatched 631 [0x2a] ∈ (securedPool.step cfg (.message 0 wrappedRead)).shared.log ∧
      Run.AllSteps (Pool.step cfg) (AuthenticStep cfg echoCrypto 0) securedPool
        [.message 0 wrappedRead] := by
  let cfg := bareConfig (some echoCrypto)
  let conn := bareConnection .basic256Sha256 .signAndEncrypt
  have hrun : Run.AllSteps (Pool.step cfg) (SecuredInput echoCrypto 0) securedPool
      [.message 0 wrappedRead] := by
    refine ⟨⟨⟨_,rfl,rfl⟩,?_⟩,trivial⟩
    rintro conn msg - hmsg
    cases hmsg
    refine ⟨fun _ _ _ _ _ => rfl,fun header policy req _ hparse hopn => ?_⟩
    have htype : (parseMessageHeader wrappedRead).toOption.map (·.messageType) = some .msg := by
      decide +kernel
    rw [hparse] at htype
    cases hopn.symm.trans (Option.some.inj htype)
  have hinbound : messageInbound cfg (securedPool.focus 0 conn) wrappedRead =
      some (.basic256Sha256, ⟨1,1,6,9,some (⟨0,.numeric 631⟩, [0x2a]),none⟩) := by decide +kernel
  have hdispatched : dispatches (processMessage cfg (securedPool.focus 0 conn) wrappedRead).log =
      [(631, [0x2a])] := by
    rw [processMessage_dispatches,hinbound]
    decide
  have hlog (msg : List UInt8) : (securedPool.step cfg (.message 0 msg)).shared.log =
      (processMessage cfg (securedPool.focus 0 conn) msg).log := rfl
  refine ⟨hrun,mem_dispatches.mp ?_,secured_run_authentic rfl rfl ⟨.inr rfl,by decide⟩ _ hrun⟩
  rw [hlog,hdispatched]
  exact List.mem_singleton_self _

/-! ## A split request on a secured channel -/

def readStart : Input := .message 0 (plainChunk .intermediate ⟨1, 1, 5, 9⟩ [0x01, 0x00])
def readEndChunk : List UInt8 := plainChunk .final ⟨1, 1, 6, 9⟩ [0x77, 0x02, 0x2a]

/-- The server dispatches the request although nothing can be unwrapped. -/
theorem splitRead_not_authentic :
    let conn := bareConnection .basic256Sha256 .signAndEncrypt
    securedPool.conns[0]? = some conn ∧ conn.secureChannel.isOpen = true ∧
      conn.secureChannel.Secured ∧
      ¬ Run.AllSteps (Pool.step (bareConfig (some refusingCrypto)))
        (AuthenticStep (bareConfig (some refusingCrypto)) refusingCrypto 0) securedPool
        [readStart,.message 0 readEndChunk] := by
  let cfg := bareConfig (some refusingCrypto)
  let conn := bareConnection .basic256Sha256 .signAndEncrypt
  let p := securedPool.step cfg readStart
  refine ⟨rfl,rfl,⟨.inr rfl,by decide⟩,fun h => ?_⟩
  have hconn : p.conns[0]? = some conn := by decide +kernel
  have hinbound : messageInbound cfg (p.focus 0 conn) readEndChunk =
      some (.basic256Sha256, ⟨1,1,6,9,some (⟨0,.numeric 631⟩, [0x2a]),none⟩) := by decide +kernel
  have hdispatched : dispatches (processMessage cfg (p.focus 0 conn) readEndChunk).log =
      [(631, [0x2a])] := by
    rw [processMessage_dispatches,hinbound]
    decide
  have hmem : .dispatched 631 [0x2a] ∈ (p.step cfg (.message 0 readEndChunk)).shared.log := by
    apply mem_dispatches.mp
    exact hdispatched ▸ List.mem_singleton_self _
  obtain ⟨plain,info,typeId,reader,hunwrap,-⟩ :=
    h.2.1.authentic conn readEndChunk hconn rfl _ hmem (by decide)
  have hrefused : (unwrapWithClientKeys refusingCrypto conn.secureChannel readEndChunk).1.toOption =
      none := by decide +kernel
  rw [hunwrap] at hrefused
  cases hrefused

end MucOpcua
