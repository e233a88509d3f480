import MucOpcua.Lib.Run
import MucOpcua.Server.Inbound

/-!
# A server with several connections

`conns` and `active_conn` of `server_internal.h` and the accept loop of `poll.c`: a message is
processed with its connection as the active one, while the rest of the state is shared.
-/

namespace MucOpcua

variable {ω σ : Type}

structure Pool (ω σ : Type) where
  shared : Shared ω σ
  conns : List Connection

inductive Input where
  /-- the TCP adapter has a new connection -/
  | accept (handle : Handle)
  /-- a complete message has arrived on a connection -/
  | message (index : Nat) (msg : List UInt8)
  /-- a connection fails or is silent for too long -/
  | disconnect (index : Nat)
  deriving DecidableEq

def Connection.accepted (conn : Connection) (handle : Handle) : Connection where
  clientHandle := some handle
  tcpConn := TcpConnection.init
  secureChannel := conn.secureChannel.init

namespace Pool

def focus (p : Pool ω σ) (index : Nat) (conn : Connection) : Server ω σ where
  toShared := { p.shared with log := [] }
  conn := conn
  peers := p.conns.eraseIdx index

def store (p : Pool ω σ) (index : Nat) (s : Server ω σ) : Pool ω σ where
  shared := s.toShared
  conns := p.conns.set index s.conn

def idle (p : Pool ω σ) : Pool ω σ := { p with shared := { p.shared with log := [] } }

/-- Process on a connection that has a handle; a slot without one is skipped. -/
def serve (p : Pool ω σ) (index : Nat) (process : Server ω σ → Server ω σ) : Pool ω σ :=
  match p.conns[index]? with
  | none => p.idle
  | some conn =>
    if conn.clientHandle.isSome then p.store index (process (p.focus index conn)) else p.idle

/-- `poll_try_accept_multi`: the first free slot, or an error and no connection. -/
def accept (cfg : ServerConfig ω σ) (p : Pool ω σ) (handle : Handle) : Pool ω σ :=
  match p.conns.findIdx? fun conn => conn.clientHandle.isNone with
  | some index => { p.idle with conns := p.conns.modify index fun conn => conn.accepted handle }
  | none =>
    let message := tcpErrorMessage Status.badTcpNotEnoughResources.val (ascii "Server full")
    let (_, _, world) := cfg.tcpAdapter.write p.shared.world (some handle) message
    let world := cfg.tcpAdapter.closeConnection world (some handle)
    { p with shared := { p.shared with world, log := [.sent message] } }

def step (cfg : ServerConfig ω σ) (p : Pool ω σ) : Input → Pool ω σ
  | .accept handle => p.accept cfg handle
  | .message index msg => p.serve index fun s => processMessage cfg s msg
  | .disconnect index => p.serve index (abortConnection cfg)

/-! ## What a step can do -/

/-- The cases of a step; `idle` is an input for a connection that is not there. -/
inductive Step (cfg : ServerConfig ω σ) (p : Pool ω σ) : Input → Pool ω σ → Prop where
  | idle (index : Nat) (msg : List UInt8) (h : ∀ conn, p.conns[index]? = some conn →
      conn.clientHandle = none) : Step cfg p (.message index msg) p.idle
  | gone (index : Nat) (h : ∀ conn, p.conns[index]? = some conn → conn.clientHandle = none) :
      Step cfg p (.disconnect index) p.idle
  | message (index : Nat) (msg : List UInt8) (conn : Connection)
      (h : p.conns[index]? = some conn) (hup : conn.clientHandle.isSome = true) :
      Step cfg p (.message index msg) (p.store index (processMessage cfg (p.focus index conn) msg))
  | disconnect (index : Nat) (conn : Connection) (h : p.conns[index]? = some conn)
      (hup : conn.clientHandle.isSome = true) :
      Step cfg p (.disconnect index) (p.store index (abortConnection cfg (p.focus index conn)))
  | accepted (handle : Handle) (index : Nat) (conn : Connection) (h : p.conns[index]? = some conn)
      (hfree : conn.clientHandle = none) :
      Step cfg p (.accept handle) { p.idle with conns := p.conns.set index (conn.accepted handle) }
  | full (handle : Handle) (world : ω) (log : List Event) (hlog : ∀ e ∈ log, e.isSent = true) :
      Step cfg p (.accept handle) { p with shared := { p.shared with world, log } }

variable {cfg : ServerConfig ω σ}

theorem accept_cases (p : Pool ω σ) (handle : Handle) :
    Step cfg p (.accept handle) (p.accept cfg handle) := by
  unfold accept
  split
  · next index hfind =>
    obtain ⟨hlt,hfree,-⟩ := List.findIdx?_eq_some_iff_getElem.mp hfind
    rw [List.modify_eq_set_get _ hlt]
    exact Step.accepted handle index p.conns[index] (List.getElem?_eq_getElem hlt)
      (by simpa using hfree)
  · exact Step.full handle _ _ (by simp [Event.isSent])

theorem step_cases (cfg : ServerConfig ω σ) (p : Pool ω σ) (x : Input) :
    Step cfg p x (p.step cfg x) := by
  have hserve (index : Nat) (process : Server ω σ → Server ω σ) : (p.serve index process = p.idle ∧
        ∀ conn, p.conns[index]? = some conn → conn.clientHandle = none) ∨
      ∃ conn, p.conns[index]? = some conn ∧ conn.clientHandle.isSome = true ∧
        p.serve index process = p.store index (process (p.focus index conn)) := by
    unfold serve
    split
    · next h => exact .inl ⟨rfl,by simp [h]⟩
    rename_i conn h
    split
    · next hup => exact .inr ⟨conn,h,hup,rfl⟩
    rename_i hdown
    refine .inl ⟨rfl,?_⟩
    rintro conn' hconn'
    rw [h] at hconn'
    cases hconn'
    simpa using hdown
  cases x with
  | accept handle => exact accept_cases p handle
  | message index msg =>
    rcases hserve index fun s => processMessage cfg s msg with ⟨heq,h⟩ | ⟨conn,h,hup,heq⟩
    · rw [step,heq]
      exact Step.idle index msg h
    · rw [step,heq]
      exact Step.message index msg conn h hup
  | disconnect index =>
    rcases hserve index (abortConnection cfg) with ⟨heq,h⟩ | ⟨conn,h,hup,heq⟩
    · rw [step,heq]
      exact Step.gone index h
    · rw [step,heq]
      exact Step.disconnect index conn h hup

variable {index : Nat} {p : Pool ω σ}

theorem step_message {conn : Connection}
    (h : p.conns[index]? = some conn) (hup : conn.clientHandle.isSome = true) (msg : List UInt8) :
    p.step cfg (.message index msg) =
      p.store index (processMessage cfg (p.focus index conn) msg) := by
  simp only [step,serve,h,if_pos hup]

theorem step_message_shared {conn : Connection}
    (h : p.conns[index]? = some conn) (hup : conn.clientHandle.isSome = true) (msg : List UInt8) :
    (p.step cfg (.message index msg)).shared =
      (processMessage cfg (p.focus index conn) msg).toShared := by
  rw [step_message h hup]
  rfl

theorem step_message_conns_self {conn : Connection}
    (h : p.conns[index]? = some conn) (hup : conn.clientHandle.isSome = true) (msg : List UInt8) :
    (p.step cfg (.message index msg)).conns[index]? =
      some (processMessage cfg (p.focus index conn) msg).conn := by
  rw [step_message h hup]
  exact List.getElem?_set_self (List.getElem?_eq_some_iff.mp h).1

theorem step_message_conns_of_ne (p : Pool ω σ) {i : Nat} (hi : i ≠ index)
    (msg : List UInt8) : (p.step cfg (.message index msg)).conns[i]? = p.conns[i]? := by
  unfold step serve
  dsimp only
  split
  · rfl
  split
  · exact List.getElem?_set_ne hi.symm
  · rfl

/-- What becomes of the connection in slot `i`: nothing, what its own input does, or a fresh start. -/
inductive ConnStep (cfg : ServerConfig ω σ) (p : Pool ω σ) (i : Nat) (x : Input) :
    Connection → Prop where
  | kept (conn : Connection) (h : p.conns[i]? = some conn) : ConnStep cfg p i x conn
  | message (conn : Connection) (msg : List UInt8) (h : p.conns[i]? = some conn)
      (hup : conn.clientHandle.isSome = true) (hx : x = .message i msg) :
      ConnStep cfg p i x (processMessage cfg (p.focus i conn) msg).conn
  | disconnect (conn : Connection) (h : p.conns[i]? = some conn) (hx : x = .disconnect i) :
      ConnStep cfg p i x { conn with clientHandle := none }
  | accepted (conn : Connection) (handle : Handle) (h : p.conns[i]? = some conn)
      (hfree : conn.clientHandle = none) (hx : x = .accept handle) :
      ConnStep cfg p i x (conn.accepted handle)

private theorem set_cases {conns : List Connection} {i : Nat} {conn old conn' : Connection}
    (hold : conns[index]? = some old) (h : (conns.set index conn)[i]? = some conn') :
    (index = i ∧ conn' = conn) ∨ conns[i]? = some conn' := by
  by_cases hi : index = i
  · subst hi
    rw [List.getElem?_set_self (List.getElem?_eq_some_iff.mp hold).1] at h
    cases h
    exact .inl ⟨rfl,rfl⟩
  · rw [List.getElem?_set_ne hi] at h
    exact .inr h

theorem Step.conn {p' : Pool ω σ} {x : Input} (h : Step cfg p x p') {i : Nat}
    {conn' : Connection} (hconn' : p'.conns[i]? = some conn') : ConnStep cfg p i x conn' := by
  cases h with
  | idle index msg h | gone index h | full handle world log hlog => exact .kept conn' hconn'
  | message index msg conn h hup =>
    rcases set_cases h hconn' with ⟨rfl,rfl⟩ | hkept
    · exact .message conn msg h hup rfl
    · exact .kept conn' hkept
  | disconnect index conn h hup =>
    rcases set_cases h hconn' with ⟨rfl,rfl⟩ | hkept
    · exact .disconnect conn h rfl
    · exact .kept conn' hkept
  | accepted handle index conn h hfree =>
    rcases set_cases h hconn' with ⟨rfl,rfl⟩ | hkept
    · exact .accepted conn handle h hfree rfl
    · exact .kept conn' hkept

end Pool

/-! ## A bare platform -/

/-- A platform that sends everything and has no state, and services that answer nothing. -/
def bareConfig (cryptoAdapter : Option (CryptoAdapter Unit)) : ServerConfig Unit Unit where
  receiveBufferSize := 8192
  maxMessageSize := 0
  maxChunkCount := 0
  trustList := none
  allowUntrustedClients := true
  acceptableClockSkewNs := 0
  tcpAdapter := ⟨fun _ _ bytes => (Status.good, bytes.length, ()), fun _ _ => ()⟩
  timeAdapter := ⟨fun _ => (0, ()), fun _ => (0, ())⟩
  entropyAdapter _ _ := (.error Status.badInternalError, ())
  cryptoAdapter := cryptoAdapter
  handler _ s _ := .done Status.good 0 ⟨(), s.sessions, s.activeSession, s.diag, ()⟩

def bareShared : Shared Unit Unit where
  world := ()
  sendBuffer := ⟨List.replicate minChunkSize 0, Nat.le_of_eq List.length_replicate.symm⟩
  scratch := ⟨List.replicate secureRespMax 0, List.length_replicate⟩
  chunkAssembly := ChunkAssembler.idle
  opnPendingSecurityPolicy := MuString.null
  opnPendingClientCert := MuString.null
  channelClientCert := ⟨[], Nat.zero_le _⟩
  sessions := []
  activeSession := none
  returnDiagnostics := 0
  currentRequestId := 0
  diag := ⟨List.replicate 12 0, DiagnosticsSummary.length_zero⟩
  app := ()
  log := []

/-- An established connection with channel 1 and token 1 that has received five chunks. -/
def bareConnection (policy : SecurityPolicy) (mode : MessageSecurityMode) : Connection where
  clientHandle := some 1
  tcpConn := { TcpConnection.init with state := .established }
  secureChannel :=
    { channelId := 1
      tokenId := 1
      revisedLifetime := 3600000
      sequence := ⟨5, true⟩
      outSequenceNumber := 5
      inLastSequenceNumber := 5
      isOpen := true
      policy
      mode
      clientKeys := SymKeys.blank policy
      serverKeys := SymKeys.blank policy
      keysValid := true }

end MucOpcua
