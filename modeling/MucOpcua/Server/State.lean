import MucOpcua.Services.Session
import MucOpcua.Services.ServiceHeader

/-!
# Server state

`server_internal.h`: what the connections of a server share, and the connection whose message is
being processed. The platform's adapters and the service handlers are parameters: a handler is a
program that writes its response piece by piece and may send notifications in between. The log is
not in the source; it records what the server did.
-/

namespace MucOpcua

/-! ## Connections -/

/-- A TCP adapter's connection handle; NULL is `none`. -/
abbrev Handle := Nat

inductive TcpState where
  | closed | connected | established
  deriving DecidableEq, Repr

structure TcpConnection where
  state : TcpState
  receiveBufferSize : UInt32
  sendBufferSize : UInt32
  maxMessageSize : UInt32
  maxChunkCount : UInt32
  protocolVersion : UInt32
  deriving DecidableEq

def TcpConnection.init : TcpConnection := ⟨.closed, 0, 0, 0, 0, 0⟩

/-- `mu_connection_t` without its receive buffer. -/
structure Connection where
  clientHandle : Option Handle
  tcpConn : TcpConnection
  secureChannel : SecureChannel
  deriving DecidableEq

/-! ## The server -/

/-- `MU_MIN_CHUNK_SIZE`; the server is not started with a smaller send buffer. -/
def minChunkSize : Nat := 8192

/-- `MU_SECURE_RESP_MAX`, `MU_SECURE_OPN_REQ_MAX` and `MU_MAX_CLIENT_CERT_SIZE`. -/
def secureRespMax : Nat := 11264
def secureOpnReqMax : Nat := 1024
def maxClientCertSize : Nat := 1600

inductive Event where
  /-- bytes given to the TCP adapter -/
  | sent (bytes : List UInt8)
  /-- a call of `mu_service_dispatch` -/
  | dispatched (requestId : UInt32) (body : List UInt8)
  /-- a service handler starts, with the active session and the channel certificate it sees -/
  | handled (requestId : UInt32) (activeSession : Option Nat) (channelClientCert : List UInt8)
  /-- an OPN chunk with this sender certificate was accepted -/
  | opened (clientCert : List UInt8)
  deriving DecidableEq

/-- What the connections share. `scratch` is the response region of the secure scratch buffer;
`app` is the state of the services: subscriptions, address space and the rest. -/
structure Shared (ω σ : Type) where
  world : ω
  sendBuffer : Buffer.Sized UInt8 (minChunkSize ≤ ·)
  scratch : Buffer.Sized UInt8 (· = secureRespMax)
  chunkAssembly : ChunkAssembler
  opnPendingSecurityPolicy : MuString
  opnPendingClientCert : MuString
  channelClientCert : { cert : List UInt8 // cert.length ≤ maxClientCertSize }
  sessions : List Session
  activeSession : Option Nat
  returnDiagnostics : UInt32
  currentRequestId : UInt32
  diag : DiagnosticsSummary
  app : σ
  log : List Event

/-- The server while it processes a message of `conn`; `peers` are the other connections. -/
structure Server (ω σ : Type) extends Shared ω σ where
  conn : Connection
  peers : List Connection

/-! ## Handlers -/

structure ServiceState (ω σ : Type) where
  world : ω
  sessions : List Session
  activeSession : Option Nat
  diag : DiagnosticsSummary
  app : σ

/-- A service handler at work. `write` stores bytes at an offset of the response body; `emit` is a
call of `mu_server_emit_message`, after which the handler goes on with its result. -/
inductive HandlerRun (ω σ : Type) where
  | done (result : StatusCode) (responseLength : Nat) (final : ServiceState ω σ)
  | write (offset : Nat) (bytes : List UInt8) (next : HandlerRun ω σ)
  | emit (world : ω) (requestId : UInt32) (body : List UInt8)
      (next : StatusCode → ω → HandlerRun ω σ)

/-- The part of `mu_tcp_adapter_t` that processing a message uses. -/
structure TcpAdapter (ω : Type) where
  write : ω → Option Handle → List UInt8 → StatusCode × Nat × ω
  closeConnection : ω → Option Handle → ω

/-- `mu_server_config_t`. `handler` runs the service of a request id on the request's body. -/
structure ServerConfig (ω σ : Type) where
  receiveBufferSize : Nat
  maxMessageSize : UInt32
  maxChunkCount : UInt32
  trustList : Option (List (List UInt8))
  allowUntrustedClients : Bool
  acceptableClockSkewNs : UInt64
  tcpAdapter : TcpAdapter ω
  timeAdapter : TimeAdapter ω
  entropyAdapter : EntropyAdapter ω
  cryptoAdapter : Option (CryptoAdapter ω)
  handler : UInt32 → Server ω σ → List UInt8 → HandlerRun ω σ

variable {ω σ : Type}

namespace Server

def record (s : Server ω σ) (event : Event) : Server ω σ := { s with log := s.log ++ [event] }

def setChannel (s : Server ω σ) (channel : SecureChannel) : Server ω σ :=
  { s with conn := { s.conn with secureChannel := channel } }

abbrev channel (s : Server ω σ) : SecureChannel := s.conn.secureChannel

/-- `++server_secure_channel.out_sequence_number`. -/
def nextOut (s : Server ω σ) : Server ω σ :=
  s.setChannel { s.channel with outSequenceNumber := s.channel.outSequenceNumber + 1 }

/-- Where a response body is built: in place in the send buffer behind the chunk header, or in the
scratch buffer of the secured path. -/
inductive Slot where
  | inPlace (offset : Nat)
  | scratch

def region (s : Server ω σ) : Slot → List UInt8
  | .inPlace offset => s.sendBuffer.val.drop offset
  | .scratch => s.scratch.val

def patchRegion (s : Server ω σ) (slot : Slot) (pos : Nat) (bytes : List UInt8) : Server ω σ :=
  match slot with
  | .inPlace offset => { s with sendBuffer := s.sendBuffer.patch (offset + pos) bytes }
  | .scratch => { s with scratch := s.scratch.patch pos bytes }

/-- Run an encoder over the response region; the length written is the writer's position. -/
def respond (s : Server ω σ) (slot : Slot) (encode : RespondM ω Unit) :
    Except BadStatus Nat × Server ω σ :=
  match encode (BinaryWriter.init (s.region slot), s.world) with
  | .ok _ (writer, world) =>
    (.ok writer.position, { s.patchRegion slot 0 (writer.buffer.getD []) with world })
  | .error status (writer, world) =>
    (.error status, { s.patchRegion slot 0 (writer.buffer.getD []) with world })

end Server

end MucOpcua
