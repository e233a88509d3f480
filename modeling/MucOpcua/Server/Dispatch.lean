import MucOpcua.Lib.BinarySearch
import MucOpcua.Server.OpenSecureChannel

/-!
# Service dispatch

`dispatch_core.c`: the table of services, the checks on channel and session, and the call of the
handler. The build has every service.
-/

namespace MucOpcua

variable {ω σ : Type} (cfg : ServerConfig ω σ)

/-! ## The service table -/

/-- `mu_service_handler_t`. -/
structure ServiceDescriptor where
  requestId : UInt32
  responseId : UInt32
  requiresSession : Bool
  deriving DecidableEq

def idCreateSessionRequest : UInt32 := 461
def idActivateSessionRequest : UInt32 := 467

/-- `g_supported_services`, in ascending order of the request id. -/
def supportedServices : List ServiceDescriptor :=
  [⟨422, 425, false⟩, -- FindServers
    ⟨428, 431, false⟩, -- GetEndpoints
    ⟨437, 440, false⟩, -- RegisterServer
    ⟨idOpenSecureChannelRequest, idOpenSecureChannelResponse, false⟩,
    ⟨idCloseSecureChannelRequest, idCloseSecureChannelResponse, false⟩,
    ⟨idCreateSessionRequest, 464, false⟩,
    ⟨idActivateSessionRequest, 470, false⟩,
    ⟨473, 476, true⟩, -- CloseSession
    ⟨478, 481, true⟩, -- Cancel
    ⟨488, 491, true⟩, -- AddNodes
    ⟨494, 497, true⟩, -- AddReferences
    ⟨500, 503, true⟩, -- DeleteNodes
    ⟨506, 509, true⟩, -- DeleteReferences
    ⟨527, 530, true⟩, -- Browse
    ⟨533, 536, true⟩, -- BrowseNext
    ⟨554, 557, true⟩, -- TranslateBrowsePathsToNodeIds
    ⟨560, 563, true⟩, -- RegisterNodes
    ⟨566, 569, true⟩, -- UnregisterNodes
    ⟨615, 618, true⟩, -- QueryFirst
    ⟨621, 624, true⟩, -- QueryNext
    ⟨631, 634, true⟩, -- Read
    ⟨664, 667, true⟩, -- HistoryRead
    ⟨673, 676, true⟩, -- Write
    ⟨700, 700, true⟩, -- HistoryUpdate
    ⟨712, 715, true⟩, -- Call
    ⟨751, 754, true⟩, -- CreateMonitoredItems
    ⟨763, 766, true⟩, -- ModifyMonitoredItems
    ⟨769, 772, true⟩, -- SetMonitoringMode
    ⟨775, 778, true⟩, -- SetTriggering
    ⟨781, 784, true⟩, -- DeleteMonitoredItems
    ⟨787, 790, true⟩, -- CreateSubscription
    ⟨793, 796, true⟩, -- ModifySubscription
    ⟨799, 802, true⟩, -- SetPublishingMode
    ⟨826, 829, true⟩, -- Publish
    ⟨832, 835, true⟩, -- Republish
    ⟨841, 844, true⟩, -- TransferSubscriptions
    ⟨847, 850, true⟩, -- DeleteSubscriptions
    ⟨12211, 12212, false⟩] -- RegisterServer2

/-- `find_service_descriptor`, a binary search. -/
def findServiceDescriptor (requestId : UInt32) : Option ServiceDescriptor :=
  BinarySearch.search (fun d : ServiceDescriptor => d.requestId.toNat) supportedServices
    requestId.toNat supportedServices.length 0 supportedServices.length

theorem supportedServices_sorted :
    supportedServices.Pairwise (fun d e => d.requestId.toNat < e.requestId.toNat) := by
  decide

theorem findServiceDescriptor_of_mem {d : ServiceDescriptor} (h : d ∈ supportedServices) :
    findServiceDescriptor d.requestId = some d := by
  obtain ⟨i,hi,hd⟩ := List.getElem_of_mem h
  subst hd
  exact BinarySearch.search_complete supportedServices_sorted hi (Nat.zero_le i) hi
    (Nat.le_refl _) (Nat.le_refl _)

/-! ## The session of a request -/

/-- `read_auth_token_from_request`: 0 stands for a token that cannot be read or is not a number. -/
def readAuthTokenFromRequest (body : List UInt8) : UInt32 :=
  match binaryReadNodeid.result (BinaryReader.init body) with
  | .error _ => 0
  | .ok token => (ns0Numeric? token).getD 0

def readReturnDiagnosticsFromRequest (body : List UInt8) : UInt32 :=
  match requestHeaderDecode.result (BinaryReader.init body) with
  | .error _ => 0
  | .ok header => header.returnDiagnostics

/-- `mu_diagnostics_request_rejected`: the last counter, and the one before it for a security
rejection. -/
def diagnosticsRequestRejected (diag : DiagnosticsSummary) (security : Bool) :
    DiagnosticsSummary :=
  let bump (i : Nat) (cs : List UInt32) := cs.modify i (· + 1)
  ⟨⟨if security then bump 10 (bump 11 diag.counters.val) else bump 11 diag.counters.val, by
    split <;> simp [bump, diag.counters.property]⟩⟩

def Server.rejectRequest (s : Server ω σ) (security : Bool) : Server ω σ :=
  { s with diag := diagnosticsRequestRejected s.diag security }

def Server.activate (s : Server ω σ) (index : Nat) : Server ω σ :=
  let (now, world) := cfg.timeAdapter.getTickMs s.world
  { s with
    world
    activeSession := some index
    sessions := s.sessions.modify index fun session => { session with lastActivityMs := now } }

/-- The session checks of `mu_service_dispatch`. -/
def bindSession (s : Server ω σ) (body : List UInt8) : Except BadStatus Unit × Server ω σ :=
  let authToken := readAuthTokenFromRequest body
  if authToken = 0 then (.error Status.badSessionIdInvalid, s.rejectRequest false)
  else
    match sessionFindByToken s.sessions authToken with
    | none =>
      let status := if (sessionFindClosedByToken s.sessions authToken).isSome
        then Status.badSessionClosed else Status.badSessionIdInvalid
      (.error status, s.rejectRequest false)
    | some index =>
      let session := s.sessions.getD index Session.init
      match sessionValidateSecureChannel session s.channel.channelId with
      | .error status => (.error status, s.rejectRequest true)
      | .ok () =>
        if session.state ≠ .activated then
          (.error Status.badSessionNotActivated, s.rejectRequest false)
        else (.ok (), s.activate cfg index)

/-! ## Handlers -/

def ServiceState.store (state : ServiceState ω σ) (s : Server ω σ) : Server ω σ :=
  { s with
    world := state.world
    sessions := state.sessions
    activeSession := state.activeSession
    diag := state.diag
    app := state.app }

/-- Run a handler: its response grows in the slot while its notifications are sent. -/
def runHandler (slot : Server.Slot) :
    HandlerRun ω σ → Server ω σ → Except BadStatus Nat × Server ω σ
  | .done result responseLength final, s =>
    (if h : result = Status.good then .ok responseLength else .error ⟨result, h⟩, final.store s)
  | .write offset bytes next, s => runHandler slot next (s.patchRegion slot offset bytes)
  | .emit world requestId body next, s =>
    let (status, s) := serverEmitMessage cfg { s with world } requestId body
    runHandler slot (next status s.world) s

def callHandler (s : Server ω σ) (requestId : UInt32) (body : List UInt8) (slot : Server.Slot) :
    Except BadStatus Nat × Server ω σ :=
  let s := { s with returnDiagnostics := readReturnDiagnosticsFromRequest body }
  let s := s.record (.handled requestId s.activeSession s.channelClientCert.val)
  if requestId = idOpenSecureChannelRequest then handleOpenSecureChannel cfg s body slot
  else if requestId = idCloseSecureChannelRequest then handleCloseSecureChannel cfg s body slot
  else runHandler cfg slot (cfg.handler requestId s body) s

/-- What `mu_service_dispatch` does before it looks at the request. -/
def Server.beginDispatch (s : Server ω σ) (requestId : UInt32) (body : List UInt8) :
    Server ω σ :=
  { s.record (.dispatched requestId body) with activeSession := none, returnDiagnostics := 0 }

def serviceDispatch (s : Server ω σ) (requestId : UInt32) (body : List UInt8)
    (slot : Server.Slot) : Except BadStatus Nat × Server ω σ :=
  let s := s.beginDispatch requestId body
  match findServiceDescriptor requestId with
  | none => (.error Status.badServiceUnsupported, s)
  | some descriptor =>
    if requestId ≠ idOpenSecureChannelRequest ∧ s.channel.isOpen = false then
      (.error Status.badSecureChannelIdInvalid, s)
    else if descriptor.requiresSession then
      match bindSession cfg s body with
      | (.error status, s) => (.error status, s)
      | (.ok (), s) => callHandler cfg s requestId body slot
    else callHandler cfg s requestId body slot

end MucOpcua
