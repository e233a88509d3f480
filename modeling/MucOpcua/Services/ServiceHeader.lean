import MucOpcua.Encoding.BinaryDecode
import MucOpcua.Encoding.WriterSticky

/-!
# Service headers

`service_header.c` and `response_encode.c`: the header every request starts with, the header every
response starts with, and the ServiceFault. A response is encoded into the writer's buffer while
the clock, part of the platform's state, is read on the way.
-/

namespace MucOpcua

variable {ω : Type}

structure RequestHeader where
  authenticationToken : NodeId
  timestamp : Int64
  requestHandle : UInt32
  returnDiagnostics : UInt32
  auditEntryId : MuString
  timeoutHint : UInt32
  deriving DecidableEq

def requestHeaderDecode : ReadM RequestHeader := do
  let authenticationToken ← binaryReadNodeid
  let timestamp ← binaryReadInt64
  let requestHandle ← binaryReadUint32
  let returnDiagnostics ← binaryReadUint32
  let auditEntryId ← binaryReadString
  let timeoutHint ← binaryReadUint32
  binarySkipExtensionObject
  return { authenticationToken, timestamp, requestHandle, returnDiagnostics, auditEntryId,
           timeoutHint }

structure ResponseHeader where
  timestamp : Int64
  requestHandle : UInt32
  serviceResult : StatusCode
  returnDiagnostics : UInt32

/-- serviceDiagnostics: the service result as inner status code if it was asked for. -/
def writeServiceDiagnostics (header : ResponseHeader) : WriteM Unit :=
  if header.returnDiagnostics &&& 0x20 ≠ 0 then do
    binaryWriteByte 0x20
    binaryWriteStatuscode header.serviceResult
  else binaryWriteByte 0x00

def numericNodeId (id : UInt32) : NodeId := ⟨0, .numeric id⟩

def responseHeaderEncode (header : ResponseHeader) : WriteM Unit := do
  binaryWriteInt64 header.timestamp
  binaryWriteUint32 header.requestHandle
  binaryWriteStatuscode header.serviceResult
  writeServiceDiagnostics header
  binaryWriteInt32 (-1)
  binaryWriteExtensionObjectHeader (some (numericNodeId 0)) 0

/-! ## Responses -/

/-- `mu_time_adapter_t`; the server is not started without one. -/
structure TimeAdapter (ω : Type) where
  getTime : ω → Int64 × ω
  getTickMs : ω → UInt64 × ω

/-- An encoder of a response: it writes and may read the clock. -/
abbrev RespondM (ω : Type) := EStateM BadStatus (BinaryWriter × ω)

def RespondM.put (encode : WriteM Unit) : RespondM ω Unit := fun (writer, world) =>
  match encode writer with
  | .ok _ writer => .ok () (writer, world)
  | .error status writer => .error status (writer, world)

def resolveTimestamp (time : TimeAdapter ω) : RespondM ω Int64 := fun (writer, world) =>
  let (now, world) := time.getTime world
  .ok now (writer, world)

def writeResponsePrefix (time : TimeAdapter ω) (returnDiagnostics responseTypeId : UInt32)
    (requestHandle : UInt32) (serviceResult : StatusCode) : RespondM ω Unit := do
  RespondM.put (binaryWriteNodeid (some (numericNodeId responseTypeId)))
  let timestamp ← resolveTimestamp time
  RespondM.put (responseHeaderEncode
    { timestamp, requestHandle, serviceResult, returnDiagnostics })

def idServiceFault : UInt32 := 397

/-- The body of `mu_write_service_fault`. -/
def writeServiceFault (time : TimeAdapter ω) (returnDiagnostics requestHandle : UInt32)
    (serviceResult : StatusCode) : RespondM ω Unit :=
  writeResponsePrefix time returnDiagnostics idServiceFault requestHandle serviceResult

end MucOpcua
