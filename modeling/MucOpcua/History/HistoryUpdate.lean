import MucOpcua.Encoding.BinaryDecode
import MucOpcua.History.Memstore

/-!
# HistoryUpdate requests

`mu_history_update_request_decode` in `history.c`. The details of an item are an ExtensionObject,
decoded on the reader of the request: the declared length is looked at once the details have been
read, and then only to skip what is left of the body.
-/

namespace MucOpcua

def maxHistoryUpdateValuesPerDetail : Nat := 10

/-- `mu_update_data_details_t`: the values below `num_values`. -/
structure UpdateDataDetails where
  nodeId : NodeId
  performInsertReplace : UInt32
  values : List HistoricalDataPoint
  bounded : values.length ≤ maxHistoryUpdateValuesPerDetail

structure DeleteRawModifiedDetails where
  nodeId : NodeId
  isDeleteModified : Bool
  startTime : Int64
  endTime : Int64

inductive HistoryUpdateItem where
  | data (details : UpdateDataDetails)
  | deleteRaw (details : DeleteRawModifiedDetails)

/-- The point made of a DataValue, which was zeroed before it was read. -/
def HistoricalDataPoint.ofDatavalue (dv : DataValue) : HistoricalDataPoint where
  sourceTimestamp := dv.sourceTimestamp.getD 0
  serverTimestamp := dv.serverTimestamp.getD 0
  status := dv.status.getD Status.good
  value := dv.value.getD Variant.zero

def idUpdateDataDetails : UInt32 := 682
def idDeleteRawModifiedDetails : UInt32 := 688

/-- The type id and the byte count of the body. Any odd encoding byte will do here. -/
def readDetailsHeader : ReadM (NodeId × Nat) := do
  let typeId ← binaryReadNodeid
  let encodingMask ← binaryReadByte
  if encodingMask &&& 0x01 = 0 then throw Status.badNotSupported
  let length := (← binaryReadInt32).toInt
  if length < 0 then throw Status.badDecodingError
  return (typeId, length.toNat)

theorem UpdateDataDetails.length_le {numVals : Int}
    (h : ¬ (maxHistoryUpdateValuesPerDetail : Int) < numVals)
    (values : { vs : List DataValue // vs.length = numVals.toNat }) :
    (values.val.map HistoricalDataPoint.ofDatavalue).length ≤ maxHistoryUpdateValuesPerDetail := by
  have := values.property
  rw [List.length_map]
  omega

def readUpdateDataDetails (profile : CodecProfile) : ReadM UpdateDataDetails := do
  let nodeId ← binaryReadNodeid
  let performInsertReplace ← binaryReadUint32
  let numVals := (← binaryReadInt32).toInt
  if numVals < 0 then
    return ⟨nodeId, performInsertReplace, [], by simp⟩
  else if h : (maxHistoryUpdateValuesPerDetail : Int) < numVals then
    throw Status.badTooManyOperations
  else
    let values ← readMany (binaryReadDatavalue profile) numVals.toNat
    return ⟨nodeId, performInsertReplace, values.val.map .ofDatavalue,
      UpdateDataDetails.length_le h values⟩

def readDeleteRawModifiedDetails : ReadM DeleteRawModifiedDetails := do
  let nodeId ← binaryReadNodeid
  let isDeleteModified ← binaryReadBoolean
  let startTime ← binaryReadInt64
  let endTime ← binaryReadInt64
  return { nodeId, isDeleteModified, startTime, endTime }

def readDetails (profile : CodecProfile) (typeId : UInt32) : ReadM HistoryUpdateItem :=
  if typeId = idUpdateDataDetails then .data <$> readUpdateDataDetails profile
  else if typeId = idDeleteRawModifiedDetails then .deleteRaw <$> readDeleteRawModifiedDetails
  else throw Status.badHistoryOperationUnsupported

/-- Skip to the end of a body that starts at `startPos`, unless the reader is past it. -/
def skipRemaining (startPos length : Nat) : ReadM Unit := do
  let reader ← get
  let bytesRead := reader.position - startPos
  if bytesRead < length then
    let diff := length - bytesRead
    if reader.length < reader.position + diff then throw Status.badDecodingError
    else set (reader.advance diff)

def readPadded {α : Type} (length : Nat) (decode : ReadM α) : ReadM α := do
  let startPos := (← get).position
  let a ← decode
  skipRemaining startPos length
  return a

/-- One round of the loop of `mu_history_update_request_decode`. -/
def decodeHistoryUpdateItem (profile : CodecProfile) (stale : List UInt8) :
    ReadM HistoryUpdateItem := do
  let (typeId, length) ← readDetailsHeader
  readPadded length (readDetails profile (typeId.numericMember stale))

end MucOpcua
