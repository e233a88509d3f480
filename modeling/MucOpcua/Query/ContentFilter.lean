import MucOpcua.Encoding.BinaryDecode

/-!
# The content filter of a query

`mu_content_filter_decode` in `binary_query.c`: a bounded number of elements, each with its
operands, which are ExtensionObjects.
-/

namespace MucOpcua.Query

inductive FilterOperand where
  | element (index : UInt32)
  | literal (value : Variant)

/-- `mu_content_filter_element_t` with the operands that it points at. -/
structure ContentFilterElement where
  filterOperator : UInt32
  filterOperands : List FilterOperand

def requireMinCountedBytes (count : UInt32) (minElementBytes : Nat) : ReadM Unit := do
  let reader ← get
  if h : reader.status ≠ Status.good then throw ⟨reader.status, h⟩
  else if reader.length < reader.position then readerFail Status.badDecodingError
  else if minElementBytes ≠ 0 ∧
      (reader.length - reader.position) / minElementBytes < count.toNat then
    readerFail Status.badDecodingError
  else return

/-- What follows the header of an operand, by the numeric member of its type id. A body of another
type is skipped and leaves an operand that refers to element 0. -/
def filterOperandBody (profile : CodecProfile) (typeId : UInt32) (len : Nat) :
    ReadM FilterOperand := do
  if typeId = 594 then
    return .element (← binaryReadUint32)
  else if typeId = 597 then
    return .literal (← binaryReadVariant profile)
  else if 0 < len then
    let reader ← get
    if reader.length - reader.position < len then
      throw Status.badDecodingError
    else
      set (reader.advance len)
      return .element 0
  else
    throw Status.badNotSupported

/-- One round of the inner loop of `mu_content_filter_decode`. -/
def filterOperandDecode (profile : CodecProfile) (stale : List UInt8) : ReadM FilterOperand := do
  let (typeId, len) ← binaryReadExtensionObjectHeader
  filterOperandBody profile (typeId.numericMember stale) len

/-- The inner loop; `stale i` is what operand `i` finds in the variable of the type id. -/
def filterOperandsDecode (profile : CodecProfile) (stale : Nat → List UInt8) :
    Nat → Nat → ReadM (List FilterOperand)
  | 0, _ => return []
  | n + 1, i => do
    let operand ← filterOperandDecode profile (stale i)
    let operands ← filterOperandsDecode profile stale n (i + 1)
    return operand :: operands

/-- The outer loop, with `operandIndex` operands in the array so far. -/
def elementsDecode (profile : CodecProfile) (stale : Nat → List UInt8) (maxOperands : Nat) :
    Nat → Nat → ReadM (List ContentFilterElement)
  | 0, _ => return []
  | n + 1, operandIndex => do
    let op ← binaryReadUint32
    let opCount ← binaryReadUint32
    if opCount = 0 ∨ opCount = 0xFFFFFFFF then
      let elements ← elementsDecode profile stale maxOperands n operandIndex
      return ⟨op, []⟩ :: elements
    else
      requireMinCountedBytes opCount 3
      if maxOperands < operandIndex + opCount.toNat then
        readerFail Status.badTooManyOperations
      else
        let operands ← filterOperandsDecode profile stale opCount.toNat operandIndex
        let elements ← elementsDecode profile stale maxOperands n (operandIndex + opCount.toNat)
        return ⟨op, operands⟩ :: elements

def contentFilterDecode (profile : CodecProfile) (stale : Nat → List UInt8)
    (maxElements maxOperands : Nat) : ReadM (List ContentFilterElement) := do
  let count ← binaryReadUint32
  if count = 0 ∨ count = 0xFFFFFFFF then
    return []
  else
    requireMinCountedBytes count 8
    if maxElements < count.toNat then
      readerFail Status.badTooManyOperations
    else
      elementsDecode profile stale maxOperands count.toNat 0

end MucOpcua.Query
