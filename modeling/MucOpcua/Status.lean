import Mathlib

/-! # Status codes

The subset of `status.h` that the modelled functions return. A call that fails returns a
`BadStatus`; the subtype rules out a failure reported as Good. -/

namespace MucOpcua

abbrev StatusCode := UInt32

namespace Status

def good : StatusCode := 0
def goodSubscriptionTransferred : StatusCode := 0x002D0000

end Status

abbrev BadStatus := { s : StatusCode // s ≠ Status.good }

namespace Status

def badInternalError : BadStatus := ⟨0x80020000, by decide⟩
def badOutOfMemory : BadStatus := ⟨0x80030000, by decide⟩
def badEncodingError : BadStatus := ⟨0x80060000, by decide⟩
def badDecodingError : BadStatus := ⟨0x80070000, by decide⟩
def badEncodingLimitsExceeded : BadStatus := ⟨0x80080000, by decide⟩
def badServiceUnsupported : BadStatus := ⟨0x800B0000, by decide⟩
def badSecurityChecksFailed : BadStatus := ⟨0x80130000, by decide⟩
def badSecureChannelIdInvalid : BadStatus := ⟨0x80220000, by decide⟩
def badNonceInvalid : BadStatus := ⟨0x80240000, by decide⟩
def badSessionIdInvalid : BadStatus := ⟨0x80250000, by decide⟩
def badSessionClosed : BadStatus := ⟨0x80260000, by decide⟩
def badSessionNotActivated : BadStatus := ⟨0x80270000, by decide⟩
def badRequestTypeInvalid : BadStatus := ⟨0x80530000, by decide⟩
def badSecurityModeRejected : BadStatus := ⟨0x80540000, by decide⟩
def badSecurityPolicyRejected : BadStatus := ⟨0x80550000, by decide⟩
def badCertificateInvalid : BadStatus := ⟨0x80120000, by decide⟩
def badCertificateUriInvalid : BadStatus := ⟨0x80170000, by decide⟩
def badTooManySessions : BadStatus := ⟨0x80560000, by decide⟩
def badIdentityTokenInvalid : BadStatus := ⟨0x80200000, by decide⟩
def badIdentityTokenRejected : BadStatus := ⟨0x80210000, by decide⟩
def badTcpMessageTypeInvalid : BadStatus := ⟨0x807E0000, by decide⟩
def badTcpSecureChannelUnknown : BadStatus := ⟨0x807F0000, by decide⟩
def badTcpMessageTooLarge : BadStatus := ⟨0x80800000, by decide⟩
def badTcpNotEnoughResources : BadStatus := ⟨0x80810000, by decide⟩
def badTcpInternalError : BadStatus := ⟨0x80820000, by decide⟩
def badTcpEndpointUrlInvalid : BadStatus := ⟨0x80830000, by decide⟩
def badRequestTooLarge : BadStatus := ⟨0x80B80000, by decide⟩
def badResponseTooLarge : BadStatus := ⟨0x80B90000, by decide⟩
def badTimeout : BadStatus := ⟨0x800A0000, by decide⟩
def badNothingToDo : BadStatus := ⟨0x800F0000, by decide⟩
def badTooManyOperations : BadStatus := ⟨0x80100000, by decide⟩
def badUserAccessDenied : BadStatus := ⟨0x801F0000, by decide⟩
def badSubscriptionIdInvalid : BadStatus := ⟨0x80280000, by decide⟩
def badTimestampsToReturnInvalid : BadStatus := ⟨0x802B0000, by decide⟩
def badNodeIdInvalid : BadStatus := ⟨0x80330000, by decide⟩
def badNodeIdUnknown : BadStatus := ⟨0x80340000, by decide⟩
def badAttributeIdInvalid : BadStatus := ⟨0x80350000, by decide⟩
def badIndexRangeInvalid : BadStatus := ⟨0x80360000, by decide⟩
def badIndexRangeNoData : BadStatus := ⟨0x80370000, by decide⟩
def badNotReadable : BadStatus := ⟨0x803A0000, by decide⟩
def badNotWritable : BadStatus := ⟨0x803B0000, by decide⟩
def badNotSupported : BadStatus := ⟨0x803D0000, by decide⟩
def badNotFound : BadStatus := ⟨0x803E0000, by decide⟩
def badInvalidArgument : BadStatus := ⟨0x80AB0000, by decide⟩
def badMonitoredItemIdInvalid : BadStatus := ⟨0x80420000, by decide⟩
def badMonitoredItemFilterInvalid : BadStatus := ⟨0x80430000, by decide⟩
def badMonitoredItemFilterUnsupported : BadStatus := ⟨0x80440000, by decide⟩
def badFilterNotAllowed : BadStatus := ⟨0x80450000, by decide⟩
def badEventFilterInvalid : BadStatus := ⟨0x80470000, by decide⟩
def badNoContinuationPoints : BadStatus := ⟨0x804B0000, by decide⟩
def badBrowseDirectionInvalid : BadStatus := ⟨0x804D0000, by decide⟩
def badNodeIdExists : BadStatus := ⟨0x805E0000, by decide⟩
def badNodeClassInvalid : BadStatus := ⟨0x805F0000, by decide⟩
def badBrowseNameInvalid : BadStatus := ⟨0x80600000, by decide⟩
def badViewIdUnknown : BadStatus := ⟨0x806B0000, by decide⟩
def badNoMatch : BadStatus := ⟨0x806F0000, by decide⟩
def badHistoryOperationUnsupported : BadStatus := ⟨0x80720000, by decide⟩
def badWriteNotSupported : BadStatus := ⟨0x80730000, by decide⟩
def badTypeMismatch : BadStatus := ⟨0x80740000, by decide⟩
def badTooManySubscriptions : BadStatus := ⟨0x80770000, by decide⟩
def badTooManyPublishRequests : BadStatus := ⟨0x80780000, by decide⟩
def badNoSubscription : BadStatus := ⟨0x80790000, by decide⟩
def badSequenceNumberUnknown : BadStatus := ⟨0x807A0000, by decide⟩
def badMessageNotAvailable : BadStatus := ⟨0x807B0000, by decide⟩
def badDeadbandFilterInvalid : BadStatus := ⟨0x808E0000, by decide⟩
def badNoData : BadStatus := ⟨0x809B0000, by decide⟩
def badEntryExists : BadStatus := ⟨0x809F0000, by decide⟩
def badNoEntryExists : BadStatus := ⟨0x80A00000, by decide⟩
def badFilterOperatorUnsupported : BadStatus := ⟨0x80C20000, by decide⟩
def badTooManyMonitoredItems : BadStatus := ⟨0x80DB0000, by decide⟩
def badIndexRangeDataMismatch : BadStatus := ⟨0x80EA0000, by decide⟩

end Status

end MucOpcua
