/-! The status codes a server answers with. A code outside the table reads as `unknownError`. -/
namespace Smb1

inductive Status
  | success
  | notifyEnumDir
  | bufferOverflow
  | noMoreFiles
  | notImplemented
  | invalidHandle
  | invalidParameter
  | noSuchFile
  | moreProcessingRequired
  | accessDenied
  | bufferTooSmall
  | objectNameInvalid
  | objectNameNotFound
  | objectNameCollision
  | objectPathNotFound
  | sharingViolation
  | wrongPassword
  | logonFailure
  | accountRestriction
  | invalidLogonHours
  | invalidWorkstation
  | passwordExpired
  | accountDisabled
  | noneMapped
  | pipeBusy
  | pipeDisconnected
  | pipeClosing
  | fileIsADirectory
  | statusNotSupported
  | duplicateName
  | networkNameDeleted
  | networkAccessDenied
  | badNetworkName
  | requestNotAccepted
  | notADirectory
  | cancelled
  | trustedDomainFailure
  | accountLockedOut
  | pathNotCovered
  | notFound
  | userSessionDeleted
  | networkSessionExpired
  | unknownError
  deriving DecidableEq, Repr, Inhabited

namespace Status

def code : Status → UInt32
  | .success => 0x0
  | .notifyEnumDir => 0x10C
  | .bufferOverflow => 0x80000005
  | .noMoreFiles => 0x80000006
  | .notImplemented => 0xC0000002
  | .invalidHandle => 0xC0000008
  | .invalidParameter => 0xC000000D
  | .noSuchFile => 0xC000000F
  | .moreProcessingRequired => 0xC0000016
  | .accessDenied => 0xC0000022
  | .bufferTooSmall => 0xC0000023
  | .objectNameInvalid => 0xC0000033
  | .objectNameNotFound => 0xC0000034
  | .objectNameCollision => 0xC0000035
  | .objectPathNotFound => 0xC000003A
  | .sharingViolation => 0xC0000043
  | .wrongPassword => 0xC000006A
  | .logonFailure => 0xC000006D
  | .accountRestriction => 0xC000006E
  | .invalidLogonHours => 0xC000006F
  | .invalidWorkstation => 0xC0000070
  | .passwordExpired => 0xC0000071
  | .accountDisabled => 0xC0000072
  | .noneMapped => 0xC0000073
  | .pipeBusy => 0xC00000AE
  | .pipeDisconnected => 0xC00000B0
  | .pipeClosing => 0xC00000B1
  | .fileIsADirectory => 0xC00000BA
  | .statusNotSupported => 0xC00000BB
  | .duplicateName => 0xC00000BD
  | .networkNameDeleted => 0xC00000C9
  | .networkAccessDenied => 0xC00000CA
  | .badNetworkName => 0xC00000CC
  | .requestNotAccepted => 0xC00000D0
  | .notADirectory => 0xC0000103
  | .cancelled => 0xC0000120
  | .trustedDomainFailure => 0xC000018C
  | .accountLockedOut => 0xC0000234
  | .pathNotCovered => 0xC0000257
  | .notFound => 0xC0000225
  | .userSessionDeleted => 0xC0000203
  | .networkSessionExpired => 0xC000035C
  | .unknownError => 0xFFFFFFFF

def name : Status → String
  | .success => "StatusSuccess"
  | .notifyEnumDir => "NotifyEnumDir"
  | .bufferOverflow => "BufferOverflow"
  | .noMoreFiles => "NoMoreFiles"
  | .notImplemented => "NotImplemented"
  | .invalidHandle => "InvalidHandle"
  | .invalidParameter => "InvalidParameter"
  | .noSuchFile => "NoSuchFile"
  | .moreProcessingRequired => "MoreProcessingRequired"
  | .accessDenied => "AccessDenied"
  | .bufferTooSmall => "BufferTooSmall"
  | .objectNameInvalid => "ObjectNameInvalid"
  | .objectNameNotFound => "ObjectNameNotFound"
  | .objectNameCollision => "ObjectNameCollision"
  | .objectPathNotFound => "ObjectPathNotFound"
  | .sharingViolation => "SharingViolation"
  | .wrongPassword => "WrongPassword"
  | .logonFailure => "LogonFailure"
  | .accountRestriction => "AccountRestriction"
  | .invalidLogonHours => "InvalidLogonHours"
  | .invalidWorkstation => "InvalidWorkstation"
  | .passwordExpired => "PasswordExpired"
  | .accountDisabled => "AccountDisabled"
  | .noneMapped => "NoneMapped"
  | .pipeBusy => "PipeBusy"
  | .pipeDisconnected => "PipeDisconnected"
  | .pipeClosing => "PipeClosing"
  | .fileIsADirectory => "FileIsADirectory"
  | .statusNotSupported => "StatusNotSupported"
  | .duplicateName => "DuplicateName"
  | .networkNameDeleted => "NetworkNameDeleted"
  | .networkAccessDenied => "NetworkAccessDenied"
  | .badNetworkName => "BadNetworkName"
  | .requestNotAccepted => "RequestNotAccepted"
  | .notADirectory => "NotADirectory"
  | .cancelled => "Cancelled"
  | .trustedDomainFailure => "TrustedDomainFailure"
  | .accountLockedOut => "AccountLockedOut"
  | .pathNotCovered => "PathNotCovered"
  | .notFound => "NotFound"
  | .userSessionDeleted => "UserSessionDeleted"
  | .networkSessionExpired => "NetworkSessionExpired"
  | .unknownError => "UnknownError"

def all : List Status := [
  .success, .notifyEnumDir, .bufferOverflow, .noMoreFiles, .notImplemented, .invalidHandle,
  .invalidParameter, .noSuchFile, .moreProcessingRequired, .accessDenied, .bufferTooSmall,
  .objectNameInvalid, .objectNameNotFound, .objectNameCollision, .objectPathNotFound,
  .sharingViolation, .wrongPassword, .logonFailure, .accountRestriction, .invalidLogonHours,
  .invalidWorkstation, .passwordExpired, .accountDisabled, .noneMapped, .pipeBusy,
  .pipeDisconnected, .pipeClosing, .fileIsADirectory, .statusNotSupported, .duplicateName,
  .networkNameDeleted, .networkAccessDenied, .badNetworkName, .requestNotAccepted,
  .notADirectory, .cancelled, .trustedDomainFailure, .accountLockedOut, .pathNotCovered,
  .notFound, .userSessionDeleted, .networkSessionExpired, .unknownError]

def ofCode (code : UInt32) : Status := (all.find? (·.code == code)).getD .unknownError

def isSuccess (s : Status) : Bool := s == .success

/-- The statuses with which a server rejects the credentials it was given. -/
def isAuthFailure : Status → Bool
  | .logonFailure | .wrongPassword | .accountRestriction | .invalidLogonHours
  | .invalidWorkstation | .passwordExpired | .accountDisabled | .accountLockedOut
  | .trustedDomainFailure | .accessDenied => true
  | _ => false

end Status

end Smb1
