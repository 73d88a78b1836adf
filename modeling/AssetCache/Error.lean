/-!
# Errors

Every operation that can fail does so with a `StoreError`, which names the cause. The wording of
a cause is one function, `StoreError.message`; it has no text where the words are those of the
operating system or of the database.
-/

namespace AssetCache

/-! ### Input and output -/

/-- The kinds of failure of input and output. -/
inductive IoKind where
  | addrInUse
  | addrNotAvailable
  | alreadyExists
  | argumentListTooLong
  | brokenPipe
  | connectionAborted
  | connectionRefused
  | connectionReset
  | crossesDevices
  | deadlock
  | directoryNotEmpty
  | executableFileBusy
  | fileTooLarge
  | hostUnreachable
  | interrupted
  | invalidData
  | invalidFilename
  | invalidInput
  | isADirectory
  | networkDown
  | networkUnreachable
  | notADirectory
  | notConnected
  | notFound
  | notSeekable
  | other
  | outOfMemory
  | permissionDenied
  | quotaExceeded
  | readOnlyFilesystem
  | resourceBusy
  | staleNetworkFileHandle
  | storageFull
  | timedOut
  | tooManyLinks
  | unexpectedEof
  | unsupported
  | wouldBlock
  | writeZero
deriving DecidableEq, Repr

namespace IoKind

/-- Every kind, in the order of their names. -/
def all : List IoKind :=
  [.addrInUse, .addrNotAvailable, .alreadyExists, .argumentListTooLong, .brokenPipe,
   .connectionAborted, .connectionRefused, .connectionReset, .crossesDevices, .deadlock,
   .directoryNotEmpty, .executableFileBusy, .fileTooLarge, .hostUnreachable, .interrupted,
   .invalidData, .invalidFilename, .invalidInput, .isADirectory, .networkDown,
   .networkUnreachable, .notADirectory, .notConnected, .notFound, .notSeekable, .other,
   .outOfMemory, .permissionDenied, .quotaExceeded, .readOnlyFilesystem, .resourceBusy,
   .staleNetworkFileHandle, .storageFull, .timedOut, .tooManyLinks, .unexpectedEof,
   .unsupported, .wouldBlock, .writeZero]

/-- The name of a kind. -/
def name : IoKind → String
  | .addrInUse => "AddrInUse"
  | .addrNotAvailable => "AddrNotAvailable"
  | .alreadyExists => "AlreadyExists"
  | .argumentListTooLong => "ArgumentListTooLong"
  | .brokenPipe => "BrokenPipe"
  | .connectionAborted => "ConnectionAborted"
  | .connectionRefused => "ConnectionRefused"
  | .connectionReset => "ConnectionReset"
  | .crossesDevices => "CrossesDevices"
  | .deadlock => "Deadlock"
  | .directoryNotEmpty => "DirectoryNotEmpty"
  | .executableFileBusy => "ExecutableFileBusy"
  | .fileTooLarge => "FileTooLarge"
  | .hostUnreachable => "HostUnreachable"
  | .interrupted => "Interrupted"
  | .invalidData => "InvalidData"
  | .invalidFilename => "InvalidFilename"
  | .invalidInput => "InvalidInput"
  | .isADirectory => "IsADirectory"
  | .networkDown => "NetworkDown"
  | .networkUnreachable => "NetworkUnreachable"
  | .notADirectory => "NotADirectory"
  | .notConnected => "NotConnected"
  | .notFound => "NotFound"
  | .notSeekable => "NotSeekable"
  | .other => "Other"
  | .outOfMemory => "OutOfMemory"
  | .permissionDenied => "PermissionDenied"
  | .quotaExceeded => "QuotaExceeded"
  | .readOnlyFilesystem => "ReadOnlyFilesystem"
  | .resourceBusy => "ResourceBusy"
  | .staleNetworkFileHandle => "StaleNetworkFileHandle"
  | .storageFull => "StorageFull"
  | .timedOut => "TimedOut"
  | .tooManyLinks => "TooManyLinks"
  | .unexpectedEof => "UnexpectedEof"
  | .unsupported => "Unsupported"
  | .wouldBlock => "WouldBlock"
  | .writeZero => "WriteZero"

/-- What a failure of this kind says when it carries no text of its own. -/
def description : IoKind → String
  | .addrInUse => "address in use"
  | .addrNotAvailable => "address not available"
  | .alreadyExists => "entity already exists"
  | .argumentListTooLong => "argument list too long"
  | .brokenPipe => "broken pipe"
  | .connectionAborted => "connection aborted"
  | .connectionRefused => "connection refused"
  | .connectionReset => "connection reset"
  | .crossesDevices => "cross-device link or rename"
  | .deadlock => "deadlock"
  | .directoryNotEmpty => "directory not empty"
  | .executableFileBusy => "executable file busy"
  | .fileTooLarge => "file too large"
  | .hostUnreachable => "host unreachable"
  | .interrupted => "operation interrupted"
  | .invalidData => "invalid data"
  | .invalidFilename => "invalid filename"
  | .invalidInput => "invalid input parameter"
  | .isADirectory => "is a directory"
  | .networkDown => "network down"
  | .networkUnreachable => "network unreachable"
  | .notADirectory => "not a directory"
  | .notConnected => "not connected"
  | .notFound => "entity not found"
  | .notSeekable => "seek on unseekable file"
  | .other => "other error"
  | .outOfMemory => "out of memory"
  | .permissionDenied => "permission denied"
  | .quotaExceeded => "quota exceeded"
  | .readOnlyFilesystem => "read-only filesystem or storage medium"
  | .resourceBusy => "resource busy"
  | .staleNetworkFileHandle => "stale network file handle"
  | .storageFull => "no storage space"
  | .timedOut => "timed out"
  | .tooManyLinks => "too many links"
  | .unexpectedEof => "unexpected end of file"
  | .unsupported => "unsupported"
  | .wouldBlock => "operation would block"
  | .writeZero => "write zero"

/-- The kind that has a given name. -/
def ofName? (name : String) : Option IoKind :=
  all.find? fun kind => kind.name = name

@[simp] theorem ofName?_name (kind : IoKind) : ofName? kind.name = some kind := by
  cases kind <;> rfl

end IoKind

/-- A failure of input or output. It has no text of its own where the operating system words it. -/
structure IoError where
  kind : IoKind
  text : Option String
deriving DecidableEq, Repr

namespace IoError

/-- A failure that says what its kind says. -/
def ofKind (kind : IoKind) : IoError :=
  ⟨kind, some kind.description⟩

/-- A failure with a text. -/
def withText (kind : IoKind) (text : String) : IoError :=
  ⟨kind, some text⟩

/-- A failure that the operating system reports in its own words. -/
def ofSystem (kind : IoKind) : IoError :=
  ⟨kind, none⟩

end IoError

/-! ### Failures of the store -/

/-- Why an operation of a store or a cache failed. -/
inductive StoreError where
  /-- Something that was required is absent. -/
  | notFound (id : String)
  /-- A stream or a blob could not be read or written. -/
  | io (error : IoError)
  /-- The backend of the descriptors failed; it may keep its words to itself. -/
  | backend (text : Option String)
  /-- The producer of a deferred instance failed, for the reason given. -/
  | producer (source : StoreError)
  /-- The request itself makes no sense. -/
  | invalid (reason : String)
deriving DecidableEq, Repr

/-- The causes a caller tells apart. -/
inductive ErrorKind where
  | notFound
  | io
  | backend
  | producer
  | invalid
deriving DecidableEq, Repr

/-- The name under which a kind of failure is reported. -/
def ErrorKind.name : ErrorKind → String
  | .notFound => "NotFound"
  | .io => "IOError"
  | .backend => "BackendError"
  | .producer => "ProducerError"
  | .invalid => "Invalid"

namespace StoreError

/-- The cause in the coarse sense. -/
def kind : StoreError → ErrorKind
  | .notFound _ => .notFound
  | .io _ => .io
  | .backend _ => .backend
  | .producer _ => .producer
  | .invalid _ => .invalid

/-- Whether something required was absent. -/
def isNotFound : StoreError → Bool
  | .notFound _ => true
  | _ => false

/-- What the producer of a deferred instance failed with. -/
def producerSource : StoreError → Option StoreError
  | .producer source => some source
  | _ => none

/-- The text of a failure; none where somebody else words it. -/
def message : StoreError → Option String
  | .notFound id => some ("Content not found: " ++ id)
  | .io error => error.text.map ("I/O error: " ++ ·)
  | .backend text => text.map ("Descriptor backend error: " ++ ·)
  | .producer source => source.message.map ("Deferred producer failed: " ++ ·)
  | .invalid reason => some ("Invalid request: " ++ reason)

/-- The texts of the failures below this one, the nearest first. -/
def sources : StoreError → List (Option String)
  | .io error => [error.text]
  | .backend text => [text]
  | .producer source => source.message :: source.sources
  | .notFound _ => []
  | .invalid _ => []

/-- A failure wrapped in a number of producers. -/
def wrapped (error : StoreError) : Nat → StoreError
  | 0 => error
  | depth + 1 => .producer (error.wrapped depth)

end StoreError

end AssetCache
