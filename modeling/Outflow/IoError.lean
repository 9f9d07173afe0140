import Outflow.Text.Quoted

/-!
# Input and output errors

What the operating system, or a layer above it, reports when an operation fails: a kind,
which callers branch on, and a message, which is shown.  An error that came as a number from
the operating system has the kind and the text of that number.
-/

namespace Outflow

/-- What sort of failure it was. -/
inductive IoErrorKind where
  | notFound | permissionDenied | connectionRefused | connectionReset | connectionAborted
  | notConnected | addrInUse | addrNotAvailable | brokenPipe | alreadyExists | wouldBlock
  | invalidInput | invalidData | timedOut | writeZero | interrupted | unsupported | unexpectedEof
  | outOfMemory | other | notADirectory | isADirectory | directoryNotEmpty | storageFull
  | executableFileBusy | argumentListTooLong | resourceBusy | deadlock | inputOutputError
  | invalidFilename | filesystemLoop | hostUnreachable | networkUnreachable | networkDown
  | readOnlyFilesystem | staleFileHandle | quotaExceeded | fileTooLarge | crossesDevices
  | tooManyLinks | notSeekable | inProgress | uncategorized
  deriving DecidableEq, Repr

namespace IoErrorKind

/-- The name of a kind. -/
def name : IoErrorKind → String
  | notFound => "NotFound"
  | permissionDenied => "PermissionDenied"
  | connectionRefused => "ConnectionRefused"
  | connectionReset => "ConnectionReset"
  | connectionAborted => "ConnectionAborted"
  | notConnected => "NotConnected"
  | addrInUse => "AddrInUse"
  | addrNotAvailable => "AddrNotAvailable"
  | brokenPipe => "BrokenPipe"
  | alreadyExists => "AlreadyExists"
  | wouldBlock => "WouldBlock"
  | invalidInput => "InvalidInput"
  | invalidData => "InvalidData"
  | timedOut => "TimedOut"
  | writeZero => "WriteZero"
  | interrupted => "Interrupted"
  | unsupported => "Unsupported"
  | unexpectedEof => "UnexpectedEof"
  | outOfMemory => "OutOfMemory"
  | other => "Other"
  | notADirectory => "NotADirectory"
  | isADirectory => "IsADirectory"
  | directoryNotEmpty => "DirectoryNotEmpty"
  | storageFull => "StorageFull"
  | executableFileBusy => "ExecutableFileBusy"
  | argumentListTooLong => "ArgumentListTooLong"
  | resourceBusy => "ResourceBusy"
  | deadlock => "Deadlock"
  | inputOutputError => "InputOutputError"
  | invalidFilename => "InvalidFilename"
  | filesystemLoop => "FilesystemLoop"
  | hostUnreachable => "HostUnreachable"
  | networkUnreachable => "NetworkUnreachable"
  | networkDown => "NetworkDown"
  | readOnlyFilesystem => "ReadOnlyFilesystem"
  | staleFileHandle => "StaleNetworkFileHandle"
  | quotaExceeded => "QuotaExceeded"
  | fileTooLarge => "FileTooLarge"
  | crossesDevices => "CrossesDevices"
  | tooManyLinks => "TooManyLinks"
  | notSeekable => "NotSeekable"
  | inProgress => "InProgress"
  | uncategorized => "Uncategorized"

/-- What is shown for an error of which only the kind is known. -/
def description : IoErrorKind → String
  | notFound => "entity not found"
  | permissionDenied => "permission denied"
  | connectionRefused => "connection refused"
  | connectionReset => "connection reset"
  | connectionAborted => "connection aborted"
  | notConnected => "not connected"
  | addrInUse => "address in use"
  | addrNotAvailable => "address not available"
  | brokenPipe => "broken pipe"
  | alreadyExists => "entity already exists"
  | wouldBlock => "operation would block"
  | invalidInput => "invalid input parameter"
  | invalidData => "invalid data"
  | timedOut => "timed out"
  | writeZero => "write zero"
  | interrupted => "operation interrupted"
  | unsupported => "unsupported"
  | unexpectedEof => "unexpected end of file"
  | outOfMemory => "out of memory"
  | other => "other error"
  | notADirectory => "not a directory"
  | isADirectory => "is a directory"
  | directoryNotEmpty => "directory not empty"
  | storageFull => "no storage space"
  | executableFileBusy => "executable file busy"
  | argumentListTooLong => "argument list too long"
  | resourceBusy => "resource busy"
  | deadlock => "deadlock"
  | inputOutputError => "input/output error"
  | invalidFilename => "invalid filename"
  | filesystemLoop => "filesystem loop or indirection limit (e.g. symlink loop)"
  | hostUnreachable => "host unreachable"
  | networkUnreachable => "network unreachable"
  | networkDown => "network down"
  | readOnlyFilesystem => "read-only filesystem or storage medium"
  | staleFileHandle => "stale network file handle"
  | quotaExceeded => "quota exceeded"
  | fileTooLarge => "file too large"
  | crossesDevices => "cross-device link or rename"
  | tooManyLinks => "too many links"
  | notSeekable => "seek on unseekable file"
  | inProgress => "in progress"
  | uncategorized => "uncategorized error"

/-- Every kind. -/
def all : List IoErrorKind :=
  [notFound, permissionDenied, connectionRefused, connectionReset, connectionAborted, notConnected,
   addrInUse, addrNotAvailable, brokenPipe, alreadyExists, wouldBlock, invalidInput, invalidData,
   timedOut, writeZero, interrupted, unsupported, unexpectedEof, outOfMemory, other, notADirectory,
   isADirectory, directoryNotEmpty, storageFull, executableFileBusy, argumentListTooLong,
   resourceBusy, deadlock, inputOutputError, invalidFilename, filesystemLoop, hostUnreachable,
   networkUnreachable, networkDown, readOnlyFilesystem, staleFileHandle, quotaExceeded,
   fileTooLarge, crossesDevices, tooManyLinks, notSeekable, inProgress, uncategorized]

/-- The kind of a name. -/
def ofName? (s : String) : Option IoErrorKind := all.find? (·.name = s)

/-- Every kind can be looked up by its name. -/
theorem ofName?_name (k : IoErrorKind) : ofName? k.name = some k := by
  cases k <;> decide

end IoErrorKind

/-- The texts of the error numbers of the operating system, from number one on. -/
def errnoTexts : List String :=
  ["Operation not permitted", "No such file or directory", "No such process",
   "Interrupted system call", "Input/output error", "No such device or address",
   "Argument list too long", "Exec format error", "Bad file descriptor", "No child processes",
   "Resource temporarily unavailable", "Cannot allocate memory", "Permission denied",
   "Bad address", "Block device required", "Device or resource busy", "File exists",
   "Invalid cross-device link", "No such device", "Not a directory", "Is a directory",
   "Invalid argument", "Too many open files in system", "Too many open files",
   "Inappropriate ioctl for device", "Text file busy", "File too large", "No space left on device",
   "Illegal seek", "Read-only file system", "Too many links", "Broken pipe",
   "Numerical argument out of domain", "Numerical result out of range",
   "Resource deadlock avoided", "File name too long", "No locks available",
   "Function not implemented", "Directory not empty", "Too many levels of symbolic links",
   "Unknown error 41", "No message of desired type", "Identifier removed",
   "Channel number out of range", "Level 2 not synchronized", "Level 3 halted", "Level 3 reset",
   "Link number out of range", "Protocol driver not attached", "No CSI structure available",
   "Level 2 halted", "Invalid exchange", "Invalid request descriptor", "Exchange full", "No anode",
   "Invalid request code", "Invalid slot", "Unknown error 58", "Bad font file format",
   "Device not a stream", "No data available", "Timer expired", "Out of streams resources",
   "Machine is not on the network", "Package not installed", "Object is remote",
   "Link has been severed", "Advertise error", "Srmount error", "Communication error on send",
   "Protocol error", "Multihop attempted", "RFS specific error", "Bad message",
   "Value too large for defined data type", "Name not unique on network",
   "File descriptor in bad state", "Remote address changed",
   "Can not access a needed shared library", "Accessing a corrupted shared library",
   ".lib section in a.out corrupted", "Attempting to link in too many shared libraries",
   "Cannot exec a shared library directly", "Invalid or incomplete multibyte or wide character",
   "Interrupted system call should be restarted", "Streams pipe error", "Too many users",
   "Socket operation on non-socket", "Destination address required", "Message too long",
   "Protocol wrong type for socket", "Protocol not available", "Protocol not supported",
   "Socket type not supported", "Operation not supported", "Protocol family not supported",
   "Address family not supported by protocol", "Address already in use",
   "Cannot assign requested address", "Network is down", "Network is unreachable",
   "Network dropped connection on reset", "Software caused connection abort",
   "Connection reset by peer", "No buffer space available",
   "Transport endpoint is already connected", "Transport endpoint is not connected",
   "Cannot send after transport endpoint shutdown", "Too many references: cannot splice",
   "Connection timed out", "Connection refused", "Host is down", "No route to host",
   "Operation already in progress", "Operation now in progress", "Stale file handle",
   "Structure needs cleaning", "Not a XENIX named type file", "No XENIX semaphores available",
   "Is a named type file", "Remote I/O error", "Disk quota exceeded", "No medium found",
   "Wrong medium type", "Operation canceled", "Required key not available", "Key has expired",
   "Key has been revoked", "Key was rejected by service", "Owner died", "State not recoverable",
   "Operation not possible due to RF-kill", "Memory page has hardware error"]

/-- The text of an error number. -/
def errnoText (n : Nat) : String :=
  if n = 0 then "Success" else (errnoTexts[n - 1]?).getD s!"Unknown error {n}"

/-- The kind of an error number. -/
def errnoKind : Nat → IoErrorKind
  | 1 => .permissionDenied
  | 2 => .notFound
  | 4 => .interrupted
  | 5 => .inputOutputError
  | 7 => .argumentListTooLong
  | 11 => .wouldBlock
  | 12 => .outOfMemory
  | 13 => .permissionDenied
  | 16 => .resourceBusy
  | 17 => .alreadyExists
  | 18 => .crossesDevices
  | 20 => .notADirectory
  | 21 => .isADirectory
  | 22 => .invalidInput
  | 26 => .executableFileBusy
  | 27 => .fileTooLarge
  | 28 => .storageFull
  | 29 => .notSeekable
  | 30 => .readOnlyFilesystem
  | 31 => .tooManyLinks
  | 32 => .brokenPipe
  | 35 => .deadlock
  | 36 => .invalidFilename
  | 38 => .unsupported
  | 39 => .directoryNotEmpty
  | 40 => .filesystemLoop
  | 95 => .unsupported
  | 98 => .addrInUse
  | 99 => .addrNotAvailable
  | 100 => .networkDown
  | 101 => .networkUnreachable
  | 103 => .connectionAborted
  | 104 => .connectionReset
  | 107 => .notConnected
  | 110 => .timedOut
  | 111 => .connectionRefused
  | 113 => .hostUnreachable
  | 115 => .inProgress
  | 116 => .staleFileHandle
  | 122 => .quotaExceeded
  | _ => .uncategorized

/-- The kind and the text of an error number. -/
def errnoMeaning (n : Nat) : IoErrorKind × String := (errnoKind n, errnoText n)

/-- A failed operation. -/
inductive IoError where
  /-- Only the kind is known. -/
  | plain (kind : IoErrorKind)
  /-- A fixed message of the layer that noticed the failure. -/
  | noted (kind : IoErrorKind) (message : String)
  /-- A message of the caller's own. -/
  | custom (kind : IoErrorKind) (message : String)
  /-- An error number of the operating system. -/
  | os (errno : Nat)
  deriving DecidableEq, Repr

namespace IoError

/-- What sort of failure it was. -/
def kind : IoError → IoErrorKind
  | plain k => k
  | noted k _ => k
  | custom k _ => k
  | os n => (errnoMeaning n).1

/-- What is shown for the failure. -/
def message : IoError → String
  | plain k => k.description
  | noted _ m => m
  | custom _ m => m
  | os n => s!"{(errnoMeaning n).2} (os error {n})"

/-- All that is known of the failure, for the log. -/
def detail : IoError → String
  | plain k => s!"Kind({k.name})"
  | noted k m => s!"Error \x7b kind: {k.name}, message: {Text.quoted m} \x7d"
  | custom k m => s!"Custom \x7b kind: {k.name}, error: {Text.quoted m} \x7d"
  | os n =>
    let (k, text) := errnoMeaning n
    s!"Os \x7b code: {n}, kind: {k.name}, message: {Text.quoted text} \x7d"

/-- A path, or the program at it, does not exist. -/
def noSuchFile : IoError := os 2

/-- A process does not exist. -/
def noSuchProcess : IoError := os 3

/-- The path may not be used in this way. -/
def permissionDenied : IoError := os 13

/-- An argument with a zero octet cannot be handed to the operating system. -/
def nulByte : IoError := noted .invalidInput "nul byte found in provided data"

/-- A file that was to be read as text is not UTF-8. -/
def notText : IoError := noted .invalidData "stream did not contain valid UTF-8"

end IoError

end Outflow
