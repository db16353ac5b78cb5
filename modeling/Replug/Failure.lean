import Replug.Failure.SystemCode
import Replug.Path

/-!
# Failures

What can stop a run, and the input and output faults behind it.  A fault may itself carry a
failure, to any depth, so the two types refer to each other.

`Failure.message` is what a failure says of itself; `Failure.chain` is everything it has to say,
itself first and then its causes.  A fault that carries a failure speaks in that failure's words
and leads on to that failure's causes: the carried failure itself is no member of the chain.
-/

set_option autoImplicit false

namespace Replug

inductive FaultKind where
  | notFound | permissionDenied | connectionRefused | connectionReset | hostUnreachable
  | networkUnreachable | connectionAborted | notConnected | addressInUse | addressNotAvailable
  | networkDown | brokenPipe | alreadyExists | wouldBlock | notDirectory | isDirectory
  | directoryNotEmpty | readOnlyFiles | linksInCircle | staleHandle | invalidInput | invalidData
  | timedOut | writeZero | storageFull | notSeekable | quotaExceeded | fileTooLarge
  | resourceBusy | programBusy | deadlock | crossesDevices | tooManyLinks | invalidName
  | argumentsTooLong | interrupted | unsupported | unexpectedEof | outOfMemory | inProgress
  | other | uncategorized
  deriving DecidableEq, Repr

def FaultKind.text : FaultKind → String
  | .notFound => "entity not found"
  | .permissionDenied => "permission denied"
  | .connectionRefused => "connection refused"
  | .connectionReset => "connection reset"
  | .hostUnreachable => "host unreachable"
  | .networkUnreachable => "network unreachable"
  | .connectionAborted => "connection aborted"
  | .notConnected => "not connected"
  | .addressInUse => "address in use"
  | .addressNotAvailable => "address not available"
  | .networkDown => "network down"
  | .brokenPipe => "broken pipe"
  | .alreadyExists => "entity already exists"
  | .wouldBlock => "operation would block"
  | .notDirectory => "not a directory"
  | .isDirectory => "is a directory"
  | .directoryNotEmpty => "directory not empty"
  | .readOnlyFiles => "read-only filesystem or storage medium"
  | .linksInCircle => "filesystem loop or indirection limit (e.g. symlink loop)"
  | .staleHandle => "stale network file handle"
  | .invalidInput => "invalid input parameter"
  | .invalidData => "invalid data"
  | .timedOut => "timed out"
  | .writeZero => "write zero"
  | .storageFull => "no storage space"
  | .notSeekable => "seek on unseekable file"
  | .quotaExceeded => "quota exceeded"
  | .fileTooLarge => "file too large"
  | .resourceBusy => "resource busy"
  | .programBusy => "executable file busy"
  | .deadlock => "deadlock"
  | .crossesDevices => "cross-device link or rename"
  | .tooManyLinks => "too many links"
  | .invalidName => "invalid filename"
  | .argumentsTooLong => "argument list too long"
  | .interrupted => "operation interrupted"
  | .unsupported => "unsupported"
  | .unexpectedEof => "unexpected end of file"
  | .outOfMemory => "out of memory"
  | .inProgress => "in progress"
  | .other => "other error"
  | .uncategorized => "uncategorized error"

mutual

inductive IoFault where
  /-- A fault that the operating system numbered. -/
  | system (code : SystemCode)
  /-- A fault of which only the kind is known. -/
  | plain (kind : FaultKind)
  | described (kind : FaultKind) (text : String)
  /-- A fault that stands for a failure of this program. -/
  | carrying (kind : FaultKind) (inner : Failure)
  deriving Repr

inductive Failure where
  | interrupted
  /-- The usbip client could not be started or waited for. -/
  | launch (program : Path) (action : String) (cause : IoFault)
  | config (text : String)
  /-- The progress lines could not be written. -/
  | io (cause : IoFault)
  deriving Repr

end

mutual

def IoFault.text : IoFault → String
  | .system code => code.text
  | .plain kind => kind.text
  | .described _ text => text
  | .carrying _ inner => inner.message

/-- What a failure says of itself.  An input or output failure repeats the words of its cause. -/
def Failure.message : Failure → String
  | .interrupted => "Interrupted"
  | .launch program action _ => "Failed to run " ++ action ++ " with " ++ program.display
  | .config text => "Configuration error: " ++ text
  | .io cause => "IO error: " ++ cause.text

end

/-- What a layer puts around a failure that passes it: words, or a failure of its own. -/
inductive Remark where
  | words (text : String)
  | failure (f : Failure)
  deriving Repr

/-- What a remark says.  A failure says only its own message here, and nothing of its causes. -/
def Remark.text : Remark → String
  | .words text => text
  | .failure f => f.message

inductive Link where
  | failure (f : Failure)
  | fault (f : IoFault)
  | remark (r : Remark)
  | words (text : String)
  deriving Repr

def Link.text : Link → String
  | .failure f => f.message
  | .fault f => f.text
  | .remark r => r.text
  | .words text => text

mutual

/-- The causes behind a failure, nearest first. -/
def Failure.causes : Failure → List Link
  | .interrupted => []
  | .launch _ _ cause => .fault cause :: cause.causes
  | .config _ => []
  | .io cause => .fault cause :: cause.causes

/-- The causes behind a fault, nearest first: those of the failure it carries, if it carries one. -/
def IoFault.causes : IoFault → List Link
  | .system _ => []
  | .plain _ => []
  | .described _ _ => []
  | .carrying _ inner => inner.causes

end

namespace Failure

def chain (f : Failure) : List Link := .failure f :: f.causes

def source? (f : Failure) : Option Link := f.causes.head?

def isInterrupt : Failure → Bool
  | .interrupted => true
  | .launch .. | .config _ | .io _ => false

end Failure

def IoFault.chain (f : IoFault) : List Link := .fault f :: f.causes

end Replug
