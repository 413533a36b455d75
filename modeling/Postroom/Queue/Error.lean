import Postroom.Disk
import Postroom.Record.Key

/-!
What can go wrong with a queue and its store. Only failures of input and output are transient; a
record that cannot be read back stays so.
-/

namespace Postroom

/-- Faults of a queue directory. -/
inductive QueuePathError where
  | parentComponent (path : Path)
  | notAbsolute (path : Path)
  | systemDirectory (ancestor path : Path)
  | notDirectory (path : Path)
  deriving DecidableEq

def QueuePathError.message : QueuePathError → String
  | .parentComponent path => "Queue path cannot contain '..' components: " ++ path.text
  | .notAbsolute path => "Queue path must be absolute: " ++ path.text
  | .systemDirectory ancestor path =>
      "Queue path cannot be in system directory " ++ ancestor.text ++ ": " ++ path.text
  | .notDirectory path => "Queue path is not a directory: " ++ path.text

/-- Why a record is no mail. -/
inductive RecordFault where
  /-- The object record holds another mail than its key says. -/
  | foreign (id : MailId)
  | missing (part : RecordPart)
  deriving DecidableEq

def RecordFault.message : RecordFault → String
  | .foreign id => "object record holds mail " ++ id.text
  | .missing part => "missing ." ++ part.extension ++ " record"

inductive InternalFault where
  | capacityExceeded (held capacity : Nat)
  | writesTimedOut
  deriving DecidableEq

def InternalFault.message : InternalFault → String
  | .capacityExceeded held capacity =>
      "Memory queue capacity exceeded: " ++ toString held ++ "/" ++ toString capacity ++ " records"
  | .writesTimedOut => "Timeout waiting for writes: deadline has elapsed"

/-- Which way a mail could not be turned into a record or back. -/
inductive CodecFault where
  | encode
  | decode
  deriving DecidableEq

def CodecFault.message : CodecFault → String
  | .encode => "Bincode encode error: OtherString(\"SystemTime must be later than UNIX_EPOCH\")"
  | .decode => "Bincode decode error"

inductive QueueError where
  | io (e : IoError)
  | serialization (fault : CodecFault)
  | corrupt (key : RecordKey) (fault : RecordFault)
  | notFound (id : MailId)
  | validation (e : QueuePathError)
  | closed
  | internal (fault : InternalFault)
  deriving DecidableEq

namespace QueueError

def message : QueueError → String
  | .io e => "I/O error: " ++ e.message
  | .serialization fault => "Serialization error: " ++ fault.message
  | .corrupt key fault => "Corrupt record " ++ key.stem ++ ": " ++ fault.message
  | .notFound id => "Mail not found: " ++ id.text
  | .validation e => "Queue validation error: " ++ e.message
  | .closed => "Queue is closed"
  | .internal fault => "Internal error: " ++ fault.message

/-- The name of the kind of failure, for reports. -/
def kind : QueueError → String
  | .io _ => "Io"
  | .serialization _ => "Serialization"
  | .corrupt _ _ => "Corrupt"
  | .notFound _ => "NotFound"
  | .validation _ => "Validation"
  | .closed => "Closed"
  | .internal _ => "Internal"

/-- A transient failure may go away if the caller tries again. -/
def isTransient : QueueError → Bool
  | .io _ => true
  | _ => false

end QueueError

end Postroom
