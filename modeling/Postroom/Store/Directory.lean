import Postroom.Store

/-!
Records in a directory: one file for the object and one for the content of each pair, named by its
key. A file is filled under a temporary name and renamed into place, the content first; a pair is
removed by renaming the object away first. So a pair that looks complete is complete, wherever a
sequence of steps was cut off, and `prepare` sweeps up what is left of the others.
-/

namespace Postroom

structure QueueDirectory where
  path : Path
  /-- Whether every file is flushed before it gets its name. -/
  sync : Bool := true
  deriving DecidableEq

/-- One step on the disk, which happens as a whole or not at all. -/
inductive DiskStep where
  | fill (names : List String) (bytes : List UInt8)
  | rename (source target : List String)
  | remove (names : List String)
  deriving DecidableEq

namespace DiskStep

def apply (disk : Disk) : DiskStep → Except IoError Disk
  | .fill names bytes => disk.fill names bytes
  | .rename source target => disk.rename source target
  | .remove names => disk.remove names

/-- Take steps in order up to the first that fails. -/
def run (disk : Disk) : List DiskStep → Except IoError Unit × Disk
  | [] => (.ok (), disk)
  | step :: rest =>
      match step.apply disk with
      | .error e => (.error e, disk)
      | .ok disk => run disk rest

end DiskStep

namespace QueueDirectory

/-- Directories that no queue may live in. -/
def systemDirectories : List Path :=
  ["/etc", "/bin", "/sbin", "/usr/bin", "/usr/sbin", "/boot", "/sys", "/proc", "/dev"].map Path.mk

def validate (path : Path) : Except QueuePathError Unit :=
  if path.components.contains ".." then .error (.parentComponent path)
  else if !path.isAbsolute then .error (.notAbsolute path)
  else match systemDirectories.find? path.isWithin with
    | some ancestor => .error (.systemDirectory ancestor path)
    | none => .ok ()

/-- The directory at a path that may hold a queue. -/
def make (path : Path) (sync : Bool) : Except QueuePathError QueueDirectory := do
  validate path
  return ⟨path, sync⟩

/-- Where a queue lives unless told otherwise. -/
def standard : QueueDirectory := ⟨⟨"/var/spool/mailflow"⟩, true⟩

/-- The file with a given name. -/
def file (directory : QueueDirectory) (name : String) : List String :=
  directory.path.components ++ [name]

def temporaryMark : String := ".tmp_"

def deletedMark : String := ".deleted"

def corruptMark : String := ".corrupt"

def isTemporary (name : String) : Bool :=
  temporaryMark.toList.isPrefixOf name.toList

def isDeleted (name : String) : Bool :=
  deletedMark.toList.isSuffixOf name.toList

/-- Turn a failure of the disk into one of the queue. -/
def liftIo {α : Type} : Except IoError α → Except QueueError α
  | .ok a => .ok a
  | .error e => .error (.io e)

def liftRun (outcome : Except IoError Unit × Disk) : Answer Disk Unit :=
  (liftIo outcome.1, outcome.2)

/-- Give `bytes` the name `name`, by way of a temporary one. -/
def placeSteps (directory : QueueDirectory) (name : String) (bytes : List UInt8) :
    List DiskStep :=
  [.fill (directory.file (temporaryMark ++ name)) bytes,
   .rename (directory.file (temporaryMark ++ name)) (directory.file name)]

def writeSteps (directory : QueueDirectory) (key : RecordKey) (object content : List UInt8) :
    List DiskStep :=
  directory.placeSteps (key.fileName .content) content ++
    directory.placeSteps (key.fileName .object) object

def write (directory : QueueDirectory) (key : RecordKey) (mail : Mail) (disk : Disk) :
    Answer Disk Unit :=
  match Record.encode mail with
  | .error e => (.error e, disk)
  | .ok object =>
      liftRun (DiskStep.run disk (directory.writeSteps key object mail.content.bytes))

def readPart (directory : QueueDirectory) (disk : Disk) (key : RecordKey) (part : RecordPart) :
    Except QueueError (List UInt8) :=
  match disk.read (directory.file (key.fileName part)) with
  | .ok bytes => .ok bytes
  | .error .noEntry => .error (.corrupt key (.missing part))
  | .error e => .error (.io e)

/-- The mail under a key, the object record being looked at first. -/
def find (directory : QueueDirectory) (disk : Disk) (key : RecordKey) :
    Except QueueError Mail := do
  let object ← directory.readPart disk key .object
  let content ← directory.readPart disk key .content
  Record.decode key object ⟨content⟩

def read (directory : QueueDirectory) (key : RecordKey) (disk : Disk) : Answer Disk Mail :=
  (directory.find disk key, disk)

/-- Rename both files away, the object first, then remove them. -/
def deleteSteps (directory : QueueDirectory) (key : RecordKey) : List DiskStep :=
  let object := key.fileName .object
  let content := key.fileName .content
  [.rename (directory.file object) (directory.file (object ++ deletedMark)),
   .rename (directory.file content) (directory.file (content ++ deletedMark)),
   .remove (directory.file (object ++ deletedMark)),
   .remove (directory.file (content ++ deletedMark))]

def delete (directory : QueueDirectory) (key : RecordKey) (disk : Disk) : Answer Disk Unit :=
  liftRun (DiskStep.run disk (directory.deleteSteps key))

def putAside (directory : QueueDirectory) (disk : Disk) (name : String) :
    Except IoError Disk :=
  match disk.rename (directory.file name) (directory.file (name ++ corruptMark)) with
  | .error .noEntry => .ok disk
  | outcome => outcome

/-- Rename what there is of a pair, so that it is kept but no longer listed. -/
def quarantine (directory : QueueDirectory) (key : RecordKey) (disk : Disk) : Answer Disk Unit :=
  match directory.putAside disk (key.fileName .object) with
  | .error e => (.error (.io e), disk)
  | .ok disk =>
      match directory.putAside disk (key.fileName .content) with
      | .error e => (.error (.io e), disk)
      | .ok disk => (.ok (), disk)

/-- The keys that have a file of the given part among `names`. -/
def keysOf (names : List String) (part : RecordPart) : List RecordKey :=
  names.filterMap fun name =>
    if isTemporary name then none
    else match RecordKey.ofFileName? name with
      | some (key, found) => if found = part then some key else none
      | none => none

/-- The keys that have both files among `names`, in order. -/
def pairsOf (names : List String) : List RecordKey :=
  let contents := keysOf names .content
  (Std.ExtTreeSet.ofList ((keysOf names .object).filter contents.contains)).toList

def list (directory : QueueDirectory) (disk : Disk) : Answer Disk (List RecordKey) :=
  (liftIo ((disk.list directory.path.components).map pairsOf), disk)

def store (directory : QueueDirectory) : RecordStore Disk where
  write := directory.write
  read := directory.read
  delete := directory.delete
  quarantine := directory.quarantine
  list := directory.list
  disk? := some
  onDisk disk _ := disk

/-- Remove the leftovers of writes and deletions that were cut off. -/
def sweep (directory : QueueDirectory) (disk : Disk) : Answer Disk Unit :=
  match disk.list directory.path.components with
  | .error e => (.error (.io e), disk)
  | .ok names =>
      let leftovers := names.filter fun name => isTemporary name || isDeleted name
      liftRun (DiskStep.run disk (leftovers.map fun name => .remove (directory.file name)))

/-- Create the directory if it is missing and sweep it. -/
def prepare (directory : QueueDirectory) (disk : Disk) : Answer Disk Unit :=
  match disk.present directory.path with
  | .error e => (.error (.io e), disk)
  | .ok false =>
      match disk.makeDirectories directory.path with
      | (.error e, disk) => (.error (.io e), disk)
      | (.ok (), disk) => directory.sweep disk
  | .ok true =>
      if disk.isDirectory directory.path.components then directory.sweep disk
      else (.error (.validation (.notDirectory directory.path)), disk)

end QueueDirectory

end Postroom
