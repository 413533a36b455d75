import Postroom.Disk
import Postroom.Queue.Error
import Postroom.Record.Codec

/-!
What a queue asks of the place where its records are kept. A store is a value of some type, and
every operation answers with a result and the store afterwards; nothing is said about which of them
may fail. A record is put aside when it can never be read back.
-/

namespace Postroom

/-- The answer of a store operation and the store after it. -/
abbrev Answer (σ α : Type) := Except QueueError α × σ

structure RecordStore (σ : Type) where
  write : RecordKey → Mail → σ → Answer σ Unit
  read : RecordKey → σ → Answer σ Mail
  delete : RecordKey → σ → Answer σ Unit
  quarantine : RecordKey → σ → Answer σ Unit
  /-- The keys of every complete record pair, in order. -/
  list : σ → Answer σ (List RecordKey)
  /-- The disk that the records are on, if they are on one that others use too. -/
  disk? : σ → Option Disk := fun _ => none
  /-- The store on the disk as others left it. -/
  onDisk : Disk → σ → σ := fun _ records => records

end Postroom
