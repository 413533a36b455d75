import Postroom.Store.Directory
import Postroom.Store.Faulty

/-!
A store of one of the known kinds, chosen when a server is set up.
-/

namespace Postroom

inductive Vault where
  | memory (records : Memory)
  | faulty (records : FaultyMemory)
  | directory (home : QueueDirectory) (disk : Disk)

namespace Vault

/-- Run an operation on whatever store there is. -/
private def through {α : Type} (onMemory : Memory → Answer Memory α)
    (onFaulty : FaultyMemory → Answer FaultyMemory α)
    (onDisk : QueueDirectory → Disk → Answer Disk α) : Vault → Answer Vault α
  | .memory records =>
      let (result, records) := onMemory records
      (result, .memory records)
  | .faulty records =>
      let (result, records) := onFaulty records
      (result, .faulty records)
  | .directory home disk =>
      let (result, disk) := onDisk home disk
      (result, .directory home disk)

def write (key : RecordKey) (mail : Mail) : Vault → Answer Vault Unit :=
  through (Memory.write key mail) (FaultyMemory.write key mail)
    fun home => home.write key mail

def read (key : RecordKey) : Vault → Answer Vault Mail :=
  through (Memory.read key) (FaultyMemory.read key) fun home => home.read key

def delete (key : RecordKey) : Vault → Answer Vault Unit :=
  through (Memory.delete key) (FaultyMemory.delete key) fun home => home.delete key

def quarantine (key : RecordKey) : Vault → Answer Vault Unit :=
  through (Memory.delete key) (FaultyMemory.quarantine key)
    fun home => home.quarantine key

def list : Vault → Answer Vault (List RecordKey) :=
  through Memory.list FaultyMemory.list fun home => home.list

def disk? : Vault → Option Disk
  | .directory _ disk => some disk
  | _ => none

def onDisk (disk : Disk) : Vault → Vault
  | .directory home _ => .directory home disk
  | vault => vault

def store : RecordStore Vault where
  write
  read
  delete
  quarantine
  list
  disk?
  onDisk

/-- Make a store ready for a queue. Only a directory needs to be. -/
def prepare : Vault → Answer Vault Unit :=
  through (fun records => (.ok (), records)) (fun records => (.ok (), records))
    fun home => home.prepare

end Vault

end Postroom
