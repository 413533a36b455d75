import Postroom.Store.Memory

/-!
A memory store whose operations can be made to fail, for rehearsing what a queue does then. Writes
that succeed are counted.
-/

namespace Postroom

/-- The kinds of operation that fail at present. -/
structure Faults where
  writes : Bool := false
  reads : Bool := false
  deletes : Bool := false
  deriving DecidableEq

structure FaultyMemory where
  memory : Memory
  faults : Faults := {}
  /-- Writes that have succeeded. -/
  written : Nat := 0

namespace FaultyMemory

def empty : FaultyMemory := { memory := .empty none }

/-- The failure of an operation that was made to fail. -/
def injected (operation : String) : QueueError :=
  .io (.other ("injected " ++ operation ++ " failure"))

/-- Run an operation of the memory store unless it is to fail. -/
private def guarded {α : Type} (fails : Bool) (operation : String) (run : Memory → Answer Memory α)
    (store : FaultyMemory) : Answer FaultyMemory α :=
  if fails then (.error (injected operation), store)
  else
    let (result, memory) := run store.memory
    (result, { store with memory })

def write (key : RecordKey) (mail : Mail) (store : FaultyMemory) : Answer FaultyMemory Unit :=
  match guarded store.faults.writes "write" (Memory.write key mail) store with
  | (.ok (), store) => (.ok (), { store with written := store.written + 1 })
  | failure => failure

def read (key : RecordKey) (store : FaultyMemory) : Answer FaultyMemory Mail :=
  guarded store.faults.reads "read" (Memory.read key) store

def delete (key : RecordKey) (store : FaultyMemory) : Answer FaultyMemory Unit :=
  guarded store.faults.deletes "delete" (Memory.delete key) store

def quarantine (key : RecordKey) (store : FaultyMemory) : Answer FaultyMemory Unit :=
  guarded store.faults.deletes "quarantine" (Memory.delete key) store

def list (store : FaultyMemory) : Answer FaultyMemory (List RecordKey) :=
  guarded false "list" Memory.list store

def store : RecordStore FaultyMemory where
  write
  read
  delete
  quarantine
  list

/-- Every stored mail in key order, or the first failure of reading one. -/
def mails (store : FaultyMemory) : Except QueueError (List Mail) :=
  store.memory.records.keys.mapM store.memory.find

/-- Wait until so many writes have succeeded. With nobody writing, the wait is over at once. -/
def waitForWrites (store : FaultyMemory) (expected : Nat) : Except QueueError Unit :=
  if expected ≤ store.written then .ok () else .error (.internal .writesTimedOut)

end FaultyMemory

end Postroom
