import Postroom.Store

/-!
Records in memory, with an optional limit on the number of pairs. The object half is kept encoded,
so a mail that is read back is one that went through the wire form. Overwriting a pair needs no
room.
-/

namespace Postroom

structure StoredRecord where
  object : List UInt8
  content : Content
  deriving DecidableEq

structure Memory where
  records : Std.ExtTreeMap RecordKey StoredRecord
  capacity : Option Nat

namespace Memory

def empty (capacity : Option Nat) : Memory := ⟨∅, capacity⟩

def size (memory : Memory) : Nat :=
  memory.records.size

/-- The failure of writing one more pair, if that would exceed the limit. -/
def overflow? (memory : Memory) (key : RecordKey) : Option QueueError :=
  match memory.capacity with
  | none => none
  | some capacity =>
      if !memory.records.contains key && capacity ≤ memory.size then
        some (.internal (.capacityExceeded memory.size capacity))
      else none

def write (key : RecordKey) (mail : Mail) (memory : Memory) : Answer Memory Unit :=
  match Record.encode mail, memory.overflow? key with
  | .error e, _ => (.error e, memory)
  | .ok _, some e => (.error e, memory)
  | .ok object, none =>
      (.ok (), { memory with records := memory.records.insert key ⟨object, mail.content⟩ })

/-- The mail under a key. Reading changes nothing. -/
def find (memory : Memory) (key : RecordKey) : Except QueueError Mail :=
  match memory.records[key]? with
  | none => .error (.notFound key.id)
  | some record => Record.decode key record.object record.content

def read (key : RecordKey) (memory : Memory) : Answer Memory Mail :=
  (memory.find key, memory)

def delete (key : RecordKey) (memory : Memory) : Answer Memory Unit :=
  if memory.records.contains key then
    (.ok (), { memory with records := memory.records.erase key })
  else (.error (.notFound key.id), memory)

def clear (memory : Memory) : Memory :=
  { memory with records := ∅ }

def list (memory : Memory) : Answer Memory (List RecordKey) :=
  (.ok memory.records.keys, memory)

/-- Records that cannot be read are removed, as there is no place to put them aside. -/
def store : RecordStore Memory where
  write
  read
  delete
  quarantine := delete
  list

end Memory

end Postroom
