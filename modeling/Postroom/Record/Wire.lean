import Postroom.Text.Utf8

/-!
The wire form of records. Numbers are little endian with a variable width: up to 250 they are one
byte, beyond that a marker byte announces two, four or eight. Texts and sequences are preceded by
their length. A reader takes what it needs off the front and leaves the rest.
-/

namespace Postroom.Wire

/-- What a reader found, and what it left. -/
abbrev Reader (α : Type) := List UInt8 → Option (α × List UInt8)

/-- The `width` low bytes of `n`, the least significant first. -/
def littleEndian : Nat → Nat → List UInt8
  | 0, _ => []
  | width + 1, n => UInt8.ofNat n :: littleEndian width (n / 256)

def ofLittleEndian : List UInt8 → Nat
  | [] => 0
  | b :: rest => b.toNat + 256 * ofLittleEndian rest

/-- Write a number of 64 bits. -/
def writeNat (n : Nat) : List UInt8 :=
  if n < 251 then [UInt8.ofNat n]
  else if n < UInt16.size then 251 :: littleEndian 2 n
  else if n < UInt32.size then 252 :: littleEndian 4 n
  else 253 :: littleEndian 8 n

def takeBytes (count : Nat) : Reader (List UInt8) := fun bytes =>
  if count ≤ bytes.length then some (bytes.take count, bytes.drop count) else none

def readFixed (width : Nat) : Reader Nat := fun bytes => do
  let (digits, rest) ← takeBytes width bytes
  return (ofLittleEndian digits, rest)

/-- Read a number of at most `width` bytes. Forms wider than needed are accepted. -/
def readNat (width : Nat) : Reader Nat
  | [] => none
  | b :: rest =>
      if b < 251 then some (b.toNat, rest)
      else if b = 251 then readFixed 2 rest
      else if b = 252 ∧ 4 ≤ width then readFixed 4 rest
      else if b = 253 ∧ 8 ≤ width then readFixed 8 rest
      else none

def readLength : Reader Nat := readNat 8

/-- Fold the sign into the lowest bit. -/
def zigzag (i : Int64) : Nat :=
  if 0 ≤ i.toInt then (2 * i.toInt).toNat else (-2 * i.toInt - 1).toNat

def unzigzag (n : Nat) : Int64 :=
  if n % 2 = 0 then Int64.ofInt (n / 2) else Int64.ofInt (-(n / 2) - 1)

def writeInt64 (i : Int64) : List UInt8 :=
  writeNat (zigzag i)

def readInt64 : Reader Int64 := fun bytes => do
  let (n, rest) ← readNat 8 bytes
  return (unzigzag n, rest)

def writeBool (b : Bool) : List UInt8 :=
  [if b then 1 else 0]

def readBool : Reader Bool
  | [] => none
  | b :: rest => if b = 0 then some (false, rest) else if b = 1 then some (true, rest) else none

def writeBytes (bytes : List UInt8) : List UInt8 :=
  writeNat bytes.length ++ bytes

def readBytes : Reader (List UInt8) := fun bytes => do
  let (count, rest) ← readLength bytes
  takeBytes count rest

def writeText (s : String) : List UInt8 :=
  writeBytes (Text.toBytes s)

/-- Read a text, which must be valid UTF-8. -/
def readText : Reader String := fun bytes => do
  let (raw, rest) ← readBytes bytes
  return (← Text.ofBytes? raw, rest)

def writeOption {α : Type} (write : α → List UInt8) : Option α → List UInt8
  | none => [0]
  | some a => 1 :: write a

def readOption {α : Type} (read : Reader α) : Reader (Option α)
  | [] => none
  | b :: rest =>
      if b = 0 then some (none, rest)
      else if b = 1 then (read rest).map fun (a, rest) => (some a, rest)
      else none

def writeList {α : Type} (write : α → List UInt8) (items : List α) : List UInt8 :=
  writeNat items.length ++ items.flatMap write

/-- Read `count` items in a row. -/
def readMany {α : Type} (read : Reader α) : Nat → Reader (List α)
  | 0, bytes => some ([], bytes)
  | count + 1, bytes => do
      let (a, rest) ← read bytes
      let (items, rest) ← readMany read count rest
      return (a :: items, rest)

def readList {α : Type} (read : Reader α) : Reader (List α) := fun bytes => do
  let (count, rest) ← readLength bytes
  readMany read count rest

end Postroom.Wire
