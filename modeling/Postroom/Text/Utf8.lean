import Postroom.Text.Decoding

/-!
Bytes and the text they spell. Strict decoding is that of the core library; the lossy one puts
the replacement character in the place of each maximal piece that no valid sequence continues.
-/

namespace Postroom.Text

def toBytes (s : String) : List UInt8 :=
  s.toUTF8.data.toList

/-- The text spelled by `bytes`, if they are valid UTF-8. -/
def ofBytes? (bytes : List UInt8) : Option String :=
  String.fromUTF8? ⟨bytes.toArray⟩

/-- Latin-1: every byte is the character with that number. -/
def ofLatin1 (bytes : List UInt8) : String :=
  String.ofList (bytes.map fun b => Char.ofNat b.toNat)

private def isTail (b : UInt8) : Bool :=
  0x80 ≤ b && b ≤ 0xBF

/-- How many bytes follow a first byte, and the range of the second byte. -/
private def leadClass (b : UInt8) : Option (Nat × UInt8 × UInt8) :=
  if 0xC2 ≤ b && b ≤ 0xDF then some (1, 0x80, 0xBF)
  else if b == 0xE0 then some (2, 0xA0, 0xBF)
  else if b == 0xED then some (2, 0x80, 0x9F)
  else if 0xE1 ≤ b && b ≤ 0xEF then some (2, 0x80, 0xBF)
  else if b == 0xF0 then some (3, 0x90, 0xBF)
  else if b == 0xF4 then some (3, 0x80, 0x8F)
  else if 0xF1 ≤ b && b ≤ 0xF3 then some (3, 0x80, 0xBF)
  else none

/-- Decode one character and count the bytes it takes beyond the first. A faulty sequence takes
the bytes that a valid one could have begun with. -/
private def decodeStep (b : UInt8) (rest : List UInt8) : List Char × Nat :=
  if b < 0x80 then ([Char.ofNat b.toNat], 0)
  else match leadClass b with
    | none => ([replacement], 0)
    | some (tails, low, high) =>
        match rest with
        | [] => ([replacement], 0)
        | second :: more =>
            if !(low ≤ second && second ≤ high) then ([replacement], 0)
            else
              let found := 1 + ((more.take (tails - 1)).takeWhile isTail).length
              if found < tails then ([replacement], found)
              else
                let lead := b.toNat % (64 >>> tails)
                let code := (rest.take tails).foldl (fun n t => n * 64 + t.toNat % 64) lead
                ([Char.ofNat code], tails)

def decodeLossy (bytes : List UInt8) : List Char :=
  decodeBy decodeStep bytes

/-- The text spelled by `bytes`, with faulty sequences replaced. -/
def ofBytesLossy (bytes : List UInt8) : String :=
  String.ofList (decodeLossy bytes)

end Postroom.Text
