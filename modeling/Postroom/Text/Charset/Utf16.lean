import Postroom.Text.Decoding

/-!
Decoding of UTF-16 in either byte order. A surrogate without its partner is replaced by itself;
what is left over at the end, be it half a unit or a surrogate with half its partner, is replaced
once.
-/

namespace Postroom.Text

inductive ByteOrder where
  | littleEndian
  | bigEndian

/-- The code unit that two bytes make. -/
def ByteOrder.unit : ByteOrder → UInt8 → UInt8 → Nat
  | .littleEndian, low, high | .bigEndian, high, low => high.toNat * 256 + low.toNat

def isHighSurrogate (unit : Nat) : Bool := 0xD800 ≤ unit && unit ≤ 0xDBFF

def isLowSurrogate (unit : Nat) : Bool := 0xDC00 ≤ unit && unit ≤ 0xDFFF

/-- The code point of a surrogate pair. -/
def pairedCode (high low : Nat) : Nat :=
  0x10000 + (high - 0xD800) * 0x400 + (low - 0xDC00)

private def utf16Step (order : ByteOrder) (first : UInt8) : List UInt8 → List Char × Nat
  | [] => ([replacement], 0)
  | second :: rest =>
      let unit := order.unit first second
      if isHighSurrogate unit then
        match rest with
        | third :: fourth :: _ =>
            let partner := order.unit third fourth
            if isLowSurrogate partner then ([Char.ofNat (pairedCode unit partner)], 3)
            else ([replacement], 1)
        | rest => ([replacement], 1 + rest.length)
      else if isLowSurrogate unit then ([replacement], 1)
      else ([Char.ofNat unit], 1)

def decodeUtf16 (order : ByteOrder) (bytes : List UInt8) : List Char :=
  decodeBy (utf16Step order) bytes

end Postroom.Text
