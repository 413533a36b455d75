import Postroom.Text.Charset.Utf16
import Postroom.Text.TransferCoding

/-!
Decoding of UTF-7: ASCII text in which a plus sign opens a run of base 64 that spells UTF-16 and
that a minus sign may close. A plus sign with a minus sign right behind it stands for itself.
-/

namespace Postroom.Text

/-- The bytes that digits of base 64 make; bits beyond the last whole byte are dropped. -/
private def bytesOfSextets : List Nat → List UInt8
  | a :: b :: c :: d :: rest =>
      UInt8.ofNat (a * 4 + b / 16) :: UInt8.ofNat (b % 16 * 16 + c / 4) ::
        UInt8.ofNat (c % 4 * 64 + d) :: bytesOfSextets rest
  | [a, b, c] => [UInt8.ofNat (a * 4 + b / 16), UInt8.ofNat (b % 16 * 16 + c / 4)]
  | [a, b] => [UInt8.ofNat (a * 4 + b / 16)]
  | [_] | [] => []

/-- The digits of base 64 at the front. -/
private def sextets : List UInt8 → List Nat
  | [] => []
  | b :: rest =>
      match base64Value? (Char.ofNat b.toNat) with
      | some digit => digit :: sextets rest
      | none => []

private def minus : UInt8 := 0x2D

private def utf7Step (first : UInt8) (rest : List UInt8) : List Char × Nat :=
  if first = 0x2B then
    let digits := sextets rest
    let closing := if (rest.drop digits.length).head? = some minus then 1 else 0
    if digits.isEmpty then
      if closing = 1 then (['+'], 1) else ([replacement], 0)
    else (decodeUtf16 .bigEndian (bytesOfSextets digits), digits.length + closing)
  else if first < 0x80 then ([Char.ofNat first.toNat], 0)
  else ([replacement], 0)

def decodeUtf7 (bytes : List UInt8) : List Char :=
  decodeBy utf7Step bytes

end Postroom.Text
