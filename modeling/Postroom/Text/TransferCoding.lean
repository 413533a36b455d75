import Postroom.Text.Blank
import Postroom.Text.Numeral
import Postroom.Text.Utf8

/-!
The two transfer codings of encoded words: base 64, which must be whole groups of four, and the
quoted-printable form, which takes anything and keeps what it cannot read.
-/

namespace Postroom.Text

/-- The value of a digit of base 64. -/
def base64Value? (c : Char) : Option Nat :=
  if 'A' ≤ c ∧ c ≤ 'Z' then some (c.toNat - 'A'.toNat)
  else if 'a' ≤ c ∧ c ≤ 'z' then some (c.toNat - 'a'.toNat + 26)
  else if '0' ≤ c ∧ c ≤ '9' then some (c.toNat - '0'.toNat + 52)
  else if c = '+' then some 62
  else if c = '/' then some 63
  else none

private def base64Group (a b c d : Char) : Option (List UInt8) := do
  let first ← base64Value? a
  let second ← base64Value? b
  let high := first * 4 + second / 16
  if c = '=' && d = '=' then return [UInt8.ofNat high]
  let third ← base64Value? c
  let middle := second % 16 * 16 + third / 4
  if d = '=' then return [UInt8.ofNat high, UInt8.ofNat middle]
  let fourth ← base64Value? d
  return [UInt8.ofNat high, UInt8.ofNat middle, UInt8.ofNat (third % 4 * 64 + fourth)]

private def base64Groups : List Char → Option (List UInt8)
  | [] => some []
  | a :: b :: c :: d :: rest => do
      let group ← base64Group a b c d
      return group ++ (← base64Groups rest)
  | _ => none

/-- Decode groups of four digits, each padded on its own; line ends between them do not count
and bits beyond the last byte are dropped. -/
def decodeBase64 (s : String) : Option (List UInt8) :=
  base64Groups (s.toList.filter fun c => c ≠ '\r' ∧ c ≠ '\n')

private def isPrintableAscii (c : Char) : Bool :=
  c = '\t' || c = '\r' || c = '\n' || (' ' ≤ c && c ≤ '~')

private def quotedLine : List Char → List UInt8
  | [] => []
  | ['='] => []
  | ['=', a] => toBytes (String.ofList ['=', a])
  | '=' :: a :: b :: rest =>
      match digitValue? 16 a, digitValue? 16 b with
      | some high, some low => UInt8.ofNat (high * 16 + low) :: quotedLine rest
      | _, _ => toBytes (String.ofList ['=', a, b]) ++ quotedLine rest
  | c :: rest => UInt8.ofNat c.toNat :: quotedLine rest

/-- Decode one line of quoted-printable text in which an underscore stands for a blank. Characters
outside printable ASCII are skipped; blanks at the end are kept. -/
def decodeQuoted (s : String) : List UInt8 :=
  let spaced := s.toList.map fun c => if c = '_' then ' ' else c
  let bare := trimEndChars spaced
  quotedLine (trimEndChars (bare.filter isPrintableAscii)) ++
    toBytes (String.ofList (spaced.drop bare.length))

end Postroom.Text
