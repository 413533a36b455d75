import Postroom.Instant
import Postroom.Text.Positional

/-!
Identifiers of mails: numbers of 128 bits, written as 26 digits of Crockford's base 32. The top
48 bits hold the time of creation in milliseconds, the rest is drawn from a supply.
-/

namespace Postroom

structure MailId where
  value : BitVec 128
  deriving DecidableEq

namespace MailId

instance : Ord MailId := ⟨compareOn MailId.value⟩

instance : Std.TransOrd MailId := inferInstanceAs (Std.TransCmp (compareOn MailId.value))

instance : Std.LawfulEqOrd MailId where
  eq_of_compare {a b} h := by
    have := Std.LawfulEqOrd.eq_of_compare (α := BitVec 128) h
    cases a; cases b; simp_all

instance : Inhabited MailId := ⟨⟨0⟩⟩

/-- The digits in order of their value; I, L, O and U are not among them. -/
def digits : List Char :=
  "0123456789ABCDEFGHJKMNPQRSTVWXYZ".toList

def digitChar (d : Nat) : Char :=
  digits.getD d '0'

/-- The value of a digit in either letter case. -/
def digitOf? (c : Char) : Option Nat :=
  digits.idxOf? c.toUpper

/-- The 26 digits of an id. -/
def chars (id : MailId) : List Char :=
  (Text.fixedDigits 32 26 id.value.toNat).map digitChar

/-- The canonical text, in upper case. -/
def text (id : MailId) : String :=
  String.ofList id.chars

instance : ToString MailId := ⟨text⟩

/-- Read exactly 26 digits. The first digit has two bits too many, which are dropped. -/
def ofChars? (cs : List Char) : Option MailId :=
  if cs.length = 26 then
    (cs.mapM digitOf?).map fun ds => ⟨.ofNat 128 (Text.valueOfDigits 32 ds)⟩
  else none

def parse? (s : String) : Option MailId :=
  ofChars? s.toList

/-- Milliseconds since the epoch at which the id was made. -/
def timestampMillis (id : MailId) : Nat :=
  (id.value.extractLsb' 80 48).toNat

/-- The part of an id that does not come from the clock. -/
def randomBits (id : MailId) : Nat :=
  (id.value.extractLsb' 0 80).toNat

/-- The id made at `now` with the given random bits. -/
def make (now : Instant) (random : Nat) : MailId :=
  ⟨BitVec.ofNat 48 (now.nanos.toNat / nanosPerMilli) ++ BitVec.ofNat 80 random⟩

end MailId

/-- The random bits of the ids still to be made. -/
structure IdSupply where
  random : Nat → Nat
  drawn : Nat := 0

namespace IdSupply

/-- Successive numbers from `first` on. -/
def counting (first : Nat) : IdSupply where
  random n := first + n

def fresh (supply : IdSupply) (now : Instant) : MailId × IdSupply :=
  (.make now (supply.random supply.drawn), { supply with drawn := supply.drawn + 1 })

end IdSupply

end Postroom
