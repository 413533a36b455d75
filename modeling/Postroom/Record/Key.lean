import Postroom.MailId
import Postroom.Text.Cut
import Postroom.Text.Numeral

/-!
Keys of stored records. A key embeds the time at which its mail becomes visible, to the
millisecond, so the names in a directory are enough to rebuild the schedule. The time is padded
with zeros, so names sort as keys do.
-/

namespace Postroom

structure RecordKey where
  /-- Milliseconds since the epoch. -/
  notBefore : UInt64
  id : MailId
  deriving DecidableEq

/-- A record is a pair: the mail without its content, and the content. -/
inductive RecordPart where
  | object
  | content
  deriving DecidableEq

def RecordPart.extension : RecordPart → String
  | .object => "bin"
  | .content => "eml"

namespace RecordKey

instance : Ord RecordKey := ⟨compareLex (compareOn RecordKey.notBefore) (compareOn RecordKey.id)⟩

instance : Std.TransOrd RecordKey :=
  inferInstanceAs (Std.TransCmp
    (compareLex (compareOn RecordKey.notBefore) (compareOn RecordKey.id)))

instance : Std.LawfulEqOrd RecordKey where
  eq_of_compare {a b} h := by
    have h' : (compare a.notBefore b.notBefore).then (compare a.id b.id) = .eq := h
    rw [Ordering.then_eq_eq] at h'
    have ht := Std.LawfulEqOrd.eq_of_compare h'.1
    have hi := Std.LawfulEqOrd.eq_of_compare h'.2
    cases a; cases b; simp_all

/-- The latest schedule that a key can hold. -/
def latest : Instant := .ofMillis (UInt64.ofNat (UInt64.size - 1))

/-- The key of a mail that becomes visible at `time`. -/
def scheduled (id : MailId) (time : Instant) : RecordKey :=
  ⟨time.millis, id⟩

@[simp] theorem scheduled_id (id : MailId) (time : Instant) : (scheduled id time).id = id := rfl

def time (key : RecordKey) : Instant :=
  .ofMillis key.notBefore

/-- Digits of the schedule in a name, enough for any 64-bit number. -/
def scheduleWidth : Nat := 20

/-- The name that both records of a pair share. -/
def stem (key : RecordKey) : String :=
  Text.paddedDecimal scheduleWidth key.notBefore.toNat ++ "-" ++ key.id.text

instance : ToString RecordKey := ⟨stem⟩

def fileName (key : RecordKey) (part : RecordPart) : String :=
  key.stem ++ "." ++ part.extension

def ofStem? (cs : List Char) : Option RecordKey := do
  let (schedule, id) ← Text.cutFirstChars '-' cs
  if schedule.length = scheduleWidth && schedule.all Char.isDigit then
    match Text.readDigits 10 UInt64.size 0 schedule with
    | .ok n => return ⟨UInt64.ofNat n, ← MailId.ofChars? id⟩
    | .error _ => none
  else none

def endsIn (part : RecordPart) (cs : List Char) : Bool :=
  ('.' :: part.extension.toList).isSuffixOf cs

/-- Read the name of a record file. Nothing that could lead to another directory is accepted. -/
def ofFileName? (name : String) : Option (RecordKey × RecordPart) :=
  let cs := name.toList
  if cs.contains '/' || cs.contains '\\' || (Text.cutPair '.' '.' cs).isSome then none
  else
    let stem := cs.take (cs.length - 4)
    if endsIn .object cs then (ofStem? stem).map (·, .object)
    else if endsIn .content cs then (ofStem? stem).map (·, .content)
    else none

end RecordKey

end Postroom
