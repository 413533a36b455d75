import Postroom.Text.Numeral
import Postroom.Text.Utf8

/-!
Network addresses of remote hosts, with their usual texts: four decimal octets, or eight groups in
hexadecimal with the longest run of zero groups left out and the last two groups as octets where
the address maps one of the older kind.
-/

namespace Postroom

inductive IpAddress where
  | v4 (octets : List UInt8) (size : octets.length = 4)
  | v6 (octets : List UInt8) (size : octets.length = 16)
  deriving DecidableEq

namespace IpAddress

def ofOctets? (octets : List UInt8) : Option IpAddress :=
  if h : octets.length = 4 then some (.v4 octets h)
  else if h : octets.length = 16 then some (.v6 octets h)
  else none

private def octetsText (octets : List UInt8) : String :=
  ".".intercalate (octets.map fun o => toString o.toNat)

private def groupsOf : List UInt8 → List Nat
  | a :: b :: rest => (a.toNat * 256 + b.toNat) :: groupsOf rest
  | _ => []

private def groupsText (groups : List Nat) : String :=
  ":".intercalate (groups.map fun g => String.ofList (Nat.toDigits 16 g))

/-- Length of the run of zeros at the front. -/
private def zeroRun (groups : List Nat) : Nat :=
  (groups.takeWhile (· == 0)).length

/-- Start and length of the first of the longest runs of zeros. -/
private def longestZeroRun (groups : List Nat) : Nat × Nat :=
  (List.range groups.length).foldl
    (fun best start =>
      let run := zeroRun (groups.drop start)
      if best.2 < run then (start, run) else best)
    (0, 0)

def text : IpAddress → String
  | .v4 octets _ => octetsText octets
  | .v6 octets _ =>
      let groups := groupsOf octets
      if groups.take 6 = [0, 0, 0, 0, 0, 0xFFFF] then
        "::ffff:" ++ octetsText (octets.drop 12)
      else
        let (start, run) := longestZeroRun groups
        if 1 < run then
          groupsText (groups.take start) ++ "::" ++ groupsText (groups.drop (start + run))
        else groupsText groups

instance : ToString IpAddress := ⟨text⟩

/-- A number of one to `maxDigits` digits below `limit`, and what follows it. -/
private def readNumber (base maxDigits limit : Nat) (zeroFirst : Bool) (cs : List Char) :
    Option (Nat × List Char) :=
  let digits := cs.takeWhile fun c => (Text.digitValue? base c).isSome
  let value := digits.foldl (fun n c => n * base + (Text.digitValue? base c).getD 0) 0
  if digits.isEmpty || maxDigits < digits.length || limit ≤ value then none
  else if !zeroFirst && digits.head? = some '0' && 1 < digits.length then none
  else some (value, cs.drop digits.length)

private def expect (c : Char) : List Char → Option (List Char)
  | d :: rest => if c = d then some rest else none
  | [] => none

private def readOctets (cs : List Char) : Option (List UInt8 × List Char) := do
  let (a, cs) ← readNumber 10 3 256 false cs
  let (b, cs) ← readNumber 10 3 256 false (← expect '.' cs)
  let (c, cs) ← readNumber 10 3 256 false (← expect '.' cs)
  let (d, cs) ← readNumber 10 3 256 false (← expect '.' cs)
  return ([a, b, c, d].map UInt8.ofNat, cs)

/-- Read at most `limit` groups, of which the last two may be written as octets. The answer tells
whether they were. A group that cannot be read leaves its separator unread. -/
private def readGroups (first : Bool) (limit : Nat) (cs : List Char) :
    List Nat × Bool × List Char :=
  match limit with
  | 0 => ([], false, cs)
  | limit + 1 =>
      let start? := if first then some cs else expect ':' cs
      match (if limit = 0 then none else start?.bind readOctets) with
      | some (octets, rest) => (groupsOf octets, true, rest)
      | none =>
          match start?.bind (readNumber 16 4 65536 true) with
          | none => ([], false, cs)
          | some (group, rest) =>
              let (groups, mapped, rest) := readGroups false limit rest
              (group :: groups, mapped, rest)

private def octetsOf (groups : List Nat) : List UInt8 :=
  groups.flatMap fun g => [UInt8.ofNat (g / 256), UInt8.ofNat g]

private def parseV6 (cs : List Char) : Option IpAddress := do
  let (head, mapped, rest) := readGroups true 8 cs
  if head.length = 8 then
    if rest.isEmpty then ofOctets? (octetsOf head) else none
  else if mapped then none
  else
    let rest ← expect ':' (← expect ':' rest)
    let (tail, _, rest) := readGroups true (7 - head.length) rest
    let zeros := List.replicate (8 - head.length - tail.length) 0
    if rest.isEmpty then ofOctets? (octetsOf (head ++ zeros ++ tail)) else none

/-- Read an address of either kind. -/
def parse? (s : String) : Option IpAddress :=
  match readOctets s.toList with
  | some (octets, []) => ofOctets? octets
  | _ => parseV6 s.toList

end IpAddress

end Postroom
