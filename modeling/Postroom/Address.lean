import Postroom.Domain
import Postroom.Text.Blank
import Postroom.Text.Quoted
import Std.Data.ExtTreeSet

/-!
Envelope addresses `local@domain`. Parsing strips blanks and one pair of angle brackets, cuts at
the last `@` and checks both parts; the domain is kept in lower case, so that equality and order
treat two spellings of one mailbox alike. An address read back from a record is not checked
again, which is why the checks are not part of the type.
-/

namespace Postroom

structure Address where
  localPart : String
  domain : Domain
  deriving DecidableEq

inductive AddressError where
  | empty
  | missingAtSign (text : String)
  | emptyLocalPart (text : String)
  | emptyDomain (text : String)
  | localPartTooLong
  | domainTooLong
  | invalidCharacter (text : String) (character : Char)
  deriving DecidableEq

namespace Address

/-- Longest local part, in octets. -/
def maxLocalPart : Nat := 64

/-- Longest domain, in octets. -/
def maxDomain : Nat := 255

end Address

def AddressError.message : AddressError → String
  | .empty => "Address is empty"
  | .missingAtSign text => "Missing '@' separator in " ++ Text.quote text
  | .emptyLocalPart text => "Local part is empty in " ++ Text.quote text
  | .emptyDomain text => "Domain is empty in " ++ Text.quote text
  | .localPartTooLong => "Local part exceeds " ++ toString Address.maxLocalPart ++ " octets"
  | .domainTooLong => "Domain exceeds " ++ toString Address.maxDomain ++ " octets"
  | .invalidCharacter text c =>
      "Invalid character " ++ Text.quoteChar c ++ " in " ++ Text.quote text

/-- The name of the kind of fault, for reports. -/
def AddressError.kind : AddressError → String
  | .empty => "Empty"
  | .missingAtSign _ => "MissingAtSign"
  | .emptyLocalPart _ => "EmptyLocalPart"
  | .emptyDomain _ => "EmptyDomain"
  | .localPartTooLong => "LocalPartTooLong"
  | .domainTooLong => "DomainTooLong"
  | .invalidCharacter _ _ => "InvalidCharacter"

namespace Address

instance : Ord Address := ⟨compareLex (compareOn Address.localPart) (compareOn Address.domain)⟩

instance : Std.TransOrd Address :=
  inferInstanceAs (Std.TransCmp
    (compareLex (compareOn Address.localPart) (compareOn Address.domain)))

instance : Std.LawfulEqOrd Address where
  eq_of_compare {a b} h := by
    have h' : (compare a.localPart b.localPart).then (compare a.domain b.domain) = .eq := h
    rw [Ordering.then_eq_eq] at h'
    have hl := Std.LawfulEqOrd.eq_of_compare h'.1
    have hd := Std.LawfulEqOrd.eq_of_compare h'.2
    cases a; cases b; simp_all

def text (a : Address) : String :=
  a.localPart ++ "@" ++ a.domain.text

instance : ToString Address := ⟨text⟩

/-- Characters that no address may hold. -/
def isForbidden (c : Char) : Bool :=
  Text.isBlank c || Text.isControl c || c == '<' || c == '>'

/-- Check the two parts and build the address. The faults are looked for in a fixed order. -/
def make (localPart domain : String) : Except AddressError Address :=
  let full := localPart ++ "@" ++ domain
  if localPart.isEmpty then .error (.emptyLocalPart full)
  else if domain.isEmpty then .error (.emptyDomain full)
  else if maxLocalPart < localPart.utf8ByteSize then .error .localPartTooLong
  else if maxDomain < domain.utf8ByteSize then .error .domainTooLong
  else match full.toList.find? isForbidden with
    | some c => .error (.invalidCharacter full c)
    | none => .ok ⟨localPart, ⟨domain.toLower⟩⟩

/-- Without the angle brackets, if there is one on each side. -/
def stripBrackets : List Char → List Char
  | '<' :: rest =>
      match rest.getLast? with
      | some '>' => rest.dropLast
      | _ => '<' :: rest
  | cs => cs

/-- The characters that parsing looks at. -/
def core (s : String) : List Char :=
  stripBrackets (Text.trimChars s.toList)

def parse (s : String) : Except AddressError Address :=
  let cs := core s
  if cs.isEmpty then .error .empty
  else match Text.cutLastChars '@' cs with
    | none => .error (.missingAtSign (String.ofList cs))
    | some (localPart, domain) => make (String.ofList localPart) (String.ofList domain)

/-- A reverse path: nothing, with or without brackets, is the null sender. -/
def parseReversePath (s : String) : Except AddressError (Option Address) :=
  let cs := core s
  if cs.isEmpty then .ok none else (parse (String.ofList cs)).map some

/-- Equality up to the case of the domain. -/
def isSameMailbox (a b : Address) : Bool :=
  a.localPart == b.localPart && a.domain.matchesName b.domain.text

end Address

/-- A set of recipients, in the order of local part and domain. -/
abbrev Recipients := Std.ExtTreeSet Address

namespace Recipients

/-- The addresses separated by a comma and a blank. -/
def joined (recipients : Recipients) : String :=
  ", ".intercalate (recipients.toList.map Address.text)

end Recipients

end Postroom
