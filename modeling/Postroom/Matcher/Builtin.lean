import Postroom.ConfigError
import Postroom.Content.HeaderBlock
import Postroom.Matcher
import Postroom.Text.Numeral

/-!
The matchers every configuration may name. What stands behind the equals sign in an expression is
the condition of a matcher; most of them need one.
-/

namespace Postroom.Matcher

/-- A name that shows the items of a condition. -/
private def described (name : String) (items : List String) : String :=
  name ++ "=" ++ ",".intercalate items

/-- The addresses of a comma separated list, at least one. -/
def parseAddresses (matcher condition : String) : Except ConfigError (List Address) := do
  let addresses ← (Text.listItems condition).mapM fun item =>
    match Address.parse item with
    | .ok address => .ok address
    | .error e => .error (.invalidParameter matcher item e.message)
  if addresses.isEmpty then .error (.missingParameter matcher "address list") else .ok addresses

def needCondition (matcher parameter : String) :
    Option String → Except ConfigError String
  | some condition => .ok condition
  | none => .error (.missingParameter matcher parameter)

/-- A condition with something other than blanks in it, trimmed. -/
def needText (matcher parameter : String) (condition : Option String) :
    Except ConfigError String :=
  match condition.map Text.trim with
  | some text => if text.isEmpty then .error (.missingParameter matcher parameter) else .ok text
  | none => .error (.missingParameter matcher parameter)

def all : Matcher where
  name := "All"
  select mail := .ok mail.recipients

/-- Recipients that are one of the listed mailboxes. -/
def recipientIs (addresses : List Address) : Matcher :=
  recipientsWhere (described "RecipientIs" (addresses.map Address.text)) fun r =>
    addresses.any fun a => a.isSameMailbox r

def recipientIsOf (condition : Option String) : Except ConfigError Matcher := do
  let condition ← needCondition "RecipientIs" "condition" condition
  return recipientIs (← parseAddresses "RecipientIs" condition)

/-- Every recipient, if the sender is one of the listed mailboxes. -/
def senderIs (addresses : List Address) : Matcher :=
  allWhen (described "SenderIs" (addresses.map Address.text)) fun mail =>
    match mail.sender with
    | some sender => addresses.any fun a => a.isSameMailbox sender
    | none => false

def senderIsOf (condition : Option String) : Except ConfigError Matcher := do
  let condition ← needCondition "SenderIs" "condition" condition
  return senderIs (← parseAddresses "SenderIs" condition)

/-- Every recipient of a mail with the null sender. -/
def senderIsNull : Matcher :=
  allWhen "SenderIsNull" fun mail => mail.sender.isNone

/-- Recipients in one of the listed domains. -/
def hostIs (domains : List Domain) : Matcher :=
  recipientsWhere (described "HostIs" (domains.map Domain.text)) fun r =>
    r.domain.isAnyOf domains

def hostIsOf (condition : Option String) : Except ConfigError Matcher :=
  let domains := (Text.listItems (condition.getD "")).map Domain.mk
  if domains.isEmpty then .error (.missingParameter "HostIs" "domain list")
  else .ok (hostIs domains)

/-- Recipients in one of the domains of this server. -/
def hostIsLocal (localDomains : List Domain) : Matcher :=
  recipientsWhere "HostIsLocal" fun r => r.domain.isAnyOf localDomains

/-- Every recipient, if the mail carries the attribute. -/
def hasAttribute (name : String) : Matcher :=
  allWhen (described "HasAttribute" [name]) fun mail => (mail.attribute? name).isSome

def hasAttributeOf (condition : Option String) : Except ConfigError Matcher :=
  (needText "HasAttribute" "attribute name" condition).map hasAttribute

/-- Every recipient, if the message has the header. A header block that cannot be read is a
failure. -/
def hasHeader (header : String) : Matcher where
  name := described "HasHeader" [header]
  select mail :=
    match mail.content.headers with
    | .error e => .error ⟨described "HasHeader" [header], e.message⟩
    | .ok headers => .ok (if headers.any (HeaderBlock.hasName header) then mail.recipients else ∅)

def hasHeaderOf (condition : Option String) : Except ConfigError Matcher :=
  (needText "HasHeader" "header name" condition).map hasHeader

/-- Every recipient, if the content has more bytes than the limit. -/
def sizeGreaterThan (limit : Nat) : Matcher :=
  allWhen (described "SizeGreaterThan" [toString limit]) fun mail => limit < mail.size

/-- The first size that a limit cannot have. -/
def sizeEnd : Nat := UInt64.size

/-- The digits of a size and the unit behind them: `k` and `m` stand for powers of 1024. -/
def splitUnit (size : String) : String × Nat :=
  let cs := size.toLower.toList
  match cs.getLast? with
  | some 'k' => (String.ofList cs.dropLast, 1024)
  | some 'm' => (String.ofList cs.dropLast, 1024 * 1024)
  | _ => (String.ofList cs, 1)

def sizeGreaterThanOf (condition : Option String) : Except ConfigError Matcher := do
  let condition ← needCondition "SizeGreaterThan" "size" (condition.map Text.trim)
  let (digits, unit) := splitUnit condition
  match Text.readNat sizeEnd (Text.trim digits) with
  | .error e => .error (.invalidParameter "SizeGreaterThan" condition e.message)
  | .ok value =>
      if value * unit < sizeEnd then .ok (sizeGreaterThan (value * unit))
      else .error (.invalidParameter "SizeGreaterThan" condition "size overflows")

end Postroom.Matcher
