import Postroom.Address
import Postroom.Content
import Postroom.IpAddress
import Postroom.Mail.Attribute
import Postroom.MailId
import Std.Data.ExtTreeMap

/-!
Mails in flight. The state of a mail names the chain that is to process it next; the state
`ghost`, and a mail without recipients, are terminal. Every change of a mail takes the current
time and records it as the last update. A mail is split only by `fork`, so that each recipient
stays with one id.
-/

namespace Postroom


namespace StateName

/-- Where every new mail starts. -/
def default : String := "default"

/-- Leads to the chain that handles failures. -/
def error : String := "error"

/-- The mail is discarded. -/
def ghost : String := "ghost"

end StateName

abbrev Attributes := Std.ExtTreeMap String Attribute

structure Mail where
  id : MailId
  sender : Option Address
  recipients : Recipients
  content : Content
  state : String
  attributes : Attributes
  updated : Instant
  error : Option String
  remoteHost : Option String
  remoteAddress : Option IpAddress

namespace Mail

/-- A new mail in the default state. -/
def create (id : MailId) (now : Instant) (sender : Option Address) (recipients : Recipients)
    (content : Content) : Mail where
  id
  sender
  recipients
  content
  state := StateName.default
  attributes := ∅
  updated := now
  error := none
  remoteHost := none
  remoteAddress := none

/-- Record where a mail came from. -/
def withRemote (mail : Mail) (host : String) (address : Option IpAddress) : Mail :=
  { mail with remoteHost := some host, remoteAddress := address }

def touch (mail : Mail) (now : Instant) : Mail :=
  { mail with updated := now }

def setRecipients (mail : Mail) (now : Instant) (recipients : Recipients) : Mail :=
  { mail with recipients, updated := now }

/-- Remove a recipient that has been served. Nothing changes if the mail does not hold it. -/
def removeRecipient (mail : Mail) (now : Instant) (recipient : Address) : Mail :=
  if recipient ∈ mail.recipients then
    { mail with recipients := mail.recipients.erase recipient, updated := now }
  else mail

def setContent (mail : Mail) (now : Instant) (content : Content) : Mail :=
  { mail with content, updated := now }

/-- Put the content back on a mail whose other parts were read from a record. -/
def attachContent (mail : Mail) (content : Content) : Mail :=
  { mail with content }

def size (mail : Mail) : Nat :=
  mail.content.size

def setState (mail : Mail) (now : Instant) (state : String) : Mail :=
  { mail with state, updated := now }

def setError (mail : Mail) (now : Instant) (message : String) : Mail :=
  { mail with error := some message, updated := now }

def attribute? (mail : Mail) (name : String) : Option Attribute :=
  mail.attributes[name]?

def setAttribute (mail : Mail) (now : Instant) (name : String) (value : Attribute) : Mail :=
  { mail with attributes := mail.attributes.insert name value, updated := now }

def removeAttribute (mail : Mail) (now : Instant) (name : String) : Mail :=
  { mail with attributes := mail.attributes.erase name, updated := now }

/-- A terminal mail enters no chain. -/
def isTerminal (mail : Mail) : Bool :=
  mail.state == StateName.ghost || mail.recipients.isEmpty

/-- Split off the recipients `matched` under a new id. The first mail of the answer keeps the
others. -/
def fork (mail : Mail) (id : MailId) (now : Instant) (matched : Recipients) : Mail × Mail :=
  let rest := { mail with
    recipients := mail.recipients.filter fun r => !matched.contains r
    updated := now }
  (rest, { rest with id, recipients := matched })

@[simp] theorem setState_id (mail : Mail) (now : Instant) (state : String) :
    (mail.setState now state).id = mail.id := rfl

@[simp] theorem setState_recipients (mail : Mail) (now : Instant) (state : String) :
    (mail.setState now state).recipients = mail.recipients := rfl

@[simp] theorem setError_id (mail : Mail) (now : Instant) (message : String) :
    (mail.setError now message).id = mail.id := rfl

@[simp] theorem setError_recipients (mail : Mail) (now : Instant) (message : String) :
    (mail.setError now message).recipients = mail.recipients := rfl

@[simp] theorem mem_fork_rest (mail : Mail) (id : MailId) (now : Instant) (matched : Recipients)
    (r : Address) :
    r ∈ (mail.fork id now matched).1.recipients ↔ r ∈ mail.recipients ∧ r ∉ matched := by
  simp [fork, ← Bool.not_eq_true]

@[simp] theorem fork_fork_recipients (mail : Mail) (id : MailId) (now : Instant)
    (matched : Recipients) : (mail.fork id now matched).2.recipients = matched := rfl

theorem isTerminal_eq_false_iff (mail : Mail) :
    mail.isTerminal = false ↔ mail.state ≠ StateName.ghost ∧ mail.recipients ≠ ∅ := by
  simp [isTerminal]

end Mail

end Postroom
