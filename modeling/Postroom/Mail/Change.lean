import Postroom.Content.HeaderBlock
import Postroom.Mail

/-!
Single changes of a mail and looks at one, as values. Each has an answer: what was there before, or
what was looked at.
-/

namespace Postroom

inductive MailChange where
  | setState (state : String)
  | setError (message : String)
  | setRecipients (recipients : Recipients)
  | removeRecipient (recipient : Address)
  | setAttribute (name : String) (value : Attribute)
  | removeAttribute (name : String)
  | attribute (name : String)
  | setContent (content : Content)
  | attachContent (content : Content)
  | addHeader (name value : String)
  | header (name : String)
  | isTerminal
  | size

/-- What a change answers. -/
inductive ChangeAnswer where
  | nothing
  | truth (value : Bool)
  | attribute (value : Attribute)
  | text (value : String)
  | count (value : Nat)

namespace ChangeAnswer

def ofAttribute? : Option Attribute → ChangeAnswer
  | some value => .attribute value
  | none => .nothing

def ofText? : Option String → ChangeAnswer
  | some value => .text value
  | none => .nothing

end ChangeAnswer

namespace MailChange

/-- Apply a change at a time. -/
def apply (now : Instant) (mail : Mail) : MailChange → ChangeAnswer × Mail
  | .setState state => (.nothing, mail.setState now state)
  | .setError message => (.nothing, mail.setError now message)
  | .setRecipients recipients => (.nothing, mail.setRecipients now recipients)
  | .removeRecipient recipient =>
      (.truth (mail.recipients.contains recipient), mail.removeRecipient now recipient)
  | .setAttribute name value =>
      (.ofAttribute? (mail.attribute? name), mail.setAttribute now name value)
  | .removeAttribute name => (.ofAttribute? (mail.attribute? name), mail.removeAttribute now name)
  | .attribute name => (.ofAttribute? (mail.attribute? name), mail)
  | .setContent content => (.nothing, mail.setContent now content)
  | .attachContent content => (.nothing, mail.attachContent content)
  | .addHeader name value => (.nothing, mail.setContent now (mail.content.withHeader name value))
  | .header name => (.ofText? (mail.content.header? name), mail)
  | .isTerminal => (.truth mail.isTerminal, mail)
  | .size => (.count mail.size, mail)

end MailChange

end Postroom
