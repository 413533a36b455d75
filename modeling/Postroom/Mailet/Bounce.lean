import Postroom.Date
import Postroom.Mailet

/-!
Delivery status notifications (RFC 3464): a text for humans, one group of fields for each failed
recipient, and the headers of the message that could not be delivered. A notification has the null
sender, and mail with the null sender is never bounced, so notifications do not breed.
-/

namespace Postroom

structure Bounce where
  reportingMta : String
  postmaster : Address
  deriving DecidableEq

namespace Bounce

/-- Parse the postmaster's address, which defaults to one at the reporting host. -/
def make (reportingMta : String) (postmaster : Option String) : Except ConfigError Bounce :=
  match Address.parse (postmaster.getD ("postmaster@" ++ reportingMta)) with
  | .ok postmaster => .ok ⟨reportingMta, postmaster⟩
  | .error e => .error (.invalidParameter "Bounce" "postmaster" e.message)

/-- Most bytes of the message that are quoted. -/
def maxQuoted : Nat := 1024

/-- Where the first empty line begins, counting from the line end before it. -/
def headerEnd : List UInt8 → Nat
  | 13 :: 10 :: 13 :: 10 :: _ => 0
  | [] => 0
  | _ :: rest => headerEnd rest + 1

/-- The headers of a message as a notification quotes them. -/
def quotedHeaders (content : Content) : String :=
  if content.bytes.isEmpty then "(No message data available)"
  else Text.ofBytesLossy (content.bytes.take (min (headerEnd content.bytes) maxQuoted))

/-- The explanation for humans. -/
def explanation (bounce : Bounce) (mail : Mail) (reason : String) : String :=
  "This is the mail system at host " ++ bounce.reportingMta ++ ".\r\n\r\n" ++
    "Your message could not be delivered to one or more recipients.\r\n\r\n" ++
    mail.recipients.joined ++ ": " ++ reason ++ "\r\n"

/-- The fields of one failed recipient, after an empty line. -/
def recipientGroup (reason : String) (recipient : Address) : String :=
  "\r\nFinal-Recipient: rfc822; " ++ recipient.text ++ "\r\nAction: failed\r\nStatus: 5.0.0\r\n" ++
    "Diagnostic-Code: smtp; " ++ reason ++ "\r\n"

/-- The machine readable part: fields of the message, then a group for each recipient. -/
def statusPart (bounce : Bounce) (mail : Mail) (arrival reason : String) : String :=
  "Reporting-MTA: dns; " ++ bounce.reportingMta ++ "\r\nArrival-Date: " ++ arrival ++ "\r\n" ++
    String.join (mail.recipients.toList.map (recipientGroup reason))

/-- When a mail was made, by its id. -/
def arrivalDate? (id : MailId) : Option String := do
  (← Instant.ofNanos? (id.timestampMillis * nanosPerMilli)).mailDate?

/-- The message of a notification. -/
def message (bounce : Bounce) (mail : Mail) (sender : Address) (boundary date arrival : String) :
    String :=
  let reason := mail.error.getD "Delivery failed"
  let part := fun (kind body : String) =>
    "--" ++ boundary ++ "\r\nContent-Type: " ++ kind ++
      "\r\nContent-Transfer-Encoding: 7bit\r\n\r\n" ++ body ++ "\r\n"
  "Content-Type: multipart/report; report-type=\"delivery-status\"; boundary=\"" ++ boundary ++
    "\"\r\nMIME-Version: 1.0\r\nDate: " ++ date ++
    "\r\nFrom: Mail Delivery System <" ++ bounce.postmaster.text ++ ">\r\nTo: " ++ sender.text ++
    "\r\nSubject: Delivery Status Notification (Failure)\r\nAuto-Submitted: auto-replied\r\n\r\n" ++
    "This is a multi-part message in MIME format.\r\n\r\n" ++
    part "text/plain; charset=utf-8" (bounce.explanation mail reason) ++
    part "message/delivery-status" (bounce.statusPart mail arrival reason) ++
    part "text/rfc822-headers" (quotedHeaders mail.content) ++
    "--" ++ boundary ++ "--\r\n"

/-- The notification about a mail, sent to its sender. There is none if a date of it cannot be
written. -/
def notification? (bounce : Bounce) (mail : Mail) (sender : Address) (pass : Pass) :
    Option (Mail × Pass) := do
  let date ← pass.now.mailDate?
  let arrival ← arrivalDate? mail.id
  let (boundaryId, pass) := pass.freshId
  let (id, pass) := pass.freshId
  let boundary := "----=_Part_" ++ boundaryId.text
  let content := Content.ofText (bounce.message mail sender boundary date arrival)
  return (Mail.create id pass.now none (.ofList [sender]) content, pass)

end Bounce

namespace Mailet

/-- Returns a mail to its sender, then drops it. -/
def bounce (settings : Bounce) : Mailet where
  name := "Bounce"
  service mail pass :=
    let dropped := mail.setState pass.now StateName.ghost
    match mail.sender with
    | none => ⟨dropped, pass, .done⟩
    | some sender =>
        match settings.notification? mail sender pass with
        | none => ⟨mail, pass, .halted .panicked⟩
        | some (notification, pass) => ⟨dropped, pass.send notification, .done⟩

def bounceOf (params : Params) : Except ConfigError Mailet := do
  let settings ← Bounce.make ((params.get? "reporting_mta").getD "localhost")
    (params.get? "postmaster")
  return bounce settings

end Mailet

end Postroom
