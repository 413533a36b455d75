import Postroom.Spool

/-!
Where mail enters. A front end hands over an envelope and a message and gets back the mail as it was
queued. New mail is in the default state and visible at once.
-/

namespace Postroom

/-- Where a submission came from. -/
structure Remote where
  host : String
  address : Option IpAddress := none

structure Submission where
  sender : Option Address
  recipients : Recipients
  remote : Option Remote := none

inductive IngressError where
  | noRecipients
  | io (e : IoError)
  | queue (e : QueueError)
  deriving DecidableEq

def IngressError.message : IngressError → String
  | .noRecipients => "A mail needs at least one recipient"
  | .io e => "Failed to read message content: " ++ e.message
  | .queue e => "Failed to queue mail: " ++ e.message

/-- The name of the kind of failure, for reports. -/
def IngressError.kind : IngressError → String
  | .noRecipients => "NoRecipients"
  | .io _ => "Io"
  | .queue _ => "Queue"

namespace Ingress

variable {σ : Type}

/-- The mail for a submission. -/
def mailFor (submission : Submission) (content : Content) (id : MailId) (now : Instant) : Mail :=
  let mail := Mail.create id now submission.sender submission.recipients content
  match submission.remote with
  | some remote => mail.withRemote remote.host remote.address
  | none => mail

/-- Queue a new mail. -/
def submit (store : RecordStore σ) (submission : Submission) (content : Content) (now : Instant)
    (spool : Spool σ) : Except IngressError Mail × Spool σ :=
  let (id, ids) := spool.ids.fresh now
  let spool := { spool with ids }
  if submission.recipients.isEmpty then (.error .noRecipients, spool)
  else
    let mail := mailFor submission content id now
    match spool.onQueue (MailQueue.enqueue store mail 0 now) with
    | (.error e, spool) => (.error (.queue e), spool)
    | (.ok (), spool) => (.ok mail, spool)

/-- Queue a new mail whose message is read from a stream. -/
def submitStream (store : RecordStore σ) (submission : Submission)
    (stream : Except IoError Content) (now : Instant) (spool : Spool σ) :
    Except IngressError Mail × Spool σ :=
  match stream with
  | .error e => (.error (.io e), spool)
  | .ok content => submit store submission content now spool

end Ingress

end Postroom
