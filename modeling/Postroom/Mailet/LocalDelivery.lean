import Postroom.Disk.Path
import Postroom.Mailet

/-!
Final delivery into mailboxes. Recipients are served one after the other, each leaving the mail as
soon as its mailbox has taken it, so a failure leaves exactly those that were not served. Mailboxes
on disk are directories two levels below a root, one for the domain and one for the local part.
-/

namespace Postroom

/-- Where mail for local recipients ends up. -/
structure MailboxStore where
  deliver : Address → Mail → World → Except MailetError Unit × World

namespace Mailbox

/-- A name that could lead out of its directory, or hide in it. -/
def isUnsafeName (name : String) : Bool :=
  name.toList.head? = some '.' || name.toList.any fun c => c = '/' || c = '\\' || c = '\x00'

/-- The directory of a mailbox. -/
def directory (root : Path) (recipient : Address) : Except MailetError Path :=
  let domain := recipient.domain.text.toLower
  match [domain, recipient.localPart].find? isUnsafeName with
  | some name =>
      .error (.failed ("Refusing to deliver to " ++ recipient.text ++ ": unsafe mailbox name " ++
        Text.quote name))
  | none => .ok ((root.join domain).join recipient.localPart)

/-- The message as it is stored for a recipient. -/
def storedContent (recipient : Address) (mail : Mail) : Content :=
  mail.content.withHeader "Delivered-To" recipient.text

/-- Write a message into a directory, by way of a temporary name. -/
def place (path : Path) (id : MailId) (content : Content) (disk : Disk) :
    Except IoError Unit × Disk :=
  match disk.makeDirectories path with
  | (.error e, disk) => (.error e, disk)
  | (.ok (), disk) =>
      let names := path.components
      let name := id.text ++ ".eml"
      let temporary := names ++ [".tmp_" ++ name]
      match disk.fill temporary content.bytes with
      | .error e => (.error e, disk)
      | .ok disk =>
          match disk.rename temporary (names ++ [name]) with
          | .error e => (.error e, disk)
          | .ok disk => (.ok (), disk)

/-- One file for each mail and recipient below `root`. -/
def onDisk (root : Path) : MailboxStore where
  deliver recipient mail world :=
    match directory root recipient with
    | .error e => (.error e, world)
    | .ok path =>
        match place path mail.id (storedContent recipient mail) world.disk with
        | (.error e, disk) => (.error (.io e), { world with disk })
        | (.ok (), disk) => (.ok (), { world with disk })

end Mailbox

namespace Mailet

/-- Deliver to recipients in order, up to the first failure. -/
def deliverEach (store : MailboxStore) (mail : Mail) (pass : Pass) : List Address → Service
  | [] => ⟨mail, pass, .done⟩
  | recipient :: rest =>
      match store.deliver recipient mail pass.world with
      | (.error e, world) => ⟨mail, { pass with world }, .failed e⟩
      | (.ok (), world) =>
          deliverEach store (mail.removeRecipient pass.now recipient) { pass with world } rest

/-- Delivers to every recipient, then drops the mail. -/
def localDelivery (store : MailboxStore) : Mailet where
  name := "LocalDelivery"
  service mail pass :=
    let served := deliverEach store mail pass mail.recipients.toList
    match served.outcome with
    | .done => { served with mail := served.mail.setState pass.now StateName.ghost }
    | _ => served

/-- A root directory takes precedence over the store of the host. -/
def localDeliveryOf (params : Params) (host : Option MailboxStore) : Except ConfigError Mailet :=
  match params.get? "root", host with
  | some root, _ => .ok (localDelivery (Mailbox.onDisk ⟨root⟩))
  | none, some store => .ok (localDelivery store)
  | none, none => .error (.missingParameter params.component "root")

end Mailet

end Postroom
