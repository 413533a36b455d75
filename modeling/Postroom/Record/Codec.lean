import Postroom.Mail
import Postroom.Queue.Error
import Postroom.Record.Wire

/-!
The object record: the parts of a mail in a fixed order, without its content, which is a record of
its own. A mail last updated before the epoch has no encoding. The id in the record must be that of
the key it is found under.
-/

namespace Postroom

namespace Wire

/-- Ids travel as texts. -/
def writeId (id : MailId) : List UInt8 :=
  writeText id.text

def readId : Reader MailId := fun bytes => do
  let (s, rest) ← readText bytes
  return (← MailId.parse? s, rest)

def writeAddress (a : Address) : List UInt8 :=
  writeText a.localPart ++ writeText a.domain.text

/-- The parts are taken as they are, without the checks of parsing. -/
def readAddress : Reader Address := fun bytes => do
  let (localPart, rest) ← readText bytes
  let (domain, rest) ← readText rest
  return (⟨localPart, ⟨domain⟩⟩, rest)

def writeAttribute : Attribute → List UInt8
  | .text value => 0 :: writeText value
  | .integer value => 1 :: writeInt64 value
  | .boolean value => 2 :: writeBool value
  | .bytes value => 3 :: writeBytes value
  | .list values => 4 :: writeList writeText values

def readAttribute : Reader Attribute := fun bytes => do
  let (variant, rest) ← readNat 4 bytes
  match variant with
  | 0 => (readText rest).map fun (value, rest) => (.text value, rest)
  | 1 => (readInt64 rest).map fun (value, rest) => (.integer value, rest)
  | 2 => (readBool rest).map fun (value, rest) => (.boolean value, rest)
  | 3 => (readBytes rest).map fun (value, rest) => (.bytes value, rest)
  | 4 => (readList readText rest).map fun (values, rest) => (.list values, rest)
  | _ => none

def writeNamed (entry : String × Attribute) : List UInt8 :=
  writeText entry.1 ++ writeAttribute entry.2

def readNamed : Reader (String × Attribute) := fun bytes => do
  let (name, rest) ← readText bytes
  let (value, rest) ← readAttribute rest
  return ((name, value), rest)

/-- Seconds and nanoseconds since the epoch. -/
def writeInstant (t : Instant) : Option (List UInt8) :=
  if 0 ≤ t.nanos then
    some (writeNat (t.nanos.toNat / nanosPerSecond) ++ writeNat (t.nanos.toNat % nanosPerSecond))
  else none

/-- Nanoseconds beyond a second are carried over. -/
def readInstant : Reader Instant := fun bytes => do
  let (seconds, rest) ← readNat 8 bytes
  let (nanos, rest) ← readNat 4 rest
  return (← Instant.ofNanos? (seconds * nanosPerSecond + nanos), rest)

def writeIpAddress : IpAddress → List UInt8
  | .v4 octets _ => 0 :: octets
  | .v6 octets _ => 1 :: octets

def readIpAddress : Reader IpAddress := fun bytes => do
  let (variant, rest) ← readNat 4 bytes
  match variant with
  | 0 =>
      let (octets, rest) ← takeBytes 4 rest
      return (← IpAddress.ofOctets? octets, rest)
  | 1 =>
      let (octets, rest) ← takeBytes 16 rest
      return (← IpAddress.ofOctets? octets, rest)
  | _ => none

def writeMail (mail : Mail) : Option (List UInt8) := do
  let updated ← writeInstant mail.updated
  return writeId mail.id ++ writeOption writeAddress mail.sender ++
    writeList writeAddress mail.recipients.toList ++ writeText mail.state ++
    writeList writeNamed mail.attributes.toList ++ updated ++
    writeOption writeText mail.error ++ writeOption writeText mail.remoteHost ++
    writeOption writeIpAddress mail.remoteAddress

/-- Read a mail, which has no content yet. Of entries with one name the last counts. -/
def readMail : Reader Mail := fun bytes => do
  let (id, rest) ← readId bytes
  let (sender, rest) ← readOption readAddress rest
  let (recipients, rest) ← readList readAddress rest
  let (state, rest) ← readText rest
  let (attributes, rest) ← readList readNamed rest
  let (updated, rest) ← readInstant rest
  let (error, rest) ← readOption readText rest
  let (remoteHost, rest) ← readOption readText rest
  let (remoteAddress, rest) ← readOption readIpAddress rest
  return ({
    id
    sender
    recipients := .ofList recipients
    content := .empty
    state
    attributes := .ofList attributes
    updated
    error
    remoteHost
    remoteAddress }, rest)

end Wire

namespace Record

/-- The object record of a mail. Every length in it has 64 bits, and so has its own. -/
def encode (mail : Mail) : Except QueueError (List UInt8) :=
  match Wire.writeMail mail with
  | some bytes =>
      if bytes.length < UInt64.size then .ok bytes else .error (.serialization .encode)
  | none => .error (.serialization .encode)

/-- The mail of a record pair. Bytes behind the mail do not count. -/
def decode (key : RecordKey) (object : List UInt8) (content : Content) : Except QueueError Mail :=
  match Wire.readMail object with
  | none => .error (.serialization .decode)
  | some (mail, _) =>
      if mail.id = key.id then .ok (mail.attachContent content)
      else .error (.corrupt key (.foreign mail.id))

end Record

end Postroom
