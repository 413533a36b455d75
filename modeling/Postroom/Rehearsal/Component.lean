import Postroom.Catalogue

/-!
Components for rehearsing what a server does when things go wrong: matchers that fail or answer
strangers, mailets that fail, retag, lose recipients, wait or panic, and a mailbox store that keeps
a record of its deliveries and refuses some.
-/

namespace Postroom.Rehearsal

/-- Matcher that always fails. -/
def broken : Matcher where
  name := "XBroken"
  select _ := .error ⟨"XBroken", "cannot evaluate"⟩

/-- Matcher that selects the listed addresses, whatever the mail holds. -/
def fixed (addresses : List Address) : Matcher where
  name := "XFixed"
  select _ := .ok (.ofList addresses)

def fixedOf (condition : Option String) : Except ConfigError Matcher := do
  let items := (Text.splitChars (· == ',') (condition.getD "").toList).filter (!·.isEmpty)
  let addresses ← (items.map String.ofList).mapM fun item =>
    match Address.parse item with
    | .ok address => .ok address
    | .error e => .error (.invalidParameter "XFixed" item e.message)
  return fixed addresses

/-- Mailet that fails with a reason. -/
def fails (reason : String) : Mailet where
  name := "XFail"
  service mail pass := ⟨mail, pass, .failed (.failed reason)⟩

/-- Mailet that fails as if the disk were full. -/
def diskFull : Mailet where
  name := "XIo"
  service mail pass := ⟨mail, pass, .failed (.io (.other "disk full"))⟩

/-- Mailet that keeps an address as an attribute, or fails if it is none. -/
def parsesAddress (input : String) : Mailet where
  name := "XAddress"
  service mail pass :=
    match Address.parse input with
    | .error e => ⟨mail, pass, .failed (.address e)⟩
    | .ok address => ⟨mail.setAttribute pass.now "address" (.text address.text), pass, .done⟩

/-- Mailet that sets the state. -/
def retags (state : String) : Mailet :=
  Mailet.rewriting "XRetag" fun now mail => mail.setState now state

/-- Mailet that sets the state and then fails. -/
def retagsAndFails (state : String) : Mailet where
  name := "XRetagFail"
  service mail pass := ⟨mail.setState pass.now state, pass, .failed (.failed "after retag")⟩

/-- Mailet that removes a recipient and notes whether there was one. -/
def dropsRecipient (input : String) : Mailet where
  name := "XDrop"
  service mail pass :=
    match Address.parse input with
    | .error e => ⟨mail, pass, .failed (.address e)⟩
    | .ok address =>
        let removed := toString (mail.recipients.contains address)
        let left := mail.removeRecipient pass.now address
        ⟨left.setAttribute pass.now "removed" (.text removed), pass, .done⟩

/-- Mailet that removes all recipients. -/
def clears : Mailet :=
  Mailet.rewriting "XClear" fun now mail => mail.setRecipients now ∅

/-- Mailet that counts local recipients and local domains. -/
def countsLocal : Mailet where
  name := "XLocal"
  service mail pass :=
    let locals := (mail.recipients.toList.filter pass.isLocal).length
    let counts := toString locals ++ "/" ++ toString pass.localDomains.length
    ⟨mail.setAttribute pass.now "local" (.text counts), pass, .done⟩

/-- Send the mails numbered from `first` on. -/
def sendEach (sender : Option Address) (target : Address) (state : Option String) :
    Nat → Nat → Pass → Pass
  | _, 0, pass => pass
  | first, count + 1, pass =>
      let (id, pass) := pass.freshId
      let content := Content.ofText ("Subject: sent " ++ toString first ++ "\r\n\r\n")
      let mail := Mail.create id pass.now sender (.ofList [target]) content
      let mail := match state with
        | some state => mail.setState pass.now state
        | none => mail
      sendEach sender target state (first + 1) count (pass.send mail)

/-- Mailet that sends further mails from the sender of the mail. -/
def sends (target : Address) (count : Nat) (state : Option String) : Mailet where
  name := "XSend"
  service mail pass := ⟨mail, sendEach mail.sender target state 0 count pass, .done⟩

/-- The count is looked at before the target. -/
def sendsOf (params : Params) : Except ConfigError Mailet := do
  let count ← params.number? "count" UInt32.size
  match Address.parse (← params.require "to") with
  | .error e => .error (.invalidParameter "XSend" "to" e.message)
  | .ok target => return sends target (count.getD 1) (params.get? "state")

/-- Mailet that waits. -/
def hangs (seconds : Nat) : Mailet where
  name := "XHang"
  service mail pass :=
    let pass := pass.wait (1000 * seconds)
    ⟨mail, pass, if pass.isOverdue then .halted .interrupted else .done⟩

def hangsOf (params : Params) : Except ConfigError Mailet := do
  return hangs ((← params.number? "secs" UInt64.size).getD 60)

/-- Mailet that panics. -/
def panics : Mailet where
  name := "XPanic"
  service mail pass := ⟨mail, pass, .halted .panicked⟩

def matchers : List (String × MatcherBuilder) :=
  [("XBroken", fun _ _ => .ok broken),
   ("XFixed", fun condition _ => fixedOf condition)]

def mailets : List (String × MailetBuilder) :=
  [("XFail", fun params _ => (params.require "reason").map fails),
   ("XIo", fun _ _ => .ok diskFull),
   ("XAddress", fun params _ => (params.require "input").map parsesAddress),
   ("XRetag", fun params _ => (params.require "state").map retags),
   ("XRetagFail", fun params _ => (params.require "state").map retagsAndFails),
   ("XDrop", fun params _ => (params.require "address").map dropsRecipient),
   ("XClear", fun _ _ => .ok clears),
   ("XLocal", fun _ _ => .ok countsLocal),
   ("XSend", fun params _ => sendsOf params),
   ("XHang", fun params _ => hangsOf params),
   ("XPanic", fun _ _ => .ok panics)]

/-- The catalogue with the components for rehearsals. -/
def extend (catalogue : Catalogue) : Catalogue :=
  let extended := matchers.foldl (fun c (name, build) => c.withMatcher name build) catalogue
  mailets.foldl (fun c (name, build) => c.withMailet name build) extended

/-- A mailbox store that records every delivery and refuses some local parts. -/
def recordingMailboxes (refused : List String) : MailboxStore where
  deliver recipient mail world :=
    if refused.contains recipient.localPart then
      (.error (.failed ("mailbox " ++ recipient.text ++ " is full")), world)
    else
      let delivery : Delivery := ⟨world.elapsed, recipient, mail.id, mail.content⟩
      (.ok (), { world with deliveries := world.deliveries ++ [delivery] })

/-- A file below the root of the mailboxes. -/
structure StoredFile where
  /-- The directory relative to the root. -/
  directory : String
  name : String
  bytes : List UInt8

/-- Files by directory, then content, then name: an order that does not depend on how ids are
drawn. -/
def StoredFile.before (a b : StoredFile) : Bool :=
  let contents := compare (a.bytes.map UInt8.toNat) (b.bytes.map UInt8.toNat)
  ((compare a.directory b.directory).then (contents.then (compare a.name b.name))).isLE

/-- Every file below a root. -/
def storedFiles (root : Path) (disk : Disk) : List StoredFile :=
  let files := (disk.filesBelow root.components).map fun (names, bytes) =>
    (⟨"/".intercalate names.dropLast, names.getLastD "", bytes⟩ : StoredFile)
  files.mergeSort StoredFile.before

end Postroom.Rehearsal
