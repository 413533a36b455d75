import Postroom.ConfigError
import Postroom.Disk
import Postroom.Mail
import Postroom.Text.Numeral

/-!
Mailets act on a mail that holds only the recipients they were selected for. They may change the
mail, send further mails, leave traces in the world, or fail; a failure is a result like others and
never ends the pass. A pass ends early only if a mailet panics, or if it is interrupted while it
waits.
-/

namespace Postroom

/-- A line that a mailet wrote about a mail. -/
structure LogEntry where
  /-- Milliseconds that the pass had waited by then. -/
  moment : Nat
  id : MailId
  sender : Option Address
  recipients : Recipients
  state : String
  size : Nat
  message : String

/-- A mail that a mailbox store accepted for a recipient. -/
structure Delivery where
  /-- Milliseconds that the pass had waited by then. -/
  moment : Nat
  recipient : Address
  id : MailId
  content : Content

/-- What outlives a pass: the disk that mailboxes are on, and what was delivered and logged. -/
structure World where
  disk : Disk
  deliveries : List Delivery := []
  log : List LogEntry := []
  /-- Milliseconds that the present pass has waited. -/
  elapsed : Nat := 0

/-- Put what was delivered and logged since `earlier` in the order of its moments. -/
def World.inOrderSince (earlier world : World) : World :=
  let deliveries := world.deliveries.drop earlier.deliveries.length
  let log := world.log.drop earlier.log.length
  { world with
    deliveries := earlier.deliveries ++
      deliveries.mergeSort fun a b => decide (a.moment ≤ b.moment)
    log := earlier.log ++ log.mergeSort fun a b => decide (a.moment ≤ b.moment) }

/-- What a mailet sees of the server during one pass of a mail, and what it may change there. -/
structure Pass where
  now : Instant
  ids : IdSupply
  localDomains : List Domain
  /-- Mails that were sent during the pass. They are queued when it ends. -/
  outgoing : List Mail
  world : World
  /-- Milliseconds that the pass may still wait before it is interrupted, if it has a limit. -/
  patience : Option Nat

namespace Pass

/-- The start of a pass. -/
def start (now : Instant) (ids : IdSupply) (localDomains : List Domain) (world : World)
    (patience : Option Nat) : Pass where
  now
  ids
  localDomains
  outgoing := []
  world := { world with elapsed := 0 }
  patience

def isLocal (pass : Pass) (address : Address) : Bool :=
  address.domain.isAnyOf pass.localDomains

/-- Queue a new mail when the pass ends. It starts in its current state. -/
def send (pass : Pass) (mail : Mail) : Pass :=
  { pass with outgoing := pass.outgoing ++ [mail] }

def freshId (pass : Pass) : MailId × Pass :=
  let (id, ids) := pass.ids.fresh pass.now
  (id, { pass with ids })

/-- Milliseconds that the pass has waited. -/
def waited (pass : Pass) : Nat :=
  pass.world.elapsed

def wait (pass : Pass) (millis : Nat) : Pass :=
  { pass with world := { pass.world with elapsed := pass.waited + millis } }

/-- Whether the pass has waited longer than it may. -/
def isOverdue (pass : Pass) : Bool :=
  match pass.patience with
  | some patience => patience < pass.waited
  | none => false

def logged (pass : Pass) (entry : LogEntry) : Pass :=
  { pass with world := { pass.world with log := pass.world.log ++ [entry] } }

end Pass

inductive MailetError where
  | failed (reason : String)
  | io (e : IoError)
  | address (e : AddressError)
  deriving DecidableEq

def MailetError.message : MailetError → String
  | .failed reason => reason
  | .io e => "I/O error: " ++ e.message
  | .address e => "Invalid address: " ++ e.message

/-- The name of the kind of failure, for reports. -/
def MailetError.kind : MailetError → String
  | .failed _ => "Failed"
  | .io _ => "Io"
  | .address _ => "Address"

/-- Why a pass ended before its time. -/
inductive Halt where
  | panicked
  | interrupted
  deriving DecidableEq

inductive Outcome where
  | done
  | failed (e : MailetError)
  | halted (halt : Halt)
  deriving DecidableEq

/-- A mail after a mailet served it. If the pass was halted, the mail is gone. -/
structure Service where
  mail : Mail
  pass : Pass
  outcome : Outcome

structure Mailet where
  name : String
  /-- The state it hands every mail to, if there is one. -/
  target : Option String := none
  service : Mail → Pass → Service

namespace Mailet

/-- A mailet that only changes the mail, and cannot fail. -/
def rewriting (name : String) (rewrite : Instant → Mail → Mail) : Mailet where
  name
  service mail pass := ⟨rewrite pass.now mail, pass, .done⟩

end Mailet

/-- The parameters of a mailet as the configuration gives them. -/
structure Params where
  component : String
  values : Std.ExtTreeMap String String

namespace Params

def get? (params : Params) (key : String) : Option String :=
  params.values[key]?

def require (params : Params) (key : String) : Except ConfigError String :=
  match params.get? key with
  | some value => .ok value
  | none => .error (.missingParameter params.component key)

/-- A number below `limit`, if it is given. -/
def number? (params : Params) (key : String) (limit : Nat) : Except ConfigError (Option Nat) :=
  match params.get? key with
  | none => .ok none
  | some value =>
      match Text.readNat limit value with
      | .ok n => .ok (some n)
      | .error e => .error (.invalidParameter params.component key e.message)

end Params

end Postroom
