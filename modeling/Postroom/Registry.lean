import Postroom.Chain

/-!
The routing table: chains by name, and states that are aliases of chains. A state without an alias
names the chain that processes it. A registry is only built if the states of new and of failed mail
resolve, no chain falls through to itself or to nowhere, and the chain of failed mail hands nothing
to a state that does not resolve. So every mail that leaves a chain has somewhere to go.
-/

namespace Postroom

structure Registry where
  chains : Std.ExtTreeMap String Chain
  states : Std.ExtTreeMap String String

/-- Why a pass ended without mails to route. -/
inductive PassFault where
  /-- Not even the chain of failed mail can take this mail. -/
  | unroutable (id : MailId) (state : String)
  | halted (halt : Halt)
  deriving DecidableEq

def PassFault.message : PassFault → String
  | .unroutable id state =>
      "Mail " ++ id.text ++ " in state " ++ Text.quote state ++
        " cannot be routed to any processor"
  | .halted .panicked => "Worker failed: panicked"
  | .halted .interrupted => "Worker failed: interrupted"

namespace Registry

/-- The name of the chain for a state, whether or not there is such a chain. -/
def nameFor (states : Std.ExtTreeMap String String) (state : String) : String :=
  states.getD state state

/-- The chain that processes mail in a state. -/
def resolve (registry : Registry) (state : String) : Option Chain :=
  registry.chains[nameFor registry.states state]?

def size (registry : Registry) : Nat :=
  registry.chains.size

/-- Chains by name. No two may share one. -/
def collect (chains : Std.ExtTreeMap String Chain) :
    List Chain → Except ConfigError (Std.ExtTreeMap String Chain)
  | [] => .ok chains
  | chain :: rest =>
      if chains.contains chain.name then .error (.duplicateProcessor chain.name)
      else collect (chains.insert chain.name chain) rest

/-- The first state that is an alias of a missing chain. -/
def danglingAlias? (registry : Registry) : Option String :=
  registry.states.keys.find? fun state => (registry.resolve state).isNone

/-- The chain of a state that must have one. -/
def require (registry : Registry) (state : String) : Except ConfigError Chain :=
  match registry.resolve state with
  | some chain => .ok chain
  | none => .error (.unresolvedState state)

end Registry

namespace Fallthrough

/-- The state of a mail that falls through, unless it is dropped. -/
def target? : Fallthrough → Option String
  | .ghost => none
  | .error => some StateName.error
  | .processor state => some state

end Fallthrough

namespace Registry

def fallthroughFault? (registry : Registry) (chain : Chain) : Option FallthroughFault := do
  let state ← chain.fallthrough.target?
  match registry.resolve state with
  | none => some (.unresolved state)
  | some next => if next.name = chain.name then some .toItself else none

/-- The first fault of a fallthrough, in the order of the names of chains. -/
def firstFallthroughFault? (registry : Registry) : Option ConfigError :=
  registry.chains.toList.findSome? fun (_, chain) =>
    (registry.fallthroughFault? chain).map (.invalidFallthrough chain.name)

/-- The first state that a mailet of a chain hands mail to and that does not resolve. -/
def danglingRoute? (registry : Registry) (chain : Chain) : Option String :=
  (chain.stages.filterMap fun stage => stage.mailet.target).find? fun state =>
    (registry.resolve state).isNone

/-- Let a chain handle failures itself. -/
def withErrorHandler (registry : Registry) (chain : Chain) : Registry :=
  { registry with
    chains := registry.chains.insert chain.name { chain with handlesErrors := true } }

/-- Build the routing table. The checks are made in a fixed order. -/
def build (chains : List Chain) (states : Std.ExtTreeMap String String) :
    Except ConfigError Registry := do
  let registry : Registry := ⟨← collect ∅ chains, states⟩
  if let some state := registry.danglingAlias? then .error (.unresolvedState state)
  let errorChain ← registry.require StateName.error
  let _ ← registry.require StateName.default
  if let some fault := registry.firstFallthroughFault? then .error fault
  if let some state := registry.danglingRoute? errorChain then
    .error (.unresolvedRoute errorChain.name state)
  return registry.withErrorHandler errorChain

/-- Build every configured chain, in order, and the routing table. -/
def ofConfig (catalogue : Catalogue) (configs : List ChainConfig)
    (states : Std.ExtTreeMap String String) : Except ConfigError Registry := do
  build (← configs.mapM (Chain.ofConfig catalogue)) states

/-- Send a mail whose state does not resolve to the chain of failed mail. -/
def divert (now : Instant) (mail : Mail) : Mail :=
  (mail.setError now ("No processor for state " ++ Text.quote mail.state)).setState now
    StateName.error

/-- The chain that takes a mail, and the mail as that chain takes it. -/
def entry (registry : Registry) (now : Instant) (mail : Mail) : Except PassFault (Chain × Mail) :=
  let entering := fun (chain : Chain) (mail : Mail) =>
    (chain, if mail.state = chain.name then mail else mail.setState now chain.name)
  match registry.resolve mail.state with
  | some chain => .ok (entering chain mail)
  | none =>
      let diverted := divert now mail
      match registry.resolve StateName.error with
      | some chain => .ok (entering chain diverted)
      | none => .error (.unroutable diverted.id diverted.state)

/-- Make sure that routed mails have somewhere to go. -/
def checkRouted (registry : Registry) (chain : Chain) (now : Instant) :
    List Mail → Except PassFault (List Mail)
  | [] => .ok []
  | mail :: rest =>
      if (registry.resolve mail.state).isSome then do
        return mail :: (← checkRouted registry chain now rest)
      else if chain.handlesErrors then .error (.unroutable mail.id mail.state)
      else do
        return divert now mail :: (← checkRouted registry chain now rest)

/-- Run a mail through the chain of its state. The answer holds the branches that left the chain. -/
def process (registry : Registry) (mail : Mail) (pass : Pass) :
    Except PassFault (List Mail) × Pass :=
  if mail.isTerminal then (.ok [], pass)
  else match registry.entry pass.now mail with
    | .error fault => (.error fault, pass)
    | .ok (chain, mail) =>
        match chain.run mail pass with
        | (.error halt, pass) => (.error (.halted halt), pass)
        | (.ok routed, pass) => (registry.checkRouted chain pass.now routed, pass)

end Registry

end Postroom
