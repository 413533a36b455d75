import Postroom.Configuration
import Postroom.Registry

/-!
The command line. It finds the configuration document of a server, reads it and builds its chains,
so that every fault shows before a server is set up. An option or the environment may name the
document; otherwise the first of the standard places that holds one counts.
-/

namespace Postroom

namespace CommandLine

/-- Where a document is looked for that nobody has named. -/
def standardPlaces : List Path :=
  ["./mailflow.config.ron", "/etc/mailflow/mailflow.config.ron"].map Path.mk

/-- Names the document if no option does. -/
def environmentVariable : String := "MAILFLOW_CONFIG"

inductive StartError where
  | unknownArgument (argument : String)
  | missing (path : Path)
  | nothingFound
  | load (e : Configuration.LoadError)
  | chains (e : ConfigError)
  deriving DecidableEq

def StartError.message : StartError → String
  | .unknownArgument argument => "Unknown argument: " ++ argument
  | .missing path => "Configuration file does not exist: " ++ path.text
  | .nothingFound =>
      "\n".intercalate
        ("No configuration file found. Tried:" :: ("  - --config / " ++ environmentVariable) ::
          standardPlaces.map fun path => "  - " ++ path.text)
  | .load (.unreadable path) => (Configuration.LoadError.unreadable path).message
  | .load (.invalid path e) =>
      (Configuration.LoadError.invalid path e).message ++ ": " ++ e.message
  | .chains e => "Invalid processor configuration: " ++ e.message

/-- The path that the arguments name, if they name one. The last one counts. -/
def namedPath : List String → Except StartError (Option Path)
  | [] => .ok none
  | "-c" :: path :: rest | "--config" :: path :: rest =>
      return (← namedPath rest).getD ⟨path⟩
  | argument :: _ => .error (.unknownArgument argument)

/-- Build the chains of a document and count them. -/
def check (path : Path) (source : String) : Except StartError Nat := do
  let config ← (Configuration.parse source).mapError fun e => .load (.invalid path e)
  let catalogue := Catalogue.standard ⟨config.localDomains.map Domain.mk, none⟩
  let registry ← (Registry.ofConfig catalogue config.chains config.states).mapError .chains
  return registry.chains.size

private def isThere (path : Path) : IO Bool :=
  try
    let _ ← IO.FS.realPath path.text
    return true
  catch _ => return false

private def firstThere : List Path → IO (Option Path)
  | [] => return none
  | path :: rest => do
      if ← isThere path then return some path else firstThere rest

/-- The document to read. -/
def find (named : Option Path) : IO (Except StartError Path) := do
  match named with
  | some path => return if ← isThere path then .ok path else .error (.missing path)
  | none =>
      match ← firstThere standardPlaces with
      | some path => return .ok path
      | none => return .error .nothingFound

/-- Read a document and check it. -/
def checkFile (path : Path) : IO (Except StartError Nat) :=
  try
    return check path (← IO.FS.readFile path.text)
  catch _ => return .error (.load (.unreadable path))

def run (arguments : List String) : IO (Except StartError Nat) := do
  match namedPath arguments with
  | .error e => return .error e
  | .ok named =>
      let fromEnvironment := (← IO.getEnv environmentVariable).map Path.mk
      match ← find (named <|> fromEnvironment) with
      | .error e => return .error e
      | .ok path => checkFile path

end CommandLine

end Postroom

def main (arguments : List String) : IO UInt32 := do
  match ← Postroom.CommandLine.run arguments with
  | .ok chains =>
      IO.println ("Loaded " ++ toString chains ++ " processors")
      return 0
  | .error e =>
      IO.eprintln ("Error: " ++ e.message)
      return 1
