import Postroom.Chain
import Postroom.Ron.Value
import Postroom.Store.Directory

/-!
The configuration document of a server: where the queue is kept, how many workers consume it, which
domains are local, and the chains with their aliases. Everything has a default. A queue path is
checked as soon as it has been read.
-/

namespace Postroom

open Ron (DocumentError StructField Reader Scope)

/-- Where the records of the queue are kept. -/
inductive QueueConfig where
  | directory (home : QueueDirectory)
  | memory (capacity : Option Nat)
  deriving DecidableEq

structure Configuration where
  queue : QueueConfig := .directory QueueDirectory.standard
  /-- Consumers of the queue; one for each processor of the machine if not given. -/
  workers : Option Nat := none
  /-- Seconds that mail in flight may take on shutdown. -/
  shutdownSeconds : Nat := 30
  localDomains : List String := []
  chains : List ChainConfig := []
  states : Std.ExtTreeMap String String := ∅

namespace Configuration

private def required {α : Type} : Option α → Reader α
  | some a => return a
  | none => Ron.malformed

/-- The fields of a queue directory, as far as they have been read. -/
structure DirectoryDraft where
  path : Option String := none
  sync : Bool := true

def directoryFields : List (StructField DirectoryDraft) :=
  [⟨"path", fun _ => do
      let path ← Ron.text
      return fun draft => { draft with path := some path }⟩,
   ⟨"sync", fun _ => do
      let sync ← Ron.bool
      return fun draft => { draft with sync }⟩]

/-- Read the fields of a queue directory and check its path. -/
def readDirectory (scope : Scope) : Reader QueueConfig := do
  let draft ← Ron.fields scope directoryFields {}
  match QueueDirectory.make ⟨← required draft.path⟩ draft.sync with
  | .ok home => return .directory home
  | .error e => throw (.queuePath e)

def memoryFields : List (StructField (Option Nat)) :=
  [⟨"capacity", fun scope => do
      let capacity ← Ron.optional scope Ron.nat
      return fun _ => capacity⟩]

def readQueue (scope : Scope) : Reader QueueConfig :=
  Ron.variant scope
    [("File", fun scope => Ron.payload scope readDirectory),
     ("Memory", fun scope => Ron.payload scope fun scope => do
        return .memory (← Ron.fields scope memoryFields none))]

def readFallthrough (scope : Scope) : Reader Fallthrough :=
  Ron.variant scope
    [("Ghost", fun _ => return .ghost),
     ("Error", fun _ => return .error),
     ("Processor", fun scope => return .processor (← Ron.payload scope fun _ => Ron.text))]

/-- The fields of a stage, as far as they have been read. -/
structure StageDraft where
  matcher : Option String := none
  mailet : Option String := none
  params : Std.ExtTreeMap String String := ∅

def stageFields : List (StructField StageDraft) :=
  [⟨"match", fun _ => do
      let matcher ← Ron.text
      return fun draft => { draft with matcher := some matcher }⟩,
   ⟨"mailet", fun _ => do
      let mailet ← Ron.text
      return fun draft => { draft with mailet := some mailet }⟩,
   ⟨"params", fun scope => do
      let params ← Ron.textMap scope
      return fun draft => { draft with params }⟩]

def readStage (scope : Scope) : Reader StageConfig :=
  Ron.struct scope "StageConfig" stageFields {} fun draft => do
    return { matcher := ← required draft.matcher
             mailet := ← required draft.mailet
             params := draft.params }

/-- The fields of a chain, as far as they have been read. -/
structure ChainDraft where
  name : Option String := none
  stages : List StageConfig := []
  fallthrough : Fallthrough := .ghost

def chainFields : List (StructField ChainDraft) :=
  [⟨"name", fun _ => do
      let name ← Ron.text
      return fun draft => { draft with name := some name }⟩,
   ⟨"stages", fun scope => do
      let stages ← Ron.list scope readStage
      return fun draft => { draft with stages }⟩,
   ⟨"fallthrough", fun scope => do
      let fallthrough ← readFallthrough scope
      return fun draft => { draft with fallthrough }⟩]

def readChain (scope : Scope) : Reader ChainConfig :=
  Ron.struct scope "ProcessorConfig" chainFields {} fun draft => do
    return { name := ← required draft.name
             stages := draft.stages
             fallthrough := draft.fallthrough }

def serverFields : List (StructField Configuration) :=
  [⟨"queue", fun scope => do
      let queue ← readQueue scope
      return fun config => { config with queue }⟩,
   ⟨"workers", fun scope => do
      let workers ← Ron.optional scope Ron.nat
      return fun config => { config with workers }⟩,
   ⟨"shutdown_timeout_secs", fun _ => do
      let shutdownSeconds ← Ron.nat
      return fun config => { config with shutdownSeconds }⟩,
   ⟨"local_domains", fun scope => do
      let localDomains ← Ron.list scope fun _ => Ron.text
      return fun config => { config with localDomains }⟩,
   ⟨"processors", fun scope => do
      let chains ← Ron.list scope readChain
      return fun config => { config with chains }⟩,
   ⟨"states", fun scope => do
      let states ← Ron.textMap scope
      return fun config => { config with states }⟩]

def readServer (scope : Scope) : Reader Configuration :=
  Ron.struct scope "Mailflow" serverFields {} pure

/-- Read a configuration document. -/
def parse (source : String) : Except DocumentError Configuration :=
  Ron.document readServer source

/-- Why a configuration file gave no configuration. -/
inductive LoadError where
  | unreadable (path : Path)
  | invalid (path : Path) (e : DocumentError)
  deriving DecidableEq

def LoadError.message : LoadError → String
  | .unreadable path => "Failed to read config from " ++ path.text
  | .invalid path _ => "In " ++ path.text

/-- Read the configuration file at a path. -/
def load (disk : Disk) (path : Path) : Except LoadError Configuration :=
  match (disk.read path.components).toOption.bind Text.ofBytes? with
  | none => .error (.unreadable path)
  | some source =>
      match parse source with
      | .ok config => .ok config
      | .error e => .error (.invalid path e)

end Configuration

end Postroom
