import Postroom.Disk.Path
import Std.Data.ExtTreeMap

/-!
A disk without links: a finite map from locations to directories and files. A location is the list
of the names that lead to it from the top; the top itself is always a directory. Each step changes
the disk as a whole or fails and leaves it as it was.
-/

namespace Postroom

inductive IoError where
  | noEntry
  | exists
  | notDirectory
  | isDirectory
  | nameTooLong
  | notEmpty
  | nulByte
  /-- A failure with a text of its own. -/
  | other (text : String)
  deriving DecidableEq

def IoError.message : IoError → String
  | .noEntry => "No such file or directory (os error 2)"
  | .exists => "File exists (os error 17)"
  | .notDirectory => "Not a directory (os error 20)"
  | .isDirectory => "Is a directory (os error 21)"
  | .nameTooLong => "File name too long (os error 36)"
  | .notEmpty => "Directory not empty (os error 39)"
  | .nulByte => "file name contained an unexpected NUL byte"
  | .other text => text

inductive DiskNode where
  | directory
  | file (bytes : List UInt8)
  deriving DecidableEq

abbrev Location := List String

structure Disk where
  nodes : Std.ExtTreeMap Location DiskNode

namespace Disk

def empty : Disk := ⟨∅⟩

/-- What stands at a location. -/
def node? (disk : Disk) : Location → Option DiskNode
  | [] => some .directory
  | location => disk.nodes[location]?

def put (disk : Disk) (location : Location) (node : DiskNode) : Disk :=
  ⟨disk.nodes.insert location node⟩

/-- Longest name of a directory entry, in bytes. -/
def maxName : Nat := 255

/-- Longest path of a directory that is looked for or made, in bytes. -/
def maxPath : Nat := 4095

def hasNul (names : List String) : Bool :=
  names.any fun name => name.toList.contains '\x00'

/-- Whether a path can be that of a directory. What counts is its text, redundant slashes
included. -/
def checkPath (path : Path) : Except IoError Unit :=
  if hasNul path.components then .error .nulByte
  else if maxPath < path.text.utf8ByteSize then .error .nameTooLong
  else .ok ()

/-- Follow names from `location` on. Everything but the last name must be a directory. -/
def walk (disk : Disk) (location : Location) : List String → Except IoError Location
  | [] => .ok location
  | name :: rest =>
      match disk.node? location with
      | none => .error .noEntry
      | some (.file _) => .error .notDirectory
      | some .directory =>
          if name = ".." then walk disk location.dropLast rest
          else if maxName < name.utf8ByteSize then .error .nameTooLong
          else walk disk (location ++ [name]) rest

/-- The location that a list of names leads to. The location itself need not exist. -/
def locate (disk : Disk) (names : List String) : Except IoError Location :=
  if hasNul names then .error .nulByte else walk disk [] names

/-- The node that a list of names leads to. -/
def find (disk : Disk) (names : List String) : Except IoError DiskNode := do
  match disk.node? (← disk.locate names) with
  | some node => .ok node
  | none => .error .noEntry

def isDirectory (disk : Disk) (names : List String) : Bool :=
  match disk.find names with
  | .ok .directory => true
  | _ => false

/-- Whether something is there. A missing entry on the way is no error. -/
def present (disk : Disk) (path : Path) : Except IoError Bool := do
  checkPath path
  match disk.find path.components with
  | .ok .directory => .ok true
  | .ok (.file _) => if path.meansDirectory then .error .notDirectory else .ok true
  | .error .noEntry => .ok false
  | .error e => .error e

def read (disk : Disk) (names : List String) : Except IoError (List UInt8) := do
  match ← disk.find names with
  | .directory => .error .isDirectory
  | .file bytes => .ok bytes

/-- Whether the location has entries below it. -/
def hasEntries (disk : Disk) (location : Location) : Bool :=
  disk.nodes.toList.any fun (other, _) => location.isPrefixOf other && location ≠ other

/-- The names in a directory, in order. -/
def list (disk : Disk) (names : List String) : Except IoError (List String) := do
  match ← disk.find names with
  | .file _ => .error .notDirectory
  | .directory =>
      let location ← disk.locate names
      return disk.nodes.toList.filterMap fun (other, _) =>
        if other.dropLast = location then other.getLast? else none

/-- Create a file with these bytes, or replace those it has. -/
def fill (disk : Disk) (names : List String) (bytes : List UInt8) : Except IoError Disk := do
  let location ← disk.locate names
  match disk.node? location, disk.node? location.dropLast with
  | some .directory, _ => .error .isDirectory
  | _, none => .error .noEntry
  | _, some (.file _) => .error .notDirectory
  | _, some .directory => .ok (disk.put location (.file bytes))

/-- Move an entry to another name, over what stands there if that can be replaced. What stands
below a directory moves along. -/
def rename (disk : Disk) (source target : List String) : Except IoError Disk := do
  let node ← disk.find source
  let start ← disk.locate source
  let goal ← disk.locate target
  let moved : Disk := ⟨disk.nodes.toList.foldl
    (fun nodes (other, node) =>
      if start.isPrefixOf other then nodes.insert (goal ++ other.drop start.length) node
      else nodes)
    (disk.nodes.filter fun other _ => !start.isPrefixOf other)⟩
  match disk.node? goal.dropLast with
  | none => .error .noEntry
  | some (.file _) => .error .notDirectory
  | some .directory =>
      match node, disk.node? goal with
      | .file _, some .directory => .error .isDirectory
      | .directory, some (.file _) => .error .notDirectory
      | .directory, some .directory =>
          if start = goal then .ok disk
          else if disk.hasEntries goal then .error .notEmpty
          else .ok moved
      | .file bytes, _ =>
          if start = goal then .ok disk
          else .ok (put ⟨disk.nodes.erase start⟩ goal (.file bytes))
      | .directory, none => .ok moved

/-- Remove a file. -/
def remove (disk : Disk) (names : List String) : Except IoError Disk := do
  match ← disk.find names with
  | .directory => .error .isDirectory
  | .file _ => return ⟨disk.nodes.erase (← disk.locate names)⟩

/-- Create what is missing of a directory and those above it, from `location` on. `made` tells
whether something has been created before. A dot at the end asks for the directory before it to be
there already. -/
def makeAlong (disk : Disk) (location : Location) (made : Bool) :
    List String → Except IoError Unit × Disk
  | [] => (.ok (), disk)
  | name :: rest =>
      if name = "." then makeAlong disk location made rest
      else if name = ".." then makeAlong disk location.dropLast made rest
      else if maxName < name.utf8ByteSize then (.error .nameTooLong, disk)
      else
        let next := location ++ [name]
        match disk.node? next with
        | some .directory => makeAlong disk next made rest
        | some (.file _) =>
            (.error (if rest = [] ∨ made ∧ rest ≠ ["."] then .exists else .notDirectory), disk)
        | none =>
            if rest = ["."] then (.error .noEntry, disk)
            else makeAlong (disk.put next .directory) next true rest

/-- Create a directory and those above it. The ones created before a failure stay. -/
def makeDirectories (disk : Disk) (path : Path) : Except IoError Unit × Disk :=
  match checkPath path with
  | .error e => (.error e, disk)
  | .ok () =>
      makeAlong disk [] false (path.components ++ if path.endsInDot then ["."] else [])

/-- Remove an entry with everything below it. -/
def removeTree (disk : Disk) (names : List String) : Except IoError Disk := do
  let _ ← disk.find names
  let location ← disk.locate names
  return ⟨disk.nodes.filter fun other _ => !location.isPrefixOf other⟩

/-- Every file below a directory: the names that lead from there to it, and its bytes. -/
def filesBelow (disk : Disk) (names : List String) : List (List String × List UInt8) :=
  match disk.locate names with
  | .error _ => []
  | .ok location =>
      disk.nodes.toList.filterMap fun (other, node) =>
        match node with
        | .file bytes =>
            if location.isPrefixOf other && location ≠ other then
              some (other.drop location.length, bytes)
            else none
        | .directory => none

end Disk

end Postroom
