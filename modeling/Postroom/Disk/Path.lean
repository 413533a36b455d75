import Postroom.Text.Blank

/-!
Paths as texts. Slashes separate the components; empty components and `.` do not count, and a path
that starts with a slash is absolute. Everything that judges a path looks at its components, only
joining and display look at its text.
-/

namespace Postroom

structure Path where
  text : String
  deriving DecidableEq

namespace Path

instance : ToString Path := ⟨Path.text⟩

def isAbsolute (path : Path) : Bool :=
  path.text.toList.head? = some '/'

/-- What stands between the slashes. -/
def pieces (path : Path) : List String :=
  (Text.splitChars (· == '/') path.text.toList).map String.ofList

def components (path : Path) : List String :=
  path.pieces.filter fun c => c ≠ "" ∧ c ≠ "."

/-- Whether the path ends in a dot, which stands for a directory that is there already. -/
def endsInDot (path : Path) : Bool :=
  path.pieces.getLast? = some "."

/-- Whether only a directory can be meant, as the path ends in a slash or a dot. -/
def meansDirectory (path : Path) : Bool :=
  path.endsInDot || path.pieces.getLast? = some ""

/-- Append a path: an absolute one replaces what it is appended to, another one is set off by a
single slash. -/
def join (path : Path) (more : String) : Path :=
  if (⟨more⟩ : Path).isAbsolute then ⟨more⟩
  else if path.text.isEmpty || path.text.toList.getLast? = some '/' then ⟨path.text ++ more⟩
  else ⟨path.text ++ "/" ++ more⟩

/-- Whether `path` is `ancestor` or lies below it. -/
def isWithin (path ancestor : Path) : Bool :=
  path.isAbsolute == ancestor.isAbsolute && ancestor.components.isPrefixOf path.components

end Path

end Postroom
