import Postroom.Text.Utf8

/-!
Raw messages, header block and body together. Contents are values: a mailet that changes a message
installs a new one, so branches that hold the old one do not notice.
-/

namespace Postroom

structure Content where
  bytes : List UInt8
  deriving DecidableEq

namespace Content

instance : Inhabited Content := ⟨⟨[]⟩⟩

def empty : Content := ⟨[]⟩

def ofText (s : String) : Content := ⟨Text.toBytes s⟩

def size (content : Content) : Nat :=
  content.bytes.length

/-- The header line that `withHeader` puts in front. -/
def headerLine (name value : String) : List UInt8 :=
  Text.toBytes (name ++ ": " ++ value ++ "\r\n")

/-- The message with one more header line in front of its header block. -/
def withHeader (content : Content) (name value : String) : Content :=
  ⟨headerLine name value ++ content.bytes⟩

end Content

end Postroom
