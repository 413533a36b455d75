import Postroom.Queue.Error
import Postroom.Text.Name

/-!
Readers of configuration documents. Documents are written in RON, an object notation with structs,
variants, lists and maps; between any two lexemes there may be blanks and comments. A reader takes
characters from the front of a document or fails. Only one kind of failure tells why: a queue path
that is refused as soon as it has been read.
-/

namespace Postroom.Ron

inductive DocumentError where
  /-- The document is not of the form that was asked for. -/
  | malformed
  | queuePath (e : QueuePathError)
  deriving DecidableEq

def DocumentError.message : DocumentError → String
  | .malformed => "The document is malformed"
  | .queuePath e => e.message

abbrev Reader := StateT (List Char) (Except DocumentError)

/-- Turn a function on characters into a reader. -/
def reader {α : Type} (run : List Char → Option (α × List Char)) : Reader α := fun cs =>
  match run cs with
  | some found => .ok found
  | none => .error .malformed

def malformed {α : Type} : Reader α :=
  throw .malformed

/-- Pattern_White_Space of Unicode. -/
def isBlank (c : Char) : Bool :=
  let n := c.toNat
  (9 ≤ n && n ≤ 13) || n == 0x20 || n == 0x85 || n == 0x200E || n == 0x200F || n == 0x2028 ||
    n == 0x2029

/-- What follows the end of `depth` nested block comments. -/
def closeComment (depth : Nat) : List Char → Option (List Char)
  | [] => if depth = 0 then some [] else none
  | [c] => if depth = 0 then some [c] else none
  | c :: d :: rest =>
      if depth = 0 then some (c :: d :: rest)
      else if c = '/' ∧ d = '*' then closeComment (depth + 1) rest
      else if c = '*' ∧ d = '/' then closeComment (depth - 1) rest
      else closeComment depth (d :: rest)

theorem closeComment_length {depth : Nat} {cs rest : List Char}
    (h : closeComment depth cs = some rest) : rest.length ≤ cs.length := by
  fun_induction closeComment depth cs with
  | case1 | case3 | case5 =>
      obtain rfl := Option.some.inj h
      exact Nat.le_refl _
  | case2 | case4 => cases h
  | case6 depth c d rest _ hopen ih =>
      have := ih h
      simp only [List.length_cons]
      omega
  | case7 depth c d rest _ _ hclose ih =>
      have := ih h
      simp only [List.length_cons]
      omega
  | case8 depth c d rest _ _ _ ih =>
      have := ih h
      simp only [List.length_cons] at this ⊢
      omega

private theorem length_dropWhile_le {p : Char → Bool} (cs : List Char) :
    (cs.dropWhile p).length ≤ cs.length :=
  (List.dropWhile_sublist p).length_le

/-- What follows blanks and comments. There is nothing behind a comment that is not closed, nor
behind a slash that begins none. -/
def skipBlanks (cs : List Char) : Option (List Char) :=
  match _h : cs.dropWhile isBlank with
  | '/' :: '/' :: rest => skipBlanks (rest.dropWhile (· ≠ '\n'))
  | '/' :: '*' :: rest =>
      match _hclose : closeComment 1 rest with
      | some rest => skipBlanks rest
      | none => none
  | '/' :: _ => none
  | rest => some rest
termination_by cs.length
decreasing_by
  · have hdrop := length_dropWhile_le (p := isBlank) cs
    have hline := length_dropWhile_le (p := (· ≠ '\n')) rest
    simp only [_h, List.length_cons] at hdrop
    omega
  · have hdrop := length_dropWhile_le (p := isBlank) cs
    have hclosed := closeComment_length _hclose
    simp only [_h, List.length_cons] at hdrop
    omega

def blanks : Reader Unit :=
  reader fun cs => (skipBlanks cs).map ((), ·)

/-- Whether the document goes on with a text. -/
def ahead (text : String) : Reader Bool := do
  return text.toList.isPrefixOf (← get)

/-- Take a text if the document goes on with it. -/
def accept (text : String) : Reader Bool := do
  if ← ahead text then
    modify (·.drop text.length)
    return true
  else return false

def expect (text : String) : Reader Unit := do
  if !(← accept text) then malformed

/-- Take a comma with the blanks around it, if there is one. The blanks before it are taken in any
case. -/
def acceptComma : Reader Bool := do
  blanks
  if ← accept "," then
    blanks
    return true
  else return false

/-- Whether the document goes on with a text that is not the beginning of a longer name. -/
def wordAhead (word : String) : Reader Bool := do
  let cs ← get
  return word.toList.isPrefixOf cs && !((cs.drop word.length).head?.any Text.isNameChar)

/-- Take a word if the document goes on with it. -/
def acceptWord (word : String) : Reader Bool := do
  if ← wordAhead word then
    modify (·.drop word.length)
    return true
  else return false

/-- A character of a raw name. -/
def isRawNameChar (c : Char) : Bool :=
  c == '.' || c == '+' || c == '-' || Text.isNameChar c

/-- What begins the quotation of a text, of bytes or of a byte, although it starts like a name. -/
def quotationMarks : List String :=
  ["b\"", "b'", "br#", "br\"", "r\"", "r#\"", "r##"]

/-- Read a name. A name with a dot or a sign in it has to be marked as raw. -/
def takeName? (cs : List Char) : Option (String × List Char) :=
  if !cs.head?.any Text.isNameStart || quotationMarks.any (·.toList.isPrefixOf cs) then none
  else match cs with
    | 'r' :: '#' :: raw =>
        let name := raw.takeWhile isRawNameChar
        if name.isEmpty then none else some (String.ofList name, raw.drop name.length)
    | _ =>
        let name := cs.takeWhile Text.isNameChar
        let rest := cs.drop name.length
        if rest.head?.any isRawNameChar then none else some (String.ofList name, rest)

def name : Reader String :=
  reader takeName?

/-- Read items up to a closing mark, with commas between them and at most one behind the last. The
mark itself stays. At most `limit` items are read. -/
def itemsWithin {α : Type} (close : String) (item : Reader α) : Nat → Reader (List α)
  | 0 => malformed
  | limit + 1 => do
      blanks
      if ← ahead close then return []
      let first ← item
      if ← acceptComma then return first :: (← itemsWithin close item limit)
      if ← ahead close then return [first] else malformed

/-- Read items up to a closing mark. Each takes a character at least, so there are no more of them
than characters. -/
def items {α : Type} (close : String) (item : Reader α) : Reader (List α) := do
  itemsWithin close item ((← get).length + 1)

end Postroom.Ron
