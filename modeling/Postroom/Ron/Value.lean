import Postroom.Ron.Literal

/-!
Values of documents. Typed readers ask for one kind of value; a value that nobody asked for is
skipped, whatever its kind. Brackets may be nested to a limited depth, of which a list takes two
levels, one for itself and one for its items, and others likewise.
-/

namespace Postroom.Ron

/-- How a value is to be read. -/
structure Scope where
  /-- Levels of nesting that are left. -/
  depth : Nat
  /-- Whether every struct has to be written with its name. -/
  explicitNames : Bool

namespace Scope

/-- Levels of nesting in a document. -/
def maxDepth : Nat := 128

/-- The scope one level below. -/
def deeper (scope : Scope) : Reader Scope :=
  match scope.depth with
  | 0 => malformed
  | depth + 1 => return { scope with depth }

end Scope

/-- Words that stand for a value of their own. -/
def valueWords : List String :=
  ["true", "false", "None", "inf", "inff32", "inff64", "NaN", "NaNf32", "NaNf64"]

/-- Whether the opening parenthesis ahead is that of named fields. -/
def namedFieldsAhead : List Char → Bool
  | '(' :: cs =>
      let field? := do
        let (_, cs) ← takeName? (← skipBlanks cs)
        skipBlanks cs
      match field? with
      | some (':' :: _) => true
      | _ => false
  | _ => false

/-- Take one of some words, if one is ahead. -/
def acceptAnyWord : List String → Reader Bool
  | [] => return false
  | word :: rest => do
      if ← acceptWord word then return true else acceptAnyWord rest

/-- Skip items between two marks. -/
def skipItems (opening closing : String) (item : Reader Unit) : Reader Unit := do
  expect opening
  let _ ← items closing item
  blanks
  expect closing

/-- Skip the value of a field or an entry, with the colon before it. -/
def skipAssigned (value : Reader Unit) : Reader Unit := do
  blanks
  expect ":"
  blanks
  value

/-- Skip what stands in parentheses: named fields or the items of a tuple. -/
def skipParentheses (value : Reader Unit) : Reader Unit := do
  if namedFieldsAhead (← get) then
    skipItems "(" ")" do
      let _ ← name
      skipAssigned value
  else skipItems "(" ")" value

/-- Skip a value that does not begin with a name. `item` skips what is two levels below, and
`enclosed` tells whether there is one level left for brackets. -/
def skipUnnamed (enclosed : Bool) (item : Reader Unit) : Reader Unit := do
  match ← get with
  | '(' :: _ => if enclosed then skipParentheses item else malformed
  | '[' :: _ => if enclosed then skipItems "[" "]" item else malformed
  | '\x7b' :: _ =>
      if enclosed then
        skipItems "\x7b" "\x7d" do
          item
          skipAssigned item
      else malformed
  | '"' :: _ | 'r' :: _ => do let _ ← text
  | '\x27' :: _ => reader fun cs => (skipCharacter? cs).map ((), ·)
  | 'b' :: '\x27' :: _ => reader fun cs => (skipByte? cs).map ((), ·)
  | 'b' :: _ => reader fun cs => (skipBytes? cs).map ((), ·)
  | c :: _ =>
      if c.isDigit || c = '+' || c = '-' || c = '.' then
        reader fun cs => (skipNumeric? cs).map ((), ·)
      else malformed
  | [] => malformed

/-- Whether a second item follows the first one of those ahead, `depth` brackets being open. There
is no answer if the brackets are not closed. At most `limit` characters are looked at. -/
def severalWithin : Nat → Nat → List Char → Option Bool
  | 0, _, _ => none
  | limit + 1, depth, cs => do
      let cs ← skipBlanks cs
      let cs := (skipCharacter? cs).getD cs
      let cs := ((text? cs).map Prod.snd).getD cs
      let cs := (skipBytes? cs).getD cs
      match cs with
      | [] => none
      | c :: rest =>
          if "([\x7b".toList.contains c then severalWithin limit (depth + 1) rest
          else if ")]\x7d".toList.contains c then
            if depth ≤ 1 then some false else severalWithin limit (depth - 1) rest
          else if c = ',' ∧ depth = 1 then return (← skipBlanks rest).head? ≠ some ')'
          else severalWithin limit depth rest

/-- Whether an opening parenthesis is ahead with several items behind it. -/
def severalAhead : List Char → Option Bool
  | '(' :: cs => severalWithin (cs.length + 1) 1 cs
  | _ => some false

/-- Skip an optional value behind its word. `inner` skips what is one level below. Named fields and
several items make a value of their own, which takes two levels more: `item` skips one of them. -/
def skipSome (inner item : Reader Unit) : Reader Unit := do
  blanks
  if ← ahead "(" then
    let cs ← get
    if namedFieldsAhead cs then skipParentheses item
    else match severalAhead cs with
      | none => malformed
      | some true => skipItems "(" ")" item
      | some false =>
          expect "("
          blanks
          inner
          let _ ← acceptComma
          expect ")"
  else inner

/-- Skip a value, given how to skip what is one, two and three levels below it. -/
def skipShape (enclosed : Bool) (inner item deep : Reader Unit) : Reader Unit := do
  if ← acceptAnyWord valueWords then return
  if ← acceptWord "Some" then skipSome inner deep
  else if ← accept "()" then return
  else match takeName? (← get) with
    | some (_, rest) =>
        set rest
        blanks
        if ← ahead "(" then
          if enclosed then skipParentheses item else malformed
    | none => skipUnnamed enclosed item

/-- Skip a value of any kind with so many levels of nesting. -/
def skipValue : Nat → Reader Unit
  | 0 => skipShape false malformed malformed malformed
  | 1 => skipShape true (skipValue 0) malformed malformed
  | 2 => skipShape true (skipValue 1) (skipValue 0) malformed
  | depth + 3 => skipShape true (skipValue (depth + 2)) (skipValue (depth + 1)) (skipValue depth)

/-- Read a truth value. -/
def bool : Reader Bool := do
  if ← acceptWord "true" then return true
  else if ← acceptWord "false" then return false
  else malformed

/-- Read a value that may be missing. The word that marks a present one may be left out. -/
def optional {α : Type} (scope : Scope) (value : Reader α) : Reader (Option α) := do
  if ← acceptWord "None" then return none
  let _ ← scope.deeper
  if ← acceptWord "Some" then
    blanks
    if ← accept "(" then
      blanks
      let a ← value
      let _ ← acceptComma
      expect ")"
      return some a
  return some (← value)

/-- Read the items of a list. -/
def list {α : Type} (scope : Scope) (item : Scope → Reader α) : Reader (List α) := do
  expect "["
  let scope ← scope.deeper
  let found ← items "]" do item (← scope.deeper)
  blanks
  expect "]"
  return found

/-- Read what stands behind the colon of a field or an entry. -/
def assigned {α : Type} (scope : Scope) (value : Scope → Reader α) : Reader α := do
  blanks
  expect ":"
  blanks
  value (← scope.deeper)

/-- Read the entries of a map from texts to texts. Of two entries with one key the last counts. -/
def textMap (scope : Scope) : Reader (Std.ExtTreeMap String String) := do
  expect "\x7b"
  let scope ← scope.deeper
  let entries ← items "\x7d" do
    let _ ← scope.deeper
    let key ← text
    return (key, ← assigned scope fun _ => text)
  blanks
  expect "\x7d"
  return entries.foldl (fun map (key, value) => map.insert key value) ∅

/-- A field that a struct may have, with how its value goes into what has been read so far. -/
structure StructField (α : Type) where
  name : String
  read : Scope → Reader (α → α)

/-- Read named fields up to the closing parenthesis. No known field may occur twice; unknown ones
are skipped. -/
def fieldsWithin {α : Type} (scope : Scope) (known : List (StructField α)) :
    Nat → List String → α → Reader α
  | 0, _, _ => malformed
  | limit + 1, seen, draft => do
      blanks
      if ← ahead ")" then return draft
      let _ ← scope.deeper
      let found ← name
      let draft ← match known.find? (·.name = found) with
        | none => do
            assigned scope fun scope => skipValue scope.depth
            pure draft
        | some field =>
            if seen.contains found then malformed
            else do
              let update ← assigned scope field.read
              pure (update draft)
      if ← acceptComma then fieldsWithin scope known limit (found :: seen) draft
      else if ← ahead ")" then return draft
      else malformed

/-- Read the fields of a struct, without the parentheses around them. -/
def fields {α : Type} (scope : Scope) (known : List (StructField α)) (draft : α) : Reader α := do
  fieldsWithin (← scope.deeper) known ((← get).length + 1) [] draft

/-- Read the name of a struct, which may be left out unless names are explicit. -/
def structName (scope : Scope) (expected : String) : Reader Unit := do
  if ((← get).head?.any Text.isNameChar) then
    let found ← name
    if found ≠ expected then malformed
  else if scope.explicitNames then malformed

/-- Read a struct, then make a value of what its fields gave. -/
def struct {α β : Type} (scope : Scope) (expected : String) (known : List (StructField α))
    (draft : α) (finish : α → Reader β) : Reader β := do
  structName scope expected
  blanks
  expect "("
  let value ← finish (← fields scope known draft)
  blanks
  expect ")"
  return value

/-- Read what a variant holds, in the parentheses behind its name. -/
def payload {α : Type} (scope : Scope) (value : Scope → Reader α) : Reader α := do
  blanks
  expect "("
  blanks
  let found ← value (← scope.deeper)
  let _ ← acceptComma
  expect ")"
  return found

/-- Read a variant, whose name tells what it holds. -/
def variant {α : Type} (scope : Scope) (cases : List (String × (Scope → Reader α))) :
    Reader α := do
  blanks
  let scope ← scope.deeper
  let _ ← scope.deeper
  match cases.lookup (← name) with
  | some read => read scope
  | none => malformed

/-- Extensions of the notation that a document may ask for. -/
def extensions : List String :=
  ["unwrap_newtypes", "implicit_some", "unwrap_variant_newtypes", "explicit_struct_names"]

/-- Read the names of extensions up to the end of their list. -/
def extensionNames : Nat → Reader (List String)
  | 0 => malformed
  | limit + 1 => do
      let found ← name
      if !extensions.contains found then malformed
      let more ← acceptComma
      if (← get).head?.any Text.isNameChar then
        if more then return found :: (← extensionNames limit) else malformed
      else return [found]

/-- Take some texts with blanks behind each. -/
def expectAll : List String → Reader Unit
  | [] => return
  | text :: rest => do
      expect text
      blanks
      expectAll rest

/-- Labels for other tools, of which no more is asked than that they are texts. -/
def labels : List String :=
  ["type", "schema"]

/-- Read an attribute behind its opening bracket: the extensions it asks for. -/
def requested : Reader (List String) := do
  let kind ← name
  blanks
  if kind = "enable" then
    expectAll ["("]
    let found ← extensionNames ((← get).length + 1)
    blanks
    expectAll [")", "]"]
    return found
  else if labels.contains kind then
    expectAll ["="]
    let _ ← text
    blanks
    expectAll ["]"]
    return []
  else malformed

/-- Read the attributes at the head of a document: the extensions they ask for. At most `limit`
attributes are read. -/
def attributes : Nat → Reader (List String)
  | 0 => return []
  | limit + 1 => do
      if ← ahead "#" then
        expectAll ["#", "!", "["]
        let found ← requested
        return found ++ (← attributes limit)
      else return []

/-- Read a document that consists of one value, with blanks and comments around it. -/
def document {α : Type} (value : Scope → Reader α) (source : String) : Except DocumentError α := do
  let read : Reader α := do
    blanks
    let found ← attributes source.length
    let found ← value ⟨Scope.maxDepth, found.contains "explicit_struct_names"⟩
    blanks
    if !(← get).isEmpty then malformed
    return found
  (read.run source.toList).map Prod.fst

end Postroom.Ron
