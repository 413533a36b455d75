import Postroom.MailId

/-!
Labels for generated ids. Their random bits cannot be foreseen, so a record of a rehearsal names
them `new1`, `new2` and so on in the order in which they are met; one id always has the same label.
-/

namespace Postroom.Rehearsal

/-- The random bits that generated ids take in rehearsals. -/
structure IdRange where
  first : Nat
  size : Nat

namespace IdRange

def holds (range : IdRange) (id : MailId) : Bool :=
  range.first ≤ id.randomBits && id.randomBits < range.first + range.size

/-- The generated id that a text begins with. Only its canonical form counts. -/
def idAhead? (range : IdRange) (cs : List Char) : Option MailId := do
  let head := cs.take 26
  let id ← if head.all fun c => c.isDigit || c.isUpper then MailId.ofChars? head else none
  if range.holds id && id.chars = head then some id else none

end IdRange

/-- The ids met so far, in order. -/
abbrev Labels := Array MailId

namespace Labels

/-- The label of an id, which is a new one if it is met for the first time. -/
def labelOf (seen : Labels) (id : MailId) : String × Labels :=
  match seen.idxOf? id with
  | some i => ("new" ++ toString (i + 1), seen)
  | none => ("new" ++ toString (seen.size + 1), seen.push id)

/-- Write labels for the generated ids in `cs`, behind what is already written. -/
def labelChars (range : IdRange) (seen : Labels) (written : String) (cs : List Char) :
    String × Labels :=
  match cs with
  | [] => (written, seen)
  | c :: rest =>
      match range.idAhead? (c :: rest) with
      | some id =>
          let (label, seen) := seen.labelOf id
          labelChars range seen (written ++ label) ((c :: rest).drop 26)
      | none => labelChars range seen (written.push c) rest
termination_by cs.length
decreasing_by all_goals simp only [List.length_drop, List.length_cons]; omega

/-- Write labels for the generated ids in a text. -/
def label (range : IdRange) (seen : Labels) (s : String) : String × Labels :=
  labelChars range seen "" s.toList

end Labels

end Postroom.Rehearsal
