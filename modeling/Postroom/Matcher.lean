import Postroom.Mail

/-!
Matchers select recipients of a mail. A matcher never changes the mail, but it may fail, and what
it answers need not be recipients of the mail at all; whoever asks it cuts the answer down.
-/

namespace Postroom

structure MatcherError where
  matcher : String
  reason : String
  deriving DecidableEq

def MatcherError.message (e : MatcherError) : String :=
  "Matcher " ++ e.matcher ++ " failed: " ++ e.reason

structure Matcher where
  name : String
  select : Mail → Except MatcherError Recipients

namespace Matcher

/-- Every recipient that `inner` does not select. -/
def negate (inner : Matcher) : Matcher where
  name := "NOT " ++ inner.name
  select mail := do
    let selected ← inner.select mail
    return mail.recipients.filter fun r => !selected.contains r

/-- What both select. The right one is not asked if the left one selects nothing. -/
def both (left right : Matcher) : Matcher where
  name := left.name ++ " AND " ++ right.name
  select mail := do
    let selected ← left.select mail
    if selected.isEmpty then return selected
    let others ← right.select mail
    return selected.filter fun r => others.contains r

/-- What either selects. -/
def either (left right : Matcher) : Matcher where
  name := left.name ++ " OR " ++ right.name
  select mail := do
    let selected ← left.select mail
    let others ← right.select mail
    return selected.insertMany others.toList

/-- The recipients for which `holds` is true. -/
def recipientsWhere (name : String) (holds : Address → Bool) : Matcher where
  name
  select mail := .ok (mail.recipients.filter holds)

/-- All recipients of a mail for which `holds` is true, and none of another. -/
def allWhen (name : String) (holds : Mail → Bool) : Matcher where
  name
  select mail := .ok (if holds mail then mail.recipients else ∅)

end Matcher

end Postroom
