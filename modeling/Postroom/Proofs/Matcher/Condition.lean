import Postroom.Proofs.Matcher.Builtin

/-!
What the built-in matchers have against a condition. The error that their builders answer with is
about a parameter, never about the expression that the condition stands in; beyond that the standard
catalogue knows only that there is no matcher of a name.
-/

namespace Postroom

namespace Matcher

variable {name parameter : String} {condition : Option String} {e : ConfigError}

end Matcher

namespace Catalogue

end Catalogue

end Postroom
