import Postroom.Text.Quoted

/-!
Faults of a configuration, found while chains and their routing table are built. The reason of an
invalid parameter is a text, because components that are not built in have reasons of their own.
-/

namespace Postroom

/-- Where a matcher expression leaves its grammar. -/
inductive ExpressionFault where
  | nothingNegated
  | matcherExpected
  | endOfExpression
  | operatorExpected
  | unexpectedInput
  deriving DecidableEq

def ExpressionFault.message : ExpressionFault → String
  | .nothingNegated => "NOT must be followed by a matcher"
  | .matcherExpected => "expected a matcher"
  | .endOfExpression => "expected a matcher, found end of expression"
  | .operatorExpected => "expected AND or OR between matchers"
  | .unexpectedInput => "unexpected input after expression"

inductive FallthroughFault where
  | unresolved (state : String)
  | toItself
  deriving DecidableEq

def FallthroughFault.message : FallthroughFault → String
  | .unresolved state => "state " ++ Text.quote state ++ " does not resolve"
  | .toItself => "falls through to itself"

inductive ConfigError where
  | unknownMatcher (name : String)
  | unknownMailet (name : String)
  /-- More than one binary operator. -/
  | matcherTooComplex (spec : String)
  | invalidMatcher (spec : String) (fault : ExpressionFault)
  | missingParameter (component parameter : String)
  | invalidParameter (component parameter reason : String)
  | duplicateProcessor (name : String)
  | unresolvedState (state : String)
  | invalidFallthrough (processor : String) (fault : FallthroughFault)
  /-- The chain that handles failures hands mail to a state that nothing processes. -/
  | unresolvedRoute (processor state : String)
  deriving DecidableEq

def ConfigError.message : ConfigError → String
  | .unknownMatcher name => "Unknown matcher: " ++ name
  | .unknownMailet name => "Unknown mailet: " ++ name
  | .matcherTooComplex spec => "Matcher expression is too complex: " ++ spec
  | .invalidMatcher spec fault =>
      "Invalid matcher expression " ++ Text.quote spec ++ ": " ++ fault.message
  | .missingParameter component parameter =>
      component ++ " requires parameter " ++ Text.quote parameter
  | .invalidParameter component parameter reason =>
      component ++ " has invalid parameter " ++ Text.quote parameter ++ ": " ++ reason
  | .duplicateProcessor name => "Processor " ++ Text.quote name ++ " is defined more than once"
  | .unresolvedState state =>
      "State " ++ Text.quote state ++ " does not resolve to any processor"
  | .invalidFallthrough processor fault =>
      "Processor " ++ Text.quote processor ++ " has an invalid fallthrough: " ++ fault.message
  | .unresolvedRoute processor state =>
      "Processor " ++ Text.quote processor ++ " routes mail to state " ++ Text.quote state ++
        ", which does not resolve"

/-- The name of the kind of fault, for reports. -/
def ConfigError.kind : ConfigError → String
  | .unknownMatcher _ => "UnknownMatcher"
  | .unknownMailet _ => "UnknownMailet"
  | .matcherTooComplex _ => "MatcherTooComplex"
  | .invalidMatcher _ _ => "InvalidMatcher"
  | .missingParameter _ _ => "MissingParameter"
  | .invalidParameter _ _ _ => "InvalidParameter"
  | .duplicateProcessor _ => "DuplicateProcessor"
  | .unresolvedState _ => "UnresolvedState"
  | .invalidFallthrough _ _ => "InvalidFallthrough"
  | .unresolvedRoute _ _ => "UnresolvedRoute"

end Postroom
