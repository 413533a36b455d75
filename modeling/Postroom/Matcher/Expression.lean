import Postroom.ConfigError
import Postroom.Matcher
import Postroom.Text.Blank

/-!
Matcher expressions: one term, or two terms joined by `AND` or `OR`, where a term is an atom with
or without `NOT` before it. The operators are whole words in upper case and all words between them
make up one atom, so the condition of an atom may hold blanks. More than one binary operator is
refused.
-/

namespace Postroom.Matcher

inductive Token where
  | not
  | and
  | or
  | atom (text : String)
  deriving DecidableEq

namespace Token

def operator? : String → Option Token
  | "NOT" => some .not
  | "AND" => some .and
  | "OR" => some .or
  | _ => none

/-- The atom made of the words read so far, if there are any. -/
private def ofWords (words : List String) : List Token :=
  if words.isEmpty then [] else [.atom (" ".intercalate words)]

/-- Tokens of a list of words, given the words of an atom that has begun. -/
def ofWordsFrom (begun : List String) : List String → List Token
  | [] => ofWords begun
  | word :: rest =>
      match operator? word with
      | some token => ofWords begun ++ token :: ofWordsFrom [] rest
      | none => ofWordsFrom (begun ++ [word]) rest

theorem ofWordsFrom_nil (begun : List String) :
    ofWordsFrom begun [] = if begun.isEmpty then [] else [.atom (" ".intercalate begun)] := rfl

/-- A word that is no operator belongs to the atom that has begun. -/
theorem ofWordsFrom_word {word : String} (h : operator? word = none) (begun rest : List String) :
    ofWordsFrom begun (word :: rest) = ofWordsFrom (begun ++ [word]) rest := by
  rw [ofWordsFrom, h]

/-- An operator ends the atom that has begun. -/
theorem ofWordsFrom_operator {word : String} {token : Token} (h : operator? word = some token)
    (begun rest : List String) :
    ofWordsFrom begun (word :: rest) = ofWordsFrom begun [] ++ token :: ofWordsFrom [] rest := by
  simp only [ofWordsFrom, h]

def ofSpec (spec : String) : List Token :=
  ofWordsFrom [] (Text.words spec)

end Token

/-- The name of an atom and its condition, which follows the first equals sign. -/
def splitAtom (atom : String) : String × Option String :=
  match Text.cutFirstChars '=' atom.toList with
  | none => (Text.trim atom, none)
  | some (name, condition) =>
      (Text.trim (String.ofList name), some (Text.trim (String.ofList condition)))

/-- Builds the matcher of an atom from its name and condition. -/
abbrev AtomBuilder := String → Option String → Except ConfigError Matcher

/-- Read one term and what follows it. -/
def parseTerm (spec : String) (build : AtomBuilder) :
    List Token → Except ConfigError (Matcher × List Token)
  | .not :: .atom text :: rest => do
      let (name, condition) := splitAtom text
      return (negate (← build name condition), rest)
  | .not :: _ => .error (.invalidMatcher spec .nothingNegated)
  | .atom text :: rest => do
      let (name, condition) := splitAtom text
      return (← build name condition, rest)
  | _ :: _ => .error (.invalidMatcher spec .matcherExpected)
  | [] => .error (.invalidMatcher spec .endOfExpression)

/-- Read the second term of an expression, behind which it must end. -/
def parseSecond (spec : String) (build : AtomBuilder) (combine : Matcher → Matcher)
    (tokens : List Token) : Except ConfigError Matcher := do
  let (right, rest) ← parseTerm spec build tokens
  match rest with
  | [] => return combine right
  | .and :: _ | .or :: _ => .error (.matcherTooComplex spec)
  | _ :: _ => .error (.invalidMatcher spec .unexpectedInput)

def parse (spec : String) (build : AtomBuilder) : Except ConfigError Matcher := do
  let (left, rest) ← parseTerm spec build (Token.ofSpec spec)
  match rest with
  | [] => return left
  | .and :: rest => parseSecond spec build (both left) rest
  | .or :: rest => parseSecond spec build (either left) rest
  | _ :: _ => .error (.invalidMatcher spec .operatorExpected)

end Postroom.Matcher
