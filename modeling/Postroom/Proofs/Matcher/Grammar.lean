import Postroom.Proofs.Matcher.Builtin
import Postroom.Proofs.Text.Words

/-!
The grammar of matcher expressions. A formula is one term, or two of them with a connective between;
a term is an atom or a negated one, and an atom is a run of words that are no operators. Its words
in their order are what it reads as. A specification is built exactly if it reads as a formula whose
atoms are built; two terms that are built, and a connective behind them, are too complex.
-/

namespace Postroom.Matcher

def operators : List String := ["NOT", "AND", "OR"]

structure Atom where
  words : List String
  nonempty : words ≠ []
  plain : ∀ word ∈ words, word ∉ operators

/-- The words of an atom with single spaces between them. -/
def Atom.text (a : Atom) : String :=
  " ".intercalate a.words

def Atom.build (build : AtomBuilder) (a : Atom) : Except ConfigError Matcher :=
  build (splitAtom a.text).1 (splitAtom a.text).2

structure Term (α : Type) where
  negated : Bool
  operand : α

inductive Connective where
  | and
  | or

/-- One term, or two of them. -/
inductive Formula (α : Type) where
  | single (term : Term α)
  | joined (left : Term α) (op : Connective) (right : Term α)

def Term.words (t : Term Atom) : List String :=
  if t.negated then "NOT" :: t.operand.words else t.operand.words

def Connective.word : Connective → String
  | .and => "AND"
  | .or => "OR"

def Connective.token : Connective → Token
  | .and => .and
  | .or => .or

def Formula.words : Formula Atom → List String
  | .single t => t.words
  | .joined left op right => left.words ++ op.word :: right.words

def Term.matcher (t : Term Matcher) : Matcher :=
  if t.negated then t.operand.negate else t.operand

def Connective.join : Connective → Matcher → Matcher → Matcher
  | .and => both
  | .or => either

def Formula.matcher : Formula Matcher → Matcher
  | .single t => t.matcher
  | .joined left op right => op.join left.matcher right.matcher

/-- Whether a term over matchers is one over atoms with the atom built. -/
structure Term.Builds (build : AtomBuilder) (t : Term Atom) (u : Term Matcher) : Prop where
  negated : t.negated = u.negated
  operand : t.operand.build build = .ok u.operand

/-- Whether a formula over matchers is one over atoms with each atom built. -/
inductive Formula.Builds (build : AtomBuilder) : Formula Atom → Formula Matcher → Prop where
  | single {t : Term Atom} {u : Term Matcher} :
      t.Builds build u → Builds build (.single t) (.single u)
  | joined {left right : Term Atom} {first second : Term Matcher} {op : Connective} :
      left.Builds build first → right.Builds build second →
      Builds build (.joined left op right) (.joined first op second)

/-- Whether an atom ends before these words. -/
def Ends (rest : List String) : Prop :=
  ∀ word ∈ rest.head?, word ∈ operators

/-- Whether words begin with a term, behind which the rest of them stand. -/
structure Opens (t : Term Atom) (ws rest : List String) : Prop where
  words : ws = t.words ++ rest
  ends : Ends rest

/-- Whether words begin with a formula over two terms, both of which are built, and go on. -/
def TooLong (build : AtomBuilder) (ws : List String) : Prop :=
  ∃ left op right g, ∃ next : Connective, ∃ more,
    ws = (Formula.joined left op right).words ++ next.word :: more ∧
      Formula.Builds build (.joined left op right) g

/-- Whether the builder of an atom answers with an error, before which nothing is wrong. -/
inductive Refuses (build : AtomBuilder) (e : ConfigError) : List String → Prop where
  | first {t : Term Atom} {ws rest : List String} :
      Opens t ws rest → t.operand.build build = .error e → Refuses build e ws
  | second {left right : Term Atom} {first : Term Matcher} {op : Connective}
      {ws more rest : List String} :
      Opens left ws (op.word :: more) → left.Builds build first → Opens right more rest →
      right.operand.build build = .error e → Refuses build e ws

theorem ends_nil : Ends [] := by
  intro word hword
  cases hword

theorem Connective.ends (op : Connective) (more : List String) : Ends (op.word :: more) := by
  intro word hword
  cases hword
  cases op <;> decide

/-- What stands behind an atom. -/
theorem Ends.cases {rest : List String} (h : Ends rest) :
    rest = [] ∨ (∃ more, rest = "NOT" :: more) ∨
      ∃ op : Connective, ∃ more, rest = op.word :: more := by
  cases rest with
  | nil => exact .inl rfl
  | cons word more =>
      have hword := h word rfl
      simp only [operators, List.mem_cons, List.not_mem_nil, or_false] at hword
      rcases hword with rfl | rfl | rfl
      · exact .inr (.inl ⟨more, rfl⟩)
      · exact .inr (.inr ⟨.and, more, rfl⟩)
      · exact .inr (.inr ⟨.or, more, rfl⟩)

/-- Words begin with an operator or with an atom, unless there are none. -/
theorem ends_or_atom (ws : List String) :
    Ends ws ∨ ∃ a : Atom, ∃ rest, ws = a.words ++ rest ∧ Ends rest := by
  induction ws with
  | nil => exact .inl ends_nil
  | cons word ws ih =>
      by_cases hword : word ∈ operators
      · refine .inl ?_
        intro w hw
        cases hw
        exact hword
      · refine .inr ?_
        rcases ih with hends | ⟨a, rest, heq, hends⟩
        · exact ⟨⟨[word], by simp, by simpa using hword⟩, ws, rfl, hends⟩
        · refine ⟨⟨word :: a.words, by simp, ?_⟩, rest, by rw [heq]; rfl, hends⟩
          intro w hw
          rcases List.mem_cons.1 hw with rfl | hw
          · exact hword
          · exact a.plain w hw

namespace Token

theorem operator?_eq_none {word : String} (h : word ∉ operators) : operator? word = none := by
  unfold operator?
  split <;> simp_all [operators]

theorem ofWordsFrom_not (rest : List String) :
    ofWordsFrom [] ("NOT" :: rest) = .not :: ofWordsFrom [] rest :=
  ofWordsFrom_operator rfl [] rest

theorem ofWordsFrom_connective (op : Connective) (rest : List String) :
    ofWordsFrom [] (op.word :: rest) = op.token :: ofWordsFrom [] rest := by
  cases op <;> exact ofWordsFrom_operator rfl [] rest

theorem ofWordsFrom_plain {words : List String} (h : ∀ word ∈ words, word ∉ operators)
    (begun rest : List String) :
    ofWordsFrom begun (words ++ rest) = ofWordsFrom (begun ++ words) rest := by
  induction words generalizing begun with
  | nil => simp
  | cons word words ih =>
      have hword := operator?_eq_none (h word (List.mem_cons_self ..))
      have hothers := ih (fun w hw => h w (List.mem_cons_of_mem _ hw)) (begun ++ [word])
      rw [List.cons_append, ofWordsFrom_word hword, hothers, List.append_assoc,
        List.singleton_append]

/-- The words of an atom make one token. -/
theorem ofWordsFrom_atom (a : Atom) {rest : List String} (h : Ends rest) :
    ofWordsFrom [] (a.words ++ rest) = .atom a.text :: ofWordsFrom [] rest := by
  have htext : ofWordsFrom a.words [] = [.atom a.text] := by
    rw [ofWordsFrom_nil, if_neg (by simpa using a.nonempty), Atom.text]
  rw [ofWordsFrom_plain a.plain, List.nil_append]
  rcases h.cases with rfl | ⟨more, rfl⟩ | ⟨op, more, rfl⟩
  · exact htext
  · rw [ofWordsFrom_operator rfl, ofWordsFrom_not, htext]
    rfl
  · have hop : operator? op.word = some op.token := by cases op <;> rfl
    rw [ofWordsFrom_operator hop, ofWordsFrom_connective, htext]
    rfl

end Token

variable {spec : String} {build : AtomBuilder} {ws rest : List String} {t : Term Atom}

/-- A term is read by building its atom. -/
theorem parseTerm_of_opens (h : Opens t ws rest) :
    parseTerm spec build (Token.ofWordsFrom [] ws) =
      (t.operand.build build).map fun m =>
        (Term.matcher ⟨t.negated, m⟩, Token.ofWordsFrom [] rest) := by
  obtain ⟨negated, a⟩ := t
  have hatom := Token.ofWordsFrom_atom a h.ends
  have hwords := h.words
  cases negated with
  | false =>
      rw [hwords, Term.words, if_neg (by simp), hatom, parseTerm]
      dsimp only [Atom.build]
      cases build (splitAtom a.text).1 (splitAtom a.text).2 <;> rfl
  | true =>
      rw [hwords, Term.words, if_pos rfl, List.cons_append, Token.ofWordsFrom_not, hatom, parseTerm]
      dsimp only [Atom.build]
      cases build (splitAtom a.text).1 (splitAtom a.text).2 <;> rfl

/-- Words that do not begin with a term are refused. -/
theorem parseTerm_cases (spec : String) (build : AtomBuilder) (ws : List String) :
    (∃ fault, parseTerm spec build (Token.ofWordsFrom [] ws) =
      .error (.invalidMatcher spec fault)) ∨
      ∃ t rest, Opens t ws rest := by
  rcases ends_or_atom ws with hends | ⟨a, rest, heq, hends⟩
  · rcases hends.cases with rfl | ⟨more, rfl⟩ | ⟨op, more, rfl⟩
    · exact .inl ⟨.endOfExpression, rfl⟩
    · rcases ends_or_atom more with hmore | ⟨a, rest, heq, hends⟩
      · refine .inl ⟨.nothingNegated, ?_⟩
        rw [Token.ofWordsFrom_not]
        rcases hmore.cases with rfl | ⟨more, rfl⟩ | ⟨op, more, rfl⟩
        · rfl
        · rw [Token.ofWordsFrom_not]
          rfl
        · rw [Token.ofWordsFrom_connective]
          cases op <;> rfl
      · refine .inr ⟨⟨true, a⟩, rest, ?_, hends⟩
        rw [heq]
        rfl
    · refine .inl ⟨.matcherExpected, ?_⟩
      rw [Token.ofWordsFrom_connective]
      cases op <;> rfl
  · exact .inr ⟨⟨false, a⟩, rest, heq, hends⟩

theorem parseTerm_of_builds {u : Term Matcher} (h : Opens t ws rest) (hbuilt : t.Builds build u) :
    parseTerm spec build (Token.ofWordsFrom [] ws) = .ok (u.matcher,
      Token.ofWordsFrom [] rest) := by
  rw [parseTerm_of_opens h, hbuilt.operand, hbuilt.negated]
  rfl

theorem parseTerm_of_error {e : ConfigError} (h : Opens t ws rest)
    (hfails : t.operand.build build = .error e) :
    parseTerm spec build (Token.ofWordsFrom [] ws) = .error e := by
  rw [parseTerm_of_opens h, hfails]
  rfl

/-- The builder of an atom answers with an error, or the term is built. -/
theorem Term.error_or_builds (t : Term Atom) (build : AtomBuilder) :
    (∃ e, t.operand.build build = .error e) ∨ ∃ u, t.Builds build u := by
  cases hatom : t.operand.build build with
  | error e => exact .inl ⟨e, rfl⟩
  | ok m => exact .inr ⟨⟨t.negated, m⟩, rfl, hatom⟩

section Second

variable {combine : Matcher → Matcher} {u : Term Matcher}

theorem parseSecond_of_builds (h : Opens t ws []) (hbuilt : t.Builds build u) :
    parseSecond spec build combine (Token.ofWordsFrom [] ws) = .ok (combine u.matcher) := by
  rw [parseSecond, parseTerm_of_builds h hbuilt]
  rfl

theorem parseSecond_of_connective {next : Connective} {more : List String}
    (h : Opens t ws (next.word :: more)) (hbuilt : t.Builds build u) :
    parseSecond spec build combine (Token.ofWordsFrom [] ws) =
      .error (.matcherTooComplex spec) := by
  rw [parseSecond, parseTerm_of_builds h hbuilt, Token.ofWordsFrom_connective]
  cases next <;> rfl

theorem parseSecond_of_not {more : List String} (h : Opens t ws ("NOT" :: more))
    (hbuilt : t.Builds build u) :
    parseSecond spec build combine (Token.ofWordsFrom [] ws) =
      .error (.invalidMatcher spec .unexpectedInput) := by
  rw [parseSecond, parseTerm_of_builds h hbuilt, Token.ofWordsFrom_not]
  rfl

theorem parseSecond_of_error {e : ConfigError}
    (h : parseTerm spec build (Token.ofWordsFrom [] ws) = .error e) :
    parseSecond spec build combine (Token.ofWordsFrom [] ws) = .error e := by
  rw [parseSecond, h]
  rfl

end Second

section First

variable {u : Term Matcher} (hopens : Opens t (Text.words spec) rest) (hbuilt : t.Builds build u)

include hopens hbuilt

theorem parse_of_builds (hrest : rest = []) : parse spec build = .ok u.matcher := by
  rw [parse, Token.ofSpec, parseTerm_of_builds hopens hbuilt, hrest]
  rfl

theorem parse_of_connective {op : Connective} {more : List String}
    (hrest : rest = op.word :: more) :
    parse spec build = parseSecond spec build (op.join u.matcher) (Token.ofWordsFrom [] more) := by
  rw [parse, Token.ofSpec, parseTerm_of_builds hopens hbuilt, hrest, Token.ofWordsFrom_connective]
  cases op <;> rfl

end First

theorem parse_of_error {e : ConfigError}
    (h : parseTerm spec build (Token.ofWordsFrom [] (Text.words spec)) = .error e) :
    parse spec build = .error e := by
  rw [parse, Token.ofSpec, h]
  rfl

/-- The words of a formula with two terms, and what stands behind them. -/
theorem opens_joined {left right : Term Atom} {op : Connective} (hends : Ends rest) :
    Opens left ((Formula.joined left op right).words ++ rest) (op.word :: (right.words ++ rest)) ∧
      Opens right (right.words ++ rest) rest := by
  refine ⟨⟨?_, op.ends _⟩, rfl, hends⟩
  rw [Formula.words, List.append_assoc, List.cons_append]

/-- A specification that reads as a formula is built when its atoms are. -/
theorem parse_of_words {f : Formula Atom} {g : Formula Matcher} (hwords : Text.words spec = f.words)
    (hbuilds : f.Builds build g) : parse spec build = .ok g.matcher := by
  cases hbuilds with
  | @single t u ht =>
      refine parse_of_builds ⟨?_, ends_nil⟩ ht rfl
      rw [hwords, List.append_nil]
      rfl
  | @joined left right first second op hleft hright =>
      obtain ⟨hopens, hlast⟩ := @opens_joined [] left right op ends_nil
      rw [List.append_nil, ← hwords] at hopens
      rw [parse_of_connective hopens hleft rfl, parseSecond_of_builds hlast hright]
      rfl

/-- Two terms and a connective behind them are too complex, provided that the terms are built. -/
theorem parse_of_tooLong (h : TooLong build (Text.words spec)) :
    parse spec build = .error (.matcherTooComplex spec) := by
  obtain ⟨left, op, right, g, next, more, hwords, hbuilds⟩ := h
  cases hbuilds with
  | joined hleft hright =>
      obtain ⟨hopens, hlast⟩ := @opens_joined _ left right op (next.ends more)
      rw [← hwords] at hopens
      rw [parse_of_connective hopens hleft rfl, parseSecond_of_connective hlast hright]

/-- The error of an atom's builder is the answer if nothing before it is wrong. -/
theorem parse_of_refuses {e : ConfigError} (h : Refuses build e (Text.words spec)) :
    parse spec build = .error e := by
  cases h with
  | first hopens hfails => exact parse_of_error (parseTerm_of_error hopens hfails)
  | second hopens hbuilt hlast hfails =>
      rw [parse_of_connective hopens hbuilt rfl,
        parseSecond_of_error (parseTerm_of_error hlast hfails)]

/-- What becomes of a specification. -/
theorem parse_cases (spec : String) (build : AtomBuilder) :
    (∃ fault, parse spec build = .error (.invalidMatcher spec fault)) ∨
      (∃ e, Refuses build e (Text.words spec)) ∨
      (∃ f g, Text.words spec = Formula.words f ∧ f.Builds build g) ∨
      TooLong build (Text.words spec) := by
  rcases parseTerm_cases spec build (Text.words spec) with ⟨fault, hfault⟩ | ⟨t, rest, hopens⟩
  · exact .inl ⟨fault, parse_of_error hfault⟩
  rcases t.error_or_builds build with ⟨e, hfails⟩ | ⟨u, hbuilt⟩
  · exact .inr (.inl ⟨e, .first hopens hfails⟩)
  rcases hopens.ends.cases with rfl | ⟨more, rfl⟩ | ⟨op, more, rfl⟩
  · refine .inr (.inr (.inl ⟨.single t, .single u, ?_, .single hbuilt⟩))
    rw [hopens.words, List.append_nil]
    rfl
  · refine .inl ⟨.operatorExpected, ?_⟩
    rw [parse, Token.ofSpec, parseTerm_of_builds hopens hbuilt, Token.ofWordsFrom_not]
    rfl
  rcases parseTerm_cases spec build more with ⟨fault, hfault⟩ | ⟨last, rest, hlast⟩
  · refine .inl ⟨fault, ?_⟩
    rw [parse_of_connective hopens hbuilt rfl, parseSecond_of_error hfault]
  rcases last.error_or_builds build with ⟨e, hfails⟩ | ⟨v, hright⟩
  · exact .inr (.inl ⟨e, .second hopens hbuilt hlast hfails⟩)
  have hwords : Text.words spec = (Formula.joined t op last).words ++ rest := by
    rw [hopens.words, hlast.words, Formula.words, List.append_assoc, List.cons_append]
  rcases hlast.ends.cases with rfl | ⟨more, rfl⟩ | ⟨next, more, rfl⟩
  · rw [List.append_nil] at hwords
    exact .inr (.inr (.inl ⟨_, .joined u op v, hwords, .joined hbuilt hright⟩))
  · refine .inl ⟨.unexpectedInput, ?_⟩
    rw [parse_of_connective hopens hbuilt rfl, parseSecond_of_not hlast hright]
  · exact .inr (.inr (.inr ⟨t, op, last, .joined u op v, next, more, hwords,
      .joined hbuilt hright⟩))

/-- Specifications that are built are the formulas with their atoms built. -/
theorem parse_eq_ok_iff {m : Matcher} :
    parse spec build = .ok m ↔
      ∃ f g, Text.words spec = Formula.words f ∧ f.Builds build g ∧ m = g.matcher := by
  constructor
  · intro h
    rcases parse_cases spec build with ⟨fault, hfault⟩ | ⟨e, hrefuses⟩ | ⟨f, g, hwords, hbuilds⟩ |
      hlong
    · rw [hfault] at h
      cases h
    · rw [parse_of_refuses hrefuses] at h
      cases h
    · rw [parse_of_words hwords hbuilds] at h
      cases h
      exact ⟨f, g, hwords, hbuilds, rfl⟩
    · rw [parse_of_tooLong hlong] at h
      cases h
  · rintro ⟨f, g, hwords, hbuilds, rfl⟩
    exact parse_of_words hwords hbuilds

end Postroom.Matcher
