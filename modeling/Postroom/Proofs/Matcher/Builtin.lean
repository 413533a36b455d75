import Postroom.Proofs.Mailet.Builtin

/-!
The built-in matchers, and what expressions make of them, as a predicate on matchers. The standard
catalogue builds no others.
-/

namespace Postroom

namespace Matcher

/-- Whether a matcher is one of the built-in ones, with any condition, or an expression over
them. -/
inductive IsBuiltin : Matcher → Prop where
  | all : IsBuiltin all
  | recipientIs (addresses : List Address) : IsBuiltin (recipientIs addresses)
  | senderIs (addresses : List Address) : IsBuiltin (senderIs addresses)
  | senderIsNull : IsBuiltin senderIsNull
  | hostIs (domains : List Domain) : IsBuiltin (hostIs domains)
  | hostIsLocal (localDomains : List Domain) : IsBuiltin (hostIsLocal localDomains)
  | hasAttribute (name : String) : IsBuiltin (hasAttribute name)
  | hasHeader (header : String) : IsBuiltin (hasHeader header)
  | sizeGreaterThan (limit : Nat) : IsBuiltin (sizeGreaterThan limit)
  | negate {inner : Matcher} : IsBuiltin inner → IsBuiltin (negate inner)
  | both {left right : Matcher} : IsBuiltin left → IsBuiltin right → IsBuiltin (both left right)
  | either {left right : Matcher} : IsBuiltin left → IsBuiltin right → IsBuiltin (either left right)

section Expression

variable {build : AtomBuilder} (hbuild : ∀ name condition matcher,
  build name condition = .ok matcher → matcher.IsBuiltin)

include hbuild

/-- A term over built-in matchers is built in. -/
theorem parseTerm_isBuiltin {spec : String} {tokens rest : List Token} {matcher : Matcher}
    (h : parseTerm spec build tokens = .ok (matcher, rest)) : matcher.IsBuiltin := by
  unfold parseTerm at h
  split at h
  · obtain ⟨inner, hinner, h⟩ := ok_of_bind h
    cases h
    exact .negate (hbuild _ _ _ hinner)
  · cases h
  · obtain ⟨inner, hinner, h⟩ := ok_of_bind h
    cases h
    exact hbuild _ _ _ hinner
  · cases h
  · cases h

theorem parseSecond_isBuiltin {spec : String} {combine : Matcher → Matcher}
    (hcombine : ∀ right, right.IsBuiltin → (combine right).IsBuiltin) {tokens : List Token}
    {matcher : Matcher} (h : parseSecond spec build combine tokens = .ok matcher) :
    matcher.IsBuiltin := by
  obtain ⟨⟨right, rest⟩, hright, h⟩ := ok_of_bind h
  dsimp only at h
  split at h
  · cases h
    exact hcombine right (parseTerm_isBuiltin hbuild hright)
  all_goals cases h

/-- An expression over built-in matchers is built in. -/
theorem parse_isBuiltin {spec : String} {matcher : Matcher}
    (h : parse spec build = .ok matcher) : matcher.IsBuiltin := by
  obtain ⟨⟨left, rest⟩, hleft, h⟩ := ok_of_bind h
  have hbuiltin := parseTerm_isBuiltin hbuild hleft
  dsimp only at h
  split at h
  · cases h
    exact hbuiltin
  · exact parseSecond_isBuiltin hbuild (fun right hright => .both hbuiltin hright) h
  · exact parseSecond_isBuiltin hbuild (fun right hright => .either hbuiltin hright) h
  · cases h

end Expression

end Matcher

namespace Catalogue

/-- A matcher that is made of a name is built in if it is whatever the name. -/
theorem isBuiltin_of_map {name : Except ConfigError String} {make : String → Matcher}
    {matcher : Matcher} (hmake : ∀ name, (make name).IsBuiltin) (h : name.map make = .ok matcher) :
    matcher.IsBuiltin := by
  cases name with
  | error e => cases h
  | ok name =>
      cases h
      exact hmake name

theorem builtinMatchers_isBuiltin {name : String} {build : MatcherBuilder}
    {condition : Option String} {host : Host} {matcher : Matcher}
    (hmem : (name, build) ∈ builtinMatchers) (h : build condition host = .ok matcher) :
    matcher.IsBuiltin := by
  simp only [builtinMatchers, List.mem_cons, Prod.mk.injEq, List.not_mem_nil, or_false] at hmem
  rcases hmem with ⟨-, rfl⟩ | ⟨-, rfl⟩ | ⟨-, rfl⟩ | ⟨-, rfl⟩ | ⟨-, rfl⟩ | ⟨-, rfl⟩ | ⟨-, rfl⟩ |
    ⟨-, rfl⟩ | ⟨-, rfl⟩
  · cases h
    exact .all
  · obtain ⟨text, -, h⟩ := ok_of_bind h
    obtain ⟨addresses, -, h⟩ := ok_of_bind h
    cases h
    exact .recipientIs addresses
  · obtain ⟨text, -, h⟩ := ok_of_bind h
    obtain ⟨addresses, -, h⟩ := ok_of_bind h
    cases h
    exact .senderIs addresses
  · cases h
    exact .senderIsNull
  · unfold Matcher.hostIsOf at h
    dsimp only at h
    split at h
    · cases h
    · cases h
      exact .hostIs _
  · cases h
    exact .hostIsLocal _
  · exact isBuiltin_of_map .hasAttribute h
  · exact isBuiltin_of_map .hasHeader h
  · obtain ⟨text, -, h⟩ := ok_of_bind h
    dsimp only at h
    split at h
    · cases h
    · split at h
      · cases h
        exact .sizeGreaterThan _
      · cases h

theorem builtinMatchers_distinct : builtinMatchers.Pairwise fun a b => ¬ compare a.1 b.1 = .eq := by
  simp only [builtinMatchers, List.pairwise_cons]
  decide

/-- The matchers that the standard catalogue builds are built in. -/
theorem standard_matcher_isBuiltin {host : Host} {spec : String} {matcher : Matcher}
    (h : (standard host).buildMatcher spec = .ok matcher) : matcher.IsBuiltin := by
  refine Matcher.parse_isBuiltin ?_ h
  intro name condition atom hatom
  unfold buildAtom at hatom
  cases hname : (standard host).matchers[name]? with
  | none => simp [hname] at hatom
  | some build =>
      simp only [hname] at hatom
      exact builtinMatchers_isBuiltin (mem_of_ofList builtinMatchers_distinct hname) hatom

end Catalogue

namespace Chain

theorem buildStage_matcher_isBuiltin {host : Host} {config : StageConfig} {stage : Stage}
    (h : buildStage (.standard host) config = .ok stage) : stage.matcher.IsBuiltin := by
  obtain ⟨matcher, hmatcher, h⟩ := ok_of_bind h
  obtain ⟨mailet, -, h⟩ := ok_of_bind h
  cases h
  exact Catalogue.standard_matcher_isBuiltin hmatcher

/-- The matchers of a chain that is built from the standard catalogue are built in. -/
theorem ofConfig_matcher_isBuiltin {host : Host} {config : ChainConfig} {chain : Chain}
    (h : ofConfig (.standard host) config = .ok chain) :
    ∀ stage ∈ chain.stages, stage.matcher.IsBuiltin := by
  obtain ⟨stages, hstages, h⟩ := ok_of_bind h
  cases h
  exact forall_of_mapM (fun _ _ => buildStage_matcher_isBuiltin) hstages

end Chain

end Postroom
