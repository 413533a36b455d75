import Postroom.Proofs.Chain.Steady
import Postroom.Proofs.Registry.Failure

/-!
Nothing is dropped by the way. Where all mailets of a chain are steady and its end hands mail on,
the pass of a mail divides its recipients among the mails that leave, and these go on. This hangs on
two names: a chain that is called by the state of dropped mail drops what its mailets have served,
though nothing in it says so, and one that falls through to that state hands on mail that is dropped
at its next pass.
-/

namespace Postroom

/-- What falls through is not dropped, unless the state of dropped mail is where it is sent. -/
theorem Fallthrough.target?_ne_ghost {fallthrough : Fallthrough} {state : String}
    (h : fallthrough.target? = some state) (hlasting : fallthrough ≠ .processor StateName.ghost) :
    state ≠ StateName.ghost := by
  rintro rfl
  cases fallthrough with
  | ghost => cases h
  | error => exact absurd h (by decide)
  | processor state => exact hlasting (congrArg Fallthrough.processor (Option.some.inj h))

namespace Registry

variable {registry : Registry}

/-- Routed mails in states that resolve are left as they are. -/
theorem checkRouted_of_resolves {chain : Chain} {now : Instant} {routed : List Mail}
    (h : ∀ m ∈ routed, (registry.resolve m.state).isSome) :
    registry.checkRouted chain now routed = .ok routed := by
  induction routed with
  | nil => rfl
  | cons mail rest ih =>
      rw [checkRouted, if_pos (h mail (List.mem_cons_self ..)),
        ih fun m hm => h m (List.mem_cons_of_mem _ hm)]
      rfl

/-- In a table that is built, the pass of a mail through a chain of steady mailets that does not
drop what comes to its end, and is not called by the state of dropped mail, returns, and divides the
recipients of the mail among the mails that leave it. None of these is terminal, unless the chain
falls through to the state of dropped mail. -/
theorem build_divides_recipients {chains : List Chain} {states : Std.ExtTreeMap String String}
    (hchains : ∀ chain ∈ chains, chain.handlesErrors = false)
    (hbuild : build chains states = .ok registry) {mail : Mail} (pass : Pass) {chain : Chain}
    (hlive : mail.isTerminal = false) (hresolve : registry.resolve mail.state = some chain)
    (hsteady : chain.Steady) (hfall : chain.fallthrough ≠ .ghost)
    (hname : chain.name ≠ StateName.ghost) :
    ∃ routed pass', registry.process mail pass = (.ok routed, pass') ∧
      routed.Pairwise Mail.Apart ∧ (∀ m ∈ routed, m.recipients ≠ ∅) ∧
      (∀ r, (∃ m ∈ routed, r ∈ m.recipients) ↔ r ∈ mail.recipients) ∧
      (chain.fallthrough ≠ .processor StateName.ghost → ∀ m ∈ routed, m.isTerminal = false) := by
  have hvetted := build_vetted hchains hbuild
  obtain ⟨entered, hentry⟩ : ∃ entered, registry.entry pass.now mail = .ok (chain, entered) :=
    ⟨_, entry_of_resolve hresolve⟩
  obtain ⟨-, -, hsame⟩ := entry_ok hentry
  have hpeople : entered.recipients ≠ ∅ := by
    rw [hsame]
    exact ((Mail.isTerminal_eq_false_iff mail).1 hlive).2
  obtain ⟨routed, after, hrun, hkept, hleft⟩ :=
    Chain.run_steady hsteady hname hfall (entry_state hentry) hpeople pass
  -- whoever is on the mail is on one routed mail, and nobody else is
  have hholders : ∀ r, holders r routed = holders r [mail] :=
    fun r => (hkept r).trans (holders_singleton_congr r hsame)
  have hends : ∀ m ∈ routed,
      m.state = StateName.error ∨ chain.fallthrough.target? = some m.state := by
    intro m hm
    refine (hleft m hm).2.imp_right ?_
    rintro ⟨now, last, hended⟩
    exact Chain.fallThrough_state hended
  have hresolves : ∀ m ∈ routed, (registry.resolve m.state).isSome := by
    intro m hm
    rcases hends m hm with herror | htarget
    · obtain ⟨errorChain, hfound, -⟩ := hvetted.handled
      rw [herror, hfound]
      rfl
    · exact hvetted.falls _ chain hresolve m.state htarget
  refine ⟨routed, after, ?_, pairwise_apart_of_holders fun r => ?_, fun m hm => (hleft m hm).1,
    fun r => ?_, ?_⟩
  · rw [process_of_entry hlive hentry, hrun]
    dsimp only
    rw [checkRouted_of_resolves hresolves]
  · rw [hholders]
    exact List.countP_le_length
  · rw [← holders_pos_iff, hholders, holders_pos_iff]
    simp
  · intro hlasting m hm
    refine (Mail.isTerminal_eq_false_iff m).2 ⟨?_, (hleft m hm).1⟩
    rcases hends m hm with herror | htarget
    · rw [herror]
      decide
    · exact Fallthrough.target?_ne_ghost htarget hlasting

end Registry

namespace Registry.Sample

/-- A chain that splits alice off, marks her mail, and hands everybody on as failed. -/
def marking (name : String) : Chain where
  name
  stages := [⟨.recipientsWhere "IsAlice" (· == Chain.Sample.alice), .setAttribute "Seen" "yes"⟩]
  fallthrough := .error

theorem steady_marking (name : String) : (marking name).Steady := by
  intro stage hstage
  rw [List.mem_singleton.1 hstage]
  exact ⟨fun _ _ => rfl, fun _ _ => rfl, fun _ _ => rfl⟩

/-- All three recipients of a mail come out of the chain of new mail. -/
theorem build_divides_recipients_of_three :
    ∃ registry, build [marking StateName.default, errorChain] ∅ = .ok registry ∧
      registry.resolve Chain.Sample.mail.state = some (marking StateName.default) ∧
      ∃ routed pass',
        registry.process Chain.Sample.mail Chain.Sample.pass = (.ok routed, pass') ∧
          ∀ r ∈ [Chain.Sample.alice, Chain.Sample.bob, Chain.Sample.carol],
            ∃ m ∈ routed, r ∈ m.recipients ∧ m.isTerminal = false := by
  have hchains : ∀ chain ∈ [marking StateName.default, errorChain],
    chain.handlesErrors = false := by
    decide
  have hok : (build [marking StateName.default, errorChain] ∅).isOk = true := rfl
  rcases hbuild : build [marking StateName.default, errorChain] ∅ with e | registry
  · rw [hbuild] at hok
    cases hok
  have hresolve : registry.resolve Chain.Sample.mail.state = some (marking StateName.default) :=
    build_resolve hbuild (List.mem_cons_self ..) (by decide) (by decide)
  obtain ⟨routed, pass', hprocess, -, -, hrecipients, hlasting⟩ :=
    build_divides_recipients hchains hbuild Chain.Sample.pass (by decide +kernel) hresolve
      (steady_marking _) (by decide) (by decide)
  refine ⟨registry, rfl, hresolve, routed, pass', hprocess, fun r hr => ?_⟩
  have hmail : ∀ r ∈ [Chain.Sample.alice, Chain.Sample.bob, Chain.Sample.carol],
      r ∈ Chain.Sample.mail.recipients := by decide +kernel
  obtain ⟨m, hm, hr⟩ := (hrecipients r).2 (hmail r hr)
  exact ⟨m, hm, hr, hlasting (by decide) m hm⟩

/-- New mail goes to a chain that is called by the state of dropped mail. -/
def ghostly : Std.ExtTreeMap String String :=
  .ofList [(StateName.default, StateName.ghost)]

/-- A mail for alice that is marked in that chain is gone, though no mailet drops it, and the end of
the chain would hand it on. -/
theorem process_drops_marked :
    ∃ registry, build [marking StateName.ghost, errorChain] ghostly = .ok registry ∧
      headless.isTerminal = false ∧
      registry.resolve headless.state = some (marking StateName.ghost) ∧
      (marking StateName.ghost).Steady ∧ (marking StateName.ghost).fallthrough = .error ∧
      ∃ pass', registry.process headless Chain.Sample.pass = (.ok [], pass') := by
  have hok : (build [marking StateName.ghost, errorChain] ghostly).isOk = true := rfl
  have hgone : ((build [marking StateName.ghost, errorChain] ghostly).toOption.bind fun registry =>
      (registry.process headless Chain.Sample.pass).1.toOption.map List.length) = some 0 := by
    decide +kernel
  rcases hbuild : build [marking StateName.ghost, errorChain] ghostly with e | registry
  · rw [hbuild] at hok
    cases hok
  have hresolve : registry.resolve headless.state = some (marking StateName.ghost) :=
    build_resolve hbuild (List.mem_cons_self ..) (by decide) (by decide)
  refine ⟨registry, rfl, by decide +kernel, hresolve, steady_marking _, rfl, ?_⟩
  rw [hbuild] at hgone
  rcases hprocess : registry.process headless Chain.Sample.pass with ⟨fault | _ | ⟨m, final⟩, pass'⟩
  · simp [Except.toOption, hprocess] at hgone
  · exact ⟨pass', rfl⟩
  · simp [Except.toOption, hprocess] at hgone

end Registry.Sample

end Postroom
