import Postroom.Proofs.Chain.Failure
import Postroom.Proofs.Registry.Soundness

/-!
Failed mail reaches the chain of failed mail. Whatever component fails on a branch of a chain, the
branch leaves that pass in the state of failed mail, with the text of the failure, and is not served
again on the way. The one exception is a chain that is called by the state of failed mail and does
not process it, since an alias sends that state elsewhere: there a failed branch stays, and its
failure may come to nothing.
-/

namespace Postroom

namespace Registry

variable {registry : Registry}

/-- No chain that is collected gets lost. -/
theorem mem_collect {chains collected : Std.ExtTreeMap String Chain} {list : List Chain}
    (h : collect chains list = .ok collected) {chain : Chain}
    (hchain : chains[chain.name]? = some chain ∨ chain ∈ list) :
    collected[chain.name]? = some chain := by
  induction list generalizing chains with
  | nil =>
      cases h
      exact hchain.resolve_right List.not_mem_nil
  | cons first rest ih =>
      unfold collect at h
      split at h
      · cases h
      · rename_i hfresh
        apply ih h
        rw [Std.ExtTreeMap.getElem?_insert]
        rcases hchain with hold | hlisted
        · have hdistinct : first.name ≠ chain.name := by
            rintro hsame
            simp [hsame, Std.ExtTreeMap.contains_eq_isSome_getElem?, hold] at hfresh
          exact .inl (by simpa [hdistinct] using hold)
        · rcases List.mem_cons.1 hlisted with rfl | hlater
          · exact .inl (by simp)
          · exact .inr hlater

/-- In a table that is built, a state leads to the chain of its name, unless failed mail has that
chain. -/
theorem build_resolve {chains : List Chain} {states : Std.ExtTreeMap String String}
    (h : build chains states = .ok registry) {chain : Chain} (hchain : chain ∈ chains)
    {state : String} (hstate : nameFor states state = chain.name)
    (hother : nameFor states StateName.error ≠ chain.name) :
    registry.resolve state = some chain := by
  obtain ⟨collected, errorChain, hcollect, -, herror, -, -, -, rfl⟩ := build_ok h
  have hname : errorChain.name = nameFor states StateName.error := (collect_empty hcollect herror).2
  rw [resolve_withErrorHandler, if_neg (by rwa [hname, hstate])]
  rw [resolve, hstate]
  exact mem_collect hcollect (.inr hchain)

/-- A chain that does not handle failures is not the one of failed mail. -/
theorem Vetted.ne_of_not_handles (h : registry.Vetted) {chain : Chain}
    (hhandles : chain.handlesErrors = false) : registry.resolve StateName.error ≠ some chain := by
  intro hsame
  obtain ⟨errorChain, herror, hhandled⟩ := h.handled
  rw [hsame] at herror
  cases herror
  rw [hhandles] at hhandled
  cases hhandled

/-- A mail in the state of a chain enters that chain as it is. -/
theorem entry_of_resolve {chain : Chain} {now : Instant} {mail : Mail}
    (hresolve : registry.resolve mail.state = some chain) :
    registry.entry now mail =
      .ok (chain, if mail.state = chain.name then mail else mail.setState now chain.name) := by
  rw [entry, hresolve]

/-- A mail in a state that resolves is routed on as it is. -/
theorem mem_of_checkRouted {chain : Chain} {now : Instant} {routed final : List Mail}
    (h : registry.checkRouted chain now routed = .ok final) {m : Mail} (hm : m ∈ routed)
    (hresolves : (registry.resolve m.state).isSome) : m ∈ final := by
  induction routed generalizing final with
  | nil => cases hm
  | cons mail rest ih =>
      unfold checkRouted at h
      split at h
      · obtain ⟨others, hothers, hfinal⟩ := ok_of_bind h
        cases hfinal
        rcases List.mem_cons.1 hm with rfl | hlater
        · exact List.mem_cons_self ..
        · exact List.mem_cons_of_mem _ (ih hothers hlater)
      · rename_i hnone
        split at h
        · cases h
        · obtain ⟨others, hothers, hfinal⟩ := ok_of_bind h
          cases hfinal
          rcases List.mem_cons.1 hm with rfl | hlater
          · exact absurd hresolves hnone
          · exact List.mem_cons_of_mem _ (ih hothers hlater)

/-- The pass of a mail that enters a chain is the run of that chain. -/
theorem process_of_entry {mail entered : Mail} {pass : Pass} {chain : Chain}
    (hlive : mail.isTerminal = false)
    (hentry : registry.entry pass.now mail = .ok (chain, entered)) :
    registry.process mail pass =
      match chain.run entered pass with
      | (.error halt, pass) => (.error (.halted halt), pass)
      | (.ok routed, pass) => (registry.checkRouted chain pass.now routed, pass) := by
  rcases hrun : chain.run entered pass with ⟨halt | routed, after⟩ <;>
    simp only [process, hlive, Bool.false_eq_true, if_false, hentry, hrun]

/-- A pass through a chain that does not handle failures returns if its mailets do. -/
theorem process_returns {mail entered : Mail} {pass : Pass} {chain : Chain}
    (hlive : mail.isTerminal = false)
    (hentry : registry.entry pass.now mail = .ok (chain, entered))
    (hhandles : chain.handlesErrors = false)
    (hreturns : ∀ stage ∈ chain.stages, stage.mailet.Returns) :
    ∃ final pass', registry.process mail pass = (.ok final, pass') := by
  obtain ⟨routed, after, hrun⟩ :=
    Chain.runPending_returns hreturns _ [] pass (chain.inside_start entered)
  have hprocess := process_of_entry hlive hentry
  rw [show chain.run entered pass = (.ok routed, after) from hrun] at hprocess
  dsimp only at hprocess
  cases hchecked : registry.checkRouted chain after.now routed with
  | ok final => exact ⟨final, after, hprocess.trans (by rw [hchecked])⟩
  | error fault =>
      have hhandled := (checkRouted_error hchecked).1
      rw [hhandles] at hhandled
      cases hhandled

/-- In a table that is built, mail on which a component fails reaches the chain of failed mail. In
the pass of a mail through another chain, which is not called by the state of failed mail either,
whenever the run comes to a branch and a component of its stage fails on it, the run goes on without
what is left of that branch, which leaves the pass with the text of the failure and in the state of
failed mail. -/
theorem build_routes_failures {chains : List Chain} {states : Std.ExtTreeMap String String}
    (hchains : ∀ chain ∈ chains, chain.handlesErrors = false)
    (hbuild : build chains states = .ok registry) {mail entered : Mail} {pass : Pass}
    {chain : Chain} (hlive : mail.isTerminal = false)
    (hentry : registry.entry pass.now mail = .ok (chain, entered))
    (hother : registry.resolve StateName.error ≠ some chain)
    (hname : chain.name ≠ StateName.error) :
    ((∀ stage ∈ chain.stages, stage.mailet.Returns) →
      ∃ final pass', registry.process mail pass = (.ok final, pass')) ∧
    (∃ errorChain, registry.resolve StateName.error = some errorChain ∧
      errorChain.handlesErrors = true) ∧
    ∀ stage ahead branch pending routed sofar,
      chain.Reaches entered pass (⟨stage :: ahead, branch⟩ :: pending) routed sofar →
      ∀ kept left text after, stage.Fails branch sofar kept left text after →
        let failed := left.failed sofar.now text
        failed.state = StateName.error ∧ failed.error = some text ∧
        chain.run entered pass =
          chain.runPending (pending ++ kept.toList.map (Branch.mk ahead))
            (routed ++ [failed]) after ∧
        ∀ final pass', registry.process mail pass = (.ok final, pass') → failed ∈ final := by
  have hvetted := build_vetted hchains hbuild
  obtain ⟨⟨key, hchain⟩, -, hsame⟩ := entry_ok hentry
  have hhandles : chain.handlesErrors = false := by
    by_contra hhandled
    exact hother (hvetted.sole key chain hchain (by simpa using hhandled))
  refine ⟨process_returns hlive hentry hhandles, hvetted.handled, ?_⟩
  intro stage ahead branch pending routed sofar hreaches kept left text after hfails failed
  have hentered : entered.recipients ≠ ∅ := by
    rw [hsame]
    exact ((Mail.isTerminal_eq_false_iff mail).1 hlive).2
  have hbranch : branch.recipients ≠ ∅ := hreaches.occupied hentered _ (List.mem_cons_self ..)
  have henter := Chain.enter_of_fails hhandles hname hbranch hfails
  have hrun : chain.run entered pass =
      chain.runPending (pending ++ kept.toList.map (Branch.mk ahead))
        (routed ++ [failed]) after := by
    have hnext := (hreaches.entered henter).run_eq
    simpa [Chain.advance, Course.onward?, Course.routed?] using hnext
  refine ⟨rfl, rfl, hrun, ?_⟩
  intro final pass' hprocess
  rw [process_of_entry hlive hentry] at hprocess
  rcases hresult : chain.run entered pass with ⟨halt | left, last⟩
  · simp [hresult] at hprocess
  · simp only [hresult, Prod.mk.injEq] at hprocess
    have hleft : failed ∈ left :=
      Chain.mem_of_runPending _ _ _ (hrun.symm.trans hresult) (by simp)
    obtain ⟨errorChain, herror, -⟩ := hvetted.handled
    exact mem_of_checkRouted hprocess.1 hleft (by simp [failed, herror])

end Registry

namespace Registry.Sample

/-- A mailet that fails on every mail. -/
def failing : Mailet where
  name := "Fails"
  service mail pass := ⟨mail, pass, .failed (.failed "boom")⟩

/-- Where failing mail of alice is sent. -/
def aliceFails : Stage := ⟨.recipientsWhere "IsAlice" (· == Chain.Sample.alice), failing⟩

/-- A chain that fails on alice and drops everybody else. -/
def fragile : Chain where
  name := StateName.default
  stages := [aliceFails, ⟨.all, .null⟩]

theorem returns_fragile : ∀ stage ∈ fragile.stages, stage.mailet.Returns := by
  intro stage hstage
  simp only [fragile, List.mem_cons, List.not_mem_nil, or_false] at hstage
  rcases hstage with rfl | rfl
  · intro mail pass halt h
    cases h
  · dsimp only
    exact Mailet.returns_rewriting _ _

/-- The fork for alice is what the first stage fails on. -/
theorem aliceFails_fails :
    ∃ kept left after, aliceFails.Fails Chain.Sample.mail Chain.Sample.pass kept left
      "Fails: boom" after ∧ left.recipients.toList = [Chain.Sample.alice] := by
  have htarget : ((aliceFails.divide Chain.Sample.mail Chain.Sample.pass).toOption.bind
      Division.target).map (fun m => m.recipients.toList) = some [Chain.Sample.alice] := by
    decide +kernel
  rcases hdivide : aliceFails.divide Chain.Sample.mail Chain.Sample.pass with
    e | ⟨kept, _ | target, between⟩
  · simp [hdivide, Except.toOption] at htarget
  · simp [hdivide, Except.toOption] at htarget
  · have hleft : target.recipients.toList = [Chain.Sample.alice] := by
      simpa [hdivide, Except.toOption] using htarget
    refine ⟨kept, target, between, .mailet kept target between (.failed "boom") hdivide rfl ?_,
      hleft⟩
    intro hempty
    rw [show target.recipients = ∅ from hempty] at hleft
    cases hleft

/-- Of three recipients, the one on whose fork the mailet fails reaches the chain of failed mail. -/
theorem build_routes_failures_of_alice :
    ∃ registry, build [fragile, errorChain] ∅ = .ok registry ∧
      ∃ final pass', registry.process Chain.Sample.mail Chain.Sample.pass = (.ok final, pass') ∧
        ∃ m ∈ final, m.state = StateName.error ∧ m.error = some "Fails: boom" ∧
          m.recipients.toList = [Chain.Sample.alice] := by
  have hchains : ∀ chain ∈ [fragile, errorChain], chain.handlesErrors = false := by decide
  have hok : (build [fragile, errorChain] ∅).isOk = true := rfl
  rcases hbuild : build [fragile, errorChain] ∅ with e | registry
  · rw [hbuild] at hok
    cases hok
  have hlive : Chain.Sample.mail.isTerminal = false := rfl
  have hresolve : registry.resolve Chain.Sample.mail.state = some fragile :=
    build_resolve hbuild (List.mem_cons_self ..) (by decide) (by decide)
  have hentry : registry.entry Chain.Sample.pass.now Chain.Sample.mail =
      .ok (fragile, Chain.Sample.mail) := by
    rw [entry_of_resolve hresolve]
    rfl
  have hother : registry.resolve StateName.error ≠ some fragile :=
    (build_vetted hchains hbuild).ne_of_not_handles rfl
  obtain ⟨hreturns, -, hfailures⟩ :=
    build_routes_failures hchains hbuild hlive hentry hother (by decide)
  obtain ⟨final, pass', hprocess⟩ := hreturns returns_fragile
  obtain ⟨kept, left, after, hfails, hleft⟩ := aliceFails_fails
  obtain ⟨hstate, herror, -, hmem⟩ := hfailures _ _ _ _ _ _ .start _ _ _ _ hfails
  exact ⟨registry, rfl, final, pass', hprocess, _, hmem final pass' hprocess, hstate, herror, hleft⟩

/-- A matcher that cannot read the header block, in front of two stages that drop all mail. -/
def unreadable : Stage := ⟨.hasHeader "X-Kept", .null⟩

/-- A chain that is called by the state of failed mail and does not process it. -/
def misnamed : Chain where
  name := StateName.error
  stages := [unreadable, ⟨.all, .null⟩]

/-- A chain for failed mail under a name of its own. -/
def failures : Chain where
  name := "failures"
  stages := []

/-- New mail goes to the misnamed chain, and failed mail does not. -/
def aliases : Std.ExtTreeMap String String :=
  .ofList [(StateName.default, StateName.error), (StateName.error, "failures")]

/-- A mail whose content starts with a space, as no header block does, in the misnamed chain. -/
def headless : Mail :=
  .create default .epoch none (.ofList [Chain.Sample.alice]) ⟨[HeaderBlock.space]⟩

/-- The failure of the matcher. -/
def leadingSpace : MatcherError := ⟨unreadable.matcher.name, HeaderError.leadingSpace.message⟩

theorem select_unreadable {mail : Mail} (h : mail.content = headless.content) :
    unreadable.matcher.select mail = .error leadingSpace := by
  have hparse : HeaderBlock.parse [HeaderBlock.space] = .error .leadingSpace := by
    rw [HeaderBlock.parse]
    decide
  have hheaders : mail.content.headers = .error .leadingSpace := by
    rw [h]
    exact congrArg (Except.map Prod.fst) hparse
  simp only [unreadable, Matcher.hasHeader, hheaders, leadingSpace]

/-- In a chain that is called by the state of failed mail and does not process it, a matcher fails,
and the next stage of the chain drops the mail. -/
theorem process_loses_failure :
    ∃ registry, build [misnamed, failures] aliases = .ok registry ∧
      registry.resolve StateName.error ≠ some misnamed ∧
      ∃ entered, registry.entry Chain.Sample.pass.now headless = .ok (misnamed, entered) ∧
        misnamed.Reaches entered Chain.Sample.pass
          [⟨unreadable :: misnamed.stages.tail, entered⟩] [] Chain.Sample.pass ∧
        unreadable.Fails entered Chain.Sample.pass none entered leadingSpace.message
          Chain.Sample.pass ∧
        ∃ pass', registry.process headless Chain.Sample.pass = (.ok [], pass') := by
  have hchains : ∀ chain ∈ [misnamed, failures], chain.handlesErrors = false := by decide
  have hok : (build [misnamed, failures] aliases).isOk = true := rfl
  have hgone : ((build [misnamed, failures] aliases).toOption.bind fun registry =>
      (registry.process headless Chain.Sample.pass).1.toOption.map List.length) = some 0 := by
    decide +kernel
  rcases hbuild : build [misnamed, failures] aliases with e | registry
  · rw [hbuild] at hok
    cases hok
  have hresolve : registry.resolve headless.state = some misnamed :=
    build_resolve hbuild (List.mem_cons_self ..) (by decide) (by decide)
  refine ⟨registry, rfl, (build_vetted hchains hbuild).ne_of_not_handles rfl, _,
    entry_of_resolve hresolve, .start, .matcher leadingSpace (select_unreadable ?_), ?_⟩
  · split <;> rfl
  rw [hbuild] at hgone
  rcases hprocess : registry.process headless Chain.Sample.pass with ⟨fault | _ | ⟨m, final⟩, pass'⟩
  · simp [Except.toOption, hprocess] at hgone
  · exact ⟨pass', rfl⟩
  · simp [Except.toOption, hprocess] at hgone

end Registry.Sample

end Postroom
