import Postroom.Proofs.Chain.Invariant
import Postroom.Proofs.Registry.Routing

/-!
Routing is sound in every table that is built. Mail that leaves a pass is in a state that resolves,
and only the chain of failed mail can make a mail unroutable. If its mailets are built in, not even
that can happen: the checks of its routes and of its end cover every state that its branches can be
in.
-/

namespace Postroom

/-- A chain that handles failures leaves a mail in its state. -/
theorem Chain.recordFailure_state {chain : Chain} (hhandles : chain.handlesErrors = true)
    (now : Instant) (mail : Mail) (message : String) :
    (chain.recordFailure now mail message).state = mail.state := by
  simp [recordFailure, hhandles, Mail.setError]

/-- A mail behind the last stage is in the state that the chain falls through to. -/
theorem Chain.fallThrough_state {chain : Chain} {now : Instant} {mail m : Mail}
    (h : chain.fallThrough now mail = some m) : chain.fallthrough.target? = some m.state := by
  unfold fallThrough at h
  split at h
  · cases h
  · rename_i hfall
    cases h
    rw [hfall]
    rfl
  · rename_i state hfall
    cases h
    rw [hfall]
    rfl

namespace Registry

variable {registry : Registry}

/-- What the checks of a table come to. -/
structure Vetted (registry : Registry) : Prop where
  /-- Failed mail has a chain, which handles failures itself. -/
  handled : ∃ chain, registry.resolve StateName.error = some chain ∧ chain.handlesErrors = true
  /-- No other chain does. -/
  sole : ∀ (name : String) (chain : Chain), registry.chains[name]? = some chain →
    chain.handlesErrors = true → registry.resolve StateName.error = some chain
  /-- No chain falls through to nowhere. -/
  falls : ∀ (name : String) (chain : Chain), registry.chains[name]? = some chain →
    ∀ state, chain.fallthrough.target? = some state → (registry.resolve state).isSome
  /-- The chain of failed mail hands nothing to nowhere. -/
  routes : ∀ chain, registry.resolve StateName.error = some chain → ∀ stage ∈ chain.stages,
    ∀ state, stage.mailet.target = some state → (registry.resolve state).isSome

theorem resolve_withErrorHandler (registry : Registry) (chain : Chain) (state : String) :
    (registry.withErrorHandler chain).resolve state =
      if chain.name = nameFor registry.states state then some { chain with handlesErrors := true }
      else registry.resolve state := by
  simp [withErrorHandler, resolve, Std.ExtTreeMap.getElem?_insert]

/-- To let a chain handle failures changes nothing in which states resolve. -/
theorem isSome_resolve_withErrorHandler {chain : Chain}
    (hchain : registry.chains[chain.name]? = some chain) (state : String) :
    ((registry.withErrorHandler chain).resolve state).isSome = (registry.resolve state).isSome := by
  rw [resolve_withErrorHandler]
  split
  · rename_i hname
    simp [resolve, ← hname, hchain]
  · rfl

/-- If no fallthrough has a fault, every one of them leads to a chain. -/
theorem resolves_of_firstFallthroughFault? (h : registry.firstFallthroughFault? = none)
    {name : String} {chain : Chain} (hchain : registry.chains[name]? = some chain) {state : String}
    (htarget : chain.fallthrough.target? = some state) : (registry.resolve state).isSome := by
  unfold firstFallthroughFault? at h
  have hmem : (name, chain) ∈ registry.chains.toList :=
    Std.ExtTreeMap.mem_toList_iff_getElem?_eq_some.2 hchain
  have hfault : registry.fallthroughFault? chain = none := by
    simpa using List.findSome?_eq_none_iff.1 h _ hmem
  unfold fallthroughFault? at hfault
  simp only [htarget, Option.bind_eq_bind, Option.bind_some] at hfault
  split at hfault
  · cases hfault
  · rename_i next hnext
    simp [hnext]

/-- If no route of a chain is dangling, every target of its mailets is the state of a chain. -/
theorem resolves_of_danglingRoute? {chain : Chain} (h : registry.danglingRoute? chain = none)
    {stage : Stage} (hstage : stage ∈ chain.stages) {state : String}
    (htarget : stage.mailet.target = some state) : (registry.resolve state).isSome := by
  unfold danglingRoute? at h
  have hmem : state ∈ chain.stages.filterMap fun stage => stage.mailet.target :=
    List.mem_filterMap.2 ⟨stage, hstage, htarget⟩
  simpa [Option.isSome_iff_ne_none] using List.find?_eq_none.1 h state hmem

/-- A table that is built from new chains has passed the checks. -/
theorem build_vetted {chains : List Chain} {states : Std.ExtTreeMap String String}
    (hchains : ∀ chain ∈ chains, chain.handlesErrors = false)
    (h : build chains states = .ok registry) : registry.Vetted := by
  obtain ⟨collected, errorChain, hcollect, -, herror, -, hfalls, hroutes, rfl⟩ := build_ok h
  have hname : errorChain.name = nameFor states StateName.error := (collect_empty hcollect herror).2
  have hown : collected[errorChain.name]? = some errorChain := by
    rw [hname]
    exact herror
  have hresolve := resolve_withErrorHandler ⟨collected, states⟩ errorChain StateName.error
  rw [if_pos hname] at hresolve
  have hsome : ∀ state,
      (((⟨collected, states⟩ : Registry).withErrorHandler errorChain).resolve state).isSome =
        ((⟨collected, states⟩ : Registry).resolve state).isSome :=
    isSome_resolve_withErrorHandler hown
  -- under a name stands the chain of failed mail, which now handles failures, or an unchanged one
  have hcases : ∀ {name : String} {chain : Chain},
      ((⟨collected, states⟩ : Registry).withErrorHandler errorChain).chains[name]? = some chain →
        chain = { errorChain with handlesErrors := true } ∨ collected[name]? = some chain := by
    intro name chain hchain
    simp only [withErrorHandler, Std.ExtTreeMap.getElem?_insert] at hchain
    split at hchain
    · exact .inl (Option.some.inj hchain).symm
    · exact .inr hchain
  refine ⟨⟨_, hresolve, rfl⟩, ?_, ?_, ?_⟩
  · intro name chain hchain hhandles
    rcases hcases hchain with rfl | hold
    · exact hresolve
    · rw [hchains chain (collect_empty hcollect hold).1] at hhandles
      cases hhandles
  · intro name chain hchain state htarget
    rw [hsome]
    rcases hcases hchain with rfl | hold
    · exact resolves_of_firstFallthroughFault? hfalls hown htarget
    · exact resolves_of_firstFallthroughFault? hfalls hold htarget
  · intro chain hchain stage hstage state htarget
    rw [hresolve] at hchain
    cases hchain
    rw [hsome]
    exact resolves_of_danglingRoute? hroutes hstage htarget

/-- A chain takes a mail in the state that is its name. -/
theorem entry_state {now : Instant} {mail entered : Mail} {chain : Chain}
    (h : registry.entry now mail = .ok (chain, entered)) : entered.state = chain.name := by
  have hentering : ∀ {c : Chain} {m : Mail},
      (c, if m.state = c.name then m else m.setState now c.name) = (chain, entered) →
        entered.state = chain.name := by
    intro c m heq
    cases heq
    split
    · assumption
    · rfl
  unfold entry at h
  dsimp only at h
  split at h
  · exact hentering (Except.ok.inj h)
  · split at h
    · exact hentering (Except.ok.inj h)
    · cases h

/-- Every mail finds a chain. -/
theorem Vetted.entry (h : registry.Vetted) (now : Instant) (mail : Mail) :
    ∃ chain entered, registry.entry now mail = .ok (chain, entered) := by
  obtain ⟨errorChain, herror, -⟩ := h.handled
  unfold Registry.entry
  dsimp only
  split
  · exact ⟨_, _, rfl⟩
  · rw [herror]
    exact ⟨_, _, rfl⟩

/-- The mails that are routed on are in states that resolve. -/
theorem Vetted.checkRouted_resolves (h : registry.Vetted) {chain : Chain} {now : Instant}
    {routed final : List Mail} (hchecked : registry.checkRouted chain now routed = .ok final) :
    ∀ m ∈ final, (registry.resolve m.state).isSome := by
  obtain ⟨errorChain, herror, -⟩ := h.handled
  induction routed generalizing final with
  | nil =>
      cases hchecked
      simp
  | cons mail rest ih =>
      unfold checkRouted at hchecked
      split at hchecked
      · rename_i hresolves
        obtain ⟨others, hothers, hfinal⟩ := ok_of_bind hchecked
        cases hfinal
        exact List.forall_mem_cons.2 ⟨hresolves, ih hothers⟩
      · split at hchecked
        · cases hchecked
        · obtain ⟨others, hothers, hfinal⟩ := ok_of_bind hchecked
          cases hfinal
          refine List.forall_mem_cons.2 ⟨?_, ih hothers⟩
          have hdiverted : (divert now mail).state = StateName.error := rfl
          rw [hdiverted, herror]
          rfl

/-- Mails are found unroutable only if the chain that they left handles failures, and one of them is
in a state that does not resolve. -/
theorem checkRouted_error {chain : Chain} {now : Instant} {routed : List Mail} {fault : PassFault}
    (h : registry.checkRouted chain now routed = .error fault) :
    chain.handlesErrors = true ∧ ∃ m ∈ routed, fault = .unroutable m.id m.state ∧
      (registry.resolve m.state).isSome = false := by
  have herror : ∀ {mail : Mail} {rest : List Mail},
      (do return mail :: (← registry.checkRouted chain now rest)) = Except.error fault →
        registry.checkRouted chain now rest = .error fault := by
    intro mail rest hbind
    cases hrest : registry.checkRouted chain now rest with
    | ok others =>
        rw [hrest] at hbind
        cases hbind
    | error other =>
        rw [hrest] at hbind
        cases hbind
        rfl
  induction routed with
  | nil => cases h
  | cons mail rest ih =>
      unfold checkRouted at h
      split at h
      · obtain ⟨hhandles, m, hm, hfault⟩ := ih (herror h)
        exact ⟨hhandles, m, List.mem_cons_of_mem _ hm, hfault⟩
      · rename_i hnone
        split at h
        · rename_i hhandles
          cases h
          exact ⟨hhandles, mail, List.mem_cons_self .., rfl, by simpa using hnone⟩
        · obtain ⟨hhandles, m, hm, hfault⟩ := ih (herror h)
          exact ⟨hhandles, m, List.mem_cons_of_mem _ hm, hfault⟩

/-- The chain of failed mail, if its mailets are built in, keeps its branches in its own state and
lets them leave only in states that resolve. -/
theorem Vetted.upholds_errorChain (h : registry.Vetted) {name : String} {chain : Chain}
    (hchain : registry.chains[name]? = some chain) (hhandles : chain.handlesErrors = true)
    (hbuiltin : ∀ stage ∈ chain.stages, stage.mailet.IsBuiltin) :
    chain.Upholds (fun m => m.state = chain.name) (fun m => (registry.resolve m.state).isSome)
      (fun _ => True) where
  fork mail pass matched hmail _ := ⟨hmail, hmail, trivial⟩
  failure mail pass message hmail _ := by
    intro hlive
    have hstate : (chain.recordFailure pass.now mail message).state = chain.name :=
      (Chain.recordFailure_state hhandles ..).trans hmail
    rwa [if_pos hstate]
  service stage hstage mail pass served pass' hmail _ hattend := by
    refine ⟨?_, trivial⟩
    intro hlive
    have hstate : served.state = (stage.mailet.service mail pass).mail.state := by
      obtain ⟨-, ⟨-, rfl⟩ | ⟨e, -, rfl⟩⟩ := Chain.attend_cases hattend
      · rfl
      · exact Chain.recordFailure_state hhandles ..
    split
    · assumption
    · rename_i hother
      rcases (hbuiltin stage hstage).state_cases mail pass with hsame | hghost | htarget
      · exact absurd (hstate.trans (hsame.trans hmail)) hother
      · exact absurd (hstate.trans hghost) ((Mail.isTerminal_eq_false_iff served).1 hlive).1
      · dsimp only
        rw [hstate]
        exact h.routes chain (h.sole name chain hchain hhandles) stage hstage _ htarget
  ending mail pass _ _ m hm := h.falls name chain hchain _ (Chain.fallThrough_state hm)

/-- A mail is found unroutable only behind its run, when the mails that left the chain are
checked. -/
theorem Vetted.unroutable_cases (h : registry.Vetted) {mail : Mail} {pass pass' : Pass}
    {id : MailId} {state : String}
    (hprocess : registry.process mail pass = (.error (.unroutable id state), pass')) :
    ∃ chain entered routed, registry.entry pass.now mail = .ok (chain, entered) ∧
      chain.run entered pass = (.ok routed, pass') ∧
      registry.checkRouted chain pass'.now routed = .error (.unroutable id state) := by
  obtain ⟨chain, entered, hentry⟩ := h.entry pass.now mail
  unfold process at hprocess
  split at hprocess
  · cases hprocess
  · simp only [hentry] at hprocess
    rcases hrun : chain.run entered pass with ⟨halt | routed, after⟩
    · simp [hrun] at hprocess
    · simp only [hrun, Prod.mk.injEq] at hprocess
      obtain ⟨hchecked, rfl⟩ := hprocess
      exact ⟨chain, entered, routed, hentry, hrun, hchecked⟩

/-- A table whose chain of failed mail has built-in mailets never finds a mail unroutable. -/
theorem Vetted.routable (h : registry.Vetted)
    (hbuiltin : ∀ chain, registry.resolve StateName.error = some chain →
      ∀ stage ∈ chain.stages, stage.mailet.IsBuiltin)
    (mail : Mail) (pass : Pass) (id : MailId) (state : String) :
    (registry.process mail pass).1 ≠ .error (.unroutable id state) := by
  intro hprocess
  have hfault : registry.process mail pass =
      (.error (.unroutable id state), (registry.process mail pass).2) := Prod.ext hprocess rfl
  obtain ⟨chain, entered, routed, hentry, hrun, hchecked⟩ := h.unroutable_cases hfault
  obtain ⟨⟨name, hchain⟩, -⟩ := entry_ok hentry
  obtain ⟨hhandles, m, hm, -, hnone⟩ := checkRouted_error hchecked
  have hupholds := h.upholds_errorChain hchain hhandles
    (hbuiltin chain (h.sole name chain hchain hhandles))
  have hresolves := (hupholds.run (entry_state hentry) trivial hrun).1 m hm
  rw [hnone] at hresolves
  cases hresolves

/-- Routing is sound in a table that is built: whatever its mailets do, mail that leaves a pass is
in a state that resolves, only the chain of failed mail makes a mail unroutable, and not even that
one does if its mailets are built in. -/
theorem build_routes_soundly {chains : List Chain} {states : Std.ExtTreeMap String String}
    (hchains : ∀ chain ∈ chains, chain.handlesErrors = false)
    (h : build chains states = .ok registry) (mail : Mail) (pass : Pass) :
    (∀ routed pass', registry.process mail pass = (.ok routed, pass') →
      ∀ m ∈ routed, (registry.resolve m.state).isSome) ∧
    (∀ id state pass', registry.process mail pass = (.error (.unroutable id state), pass') →
      ∃ chain entered, registry.entry pass.now mail = .ok (chain, entered) ∧
        registry.resolve StateName.error = some chain) ∧
    ((∀ chain, registry.resolve StateName.error = some chain →
        ∀ stage ∈ chain.stages, stage.mailet.IsBuiltin) →
      ∀ id state, (registry.process mail pass).1 ≠ .error (.unroutable id state)) := by
  have hvetted := build_vetted hchains h
  refine ⟨?_, ?_, fun hbuiltin => hvetted.routable hbuiltin mail pass⟩
  · intro routed pass' hprocess
    obtain ⟨chain, entered, hentry⟩ := hvetted.entry pass.now mail
    unfold process at hprocess
    split at hprocess
    · cases hprocess
      simp
    · simp only [hentry] at hprocess
      rcases hrun : chain.run entered pass with ⟨halt | left, after⟩
      · simp [hrun] at hprocess
      · simp only [hrun, Prod.mk.injEq] at hprocess
        exact hvetted.checkRouted_resolves hprocess.1
  · intro id state pass' hprocess
    obtain ⟨chain, entered, routed, hentry, -, hchecked⟩ := hvetted.unroutable_cases hprocess
    obtain ⟨⟨name, hchain⟩, -⟩ := entry_ok hentry
    exact ⟨chain, entered, hentry, hvetted.sole name chain hchain (checkRouted_error hchecked).1⟩

end Registry

namespace Registry.Sample

/-- The chain of failed mail: it sends everything back to where new mail starts. -/
def errorChain : Chain where
  name := StateName.error
  stages := [⟨.all, .toProcessor StateName.default none⟩]

/-- A chain that hands mail to a state without a chain, and one for failed mail. -/
def chains : List Chain := [Chain.Sample.chain, errorChain]

theorem isBuiltin_errorChain {registry : Registry} (h : build chains ∅ = .ok registry)
    {chain : Chain} (hchain : registry.resolve StateName.error = some chain) :
    ∀ stage ∈ chain.stages, stage.mailet.IsBuiltin := by
  obtain ⟨collected, failed, hcollect, -, herror, -, -, -, rfl⟩ := build_ok h
  obtain ⟨hmem, hname⟩ := collect_empty hcollect herror
  rw [resolve_withErrorHandler, if_pos hname] at hchain
  cases hchain
  simp only [chains, List.mem_cons, List.not_mem_nil, or_false] at hmem
  rcases hmem with rfl | rfl
  · have hother : Chain.Sample.chain.name ≠ nameFor ∅ StateName.error := by decide +kernel
    exact absurd hname hother
  · simpa [errorChain] using Mailet.IsBuiltin.toProcessor StateName.default none

/-- A mail of three recipients, one of whom is handed to a state without a chain. -/
theorem build_routes_soundly_of_two :
    (∀ chain ∈ chains, chain.handlesErrors = false) ∧ ∃ registry, build chains ∅ = .ok registry ∧
      (∀ routed pass', registry.process Chain.Sample.mail Chain.Sample.pass = (.ok routed, pass') →
        ∀ m ∈ routed, (registry.resolve m.state).isSome) ∧
      ∀ id state, (registry.process Chain.Sample.mail Chain.Sample.pass).1 ≠
        .error (.unroutable id state) := by
  have hchains : ∀ chain ∈ chains, chain.handlesErrors = false := by decide
  have hok : (build chains ∅).isOk = true := by decide +kernel
  rcases hbuild : build chains ∅ with e | registry
  · rw [hbuild] at hok
    cases hok
  obtain ⟨hresolves, -, hroutable⟩ :=
    build_routes_soundly hchains hbuild Chain.Sample.mail Chain.Sample.pass
  exact ⟨hchains, registry, rfl, hresolves, hroutable fun chain => isBuiltin_errorChain hbuild⟩

end Registry.Sample

end Postroom
