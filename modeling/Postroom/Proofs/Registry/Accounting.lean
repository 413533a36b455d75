import Postroom.Proofs.Mailet.Delivery
import Postroom.Proofs.Registry.Soundness

/-!
A pass where all mailets are built in. Its history tells of built-in mailets only, and it comes to a
fault only if one of them panics.
-/

namespace Postroom

/-- A built-in mailet ends a pass only by panicking. -/
theorem Mailet.IsBuiltin.panicked_of_halted {mailet : Mailet} (h : mailet.IsBuiltin) {mail : Mail}
    {pass : Pass} {halt : Halt} (hhalted : (mailet.service mail pass).outcome = .halted halt) :
    halt = .panicked := by
  cases h with
  | localDelivery store => exact absurd hhalted (Mailet.returns_localDelivery store mail pass halt)
  | bounce settings =>
      unfold Mailet.bounce at hhalted
      dsimp only at hhalted
      split at hhalted
      · cases hhalted
      · split at hhalted
        · exact (Outcome.halted.inj hhalted).symm
        · cases hhalted
  | _ => cases hhalted

namespace Registry

variable {registry : Registry}

/-- Whether every mailet of every chain is built in. -/
def IsBuiltin (registry : Registry) : Prop :=
  ∀ (name : String) (chain : Chain), registry.chains[name]? = some chain →
    ∀ stage ∈ chain.stages, stage.mailet.IsBuiltin

theorem build_isBuiltin {chains : List Chain} {states : Std.ExtTreeMap String String}
    (hchains : ∀ chain ∈ chains, ∀ stage ∈ chain.stages, stage.mailet.IsBuiltin)
    (h : build chains states = .ok registry) : registry.IsBuiltin :=
  build_stages hchains h

theorem IsBuiltin.addsNobody (h : registry.IsBuiltin) : registry.AddsNobody :=
  fun name chain hchain stage hstage => (h name chain hchain stage hstage).addsNobody

/-- The history of a pass tells of built-in mailets only. -/
theorem IsBuiltin.history_ofBuiltin (h : registry.IsBuiltin) (mail : Mail) (pass : Pass) :
    ∀ incident ∈ registry.history mail pass, incident.OfBuiltin := by
  intro incident hincident
  unfold history at hincident
  split at hincident
  · rw [List.mem_singleton.1 hincident]
    trivial
  · split at hincident
    · cases hincident
    · rename_i chain entered hentry
      obtain ⟨⟨name, hchain⟩, -⟩ := entry_ok hentry
      have hgenuine := Chain.historyFrom_genuine _ pass (chain.inside_start entered) _ hincident
      exact hgenuine.ofBuiltin (h name chain hchain)

/-- A pass is halted only by the run of the chain that takes its mail. -/
theorem process_halted {mail : Mail} {pass pass' : Pass} {halt : Halt}
    (hprocess : registry.process mail pass = (.error (.halted halt), pass')) :
    ∃ chain entered, registry.entry pass.now mail = .ok (chain, entered) ∧
      chain.run entered pass = (.error halt, pass') := by
  unfold process at hprocess
  split at hprocess
  · cases hprocess
  cases hentry : registry.entry pass.now mail with
  | error fault =>
      simp only [hentry, Prod.mk.injEq, Except.error.injEq] at hprocess
      have hunroutable : ∃ id state, fault = .unroutable id state := by
        unfold entry at hentry
        dsimp only at hentry
        split at hentry
        · cases hentry
        · split at hentry
          · cases hentry
          · cases hentry
            exact ⟨_, _, rfl⟩
      obtain ⟨id, state, rfl⟩ := hunroutable
      cases hprocess.1
  | ok entrance =>
      obtain ⟨chain, entered⟩ := entrance
      refine ⟨chain, entered, rfl, ?_⟩
      simp only [hentry] at hprocess
      rcases hrun : chain.run entered pass with ⟨other | left, after⟩
      · simp only [hrun, Prod.mk.injEq, Except.error.injEq, PassFault.halted.injEq] at hprocess
        rw [hprocess.1, hprocess.2]
      · simp only [hrun, Prod.mk.injEq] at hprocess
        obtain ⟨-, m, -, hfault, -⟩ := checkRouted_error hprocess.1
        cases hfault

/-- A pass through a table that is built of built-in mailets ends with mails to queue, unless one of
the mailets panics. -/
theorem IsBuiltin.process_cases (h : registry.IsBuiltin) (hvetted : registry.Vetted) (mail : Mail)
    (pass : Pass) :
    (∃ routed, (registry.process mail pass).1 = .ok routed) ∨
      (registry.process mail pass).1 = .error (.halted .panicked) := by
  rcases hprocess : registry.process mail pass with ⟨fault | routed, pass'⟩
  · refine .inr ?_
    cases fault with
    | unroutable id state =>
        have herror : ∀ chain, registry.resolve StateName.error = some chain →
            ∀ stage ∈ chain.stages, stage.mailet.IsBuiltin :=
          fun chain hchain => h _ chain hchain
        exact absurd (congrArg Prod.fst hprocess) (hvetted.routable herror mail pass id state)
    | halted halt =>
        obtain ⟨chain, entered, hentry, hrun⟩ := process_halted hprocess
        obtain ⟨⟨name, hchain⟩, -⟩ := entry_ok hentry
        obtain ⟨stage, hstage, target, between, houtcome⟩ :=
          Chain.runPending_halted _ _ _ (chain.inside_start entered) hrun
        rw [(h name chain hchain stage hstage).panicked_of_halted houtcome]
  · exact .inl ⟨routed, rfl⟩

end Registry

end Postroom
