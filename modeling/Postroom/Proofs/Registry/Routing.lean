import Postroom.Proofs.Chain.Conservation
import Postroom.Registry

/-!
Recipients are conserved by the routing table too. The state of a mail chooses the chain that it is
run through, and states that lead nowhere are replaced; neither changes an id or a recipient. So the
books of a whole pass are those of the chain.
-/

namespace Postroom

namespace Registry

variable {registry : Registry}

/-- Whether no mailet of any chain takes anybody on. -/
def AddsNobody (registry : Registry) : Prop :=
  ∀ (name : String) (chain : Chain), registry.chains[name]? = some chain →
    ∀ stage ∈ chain.stages, stage.mailet.AddsNobody

/-- The history of the pass of a mail. A mail that is terminal already is disposed of at once. -/
def history (registry : Registry) (mail : Mail) (pass : Pass) : List Incident :=
  if mail.isTerminal then [.discarded mail]
  else match registry.entry pass.now mail with
    | .error _ => []
    | .ok (chain, entered) => chain.history entered pass

/-- Whether the pass of a mail ends the way of a recipient: a mailet removed it from the branch it
served, or the branch was disposed of, which is all that happens to a terminal mail. -/
def Handles (registry : Registry) (mail : Mail) (pass : Pass) (r : Address) : Prop :=
  mail.isTerminal = true ∨ ∃ chain entered, registry.entry pass.now mail = .ok (chain, entered) ∧
    (chain.Removes (chain.history entered pass) r ∨
      chain.DisposesOf (chain.history entered pass) r)

/-- Chains that are collected are those of the list, each under its name, or were there before. -/
theorem collect_cases {chains collected : Std.ExtTreeMap String Chain} {list : List Chain}
    (h : collect chains list = .ok collected) {name : String} {chain : Chain}
    (hchain : collected[name]? = some chain) :
    chains[name]? = some chain ∨ chain ∈ list ∧ chain.name = name := by
  induction list generalizing chains with
  | nil =>
      cases h
      exact .inl hchain
  | cons first rest ih =>
      unfold collect at h
      split at h
      · cases h
      · rcases ih h with hold | ⟨hlater, hname⟩
        · rw [Std.ExtTreeMap.getElem?_insert] at hold
          split at hold
          · rename_i hsame
            cases hold
            exact .inr ⟨List.mem_cons_self .., by simpa using hsame⟩
          · exact .inl hold
        · exact .inr ⟨List.mem_cons_of_mem _ hlater, hname⟩

/-- In a table that is collected from a list, each chain stands under its name. -/
theorem collect_empty {collected : Std.ExtTreeMap String Chain} {list : List Chain}
    (h : collect ∅ list = .ok collected) {name : String} {chain : Chain}
    (hchain : collected[name]? = some chain) : chain ∈ list ∧ chain.name = name := by
  rcases collect_cases h hchain with hempty | hlisted
  · simp at hempty
  · exact hlisted

theorem require_ok {state : String} {chain : Chain} (h : registry.require state = .ok chain) :
    registry.resolve state = some chain := by
  unfold require at h
  split at h
  · rename_i found hfound
    cases h
    exact hfound
  · cases h

/-- A table that passes all checks is that of the collected chains, with the chain of failed mail as
the one that handles failures. -/
theorem build_ok {chains : List Chain} {states : Std.ExtTreeMap String String}
    (h : build chains states = .ok registry) :
    ∃ collected errorChain, collect ∅ chains = .ok collected ∧
      (⟨collected, states⟩ : Registry).danglingAlias? = none ∧
      (⟨collected, states⟩ : Registry).resolve StateName.error = some errorChain ∧
      ((⟨collected, states⟩ : Registry).resolve StateName.default).isSome ∧
      (⟨collected, states⟩ : Registry).firstFallthroughFault? = none ∧
      (⟨collected, states⟩ : Registry).danglingRoute? errorChain = none ∧
      registry = (⟨collected, states⟩ : Registry).withErrorHandler errorChain := by
  obtain ⟨collected, hcollect, h⟩ := ok_of_bind h
  dsimp only at h
  split at h
  · cases h
  rename_i haliases
  obtain ⟨-, -, h⟩ := ok_of_bind h
  obtain ⟨errorChain, herror, h⟩ := ok_of_bind h
  obtain ⟨first, hfirst, h⟩ := ok_of_bind h
  split at h
  · cases h
  rename_i hfalls
  split at h
  · cases h
  rename_i hroutes
  cases h
  exact ⟨collected, errorChain, hcollect, Option.eq_none_iff_forall_ne_some.2 haliases,
    require_ok herror, by simp [require_ok hfirst], Option.eq_none_iff_forall_ne_some.2 hfalls,
    Option.eq_none_iff_forall_ne_some.2 hroutes, rfl⟩

/-- What holds of all stages of some chains holds of all stages of the table that is built of
them. -/
theorem build_stages {holds : Stage → Prop} {chains : List Chain}
    {states : Std.ExtTreeMap String String}
    (hchains : ∀ chain ∈ chains, ∀ stage ∈ chain.stages, holds stage)
    (h : build chains states = .ok registry) :
    ∀ (name : String) (chain : Chain), registry.chains[name]? = some chain →
      ∀ stage ∈ chain.stages, holds stage := by
  obtain ⟨collected, errorChain, hcollect, -, herror, -, -, -, rfl⟩ := build_ok h
  intro name chain hchain
  simp only [withErrorHandler, Std.ExtTreeMap.getElem?_insert] at hchain
  split at hchain
  · cases hchain
    exact hchains errorChain (collect_empty hcollect herror).1
  · exact hchains chain (collect_empty hcollect hchain).1

/-- A table that is built from chains that take nobody on takes nobody on. -/
theorem build_addsNobody {chains : List Chain} {states : Std.ExtTreeMap String String}
    (hchains : ∀ chain ∈ chains, ∀ stage ∈ chain.stages, stage.mailet.AddsNobody)
    (h : build chains states = .ok registry) : registry.AddsNobody :=
  build_stages hchains h

/-- The table of a configuration takes nobody on. -/
theorem ofConfig_addsNobody {host : Host} {configs : List ChainConfig}
    {states : Std.ExtTreeMap String String}
    (h : ofConfig (.standard host) configs states = .ok registry) : registry.AddsNobody := by
  obtain ⟨chains, hchains, h⟩ := ok_of_bind h
  exact build_addsNobody (forall_of_mapM (fun _ _ => Chain.ofConfig_addsNobody) hchains) h

/-- A chain takes a mail with its id and its recipients. -/
theorem entry_ok {now : Instant} {mail entered : Mail} {chain : Chain}
    (h : registry.entry now mail = .ok (chain, entered)) :
    (∃ name : String, registry.chains[name]? = some chain) ∧ entered.id = mail.id ∧
      entered.recipients = mail.recipients := by
  have hentering : ∀ {c : Chain} {m : Mail},
      (c, if m.state = c.name then m else m.setState now c.name) = (chain, entered) →
        c = chain ∧ entered.id = m.id ∧ entered.recipients = m.recipients := by
    intro c m heq
    cases heq
    refine ⟨rfl, ?_⟩
    split <;> exact ⟨rfl, rfl⟩
  unfold entry at h
  dsimp only at h
  split at h
  · rename_i c hresolve
    obtain ⟨rfl, hsame⟩ := hentering (Except.ok.inj h)
    exact ⟨⟨_, hresolve⟩, hsame⟩
  · split at h
    · rename_i c hresolve
      obtain ⟨rfl, hsame⟩ := hentering (Except.ok.inj h)
      exact ⟨⟨_, hresolve⟩, hsame⟩
    · cases h

/-- To send mails elsewhere changes no id and no recipient. -/
theorem checkRouted_accounts {chain : Chain} {now : Instant} {routed final : List Mail}
    (h : registry.checkRouted chain now routed = .ok final) : Accounts routed [] final := by
  have hcons : ∀ {mail sent : Mail} {rest others : List Mail}, sent.id = mail.id →
      sent.recipients = mail.recipients → Accounts rest [] others →
        Accounts (mail :: rest) [] (sent :: others) := by
    intro mail sent rest others hid hsame hrest
    have hhere : Accounts ([mail] ++ rest) [] ([sent] ++ rest) :=
      (Accounts.relabel hid hsame).beside rest
    have hthere : Accounts ([sent] ++ rest) [] ([sent] ++ others) :=
      (hrest.beside [sent]).perm List.perm_append_comm List.perm_append_comm
    exact hhere.trans hthere
  induction routed generalizing final with
  | nil =>
      cases h
      exact .refl []
  | cons mail rest ih =>
      unfold checkRouted at h
      split at h
      · obtain ⟨others, hothers, hfinal⟩ := ok_of_bind h
        cases hfinal
        exact hcons rfl rfl (ih hothers)
      · split at h
        · cases h
        · obtain ⟨others, hothers, hfinal⟩ := ok_of_bind h
          cases hfinal
          exact hcons rfl rfl (ih hothers)

/-- All that a pass that returns can have done: it disposed of a terminal mail, or it ran the mail
through the chain that takes it and sent on what was routed there. -/
theorem process_ok {mail : Mail} {pass pass' : Pass} {routed : List Mail}
    (h : registry.process mail pass = (.ok routed, pass')) :
    (mail.isTerminal = true ∧ routed = [] ∧ pass' = pass ∧
      registry.history mail pass = [.discarded mail]) ∨
    ∃ chain entered left, mail.isTerminal = false ∧
      registry.entry pass.now mail = .ok (chain, entered) ∧
      chain.run entered pass = (.ok left, pass') ∧
      registry.checkRouted chain pass'.now left = .ok routed ∧
      registry.history mail pass = chain.history entered pass := by
  unfold process at h
  unfold history
  split at h
  · rename_i hterminal
    cases h
    exact .inl ⟨hterminal, rfl, rfl, if_pos hterminal⟩
  · rename_i hlive
    rw [if_neg hlive]
    rcases hentry : registry.entry pass.now mail with fault | ⟨chain, entered⟩
    · simp [hentry] at h
    · rcases hrun : chain.run entered pass with ⟨halt | left, after⟩
      · simp [hentry, hrun] at h
      · simp only [hentry, hrun, Prod.mk.injEq] at h
        obtain ⟨hrouted, rfl⟩ := h
        exact .inr ⟨chain, entered, left, by simpa using hlive, rfl, hrun, hrouted, rfl⟩

/-- A pass keeps the books of its mail. -/
theorem process_accounts (hregistry : registry.AddsNobody) {mail : Mail} {pass pass' : Pass}
    {routed : List Mail} (h : registry.process mail pass = (.ok routed, pass')) :
    Accounts [mail] (registry.history mail pass) routed := by
  rcases process_ok h with ⟨-, rfl, -, hhistory⟩ |
    ⟨chain, entered, left, -, hentry, hrun, hrouted, hhistory⟩
  · rw [hhistory]
    exact .gone fun r => .rfl
  · obtain ⟨⟨name, hchain⟩, hid, hsame⟩ := entry_ok hentry
    have hentered : Accounts [mail] [] [entered] := .relabel hid hsame
    have hchained : Accounts [entered] (chain.history entered pass) left :=
      Chain.runPending_accounts (hregistry name chain hchain) _ _ _
        (chain.inside_start entered) hrun
    have hall := (hentered.trans hchained).trans (checkRouted_accounts hrouted)
    rwa [List.nil_append, List.append_nil, ← hhistory] at hall

theorem handles_of_takes {mail : Mail} {pass : Pass} {incident : Incident} {r : Address}
    (hmem : incident ∈ registry.history mail pass) (htakes : incident.Takes r) :
    registry.Handles mail pass r := by
  unfold history at hmem
  split at hmem
  · rename_i hterminal
    exact .inl hterminal
  · cases hentry : registry.entry pass.now mail with
    | error fault => simp [hentry] at hmem
    | ok entering =>
        obtain ⟨chain, entered⟩ := entering
        simp only [hentry] at hmem
        have hgenuine :=
          Chain.historyFrom_genuine _ pass (chain.inside_start entered) incident hmem
        exact .inr ⟨chain, entered, hentry, Chain.removes_or_disposesOf hmem hgenuine htakes⟩

/-- Every recipient of a mail that its pass did not handle is on a mail that leaves the pass. -/
theorem process_covers (hregistry : registry.AddsNobody) {mail : Mail} {pass pass' : Pass}
    {routed : List Mail} (h : registry.process mail pass = (.ok routed, pass')) {r : Address}
    (hr : r ∈ mail.recipients) (hunhandled : ¬ registry.Handles mail pass r) :
    ∃ m ∈ routed, r ∈ m.recipients := by
  have haccounts := process_accounts hregistry h
  rcases haccounts.covered r (holders_pos_iff.2 ⟨mail, by simp, hr⟩) with hleft |
    ⟨incident, hmem, htakes⟩
  · exact holders_pos_iff.1 hleft
  · exact absurd (handles_of_takes hmem htakes) hunhandled

end Registry

end Postroom
