import Postroom.Proofs.Chain.Notification
import Postroom.Proofs.Registry.Accounting

/-!
Notifications that are sent in the course of a pass. The routing table changes states alone, and no
envelope, before and after the run of a chain. So a pass sends what its chain sends.
-/

namespace Postroom

namespace Registry

variable {registry : Registry}

/-- A chain takes a mail with its envelope. -/
theorem entry_envelope {now : Instant} {mail entered : Mail} {chain : Chain}
    (h : registry.entry now mail = .ok (chain, entered)) : entered.envelope = mail.envelope := by
  have hentering : ∀ {c : Chain} {m : Mail},
      (c, if m.state = c.name then m else m.setState now c.name) = (chain, entered) →
        entered.envelope = m.envelope := by
    intro c m heq
    cases heq
    split <;> rfl
  unfold entry at h
  dsimp only at h
  split at h
  · exact hentering (Except.ok.inj h)
  · split at h
    · have hdiverted : entered.envelope = (divert now mail).envelope := hentering (Except.ok.inj h)
      exact hdiverted
    · cases h

/-- To send mails elsewhere changes no envelope. -/
theorem checkRouted_envelopes {chain : Chain} {now : Instant} {routed final : List Mail}
    (h : registry.checkRouted chain now routed = .ok final) :
    final.map Mail.envelope = routed.map Mail.envelope := by
  induction routed generalizing final with
  | nil =>
      cases h
      rfl
  | cons mail rest ih =>
      unfold checkRouted at h
      split at h
      · obtain ⟨others, hothers, hfinal⟩ := ok_of_bind h
        cases hfinal
        rw [List.map_cons, List.map_cons, ih hothers]
      · split at h
        · cases h
        · obtain ⟨others, hothers, hfinal⟩ := ok_of_bind h
          cases hfinal
          rw [List.map_cons, List.map_cons, ih hothers]
          rfl

/-- A pass keeps the books of the notifications about its mail. -/
theorem IsBuiltin.process_notified (hregistry : registry.IsBuiltin) {mail : Mail}
    {pass pass' : Pass} {routed : List Mail}
    (h : registry.process mail pass = (.ok routed, pass')) :
    ∃ sent, pass'.outgoing = pass.outgoing ++ sent ∧
      Notified [mail] (registry.history mail pass) routed sent := by
  rcases process_ok h with ⟨-, rfl, rfl, -⟩ |
    ⟨chain, entered, left, hlive, hentry, hrun, hrouted, hhistory⟩
  · exact ⟨[], (List.append_nil _).symm, (Notified.gone [mail]).mono (List.nil_subset _)⟩
  · obtain ⟨⟨name, hchain⟩, -, hsame⟩ := entry_ok hentry
    have hentered : Notified [mail] [] [entered] [] :=
      .of_envelopes (congrArg (fun envelope => [envelope]) (entry_envelope hentry))
    have hoccupied : ∀ branch ∈ [(⟨chain.stages, entered⟩ : Branch)],
        branch.mail.recipients ≠ ∅ := by
      intro branch hbranch
      rw [List.mem_singleton.1 hbranch, hsame]
      exact ((Mail.isTerminal_eq_false_iff mail).1 hlive).2
    obtain ⟨sent, hsent, hchained⟩ := Chain.runPending_notified (hregistry name chain hchain)
      _ _ _ (chain.inside_start entered) hoccupied hrun
    have hsent_on : Notified left [] routed [] := .of_envelopes (checkRouted_envelopes hrouted)
    have hall := (hentered.trans hchained).trans hsent_on
    rw [List.nil_append, List.append_nil, List.nil_append, List.append_nil] at hall
    exact ⟨sent, hsent, hhistory ▸ hall⟩

end Registry

end Postroom
