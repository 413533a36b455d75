import Postroom.Proofs.Mailet.Builtin

/-!
How mailets behave towards the mail they serve. A mailet takes nobody on if the mail keeps its id
and gains no recipient, and it returns if it never halts the pass. The built-in mailets take nobody
on, and all of them but the one that writes notifications return, given a store that does.
-/

namespace Postroom

namespace Mail

/-- Whether a mail has the id of another one and none but its recipients. -/
def Within (mail original : Mail) : Prop :=
  mail.id = original.id ∧ ∀ r ∈ mail.recipients, r ∈ original.recipients

theorem Within.refl (mail : Mail) : mail.Within mail :=
  ⟨rfl, fun _ hr => hr⟩

theorem Within.trans {a b c : Mail} (hab : a.Within b) (hbc : b.Within c) : a.Within c := by
  refine ⟨hab.1.trans hbc.1, ?_⟩
  intro r hr
  exact hbc.2 r (hab.2 r hr)

theorem mem_removeRecipient {mail : Mail} {now : Instant} {recipient r : Address} :
    r ∈ (mail.removeRecipient now recipient).recipients ↔
      r ∈ mail.recipients ∧ r ≠ recipient := by
  unfold removeRecipient
  split
  · simp only [Std.ExtTreeSet.mem_erase, ne_eq, Std.compare_eq_iff_eq]
    constructor
    · rintro ⟨hne, hr⟩
      exact ⟨hr, fun heq => hne heq.symm⟩
    · rintro ⟨hr, hne⟩
      exact ⟨fun heq => hne heq.symm, hr⟩
  · rename_i hout
    constructor
    · intro hr
      refine ⟨hr, ?_⟩
      rintro rfl
      exact hout hr
    · exact And.left

theorem within_removeRecipient (mail : Mail) (now : Instant) (recipient : Address) :
    (mail.removeRecipient now recipient).Within mail := by
  unfold removeRecipient
  split
  · exact ⟨rfl, fun r hr => Std.ExtTreeSet.mem_of_mem_erase hr⟩
  · exact .refl mail

end Mail

namespace Mailet

/-- Whether a mailet takes nobody on. -/
def AddsNobody (mailet : Mailet) : Prop :=
  ∀ mail pass, (mailet.service mail pass).mail.Within mail

/-- Whether a mailet neither panics nor is interrupted. -/
def Returns (mailet : Mailet) : Prop :=
  ∀ mail pass halt, (mailet.service mail pass).outcome ≠ .halted halt

theorem addsNobody_rewriting {name : String} {rewrite : Instant → Mail → Mail}
    (h : ∀ now mail, (rewrite now mail).Within mail) : (rewriting name rewrite).AddsNobody := by
  intro mail pass
  exact h pass.now mail

theorem returns_rewriting (name : String) (rewrite : Instant → Mail → Mail) :
    (rewriting name rewrite).Returns := by
  intro mail pass halt h
  cases h

theorem addsNobody_toProcessor (processor : String) (notice : Option String) :
    (toProcessor processor notice).AddsNobody := by
  intro mail pass
  cases notice <;> exact .refl mail

theorem returns_toProcessor (processor : String) (notice : Option String) :
    (toProcessor processor notice).Returns := by
  intro mail pass halt h
  cases h

theorem addsNobody_logMessage (comment : Option String) : (logMessage comment).AddsNobody := by
  intro mail pass
  exact .refl mail

theorem deliverEach_within (store : MailboxStore) (recipients : List Address) (mail : Mail)
    (pass : Pass) : (deliverEach store mail pass recipients).mail.Within mail := by
  induction recipients generalizing mail pass with
  | nil => exact .refl mail
  | cons recipient rest ih =>
      unfold deliverEach
      split
      · exact .refl mail
      · exact (ih _ _).trans (mail.within_removeRecipient pass.now recipient)

theorem addsNobody_localDelivery (store : MailboxStore) : (localDelivery store).AddsNobody := by
  intro mail pass
  have hserved := deliverEach_within store mail.recipients.toList mail pass
  unfold localDelivery
  dsimp only
  split <;> exact hserved

theorem addsNobody_bounce (settings : Bounce) : (bounce settings).AddsNobody := by
  intro mail pass
  unfold bounce
  dsimp only
  split
  · exact .refl mail
  · split <;> exact .refl mail

/-- A built-in mailet takes nobody on, whatever its parameters are. -/
theorem IsBuiltin.addsNobody {mailet : Mailet} (h : mailet.IsBuiltin) : mailet.AddsNobody := by
  cases h with
  | null => exact addsNobody_rewriting fun now mail => .refl mail
  | toProcessor processor notice => exact addsNobody_toProcessor processor notice
  | setAttribute name value => exact addsNobody_rewriting fun now mail => .refl mail
  | removeAttribute name => exact addsNobody_rewriting fun now mail => .refl mail
  | addHeader name value => exact addsNobody_rewriting fun now mail => .refl mail
  | logMessage comment => exact addsNobody_logMessage comment
  | localDelivery store => exact addsNobody_localDelivery store
  | bounce settings => exact addsNobody_bounce settings

end Mailet

namespace Chain

/-- The mailets of a chain that is built from the standard catalogue take nobody on. -/
theorem ofConfig_addsNobody {host : Host} {config : ChainConfig} {chain : Chain}
    (h : ofConfig (.standard host) config = .ok chain) :
    ∀ stage ∈ chain.stages, stage.mailet.AddsNobody :=
  fun stage hstage => (ofConfig_isBuiltin h stage hstage).addsNobody

end Chain

end Postroom
