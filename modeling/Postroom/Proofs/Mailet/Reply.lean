import Postroom.Proofs.Chain.Notification
import Postroom.Proofs.Date
import Postroom.Proofs.Mailet.Individual
import Postroom.Proofs.Mailet.Ledger

/-!
When a sender can be answered. A notification bears two dates, of now and of the mail that it is
about. If both can be written it is sent, and the mail is dropped; otherwise the mailet that writes
it panics. No other built-in mailet does. A mail without a sender is dropped in any case.
-/

namespace Postroom

/-- Whether a notification about a mail can be dated. Its sender is answered now, and its id tells
when it arrived. -/
def Mail.Datable (mail : Mail) (now : Instant) : Prop :=
  (0 ≤ now.nanos ∧ now.nanos < nanosToYear10000) ∧ mail.id.timestampMillis < 253402300800000

theorem Mail.datable_iff (mail : Mail) (now : Instant) : mail.Datable now ↔
    now.mailDate?.isSome = true ∧ (Bounce.arrivalDate? mail.id).isSome = true := by
  rw [Datable, Instant.isSome_mailDate?_iff, Bounce.isSome_arrivalDate?_iff]

namespace Mailet

/-- A mailet that notifies senders is done if there is nobody to notify, or if the dates can be
written, and panics otherwise. -/
theorem bounce_outcome (settings : Bounce) (mail : Mail) (pass : Pass) :
    (((bounce settings).service mail pass).outcome = .done ↔
        mail.sender = none ∨ mail.Datable pass.now) ∧
      (((bounce settings).service mail pass).outcome = .halted .panicked ↔
        mail.sender ≠ none ∧ ¬ mail.Datable pass.now) := by
  have hdone := bounce_done_iff settings mail pass
  rw [← mail.datable_iff] at hdone
  refine ⟨hdone, ?_⟩
  have hpanics : ((bounce settings).service mail pass).outcome = .halted .panicked ↔
      ((bounce settings).service mail pass).outcome ≠ .done := by
    unfold bounce
    dsimp only
    split
    · simp
    · split <;> simp
  rw [hpanics, ne_eq, hdone, not_or]

/-- What a mailet leaves that notifies senders: the mail dropped, with its recipients, and one more
notification if there is a sender. -/
theorem bounce_leaves {settings : Bounce} {mail : Mail} {pass : Pass}
    (hdone : ((bounce settings).service mail pass).outcome = .done) :
    ((bounce settings).service mail pass).mail = mail.setState pass.now StateName.ghost ∧
      ∃ sent, ((bounce settings).service mail pass).pass.outgoing = pass.outgoing ++ sent ∧
        sent.map Mail.envelope = mail.sender.toList.map fun sender => (none, .ofList [sender]) := by
  cases hsender : mail.sender with
  | none =>
      have hservice : (bounce settings).service mail pass =
          ⟨mail.setState pass.now StateName.ghost, pass, .done⟩ := by simp [bounce, hsender]
      rw [hservice]
      exact ⟨rfl, [], (List.append_nil _).symm, rfl⟩
  | some sender =>
      cases hnotification : settings.notification? mail sender pass with
      | none => simp [bounce, hsender, hnotification] at hdone
      | some written =>
          obtain ⟨notification, after⟩ := written
          obtain ⟨henvelope, hsame⟩ := Bounce.notification?_envelope hnotification
          have hservice : (bounce settings).service mail pass =
              ⟨mail.setState pass.now StateName.ghost, after.send notification, .done⟩ := by
            simp [bounce, hsender, hnotification]
          rw [hservice]
          refine ⟨rfl, [notification], ?_, ?_⟩
          · rw [← hsame]
            rfl
          · rw [List.map_singleton, henvelope]
            rfl

/-- A built-in mailet returns from a mail whose sender can be answered. -/
theorem IsBuiltin.returns_of_datable {mailet : Mailet} (h : mailet.IsBuiltin) {mail : Mail}
    {pass : Pass} (hmail : mail.sender = none ∨ mail.Datable pass.now) (halt : Halt) :
    (mailet.service mail pass).outcome ≠ .halted halt := by
  intro hhalted
  cases h with
  | localDelivery store => exact returns_localDelivery store mail pass halt hhalted
  | bounce settings =>
      rw [(bounce_outcome settings mail pass).1.2 hmail] at hhalted
      cases hhalted
  | _ => cases hhalted

end Mailet

end Postroom
