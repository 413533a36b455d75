import Postroom.Proofs.Mailet.Conduct
import Postroom.Proofs.Matcher.Individual

/-!
What a built-in mailet does to a mail, it does to each recipient of it alone. Where it serves the
mail without a failure, it serves the mail with one recipient of it as well, and leaves both alike,
unless it drops both. A mailbox store has to judge each recipient individually for that, and a
notification has to be writable about the id of the single mail: a fork has an id of the present,
while a mail that is never forked keeps the one it came with.
-/

namespace Postroom

/-- Whether a mailbox store takes or refuses mail by the recipient alone. -/
def MailboxStore.Individual (store : MailboxStore) : Prop :=
  ∃ accepts : Address → Bool, ∀ r mail world, (store.deliver r mail world).1.isOk = accepts r

namespace Mailet

/-- A delivery is done if the store takes the mail for everybody. -/
theorem deliverEach_done_iff {store : MailboxStore} {accepts : Address → Bool}
    (haccepts : ∀ r mail world, (store.deliver r mail world).1.isOk = accepts r)
    (recipients : List Address) (mail : Mail) (pass : Pass) :
    (deliverEach store mail pass recipients).outcome = .done ↔
      ∀ r ∈ recipients, accepts r = true := by
  induction recipients generalizing mail pass with
  | nil => simp [deliverEach]
  | cons recipient rest ih =>
      have hrecipient := haccepts recipient mail pass.world
      unfold deliverEach
      rcases hdeliver : store.deliver recipient mail pass.world with ⟨e | ⟨⟩, world⟩
      · have hrefused : accepts recipient = false := by
          rw [← hrecipient, hdeliver]
          rfl
        simp [hrefused]
      · have htaken : accepts recipient = true := by
          rw [← hrecipient, hdeliver]
          rfl
        dsimp only
        rw [ih, List.forall_mem_cons]
        exact (and_iff_right htaken).symm

theorem deliverEach_now (store : MailboxStore) (recipients : List Address) (mail : Mail)
    (pass : Pass) : (deliverEach store mail pass recipients).pass.now = pass.now := by
  induction recipients generalizing mail pass with
  | nil => rfl
  | cons recipient rest ih =>
      unfold deliverEach
      split
      · rfl
      · rw [ih]

theorem localDelivery_done_iff {store : MailboxStore} {accepts : Address → Bool}
    (haccepts : ∀ r mail world, (store.deliver r mail world).1.isOk = accepts r) (mail : Mail)
    (pass : Pass) :
    ((localDelivery store).service mail pass).outcome = .done ↔
      ∀ r ∈ mail.recipients, accepts r = true := by
  have heach := deliverEach_done_iff haccepts mail.recipients.toList mail pass
  simp only [Std.ExtTreeSet.mem_toList] at heach
  rw [← heach]
  unfold localDelivery
  dsimp only
  split <;> rfl

/-- A local delivery that is done drops the mail. -/
theorem localDelivery_state {store : MailboxStore} {mail : Mail} {pass : Pass}
    (hdone : ((localDelivery store).service mail pass).outcome = .done) :
    ((localDelivery store).service mail pass).mail.state = StateName.ghost := by
  unfold localDelivery at hdone ⊢
  dsimp only at hdone ⊢
  split at hdone
  · rfl
  · rename_i hfailed
    exact absurd hdone hfailed

/-- A notification can be written if its dates can. -/
theorem isSome_notification? (settings : Bounce) (mail : Mail) (sender : Address) (pass : Pass) :
    (settings.notification? mail sender pass).isSome =
      (pass.now.mailDate?.isSome && (Bounce.arrivalDate? mail.id).isSome) := by
  unfold Bounce.notification?
  cases pass.now.mailDate? <;> cases Bounce.arrivalDate? mail.id <;> rfl

theorem notification?_now {settings : Bounce} {mail notification : Mail} {sender : Address}
    {pass after : Pass}
    (h : settings.notification? mail sender pass = some (notification, after)) :
    after.now = pass.now := by
  unfold Bounce.notification? at h
  cases hdate : pass.now.mailDate? with
  | none => simp [hdate] at h
  | some date =>
      cases harrival : Bounce.arrivalDate? mail.id with
      | none => simp [hdate, harrival] at h
      | some arrival =>
          rw [hdate, harrival] at h
          cases h
          rfl

/-- A built-in mailet takes no time. -/
theorem IsBuiltin.service_now {mailet : Mailet} (h : mailet.IsBuiltin) (mail : Mail)
    (pass : Pass) : (mailet.service mail pass).pass.now = pass.now := by
  cases h with
  | null => rfl
  | toProcessor processor notice => rfl
  | setAttribute name value => rfl
  | removeAttribute name => rfl
  | addHeader name value => rfl
  | logMessage comment => rfl
  | localDelivery store =>
      have hnow := deliverEach_now store mail.recipients.toList mail pass
      unfold Mailet.localDelivery
      dsimp only
      split <;> exact hnow
  | bounce settings =>
      unfold Mailet.bounce
      dsimp only
      split
      · rfl
      · split
        · rfl
        · rename_i sent hnotification
          dsimp only [Pass.send]
          exact notification?_now hnotification

/-- A bounce that is done drops the mail. -/
theorem bounce_state {settings : Bounce} {mail : Mail} {pass : Pass}
    (hdone : ((bounce settings).service mail pass).outcome = .done) :
    ((bounce settings).service mail pass).mail.state = StateName.ghost := by
  unfold bounce at hdone ⊢
  dsimp only at hdone ⊢
  split at hdone
  · rfl
  · split at hdone
    · cases hdone
    · rfl

/-- A bounce is done if there is no sender, or if the dates of the notification can be written. -/
theorem bounce_done_iff (settings : Bounce) (mail : Mail) (pass : Pass) :
    ((bounce settings).service mail pass).outcome = .done ↔
      mail.sender = none ∨
        pass.now.mailDate?.isSome = true ∧ (Bounce.arrivalDate? mail.id).isSome = true := by
  unfold bounce
  dsimp only
  cases hsender : mail.sender with
  | none => simp
  | some sender =>
      have hsome := isSome_notification? settings mail sender pass
      dsimp only
      split
      · rename_i hnotification
        rw [hnotification] at hsome
        simpa using hsome
      · rename_i hnotification
        rw [hnotification] at hsome
        simpa using hsome

theorem deliverEach_sender (store : MailboxStore) (recipients : List Address) (mail : Mail)
    (pass : Pass) : (deliverEach store mail pass recipients).mail.sender = mail.sender := by
  induction recipients generalizing mail pass with
  | nil => rfl
  | cons recipient rest ih =>
      unfold deliverEach
      split
      · rfl
      · rw [ih, Mail.removeRecipient_sender]

/-- A built-in mailet leaves the sender of a mail as it is. -/
theorem IsBuiltin.service_sender {mailet : Mailet} (h : mailet.IsBuiltin) (mail : Mail)
    (pass : Pass) : (mailet.service mail pass).mail.sender = mail.sender := by
  cases h with
  | null => rfl
  | toProcessor processor notice => cases notice <;> rfl
  | setAttribute name value => rfl
  | removeAttribute name => rfl
  | addHeader name value => rfl
  | logMessage comment => rfl
  | localDelivery store =>
      have hsender := deliverEach_sender store mail.recipients.toList mail pass
      unfold Mailet.localDelivery
      dsimp only
      split <;> exact hsender
  | bounce settings =>
      unfold Mailet.bounce
      dsimp only
      split
      · rfl
      · split <;> rfl

/-- Whether a mailet, if it is one that notifies senders, can write to the sender of a mail: there
is none, or the id of the mail has a date that can be written. -/
def CanNotify (mailet : Mailet) (mail : Mail) : Prop :=
  ∀ settings, mailet = .bounce settings →
    mail.sender = none ∨ (Bounce.arrivalDate? mail.id).isSome = true

/-- Only the id and the sender of a mail matter for that. -/
theorem CanNotify.of_eq {mailet : Mailet} {mail other : Mail} (h : mailet.CanNotify mail)
    (hid : other.id = mail.id) (hsender : other.sender = mail.sender) :
    mailet.CanNotify other := by
  intro settings hsettings
  rw [hid, hsender]
  exact h settings hsettings

/-- A built-in mailet that serves a mail without a failure serves it for one of its recipients
alone, too. Both are then alike, or both are dropped. -/
theorem IsBuiltin.service_alone {mailet : Mailet} (h : mailet.IsBuiltin)
    (hstore : ∀ store, mailet = .localDelivery store → store.Individual) {r : Address}
    {alone mail : Mail} (halone : Mail.Alone r alone mail) {pass pass' : Pass}
    (hnow : pass'.now = pass.now) (hnotify : mailet.CanNotify alone)
    (hdone : (mailet.service mail pass).outcome = .done) :
    (mailet.service alone pass').outcome = .done ∧
      (Mail.Alone r (mailet.service alone pass').mail (mailet.service mail pass).mail ∨
        (mailet.service alone pass').mail.state = StateName.ghost ∧
          (mailet.service mail pass).mail.state = StateName.ghost) := by
  cases h with
  | null => exact ⟨rfl, .inl (halone.setState ..)⟩
  | toProcessor processor notice =>
      refine ⟨rfl, .inl ?_⟩
      cases notice with
      | none => exact halone.setState ..
      | some notice => exact (halone.setError ..).setState ..
  | setAttribute name value =>
      refine ⟨rfl, .inl { halone with attributes := ?_ }⟩
      exact congrArg (fun attributes => attributes.insert name (.text value)) halone.attributes
  | removeAttribute name =>
      refine ⟨rfl, .inl { halone with attributes := ?_ }⟩
      exact congrArg (fun attributes => attributes.erase name) halone.attributes
  | addHeader name value =>
      refine ⟨rfl, .inl { halone with content := ?_ }⟩
      exact congrArg (fun content => Content.withHeader content name value) halone.content
  | logMessage comment => exact ⟨rfl, .inl halone⟩
  | localDelivery store =>
      obtain ⟨accepts, haccepts⟩ := hstore store rfl
      have hall := (localDelivery_done_iff haccepts mail pass).1 hdone
      have hdone' : ((Mailet.localDelivery store).service alone pass').outcome = .done := by
        rw [localDelivery_done_iff haccepts]
        intro q hq
        rw [(halone.only q).1 hq]
        exact hall r halone.holds
      exact ⟨hdone', .inr ⟨localDelivery_state hdone', localDelivery_state hdone⟩⟩
  | bounce settings =>
      have hdone' : ((Mailet.bounce settings).service alone pass').outcome = .done := by
        rw [bounce_done_iff, hnow]
        rcases (bounce_done_iff settings mail pass).1 hdone with hsender | ⟨hdate, -⟩
        · exact .inl (halone.sender.trans hsender)
        · exact (hnotify settings rfl).imp_right fun harrival => ⟨hdate, harrival⟩
      exact ⟨hdone', .inr ⟨bounce_state hdone', bounce_state hdone⟩⟩

end Mailet

end Postroom
