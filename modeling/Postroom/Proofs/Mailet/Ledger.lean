import Postroom.Proofs.Chain.Accounts
import Postroom.Proofs.Mailet.Conduct

/-!
The ledger of a local delivery: the calls of its mailbox store, in their order. Recipients are taken
in the order of the set, and each is tried with the content of the mail. The store takes the mail in
every call but perhaps the last one; behind a call in which it refuses the mail there is none. Who
was tried and not refused leaves the mail, and everybody else stays.
-/

namespace Postroom

/-- One call of a mailbox store, with the world before and after it. -/
structure Attempt where
  recipient : Address
  mail : Mail
  before : World
  answer : Except MailetError Unit
  after : World

/-- Calls of a mailbox store that lead from one world to another, each from where the one before it
ended. -/
inductive MailboxStore.Calls (store : MailboxStore) : World → List Attempt → World → Prop where
  | none (world : World) : Calls store world [] world
  | call {recipient : Address} {mail : Mail} {before after last : World}
      {answer : Except MailetError Unit} {rest : List Attempt} :
      store.deliver recipient mail before = (answer, after) → Calls store after rest last →
      Calls store before (⟨recipient, mail, before, answer, after⟩ :: rest) last

namespace Mailet

/-- The ledger of a delivery to some recipients: the calls in which the mail was taken, and the one
in which it was refused, if there is one. -/
structure Ledger (store : MailboxStore) (mail : Mail) (pass : Pass) (recipients : List Address)
    (served : Service) (delivered : List Attempt) (refused : Option Attempt) : Prop where
  calls : store.Calls pass.world (delivered ++ refused.toList) served.pass.world
  order : (delivered ++ refused.toList).map Attempt.recipient <+: recipients
  content : ∀ a ∈ delivered ++ refused.toList, a.mail.content = mail.content
  accepted : ∀ a ∈ delivered, a.answer = .ok ()
  declined : ∀ a ∈ refused, ∃ e, a.answer = .error e ∧ served.outcome = .failed e
  complete : refused = none → delivered.map Attempt.recipient = recipients ∧ served.outcome = .done
  left : ∀ r, r ∈ served.mail.recipients ↔ r ∈ mail.recipients ∧ r ∉ delivered.map Attempt.recipient
  unchanged : refused ≠ none → served.mail.state = mail.state ∧ served.mail.content = mail.content ∧
    served.mail.attributes = mail.attributes ∧ served.mail.sender = mail.sender

variable {store : MailboxStore} {mail : Mail} {pass : Pass} {recipient : Address}
  {recipients : List Address} {world : World}

/-- A delivery ends with the recipient for whom the mail is refused. -/
theorem ledger_refused {e : MailetError}
    (h : store.deliver recipient mail pass.world = (.error e, world)) :
    Ledger store mail pass (recipient :: recipients) ⟨mail, { pass with world }, .failed e⟩ []
      (some ⟨recipient, mail, pass.world, .error e, world⟩) where
  calls := .call h (.none world)
  order := List.prefix_append [recipient] recipients
  content := by simp
  accepted := by simp
  declined a ha := by
    cases ha
    exact ⟨e, rfl, rfl⟩
  complete := by simp
  left := by simp
  unchanged _ := ⟨rfl, rfl, rfl, rfl⟩

/-- A delivery goes on behind a recipient for whom the mail is taken. -/
theorem Ledger.taken {served : Service} {delivered : List Attempt} {refused : Option Attempt}
    (h : store.deliver recipient mail pass.world = (.ok (), world))
    (hrest : Ledger store (mail.removeRecipient pass.now recipient) { pass with world } recipients
      served delivered refused) :
    Ledger store mail pass (recipient :: recipients) served
      (⟨recipient, mail, pass.world, .ok (), world⟩ :: delivered) refused := by
  constructor
  case calls => exact .call h hrest.calls
  case order => exact (List.prefix_cons_inj recipient).2 hrest.order
  case content =>
    intro a ha
    rcases List.mem_cons.1 ha with rfl | ha
    · rfl
    · rw [hrest.content a ha, Mail.removeRecipient_content]
  case accepted =>
    intro a ha
    rcases List.mem_cons.1 ha with rfl | ha
    · rfl
    · exact hrest.accepted a ha
  case declined => exact hrest.declined
  case complete =>
    intro hnone
    obtain ⟨hall, hdone⟩ := hrest.complete hnone
    exact ⟨by rw [List.map_cons, hall], hdone⟩
  case left =>
    intro r
    rw [hrest.left, Mail.mem_removeRecipient, List.map_cons, List.mem_cons, not_or, and_assoc]
  case unchanged =>
    intro hsome
    obtain ⟨hstate, hcontents, hattribute, hsenders⟩ := hrest.unchanged hsome
    rw [hstate, hcontents, hattribute, hsenders]
    simp

/-- Every delivery has a ledger. -/
theorem deliverEach_ledger (store : MailboxStore) (recipients : List Address) (mail : Mail)
    (pass : Pass) :
    ∃ delivered refused,
      Ledger store mail pass recipients (deliverEach store mail pass recipients) delivered
        refused := by
  induction recipients generalizing mail pass with
  | nil =>
      refine ⟨[], none, .none _, List.prefix_refl _, by simp, by simp, by simp, ?_, ?_, ?_⟩
      · exact fun _ => ⟨rfl, rfl⟩
      · simp [deliverEach]
      · exact fun hsome => absurd rfl hsome
  | cons recipient rest ih =>
      unfold deliverEach
      rcases hdeliver : store.deliver recipient mail pass.world with ⟨e | ⟨⟩, world⟩
      · exact ⟨[], _, ledger_refused hdeliver⟩
      · obtain ⟨delivered, refused, hrest⟩ :=
          ih (mail.removeRecipient pass.now recipient) { pass with world }
        exact ⟨_, refused, hrest.taken hdeliver⟩

/-- A local delivery has a ledger. It is done if nobody was refused, and drops the mail then, and it
fails otherwise. -/
theorem localDelivery_ledger (store : MailboxStore) (mail : Mail) (pass : Pass) :
    ∃ delivered refused,
      Ledger store mail pass mail.recipients.toList ((localDelivery store).service mail pass)
        delivered refused ∧
      (((localDelivery store).service mail pass).outcome = .done ↔ refused = none) ∧
      (refused = none → ((localDelivery store).service mail pass).mail.state =
        StateName.ghost) := by
  obtain ⟨delivered, refused, h⟩ := deliverEach_ledger store mail.recipients.toList mail pass
  refine ⟨delivered, refused, ?_⟩
  unfold localDelivery
  dsimp only
  cases refused with
  | none =>
      obtain ⟨hall, hdone⟩ := h.complete rfl
      rw [hdone]
      refine ⟨?_, iff_of_true rfl rfl, fun _ => rfl⟩
      exact { h with
        declined := fun a ha => by cases ha
        complete := fun _ => ⟨hall, rfl⟩
        unchanged := fun hsome => absurd rfl hsome }
  | some attempt =>
      obtain ⟨e, -, hfailed⟩ := h.declined attempt rfl
      rw [hfailed]
      refine ⟨h, iff_of_false ?_ (by simp), fun hnone => by cases hnone⟩
      rw [hfailed]
      simp

theorem returns_localDelivery (store : MailboxStore) : (localDelivery store).Returns := by
  intro mail pass halt hhalted
  obtain ⟨delivered, refused, h, hdone, -⟩ := localDelivery_ledger store mail pass
  cases refused with
  | none =>
      rw [hdone.2 rfl] at hhalted
      cases hhalted
  | some attempt =>
      obtain ⟨e, -, hfailed⟩ := h.declined attempt rfl
      rw [hfailed] at hhalted
      cases hhalted

/-- Nobody is tried twice. -/
theorem Ledger.nodup {served : Service} {delivered : List Attempt} {refused : Option Attempt}
    (h : Ledger store mail pass mail.recipients.toList served delivered refused) :
    ((delivered ++ refused.toList).map Attempt.recipient).Nodup :=
  h.order.sublist.nodup mail.recipients.nodup_toList

/-- Whoever was refused stays on the mail, so somebody does. -/
theorem Ledger.occupied {served : Service} {delivered : List Attempt} {attempt : Attempt}
    (h : Ledger store mail pass mail.recipients.toList served delivered (some attempt)) :
    served.mail.recipients ≠ ∅ := by
  have hnodup := h.nodup
  rw [List.map_append, List.nodup_append] at hnodup
  have htried : attempt.recipient ∈ (delivered ++ [attempt]).map Attempt.recipient := by simp
  have hrecipient := h.order.subset htried
  have hstays : attempt.recipient ∈ served.mail.recipients := by
    refine (h.left _).2 ⟨by simpa using hrecipient, ?_⟩
    intro hdelivered
    exact hnodup.2.2 _ hdelivered _ (by simp) rfl
  intro hempty
  rw [hempty] at hstays
  simp at hstays

end Mailet

end Postroom
