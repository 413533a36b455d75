import Postroom.Proofs.Mailet.Ledger

/-!
Deliveries. A history shows which mailboxes took mail: each local delivery in it has a ledger, and
the calls in which the mail was taken are those of the ledgers. A local delivery takes off a mail
exactly those recipients whose mailboxes took it, each in one call, and no other built-in mailet
takes anybody off. So wherever the mailets are built in, the way of a recipient ends in one of two
ways: it was delivered to, or its branch was disposed of.
-/

namespace Postroom

/-- A built-in mailet that does not deliver leaves all recipients on the mail. -/
theorem Mailet.IsBuiltin.recipients_cases {mailet : Mailet} (h : mailet.IsBuiltin) :
    (∃ store, mailet = .localDelivery store) ∨
      ∀ mail pass, (mailet.service mail pass).mail.recipients = mail.recipients := by
  cases h with
  | null => exact .inr fun mail pass => rfl
  | toProcessor processor notice => exact .inr fun mail pass => by cases notice <;> rfl
  | setAttribute name value => exact .inr fun mail pass => rfl
  | removeAttribute name => exact .inr fun mail pass => rfl
  | addHeader name value => exact .inr fun mail pass => rfl
  | logMessage comment => exact .inr fun mail pass => rfl
  | localDelivery store => exact .inl ⟨store, rfl⟩
  | bounce settings =>
      refine .inr fun mail pass => ?_
      unfold Mailet.bounce
      dsimp only
      split
      · rfl
      · split <;> rfl

namespace Incident

/-- Whether an incident is the call of a local delivery. -/
def IsDelivery : Incident → Prop
  | .served stage _ _ => ∃ store, stage.mailet = .localDelivery store
  | _ => False

/-- Whether an incident is the disposal of a branch with a recipient on it. -/
def Disposes (incident : Incident) (r : Address) : Prop :=
  match incident with
  | .discarded mail => r ∈ mail.recipients
  | .dropped mail => r ∈ mail.recipients
  | _ => False

instance (r : Address) : DecidablePred fun incident : Incident => incident.Disposes r
  | .forked _ => inferInstanceAs (Decidable False)
  | .served .. => inferInstanceAs (Decidable False)
  | .discarded mail => inferInstanceAs (Decidable (r ∈ mail.recipients))
  | .dropped mail => inferInstanceAs (Decidable (r ∈ mail.recipients))

/-- Whether a call that an incident tells of is the call of a built-in mailet. -/
def OfBuiltin : Incident → Prop
  | .served stage _ _ => stage.mailet.IsBuiltin
  | _ => True

theorem Genuine.ofBuiltin {chain : Chain} {incident : Incident} (h : incident.Genuine chain)
    (hbuiltin : ∀ stage ∈ chain.stages, stage.mailet.IsBuiltin) : incident.OfBuiltin := by
  cases incident with
  | served stage before pass => exact hbuiltin stage h
  | forked id => trivial
  | discarded mail => trivial
  | dropped mail => trivial

/-- A built-in mailet that does not deliver takes nobody off. -/
theorem OfBuiltin.takes_iff {incident : Incident} (h : incident.OfBuiltin)
    (hother : ¬ incident.IsDelivery) (r : Address) : incident.Takes r ↔ incident.Disposes r := by
  cases incident with
  | forked id => rfl
  | discarded mail => rfl
  | dropped mail => rfl
  | served stage before pass =>
      refine iff_of_false ?_ id
      rintro ⟨hbefore, hafter⟩
      rw [(h.recipients_cases.resolve_left hother) before pass] at hafter
      exact hafter hbefore

end Incident

/-- The calls in which mailboxes took mail in the course of a history, in order: those of its local
deliveries, each of which has a ledger. -/
inductive Booked : List Incident → List Attempt → Prop where
  | nil : Booked [] []
  | delivery {stage : Stage} {store : MailboxStore} {before : Mail} {pass : Pass}
      {delivered later : List Attempt} {refused : Option Attempt} {rest : List Incident} :
      stage.mailet = .localDelivery store →
      Mailet.Ledger store before pass before.recipients.toList
        (stage.mailet.service before pass) delivered refused →
      Booked rest later → Booked (.served stage before pass :: rest) (delivered ++ later)
  | other {incident : Incident} {later : List Attempt} {rest : List Incident} :
      ¬ incident.IsDelivery → Booked rest later → Booked (incident :: rest) later

/-- How many of some calls are for a recipient. -/
def deliveries (r : Address) (delivered : List Attempt) : Nat :=
  (delivered.map Attempt.recipient).count r

theorem deliveries_append (r : Address) (xs ys : List Attempt) :
    deliveries r (xs ++ ys) = deliveries r xs + deliveries r ys := by
  unfold deliveries
  rw [List.map_append, List.count_append]

/-- How many branches with a recipient were disposed of in a history. -/
def disposals (r : Address) (history : List Incident) : Nat :=
  history.countP fun incident => decide (incident.Disposes r)

/-- Whatever happens, its local deliveries have ledgers. -/
theorem exists_booked (history : List Incident) : ∃ delivered, Booked history delivered := by
  induction history with
  | nil => exact ⟨[], .nil⟩
  | cons incident rest ih =>
      obtain ⟨later, hrest⟩ := ih
      by_cases hdelivery : incident.IsDelivery
      · cases incident with
        | served stage before pass =>
            obtain ⟨store, hstore⟩ := hdelivery
            obtain ⟨delivered, refused, hledger, -⟩ := Mailet.localDelivery_ledger store before pass
            rw [← hstore] at hledger
            exact ⟨delivered ++ later, .delivery hstore hledger hrest⟩
        | _ => exact hdelivery.elim
      · exact ⟨later, .other hdelivery hrest⟩

namespace Mailet.Ledger

variable {stage : Stage} {store : MailboxStore} {before : Mail} {pass : Pass}
  {delivered : List Attempt} {refused : Option Attempt}

/-- A recipient whose mailbox takes the mail is taken off it, in one call, and nobody else is. -/
theorem deliveries_eq (h : Ledger store before pass before.recipients.toList
    (stage.mailet.service before pass) delivered refused) (r : Address) :
    deliveries r delivered =
      if (Incident.served stage before pass).Takes r then 1 else 0 := by
  have hnodup : (delivered.map Attempt.recipient).Nodup := by
    have hall := h.nodup
    rw [List.map_append] at hall
    exact (List.nodup_append.1 hall).1
  unfold deliveries
  by_cases hdelivered : r ∈ delivered.map Attempt.recipient
  · have htried : r ∈ before.recipients.toList := by
      refine h.order.subset ?_
      rw [List.map_append]
      exact List.mem_append_left _ hdelivered
    have htakes : (Incident.served stage before pass).Takes r :=
      ⟨by simpa using htried, fun hleft => ((h.left r).1 hleft).2 hdelivered⟩
    rw [if_pos htakes, List.count_eq_one_of_mem hnodup hdelivered]
  · have hstays : ¬ (Incident.served stage before pass).Takes r :=
      fun htakes => htakes.2 ((h.left r).2 ⟨htakes.1, hdelivered⟩)
    rw [if_neg hstays, List.count_eq_zero_of_not_mem hdelivered]

end Mailet.Ledger

/-- Where mailets are built in, every ending is a delivery or a disposal. -/
theorem Booked.takings_eq {history : List Incident} {delivered : List Attempt}
    (h : Booked history delivered) (hbuiltin : ∀ incident ∈ history, incident.OfBuiltin)
    (r : Address) : takings r history = deliveries r delivered + disposals r history := by
  induction h with
  | nil => rfl
  | @delivery stage store before pass delivered later refused rest hstore hledger _ ih =>
      have hrest := ih fun other hother => hbuiltin other (List.mem_cons_of_mem _ hother)
      have hdisposes : ¬ (Incident.served stage before pass).Disposes r := id
      rw [deliveries_append, hledger.deliveries_eq r]
      unfold takings disposals at hrest ⊢
      simp only [List.countP_cons, hrest, hdisposes, decide_false, decide_eq_true_eq]
      split
      · simp
        omega
      · simp
  | @other incident later rest hother _ ih =>
      have hrest := ih fun o ho => hbuiltin o (List.mem_cons_of_mem _ ho)
      have hiff := (hbuiltin incident (List.mem_cons_self ..)).takes_iff hother r
      unfold takings disposals at hrest ⊢
      simp only [List.countP_cons, hrest, decide_eq_true_eq, if_congr hiff rfl rfl]
      omega

end Postroom
