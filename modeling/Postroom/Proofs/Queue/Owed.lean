import Mathlib.Tactic.ByContra
import Postroom.Proofs.Queue.Abstraction
import Postroom.Proofs.Queue.Consistency

/-!
What a queue owes to those who call it, told from the calls and their answers alone. A mail that was
stored is owed until a lease of it that was taken after that is completed. Over a dependable store
the tracked mails are the owed ones at every point of a run: none is lost, and none comes back once
it is done with.
-/

namespace Postroom

namespace QueueEvent

variable (event : QueueEvent) (id : MailId)

/-- Whether a call has stored a mail. -/
def Stores : Prop :=
  ∃ mail due, event.stored? = some (mail, due) ∧ mail.id = id

/-- Whether a call has taken a lease of a mail. -/
def Leases : Prop :=
  ∃ mail, event.reply = .lease (.ok (some mail)) ∧ mail.id = id

/-- Whether a call has ended a lease of a mail with success. -/
def Completes : Prop :=
  event.step.call = .settle id true ∧ event.reply = .done (.ok ())

/-- Whether a call has neither stored nor leased a mail, nor completed a lease. -/
def Idle : Prop :=
  ∀ id, ¬ event.Stores id ∧ ¬ event.Leases id ∧ ¬ event.Completes id

variable {event id}

theorem Stores.exists_reply (h : event.Stores id) :
    (∃ mail delay, event.step.call = .enqueue mail delay) ∧ event.reply = .done (.ok ()) := by
  obtain ⟨mail, due, hstored, -⟩ := h
  unfold stored? at hstored
  split at hstored
  · rename_i hcall hreply
    exact ⟨⟨_, _, hcall⟩, hreply⟩
  · cases hstored

theorem Stores.not_leases (h : event.Stores id) (other : MailId) : ¬ event.Leases other := by
  rintro ⟨mail, hlease, -⟩
  cases h.exists_reply.2.symm.trans hlease

theorem Stores.not_completes (h : event.Stores id) (other : MailId) : ¬ event.Completes other := by
  rintro ⟨hsettle, -⟩
  obtain ⟨⟨mail, delay, hcall⟩, -⟩ := h.exists_reply
  cases hcall.symm.trans hsettle

theorem Leases.not_completes (h : event.Leases id) (other : MailId) : ¬ event.Completes other := by
  rintro ⟨-, hdone⟩
  obtain ⟨mail, hlease, -⟩ := h
  cases hdone.symm.trans hlease

theorem Completes.eq {other : MailId} (h : event.Completes id) (hother : event.Completes other) :
    other = id := by
  cases h.1.symm.trans hother.1
  rfl

theorem stores_iff {mail : Mail} {due : Instant} (h : event.stored? = some (mail, due)) :
    event.Stores id ↔ id = mail.id := by
  simp only [Stores, h, Option.some.injEq, Prod.mk.injEq]
  constructor
  · rintro ⟨m, time, ⟨rfl, -⟩, rfl⟩
    rfl
  · rintro rfl
    exact ⟨mail, due, ⟨rfl, rfl⟩, rfl⟩

theorem leases_iff {mail : Mail} (h : event.reply = .lease (.ok (some mail))) :
    event.Leases id ↔ id = mail.id := by
  simp only [Leases, h]
  constructor
  · rintro ⟨m, hsame, rfl⟩
    cases hsame
    rfl
  · rintro rfl
    exact ⟨mail, rfl, rfl⟩

/-- A call that fails is idle. -/
theorem Idle.of_error {e : QueueError} (hreply : event.reply = .done (.error e)) : event.Idle := by
  simp [Idle, Stores, stored?, Leases, Completes, hreply]

theorem Idle.of_call (hreply : ∀ answer, event.reply ≠ .lease answer)
    (henqueue : ∀ mail delay, event.step.call ≠ .enqueue mail delay)
    (hsettle : ∀ id, event.step.call ≠ .settle id true) : event.Idle := by
  refine fun id => ⟨fun h => ?_, ?_, fun h => hsettle id h.1⟩
  · obtain ⟨⟨mail, delay, hcall⟩, -⟩ := h.exists_reply
    exact henqueue mail delay hcall
  · rintro ⟨mail, hlease, -⟩
    exact hreply _ hlease

end QueueEvent

/-- Whether some event has a property, together with the events since. -/
def Followed (property : QueueEvent → List QueueEvent → Prop) (events : List QueueEvent) : Prop :=
  ∃ before event since, events = before ++ event :: since ∧ property event since

/-- Whether a lease of a mail was taken and then completed. -/
def Finished (id : MailId) (events : List QueueEvent) : Prop :=
  Followed (fun event since => event.Leases id ∧ ∃ later ∈ since, later.Completes id) events

/-- Whether a mail was stored and no lease of it that was taken since has been completed. -/
def Owed (id : MailId) (events : List QueueEvent) : Prop :=
  Followed (fun event since => event.Stores id ∧ ¬ Finished id since) events

/-- Whether a mail was stored and no lease of it was taken since. -/
def Fresh (id : MailId) (events : List QueueEvent) : Prop :=
  Followed (fun event since => event.Stores id ∧ ∀ later ∈ since, ¬ later.Leases id) events

section Events

variable {property : QueueEvent → List QueueEvent → Prop} {events : List QueueEvent}
  {last : QueueEvent}
  {id : MailId}

/-- One more event is the one in question, or it comes after that. -/
theorem followed_concat : Followed property (events ++ [last]) ↔
    property last [] ∨ Followed (fun event since => property event (since ++ [last])) events := by
  constructor
  · rintro ⟨before, event, since, heq, hholds⟩
    rcases since.eq_nil_or_concat with rfl | ⟨rest, final, rfl⟩
    · obtain ⟨-, hlast⟩ := List.append_inj' heq rfl
      rw [← List.singleton_inj.1 hlast] at hholds
      exact .inl hholds
    · rw [List.concat_eq_append, ← List.cons_append, ← List.append_assoc] at heq
      obtain ⟨hevents, hlast⟩ := List.append_inj' heq rfl
      rw [List.concat_eq_append, ← List.singleton_inj.1 hlast] at hholds
      exact .inr ⟨before, event, rest, hevents, hholds⟩
  · rintro (hholds | ⟨before, event, since, rfl, hholds⟩)
    · exact ⟨events, last, [], rfl, hholds⟩
    · exact ⟨before, event, since ++ [last], by simp, hholds⟩

theorem followed_congr {property' : QueueEvent → List QueueEvent → Prop}
    (h : ∀ event since, property event since ↔ property' event since) :
    Followed property events ↔ Followed property' events := by
  simp only [Followed, h]

theorem finished_concat : Finished id (events ++ [last]) ↔
    Finished id events ∨ last.Completes id ∧ ∃ event ∈ events, event.Leases id := by
  rw [Finished, followed_concat]
  constructor
  · rintro (⟨-, later, hlater, -⟩ | ⟨before, event, since, rfl, hlease, later, hlater, hcompletes⟩)
    · cases hlater
    · rcases List.mem_append.1 hlater with hlater | hlater
      · exact .inl ⟨before, event, since, rfl, hlease, later, hlater, hcompletes⟩
      · obtain rfl := List.mem_singleton.1 hlater
        exact .inr ⟨hcompletes, event, by simp, hlease⟩
  · rintro (⟨before, event, since, rfl, hlease, later, hlater, hcompletes⟩ |
      ⟨hcompletes, event, hevent, hlease⟩)
    · exact .inr ⟨before, event, since, rfl, hlease, later, List.mem_append_left _ hlater,
        hcompletes⟩
    · obtain ⟨before, since, rfl⟩ := List.append_of_mem hevent
      exact .inr ⟨before, event, since, rfl, hlease, last, by simp, hcompletes⟩

theorem not_finished_nil : ¬ Finished id [] := by
  rintro ⟨before, event, since, heq, -⟩
  simp at heq

/-- A call that completes no lease of a mail lets it be owed as it was, or stores it. -/
theorem owed_concat (h : ¬ last.Completes id) :
    Owed id (events ++ [last]) ↔ last.Stores id ∨ Owed id events := by
  rw [Owed, followed_concat, Owed]
  simp only [finished_concat, h, false_and, or_false, not_finished_nil, not_false_eq_true, and_true]

theorem fresh_concat : Fresh id (events ++ [last]) ↔
    last.Stores id ∨ Fresh id events ∧ ¬ last.Leases id := by
  rw [Fresh, followed_concat, Fresh]
  simp only [List.not_mem_nil, false_implies, implies_true, and_true, List.mem_append,
    List.mem_singleton, or_imp, forall_and, forall_eq]
  refine or_congr_right ?_
  constructor
  · rintro ⟨before, event, since, rfl, hstores, hnone, hlast⟩
    exact ⟨⟨before, event, since, rfl, hstores, hnone⟩, hlast⟩
  · rintro ⟨⟨before, event, since, rfl, hstores, hnone⟩, hlast⟩
    exact ⟨before, event, since, rfl, hstores, hnone, hlast⟩

theorem fresh_concat_of_completes (h : last.Completes id) (other : MailId) :
    Fresh other (events ++ [last]) ↔ Fresh other events := by
  have hstores : ¬ last.Stores other := fun hstores => hstores.not_completes id h
  have hleases : ¬ last.Leases other := fun hleases => hleases.not_completes id h
  rw [fresh_concat, or_iff_right hstores, and_iff_left hleases]

/-- Once a lease is completed, its mail is owed if it was stored after the lease was taken. -/
theorem owed_concat_of_completes (h : last.Completes id) :
    Owed id (events ++ [last]) ↔ Fresh id events := by
  have hstores : ¬ last.Stores id := fun hstores => hstores.not_completes id h
  rw [Owed, followed_concat, Fresh]
  simp only [hstores, false_and, false_or]
  refine followed_congr fun event since => and_congr_right fun _ => ?_
  rw [finished_concat, not_or]
  constructor
  · rintro ⟨-, hnone⟩ later hlater hlease
    exact hnone ⟨h, later, hlater, hlease⟩
  · intro hnone
    constructor
    · rintro ⟨before, later, rest, rfl, hlease, -⟩
      exact hnone later (by simp) hlease
    · rintro ⟨-, later, hlater, hlease⟩
      exact hnone later hlater hlease

/-- Once a lease is completed, all other mails are owed as they were. -/
theorem owed_concat_of_completes_other (h : last.Completes id) {other : MailId}
    (hother : other ≠ id) : Owed other (events ++ [last]) ↔ Owed other events := by
  have hcompletes : ¬ last.Completes other := fun hcompletes => hother (h.eq hcompletes)
  have hstores : ¬ last.Stores other := fun hstores => hstores.not_completes id h
  rw [owed_concat hcompletes, or_iff_right hstores]

theorem Fresh.owed (h : Fresh id events) : Owed id events := by
  obtain ⟨before, event, since, rfl, hstores, hnone⟩ := h
  refine ⟨before, event, since, rfl, hstores, ?_⟩
  rintro ⟨first, later, rest, rfl, hlease, -⟩
  exact hnone later (by simp) hlease

theorem not_owed_nil : ¬ Owed id [] := by
  rintro ⟨before, event, since, heq, -⟩
  simp at heq

end Events

namespace MailQueue

variable {σ : Type} {store : RecordStore σ} {holds : σ → Holdings} {ledger : Ledger}
  {queue queue' : MailQueue σ} {past : List QueueEvent} {event : QueueEvent}

/-- Whether a queue tracks the mails that are owed after some events. A lease of a mail waits for a
time exactly if the mail was stored since the lease was taken. -/
structure Owes (past : List QueueEvent) (queue : MailQueue σ) : Prop where
  tracked : ∀ id, queue.tracking.key? id ≠ none ↔ Owed id past
  renewed : ∀ id due, queue.tracking.leaseOf? id = some (some due) → Fresh id past
  unrenewed : ∀ id, queue.tracking.leaseOf? id = some none → ¬ Fresh id past

/-- A call that is idle changes nothing of what is owed. Leases may end. -/
theorem Owes.of_idle (h : Owes past queue) (hidle : event.Idle)
    (hkey : queue'.tracking.key? = queue.tracking.key?)
    (hlease : ∀ id, queue'.tracking.leaseOf? id = none ∨
      queue'.tracking.leaseOf? id = queue.tracking.leaseOf? id) :
    Owes (past ++ [event]) queue' := by
  have hfresh : ∀ id, Fresh id (past ++ [event]) ↔ Fresh id past := by
    intro id
    obtain ⟨hstores, hleases, -⟩ := hidle id
    simp only [fresh_concat, hstores, hleases, false_or, not_false_eq_true, and_true]
  refine ⟨fun id => ?_, fun id due hsome => ?_, fun id hsome => ?_⟩
  · obtain ⟨hstores, -, hcompletes⟩ := hidle id
    rw [hkey, h.tracked, owed_concat hcompletes, or_iff_right hstores]
  · rcases hlease id with hnone | hsame
    · rw [hnone] at hsome
      cases hsome
    · exact (hfresh id).2 (h.renewed id due (hsame ▸ hsome))
  · rcases hlease id with hnone | hsame
    · rw [hnone] at hsome
      cases hsome
    · rw [hfresh]
      exact h.unrenewed id (hsame ▸ hsome)

theorem Owes.of_stores (h : Owes past queue) {mail : Mail} {due : Instant}
    (hstored : event.stored? = some (mail, due)) {key : RecordKey} (hid : key.id = mail.id)
    (now : Instant) (htracking : queue'.tracking = (queue.tracking.register key due now).2) :
    Owes (past ++ [event]) queue' := by
  have hstores : ∀ id, event.Stores id ↔ id = mail.id := fun id => QueueEvent.stores_iff hstored
  have hmail : event.Stores mail.id := (hstores mail.id).2 rfl
  have hfresh : ∀ id, Fresh id (past ++ [event]) ↔ id = mail.id ∨ Fresh id past := by
    intro id
    rw [fresh_concat, hstores, and_iff_left (hmail.not_leases id)]
  refine ⟨fun id => ?_, fun id time hsome => (hfresh id).2 ?_, fun id hsome => ?_⟩
  · rw [owed_concat (hmail.not_completes id), hstores, ← h.tracked, htracking,
      Tracking.key?_register, hid]
    by_cases heq : id = mail.id <;> simp [heq]
  · by_cases heq : id = mail.id
    · exact .inl heq
    · rw [htracking, Tracking.leaseOf?_register_other (hid ▸ heq)] at hsome
      exact .inr (h.renewed id time hsome)
  · rw [hfresh, not_or]
    have hne : id ≠ mail.id := by
      rintro rfl
      rw [htracking, ← hid] at hsome
      exact Tracking.leaseOf?_register _ _ _ _ hsome
    rw [htracking, Tracking.leaseOf?_register_other (hid ▸ hne)] at hsome
    exact ⟨hne, h.unrenewed id hsome⟩

theorem Owes.of_leases (h : Owes past queue) {mail : Mail}
    (hreply : event.reply = .lease (.ok (some mail)))
    (hkey : queue'.tracking.key? = queue.tracking.key?)
    (hlease : ∀ id, queue'.tracking.leaseOf? id =
      if id = mail.id then some none else queue.tracking.leaseOf? id) :
    Owes (past ++ [event]) queue' := by
  have hleases : ∀ id, event.Leases id ↔ id = mail.id := fun id => QueueEvent.leases_iff hreply
  have hmail : event.Leases mail.id := (hleases mail.id).2 rfl
  have hstores : ∀ id, ¬ event.Stores id := fun id hstores => hstores.not_leases mail.id hmail
  have hfresh : ∀ id, Fresh id (past ++ [event]) ↔ Fresh id past ∧ id ≠ mail.id := by
    intro id
    rw [fresh_concat, hleases, or_iff_right (hstores id)]
  refine ⟨fun id => ?_, fun id due hsome => ?_, fun id hsome => ?_⟩
  · rw [hkey, h.tracked, owed_concat (hmail.not_completes id), or_iff_right (hstores id)]
  · rw [hlease] at hsome
    split at hsome
    · cases hsome
    · rename_i hne
      exact (hfresh id).2 ⟨h.renewed id due hsome, hne⟩
  · rw [hfresh, not_and]
    intro hold hne
    rw [hlease, if_neg hne] at hsome
    exact h.unrenewed id hsome hold

/-- What was stored while its lease was held is kept when the lease is completed. -/
theorem Owes.of_renewed (h : Owes past queue) {id : MailId} {due : Instant}
    (hdone : event.Completes id) (hlease : queue.tracking.leaseOf? id = some (some due))
    (now : Instant) (htracking : queue'.tracking = queue.tracking.schedule id due now) :
    Owes (past ++ [event]) queue' := by
  have hkept := h.renewed id due hlease
  refine ⟨fun k => ?_, fun k time hk => ?_, fun k hk => ?_⟩
  · rw [htracking, Tracking.key?_schedule, h.tracked]
    by_cases hid : k = id
    · rw [hid, owed_concat_of_completes hdone]
      exact iff_of_true hkept.owed hkept
    · rw [owed_concat_of_completes_other hdone hid]
  · rw [fresh_concat_of_completes hdone]
    by_cases hid : k = id
    · exact hid ▸ hkept
    · rw [htracking, Tracking.leaseOf?_schedule_other hid] at hk
      exact h.renewed k time hk
  · rw [fresh_concat_of_completes hdone]
    by_cases hid : k = id
    · rw [htracking, hid, Tracking.leaseOf?_schedule] at hk
      cases hk
    · rw [htracking, Tracking.leaseOf?_schedule_other hid] at hk
      exact h.unrenewed k hk

/-- What was not stored since its lease was taken goes when the lease is completed. -/
theorem Owes.of_finished (h : Owes past queue) {id : MailId} (hdone : event.Completes id)
    (hlease : queue.tracking.leaseOf? id = some none)
    (htracking : queue'.tracking = queue.tracking.forget id) : Owes (past ++ [event]) queue' := by
  have hgone := h.unrenewed id hlease
  refine ⟨fun k => ?_, fun k time hk => ?_, fun k hk => ?_⟩
  · rw [htracking, Tracking.key?_forget]
    by_cases hid : k = id
    · rw [hid, if_pos rfl, owed_concat_of_completes hdone]
      exact iff_of_false (fun hne => hne rfl) hgone
    · rw [if_neg hid, h.tracked, owed_concat_of_completes_other hdone hid]
  · rw [fresh_concat_of_completes hdone]
    by_cases hid : k = id
    · rw [htracking, hid, Tracking.leaseOf?_forget] at hk
      cases hk
    · rw [htracking, Tracking.leaseOf?_forget_other hid] at hk
      exact h.renewed k time hk
  · rw [fresh_concat_of_completes hdone]
    by_cases hid : k = id
    · exact hid ▸ hgone
    · rw [htracking, Tracking.leaseOf?_forget_other hid] at hk
      exact h.unrenewed k hk

/-- A lease that is completed takes its mail from the queue, unless that was stored since. -/
theorem Owes.of_completes (h : Owes past queue) {id : MailId} {now : Instant}
    (hdone : event.Completes id) {finished : Option RecordKey}
    (hacknowledge : queue.tracking.acknowledge id now = some (finished, queue'.tracking)) :
    Owes (past ++ [event]) queue' := by
  rcases queue.tracking.acknowledge_cases id now with ⟨-, hnone⟩ | ⟨due, hlease, hsome⟩ |
    ⟨hlease, key, hkey, hsome⟩
  · cases hacknowledge.symm.trans hnone
  · obtain ⟨-, htracking⟩ := Prod.mk.inj (Option.some.inj (hacknowledge.symm.trans hsome))
    exact h.of_renewed hdone hlease now htracking
  · obtain ⟨-, htracking⟩ := Prod.mk.inj (Option.some.inj (hacknowledge.symm.trans hsome))
    exact h.of_finished hdone hlease htracking

/-- A call for a lease hands out an owed mail or changes nothing of what is owed. -/
theorem Owes.dequeue (hstore : store.Lawful holds) (hconsistent : Consistent holds ledger queue)
    (h : Owes past queue) (broken : MailId → Option IoError) (now : Instant) (size : Nat) :
    Owes (past ++ [⟨⟨now, .dequeue broken⟩, .lease (queue.dequeue (store.interrupted broken) now).1,
      size⟩]) (queue.dequeue (store.interrupted broken) now).2 := by
  have hidle : ∀ {reply : Except QueueError (Option Mail)} {next : MailQueue σ},
      (∀ mail, reply ≠ .ok (some mail)) → next.tracking.key? = queue.tracking.key? →
      (∀ id, next.tracking.leaseOf? id = none ∨
        next.tracking.leaseOf? id = queue.tracking.leaseOf? id) →
      Owes (past ++ [⟨⟨now, .dequeue broken⟩, .lease reply, size⟩]) next := by
    intro reply next hreply hkey hlease
    refine h.of_idle (fun id => ⟨?_, ?_, ?_⟩) hkey hlease
    · simp [QueueEvent.Stores, QueueEvent.stored?]
    · rintro ⟨mail, hmail, -⟩
      exact hreply mail (QueueReply.lease.inj hmail)
    · simp [QueueEvent.Completes]
  have hdue := Tracking.leaseOf?_promoteDue queue.tracking now
  rcases dequeue_cases hstore hconsistent broken now with ⟨-, hdequeue⟩ | ⟨-, -, hdequeue⟩ |
    ⟨key, tracking, mail, due, -, hclaim, -, hid, hread⟩
  · rw [hdequeue]
    exact hidle (by simp) rfl fun _ => .inr rfl
  · rw [hdequeue]
    exact hidle (by simp) (Tracking.key?_promoteDue ..) fun id => .inr (congrFun hdue id)
  have hkeys : tracking.key? = queue.tracking.key? := by
    rw [(Tracking.key?_claim hclaim).1, Tracking.key?_promoteDue]
  have hown : ∀ id k, (queue.tracking.promoteDue now).key? id = some k → k.id = id := by
    intro id k hk
    rw [Tracking.key?_promoteDue] at hk
    exact (hconsistent.held hk).1
  have hclaimed := Tracking.leaseOf?_claim hown hclaim
  rw [hdue] at hclaimed
  rcases hread with ⟨e, -, hdequeue⟩ | ⟨-, records, -, -, hdequeue⟩
  · rw [hdequeue]
    refine hidle (by simp) ((Tracking.key?_release ..).trans hkeys) fun id => ?_
    by_cases hk : id = key.id
    · exact .inl (hk ▸ Tracking.leaseOf?_release ..)
    · exact .inr ((Tracking.leaseOf?_release_other hk ..).trans ((hclaimed id).trans (if_neg hk)))
  · rw [hdequeue]
    exact h.of_leases rfl hkeys (hid ▸ hclaimed)

/-- Every call lets a queue track what is owed after it. -/
theorem perform_owes (hstore : store.Dependable holds) (hconsistent : Consistent holds ledger queue)
    (h : Owes past queue) (step : QueueStep) {reply : QueueReply Mail}
    (hperform : queue.perform store step = (reply, queue')) (size : Nat) :
    Owes (past ++ [⟨step, reply, size⟩]) queue' := by
  obtain ⟨now, call⟩ := step
  cases call with
  | enqueue mail delay =>
      simp only [perform] at hperform
      rcases enqueue_cases hstore hconsistent mail delay now with ⟨e, records, -, henqueue, -⟩ |
        ⟨tracking, records, henqueue, htracking, -⟩
      · rw [henqueue] at hperform
        cases hperform
        exact h.of_idle (.of_error rfl) rfl fun _ => .inr rfl
      · rw [henqueue] at hperform
        cases hperform
        exact h.of_stores rfl rfl now htracking
  | dequeue broken =>
      cases hperform
      exact h.dequeue hstore.toLawful hconsistent broken now size
  | settle id success =>
      cases success with
      | true =>
          simp only [perform, settle, if_true] at hperform
          rcases complete_cases hstore hconsistent id now with ⟨-, hcomplete⟩ |
            ⟨-, key, tracking, records, hacknowledge, hcomplete, -⟩
          · rw [hcomplete] at hperform
            cases hperform
            exact h.of_idle (.of_error rfl) rfl fun _ => .inr rfl
          · rw [hcomplete] at hperform
            cases hperform
            exact h.of_completes ⟨rfl, rfl⟩ hacknowledge
      | false =>
          cases hperform
          exact h.of_idle (.of_call (by simp) (by simp) (by simp)) (Tracking.key?_release ..)
            (queue.tracking.leaseOf?_release_cases id now)
  | abandon id =>
      cases hperform
      exact h.of_idle (.of_call (by simp) (by simp) (by simp)) (Tracking.key?_release ..)
        (queue.tracking.leaseOf?_release_cases id now)
  | flush =>
      cases hperform
      exact h.of_idle (.of_call (by simp) (by simp) (by simp)) (Tracking.key?_flush _) fun id =>
        .inr (congrFun (Tracking.leaseOf?_flush _) id)
  | close =>
      cases hperform
      exact h.of_idle (.of_call (by simp) (by simp) (by simp)) rfl fun _ => .inr rfl

/-- A run lets a queue track what is owed after it. -/
theorem run_owes (hstore : store.Dependable holds) (steps : List QueueStep)
    (hconsistent : Consistent holds ledger queue) (h : Owes past queue) {events : List QueueEvent}
    (hrun : queue.run store steps = (events, queue')) : Owes (past ++ events) queue' := by
  induction steps generalizing queue ledger past events with
  | nil =>
      cases hrun
      rwa [List.append_nil]
  | cons step steps ih =>
      obtain ⟨reply, next, others, hperform, hrest, rfl⟩ := run_cons hrun
      have hnext := perform_owes hstore hconsistent h step hperform next.size
      rw [List.append_cons]
      exact ih (perform_consistent hstore hconsistent step hperform next.size).1 hnext hrest

end MailQueue

end Postroom
