import Postroom.Proofs.Queue.Tracked
import Postroom.Proofs.Store.Laws
import Postroom.Queue

/-!
What single operations come to over a lawful store. Nothing is assumed about which writes and
deletions fail, nor about what is tracked; the store holds what it held, but for the record that is
written and the one that is superseded.
-/

namespace Postroom

namespace MailQueue

variable {σ : Type} {store : RecordStore σ} {holds : σ → Holdings} {queue : MailQueue σ}

theorem enqueue_of_refused {mail : Mail} {delay : Nat} {now : Instant} {e : QueueError}
    {records : σ}
    (hwrite : store.write (.scheduled mail.id (dueTime now delay)) mail queue.records =
      (.error e, records)) :
    queue.enqueue store mail delay now = (.error e, { queue with records }) := by
  unfold enqueue
  simp only [hwrite]

/-- A mail that was written is tracked under its new key, and the record it supersedes is to go. -/
theorem enqueue_of_written {mail : Mail} {delay : Nat} {now : Instant} {records : σ}
    (hwrite : store.write (.scheduled mail.id (dueTime now delay)) mail queue.records =
      (.ok (), records)) :
    (∀ old, queue.tracking.key? mail.id = some old → old = .scheduled mail.id (dueTime now delay)) ∧
        queue.enqueue store mail delay now = (.ok (), ⟨(queue.tracking.register
          (.scheduled mail.id (dueTime now delay)) (dueTime now delay) now).2, records⟩) ∨
      ∃ old, queue.tracking.key? mail.id = some old ∧ old ≠ .scheduled mail.id (dueTime now delay) ∧
        queue.enqueue store mail delay now = (.ok (), ⟨(queue.tracking.register
          (.scheduled mail.id (dueTime now delay)) (dueTime now delay) now).2,
            (store.delete old records).2⟩) := by
  unfold enqueue
  simp only [hwrite]
  generalize dueTime now delay = due
  have hcases := queue.tracking.superseded_cases (.scheduled mail.id due) due now
  cases hregister : queue.tracking.register (.scheduled mail.id due) due now with
  | mk superseded tracking =>
      rw [hregister] at hcases
      rcases hcases with ⟨hnone, honly⟩ | ⟨old, hsome, hold, hne⟩
      · dsimp only at hnone
        subst hnone
        exact .inl ⟨honly, rfl⟩
      · dsimp only at hsome
        subst hsome
        exact .inr ⟨old, hold, hne, rfl⟩

/-- Of a mail that could not be stored no note is taken. -/
theorem tracking_of_refused {mail : Mail} {delay : Nat} {now : Instant} {e : QueueError}
    {after : MailQueue σ} (h : queue.enqueue store mail delay now = (.error e, after)) :
    after.tracking = queue.tracking := by
  rcases hwrite : store.write (.scheduled mail.id (dueTime now delay)) mail queue.records with
    ⟨fault | _, records⟩
  · cases (enqueue_of_refused hwrite).symm.trans h
    rfl
  · rcases enqueue_of_written hwrite with ⟨-, henqueue⟩ | ⟨old, -, -, henqueue⟩
    · cases henqueue.symm.trans h
    · cases henqueue.symm.trans h

/-- Of a mail that was stored note is taken, whatever becomes of the record it supersedes. -/
theorem tracking_of_stored {mail : Mail} {delay : Nat} {now : Instant} {stored : MailQueue σ}
    (h : queue.enqueue store mail delay now = (.ok (), stored)) : stored.tracking =
      (queue.tracking.register (.scheduled mail.id (dueTime now delay))
      (dueTime now delay) now).2 := by
  rcases hwrite : store.write (.scheduled mail.id (dueTime now delay)) mail queue.records with
    ⟨e | _, records⟩
  · rw [enqueue_of_refused hwrite] at h
    cases h
  · rcases enqueue_of_written hwrite with ⟨-, henqueue⟩ | ⟨old, -, -, henqueue⟩
    · cases henqueue.symm.trans h
      rfl
    · cases henqueue.symm.trans h
      rfl

/-- What storing a mail comes to: it cannot be written, or it is, and the record it supersedes, if
there is one, is deleted or stays. -/
theorem enqueue_outcomes (hstore : store.Lawful holds) (mail : Mail) (delay : Nat) (now : Instant)
    (queue : MailQueue σ) :
    ∃ key written, key = RecordKey.scheduled mail.id (dueTime now delay) ∧
      written = (store.write key mail queue.records).2 ∧
      ((∃ e, queue.enqueue store mail delay now = (.error e, { queue with records := written }) ∧
          store.write key mail queue.records = (.error e, written) ∧
          holds written = holds queue.records) ∨
        holds written = (holds queue.records).put key mail ∧
          ((∀ old, queue.tracking.key? mail.id = some old → old = key) ∧
              queue.enqueue store mail delay now =
                (.ok (), ⟨(queue.tracking.register key (dueTime now delay) now).2, written⟩) ∨
            ∃ old, queue.tracking.key? mail.id = some old ∧ old ≠ key ∧
              queue.enqueue store mail delay now =
                (.ok (), ⟨(queue.tracking.register key (dueTime now delay) now).2,
                  (store.delete old written).2⟩))) := by
  refine ⟨_, _, rfl, rfl, ?_⟩
  rcases hwrite : store.write (.scheduled mail.id (dueTime now delay)) mail queue.records with
    ⟨e | _, written⟩
  · exact .inl ⟨e, enqueue_of_refused hwrite, rfl, hstore.write_error hwrite⟩
  · exact .inr ⟨hstore.write_ok hwrite rfl, enqueue_of_written hwrite⟩

/-- What a successful end of a lease comes to: there was no lease, or the mail was stored again and
is scheduled, or it is not tracked any more and its record is deleted or stays. -/
theorem complete_outcomes (id : MailId) (now : Instant) (queue : MailQueue σ) :
    (queue.tracking.leaseOf? id = none ∧
      queue.complete store id now = (.error (.notFound id), queue)) ∨
    (∃ due, queue.tracking.leaseOf? id = some (some due) ∧
      queue.tracking.acknowledge id now = some (none, queue.tracking.schedule id due now) ∧
      queue.complete store id now =
        (.ok (), { queue with tracking := queue.tracking.schedule id due now })) ∨
    (queue.tracking.leaseOf? id = some none ∧ ∃ key, queue.tracking.key? id = some key ∧
      queue.tracking.acknowledge id now = some (some key, queue.tracking.forget id) ∧
      queue.complete store id now =
        ((store.delete key queue.records).1,
          ⟨queue.tracking.forget id, (store.delete key queue.records).2⟩)) := by
  unfold complete
  rcases queue.tracking.acknowledge_cases id now with ⟨hlease, hnone⟩ | ⟨due, hlease, hsome⟩ |
    ⟨hlease, key, hkey, hsome⟩
  · exact .inl ⟨hlease, by rw [hnone]⟩
  · exact .inr (.inl ⟨due, hlease, hsome, by rw [hsome]⟩)
  · exact .inr (.inr ⟨hlease, key, hkey, hsome, by rw [hsome]⟩)

end MailQueue

end Postroom
