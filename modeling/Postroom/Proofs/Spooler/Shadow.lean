import Postroom.Proofs.Store.Faults
import Postroom.Spooler

/-!
A journal makes no difference to a pass. Every operation on a queue over a store with a journal
answers as it does over the store alone, and leaves the same but for the journal.
-/

namespace Postroom

variable {σ : Type} (store : RecordStore σ)

/-- A queue over a store with a journal. -/
def MailQueue.journaled (queue : MailQueue σ) (journal : List σ) : MailQueue (σ × List σ) :=
  ⟨queue.tracking, (queue.records, journal)⟩

def Spool.journaled (spool : Spool σ) (journal : List σ) : Spool (σ × List σ) :=
  ⟨spool.queue.journaled journal, spool.ids, spool.world⟩

def Spooler.journaled (spooler : Spooler σ) : Spooler (σ × List σ) :=
  ⟨spooler.store.journaled, spooler.registry, spooler.localDomains⟩

/-- Whether an operation on a queue with a journal came to what it came to without one. -/
def Shadows {α : Type} (shadow : α × MailQueue (σ × List σ)) (plain : α × MailQueue σ) : Prop :=
  ∃ journal, shadow = (plain.1, plain.2.journaled journal)

namespace MailQueue

theorem enqueue_shadows (queue : MailQueue σ) (journal : List σ) (mail : Mail) (delay : Nat)
    (now : Instant) :
    Shadows ((queue.journaled journal).enqueue store.journaled mail delay now)
      (queue.enqueue store mail delay now) := by
  unfold enqueue
  dsimp only
  simp only [journaled, RecordStore.journaled, RecordStore.noted, RecordStore.beside]
  rcases store.write (.scheduled mail.id (dueTime now delay)) mail queue.records with
    ⟨_ | _, written⟩
  · exact ⟨_, rfl⟩
  · dsimp only
    rcases queue.tracking.register (.scheduled mail.id (dueTime now delay)) (dueTime now delay) now
      with ⟨_ | superseded, tracking⟩
    · exact ⟨_, rfl⟩
    · exact ⟨_, rfl⟩

theorem complete_shadows (queue : MailQueue σ) (journal : List σ) (id : MailId) (now : Instant) :
    Shadows ((queue.journaled journal).complete store.journaled id now)
      (queue.complete store id now) := by
  unfold complete
  simp only [journaled, RecordStore.journaled, RecordStore.noted, RecordStore.beside]
  rcases queue.tracking.acknowledge id now with _ | ⟨_ | key, tracking⟩
  · exact ⟨_, rfl⟩
  · exact ⟨_, rfl⟩
  · exact ⟨_, rfl⟩

end MailQueue

namespace Spooler

theorem enqueueAll_shadows (now : Instant) (mails : List Mail) (queue : MailQueue σ)
    (journal : List σ) :
    Shadows (enqueueAll store.journaled now mails (queue.journaled journal))
      (enqueueAll store now mails queue) := by
  induction mails generalizing queue journal with
  | nil => exact ⟨journal, rfl⟩
  | cons mail mails ih =>
      obtain ⟨between, hfirst⟩ := queue.enqueue_shadows store journal mail 0 now
      unfold enqueueAll
      rw [hfirst]
      rcases queue.enqueue store mail 0 now with ⟨_ | _, queue'⟩
      · exact ⟨_, rfl⟩
      · exact ih queue' between

theorem conclude_shadows (passage : Passage) (now : Instant) (queue : MailQueue σ)
    (journal : List σ) :
    Shadows (conclude store.journaled passage now (queue.journaled journal))
      (conclude store passage now queue) := by
  unfold conclude
  cases passage.result with
  | error fault => exact ⟨journal, rfl⟩
  | ok mails =>
      obtain ⟨between, hall⟩ := enqueueAll_shadows store now mails queue journal
      dsimp only
      rw [hall]
      rcases enqueueAll store now mails queue with ⟨_ | _, queue'⟩
      · exact ⟨_, rfl⟩
      · obtain ⟨final, hsettled⟩ :=
          queue'.complete_shadows store between passage.leased now
        dsimp only
        simp only [MailQueue.settle, if_true, hsettled]
        exact ⟨_, rfl⟩

/-- The run of a mail through its chain does not see the journal, and leaves it as it is. -/
theorem run_journaled (spooler : Spooler σ) (mail : Mail) (now : Instant) (patience : Option Nat)
    (spool : Spool σ) (journal : List σ) :
    spooler.journaled.run mail now patience (spool.journaled journal) =
      ((spooler.run mail now patience spool).1,
        (spooler.run mail now patience spool).2.journaled journal) :=
  rfl

/-- A pass with a journal is the pass without it. -/
theorem process_journaled (spooler : Spooler σ) (mail : Mail) (now : Instant) (spool : Spool σ)
    (journal : List σ) :
    ∃ journal', spooler.journaled.process mail now (spool.journaled journal) =
      ((spooler.process mail now spool).1,
        (spooler.process mail now spool).2.journaled journal') := by
  unfold process
  rw [run_journaled]
  rcases spooler.run mail now none spool with ⟨passage, after⟩
  obtain ⟨journal', hconclude⟩ :=
    conclude_shadows spooler.store passage now after.queue journal
  refine ⟨journal', ?_⟩
  unfold Spool.onQueue
  dsimp only
  simp only [Spool.journaled, Spooler.journaled, hconclude]

end Spooler

end Postroom
