import Postroom.Proofs.Queue.Custody
import Postroom.Proofs.Store.Faults
import Postroom.Spooler

/-!
The handover of what came out of a pass. As long as the leased mail has its record, that saves every
recipient. It is superseded, or deleted, only after all other mails have been stored, and then each
recipient is on one of those or on the mail that supersedes it. So it does not matter which writes
and deletions fail, nor at which of them the server crashes.
-/

namespace Postroom

namespace Spooler

open RecordStore (current Always)

variable {σ : Type} {store : RecordStore σ} {holds : σ → Holdings} {wanted : Address → Prop}
  {leased : Mail} {origin : RecordKey} {stored : List Mail} {queue : MailQueue (σ × List σ)}

/-- Whether the records saved all wanted recipients at all times. -/
def Saving (holds : σ → Holdings) (wanted : Address → Prop) (records : σ × List σ) : Prop :=
  Always holds (fun holdings => ∀ r, wanted r → holdings.Saves r) records

/-- A handover that has not come to the leased mail. It has its record, and so has every mail that
was stored. -/
structure Underway (holds : σ → Holdings) (wanted : Address → Prop) (leased : Mail)
    (origin : RecordKey) (stored : List Mail) (queue : MailQueue (σ × List σ)) : Prop where
  owner : origin.id = leased.id
  lease : queue.Keeps (current holds) origin leased leased
  stored : ∀ m ∈ stored, m.id ≠ leased.id ∧
    ∃ key, key.id = m.id ∧ queue.Keeps (current holds) key m m
  past : Saving holds wanted queue.records

/-- A handover that has come to its end, with every wanted recipient on a mail. -/
structure Settled (holds : σ → Holdings) (wanted : Address → Prop) (leased : Mail)
    (queue : MailQueue (σ × List σ)) : Prop where
  free : queue.tracking.leaseOf? leased.id = none
  carried : ∀ r, wanted r → queue.Carries (current holds) r
  past : Saving holds wanted queue.records

/-- To roll the lease back keeps the leased mail, and so all of its recipients. -/
theorem Underway.rollBack (h : Underway holds wanted leased origin stored queue)
    (hwanted : ∀ r, wanted r → r ∈ leased.recipients) (now : Instant) :
    Settled holds wanted leased (queue.rollBack leased.id now) where
  free := Tracking.leaseOf?_release ..
  carried r hr := by
    have hkeeps : (queue.rollBack leased.id now).Keeps (current holds) origin leased leased :=
      h.lease.of_same (Tracking.key?_release ..) rfl
    exact hkeeps.carries (hwanted r hr)
  past := h.past

/-- A mail that cannot be written changes nothing but the journal. -/
theorem Underway.of_refused (h : Underway holds wanted leased origin stored queue)
    (hwanted : ∀ r, wanted r → r ∈ leased.recipients) {key : RecordKey} {mail : Mail}
    {written : σ × List σ} (hwritten : written = (store.journaled.write key mail queue.records).2)
    (hsame : current holds written = current holds queue.records) :
    Underway holds wanted leased origin stored { queue with records := written } where
  owner := h.owner
  lease := h.lease.of_same rfl hsame
  stored m hm := by
    obtain ⟨hne, key, hid, hkeeps⟩ := h.stored m hm
    exact ⟨hne, key, hid, hkeeps.of_same rfl hsame⟩
  past := by
    subst hwritten
    refine RecordStore.always_write key mail h.past fun r hr => ?_
    rw [hsame]
    exact h.lease.versions.saves (hwanted r hr) (hwanted r hr)

/-- To store a mail of a new id leaves the leased mail and all that was stored before. -/
theorem Underway.enqueue (hstore : store.Lawful holds)
    (h : Underway holds wanted leased origin stored queue)
    (hwanted : ∀ r, wanted r → r ∈ leased.recipients) {mail : Mail}
    (hnew : queue.Absent (current holds) mail.id) (now : Instant) :
    (∃ e queue', queue.enqueue store.journaled mail 0 now = (.error e, queue') ∧
      Underway holds wanted leased origin stored queue') ∨
    ∃ queue', queue.enqueue store.journaled mail 0 now = (.ok (), queue') ∧
      Underway holds wanted leased origin (stored ++ [mail]) queue' ∧
      queue.SameBut (current holds) mail.id queue' := by
  have hown : ∀ old, queue.tracking.key? mail.id = some old → old.id = mail.id := by
    intro old hold
    rw [hnew.untracked] at hold
    cases hold
  have hsame := MailQueue.enqueue_sameBut hstore.journaled mail 0 now hown
  have hother : ∀ {key : RecordKey}, queue.tracking.key? key.id = some key → key.id ≠ mail.id := by
    intro key hkey hid
    rw [hid, hnew.untracked] at hkey
    cases hkey
  have hlease := h.lease.of_sameBut (hother h.lease.tracked) hsame
  have hstored : ∀ m ∈ stored, m.id ≠ leased.id ∧ ∃ key, key.id = m.id ∧
      (queue.enqueue store.journaled mail 0 now).2.Keeps (current holds) key m m := by
    intro m hm
    obtain ⟨hne, key, hid, hkeeps⟩ := h.stored m hm
    exact ⟨hne, key, hid, hkeeps.of_sameBut (hother hkeeps.tracked) hsame⟩
  rcases MailQueue.enqueue_outcomes hstore.journaled mail 0 now queue with ⟨key, written, hkey,
    hwritten, ⟨e, henqueue, -, hsame⟩ | ⟨hput, ⟨-, henqueue⟩ | ⟨old, hold, -, -⟩⟩⟩
  · exact .inl ⟨e, _, henqueue, h.of_refused hwanted hwritten hsame⟩
  · rw [henqueue] at hlease hstored hsame
    refine .inr ⟨_, henqueue, ⟨h.owner, hlease, ?_, ?_⟩, hsame⟩
    · intro m hm
      rcases List.mem_append.1 hm with hm | hm
      · exact hstored m hm
      · rw [List.mem_singleton.1 hm]
        have hid : mail.id ≠ leased.id := by
          rw [← h.owner]
          exact (hother h.lease.tracked).symm
        have hkid : key.id = mail.id := by rw [hkey, RecordKey.scheduled_id]
        refine ⟨hid, key, hkid, ?_, ?_⟩
        · dsimp only
          rw [Tracking.key?_register, if_pos rfl]
        · dsimp only
          rw [hput]
          refine ⟨Holdings.put_same .., fun k hk hne => .inl ?_⟩
          rw [Holdings.put_other _ _ hne]
          exact hnew.unrecorded k (hk.trans hkid)
    · dsimp only
      rw [hwritten] at hlease ⊢
      exact RecordStore.always_write key mail h.past fun r hr =>
        hlease.versions.saves (hwanted r hr) (hwanted r hr)
  · rw [hnew.untracked] at hold
    cases hold

/-- To store mails of new ids, up to the first failure, leaves the leased mail. -/
theorem Underway.enqueueAll (hstore : store.Lawful holds)
    (hwanted : ∀ r, wanted r → r ∈ leased.recipients) (now : Instant) (mails rest : List Mail)
    (hids : (mails.map Mail.id).Nodup) {stored : List Mail} {queue : MailQueue (σ × List σ)}
    (h : Underway holds wanted leased origin stored queue)
    (hnew : ∀ m ∈ mails, queue.Absent (current holds) m.id) :
    (∃ e queue' stored', enqueueAll store.journaled now (mails ++ rest) queue = (.error e, queue') ∧
      Underway holds wanted leased origin stored' queue') ∨
    ∃ queue', enqueueAll store.journaled now (mails ++ rest) queue =
        enqueueAll store.journaled now rest queue' ∧
      Underway holds wanted leased origin (stored ++ mails) queue' := by
  induction mails generalizing stored queue with
  | nil => exact .inr ⟨queue, rfl, by rwa [List.append_nil]⟩
  | cons mail mails ih =>
      obtain ⟨hout, hids⟩ := List.nodup_cons.1 hids
      rcases h.enqueue hstore hwanted (hnew mail (List.mem_cons_self ..)) now with
        ⟨e, queue', henqueue, hnext⟩ | ⟨queue', henqueue, hnext, hsame⟩
      · refine .inl ⟨e, queue', stored, ?_, hnext⟩
        rw [List.cons_append, Spooler.enqueueAll, henqueue]
      · have hlater : ∀ m ∈ mails, queue'.Absent (current holds) m.id := by
          intro m hm
          refine (hnew m (List.mem_cons_of_mem _ hm)).of_sameBut ?_ hsame
          exact fun heq => hout (heq ▸ List.mem_map_of_mem hm)
        have hrest := ih hids hnext hlater
        rw [List.append_assoc, List.singleton_append] at hrest
        rw [List.cons_append, Spooler.enqueueAll, henqueue]
        exact hrest

/-- The leased mail is tracked under a key of its own. -/
theorem Underway.own (h : Underway holds wanted leased origin stored queue) {old : RecordKey}
    (hold : queue.tracking.key? leased.id = some old) : old = origin := by
  rw [← h.owner, h.lease.tracked] at hold
  exact (Option.some.inj hold).symm

/-- If every wanted recipient is on a mail that was stored, the leased mail may go. -/
theorem Underway.complete (hstore : store.Lawful holds)
    (h : Underway holds wanted leased origin stored queue)
    (hall : ∀ r, wanted r → ∃ m ∈ stored, r ∈ m.recipients) (now : Instant) :
    Settled holds wanted leased (queue.complete store.journaled leased.id now).2 := by
  have hsame := MailQueue.complete_sameBut hstore.journaled leased.id now
    fun old hold => (h.own hold).symm ▸ h.owner
  have hstored : ∀ r, wanted r → ∃ m ∈ stored, r ∈ m.recipients ∧ ∃ key,
      (queue.complete store.journaled leased.id now).2.Keeps (current holds) key m m := by
    intro r hr
    obtain ⟨m, hm, hrm⟩ := hall r hr
    obtain ⟨hne, key, hid, hkeeps⟩ := h.stored m hm
    exact ⟨m, hm, hrm, key, hkeeps.of_sameBut (hid ▸ hne) hsame⟩
  refine ⟨MailQueue.leaseOf?_complete .., ?_, ?_⟩
  · intro r hr
    obtain ⟨m, -, hrm, key, hkeeps⟩ := hstored r hr
    exact hkeeps.carries hrm
  · rcases MailQueue.complete_outcomes leased.id now queue with ⟨-, hcomplete⟩ |
      ⟨due, -, -, hcomplete⟩ | ⟨-, key, -, -, hcomplete⟩
    · rw [hcomplete]
      exact h.past
    · rw [hcomplete]
      exact h.past
    · rw [hcomplete] at hstored ⊢
      refine RecordStore.always_delete key h.past fun r hr => ?_
      obtain ⟨m, -, hrm, key, hkeeps⟩ := hstored r hr
      exact hkeeps.versions.saves hrm hrm

/-- Records that differ from those of a handover in versions of the leased mail only save every
wanted recipient that is on the newest version or on a mail that was stored. -/
theorem Underway.saves_of_versions (h : Underway holds wanted leased origin stored queue)
    (hwanted : ∀ r, wanted r → r ∈ leased.recipients) {mail : Mail}
    (hall : ∀ r, wanted r → r ∈ mail.recipients ∨ ∃ m ∈ stored, r ∈ m.recipients)
    {key : RecordKey} {records : σ × List σ}
    (hversions : (current holds records).Versions key mail leased)
    (helsewhere : ∀ k : RecordKey, k.id ≠ leased.id →
      current holds records k = current holds queue.records k) :
    ∀ r, wanted r → (current holds records).Saves r := by
  intro r hr
  rcases hall r hr with hmail | ⟨m, hm, hrm⟩
  · exact hversions.saves hmail (hwanted r hr)
  · obtain ⟨hne, k, hid, hkeeps⟩ := h.stored m hm
    have hsame : (current holds records).Versions k m m :=
      hkeeps.versions.of_same fun k' hk' => helsewhere k' (by rwa [hk', hid])
    exact hsame.saves hrm hrm

/-- If every other wanted recipient is on a mail that was stored, the leased mail may be superseded,
and its lease ends with success. -/
theorem Underway.supersede (hstore : store.Lawful holds)
    (h : Underway holds wanted leased origin stored queue)
    (hwanted : ∀ r, wanted r → r ∈ leased.recipients) {mail : Mail} (hid : mail.id = leased.id)
    (hall : ∀ r, wanted r → r ∈ mail.recipients ∨ ∃ m ∈ stored, r ∈ m.recipients) (now : Instant) :
    (∃ e queue', queue.enqueue store.journaled mail 0 now = (.error e, queue') ∧
      Underway holds wanted leased origin stored queue') ∨
    ∃ queue', queue.enqueue store.journaled mail 0 now = (.ok (), queue') ∧
      Settled holds wanted leased (queue'.complete store.journaled leased.id now).2 := by
  have hown : ∀ old, queue.tracking.key? mail.id = some old → old.id = mail.id := by
    intro old hold
    rw [hid] at hold ⊢
    rw [h.own hold, h.owner]
  have hsame := MailQueue.enqueue_sameBut hstore.journaled mail 0 now hown
  obtain ⟨key, written, hkey, hwritten, hcases⟩ :=
    MailQueue.enqueue_outcomes hstore.journaled mail 0 now queue
  have hkid : key.id = leased.id := by rw [hkey, RecordKey.scheduled_id, hid]
  rcases hcases with ⟨e, henqueue, -, hsame⟩ | ⟨hput, hcases⟩
  · exact .inl ⟨e, _, henqueue, h.of_refused hwanted hwritten hsame⟩
  have hversions : (current holds written).Versions key mail leased := by
    rw [hput]
    exact h.lease.versions.put mail (hkid.trans h.owner.symm)
  have hpast : Saving holds wanted written := by
    have hsaves := h.saves_of_versions hwanted hall hversions fun k hk => by
      rw [hput, Holdings.put_other]
      rintro rfl
      exact hk hkid
    subst hwritten
    exact RecordStore.always_write key mail h.past hsaves
  have hrequeued := queue.tracking.leaseOf?_register key (MailQueue.dueTime now 0) now
  rw [hkid] at hrequeued
  have hended : ∃ next, queue.enqueue store.journaled mail 0 now = (.ok (), next) ∧
      next.Keeps (current holds) key mail leased ∧
      next.tracking.leaseOf? leased.id ≠ some none ∧ Saving holds wanted next.records := by
    have htracked : (queue.tracking.register key (MailQueue.dueTime now 0) now).2.key? key.id =
        some key := by
      rw [Tracking.key?_register, if_pos rfl]
    rcases hcases with ⟨-, henqueue⟩ | ⟨old, -, hne, henqueue⟩
    · exact ⟨_, henqueue, ⟨htracked, hversions⟩, hrequeued, hpast⟩
    · have hkept := hversions.of_pruned (MailQueue.delete_pruned hstore.journaled old written)
        (Ne.symm hne)
      refine ⟨_, henqueue, ⟨htracked, hkept⟩, hrequeued, RecordStore.always_delete old hpast ?_⟩
      rw [henqueue] at hsame
      exact h.saves_of_versions hwanted hall hkept fun k hk => hsame.records k (hid ▸ hk)
  obtain ⟨next, henqueue, hnew, hrequeued, hpast⟩ := hended
  rw [henqueue] at hsame
  have hstays := next.complete_of_requeued store.journaled hrequeued now
  refine .inr ⟨next, henqueue, MailQueue.leaseOf?_complete .., ?_, by rwa [hstays.2]⟩
  intro r hr
  rcases hall r hr with hmail | ⟨m, hm, hrm⟩
  · exact (hnew.of_same hstays.1 (congrArg _ hstays.2)).carries hmail
  · obtain ⟨hne, k, hk, hkeeps⟩ := h.stored m hm
    have hold := hkeeps.of_sameBut (by rw [hk, hid]; exact hne) hsame
    exact (hold.of_same hstays.1 (congrArg _ hstays.2)).carries hrm

/-- The mails that came out of a pass in the order in which they are handed over: the others are
new, and what has the id of the leased mail comes last. -/
structure Presented (holds : σ → Holdings) (wanted : Address → Prop) (leased : Mail)
    (queue : MailQueue σ) (others originals : List Mail) : Prop where
  ids : (others.map Mail.id).Nodup
  new : ∀ m ∈ others, queue.Absent holds m.id
  last : originals = [] ∨ ∃ m, originals = [m] ∧ m.id = leased.id
  covers : ∀ r, wanted r → ∃ m ∈ others ++ originals, r ∈ m.recipients

/-- However the pass ended, its lease ends with every wanted recipient on a mail. -/
theorem conclude_settled (hstore : store.Lawful holds) {passage : Passage}
    (hid : passage.leased = leased.id) (hwanted : ∀ r, wanted r → r ∈ leased.recipients)
    (h : Underway holds wanted leased origin [] queue)
    (hpresented : ∀ mails, passage.result = .ok mails → ∃ others originals,
      mails = others ++ originals ∧
        Presented (current holds) wanted leased queue others originals) (now : Instant) :
    Settled holds wanted leased (conclude store.journaled passage now queue).2 := by
  unfold conclude
  rw [hid]
  cases hresult : passage.result with
  | error fault => exact h.rollBack hwanted now
  | ok mails =>
      obtain ⟨others, originals, rfl, hmails⟩ := hpresented mails hresult
      dsimp only
      rcases h.enqueueAll hstore hwanted now others originals hmails.ids hmails.new with
        ⟨e, queue', stored', hall, hnext⟩ | ⟨queue', hall, hnext⟩
      · rw [hall]
        exact hnext.rollBack hwanted now
      rw [hall]
      rw [List.nil_append] at hnext
      rcases hmails.last with rfl | ⟨mail, rfl, hmail⟩
      · refine hnext.complete hstore (fun r hr => ?_) now
        simpa using hmails.covers r hr
      · have hcovers : ∀ r, wanted r → r ∈ mail.recipients ∨ ∃ m ∈ others, r ∈ m.recipients := by
          intro r hr
          obtain ⟨m, hm, hrm⟩ := hmails.covers r hr
          rcases List.mem_append.1 hm with hm | hm
          · exact .inr ⟨m, hm, hrm⟩
          · exact .inl (List.mem_singleton.1 hm ▸ hrm)
        unfold Spooler.enqueueAll
        rcases hnext.supersede hstore hwanted hmail hcovers now with
          ⟨e, final, henqueue, hrefused⟩ | ⟨final, henqueue, hsettled⟩
        · rw [henqueue]
          exact hrefused.rollBack hwanted now
        · rw [henqueue]
          exact hsettled

end Spooler

end Postroom
