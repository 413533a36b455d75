import Postroom.Proofs.Queue.Custody
import Postroom.Proofs.Queue.Durability
import Postroom.Proofs.Queue.Precedence
import Postroom.Proofs.Queue.Refinement

/-!
What becomes of a mail that is stored again if the record it supersedes stays behind, because its
deletion fails or because the queue stops first. While the queue is up it goes by the last enqueue.
A queue that is opened afterwards goes by the records alone, and none of them tells which was
written last. So the two agree if, and only if, the last version prevails over what stayed behind. A
mail that has been updated since survives; one that has not, and is due later, falls back to its old
schedule.
-/

namespace Postroom

/-- A lawful store that lists its keys in order, and where to put a record aside leaves the
others. -/
structure RecordStore.Regular {σ : Type} (store : RecordStore σ) (holds : σ → Holdings) : Prop
    extends Lawful store holds where
  listsInOrder : store.ListsInOrder
  quarantine : ∀ key s, MailQueue.Pruned (holds s) (holds (store.quarantine key s).2) (· ≠ key)

theorem Memory.regular : store.Regular holds where
  toLawful := lawful
  listsInOrder := listsInOrder
  quarantine := MailQueue.delete_pruned lawful

theorem RecordStore.Regular.refusing {σ : Type} {store : RecordStore σ} {holds : σ → Holdings}
    (h : store.Regular holds) (e : QueueError) : (store.refusing e).Regular (current holds) where
  toLawful := h.toLawful.refusing e
  listsInOrder := ListsInOrder.refusing h.listsInOrder e
  quarantine key s := h.quarantine key s.1

namespace MailQueue

variable {σ : Type} {store : RecordStore σ} {holds : σ → Holdings} {ledger : Ledger}
  {queue queue' : MailQueue σ}

/-- Every tracked mail has a record under its key. A mail that is on the ledger has its last version
there, and the key is that of its last schedule. Nothing is said of other records. -/
structure UpToDate (holds : σ → Holdings) (ledger : Ledger) (queue : MailQueue σ) : Prop where
  recorded : ∀ {id key}, queue.tracking.key? id = some key →
    key.id = id ∧ holds queue.records key ≠ none
  latest : ∀ {id key mail due}, queue.tracking.key? id = some key → ledger id = some (mail, due) →
    key = .scheduled id due ∧ holds queue.records key = some (.ok mail)

/-- What is not tracked any more, and the records beside those of tracked mails, do not matter. -/
theorem UpToDate.of_fewer (h : UpToDate holds ledger queue)
    (hkey : ∀ {id key}, queue'.tracking.key? id = some key → queue.tracking.key? id = some key ∧
      holds queue'.records key = holds queue.records key) : UpToDate holds ledger queue' where
  recorded hid := by
    obtain ⟨hold, hsame⟩ := hkey hid
    rw [hsame]
    exact h.recorded hold
  latest hid hledger := by
    obtain ⟨hold, hsame⟩ := hkey hid
    rw [hsame]
    exact h.latest hold hledger

theorem UpToDate.of_same (h : UpToDate holds ledger queue)
    (hkey : queue'.tracking.key? = queue.tracking.key?)
    (hrecords : holds queue'.records = holds queue.records) : UpToDate holds ledger queue' :=
  h.of_fewer fun hid => ⟨hkey ▸ hid, congrFun hrecords _⟩

/-- A mail that is forgotten may lose its record. -/
theorem UpToDate.of_forget (h : UpToDate holds ledger queue) {tracking : Tracking}
    (htracking : tracking.key? = queue.tracking.key?) {key : RecordKey} {records : σ}
    (hrecords : ∀ k, k ≠ key → holds records k = holds queue.records k) :
    UpToDate holds ledger ⟨tracking.forget key.id, records⟩ := by
  refine h.of_fewer fun {id k} hid => ?_
  rw [Tracking.key?_forget, htracking] at hid
  split at hid
  · cases hid
  · rename_i hother
    refine ⟨hid, hrecords k ?_⟩
    rintro rfl
    exact hother (h.recorded hid).1.symm

/-- A version that is stored is the last one of its mail, whatever else there is. -/
theorem UpToDate.of_record (h : UpToDate holds ledger queue) {mail : Mail} {due : Instant}
    (hkey : ∀ id, queue'.tracking.key? id =
      if id = mail.id then some (.scheduled mail.id due) else queue.tracking.key? id)
    (hnew : holds queue'.records (.scheduled mail.id due) = some (.ok mail))
    (hothers : ∀ key : RecordKey, key.id ≠ mail.id →
      holds queue'.records key = holds queue.records key) :
    UpToDate holds (ledger.record mail due) queue' where
  recorded {id key} hid := by
    rw [hkey] at hid
    split at hid
    · rename_i heq
      cases hid
      exact ⟨heq.symm, by simp [hnew]⟩
    · rename_i hne
      obtain ⟨rfl, hheld⟩ := h.recorded hid
      exact ⟨rfl, by rwa [hothers key hne]⟩
  latest {id key version time} hid hledger := by
    rw [hkey] at hid
    unfold Ledger.record at hledger
    by_cases heq : id = mail.id
    · subst heq
      rw [if_pos rfl] at hid hledger
      cases hledger
      cases hid
      exact ⟨rfl, hnew⟩
    · rw [if_neg heq] at hid hledger
      rw [hothers key (by rwa [(h.recorded hid).1])]
      exact h.latest hid hledger

/-- Whether a record was there before some events, or is one that was written in them. -/
def Drawn (holdings : Holdings) (events : List QueueEvent) (key : RecordKey) (mail : Mail) : Prop :=
  holdings key = some (.ok mail) ∨
    ∃ event ∈ events, ∃ due, event.stored? = some (mail, due) ∧ key = .scheduled mail.id due

/-- To delete records makes no new ones. -/
theorem Pruned.drawn {before after : Holdings} {spared : RecordKey → Prop}
    (h : Pruned before after spared) {key : RecordKey} {mail : Mail}
    (hheld : after key = some (.ok mail)) (events : List QueueEvent) :
    Drawn before events key mail := by
  rcases h.same_or_none key with hsame | hnone
  · exact .inl (hsame.symm.trans hheld)
  · rw [hnone] at hheld
    cases hheld

/-- To store a mail keeps the agreement, whether or not the record it supersedes goes. -/
theorem enqueue_upToDate (hstore : store.Lawful holds) (h : UpToDate holds ledger queue)
    (mail : Mail) (delay : Nat) (now : Instant) :
    (∃ e queue', queue.enqueue store mail delay now = (.error e, queue') ∧
        UpToDate holds ledger queue' ∧ holds queue'.records = holds queue.records) ∨
      ∃ queue', queue.enqueue store mail delay now = (.ok (), queue') ∧
        UpToDate holds (ledger.record mail (dueTime now delay)) queue' ∧
        Pruned ((holds queue.records).put (.scheduled mail.id (dueTime now delay)) mail)
          (holds queue'.records) (· = .scheduled mail.id (dueTime now delay)) := by
  have hothers := (enqueue_sameBut hstore mail delay now fun old hold =>
    (h.recorded hold).1).records
  have hkey := queue.tracking.key?_register (.scheduled mail.id (dueTime now delay))
    (dueTime now delay) now
  rcases enqueue_outcomes hstore mail delay now queue with ⟨_, written, rfl, -,
    ⟨e, henqueue, -, hsame⟩ | ⟨hput, ⟨-, henqueue⟩ | ⟨old, -, hne, henqueue⟩⟩⟩
  · exact .inl ⟨e, _, henqueue, h.of_same rfl hsame, hsame⟩
  · rw [henqueue] at hothers
    refine .inr ⟨_, henqueue, h.of_record hkey ?_ hothers, ?_⟩
    · rw [hput, Holdings.put_same]
    · rw [← hput]
      exact .refl _ _
  · have hpruned := delete_pruned hstore old written
    have hspared : RecordKey.scheduled mail.id (dueTime now delay) ≠ old := fun heq => hne heq.symm
    rw [henqueue] at hothers
    refine .inr ⟨_, henqueue, h.of_record hkey ?_ hothers, ?_⟩
    · rw [hpruned.spares hspared, hput, Holdings.put_same]
    · rw [← hput]
      exact hpruned.mono fun key hkey => hkey ▸ hspared

/-- To search for a mail that can be leased keeps the agreement, whatever is put back or set
aside. -/
theorem leaseNext_upToDate
    (hread : ∀ {key s}, holds s key ≠ none → holds (store.read key s).2 = holds s)
    (hquarantine : ∀ key s, Pruned (holds s) (holds (store.quarantine key s).2) (· ≠ key))
    (now : Instant) (h : UpToDate holds ledger queue) :
    UpToDate holds ledger (queue.leaseNext store now).2 ∧
      Pruned (holds queue.records)
        (holds (queue.leaseNext store now).2.records) fun _ => False := by
  fun_induction leaseNext store now queue with
  | case1 queue hclaim => exact ⟨h, .refl _ _⟩
  | case2 queue key tracking hclaim mail records hmail =>
      obtain ⟨hkey, id, hid⟩ := Tracking.key?_claim hclaim
      have hsame := hread (h.recorded hid).2
      rw [hmail] at hsame
      refine ⟨h.of_same hkey hsame, ?_⟩
      rw [← hsame]
      exact .refl _ _
  | case3 queue key tracking hclaim e records hfailed htransient =>
      obtain ⟨hkey, id, hid⟩ := Tracking.key?_claim hclaim
      have hsame := hread (h.recorded hid).2
      rw [hfailed] at hsame
      refine ⟨h.of_same ((Tracking.key?_release ..).trans hkey) hsame, ?_⟩
      rw [← hsame]
      exact .refl _ _
  | case4 queue key tracking hclaim e records hfailed hlasting ih =>
      obtain ⟨hkey, id, hid⟩ := Tracking.key?_claim hclaim
      have hsame := hread (h.recorded hid).2
      rw [hfailed] at hsame
      -- the mail is forgotten along with its record, so no tracked mail is without one
      have haside := hquarantine key records
      rw [hsame] at haside
      obtain ⟨hrest, hpruned⟩ := ih (h.of_forget hkey fun k hk => haside.spares hk)
      exact ⟨hrest, (haside.mono fun _ hfalse => hfalse.elim).trans hpruned⟩

/-- A call for a lease keeps the agreement. -/
theorem dequeue_upToDate (hstore : store.Regular holds) (h : UpToDate holds ledger queue)
    (broken : MailId → Option IoError) (now : Instant) :
    UpToDate holds ledger (queue.dequeue (store.interrupted broken) now).2 ∧
      Pruned (holds queue.records)
        (holds (queue.dequeue (store.interrupted broken) now).2.records) fun _ => False := by
  have hread : ∀ {key s}, holds s key ≠ none →
      holds ((store.interrupted broken).read key s).2 = holds s := by
    intro key s hheld
    simp only [RecordStore.interrupted]
    split
    · rfl
    · obtain ⟨result, hresult⟩ := Option.ne_none_iff_exists'.1 hheld
      obtain ⟨s', hread, hsame⟩ := hstore.read hresult
      rw [hread, hsame]
  have hquarantine : ∀ key s,
      Pruned (holds s) (holds ((store.interrupted broken).quarantine key s).2) (· ≠ key) :=
    hstore.quarantine
  have hpromoted : UpToDate holds ledger
      { queue with tracking := queue.tracking.promoteDue now } :=
    h.of_same (Tracking.key?_promoteDue ..) rfl
  unfold dequeue
  split
  · exact ⟨h, .refl _ _⟩
  · exact leaseNext_upToDate hread hquarantine now hpromoted

/-- Every call keeps the agreement, and writes no other record than that of the mail it stores. -/
theorem perform_upToDate (hstore : store.Regular holds) (h : UpToDate holds ledger queue)
    (step : QueueStep) {reply : QueueReply Mail}
    (hperform : queue.perform store step = (reply, queue'))
    (size : Nat) :
    UpToDate holds (ledger.enter ⟨step, reply, size⟩) queue' ∧
      ∀ {key mail}, holds queue'.records key = some (.ok mail) →
        Drawn (holds queue.records) [⟨step, reply, size⟩] key mail := by
  obtain ⟨now, call⟩ := step
  cases call with
  | enqueue mail delay =>
      simp only [perform] at hperform
      rcases enqueue_upToDate hstore.toLawful h mail delay now with
        ⟨e, refused, henqueue, hagree, hsame⟩ | ⟨stored, henqueue, hagree, hpruned⟩
      · rw [henqueue] at hperform
        cases hperform
        exact ⟨hagree, fun hheld => .inl (hsame ▸ hheld)⟩
      · rw [henqueue] at hperform
        cases hperform
        refine ⟨hagree, fun {key version} hheld => ?_⟩
        by_cases hkey : key = .scheduled mail.id (dueTime now delay)
        · rw [hpruned.spares hkey, hkey, Holdings.put_same] at hheld
          cases hheld
          exact .inr ⟨_, List.mem_singleton_self _, dueTime now delay, rfl, hkey⟩
        · rcases hpruned.same_or_none key with hsame | hnone
          · rw [Holdings.put_other _ _ hkey] at hsame
            exact .inl (hsame.symm.trans hheld)
          · rw [hnone] at hheld
            cases hheld
  | dequeue broken =>
      cases hperform
      obtain ⟨hagree, hpruned⟩ := dequeue_upToDate hstore h broken now
      exact ⟨hagree, fun hheld => hpruned.drawn hheld _⟩
  | settle id success =>
      cases success with
      | true =>
          simp only [perform, settle, if_true] at hperform
          rcases @complete_outcomes _ store id now queue with ⟨-, hcomplete⟩ |
            ⟨due, -, -, hcomplete⟩ | ⟨-, key, hkey, -, hcomplete⟩
          · rw [hcomplete] at hperform
            cases hperform
            exact ⟨h, .inl⟩
          · rw [hcomplete] at hperform
            cases hperform
            exact ⟨h.of_same (Tracking.key?_schedule ..) rfl, .inl⟩
          · rw [hcomplete] at hperform
            cases hperform
            obtain ⟨rfl, -⟩ := h.recorded hkey
            have hpruned := delete_pruned hstore.toLawful key queue.records
            exact ⟨h.of_forget rfl fun k hk => hpruned.spares hk,
              fun hheld => hpruned.drawn hheld _⟩
      | false =>
          cases hperform
          exact ⟨h.of_same (Tracking.key?_release ..) rfl, .inl⟩
  | abandon id =>
      cases hperform
      exact ⟨h.of_same (Tracking.key?_release ..) rfl, .inl⟩
  | flush =>
      cases hperform
      exact ⟨h.of_same (Tracking.key?_flush _) rfl, .inl⟩
  | close =>
      cases hperform
      exact ⟨h.of_same (Tracking.key?_close _) rfl, .inl⟩

/-- A run keeps the agreement, and its records are those at the start and what it stores. -/
theorem run_upToDate (hstore : store.Regular holds) (steps : List QueueStep)
    (h : UpToDate holds ledger queue) {events : List QueueEvent}
    (hrun : queue.run store steps = (events, queue')) :
    UpToDate holds (ledger.after events) queue' ∧
      ∀ {key mail}, holds queue'.records key = some (.ok mail) →
        Drawn (holds queue.records) events key mail := by
  induction steps generalizing queue ledger events with
  | nil =>
      cases hrun
      exact ⟨h, .inl⟩
  | cons step steps ih =>
      obtain ⟨reply, next, others, hperform, hrest, rfl⟩ := run_cons hrun
      obtain ⟨hnext, hfirst⟩ := perform_upToDate hstore h step hperform next.size
      obtain ⟨hfinal, hothers⟩ := ih hnext hrest
      refine ⟨hfinal, fun hheld => ?_⟩
      rcases hothers hheld with hthere | ⟨event, hevent, hstored⟩
      · rcases hfirst hthere with hold | ⟨event, hevent, hstored⟩
        · exact .inl hold
        · obtain rfl := List.mem_singleton.1 hevent
          exact .inr ⟨_, List.mem_cons_self .., hstored⟩
      · exact .inr ⟨event, List.mem_cons_of_mem _ hevent, hstored⟩

/-- A queue that is opened tracks mails that have records, and makes none. -/
theorem upToDate_opened (hstore : store.Lawful holds) {opened : Instant} {before start : σ}
    {tracking : Tracking} (hopen : recoverFrom store opened before = (.ok tracking, start)) :
    UpToDate holds .blank ⟨tracking, start⟩ ∧
      Pruned (holds before) (holds start) fun _ => False := by
  obtain ⟨keys, -, kept, records, -, hrecover, hkeys, hids, hkept, -, hpruned⟩ :=
    recoverFrom_chooses hstore.browsable opened before
  cases hopen.symm.trans hrecover
  refine ⟨⟨fun {id key} hid => ?_, fun _ hledger => by cases hledger⟩, hpruned,
    fun hfalse => hfalse.elim⟩
  obtain ⟨hmem, rfl⟩ := ((recover_spec hids opened).1 id key).1 hid
  obtain ⟨hlisted, hsame, -⟩ := hkept key hmem
  rw [hsame]
  exact ⟨rfl, (hkeys key).1 hlisted⟩

/-- What a queue leaves in its store when it stops, where the mail is tracked, `mail` was stored
last and `due` is when it was to become visible. -/
inductive StopsWith (store : RecordStore σ) (holds : σ → Holdings) (ledger : Ledger)
    (queue : MailQueue σ) (records : σ) : Mail → Instant → Prop where
  /-- It stops between calls, or in one that has changed no record of this mail. -/
  | between {mail : Mail} {due : Instant} (hledger : ledger mail.id = some (mail, due))
      (htracked : queue.tracking.key? mail.id ≠ none)
      (hsame : ∀ key : RecordKey, key.id = mail.id → holds records key = holds queue.records key) :
      StopsWith store holds ledger queue records mail due
  /-- It stops while it stores the mail again. The record is written, and the one that it supersedes
  is there or gone. -/
  | storing {mail : Mail} {delay : Nat} {now : Instant} {written : σ}
      (htracked : queue.tracking.key? mail.id ≠ none)
      (hwrite : store.write (.scheduled mail.id (dueTime now delay)) mail queue.records =
        (.ok (), written))
      (hpruned : Pruned (holds written) (holds records) fun key =>
        key = .scheduled mail.id (dueTime now delay) ∨ queue.tracking.key? mail.id ≠ some key) :
      StopsWith store holds ledger queue records mail (dueTime now delay)

/-- What is left of a mail that is tracked includes its last version. -/
theorem StopsWith.held (hstore : store.Lawful holds) (h : UpToDate holds ledger queue) {records : σ}
    {mail : Mail} {due : Instant} (hleft : StopsWith store holds ledger queue records mail due) :
    holds records (.scheduled mail.id due) = some (.ok mail) := by
  cases hleft with
  | between hledger htracked hsame =>
      obtain ⟨key, hkey⟩ := Option.ne_none_iff_exists'.1 htracked
      obtain ⟨rfl, hheld⟩ := h.latest hkey hledger
      rw [hsame _ rfl, hheld]
  | storing htracked hwrite hpruned =>
      rw [hpruned.spares (.inl rfl), hstore.write_ok hwrite rfl, Holdings.put_same]

/-- All other records that are left of it were there before. -/
theorem StopsWith.others (hstore : store.Lawful holds) {records : σ} {mail version : Mail}
    {due : Instant} (hleft : StopsWith store holds ledger queue records mail due) {key : RecordKey}
    (hid : key.id = mail.id) (hne : key ≠ .scheduled mail.id due)
    (hheld : holds records key = some (.ok version)) :
    holds queue.records key = some (.ok version) := by
  cases hleft with
  | between hledger htracked hsame => rwa [← hsame key hid]
  | storing htracked hwrite hpruned =>
      rcases hpruned.same_or_none key with hsame | hnone
      · rwa [hsame, hstore.write_ok hwrite rfl, Holdings.put_other _ _ hne] at hheld
      · rw [hnone] at hheld
        cases hheld

theorem StopsWith.due_le_latest (hledger : ledger.Bounded) {records : σ} {mail : Mail}
    {due : Instant}
    (hleft : StopsWith store holds ledger queue records mail due) : due ≤ RecordKey.latest := by
  cases hleft with
  | between hlast => exact hledger hlast
  | storing => exact dueTime_le_latest ..

/-- A mail as it was stored last: tracked under the key of its schedule, with that version for a
record, not leased, and visible from the millisecond of its schedule on. -/
structure Survives (holds : σ → Holdings) (now : Instant) (mail : Mail) (due : Instant)
    (queue : MailQueue σ) : Prop where
  tracked : queue.tracking.key? mail.id = some (.scheduled mail.id due)
  held : holds queue.records (.scheduled mail.id due) = some (.ok mail)
  free : queue.tracking.leaseOf? mail.id = none
  visible : ∀ later, mail.id ∈ (queue.tracking.promoteDue later).plain.visible ↔
    due.floor ≤ now.nanos ∨ due.floor ≤ later.nanos

/-- A queue that is opened over a record of a mail tracks the mail, and as this record has it if,
and only if, the record prevails. -/
theorem recoverFrom_survives_iff (hstore : store.Regular holds) {records : σ} {mail : Mail}
    {due : Instant} (hdue : due ≤ RecordKey.latest)
    (hheld : holds records (.scheduled mail.id due) = some (.ok mail)) (now : Instant) :
    ∃ tracking records', recoverFrom store now records = (.ok tracking, records') ∧
      tracking.key? mail.id ≠ none ∧
      (Survives holds now mail due ⟨tracking, records'⟩ ↔
        (holds records).Prevails (.scheduled mail.id due) mail) := by
  obtain ⟨tracking, records', hrecover, hall⟩ :=
    recoverFrom_prevailing hstore.toLawful hstore.listsInOrder now records
  obtain ⟨kept, version, hid, hprevails, hkept, hawaits⟩ := hall hheld
  have hid : kept.id = mail.id := hid
  have htracked : tracking.key? mail.id = some kept := hid ▸ hawaits.tracked
  refine ⟨tracking, records', hrecover, by simp [htracked], ?_, fun hlast => ?_⟩
  · intro hsurvives
    cases htracked.symm.trans hsurvives.tracked
    cases hkept.symm.trans hsurvives.held
    exact hprevails
  · obtain rfl := hprevails.unique hlast hid
    cases hprevails.held.symm.trans hlast.held
    refine ⟨htracked, hkept, hawaits.free, fun later => ?_⟩
    rw [← RecordKey.time_scheduled hdue mail.id]
    exact hawaits.visible later

/-- The last version of a mail prevails if it was updated after all others, those that were there
when the queue was opened and those that were stored since. -/
theorem StopsWith.prevails_of_updated (hstore : store.Regular holds) {opened : Instant}
    {before start : σ} {tracking : Tracking}
    (hopen : recoverFrom store opened before = (.ok tracking, start)) {steps : List QueueStep}
    {events : List QueueEvent} (hrun : run store steps ⟨tracking, start⟩ = (events, queue))
    {records : σ} {mail : Mail} {due : Instant}
    (hleft : StopsWith store holds (Ledger.blank.after events) queue records mail due)
    (hupdated : ∀ key version, key.id = mail.id → key ≠ .scheduled mail.id due →
      Drawn (holds before) events key version → version.updated < mail.updated) :
    (holds records).Prevails (.scheduled mail.id due) mail := by
  obtain ⟨hopened, hpruned⟩ := upToDate_opened hstore.toLawful hopen
  obtain ⟨hcurrent, hdrawn⟩ := run_upToDate hstore steps hopened hrun
  refine .of_later (hleft.held hstore.toLawful hcurrent) ?_
  intro key version hid hne hother
  refine hupdated key version hid hne ?_
  rcases hdrawn (hleft.others hstore.toLawful hid hne hother) with hstart | hstored
  · exact hpruned.drawn hstart events
  · exact .inr hstored

/-- Whatever calls are made of a queue, and whichever writes and deletions fail, a mail that it
tracks when it stops is tracked by a queue that is opened afterwards. It is as it was stored last
if, and only if, its last version prevails over the records that stayed behind; so it is if that
version was updated after all others. -/
theorem run_survives_iff (hstore : store.Regular holds) {opened : Instant} {before start : σ}
    {tracking : Tracking} (hopen : recoverFrom store opened before = (.ok tracking, start))
    {steps : List QueueStep} {events : List QueueEvent}
    (hrun : run store steps ⟨tracking, start⟩ = (events, queue)) {records : σ} {mail : Mail}
    {due : Instant}
    (hleft : StopsWith store holds (Ledger.blank.after events) queue records mail due)
    (now : Instant) :
    ∃ recovered records', recoverFrom store now records = (.ok recovered, records') ∧
      recovered.key? mail.id ≠ none ∧
      (Survives holds now mail due ⟨recovered, records'⟩ ↔
        (holds records).Prevails (.scheduled mail.id due) mail) ∧
      ((∀ key version, key.id = mail.id → key ≠ .scheduled mail.id due →
          Drawn (holds before) events key version → version.updated < mail.updated) →
        Survives holds now mail due ⟨recovered, records'⟩) := by
  obtain ⟨hopened, -⟩ := upToDate_opened hstore.toLawful hopen
  obtain ⟨hcurrent, -⟩ := run_upToDate hstore steps hopened hrun
  obtain ⟨recovered, records', hrecover, htracked, hiff⟩ := recoverFrom_survives_iff hstore
    (hleft.due_le_latest (Ledger.bounded_blank.after events))
    (hleft.held hstore.toLawful hcurrent) now
  exact ⟨recovered, records', hrecover, htracked, hiff, fun hupdated =>
    hiff.2 (hleft.prevails_of_updated hstore hopen hrun hupdated)⟩

end MailQueue

namespace MailQueue.Sample

/-- A memory store that refuses some deletions. -/
def stubborn : RecordStore (Memory × List Bool) :=
  Memory.store.refusing (.io (.other "refused"))

theorem stubborn_regular : stubborn.Regular (RecordStore.current Memory.holds) :=
  Memory.regular.refusing _

/-- Two writes succeed, and then a deletion is refused. -/
def refusals : Memory × List Bool :=
  (.empty none, [false, false, true])

/-- When a mail becomes visible that is delayed by an hour. -/
def late : Instant :=
  dueTime .epoch 3600000000000

/-- The first mail is stored, and stored again in another version that is due in an hour. -/
def storeAgain (version : Mail) : List QueueEvent × MailQueue (Memory × List Bool) :=
  run stubborn [⟨.epoch, .enqueue first 0⟩, ⟨.epoch, .enqueue version 3600000000000⟩]
    ⟨.empty, refusals⟩

theorem stopsWith_storeAgain (version : Mail)
    (hledger : Ledger.blank.after (storeAgain version).1 version.id = some (version, late))
    (hkey : (storeAgain version).2.tracking.key? version.id = some (.scheduled version.id late)) :
    StopsWith stubborn (RecordStore.current Memory.holds)
      (Ledger.blank.after (storeAgain version).1) (storeAgain version).2
      (storeAgain version).2.records version late :=
  .between hledger (by simp [hkey]) fun _ _ => rfl

def changed : Mail :=
  first.setState (.ofMillis 20) "transport"

/-- A mail that has changed is stored again, and the deletion of its old record is refused. The next
queue tracks it as it has been changed, and keeps it back for the hour. -/
theorem run_survives_iff_of_changed :
    stubborn.Regular (RecordStore.current Memory.holds) ∧
      recoverFrom stubborn .epoch refusals = (.ok .empty, refusals) ∧
      StopsWith stubborn (RecordStore.current Memory.holds)
        (Ledger.blank.after (storeAgain changed).1) (storeAgain changed).2
        (storeAgain changed).2.records changed late ∧
      ∃ recovered records',
        recoverFrom stubborn .epoch (storeAgain changed).2.records = (.ok recovered, records') ∧
        Survives (RecordStore.current Memory.holds) .epoch changed late ⟨recovered, records'⟩ := by
  have hopen : recoverFrom stubborn .epoch refusals = (.ok .empty, refusals) := rfl
  have hleft := stopsWith_storeAgain changed rfl rfl
  obtain ⟨recovered, records', hrecover, -, -, hsurvives⟩ :=
    run_survives_iff stubborn_regular hopen rfl hleft .epoch
  refine ⟨stubborn_regular, hopen, hleft, recovered, records', hrecover, hsurvives ?_⟩
  rintro key version - hne (hthere | ⟨event, hevent, due, hstored, rfl⟩)
  · cases hthere
  · -- of the two versions that were stored, the other one is older
    rcases List.mem_cons.1 hevent with rfl | hevent
    · cases hstored
      decide +kernel
    · rw [List.mem_singleton.1 hevent] at hstored
      cases hstored
      exact absurd rfl hne

/-- A mail that has not changed is stored again, and the deletion of its old record is refused. The
queue goes by its new schedule; the next one goes by the old, and deletes the new record. -/
theorem run_loses_schedule :
    StopsWith stubborn (RecordStore.current Memory.holds) (Ledger.blank.after (storeAgain first).1)
        (storeAgain first).2 (storeAgain first).2.records first late ∧
      ∃ recovered records',
        recoverFrom stubborn .epoch (storeAgain first).2.records = (.ok recovered, records') ∧
        recovered.key? first.id = some (.scheduled first.id .epoch) ∧
        RecordStore.current Memory.holds records' (.scheduled first.id late) = none ∧
        ¬ Survives (RecordStore.current Memory.holds) .epoch first late ⟨recovered, records'⟩ := by
  obtain ⟨recovered, records', hrecover, hkey, hgone⟩ : ∃ recovered records',
      recoverFrom stubborn .epoch (storeAgain first).2.records = (.ok recovered, records') ∧
        recovered.key? first.id = some (.scheduled first.id .epoch) ∧
        RecordStore.current Memory.holds records' (.scheduled first.id late) = none :=
    ⟨_, _, rfl, by decide +kernel, rfl⟩
  refine ⟨stopsWith_storeAgain first rfl rfl, recovered, records', hrecover, hkey, hgone, ?_⟩
  intro hsurvives
  have hdistinct : RecordKey.scheduled first.id .epoch ≠ .scheduled first.id late := by decide
  exact hdistinct (Option.some.inj (hkey.symm.trans hsurvives.tracked))

end MailQueue.Sample

end Postroom
