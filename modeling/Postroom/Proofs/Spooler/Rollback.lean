import Postroom.Proofs.Queue.Census
import Postroom.Proofs.Spooler.AtLeastOnce

/-!
What a pass leaves behind that is rolled back. Mails are handed over one after the other, and if one
of them cannot be stored, the leased mail is put back to the front as it was. But only the lease is
rolled back: the mails that were stored before the failure stay, so the recipients on them are on
two mails then, and every further attempt adds to them. Nothing is left behind only if the first
mail fails.
-/

namespace Postroom

namespace Tracking

variable {t : Tracking} {id : MailId} {key : RecordKey}

/-- A mail that has been put back is the next one to be leased, whatever else becomes visible. -/
theorem claim_of_restored (hkey : t.key? id = some key) (later : Instant) :
    ∃ t', ((t.restore id).promoteDue later).claim = some (key, t') := by
  obtain ⟨entry, hentry, rfl⟩ := key?_eq_some_iff.1 hkey
  have hrestored := restore_eq hentry
  generalize t.restore id = r at hrestored
  have hpromoted := promoted_foldl
    { r with delayed := r.delayed.filter fun due _ => later < due.time } (r.dueAt later)
  have hready : (r.promoteDue later).ready =
      ⟨id, t.lastGeneration + 1⟩ :: (t.ready ++ (r.dueAt later).filter r.isCurrent) := by
    have happended : (r.promoteDue later).ready =
        r.ready ++ (r.dueAt later).filter r.isCurrent := hpromoted.ready
    rw [happended, hrestored]
    rfl
  have hcurrent : (r.promoteDue later).isCurrent ⟨id, t.lastGeneration + 1⟩ = true := by
    have hsame : (r.promoteDue later).isCurrent = r.isCurrent := hpromoted.current
    rw [hsame, hrestored]
    exact isCurrent_assign_new t id rfl
  rcases (r.promoteDue later).claim_cases with ⟨-, hstale⟩ |
    ⟨stale, position, rest, found, hsplit, hstale, -, hfound, hclaim⟩
  · have hnot := hstale ⟨id, t.lastGeneration + 1⟩ (by simp [hready])
    rw [hcurrent] at hnot
    cases hnot
  · -- the first position counts, so none before it is passed over
    have hfirst : stale = [] := by
      cases stale with
      | nil => rfl
      | cons first others =>
          rw [hready] at hsplit
          have hhead : first = ⟨id, t.lastGeneration + 1⟩ := (List.cons.inj hsplit).1.symm
          have hnot := hstale first (List.mem_cons_self ..)
          rw [hhead, hcurrent] at hnot
          cases hnot
    rw [hfirst, hready] at hsplit
    have hposition : position = ⟨id, t.lastGeneration + 1⟩ := (List.cons.inj hsplit).1.symm
    have hkept : (r.promoteDue later).key? id = some entry.key := by
      rw [key?_promoteDue, hrestored]
      simp [key?, assign]
    rw [hposition] at hfound
    have hsame : found.key = entry.key := by
      simpa [key?, hfound] using hkept
    exact ⟨_, by rw [hclaim, hsame]⟩

end Tracking

namespace MailQueue

variable {σ : Type} {store : RecordStore σ} {holds : σ → Holdings} {mail : Mail}
  {queue : MailQueue σ}

/-- A mail that was leased and has been put back is what the next call for a lease hands out. -/
theorem dequeue_of_rolledBack (hstore : store.Lawful holds) {id : MailId} {key : RecordKey}
    (hopen : queue.tracking.closed = false) (hlease : queue.tracking.leaseOf? id = some none)
    (hkey : queue.tracking.key? id = some key)
    (hheld : holds queue.records key = some (.ok mail)) (now later : Instant) :
    ((queue.rollBack id now).dequeue store later).1 = .ok (some mail) := by
  have hrelease : queue.tracking.release id now = queue.tracking.restore id := by
    rw [Tracking.release, hlease]
  have hstill : (queue.tracking.restore id).closed = false := by
    unfold Tracking.restore
    dsimp only
    split <;> exact hopen
  obtain ⟨tracking, hclaim⟩ := Tracking.claim_of_restored hkey later
  obtain ⟨records, hread, -⟩ := hstore.read hheld
  have hup : ({ queue with tracking := (queue.tracking.restore id).promoteDue later } :
      MailQueue σ).tracking.claim = some (key, tracking) := hclaim
  unfold dequeue rollBack
  rw [hrelease, hstill]
  simp only [Bool.false_eq_true, if_false, leaseNext_of_some hup, hread]

end MailQueue

namespace Spooler

open MailQueue (LeavesBehind Stores OwnsKeys)

variable {σ : Type} {store : RecordStore σ} {holds : σ → Holdings}

/-- If not all mails can be stored, those before the first one that cannot be are. -/
theorem enqueueAll_error (hstore : store.Lawful holds) {now : Instant} {mails : List Mail}
    {queue queue' : MailQueue σ} {e : QueueError} (hown : queue.OwnsKeys)
    (h : enqueueAll store now mails queue = (.error e, queue')) :
    ∃ stored refused rest, mails = stored ++ refused :: rest ∧
      Stores holds stored queue queue' := by
  induction mails generalizing queue with
  | nil => cases h
  | cons mail rest ih =>
      unfold enqueueAll at h
      rcases MailQueue.enqueue_stores hstore hown mail 0 now with ⟨⟨e', herror⟩, hsame⟩ |
        ⟨hok, hstores, hnext⟩
      · rcases henqueue : queue.enqueue store mail 0 now with ⟨result, left⟩
        rw [henqueue] at h herror hsame
        dsimp only at herror
        subst herror
        cases h
        exact ⟨[], mail, rest, rfl, hsame⟩
      · rcases henqueue : queue.enqueue store mail 0 now with ⟨result, left⟩
        rw [henqueue] at h hok hstores hnext
        dsimp only at hok
        subst hok
        obtain ⟨stored, refused, others, rfl, hrest⟩ := ih hnext h
        exact ⟨mail :: stored, refused, others, rfl, hstores.trans hrest⟩

/-- If a pass is rolled back, some of its mails could be stored before one could not be. -/
theorem conclude_rolledBack (hstore : store.Lawful holds) {passage : Passage} {now : Instant}
    {queue queue' : MailQueue σ} (hown : queue.OwnsKeys)
    (h : conclude store passage now queue = (.rolledBack, queue')) :
    ∃ stored refused rest left, passage.result = .ok (stored ++ refused :: rest) ∧
      Stores holds stored queue left ∧ queue' = left.rollBack passage.leased now := by
  unfold conclude at h
  split at h
  · cases h
  · rename_i mails hmails
    rcases hall : enqueueAll store now mails queue with ⟨e | ⟨⟩, left⟩
    · rw [hall] at h
      cases h
      obtain ⟨stored, refused, rest, rfl, hstores⟩ := enqueueAll_error hstore hown hall
      exact ⟨stored, refused, rest, left, hmails, hstores, rfl⟩
    · rw [hall] at h
      cases h

/-- A pass that is rolled back leaves behind the mails that it stored before one could not be, and
nothing else. Unless the leased mail is one of those, it is the next one to be leased, as it was. -/
theorem rolledBack_leaves_stored (spooler : Spooler σ) (hstore : spooler.store.Lawful holds)
    {mail : Mail} {key : RecordKey} {spool spool' : Spool σ} (now : Instant)
    (hown : spool.queue.OwnsKeys) (hleased : spool.queue.Leases holds key mail)
    (hfresh : spool.queue.tracking.leaseOf? mail.id = some none)
    (hrecords : holds (spooler.run mail now none spool).2.queue.records =
      holds spool.queue.records)
    (h : spooler.process mail now spool = (.rolledBack, spool')) :
    ∃ stored refused rest,
      (spooler.run mail now none spool).1.result = .ok (stored ++ refused :: rest) ∧
      LeavesBehind holds stored spool.queue spool'.queue ∧
      spool'.queue.tracking.leaseOf? mail.id = none ∧
      (mail.id ∉ stored.map Mail.id → spool.queue.tracking.closed = false →
        ∀ later, (spool'.queue.dequeue spooler.store later).1 = .ok (some mail)) := by
  have hconclude : conclude spooler.store (spooler.run mail now none spool).1 now
      (spooler.run mail now none spool).2.queue = (.rolledBack, spool'.queue) :=
    congrArg (fun answer => (answer.1, answer.2.queue)) h
  have hrun : (spooler.run mail now none spool).2.queue.OwnsKeys := hown
  obtain ⟨stored, refused, rest, left, hresult, hstores, hback⟩ :=
    conclude_rolledBack hstore hrun hconclude
  have hback : spool'.queue = left.rollBack mail.id now := hback
  -- the chain has not touched the queue
  have htracking : (spooler.run mail now none spool).2.queue.tracking = spool.queue.tracking := rfl
  generalize (spooler.run mail now none spool).2.queue = queue at htracking hrecords hstores
  have hkeys : (left.rollBack mail.id now).tracking.key? = left.tracking.key? :=
    Tracking.key?_release ..
  refine ⟨stored, refused, rest, hresult, ?_, ?_, ?_⟩
  · rw [hback]
    constructor
    · intro id
      rw [hkeys, hstores.tracked, htracking]
    · intro id hstored
      rw [hkeys]
      exact hstores.recorded id hstored
    · intro id hout
      rw [hkeys, hstores.keys id hout, htracking]
    · intro k hout
      rw [← hrecords]
      exact hstores.records k hout
  · rw [hback]
    exact Tracking.leaseOf?_release ..
  · intro hout hopen later
    rw [hback]
    have hstill : left.tracking.closed = false := by
      rw [hstores.closed, htracking, hopen]
    have hlease : left.tracking.leaseOf? mail.id = some none := by
      rw [hstores.leases _ hout, htracking, hfresh]
    have hkey : left.tracking.key? mail.id = some key := by
      rw [hstores.keys _ hout, htracking, hleased.tracked]
    have hheld : holds left.records key = some (.ok mail) := by
      rw [hstores.records key (hleased.own ▸ hout), hrecords, hleased.recorded]
    exact MailQueue.dequeue_of_rolledBack hstore hstill hlease hkey hheld now later

end Spooler

namespace Spooler.Sample

open MailQueue (LeavesBehind OwnsKeys)

/-- A chain that hands alice to one chain and everybody else to another. -/
def parting : Chain where
  name := StateName.default
  stages := [
    ⟨.recipientsWhere "IsAlice" (· == Chain.Sample.alice), .toProcessor "left" none⟩,
    ⟨.all, .toProcessor "right" none⟩]

/-- A spooler over a memory store, with chains that drop whatever the first one hands on. -/
def parter : Spooler Memory where
  store := Memory.store
  registry := {
    chains := .ofList [
      (StateName.default, parting),
      (StateName.error, { name := StateName.error, stages := [], handlesErrors := true }),
      ("left", { name := "left", stages := [] }),
      ("right", { name := "right", stages := [] })]
    states := ∅ }

/-- The mail is leased, and there is room for one more record. -/
def tightSpool : Spool Memory where
  queue := {
    tracking := spool.queue.tracking
    records := (Memory.write key mail (.empty (some 2))).2 }
  ids := .counting 1
  world := { disk := .empty }

/-- A time at which a mail is not stored under the key that it had at first. -/
def later : Instant := .ofMillis 5

theorem holds_tightSpool (k : RecordKey) :
    Memory.holds tightSpool.queue.records k = if k = key then some (.ok mail) else none := by
  have hok : (Memory.store.write key mail (.empty (some 2))).1.isOk = true := rfl
  rcases hwrite : Memory.store.write key mail (.empty (some 2)) with ⟨e | ⟨⟩, written⟩
  · rw [hwrite] at hok
    cases hok
  have hput := congrFun (Memory.lawful.write_ok hwrite rfl) k
  have hrecords : tightSpool.queue.records = written := congrArg Prod.snd hwrite
  rw [hrecords, hput]
  rfl

theorem leases_tightSpool : tightSpool.queue.Leases Memory.holds key mail where
  leased := leases_spool.leased
  tracked := leases_spool.tracked
  own := rfl
  recorded := (holds_tightSpool key).trans (if_pos rfl)
  single k _ hne := (holds_tightSpool k).trans (if_neg hne)

theorem ownsKeys_tightSpool : tightSpool.queue.OwnsKeys := by
  intro id k hk
  have hk : (if id = mail.id then some key else none) = some k := by
    rw [← hk]
    show _ = (spool.queue.tracking.entries[id]?).map Entry.key
    rw [show spool.queue.tracking.entries = (∅ : Std.ExtTreeMap MailId Entry).insert mail.id
      ⟨key, 1, .leased none⟩ from rfl, Tracking.entry?_insert]
    split <;> simp
  split at hk
  · rename_i hid
    cases hk
    exact hid.symm
  · cases hk

theorem process_tightSpool : (parter.process mail later tightSpool).1 = .rolledBack := by
  decide +kernel

/-- Whether a record names a recipient. -/
def names (r : Address) (record : Option (Except QueueError Mail)) : Bool :=
  match record with
  | some (.ok m) => m.recipients.contains r
  | _ => false

theorem mem_of_names {r : Address} {record : Option (Except QueueError Mail)}
    (h : names r record = true) : ∃ m, record = some (.ok m) ∧ r ∈ m.recipients := by
  unfold names at h
  split at h
  · rename_i m
    exact ⟨m, rfl, h⟩
  · cases h

def forkKey : RecordKey := .scheduled (.make later 1) later

/-- The fork for alice is stored before the rest of the mail cannot be. It stays, and the mail is
tracked for her as well. -/
theorem rolledBack_leaves_fork :
    (parter.process mail later tightSpool).1 = .rolledBack ∧
      ¬ LeavesBehind Memory.holds [] tightSpool.queue
        (parter.process mail later tightSpool).2.queue ∧
      forkKey.id ≠ key.id ∧ ∀ k ∈ [key, forkKey],
        (parter.process mail later tightSpool).2.queue.tracking.key? k.id = some k ∧
        ∃ m, Memory.holds (parter.process mail later tightSpool).2.queue.records k =
          some (.ok m) ∧ Chain.Sample.alice ∈ m.recipients := by
  have hnew : tightSpool.queue.tracking.key? forkKey.id = none := rfl
  have htracked : ∀ k ∈ [key, forkKey],
      (parter.process mail later tightSpool).2.queue.tracking.key? k.id = some k := by
    decide +kernel
  have hnames : ∀ k ∈ [key, forkKey], names Chain.Sample.alice
      (Memory.holds (parter.process mail later tightSpool).2.queue.records k) = true := by
    decide +kernel
  refine ⟨process_tightSpool, ?_, by decide, fun k hk => ⟨htracked k hk, ?_⟩⟩
  · intro hleaves
    have hstill := hleaves.keys forkKey.id (by simp)
    rw [htracked forkKey (by simp), hnew] at hstill
    cases hstill
  · exact mem_of_names (hnames k hk)

/-- Of the two mails that come out of the pass, the one that does not fit is not stored. -/
theorem rolledBack_leaves_stored_of_two :
    tightSpool.queue.OwnsKeys ∧ tightSpool.queue.Leases Memory.holds key mail ∧
      tightSpool.queue.tracking.leaseOf? mail.id = some none ∧ ∃ stored refused rest,
        (parter.run mail later none tightSpool).1.result = .ok (stored ++ refused :: rest) ∧
        LeavesBehind Memory.holds stored tightSpool.queue
          (parter.process mail later tightSpool).2.queue := by
  have hlease : tightSpool.queue.tracking.leaseOf? mail.id = some none := rfl
  obtain ⟨stored, refused, rest, hresult, hleaves, -⟩ :=
    rolledBack_leaves_stored parter Memory.lawful later ownsKeys_tightSpool leases_tightSpool
      hlease rfl (Prod.ext process_tightSpool rfl)
  exact ⟨ownsKeys_tightSpool, leases_tightSpool, hlease, stored, refused, rest, hresult, hleaves⟩

end Spooler.Sample

end Postroom
