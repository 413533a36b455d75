import Postroom.Proofs.Queue.Outcomes
import Postroom.Proofs.Queue.Recovery

/-!
Who keeps a recipient. A queue carries a recipient that is on the record of a tracked mail. Records
alone save a recipient that is on every record of some id, as a recovery keeps one of these,
whichever it prefers. An operation on one mail concerns no other.
-/

namespace Postroom

namespace Holdings

/-- A mail under a key, where other records of its id, if there are any, are of an older version. -/
structure Versions (holdings : Holdings) (key : RecordKey) (mail older : Mail) : Prop where
  latest : holdings key = some (.ok mail)
  others : ∀ k, k.id = key.id → k ≠ key → holdings k = none ∨ holdings k = some (.ok older)

/-- Whether a recipient is on every record of some id that has one. -/
def Saves (holdings : Holdings) (r : Address) : Prop :=
  ∃ id, (∃ key, key.id = id ∧ holdings key ≠ none) ∧
    ∀ key result, key.id = id → holdings key = some result →
      ∃ mail, result = .ok mail ∧ r ∈ mail.recipients

variable {holdings holdings' : Holdings} {key : RecordKey} {mail older : Mail}

theorem Versions.saves (h : holdings.Versions key mail older) {r : Address}
    (hmail : r ∈ mail.recipients) (holder : r ∈ older.recipients) : holdings.Saves r := by
  refine ⟨key.id, ⟨key, rfl, by simp [h.latest]⟩, ?_⟩
  intro k result hid hresult
  by_cases hk : k = key
  · rw [hk, h.latest] at hresult
    cases hresult
    exact ⟨mail, rfl, hmail⟩
  · rcases h.others k hid hk with hnone | hsome
    · rw [hnone] at hresult
      cases hresult
    · rw [hsome] at hresult
      cases hresult
      exact ⟨older, rfl, holder⟩

theorem Versions.of_same (h : holdings.Versions key mail older)
    (hsame : ∀ k, k.id = key.id → holdings' k = holdings k) :
    holdings'.Versions key mail older where
  latest := (hsame key rfl).trans h.latest
  others k hid hne := by
    rw [hsame k hid]
    exact h.others k hid hne

/-- A record that is put beside another one makes an older version of it. -/
theorem Versions.put (h : holdings.Versions key older older) {new : RecordKey} (mail : Mail)
    (hid : new.id = key.id) : (holdings.put new mail).Versions new mail older where
  latest := put_same ..
  others k hk hne := by
    rw [put_other _ _ hne]
    by_cases hkey : k = key
    · exact .inr (hkey ▸ h.latest)
    · exact h.others k (hk.trans hid) hkey

/-- Of other records than the latest one some may be deleted. -/
theorem Versions.of_pruned (h : holdings.Versions key mail older) {spared : RecordKey → Prop}
    (hpruned : MailQueue.Pruned holdings holdings' spared) (hkey : spared key) :
    holdings'.Versions key mail older where
  latest := (hpruned.spares hkey).trans h.latest
  others k hid hne := by
    rcases hpruned.same_or_none k with hsame | hnone
    · rw [hsame]
      exact h.others k hid hne
    · exact .inl hnone

end Holdings

namespace MailQueue

variable {σ : Type} {store : RecordStore σ} {holds : σ → Holdings} {queue queue' : MailQueue σ}

/-- Whether a recipient is on the record of a mail that is tracked. -/
def Carries (holds : σ → Holdings) (queue : MailQueue σ) (r : Address) : Prop :=
  ∃ key mail, queue.tracking.key? key.id = some key ∧
    holds queue.records key = some (.ok mail) ∧ r ∈ mail.recipients

/-- A mail that is tracked under a key, with its record and at most older versions beside it. -/
structure Keeps (holds : σ → Holdings) (queue : MailQueue σ) (key : RecordKey)
    (mail older : Mail) : Prop where
  tracked : queue.tracking.key? key.id = some key
  versions : (holds queue.records).Versions key mail older

/-- Whether no mail of an id is tracked and none has a record. -/
structure Absent (holds : σ → Holdings) (queue : MailQueue σ) (id : MailId) : Prop where
  untracked : queue.tracking.key? id = none
  unrecorded : ∀ key, key.id = id → holds queue.records key = none

/-- Whether two queues track and hold the same, but for one id. -/
structure SameBut (holds : σ → Holdings) (id : MailId) (queue queue' : MailQueue σ) : Prop where
  keys : ∀ k, k ≠ id → queue'.tracking.key? k = queue.tracking.key? k
  records : ∀ key, key.id ≠ id → holds queue'.records key = holds queue.records key

theorem Keeps.carries {key : RecordKey} {mail older : Mail} (h : Keeps holds queue key mail older)
    {r : Address} (hr : r ∈ mail.recipients) : Carries holds queue r :=
  ⟨key, mail, h.tracked, h.versions.latest, hr⟩

theorem Keeps.of_same {key : RecordKey} {mail older : Mail} (h : Keeps holds queue key mail older)
    (hkey : queue'.tracking.key? = queue.tracking.key?)
    (hrecords : holds queue'.records = holds queue.records) :
    Keeps holds queue' key mail older where
  tracked := by rw [hkey, h.tracked]
  versions := by
    rw [hrecords]
    exact h.versions

theorem Keeps.of_sameBut {key : RecordKey} {mail older : Mail} {id : MailId}
    (h : Keeps holds queue key mail older) (hid : key.id ≠ id)
    (hsame : SameBut holds id queue queue') : Keeps holds queue' key mail older where
  tracked := (hsame.keys key.id hid).trans h.tracked
  versions := h.versions.of_same fun k hk => hsame.records k (hk ▸ hid)

theorem Absent.of_sameBut {id other : MailId} (h : Absent holds queue other) (hid : other ≠ id)
    (hsame : SameBut holds id queue queue') : Absent holds queue' other where
  untracked := (hsame.keys other hid).trans h.untracked
  unrecorded key hkey := by
    rw [hsame.records key (hkey ▸ hid)]
    exact h.unrecorded key hkey

/-- To store a mail concerns no other mail. -/
theorem enqueue_sameBut (hstore : store.Lawful holds) (mail : Mail) (delay : Nat) (now : Instant)
    (hown : ∀ old, queue.tracking.key? mail.id = some old → old.id = mail.id) :
    SameBut holds mail.id queue (queue.enqueue store mail delay now).2 := by
  have hkey := queue.tracking.key?_register (.scheduled mail.id (dueTime now delay))
    (dueTime now delay) now
  have hkeys : ∀ k, k ≠ mail.id → (queue.tracking.register (.scheduled mail.id (dueTime now delay))
      (dueTime now delay) now).2.key? k = queue.tracking.key? k := by
    intro k hk
    rw [hkey, RecordKey.scheduled_id, if_neg hk]
  rcases enqueue_outcomes hstore mail delay now queue with ⟨key, written, rfl, -,
    ⟨e, henqueue, -, hsame⟩ | ⟨hput, hcases⟩⟩
  · rw [henqueue]
    exact ⟨fun _ _ => rfl, fun key _ => congrFun hsame key⟩
  have hwritten : ∀ key : RecordKey, key.id ≠ mail.id →
      holds written key = holds queue.records key := by
    intro key hid
    rw [hput, Holdings.put_other]
    rintro rfl
    exact hid rfl
  rcases hcases with ⟨-, henqueue⟩ | ⟨old, hold, -, henqueue⟩
  · rw [henqueue]
    exact ⟨hkeys, hwritten⟩
  · rw [henqueue]
    refine ⟨hkeys, fun key hid => ?_⟩
    have hne : key ≠ old := by
      rintro rfl
      exact hid (hown key hold)
    exact (hstore.delete_other hne written).trans (hwritten key hid)

/-- The end of a lease concerns no other mail. -/
theorem complete_sameBut (hstore : store.Lawful holds) (id : MailId) (now : Instant)
    (hown : ∀ old, queue.tracking.key? id = some old → old.id = id) :
    SameBut holds id queue (queue.complete store id now).2 := by
  rcases complete_outcomes id now queue with ⟨-, hcomplete⟩ | ⟨due, -, -, hcomplete⟩ |
    ⟨-, key, hkey, -, hcomplete⟩
  · rw [hcomplete]
    exact ⟨fun _ _ => rfl, fun _ _ => rfl⟩
  · rw [hcomplete]
    exact ⟨fun _ _ => by rw [Tracking.key?_schedule], fun _ _ => rfl⟩
  · rw [hcomplete]
    refine ⟨fun k hk => by rw [Tracking.key?_forget, if_neg hk], fun k hid => ?_⟩
    have hne : k ≠ key := by
      rintro rfl
      exact hid (hown k hkey)
    exact hstore.delete_other hne queue.records

/-- After a lease has been settled as a success, its mail is not leased. -/
theorem leaseOf?_complete (id : MailId) (now : Instant) (queue : MailQueue σ) :
    (queue.complete store id now).2.tracking.leaseOf? id = none := by
  rcases complete_outcomes id now queue with ⟨hlease, hcomplete⟩ | ⟨due, -, -, hcomplete⟩ |
    ⟨-, key, -, -, hcomplete⟩
  · rw [hcomplete]
    exact hlease
  · rw [hcomplete]
    exact Tracking.leaseOf?_schedule ..
  · rw [hcomplete]
    exact Tracking.leaseOf?_forget ..

/-- A mail that was stored since it was leased stays when its lease ends, and so does its record. -/
theorem complete_of_requeued (queue : MailQueue σ) (store : RecordStore σ) {id : MailId}
    (h : queue.tracking.leaseOf? id ≠ some none) (now : Instant) :
    (queue.complete store id now).2.tracking.key? = queue.tracking.key? ∧
      (queue.complete store id now).2.records = queue.records := by
  rcases complete_outcomes id now queue with ⟨-, hcomplete⟩ | ⟨due, -, -, hcomplete⟩ |
    ⟨hlease, -⟩
  · rw [hcomplete]
    exact ⟨rfl, rfl⟩
  · rw [hcomplete]
    exact ⟨Tracking.key?_schedule .., rfl⟩
  · exact absurd hlease h

/-- A queue that is opened over records that save a recipient carries it. -/
theorem recoverFrom_carries (hstore : store.Lawful holds) {records : σ} {r : Address}
    (h : (holds records).Saves r) (now : Instant) :
    ∃ tracking records', recoverFrom store now records = (.ok tracking, records') ∧
      Carries holds ⟨tracking, records'⟩ r := by
  obtain ⟨kept, records', hrecover, hids, hkept, hcovers, -⟩ :=
    recoverFrom_cases hstore.browsable now records
  refine ⟨_, records', hrecover, ?_⟩
  obtain ⟨id, ⟨held, hid, hheld⟩, hall⟩ := h
  obtain ⟨key, hkey, hsame⟩ := hcovers held hheld
  obtain ⟨hthere, hunchanged, -⟩ := hkept key hkey
  obtain ⟨result, hresult⟩ := Option.ne_none_iff_exists'.1 hthere
  obtain ⟨mail, rfl, hr⟩ := hall key result (hsame.trans hid) hresult
  exact ⟨key, mail, ((recover_spec hids now).1 key.id key).2 ⟨hkey, rfl⟩,
    hunchanged.trans hresult, hr⟩

end MailQueue

end Postroom
