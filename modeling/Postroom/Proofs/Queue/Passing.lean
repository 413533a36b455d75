import Postroom.Proofs.Queue.Order
import Postroom.Proofs.Queue.Refinement
import Postroom.Proofs.Store.Separation

/-!
What a call for a lease does with records that cannot be read. It passes over those that never can:
they are put aside, their mails are not tracked any more, and everything else stays where it is, as
it is. It ends at the first visible mail for which something else is read. That mail is leased, or,
if the failure may go away, put back to where it stood.
-/

namespace Postroom

namespace MailQueue

variable {σ : Type} {store : RecordStore σ} {sound : σ → Prop} {queue middle after : MailQueue σ}

/-- The records after some of them were put aside, in order. -/
def setAside (store : RecordStore σ) (keys : List RecordKey) (records : σ) : σ :=
  keys.foldl (fun records key => (store.quarantine key records).2) records

theorem setAside_sound (hstore : store.Separate sound) (keys : List RecordKey) {records : σ}
    (h : sound records) : sound (setAside store keys records) := by
  induction keys generalizing records with
  | nil => exact h
  | cons key keys ih => exact ih (hstore.aside_sound key h)

/-- What is read of a record does not depend on the others that were put aside. -/
theorem read_setAside (hstore : store.Separate sound) {keys : List RecordKey} {records : σ}
    (h : sound records) {other : RecordKey} (hother : other ∉ keys) :
    (store.read other (setAside store keys records)).1 = (store.read other records).1 := by
  induction keys generalizing records with
  | nil => rfl
  | cons key keys ih =>
      rw [List.mem_cons, not_or] at hother
      exact (ih (hstore.aside_sound key h) hother.2).trans (hstore.aside_other h hother.1)

/-- A queue after the first visible mails were passed over: their records, under these keys, have
been put aside. -/
structure Passes (store : RecordStore σ) (keys : List RecordKey) (queue after : MailQueue σ) :
    Prop where
  tracked : ∀ key ∈ keys, queue.tracking.key? key.id = some key
  records : after.records = setAside store keys queue.records
  plain : queue.tracking.plain = { after.tracking.plain with
    visible := keys.map RecordKey.id ++ after.tracking.plain.visible }
  untracked : ∀ id, after.tracking.key? id =
    if id ∈ keys.map RecordKey.id then none else queue.tracking.key? id
  inOrder : after.InOrder

theorem Passes.refl (h : queue.InOrder) : Passes store [] queue queue where
  tracked := by simp
  records := rfl
  plain := rfl
  untracked := by simp
  inOrder := h

theorem Passes.trans {keys later : List RecordKey} (first : Passes store keys queue middle)
    (second : Passes store later middle after) : Passes store (keys ++ later) queue after where
  tracked key hkey := by
    rcases List.mem_append.1 hkey with hkey | hkey
    · exact first.tracked key hkey
    · have htracked := second.tracked key hkey
      rw [first.untracked] at htracked
      split at htracked
      · cases htracked
      · exact htracked
  records := by
    rw [second.records, first.records, setAside, setAside, setAside, List.foldl_append]
  plain := by
    rw [first.plain, second.plain]
    simp
  untracked id := by
    rw [second.untracked, first.untracked, List.map_append]
    by_cases hlater : id ∈ later.map RecordKey.id
    · rw [if_pos hlater, if_pos (List.mem_append_right _ hlater)]
    · simp only [hlater, if_false, List.mem_append, or_false]
  inOrder := second.inOrder

/-- A mail that is still tracked is not one of those that were passed over, so what is read of it
has not changed. -/
theorem Passes.read_eq {keys : List RecordKey} {key : RecordKey} (h : Passes store keys queue after)
    (hstore : store.Separate sound) (hsound : sound queue.records)
    (hkey : after.tracking.key? key.id = some key) :
    queue.tracking.key? key.id = some key ∧
      (store.read key after.records).1 = (store.read key queue.records).1 := by
  rw [h.untracked] at hkey
  split at hkey
  · cases hkey
  · rename_i hout
    rw [h.records]
    exact ⟨hkey, read_setAside hstore hsound fun hmem => hout (List.mem_map_of_mem hmem)⟩

/-- Whether a record can never be read back. -/
def Unreadable (store : RecordStore σ) (records : σ) (key : RecordKey) : Prop :=
  ∃ e, (store.read key records).1 = .error e ∧ e.isTransient = false

/-- How a call for a lease can end at the front of a queue: nothing is visible, the first visible
mail is leased as it is read, or it is put back as it cannot be read at present. -/
inductive Ends (store : RecordStore σ) (queue : MailQueue σ) : Answer (MailQueue σ) (Option Mail) →
    Prop where
  | waits : queue.tracking.plain.visible = [] → Ends store queue (.ok none, queue)
  | leases {key : RecordKey} {rest : List MailId} {mail : Mail} {tracking : Tracking} :
      queue.tracking.plain.visible = key.id :: rest → queue.tracking.key? key.id = some key →
      (store.read key queue.records).1 = .ok mail → tracking.key? = queue.tracking.key? →
      tracking.plain = { queue.tracking.plain with
        visible := rest
        leased := queue.tracking.plain.leased.insert key.id none } →
      tracking.Orderly → Ends store queue (.ok (some mail), ⟨tracking, queue.records⟩)
  | putsBack {key : RecordKey} {rest : List MailId} {e : QueueError} {tracking : Tracking} :
      queue.tracking.plain.visible = key.id :: rest → queue.tracking.key? key.id = some key →
      (store.read key queue.records).1 = .error e → e.isTransient = true →
      tracking.key? = queue.tracking.key? → tracking.plain = queue.tracking.plain →
      tracking.Orderly → Ends store queue (.error e, ⟨tracking, queue.records⟩)

/-- To pass over the first visible mail. -/
theorem InOrder.passes_first (h : queue.InOrder) {key : RecordKey} {tracking : Tracking}
    (hclaim : queue.tracking.claim = some (key, tracking)) :
    Passes store [key] queue
      ⟨tracking.forget key.id, (store.quarantine key queue.records).2⟩ := by
  obtain ⟨rest, hvisible, hkey, hsame, hplain, hfree, horderly⟩ := h.claims hclaim
  obtain ⟨hleased, hlease⟩ := h.claim hclaim queue.records
  obtain ⟨hforgotten, -⟩ := Tracking.plain_forget horderly hlease
  refine ⟨fun k hk => ?_, rfl, ?_, fun id => ?_, hleased.forget hlease _⟩
  · rw [List.mem_singleton.1 hk]
    exact hkey
  · rw [hforgotten, hplain]
    apply PlainQueue.ext
    · exact hvisible
    · rfl
    · exact (PlainQueue.erase_insert_of_not_mem hfree none).symm
    · rfl
  · rw [Tracking.key?_forget, hsame]
    simp

/-- A call for a lease passes over mails whose records can never be read, and ends at the first of
the others. -/
theorem InOrder.leaseNext_passes (hstore : store.Separate sound) (h : queue.InOrder)
    (hsound : sound queue.records) (now : Instant) :
    ∃ keys after, Passes store keys queue after ∧
      (∀ key ∈ keys, Unreadable store queue.records key) ∧
      Ends store after (queue.leaseNext store now) := by
  induction queue using leaseNext.induct store with
  | case1 queue hclaim =>
      rw [leaseNext_of_none hclaim]
      refine ⟨[], queue, .refl h, by simp, .waits ?_⟩
      rcases Tracking.plain_claim h.orderly with ⟨-, hempty⟩ | ⟨id, rest, key, t', -, -, hsome, -⟩
      · exact hempty
      · rw [hclaim] at hsome
        cases hsome
  | case2 queue key tracking hclaim mail records hread =>
      obtain ⟨rest, hvisible, hkey, hsame, hplain, -, horderly⟩ := h.claims hclaim
      obtain rfl : records = queue.records := by
        rw [← hstore.read_same key queue.records, hread]
      rw [leaseNext_of_some hclaim, hread]
      exact ⟨[], queue, .refl h, by simp,
        .leases hvisible hkey (congrArg Prod.fst hread) hsame hplain horderly⟩
  | case3 queue key tracking hclaim e records hread htransient =>
      obtain ⟨rest, hvisible, hkey, hsame, hplain, hfree, horderly⟩ := h.claims hclaim
      obtain rfl : records = queue.records := by
        rw [← hstore.read_same key queue.records, hread]
      obtain ⟨hreleased, hagain⟩ := Tracking.plain_release horderly key.id now
      rw [hplain, PlainQueue.settle_leased now hvisible hfree] at hreleased
      rw [leaseNext_of_some hclaim, hread]
      dsimp only
      rw [if_pos htransient]
      exact ⟨[], queue, .refl h, by simp,
        .putsBack hvisible hkey (congrArg Prod.fst hread) htransient
        ((Tracking.key?_release ..).trans hsame) hreleased hagain⟩
  | case4 queue key tracking hclaim e records hread hlost ih =>
      obtain rfl : records = queue.records := by
        rw [← hstore.read_same key queue.records, hread]
      have hfirst : Passes store [key] queue _ := h.passes_first hclaim
      obtain ⟨keys, after, hpasses, hunreadable, hends⟩ :=
        ih hfirst.inOrder (hstore.aside_sound key hsound)
      rw [leaseNext_of_some hclaim, hread]
      dsimp only
      rw [if_neg hlost]
      refine ⟨[key] ++ keys, after, hfirst.trans hpasses, fun k hk => ?_, hends⟩
      rcases List.mem_append.1 hk with hfirst | hlater
      · rw [List.mem_singleton.1 hfirst]
        exact ⟨e, congrArg Prod.fst hread, by simpa using hlost⟩
      · have hne : k ≠ key := by
          rintro rfl
          have htracked := hpasses.tracked k hlater
          rw [hfirst.untracked] at htracked
          simp at htracked
        obtain ⟨error, herror, hkind⟩ := hunreadable k hlater
        exact ⟨error, (hstore.aside_other hsound hne).symm.trans herror, hkind⟩

/-- The queue once every mail is visible whose time has come. -/
def promoted (queue : MailQueue σ) (now : Instant) : MailQueue σ :=
  { queue with tracking := queue.tracking.promoteDue now }

@[simp] theorem key?_promoted (queue : MailQueue σ) (now : Instant) :
    (queue.promoted now).tracking.key? = queue.tracking.key? :=
  Tracking.key?_promoteDue ..

@[simp] theorem records_promoted (queue : MailQueue σ) (now : Instant) :
    (queue.promoted now).records = queue.records := rfl

theorem InOrder.plain_promoted (h : queue.InOrder) (now : Instant) :
    (queue.promoted now).tracking.plain = queue.tracking.plain.promoteDue now :=
  (Tracking.plain_promoteDue h.orderly now).1

theorem InOrder.dequeue_passes (hstore : store.Separate sound) (h : queue.InOrder)
    (hsound : sound queue.records) (hopen : queue.tracking.closed = false) (now : Instant) :
    ∃ keys after, Passes store keys (queue.promoted now) after ∧
      (∀ key ∈ keys, Unreadable store queue.records key) ∧
      Ends store after (queue.dequeue store now) := by
  rw [dequeue, hopen, if_neg Bool.false_ne_true]
  exact (h.promoteDue now).leaseNext_passes hstore hsound now

end MailQueue

end Postroom
