import Mathlib.Data.List.Nodup
import Mathlib.Data.List.Perm.Basic
import Postroom.Proofs.Queue.Consistency
import Postroom.Proofs.Queue.Custody

/-!
Calls of a queue that is shared. A call lets go of the lock around every operation on the store, so
others take steps between its own. A call whose steps are taken in a row does what the operations of
the queue do. As long as no two calls are under way for one mail, the steps of calls for different
mails may be taken in any order, and every mail that was stored stays tracked, with its record.
Calls for one mail must not overlap: if it is stored again between the claim and the read of a
consumer, the consumer does not find the record that it claimed, and drops the mail.
-/

namespace Postroom

/-- What a call will do next that has let go of the lock. -/
inductive OpenCall where
  /-- An enqueue has written the record of a mail and will take note of it. -/
  | registering (mail : Mail) (due now : Instant)
  /-- An enqueue has taken note of its record and will delete the one that it supersedes. -/
  | superseding (id : MailId) (key : RecordKey)
  /-- A dequeue has claimed a mail and will read its record. -/
  | reading (key : RecordKey)
  /-- A dequeue could not read the record that it claimed and will give the mail up, for a while or
  for good. -/
  | refused (key : RecordKey) (transient : Bool)
  /-- A dequeue has dropped a mail and will put its record aside, before it makes another
  attempt. -/
  | settingAside (key : RecordKey)
  /-- A lease has ended with success and the record of its mail will be deleted. -/
  | finishing (key : RecordKey)

/-- The mail that a call is for. -/
def OpenCall.id : OpenCall → MailId
  | registering mail _ _ => mail.id
  | superseding id _ => id
  | reading key => key.id
  | refused key _ => key.id
  | settingAside key => key.id
  | finishing key => key.id

/-- What a call has come to with a step. -/
inductive Progress where
  | suspended (call : OpenCall)
  /-- The mail has been stored. -/
  | stored (id : MailId)
  /-- The mail has been leased. -/
  | leased (id : MailId)
  | ended

namespace MailQueue

variable {σ : Type}

/-- An enqueue up to the point at which its record is written. -/
def beginEnqueue (store : RecordStore σ) (mail : Mail) (delay : Nat) (now : Instant)
    (queue : MailQueue σ) : Progress × MailQueue σ :=
  let due := dueTime now delay
  match store.write (.scheduled mail.id due) mail queue.records with
  | (.error _, records) => (.ended, { queue with records })
  | (.ok (), records) => (.suspended (.registering mail due now), { queue with records })

/-- An attempt of a dequeue up to its claim. If nothing is visible, it waits until it makes another
one. -/
def beginDequeue (now : Instant) (queue : MailQueue σ) : Progress × MailQueue σ :=
  if queue.tracking.closed then (.ended, queue)
  else
    let tracking := queue.tracking.promoteDue now
    match tracking.claim with
    | none => (.ended, { queue with tracking })
    | some (key, tracking) => (.suspended (.reading key), { queue with tracking })

/-- The end of a lease up to the point at which its mail is taken off. -/
def beginSettle (id : MailId) (success : Bool) (now : Instant) (queue : MailQueue σ) :
    Progress × MailQueue σ :=
  if success then
    match queue.tracking.acknowledge id now with
    | none => (.ended, queue)
    | some (none, tracking) => (.ended, { queue with tracking })
    | some (some key, tracking) => (.suspended (.finishing key), { queue with tracking })
  else (.ended, queue.rollBack id now)

/-- The next step of a call. -/
def proceed (store : RecordStore σ) (now : Instant) (queue : MailQueue σ) :
    OpenCall → Progress × MailQueue σ
  | .registering mail due begun =>
      match queue.tracking.register (.scheduled mail.id due) due begun with
      | (none, tracking) => (.stored mail.id, { queue with tracking })
      | (some superseded, tracking) =>
          (.suspended (.superseding mail.id superseded), { queue with tracking })
  | .superseding id key =>
      (.stored id, { queue with records := (store.delete key queue.records).2 })
  | .reading key =>
      match store.read key queue.records with
      | (.ok _, records) => (.leased key.id, { queue with records })
      | (.error e, records) => (.suspended (.refused key e.isTransient), { queue with records })
  | .refused key transient =>
      if transient then (.ended, queue.rollBack key.id now)
      else (.suspended (.settingAside key),
        { queue with tracking := queue.tracking.forget key.id })
  | .settingAside key =>
      (.ended, { queue with records := (store.quarantine key queue.records).2 })
  | .finishing key => (.ended, { queue with records := (store.delete key queue.records).2 })

/-- The queue after a call was abandoned while it waits for the store. A dequeue that has not read
its record gives the mail up for a while; one that could not read it does not wait for anything. -/
def abandon (now : Instant) (queue : MailQueue σ) : OpenCall → Option (MailQueue σ)
  | .reading key => some (queue.rollBack key.id now)
  | .refused _ _ => none
  | _ => some queue

/-- The queue after a call has taken more steps in a row, as many as `limit` if it has so many. -/
def continueCall (store : RecordStore σ) (now : Instant) :
    Nat → Progress × MailQueue σ → MailQueue σ
  | limit + 1, (.suspended call, queue) =>
      continueCall store now limit (queue.proceed store now call)
  | _, (_, queue) => queue

/-- The queue after a call has taken the rest of its steps in a row. There are three at most. -/
def finish (store : RecordStore σ) (now : Instant) (begun : Progress × MailQueue σ) : MailQueue σ :=
  continueCall store now 3 begun

/-- To abandon a call changes neither what is tracked nor what is stored. -/
theorem key?_abandon {now : Instant} {queue queue' : MailQueue σ} {call : OpenCall}
    (h : queue.abandon now call = some queue') :
    queue'.tracking.key? = queue.tracking.key? ∧ queue'.records = queue.records := by
  cases call with
  | reading key =>
      cases h
      exact ⟨Tracking.key?_release .., rfl⟩
  | refused key transient => cases h
  | _ =>
      cases h
      exact ⟨rfl, rfl⟩

/-- The steps of an enqueue, taken in a row, are the enqueue. -/
theorem finish_beginEnqueue (store : RecordStore σ) (mail : Mail) (delay : Nat)
    (now later : Instant) (queue : MailQueue σ) :
    finish store later (queue.beginEnqueue store mail delay now) =
      (queue.enqueue store mail delay now).2 := by
  unfold beginEnqueue enqueue
  dsimp only
  rcases store.write (.scheduled mail.id (dueTime now delay)) mail queue.records with
    ⟨e | ⟨⟩, records⟩
  · rfl
  · simp only [finish, continueCall, proceed]
    rcases queue.tracking.register (.scheduled mail.id (dueTime now delay)) (dueTime now delay) now
      with ⟨_ | superseded, tracking⟩
    · rfl
    · rfl

/-- The steps of the end of a lease, taken in a row, are the end of the lease. -/
theorem finish_beginSettle (store : RecordStore σ) (id : MailId) (success : Bool)
    (now later : Instant) (queue : MailQueue σ) :
    finish store later (queue.beginSettle id success now) =
      (queue.settle store id success now).2 := by
  unfold beginSettle settle complete
  cases success with
  | false => rfl
  | true =>
      rcases queue.tracking.acknowledge id now with _ | ⟨_ | key, tracking⟩
      · rfl
      · rfl
      · rfl

/-- The steps of an attempt of a dequeue, taken in a row, are the dequeue; unless the record can
never be read, when there is another attempt. -/
theorem dequeue_eq_finish (store : RecordStore σ) (now : Instant) (queue : MailQueue σ) :
    (queue.dequeue store now).2 = finish store now (queue.beginDequeue now) ∨
      queue.dequeue store now =
        leaseNext store now (finish store now (queue.beginDequeue now)) := by
  unfold dequeue beginDequeue
  split
  · exact .inl rfl
  · dsimp only
    rcases hclaim : (queue.tracking.promoteDue now).claim with _ | ⟨key, tracking⟩
    · have hup : ({ queue with tracking := queue.tracking.promoteDue now } :
          MailQueue σ).tracking.claim = none := hclaim
      rw [leaseNext_of_none hup]
      exact .inl rfl
    · have hup : ({ queue with tracking := queue.tracking.promoteDue now } :
          MailQueue σ).tracking.claim = some (key, tracking) := hclaim
      rw [leaseNext_of_some hup]
      simp only [finish, continueCall, proceed]
      rcases store.read key queue.records with ⟨e | mail, records⟩
      · dsimp only [continueCall, proceed]
        cases e.isTransient with
        | true => exact .inl rfl
        | false => exact .inr rfl
      · exact .inl rfl

end MailQueue

/-- What a call under way relies on: the record that it has written, or will read, is there, and one
that it will delete is not that of a tracked mail. -/
def OpenCall.Sound {σ : Type} (holds : σ → Holdings) (queue : MailQueue σ) : OpenCall → Prop
  | .registering mail due _ => holds queue.records (.scheduled mail.id due) = some (.ok mail)
  | .superseding id key => key.id = id ∧ ∃ k, queue.tracking.key? id = some k ∧ k ≠ key
  | .reading key => queue.tracking.key? key.id = some key
  | .refused _ _ => False
  | .settingAside _ => False
  | .finishing key => queue.tracking.key? key.id = none

/-- A call relies on what is tracked and what is stored for its own mail. -/
theorem OpenCall.Sound.of_sameBut {σ : Type} {holds : σ → Holdings} {queue queue' : MailQueue σ}
    {call : OpenCall} (h : call.Sound holds queue) {id : MailId} (hid : call.id ≠ id)
    (hsame : queue.SameBut holds id queue') : call.Sound holds queue' := by
  cases call with
  | registering mail due begun =>
      have hkey : (RecordKey.scheduled mail.id due).id ≠ id := hid
      exact (hsame.records _ hkey).trans h
  | superseding own key =>
      obtain ⟨hown, k, hk, hne⟩ := h
      exact ⟨hown, k, (hsame.keys own hid).trans hk, hne⟩
  | reading key => exact (hsame.keys key.id hid).trans h
  | refused key transient => exact h
  | settingAside key => exact h
  | finishing key => exact (hsame.keys key.id hid).trans h

theorem OpenCall.Sound.of_same {σ : Type} {holds : σ → Holdings} {queue queue' : MailQueue σ}
    {call : OpenCall} (h : call.Sound holds queue)
    (hkey : queue'.tracking.key? = queue.tracking.key?)
    (hrecords : holds queue'.records = holds queue.records) : call.Sound holds queue' := by
  cases call with
  | refused key transient => exact h
  | settingAside key => exact h
  | _ => simpa only [OpenCall.Sound, hkey, hrecords] using h

/-- A queue in use: the calls that are under way, the leases that have not been settled, and the
mails that it owes, which are those that were stored since a lease of them ended with success. -/
structure SharedQueue (σ : Type) where
  queue : MailQueue σ
  calls : List OpenCall := []
  handles : List MailId := []
  owed : List MailId := []

inductive Move where
  | enqueue (mail : Mail) (delay : Nat)
  | dequeue
  /-- A lease is settled. To drop it is to settle it without success. -/
  | settle (id : MailId) (success : Bool)
  | flush
  | close
  /-- The call at a place among those under way takes its next step. -/
  | proceed (place : Nat)
  /-- The call at a place is abandoned while it waits for the store. -/
  | cancel (place : Nat)

namespace SharedQueue

variable {σ : Type} {store : RecordStore σ} {holds : σ → Holdings} {now : Instant}
  {start shared shared' : SharedQueue σ}

/-- Take note of what a call has come to. -/
def after (shared : SharedQueue σ) : Progress × MailQueue σ → SharedQueue σ
  | (.suspended call, queue) => { shared with queue, calls := shared.calls ++ [call] }
  | (.stored id, queue) => { shared with queue, owed := id :: shared.owed }
  | (.leased id, queue) => { shared with queue, handles := id :: shared.handles }
  | (.ended, queue) => { shared with queue }

/-- What a move leaves, if it can be made. -/
def move (store : RecordStore σ) (now : Instant) (shared : SharedQueue σ) :
    Move → Option (SharedQueue σ)
  | .enqueue mail delay => some (shared.after (shared.queue.beginEnqueue store mail delay now))
  | .dequeue => some (shared.after (shared.queue.beginDequeue now))
  | .settle id success =>
      if id ∈ shared.handles then
        let owed := if success then shared.owed.filter (· ≠ id) else shared.owed
        some ({ shared with handles := shared.handles.erase id, owed }.after
          (shared.queue.beginSettle id success now))
      else none
  | .flush => some { shared with queue := shared.queue.flush.2 }
  | .close => some { shared with queue := shared.queue.close }
  | .proceed place =>
      shared.calls[place]?.map fun call =>
        { shared with calls := shared.calls.eraseIdx place }.after
          (shared.queue.proceed store now call)
  | .cancel place =>
      shared.calls[place]?.bind fun call =>
        (shared.queue.abandon now call).map fun queue =>
          { shared with queue, calls := shared.calls.eraseIdx place }

/-- What some moves leave, if all of them can be made. -/
def moveAll (store : RecordStore σ) : List (Instant × Move) → SharedQueue σ → Option (SharedQueue σ)
  | [], shared => some shared
  | (now, m) :: rest, shared => (shared.move store now m).bind (moveAll store rest)

/-- Whether no two calls are under way for one mail. -/
def Calm (shared : SharedQueue σ) : Prop :=
  (shared.calls.map OpenCall.id).Nodup

/-- What can be reached by moves of any clients in any order, through states that are allowed. -/
inductive Reached (store : RecordStore σ) (allowed : SharedQueue σ → Prop)
    (start : SharedQueue σ) : SharedQueue σ → Prop where
  | start : Reached store allowed start start
  | next {shared shared' : SharedQueue σ} (now : Instant) (m : Move) :
      Reached store allowed start shared → shared.move store now m = some shared' →
        allowed shared' → Reached store allowed start shared'

/-- A queue in use of which every tracked mail has its record, and which tracks every mail that it
owes. -/
structure Sound (holds : σ → Holdings) (shared : SharedQueue σ) : Prop where
  tracked : ∀ {id key}, shared.queue.tracking.key? id = some key →
    key.id = id ∧ ∃ mail, holds shared.queue.records key = some (.ok mail)
  calls : ∀ call ∈ shared.calls, call.Sound holds shared.queue
  owed : ∀ id ∈ shared.owed, shared.queue.tracking.key? id ≠ none

/-- A step that changes neither what is tracked nor what is stored. -/
theorem Sound.of_same (h : Sound holds shared)
    (hkey : shared'.queue.tracking.key? = shared.queue.tracking.key?)
    (hrecords : holds shared'.queue.records = holds shared.queue.records)
    (hcalls : ∀ call ∈ shared'.calls, call ∈ shared.calls ∨ call.Sound holds shared'.queue)
    (howed : ∀ id ∈ shared'.owed, id ∈ shared.owed) : Sound holds shared' where
  tracked htracked := by
    rw [hkey] at htracked
    rw [hrecords]
    exact h.tracked htracked
  calls call hcall := by
    rcases hcalls call hcall with hold | hnew
    · exact (h.calls call hold).of_same hkey hrecords
    · exact hnew
  owed id hid := by
    rw [hkey]
    exact h.owed id (howed id hid)

/-- A step for one mail has to answer for that mail only. -/
theorem Sound.of_sameBut (h : Sound holds shared) (id : MailId)
    (hsame : shared.queue.SameBut holds id shared'.queue)
    (htracked : ∀ {key}, shared'.queue.tracking.key? id = some key →
      key.id = id ∧ ∃ mail, holds shared'.queue.records key = some (.ok mail))
    (hcalls : ∀ call ∈ shared'.calls, call ∈ shared.calls ∧ call.id ≠ id ∨
      call.Sound holds shared'.queue)
    (howed : ∀ k ∈ shared'.owed, k ∈ shared.owed ∧ k ≠ id ∨
      shared'.queue.tracking.key? k ≠ none) : Sound holds shared' where
  tracked {k key} hk := by
    by_cases hid : k = id
    · subst hid
      exact htracked hk
    · rw [hsame.keys k hid] at hk
      obtain ⟨hown, mail, hheld⟩ := h.tracked hk
      refine ⟨hown, mail, ?_⟩
      rw [hsame.records key (hown ▸ hid), hheld]
  calls call hcall := by
    rcases hcalls call hcall with ⟨hold, hid⟩ | hnew
    · exact (h.calls call hold).of_sameBut hid hsame
    · exact hnew
  owed k hk := by
    rcases howed k hk with ⟨hold, hid⟩ | hnew
    · rw [hsame.keys k hid]
      exact h.owed k hold
    · exact hnew

/-- If no two calls are under way for one mail, the others are for other mails than a new one. -/
theorem ne_of_calm {calls : List OpenCall} {new : OpenCall}
    (h : ((calls ++ [new]).map OpenCall.id).Nodup) :
    ∀ call ∈ calls, call.id ≠ new.id := by
  intro call hcall heq
  rw [List.map_append] at h
  exact (List.nodup_append.1 h).2.2 call.id (List.mem_map_of_mem hcall) new.id (by simp) heq

/-- A call that takes a step leaves the others, which are for other mails. -/
theorem Calm.others (h : shared.Calm) {place : Nat} {call : OpenCall}
    (hcall : shared.calls[place]? = some call) :
    ∀ other ∈ shared.calls.eraseIdx place, other ∈ shared.calls ∧ other.id ≠ call.id := by
  obtain ⟨hplace, rfl⟩ := List.getElem?_eq_some_iff.1 hcall
  have hperm := List.getElem_cons_eraseIdx_perm hplace
  have hnodup := (hperm.map OpenCall.id).nodup_iff.2 h
  intro other hother
  refine ⟨List.mem_of_mem_eraseIdx hother, fun heq => ?_⟩
  exact (List.nodup_cons.1 hnodup).1 (heq ▸ List.mem_map_of_mem hother)

/-- To make the claim of a dequeue leaves a sound queue. -/
theorem Sound.beginDequeue (h : Sound holds shared) (now : Instant) :
    Sound holds (shared.after (shared.queue.beginDequeue now)) := by
  unfold MailQueue.beginDequeue
  dsimp only
  split
  · exact h
  · rcases hclaim : (shared.queue.tracking.promoteDue now).claim with _ | ⟨key, tracking⟩
    · exact h.of_same (Tracking.key?_promoteDue ..) rfl (fun _ hcall => .inl hcall) fun _ hid => hid
    · obtain ⟨hkeys, id, hkey⟩ := Tracking.key?_claim hclaim
      rw [Tracking.key?_promoteDue] at hkeys hkey
      obtain ⟨rfl, -⟩ := h.tracked hkey
      refine h.of_same hkeys rfl (fun call hcall => ?_) fun _ hid => hid
      rcases List.mem_append.1 hcall with hold | hnew
      · exact .inl hold
      · rw [List.mem_singleton.1 hnew]
        exact .inr ((congrFun hkeys key.id).trans hkey)

/-- To take a mail off at the end of its lease leaves a sound queue, if nothing else is under way
for it. -/
theorem Sound.beginSettle (h : Sound holds shared) (id : MailId) (success : Bool)
    (hcalm : (shared.after (shared.queue.beginSettle id success now)).Calm)
    (howed : success = true → id ∉ shared.owed) :
    Sound holds (shared.after (shared.queue.beginSettle id success now)) := by
  unfold MailQueue.beginSettle at hcalm ⊢
  cases success with
  | false =>
      exact h.of_same (Tracking.key?_release ..) rfl (fun _ hcall => .inl hcall) fun _ hid => hid
  | true =>
      rcases shared.queue.tracking.acknowledge_cases id now with ⟨-, hnone⟩ | ⟨due, -, hsome⟩ |
        ⟨-, key, hkey, hsome⟩
      · simp only [if_true, hnone]
        exact h
      · simp only [if_true, hsome]
        exact h.of_same (Tracking.key?_schedule ..) rfl (fun _ hcall => .inl hcall) fun _ hid => hid
      · simp only [if_true, hsome] at hcalm ⊢
        obtain ⟨rfl, -⟩ := h.tracked hkey
        have hgone : (shared.queue.tracking.forget key.id).key? key.id = none := by
          rw [Tracking.key?_forget, if_pos rfl]
        refine h.of_sameBut key.id ⟨fun k hk => ?_, fun _ _ => rfl⟩ ?_ ?_ ?_
        · exact (Tracking.key?_forget ..).trans (if_neg hk)
        · intro k hk
          have hk : (shared.queue.tracking.forget key.id).key? key.id = some k := hk
          rw [hgone] at hk
          cases hk
        · intro call hcall
          rcases List.mem_append.1 hcall with hold | hnew
          · exact .inl ⟨hold, ne_of_calm hcalm call hold⟩
          · rw [List.mem_singleton.1 hnew]
            exact .inr hgone
        · intro k hk
          refine .inl ⟨hk, ?_⟩
          rintro rfl
          exact howed rfl hk

/-- To take note of a record that was written leaves a sound queue, and the record that it
supersedes, if there is one, may be deleted. -/
theorem Sound.register (h : Sound holds shared) {mail : Mail} {due begun : Instant}
    {others : List OpenCall} (hheld : holds shared.queue.records (.scheduled mail.id due) =
      some (.ok mail))
    (hothers : ∀ other ∈ others, other ∈ shared.calls ∧ other.id ≠ mail.id) :
    Sound holds ({ shared with calls := others }.after
      (shared.queue.proceed store now (.registering mail due begun))) := by
  have hkeys := shared.queue.tracking.key?_register (.scheduled mail.id due) due begun
  have hcases := shared.queue.tracking.superseded_cases (.scheduled mail.id due) due begun
  rcases hregister : shared.queue.tracking.register (.scheduled mail.id due) due begun with
    ⟨superseded, tracking⟩
  rw [hregister] at hkeys hcases
  have hnew : tracking.key? mail.id = some (.scheduled mail.id due) :=
    (hkeys mail.id).trans (if_pos rfl)
  have hother : ∀ k, k ≠ mail.id → tracking.key? k = shared.queue.tracking.key? k :=
    fun k hk => (hkeys k).trans (if_neg hk)
  have htracked : ∀ {key}, tracking.key? mail.id = some key → key.id = mail.id ∧
      ∃ m, holds shared.queue.records key = some (.ok m) := by
    intro key hkey
    rw [hnew] at hkey
    cases hkey
    exact ⟨rfl, mail, hheld⟩
  have howed : ∀ k ∈ mail.id :: shared.owed, k ∈ shared.owed ∧ k ≠ mail.id ∨
      tracking.key? k ≠ none := by
    intro k hk
    by_cases hid : k = mail.id
    · exact .inr (by simp [hid, hnew])
    · exact .inl ⟨(List.mem_cons.1 hk).resolve_left hid, hid⟩
  cases superseded with
  | none =>
      simp only [MailQueue.proceed, hregister]
      exact h.of_sameBut mail.id ⟨hother, fun _ _ => rfl⟩ htracked
        (fun other hmem => .inl (hothers other hmem)) howed
  | some old =>
      simp only [MailQueue.proceed, hregister]
      refine h.of_sameBut mail.id ⟨hother, fun _ _ => rfl⟩ htracked (fun other hmem => ?_)
        fun k hk => howed k (List.mem_cons_of_mem _ hk)
      rcases List.mem_append.1 hmem with hmem | hmem
      · exact .inl (hothers other hmem)
      · rw [List.mem_singleton.1 hmem]
        obtain ⟨hnone, -⟩ | ⟨key, hsome, hkey, hne⟩ := hcases
        · cases hnone
        · cases hsome
          exact .inr ⟨(h.tracked hkey).1, _, hnew, hne.symm⟩

section Storing

variable (hstore : store.Lawful holds)

include hstore

/-- To write the record of a mail leaves a sound queue, if nothing else is under way for it. -/
theorem Sound.beginEnqueue (h : Sound holds shared) (mail : Mail) (delay : Nat)
    (hcalm : (shared.after (shared.queue.beginEnqueue store mail delay now)).Calm) :
    Sound holds (shared.after (shared.queue.beginEnqueue store mail delay now)) := by
  unfold MailQueue.beginEnqueue at hcalm ⊢
  dsimp only at hcalm ⊢
  generalize MailQueue.dueTime now delay = due at hcalm ⊢
  rcases hwrite : store.write (.scheduled mail.id due) mail shared.queue.records with
    ⟨e | ⟨⟩, records⟩
  · exact h.of_same rfl (hstore.write_error hwrite) (fun _ hcall => .inl hcall) fun _ hid => hid
  · rw [hwrite] at hcalm
    have hput : holds records = (holds shared.queue.records).put (.scheduled mail.id due) mail :=
      hstore.write_ok hwrite rfl
    refine h.of_sameBut mail.id ⟨fun _ _ => rfl, fun key hid => ?_⟩ ?_ ?_ ?_
    · refine (congrFun hput key).trans (Holdings.put_other _ _ ?_)
      rintro rfl
      exact hid rfl
    · intro key hkey
      obtain ⟨hown, old, hheld⟩ := h.tracked hkey
      by_cases hsame : key = .scheduled mail.id due
      · exact ⟨hown, mail, (congrFun hput key).trans (by rw [hsame, Holdings.put_same])⟩
      · exact ⟨hown, old, (congrFun hput key).trans ((Holdings.put_other _ _ hsame).trans hheld)⟩
    · intro call hcall
      rcases List.mem_append.1 hcall with hold | hnew
      · exact .inl ⟨hold, ne_of_calm hcalm call hold⟩
      · rw [List.mem_singleton.1 hnew]
        exact .inr ((congrFun hput _).trans (Holdings.put_same ..))
    · exact fun k hk => .inr (h.owed k hk)

/-- To delete a record that is not that of a tracked mail leaves a sound queue. -/
theorem Sound.delete (h : Sound holds shared) {key : RecordKey}
    (hfree : shared.queue.tracking.key? key.id ≠ some key)
    (hqueue : shared'.queue =
      { shared.queue with records := (store.delete key shared.queue.records).2 })
    (hcalls : ∀ call ∈ shared'.calls, call ∈ shared.calls ∧ call.id ≠ key.id)
    (howed : ∀ id ∈ shared'.owed, shared.queue.tracking.key? id ≠ none) : Sound holds shared' := by
  have hdelete : ∀ k ≠ key, holds shared'.queue.records k = holds shared.queue.records k := by
    rw [hqueue]
    exact fun k hk => hstore.delete_other hk _
  have hkey : shared'.queue.tracking.key? = shared.queue.tracking.key? := by
    rw [hqueue]
  refine h.of_sameBut key.id ⟨fun k _ => congrFun hkey k, fun k hid => hdelete k ?_⟩ ?_
    (fun call hcall => .inl (hcalls call hcall)) fun id hid => .inr ?_
  · rintro rfl
    exact hid rfl
  · intro k hk
    rw [hkey] at hk
    obtain ⟨hown, mail, hheld⟩ := h.tracked hk
    have hne : k ≠ key := by
      rintro rfl
      exact hfree hk
    exact ⟨hown, mail, (hdelete k hne).trans hheld⟩
  · rw [hkey]
    exact howed id hid

/-- The next step of a call leaves a sound queue, if nothing else is under way for its mail. -/
theorem Sound.proceed (h : Sound holds shared) {call : OpenCall} {others : List OpenCall}
    (hcall : call ∈ shared.calls)
    (hothers : ∀ other ∈ others, other ∈ shared.calls ∧ other.id ≠ call.id) :
    Sound holds ({ shared with calls := others }.after (shared.queue.proceed store now call)) := by
  have hsound := h.calls call hcall
  cases call with
  | registering mail due begun => exact h.register hsound hothers
  | superseding id key =>
      obtain ⟨rfl, k, hk, hne⟩ := hsound
      have hfree : shared.queue.tracking.key? key.id ≠ some key := by
        rw [hk]
        exact fun heq => hne (Option.some.inj heq)
      refine h.delete hstore hfree rfl hothers fun id hid => ?_
      rcases List.mem_cons.1 hid with rfl | hid
      · simp [hk]
      · exact h.owed id hid
  | reading key =>
      -- the record that was claimed is still there
      obtain ⟨-, mail, hheld⟩ := h.tracked hsound
      obtain ⟨records, hread, hsame⟩ := hstore.read hheld
      simp only [MailQueue.proceed, hread]
      exact h.of_same rfl hsame (fun other hmem => .inl (hothers other hmem).1) fun _ hid => hid
  | refused key transient => exact hsound.elim
  | settingAside key => exact hsound.elim
  | finishing key =>
      have hgone : shared.queue.tracking.key? key.id = none := hsound
      exact h.delete hstore (by simp [hgone]) rfl hothers h.owed

/-- A move leaves a sound queue, as long as no two calls are under way for one mail. -/
theorem Sound.move (h : Sound holds shared) (hcalm : shared.Calm) (m : Move)
    (hmove : shared.move store now m = some shared') (hcalm' : shared'.Calm) :
    Sound holds shared' := by
  cases m with
  | enqueue mail delay =>
      cases hmove
      exact h.beginEnqueue hstore mail delay hcalm'
  | dequeue =>
      cases hmove
      exact h.beginDequeue now
  | settle id success =>
      simp only [SharedQueue.move] at hmove
      split at hmove
      · cases hmove
        refine Sound.beginSettle ?_ id success hcalm' ?_
        · refine h.of_same rfl rfl (fun _ hcall => .inl hcall) fun k hk => ?_
          cases success with
          | false => exact hk
          | true => exact (List.mem_filter.1 hk).1
        · rintro rfl
          simp
      · cases hmove
  | flush =>
      cases hmove
      exact h.of_same (Tracking.key?_flush _) rfl (fun _ hcall => .inl hcall) fun _ hid => hid
  | close =>
      cases hmove
      exact h.of_same (Tracking.key?_close _) rfl (fun _ hcall => .inl hcall) fun _ hid => hid
  | proceed place =>
      obtain ⟨call, hcall, rfl⟩ := Option.map_eq_some_iff.1 hmove
      exact h.proceed hstore (List.mem_of_getElem? hcall) (hcalm.others hcall)
  | cancel place =>
      obtain ⟨call, -, hcancel⟩ := Option.bind_eq_some_iff.1 hmove
      obtain ⟨queue, habandon, rfl⟩ := Option.map_eq_some_iff.1 hcancel
      obtain ⟨hkey, hrecords⟩ := MailQueue.key?_abandon habandon
      refine h.of_same hkey (congrArg holds hrecords) (fun call hcall => .inl ?_) fun _ hid => hid
      exact List.mem_of_mem_eraseIdx hcall

/-- As long as no two calls are under way for one mail, every mail that was stored since a lease of
it ended with success is tracked, and has its record, whatever the order of the steps. -/
theorem Reached.keeps_owed (hstart : Sound holds start) (hcalm : start.Calm)
    (h : Reached store Calm start shared) :
    ∀ id ∈ shared.owed, ∃ key mail, shared.queue.tracking.key? id = some key ∧
      holds shared.queue.records key = some (.ok mail) := by
  have hsound : Sound holds shared ∧ shared.Calm := by
    induction h with
    | start => exact ⟨hstart, hcalm⟩
    | next now m _ hmove hallowed ih => exact ⟨ih.1.move hstore ih.2 m hmove hallowed, hallowed⟩
  intro id hid
  obtain ⟨key, hkey⟩ := Option.ne_none_iff_exists'.1 (hsound.1.owed id hid)
  obtain ⟨-, mail, hheld⟩ := hsound.1.tracked hkey
  exact ⟨key, mail, hkey, hheld⟩

end Storing

theorem Reached.moveAll {moves : List (Instant × Move)}
    (h : Reached store (fun _ => True) start shared)
    (hmoves : shared.moveAll store moves = some shared') :
    Reached store (fun _ => True) start shared' := by
  induction moves generalizing shared with
  | nil =>
      cases hmoves
      exact h
  | cons first rest ih =>
      obtain ⟨now, m⟩ := first
      obtain ⟨between, hmove, hrest⟩ := Option.bind_eq_some_iff.1 hmoves
      exact ih (h.next now m hmove trivial) hrest

end SharedQueue

namespace SharedQueue.Sample

def mail (number : Nat) : Mail :=
  .create (.make .epoch number) .epoch none ∅ .empty

/-- Two mails are stored. A consumer claims the first one, and before it reads the record, the mail
is stored again at a later time, which deletes that record. The consumer drops the mail and leases
the other one. -/
def overlap : List (Instant × Move) := [
  (.epoch, .enqueue (mail 1) 0), (.epoch, .proceed 0),
  (.epoch, .enqueue (mail 2) 0), (.epoch, .proceed 0),
  (.ofMillis 5, .dequeue),
  (.ofMillis 5, .enqueue (mail 1) 0), (.ofMillis 5, .proceed 1), (.ofMillis 5, .proceed 1),
  (.ofMillis 5, .proceed 0), (.ofMillis 5, .proceed 0), (.ofMillis 5, .proceed 0),
  (.ofMillis 5, .dequeue), (.ofMillis 5, .proceed 0)]

def vacant : SharedQueue Memory where
  queue := ⟨.empty, .empty none⟩

/-- Whether no call is under way and a mail is owed that is not tracked. -/
def orphans (id : MailId) (shared : SharedQueue Memory) : Bool :=
  shared.calls.isEmpty && decide (id ∈ shared.owed) &&
    decide (shared.queue.tracking.key? id = none)

/-- If calls for one mail overlap, a mail that was stored, and of which no lease has ended with
success, may not be tracked any more when all calls have come to their ends. -/
theorem reached_orphan : ∃ shared, Reached Memory.store (fun _ => True) vacant shared ∧
    shared.calls = [] ∧ ∃ id ∈ shared.owed, shared.queue.tracking.key? id = none := by
  have horphan : (vacant.moveAll Memory.store overlap).any (orphans (mail 1).id) = true := by
    decide +kernel
  obtain ⟨shared, hmoves, horphan⟩ := (Option.any_eq_true _ _).1 horphan
  simp only [orphans, Bool.and_eq_true, List.isEmpty_iff, decide_eq_true_eq] at horphan
  exact ⟨shared, Reached.start.moveAll hmoves, horphan.1.1, _, horphan.1.2, horphan.2⟩

end SharedQueue.Sample

end Postroom
