import Postroom.Proofs.Queue.Interleaving

/-!
Leases of a queue that is shared. A mail is leased from the claim of a dequeue until the lease is
settled or given up, and all that time exactly one client holds it: a dequeue that has claimed it,
or the handle of a lease. The argument counts. A step takes on as many holds on a mail as leases of
it begin, and lets go of as many as end, so the two counts agree wherever the steps of any calls are
interleaved. Nothing is asked of the store, which may refuse, lose or garble whatever it likes.
-/

namespace Postroom

namespace Tracking

variable {t t' : Tracking}

/-- How many leases there are of a mail: one or none. -/
def leases (t : Tracking) (id : MailId) : Nat :=
  (t.leaseOf? id).toList.length

/-- Whether every mail is tracked under a key of its own. -/
def Keyed (t : Tracking) : Prop :=
  ∀ {id key}, t.key? id = some key → key.id = id

theorem Keyed.congr (h : t.Keyed) (hkey : t'.key? = t.key?) : t'.Keyed := by
  intro id key hsome
  rw [hkey] at hsome
  exact h hsome

theorem leases_congr (h : t'.leaseOf? = t.leaseOf?) (id : MailId) : t'.leases id = t.leases id := by
  rw [leases, leases, h]

/-- To store a mail neither begins nor ends a lease of it. -/
theorem leases_register (t : Tracking) (key : RecordKey) (due now : Instant) (id : MailId) :
    (t.register key due now).2.leases id = t.leases id := by
  unfold leases
  by_cases hid : id = key.id
  · subst hid
    unfold register
    split
    · rename_i hentry
      rw [track, leaseOf?_schedule, leaseOf?_eq, hentry]
      rfl
    · rename_i entry hentry
      rw [leaseOf?_eq t, hentry, Option.bind_some]
      dsimp only
      split
      · rename_i hleased
        rw [EntryStatus.isLeased_eq, Option.isSome_iff_exists] at hleased
        obtain ⟨requeued, hleased⟩ := hleased
        rw [leaseOf?_eq, entry?_insert, if_pos rfl, Option.bind_some, hleased]
        rfl
      · rename_i hfree
        rw [EntryStatus.isLeased_eq, Bool.not_eq_true, Option.isSome_eq_false_iff,
          Option.isNone_iff_eq_none] at hfree
        rw [leaseOf?_schedule, hfree]
  · rw [leaseOf?_register_other hid]

theorem leaseOf?_track (t : Tracking) (key : RecordKey) (due now : Instant) (id : MailId) :
    (t.track key due now).leaseOf? id = if id = key.id then none else t.leaseOf? id := by
  rw [track]
  split
  · rename_i hid
    rw [hid, leaseOf?_schedule]
  · rename_i hid
    rw [leaseOf?_schedule_other hid, leaseOf?_eq, leaseOf?_eq, entry?_insert, if_neg hid]

/-- What a step does to the leases: it ends the one of the mail that is let go, if there is one, and
begins one of the mail that is taken on. -/
structure Passes (released : Option MailId) (before after : Tracking) (taken : Option MailId) :
    Prop where
  keyed : before.Keyed → after.Keyed
  leases : ∀ id, after.leases id + released.toList.count id = before.leases id +
    taken.toList.count id

/-- A step that begins no lease and ends none. -/
theorem Passes.of_same (hkey : t'.key? = t.key?) (hlease : t'.leaseOf? = t.leaseOf?)
    (held : Option MailId) : Passes held t t' held where
  keyed h := h.congr hkey
  leases id := by rw [leases_congr hlease]

/-- A step that ends the lease of a mail. -/
theorem Passes.of_end {id : MailId} (hleased : t.leaseOf? id ≠ none)
    (hkeyed : t.Keyed → t'.Keyed) (hown : t'.leaseOf? id = none)
    (hother : ∀ k, k ≠ id → t'.leaseOf? k = t.leaseOf? k) : Passes (some id) t t' none where
  keyed := hkeyed
  leases k := by
    obtain ⟨requeued, hsome⟩ := Option.ne_none_iff_exists'.1 hleased
    by_cases hk : k = id
    · subst hk
      simp [Tracking.leases, hown, hsome]
    · have hne : id ≠ k := fun heq => hk heq.symm
      simp [Tracking.leases, hother k hk, hne]

theorem passes_release {id : MailId} (hleased : t.leaseOf? id ≠ none) (now : Instant) :
    Passes (some id) t (t.release id now) none :=
  .of_end hleased (·.congr (key?_release ..)) (leaseOf?_release ..) fun _ hk =>
    leaseOf?_release_other hk ..

theorem passes_forget {id : MailId} (hleased : t.leaseOf? id ≠ none) :
    Passes (some id) t (t.forget id) none := by
  refine .of_end hleased (fun hkeyed k key hkey => ?_) (leaseOf?_forget ..) fun _ hk =>
    leaseOf?_forget_other hk _
  rw [key?_forget] at hkey
  split at hkey
  · cases hkey
  · exact hkeyed hkey

/-- A successful end of a lease finds the lease and ends it, whether the mail goes or stays. -/
theorem passes_acknowledge {id : MailId} (hleased : t.leaseOf? id ≠ none) (now : Instant) :
    ∃ finished after, t.acknowledge id now = some (finished, after) ∧
      Passes (some id) t after none := by
  obtain ⟨hnone, -⟩ | ⟨due, -, hsome⟩ | ⟨-, key, -, hsome⟩ := t.acknowledge_cases id now
  · exact absurd hnone hleased
  · exact ⟨none, _, hsome, .of_end hleased (·.congr (key?_schedule ..)) (leaseOf?_schedule ..)
      fun _ hk => leaseOf?_schedule_other hk ..⟩
  · exact ⟨some key, _, hsome, passes_forget hleased⟩

/-- To claim a mail begins a lease of it, and there was none: a position of a leased mail is stale,
also if its generation is the right one. -/
theorem passes_claim (hkeyed : t.Keyed) {key : RecordKey} (h : t.claim = some (key, t')) :
    Passes none t t' (some key.id) := by
  refine ⟨fun hkeyed => hkeyed.congr (key?_claim h).1, fun id => ?_⟩
  obtain ⟨hnone, -⟩ | ⟨stale, position, rest, entry, -, -, hcurrent, hentry, hclaim⟩ :=
    t.claim_cases
  · rw [hnone] at h
    cases h
  · rw [hclaim] at h
    cases h
    have hid : entry.key.id = position.id := hkeyed (key?_eq_some_iff.2 ⟨entry, hentry, rfl⟩)
    obtain ⟨found, hfound, -, hfree⟩ := isCurrent_iff.1 hcurrent
    rw [hentry] at hfound
    cases hfound
    have hlease : t.leaseOf? position.id = none := by
      rw [leaseOf?_eq, hentry, Option.bind_some]
      simpa [EntryStatus.isLeased_eq] using hfree
    unfold leases
    rw [leaseOf?_eq, entry?_insert, hid]
    by_cases hk : id = position.id
    · subst hk
      simp [hlease, EntryStatus.lease?]
    · have hne : position.id ≠ id := fun heq => hk heq.symm
      simp [leaseOf?_eq, hk, hne]

end Tracking

/-- The mail that a call holds: the one that a dequeue has claimed and neither leased nor given
up. -/
def OpenCall.held? : OpenCall → Option MailId
  | reading key => some key.id
  | refused key _ => some key.id
  | _ => none

/-- The mail that a call holds after a step, or whose lease it has handed out. -/
def Progress.held? : Progress → Option MailId
  | suspended call => call.held?
  | leased id => some id
  | _ => none

namespace MailQueue

open Tracking (Passes)

variable {σ : Type} (store : RecordStore σ) (now : Instant) (queue : MailQueue σ)

theorem passes_beginEnqueue (mail : Mail) (delay : Nat) :
    Passes none queue.tracking (queue.beginEnqueue store mail delay now).2.tracking
      (queue.beginEnqueue store mail delay now).1.held? := by
  unfold beginEnqueue
  dsimp only
  split
  · exact .of_same rfl rfl none
  · exact .of_same rfl rfl none

theorem passes_beginDequeue (hkeyed : queue.tracking.Keyed) :
    Passes none queue.tracking (queue.beginDequeue now).2.tracking
      (queue.beginDequeue now).1.held? := by
  have hkey := Tracking.key?_promoteDue queue.tracking now
  have hlease := Tracking.leaseOf?_promoteDue queue.tracking now
  unfold beginDequeue
  split
  · exact .of_same rfl rfl none
  · dsimp only
    split
    · exact .of_same hkey hlease none
    · rename_i key tracking hclaim
      have hclaimed := Tracking.passes_claim (hkeyed.congr hkey) hclaim
      refine ⟨fun hkeyed => hclaimed.keyed (hkeyed.congr hkey), fun id => ?_⟩
      rw [← Tracking.leases_congr hlease]
      exact hclaimed.leases id

/-- To settle a lease ends it. -/
theorem passes_beginSettle {id : MailId} (hleased : queue.tracking.leaseOf? id ≠ none)
    (success : Bool) : Passes (some id) queue.tracking (queue.beginSettle id success now).2.tracking
      (queue.beginSettle id success now).1.held? := by
  unfold beginSettle
  cases success with
  | false => exact Tracking.passes_release hleased now
  | true =>
      obtain ⟨finished, tracking, hacknowledge, hpasses⟩ := Tracking.passes_acknowledge hleased now
      rw [hacknowledge]
      cases finished with
      | none => exact hpasses
      | some key => exact hpasses

/-- The next step of a call lets go of the mail that it holds, or hands out the lease of it, or
holds it on. -/
theorem passes_proceed {call : OpenCall}
    (hleased : ∀ id, call.held? = some id → queue.tracking.leaseOf? id ≠ none) :
    Passes call.held? queue.tracking (queue.proceed store now call).2.tracking
      (queue.proceed store now call).1.held? := by
  cases call with
  | registering mail due begun =>
      have hpasses : Passes none queue.tracking
          (queue.tracking.register (.scheduled mail.id due) due begun).2 none := by
        refine ⟨fun hkeyed id key hkey => ?_, fun id => ?_⟩
        · rw [Tracking.key?_register] at hkey
          split at hkey
          · rename_i hid
            cases hkey
            exact hid.symm
          · exact hkeyed hkey
        · rw [Tracking.leases_register]
      simp only [proceed]
      split
      · rename_i tracking hregister
        rwa [hregister] at hpasses
      · rename_i old tracking hregister
        rwa [hregister] at hpasses
  | superseding id key => exact .of_same rfl rfl none
  | reading key =>
      simp only [proceed]
      rcases store.read key queue.records with ⟨e | mail, records⟩
      · exact .of_same rfl rfl (some key.id)
      · exact .of_same rfl rfl (some key.id)
  | refused key transient =>
      have hown := hleased key.id rfl
      cases transient with
      | true => exact Tracking.passes_release hown now
      | false => exact Tracking.passes_forget hown
  | settingAside key => exact .of_same rfl rfl none
  | finishing key => exact .of_same rfl rfl none

/-- To abandon a call lets go of the mail that it holds. -/
theorem passes_abandon {queue' : MailQueue σ} {call : OpenCall}
    (hleased : ∀ id, call.held? = some id → queue.tracking.leaseOf? id ≠ none)
    (h : queue.abandon now call = some queue') :
    Passes call.held? queue.tracking queue'.tracking none := by
  cases call with
  | reading key =>
      cases h
      exact Tracking.passes_release (hleased key.id rfl) now
  | refused key transient => cases h
  | _ =>
      cases h
      exact .of_same rfl rfl none

/-- After a recovery every mail is tracked under a key of its own and none is leased, whatever
records were kept. -/
theorem recover_unleased (keys : List RecordKey) (now : Instant) :
    (recover keys now).Keyed ∧ ∀ id, (recover keys now).leaseOf? id = none := by
  have hfold : ∀ (keys : List RecordKey) (t : Tracking), t.Keyed → (∀ id, t.leaseOf? id = none) →
      (keys.foldl (fun t key => t.track key key.time now) t).Keyed ∧
        ∀ id, (keys.foldl (fun t key => t.track key key.time now) t).leaseOf? id = none := by
    intro keys
    induction keys with
    | nil => exact fun t hkeyed hfree => ⟨hkeyed, hfree⟩
    | cons key keys ih =>
        intro t hkeyed hfree
        refine ih (t.track key key.time now) (fun {id k} hkey => ?_) fun id => ?_
        · rw [Tracking.key?_track] at hkey
          split at hkey
          · rename_i hid
            cases hkey
            exact hid.symm
          · exact hkeyed hkey
        · rw [Tracking.leaseOf?_track, hfree, ite_self]
  refine hfold _ .empty (fun {id key} hkey => ?_) fun id => ?_
  · simp [Tracking.key?, Tracking.empty] at hkey
  · simp [Tracking.leaseOf?_eq, Tracking.empty]

end MailQueue

namespace SharedQueue

open Tracking (Passes)

variable {σ : Type} {store : RecordStore σ} {now : Instant} {start shared shared' : SharedQueue σ}

/-- The mails that clients hold, each as often as it is held: by the handle of a lease, or by a
dequeue that has claimed it. -/
def holders (shared : SharedQueue σ) : List MailId :=
  shared.handles ++ shared.calls.filterMap OpenCall.held?

/-- Every mail is held as often as it is leased. -/
structure Exclusive (shared : SharedQueue σ) : Prop where
  keyed : shared.queue.tracking.Keyed
  held : ∀ id, shared.holders.count id = shared.queue.tracking.leases id

theorem Exclusive.leased (h : shared.Exclusive) {id : MailId} (hid : id ∈ shared.holders) :
    shared.queue.tracking.leaseOf? id ≠ none := by
  intro hnone
  have hcount := h.held id
  rw [Tracking.leases, hnone] at hcount
  exact List.count_eq_zero.1 hcount hid

/-- A step keeps the leases exclusive if the clients let go of the mail whose lease it ends, and
hold the one whose lease it begins. -/
theorem Exclusive.of_passes (h : shared.Exclusive) {released taken : Option MailId}
    (hpasses : Passes released shared.queue.tracking shared'.queue.tracking taken)
    (hheld : ∀ id, shared'.holders.count id + released.toList.count id =
      shared.holders.count id + taken.toList.count id) : shared'.Exclusive where
  keyed := hpasses.keyed h.keyed
  held id := by
    have hleases := hpasses.leases id
    have hcount := hheld id
    rw [h.held id] at hcount
    omega

/-- What a call has come to is held besides what the others hold. -/
theorem count_holders_after (others : SharedQueue σ) (outcome : Progress × MailQueue σ)
    (id : MailId) :
    (others.after outcome).holders.count id =
      others.holders.count id + outcome.1.held?.toList.count id := by
  obtain ⟨progress, queue⟩ := outcome
  cases progress with
  | suspended call =>
      have hcall : ([call].filterMap OpenCall.held?) = call.held?.toList := by
        cases hheld : call.held? <;> simp [hheld]
      simp only [after, holders, Progress.held?, List.filterMap_append, hcall, List.count_append]
      omega
  | stored id => rfl
  | leased own =>
      simp only [after, holders, Progress.held?, List.count_append, List.count_cons,
        Option.toList_some, List.count_nil]
      omega
  | ended => rfl

theorem queue_after (others : SharedQueue σ) (outcome : Progress × MailQueue σ) :
    (others.after outcome).queue = outcome.2 := by
  obtain ⟨progress, queue⟩ := outcome
  cases progress <;> rfl

/-- The step of one client, whom the others leave the mail that it lets go. -/
theorem Exclusive.after (h : shared.Exclusive) {others : SharedQueue σ} {released : Option MailId}
    {outcome : Progress × MailQueue σ}
    (hpasses : Passes released shared.queue.tracking outcome.2.tracking outcome.1.held?)
    (hothers : ∀ id, others.holders.count id + released.toList.count id = shared.holders.count id) :
    (others.after outcome).Exclusive := by
  rw [← queue_after others outcome] at hpasses
  refine h.of_passes hpasses fun id => ?_
  have hcount := hothers id
  have hafter := count_holders_after others outcome id
  omega

/-- What the others hold if the handle of a lease is taken away. -/
theorem count_holders_erase {id : MailId} (hid : id ∈ shared.handles) (owed : List MailId)
    (k : MailId) :
    ({ shared with handles := shared.handles.erase id, owed } : SharedQueue σ).holders.count k +
      (some id).toList.count k = shared.holders.count k := by
  have hcount := (List.perm_cons_erase hid).count_eq k
  rw [List.count_cons] at hcount
  simp only [holders, List.count_append, Option.toList_some, List.count_cons, List.count_nil]
  omega

/-- What the others hold if a call is taken away. -/
theorem count_holders_eraseIdx {place : Nat} {call : OpenCall}
    (hcall : shared.calls[place]? = some call) (queue : MailQueue σ) (id : MailId) :
    ({ shared with queue, calls := shared.calls.eraseIdx place } : SharedQueue σ).holders.count id +
      call.held?.toList.count id = shared.holders.count id := by
  obtain ⟨hplace, rfl⟩ := List.getElem?_eq_some_iff.1 hcall
  have hcount := ((List.getElem_cons_eraseIdx_perm hplace).filterMap OpenCall.held?).count_eq id
  rw [List.filterMap_cons] at hcount
  simp only [holders, List.count_append]
  cases hheld : shared.calls[place].held? with
  | none =>
      simp only [hheld] at hcount
      rw [Option.toList_none, List.count_nil]
      omega
  | some own =>
      simp only [hheld, List.count_cons] at hcount
      rw [Option.toList_some, List.count_cons, List.count_nil]
      omega

/-- A call that holds a mail is one of those that do. -/
theorem mem_holders_of_call {call : OpenCall} (hcall : call ∈ shared.calls) {id : MailId}
    (hheld : call.held? = some id) : id ∈ shared.holders :=
  List.mem_append_right _ (List.mem_filterMap.2 ⟨call, hcall, hheld⟩)

/-- Every move of every client keeps the leases exclusive. -/
theorem Exclusive.move (h : shared.Exclusive) (m : Move)
    (hmove : shared.move store now m = some shared') : shared'.Exclusive := by
  cases m with
  | enqueue mail delay =>
      cases hmove
      exact h.after (shared.queue.passes_beginEnqueue store now mail delay) fun _ => rfl
  | dequeue =>
      cases hmove
      exact h.after (shared.queue.passes_beginDequeue now h.keyed) fun _ => rfl
  | settle id success =>
      simp only [SharedQueue.move] at hmove
      split at hmove
      · rename_i hid
        cases hmove
        have hleased := h.leased (List.mem_append_left _ hid)
        exact h.after (shared.queue.passes_beginSettle now hleased success)
          (count_holders_erase hid _)
      · cases hmove
  | flush =>
      cases hmove
      exact h.of_passes (.of_same (Tracking.key?_flush _) (Tracking.leaseOf?_flush _) none) fun _ =>
        rfl
  | close =>
      cases hmove
      exact ⟨h.keyed, h.held⟩
  | proceed place =>
      obtain ⟨call, hcall, rfl⟩ := Option.map_eq_some_iff.1 hmove
      have hmem := List.mem_of_getElem? hcall
      exact h.after (shared.queue.passes_proceed store now fun id hheld =>
        h.leased (mem_holders_of_call hmem hheld)) (count_holders_eraseIdx hcall _)
  | cancel place =>
      obtain ⟨call, hcall, hcancel⟩ := Option.bind_eq_some_iff.1 hmove
      obtain ⟨queue, habandon, rfl⟩ := Option.map_eq_some_iff.1 hcancel
      have hmem := List.mem_of_getElem? hcall
      exact h.of_passes (shared.queue.passes_abandon now
        (fun id hheld => h.leased (mem_holders_of_call hmem hheld)) habandon)
        (count_holders_eraseIdx hcall queue)

theorem Reached.exclusive (hstart : start.Exclusive)
    (h : Reached store (fun _ => True) start shared) : shared.Exclusive := by
  induction h with
  | start => exact hstart
  | next now m _ hmove _ ih => exact ih.move m hmove

/-- A queue that was opened has no leases, and nobody holds any. -/
theorem exclusive_of_open {records records' : σ} {tracking : Tracking}
    (hopen : MailQueue.recoverFrom store now records = (.ok tracking, records')) :
    ({ queue := ⟨tracking, records'⟩ } : SharedQueue σ).Exclusive := by
  unfold MailQueue.recoverFrom at hopen
  split at hopen
  · cases hopen
  · cases hopen
    obtain ⟨hkeyed, hfree⟩ := MailQueue.recover_unleased
      (MailQueue.keepLatestOfEach store (MailQueue.groupById _) _).1 now
    refine ⟨hkeyed, fun id => ?_⟩
    simp [holders, Tracking.leases, hfree]

/-- Of a queue that is opened over any store and shared by any clients, in any order of their steps:
no mail is held twice, be it by a handle or by a dequeue in the middle of its read; the mails that
are leased are those that are held; and whoever settles a lease with success finds it. -/
theorem Reached.leases_exclusively {records records' : σ} {tracking : Tracking}
    (hopen : MailQueue.recoverFrom store now records = (.ok tracking, records'))
    (h : Reached store (fun _ => True) { queue := ⟨tracking, records'⟩ } shared) :
    shared.holders.Nodup ∧
      (∀ id, (∃ entry, shared.queue.tracking.entries[id]? = some entry ∧
        entry.status.isLeased = true) ↔ id ∈ shared.holders) ∧
      ∀ id ∈ shared.handles, ∀ later, shared.queue.tracking.acknowledge id later ≠ none := by
  have hexclusive := h.exclusive (exclusive_of_open hopen)
  refine ⟨?_, fun id => ?_, fun id hid later => ?_⟩
  · refine List.nodup_iff_count_le_one.2 fun id => ?_
    rw [hexclusive.held id, Tracking.leases]
    cases shared.queue.tracking.leaseOf? id <;> simp
  · rw [← List.count_pos_iff, hexclusive.held id, Tracking.leases, Tracking.leaseOf?_eq]
    cases hentry : shared.queue.tracking.entries[id]? with
    | none => simp
    | some entry => cases hlease : entry.status.lease? <;> simp [EntryStatus.isLeased_eq, hlease]
  · obtain ⟨finished, after, hacknowledge, -⟩ :=
      Tracking.passes_acknowledge (hexclusive.leased (List.mem_append_left _ hid)) later
    rw [hacknowledge]
    exact Option.some_ne_none _

end SharedQueue

namespace SharedQueue.Sample

/-- Two consumers and two mails. The first mail is stored again while a consumer reads it, and the
read fails for good, so the mail is dropped; the other consumer leases the second mail, which is
stored again as well, and then cannot be claimed until its lease is settled. -/
def contention : List (Instant × Move) :=
  overlap ++ [
    (.ofMillis 6, .enqueue (mail 2) 0), (.ofMillis 6, .proceed 0), (.ofMillis 6, .proceed 0),
    (.ofMillis 6, .dequeue), (.ofMillis 6, .flush)]

theorem leases_exclusively_of_contention :
    MailQueue.recoverFrom Memory.store .epoch (.empty none) = (.ok .empty, .empty none) ∧
      ∃ shared, Reached Memory.store (fun _ => True) vacant shared ∧
        shared.holders = [(mail 2).id] ∧ shared.holders.Nodup ∧
        ∀ later, shared.queue.tracking.acknowledge (mail 2).id later ≠ none := by
  have hopen : MailQueue.recoverFrom Memory.store .epoch (.empty none) =
      (.ok .empty, .empty none) := by rfl
  have hheld : (vacant.moveAll Memory.store contention).any
      (fun shared => shared.handles == [(mail 2).id] && shared.calls.isEmpty) = true := by
    decide +kernel
  obtain ⟨shared, hmoves, hheld⟩ := (Option.any_eq_true _ _).1 hheld
  simp only [Bool.and_eq_true, beq_iff_eq, List.isEmpty_iff] at hheld
  obtain ⟨hhandles, hcalls⟩ := hheld
  have hreached : Reached Memory.store (fun _ => True) vacant shared := Reached.start.moveAll hmoves
  have hexclusive := Reached.leases_exclusively hopen hreached
  refine ⟨hopen, shared, hreached, ?_, hexclusive.1, hexclusive.2.2 _ ?_⟩
  · simp [holders, hhandles, hcalls]
  · simp [hhandles]

end SharedQueue.Sample

end Postroom
