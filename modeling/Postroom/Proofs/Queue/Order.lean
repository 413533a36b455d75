import Postroom.Proofs.Queue.Census
import Postroom.Proofs.Queue.Recovery

/-!
The queues that there can be: those that were opened over some store, after any calls, with records
that others may have changed or damaged meanwhile. Nothing is asked of the store. Whatever it
answers, what is tracked is in order, and every mail is tracked under a key of its own.
-/

namespace Postroom

namespace MailQueue

variable {σ : Type} {store : RecordStore σ} {queue : MailQueue σ}

/-- What a queue can come to be. -/
inductive Possible (store : RecordStore σ) : MailQueue σ → Prop where
  | opened {now : Instant} {records records' : σ} {tracking : Tracking} :
      recoverFrom store now records = (.ok tracking, records') → Possible store ⟨tracking, records'⟩
  | performed {queue : MailQueue σ} (step : QueueStep) :
      Possible store queue → Possible store (queue.perform store step).2
  | changed {queue : MailQueue σ} (records : σ) :
      Possible store queue → Possible store { queue with records }

/-- What is tracked is in order, each mail under a key of its own. -/
structure InOrder (queue : MailQueue σ) : Prop where
  orderly : queue.tracking.Orderly
  owns : queue.OwnsKeys

theorem InOrder.of_key? (h : queue.InOrder) {tracking : Tracking} {records : σ}
    (horderly : tracking.Orderly) (hkey : tracking.key? = queue.tracking.key?) :
    InOrder ⟨tracking, records⟩ :=
  ⟨horderly, fun id key hid => h.owns id key (hkey ▸ hid)⟩

theorem newest_mem (store : RecordStore σ) (keys : List RecordKey)
    (best : Option (Instant × RecordKey))
    (records : σ) {time : Instant} {key : RecordKey}
    (h : (newest store keys best records).1 = some (time, key)) :
    key ∈ keys ∨ best = some (time, key) := by
  induction keys generalizing best records with
  | nil => exact .inr h
  | cons first rest ih =>
      rw [newest] at h
      rcases ih _ _ h with hrest | hbest
      · exact .inl (List.mem_cons_of_mem _ hrest)
      · unfold newer at hbest
        split at hbest
        · exact .inr hbest
        · split at hbest
          · cases hbest
            exact .inl (List.mem_cons_self ..)
          · split at hbest
            · cases hbest
              exact .inl (List.mem_cons_self ..)
            · exact .inr hbest

/-- The record that is settled on is one of the candidates. -/
theorem keepLatest_mem (store : RecordStore σ) {candidates : List RecordKey} {records : σ}
    {key : RecordKey} (h : (keepLatest store candidates records).1 = some key) :
    key ∈ candidates := by
  unfold keepLatest at h
  split at h
  · cases h
  · cases h
    exact List.mem_singleton.2 rfl
  · rename_i hmany _
    dsimp only at h
    split at h
    · rename_i time found hfound
      cases h
      rcases newest_mem store _ _ _ hfound with hmem | hnone
      · exact hmem
      · cases hnone
    · obtain ⟨last, hlast, heq⟩ := lastKey_mem hmany
      rw [heq] at h
      cases h
      exact hlast

theorem keepLatestOfEach_mem (store : RecordStore σ) {groups : List (List RecordKey)} {records : σ}
    {key : RecordKey} (h : key ∈ (keepLatestOfEach store groups records).1) :
    ∃ candidates ∈ groups, key ∈ candidates := by
  induction groups generalizing records with
  | nil => cases h
  | cons candidates rest ih =>
      rw [keepLatestOfEach] at h
      rcases List.mem_append.1 h with hkept | hothers
      · exact ⟨candidates, List.mem_cons_self .., keepLatest_mem store (Option.mem_toList.1 hkept)⟩
      · obtain ⟨group, hgroup, hkey⟩ := ih hothers
        exact ⟨group, List.mem_cons_of_mem _ hgroup, hkey⟩

/-- Mails that are tracked one after the other are in order, each under its key. -/
theorem orderly_foldl_track (keys : List RecordKey) (now : Instant) {t : Tracking} (h : t.Orderly) :
    (keys.foldl (fun t key => t.track key key.time now) t).Orderly ∧
      ∀ id key, (keys.foldl (fun t key => t.track key key.time now) t).key? id = some key →
        (key ∈ keys ∧ key.id = id) ∨ t.key? id = some key := by
  induction keys generalizing t with
  | nil => exact ⟨h, fun id key hkey => .inr hkey⟩
  | cons first keys ih =>
      obtain ⟨horderly, htracked⟩ :=
        ih (h.schedule_assign first.id ⟨first, 0, .ready⟩ first.time now)
      refine ⟨horderly, fun id key hkey => ?_⟩
      rcases htracked id key hkey with ⟨hmem, hid⟩ | hbefore
      · exact .inl ⟨List.mem_cons_of_mem _ hmem, hid⟩
      · have hfirst : (t.track first first.time now).key? id = some key := hbefore
        rw [Tracking.key?_track] at hfirst
        split at hfirst
        · rename_i hid
          cases hfirst
          exact .inl ⟨List.mem_cons_self .., hid.symm⟩
        · exact .inr hfirst

/-- A queue that is opened tracks records that its store lists, and nothing else. -/
theorem recoverFrom_listed {now : Instant} {records records' : σ} {tracking : Tracking}
    (h : recoverFrom store now records = (.ok tracking, records')) :
    tracking.Orderly ∧ ∃ keys listed, store.list records = (.ok keys, listed) ∧
      ∀ id key, tracking.key? id = some key → key ∈ keys ∧ key.id = id := by
  unfold recoverFrom at h
  rcases hlist : store.list records with ⟨e | keys, listed⟩
  · rw [hlist] at h
    cases h
  · rw [hlist] at h
    cases h
    obtain ⟨horderly, htracked⟩ := orderly_foldl_track
      (Std.ExtTreeSet.ofList (keepLatestOfEach store (groupById keys) listed).1).toList
      now orderly_empty
    refine ⟨horderly, keys, listed, rfl, fun id key hkey => ?_⟩
    rcases htracked id key hkey with ⟨hmem, hid⟩ | hnone
    · have hkept : key ∈ (keepLatestOfEach store (groupById keys) listed).1 := by simpa using hmem
      obtain ⟨candidates, hgroup, hcandidate⟩ := keepLatestOfEach_mem store hkept
      obtain ⟨other, -, rfl⟩ := List.mem_map.1 hgroup
      exact ⟨(List.mem_filter.1 hcandidate).1, hid⟩
    · simp [Tracking.key?, Tracking.empty] at hnone

theorem InOrder.promoteDue (h : queue.InOrder) (now : Instant) :
    InOrder { queue with tracking := queue.tracking.promoteDue now } :=
  h.of_key? (Tracking.plain_promoteDue h.orderly now).2 (Tracking.key?_promoteDue ..)

theorem InOrder.release (h : queue.InOrder) (id : MailId) (now : Instant) :
    InOrder (queue.rollBack id now) :=
  h.of_key? (Tracking.plain_release h.orderly id now).2 (Tracking.key?_release ..)

theorem InOrder.forget (h : queue.InOrder) {id : MailId} {requeued : Option Instant}
    (hlease : queue.tracking.leaseOf? id = some requeued) (records : σ) :
    InOrder ⟨queue.tracking.forget id, records⟩ := by
  refine ⟨(Tracking.plain_forget h.orderly hlease).2, fun other key hkey => ?_⟩
  rw [Tracking.key?_forget] at hkey
  split at hkey
  · cases hkey
  · exact h.owns other key hkey

/-- What a claim does: the first visible mail is leased under its own key. -/
theorem InOrder.claims (h : queue.InOrder) {key : RecordKey} {tracking : Tracking}
    (hclaim : queue.tracking.claim = some (key, tracking)) :
    ∃ rest, queue.tracking.plain.visible = key.id :: rest ∧ queue.tracking.key? key.id = some key ∧
      tracking.key? = queue.tracking.key? ∧ tracking.plain = { queue.tracking.plain with
        visible := rest
        leased := queue.tracking.plain.leased.insert key.id none } ∧
      key.id ∉ queue.tracking.plain.leased ∧ tracking.Orderly := by
  rcases Tracking.plain_claim h.orderly with ⟨hnone, -⟩ |
    ⟨id, rest, k, t', hvisible, hkey, hsome, hsame, hplain, horderly⟩
  · rw [hclaim] at hnone
    cases hnone
  · rw [hclaim] at hsome
    cases hsome
    obtain rfl := h.owns id key hkey
    refine ⟨rest, hvisible, hkey, hsame, hplain, ?_, horderly⟩
    refine Tracking.not_leased_of_standing (List.mem_append_left _ ?_)
    rw [hvisible]
    exact List.mem_cons_self ..

theorem InOrder.claim (h : queue.InOrder) {key : RecordKey} {tracking : Tracking}
    (hclaim : queue.tracking.claim = some (key, tracking)) (records : σ) :
    InOrder ⟨tracking, records⟩ ∧ tracking.leaseOf? key.id = some none := by
  obtain ⟨rest, -, -, hsame, hplain, -, horderly⟩ := h.claims hclaim
  refine ⟨h.of_key? horderly hsame, ?_⟩
  rw [← Tracking.leased_plain, hplain]
  simp

theorem InOrder.leaseNext (h : queue.InOrder) (store : RecordStore σ) (now : Instant) :
    InOrder (queue.leaseNext store now).2 := by
  induction queue using leaseNext.induct store with
  | case1 queue hclaim =>
      rw [leaseNext_of_none hclaim]
      exact h
  | case2 queue key tracking hclaim mail records hread =>
      rw [leaseNext_of_some hclaim, hread]
      exact (h.claim hclaim records).1
  | case3 queue key tracking hclaim e records hread htransient =>
      rw [leaseNext_of_some hclaim, hread]
      dsimp only
      rw [if_pos htransient]
      exact (h.claim hclaim records).1.release key.id now
  | case4 queue key tracking hclaim e records hread hlost ih =>
      rw [leaseNext_of_some hclaim, hread]
      dsimp only
      rw [if_neg hlost]
      obtain ⟨hleased, hlease⟩ := h.claim hclaim records
      exact ih (hleased.forget hlease _)

theorem InOrder.enqueue (h : queue.InOrder) (store : RecordStore σ) (mail : Mail) (delay : Nat)
    (now : Instant) : InOrder (queue.enqueue store mail delay now).2 := by
  obtain ⟨-, horderly⟩ := Tracking.plain_register h.orderly
    (.scheduled mail.id (dueTime now delay)) (dueTime now delay) now
  have hregistered : ∀ records : σ, InOrder ⟨(queue.tracking.register
      (.scheduled mail.id (dueTime now delay)) (dueTime now delay) now).2, records⟩ := by
    refine fun records => ⟨horderly, fun id key hkey => ?_⟩
    rw [Tracking.key?_register] at hkey
    split at hkey
    · rename_i hid
      cases hkey
      exact hid.symm
    · exact h.owns id key hkey
  unfold MailQueue.enqueue
  dsimp only
  split
  · exact h.of_key? h.orderly rfl
  · rename_i records hwrite
    split
    · rename_i tracking hregister
      rw [hregister] at hregistered
      exact hregistered records
    · rename_i superseded tracking hregister
      rw [hregister] at hregistered
      exact hregistered _

theorem InOrder.complete (h : queue.InOrder) (store : RecordStore σ) (id : MailId) (now : Instant) :
    InOrder (queue.complete store id now).2 := by
  rcases complete_outcomes id now queue with ⟨-, hcomplete⟩ | ⟨due, hlease, hsome, hcomplete⟩ |
    ⟨hlease, key, -, hsome, hcomplete⟩
  · rw [hcomplete]
    exact h
  · rw [hcomplete]
    exact h.of_key? (Tracking.plain_acknowledge h.orderly hsome).2 (Tracking.key?_schedule ..)
  · rw [hcomplete]
    exact h.forget hlease _

/-- Every call keeps the order. -/
theorem InOrder.perform (h : queue.InOrder) (store : RecordStore σ) (step : QueueStep) :
    InOrder (queue.perform store step).2 := by
  obtain ⟨now, call⟩ := step
  cases call with
  | enqueue mail delay => exact h.enqueue store mail delay now
  | dequeue broken =>
      change InOrder (queue.dequeue (store.interrupted broken) now).2
      unfold dequeue
      split
      · exact h
      · exact (h.promoteDue now).leaseNext _ now
  | settle id success =>
      cases success with
      | true => exact h.complete store id now
      | false => exact h.release id now
  | abandon id => exact h.release id now
  | flush => exact h.of_key? (Tracking.plain_flush h.orderly).2.2 (Tracking.key?_flush _)
  | close =>
      exact h.of_key? ⟨⟨h.orderly.ready_le, h.orderly.delayed_le⟩, h.orderly.once⟩
        (Tracking.key?_close _)

/-- Whatever a queue comes to be, what it tracks is in order. -/
theorem Possible.inOrder (h : Possible store queue) : queue.InOrder := by
  induction h with
  | opened hrecover =>
      obtain ⟨horderly, keys, listed, -, htracked⟩ := recoverFrom_listed hrecover
      exact ⟨horderly, fun id key hkey => (htracked id key hkey).2⟩
  | performed step _ ih => exact ih.perform store step
  | changed records _ ih => exact ih.of_key? ih.orderly rfl

end MailQueue

end Postroom
