import Postroom.Proofs.Queue.Unreadable

/-!
What becomes of the visible mails while the records of some of them cannot be read for the time
being. A call for a lease that meets such a record puts the mail back to the front and fails, so the
next call meets the same record again. The mails behind it wait, whether or not they can be read,
until that record can: calls one after the other answer with a lease if and only if the first mail
in front can be read, where those do not count whose records are lost for good.
-/

namespace Postroom

namespace MailQueue

variable {σ : Type} {store : RecordStore σ} {sound : σ → Prop} {queue : MailQueue σ}

/-- Call for leases one after the other, at the times that the clock shows then. -/
def dequeueAll (store : RecordStore σ) :
    List Instant → MailQueue σ → List (Except QueueError (Option Mail)) × MailQueue σ
  | [], queue => ([], queue)
  | now :: times, queue =>
      let (result, queue) := queue.dequeue store now
      let (results, queue) := dequeueAll store times queue
      (result :: results, queue)

/-- A queue whose first visible mail cannot be read at present. -/
structure Stuck (store : RecordStore σ) (key : RecordKey) (e : QueueError) (behind : List MailId)
    (queue : MailQueue σ) : Prop where
  inOrder : queue.InOrder
  isOpen : queue.tracking.closed = false
  visible : queue.tracking.plain.visible = key.id :: behind
  tracked : queue.tracking.key? key.id = some key
  failing : (store.read key queue.records).1 = .error e

/-- A queue is stuck once its first visible mail was put back. -/
theorem InOrder.stuck {after : MailQueue σ} (h : after.InOrder)
    (hopen : after.tracking.closed = false)
    {key : RecordKey} {behind : List MailId} {e : QueueError} {tracking : Tracking}
    (hfront : after.tracking.plain.visible = key.id :: behind)
    (hkey : after.tracking.key? key.id = some key)
    (hread : (store.read key after.records).1 = .error e)
    (hsame : tracking.key? = after.tracking.key?) (hplain : tracking.plain = after.tracking.plain)
    (horderly : tracking.Orderly) : Stuck store key e behind ⟨tracking, after.records⟩ where
  inOrder := h.of_key? horderly hsame
  isOpen := (congrArg PlainQueue.closed hplain).trans hopen
  visible := (congrArg PlainQueue.visible hplain).trans hfront
  tracked := (congrFun hsame key.id).trans hkey
  failing := hread

/-- To pass over mails does not close a queue. -/
theorem Passes.isOpen {after : MailQueue σ} {keys : List RecordKey} {now : Instant}
    (h : Passes store keys (queue.promoted now) after) (horder : queue.InOrder)
    (hopen : queue.tracking.closed = false) : after.tracking.closed = false := by
  have hpromoted : (queue.promoted now).tracking.closed = queue.tracking.closed :=
    congrArg PlainQueue.closed (horder.plain_promoted now)
  have hpassed : (queue.promoted now).tracking.closed = after.tracking.closed :=
    congrArg PlainQueue.closed h.plain
  rw [← hpassed, hpromoted, hopen]

/-- What a call ends at is the first visible mail. -/
theorem Ends.of_front {after : MailQueue σ} {key : RecordKey} {behind : List MailId}
    {answer : Answer (MailQueue σ) (Option Mail)} (h : Ends store after answer)
    (hvisible : after.tracking.plain.visible = key.id :: behind)
    (htracked : after.tracking.key? key.id = some key) :
    (∃ mail, (store.read key after.records).1 = .ok mail ∧ answer.1 = .ok (some mail)) ∨
    ∃ e tracking, (store.read key after.records).1 = .error e ∧ e.isTransient = true ∧
      answer = (.error e, ⟨tracking, after.records⟩) ∧ tracking.key? = after.tracking.key? ∧
      tracking.plain = after.tracking.plain ∧ tracking.Orderly := by
  have hsame : ∀ {k : RecordKey} {rest : List MailId}, after.tracking.plain.visible = k.id :: rest →
      after.tracking.key? k.id = some k → k = key := by
    intro k rest hfront hkey
    rw [hvisible] at hfront
    rw [← (List.cons.inj hfront).1, htracked] at hkey
    exact (Option.some.inj hkey).symm
  cases h with
  | waits hempty =>
      rw [hvisible] at hempty
      cases hempty
  | leases hfront hkey hread hkeys hplain horderly =>
      obtain rfl := hsame hfront hkey
      exact .inl ⟨_, hread, rfl⟩
  | putsBack hfront hkey hread htransient hkeys hplain horderly =>
      obtain rfl := hsame hfront hkey
      exact .inr ⟨_, _, hread, htransient, rfl, hkeys, hplain, horderly⟩

/-- The key under which the first visible mail is tracked. -/
theorem Passes.eq_of_front {after : MailQueue σ} {keys : List RecordKey} {key k : RecordKey}
    {behind : List MailId} (h : Passes store (k :: keys) queue after)
    (hvisible : queue.tracking.plain.visible = key.id :: behind)
    (htracked : queue.tracking.key? key.id = some key) : k = key := by
  have hfirst := congrArg PlainQueue.visible h.plain
  rw [hvisible] at hfirst
  have hid : key.id = k.id := (List.cons.inj hfirst).1
  have hkey := h.tracked k (List.mem_cons_self ..)
  rw [← hid, htracked] at hkey
  exact (Option.some.inj hkey).symm

/-- Every call fails as the one before did, and leaves the mails where they are. -/
theorem Stuck.dequeue (hstore : store.Separate sound) {key : RecordKey} {e : QueueError}
    {behind : List MailId} (h : Stuck store key e behind queue) (hsound : sound queue.records)
    (htransient : e.isTransient = true) (now : Instant) :
    (queue.dequeue store now).1 = .error e ∧ (queue.dequeue store now).2.records = queue.records ∧
      ∃ due, Stuck store key e (behind ++ due) (queue.dequeue store now).2 := by
  obtain ⟨keys, after, hpasses, hunreadable, hends⟩ :=
    h.inOrder.dequeue_passes hstore hsound h.isOpen now
  obtain ⟨due, hvisible⟩ : ∃ due, (queue.promoted now).tracking.plain.visible =
      key.id :: (behind ++ due) := by
    refine ⟨(queue.tracking.plain.delayed.filter (·.1 ≤ now)).map Prod.snd, ?_⟩
    rw [h.inOrder.plain_promoted, PlainQueue.promoteDue, h.visible]
    rfl
  have htracked : (queue.promoted now).tracking.key? key.id = some key := by
    rw [key?_promoted]
    exact h.tracked
  cases keys with
  | cons k keys =>
      -- what is passed over can never be read
      obtain rfl := hpasses.eq_of_front hvisible htracked
      obtain ⟨error, hread, hlost⟩ := hunreadable k (List.mem_cons_self ..)
      rw [h.failing] at hread
      cases hread
      rw [htransient] at hlost
      cases hlost
  | nil =>
      have hrecords : after.records = queue.records := hpasses.records
      have hplain : after.tracking.plain = (queue.promoted now).tracking.plain := hpasses.plain.symm
      have hkeys : after.tracking.key? = queue.tracking.key? := by
        funext id
        rw [hpasses.untracked, key?_promoted]
        exact if_neg (by simp)
      rw [← hplain] at hvisible
      rcases hends.of_front hvisible (hkeys ▸ h.tracked) with ⟨mail, hread, -⟩ |
        ⟨error, tracking, hread, -, hanswer, hsame, hback, horderly⟩
      · rw [hrecords, h.failing] at hread
        cases hread
      · rw [hrecords, h.failing] at hread
        cases hread
        have hstuck := hpasses.inOrder.stuck (hpasses.isOpen h.inOrder h.isOpen) hvisible
          (hkeys ▸ h.tracked) (hrecords ▸ h.failing) hsame hback horderly
        rw [hanswer]
        exact ⟨rfl, hrecords, due, hstuck⟩

/-- Calls one after the other all fail, and leave the mails where they are. -/
theorem Stuck.dequeueAll (hstore : store.Separate sound) {key : RecordKey} {e : QueueError}
    {behind : List MailId} (h : Stuck store key e behind queue) (hsound : sound queue.records)
    (htransient : e.isTransient = true) (times : List Instant) :
    (∀ result ∈ (queue.dequeueAll store times).1, result = .error e) ∧
      ∃ due, Stuck store key e (behind ++ due) (queue.dequeueAll store times).2 := by
  induction times generalizing queue behind with
  | nil => exact ⟨by simp [MailQueue.dequeueAll], [], by rwa [List.append_nil]⟩
  | cons now times ih =>
      obtain ⟨hresult, hrecords, due, hnext⟩ := h.dequeue hstore hsound htransient now
      obtain ⟨hresults, later, hfinal⟩ := ih hnext (hrecords ▸ hsound)
      refine ⟨fun result hmem => ?_, due ++ later, by rwa [← List.append_assoc]⟩
      rcases List.mem_cons.1 hmem with rfl | hmem
      · exact hresult
      · exact hresults result hmem

/-- How some calls fare that are made one after the other while `key` is that of the first visible
mail whose record is not lost for good. -/
structure Fares (store : RecordStore σ) (queue : MailQueue σ) (key : RecordKey)
    (behind : List MailId)
    (results : List (Except QueueError (Option Mail))) (final : MailQueue σ) : Prop where
  /-- If the mail can be read, the first call leases it. -/
  leased : ∀ {mail}, (store.read key queue.records).1 = .ok mail →
    results.head? = some (.ok (some mail))
  /-- If it cannot, every call fails with what is read, and it stays in front of the others. -/
  failed : ∀ {e}, (store.read key queue.records).1 = .error e → e.isTransient = true ∧
    (∀ result ∈ results, result = .error e) ∧
      ∃ due, final.tracking.plain.visible = key.id :: (behind ++ due)

theorem Fares.leases_iff {key : RecordKey} {behind : List MailId}
    {results : List (Except QueueError (Option Mail))} {final : MailQueue σ}
    (h : Fares store queue key behind results final) :
    (∃ mail, .ok (some mail) ∈ results) ↔ ∃ mail, (store.read key queue.records).1 = .ok mail := by
  constructor
  · rintro ⟨mail, hmem⟩
    cases hread : (store.read key queue.records).1 with
    | ok found => exact ⟨found, rfl⟩
    | error e =>
        have hfailed := (h.failed hread).2.1 _ hmem
        cases hfailed
  · rintro ⟨mail, hread⟩
    exact ⟨mail, List.mem_of_mem_head? (h.leased hread)⟩

/-- How calls fare that are made one after the other while some mail is visible that can be read. -/
theorem InOrder.dequeueAll_fares (hstore : store.Separate sound) (h : queue.InOrder)
    (hsound : sound queue.records) (hopen : queue.tracking.closed = false) (now : Instant)
    (times : List Instant) {readable : RecordKey} {mail : Mail}
    (hvisible : readable.id ∈ (queue.promoted now).tracking.plain.visible)
    (htracked : queue.tracking.key? readable.id = some readable)
    (hread : (store.read readable queue.records).1 = .ok mail) :
    ∃ (keys : List RecordKey) (key : RecordKey) (behind : List MailId),
      (queue.promoted now).tracking.plain.visible = keys.map RecordKey.id ++ key.id :: behind ∧
      (∀ k ∈ keys, queue.tracking.key? k.id = some k ∧ Unreadable store queue.records k) ∧
      queue.tracking.key? key.id = some key ∧
      Fares store queue key behind (queue.dequeueAll store (now :: times)).1
        (queue.dequeueAll store (now :: times)).2 := by
  obtain ⟨keys, after, hpasses, hunreadable, hends⟩ := h.dequeue_passes hstore hsound hopen now
  have hsplit : (queue.promoted now).tracking.plain.visible =
      keys.map RecordKey.id ++ after.tracking.plain.visible :=
        congrArg PlainQueue.visible hpasses.plain
  have hkeys : ∀ k ∈ keys, queue.tracking.key? k.id = some k ∧
    Unreadable store queue.records k := by
    intro k hk
    have hkey := hpasses.tracked k hk
    rw [key?_promoted] at hkey
    exact ⟨hkey, hunreadable k hk⟩
  have hdequeueAll : queue.dequeueAll store (now :: times) =
      ((queue.dequeue store now).1 :: ((queue.dequeue store now).2.dequeueAll store times).1,
        ((queue.dequeue store now).2.dequeueAll store times).2) := rfl
  rw [hdequeueAll]
  generalize queue.dequeue store now = answer at hends
  have hsoundAfter : sound after.records := by
    rw [hpasses.records]
    exact setAside_sound hstore keys hsound
  cases hends with
  | waits hempty =>
      -- the mail that can be read is not among those that were passed over
      rw [hsplit, hempty, List.append_nil] at hvisible
      obtain ⟨k, hk, hid⟩ := List.mem_map.1 hvisible
      obtain ⟨hkey, e, herror, -⟩ := hkeys k hk
      rw [hid, htracked] at hkey
      cases hkey
      rw [hread] at herror
      cases herror
  | leases hfront hkey hfound hsame hplain horderly =>
      obtain ⟨hbefore, heq⟩ := hpasses.read_eq hstore hsound hkey
      rw [key?_promoted] at hbefore
      rw [records_promoted] at heq
      rw [heq] at hfound
      refine ⟨keys, _, _, by rw [hsplit, hfront], hkeys, hbefore,
        ⟨fun hmail => ?_, fun herror => ?_⟩⟩
      · rw [hfound] at hmail
        cases hmail
        rfl
      · rw [hfound] at herror
        cases herror
  | @putsBack key rest e tracking hfront hkey hfound htransient hsame hplain horderly =>
      obtain ⟨hbefore, heq⟩ := hpasses.read_eq hstore hsound hkey
      rw [key?_promoted] at hbefore
      rw [records_promoted] at heq
      have hstuck := hpasses.inOrder.stuck (hpasses.isOpen h hopen) hfront hkey hfound hsame
        hplain horderly
      obtain ⟨hresults, due, hfinal⟩ := hstuck.dequeueAll hstore hsoundAfter htransient times
      rw [heq] at hfound
      refine ⟨keys, key, rest, by rw [hsplit, hfront], hkeys, hbefore,
        ⟨fun hmail => ?_, fun {error} herror => ?_⟩⟩
      · rw [hfound] at hmail
        cases hmail
      · rw [hfound] at herror
        cases herror
        exact ⟨htransient, List.forall_mem_cons.2 ⟨rfl, hresults⟩, due, hfinal.visible⟩

/-- While reads of some records fail, calls for a lease that are made one after the other lease a
mail if and only if the first visible mail can be read whose record is not lost for good. That mail
is leased by the first call. Otherwise every call fails as the read of that mail does, however many
of the mails behind it can be read. -/
theorem Possible.dequeueAll_leases_iff {queue : MailQueue Vault} (h : Possible Vault.store queue)
    (hdirect : queue.records.Direct) (hopen : queue.tracking.closed = false)
    (broken : MailId → Option IoError) (now : Instant) (times : List Instant) {readable : RecordKey}
    {mail : Mail} (hvisible : readable.id ∈ (queue.promoted now).tracking.plain.visible)
    (htracked : queue.tracking.key? readable.id = some readable)
    (hread : ((Vault.store.interrupted broken).read readable queue.records).1 = .ok mail) :
    ∃ (keys : List RecordKey) (key : RecordKey) (behind : List MailId),
      (queue.promoted now).tracking.plain.visible = keys.map RecordKey.id ++ key.id :: behind ∧
      (∀ k ∈ keys, queue.tracking.key? k.id = some k ∧
        Unreadable (Vault.store.interrupted broken) queue.records k) ∧
      queue.tracking.key? key.id = some key ∧
      Fares (Vault.store.interrupted broken) queue key behind
        (queue.dequeueAll (Vault.store.interrupted broken) (now :: times)).1
        (queue.dequeueAll (Vault.store.interrupted broken) (now :: times)).2 ∧
      ((∃ mail, .ok (some mail) ∈ (queue.dequeueAll (Vault.store.interrupted broken)
      (now :: times)).1) ↔
        ∃ mail, ((Vault.store.interrupted broken).read key queue.records).1 = .ok mail) := by
  obtain ⟨keys, key, behind, hsplit, hkeys, hkey, hfares⟩ :=
    h.inOrder.dequeueAll_fares (Vault.separate.interrupted broken) hdirect hopen now times hvisible
      htracked hread
  exact ⟨keys, key, behind, hsplit, hkeys, hkey, hfares, hfares.leases_iff⟩

end MailQueue

namespace MailQueue.Sample

/-- The first mail cannot be read. -/
def firstBusy (id : MailId) : Option IoError :=
  if id = first.id then some (.other "busy") else none

theorem visible_pair : (pair.promoted .epoch).tracking.plain.visible = [first.id, second.id] := rfl

theorem read_second : ((Vault.store.interrupted firstBusy).read (.scheduled second.id .epoch)
    pair.records).1 = .ok second := by
  have hempty : (Memory.empty none).capacity = none := rfl
  have hrecords : records.capacity = none := Memory.reliable.write_sound _ _ hempty
  obtain ⟨written, hwrite⟩ :
      ∃ written, Memory.store.write (.scheduled second.id .epoch) second records =
        (.ok (), written) :=
    Memory.reliable.write_recordable hrecords recordable_second
  have hheld := congrFun (Memory.lawful.write_ok hwrite rfl) (.scheduled second.id .epoch)
  rw [Holdings.put_same] at hheld
  obtain ⟨after, hread, -⟩ := Memory.lawful.read hheld
  have hpair : pair.records =
    .memory (Memory.store.write (.scheduled second.id .epoch) second records).2 := rfl
  rw [hpair, hwrite]
  exact congrArg Prod.fst hread

/-- The read of the mail in front fails, and that of the mail behind it would not. -/
theorem dequeueAll_leases_iff_of_busy : Possible Vault.store pair ∧ pair.records.Direct ∧
    pair.tracking.closed = false ∧ second.id ∈ (pair.promoted .epoch).tracking.plain.visible ∧
    pair.tracking.key? second.id = some (.scheduled second.id .epoch) ∧
    ((Vault.store.interrupted firstBusy).read (.scheduled second.id .epoch) pair.records).1 =
      .ok second ∧
    ∃ (keys : List RecordKey) (key : RecordKey) (behind : List MailId),
      [first.id, second.id] = keys.map RecordKey.id ++ key.id :: behind ∧
      ((∃ mail, .ok (some mail) ∈
          (pair.dequeueAll (Vault.store.interrupted firstBusy) [.epoch, .epoch]).1) ↔
        ∃ mail, ((Vault.store.interrupted firstBusy).read key pair.records).1 = .ok mail) := by
  have hvisible : second.id ∈ (pair.promoted .epoch).tracking.plain.visible := by
    rw [visible_pair]
    exact List.mem_cons_of_mem _ (List.mem_cons_self ..)
  obtain ⟨keys, key, behind, hsplit, -, -, -, hleases⟩ :=
    possible_pair.dequeueAll_leases_iff trivial rfl firstBusy .epoch [.epoch] hvisible rfl
      read_second
  exact ⟨possible_pair, trivial, rfl, hvisible, rfl, read_second, keys, key, behind,
    hsplit, hleases⟩

/-- Two visible mails, one of which can be read, and neither is leased by two calls. -/
theorem dequeueAll_starves : Possible Vault.store pair ∧
    pair.tracking.plain.visible = [first.id, second.id] ∧
    ((Vault.store.interrupted firstBusy).read (.scheduled second.id .epoch) pair.records).1 =
      .ok second ∧
    ∀ result ∈ (pair.dequeueAll (Vault.store.interrupted firstBusy) [.epoch, .epoch]).1,
      result = .error (.io (.other "busy")) := by
  have hstuck : Stuck (Vault.store.interrupted firstBusy) (.scheduled first.id .epoch)
      (.io (.other "busy")) [second.id] pair :=
    ⟨possible_pair.inOrder, rfl, rfl, rfl, rfl⟩
  exact ⟨possible_pair, rfl, read_second,
    (hstuck.dequeueAll (Vault.separate.interrupted firstBusy) trivial rfl [.epoch, .epoch]).1⟩

end MailQueue.Sample

end Postroom
