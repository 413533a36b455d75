import Postroom.Proofs.Queue.Consistency
import Postroom.Proofs.Queue.Recovery

/-!
A queue over a reliable store answers as a plain queue does. It is opened over records that can be
read, one for each mail; then nothing fails but reads, for a while. The plain queue behind what is
tracked takes the same steps: a mail that cannot be read is leased and put back, and so stands where
it stood.
-/

namespace Postroom

namespace RecordKey

theorem scheduled_time (key : RecordKey) : scheduled key.id key.time = key := by
  have hmillis : key.time.millis = key.notBefore := by
    have hlt := key.notBefore.toNat_lt
    have hnat : min (((key.notBefore.toNat : Int) * 1000000).toNat / 1000000)
        18446744073709551615 = key.notBefore.toNat := by
      omega
    show UInt64.ofNat (min (((key.notBefore.toNat : Int) * 1000000).toNat / 1000000)
      18446744073709551615) = key.notBefore
    rw [hnat, UInt64.ofNat_toNat]
  unfold scheduled
  rw [hmillis]

end RecordKey

/-- One record for each mail, and each reads as a version of it. -/
structure Holdings.Clean (holdings : Holdings) : Prop where
  single : ∀ {a b}, holdings a ≠ none → holdings b ≠ none → a.id = b.id → a = b
  readable : ∀ {key result}, holdings key = some result → ∃ mail, result = .ok mail ∧
    mail.id = key.id

/-- A mail that is to be stored has a record. -/
def QueueCall.Recordable : QueueCall → Prop
  | .enqueue mail _ => (Record.encode mail).isOk
  | _ => True

namespace PlainQueue

theorem erase_insert_of_not_mem {leased : Std.ExtTreeMap MailId (Option Instant)} {id : MailId}
    (hfree : id ∉ leased) (requeued : Option Instant) :
    (leased.insert id requeued).erase id = leased := by
  apply Std.ExtTreeMap.ext_getElem?
  intro k
  simp only [Std.ExtTreeMap.getElem?_erase, Std.ExtTreeMap.getElem?_insert, Std.compare_eq_iff_eq]
  split
  · rename_i hk
    rw [← hk, Std.ExtTreeMap.getElem?_eq_none hfree]
  · rfl

/-- A mail that is leased and given back at once stands where it stood. -/
theorem settle_leased {queue : PlainQueue} {id : MailId} {rest : List MailId} (now : Instant)
    (hvisible : queue.visible = id :: rest) (hfree : id ∉ queue.leased) :
    ({ queue with visible := rest, leased := queue.leased.insert id none } : PlainQueue).settle
      id false now = queue := by
  have hlease : (queue.leased.insert id none)[id]? = some none := by simp
  have herase := erase_insert_of_not_mem hfree none
  simp only [settle, hlease, Bool.false_eq_true, if_false, herase, ← hvisible]

end PlainQueue

namespace MailQueue

variable {σ : Type} {store : RecordStore σ} {holds : σ → Holdings} {sound : σ → Prop}
  {ledger : Ledger} {queue : MailQueue σ}

theorem enqueue_sound (hstore : store.Reliable holds sound) (mail : Mail) (delay : Nat)
    (now : Instant) (h : sound queue.records) :
    sound (queue.enqueue store mail delay now).2.records := by
  obtain ⟨key, written, -, hwritten, hcases⟩ :=
    enqueue_outcomes hstore.toLawful mail delay now queue
  have hsound : sound written := hwritten ▸ hstore.write_sound key mail h
  rcases hcases with ⟨e, henqueue, -⟩ | ⟨-, ⟨-, henqueue⟩ | ⟨old, -, -, henqueue⟩⟩
  · rw [henqueue]
    exact hsound
  · rw [henqueue]
    exact hsound
  · rw [henqueue]
    exact hstore.delete_sound old hsound

theorem complete_sound (hstore : store.Reliable holds sound) (id : MailId) (now : Instant)
    (h : sound queue.records) : sound (queue.complete store id now).2.records := by
  rcases complete_outcomes id now queue with ⟨-, hcomplete⟩ | ⟨due, -, -, hcomplete⟩ |
    ⟨-, key, -, -, hcomplete⟩
  · rw [hcomplete]
    exact h
  · rw [hcomplete]
    exact h
  · rw [hcomplete]
    exact hstore.delete_sound key h

/-- What is tracked is in order, agrees with what is stored, and the store is in a sound state. -/
structure Regular (holds : σ → Holdings) (sound : σ → Prop) (ledger : Ledger)
    (queue : MailQueue σ) : Prop extends Consistent holds ledger queue where
  orderly : queue.tracking.Orderly
  healthy : sound queue.records

/-- A call is answered as by the plain queue, and its effect is that on the plain queue. -/
structure Mirrors (sound : σ → Prop) (step : QueueStep) (queue : MailQueue σ)
    (reply : QueueReply Mail) (queue' : MailQueue σ) : Prop where
  plain : queue.tracking.plain.perform step = (reply.map Mail.id, queue'.tracking.plain)
  orderly : queue'.tracking.Orderly
  healthy : sound queue'.records

theorem enqueue_mirrors (hstore : store.Reliable holds sound) (h : Regular holds sound ledger queue)
    {mail : Mail} (hrecordable : (Record.encode mail).isOk) (delay : Nat) (now : Instant) :
    Mirrors sound ⟨now, .enqueue mail delay⟩ queue
      (queue.perform store ⟨now, .enqueue mail delay⟩).1
      (queue.perform store ⟨now, .enqueue mail delay⟩).2 := by
  have hsound := enqueue_sound hstore mail delay now h.healthy
  rcases enqueue_cases hstore.toDependable h.toConsistent mail delay now with
    ⟨e, records, hwrite, -, -⟩ | ⟨tracking, records, henqueue, htracking, -⟩
  · obtain ⟨written, hok⟩ := hstore.write_recordable h.healthy hrecordable
    rw [hok] at hwrite
    cases hwrite
  · rw [henqueue] at hsound
    obtain ⟨hplain, horderly⟩ := Tracking.plain_register h.orderly
      (.scheduled mail.id (dueTime now delay)) (dueTime now delay) now
    rw [← htracking] at hplain horderly
    simp only [perform, henqueue]
    exact ⟨by rw [hplain]; rfl, horderly, hsound⟩

theorem dequeue_mirrors (hstore : store.Reliable holds sound) (h : Regular holds sound ledger queue)
    (broken : MailId → Option IoError) (now : Instant) :
    Mirrors sound ⟨now, .dequeue broken⟩ queue
      (queue.perform store ⟨now, .dequeue broken⟩).1
      (queue.perform store ⟨now, .dequeue broken⟩).2 := by
  obtain ⟨hpromoted, hup⟩ := Tracking.plain_promoteDue h.orderly now
  have hclosed : queue.tracking.plain.closed = queue.tracking.closed := rfl
  simp only [perform]
  rcases dequeue_cases hstore.toLawful h.toConsistent broken now with ⟨hshut, hdequeue⟩ |
    ⟨hopen, hclaim, hdequeue⟩ | ⟨key, tracking, mail, due, hopen, hclaim, -, hid, hread⟩
  · rw [hdequeue]
    refine ⟨?_, h.orderly, h.healthy⟩
    simp [PlainQueue.perform, PlainQueue.dequeue, hclosed, hshut, QueueReply.map, Except.map]
  · rw [hdequeue]
    refine ⟨?_, hup, h.healthy⟩
    rcases Tracking.plain_claim hup with ⟨-, hempty⟩ | ⟨id, rest, key, t', -, -, hsome, -⟩
    · rw [hpromoted] at hempty
      simp [PlainQueue.perform, PlainQueue.dequeue, hclosed, hopen, hempty, hpromoted,
        QueueReply.map, Except.map]
    · rw [hclaim] at hsome
      cases hsome
  · rcases Tracking.plain_claim hup with ⟨hnone, -⟩ |
      ⟨id, rest, k, t', hvisible, hkey, hsome, -, hplain, horderly⟩
    · rw [hclaim] at hnone
      cases hnone
    rw [hclaim] at hsome
    cases hsome
    rw [Tracking.key?_promoteDue] at hkey
    obtain ⟨rfl, -⟩ := h.held hkey
    have hfree : key.id ∉ (queue.tracking.promoteDue now).plain.leased := by
      refine Tracking.not_leased_of_standing (List.mem_append_left _ ?_)
      rw [hvisible]
      exact List.mem_cons_self ..
    rw [hpromoted] at hvisible hplain hfree
    rcases hread with ⟨e, hbroken, hdequeue⟩ | ⟨hbroken, records, hread, -, hdequeue⟩
    · rw [hdequeue]
      obtain ⟨hreleased, hagain⟩ := Tracking.plain_release horderly key.id now
      refine ⟨?_, hagain, h.healthy⟩
      rw [hreleased, hplain, PlainQueue.settle_leased now hvisible hfree]
      simp [PlainQueue.perform, PlainQueue.dequeue, hclosed, hopen, hvisible, hbroken,
        QueueReply.map, Except.map]
    · rw [hdequeue]
      have hsound := hstore.read_sound key h.healthy
      rw [hread] at hsound
      refine ⟨?_, horderly, hsound⟩
      simp [PlainQueue.perform, PlainQueue.dequeue, hclosed, hopen, hvisible, hbroken, hplain, hid,
        QueueReply.map, Except.map]

theorem complete_mirrors (hstore : store.Reliable holds sound)
    (h : Regular holds sound ledger queue)
    (id : MailId) (now : Instant) :
    Mirrors sound ⟨now, .settle id true⟩ queue
      (queue.perform store ⟨now, .settle id true⟩).1
      (queue.perform store ⟨now, .settle id true⟩).2 := by
  have hsound := complete_sound hstore id now h.healthy
  simp only [perform, settle, if_true]
  rcases complete_cases hstore.toDependable h.toConsistent id now with ⟨hlease, hcomplete⟩ |
    ⟨hlease, key, tracking, records, hacknowledge, hcomplete, -⟩
  · have hleased : queue.tracking.plain.leased[id]? = none := by
      rw [Tracking.leased_plain, hlease]
    rw [hcomplete]
    refine ⟨?_, h.orderly, h.healthy⟩
    simp [PlainQueue.perform, PlainQueue.settle, PlainQueue.settled, hleased, QueueReply.map,
      Std.ExtTreeMap.contains_eq_isSome_getElem?]
  · obtain ⟨hplain, horderly⟩ := Tracking.plain_acknowledge h.orderly hacknowledge
    have hleased : queue.tracking.plain.leased.contains id = true := by
      rw [Std.ExtTreeMap.contains_eq_isSome_getElem?, Tracking.leased_plain, hlease]
    rw [hcomplete] at hsound ⊢
    refine ⟨?_, horderly, hsound⟩
    simp [PlainQueue.perform, PlainQueue.settled, hleased, hplain, QueueReply.map]

theorem release_mirrors (h : Regular holds sound ledger queue) (id : MailId) (now : Instant) :
    queue.tracking.plain.settle id false now = (queue.rollBack id now).tracking.plain ∧
      (queue.rollBack id now).tracking.Orderly ∧ sound (queue.rollBack id now).records := by
  obtain ⟨hplain, horderly⟩ := Tracking.plain_release h.orderly id now
  exact ⟨hplain.symm, horderly, h.healthy⟩

/-- Every call is answered as by the plain queue. -/
theorem perform_mirrors (hstore : store.Reliable holds sound) (h : Regular holds sound ledger queue)
    (step : QueueStep) (hrecordable : step.call.Recordable) :
    Mirrors sound step queue (queue.perform store step).1 (queue.perform store step).2 := by
  obtain ⟨now, call⟩ := step
  cases call with
  | enqueue mail delay => exact enqueue_mirrors hstore h hrecordable delay now
  | dequeue broken => exact dequeue_mirrors hstore h broken now
  | settle id success =>
      cases success with
      | true => exact complete_mirrors hstore h id now
      | false =>
          obtain ⟨hplain, horderly, hsound⟩ := release_mirrors h id now
          refine ⟨?_, horderly, hsound⟩
          simp [PlainQueue.perform, PlainQueue.settled, perform, settle, hplain, QueueReply.map]
  | abandon id =>
      obtain ⟨hplain, horderly, hsound⟩ := release_mirrors h id now
      refine ⟨?_, horderly, hsound⟩
      simp [PlainQueue.perform, perform, hplain, QueueReply.map]
  | flush =>
      obtain ⟨hcount, hplain, horderly⟩ := Tracking.plain_flush h.orderly
      refine ⟨?_, horderly, h.healthy⟩
      simp [PlainQueue.perform, perform, flush, hcount, hplain, QueueReply.map]
  | close =>
      refine ⟨rfl, ⟨⟨h.orderly.ready_le, h.orderly.delayed_le⟩, h.orderly.once⟩, h.healthy⟩

/-- A run is answered as by the plain queue. -/
theorem run_mirrors (hstore : store.Reliable holds sound) (steps : List QueueStep)
    (hrecordable : ∀ step ∈ steps, step.call.Recordable) (h : Regular holds sound ledger queue) :
    (queue.run store steps).1.map (fun event => (event.reply.map Mail.id, event.size)) =
      PlainQueue.run steps queue.tracking.plain := by
  induction steps generalizing queue ledger with
  | nil => rfl
  | cons step steps ih =>
      have hmirrors := perform_mirrors hstore h step (hrecordable step (List.mem_cons_self ..))
      unfold run PlainQueue.run
      cases hperform : queue.perform store step with
      | mk reply next =>
          rw [hperform] at hmirrors
          obtain ⟨hnext, -⟩ :=
            perform_consistent hstore.toDependable h.toConsistent step hperform next.size
          have hothers := ih (fun s hs => hrecordable s (List.mem_cons_of_mem _ hs))
            ⟨hnext, hmirrors.orderly, hmirrors.healthy⟩
          rw [hmirrors.plain]
          simp only [List.map_cons, hothers, Tracking.size_plain hmirrors.orderly]
          rfl

/-- The versions that a store holds of the mails that are tracked. -/
def recordedIn (holdings : Holdings) (t : Tracking) : Ledger := fun id => do
  let key ← t.key? id
  let result ← holdings key
  let mail ← result.toOption
  return (mail, key.time)

/-- A queue that is opened over clean records tracks them all, in their last versions. -/
theorem open_regular (hstore : store.Reliable holds sound) {records : σ} (hsound : sound records)
    (hclean : (holds records).Clean) (now : Instant) :
    ∃ keys tracking records', recoverFrom store now records = (.ok tracking, records') ∧
      (∀ key, key ∈ keys ↔ holds records key ≠ none) ∧
      tracking.plain = .opened (Std.ExtTreeSet.ofList keys).toList now ∧
      Regular holds sound (recordedIn (holds records) tracking) ⟨tracking, records'⟩ := by
  obtain ⟨keys, hrecover, hsame, hids, hkeys⟩ :=
    recoverFrom_of_single hstore.toLawful now hclean.single
  obtain ⟨htracked, hplain, horderly⟩ := recover_spec hids now
  have hreadable : ∀ key ∈ keys, ∃ mail, holds records key = some (.ok mail) ∧
    mail.id = key.id := by
    intro key hkey
    obtain ⟨result, hresult⟩ := Option.ne_none_iff_exists'.1 ((hkeys key).1 hkey)
    obtain ⟨mail, rfl, hid⟩ := hclean.readable hresult
    exact ⟨mail, hresult, hid⟩
  have hrecorded : ∀ {id key}, (recover keys now).key? id = some key → key.id = id ∧
      ∃ mail, holds records key = some (.ok mail) ∧ mail.id = id ∧
        recordedIn (holds records) (recover keys now) id = some (mail, key.time) := by
    intro id key hkey
    obtain ⟨hmem, rfl⟩ := (htracked id key).1 hkey
    obtain ⟨mail, hheld, hid⟩ := hreadable key hmem
    refine ⟨rfl, mail, hheld, hid, ?_⟩
    simp [recordedIn, hkey, hheld, Except.toOption]
  refine ⟨keys, recover keys now, _, hrecover, hkeys, hplain, ⟨?_, ?_⟩, horderly,
    hstore.list_sound hsound⟩
  · intro key
    rw [hsame]
    split
    · rename_i hkey
      obtain ⟨-, mail, hheld, -, hledger⟩ := hrecorded hkey
      rw [hheld, hledger, Option.map_some]
    · rename_i hkey
      by_cases hheld : holds records key = none
      · exact hheld
      · exact absurd ((htracked key.id key).2 ⟨(hkeys key).2 hheld, rfl⟩) hkey
  · intro id key hkey
    obtain ⟨rfl, mail, -, hid, hledger⟩ := hrecorded hkey
    exact ⟨mail, key.time, hledger, hid, (RecordKey.scheduled_time key).symm⟩

/-- Over any records that can be read, one for each mail, a queue answers every sequence of calls as
the plain queue does that is opened over the keys of the records. -/
theorem run_refines_plain (hstore : store.Reliable holds sound) {records : σ}
    (hsound : sound records) (hclean : (holds records).Clean) (now : Instant)
    (steps : List QueueStep) (hrecordable : ∀ step ∈ steps, step.call.Recordable) :
    ∃ keys tracking records', recoverFrom store now records = (.ok tracking, records') ∧
      (keys.Pairwise fun a b => compare a b = .lt) ∧
      (∀ key, key ∈ keys ↔ holds records key ≠ none) ∧
      (MailQueue.run store steps ⟨tracking, records'⟩).1.map
          (fun event => (event.reply.map Mail.id, event.size)) =
        PlainQueue.run steps (.opened keys now) := by
  obtain ⟨keys, tracking, records', hrecover, hkeys, hplain, hregular⟩ :=
    open_regular hstore hsound hclean now
  refine ⟨(Std.ExtTreeSet.ofList keys).toList, tracking, records', hrecover,
    Std.ExtTreeSet.ordered_toList, ?_, ?_⟩
  · intro key
    rw [← hkeys]
    simp
  · rw [run_mirrors hstore steps hrecordable hregular, hplain]

end MailQueue

namespace MailQueue.Sample

def alice : Address := ⟨"alice", ⟨"example.org"⟩⟩

def first : Mail :=
  .create ⟨1⟩ .epoch none (.ofList [alice]) .empty

def second : Mail :=
  .create ⟨2⟩ .epoch (some alice) (.ofList [alice]) .empty

/-- A memory store that holds the first mail. -/
def records : Memory :=
  (Memory.write (.scheduled first.id .epoch) first (.empty none)).2

/-- The first mail is delayed while the second is stored and leased, and the rest is flushed. -/
def steps : List QueueStep :=
  [⟨.epoch, .enqueue first 1000000⟩, ⟨.epoch, .enqueue second 0⟩, ⟨.epoch, .dequeue fun _ => none⟩,
    ⟨.epoch, .settle second.id false⟩, ⟨.epoch, .flush⟩,
    ⟨.epoch, .dequeue fun _ => some (.other "busy")⟩, ⟨.epoch, .close⟩]

theorem recordable_first : (Record.encode first).isOk = true := rfl

theorem recordable_second : (Record.encode second).isOk = true := rfl

/-- Over one record, seven calls are answered as by the plain queue. -/
theorem run_refines_plain_of_one_record :
    (Memory.holds records).Clean ∧ (∀ step ∈ steps, step.call.Recordable) ∧
      ∃ keys tracking records', recoverFrom Memory.store .epoch records = (.ok tracking, records') ∧
        (∀ key, key ∈ keys ↔ Memory.holds records key ≠ none) ∧
        (MailQueue.run Memory.store steps ⟨tracking, records'⟩).1.map
            (fun event => (event.reply.map Mail.id, event.size)) =
          PlainQueue.run steps (.opened keys .epoch) := by
  have hsound : (Memory.empty none).capacity = none := rfl
  have hrecords : records.capacity = none := Memory.reliable.write_sound _ _ hsound
  obtain ⟨written, hwrite⟩ :
      ∃ written, Memory.store.write (.scheduled first.id .epoch) first (.empty none) =
        (.ok (), written) :=
    Memory.reliable.write_recordable hsound recordable_first
  have hheld : ∀ key, Memory.holds records key =
      if key = .scheduled first.id .epoch then some (.ok first) else none := by
    intro key
    have hput := congrFun (Memory.lawful.write_ok hwrite rfl) key
    have hrecords : records = written := congrArg Prod.snd hwrite
    rw [hrecords, hput]
    rfl
  have hclean : (Memory.holds records).Clean := by
    constructor
    · intro a b ha hb _
      rw [hheld, ne_eq, ite_eq_right_iff, Classical.not_imp] at ha hb
      rw [ha.1, hb.1]
    · intro key result hresult
      rw [hheld] at hresult
      split at hresult
      · rename_i hkey
        cases hresult
        exact ⟨first, rfl, by rw [hkey]; rfl⟩
      · cases hresult
  have hrecordable : ∀ step ∈ steps, step.call.Recordable := by
    intro step hstep
    simp only [steps, List.mem_cons, List.not_mem_nil, or_false] at hstep
    rcases hstep with rfl | rfl | rfl | rfl | rfl | rfl | rfl
    · exact recordable_first
    · exact recordable_second
    all_goals trivial
  obtain ⟨keys, tracking, records', hrecover, -, hkeys, hrun⟩ :=
    run_refines_plain Memory.reliable hrecords hclean .epoch steps hrecordable
  exact ⟨hclean, hrecordable, keys, tracking, records', hrecover, hkeys, hrun⟩

end MailQueue.Sample

end Postroom
