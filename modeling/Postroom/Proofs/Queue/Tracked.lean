import Postroom.Queue.Tracking

/-!
Which mails are tracked, and under which keys. Only a mail that is stored, and one whose lease ends
with success, change that; everything else moves mails between visible, delayed and leased.
-/

namespace Postroom

/-- The time that an enqueue since the lease asked for, if the status is that of a leased mail. -/
def EntryStatus.lease? : EntryStatus → Option (Option Instant)
  | .leased requeued => some requeued
  | _ => none

theorem EntryStatus.isLeased_eq (status : EntryStatus) :
    status.isLeased = status.lease?.isSome := by
  cases status <;> rfl

namespace Tracking

/-- The key under which a mail is tracked. -/
def key? (t : Tracking) (id : MailId) : Option RecordKey :=
  t.entries[id]?.map Entry.key

theorem key?_eq_some_iff {t : Tracking} {id : MailId} {key : RecordKey} :
    t.key? id = some key ↔ ∃ entry, t.entries[id]? = some entry ∧ entry.key = key := by
  simp [key?]

theorem entry?_insert (entries : Std.ExtTreeMap MailId Entry) (id k : MailId) (entry : Entry) :
    (entries.insert id entry)[k]? = if k = id then some entry else entries[k]? := by
  simp only [Std.ExtTreeMap.getElem?_insert, Std.compare_eq_iff_eq]
  by_cases hk : k = id
  · rw [if_pos hk, if_pos hk.symm]
  · rw [if_neg hk, if_neg fun heq => hk heq.symm]

theorem entry?_erase (entries : Std.ExtTreeMap MailId Entry) (id k : MailId) :
    (entries.erase id)[k]? = if k = id then none else entries[k]? := by
  simp only [Std.ExtTreeMap.getElem?_erase, Std.compare_eq_iff_eq]
  by_cases hk : k = id
  · rw [if_pos hk, if_pos hk.symm]
  · rw [if_neg hk, if_neg fun heq => hk heq.symm]

/-- An entry that takes the place of one with its key changes no key. -/
theorem key?_of_replace {t t' : Tracking} {id : MailId} {entry entry' : Entry}
    (hentry : t.entries[id]? = some entry) (h : t'.entries = t.entries.insert id entry')
    (hkey : entry'.key = entry.key) : t'.key? = t.key? := by
  funext k
  unfold key?
  rw [h, entry?_insert]
  split
  · rename_i hk
    rw [hk, hentry, Option.map_some, Option.map_some, hkey]
  · rfl

@[simp] theorem key?_schedule (t : Tracking) (id : MailId) (due now : Instant) :
    (t.schedule id due now).key? = t.key? := by
  unfold schedule
  dsimp only
  split
  · rfl
  · rename_i entry hentry
    split
    · exact key?_of_replace hentry rfl rfl
    · exact key?_of_replace hentry rfl rfl

@[simp] theorem key?_restore (t : Tracking) (id : MailId) : (t.restore id).key? = t.key? := by
  unfold restore
  dsimp only
  split
  · rfl
  · rename_i entry hentry
    exact key?_of_replace hentry rfl rfl

@[simp] theorem key?_release (t : Tracking) (id : MailId) (now : Instant) :
    (t.release id now).key? = t.key? := by
  unfold release
  split
  · rfl
  · exact key?_schedule t id _ now
  · exact key?_restore t id

@[simp] theorem key?_promote (t : Tracking) (position : Position) :
    (t.promote position).key? = t.key? := by
  unfold promote
  split
  · rfl
  · rename_i entry hentry
    split
    · exact key?_of_replace hentry rfl rfl
    · rfl

theorem key?_foldl_promote (positions : List Position) (t : Tracking) :
    (positions.foldl promote t).key? = t.key? := by
  induction positions generalizing t with
  | nil => rfl
  | cons position positions ih => rw [List.foldl_cons, ih, key?_promote]

@[simp] theorem key?_promoteDue (t : Tracking) (now : Instant) :
    (t.promoteDue now).key? = t.key? :=
  key?_foldl_promote _ _

@[simp] theorem key?_flush (t : Tracking) : t.flush.2.key? = t.key? :=
  key?_foldl_promote _ _

@[simp] theorem key?_close (t : Tracking) : t.close.key? = t.key? := rfl

theorem key?_forget (t : Tracking) (id k : MailId) :
    (t.forget id).key? k = if k = id then none else t.key? k := by
  unfold key? forget
  rw [entry?_erase]
  split <;> rfl

theorem key?_track (t : Tracking) (key : RecordKey) (due now : Instant) (k : MailId) :
    (t.track key due now).key? k = if k = key.id then some key else t.key? k := by
  rw [track, key?_schedule]
  unfold key?
  rw [entry?_insert]
  split <;> rfl

/-- A mail that was stored is tracked under its new key. -/
theorem key?_register (t : Tracking) (key : RecordKey) (due now : Instant) (k : MailId) :
    (t.register key due now).2.key? k = if k = key.id then some key else t.key? k := by
  unfold register
  split
  · exact key?_track t key due now k
  · dsimp only
    split
    · unfold key?
      rw [entry?_insert]
      split <;> rfl
    · rw [key?_schedule]
      unfold key?
      rw [entry?_insert]
      split <;> rfl

/-- What storing a mail supersedes: nothing, if the mail was not tracked under another key, or else
that key. -/
theorem superseded_cases (t : Tracking) (key : RecordKey) (due now : Instant) :
    ((t.register key due now).1 = none ∧ ∀ old, t.key? key.id = some old → old = key) ∨
    ∃ old, (t.register key due now).1 = some old ∧ t.key? key.id = some old ∧ old ≠ key := by
  unfold register key?
  cases hentry : t.entries[key.id]? with
  | none =>
      refine .inl ⟨rfl, ?_⟩
      intro old hold
      cases hold
  | some entry =>
      by_cases hsame : entry.key = key
      · refine .inl ⟨?_, ?_⟩
        · simp only [hsame, if_true]
          split <;> rfl
        · intro old hold
          cases hold
          exact hsame
      · refine .inr ⟨entry.key, ?_, rfl, hsame⟩
        simp only [hsame, if_false]
        split <;> rfl

theorem leaseOf?_eq (t : Tracking) (id : MailId) :
    t.leaseOf? id = t.entries[id]?.bind fun entry => entry.status.lease? := by
  unfold leaseOf?
  cases hentry : t.entries[id]? with
  | none => rfl
  | some entry =>
      obtain ⟨key, generation, status⟩ := entry
      cases status <;> rfl

/-- A mail whose lease has ended is not leased. -/
theorem leaseOf?_schedule (t : Tracking) (id : MailId) (due now : Instant) :
    (t.schedule id due now).leaseOf? id = none := by
  rw [leaseOf?_eq]
  unfold schedule
  dsimp only
  cases hentry : t.entries[id]? with
  | none => simp [hentry]
  | some entry =>
      dsimp only
      split <;> simp [EntryStatus.lease?]

theorem leaseOf?_restore (t : Tracking) (id : MailId) : (t.restore id).leaseOf? id = none := by
  rw [leaseOf?_eq]
  unfold restore
  dsimp only
  cases hentry : t.entries[id]? with
  | none => simp [hentry]
  | some entry => simp [EntryStatus.lease?]

theorem leaseOf?_release (t : Tracking) (id : MailId) (now : Instant) :
    (t.release id now).leaseOf? id = none := by
  unfold release
  split
  · assumption
  · exact leaseOf?_schedule ..
  · exact leaseOf?_restore ..

theorem leaseOf?_forget (t : Tracking) (id : MailId) : (t.forget id).leaseOf? id = none := by
  rw [leaseOf?_eq]
  simp [forget]

/-- The lease of a mail that was stored is one that waits for a time. -/
theorem leaseOf?_register (t : Tracking) (key : RecordKey) (due now : Instant) :
    (t.register key due now).2.leaseOf? key.id ≠ some none := by
  unfold register
  split
  · rw [track, leaseOf?_schedule]
    simp
  · dsimp only
    split
    · rw [leaseOf?_eq]
      simp [EntryStatus.lease?]
    · rw [leaseOf?_schedule]
      simp

/-- To schedule a mail ends no lease of another one. -/
theorem leaseOf?_schedule_other {id k : MailId} (hk : k ≠ id) (t : Tracking) (due now : Instant) :
    (t.schedule id due now).leaseOf? k = t.leaseOf? k := by
  rw [leaseOf?_eq, leaseOf?_eq]
  unfold schedule
  dsimp only
  split
  · rfl
  · split
    · rw [entry?_insert, if_neg hk]
    · rw [entry?_insert, if_neg hk]

/-- To store a mail changes the lease of no other one. -/
theorem leaseOf?_register_other {key : RecordKey} {k : MailId} (hk : k ≠ key.id) (t : Tracking)
    (due now : Instant) : (t.register key due now).2.leaseOf? k = t.leaseOf? k := by
  have hinsert : ∀ entry, leaseOf? { t with entries := t.entries.insert key.id entry } k =
      t.leaseOf? k := by
    intro entry
    rw [leaseOf?_eq, leaseOf?_eq, entry?_insert, if_neg hk]
  unfold register
  split
  · rw [track, leaseOf?_schedule_other hk, hinsert]
  · dsimp only
    split
    · exact hinsert _
    · rw [leaseOf?_schedule_other hk, hinsert]

@[simp] theorem closed_schedule (t : Tracking) (id : MailId) (due now : Instant) :
    (t.schedule id due now).closed = t.closed := by
  unfold schedule
  dsimp only
  split
  · rfl
  · split <;> rfl

@[simp] theorem closed_register (t : Tracking) (key : RecordKey) (due now : Instant) :
    (t.register key due now).2.closed = t.closed := by
  unfold register
  split
  · exact closed_schedule ..
  · dsimp only
    split
    · rfl
    · exact closed_schedule ..

/-- What a successful end of a lease can be: the mail was stored again and stays, or it goes and its
key is answered. -/
theorem acknowledge_cases (t : Tracking) (id : MailId) (now : Instant) :
    (t.leaseOf? id = none ∧ t.acknowledge id now = none) ∨
    (∃ due, t.leaseOf? id = some (some due) ∧
      t.acknowledge id now = some (none, t.schedule id due now)) ∨
    (t.leaseOf? id = some none ∧ ∃ key, t.key? id = some key ∧
      t.acknowledge id now = some (some key, t.forget id)) := by
  unfold acknowledge
  cases hlease : t.leaseOf? id with
  | none => exact .inl ⟨rfl, rfl⟩
  | some requeued =>
      cases requeued with
      | some due => exact .inr (.inl ⟨due, rfl, rfl⟩)
      | none =>
          rw [leaseOf?_eq] at hlease
          obtain ⟨entry, hentry, -⟩ := Option.bind_eq_some_iff.1 hlease
          have hkey : t.key? id = some entry.key := key?_eq_some_iff.2 ⟨entry, hentry, rfl⟩
          refine .inr (.inr ⟨rfl, entry.key, hkey, ?_⟩)
          rw [hentry, Option.map_some]

/-- A position counts if its generation is that of the entry, and the mail is not leased. -/
theorem isCurrent_iff {t : Tracking} {position : Position} :
    t.isCurrent position = true ↔ ∃ entry, t.entries[position.id]? = some entry ∧
      entry.generation = position.generation ∧ entry.status.isLeased = false := by
  unfold isCurrent
  cases hentry : t.entries[position.id]? with
  | none => simp
  | some entry => simp

/-- What the search for a mail to lease can come to: no visible position counts, or the first that
counts is leased. -/
theorem claim_cases (t : Tracking) :
    (t.claim = none ∧ ∀ position ∈ t.ready, t.isCurrent position = false) ∨
    ∃ stale position rest entry, t.ready = stale ++ position :: rest ∧
      (∀ p ∈ stale, t.isCurrent p = false) ∧ t.isCurrent position = true ∧
      t.entries[position.id]? = some entry ∧
      t.claim = some (entry.key,
        { t with
          entries := t.entries.insert position.id { entry with status := .leased none }
          ready := rest }) := by
  have hsplit := List.takeWhile_append_dropWhile (p := (!t.isCurrent ·)) (l := t.ready)
  have hstale : ∀ p ∈ t.ready.takeWhile (!t.isCurrent ·), t.isCurrent p = false := by
    intro p hp
    simpa using List.all_eq_true.1 List.all_takeWhile p hp
  unfold claim
  cases hfound : t.ready.dropWhile (!t.isCurrent ·) with
  | nil =>
      refine .inl ⟨rfl, ?_⟩
      rw [hfound, List.append_nil] at hsplit
      rwa [hsplit] at hstale
  | cons position rest =>
      have hcurrent : t.isCurrent position = true := by
        have hhead := List.head?_dropWhile_not (p := (!t.isCurrent ·)) (l := t.ready)
        rw [hfound] at hhead
        simpa using hhead
      obtain ⟨entry, hentry, -, -⟩ := isCurrent_iff.1 hcurrent
      refine .inr ⟨_, position, rest, entry, ?_, hstale, hcurrent, hentry, ?_⟩
      · rw [← hfound]
        exact hsplit.symm
      · simp only [hentry, Option.map_some]

/-- To lease a mail changes no key. -/
theorem key?_claim {t t' : Tracking} {key : RecordKey} (h : t.claim = some (key, t')) :
    t'.key? = t.key? ∧ ∃ id, t.key? id = some key := by
  rcases t.claim_cases with ⟨hnone, -⟩ | ⟨stale, position, rest, entry, -, -, -, hentry, hclaim⟩
  · rw [hnone] at h
    cases h
  · rw [hclaim] at h
    cases h
    exact ⟨key?_of_replace hentry rfl rfl, position.id, key?_eq_some_iff.2 ⟨entry, hentry, rfl⟩⟩

theorem leaseOf?_restore_other {id k : MailId} (hk : k ≠ id) (t : Tracking) :
    (t.restore id).leaseOf? k = t.leaseOf? k := by
  rw [leaseOf?_eq, leaseOf?_eq]
  unfold restore
  dsimp only
  split
  · rfl
  · rw [entry?_insert, if_neg hk]

theorem leaseOf?_release_other {id k : MailId} (hk : k ≠ id) (t : Tracking) (now : Instant) :
    (t.release id now).leaseOf? k = t.leaseOf? k := by
  unfold release
  split
  · rfl
  · exact leaseOf?_schedule_other hk ..
  · exact leaseOf?_restore_other hk t

/-- A lease is rolled back, or it is another one. -/
theorem leaseOf?_release_cases (t : Tracking) (id : MailId) (now : Instant) (k : MailId) :
    (t.release id now).leaseOf? k = none ∨ (t.release id now).leaseOf? k = t.leaseOf? k := by
  by_cases hk : k = id
  · exact .inl (hk ▸ leaseOf?_release ..)
  · exact .inr (leaseOf?_release_other hk ..)

theorem leaseOf?_forget_other {id k : MailId} (hk : k ≠ id) (t : Tracking) :
    (t.forget id).leaseOf? k = t.leaseOf? k := by
  rw [leaseOf?_eq, leaseOf?_eq, forget, entry?_erase, if_neg hk]

/-- To lease a mail begins a lease of it for which nothing waits. -/
theorem leaseOf?_claim {t t' : Tracking} (hown : ∀ id key, t.key? id = some key → key.id = id)
    {key : RecordKey} (h : t.claim = some (key, t')) (id : MailId) :
    t'.leaseOf? id = if id = key.id then some none else t.leaseOf? id := by
  rcases t.claim_cases with ⟨hnone, -⟩ | ⟨stale, position, rest, entry, -, -, -, hentry, hclaim⟩
  · rw [hnone] at h
    cases h
  · rw [hclaim] at h
    cases h
    have hid : entry.key.id = position.id := hown _ _ (key?_eq_some_iff.2 ⟨entry, hentry, rfl⟩)
    rw [leaseOf?_eq, leaseOf?_eq, entry?_insert, hid]
    by_cases hk : id = position.id <;> simp [hk, EntryStatus.lease?]

end Tracking

end Postroom
