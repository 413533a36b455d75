import Postroom.Proofs.Queue.Refinement
import Postroom.Store.Faulty

/-!
Which record of a mail is retained when a queue is opened while some records cannot be read. A
record that cannot be read counts for nothing: of the others the most recently updated one stays,
and it is compared with those only that could be read at that moment. So a mail whose newest record
is out of reach for a moment falls back to an older one, and the newest is deleted.
-/

namespace Postroom

/-- A look at records while those under some keys cannot be read. -/
def View.withheld (withheld : RecordKey → Option IoError) : View := fun key record =>
  match withheld key with
  | some e => .error (.io e)
  | none => record

theorem Holdings.seen_withheld_eq_ok_iff {holdings : Holdings}
    {withheld : RecordKey → Option IoError} {key : RecordKey} {mail : Mail} :
    holdings.seen (.withheld withheld) key = some (.ok mail) ↔
      withheld key = none ∧ holdings key = some (.ok mail) := by
  cases hkey : withheld key with
  | some e => simp [Holdings.seen, View.withheld, hkey]
  | none => simp [Holdings.seen, View.withheld, hkey]

/-- The store while the records under some keys cannot be read. -/
def RecordStore.withholding {σ : Type} (store : RecordStore σ)
    (withheld : RecordKey → Option IoError) : RecordStore σ :=
  { store with
    read := fun key records =>
      match withheld key with
      | some e => (.error (.io e), records)
      | none => store.read key records }

/-- A store some of whose records cannot be read can be browsed all the same. -/
theorem RecordStore.Browsable.withholding {σ : Type} {store : RecordStore σ} {holds : σ → Holdings}
    (hstore : store.Browsable holds fun _ => id) (withheld : RecordKey → Option IoError) :
    (store.withholding withheld).Browsable holds (.withheld withheld) where
  read {key s record} h := by
    simp only [RecordStore.withholding, View.withheld]
    cases withheld key with
    | some e => exact ⟨s, rfl, rfl⟩
    | none => exact hstore.read h
  delete := hstore.delete
  list := hstore.list

namespace MailQueue

variable {σ : Type} {store : RecordStore σ} {holds : σ → Holdings}

/-- What is retained, and tracked, of some records of which those under some keys cannot be read.
The record retained of a mail was updated no earlier than any of its records that can be read; if
none can be read, it is the one with the last key. -/
structure Retains (withheld : RecordKey → Option IoError) (before after : Holdings)
    (tracking : Tracking) : Prop where
  tracked : ∀ id, tracking.key? id ≠ none ↔ ∃ key, key.id = id ∧ before key ≠ none
  kept : ∀ {id kept}, tracking.key? id = some kept →
    kept.id = id ∧ before kept ≠ none ∧ after kept = before kept
  newest : ∀ {id kept}, tracking.key? id = some kept → ∀ {key mail}, key.id = id →
    withheld key = none → before key = some (.ok mail) →
      withheld kept = none ∧ ∃ newest, before kept = some (.ok newest) ∧
      mail.updated ≤ newest.updated
  last : ∀ {id kept}, tracking.key? id = some kept →
    (∀ key mail, key.id = id → before key = some (.ok mail) → withheld key ≠ none) →
      ∀ key, key.id = id → before key ≠ none → (compare key kept).isLE
  /-- No record goes that can be read and was updated later than the one retained. -/
  deleted : ∀ {key}, after key ≠ before key → after key = none ∧
    ∃ kept, tracking.key? key.id = some kept ∧ key ≠ kept ∧
      ∀ mail, withheld key = none → before key = some (.ok mail) →
        ∃ newest, after kept = some (.ok newest) ∧ mail.updated ≤ newest.updated

/-- To open a queue while some records cannot be read retains the newest of those that can. -/
theorem recoverFrom_retains_newest_read (hstore : store.Browsable holds fun _ => id)
    (withheld : RecordKey → Option IoError) (now : Instant) (records : σ) :
    ∃ tracking records',
      recoverFrom (store.withholding withheld) now records = (.ok tracking, records') ∧
        Retains withheld (holds records) (holds records') tracking := by
  obtain ⟨kept, records', hrecover, hids, hkept, hcovers, hpruned⟩ :=
    recoverFrom_cases (hstore.withholding withheld) now records
  have htracked : ∀ id key, (recover kept now).key? id = some key ↔ key ∈ kept ∧ key.id = id :=
    (recover_spec hids now).1
  have hnewest : ∀ k ∈ kept, ∀ key mail, key.id = k.id → withheld key = none →
      holds records key = some (.ok mail) → withheld k = none ∧
        ∃ newest, holds records k = some (.ok newest) ∧ mail.updated ≤ newest.updated := by
    intro k hk key mail hid hread hheld
    obtain ⟨newest, hseen, hlate⟩ := (hkept k hk).2.2.updated ⟨by simp [hheld], hid⟩
      (Holdings.seen_withheld_eq_ok_iff.2 ⟨hread, hheld⟩)
    obtain ⟨hreadable, hnewest⟩ := Holdings.seen_withheld_eq_ok_iff.1 hseen
    exact ⟨hreadable, newest, hnewest, hlate⟩
  refine ⟨recover kept now, records', hrecover, ?_⟩
  constructor
  · intro id
    constructor
    · intro hid
      obtain ⟨key, hkey⟩ := Option.ne_none_iff_exists'.1 hid
      obtain ⟨hmem, hid⟩ := (htracked id key).1 hkey
      exact ⟨key, hid, (hkept key hmem).1⟩
    · rintro ⟨key, rfl, hheld⟩ hnone
      obtain ⟨k, hk, hid⟩ := hcovers key hheld
      rw [(htracked key.id k).2 ⟨hk, hid⟩] at hnone
      cases hnone
  · intro id k htrack
    obtain ⟨hk, rfl⟩ := (htracked id k).1 htrack
    exact ⟨rfl, (hkept k hk).1, (hkept k hk).2.1⟩
  · intro id k htrack key mail hid hread hheld
    obtain ⟨hk, rfl⟩ := (htracked id k).1 htrack
    exact hnewest k hk key mail hid hread hheld
  · intro id k htrack hnone key hid hheld
    obtain ⟨hk, rfl⟩ := (htracked id k).1 htrack
    refine (hkept k hk).2.2.last (fun j mail hj hseen => ?_) key ⟨hheld, hid⟩
    obtain ⟨hreadable, hread⟩ := Holdings.seen_withheld_eq_ok_iff.1 hseen
    exact hnone j mail hj.2 hread hreadable
  · intro key hchanged
    have hgone := (hpruned key).resolve_left hchanged
    have hheld : holds records key ≠ none := fun hnone => hchanged (hgone.trans hnone.symm)
    obtain ⟨k, hk, hid⟩ := hcovers key hheld
    have hsame := (hkept k hk).2.1
    refine ⟨hgone, k, (htracked key.id k).2 ⟨hk, hid⟩, ?_, fun mail hread hmail => ?_⟩
    · rintro rfl
      exact hchanged hsame
    · rw [hsame]
      exact (hnewest k hk key mail hid.symm hread hmail).2

end MailQueue

namespace MailQueue.Sample

/-- A mail as it was at some millisecond. -/
def version (updated : UInt64) (state : String) : Mail :=
  first.setState (.ofMillis updated) state

/-- The key of the older record is the later one. -/
def staleKey : RecordKey := ⟨9, first.id⟩

def freshKey : RecordKey := ⟨3, first.id⟩

/-- What a crash leaves between the write of a new record and the deletion of the old one. -/
def twoVersions : Memory :=
  let memory := (Memory.write staleKey (version 9 "default") (.empty none)).2
  (memory.write freshKey (version 20 "transport")).2

/-- The newer record cannot be read. -/
def busy (key : RecordKey) : Option IoError :=
  if key = freshKey then some (.other "busy") else none

/-- The older record is retained while the newer one cannot be read. -/
theorem recoverFrom_retains_newest_read_of_two :
    Memory.store.Browsable Memory.holds (fun _ => id) ∧
      ∃ tracking records',
        recoverFrom (Memory.store.withholding busy) (.ofMillis 30) twoVersions =
          (.ok tracking, records') ∧
        Retains busy twoVersions.holds records'.holds tracking :=
  ⟨Memory.lawful.browsable,
    recoverFrom_retains_newest_read Memory.lawful.browsable busy (.ofMillis 30) twoVersions⟩

theorem holds_twoVersions : twoVersions.holds staleKey = some (.ok (version 9 "default")) ∧
    twoVersions.holds freshKey = some (.ok (version 20 "transport")) := by
  have hstale : (Record.encode (version 9 "default")).isOk = true := rfl
  have hfresh : (Record.encode (version 20 "transport")).isOk = true := rfl
  have hempty : (Memory.empty none).capacity = none := rfl
  have hheld : twoVersions.holds =
      ((Memory.write staleKey (version 9 "default") (.empty none)).2.holds).put freshKey
        (version 20 "transport") :=
    Memory.holds_write (Memory.reliable.write_sound _ _ hempty) hfresh rfl
  have hdistinct : staleKey ≠ freshKey := by decide
  rw [hheld, Memory.holds_write hempty hstale rfl, Holdings.put_other _ _ hdistinct]
  exact ⟨Holdings.put_same .., Holdings.put_same ..⟩

/-- Whether the older record is tracked and the newer one is gone. -/
def fallsBack : Answer FaultyMemory Tracking → Bool
  | (.ok tracking, store) =>
      decide (tracking.key? first.id = some staleKey) && store.memory.records[freshKey]?.isNone
  | _ => false

/-- If no record can be read for a moment, the newest one may be deleted. -/
theorem recoverFrom_deletes_newest :
    twoVersions.holds staleKey = some (.ok (version 9 "default")) ∧
      twoVersions.holds freshKey = some (.ok (version 20 "transport")) ∧
      (version 9 "default").updated < (version 20 "transport").updated ∧
      ∃ tracking store', recoverFrom FaultyMemory.store (.ofMillis 30)
          { memory := twoVersions, faults := { reads := true } } = (.ok tracking, store') ∧
        tracking.key? first.id = some staleKey ∧ store'.memory.holds freshKey = none := by
  refine ⟨holds_twoVersions.1, holds_twoVersions.2, by decide, ?_⟩
  have hback : fallsBack (recoverFrom FaultyMemory.store (.ofMillis 30)
      { memory := twoVersions, faults := { reads := true } }) = true := by decide +kernel
  rcases hrecover : recoverFrom FaultyMemory.store (.ofMillis 30)
      { memory := twoVersions, faults := { reads := true } } with ⟨e | tracking, store'⟩
  · rw [hrecover] at hback
    cases hback
  · rw [hrecover] at hback
    simp only [fallsBack, Bool.and_eq_true, decide_eq_true_eq, Option.isNone_iff_eq_none] at hback
    exact ⟨tracking, store', rfl, hback.1, by simp [Memory.holds, hback.2]⟩

end MailQueue.Sample

end Postroom
