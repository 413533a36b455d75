import Postroom.Proofs.Record.RoundTrip
import Postroom.Store.Memory

/-!
What a queue may rely on in a store. The laws speak of what a store holds: for each key nothing, or
what its record reads as. A lawful store does what an operation says or fails and leaves what it
holds; only writing and deleting may fail. A dependable store deletes every record it holds, and a
reliable one also writes every mail that has a record. The memory store obeys these laws.
-/

namespace Postroom

/-- What a store holds under each key. -/
abbrev Holdings := RecordKey → Option (Except QueueError Mail)

namespace Holdings

def put (holdings : Holdings) (key : RecordKey) (mail : Mail) : Holdings := fun k =>
  if k = key then some (.ok mail) else holdings k

def remove (holdings : Holdings) (key : RecordKey) : Holdings := fun k =>
  if k = key then none else holdings k

@[simp] theorem put_same (holdings : Holdings) (key : RecordKey) (mail : Mail) :
    holdings.put key mail key = some (.ok mail) := if_pos rfl

theorem put_other (holdings : Holdings) {key k : RecordKey} (mail : Mail) (h : k ≠ key) :
    holdings.put key mail k = holdings k := if_neg h

@[simp] theorem remove_same (holdings : Holdings) (key : RecordKey) :
    holdings.remove key key = none := if_pos rfl

theorem remove_other (holdings : Holdings) {key k : RecordKey} (h : k ≠ key) :
    holdings.remove key k = holdings k := if_neg h

end Holdings

namespace RecordStore

variable {σ : Type}

/-- A store whose operations do what they say to what it holds, or fail and leave it as it was. -/
structure Lawful (store : RecordStore σ) (holds : σ → Holdings) : Prop where
  write_ok : ∀ {key mail s s'}, store.write key mail s = (.ok (), s') → key.id = mail.id →
    holds s' = (holds s).put key mail
  write_error : ∀ {key mail s e s'}, store.write key mail s = (.error e, s') → holds s' = holds s
  delete_ok : ∀ {key s s'}, store.delete key s = (.ok (), s') → holds s' = (holds s).remove key
  delete_error : ∀ {key s e s'}, store.delete key s = (.error e, s') → holds s' = holds s
  read : ∀ {key s result}, holds s key = some result →
    ∃ s', store.read key s = (result, s') ∧ holds s' = holds s
  list : ∀ s, ∃ keys s', store.list s = (.ok keys, s') ∧ holds s' = holds s ∧ keys.Nodup ∧
    ∀ key, key ∈ keys ↔ holds s key ≠ none

/-- A lawful store that never fails to delete a record it holds. -/
structure Dependable (store : RecordStore σ) (holds : σ → Holdings) : Prop
    extends Lawful store holds where
  delete_held : ∀ {key s}, holds s key ≠ none → ∃ s', store.delete key s = (.ok (), s')

/-- A dependable store that never fails to write a mail, as long as it is in a sound state. -/
structure Reliable (store : RecordStore σ) (holds : σ → Holdings) (sound : σ → Prop) : Prop
    extends Dependable store holds where
  write_recordable : ∀ {key mail s}, sound s → (Record.encode mail).isOk →
    ∃ s', store.write key mail s = (.ok (), s')
  write_sound : ∀ {s} key mail, sound s → sound (store.write key mail s).2
  read_sound : ∀ {s} key, sound s → sound (store.read key s).2
  delete_sound : ∀ {s} key, sound s → sound (store.delete key s).2
  list_sound : ∀ {s}, sound s → sound (store.list s).2

/-- A failed or finished deletion leaves every other record. -/
theorem Lawful.delete_other {store : RecordStore σ} {holds : σ → Holdings}
    (h : store.Lawful holds) {key k : RecordKey} (hne : k ≠ key) (s : σ) :
    holds (store.delete key s).2 k = holds s k := by
  cases hdelete : store.delete key s with
  | mk result s' =>
      cases result with
      | error e => rw [h.delete_error hdelete]
      | ok => rw [h.delete_ok hdelete, Holdings.remove_other _ hne]

end RecordStore

namespace Memory

/-- What a memory store holds. -/
def holds (memory : Memory) : Holdings := fun key =>
  memory.records[key]?.map fun record => Record.decode key record.object record.content

theorem holds_ne_none_iff (memory : Memory) (key : RecordKey) :
    memory.holds key ≠ none ↔ key ∈ memory.records := by
  simp [holds]

theorem write_eq_ok {key : RecordKey} {mail : Mail} {memory memory' : Memory}
    (h : memory.write key mail = (.ok (), memory')) :
    ∃ object, Record.encode mail = .ok object ∧
      memory' = { memory with records := memory.records.insert key ⟨object, mail.content⟩ } := by
  unfold write at h
  split at h
  · cases h
  · cases h
  · rename_i object hencode hroom
    cases h
    exact ⟨object, hencode, rfl⟩

theorem lawful : store.Lawful holds where
  write_ok {key mail memory memory'} h hid := by
    obtain ⟨object, hencode, rfl⟩ := write_eq_ok h
    funext k
    by_cases hk : k = key
    · subst hk
      simp [holds, Record.decode_encode hencode hid]
    · have hk' : key ≠ k := fun heq => hk heq.symm
      simp [holds, Holdings.put_other _ _ hk, Std.ExtTreeMap.getElem?_insert, hk']
  write_error {key mail memory e memory'} h := by
    have h : memory.write key mail = (.error e, memory') := h
    unfold write at h
    split at h <;> cases h <;> rfl
  delete_ok {key memory memory'} h := by
    have h : memory.delete key = (.ok (), memory') := h
    unfold delete at h
    split at h
    · cases h
      funext k
      by_cases hk : k = key
      · subst hk
        simp [holds]
      · have hk' : key ≠ k := fun heq => hk heq.symm
        simp [holds, Holdings.remove_other _ hk, Std.ExtTreeMap.getElem?_erase, hk']
    · cases h
  delete_error {key memory e memory'} h := by
    have h : memory.delete key = (.error e, memory') := h
    unfold delete at h
    split at h <;> cases h
    rfl
  read {key memory result} h := by
    obtain ⟨record, hrecord, hresult⟩ := Option.map_eq_some_iff.1 h
    refine ⟨memory, ?_, rfl⟩
    have hfind : memory.find key = result := by
      simp only [find, hrecord]
      exact hresult
    show (memory.find key, memory) = (result, memory)
    rw [hfind]
  list memory := by
    refine ⟨memory.records.keys, memory, rfl, rfl, Std.ExtTreeMap.nodup_keys, ?_⟩
    intro key
    rw [Std.ExtTreeMap.mem_keys, holds_ne_none_iff]

theorem dependable : store.Dependable holds where
  toLawful := lawful
  delete_held {key memory} h := by
    have hmem : memory.records.contains key = true :=
      (holds_ne_none_iff memory key).1 h
    have hdelete : memory.delete key =
        (.ok (), { memory with records := memory.records.erase key }) := by
      rw [delete, if_pos hmem]
    exact ⟨_, hdelete⟩

/-- Without a limit, every mail that has a record can be written. -/
theorem reliable : store.Reliable holds fun memory => memory.capacity = none where
  toDependable := dependable
  write_recordable {key mail memory} hunlimited hrecordable := by
    cases hencode : Record.encode mail with
    | error e => simp [hencode, Except.isOk, Except.toBool] at hrecordable
    | ok object =>
        have hwrite : memory.write key mail = (.ok (),
            { memory with records := memory.records.insert key ⟨object, mail.content⟩ }) := by
          simp only [write, hencode, overflow?, hunlimited]
        exact ⟨_, hwrite⟩
  write_sound {memory} key mail h := by
    show (memory.write key mail).2.capacity = none
    unfold write
    split <;> exact h
  read_sound _ h := h
  delete_sound {memory} key h := by
    show (memory.delete key).2.capacity = none
    unfold delete
    split <;> exact h
  list_sound h := h

/-- What is held after a mail that has a record was written, if there is no limit. -/
theorem holds_write {memory : Memory} {key : RecordKey} {mail : Mail}
    (hunlimited : memory.capacity = none) (hrecordable : (Record.encode mail).isOk)
    (hid : key.id = mail.id) : (memory.write key mail).2.holds = memory.holds.put key mail := by
  obtain ⟨written, hwrite⟩ := reliable.write_recordable hunlimited hrecordable
  have hsame : (memory.write key mail).2 = written := congrArg Prod.snd hwrite
  rw [hsame]
  exact lawful.write_ok hwrite hid

end Memory

end Postroom
