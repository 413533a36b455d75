import Postroom.Proofs.Store.Laws

/-!
Failures and crashes of a store. Some of its writes and deletions may be refused, in any pattern; a
store that refuses them is lawful too. And a store may keep a journal of what it was after every
write and every deletion, whether or not they succeeded; a crash leaves one of the states in the
journal.
-/

namespace Postroom

namespace RecordStore

variable {σ : Type} {store : RecordStore σ} {holds : σ → Holdings}

/-- The answer of a store that has something beside it. -/
def beside {α β : Type} (answer : Answer σ α) (extra : β) : Answer (σ × β) α :=
  (answer.1, answer.2, extra)

/-- What a store holds that has something beside it. -/
def current {β : Type} (holds : σ → Holdings) : σ × β → Holdings := fun s => holds s.1

theorem of_beside {α β : Type} {answer : Answer σ α} {extra : β} {result : Except QueueError α}
    {s' : σ × β} (h : beside answer extra = (result, s')) : answer = (result, s'.1) := by
  cases h
  rfl

/-- A store some of whose writes and deletions are refused. Each of them takes the next entry of a
schedule, and is refused if that is true. -/
def refusing (store : RecordStore σ) (e : QueueError) : RecordStore (σ × List Bool) where
  write key mail s :=
    if s.2.head? = some true then (.error e, s.1, s.2.tail)
    else beside (store.write key mail s.1) s.2.tail
  read key s := beside (store.read key s.1) s.2
  delete key s :=
    if s.2.head? = some true then (.error e, s.1, s.2.tail)
    else beside (store.delete key s.1) s.2.tail
  quarantine key s := beside (store.quarantine key s.1) s.2
  list s := beside (store.list s.1) s.2
  disk? s := store.disk? s.1
  onDisk disk s := (store.onDisk disk s.1, s.2)

theorem Lawful.read_beside {β : Type} (h : store.Lawful holds) {key : RecordKey} {s : σ × β}
    {result : Except QueueError Mail} (hheld : current holds s key = some result) :
    ∃ s', beside (store.read key s.1) s.2 = (result, s') ∧ current holds s' = current holds s := by
  obtain ⟨s', hread, hsame⟩ := h.read hheld
  exact ⟨(s', s.2), by rw [hread]; rfl, hsame⟩

theorem Lawful.list_beside {β : Type} (h : store.Lawful holds) (s : σ × β) :
    ∃ keys s', beside (store.list s.1) s.2 = (.ok keys, s') ∧ current holds s' = current holds s ∧
      keys.Nodup ∧ ∀ key, key ∈ keys ↔ current holds s key ≠ none := by
  obtain ⟨keys, s', hlist, hsame, hkeys⟩ := h.list s.1
  exact ⟨keys, (s', s.2), by rw [hlist]; rfl, hsame, hkeys⟩

/-- The laws allow for every pattern of refusals. -/
theorem Lawful.refusing (h : store.Lawful holds) (e : QueueError) :
    (store.refusing e).Lawful (current holds) where
  write_ok {key mail s s'} hwrite hid := by
    simp only [RecordStore.refusing] at hwrite
    split at hwrite
    · cases hwrite
    · exact h.write_ok (of_beside hwrite) hid
  write_error {key mail s e' s'} hwrite := by
    simp only [RecordStore.refusing] at hwrite
    split at hwrite
    · cases hwrite
      rfl
    · exact h.write_error (of_beside hwrite)
  delete_ok {key s s'} hdelete := by
    simp only [RecordStore.refusing] at hdelete
    split at hdelete
    · cases hdelete
    · exact h.delete_ok (of_beside hdelete)
  delete_error {key s e' s'} hdelete := by
    simp only [RecordStore.refusing] at hdelete
    split at hdelete
    · cases hdelete
      rfl
    · exact h.delete_error (of_beside hdelete)
  read hheld := h.read_beside hheld
  list s := h.list_beside s

/-- An answer with the state after it noted down. -/
def noted {α : Type} (answer : Answer σ α) (journal : List σ) : Answer (σ × List σ) α :=
  beside answer (journal ++ [answer.2])

/-- A store with a journal of the states that its writes and deletions have left. -/
def journaled (store : RecordStore σ) : RecordStore (σ × List σ) where
  write key mail s := noted (store.write key mail s.1) s.2
  read key s := beside (store.read key s.1) s.2
  delete key s := noted (store.delete key s.1) s.2
  quarantine key s := noted (store.quarantine key s.1) s.2
  list s := beside (store.list s.1) s.2
  disk? s := store.disk? s.1
  onDisk disk s := (store.onDisk disk s.1, s.2)

theorem Lawful.journaled (h : store.Lawful holds) : store.journaled.Lawful (current holds) where
  write_ok hwrite hid := h.write_ok (of_beside hwrite) hid
  write_error hwrite := h.write_error (of_beside hwrite)
  delete_ok hdelete := h.delete_ok (of_beside hdelete)
  delete_error hdelete := h.delete_error (of_beside hdelete)
  read hheld := h.read_beside hheld
  list s := h.list_beside s

/-- Whether all that a journal says was held was good. -/
def Always (holds : σ → Holdings) (good : Holdings → Prop) (s : σ × List σ) : Prop :=
  ∀ past ∈ s.2, good (holds past)

theorem always_noted {good : Holdings → Prop} {α : Type} {answer : Answer σ α} {s : σ × List σ}
    (h : Always holds good s) (hgood : good (holds answer.2)) :
    Always holds good (noted answer s.2).2 := by
  intro past hpast
  rcases List.mem_append.1 hpast with hold | hnew
  · exact h past hold
  · rw [List.mem_singleton.1 hnew]
    exact hgood

theorem always_write {good : Holdings → Prop} {s : σ × List σ} (key : RecordKey) (mail : Mail)
    (h : Always holds good s) (hgood : good (current holds (store.journaled.write key mail s).2)) :
    Always holds good (store.journaled.write key mail s).2 :=
  always_noted h hgood

theorem always_delete {good : Holdings → Prop} {s : σ × List σ} (key : RecordKey)
    (h : Always holds good s) (hgood : good (current holds (store.journaled.delete key s).2)) :
    Always holds good (store.journaled.delete key s).2 :=
  always_noted h hgood

end RecordStore

end Postroom
