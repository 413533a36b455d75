import Postroom.Proofs.Store.Removal
import Postroom.Store.Vault

/-!
A store in a directory and one in memory are the same map of records. Under each key the directory
has the two files whose bytes the memory has, so whatever is asked of both, the same calls succeed,
the same keys are listed and equal mails are read. They differ in what they say of a failure, and in
what they keep of deleted and unreadable records, which neither of them shows.
-/

namespace Postroom

/-- What can be asked of a store. -/
inductive StoreCall where
  | write (key : RecordKey) (mail : Mail)
  | read (key : RecordKey)
  | delete (key : RecordKey)
  | list
  | quarantine (key : RecordKey)
  | prepare

inductive StoreReply where
  | done
  | mail (mail : Mail)
  | keys (keys : List RecordKey)
  | failed (error : QueueError)

namespace StoreReply

/-- The reply that an answer comes to. -/
def of {α : Type} (reply : α → StoreReply) : Except QueueError α → StoreReply
  | .ok a => reply a
  | .error e => .failed e

/-- Whether two replies are the same, but for the reason of a failure. -/
inductive Agrees : StoreReply → StoreReply → Prop where
  | same (reply : StoreReply) : Agrees reply reply
  | failed (e e' : QueueError) : Agrees (.failed e) (.failed e')

end StoreReply

namespace Vault

/-- What a store replies to a call, and the store after it. -/
def perform (vault : Vault) : StoreCall → StoreReply × Vault
  | .write key mail => answered (fun _ => .done) (vault.write key mail)
  | .read key => answered .mail (vault.read key)
  | .delete key => answered (fun _ => .done) (vault.delete key)
  | .list => answered .keys vault.list
  | .quarantine key => answered (fun _ => .done) (vault.quarantine key)
  | .prepare => answered (fun _ => .done) vault.prepare
where
  answered {α : Type} (reply : α → StoreReply) (answer : Answer Vault α) : StoreReply × Vault :=
    (.of reply answer.1, answer.2)

/-- What a store replies to calls that come one after the other. -/
def replies (vault : Vault) : List StoreCall → List StoreReply
  | [] => []
  | call :: rest => (vault.perform call).1 :: (vault.perform call).2.replies rest

/-- Whether a key is listed. -/
def Holds (vault : Vault) (key : RecordKey) : Prop :=
  ∃ listed, (vault.perform .list).1 = .keys listed ∧ key ∈ listed

/-- Whether each key that is put aside is there at that time. -/
def AsidePresent (vault : Vault) : List StoreCall → Prop
  | [] => True
  | call :: rest => (∀ key, call = .quarantine key → vault.Holds key) ∧
      (vault.perform call).2.AsidePresent rest

end Vault

def StoredRecord.part (record : StoredRecord) : RecordPart → List UInt8
  | .object => record.object
  | .content => record.content.bytes

namespace Memory

variable {memory : Memory} {key : RecordKey}

/-- The records of a memory by their parts. -/
def parts (memory : Memory) : Parts := fun key part =>
  memory.records[key]?.map (·.part part)

theorem listed_parts : memory.parts.Listed key ↔ key ∈ memory.records := by
  rw [Std.ExtTreeMap.mem_iff_isSome_getElem?, Parts.Listed, parts, parts]
  cases memory.records[key]? <;> simp

theorem parts_insert (object : List UInt8) (content : Content) :
    ({ memory with records := memory.records.insert key ⟨object, content⟩ } : Memory).parts =
      (memory.parts.set key .content (some content.bytes)).set key .object (some object) := by
  funext k part
  by_cases hk : k = key
  · subst hk
    cases part <;> simp [parts, Parts.set, StoredRecord.part]
  · simp [parts, Parts.set, hk, Std.ExtTreeMap.getElem?_insert, Ne.symm hk]

theorem parts_erase : ({ memory with records := memory.records.erase key } : Memory).parts =
    (memory.parts.set key .object none).set key .content none := by
  funext k part
  by_cases hk : k = key
  · subst hk
    cases part <;> simp [parts, Parts.set]
  · simp [parts, Parts.set, hk, Std.ExtTreeMap.getElem?_erase, Ne.symm hk]

theorem delete_eq_ok (h : key ∈ memory.records) :
    memory.delete key = (.ok (), { memory with records := memory.records.erase key }) := by
  rw [delete, if_pos (Std.ExtTreeMap.contains_iff_mem.2 h)]

end Memory

namespace QueueDirectory

open Disk (FileStep)

variable {directory : QueueDirectory} {disk disk' : Disk} {home : Location} {files : Files}
  {memory : Memory} {key : RecordKey}

/-- The deletion of a pair takes both parts away. -/
theorem Kept.delete_pair (h : Kept directory disk home files) (hpair : files.parts.Listed key) :
    ∃ disk', ∃ files' : Files, directory.delete key disk = (.ok (), disk') ∧
      Kept directory disk' home files' ∧
      files'.parts = (files.parts.set key .object none).set key .content none := by
  obtain ⟨disk', hrun, hregular⟩ := h.regular.run_deleteSteps hpair 4
  have hall : (directory.deleteSteps key).take 4 = directory.deleteSteps key := rfl
  rw [hall] at hrun
  have hleaves := DiskStep.leaves_run disk (directory.deleteSteps key)
  rw [hrun] at hleaves
  obtain ⟨files', hkept⟩ := h.delete hleaves
  have hsame : files' = files.deleted key 4 := hkept.folder.files_eq hregular.folder
  refine ⟨disk', files', ?_, hkept, hsame ▸ Files.parts_deleted_four⟩
  rw [QueueDirectory.delete, hrun]
  rfl

/-- Where there is no object, nothing is deleted. -/
theorem Kept.delete_absent (h : Kept directory disk home files)
    (hnone : files.parts key .object = none) :
    ∃ disk', directory.delete key disk = (.error (.io .noEntry), disk') ∧
      Kept directory disk' home files := by
  have hfirst : FileStep.run files (deleting key) = (.error .noEntry, files) := by
    have hfile : files (nameOf .placed key .object) = none := hnone
    simp only [deleting, FileStep.run, FileStep.apply, hfile]
  obtain ⟨disk', hrun, hfolder⟩ := h.folder.run_inside (plain_deleting key)
  rw [hfirst] at hrun hfolder
  refine ⟨disk', ?_, h.path, hfolder, h.own, h.paired⟩
  rw [QueueDirectory.delete, deleteSteps_eq, hrun]
  rfl

theorem Kept.putAside_ok (h : Kept directory disk home files) (key : RecordKey)
    (part : RecordPart) :
    ∃ disk', directory.putAside disk (key.fileName part) = .ok disk' := by
  have hsource : directory.file (key.fileName part) =
      directory.path.components ++ [nameOf .placed key part] := rfl
  have htarget : directory.file (key.fileName part ++ corruptMark) =
      directory.path.components ++ [nameOf .corrupt key part] := rfl
  unfold QueueDirectory.putAside
  rw [hsource, htarget]
  obtain ⟨bytes, moved, -, hrename, -⟩ | ⟨-, hrename⟩ := h.folder.rename_entry
    (plain_nameOf .placed key part) (plain_nameOf .corrupt key part)
  · rw [hrename]
    exact ⟨moved, rfl⟩
  · rw [hrename]
    exact ⟨disk, rfl⟩

/-- To put a pair aside takes away what there is of it. -/
theorem Kept.quarantined (h : Kept directory disk home files) (key : RecordKey) :
    ∃ disk', ∃ files' : Files, directory.quarantine key disk = (.ok (), disk') ∧
      Kept directory disk' home files' ∧
      files'.parts = (files.parts.set key .object none).set key .content none := by
  obtain ⟨middle, hobject⟩ := h.putAside_ok key .object
  obtain ⟨files', hmiddle, hparts⟩ := h.putAside (by simp) hobject
  have hgone : files'.parts key .object = none := by
    rw [hparts]
    simp [Parts.set]
  obtain ⟨disk', hcontent⟩ := hmiddle.putAside_ok key .content
  obtain ⟨files'', hkept, hparts'⟩ := hmiddle.putAside (fun _ => hgone) hcontent
  refine ⟨disk', files'', ?_, hkept, by rw [hparts', hparts]⟩
  rw [QueueDirectory.quarantine, hobject]
  dsimp only
  rw [hcontent]

/-- The keys of pairs and those of a map come in the same order. -/
theorem pairsOf_eq_keys {names : List String} {records : Std.ExtTreeMap RecordKey StoredRecord}
    (h : ∀ key, key ∈ pairsOf names ↔ key ∈ records) : pairsOf names = records.keys := by
  have hordered : (pairsOf names).Pairwise fun a b => compare a b = .lt :=
    Std.ExtTreeSet.ordered_toList
  have hkeys : records.keys.Pairwise fun a b => compare a b = .lt := Std.ExtTreeMap.ordered_keys
  have hnodup : (pairsOf names).Nodup := hordered.imp fun hlt heq => by
    subst heq
    simp at hlt
  have hantisymm : ∀ a b : RecordKey, compare a b = .lt → compare b a = .lt → a = b :=
    fun a b hab hba => absurd hba (Std.OrientedCmp.not_lt_of_lt hab)
  refine List.Perm.eq_of_pairwise (fun a b _ _ => hantisymm a b) hordered hkeys ?_
  rw [List.perm_ext_iff_of_nodup hnodup Std.ExtTreeMap.nodup_keys]
  intro key
  rw [h, Std.ExtTreeMap.mem_keys]

/-- A directory with the records that an unlimited memory has. -/
structure Mirrors (directory : QueueDirectory) (disk : Disk) (home : Location) (files : Files)
    (memory : Memory) : Prop extends Kept directory disk home files where
  unlimited : memory.capacity = none
  parts : files.parts = memory.parts

/-- Whether two answers come to replies that agree, and leave the same records. -/
def Alike {α : Type} (directory : QueueDirectory) (reply : α → StoreReply) (answer : Answer Disk α)
    (answer' : Answer Memory α) : Prop :=
  StoreReply.Agrees (.of reply answer.1) (.of reply answer'.1) ∧
    ∃ home files, Mirrors directory answer.2 home files answer'.2

theorem Mirrors.write (h : Mirrors directory disk home files memory) (key : RecordKey)
    (mail : Mail) :
    Alike directory (fun _ => .done) (directory.write key mail disk) (memory.write key mail) := by
  cases hencode : Record.encode mail with
  | error e =>
      have hdisk : directory.write key mail disk = (.error e, disk) := by
        rw [QueueDirectory.write, hencode]
      have hmemory : memory.write key mail = (.error e, memory) := by
        rw [Memory.write, hencode]
      rw [hdisk, hmemory]
      exact ⟨.failed e e, home, files, h⟩
  | ok object =>
      obtain ⟨disk', files', hdisk, hkept, hparts⟩ := h.write_ok key hencode
      have hmemory : memory.write key mail =
          (.ok (), { memory with records :=
            memory.records.insert key ⟨object, mail.content⟩ }) := by
        rw [Memory.write, hencode, Memory.overflow?, h.unlimited]
      rw [hdisk, hmemory]
      refine ⟨.same .done, home, files', hkept, h.unlimited, ?_⟩
      rw [hparts, h.parts, Memory.parts_insert]

theorem Mirrors.read (h : Mirrors directory disk home files memory) (key : RecordKey) :
    Alike directory .mail (directory.read key disk) (memory.read key) := by
  refine ⟨?_, home, files, h⟩
  rw [QueueDirectory.read, Memory.read, find_eq_mailAt h.folder, h.parts, Parts.mailAt, Memory.find,
    Memory.parts, Memory.parts]
  cases memory.records[key]? with
  | none => exact .failed _ _
  | some record => exact .same _

theorem Mirrors.list (h : Mirrors directory disk home files memory) :
    Alike directory .keys (directory.list disk) memory.list := by
  obtain ⟨names, hshows, hlisted⟩ := h.regular.shows
  have hkeys : pairsOf names = memory.records.keys := pairsOf_eq_keys fun key => by
    rw [hlisted, h.parts, Memory.listed_parts]
  rw [hshows.list, hkeys]
  exact ⟨.same _, home, files, h⟩

/-- To delete what is not there changes nothing on either side. -/
theorem Mirrors.delete (h : Mirrors directory disk home files memory) (key : RecordKey) :
    Alike directory (fun _ => .done) (directory.delete key disk) (memory.delete key) := by
  by_cases hkey : key ∈ memory.records
  · have hpair : files.parts.Listed key := by
      rw [h.parts, Memory.listed_parts]
      exact hkey
    obtain ⟨disk', files', hdelete, hkept, hparts⟩ := h.delete_pair hpair
    rw [hdelete, Memory.delete_eq_ok hkey]
    refine ⟨.same .done, home, files', hkept, h.unlimited, ?_⟩
    rw [hparts, h.parts, Memory.parts_erase]
  · have hnone : files.parts key .object = none := by
      rw [h.parts, Memory.parts, Std.ExtTreeMap.getElem?_eq_none hkey]
      rfl
    obtain ⟨disk', hdelete, hkept⟩ := h.delete_absent hnone
    have hmemory : memory.delete key = (.error (.notFound key.id), memory) := by
      rw [Memory.delete, if_neg (by simpa using hkey)]
    rw [hdelete, hmemory]
    exact ⟨.failed _ _, home, files, hkept, h.unlimited, h.parts⟩

theorem Mirrors.quarantine (h : Mirrors directory disk home files memory)
    (hkey : key ∈ memory.records) :
    Alike directory (fun _ => .done) (directory.quarantine key disk) (memory.delete key) := by
  obtain ⟨disk', files', hquarantine, hkept, hparts⟩ := h.quarantined key
  rw [hquarantine, Memory.delete_eq_ok hkey]
  refine ⟨.same .done, home, files', hkept, h.unlimited, ?_⟩
  rw [hparts, h.parts, Memory.parts_erase]

theorem Mirrors.prepare (h : Mirrors directory disk home files memory) :
    Alike directory (fun _ => .done) (directory.prepare disk) (.ok (), memory) := by
  obtain ⟨disk', hprepare, hkept⟩ := h.prepared
  rw [hprepare]
  refine ⟨.same .done, home, _, hkept, h.unlimited, ?_⟩
  rw [Files.parts_swept, h.parts]

/-- An empty directory has the records of an empty memory. -/
theorem mirrors_empty (hpath : Disk.checkPath directory.path = .ok ())
    (hempty : disk.list directory.path.components = .ok []) :
    ∃ home files, Mirrors directory disk home files (.empty none) := by
  obtain ⟨home, hfolder⟩ := folder_of_list hempty
  refine ⟨home, _, ⟨hpath, hfolder, fun name hfile => absurd rfl hfile,
    fun key hfile => absurd rfl hfile⟩, rfl, ?_⟩
  funext key part
  simp [Files.parts, Memory.parts, Memory.empty]

end QueueDirectory

namespace Vault

open StoreReply (Agrees)

variable {vault vault' : Vault} {directory : QueueDirectory}

/-- A store in a directory and one in memory that have the same records. -/
inductive Mirrors : Vault → Vault → Prop where
  | intro {directory : QueueDirectory} {disk : Disk} {home : Location} {files : Files}
      {memory : Memory} :
      QueueDirectory.Mirrors directory disk home files memory →
      Mirrors (.directory directory disk) (.memory memory)

theorem agrees_of_alike {α : Type} {reply : α → StoreReply} {answer : Answer Disk α}
    {answer' : Answer Memory α} (h : QueueDirectory.Alike directory reply answer answer') :
    Agrees (.of reply answer.1) (.of reply answer'.1) ∧
      Mirrors (.directory directory answer.2) (.memory answer'.2) := by
  obtain ⟨hagrees, home, files, hmirrors⟩ := h
  exact ⟨hagrees, .intro hmirrors⟩

/-- A call gets replies that agree, and leaves the same records on both sides. -/
theorem Mirrors.perform (h : Mirrors vault vault') {call : StoreCall}
    (hpresent : ∀ key, call = .quarantine key → vault'.Holds key) :
    Agrees (vault.perform call).1 (vault'.perform call).1 ∧
      Mirrors (vault.perform call).2 (vault'.perform call).2 := by
  obtain ⟨h⟩ := h
  cases call with
  | write key mail => exact agrees_of_alike (h.write key mail)
  | read key => exact agrees_of_alike (h.read key)
  | delete key => exact agrees_of_alike (h.delete key)
  | list => exact agrees_of_alike h.list
  | quarantine key =>
      obtain ⟨listed, hlisted, hkey⟩ := hpresent key rfl
      cases hlisted
      exact agrees_of_alike (h.quarantine (Std.ExtTreeMap.mem_keys.1 hkey))
  | prepare => exact agrees_of_alike h.prepare

theorem Mirrors.replies (h : Mirrors vault vault') {calls : List StoreCall}
    (hpresent : vault'.AsidePresent calls) :
    List.Forall₂ Agrees (vault.replies calls) (vault'.replies calls) := by
  induction calls generalizing vault vault' with
  | nil => exact .nil
  | cons call rest ih =>
      obtain ⟨hnow, hlater⟩ := hpresent
      obtain ⟨hagrees, hmirrors⟩ := h.perform hnow
      exact .cons hagrees (ih hmirrors hlater)

/-- Whatever is asked of a store in an empty directory and of an empty one in memory, the replies
agree. -/
theorem replies_agree {disk : Disk} (hpath : Disk.checkPath directory.path = .ok ())
    (hempty : disk.list directory.path.components = .ok []) {calls : List StoreCall}
    (hpresent : (Vault.memory (.empty none)).AsidePresent calls) :
    List.Forall₂ Agrees ((Vault.directory directory disk).replies calls)
      ((Vault.memory (.empty none)).replies calls) := by
  obtain ⟨home, files, hmirrors⟩ := QueueDirectory.mirrors_empty hpath hempty
  exact (Mirrors.intro hmirrors).replies hpresent

end Vault

namespace Vault.Sample

open QueueDirectory.Sample (spool blank list_blank key older newer encodes)

/-- A pair is put aside, after which it cannot be read, nor deleted. -/
def calls : List StoreCall :=
  [.prepare, .write key older, .list, .quarantine key, .read key, .delete key,
    .write key newer, .list]

theorem asidePresent_calls : (Vault.memory (.empty none)).AsidePresent calls := by
  obtain ⟨object, hencode⟩ : ∃ object, Record.encode older = .ok object := encodes (by simp)
  have hwrite : Memory.write key older (.empty none) =
      (.ok (), ⟨(∅ : Std.ExtTreeMap RecordKey StoredRecord).insert key ⟨object, older.content⟩,
        none⟩) := by
    rw [Memory.write, hencode]
    rfl
  have hkey : key ∈ (Memory.write key older (.empty none)).2.records.keys := by
    rw [hwrite]
    simp
  refine ⟨nofun, nofun, nofun, ?_, nofun, nofun, nofun, nofun, trivial⟩
  rintro _ ⟨⟩
  exact ⟨_, rfl, hkey⟩

theorem replies_agree_of_aside : Disk.checkPath spool.path = .ok () ∧
    blank.list spool.path.components = .ok [] ∧ (Vault.memory (.empty none)).AsidePresent calls ∧
    List.Forall₂ StoreReply.Agrees ((Vault.directory spool blank).replies calls)
      ((Vault.memory (.empty none)).replies calls) := by
  have hpath : Disk.checkPath spool.path = .ok () := by decide
  exact ⟨hpath, list_blank, asidePresent_calls, replies_agree hpath list_blank asidePresent_calls⟩

end Vault.Sample

end Postroom
