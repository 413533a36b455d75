import Postroom.Proofs.Store.Agreement
import Postroom.Proofs.Store.Separation

/-!
What it does to put records aside. A memory store removes them, as it has no place for them. A
directory keeps every byte: what there is of a record gets a name under which it is not looked for,
and all else stays under its own. This needs nothing of the record, of which a part or both may be
missing or hold any bytes, and little of the directory: in it may be whatever does not stand in the
way of the store.
-/

namespace Postroom

namespace Disk

variable {disk disk' : Disk} {names : List String} {home : Location}

/-- A directory that is named without a way up stands where its names say. -/
theorem locate_of_directory (hup : ".." ∉ names) (h : disk.find names = .ok .directory) :
    disk.locate names = .ok names ∧ disk.node? names = some .directory := by
  obtain ⟨goal, hlocate, hnode⟩ := find_eq_ok_iff.1 h
  obtain rfl := locate_eq_self hup hlocate
  exact ⟨hlocate, hnode⟩

end Disk

theorem Record.decode_lost {key : RecordKey} {object : List UInt8} {content : Content}
    {e : QueueError} (h : Record.decode key object content = .error e) : e.isTransient = false := by
  unfold Record.decode at h
  split at h
  · cases h
    rfl
  · split at h
    · cases h
    · cases h
      rfl

theorem Memory.find_lost {memory : Memory} {key : RecordKey} {e : QueueError}
    (h : memory.find key = .error e) : e.isTransient = false := by
  unfold Memory.find at h
  split at h
  · cases h
    rfl
  · exact Record.decode_lost h

namespace QueueDirectory

variable {directory : QueueDirectory} {disk disk' middle : Disk} {key : RecordKey}
  {keys : List RecordKey}

@[simp] theorem file_nameOf_inj {mark mark' : Mark} {k k' : RecordKey} {p p' : RecordPart} :
    directory.file (nameOf mark k p) = directory.file (nameOf mark' k' p') ↔
      mark = mark' ∧ k = k' ∧ p = p' := by
  rw [← Files.nameOf_inj]
  simp [file]

/-- A directory with anything in it that does not stand in the way of a store: what has a name that
a store gives to record files is no directory. -/
structure Sound (directory : QueueDirectory) (disk : Disk) : Prop where
  direct : directory.Direct
  home : disk.find directory.path.components = .ok .directory
  files : ∀ mark key part, disk.node? (directory.file (nameOf mark key part)) ≠ some .directory

/-- The parts that are in place on a disk. -/
def partsOn (directory : QueueDirectory) (disk : Disk) : Parts := fun key part =>
  match disk.node? (directory.file (nameOf .placed key part)) with
  | some (.file bytes) => some bytes
  | _ => none

theorem Sound.readPart (h : directory.Sound disk) (key : RecordKey) (part : RecordPart) :
    directory.readPart disk key part =
      (directory.partsOn disk key part).elim (.error (.corrupt key (.missing part))) .ok := by
  obtain ⟨hlocate, hhome⟩ := Disk.locate_of_directory h.direct h.home
  have hfind := Disk.find_append hlocate hhome (plain_nameOf .placed key part)
  have hfile : directory.file (key.fileName part) =
      directory.path.components ++ [nameOf .placed key part] := rfl
  have hnot := h.files .placed key part
  unfold QueueDirectory.readPart partsOn Disk.read
  rw [hfile, hfind]
  rw [file] at hnot ⊢
  cases hnode : disk.node? (directory.path.components ++ [nameOf .placed key part]) with
  | none => rfl
  | some node =>
      cases node with
      | directory => exact absurd hnode hnot
      | file bytes => rfl

/-- What is read under a key depends on the parts in place alone. -/
theorem Sound.find_eq_mailAt (h : directory.Sound disk) (key : RecordKey) :
    directory.find disk key = (directory.partsOn disk).mailAt key := by
  unfold find Parts.mailAt
  rw [h.readPart, h.readPart]
  cases directory.partsOn disk key .object with
  | none => rfl
  | some object => cases directory.partsOn disk key .content <;> rfl

/-- What cannot be read never can. -/
theorem Sound.find_lost (h : directory.Sound disk) {e : QueueError}
    (hfind : directory.find disk key = .error e) : e.isTransient = false := by
  rw [h.find_eq_mailAt, Parts.mailAt] at hfind
  split at hfind
  · cases hfind
    rfl
  · cases hfind
    rfl
  · exact Record.decode_lost hfind

/-- What is where once a part of a record has been put aside. -/
def Shelved (directory : QueueDirectory) (key : RecordKey) (part : RecordPart) (disk disk' : Disk) :
    Prop :=
  ∀ location, disk'.node? location =
    if location = directory.file (nameOf .corrupt key part) then
      (disk.node? (directory.file (nameOf .placed key part))).or (disk.node? location)
    else if location = directory.file (nameOf .placed key part) then none
    else disk.node? location

/-- A directory stays sound. -/
theorem Sound.shelved (h : directory.Sound disk) {part : RecordPart}
    (hshelved : directory.Shelved key part disk disk') : directory.Sound disk' := by
  obtain ⟨hlocate, hhome⟩ := Disk.locate_of_directory h.direct h.home
  have hplaced := h.files .placed key part
  have hcorrupt := h.files .corrupt key part
  have hkept : ∀ location, disk.node? location = some .directory →
      disk'.node? location = some .directory := by
    intro location hdirectory
    rw [hshelved, if_neg, if_neg, hdirectory]
    · rintro rfl
      exact hplaced hdirectory
    · rintro rfl
      exact hcorrupt hdirectory
  refine ⟨h.direct, ?_, fun mark k p => ?_⟩
  · exact Disk.find_eq_ok_iff.2 ⟨_, Disk.locate_of_directories hkept hlocate, hkept _ hhome⟩
  · rw [hshelved]
    have hfiles := h.files mark k p
    split
    · cases hnode : disk.node? (directory.file (nameOf .placed key part)) with
      | none => simpa using hfiles
      | some node => simpa [hnode] using hplaced
    · split
      · simp
      · exact hfiles

/-- To put a part aside succeeds, whether or not it is there. -/
theorem Sound.putAside (h : directory.Sound disk) (key : RecordKey) (part : RecordPart) :
    ∃ disk', directory.putAside disk (key.fileName part) = .ok disk' ∧
      directory.Shelved key part disk disk' := by
  obtain ⟨hlocate, hhome⟩ := Disk.locate_of_directory h.direct h.home
  have hplain := plain_nameOf .placed key part
  have hsource : directory.file (key.fileName part) = directory.file (nameOf .placed key part) :=
    rfl
  have htarget : directory.file (key.fileName part ++ corruptMark) =
      directory.file (nameOf .corrupt key part) := rfl
  unfold QueueDirectory.putAside
  rw [hsource, htarget]
  cases hnode : disk.node? (directory.file (nameOf .placed key part)) with
  | none =>
      have hmissing : disk.rename (directory.file (nameOf .placed key part))
          (directory.file (nameOf .corrupt key part)) = .error .noEntry :=
        Disk.rename_missing hlocate hhome hplain hnode
      rw [hmissing]
      refine ⟨disk, rfl, fun location => ?_⟩
      rw [hnode, Option.none_or]
      split_ifs with hcorrupt hplaced
      · rfl
      · rw [hplaced, hnode]
      · rfl
  | some node =>
      cases node with
      | directory => exact absurd hnode (h.files .placed key part)
      | file bytes =>
          obtain ⟨disk', hrename, hnodes⟩ := Disk.rename_file hlocate hhome hplain
            (plain_nameOf .corrupt key part)
            (by simp [Files.nameOf_inj]) hnode (h.files .corrupt key part)
          have hmoved : disk.rename (directory.file (nameOf .placed key part))
              (directory.file (nameOf .corrupt key part)) = .ok disk' := hrename
          rw [hmoved]
          refine ⟨disk', rfl, fun location => ?_⟩
          rw [hnode]
          exact hnodes location

/-- What is where once some records have been put aside: nothing in place, each part that was in
place under the name of a corrupt one, and all else where it was. -/
structure PutAside (directory : QueueDirectory) (keys : List RecordKey)
    (disk disk' : Disk) : Prop where
  placed : ∀ key ∈ keys, ∀ part, disk'.node? (directory.file (nameOf .placed key part)) = none
  corrupt : ∀ key ∈ keys, ∀ part, disk'.node? (directory.file (nameOf .corrupt key part)) =
    (disk.node? (directory.file (nameOf .placed key part))).or
      (disk.node? (directory.file (nameOf .corrupt key part)))
  others : ∀ location, (∀ key ∈ keys, ∀ part, location ≠ directory.file (nameOf .placed key part) ∧
    location ≠ directory.file (nameOf .corrupt key part)) →
      disk'.node? location = disk.node? location

theorem PutAside.nil : directory.PutAside [] disk disk where
  placed := by simp
  corrupt := by simp
  others _ _ := rfl

/-- Both parts of a record are put aside, one after the other. -/
theorem PutAside.of_shelved (hobject : directory.Shelved key .object disk middle)
    (hcontent : directory.Shelved key .content middle disk') :
    directory.PutAside [key] disk disk' where
  placed k hk part := by
    obtain rfl := List.mem_singleton.1 hk
    cases part with
    | object =>
        rw [hcontent, if_neg (by simp), if_neg (by simp), hobject, if_neg (by simp), if_pos rfl]
    | content => rw [hcontent, if_neg (by simp), if_pos rfl]
  corrupt k hk part := by
    obtain rfl := List.mem_singleton.1 hk
    cases part with
    | object =>
        rw [hcontent, if_neg (by simp), if_neg (by simp), hobject, if_pos rfl]
    | content =>
        rw [hcontent, if_pos rfl, hobject, if_neg (by simp), if_neg (by simp), hobject,
          if_neg (by simp), if_neg (by simp)]
  others location hlocation := by
    have hout := hlocation key (List.mem_singleton_self key)
    rw [hcontent, if_neg (hout .content).2, if_neg (hout .content).1, hobject,
      if_neg (hout .object).2, if_neg (hout .object).1]

/-- Records are put aside one after the other. -/
theorem PutAside.cons (hfirst : directory.PutAside [key] disk middle)
    (hrest : directory.PutAside keys middle disk') :
    directory.PutAside (key :: keys) disk disk' := by
  have hkey := List.mem_singleton_self key
  have hpast : ∀ mark : Mark, ∀ k, k ∉ keys →
    ∀ part, disk'.node? (directory.file (nameOf mark k part)) =
      middle.node? (directory.file (nameOf mark k part)) := by
    intro mark k hout part
    refine hrest.others _ fun other hother p => ?_
    have hne : k ≠ other := fun heq => hout (heq ▸ hother)
    simp [hne]
  have hbefore : ∀ mark : Mark, ∀ k, k ≠ key → ∀ part,
      middle.node? (directory.file (nameOf mark k part)) =
        disk.node? (directory.file (nameOf mark k part)) := by
    intro mark k hne part
    refine hfirst.others _ fun other hother p => ?_
    obtain rfl := List.mem_singleton.1 hother
    simp [hne]
  refine ⟨fun k hk part => ?_, fun k hk part => ?_, fun location hlocation => ?_⟩
  · by_cases hlater : k ∈ keys
    · exact hrest.placed k hlater part
    · obtain rfl := (List.mem_cons.1 hk).resolve_right hlater
      rw [hpast _ _ hlater]
      exact hfirst.placed _ hkey part
  · by_cases hlater : k ∈ keys
    · rw [hrest.corrupt k hlater part]
      by_cases hsame : k = key
      · rw [hsame, hfirst.placed key hkey, hfirst.corrupt key hkey, Option.none_or]
      · rw [hbefore _ _ hsame, hbefore _ _ hsame]
    · obtain rfl := (List.mem_cons.1 hk).resolve_right hlater
      rw [hpast _ _ hlater]
      exact hfirst.corrupt _ hkey part
  · rw [hrest.others location fun k hk => hlocation k (List.mem_cons_of_mem _ hk)]
    refine hfirst.others location fun k hk => ?_
    obtain rfl := List.mem_singleton.1 hk
    exact hlocation _ (List.mem_cons_self ..)

/-- To put a record aside succeeds, whatever there is of it. -/
theorem Sound.quarantine (h : directory.Sound disk) (key : RecordKey) :
    ∃ disk', directory.quarantine key disk = (.ok (), disk') ∧ directory.Sound disk' ∧
      directory.PutAside [key] disk disk' := by
  obtain ⟨middle, hobject, hfirst⟩ := h.putAside key .object
  have hmiddle := h.shelved hfirst
  obtain ⟨disk', hcontent, hsecond⟩ := hmiddle.putAside key .content
  refine ⟨disk', ?_, hmiddle.shelved hsecond, .of_shelved hfirst hsecond⟩
  rw [QueueDirectory.quarantine, hobject]
  dsimp only
  rw [hcontent]

/-- A directory of files only is sound, whatever their names are. -/
theorem sound_of_folder {home : Location} {files : Files}
    (h : Disk.Folder disk directory.path.components home files) (hdirect : directory.Direct) :
    directory.Sound disk := by
  obtain rfl := Disk.locate_eq_self hdirect h.locate
  refine ⟨hdirect, Disk.find_eq_ok_iff.2 ⟨_, h.locate, h.directory⟩, fun mark key part => ?_⟩
  rw [file, h.entry]
  cases files (nameOf mark key part) <;> simp

end QueueDirectory

namespace Vault

variable {vault middle vault' : Vault} {key : RecordKey} {keys : List RecordKey}

/-- A store in memory, or in a directory where nothing stands in its way. -/
def Sound : Vault → Prop
  | .memory _ => True
  | .faulty _ => False
  | .directory home disk => home.Sound disk

theorem Sound.direct (h : vault.Sound) : vault.Direct := by
  cases vault with
  | memory records => trivial
  | faulty records => exact h.elim
  | directory home disk => exact QueueDirectory.Sound.direct h

/-- What cannot be read never can. -/
theorem Sound.read_lost (h : vault.Sound) {e : QueueError}
    (hread : (store.read key vault).1 = .error e) :
    e.isTransient = false := by
  cases vault with
  | memory records => exact Memory.find_lost hread
  | faulty records => exact h.elim
  | directory home disk => exact QueueDirectory.Sound.find_lost h hread

/-- What has come of a store once some records have been put aside. -/
inductive PutAside (keys : List RecordKey) : Vault → Vault → Prop where
  | memory {memory memory' : Memory} : memory'.capacity = memory.capacity →
      (∀ key, memory'.records[key]? = if key ∈ keys then none else memory.records[key]?) →
      PutAside keys (.memory memory) (.memory memory')
  | directory {home : QueueDirectory} {disk disk' : Disk} : home.PutAside keys disk disk' →
      PutAside keys (.directory home disk) (.directory home disk')

theorem Sound.putAside_nil (h : vault.Sound) : PutAside [] vault vault := by
  cases vault with
  | memory records => exact .memory rfl (by simp)
  | faulty records => exact h.elim
  | directory home disk => exact .directory .nil

theorem PutAside.cons (hfirst : PutAside [key] vault middle) (hrest : PutAside keys middle vault') :
    PutAside (key :: keys) vault vault' := by
  cases hfirst with
  | memory hcapacity hrecords =>
      cases hrest with
      | memory hcapacity' hrecords' =>
          refine .memory (hcapacity'.trans hcapacity) fun k => ?_
          rw [hrecords', hrecords]
          by_cases hk : k = key <;> simp [hk]
  | directory hfirst =>
      cases hrest with
      | directory hrest => exact .directory (hfirst.cons hrest)

theorem Sound.quarantine (h : vault.Sound) (key : RecordKey) :
    (store.quarantine key vault).2.Sound ∧ PutAside [key] vault (store.quarantine key vault).2 := by
  cases vault with
  | memory records =>
      have hquarantine : (store.quarantine key (.memory records)).2 =
        .memory (records.delete key).2 := rfl
      rw [hquarantine]
      refine ⟨trivial, ?_⟩
      unfold Memory.delete
      split
      · refine .memory rfl fun k => ?_
        simp only [Std.ExtTreeMap.getElem?_erase, Std.compare_eq_iff_eq, List.mem_singleton,
          @eq_comm _ key]
      · rename_i habsent
        refine .memory rfl fun k => ?_
        split
        · rename_i hk
          rw [List.mem_singleton.1 hk]
          exact Std.ExtTreeMap.getElem?_eq_none (by simpa using habsent)
        · rfl
  | faulty records => exact h.elim
  | directory home disk =>
      obtain ⟨disk', hquarantine, hsound, haside⟩ := QueueDirectory.Sound.quarantine h key
      have hvault : (store.quarantine key (.directory home disk)).2 = .directory home disk' :=
        congrArg (fun answer : Answer Disk Unit => Vault.directory home answer.2) hquarantine
      rw [hvault]
      exact ⟨hsound, .directory haside⟩

end Vault

end Postroom
