import Postroom.Proofs.Store.Atomicity

/-!
How far the removal of a pair is safe. In the directory there may be files of any kind. Wherever a
deletion is cut off, once the directory is prepared again the pair is there as it was or is not
listed, and it is there only if nothing was done. All other pairs stay, and no file of a pair is
ever swept up, as the names that are swept up are not those of files in place.
-/

namespace Postroom

namespace Files

open QueueDirectory (Mark nameOf)

variable {files : Files} {key other : RecordKey} {part : RecordPart} {count : Nat}

/-- The files when a part has got the name of a deleted one. -/
def retire (files : Files) (key : RecordKey) (part : RecordPart) : Files :=
  (files.set (nameOf .placed key part) none).set (nameOf .deleted key part) (files.parts key part)

/-- The files when a deleted part was removed. -/
def discard (files : Files) (key : RecordKey) (part : RecordPart) : Files :=
  files.set (nameOf .deleted key part) none

@[simp] theorem parts_retire : (files.retire key part).parts = files.parts.set key part none := by
  rw [retire, parts_set_marked (by decide), parts_set_placed]

@[simp] theorem parts_discard : (files.discard key part).parts = files.parts :=
  parts_set_marked (by decide) key part none

/-- What a part was is found under its new name, and what other deleted parts were under theirs. -/
theorem retire_deleted (p : RecordPart) : files.retire key part (nameOf .deleted key p) =
    if p = part then files.parts key part else files (nameOf .deleted key p) := by
  simp [retire, set, nameOf_inj]

theorem discard_deleted {p : RecordPart} (h : p ≠ part) :
    files.discard key part (nameOf .deleted key p) = files (nameOf .deleted key p) := by
  simp [discard, set, nameOf_inj, h]

theorem Proper.retire (h : files.Proper) (key : RecordKey) (part : RecordPart) :
    (files.retire key part).Proper :=
  (h.set .placed key part _).set .deleted key part _

theorem Proper.discard (h : files.Proper) (key : RecordKey) (part : RecordPart) :
    (files.discard key part).Proper :=
  h.set .deleted key part _

/-- The files when some steps of a deletion were taken. -/
def deleted (files : Files) (key : RecordKey) : Nat → Files
  | 0 => files
  | 1 => files.retire key .object
  | 2 => (files.retire key .object).retire key .content
  | 3 => ((files.retire key .object).retire key .content).discard key .object
  | _ + 4 =>
      (((files.retire key .object).retire key .content).discard key .object).discard key .content

theorem Proper.deleted (h : files.Proper) (key : RecordKey) (count : Nat) :
    (files.deleted key count).Proper := by
  have hobject := h.retire key .object
  have hpair := hobject.retire key .content
  have hone := hpair.discard key .object
  fun_cases Files.deleted files key count
  exacts [h, hobject, hpair, hone, hone.discard key .content]

theorem parts_deleted_of_ne (h : other ≠ key) :
    (files.deleted key count).parts other = files.parts other := by
  fun_cases Files.deleted files key count <;> simp [Parts.set_of_ne h]

/-- The first step takes the object away. -/
theorem parts_deleted_object (h : 0 < count) :
    (files.deleted key count).parts key .object = none := by
  fun_cases Files.deleted files key count
  · omega
  all_goals simp [Parts.set]

/-- All steps together take both parts away and nothing else. -/
theorem parts_deleted_four :
    (files.deleted key 4).parts = (files.parts.set key .object none).set key .content none := by
  simp [Files.deleted]

end Files

namespace QueueDirectory

open Disk (Folder FileStep)

variable {directory : QueueDirectory} {disk disk' : Disk} {home : Location} {files : Files}
  {key : RecordKey}

theorem apply_retire {part : RecordPart} (h : files.parts key part ≠ none) :
    FileStep.apply files (.rename (nameOf .placed key part) (nameOf .deleted key part)) =
      .ok (files.retire key part) := by
  obtain ⟨bytes, hbytes⟩ := Option.ne_none_iff_exists'.1 h
  have hfile : files (nameOf .placed key part) = some bytes := hbytes
  rw [FileStep.apply, hfile, Files.retire, hbytes]

theorem apply_discard {part : RecordPart} (h : files (nameOf .deleted key part) ≠ none) :
    FileStep.apply files (.remove (nameOf .deleted key part)) = .ok (files.discard key part) := by
  obtain ⟨bytes, hfile⟩ := Option.ne_none_iff_exists'.1 h
  rw [FileStep.apply, hfile, Files.discard]

/-- The steps of the deletion of a pair succeed as far as they are taken. -/
theorem run_take_deleting (h : files.parts.Listed key) (count : Nat) :
    FileStep.run files ((deleting key).take count) = (.ok (), files.deleted key count) := by
  have hobject := apply_retire h.1
  have hcontent : (files.retire key .object).parts key .content ≠ none := by
    simpa [Parts.set] using h.2
  have hpair := apply_retire hcontent
  have hone : ((files.retire key .object).retire key .content)
    (nameOf .deleted key .object) ≠ none := by
    simpa [Files.retire_deleted] using h.1
  have hfirst := apply_discard hone
  have htwo : (((files.retire key .object).retire key .content).discard key .object)
      (nameOf .deleted key .content) ≠ none := by
    simpa [Files.discard_deleted, Files.retire_deleted] using hcontent
  have hlast := apply_discard htwo
  fun_cases Files.deleted files key count with
  | case1 => rfl
  | case2 => simp [deleting, FileStep.run, hobject]
  | case3 => simp [deleting, FileStep.run, hobject, hpair]
  | case4 => simp [deleting, FileStep.run, hobject, hpair, hfirst]
  | case5 count => simp [deleting, FileStep.run, hobject, hpair, hfirst, hlast]

/-- Whether both files of a key are in place. -/
def Complete (directory : QueueDirectory) (disk : Disk) (key : RecordKey) : Prop :=
  ∀ part, ∃ bytes, disk.read (directory.file (key.fileName part)) = .ok bytes

theorem read_placed (h : Disk.Folder disk directory.path.components home files) (key : RecordKey)
    (part : RecordPart) : disk.read (directory.file (key.fileName part)) =
      match files.parts key part with
      | some bytes => .ok bytes
      | none => .error .noEntry :=
  h.read_entry (plain_nameOf .placed key part)

/-- A file is there to be read if it is among the parts. -/
theorem readable_iff (h : Disk.Folder disk directory.path.components home files) (key : RecordKey)
    (part : RecordPart) : (∃ bytes, disk.read (directory.file (key.fileName part)) = .ok bytes) ↔
      files.parts key part ≠ none := by
  rw [read_placed h]
  cases files.parts key part <;> simp

theorem Regular.complete_iff (h : Regular directory disk home files) :
    directory.Complete disk key ↔ files.parts.Listed key :=
  (forall_congr' (readable_iff h.folder key)).trans Parts.listed_iff

/-- To list a directory tells which pairs are complete. -/
theorem Regular.list_complete (h : Regular directory disk home files) :
    ∃ listed, directory.list disk = (.ok listed, disk) ∧
      ∀ key, key ∈ listed ↔ directory.Complete disk key := by
  obtain ⟨names, hshows, hlisted⟩ := h.shows
  exact ⟨_, hshows.list, fun key => (hlisted key).trans h.complete_iff.symm⟩

/-- To prepare a directory leaves every file that is in place, whether its pair is complete or
not. -/
theorem Regular.prepare_keeps (h : Regular directory disk home files) :
    ∃ disk', directory.prepare disk = (.ok (), disk') ∧ Regular directory disk' home files.swept ∧
      ∀ (key : RecordKey) part, disk'.read (directory.file (key.fileName part)) =
        disk.read (directory.file (key.fileName part)) := by
  obtain ⟨disk', hprepare, hregular⟩ := h.prepared
  refine ⟨disk', hprepare, hregular, fun key part => ?_⟩
  rw [read_placed hregular.folder, read_placed h.folder, Files.parts_swept]

/-- Some steps of the deletion of a pair leave a directory with the files that these steps leave. -/
theorem Regular.run_deleteSteps (h : Regular directory disk home files)
    (hpair : files.parts.Listed key) (count : Nat) :
    ∃ left, DiskStep.run disk ((directory.deleteSteps key).take count) = (.ok (), left) ∧
      Regular directory left home (files.deleted key count) := by
  obtain ⟨left, hrun, hfolder⟩ := h.folder.run_inside fun step hstep =>
    plain_deleting key step (List.mem_of_mem_take hstep)
  rw [run_take_deleting hpair] at hrun hfolder
  rw [deleteSteps_eq, ← List.map_take]
  exact ⟨left, hrun, h.path, hfolder, h.proper.deleted key count⟩

/-- What has come of a directory in which some steps of the deletion of a pair were taken, and which
was prepared after that. -/
structure RecoversDelete (directory : QueueDirectory) (key : RecordKey) (count : Nat)
    (disk left recovered : Disk) (listed : List RecordKey) : Prop where
  /-- The pair is there if nothing was done to it. -/
  key_listed : key ∈ listed ↔ count = 0
  key_read : (directory.read key recovered).1 =
    if count = 0 then (directory.read key disk).1 else .error (.corrupt key (.missing .object))
  others : ∀ other, other ≠ key → (other ∈ listed ↔ directory.Complete disk other) ∧
    (directory.read other recovered).1 = (directory.read other disk).1
  /-- Nothing of a pair was swept up. -/
  kept : ∀ k, directory.Complete left k → ∀ part,
    recovered.read (directory.file (k.fileName part)) = left.read (directory.file (k.fileName part))

/-- Wherever the deletion of a pair is cut off, the directory can be prepared again, and the pair is
listed only if no step was taken. -/
theorem Regular.recovers_delete (h : Regular directory disk home files)
    (hpair : directory.Complete disk key) (count : Nat) :
    ∃ left recovered listed,
      DiskStep.run disk ((directory.deleteSteps key).take count) = (.ok (), left) ∧
      directory.prepare left = (.ok (), recovered) ∧
      directory.list recovered = (.ok listed, recovered) ∧
      RecoversDelete directory key count disk left recovered listed := by
  obtain ⟨left, hrun, hleft⟩ := h.run_deleteSteps (h.complete_iff.1 hpair) count
  obtain ⟨recovered, hprepare, hrecovered, hkept⟩ := hleft.prepare_keeps
  obtain ⟨listed, hlist, hlisted⟩ := hrecovered.list_complete
  refine ⟨left, recovered, listed, hrun, hprepare, hlist, ?_, ?_, fun other hother => ?_,
    fun k _ => hkept k⟩
  · rw [hlisted, hrecovered.complete_iff, Files.parts_swept]
    rcases Nat.eq_zero_or_pos count with rfl | hcount
    · exact iff_of_true (h.complete_iff.1 hpair) rfl
    · have hgone : (files.deleted key count).parts key .object = none :=
        Files.parts_deleted_object hcount
      exact iff_of_false (fun hlisted => hlisted.1 hgone) (Nat.ne_of_gt hcount)
  · rw [read, read, find_eq_mailAt hrecovered.folder, find_eq_mailAt h.folder, Files.parts_swept]
    rcases Nat.eq_zero_or_pos count with rfl | hcount
    · rfl
    · have hgone : (files.deleted key count).parts key .object = none :=
        Files.parts_deleted_object hcount
      rw [if_neg (Nat.ne_of_gt hcount), Parts.mailAt, hgone]
  · have hsame : (files.deleted key count).swept.parts other = files.parts other := by
      rw [Files.parts_swept, Files.parts_deleted_of_ne hother]
    rw [hlisted, hrecovered.complete_iff, h.complete_iff, Parts.listed_congr hsame, read, read,
      find_eq_mailAt hrecovered.folder, find_eq_mailAt h.folder, Parts.mailAt_congr hsame]
    exact ⟨Iff.rfl, rfl⟩

end QueueDirectory

namespace QueueDirectory.Sample

open Disk (FileStep)

def laterKey : RecordKey := ⟨1700000000001, key.id⟩

/-- The newer version is stored under a later key, with the older one still there. -/
def twoPairs : Answer Disk Unit := spool.write laterKey newer stored.2

/-- Files that are of no record, one of them left over from a write. -/
def strays : List FileStep := [.fill "notes.txt" [104], .fill ".tmp_left" []]

/-- A directory with two pairs and other files. -/
def shelf : Disk := (DiskStep.run twoPairs.2 (strays.map (FileStep.inside spool.path.components))).2

theorem unread_strays : ∀ name ∈ ["notes.txt", ".tmp_left"], RecordKey.ofFileName? name = none := by
  decide

theorem parts_strays (files : Files) : (FileStep.run files strays).2.parts = files.parts := by
  have hplaced : ∀ name ∈ ["notes.txt", ".tmp_left"], ∀ key part,
    nameOf .placed key part ≠ name := by
    intro name hname key part heq
    have hread : RecordKey.ofFileName? (nameOf .placed key part) = _ :=
      ofFileName?_nameOf (by decide) key part
    rw [heq, unread_strays name hname] at hread
    cases hread
  funext key part
  have hnotes := hplaced "notes.txt" (by simp) key part
  have hleft := hplaced ".tmp_left" (by simp) key part
  simp only [strays, FileStep.run, FileStep.apply, Files.parts, Files.set, hnotes, hleft, if_false]

theorem regular_shelf :
    (∃ home files, Regular spool shelf home files) ∧ spool.Complete shelf laterKey := by
  obtain ⟨home, files, hkept⟩ : ∃ home, ∃ files : Files, Kept spool twoPairs.2 home files :=
    (produced_stored.operations laterKey newer).1.kept
  have hnotes : Disk.Plain "notes.txt" := ⟨by decide, by decide, by decide⟩
  have hleft : Disk.Plain ".tmp_left" := ⟨by decide, by decide, by decide⟩
  have hplain : ∀ step ∈ strays, step.Of Disk.Plain := by
    intro step hstep
    rcases List.mem_pair.1 hstep with rfl | rfl
    · exact hnotes
    · exact hleft
  obtain ⟨disk', hrun, hfolder⟩ := hkept.folder.run_inside hplain
  have hregular : Regular spool shelf home (FileStep.run files strays).2 := by
    refine ⟨hkept.path, ?_, ?_⟩
    · rw [shelf, hrun]
      exact hfolder
    · have hproper := hkept.regular.proper.set_of (some [104]) hnotes (by simp [unread_strays])
      exact hproper.set_of (some []) hleft (by simp [unread_strays])
  refine ⟨⟨home, _, hregular⟩, hregular.complete_iff.2 ?_⟩
  obtain ⟨object, hencode⟩ : ∃ object, Record.encode newer = .ok object := encodes (by simp)
  have hread : spool.read laterKey twoPairs.2 = (written laterKey newer, twoPairs.2) :=
    (produced_stored.write_read laterKey hencode).2
  have hid : laterKey.id = newer.id := rfl
  rw [written, if_pos hid, read, find_eq_mailAt hkept.folder] at hread
  rw [parts_strays]
  exact Parts.listed_of_mailAt (Prod.mk.inj hread).1

theorem recovers_delete_of_shelf : ∃ home files, Regular spool shelf home files ∧
    spool.Complete shelf laterKey ∧ ∃ left recovered listed,
      DiskStep.run shelf ((spool.deleteSteps laterKey).take 1) = (.ok (), left) ∧
      spool.prepare left = (.ok (), recovered) ∧ spool.list recovered = (.ok listed, recovered) ∧
      RecoversDelete spool laterKey 1 shelf left recovered listed := by
  obtain ⟨⟨home, files, hregular⟩, hcomplete⟩ := regular_shelf
  exact ⟨home, files, hregular, hcomplete, hregular.recovers_delete hcomplete 1⟩

end QueueDirectory.Sample

end Postroom
