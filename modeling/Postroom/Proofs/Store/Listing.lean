import Postroom.Proofs.Record.Spelling
import Postroom.Proofs.Store.Removal

/-!
What the listing of a directory says of the files in it, whatever their names are. A key is listed
if a name of each part is read as it. The files that are looked for under the key have one name
each, so a listed key has its pair only if both parts are there under canonical names, and a
directory with files under other spellings lists keys under which nothing is found.
-/

namespace Postroom

namespace QueueDirectory

open Disk (Folder)

variable {directory : QueueDirectory} {disk : Disk} {home : Location} {files : Files}

/-- Whether a file of the directory has a name that is read as that of a part of a record. -/
def Spells (files : Files) (key : RecordKey) (part : RecordPart) (name : String) : Prop :=
  files name ≠ none ∧ RecordKey.ofFileName? name = some (key, part)

theorem list_spells (h : Folder disk directory.path.components home files) :
    ∃ listed, directory.list disk = (.ok listed, disk) ∧
      ∀ key, key ∈ listed ↔ ∀ part, ∃ name, Spells files key part name := by
  obtain ⟨names, hlist, -, hnames⟩ := h.list_eq
  refine ⟨pairsOf names, ?_, fun key => ?_⟩
  · rw [list, hlist]
    rfl
  · simp only [mem_pairsOf_iff, hnames, Spells]

/-- A part is there to be read under a key exactly if a file has a canonical name that is read as
it. -/
theorem readable_iff_canonical (h : Folder disk directory.path.components home files)
    (key : RecordKey)
    (part : RecordPart) : (∃ bytes, disk.read (directory.file (key.fileName part)) = .ok bytes) ↔
      ∃ name, Spells files key part name ∧ MailId.Canonical (RecordKey.idChars name) := by
  rw [readable_iff h]
  constructor
  · intro hfile
    have hread : RecordKey.ofFileName? (key.fileName part) = some (key, part) :=
      (ofFileName?_nameOf (show Mark.placed ≠ .temporary by decide) key part).trans (if_pos rfl)
    exact ⟨_, ⟨hfile, hread⟩, (RecordKey.eq_fileName_iff_canonical hread).1 rfl⟩
  · rintro ⟨name, ⟨hfile, hread⟩, hcanonical⟩
    rw [(RecordKey.eq_fileName_iff_canonical hread).2 hcanonical] at hfile
    exact hfile

/-- A name that is read as that of a record file is the one that a store gives to the file exactly
if its id is canonical. A key is listed if a file of each part is read as it, and its pair is
complete exactly if these files have canonical names. -/
theorem lists_canonical (h : Folder disk directory.path.components home files) :
    (∀ name key part, RecordKey.ofFileName? name = some (key, part) →
      (name = key.fileName part ↔ MailId.Canonical (RecordKey.idChars name))) ∧
    ∃ listed, directory.list disk = (.ok listed, disk) ∧ ∀ key,
      (key ∈ listed ↔ ∀ part, ∃ name, Spells files key part name) ∧
      (directory.Complete disk key ↔
        ∀ part, ∃ name, Spells files key part name ∧
        MailId.Canonical (RecordKey.idChars name)) := by
  refine ⟨fun name key part => RecordKey.eq_fileName_iff_canonical, ?_⟩
  obtain ⟨listed, hlist, hlisted⟩ := list_spells h
  exact ⟨listed, hlist, fun key => ⟨hlisted key, forall_congr' (readable_iff_canonical h key)⟩⟩

namespace Sample

open Disk (FileStep)

def capitalKey : RecordKey := ⟨1700000000000, .make .epoch 330⟩

/-- The name of a file of that key with its id in lower case. -/
def lowerCase (part : RecordPart) : String :=
  "00000001700000000000-000000000000000000000000aa." ++ part.extension

/-- A pair under the names that a store gives to it, and one under other spellings. -/
def spelled : List String :=
  [key.fileName .object, key.fileName .content, lowerCase .object, lowerCase .content]

def misspelt : Disk :=
  (DiskStep.run blank ((spelled.map (FileStep.fill · [])).map
  (FileStep.inside spool.path.components))).2

theorem read_lowerCase (part : RecordPart) :
    RecordKey.ofFileName? (lowerCase part) = some (capitalKey, part) ∧
      lowerCase part ≠ capitalKey.fileName part ∧ capitalKey.fileName part ∉ spelled := by
  cases part <;> decide +kernel

theorem plain_lowerCase (part : RecordPart) : Disk.Plain (lowerCase part) := by
  cases part <;> exact ⟨by decide, by decide, by decide⟩

theorem run_fills (names : List String) (files : Files) (name : String) :
    (FileStep.run files (names.map (FileStep.fill · []))).2 name =
      if name ∈ names then some [] else files name := by
  induction names generalizing files with
  | nil => rfl
  | cons first names ih =>
      rw [List.map_cons]
      refine (ih (files.set first (some []))).trans ?_
      by_cases hname : name = first <;> simp [Files.set, hname]

/-- There are empty files of some names, and no others. -/
theorem folder_fills {names : List String} (hplain : ∀ name ∈ names, Disk.Plain name) :
    ∃ home files, Folder
      (DiskStep.run blank
        ((names.map (FileStep.fill · [])).map (FileStep.inside spool.path.components))).2
      spool.path.components home files ∧
      ∀ name, files name = if name ∈ names then some [] else none := by
  have hsteps : ∀ step ∈ names.map (FileStep.fill · []), step.Of Disk.Plain := by
    intro step hstep
    obtain ⟨name, hname, rfl⟩ := List.mem_map.1 hstep
    exact hplain name hname
  obtain ⟨home, hfolder⟩ := folder_run_blank hsteps
  exact ⟨home, _, hfolder, run_fills names _⟩

theorem folder_misspelt : ∃ home files, Folder misspelt spool.path.components home files ∧
    ∀ name, files name ≠ none ↔ name ∈ spelled := by
  have hplain : ∀ name ∈ spelled, Disk.Plain name := by
    intro name hname
    simp only [spelled, List.mem_cons, List.not_mem_nil, or_false] at hname
    rcases hname with rfl | rfl | rfl | rfl
    · exact plain_nameOf .placed key .object
    · exact plain_nameOf .placed key .content
    · exact plain_lowerCase .object
    · exact plain_lowerCase .content
  obtain ⟨home, files, hfolder, hfiles⟩ := folder_fills hplain
  exact ⟨home, files, hfolder, fun name => by simp [hfiles]⟩

/-- Files whose names spell an id in lower case are listed as the record whose id it is, and nothing
is found under its key. -/
theorem lists_misspelt : (∀ part, RecordKey.ofFileName? (lowerCase part) = some (capitalKey, part) ∧
      lowerCase part ≠ capitalKey.fileName part) ∧
    ∃ listed, spool.list misspelt = (.ok listed, misspelt) ∧ capitalKey ∈ listed ∧
      ∀ part, ¬ ∃ bytes, misspelt.read (spool.file (capitalKey.fileName part)) = .ok bytes := by
  obtain ⟨home, files, hfolder, hfiles⟩ := folder_misspelt
  obtain ⟨listed, hlist, hlisted⟩ := list_spells hfolder
  refine ⟨fun part => ⟨(read_lowerCase part).1, (read_lowerCase part).2.1⟩, listed, hlist, ?_,
    fun part => ?_⟩
  · refine (hlisted capitalKey).2 fun part => ⟨lowerCase part, (hfiles _).2 ?_,
      (read_lowerCase part).1⟩
    cases part <;> simp [spelled]
  · rw [readable_iff hfolder]
    exact fun hfile => (read_lowerCase part).2.2 ((hfiles _).1 hfile)

theorem read_spelled {name : String} {k : RecordKey} {part : RecordPart} (hname : name ∈ spelled)
    (hread : RecordKey.ofFileName? name = some (k, part)) : k = key ∨ k = capitalKey := by
  have hplaced : ∀ p, RecordKey.ofFileName? (key.fileName p) = some (key, p) := fun p =>
    (ofFileName?_nameOf (show Mark.placed ≠ .temporary by decide) key p).trans (if_pos rfl)
  simp only [spelled, List.mem_cons, List.not_mem_nil, or_false] at hname
  rcases hname with rfl | rfl | rfl | rfl
  · exact .inl (congrArg Prod.fst (Option.some.inj (hread.symm.trans (hplaced _))))
  · exact .inl (congrArg Prod.fst (Option.some.inj (hread.symm.trans (hplaced _))))
  · exact .inr (congrArg Prod.fst (Option.some.inj (hread.symm.trans (read_lowerCase _).1)))
  · exact .inr (congrArg Prod.fst (Option.some.inj (hread.symm.trans (read_lowerCase _).1)))

/-- Of the two keys that are listed there is a pair to read under the one whose names are
canonical. -/
theorem lists_canonical_of_misspelt : ∃ listed, spool.list misspelt = (.ok listed, misspelt) ∧
    (∀ k, k ∈ listed ↔ k = key ∨ k = capitalKey) ∧ spool.Complete misspelt key ∧
    ¬ spool.Complete misspelt capitalKey ∧
    ∀ part, ¬ MailId.Canonical (RecordKey.idChars (lowerCase part)) := by
  obtain ⟨home, files, hfolder, hfiles⟩ := folder_misspelt
  obtain ⟨hnames, listed, hlist, hlisted⟩ := lists_canonical hfolder
  have hkey : ∀ part, Spells files key part (key.fileName part) := by
    intro part
    refine ⟨(hfiles _).2 (by cases part <;> simp [spelled]), ?_⟩
    exact (ofFileName?_nameOf (show Mark.placed ≠ .temporary by decide) key part).trans (if_pos rfl)
  have hcapital : ∀ part, Spells files capitalKey part (lowerCase part) := fun part =>
    ⟨(hfiles _).2 (by cases part <;> simp [spelled]), (read_lowerCase part).1⟩
  refine ⟨listed, hlist, fun k => ?_, ?_, fun hcomplete => ?_, fun part hcanonical => ?_⟩
  · rw [(hlisted k).1]
    constructor
    · intro hspells
      obtain ⟨name, hfile, hread⟩ := hspells .object
      exact read_spelled ((hfiles name).1 hfile) hread
    · rintro (rfl | rfl)
      · exact fun part => ⟨_, hkey part⟩
      · exact fun part => ⟨_, hcapital part⟩
  · exact (hlisted key).2.2 fun part => ⟨_, hkey part, (hnames _ _ _ (hkey part).2).1 rfl⟩
  · obtain ⟨name, ⟨hfile, hread⟩, hcanonical⟩ := (hlisted capitalKey).2.1 hcomplete .object
    obtain rfl := (hnames _ _ _ hread).2 hcanonical
    exact (read_lowerCase .object).2.2 ((hfiles _).1 hfile)
  · exact (read_lowerCase part).2.1 ((hnames _ _ _ (hcapital part).2).2 hcanonical)

end Sample

end QueueDirectory

end Postroom
