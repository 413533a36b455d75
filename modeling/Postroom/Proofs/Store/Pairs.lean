import Postroom.Proofs.Store.Folder

/-!
The record pairs in the directory of a store. Of all files in the directory only those in place
count: a key is listed if both of its files are there, and what is read under a key depends on its
two files alone. To prepare the directory takes away what is left of writes and deletions, and no
file in place.
-/

namespace Postroom

theorem RecordPart.forall_iff {property : RecordPart → Prop} :
    (∀ part, property part) ↔ property .object ∧ property .content := by
  refine ⟨fun h => ⟨h .object, h .content⟩, ?_⟩
  rintro ⟨hobject, hcontent⟩ part
  cases part
  · exact hobject
  · exact hcontent

/-- The record files in place, by their keys and parts. -/
abbrev Parts := RecordKey → RecordPart → Option (List UInt8)

namespace Parts

/-- The parts with another one, or none, in one place. -/
def set (parts : Parts) (key : RecordKey) (part : RecordPart) (bytes? : Option (List UInt8)) :
    Parts :=
  fun k p => if k = key ∧ p = part then bytes? else parts k p

/-- Whether no object stands without its content. -/
def Paired (parts : Parts) : Prop :=
  ∀ key, parts key .object ≠ none → parts key .content ≠ none

/-- Whether a key has a pair. -/
def Listed (parts : Parts) (key : RecordKey) : Prop :=
  parts key .object ≠ none ∧ parts key .content ≠ none

/-- What is read under a key. -/
def mailAt (parts : Parts) (key : RecordKey) : Except QueueError Mail :=
  match parts key .object, parts key .content with
  | none, _ => .error (.corrupt key (.missing .object))
  | some _, none => .error (.corrupt key (.missing .content))
  | some object, some content => Record.decode key object ⟨content⟩

theorem listed_iff {parts : Parts} {key : RecordKey} :
    (∀ part, parts key part ≠ none) ↔ parts.Listed key :=
  RecordPart.forall_iff

variable {parts parts' : Parts} {key other : RecordKey} {bytes : List UInt8}

theorem set_of_ne (h : other ≠ key) (part : RecordPart) (bytes? : Option (List UInt8)) :
    parts.set key part bytes? other = parts other := by
  funext p
  exact if_neg fun heq => h heq.1

/-- What there is under a key depends on its own parts alone. -/
theorem mailAt_congr (h : parts key = parts' key) : parts.mailAt key = parts'.mailAt key := by
  unfold mailAt
  rw [h]

theorem listed_congr (h : parts key = parts' key) : parts.Listed key ↔ parts'.Listed key := by
  unfold Listed
  rw [h]

/-- Only a pair is read as a mail. -/
theorem listed_of_mailAt {mail : Mail} (h : parts.mailAt key = .ok mail) : parts.Listed key := by
  unfold mailAt at h
  constructor
  · intro hobject
    simp [hobject] at h
  · intro hcontent
    cases hobject : parts key .object with
    | none => simp [hobject] at h
    | some object => simp [hobject, hcontent] at h

/-- A content without its object shows nowhere. -/
theorem mailAt_set_content_of_none (h : parts key .object = none) :
    (parts.set key .content (some bytes)).mailAt key = parts.mailAt key := by
  simp [mailAt, set, h]

/-- A pair with another content is read as the mail that it held, with that content. -/
theorem mailAt_set_content (h : parts.Listed key) :
    (parts.set key .content (some bytes)).mailAt key =
      (parts.mailAt key).map (·.attachContent ⟨bytes⟩) := by
  obtain ⟨object, hobject⟩ := Option.ne_none_iff_exists'.1 h.1
  obtain ⟨content, hcontent⟩ := Option.ne_none_iff_exists'.1 h.2
  simp only [mailAt, set, hobject, hcontent, and_true, if_true, reduceCtorEq, and_false, if_false]
  exact Record.decode_content key object ⟨content⟩ ⟨bytes⟩

/-- A content with or without its object changes no listing. -/
theorem listed_set_content (h : parts.Paired) :
    (parts.set key .content (some bytes)).Listed key ↔ parts.Listed key := by
  have hpaired := h key
  simp only [Listed, set, and_true, if_true, reduceCtorEq, and_false, if_false, ne_eq,
    not_false_eq_true]
  exact ⟨fun hobject => ⟨hobject, hpaired hobject⟩, fun hlisted => hlisted.1⟩

end Parts

namespace Files

open QueueDirectory (Mark nameOf isTemporary isDeleted)

variable {files : Files}

def parts (files : Files) : Parts := fun key part =>
  files (nameOf .placed key part)

/-- Whether every file has a name that a store gives to record files. -/
def Own (files : Files) : Prop :=
  ∀ name, files name ≠ none → ∃ mark key part, name = nameOf mark key part

theorem Own.set (h : files.Own) (mark : Mark) (key : RecordKey) (part : RecordPart)
    (bytes? : Option (List UInt8)) : (files.set (nameOf mark key part) bytes?).Own := by
  intro name hfile
  unfold Files.set at hfile
  split at hfile
  · rename_i hname
    exact ⟨mark, key, part, hname⟩
  · exact h name hfile

/-- Whether every name is one that a directory takes, and those that are read as names of records
are written as a store writes them. -/
structure Proper (files : Files) : Prop where
  plain : ∀ name, files name ≠ none → Disk.Plain name
  canonical : ∀ name, files name ≠ none → (RecordKey.ofFileName? name).isSome →
    ∃ key part, name = nameOf .placed key part

theorem eq_placed_of_isSome {mark : Mark} {key : RecordKey} {part : RecordPart}
    (h : (RecordKey.ofFileName? (nameOf mark key part)).isSome) : mark = .placed := by
  by_cases htemporary : mark = .temporary
  · have hmarked := QueueDirectory.isTemporary_nameOf mark key part
    rw [QueueDirectory.ofFileName?_of_isTemporary (by rw [hmarked]; simp [htemporary])] at h
    cases h
  · rw [QueueDirectory.ofFileName?_nameOf htemporary] at h
    by_contra hmark
    simp [hmark] at h

theorem Own.proper (h : files.Own) : files.Proper := by
  refine ⟨fun name hfile => ?_, fun name hfile hread => ?_⟩
  · obtain ⟨mark, key, part, rfl⟩ := h name hfile
    exact QueueDirectory.plain_nameOf mark key part
  · obtain ⟨mark, key, part, rfl⟩ := h name hfile
    obtain rfl := eq_placed_of_isSome hread
    exact ⟨key, part, rfl⟩

/-- A file may come under a name that is none of a record, or that a store gives to one. -/
theorem Proper.set_of (h : files.Proper) {name : String} (bytes? : Option (List UInt8))
    (hplain : Disk.Plain name) (hrecord : (RecordKey.ofFileName? name).isSome →
      ∃ key part, name = nameOf .placed key part) : (files.set name bytes?).Proper := by
  have hold : ∀ n, files.set name bytes? n ≠ none → n = name ∨ files n ≠ none := by
    intro n hfile
    unfold Files.set at hfile
    split at hfile
    · rename_i heq
      exact .inl heq
    · exact .inr hfile
  refine ⟨fun n hfile => ?_, fun n hfile hread => ?_⟩
  · obtain rfl | hfile := hold n hfile
    · exact hplain
    · exact h.plain n hfile
  · obtain rfl | hfile := hold n hfile
    · exact hrecord hread
    · exact h.canonical n hfile hread

theorem Proper.set (h : files.Proper) (mark : Mark) (key : RecordKey) (part : RecordPart)
    (bytes? : Option (List UInt8)) : (files.set (nameOf mark key part) bytes?).Proper := by
  refine h.set_of bytes? (QueueDirectory.plain_nameOf mark key part) fun hread => ?_
  obtain rfl := eq_placed_of_isSome hread
  exact ⟨key, part, rfl⟩

/-- Names in place are those of their keys and parts. -/
theorem nameOf_placed_eq_iff {mark : Mark} {key k : RecordKey} {part p : RecordPart} :
    nameOf .placed k p = nameOf mark key part ↔ mark = .placed ∧ k = key ∧ p = part := by
  constructor
  · intro heq
    have htemporary := QueueDirectory.isTemporary_nameOf mark key part
    rw [← heq, QueueDirectory.isTemporary_nameOf] at htemporary
    have hmark : mark ≠ .temporary := by
      rintro rfl
      simp at htemporary
    have hread := QueueDirectory.ofFileName?_nameOf hmark key part
    rw [← heq, QueueDirectory.ofFileName?_nameOf (by decide)] at hread
    by_cases hplaced : mark = .placed
    · simp only [hplaced, if_true, Option.some.injEq, Prod.mk.injEq] at hread
      exact ⟨hplaced, hread⟩
    · simp [hplaced] at hread
  · rintro ⟨rfl, rfl, rfl⟩
    rfl

/-- A name tells its mark, its key and its part. -/
theorem nameOf_inj {mark mark' : Mark} {k k' : RecordKey} {p p' : RecordPart} :
    nameOf mark k p = nameOf mark' k' p' ↔ mark = mark' ∧ k = k' ∧ p = p' := by
  refine ⟨fun heq => ?_, fun ⟨hmark, hkey, hpart⟩ => by rw [hmark, hkey, hpart]⟩
  have htemporary := QueueDirectory.isTemporary_nameOf mark k p
  have hdeleted := QueueDirectory.isDeleted_nameOf mark k p
  have hplaced : mark = .placed ↔ mark' = .placed := by
    constructor
    · rintro rfl
      exact (nameOf_placed_eq_iff.1 heq).1
    · rintro rfl
      exact (nameOf_placed_eq_iff.1 heq.symm).1
  rw [heq, QueueDirectory.isTemporary_nameOf] at htemporary
  rw [heq, QueueDirectory.isDeleted_nameOf] at hdeleted
  obtain rfl : mark = mark' := by
    revert htemporary hdeleted hplaced
    cases mark <;> cases mark' <;> simp
  refine ⟨rfl, ?_⟩
  have hnames : nameOf .placed k p = nameOf .placed k' p' := by
    cases mark with
    | placed => exact heq
    | temporary => exact (String.append_right_inj _).1 heq
    | deleted => exact (String.append_left_inj _).1 heq
    | corrupt => exact (String.append_left_inj _).1 heq
  exact (nameOf_placed_eq_iff.1 hnames).2

/-- A file that is not in place changes no part. -/
theorem parts_set_marked {mark : Mark} (hmark : mark ≠ .placed) (key : RecordKey)
    (part : RecordPart) (bytes? : Option (List UInt8)) :
    (files.set (nameOf mark key part) bytes?).parts = files.parts := by
  funext k p
  simp only [parts, Files.set, nameOf_placed_eq_iff, hmark, false_and, if_false]

theorem parts_set_placed (key : RecordKey) (part : RecordPart) (bytes? : Option (List UInt8)) :
    (files.set (nameOf .placed key part) bytes?).parts = files.parts.set key part bytes? := by
  funext k p
  simp only [parts, Files.set, Parts.set, nameOf_placed_eq_iff, true_and]

/-- The files without what is left of writes and deletions. -/
def swept (files : Files) : Files := fun name =>
  if isTemporary name || isDeleted name then none else files name

theorem ne_none_of_swept {name : String} (h : files.swept name ≠ none) : files name ≠ none := by
  unfold swept at h
  split at h
  · exact absurd rfl h
  · exact h

theorem Own.swept (h : files.Own) : files.swept.Own := fun name hfile =>
  h name (ne_none_of_swept hfile)

theorem Proper.swept (h : files.Proper) : files.swept.Proper :=
  ⟨fun name hfile => h.plain name (ne_none_of_swept hfile),
    fun name hfile => h.canonical name (ne_none_of_swept hfile)⟩

theorem parts_swept : files.swept.parts = files.parts := by
  funext key part
  have htemporary := QueueDirectory.isTemporary_nameOf .placed key part
  have hdeleted := QueueDirectory.isDeleted_nameOf .placed key part
  unfold parts swept
  rw [htemporary, hdeleted]
  rfl

/-- To remove files that are there takes them away. -/
theorem run_removes {listed : List String} (hnodup : listed.Nodup)
    (hthere : ∀ name ∈ listed, files name ≠ none) :
    Disk.FileStep.run files (listed.map .remove) =
      (.ok (), fun name => if name ∈ listed then none else files name) := by
  induction listed generalizing files with
  | nil => simp [Disk.FileStep.run]
  | cons name listed ih =>
      obtain ⟨hout, hnodup⟩ := List.nodup_cons.1 hnodup
      obtain ⟨bytes, hfile⟩ := Option.ne_none_iff_exists'.1 (hthere name (List.mem_cons_self ..))
      have hothers : ∀ n ∈ listed, files.set name none n ≠ none := by
        intro n hn
        have hne : n ≠ name := fun heq => hout (heq ▸ hn)
        rw [Files.set, if_neg hne]
        exact hthere n (List.mem_cons_of_mem _ hn)
      rw [List.map_cons, Disk.FileStep.run]
      simp only [Disk.FileStep.apply, hfile]
      rw [ih hnodup hothers]
      congr 1
      funext n
      unfold Files.set
      by_cases hn : n = name
      · simp [hn]
      · simp [hn]

end Files

namespace QueueDirectory

open Disk (Folder FileStep)

variable {directory : QueueDirectory} {disk disk' : Disk} {home : Location} {files files' : Files}

/-- A directory in which there are files of any kind, none of which passes for a record under
another name than the store gives it. -/
structure Regular (directory : QueueDirectory) (disk : Disk) (home : Location)
    (files : Files) : Prop where
  path : Disk.checkPath directory.path = .ok ()
  folder : Folder disk directory.path.components home files
  proper : files.Proper

/-- A directory in which there are files of the store only, and no object without its content. -/
structure Kept (directory : QueueDirectory) (disk : Disk) (home : Location)
    (files : Files) : Prop where
  path : Disk.checkPath directory.path = .ok ()
  folder : Folder disk directory.path.components home files
  own : files.Own
  paired : files.parts.Paired

theorem Kept.regular (h : Kept directory disk home files) : Regular directory disk home files :=
  ⟨h.path, h.folder, h.own.proper⟩

theorem find_eq_mailAt (h : Folder disk directory.path.components home files) (key : RecordKey) :
    directory.find disk key = files.parts.mailAt key := by
  have hread := fun part => h.read_entry (plain_nameOf .placed key part)
  have hpart : ∀ part, directory.readPart disk key part =
      (files.parts key part).elim (.error (.corrupt key (.missing part))) .ok := by
    intro part
    unfold readPart
    have hfile : directory.file (key.fileName part) =
        directory.path.components ++ [nameOf .placed key part] := rfl
    rw [hfile, hread part, Files.parts]
    cases files (nameOf .placed key part) <;> rfl
  unfold find Parts.mailAt
  rw [hpart, hpart]
  cases files.parts key .object with
  | none => rfl
  | some object => cases files.parts key .content <;> rfl

/-- The keys that are found are those that names are read as. -/
theorem mem_keysOf_iff {listed : List String} (key : RecordKey) (part : RecordPart) :
    key ∈ keysOf listed part ↔ ∃ name ∈ listed, RecordKey.ofFileName? name = some (key, part) := by
  unfold keysOf
  rw [List.mem_filterMap]
  refine exists_congr fun name => and_congr_right fun _ => ?_
  by_cases htemporary : isTemporary name = true
  · simp [htemporary, ofFileName?_of_isTemporary htemporary]
  · cases hread : RecordKey.ofFileName? name with
    | none => simp [htemporary]
    | some found =>
        obtain ⟨k, p⟩ := found
        simp [htemporary, and_comm]

theorem mem_pairsOf_iff {listed : List String} (key : RecordKey) :
    key ∈ pairsOf listed ↔
      ∀ part, ∃ name ∈ listed, RecordKey.ofFileName? name = some (key, part) := by
  unfold pairsOf
  simp only [Std.ExtTreeSet.mem_toList, Std.ExtTreeSet.mem_ofList, List.contains_eq_mem,
    List.mem_filter, decide_eq_true_eq, RecordPart.forall_iff, mem_keysOf_iff]

/-- Each key is found once. -/
theorem nodup_pairsOf (names : List String) : (pairsOf names).Nodup := by
  refine (Std.ExtTreeSet.distinct_toList (α := RecordKey)).imp ?_
  intro a b hab heq
  simp [heq] at hab

theorem exists_read_iff {listed : List String} (hproper : files.Proper)
    (hlisted : ∀ name, name ∈ listed ↔ files name ≠ none) (key : RecordKey) (part : RecordPart) :
    (∃ name ∈ listed, RecordKey.ofFileName? name = some (key, part)) ↔
      files.parts key part ≠ none := by
  constructor
  · rintro ⟨name, hname, hread⟩
    have hfile := (hlisted name).1 hname
    obtain ⟨k, p, rfl⟩ := hproper.canonical name hfile (by rw [hread]; rfl)
    rw [ofFileName?_nameOf (by decide), if_pos rfl] at hread
    cases hread
    exact hfile
  · intro hfile
    refine ⟨nameOf .placed key part, (hlisted _).2 hfile, ?_⟩
    rw [ofFileName?_nameOf (by decide), if_pos rfl]

theorem mem_pairsOf {listed : List String} (hproper : files.Proper)
    (hlisted : ∀ name, name ∈ listed ↔ files name ≠ none) (key : RecordKey) :
    key ∈ pairsOf listed ↔ files.parts.Listed key := by
  simp only [mem_pairsOf_iff, exists_read_iff hproper hlisted, Parts.listed_iff]

/-- Two listings with the same keys are the same. -/
theorem pairsOf_congr {listed listed' : List String}
    (h : ∀ key, key ∈ pairsOf listed ↔ key ∈ pairsOf listed') :
    pairsOf listed = pairsOf listed' := by
  unfold pairsOf at h ⊢
  simp only [Std.ExtTreeSet.mem_toList] at h
  dsimp only
  rw [Std.ExtTreeSet.ext_mem h]

/-- What a queue sees of a directory: the keys that are listed, and what is read under any key. -/
structure Shows (directory : QueueDirectory) (disk : Disk) (keys : List RecordKey)
    (mailAt : RecordKey → Except QueueError Mail) : Prop where
  list : directory.list disk = (.ok keys, disk)
  read : ∀ key, directory.read key disk = (mailAt key, disk)

theorem Regular.shows (h : Regular directory disk home files) :
    ∃ listed, Shows directory disk (pairsOf listed) files.parts.mailAt ∧
      ∀ key, key ∈ pairsOf listed ↔ files.parts.Listed key := by
  obtain ⟨listed, hlist, -, hlisted⟩ := h.folder.list_eq
  refine ⟨listed, ⟨?_, fun key => ?_⟩, mem_pairsOf h.proper hlisted⟩
  · rw [list, hlist]
    rfl
  · rw [read, find_eq_mailAt h.folder]

/-- An empty directory. -/
theorem folder_of_list {names : List String} (h : disk.list names = .ok []) :
    ∃ home, Folder disk names home fun _ => none := by
  obtain ⟨home, hlocate, hdirectory, hlisted⟩ := Disk.list_eq_ok h
  exact ⟨home, hlocate, hdirectory, fun name => by simpa using hlisted name⟩

/-- A directory that was prepared, and in which there is nothing yet. -/
theorem kept_of_prepare (hprepare : directory.prepare disk = (.ok (), disk'))
    (hempty : disk'.list directory.path.components = .ok []) :
    ∃ home, Kept directory disk' home fun _ => none := by
  obtain ⟨home, hfolder⟩ := folder_of_list hempty
  refine ⟨home, ?_, hfolder, fun name hfile => absurd rfl hfile, fun key hfile => absurd rfl hfile⟩
  unfold prepare Disk.present at hprepare
  cases hpath : Disk.checkPath directory.path with
  | ok _ => rfl
  | error e =>
      rw [hpath] at hprepare
      cases hprepare

/-- The steps that take away what is left of writes and deletions. -/
def sweepSteps (directory : QueueDirectory) (listed : List String) : List DiskStep :=
  (listed.filter fun name => isTemporary name || isDeleted name).map fun name =>
    .remove (directory.file name)

/-- To prepare a directory again is to sweep it. -/
theorem Regular.prepare_eq (h : Regular directory disk home files) {listed : List String}
    (hlist : disk.list directory.path.components = .ok listed) :
    directory.prepare disk = liftRun (DiskStep.run disk (directory.sweepSteps listed)) := by
  have hfind : disk.find directory.path.components = .ok .directory :=
    Disk.find_eq_ok_iff.2 ⟨home, h.folder.locate, h.folder.directory⟩
  have hpresent : disk.present directory.path = .ok true := by
    unfold Disk.present
    rw [h.path, hfind]
    rfl
  have hdirectory : disk.isDirectory directory.path.components = true := by
    unfold Disk.isDirectory
    rw [hfind]
  unfold prepare sweep
  rw [hpresent, hdirectory, hlist]
  rfl

/-- To prepare a directory again succeeds, and leaves all files but those that are marked as
leftovers. -/
theorem Regular.prepared (h : Regular directory disk home files) :
    ∃ disk', directory.prepare disk = (.ok (), disk') ∧
      Regular directory disk' home files.swept := by
  obtain ⟨listed, hlist, hnodup, hlisted⟩ := h.folder.list_eq
  let leftovers := listed.filter fun name => isTemporary name || isDeleted name
  have hthere : ∀ name ∈ leftovers, files name ≠ none := fun name hname =>
    (hlisted name).1 (List.mem_filter.1 hname).1
  have hremoved : (fun name => if name ∈ leftovers then none else files name) = files.swept := by
    funext name
    unfold Files.swept
    by_cases hfile : files name = none
    · simp [hfile]
    · have hmem : name ∈ leftovers ↔ (isTemporary name || isDeleted name) = true := by
        simp [leftovers, List.mem_filter, hlisted, hfile]
      simp only [hmem]
  have hruns := Files.run_removes (hnodup.filter _) hthere
  rw [hremoved] at hruns
  have hplain : ∀ step ∈ leftovers.map FileStep.remove, step.Of Disk.Plain := by
    intro step hstep
    obtain ⟨name, hname, rfl⟩ := List.mem_map.1 hstep
    exact h.proper.plain name (hthere name hname)
  obtain ⟨disk', hrun, hfolder⟩ := h.folder.run_inside hplain
  rw [hruns, List.map_map] at hrun
  rw [hruns] at hfolder
  refine ⟨disk', ?_, h.path, hfolder, h.proper.swept⟩
  have hsteps : directory.sweepSteps listed =
      leftovers.map (FileStep.inside directory.path.components ∘ FileStep.remove) := rfl
  rw [h.prepare_eq hlist, hsteps, hrun]
  rfl

/-- To prepare a directory of the store again succeeds, and leaves what is in place. -/
theorem Kept.prepared (h : Kept directory disk home files) :
    ∃ disk', directory.prepare disk = (.ok (), disk') ∧ Kept directory disk' home files.swept := by
  obtain ⟨disk', hprepare, hregular⟩ := h.regular.prepared
  refine ⟨disk', hprepare, h.path, hregular.folder, h.own.swept, ?_⟩
  rw [Files.parts_swept]
  exact h.paired

end QueueDirectory

end Postroom
