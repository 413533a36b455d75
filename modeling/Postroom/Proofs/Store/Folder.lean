import Mathlib.Data.List.Basic
import Postroom.Proofs.Record.FileName

/-!
A directory in which there are only files, as a map from names to bytes. Every step on a file of the
directory does to the map what it says, whatever else is on the disk and wherever the directory is.
So what a store does in its directory can be told of the map alone.
-/

namespace Postroom

/-- The files of a directory by their names. -/
abbrev Files := String → Option (List UInt8)

/-- The files with another one, or none, under a name. -/
def Files.set (files : Files) (name : String) (bytes? : Option (List UInt8)) : Files := fun n =>
  if n = name then bytes? else files n

namespace Disk

variable {disk disk' : Disk} {names : List String} {home : Location} {files : Files}

theorem node?_of_ne_nil {location : Location} (h : location ≠ []) :
    disk.node? location = disk.nodes[location]? := by
  cases location with
  | nil => exact absurd rfl h
  | cons name rest => rfl

theorem node?_put {location : Location} (h : location ≠ []) (node : DiskNode) (other : Location) :
    (disk.put location node).node? other =
      if other = location then some node else disk.node? other := by
  by_cases hother : other = []
  · subst hother
    rw [if_neg h.symm]
    rfl
  · rw [node?_of_ne_nil hother, node?_of_ne_nil hother, put, Std.ExtTreeMap.getElem?_insert]
    simp only [Std.compare_eq_iff_eq, @eq_comm _ location]

theorem node?_erase {location : Location} (h : location ≠ []) (other : Location) :
    (⟨disk.nodes.erase location⟩ : Disk).node? other =
      if other = location then none else disk.node? other := by
  by_cases hother : other = []
  · subst hother
    rw [if_neg h.symm]
    rfl
  · rw [node?_of_ne_nil hother, node?_of_ne_nil hother, Std.ExtTreeMap.getElem?_erase]
    simp only [Std.compare_eq_iff_eq, @eq_comm _ location]

/-- A way that leads somewhere starts in a directory and goes on from the next one. -/
theorem walk_cons_eq_ok_iff {location goal : Location} {name : String} {rest : List String} :
    disk.walk location (name :: rest) = .ok goal ↔ disk.node? location = some .directory ∧
      (name = ".." ∧ disk.walk location.dropLast rest = .ok goal ∨
        name ≠ ".." ∧ name.utf8ByteSize ≤ maxName ∧
          disk.walk (location ++ [name]) rest = .ok goal) := by
  rw [walk]
  cases hnode : disk.node? location with
  | none => simp
  | some node =>
      cases node with
      | file bytes => simp
      | directory =>
          by_cases hup : name = ".."
          · simp [hup]
          · by_cases hsize : maxName < name.utf8ByteSize
            · simp [hup, hsize, Nat.not_le.2 hsize]
            · simp [hup, hsize, Nat.not_lt.1 hsize]

/-- A way that leads somewhere still leads there as long as no directory goes. -/
theorem walk_of_directories
    (h : ∀ location, disk.node? location = some .directory → disk'.node? location = some .directory)
    {location goal : Location} (hwalk : disk.walk location names = .ok goal) :
    disk'.walk location names = .ok goal := by
  induction names generalizing location with
  | nil => exact hwalk
  | cons name rest ih =>
      obtain ⟨hdirectory, ⟨hup, hwalk⟩ | ⟨hup, hsize, hwalk⟩⟩ := walk_cons_eq_ok_iff.1 hwalk
      · exact walk_cons_eq_ok_iff.2 ⟨h _ hdirectory, .inl ⟨hup, ih hwalk⟩⟩
      · exact walk_cons_eq_ok_iff.2 ⟨h _ hdirectory, .inr ⟨hup, hsize, ih hwalk⟩⟩

/-- A way to a directory leads on to what is in it. -/
theorem walk_append {location : Location} (hwalk : disk.walk location names = .ok home)
    (hhome : disk.node? home = some .directory) {name : String} (hplain : Plain name) :
    disk.walk location (names ++ [name]) = .ok (home ++ [name]) := by
  induction names generalizing location with
  | nil =>
      cases hwalk
      exact walk_cons_eq_ok_iff.2 ⟨hhome, .inr ⟨hplain.up, hplain.size, rfl⟩⟩
  | cons first rest ih =>
      obtain ⟨hdirectory, ⟨hup, hwalk⟩ | ⟨hup, hsize, hwalk⟩⟩ := walk_cons_eq_ok_iff.1 hwalk
      · exact walk_cons_eq_ok_iff.2 ⟨hdirectory, .inl ⟨hup, ih hwalk⟩⟩
      · exact walk_cons_eq_ok_iff.2 ⟨hdirectory, .inr ⟨hup, hsize, ih hwalk⟩⟩

/-- A directory, found at `home` by following `names`, that has these files and nothing else in
it. -/
structure Folder (disk : Disk) (names : List String) (home : Location) (files : Files) : Prop where
  locate : disk.locate names = .ok home
  directory : disk.node? home = some .directory
  entry : ∀ name, disk.node? (home ++ [name]) = (files name).map .file

/-- A directory has only one set of files. -/
theorem Folder.files_eq {files' : Files} (h : Folder disk names home files)
    (h' : Folder disk names home files') : files = files' := by
  funext name
  have hentry := (h.entry name).symm.trans (h'.entry name)
  exact Option.map_injective (fun _ _ heq => DiskNode.file.inj heq) hentry

theorem locate_eq_ok_iff {goal : Location} :
    disk.locate names = .ok goal ↔ hasNul names = false ∧ disk.walk [] names = .ok goal := by
  unfold locate
  cases hasNul names <;> simp

theorem find_eq_ok_iff {node : DiskNode} :
    disk.find names = .ok node ↔ ∃ goal, disk.locate names = .ok goal ∧
      disk.node? goal = some node := by
  unfold find
  cases disk.locate names with
  | error e => simp [bind, Except.bind]
  | ok goal => cases hnode : disk.node? goal <;> simp [bind, Except.bind, hnode]

theorem locate_of_directories
    (h : ∀ location, disk.node? location = some .directory → disk'.node? location = some .directory)
    (hlocate : disk.locate names = .ok home) : disk'.locate names = .ok home := by
  obtain ⟨hnul, hwalk⟩ := locate_eq_ok_iff.1 hlocate
  exact locate_eq_ok_iff.2 ⟨hnul, walk_of_directories h hwalk⟩

/-- What is in a directory is found under its own name. -/
theorem locate_append (hlocate : disk.locate names = .ok home)
    (hhome : disk.node? home = some .directory)
    {name : String} (hplain : Plain name) :
    disk.locate (names ++ [name]) = .ok (home ++ [name]) := by
  obtain ⟨hnul, hwalk⟩ := locate_eq_ok_iff.1 hlocate
  refine locate_eq_ok_iff.2 ⟨?_, walk_append hwalk hhome hplain⟩
  have hname : name.toList.contains '\x00' = false := by simpa using hplain.nul
  rw [hasNul] at hnul ⊢
  rw [List.any_append, hnul, List.any_cons, hname]
  rfl

theorem find_append (hlocate : disk.locate names = .ok home)
    (hhome : disk.node? home = some .directory)
    {name : String} (hplain : Plain name) : disk.find (names ++ [name]) =
      match disk.node? (home ++ [name]) with
      | some node => .ok node
      | none => .error .noEntry := by
  unfold find
  rw [locate_append hlocate hhome hplain]
  rfl

/-- A file moves to another name, unless a directory has it. -/
theorem rename_file (hlocate : disk.locate names = .ok home)
    (hhome : disk.node? home = some .directory)
    {source target : String} (hsource : Plain source) (htarget : Plain target)
    (hne : source ≠ target)
    {bytes : List UInt8} (hfile : disk.node? (home ++ [source]) = some (.file bytes))
    (hfree : disk.node? (home ++ [target]) ≠ some .directory) :
    ∃ disk', disk.rename (names ++ [source]) (names ++ [target]) = .ok disk' ∧ ∀ location,
      disk'.node? location = if location = home ++ [target] then some (.file bytes)
        else if location = home ++ [source] then none else disk.node? location := by
  have hapart : home ++ [source] ≠ home ++ [target] := by simpa using hne
  refine ⟨put ⟨disk.nodes.erase (home ++ [source])⟩ (home ++ [target]) (.file bytes), ?_,
    fun location => ?_⟩
  · unfold rename
    rw [find_append hlocate hhome hsource, hfile, locate_append hlocate hhome hsource,
      locate_append hlocate hhome htarget]
    simp only [bind, Except.bind, List.dropLast_concat, hhome]
    cases hthere : disk.node? (home ++ [target]) with
    | none => exact if_neg hapart
    | some node =>
        cases node with
        | directory => exact absurd hthere hfree
        | file former => exact if_neg hapart
  · rw [node?_put (by simp), node?_erase (by simp)]

theorem rename_missing (hlocate : disk.locate names = .ok home)
    (hhome : disk.node? home = some .directory)
    {source target : String} (hsource : Plain source)
    (hnone : disk.node? (home ++ [source]) = none) :
    disk.rename (names ++ [source]) (names ++ [target]) = .error .noEntry := by
  unfold rename
  rw [find_append hlocate hhome hsource, hnone]
  rfl

theorem Folder.locate_entry (h : Folder disk names home files) {name : String}
    (hplain : Plain name) :
    disk.locate (names ++ [name]) = .ok (home ++ [name]) :=
  locate_append h.locate h.directory hplain

/-- A disk on which one entry of the folder has changed. -/
theorem Folder.of_entry (h : Folder disk names home files) {name : String}
    {bytes? : Option (List UInt8)} (hsame : ∀ location, disk'.node? location =
      if location = home ++ [name] then bytes?.map .file else disk.node? location) :
    Folder disk' names home (files.set name bytes?) := by
  have hkept : ∀ location, disk.node? location = some .directory →
      disk'.node? location = some .directory := by
    intro location hdirectory
    rw [hsame, if_neg, hdirectory]
    rintro rfl
    rw [h.entry] at hdirectory
    cases hfile : files name with
    | none => simp [hfile] at hdirectory
    | some bytes => simp [hfile] at hdirectory
  refine ⟨locate_of_directories hkept h.locate, hkept _ h.directory, fun other => ?_⟩
  rw [hsame, Files.set, h.entry]
  simp only [List.append_cancel_left_eq, List.cons.injEq, and_true]
  split <;> rfl

theorem Folder.find_entry (h : Folder disk names home files) {name : String} (hplain : Plain name) :
    disk.find (names ++ [name]) = match files name with
      | some bytes => .ok (.file bytes)
      | none => .error .noEntry := by
  rw [find_append h.locate h.directory hplain, h.entry]
  cases files name <;> rfl

theorem Folder.read_entry (h : Folder disk names home files) {name : String} (hplain : Plain name) :
    disk.read (names ++ [name]) = match files name with
      | some bytes => .ok bytes
      | none => .error .noEntry := by
  unfold read
  rw [h.find_entry hplain]
  cases files name <;> rfl

/-- A step on files of a directory. -/
inductive FileStep where
  | fill (name : String) (bytes : List UInt8)
  | rename (source target : String)
  | remove (name : String)

namespace FileStep

def apply (files : Files) : FileStep → Except IoError Files
  | .fill name bytes => .ok (files.set name (some bytes))
  | .rename source target =>
      match files source with
      | some bytes => .ok ((files.set source none).set target (some bytes))
      | none => .error .noEntry
  | .remove name =>
      match files name with
      | some _ => .ok (files.set name none)
      | none => .error .noEntry

/-- Whether all files that a step is about have one property. -/
def Of (property : String → Prop) : FileStep → Prop
  | .fill name _ => property name
  | .rename source target => property source ∧ property target
  | .remove name => property name

/-- The step on the disk, in the directory that some names lead to. -/
def inside (names : List String) : FileStep → DiskStep
  | .fill name bytes => .fill (names ++ [name]) bytes
  | .rename source target => .rename (names ++ [source]) (names ++ [target])
  | .remove name => .remove (names ++ [name])

end FileStep

theorem Folder.fill_entry (h : Folder disk names home files) {name : String} (hplain : Plain name)
    (bytes : List UInt8) : ∃ disk', disk.fill (names ++ [name]) bytes = .ok disk' ∧
      Folder disk' names home (files.set name (some bytes)) := by
  refine ⟨disk.put (home ++ [name]) (.file bytes), ?_, h.of_entry (node?_put (by simp) _)⟩
  unfold fill
  rw [h.locate_entry hplain]
  simp only [bind, Except.bind, List.dropLast_concat, h.directory, h.entry]
  cases files name <;> rfl

theorem Folder.rename_entry (h : Folder disk names home files) {source target : String}
    (hsource : Plain source) (htarget : Plain target) :
    (∃ bytes disk', files source = some bytes ∧
      disk.rename (names ++ [source]) (names ++ [target]) = .ok disk' ∧
        Folder disk' names home ((files.set source none).set target (some bytes))) ∨
    files source = none ∧ disk.rename (names ++ [source])
      (names ++ [target]) = .error .noEntry := by
  cases hfile : files source with
  | none => exact .inr ⟨rfl,
      rename_missing h.locate h.directory hsource (by rw [h.entry, hfile]; rfl)⟩
  | some bytes =>
      refine .inl ⟨bytes, ?_⟩
      have hnode : disk.node? (home ++ [source]) = some (.file bytes) := by
        rw [h.entry, hfile]
        rfl
      by_cases hsame : source = target
      · subst hsame
        have hfiles : (files.set source none).set source (some bytes) = files := by
          funext n
          unfold Files.set
          split
          · rename_i hn
            rw [hn, hfile]
          · rfl
        rw [hfiles]
        refine ⟨disk, rfl, ?_, h⟩
        unfold rename
        rw [h.find_entry hsource, h.locate_entry hsource, hfile]
        simp only [bind, Except.bind, List.dropLast_concat, h.directory, hnode, if_true]
      · have hfree : disk.node? (home ++ [target]) ≠ some .directory := by
          rw [h.entry]
          cases files target <;> simp
        obtain ⟨disk', hrename, hnodes⟩ :=
          rename_file h.locate h.directory hsource htarget hsame hnode hfree
        have herased : Folder ⟨disk.nodes.erase (home ++ [source])⟩ names home
          (files.set source none) :=
          h.of_entry (node?_erase (by simp))
        refine ⟨disk', rfl, hrename, herased.of_entry fun location => ?_⟩
        rw [hnodes, node?_erase (by simp)]
        rfl

theorem Folder.remove_entry (h : Folder disk names home files) {name : String}
    (hplain : Plain name) :
    (∃ bytes disk', files name = some bytes ∧ disk.remove (names ++ [name]) = .ok disk' ∧
      Folder disk' names home (files.set name none)) ∨
    files name = none ∧ disk.remove (names ++ [name]) = .error .noEntry := by
  unfold remove
  rw [h.find_entry hplain, h.locate_entry hplain]
  cases files name with
  | none => exact .inr ⟨rfl, rfl⟩
  | some bytes => exact .inl ⟨bytes, _, rfl, rfl, h.of_entry (node?_erase (by simp))⟩

/-- A step does to the disk what it does to the files of the directory, and fails where it fails
there. -/
theorem Folder.apply_inside (h : Folder disk names home files) (step : FileStep)
    (hplain : step.Of Plain) :
    (∃ files' disk', step.apply files = .ok files' ∧ (step.inside names).apply disk = .ok disk' ∧
      Folder disk' names home files') ∨
    ∃ e, step.apply files = .error e ∧ (step.inside names).apply disk = .error e := by
  cases step with
  | fill name bytes =>
      obtain ⟨disk', hfill, hfolder⟩ := h.fill_entry hplain bytes
      exact .inl ⟨_, disk', rfl, hfill, hfolder⟩
  | rename source target =>
      obtain ⟨bytes, disk', hfile, hrename, hfolder⟩ | ⟨hfile, hrename⟩ :=
        h.rename_entry hplain.1 hplain.2
      · exact .inl ⟨_, disk', by simp only [FileStep.apply, hfile], hrename, hfolder⟩
      · exact .inr ⟨_, by simp only [FileStep.apply, hfile], hrename⟩
  | remove name =>
      obtain ⟨bytes, disk', hfile, hremove, hfolder⟩ | ⟨hfile, hremove⟩ := h.remove_entry hplain
      · exact .inl ⟨_, disk', by simp only [FileStep.apply, hfile], hremove, hfolder⟩
      · exact .inr ⟨_, by simp only [FileStep.apply, hfile], hremove⟩

/-- Take steps in order up to the first that fails. -/
def FileStep.run (files : Files) : List FileStep → Except IoError Unit × Files
  | [] => (.ok (), files)
  | step :: rest =>
      match step.apply files with
      | .error e => (.error e, files)
      | .ok files => run files rest

theorem Folder.run_inside (h : Folder disk names home files) {steps : List FileStep}
    (hplain : ∀ step ∈ steps, step.Of Plain) :
    ∃ disk', DiskStep.run disk (steps.map (FileStep.inside names)) =
      ((FileStep.run files steps).1, disk') ∧
      Folder disk' names home (FileStep.run files steps).2 := by
  induction steps generalizing disk files with
  | nil => exact ⟨disk, rfl, h⟩
  | cons step rest ih =>
      have hrest := fun s hs => hplain s (List.mem_cons_of_mem _ hs)
      rw [List.map_cons, DiskStep.run, FileStep.run]
      obtain ⟨files', disk', hfiles, hdisk, hfolder⟩ | ⟨e, hfiles, hdisk⟩ :=
        h.apply_inside step (hplain step (List.mem_cons_self ..))
      · rw [hfiles, hdisk]
        exact ih hfolder hrest
      · rw [hfiles, hdisk]
        exact ⟨disk, rfl, h⟩

/-- The name that a location has in a directory, if it is the location of an entry there. -/
def nameIn (home location : Location) : Option String :=
  if location.dropLast = home then location.getLast? else none

theorem nameIn_eq_some_iff {location : Location} {name : String} :
    nameIn home location = some name ↔ location = home ++ [name] := by
  unfold nameIn
  constructor
  · intro h
    split at h
    · rename_i hdrop
      rw [← hdrop, List.dropLast_append_getLast? name h]
    · cases h
  · rintro rfl
    simp

/-- What is listed is what stands in the directory. -/
theorem list_eq_ok {listed : List String} (h : disk.list names = .ok listed) :
    ∃ home, disk.locate names = .ok home ∧ disk.node? home = some .directory ∧
      ∀ name, name ∈ listed ↔ disk.node? (home ++ [name]) ≠ none := by
  unfold list at h
  cases hfind : disk.find names with
  | error e =>
      rw [hfind] at h
      cases h
  | ok node =>
      obtain ⟨home, hlocate, hnode⟩ := find_eq_ok_iff.1 hfind
      rw [hfind, hlocate] at h
      cases node with
      | file bytes => cases h
      | directory =>
          refine ⟨home, hlocate, hnode, fun name => ?_⟩
          rw [← Except.ok.inj h, List.mem_filterMap, node?_of_ne_nil (by simp)]
          constructor
          · rintro ⟨⟨location, entry⟩, hentry, hin⟩
            obtain rfl : location = home ++ [name] := nameIn_eq_some_iff.1 hin
            rw [Std.ExtTreeMap.mem_toList_iff_getElem?_eq_some] at hentry
            simp [hentry]
          · intro hthere
            obtain ⟨entry, hentry⟩ := Option.ne_none_iff_exists'.1 hthere
            exact ⟨(home ++ [name], entry), Std.ExtTreeMap.mem_toList_iff_getElem?_eq_some.2 hentry,
              nameIn_eq_some_iff.2 rfl⟩

/-- The names in the directory, each once. -/
theorem Folder.list_eq (h : Folder disk names home files) :
    ∃ listed, disk.list names = .ok listed ∧ listed.Nodup ∧
      ∀ name, name ∈ listed ↔ files name ≠ none := by
  have hlist : disk.list names =
    .ok (disk.nodes.toList.filterMap fun entry => nameIn home entry.1) := by
    unfold list
    rw [find_eq_ok_iff.2 ⟨home, h.locate, h.directory⟩, h.locate]
    rfl
  obtain ⟨home', hlocate, -, hlisted⟩ := list_eq_ok hlist
  obtain rfl : home = home' := Except.ok.inj (h.locate.symm.trans hlocate)
  refine ⟨_, hlist, ?_, fun name => ?_⟩
  · have hdistinct : disk.nodes.toList.Pairwise fun a b => ¬ compare a.1 b.1 = .eq :=
      Std.ExtTreeMap.distinct_keys_toList
    refine hdistinct.filterMap _ fun a b hne name ha other hb heq => hne ?_
    rw [nameIn_eq_some_iff.1 ha, nameIn_eq_some_iff.1 hb, heq]
    exact Std.ReflCmp.compare_self
  · rw [hlisted, h.entry, ne_eq, Option.map_eq_none_iff]

end Disk

end Postroom
