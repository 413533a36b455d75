import Postroom.Proofs.Queue.Run
import Postroom.Proofs.Store.Pairs
import Postroom.Store.Vault

/-!
Records are apart from each other: to read one changes nothing, and to put one aside leaves whatever
is read of the others, be it a mail or a failure. Stores in memory are like that. On a disk a record
is put aside by renaming what stands under its names, and that may be anything, a directory with
entries of its own included. It still leaves all other names of the directory, as long as the path
to it has no way up that could lead through what is renamed.
-/

namespace Postroom

namespace Disk

variable {disk disk' : Disk} {names : List String}

/-- Without a way up, names lead where they say. -/
theorem walk_eq_append {location goal : Location} (hup : ".." ∉ names)
    (h : disk.walk location names = .ok goal) : goal = location ++ names := by
  induction names generalizing location with
  | nil =>
      cases h
      exact (List.append_nil _).symm
  | cons name rest ih =>
      obtain ⟨-, ⟨rfl, -⟩ | ⟨-, -, hrest⟩⟩ := walk_cons_eq_ok_iff.1 h
      · exact absurd (List.mem_cons_self ..) hup
      · rw [ih (fun hmem => hup (List.mem_cons_of_mem _ hmem)) hrest, List.append_assoc,
          List.singleton_append]

theorem locate_eq_self {goal : Location} (hup : ".." ∉ names) (h : disk.locate names = .ok goal) :
    goal = names := by
  have hwalk := walk_eq_append hup (locate_eq_ok_iff.1 h).2
  rwa [List.nil_append] at hwalk

/-- The way along some names is the same on disks that have the same nodes along it. -/
theorem walk_congr {location : Location} (hup : ".." ∉ names)
    (h : ∀ passed, location <+: passed → passed <+: location ++ names →
      disk'.node? passed = disk.node? passed) :
    disk'.walk location names = disk.walk location names := by
  induction names generalizing location with
  | nil => rfl
  | cons name rest ih =>
      have hname : name ≠ ".." := fun heq => hup (heq ▸ List.mem_cons_self ..)
      have hhere := h location List.prefix_rfl (List.prefix_append ..)
      have hrest : disk'.walk (location ++ [name]) rest = disk.walk (location ++ [name]) rest := by
        refine ih (fun hmem => hup (List.mem_cons_of_mem _ hmem)) fun passed hpassed hbefore => ?_
        rw [List.append_assoc, List.singleton_append] at hbefore
        exact h passed ((List.prefix_append ..).trans hpassed) hbefore
      rw [walk, walk, hhere, hrest]
      simp only [if_neg hname]

/-- What some names lead to depends on the nodes on the way there alone. -/
theorem find_congr (hup : ".." ∉ names)
    (h : ∀ passed, passed <+: names → disk'.node? passed = disk.node? passed) :
    disk'.find names = disk.find names := by
  have hwalk : disk'.walk [] names = disk.walk [] names :=
    walk_congr hup fun passed _ hpassed => h passed hpassed
  have hlocate : disk'.locate names = disk.locate names := by
    unfold locate
    rw [hwalk]
  unfold find
  rw [hlocate]
  cases hgoal : disk.locate names with
  | error e => rfl
  | ok goal =>
      rw [locate_eq_self hup hgoal]
      simp only [bind, Except.bind, h names List.prefix_rfl]

theorem getElem?_foldl_insert_of_ne {entries : List (Location × DiskNode)}
    {moves : Location × DiskNode → Bool} {goal : Location × DiskNode → Location}
    {location : Location} (h : ∀ entry ∈ entries, goal entry ≠ location)
    (nodes : Std.ExtTreeMap Location DiskNode) :
    (entries.foldl (fun nodes entry =>
      if moves entry then nodes.insert (goal entry) entry.2 else nodes) nodes)[location]? =
        nodes[location]? := by
  induction entries generalizing nodes with
  | nil => rfl
  | cons entry entries ih =>
      rw [List.foldl_cons, ih fun e he => h e (List.mem_cons_of_mem _ he)]
      split
      · have hne := h entry (List.mem_cons_self ..)
        rw [Std.ExtTreeMap.getElem?_insert, if_neg (by simpa using hne)]
      · rfl

/-- The disk after everything below `start` was moved to `goal`. -/
def moved (disk : Disk) (start goal : Location) : Disk :=
  ⟨disk.nodes.toList.foldl
    (fun nodes (other, node) =>
      if start.isPrefixOf other then nodes.insert (goal ++ other.drop start.length) node
      else nodes)
    (disk.nodes.filter fun other _ => !start.isPrefixOf other)⟩

theorem node?_moved {start goal location : Location} (hfrom : ¬ start <+: location)
    (hto : ¬ goal <+: location) : (disk.moved start goal).node? location = disk.node? location := by
  by_cases htop : location = []
  · rw [htop]
    rfl
  · have hkept : (disk.nodes.filter fun other _ => !start.isPrefixOf other)[location]? =
        disk.nodes[location]? := by
      have hout : start.isPrefixOf location = false :=
        Bool.eq_false_iff.2 fun h => hfrom (List.isPrefixOf_iff_prefix.1 h)
      rw [Std.ExtTreeMap.getElem?_filter', hout]
      cases disk.nodes[location]? <;> rfl
    rw [node?_of_ne_nil htop, node?_of_ne_nil htop, ← hkept]
    refine getElem?_foldl_insert_of_ne (fun entry _ heq => hto ?_) _
    rw [← heq]
    exact List.prefix_append ..

/-- All that renaming can do: nothing, or it moves a directory with what is below it, or a file. -/
theorem rename_cases {source target : List String} (hsource : ".." ∉ source)
    (htarget : ".." ∉ target) (hrename : disk.rename source target = .ok disk') :
    disk' = disk ∨ disk' = disk.moved source target ∨
      ∃ bytes, disk' = put ⟨disk.nodes.erase source⟩ target (.file bytes) := by
  unfold rename at hrename
  cases hfind : disk.find source with
  | error e =>
      rw [hfind] at hrename
      cases hrename
  | ok node =>
      cases hstart : disk.locate source with
      | error e =>
          rw [hfind, hstart] at hrename
          cases hrename
      | ok start =>
          cases hgoal : disk.locate target with
          | error e =>
              rw [hfind, hstart, hgoal] at hrename
              cases hrename
          | ok goal =>
              rw [hfind, hstart, hgoal] at hrename
              obtain rfl := locate_eq_self hsource hstart
              obtain rfl := locate_eq_self htarget hgoal
              simp only [bind, Except.bind] at hrename
              split at hrename
              · cases hrename
              · cases hrename
              · split at hrename
                · cases hrename
                · cases hrename
                · split at hrename
                  · exact .inl (Except.ok.inj hrename).symm
                  · split at hrename
                    · cases hrename
                    · exact .inr (.inl (Except.ok.inj hrename).symm)
                · split at hrename
                  · exact .inl (Except.ok.inj hrename).symm
                  · exact .inr (.inr ⟨_, (Except.ok.inj hrename).symm⟩)
                · exact .inr (.inl (Except.ok.inj hrename).symm)

/-- To rename an entry leaves all nodes but those below its old place and its new one. -/
theorem node?_rename {source target : List String} (hsource : ".." ∉ source)
    (htarget : ".." ∉ target)
    (hrename : disk.rename source target = .ok disk') {location : Location}
    (hfrom : ¬ source <+: location) (hto : ¬ target <+: location) :
    disk'.node? location = disk.node? location := by
  have hbelow : ∀ top : Location, ¬ top <+: location → top ≠ [] ∧ location ≠ top := by
    intro top hout
    exact ⟨fun heq => hout (heq ▸ List.nil_prefix), fun heq => hout (heq ▸ List.prefix_rfl)⟩
  rcases rename_cases hsource htarget hrename with rfl | rfl | ⟨bytes, rfl⟩
  · rfl
  · exact node?_moved hfrom hto
  · rw [node?_put (hbelow target hto).1, if_neg (hbelow target hto).2,
      node?_erase (hbelow source hfrom).1, if_neg (hbelow source hfrom).2]

/-- To rename an entry of a directory leaves the entries under other names. -/
theorem read_rename {source target other : String} (hup : ".." ∉ names)
    (hnames : ∀ name ∈ [source, target, other], name ≠ "..")
    (hrename : disk.rename (names ++ [source]) (names ++ [target]) = .ok disk')
    (hsource : other ≠ source) (htarget : other ≠ target) :
    disk'.read (names ++ [other]) = disk.read (names ++ [other]) := by
  have hentry : ∀ name ∈ [source, target, other], ".." ∉ names ++ [name] := by
    intro name hname hmem
    rcases List.mem_append.1 hmem with hmem | hmem
    · exact hup hmem
    · exact hnames name hname (List.mem_singleton.1 hmem).symm
  have hbeside : ∀ name, other ≠ name → ∀ passed, passed <+: names ++ [other] →
      ¬ names ++ [name] <+: passed := by
    intro name hne passed hpassed hbelow
    have hsame : names ++ [name] = names ++ [other] :=
      (hbelow.trans hpassed).eq_of_length (by simp)
    exact hne (by simpa using hsame.symm)
  have hfind : disk'.find (names ++ [other]) = disk.find (names ++ [other]) := by
    refine find_congr (hentry other (by simp)) fun passed hpassed => ?_
    exact node?_rename (hentry source (by simp)) (hentry target (by simp)) hrename
      (hbeside source hsource passed hpassed) (hbeside target htarget passed hpassed)
  unfold read
  rw [hfind]

end Disk

namespace RecordStore

variable {σ : Type}

/-- A store whose records are apart from each other. -/
structure Separate (store : RecordStore σ) (sound : σ → Prop) : Prop where
  read_same : ∀ key records, (store.read key records).2 = records
  aside_sound : ∀ key {records}, sound records → sound (store.quarantine key records).2
  aside_other : ∀ {key other records}, sound records → other ≠ key →
    (store.read other (store.quarantine key records).2).1 = (store.read other records).1

/-- Records stay apart while some of them cannot be read. -/
theorem Separate.interrupted {store : RecordStore σ} {sound : σ → Prop} (h : store.Separate sound)
    (broken : MailId → Option IoError) : (store.interrupted broken).Separate sound where
  read_same key records := by
    unfold RecordStore.interrupted
    dsimp only
    split
    · rfl
    · exact h.read_same key records
  aside_sound key _ hsound := h.aside_sound key hsound
  aside_other {key other records} hsound hne := by
    unfold RecordStore.interrupted
    dsimp only
    split
    · rfl
    · exact h.aside_other hsound hne

end RecordStore

namespace Memory

theorem find_delete_of_ne {memory : Memory} {key other : RecordKey} (hne : other ≠ key) :
    (memory.delete key).2.find other = memory.find other := by
  unfold delete
  split
  · unfold find
    rw [Std.ExtTreeMap.getElem?_erase, if_neg (by simpa using hne.symm)]
  · rfl

theorem separate : store.Separate fun _ => True where
  read_same _ _ := rfl
  aside_sound _ _ h := h
  aside_other _ hne := find_delete_of_ne hne

end Memory

namespace FaultyMemory

theorem separate : store.Separate fun _ => True where
  read_same key records := by
    obtain ⟨memory, ⟨writes, reads, deletes⟩, written⟩ := records
    cases reads <;> rfl
  aside_sound _ _ h := h
  aside_other {key other records} _ hne := by
    obtain ⟨memory, ⟨writes, reads, deletes⟩, written⟩ := records
    cases deletes with
    | true => rfl
    | false =>
        cases reads with
        | true => rfl
        | false => exact Memory.find_delete_of_ne hne

end FaultyMemory

namespace QueueDirectory

variable {directory : QueueDirectory} {disk disk' : Disk}

/-- Whether the path of a directory has no way up. -/
def Direct (directory : QueueDirectory) : Prop :=
  ".." ∉ directory.path.components

/-- A directory at a path that may hold a queue is direct. -/
theorem direct_of_make {path : Path} {sync : Bool} (h : make path sync = .ok directory) :
    directory.Direct := by
  unfold make validate at h
  split at h
  · cases h
  · rename_i hup
    have hdirect : ".." ∉ path.components := by simpa using hup
    split at h
    · cases h
    · split at h
      · cases h
      · cases h
        exact hdirect

/-- To put a name aside leaves all other names but the one that it gets. -/
theorem read_putAside (hdirect : directory.Direct) {key : RecordKey} {part : RecordPart}
    (haside : directory.putAside disk (key.fileName part) = .ok disk') {other : RecordKey}
    (hne : other ≠ key) (p : RecordPart) :
    disk'.read (directory.file (other.fileName p)) =
      disk.read (directory.file (other.fileName p)) := by
  unfold putAside at haside
  split at haside
  · cases haside
    rfl
  · have hapart : ∀ mark : Mark, nameOf .placed other p ≠ nameOf mark key part := by
      intro mark heq
      exact hne (Files.nameOf_placed_eq_iff.1 heq).2.1
    have hnames : ∀ name ∈ [nameOf .placed key part, nameOf .corrupt key part,
      nameOf .placed other p],
        name ≠ ".." := by
      intro name hname
      simp only [List.mem_cons, List.not_mem_nil, or_false] at hname
      rcases hname with rfl | rfl | rfl <;> exact (plain_nameOf ..).up
    exact Disk.read_rename hdirect hnames haside (hapart .placed) (hapart .corrupt)

theorem find_congr {key : RecordKey} (h : ∀ part, disk'.read (directory.file (key.fileName part)) =
    disk.read (directory.file (key.fileName part))) :
      directory.find disk' key = directory.find disk key := by
  unfold find readPart
  rw [h, h]

theorem find_quarantine (hdirect : directory.Direct) {key other : RecordKey} (hne : other ≠ key) :
    directory.find (directory.quarantine key disk).2 other = directory.find disk other := by
  unfold quarantine
  split
  · rfl
  · rename_i between hobject
    have hfirst := find_congr fun part => read_putAside hdirect hobject hne part
    split
    · exact hfirst
    · rename_i after hcontent
      exact (find_congr fun part => read_putAside hdirect hcontent hne part).trans hfirst

end QueueDirectory

namespace Vault

/-- Whether a store that is in a directory is in a direct one. -/
def Direct : Vault → Prop
  | .directory home _ => home.Direct
  | _ => True

theorem separate : store.Separate Direct where
  read_same key vault := by
    cases vault with
    | memory records => rfl
    | faulty records => exact congrArg Vault.faulty (FaultyMemory.separate.read_same key records)
    | directory home disk => rfl
  aside_sound key vault h := by
    cases vault with
    | memory records => trivial
    | faulty records => trivial
    | directory home disk => exact h
  aside_other {key other vault} h hne := by
    cases vault with
    | memory records => exact Memory.separate.aside_other trivial hne
    | faulty records => exact FaultyMemory.separate.aside_other trivial hne
    | directory home disk => exact QueueDirectory.find_quarantine h hne

end Vault

end Postroom
