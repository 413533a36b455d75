import Postroom.Proofs.Store.Quarantine

/-!
A record that a store lacks does not come back by itself. Whatever is asked of the store, and
whether or not it does it, no name appears under which the record would be found, until a mail is
written under its key. So a record that was put aside is not listed again, unless its parts were
there under other spellings of their names as well: those are not put aside, and the record is
listed at once.
-/

namespace Postroom

namespace Disk

variable {disk disk' : Disk} {names : List String} {name : String}

/-- Whether no file gets a certain name by a step. -/
def FileStep.Spares (name : String) : FileStep → Prop
  | .fill other _ => other ≠ ".." ∧ other ≠ name
  | .rename source target => source ≠ ".." ∧ target ≠ ".." ∧ target ≠ name
  | .remove _ => True

theorem up_notMem_append (hup : ".." ∉ names) (hname : name ≠ "..") : ".." ∉ names ++ [name] := by
  rw [List.mem_append, List.mem_singleton, not_or]
  exact ⟨hup, hname.symm⟩

/-- Two entries of a directory are beside each other. -/
theorem not_isPrefix_of_ne {other : String} (h : other ≠ name) :
    ¬ names ++ [other] <+: names ++ [name] := by
  intro hbelow
  have hsame := hbelow.eq_of_length (by simp)
  exact h (by simpa using hsame)

/-- A file that is filled stands where its names lead. -/
theorem fill_eq_ok {bytes : List UInt8} (h : disk.fill names bytes = .ok disk') :
    ∃ goal, disk.locate names = .ok goal ∧ disk' = disk.put goal (.file bytes) := by
  unfold fill at h
  cases hlocate : disk.locate names with
  | error e =>
      rw [hlocate] at h
      cases h
  | ok goal =>
      rw [hlocate] at h
      simp only [bind, Except.bind] at h
      split at h
      · cases h
      · cases h
      · cases h
      · exact ⟨goal, rfl, (Except.ok.inj h).symm⟩

/-- Only what is there is renamed. -/
theorem find_of_rename {source target : List String} (h : disk.rename source target = .ok disk') :
    ∃ node, disk.find source = .ok node := by
  unfold rename at h
  cases hfind : disk.find source with
  | error e =>
      rw [hfind] at h
      cases h
  | ok node => exact ⟨node, rfl⟩

/-- Only a file is removed, and no file is at the top. -/
theorem remove_eq_ok (h : disk.remove names = .ok disk') :
    ∃ goal, goal ≠ [] ∧ disk' = ⟨disk.nodes.erase goal⟩ := by
  unfold remove at h
  cases hfind : disk.find names with
  | error e =>
      rw [hfind] at h
      cases h
  | ok node =>
      obtain ⟨goal, hlocate, hnode⟩ := find_eq_ok_iff.1 hfind
      rw [hfind, hlocate] at h
      cases node with
      | directory => cases h
      | file bytes =>
          refine ⟨goal, ?_, (Except.ok.inj h).symm⟩
          rintro rfl
          cases hnode

/-- A free name stays free. -/
theorem node?_apply_eq_none (hup : ".." ∉ names) {step : FileStep} (hspares : step.Spares name)
    (happly : (step.inside names).apply disk = .ok disk')
    (hnone : disk.node? (names ++ [name]) = none) :
    disk'.node? (names ++ [name]) = none := by
  cases step with
  | fill other bytes =>
      obtain ⟨hother, hne⟩ := hspares
      obtain ⟨goal, hlocate, rfl⟩ := fill_eq_ok happly
      obtain rfl := locate_eq_self (up_notMem_append hup hother) hlocate
      rw [node?_put (by simp), if_neg (by simpa using hne.symm), hnone]
  | rename source target =>
      obtain ⟨hstart, htarget, hne⟩ := hspares
      have hsource := up_notMem_append hup hstart
      have hname : source ≠ name := by
        rintro rfl
        obtain ⟨node, hfind⟩ := find_of_rename happly
        obtain ⟨goal, hlocate, hnode⟩ := find_eq_ok_iff.1 hfind
        rw [locate_eq_self hsource hlocate, hnone] at hnode
        cases hnode
      rw [node?_rename hsource (up_notMem_append hup htarget) happly (not_isPrefix_of_ne hname)
        (not_isPrefix_of_ne hne), hnone]
  | remove other =>
      obtain ⟨goal, hgoal, rfl⟩ := remove_eq_ok happly
      rw [node?_erase hgoal, hnone, ite_self]

theorem node?_run_eq_none (hup : ".." ∉ names) {steps : List FileStep}
    (hspares : ∀ step ∈ steps, step.Spares name) (hnone : disk.node? (names ++ [name]) = none) :
    (DiskStep.run disk (steps.map (FileStep.inside names))).2.node? (names ++ [name]) = none := by
  induction steps generalizing disk with
  | nil => exact hnone
  | cons step rest ih =>
      rw [List.map_cons, DiskStep.run]
      cases happly : (step.inside names).apply disk with
      | error e => exact hnone
      | ok disk' =>
          exact ih (fun s hs => hspares s (List.mem_cons_of_mem _ hs))
            (node?_apply_eq_none hup (hspares step (List.mem_cons_self ..)) happly hnone)

/-- To create a directory and those above it changes nothing that lies deeper. -/
theorem node?_makeAlong {location other : Location} {made : Bool}
    (h : location.length + (names.filter (· ≠ ".")).length < other.length) :
    (disk.makeAlong location made names).2.node? other = disk.node? other := by
  have hdeeper : ∀ {location : Location} {name : String} {rest : List String}, name ≠ "." →
      location.length + ((name :: rest).filter (· ≠ ".")).length < other.length →
      (location ++ [name]).length + (rest.filter (· ≠ ".")).length < other.length := by
    intro location name rest hdot h
    rw [List.filter_cons_of_pos (by simpa using hdot), List.length_cons] at h
    rw [List.length_append, List.length_singleton]
    omega
  fun_induction makeAlong disk location made names with
  | case1 => rfl
  | case2 disk location made rest ih => exact ih (by simpa using h)
  | case3 disk location made rest hdot ih =>
      have hup := hdeeper hdot h
      rw [List.length_append] at hup
      have hshorter := location.length_dropLast
      exact ih (by omega)
  | case4 => rfl
  | case5 disk location made name rest hdot hup hlong next hnode ih => exact ih (hdeeper hdot h)
  | case6 => rfl
  | case7 => rfl
  | case8 disk location made name rest hdot hup hlong next hnode hrest ih =>
      have hbelow := hdeeper hdot h
      have hlength : next.length = (location ++ [name]).length := rfl
      have hne : other ≠ next := by
        rintro rfl
        omega
      rw [ih hbelow, node?_put (by simp [next]), if_neg hne]

end Disk

namespace QueueDirectory

open Disk (FileStep)

variable {directory : QueueDirectory} {disk disk' : Disk} {key other : RecordKey}
  {part : RecordPart}
  {keys : List RecordKey}

/-- Whether nothing in a directory passes for a part of a record. -/
structure Lacks (directory : QueueDirectory) (key : RecordKey) (part : RecordPart) (disk : Disk) :
    Prop where
  direct : directory.Direct
  none : ∀ name, RecordKey.ofFileName? name = some (key, part) →
    disk.node? (directory.file name) = none

/-- Whether a part of a record is in a directory under a name that is read as its own but is not the
one that a store gives to it. The id may be spelled in more than one way. -/
def Respelled (directory : QueueDirectory) (key : RecordKey) (part : RecordPart) (disk : Disk) :
    Prop :=
  ∃ name, RecordKey.ofFileName? name = some (key, part) ∧ name ≠ nameOf .placed key part ∧
    disk.node? (directory.file name) ≠ none

/-- Records are put aside by the names that a store gives to their files. Other names stay. -/
theorem PutAside.node?_other (h : directory.PutAside keys disk disk') {name : String}
    (hread : RecordKey.ofFileName? name = some (key, part))
    (hname : name ≠ nameOf .placed key part) :
    disk'.node? (directory.file name) = disk.node? (directory.file name) := by
  refine h.others _ fun other hother p => ⟨fun heq => ?_, fun heq => ?_⟩
  · obtain rfl : name = nameOf .placed other p := by simpa [file] using heq
    rw [ofFileName?_nameOf (by decide), if_pos rfl] at hread
    cases hread
    exact hname rfl
  · obtain rfl : name = nameOf .corrupt other p := by simpa [file] using heq
    exact absurd (Files.eq_placed_of_isSome (by rw [hread]; rfl)) (by decide)

/-- A part of a record that was put aside is gone, unless it has another name. -/
theorem PutAside.lacks (h : directory.PutAside keys disk disk') (hdirect : directory.Direct)
    (hkey : key ∈ keys) (honly : ¬ directory.Respelled key part disk) :
    directory.Lacks key part disk' := by
  refine ⟨hdirect, fun name hread => ?_⟩
  by_cases hname : name = nameOf .placed key part
  · rw [hname]
    exact h.placed key hkey part
  · rw [h.node?_other hread hname]
    by_contra hthere
    exact honly ⟨name, hread, hname, hthere⟩

theorem Sound.list_eq (h : directory.Sound disk) :
    ∃ listed, directory.list disk = (.ok listed, disk) ∧ ∀ key, key ∈ listed ↔
      ∀ part, ∃ name, RecordKey.ofFileName? name = some (key, part) ∧
        disk.node? (directory.file name) ≠ none := by
  obtain ⟨hlocate, hhome⟩ := Disk.locate_of_directory h.direct h.home
  obtain ⟨names, hnames⟩ : ∃ names, disk.list directory.path.components = .ok names := by
    unfold Disk.list
    rw [h.home, hlocate]
    exact ⟨_, rfl⟩
  obtain ⟨goal, hgoal, -, hlisted⟩ := Disk.list_eq_ok hnames
  obtain rfl := Disk.locate_eq_self h.direct hgoal
  refine ⟨pairsOf names, ?_, fun key => ?_⟩
  · rw [list, hnames]
    rfl
  · simp only [mem_pairsOf_iff, hlisted, file, and_comm]

/-- A record that was put aside is listed again exactly if both its parts have another name. -/
theorem PutAside.listed_iff (h : directory.PutAside keys disk disk')
    (hsound : directory.Sound disk') (hkey : key ∈ keys) :
    ∃ listed, directory.list disk' = (.ok listed, disk') ∧
      (key ∈ listed ↔ ∀ part, directory.Respelled key part disk) := by
  obtain ⟨listed, hlist, hlisted⟩ := hsound.list_eq
  refine ⟨listed, hlist, (hlisted key).trans (forall_congr' fun part => ?_)⟩
  constructor
  · rintro ⟨name, hread, hthere⟩
    have hname : name ≠ nameOf .placed key part := by
      rintro rfl
      exact hthere (h.placed key hkey part)
    exact ⟨name, hread, hname, h.node?_other hread hname ▸ hthere⟩
  · rintro ⟨name, hread, hname, hthere⟩
    exact ⟨name, hread, (h.node?_other hread hname).symm ▸ hthere⟩

theorem Lacks.run (h : directory.Lacks key part disk) {steps : List FileStep}
    (hspares : ∀ step ∈ steps, ∀ name, RecordKey.ofFileName? name = some (key, part) →
      step.Spares name) :
    directory.Lacks key part (DiskStep.run disk
      (steps.map (FileStep.inside directory.path.components))).2 :=
  ⟨h.direct, fun name hread => Disk.node?_run_eq_none h.direct
    (fun step hstep => hspares step hstep name hread) (h.none name hread)⟩

/-- The names that a store gives to files are not read as the name of a record, but for those of its
own files in place. -/
theorem nameOf_ne {mark : Mark} {p : RecordPart} {name : String}
    (hread : RecordKey.ofFileName? name = some (key, part)) (h : mark = .placed → other ≠ key) :
    nameOf mark other p ≠ name := by
  rintro rfl
  obtain rfl := Files.eq_placed_of_isSome (by rw [hread]; rfl)
  rw [ofFileName?_nameOf (by decide), if_pos rfl] at hread
  cases hread
  exact h rfl rfl

theorem Lacks.write (h : directory.Lacks key part disk) (hne : other ≠ key) (mail : Mail) :
    directory.Lacks key part (directory.write other mail disk).2 := by
  unfold QueueDirectory.write
  split
  · exact h
  · rename_i object hencode
    rw [writeSteps_eq]
    refine h.run fun step hstep name hread => ?_
    have hup : ∀ mark p, nameOf mark other p ≠ ".." := fun mark p => (plain_nameOf mark other p).up
    have hname : ∀ mark p, nameOf mark other p ≠ name := fun mark p => nameOf_ne hread fun _ => hne
    simp only [writing, placing, List.mem_append, List.mem_cons, List.not_mem_nil,
      or_false] at hstep
    rcases hstep with (rfl | rfl) | rfl | rfl
    · exact ⟨hup _ _, hname _ _⟩
    · exact ⟨hup _ _, hup _ _, hname _ _⟩
    · exact ⟨hup _ _, hname _ _⟩
    · exact ⟨hup _ _, hup _ _, hname _ _⟩

theorem Lacks.delete (h : directory.Lacks key part disk) (other : RecordKey) :
    directory.Lacks key part (directory.delete other disk).2 := by
  unfold QueueDirectory.delete
  rw [deleteSteps_eq]
  refine h.run fun step hstep name hread => ?_
  have hup : ∀ mark p, nameOf mark other p ≠ ".." := fun mark p => (plain_nameOf mark other p).up
  have hname : ∀ p, nameOf .deleted other p ≠ name := fun p => nameOf_ne hread (by simp)
  simp only [deleting, List.mem_cons, List.not_mem_nil, or_false] at hstep
  rcases hstep with rfl | rfl | rfl | rfl
  · exact ⟨hup _ _, hup _ _, hname _⟩
  · exact ⟨hup _ _, hup _ _, hname _⟩
  · trivial
  · trivial

theorem Lacks.putAside (h : directory.Lacks key part disk) {p : RecordPart}
    (haside : directory.putAside disk (other.fileName p) = .ok disk') :
    directory.Lacks key part disk' := by
  unfold QueueDirectory.putAside at haside
  split at haside
  · cases haside
    exact h
  · refine ⟨h.direct, fun name hread => ?_⟩
    have hspares : (FileStep.rename (nameOf .placed other p)
      (nameOf .corrupt other p)).Spares name :=
      ⟨(plain_nameOf ..).up, (plain_nameOf ..).up, nameOf_ne hread (by simp)⟩
    exact Disk.node?_apply_eq_none h.direct hspares haside (h.none name hread)

theorem Lacks.quarantine (h : directory.Lacks key part disk) (other : RecordKey) :
    directory.Lacks key part (directory.quarantine other disk).2 := by
  unfold QueueDirectory.quarantine
  split
  · exact h
  · rename_i middle hobject
    have hmiddle := h.putAside hobject
    split
    · exact hmiddle
    · rename_i disk' hcontent
      exact hmiddle.putAside hcontent

theorem Lacks.sweep (h : directory.Lacks key part disk) :
    directory.Lacks key part (directory.sweep disk).2 := by
  unfold QueueDirectory.sweep
  split
  · exact h
  · rename_i names hlist
    have hsteps : ((names.filter fun name => isTemporary name || isDeleted name).map fun name =>
        DiskStep.remove (directory.file name)) =
          ((names.filter fun name => isTemporary name || isDeleted name).map FileStep.remove).map
            (FileStep.inside directory.path.components) := by
      rw [List.map_map]
      rfl
    dsimp only
    rw [hsteps]
    refine h.run fun step hstep name hread => ?_
    obtain ⟨swept, -, rfl⟩ := List.mem_map.1 hstep
    trivial

theorem Lacks.makeDirectories (h : directory.Lacks key part disk) :
    directory.Lacks key part (disk.makeDirectories directory.path).2 := by
  unfold Disk.makeDirectories
  split
  · exact h
  · refine ⟨h.direct, fun name hread => ?_⟩
    rw [Disk.node?_makeAlong]
    · exact h.none name hread
    · have hnames := List.length_filter_le (· ≠ ".") directory.path.components
      have hdot : ((if directory.path.endsInDot then ["."] else []).filter (· ≠ ".")).length =
        0 := by
        split <;> simp
      rw [List.filter_append, List.length_append, hdot, file, List.length_append]
      simp only [List.length_nil, List.length_singleton]
      omega

theorem Lacks.prepare (h : directory.Lacks key part disk) :
    directory.Lacks key part (directory.prepare disk).2 := by
  have hmade := h.makeDirectories
  unfold QueueDirectory.prepare
  split
  · exact h
  · split
    · rename_i made hmake
      rw [hmake] at hmade
      exact hmade
    · rename_i made hmake
      rw [hmake] at hmade
      exact hmade.sweep
  · split
    · exact h.sweep
    · exact h

theorem Lacks.not_listed (h : directory.Lacks key part disk) {listed : List RecordKey}
    (hlist : directory.list disk = (.ok listed, disk')) : key ∉ listed := by
  intro hkey
  unfold QueueDirectory.list at hlist
  cases hnames : disk.list directory.path.components with
  | error e =>
      rw [hnames] at hlist
      cases hlist
  | ok names =>
      rw [hnames] at hlist
      cases hlist
      obtain ⟨name, hname, hread⟩ := (mem_pairsOf_iff key).1 hkey part
      obtain ⟨goal, hlocate, -, hlisted⟩ := Disk.list_eq_ok hnames
      obtain rfl := Disk.locate_eq_self h.direct hlocate
      exact (hlisted name).1 hname (h.none name hread)

theorem nodup_list {listed : List RecordKey} (hlist : directory.list disk = (.ok listed, disk')) :
    listed.Nodup := by
  unfold QueueDirectory.list at hlist
  cases hnames : disk.list directory.path.components with
  | error e =>
      rw [hnames] at hlist
      cases hlist
  | ok names =>
      rw [hnames] at hlist
      cases hlist
      exact nodup_pairsOf names

end QueueDirectory

namespace Vault

variable {vault vault' : Vault} {key : RecordKey} {keys : List RecordKey}

/-- Whether a store in memory or in a directory lacks a record, or what passes for a part of it. -/
def Lacks (key : RecordKey) : Vault → Prop
  | .memory held => key ∉ held.records
  | .faulty _ => False
  | .directory home disk => ∃ part, home.Lacks key part disk

/-- Whether both parts of a record are in a directory under names other than a store gives to them.
In memory there are no names. -/
def Respelled (key : RecordKey) : Vault → Prop
  | .directory home disk => ∀ part, home.Respelled key part disk
  | _ => False

/-- A store lacks what has been put aside, unless it is there under other names. -/
theorem PutAside.lacks (h : PutAside keys vault vault') (hdirect : vault.Direct) (hkey : key ∈ keys)
    (honly : ¬ vault.Respelled key) : vault'.Lacks key := by
  cases h with
  | memory hcapacity hrecords =>
      have hnone := hrecords key
      rw [if_pos hkey] at hnone
      exact fun hmem => absurd hnone (by simp [Std.ExtTreeMap.getElem?_eq_some_getElem hmem])
  | directory haside =>
      obtain ⟨part, hpart⟩ := not_forall.1 honly
      exact ⟨part, haside.lacks hdirect hkey hpart⟩

/-- What has been put aside is listed again exactly if it is there under other names. -/
theorem PutAside.listed_iff (h : PutAside keys vault vault') (hsound : vault'.Sound)
    (hkey : key ∈ keys) :
    ∃ listed, store.list vault' = (.ok listed, vault') ∧ (key ∈ listed ↔ vault.Respelled key) := by
  cases h with
  | @memory memory memory' hcapacity hrecords =>
      have hnone := hrecords key
      rw [if_pos hkey] at hnone
      refine ⟨memory'.records.keys, rfl, iff_of_false ?_ id⟩
      rw [Std.ExtTreeMap.mem_keys]
      exact fun hmem => absurd hnone (by simp [Std.ExtTreeMap.getElem?_eq_some_getElem hmem])
  | @directory home disk disk' haside =>
      obtain ⟨listed, hlist, hlisted⟩ := haside.listed_iff hsound hkey
      have hvault : store.list (.directory home disk') =
          ((home.list disk').1, .directory home (home.list disk').2) := rfl
      rw [hvault, hlist]
      exact ⟨listed, rfl, hlisted⟩

theorem Lacks.perform (h : vault.Lacks key) {call : StoreCall}
    (hcall : ∀ other mail, call = .write other mail → other ≠ key) :
    (vault.perform call).2.Lacks key := by
  cases vault with
  | faulty records => exact h.elim
  | memory memory =>
      have hdelete : ∀ other, key ∉ (memory.delete other).2.records := by
        intro other
        unfold Memory.delete
        split
        · exact fun hmem => h (Std.ExtTreeMap.mem_of_mem_erase hmem)
        · exact h
      cases call with
      | write other mail =>
          have hne := hcall other mail rfl
          change key ∉ (memory.write other mail).2.records
          unfold Memory.write
          split
          · exact h
          · exact h
          · rw [Std.ExtTreeMap.mem_insert, not_or]
            exact ⟨by simpa using hne, h⟩
      | delete other => exact hdelete other
      | quarantine other => exact hdelete other
      | read other => exact h
      | list => exact h
      | prepare => exact h
  | directory home disk =>
      obtain ⟨part, hpart⟩ := h
      cases call with
      | write other mail => exact ⟨part, hpart.write (hcall other mail rfl) mail⟩
      | read other => exact ⟨part, hpart⟩
      | delete other => exact ⟨part, hpart.delete other⟩
      | list => exact ⟨part, hpart⟩
      | quarantine other => exact ⟨part, hpart.quarantine other⟩
      | prepare => exact ⟨part, hpart.prepare⟩

/-- The store after some calls. -/
def after (vault : Vault) (calls : List StoreCall) : Vault :=
  calls.foldl (fun vault call => (vault.perform call).2) vault

/-- A record that is gone stays away until it is written again. -/
theorem Lacks.after (h : vault.Lacks key) {calls : List StoreCall}
    (hcalls : ∀ other mail, .write other mail ∈ calls → other ≠ key) :
    (vault.after calls).Lacks key := by
  induction calls generalizing vault with
  | nil => exact h
  | cons call calls ih =>
      have hfirst := h.perform fun other mail hcall => hcalls other mail
        (hcall ▸ List.mem_cons_self ..)
      exact ih hfirst fun other mail hmem => hcalls other mail (List.mem_cons_of_mem _ hmem)

theorem Lacks.not_listed (h : vault.Lacks key) {listed : List RecordKey}
    (hlist : store.list vault = (.ok listed, vault')) : key ∉ listed := by
  cases vault with
  | faulty records => exact h.elim
  | memory memory =>
      cases hlist
      rw [Std.ExtTreeMap.mem_keys]
      exact h
  | directory home disk =>
      obtain ⟨part, hpart⟩ := h
      have hfirst := congrArg Prod.fst hlist
      exact hpart.not_listed (Prod.ext hfirst rfl)

/-- A store that lacks every record but one lists no more than that. -/
theorem Sound.list_eq_singleton (hsound : vault.Sound) {listed : List RecordKey}
    (hlist : store.list vault = (.ok listed, vault')) (hkey : key ∈ listed)
    (hothers : ∀ other, other ≠ key → vault.Lacks other) : listed = [key] := by
  have hnodup : listed.Nodup := by
    cases vault with
    | faulty records => exact hsound.elim
    | memory memory =>
        cases hlist
        refine (Std.ExtTreeMap.distinct_keys (α := RecordKey)).imp ?_
        intro a b hab heq
        simp [heq] at hab
    | directory home disk =>
        have hfirst := congrArg Prod.fst hlist
        exact QueueDirectory.nodup_list (Prod.ext hfirst rfl)
  refine List.perm_singleton.1 ((List.perm_ext_iff_of_nodup hnodup (by simp)).2 fun other => ?_)
  rw [List.mem_singleton]
  constructor
  · intro hother
    by_contra hne
    exact (hothers other hne).not_listed hlist hother
  · rintro rfl
    exact hkey

/-- The only record of a store is listed again once it was put aside, if it is there under other
names. -/
theorem Sound.quarantine_listed (hsound : vault.Sound) (hrespelled : vault.Respelled key)
    (hothers : ∀ other, other ≠ key → vault.Lacks other) :
    PutAside [key] vault (store.quarantine key vault).2 ∧
      store.list (store.quarantine key vault).2 = (.ok [key], (store.quarantine key vault).2) := by
  obtain ⟨hafter, haside⟩ := hsound.quarantine key
  obtain ⟨listed, hlist, hlisted⟩ := haside.listed_iff hafter (List.mem_singleton_self key)
  have hstill : ∀ other, other ≠ key → (vault.perform (.quarantine key)).2.Lacks other :=
    fun other hne => (hothers other hne).perform (by simp)
  rw [hafter.list_eq_singleton hlist (hlisted.2 hrespelled) hstill] at hlist
  exact ⟨haside, hlist⟩

end Vault

end Postroom
