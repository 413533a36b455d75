import Postroom.Proofs.Store.Pairs

/-!
What a crash leaves in the directory of a store, be it in the middle of filling a file. A write that
is cut off leaves the parts of all other keys as they were, and those of its own key as they were,
with the new content, or both new. A deletion or a quarantine that is cut off leaves no object
without its content. What is neither old nor new is swept up when the directory is prepared again.
-/

namespace Postroom

/-- What a sequence of steps leaves if it is cut off: some steps are taken, and the next one may be
torn. No step is there before those that come before it, as a file is flushed before it gets its
name. -/
inductive CutOff {σ ι : Type} (apply : σ → ι → Except IoError σ) (torn : σ → ι → σ → Prop) :
    σ → List ι → σ → Prop where
  | stop (state : σ) (steps : List ι) : CutOff apply torn state steps state
  | torn {state left : σ} {step : ι} (rest : List ι) : torn state step left →
      CutOff apply torn state (step :: rest) left
  | next {state after left : σ} {step : ι} {rest : List ι} : apply state step = .ok after →
      CutOff apply torn after rest left → CutOff apply torn state (step :: rest) left

namespace DiskStep

/-- A file that was being filled may be left with any bytes. -/
def Torn (disk : Disk) : DiskStep → Disk → Prop
  | .fill names _, left => ∃ bytes, disk.fill names bytes = .ok left
  | _, _ => False

/-- What steps on a disk leave if they are cut off. -/
abbrev Leaves : Disk → List DiskStep → Disk → Prop :=
  CutOff apply Torn

/-- Steps that fail, or come to their end, leave what they leave if they are cut off there. -/
theorem leaves_run (disk : Disk) (steps : List DiskStep) :
    Leaves disk steps (run disk steps).2 := by
  induction steps generalizing disk with
  | nil => exact .stop disk []
  | cons step rest ih =>
      rw [run]
      cases happly : step.apply disk with
      | error e => exact .stop disk _
      | ok after => exact .next happly (ih after)

/-- Steps leave what their beginning leaves. -/
theorem Leaves.append {disk left : Disk} {steps : List DiskStep} (h : Leaves disk steps left)
    (rest : List DiskStep) : Leaves disk (steps ++ rest) left := by
  induction h with
  | stop disk steps => exact .stop disk _
  | torn more htorn => exact .torn _ htorn
  | next happly _ ih => exact .next happly ih

theorem leaves_take (disk : Disk) (steps : List DiskStep) (count : Nat) :
    Leaves disk steps (run disk (steps.take count)).2 := by
  have hcut := (leaves_run disk (steps.take count)).append (steps.drop count)
  rwa [List.take_append_drop] at hcut

end DiskStep

namespace Disk

variable {disk disk' : Disk} {names : List String} {home : Location} {files files' : Files}

def FileStep.Torn (files : Files) : FileStep → Files → Prop
  | .fill name _, left => ∃ bytes, left = files.set name (some bytes)
  | _, _ => False

/-- What steps on files leave if they are cut off. -/
abbrev FileStep.Leaves : Files → List FileStep → Files → Prop :=
  CutOff FileStep.apply FileStep.Torn

/-- Steps in a directory leave what the same steps on its files leave. -/
theorem Folder.leaves_inside (h : Folder disk names home files) {steps : List FileStep}
    (hplain : ∀ step ∈ steps, step.Of Plain)
    (hcut : DiskStep.Leaves disk (steps.map (FileStep.inside names)) disk') :
    ∃ files', FileStep.Leaves files steps files' ∧ Folder disk' names home files' := by
  induction steps generalizing disk files with
  | nil =>
      cases hcut
      exact ⟨files, .stop files [], h⟩
  | cons step rest ih =>
      have hown := hplain step (List.mem_cons_self ..)
      rw [List.map_cons] at hcut
      cases hcut with
      | stop => exact ⟨files, .stop files _, h⟩
      | torn _ htorn =>
          cases step with
          | fill name bytes =>
              obtain ⟨left, hfill⟩ := htorn
              obtain ⟨filled, hfilled, hfolder⟩ := h.fill_entry hown left
              rw [hfilled] at hfill
              cases hfill
              exact ⟨_, .torn _ ⟨left, rfl⟩, hfolder⟩
          | rename source target => exact htorn.elim
          | remove name => exact htorn.elim
      | next happly hcut =>
          obtain ⟨files', middle, hfiles, hdisk, hfolder⟩ | ⟨e, -, hdisk⟩ :=
            h.apply_inside step hown
          · rw [hdisk] at happly
            cases happly
            obtain ⟨left, hleft, hfolder⟩ :=
              ih hfolder (fun s hs => hplain s (List.mem_cons_of_mem _ hs)) hcut
            exact ⟨left, .next hfiles hleft, hfolder⟩
          · rw [hdisk] at happly
            cases happly

end Disk

namespace Parts

variable {parts : Parts}

theorem Paired.set_content (h : parts.Paired) (key : RecordKey) (bytes : List UInt8) :
    (parts.set key .content (some bytes)).Paired := by
  intro k hobject
  unfold Parts.set at hobject ⊢
  by_cases hk : k = key
  · simp [hk]
  · simp only [hk, false_and, if_false] at hobject ⊢
    exact h k hobject

theorem Paired.set_pair (h : parts.Paired) (key : RecordKey) (object content : List UInt8) :
    ((parts.set key .content (some content)).set key .object (some object)).Paired := by
  intro k hobject
  unfold Parts.set at hobject ⊢
  by_cases hk : k = key
  · simp [hk]
  · simp only [hk, false_and, if_false] at hobject ⊢
    exact h k hobject

/-- A part may go, a content only after its object. -/
theorem Paired.set_none (h : parts.Paired) {key : RecordKey} {part : RecordPart}
    (hlast : part = .content → parts key .object = none) : (parts.set key part none).Paired := by
  intro k hobject
  unfold Parts.set at hobject ⊢
  by_cases hk : k = key
  · subst hk
    cases part with
    | object => simp at hobject
    | content => simp [hlast rfl] at hobject
  · simp only [hk, false_and, if_false] at hobject ⊢
    exact h k hobject

end Parts

namespace QueueDirectory

open Disk (Folder FileStep)

variable {directory : QueueDirectory} {disk disk' : Disk} {home : Location} {files files' : Files}
  {key : RecordKey} {part : RecordPart} {mail : Mail} {object content : List UInt8}

/-- The steps that put a part in place. -/
def placing (key : RecordKey) (part : RecordPart) (bytes : List UInt8) : List FileStep :=
  [.fill (nameOf .temporary key part) bytes,
   .rename (nameOf .temporary key part) (nameOf .placed key part)]

def writing (key : RecordKey) (object content : List UInt8) : List FileStep :=
  placing key .content content ++ placing key .object object

theorem writeSteps_eq (directory : QueueDirectory) (key : RecordKey) (object content : List UInt8) :
    directory.writeSteps key object content =
      (writing key object content).map (FileStep.inside directory.path.components) := rfl

theorem plain_writing (key : RecordKey) (object content : List UInt8) :
    ∀ step ∈ writing key object content, step.Of Disk.Plain := by
  have hplain := fun mark part => plain_nameOf mark key part
  simp [writing, placing, FileStep.Of, hplain]

/-- The files after a part was put in place. -/
def put (files : Files) (key : RecordKey) (part : RecordPart) (bytes : List UInt8) : Files :=
  ((files.set (nameOf .temporary key part) (some bytes)).set (nameOf .temporary key part) none).set
    (nameOf .placed key part) (some bytes)

theorem own_put (hown : files.Own) (key : RecordKey) (part : RecordPart) (bytes : List UInt8) :
    (put files key part bytes).Own :=
  ((hown.set .temporary key part _).set .temporary key part _).set .placed key part _

theorem parts_put (files : Files) (key : RecordKey) (part : RecordPart) (bytes : List UInt8) :
    (put files key part bytes).parts = files.parts.set key part (some bytes) := by
  have htemporary : Mark.temporary ≠ .placed := by decide
  rw [put, Files.parts_set_placed, Files.parts_set_marked htemporary,
    Files.parts_set_marked htemporary]

theorem run_placing (files : Files) (key : RecordKey) (part : RecordPart) (bytes : List UInt8)
    (rest : List FileStep) : FileStep.run files (placing key part bytes ++ rest) =
      FileStep.run (put files key part bytes) rest := by
  have hfilled : (files.set (nameOf .temporary key part) (some bytes))
      (nameOf .temporary key part) = some bytes := if_pos rfl
  simp only [placing, List.cons_append, List.nil_append, FileStep.run, FileStep.apply, hfilled, put]

/-- To put a part in place leaves all parts as they were, or this one with the new bytes. -/
theorem leaves_placing {bytes : List UInt8} {rest : List FileStep} (hown : files.Own)
    (hcut : FileStep.Leaves files (placing key part bytes ++ rest) files') :
    (files'.Own ∧ files'.parts = files.parts) ∨
      FileStep.Leaves (put files key part bytes) rest files' := by
  have htemporary : Mark.temporary ≠ .placed := by decide
  have hfill : ∀ left, (files.set (nameOf .temporary key part) (some left)).Own ∧
      (files.set (nameOf .temporary key part) (some left)).parts = files.parts := fun left =>
    ⟨hown.set .temporary key part _, Files.parts_set_marked htemporary key part _⟩
  cases hcut with
  | stop => exact .inl ⟨hown, rfl⟩
  | torn _ htorn =>
      obtain ⟨left, rfl⟩ := htorn
      exact .inl (hfill left)
  | next hfilled hcut =>
      cases hfilled
      cases hcut with
      | stop => exact .inl (hfill bytes)
      | torn _ htorn => exact htorn.elim
      | next hrename hcut =>
          have hthere : (files.set (nameOf .temporary key part) (some bytes))
              (nameOf .temporary key part) = some bytes := if_pos rfl
          simp only [FileStep.apply, hthere, Except.ok.injEq] at hrename
          subst hrename
          exact .inr hcut

/-- A write leaves all parts as they were, or its key with the new content, or with both new
parts. -/
theorem leaves_writing (hown : files.Own)
    (hcut : FileStep.Leaves files (writing key object content) files') : files'.Own ∧
      (files'.parts = files.parts ∨ files'.parts = files.parts.set key .content (some content) ∨
        files'.parts = (files.parts.set key .content (some content)).set key .object
          (some object)) := by
  have hcontent := parts_put files key .content content
  have hmiddle := own_put hown key .content content
  obtain ⟨hown', hsame⟩ | hcut := leaves_placing hown hcut
  · exact ⟨hown', .inl hsame⟩
  · rw [← List.append_nil (placing key .object object)] at hcut
    obtain ⟨hown', hsame⟩ | hcut := leaves_placing hmiddle hcut
    · exact ⟨hown', .inr (.inl (hsame.trans hcontent))⟩
    · cases hcut
      exact ⟨own_put hmiddle key .object object, .inr (.inr (by rw [parts_put, hcontent]))⟩

theorem apply_rename_eq_ok {source target : String}
    (h : FileStep.apply files (.rename source target) = .ok files') :
    ∃ bytes, files' = (files.set source none).set target (some bytes) := by
  unfold FileStep.apply at h
  cases hfile : files source with
  | none => simp [hfile] at h
  | some bytes =>
      simp only [hfile, Except.ok.injEq] at h
      exact ⟨bytes, h.symm⟩

/-- A part that gets another name is taken away. -/
theorem parts_takenAway {mark : Mark} (hmark : mark ≠ .placed) (hown : files.Own) (key : RecordKey)
    (part : RecordPart) (bytes : List UInt8) :
    ((files.set (nameOf .placed key part) none).set (nameOf mark key part) (some bytes)).Own ∧
      ((files.set (nameOf .placed key part) none).set (nameOf mark key part) (some bytes)).parts =
        files.parts.set key part none := by
  refine ⟨(hown.set .placed key part _).set mark key part _, ?_⟩
  rw [Files.parts_set_marked hmark, Files.parts_set_placed]

/-- To remove files that are not in place leaves all parts as they were. -/
theorem leaves_removing {steps : List FileStep}
    (hsteps : ∀ step ∈ steps, ∃ mark key part, mark ≠ .placed ∧
      step = .remove (nameOf mark key part))
    (hown : files.Own) (hcut : FileStep.Leaves files steps files') :
    files'.Own ∧ files'.parts = files.parts := by
  induction hcut with
  | stop => exact ⟨hown, rfl⟩
  | torn rest htorn =>
      obtain ⟨mark, key, part, -, rfl⟩ := hsteps _ (List.mem_cons_self ..)
      exact htorn.elim
  | next happly _ ih =>
      rename_i files after left step rest _
      obtain ⟨mark, key, part, hmark, rfl⟩ := hsteps _ (List.mem_cons_self ..)
      have hafter : after = files.set (nameOf mark key part) none := by
        unfold FileStep.apply at happly
        cases hfile : files (nameOf mark key part) with
        | none => simp [hfile] at happly
        | some bytes =>
            simp only [hfile, Except.ok.injEq] at happly
            exact happly.symm
      subst hafter
      obtain ⟨hown', hparts⟩ := ih (fun s hs => hsteps s (List.mem_cons_of_mem _ hs))
        (hown.set mark key part none)
      exact ⟨hown', hparts.trans (Files.parts_set_marked hmark key part none)⟩

/-- The steps of a deletion, the object first. -/
def deleting (key : RecordKey) : List FileStep :=
  [.rename (nameOf .placed key .object) (nameOf .deleted key .object),
   .rename (nameOf .placed key .content) (nameOf .deleted key .content),
   .remove (nameOf .deleted key .object),
   .remove (nameOf .deleted key .content)]

theorem deleteSteps_eq (directory : QueueDirectory) (key : RecordKey) :
    directory.deleteSteps key =
      (deleting key).map (FileStep.inside directory.path.components) := rfl

theorem plain_deleting (key : RecordKey) : ∀ step ∈ deleting key, step.Of Disk.Plain := by
  have hplain := fun mark part => plain_nameOf mark key part
  simp [deleting, FileStep.Of, hplain]

/-- A deletion leaves no object without its content. -/
theorem leaves_deleting (hown : files.Own) (hpaired : files.parts.Paired)
    (hcut : FileStep.Leaves files (deleting key) files') : files'.Own ∧ files'.parts.Paired := by
  have hdeleted : Mark.deleted ≠ .placed := by decide
  have hmarked : ∀ step ∈ [FileStep.remove (nameOf .deleted key .object),
      .remove (nameOf .deleted key .content)], ∃ mark key part,
        mark ≠ Mark.placed ∧ step = .remove (nameOf mark key part) := by
    intro step hstep
    rcases List.mem_pair.1 hstep with rfl | rfl
    · exact ⟨.deleted, key, .object, hdeleted, rfl⟩
    · exact ⟨.deleted, key, .content, hdeleted, rfl⟩
  cases hcut with
  | stop => exact ⟨hown, hpaired⟩
  | torn _ htorn => exact htorn.elim
  | next hrename hcut =>
      obtain ⟨object, rfl⟩ := apply_rename_eq_ok hrename
      obtain ⟨hown, hobject⟩ := parts_takenAway hdeleted hown key .object object
      have hpaired : (files.parts.set key .object none).Paired := hpaired.set_none (by simp)
      rw [← hobject] at hpaired
      have hgone := congrFun (congrFun hobject key) .object
      cases hcut with
      | stop => exact ⟨hown, hpaired⟩
      | torn _ htorn => exact htorn.elim
      | next hrename hcut =>
          obtain ⟨content, rfl⟩ := apply_rename_eq_ok hrename
          obtain ⟨hown, hcontent⟩ := parts_takenAway hdeleted hown key .content content
          have hpaired := hpaired.set_none fun _ : RecordPart.content = .content =>
            hgone.trans (by simp [Parts.set])
          rw [← hcontent] at hpaired
          obtain ⟨hown', hsame⟩ := leaves_removing hmarked hown hcut
          rw [← hsame] at hpaired
          exact ⟨hown', hpaired⟩

theorem Kept.delete (h : Kept directory disk home files)
    (hcut : DiskStep.Leaves disk (directory.deleteSteps key) disk') :
    ∃ files' : Files, Kept directory disk' home files' := by
  rw [deleteSteps_eq] at hcut
  obtain ⟨files', hleaves, hfolder⟩ := h.folder.leaves_inside (plain_deleting key) hcut
  obtain ⟨hown, hpaired⟩ := leaves_deleting h.own h.paired hleaves
  exact ⟨files', h.path, hfolder, hown, hpaired⟩

/-- What a quarantine leaves if it is cut off: the object may be put aside, and then the content. -/
def Aside (directory : QueueDirectory) (key : RecordKey) (disk left : Disk) : Prop :=
  ∃ middle, directory.putAside disk (key.fileName .object) = .ok middle ∧
    (left = middle ∨ directory.putAside middle (key.fileName .content) = .ok left)

/-- A part that is put aside is taken away, if it is there at all. -/
theorem Kept.putAside (h : Kept directory disk home files)
    (hlast : part = .content → files.parts key .object = none)
    (hput : directory.putAside disk (key.fileName part) = .ok disk') :
    ∃ files' : Files, Kept directory disk' home files' ∧
      files'.parts = files.parts.set key part none := by
  have hcorrupt : Mark.corrupt ≠ .placed := by decide
  have hpaired := h.paired.set_none hlast
  have hsource : directory.file (key.fileName part) =
      directory.path.components ++ [nameOf .placed key part] := rfl
  have htarget : directory.file (key.fileName part ++ corruptMark) =
      directory.path.components ++ [nameOf .corrupt key part] := rfl
  unfold QueueDirectory.putAside at hput
  rw [hsource, htarget] at hput
  obtain ⟨bytes, moved, -, hrename, hfolder⟩ | ⟨hnone, hrename⟩ := h.folder.rename_entry
    (plain_nameOf .placed key part) (plain_nameOf .corrupt key part)
  · rw [hrename] at hput
    cases hput
    obtain ⟨hown, hparts⟩ := parts_takenAway hcorrupt h.own key part bytes
    exact ⟨_, ⟨h.path, hfolder, hown, hparts ▸ hpaired⟩, hparts⟩
  · rw [hrename] at hput
    cases hput
    have hsame : files.parts.set key part none = files.parts := by
      funext k p
      unfold Parts.set
      split
      · rename_i heq
        obtain ⟨rfl, rfl⟩ := heq
        exact hnone.symm
      · rfl
    exact ⟨files, h, hsame.symm⟩

theorem Kept.aside (h : Kept directory disk home files) (haside : directory.Aside key disk disk') :
    ∃ files' : Files, Kept directory disk' home files' := by
  obtain ⟨middle, hobject, rfl | hcontent⟩ := haside
  · obtain ⟨files', hkept, -⟩ := h.putAside (by simp) hobject
    exact ⟨files', hkept⟩
  · obtain ⟨files', hkept, hparts⟩ := h.putAside (by simp) hobject
    have hgone : files'.parts key .object = none := by
      rw [hparts]
      simp [Parts.set]
    obtain ⟨files'', hkept, -⟩ := hkept.putAside (fun _ => hgone) hcontent
    exact ⟨files'', hkept⟩

theorem Kept.sweep (h : Kept directory disk home files) {listed : List String}
    (hlist : disk.list directory.path.components = .ok listed)
    (hcut : DiskStep.Leaves disk (directory.sweepSteps listed) disk') :
    ∃ files' : Files, Kept directory disk' home files' := by
  obtain ⟨names, hnames, -, hlisted⟩ := h.folder.list_eq
  rw [hlist] at hnames
  cases hnames
  let leftovers := listed.filter fun name => isTemporary name || isDeleted name
  have hmarked : ∀ step ∈ leftovers.map FileStep.remove, ∃ mark key part,
      mark ≠ Mark.placed ∧ step = .remove (nameOf mark key part) := by
    intro step hstep
    obtain ⟨name, hname, rfl⟩ := List.mem_map.1 hstep
    obtain ⟨hname, hleft⟩ := List.mem_filter.1 hname
    obtain ⟨mark, key, part, rfl⟩ := h.own name ((hlisted name).1 hname)
    refine ⟨mark, key, part, ?_, rfl⟩
    rintro rfl
    simp [isTemporary_nameOf, isDeleted_nameOf] at hleft
  have hplain : ∀ step ∈ leftovers.map FileStep.remove, step.Of Disk.Plain := by
    intro step hstep
    obtain ⟨mark, key, part, -, rfl⟩ := hmarked step hstep
    exact plain_nameOf mark key part
  have hsteps : directory.sweepSteps listed =
      (leftovers.map FileStep.remove).map (FileStep.inside directory.path.components) := by
    rw [List.map_map]
    rfl
  rw [hsteps] at hcut
  obtain ⟨files', hleaves, hfolder⟩ := h.folder.leaves_inside hplain hcut
  obtain ⟨hown, hparts⟩ := leaves_removing hmarked h.own hleaves
  exact ⟨files', h.path, hfolder, hown, hparts ▸ h.paired⟩

/-- The steps of a write. If the mail has no record, there are none. -/
def stepsOfWrite (directory : QueueDirectory) (key : RecordKey) (mail : Mail) : List DiskStep :=
  match Record.encode mail with
  | .ok object => directory.writeSteps key object mail.content.bytes
  | .error _ => []

theorem Kept.write (h : Kept directory disk home files)
    (hcut : DiskStep.Leaves disk (directory.stepsOfWrite key mail) disk') :
    ∃ files' : Files, Kept directory disk' home files' ∧ (files'.parts = files.parts ∨
      ∃ object, Record.encode mail = .ok object ∧
        (files'.parts = files.parts.set key .content (some mail.content.bytes) ∨
          files'.parts = (files.parts.set key .content (some mail.content.bytes)).set key .object
            (some object))) := by
  unfold stepsOfWrite at hcut
  cases hencode : Record.encode mail with
  | error e =>
      rw [hencode] at hcut
      cases hcut
      exact ⟨files, h, .inl rfl⟩
  | ok object =>
      rw [hencode] at hcut
      obtain ⟨files', hleaves, hfolder⟩ :=
        h.folder.leaves_inside (plain_writing key object mail.content.bytes) hcut
      obtain ⟨hown, hparts⟩ := leaves_writing h.own hleaves
      refine ⟨files', ⟨h.path, hfolder, hown, ?_⟩, hparts.imp_right fun hnew => ⟨object, rfl, hnew⟩⟩
      rcases hparts with hparts | hparts | hparts
      · exact hparts ▸ h.paired
      · exact hparts ▸ h.paired.set_content key _
      · exact hparts ▸ h.paired.set_pair key _ _

/-- A write that is not cut off puts both parts in place. -/
theorem Kept.write_ok (h : Kept directory disk home files) (key : RecordKey)
    (hencode : Record.encode mail = .ok object) :
    ∃ disk', ∃ files' : Files, directory.write key mail disk = (.ok (), disk') ∧
      Kept directory disk' home files' ∧ files'.parts =
        (files.parts.set key .content (some mail.content.bytes)).set key .object (some object) := by
  have hrun : FileStep.run files (writing key object mail.content.bytes) =
      (.ok (), put (put files key .content mail.content.bytes) key .object object) := by
    rw [writing, run_placing, ← List.append_nil (placing key .object object), run_placing,
      FileStep.run]
  obtain ⟨disk', hdisk, hfolder⟩ :=
    h.folder.run_inside (plain_writing key object mail.content.bytes)
  rw [hrun] at hdisk hfolder
  have hparts : (put (put files key .content mail.content.bytes) key .object object).parts =
      (files.parts.set key .content (some mail.content.bytes)).set key .object (some object) := by
    rw [parts_put, parts_put]
  refine ⟨disk', _, ?_, ⟨h.path, hfolder, own_put (own_put h.own _ _ _) _ _ _, ?_⟩, hparts⟩
  · rw [QueueDirectory.write, hencode]
    dsimp only
    rw [writeSteps_eq, hdisk]
    rfl
  · rw [hparts]
    exact h.paired.set_pair key _ _

/-- Between its renames a write leaves the new content beside what object there is. -/
theorem Kept.write_between (h : Kept directory disk home files) (key : RecordKey)
    (hencode : Record.encode mail = .ok object) :
    ∃ files' : Files,
      Kept directory (DiskStep.run disk ((directory.stepsOfWrite key mail).take 2)).2 home files' ∧
        files'.parts = files.parts.set key .content (some mail.content.bytes) := by
  have hplain : ∀ step ∈ placing key .content mail.content.bytes, step.Of Disk.Plain :=
    fun step hstep =>
    plain_writing key object _ step (List.mem_append_left _ hstep)
  have hsteps : (directory.stepsOfWrite key mail).take 2 =
      (placing key .content mail.content.bytes).map
      (FileStep.inside directory.path.components) := by
    rw [stepsOfWrite, hencode]
    rfl
  have hrun := run_placing files key .content mail.content.bytes []
  rw [List.append_nil, FileStep.run] at hrun
  obtain ⟨left, hdisk, hfolder⟩ := h.folder.run_inside hplain
  rw [hrun] at hdisk hfolder
  have hparts := parts_put files key .content mail.content.bytes
  refine ⟨_, ⟨h.path, ?_, own_put h.own _ _ _, ?_⟩, hparts⟩
  · rw [hsteps, hdisk]
    exact hfolder
  · rw [hparts]
    exact h.paired.set_content key _

end QueueDirectory

end Postroom
