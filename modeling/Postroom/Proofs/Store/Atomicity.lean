import Postroom.Proofs.Store.Crash

/-!
How far the write of a pair is atomic. Whatever a store has made of its directory before, and
wherever a write is cut off: once the directory is prepared again, all other keys are listed and
read as before, and a key without a record has none or the whole new mail. A key that has a record
already may also come to have a mixture, since each of its two files is replaced by itself.
-/

namespace Postroom

namespace QueueDirectory

variable {directory : QueueDirectory} {disk disk' left : Disk} {home : Location}
  {files files' : Files}
  {key : RecordKey} {mail : Mail} {object : List UInt8}

/-- What a store makes of a directory: it is prepared when there is nothing in it, and after that
come any operations of the store, each of which may be cut off. -/
inductive Produced (directory : QueueDirectory) : Disk → Prop where
  | prepared {before disk : Disk} : directory.prepare before = (.ok (), disk) →
      disk.list directory.path.components = .ok [] → Produced directory disk
  | write {disk left : Disk} (key : RecordKey) (mail : Mail) : Produced directory disk →
      DiskStep.Leaves disk (directory.stepsOfWrite key mail) left → Produced directory left
  | delete {disk left : Disk} (key : RecordKey) : Produced directory disk →
      DiskStep.Leaves disk (directory.deleteSteps key) left → Produced directory left
  | quarantine {disk left : Disk} (key : RecordKey) : Produced directory disk →
      directory.Aside key disk left → Produced directory left
  | sweep {disk left : Disk} {listed : List String} : Produced directory disk →
      disk.list directory.path.components = .ok listed →
      DiskStep.Leaves disk (directory.sweepSteps listed) left → Produced directory left

theorem Produced.kept (h : Produced directory disk) :
    ∃ home, ∃ files : Files, Kept directory disk home files := by
  induction h with
  | prepared hprepare hempty =>
      obtain ⟨home, hkept⟩ := kept_of_prepare hprepare hempty
      exact ⟨home, _, hkept⟩
  | write key mail _ hcut ih =>
      obtain ⟨home, files, hkept⟩ := ih
      obtain ⟨files', hkept, -⟩ := hkept.write hcut
      exact ⟨home, files', hkept⟩
  | delete key _ hcut ih =>
      obtain ⟨home, files, hkept⟩ := ih
      exact ⟨home, hkept.delete hcut⟩
  | quarantine key _ haside ih =>
      obtain ⟨home, files, hkept⟩ := ih
      exact ⟨home, hkept.aside haside⟩
  | sweep _ hlist hcut ih =>
      obtain ⟨home, files, hkept⟩ := ih
      exact ⟨home, hkept.sweep hlist hcut⟩

theorem write_eq_run (directory : QueueDirectory) (key : RecordKey) (mail : Mail) (disk : Disk) :
    (directory.write key mail disk).2 =
    (DiskStep.run disk (directory.stepsOfWrite key mail)).2 := by
  unfold write stepsOfWrite
  cases Record.encode mail with
  | error e => rfl
  | ok object => rfl

/-- Every operation of the store leaves a directory that a store produces, whatever it answers. -/
theorem Produced.operations (h : Produced directory disk) (key : RecordKey) (mail : Mail) :
    Produced directory (directory.write key mail disk).2 ∧
      Produced directory (directory.delete key disk).2 ∧
      Produced directory (directory.quarantine key disk).2 ∧
      Produced directory (directory.prepare disk).2 := by
  refine ⟨?_, h.delete key (DiskStep.leaves_run ..), ?_, ?_⟩
  · rw [write_eq_run]
    exact h.write key mail (DiskStep.leaves_run ..)
  · unfold QueueDirectory.quarantine
    cases hobject : directory.putAside disk (key.fileName .object) with
    | error e => exact h
    | ok middle =>
        dsimp only
        cases hcontent : directory.putAside middle (key.fileName .content) with
        | error e => exact h.quarantine key ⟨middle, hobject, .inl rfl⟩
        | ok left => exact h.quarantine key ⟨middle, hobject, .inr hcontent⟩
  · obtain ⟨home, files, hkept⟩ := h.kept
    obtain ⟨listed, hlist, -⟩ := hkept.folder.list_eq
    rw [hkept.regular.prepare_eq hlist]
    exact h.sweep hlist (DiskStep.leaves_run ..)

/-- What is read under a key when a mail was written under it. -/
def written (key : RecordKey) (mail : Mail) : Except QueueError Mail :=
  if key.id = mail.id then .ok mail else .error (.corrupt key (.foreign mail.id))

theorem mailAt_written (parts : Parts) (key : RecordKey)
    (hencode : Record.encode mail = .ok object) :
    ((parts.set key .content (some mail.content.bytes)).set key .object (some object)).mailAt key =
      written key mail := by
  have hdecode := Record.decode_object hencode key mail.content
  unfold Parts.mailAt written
  simp only [Parts.set, and_true, if_true, reduceCtorEq, and_false, if_false]
  rw [hdecode]
  by_cases hid : key.id = mail.id
  · rw [if_pos hid, if_pos hid.symm]
    rfl
  · rw [if_neg hid, if_neg fun heq => hid heq.symm]

/-- What a write under a key may come to in what a queue sees of the directory, if it is cut off. -/
structure Recovers (key : RecordKey) (mail : Mail) (before after : List RecordKey)
    (mailAt mailAt' : RecordKey → Except QueueError Mail) : Prop where
  others : ∀ other, other ≠ key → (other ∈ after ↔ other ∈ before) ∧ mailAt' other = mailAt other
  /-- Nothing has changed, or the new mail is there, or it has lent its content to the old one. -/
  own : after = before ∧ mailAt' key = mailAt key ∨
    key ∈ after ∧ mailAt' key = written key mail ∨
    key ∈ before ∧ after = before ∧ mailAt' key = (mailAt key).map (·.attachContent mail.content)

/-- Two directories with the same parts under all keys but one show the same of the others; if the
key is listed in both or in neither, the listings are the same. -/
theorem Kept.shows_but (h : Kept directory disk home files) (h' : Kept directory disk' home files')
    (hothers : ∀ other, other ≠ key → files'.parts other = files.parts other) :
    ∃ before after, Shows directory disk before files.parts.mailAt ∧
      Shows directory disk' after files'.parts.mailAt ∧
      (∀ other, other ≠ key → (other ∈ after ↔ other ∈ before) ∧
        files'.parts.mailAt other = files.parts.mailAt other) ∧
      (key ∈ before ↔ files.parts.Listed key) ∧ (key ∈ after ↔ files'.parts.Listed key) ∧
      ((key ∈ after ↔ key ∈ before) → after = before) := by
  obtain ⟨listed, hshows, hlisted⟩ := h.regular.shows
  obtain ⟨listed', hshows', hlisted'⟩ := h'.regular.shows
  have hrest : ∀ other, other ≠ key → (other ∈ pairsOf listed' ↔ other ∈ pairsOf listed) := by
    intro other hother
    rw [hlisted', hlisted, Parts.listed_congr (hothers other hother)]
  refine ⟨_, _, hshows, hshows', fun other hother => ⟨hrest other hother, ?_⟩, hlisted key,
    hlisted' key, fun hkey => pairsOf_congr fun other => ?_⟩
  · exact Parts.mailAt_congr (hothers other hother)
  · by_cases hother : other = key
    · rw [hother, hkey]
    · exact hrest other hother

/-- Wherever a write is cut off, be its key new or not, the directory can be prepared again, and
shows one of three things under the key and what it showed before under all others. -/
theorem Produced.recovers_write (h : Produced directory disk) (key : RecordKey) (mail : Mail)
    (hcut : DiskStep.Leaves disk (directory.stepsOfWrite key mail) left) :
    ∃ recovered before after mailAt mailAt', directory.prepare left = (.ok (), recovered) ∧
      Shows directory disk before mailAt ∧ Shows directory recovered after mailAt' ∧
      Recovers key mail before after mailAt mailAt' := by
  obtain ⟨home, files, hkept⟩ := h.kept
  obtain ⟨files', hkept', hparts⟩ := hkept.write hcut
  obtain ⟨recovered, hprepare, hswept⟩ := hkept'.prepared
  have hothers : ∀ other, other ≠ key → files'.swept.parts other = files.parts other := by
    intro other hother
    rw [Files.parts_swept]
    obtain hparts | ⟨object, -, hparts | hparts⟩ := hparts
    · rw [hparts]
    · rw [hparts, Parts.set_of_ne hother]
    · rw [hparts, Parts.set_of_ne hother, Parts.set_of_ne hother]
  obtain ⟨before, after, hshows, hshows', hrest, hbefore, hafter, hsame⟩ :=
    hkept.shows_but hswept hothers
  refine ⟨recovered, before, after, _, _, hprepare, hshows, hshows', hrest, ?_⟩
  rw [Files.parts_swept] at hafter ⊢
  obtain hparts | ⟨object, hencode, hparts | hparts⟩ := hparts
  · rw [hparts] at hafter ⊢
    exact .inl ⟨hsame (hafter.trans hbefore.symm), rfl⟩
  · rw [hparts] at hafter ⊢
    have hlist := hsame ((hafter.trans (Parts.listed_set_content hkept.paired)).trans hbefore.symm)
    by_cases hobject : files.parts key .object = none
    · exact .inl ⟨hlist, Parts.mailAt_set_content_of_none hobject⟩
    · have hpair : files.parts.Listed key := ⟨hobject, hkept.paired key hobject⟩
      exact .inr (.inr ⟨hbefore.2 hpair, hlist, Parts.mailAt_set_content hpair⟩)
  · rw [hparts] at hafter ⊢
    have hpair : key ∈ after := hafter.2 (by simp [Parts.Listed, Parts.set])
    exact .inr (.inl ⟨hpair, mailAt_written files.parts key hencode⟩)

/-- A write that is not cut off is read back, whatever there was before. -/
theorem Produced.write_read (h : Produced directory disk) (key : RecordKey)
    (hencode : Record.encode mail = .ok object) :
    (directory.write key mail disk).1 = .ok () ∧
      directory.read key (directory.write key mail disk).2 =
        (written key mail, (directory.write key mail disk).2) := by
  obtain ⟨home, files, hkept⟩ := h.kept
  obtain ⟨disk', files', hwrite, hkept', hparts⟩ := hkept.write_ok key hencode
  refine ⟨by rw [hwrite], ?_⟩
  rw [hwrite, read, find_eq_mailAt hkept'.folder, hparts, mailAt_written files.parts key hencode]

/-- If a write over another mail is cut off between its renames, the other mail comes to have its
content. -/
theorem Produced.read_between (h : Produced directory disk)
    (hencode : Record.encode mail = .ok object)
    {old : Mail} (hread : directory.read key disk = (.ok old, disk)) :
    ∃ recovered, directory.prepare
      (DiskStep.run disk ((directory.stepsOfWrite key mail).take 2)).2 =
        (.ok (), recovered) ∧
      directory.read key recovered = (.ok (old.attachContent mail.content), recovered) := by
  obtain ⟨home, files, hkept⟩ := h.kept
  obtain ⟨files', hkept', hparts⟩ := hkept.write_between key hencode
  obtain ⟨recovered, hprepare, hswept⟩ := hkept'.prepared
  have hold : files.parts.mailAt key = .ok old := by
    rw [← find_eq_mailAt hkept.folder]
    exact congrArg Prod.fst hread
  refine ⟨recovered, hprepare, ?_⟩
  rw [read, find_eq_mailAt hswept.folder, Files.parts_swept, hparts,
    Parts.mailAt_set_content (Parts.listed_of_mailAt hold), hold]
  rfl

end QueueDirectory

namespace QueueDirectory.Sample

def spool : QueueDirectory := ⟨⟨"/queue"⟩, true⟩

/-- The disk when the queue was started on it for the first time. -/
def blank : Disk := (spool.prepare .empty).2

def key : RecordKey := ⟨1700000000000, .make .epoch 7⟩

/-- The mail in a state, with a content of one byte. -/
def version (state : String) (byte : UInt8) : Mail where
  id := key.id
  sender := none
  recipients := .ofList [Address.mk "a" ⟨"x.test"⟩]
  content := ⟨[byte]⟩
  state
  attributes := ∅
  updated := .ofMillis 1700000000000
  error := none
  remoteHost := none
  remoteAddress := none

def older : Mail := version "default" 111

def newer : Mail := version "transport" 110

def stored : Answer Disk Unit := spool.write key older blank

/-- The newer version is put under the key of the older one, up to its first rename. -/
def torn : Except IoError Unit × Disk :=
    DiskStep.run stored.2 ((spool.stepsOfWrite key newer).take 2)

theorem list_blank : blank.list spool.path.components = .ok [] := by
  decide +kernel

/-- What files there are after some steps in the directory, which is empty at first. -/
theorem folder_run_blank {steps : List Disk.FileStep}
    (hplain : ∀ step ∈ steps, step.Of Disk.Plain) :
    ∃ home, Disk.Folder
      (DiskStep.run blank (steps.map (Disk.FileStep.inside spool.path.components))).2
      spool.path.components home (Disk.FileStep.run (fun _ => none) steps).2 := by
  obtain ⟨home, hfolder⟩ := folder_of_list list_blank
  obtain ⟨disk, hrun, hafter⟩ := hfolder.run_inside hplain
  rw [hrun]
  exact ⟨home, hafter⟩

theorem produced_blank : Produced spool blank := by
  have hprepare : (spool.prepare .empty).1 = .ok () := rfl
  exact .prepared (Prod.ext hprepare rfl) list_blank

theorem encodes {mail : Mail} (hmail : mail ∈ [older, newer]) :
    ∃ object, Record.encode mail = .ok object := by
  have hok : ∀ m ∈ [older, newer], (Record.encode m).isOk = true := by decide +kernel
  have hrecordable := hok mail hmail
  cases hencode : Record.encode mail with
  | error e =>
      rw [hencode] at hrecordable
      cases hrecordable
  | ok object => exact ⟨object, rfl⟩

theorem produced_stored : Produced spool stored.2 :=
  (produced_blank.operations key older).1

theorem leaves_torn : DiskStep.Leaves stored.2 (spool.stepsOfWrite key newer) torn.2 :=
  DiskStep.leaves_take ..

theorem read_stored : spool.read key stored.2 = (.ok older, stored.2) := by
  obtain ⟨object, hencode⟩ := encodes (List.mem_cons_self ..)
  exact (produced_blank.write_read key hencode).2

/-- A mail that is stored again under its key may come to have the new content and nothing else of
the new version. -/
theorem recovers_mixture : Produced spool stored.2 ∧
    DiskStep.Leaves stored.2 (spool.stepsOfWrite key newer) torn.2 ∧
    spool.read key stored.2 = (.ok older, stored.2) ∧
    ∃ mixture recovered, spool.prepare torn.2 = (.ok (), recovered) ∧
      spool.read key recovered = (.ok mixture, recovered) ∧ mixture.state = older.state ∧
      mixture.content = newer.content ∧ mixture ≠ older ∧ mixture ≠ newer := by
  obtain ⟨object, hencode⟩ : ∃ object, Record.encode newer = .ok object := encodes (by simp)
  obtain ⟨recovered, hprepare, hread⟩ := produced_stored.read_between hencode read_stored
  refine ⟨produced_stored, leaves_torn, read_stored, _, recovered, hprepare, hread,
    rfl, rfl, ?_, ?_⟩
  · exact fun heq => absurd (congrArg Mail.content heq) (by decide)
  · exact fun heq => absurd (congrArg Mail.state heq) (by decide)

theorem recovers_write_of_torn : Produced spool stored.2 ∧
    DiskStep.Leaves stored.2 (spool.stepsOfWrite key newer) torn.2 ∧
    ∃ recovered before after mailAt mailAt', spool.prepare torn.2 = (.ok (), recovered) ∧
      Shows spool stored.2 before mailAt ∧ Shows spool recovered after mailAt' ∧
      Recovers key newer before after mailAt mailAt' :=
  ⟨produced_stored, leaves_torn, produced_stored.recovers_write key newer leaves_torn⟩

end QueueDirectory.Sample

end Postroom
