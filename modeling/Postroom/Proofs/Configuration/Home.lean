import Postroom.Configuration
import Postroom.Proofs.Disk.Path
import Postroom.Proofs.Ron.Reading
import Postroom.Proofs.Ron.Yields

/-!
Where a queue may live. A path is judged by its components alone: it must be absolute, lead nowhere
upwards, and not into a system directory, whose names it may well begin like. A configuration
document is judged by the same rule, however the path is written in it, and no document at all puts
a queue elsewhere.
-/

namespace Postroom

namespace QueueDirectory

/-- The system directories, name by name. -/
def systemNames : List (List String) :=
  [["etc"], ["bin"], ["sbin"], ["usr", "bin"], ["usr", "sbin"], ["boot"], ["sys"],
  ["proc"], ["dev"]]

/-- Names that lead neither upwards nor into a system directory. -/
structure Outside (names : List String) : Prop where
  straight : ".." ∉ names
  apart : ∀ system ∈ systemNames, ¬ system <+: names

/-- Paths that a queue may live at. -/
structure Habitable (path : Path) : Prop where
  absolute : path.isAbsolute = true
  outside : Outside path.components

variable {path : Path}

theorem map_components_systemDirectories : systemDirectories.map Path.components = systemNames := by
  decide +kernel

theorem isWithin_systemDirectory (habsolute : path.isAbsolute = true) {directory : Path}
    (h : directory ∈ systemDirectories) :
    path.isWithin directory = true ↔ directory.components <+: path.components := by
  have hroot : ∀ directory ∈ systemDirectories, directory.isAbsolute = true := by decide
  rw [Path.isWithin, habsolute, hroot directory h, beq_self_eq_true, Bool.true_and,
    List.isPrefixOf_iff_prefix]

/-- What becomes of a path, and why. -/
theorem validate_cases (path : Path) :
    (Habitable path ∧ validate path = .ok ()) ∨
      (¬ Habitable path ∧
        ((".." ∈ path.components ∧ validate path = .error (.parentComponent path)) ∨
          (path.isAbsolute = false ∧ validate path = .error (.notAbsolute path)) ∨
          ∃ directory ∈ systemDirectories, directory.components <+: path.components ∧
            validate path = .error (.systemDirectory directory path))) := by
  unfold validate
  split
  · rename_i hup
    rw [List.contains_iff_mem] at hup
    exact .inr ⟨fun h => h.outside.straight hup, .inl ⟨hup, rfl⟩⟩
  rename_i hup
  rw [List.contains_iff_mem] at hup
  split
  · rename_i hrelative
    rw [Bool.not_eq_true'] at hrelative
    refine .inr ⟨fun h => ?_, .inr (.inl ⟨hrelative, rfl⟩)⟩
    rw [h.absolute] at hrelative
    cases hrelative
  rename_i habsolute
  rw [Bool.not_eq_true', Bool.not_eq_false] at habsolute
  split
  · rename_i directory hfound
    have hmem := List.mem_of_find?_eq_some hfound
    have hwithin := (isWithin_systemDirectory habsolute hmem).1 (List.find?_some hfound)
    have hnames : directory.components ∈ systemNames := by
      rw [← map_components_systemDirectories]
      exact List.mem_map_of_mem hmem
    refine .inr ⟨fun h => h.outside.apart _ hnames hwithin, .inr (.inr ?_)⟩
    exact ⟨directory, hmem, hwithin, rfl⟩
  · rename_i hnone
    refine .inl ⟨⟨habsolute, hup, ?_⟩, rfl⟩
    intro system hsystem hbegins
    rw [← map_components_systemDirectories] at hsystem
    obtain ⟨directory, hmem, rfl⟩ := List.mem_map.1 hsystem
    have hwithin := (isWithin_systemDirectory habsolute hmem).2 hbegins
    exact List.find?_eq_none.1 hnone directory hmem hwithin

theorem make_eq (path : Path) (sync : Bool) :
    make path sync = (validate path).map fun _ => ⟨path, sync⟩ := by
  rw [make]
  cases validate path <;> rfl

theorem make_cases (path : Path) (sync : Bool) :
    (Habitable path ∧ make path sync = .ok ⟨path, sync⟩) ∨
      (¬ Habitable path ∧ ∃ e, make path sync = .error e) := by
  rw [make_eq]
  obtain ⟨hpath, h⟩ | ⟨hpath, h⟩ := validate_cases path
  · exact .inl ⟨hpath, by rw [h]; rfl⟩
  · obtain ⟨-, h⟩ | ⟨-, h⟩ | ⟨_, -, -, h⟩ := h <;> exact .inr ⟨hpath, _, by rw [h]; rfl⟩

theorem habitable_of_make {sync : Bool} {home : QueueDirectory} (h : make path sync = .ok home) :
    Habitable path ∧ home = ⟨path, sync⟩ := by
  obtain ⟨hpath, hmake⟩ | ⟨-, e, hmake⟩ := make_cases path sync
  · rw [hmake, Except.ok.injEq] at h
    exact ⟨hpath, h.symm⟩
  · rw [hmake] at h
    cases h

theorem make_eq_ok_iff {sync : Bool} : (∃ home, make path sync = .ok home) ↔ Habitable path := by
  constructor
  · rintro ⟨home, h⟩
    exact (habitable_of_make h).1
  · intro hpath
    obtain ⟨-, h⟩ | ⟨hnot, -⟩ := make_cases path sync
    · exact ⟨_, h⟩
    · exact absurd hpath hnot

theorem standard_habitable : Habitable standard.path := by
  refine ⟨by decide, ?_, ?_⟩
  · decide +kernel
  · decide +kernel

end QueueDirectory

open QueueDirectory (Habitable)

/-- Whether a queue is kept in memory, or where it may live. -/
def QueueConfig.Placed : QueueConfig → Prop
  | .directory home => Habitable home.path
  | .memory _ => True

namespace Configuration

open Ron

/-! ### All documents -/

/-- What a document is told of the home that it names. -/
def verdict (home : QueueDirectory) : Except DocumentError QueueConfig :=
  match QueueDirectory.make home.path home.sync with
  | .ok home => .ok (.directory home)
  | .error e => .error (.queuePath e)

theorem verdict_of_habitable {home : QueueDirectory} (h : Habitable home.path) :
    verdict home = .ok (.directory home) := by
  obtain ⟨-, hmake⟩ | ⟨hnot, -⟩ := QueueDirectory.make_cases home.path home.sync
  · rw [verdict, hmake]
  · exact absurd h hnot

/-- Whatever is made of the verdict on a home, it is made exactly if a queue may live there. -/
theorem exists_map_verdict_iff {α : Type} (home : QueueDirectory) (f : QueueConfig → α) :
    (∃ a, (verdict home).map f = .ok a) ↔ Habitable home.path := by
  obtain ⟨hpath, -⟩ | ⟨hpath, e, hmake⟩ := QueueDirectory.make_cases home.path home.sync
  · refine iff_of_true ⟨f (.directory home), ?_⟩ hpath
    rw [verdict_of_habitable hpath]
    rfl
  · refine iff_of_false ?_ hpath
    rintro ⟨a, h⟩
    rw [verdict, hmake] at h
    cases h

/-- In whatever way the fields were written, they are judged by the path. -/
theorem readDirectory_of_fields {scope : Scope} {cs rest : List Char} {path : String} {sync : Bool}
    (h : fields scope directoryFields {} cs = .ok (⟨some path, sync⟩, rest)) :
    readDirectory scope cs = (verdict ⟨⟨path⟩, sync⟩).map (·, rest) := by
  rw [readDirectory, bind_of_ok h, verdict]
  change (match QueueDirectory.make ⟨path⟩ sync with
    | .ok home => (pure (.directory home) : Reader QueueConfig)
    | .error e => throw (DocumentError.queuePath e)) rest = _
  cases QueueDirectory.make ⟨path⟩ sync <;> rfl

theorem yields_readDirectory (scope : Scope) : Yields (readDirectory scope) QueueConfig.Placed := by
  refine yields_last fun draft => yields_last fun path => ?_
  split
  · rename_i home hmake
    obtain ⟨hpath, rfl⟩ := QueueDirectory.habitable_of_make hmake
    exact yields_pure hpath
  · exact yields_failure _

theorem yields_readQueue (scope : Scope) : Yields (readQueue scope) QueueConfig.Placed := by
  refine yields_variant ?_ scope
  intro entry hentry scope
  simp only [List.mem_cons, List.not_mem_nil, or_false] at hentry
  rcases hentry with rfl | rfl
  · exact yields_payload yields_readDirectory scope
  · exact yields_payload (fun _ => yields_last fun _ => yields_pure trivial) scope

/-- One field says where the queue is kept, and the others leave it there. -/
theorem yields_serverField {field : StructField Configuration} (h : field ∈ serverFields)
    (scope : Scope) : Yields (field.read scope) fun update =>
      ∀ draft : Configuration, draft.queue.Placed → (update draft).queue.Placed := by
  simp only [serverFields, List.mem_cons, List.not_mem_nil, or_false] at h
  rcases h with rfl | rfl | rfl | rfl | rfl | rfl
  · exact (yields_readQueue scope).bind fun queue hqueue => yields_pure fun _ _ => hqueue
  all_goals exact yields_last fun _ => yields_pure fun _ hdraft => hdraft

/-- Whatever a document says, the queue is placed if there is a configuration. -/
theorem placed_of_parse {source : String} {config : Configuration} (h : parse source = .ok config) :
    config.queue.Placed := by
  have hdefault : ({} : Configuration).queue.Placed := QueueDirectory.standard_habitable
  exact of_document (fun scope => yields_struct
    (P := fun config : Configuration => config.queue.Placed)
    (fun field hfield => yields_serverField hfield) hdefault scope "Mailflow") h

/-! ### The document of a home -/

/-- The fields that say where a queue is kept. -/
def homeFields (home : QueueDirectory) : String :=
  "path: " ++ quote home.path.text ++ ", sync: " ++ toString home.sync

/-- A document that says no more than where the queue is kept. -/
def homeDocument (home : QueueDirectory) : String :=
  "(queue: File(" ++ homeFields home ++ "))"

theorem ahead_path {value : List Char} (h : Plain value) :
    FieldAhead directoryFields directoryFields[0] ("path: ".toList ++ value) value :=
  ⟨plain_cons (by decide) (by decide) _, rfl, rfl, rfl, h⟩

theorem ahead_sync {value : List Char} (h : Plain value) :
    FieldAhead directoryFields directoryFields[1] ("sync: ".toList ++ value) value :=
  ⟨plain_cons (by decide) (by decide) _, rfl, rfl, rfl, h⟩

theorem ahead_queue {value : List Char} (h : Plain value) :
    FieldAhead serverFields serverFields[0] ("queue: ".toList ++ value) value :=
  ⟨plain_cons (by decide) (by decide) _, rfl, rfl, rfl, h⟩

theorem plain_homeFields (home : QueueDirectory) (rest : List Char) :
    Plain ((homeFields home).toList ++ rest) := by
  have htext : (homeFields home).toList ++ rest = "path: ".toList ++
      ((quote home.path.text).toList ++
      (", sync: ".toList ++ ((toString home.sync).toList ++ rest))) := by
    simp [homeFields]
  rw [htext]
  exact plain_cons (by decide) (by decide) _

theorem fields_homeFields (home : QueueDirectory) (depth : Nat) (explicit : Bool)
    (rest : List Char) :
    fields ⟨depth + 2, explicit⟩ directoryFields {} ((homeFields home).toList ++ ')' :: rest) =
      .ok (⟨some home.path.text, home.sync⟩, ')' :: rest) := by
  obtain ⟨⟨path⟩, sync⟩ := home
  let syncText := (toString sync).toList ++ ')' :: rest
  let pathText := (quote path).toList ++ ',' :: ' ' :: ("sync: ".toList ++ syncText)
  have htext : (homeFields ⟨⟨path⟩, sync⟩).toList ++ ')' :: rest = "path: ".toList ++ pathText := by
    simp [homeFields, pathText, syncText]
  have hsyncPlain : Plain syncText := by
    cases sync <;> exact plain_cons (by decide) (by decide) _
  have hpath : directoryFields[0].read ⟨depth, explicit⟩ pathText =
      .ok (fun draft => { draft with path := some path },
        ',' :: ' ' :: ("sync: ".toList ++ syncText)) := by
    change (text >>= _) _ = _
    rw [bind_of_ok (text_quote path _)]
    rfl
  have hsync : directoryFields[1].read ⟨depth, explicit⟩ syncText =
      (Except.ok (fun draft => { draft with sync }) :
        Except DocumentError (DirectoryDraft → DirectoryDraft)).map (·, ')' :: rest) := by
    cases sync <;> rfl
  rw [htext]
  change fieldsWithin ⟨depth + 1, explicit⟩ directoryFields (_ + 1) [] {} _ = _
  rw [fieldsWithin_more (ahead_path (plain_quote path _)) _ rfl (ahead_sync hsyncPlain).plain hpath]
  exact fieldsWithin_last (ahead_sync hsyncPlain) _ rfl hsync _

theorem readQueue_file {depth : Nat} {explicit : Bool} {cs rest : List Char}
    {outcome : Except DocumentError QueueConfig} (hcs : Plain cs)
    (h : readDirectory ⟨depth, explicit⟩ cs = outcome.map (·, ')' :: rest)) :
    readQueue ⟨depth + 2, explicit⟩ ("File(".toList ++ cs) = outcome.map (·, rest) := by
  have hplain : Plain ("File(".toList ++ cs) := plain_cons (by decide) (by decide) _
  have hname : name ("File(".toList ++ cs) = .ok ("File", '(' :: cs) := rfl
  rw [readQueue, variant, bind_of_ok (blanks_none hplain), bind_of_ok deeper_succ,
    bind_of_ok deeper_succ, bind_of_ok hname]
  exact payload_enclosed hcs h

/-- The document of a home is a configuration with this home, unless it is refused. -/
theorem parse_homeDocument (home : QueueDirectory) :
    parse (homeDocument home) = (verdict home).map fun queue => { queue } := by
  let fileText := "File(".toList ++ ((homeFields home).toList ++ ')' :: [')'])
  have htext : (homeDocument home).toList = '(' :: ("queue: ".toList ++ fileText) := by
    simp [homeDocument, fileText]
  have hplain : Plain fileText := plain_cons (by decide) (by decide) _
  have hhome := readDirectory_of_fields (fields_homeFields home 122 false [')'])
  have hqueue := readQueue_file (plain_homeFields home _) hhome
  have hread : serverFields[0].read ⟨126, false⟩ fileText =
      ((verdict home).map fun queue => fun config : Configuration => { config with queue }).map
        (·, [')']) := by
    change (readQueue ⟨126, false⟩ >>= _) _ = _
    rw [bind_of_map hqueue]
    cases verdict home <;> rfl
  have hseen : ([] : List String).contains serverFields[0].name = false := rfl
  have hfields := fieldsWithin_last (ahead_queue hplain) ("queue: ".toList ++ fileText).length hseen
    hread {}
  have hstruct := struct_unnamed hfields "Mailflow"
  refine document_enclosed htext (hstruct.trans ?_)
  cases verdict home <;> rfl

end Configuration

namespace QueueDirectory

open Postroom.Configuration

/-- A queue is accepted exactly at an absolute path without a `..` component whose components do not
begin with those of a system directory: by the builder, by whoever reads the fields of a queue
directory in whatever way they are written, and in a document that says just this. No document
whatsoever has a queue at any other path. What is accepted is taken as it is. As only the components
of a path count, it is not the spelling of its names that decides, but the names. -/
theorem judged_by_components (path : Path) (sync : Bool) :
    ((∃ home, make path sync = .ok home) ↔ Habitable path) ∧
      (∀ scope cs rest, Ron.fields scope directoryFields {} cs =
        .ok (⟨some path.text, sync⟩, rest) →
        ((∃ found, readDirectory scope cs = .ok found) ↔ Habitable path)) ∧
      ((∃ config, parse (homeDocument ⟨path, sync⟩) = .ok config) ↔ Habitable path) ∧
      (∀ source config, parse source = .ok config → config.queue = .directory ⟨path, sync⟩ →
        Habitable path) ∧
      (Habitable path → make path sync = .ok ⟨path, sync⟩ ∧
        parse (homeDocument ⟨path, sync⟩) = .ok { queue := .directory ⟨path, sync⟩ }) ∧
      (path.isAbsolute = true → Path.Spells path.components path.text.toList ∧
        ∀ names, Path.Spells names path.text.toList →
          ((∃ home, make path sync = .ok home) ↔ Outside names)) := by
  refine ⟨make_eq_ok_iff, ?_, ?_, ?_, ?_, ?_⟩
  · intro scope cs rest hfields
    rw [readDirectory_of_fields hfields]
    exact exists_map_verdict_iff ⟨path, sync⟩ (·, rest)
  · rw [parse_homeDocument]
    exact exists_map_verdict_iff ⟨path, sync⟩ _
  · intro source config hparse hqueue
    have hplaced := placed_of_parse hparse
    rwa [hqueue] at hplaced
  · intro hpath
    have hverdict : verdict ⟨path, sync⟩ = .ok (.directory ⟨path, sync⟩) :=
      verdict_of_habitable hpath
    obtain ⟨home, hmake⟩ := make_eq_ok_iff.2 hpath
    refine ⟨(habitable_of_make hmake).2 ▸ hmake, ?_⟩
    rw [parse_homeDocument, hverdict]
    rfl
  · intro habsolute
    refine ⟨(Path.components_eq_iff habsolute).1 rfl, fun names hnames => ?_⟩
    rw [make_eq_ok_iff, ← (Path.components_eq_iff habsolute).2 hnames]
    exact ⟨fun h => h.outside, fun h => ⟨habsolute, h⟩⟩

namespace Sample

/-- A path that begins like a system directory and is spelt with more slashes and dots than it
needs. -/
def besideEtc : Path := ⟨"//etcetera/./queue/"⟩

/-- A system directory under another spelling, and a queue in it. -/
def insideUsrBin : Path := ⟨"/usr/.//bin/mail/."⟩

theorem besideEtc_spells : Path.Spells ["etcetera", "queue"] besideEtc.text.toList := by
  have hqueue : Path.IsName "queue" := ⟨by decide, by decide, by decide⟩
  have hetcetera : Path.IsName "etcetera" := ⟨by decide, by decide, by decide⟩
  exact (((Path.Spells.nothing.slash).name hqueue).dot.name hetcetera).slash

theorem judged_by_components_of_etcetera :
    (∃ home, make besideEtc true = .ok home) ∧ Habitable besideEtc ∧
      (∃ cs, Ron.fields ⟨2, false⟩ directoryFields {} cs =
          .ok (⟨some insideUsrBin.text, true⟩, [')']) ∧
        ¬ ∃ found, readDirectory ⟨2, false⟩ cs = .ok found) ∧
      ∃ config, parse (homeDocument ⟨besideEtc, true⟩) = .ok config ∧
        config.queue = .directory ⟨besideEtc, true⟩ := by
  have habsolute : besideEtc.isAbsolute = true := by decide
  obtain ⟨hbuilt, -, -, hall, htaken, hspelt⟩ := judged_by_components besideEtc true
  obtain ⟨-, hread, -⟩ := judged_by_components insideUsrBin true
  have hbeside : ∃ home, make besideEtc true = .ok home :=
    ((hspelt habsolute).2 _ besideEtc_spells).2 ⟨by decide, by decide⟩
  obtain ⟨-, hparse⟩ := htaken (hbuilt.1 hbeside)
  have hfields := fields_homeFields ⟨insideUsrBin, true⟩ 0 false []
  refine ⟨hbeside, hall _ _ hparse rfl, ⟨_, hfields, ?_⟩, _, hparse, rfl⟩
  rw [hread _ _ _ hfields]
  exact fun h => h.outside.apart ["usr", "bin"] (by decide) (by decide)

end Sample

end QueueDirectory

end Postroom
