import Mathlib.Data.Bool.AllAny
import Postroom.Proofs.Record.RoundTrip
import Postroom.Store.Directory

/-!
The names of files in the directory of a store. A record file is read back from its name as the
record that it holds; the names that a file has before it is in place, and after it was taken away,
are those of no record, and are told apart by their marks. All of them are names that a directory
takes.
-/

namespace Postroom

/-- A name that leads to an entry of the directory where it is looked for. -/
structure Disk.Plain (name : String) : Prop where
  up : name ≠ ".."
  size : name.utf8ByteSize ≤ maxName
  nul : '\x00' ∉ name.toList

namespace Text

theorem digitValue?_digitChar {d : Nat} (h : d < 10) :
    digitValue? 10 (Nat.digitChar d) = some d := by
  have hall : ∀ d : Fin 10, digitValue? 10 (Nat.digitChar d) = some d.val := by decide
  exact hall ⟨d, h⟩

theorem isDigit_digitChar {d : Nat} (h : d < 10) : (Nat.digitChar d).isDigit = true := by
  have hall : ∀ d : Fin 10, (Nat.digitChar d).isDigit = true := by decide
  exact hall ⟨d, h⟩

theorem le_foldl_digits (ds : List Nat) (acc : Nat) :
    acc ≤ ds.foldl (fun acc d => acc * 10 + d) acc := by
  induction ds generalizing acc with
  | nil => exact Nat.le_refl acc
  | cons d ds ih =>
      have hstep := ih (acc * 10 + d)
      rw [List.foldl_cons]
      omega

/-- Digits are read as the number that they make, if it is below the limit. -/
theorem readDigits_map_digitChar {limit : Nat} {ds : List Nat} (h : ∀ d ∈ ds, d < 10) (acc : Nat)
    (hlimit : ds.foldl (fun acc d => acc * 10 + d) acc < limit) :
    readDigits 10 limit acc (ds.map Nat.digitChar) =
      .ok (ds.foldl (fun acc d => acc * 10 + d) acc) := by
  induction ds generalizing acc with
  | nil => rfl
  | cons d ds ih =>
      rw [List.foldl_cons] at hlimit ⊢
      have hdigit := digitValue?_digitChar (h d (List.mem_cons_self ..))
      have hnext : acc * 10 + d < limit := Nat.lt_of_le_of_lt (le_foldl_digits ds _) hlimit
      rw [List.map_cons, readDigits, hdigit]
      simp only [hnext, if_true]
      exact ih (fun e he => h e (List.mem_cons_of_mem _ he)) _ hlimit

theorem readDigits_fixedDigits {limit width n : Nat} (hlimit : n < limit)
    (hwidth : n < Nat.pow 10 width) :
    readDigits 10 limit 0 ((fixedDigits 10 width n).map Nat.digitChar) = .ok n := by
  have hvalue : (fixedDigits 10 width n).foldl (fun acc d => acc * 10 + d) 0 = n :=
    (valueOfDigits_fixedDigits 10 width n).trans (Nat.mod_eq_of_lt hwidth)
  rw [readDigits_map_digitChar (fun d hd => mem_fixedDigits_lt (by decide) hd), hvalue]
  rwa [hvalue]

/-- Two characters do not stand side by side where the first of them does not stand, nor in what
follows that. -/
theorem cutPair_append {a b : Char} {pre rest : List Char} (hpre : a ∉ pre)
    (hrest : cutPair a b rest = none) : cutPair a b (pre ++ rest) = none := by
  induction pre with
  | nil => exact hrest
  | cons c pre ih =>
      have hothers := ih fun hmem => hpre (List.mem_cons_of_mem _ hmem)
      have hc : c ≠ a := fun heq => hpre (heq ▸ List.mem_cons_self ..)
      rw [List.cons_append]
      cases hmore : pre ++ rest with
      | nil => rfl
      | cons d more =>
          rw [hmore] at hothers
          rw [cutPair, if_neg fun h => hc h.1, hothers]
          rfl

end Text

namespace RecordKey

/-- The characters of the names of records, but for the dot. -/
def stemChars : List Char :=
  '-' :: MailId.digits

theorem digitChar_mem_digits {d : Nat} (h : d < 10) : Nat.digitChar d ∈ MailId.digits := by
  have hall : ∀ d : Fin 10, Nat.digitChar d ∈ MailId.digits := by decide
  exact hall ⟨d, h⟩

theorem mem_chars {id : MailId} {c : Char} (h : c ∈ id.chars) : c ∈ MailId.digits := by
  have hall : ∀ d : Fin 32, MailId.digitChar d ∈ MailId.digits := by decide
  obtain ⟨d, hd, rfl⟩ := List.mem_map.1 h
  exact hall ⟨d, Text.mem_fixedDigits_lt (by decide) hd⟩

/-- The digits of the schedule of a key. -/
def schedule (key : RecordKey) : List Char :=
  (Text.fixedDigits 10 scheduleWidth key.notBefore.toNat).map Nat.digitChar

theorem mem_schedule {key : RecordKey} {c : Char} (h : c ∈ key.schedule) :
    c ∈ MailId.digits ∧ c.isDigit = true := by
  obtain ⟨d, hd, rfl⟩ := List.mem_map.1 h
  have hlt : d < 10 := Text.mem_fixedDigits_lt (by decide) hd
  exact ⟨digitChar_mem_digits hlt, Text.isDigit_digitChar hlt⟩

theorem toList_stem (key : RecordKey) : key.stem.toList = key.schedule ++ '-' :: key.id.chars := by
  simp [stem, Text.paddedDecimal, MailId.text, schedule]

theorem length_stem (key : RecordKey) : key.stem.toList.length = 47 := by
  rw [toList_stem]
  simp [schedule, scheduleWidth, MailId.chars]

theorem mem_stem {key : RecordKey} {c : Char} (h : c ∈ key.stem.toList) : c ∈ stemChars := by
  rw [toList_stem] at h
  rcases List.mem_append.1 h with h | h
  · exact List.mem_cons_of_mem _ (mem_schedule h).1
  · rcases List.mem_cons.1 h with rfl | h
    · exact List.mem_cons_self ..
    · exact List.mem_cons_of_mem _ (mem_chars h)

theorem toList_fileName (key : RecordKey) (part : RecordPart) :
    (key.fileName part).toList = key.stem.toList ++ '.' :: part.extension.toList := by
  simp [fileName]

/-- The stem of a name is read as the key that it was made of. -/
theorem ofStem?_stem (key : RecordKey) : ofStem? key.stem.toList = some key := by
  have hdash : '-' ∉ key.schedule := by
    intro hmem
    have hnot : '-' ∉ MailId.digits := by decide
    exact hnot (mem_schedule hmem).1
  have hlength : key.schedule.length = scheduleWidth := by simp [schedule]
  have hdigits : key.schedule.all Char.isDigit = true :=
    List.all_eq_true.2 fun c hc => (mem_schedule hc).2
  have hchecked : (decide (key.schedule.length = scheduleWidth) && key.schedule.all Char.isDigit) =
    true := by
    rw [hdigits, hlength]
    rfl
  have hnumber : Text.readDigits 10 UInt64.size 0 key.schedule = .ok key.notBefore.toNat := by
    apply Text.readDigits_fixedDigits
    · exact key.notBefore.toNat_lt
    · exact Nat.lt_trans key.notBefore.toNat_lt (by decide)
  have hid : MailId.ofChars? key.id.chars = some key.id := by
    have hparse := MailId.parse?_text key.id
    rwa [MailId.parse?, MailId.text, String.toList_ofList] at hparse
  rw [toList_stem, ofStem?, Text.cutFirstChars_append hdash]
  simp only [bind, Option.bind, hchecked, if_true, hnumber, hid, pure, UInt64.ofNat_toNat]

/-- The schedule comes first in a stem, so a stem starts with a digit. -/
theorem ofStem?_cons_eq_none {c : Char} (hc : c.isDigit = false) (cs : List Char) :
    ofStem? (c :: cs) = none := by
  unfold ofStem?
  cases hcut : Text.cutFirstChars '-' (c :: cs) with
  | none => rfl
  | some cut =>
      obtain ⟨schedule, id⟩ := cut
      obtain ⟨happend, -⟩ := Text.cutFirstChars_eq_some hcut
      have hchecked : (decide (schedule.length = scheduleWidth) && schedule.all Char.isDigit) =
        false := by
        cases schedule with
        | nil => rfl
        | cons d schedule =>
            obtain ⟨rfl, -⟩ := List.cons.inj happend
            simp [hc]
      simp only [bind, Option.bind, hchecked, Bool.false_eq_true, if_false]

end RecordKey

namespace QueueDirectory

open Disk (Plain)

/-- What the name of a file says of the record in it. -/
inductive Mark where
  /-- It is in place. -/
  | placed
  | temporary
  | deleted
  | corrupt
  deriving DecidableEq

/-- The name that a record file has under a mark. -/
def Mark.name (mark : Mark) (name : String) : String :=
  match mark with
  | placed => name
  | temporary => temporaryMark ++ name
  | deleted => name ++ deletedMark
  | corrupt => name ++ corruptMark

/-- The name of the file of a record under a mark. -/
def nameOf (mark : Mark) (key : RecordKey) (part : RecordPart) : String :=
  mark.name (key.fileName part)

/-- What stands before and after the stem in a name. -/
def Mark.before : Mark → List Char
  | temporary => temporaryMark.toList
  | _ => []

def Mark.after (mark : Mark) (part : RecordPart) : List Char :=
  '.' :: part.extension.toList ++
    match mark with
    | deleted => deletedMark.toList
    | corrupt => corruptMark.toList
    | _ => []

theorem toList_nameOf (mark : Mark) (key : RecordKey) (part : RecordPart) :
    (nameOf mark key part).toList = mark.before ++ key.stem.toList ++ mark.after part := by
  cases mark <;> simp [nameOf, Mark.name, Mark.before, Mark.after, RecordKey.toList_fileName]

theorem mem_nameOf {mark : Mark} {key : RecordKey} {part : RecordPart} {c : Char}
    (h : c ∈ (nameOf mark key part).toList) : c ≠ '\x00' ∧ c.utf8Size = 1 := by
  have hstem : ∀ c ∈ RecordKey.stemChars, c ≠ '\x00' ∧ c.utf8Size = 1 :=
    List.all_iff_forall_prop.1 (by decide)
  have hmarks : ∀ c ∈ mark.before ++ mark.after part, c ≠ '\x00' ∧ c.utf8Size = 1 := by
    refine List.all_iff_forall_prop.1 ?_
    cases mark <;> cases part <;> decide
  rw [toList_nameOf, List.mem_append, List.mem_append] at h
  rcases h with (hbefore | hname) | hafter
  · exact hmarks c (List.mem_append_left _ hbefore)
  · exact hstem c (RecordKey.mem_stem hname)
  · exact hmarks c (List.mem_append_right _ hafter)

theorem length_nameOf (mark : Mark) (key : RecordKey) (part : RecordPart) :
    47 ≤ (nameOf mark key part).toList.length ∧ (nameOf mark key part).toList.length ≤ 63 := by
  have hmarks : mark.before.length + (mark.after part).length ≤ 16 := by
    cases mark <;> cases part <;> decide
  have hstem := key.length_stem
  rw [toList_nameOf, List.length_append, List.length_append]
  omega

/-- A directory takes the names of record files. -/
theorem plain_nameOf (mark : Mark) (key : RecordKey) (part : RecordPart) :
    Plain (nameOf mark key part) := by
  have hlength := length_nameOf mark key part
  refine ⟨fun heq => ?_, ?_, fun hnul => (mem_nameOf hnul).1 rfl⟩
  · rw [heq] at hlength
    exact absurd hlength.1 (by decide)
  · have hbytes : ∀ c ∈ (nameOf mark key part).toList, c.utf8Size = 1 :=
      fun c hc => (mem_nameOf hc).2
    have hsize := Text.utf8ByteSize_ofList hbytes
    rw [String.ofList_toList] at hsize
    rw [hsize, Disk.maxName]
    omega

theorem isTemporary_nameOf (mark : Mark) (key : RecordKey) (part : RecordPart) :
    isTemporary (nameOf mark key part) = decide (mark = .temporary) := by
  have hdot : '.' ∉ RecordKey.stemChars := by decide
  obtain ⟨c, rest, hstem⟩ : ∃ c rest, key.stem.toList = c :: rest := by
    apply List.exists_cons_of_length_pos
    rw [key.length_stem]
    decide
  have hc : c ≠ '.' := by
    rintro rfl
    exact hdot (RecordKey.mem_stem (hstem ▸ List.mem_cons_self ..))
  have hmark : temporaryMark.toList = ['.', 't', 'm', 'p', '_'] := rfl
  rw [isTemporary, toList_nameOf, hstem]
  cases mark with
  | temporary => simp [Mark.before, hmark]
  | _ => simp [Mark.before, hmark, List.isPrefixOf, hc.symm]

/-- A name ends in what its mark puts behind the stem, and in nothing that this does not end in. -/
theorem isSuffixOf_nameOf {ending : List Char} (mark : Mark) (key : RecordKey) (part : RecordPart)
    (hlonger : ¬ mark.after part <:+ ending ∨ ending = mark.after part) :
    ending.isSuffixOf (nameOf mark key part).toList = ending.isSuffixOf (mark.after part) := by
  have hafter : mark.after part <:+ (nameOf mark key part).toList := by
    rw [toList_nameOf]
    exact List.suffix_append ..
  rw [Bool.eq_iff_iff, List.isSuffixOf_iff_suffix, List.isSuffixOf_iff_suffix]
  constructor
  · intro hending
    rcases List.suffix_or_suffix_of_suffix hending hafter with h | h
    · exact h
    · rcases hlonger with hnot | rfl
      · exact absurd h hnot
      · exact h
  · intro hending
    exact hending.trans hafter

theorem isDeleted_nameOf (mark : Mark) (key : RecordKey) (part : RecordPart) :
    isDeleted (nameOf mark key part) = decide (mark = .deleted) := by
  rw [isDeleted, isSuffixOf_nameOf mark key part]
  · cases mark <;> cases part <;> decide
  · cases mark <;> cases part <;> decide

theorem endsIn_nameOf (ending : RecordPart) (mark : Mark) (key : RecordKey) (part : RecordPart) :
    RecordKey.endsIn ending (nameOf mark key part).toList =
      decide ((mark = .placed ∨ mark = .temporary) ∧ part = ending) := by
  rw [RecordKey.endsIn, isSuffixOf_nameOf mark key part]
  · cases ending <;> cases mark <;> cases part <;> decide
  · cases ending <;> cases mark <;> cases part <;> decide

/-- The name of a file in place leads to no other directory. -/
theorem separators_fileName (key : RecordKey) (part : RecordPart) :
    '/' ∉ (key.fileName part).toList ∧ '\\' ∉ (key.fileName part).toList ∧
      Text.cutPair '.' '.' (key.fileName part).toList = none := by
  have hstem : ∀ c ∈ RecordKey.stemChars, c ≠ '/' ∧ c ≠ '\\' ∧ c ≠ '.' :=
    List.all_iff_forall_prop.1 (by decide)
  have hend : ∀ part : RecordPart, '/' ∉ '.' :: part.extension.toList ∧
      '\\' ∉ '.' :: part.extension.toList ∧
        Text.cutPair '.' '.' ('.' :: part.extension.toList) = none := by
    intro part
    cases part <;> decide
  rw [key.toList_fileName, List.mem_append, List.mem_append, not_or, not_or]
  refine ⟨⟨fun hmem => ?_, (hend part).1⟩, ⟨fun hmem => ?_, (hend part).2.1⟩, ?_⟩
  · exact (hstem _ (RecordKey.mem_stem hmem)).1 rfl
  · exact (hstem _ (RecordKey.mem_stem hmem)).2.1 rfl
  · exact Text.cutPair_append (fun hmem => (hstem _ (RecordKey.mem_stem hmem)).2.2 rfl)
      (hend part).2.2

/-- Of the names that are not temporary, those of the files in place are read, as what they were
made of. -/
theorem ofFileName?_nameOf {mark : Mark} (hmark : mark ≠ .temporary) (key : RecordKey)
    (part : RecordPart) : RecordKey.ofFileName? (nameOf mark key part) =
      if mark = .placed then some (key, part) else none := by
  unfold RecordKey.ofFileName?
  simp only [endsIn_nameOf]
  by_cases hplaced : mark = .placed
  · subst hplaced
    obtain ⟨hslash, hbackslash, hdots⟩ := separators_fileName key part
    have hname : nameOf .placed key part = key.fileName part := rfl
    have hstem : (key.fileName part).toList.take ((key.fileName part).toList.length - 4) =
        key.stem.toList := by
      rw [key.toList_fileName]
      cases part <;> simp [RecordPart.extension]
    rw [hname, hstem, hdots, key.ofStem?_stem]
    cases part <;> simp [hslash, hbackslash]
  · simp [hplaced, hmark]

/-- The name of a file that is being written is read as that of no record. -/
theorem ofFileName?_of_isTemporary {name : String} (h : isTemporary name = true) :
    RecordKey.ofFileName? name = none := by
  have hmark : temporaryMark.toList = ['.', 't', 'm', 'p', '_'] := rfl
  obtain ⟨rest, hname⟩ := List.isPrefixOf_iff_prefix.1 h
  rw [hmark, List.cons_append] at hname
  have hstem : RecordKey.ofStem? (name.toList.take (name.toList.length - 4)) = none := by
    rw [← hname]
    cases ('.' :: (['t', 'm', 'p', '_'] ++ rest)).length - 4 with
    | zero => rfl
    | succ count => exact RecordKey.ofStem?_cons_eq_none (by decide) _
  unfold RecordKey.ofFileName?
  simp only [hstem, Option.map_none, ite_self]

end QueueDirectory

end Postroom
