import Postroom.Proofs.Record.Spelling

/-!
Names of records sort as keys do. Numbers that are written with one count of digits compare as their
digits do, from the first one on; the characters of digits compare as bytes in the order of their
values; and of two names the schedules are compared first, since they have one length and come
first.
-/

namespace Postroom

namespace Text

/-- A text is spelled by the bytes of its characters. -/
theorem toBytes_ofList (cs : List Char) :
    toBytes (String.ofList cs) = cs.flatMap String.utf8EncodeChar := by
  rw [toBytes, String.toUTF8_eq_toByteArray, String.toByteArray_ofList, List.utf8Encode,
    List.data_toByteArray]

/-- Characters that take one byte each are spelled by their numbers. -/
theorem toBytes_ofList_of_single {cs : List Char} (h : ∀ c ∈ cs, c.utf8Size = 1) :
    toBytes (String.ofList cs) = cs.map Char.toUInt8 := by
  rw [toBytes_ofList]
  induction cs with
  | nil => rfl
  | cons c cs ih =>
      have hfirst := String.utf8EncodeChar_eq_singleton (h c (List.mem_cons_self ..))
      have hothers := ih fun d hd => h d (List.mem_cons_of_mem _ hd)
      rw [List.flatMap_cons, hfirst, hothers]
      rfl

/-- Of lists with parts of one length in front, these parts are compared first. -/
theorem append_lt_append_iff {α : Type} [LT α] {front front' : List α}
    (h : front.length = front'.length) (back back' : List α) :
    front ++ back < front' ++ back' ↔ front < front' ∨ front = front' ∧ back < back' := by
  induction front generalizing front' with
  | nil =>
      rw [List.length_eq_zero_iff.1 h.symm]
      simp
  | cons a front ih =>
      cases front' with
      | nil => cases h
      | cons b front' =>
          have hothers := ih (Nat.succ.inj h)
          rw [List.cons_append, List.cons_append, List.cons_lt_cons_iff, List.cons_lt_cons_iff,
            hothers, List.cons.injEq]
          tauto

/-- Digits that are put in order by what stands for them compare as that does. -/
theorem map_lt_map_iff {base : Nat} {byte : Nat → UInt8}
    (hbyte : ∀ d < base, ∀ e < base, byte d < byte e ↔ d < e) {ds es : List Nat}
    (hds : ∀ d ∈ ds, d < base) (hes : ∀ e ∈ es, e < base) :
    ds.map byte < es.map byte ↔ ds < es := by
  induction ds generalizing es with
  | nil => cases es <;> simp
  | cons d ds ih =>
      cases es with
      | nil => simp
      | cons e es =>
          have hd : d < base := hds d (List.mem_cons_self ..)
          have he : e < base := hes e (List.mem_cons_self ..)
          have hothers := ih (fun d hd => hds d (List.mem_cons_of_mem _ hd))
            fun e he => hes e (List.mem_cons_of_mem _ he)
          have hsame : byte d = byte e ↔ d = e := by
            refine ⟨fun heq => ?_, fun heq => congrArg byte heq⟩
            have hnot : ¬ d < e := fun hlt => UInt8.lt_irrefl _ (heq ▸ (hbyte d hd e he).2 hlt)
            have hnot' : ¬ e < d := fun hlt => UInt8.lt_irrefl _ (heq ▸ (hbyte e he d hd).2 hlt)
            omega
          rw [List.map_cons, List.map_cons, List.cons_lt_cons_iff, List.cons_lt_cons_iff,
            hothers, hsame, hbyte d hd e he]

/-- Digits of one count compare as the numbers that they make. -/
theorem valueOfDigits_lt_iff {base : Nat} {ds es : List Nat} (hlength : ds.length = es.length)
    (hds : ∀ d ∈ ds, d < base) (hes : ∀ e ∈ es, e < base) :
    valueOfDigits base ds < valueOfDigits base es ↔ ds < es := by
  induction ds generalizing es with
  | nil =>
      rw [List.length_eq_zero_iff.1 hlength.symm]
      simp
  | cons d ds ih =>
      cases es with
      | nil => cases hlength
      | cons e es =>
          have hcount : ds.length = es.length := Nat.succ.inj hlength
          have hds' : ∀ d ∈ ds, d < base := fun d hd => hds d (List.mem_cons_of_mem _ hd)
          have hes' : ∀ e ∈ es, e < base := fun e he => hes e (List.mem_cons_of_mem _ he)
          have hd := valueOfDigits_lt ds hds'
          have he := valueOfDigits_lt es hes'
          have hothers := ih hcount hds' hes'
          rw [valueOfDigits_cons, valueOfDigits_cons, List.cons_lt_cons_iff, ← hothers]
          rw [hcount] at hd ⊢
          -- The digits behind the first one make less than a unit of it.
          have hfirst : ∀ a b x y : Nat, x < base ^ es.length → a < b →
              a * base ^ es.length + x < b * base ^ es.length + y := by
            intro a b x y hx hab
            calc a * base ^ es.length + x < (a + 1) * base ^ es.length := by
                  rw [Nat.succ_mul]
                  exact Nat.add_lt_add_left hx _
              _ ≤ b * base ^ es.length := Nat.mul_le_mul_right _ hab
              _ ≤ b * base ^ es.length + y := Nat.le_add_right ..
          rcases Nat.lt_trichotomy d e with hlt | rfl | hgt
          · exact iff_of_true (hfirst d e _ _ hd hlt) (.inl hlt)
          · simp
          · have hback := hfirst e d _ (valueOfDigits base ds) he hgt
            omega

/-- Numbers compare as the digits that they are written with. -/
theorem fixedDigits_lt_iff {base width m n : Nat} (hbase : 0 < base) (hm : m < base ^ width)
    (hn : n < base ^ width) : fixedDigits base width m < fixedDigits base width n ↔ m < n := by
  have hdigits : ∀ k, ∀ d ∈ fixedDigits base width k, d < base := fun k d hd =>
    mem_fixedDigits_lt hbase hd
  rw [← valueOfDigits_lt_iff (by simp) (hdigits m) (hdigits n), valueOfDigits_fixedDigits,
    valueOfDigits_fixedDigits, Nat.pow_eq, Nat.mod_eq_of_lt hm, Nat.mod_eq_of_lt hn]

/-- The bytes of the digits of numbers compare as the numbers do. -/
theorem map_fixedDigits_lt_iff {base width m n : Nat} {byte : Nat → UInt8} (hbase : 0 < base)
    (hbyte : ∀ d < base, ∀ e < base, byte d < byte e ↔ d < e) (hm : m < base ^ width)
    (hn : n < base ^ width) :
    (fixedDigits base width m).map byte < (fixedDigits base width n).map byte ↔ m < n := by
  rw [map_lt_map_iff hbyte (fun d hd => mem_fixedDigits_lt hbase hd)
    fun e he => mem_fixedDigits_lt hbase he, fixedDigits_lt_iff hbase hm hn]

theorem map_fixedDigits_eq_iff {base width m n : Nat} {byte : Nat → UInt8} (hbase : 0 < base)
    (hbyte : ∀ d < base, ∀ e < base, byte d < byte e ↔ d < e) (hm : m < base ^ width)
    (hn : n < base ^ width) :
    (fixedDigits base width m).map byte = (fixedDigits base width n).map byte ↔ m = n := by
  refine ⟨fun heq => ?_, fun heq => by rw [heq]⟩
  have hless := map_fixedDigits_lt_iff hbase hbyte hm hn
  have hmore := map_fixedDigits_lt_iff hbase hbyte hn hm
  rw [heq] at hless hmore
  have hnot : ¬ m < n := fun hlt => List.lt_irrefl _ (hless.2 hlt)
  have hnot' : ¬ n < m := fun hlt => List.lt_irrefl _ (hmore.2 hlt)
  omega

end Text

namespace RecordKey

theorem compare_lt_iff (a b : RecordKey) : compare a b = .lt ↔
    a.notBefore < b.notBefore ∨ a.notBefore = b.notBefore ∧ a.id.value < b.id.value := by
  have hunfold : compare a b =
      (compare a.notBefore b.notBefore).then (compare a.id.value b.id.value) := rfl
  rw [hunfold, Ordering.then_eq_lt, Std.compare_eq_lt, Std.compare_eq_iff_eq]
  exact or_congr_right (and_congr_right fun _ => compareOfLessAndEq_eq_lt)

/-- The bytes of a stem: the digits of the schedule, a dash, the digits of the id. -/
theorem toBytes_stem (key : RecordKey) : Text.toBytes key.stem =
    (Text.fixedDigits 10 scheduleWidth key.notBefore.toNat).map
    (fun d => (Nat.digitChar d).toUInt8) ++
      '-'.toUInt8 ::
        (Text.fixedDigits 32 26 key.id.value.toNat).map fun d => (MailId.digitChar d).toUInt8 := by
  have hsingle : ∀ c ∈ stemChars, c.utf8Size = 1 := List.all_iff_forall_prop.1 (by decide)
  have hbytes : Text.toBytes (String.ofList key.stem.toList) = key.stem.toList.map Char.toUInt8 :=
    Text.toBytes_ofList_of_single fun c hc => hsingle c (mem_stem hc)
  rw [String.ofList_toList] at hbytes
  rw [hbytes, toList_stem, schedule, MailId.chars, List.map_append, List.map_cons, List.map_map,
    List.map_map]
  rfl

/-- Names of records sort as keys do. -/
theorem toBytes_stem_lt_iff (a b : RecordKey) :
    Text.toBytes a.stem < Text.toBytes b.stem ↔ compare a b = .lt := by
  have hdecimal : ∀ d < 10, ∀ e < 10, (Nat.digitChar d).toUInt8 < (Nat.digitChar e).toUInt8 ↔
    d < e := by
    decide
  have hletters : ∀ d < 32, ∀ e < 32,
      (MailId.digitChar d).toUInt8 < (MailId.digitChar e).toUInt8 ↔ d < e := by
    decide +kernel
  have hschedule : ∀ key : RecordKey, key.notBefore.toNat < 10 ^ scheduleWidth := fun key =>
    Nat.lt_trans key.notBefore.toNat_lt (by decide)
  have hid : ∀ key : RecordKey, key.id.value.toNat < 32 ^ 26 := fun key =>
    Nat.lt_trans key.id.value.isLt (by decide)
  rw [toBytes_stem, toBytes_stem, Text.append_lt_append_iff (by simp), List.cons_lt_cons_iff,
    Text.map_fixedDigits_lt_iff (by decide) hdecimal (hschedule a) (hschedule b),
    Text.map_fixedDigits_eq_iff (by decide) hdecimal (hschedule a) (hschedule b),
    Text.map_fixedDigits_lt_iff (by decide) hletters (hid a) (hid b), compare_lt_iff,
    UInt64.lt_iff_toNat_lt, UInt64.toNat_inj, BitVec.lt_def]
  simp

/-- Every key is read back from the names of its two files, and the names of records sort as their
keys do: by the schedule, and at one schedule by the id. -/
theorem names_faithful :
    (∀ key : RecordKey, ofFileName? (key.stem ++ ".bin") = some (key, .object) ∧
      ofFileName? (key.stem ++ ".eml") = some (key, .content)) ∧
    ∀ a b : RecordKey,
      (compare a b = .lt ↔
        a.notBefore < b.notBefore ∨ a.notBefore = b.notBefore ∧ a.id.value < b.id.value) ∧
      (compare a b = .lt ↔ Text.toBytes a.stem < Text.toBytes b.stem) := by
  have hplaced : QueueDirectory.Mark.placed ≠ .temporary := by decide
  have hread : ∀ (key : RecordKey) (part : RecordPart),
      ofFileName? (key.fileName part) = some (key, part) := fun key part =>
    QueueDirectory.ofFileName?_nameOf hplaced key part
  have hname : ∀ (key : RecordKey) (part : RecordPart),
      key.fileName part = key.stem ++ ("." ++ part.extension) := by
    intro key part
    exact String.append_assoc ..
  refine ⟨fun key => ⟨?_, ?_⟩, fun a b => ⟨compare_lt_iff a b, (toBytes_stem_lt_iff a b).symm⟩⟩
  · exact hname key .object ▸ hread key .object
  · exact hname key .content ▸ hread key .content

end RecordKey

end Postroom
