import Mathlib.Data.List.GetD
import Mathlib.Data.List.Induction
import Mathlib.Tactic.Ring
import Postroom.Proofs.Record.FileName

/-!
The spellings of a record in the names of files. All names that are read as those of one record
agree in everything but its id, which is read in either letter case, and from a first digit two of
whose bits are dropped. So a name that is read is the one that a store gives to the file exactly if
its id is spelled in capitals, with a first digit that has only the bits that count.
-/

namespace Postroom

namespace Text

/-- Digits are written again from the number that they make. -/
theorem fixedDigits_valueOfDigits {base : Nat} (ds : List Nat) (h : ∀ d ∈ ds, d < base) :
    fixedDigits base ds.length (valueOfDigits base ds) = ds := by
  induction ds using List.reverseRecOn with
  | nil => rfl
  | append_singleton ds d ih =>
      have hd : d < base := h d (by simp)
      have hvalue : valueOfDigits base (ds ++ [d]) = d + base * valueOfDigits base ds := by
        simp [valueOfDigits, Nat.mul_comm, Nat.add_comm]
      rw [List.length_append, List.length_singleton, fixedDigits, hvalue,
        Nat.add_mul_div_left _ _ (Nat.zero_lt_of_lt hd), Nat.div_eq_of_lt hd, Nat.zero_add,
        Nat.add_mul_mod_self_left, Nat.mod_eq_of_lt hd,
        ih fun e he => h e (List.mem_append_left _ he)]

theorem valueOfDigits_cons (base d : Nat) (ds : List Nat) :
    valueOfDigits base (d :: ds) = d * base ^ ds.length + valueOfDigits base ds := by
  induction ds using List.reverseRecOn with
  | nil => simp [valueOfDigits]
  | append_singleton ds e ih =>
      have hlast : ∀ front : List Nat, valueOfDigits base (front ++ [e]) =
          valueOfDigits base front * base + e := by
        intro front
        simp [valueOfDigits]
      rw [← List.cons_append, hlast, hlast, ih, List.length_append, List.length_singleton,
        Nat.pow_succ]
      ring

theorem valueOfDigits_lt {base : Nat} (ds : List Nat) (h : ∀ d ∈ ds, d < base) :
    valueOfDigits base ds < base ^ ds.length := by
  induction ds with
  | nil => simp [valueOfDigits]
  | cons d ds ih =>
      have hd : d + 1 ≤ base := h d (List.mem_cons_self ..)
      have hrest := ih fun e he => h e (List.mem_cons_of_mem _ he)
      calc valueOfDigits base (d :: ds)
          = d * base ^ ds.length + valueOfDigits base ds := valueOfDigits_cons base d ds
        _ < (d + 1) * base ^ ds.length := by
          rw [Nat.succ_mul]
          exact Nat.add_lt_add_left hrest _
        _ ≤ base * base ^ ds.length := Nat.mul_le_mul_right _ hd
        _ = base ^ (d :: ds).length := by rw [List.length_cons, Nat.pow_succ']

theorem exists_of_isDigit {c : Char} (h : c.isDigit = true) :
    ∃ d, d < 10 ∧ c = Nat.digitChar d := by
  have hbounds : '0'.val ≤ c.val ∧ c.val ≤ '9'.val := by
    simpa [Char.isDigit, UInt32.le_iff_toNat_le] using h
  have hlow : 48 ≤ c.toNat := hbounds.1
  have hhigh : c.toNat ≤ 57 := hbounds.2
  have hall : ∀ d : Fin 10, Nat.digitChar d = Char.ofNat (48 + d) := by decide
  refine ⟨c.toNat - 48, by omega, ?_⟩
  have hchar := hall ⟨c.toNat - 48, by omega⟩
  dsimp only at hchar
  rw [hchar, Nat.add_sub_cancel' hlow, Char.ofNat_toNat]

/-- What is read of decimal digits is the number that they make. -/
theorem readDigits_eq_ok {limit n : Nat} {cs : List Char} (hdigits : cs.all Char.isDigit = true)
    {acc : Nat} (hacc : acc < limit) (h : readDigits 10 limit acc cs = .ok n) :
    n < limit ∧ ∃ ds : List Nat, (∀ d ∈ ds, d < 10) ∧ cs = ds.map Nat.digitChar ∧
      n = ds.foldl (fun acc d => acc * 10 + d) acc := by
  induction cs generalizing acc with
  | nil =>
      cases h
      exact ⟨hacc, [], by simp, rfl, rfl⟩
  | cons c cs ih =>
      rw [List.all_cons, Bool.and_eq_true] at hdigits
      obtain ⟨d, hd, rfl⟩ := exists_of_isDigit hdigits.1
      rw [readDigits, digitValue?_digitChar hd] at h
      dsimp only at h
      split at h
      · rename_i hnext
        obtain ⟨hn, ds, hds, rfl, rfl⟩ := ih hdigits.2 hnext h
        exact ⟨hn, d :: ds, by simpa [hd] using hds, rfl, rfl⟩
      · cases h

end Text

namespace MailId

/-- An id spelled in capitals, with a first digit that stands for three bits. -/
def Canonical (cs : List Char) : Prop :=
  (∀ c ∈ cs, c.isLower = false) ∧ ∀ c ∈ cs.take 1, c ≤ '7'

instance (cs : List Char) : Decidable (Canonical cs) :=
  inferInstanceAs (Decidable (_ ∧ _))

theorem toUpper_eq_self {c : Char} (h : c.isLower = false) : c.toUpper = c := by
  have hbounds : (decide ('a'.val ≤ c.val) && decide (c.val ≤ 'z'.val)) = false := h
  rw [← Bool.not_eq_true, Bool.and_eq_true, decide_eq_true_eq, decide_eq_true_eq] at hbounds
  exact dif_neg hbounds

theorem digitChar_of_digitOf? {c : Char} {d : Nat} (h : digitOf? c = some d) :
    d < 32 ∧ c.toUpper = digitChar d := by
  unfold digitOf? at h
  obtain ⟨hlt, hget, -⟩ := List.idxOf?_eq_some_iff.1 h
  have hlength : digits.length = 32 := by decide
  refine ⟨hlength ▸ hlt, ?_⟩
  rw [digitChar, List.getD_eq_getElem _ _ hlt, hget]

theorem map_toUpper_of_mapM {cs : List Char} {ds : List Nat} (h : cs.mapM digitOf? = some ds) :
    (∀ d ∈ ds, d < 32) ∧ cs.map Char.toUpper = ds.map digitChar := by
  induction cs generalizing ds with
  | nil =>
      cases h
      simp
  | cons c cs ih =>
      rw [List.mapM_cons] at h
      cases hfirst : digitOf? c with
      | none => simp [hfirst] at h
      | some d =>
          cases hothers : cs.mapM digitOf? with
          | none => simp [hfirst, hothers] at h
          | some rest =>
              rw [hfirst, hothers] at h
              cases h
              obtain ⟨hd, hc⟩ := digitChar_of_digitOf? hfirst
              obtain ⟨hrest, hcs⟩ := ih hothers
              exact ⟨by simpa [hd] using hrest, by rw [List.map_cons, List.map_cons, hc, hcs]⟩

/-- What is read as an id prints as it is spelled in capitals, but for the bits of the first digit
that do not count. -/
theorem chars_of_ofChars? {cs : List Char} {id : MailId} (h : ofChars? cs = some id) :
    ∃ (d : Nat) (ds : List Nat), d < 32 ∧ cs.map Char.toUpper = digitChar d :: ds.map digitChar ∧
      id.chars = digitChar (d % 8) :: ds.map digitChar := by
  unfold ofChars? at h
  split at h
  · rename_i hlength
    obtain ⟨all, hall, rfl⟩ := Option.map_eq_some_iff.1 h
    obtain ⟨hdigits, hupper⟩ := map_toUpper_of_mapM hall
    have hcount : all.length = 26 := by
      rw [← hlength, ← List.length_map Char.toUpper, hupper, List.length_map]
    cases all with
    | nil => cases hcount
    | cons d ds =>
        have hd : d < 32 := hdigits d (List.mem_cons_self ..)
        have hds : ∀ e ∈ ds, e < 32 := fun e he => hdigits e (List.mem_cons_of_mem _ he)
        have hrest : ds.length = 25 := Nat.succ_inj.1 hcount
        have hlt := Text.valueOfDigits_lt ds hds
        -- Of the five bits of the first digit the value has room for three.
        have hvalue : Text.valueOfDigits 32 (d :: ds) % 2 ^ 128 =
          Text.valueOfDigits 32 (d % 8 :: ds) := by
          rw [Text.valueOfDigits_cons, Text.valueOfDigits_cons, hrest] at *
          omega
        have hkept : ∀ e ∈ d % 8 :: ds, e < 32 := by
          intro e he
          rcases List.mem_cons.1 he with rfl | he
          · omega
          · exact hds e he
        have hprinted := Text.fixedDigits_valueOfDigits (d % 8 :: ds) hkept
        rw [List.length_cons, hrest] at hprinted
        refine ⟨d, ds, hd, hupper, ?_⟩
        rw [chars, BitVec.toNat_ofNat, hvalue, hprinted, List.map_cons]
  · cases h

/-- An id is read from the characters that it is printed as, and from no others that are
canonical. -/
theorem eq_chars_iff_canonical {cs : List Char} {id : MailId} (h : ofChars? cs = some id) :
    cs = id.chars ↔ Canonical cs := by
  obtain ⟨d, ds, hd, hupper, hchars⟩ := chars_of_ofChars? h
  have hcapital : ∀ c ∈ digits, c.isLower = false := List.all_iff_forall_prop.1 (by decide)
  have hlow : ∀ d : Fin 32, digitChar (d % 8) ≤ '7' ∧ (digitChar d ≤ '7' → d.val < 8) := by decide
  constructor
  · intro heq
    rw [heq]
    refine ⟨fun c hc => hcapital c (RecordKey.mem_chars hc), ?_⟩
    rw [hchars]
    simpa using (hlow ⟨d, hd⟩).1
  · rintro ⟨hcapitals, hfirst⟩
    have hsame : cs.map Char.toUpper = cs := by
      calc cs.map Char.toUpper = cs.map fun c => c := List.map_congr_left fun c hc =>
              toUpper_eq_self (hcapitals c hc)
        _ = cs := List.map_id cs
    rw [hsame] at hupper
    have hsmall : d < 8 := by
      apply (hlow ⟨d, hd⟩).2
      rw [hupper] at hfirst
      simpa using hfirst
    rw [hupper, hchars, Nat.mod_eq_of_lt hsmall]

end MailId

namespace RecordKey

/-- The characters of a name where the id of a record stands. -/
def idChars (name : String) : List Char :=
  (name.toList.drop (scheduleWidth + 1)).take 26

/-- The parts of a stem that is read as a key. -/
theorem toList_of_ofStem? {cs : List Char} {key : RecordKey} (h : ofStem? cs = some key) :
    ∃ id, MailId.ofChars? id = some key.id ∧ cs = key.schedule ++ '-' :: id := by
  unfold ofStem? at h
  obtain ⟨⟨schedule, id⟩, hcut, h⟩ := Option.bind_eq_some_iff.1 h
  dsimp only at h
  split at h
  · rename_i hchecked
    rw [Bool.and_eq_true, decide_eq_true_eq] at hchecked
    obtain ⟨hlength, hdigits⟩ := hchecked
    split at h
    · rename_i n hnumber
      obtain ⟨i, hid, heq⟩ := Option.bind_eq_some_iff.1 h
      cases heq
      obtain ⟨hn, ds, hds, rfl, hvalue⟩ := Text.readDigits_eq_ok hdigits (by decide) hnumber
      have hcount : ds.length = scheduleWidth := by rwa [List.length_map] at hlength
      have hwritten := Text.fixedDigits_valueOfDigits ds hds
      rw [hcount] at hwritten
      refine ⟨id, hid, ?_⟩
      rw [(Text.cutFirstChars_eq_some hcut).1, schedule, UInt64.toNat_ofNat_of_lt' hn, hvalue]
      exact congrArg (fun digits => digits.map Nat.digitChar ++ '-' :: id) hwritten.symm
    · cases h
  · cases h

/-- The parts of a name that is read as that of a record file. -/
theorem toList_of_ofFileName? {name : String} {key : RecordKey} {part : RecordPart}
    (h : ofFileName? name = some (key, part)) : ∃ id, MailId.ofChars? id = some key.id ∧
      name.toList = key.schedule ++ '-' :: id ++ '.' :: part.extension.toList := by
  unfold ofFileName? at h
  dsimp only at h
  have hends : ∀ ending : RecordPart, endsIn ending name.toList = true →
      (ofStem? (name.toList.take (name.toList.length - 4))).map (·, ending) = some (key, part) →
        ∃ id, MailId.ofChars? id = some key.id ∧
          name.toList = key.schedule ++ '-' :: id ++ '.' :: part.extension.toList := by
    intro ending hend hread
    obtain ⟨k, hstem, heq⟩ := Option.map_eq_some_iff.1 hread
    cases heq
    obtain ⟨front, hfront⟩ := List.isSuffixOf_iff_suffix.1 hend
    have hextension : ('.' :: part.extension.toList).length = 4 := by cases part <;> rfl
    rw [← hfront, List.length_append, hextension, Nat.add_sub_cancel, List.take_left] at hstem
    obtain ⟨id, hid, hstem⟩ := toList_of_ofStem? hstem
    exact ⟨id, hid, by rw [← hfront, hstem]⟩
  split at h
  · cases h
  · split at h
    · rename_i hend
      exact hends .object hend h
    · split at h
      · rename_i hend
        exact hends .content hend h
      · cases h

/-- A name that is read as that of a record file is the one that a store gives to the file exactly
if the id in it is canonical. -/
theorem eq_fileName_iff_canonical {name : String} {key : RecordKey} {part : RecordPart}
    (h : ofFileName? name = some (key, part)) :
    name = key.fileName part ↔ MailId.Canonical (idChars name) := by
  obtain ⟨id, hid, hname⟩ := toList_of_ofFileName? h
  have hlength : key.schedule.length = scheduleWidth := by simp [schedule]
  have hcount : id.length = 26 := by
    unfold MailId.ofChars? at hid
    split at hid
    · assumption
    · cases hid
  have hchars : idChars name = id := by
    have hfront : name.toList = (key.schedule ++ ['-']) ++
      (id ++ '.' :: part.extension.toList) := by
      simp [hname]
    rw [idChars, hfront, List.drop_left' (by simp [hlength]), List.take_left' hcount]
  rw [hchars, ← MailId.eq_chars_iff_canonical hid, ← String.toList_inj, toList_fileName,
    toList_stem, hname]
  simp

end RecordKey

end Postroom
