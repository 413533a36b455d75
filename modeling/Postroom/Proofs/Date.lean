import Postroom.Mailet.Bounce
import Postroom.Proofs.Text.Lines

/-!
Which instants have a date in a mail header: those from the epoch on and before the year 10000,
which begins 253402300800 seconds after the epoch. An id has one if the milliseconds that it holds
lie before that year. All instants that are made now from the same clock have a date if now has one.
A date has no line end in it.
-/

namespace Postroom

namespace Day

/-- Of 400 years that begin in March, how many have begun in January by a day. -/
def yearsBegun (dayOfEra : Nat) : Int :=
  let yearOfEra := (dayOfEra - dayOfEra / 1460 + dayOfEra / 36524 - dayOfEra / 146096) / 365
  let dayOfYear := dayOfEra - (365 * yearOfEra + yearOfEra / 4 - yearOfEra / 100)
  let marchMonth := (5 * dayOfYear + 2) / 153
  yearOfEra + if (if marchMonth < 10 then marchMonth + 3 else marchMonth - 9) ≤ 2 then 1 else 0

theorem ofEpochDay_year (n : Int) : (ofEpochDay n).year =
    (n + 719468).fdiv 146097 * 400 + yearsBegun ((n + 719468).fmod 146097).toNat := by
  unfold ofEpochDay yearsBegun
  dsimp only
  rw [← Int.add_assoc]

theorem yearsBegun_nonneg (day : Nat) : 0 ≤ yearsBegun day := by
  unfold yearsBegun
  dsimp only
  split <;> omega

/-- The last year begins with the 60 days of January and February. -/
theorem yearsBegun_of_lt {day : Nat} (h : day < 146037) : yearsBegun day ≤ 399 := by
  unfold yearsBegun
  dsimp only
  generalize hyear : (day - day / 1460 + day / 36524 - day / 146096) / 365 = year
  have hlast : year ≤ 398 ∨ year = 399 ∧ day - (365 * 399 + 399 / 4 - 399 / 100) < 306 := by omega
  rcases hlast with hearlier | ⟨rfl, hmarch⟩
  · split <;> split <;> omega
  · rw [if_neg (by split <;> omega)]
    decide

theorem yearsBegun_of_le {day : Nat} (h : 146037 ≤ day) (hday : day < 146097) :
    yearsBegun day = 400 := by
  unfold yearsBegun
  dsimp only
  have hyear : (day - day / 1460 + day / 36524 - day / 146096) / 365 = 399 := by omega
  rw [hyear, if_pos (by split <;> omega)]
  rfl

/-- The year 10000 begins this many days after the epoch. -/
theorem year_le_iff (n : Int) : (ofEpochDay n).year ≤ 9999 ↔ n < 2932897 := by
  have hparts := Int.mul_fdiv_add_fmod (n + 719468) 146097
  have hnonneg := Int.fmod_nonneg_of_pos (n + 719468) (show (0 : Int) < 146097 by decide)
  have hbound := Int.fmod_lt_of_pos (n + 719468) (show (0 : Int) < 146097 by decide)
  rw [ofEpochDay_year]
  generalize (n + 719468).fdiv 146097 = era at *
  obtain ⟨day, hday⟩ := Int.eq_ofNat_of_zero_le hnonneg
  rw [hday] at hparts hbound ⊢
  rw [Int.toNat_natCast]
  have hsome := yearsBegun_nonneg day
  by_cases h : day < 146037
  · have hyears := yearsBegun_of_lt h
    omega
  · have hyears := yearsBegun_of_le (Nat.le_of_not_lt h) (by omega)
    omega

end Day

/-- Nanoseconds from the epoch to the year 10000. -/
def nanosToYear10000 : Int := 253402300800 * 1000000000

/-- An instant has a date in a header if it lies in the years from 1970 to 9999. -/
theorem Instant.isSome_mailDate?_iff (t : Instant) :
    t.mailDate?.isSome = true ↔ 0 ≤ t.nanos ∧ t.nanos < nanosToYear10000 := by
  have hday := Day.year_le_iff (t.seconds.fdiv 86400)
  have hseconds : t.seconds.fdiv 86400 < 2932897 ↔ t.nanos < nanosToYear10000 := by
    unfold seconds nanosPerSecond nanosToYear10000
    rw [Int.fdiv_eq_ediv_of_nonneg _ (by decide), Int.fdiv_eq_ediv_of_nonneg _ (by decide)]
    omega
  rw [← hseconds, ← hday]
  unfold mailDate?
  dsimp only
  split <;> simp_all

/-- An id has an arrival date if its time is before the year 10000. -/
theorem Bounce.isSome_arrivalDate?_iff (id : MailId) :
    (Bounce.arrivalDate? id).isSome = true ↔ id.timestampMillis < 253402300800000 := by
  have hbound : id.timestampMillis < 2 ^ 48 := BitVec.isLt _
  have hinstant : ∃ t : Instant, Instant.ofNanos? (id.timestampMillis * nanosPerMilli) = some t ∧
      t.nanos = id.timestampMillis * 1000000 := by
    unfold Instant.ofNanos? nanosPerMilli
    rw [dif_pos (by omega)]
    exact ⟨_, rfl, rfl⟩
  obtain ⟨t, ht, hnanos⟩ := hinstant
  have hdate : Bounce.arrivalDate? id = t.mailDate? := by
    unfold Bounce.arrivalDate?
    rw [ht]
    rfl
  rw [hdate, Instant.isSome_mailDate?_iff, hnanos]
  unfold nanosToYear10000
  omega

theorem MailId.timestampMillis_make (now : Instant) (random : Nat) :
    (MailId.make now random).timestampMillis = now.nanos.toNat / nanosPerMilli % Nat.pow 2 48 := by
  unfold make timestampMillis
  rw [BitVec.extractLsb'_append_eq_left]
  simp

/-- An id that is made now has an arrival date if now has one. -/
theorem Bounce.isSome_arrivalDate?_make {now : Instant} (h : now.mailDate?.isSome = true)
    (random : Nat) : (Bounce.arrivalDate? (.make now random)).isSome = true := by
  rw [Instant.isSome_mailDate?_iff] at h
  rw [Bounce.isSome_arrivalDate?_iff, MailId.timestampMillis_make, Nat.pow_eq]
  unfold nanosToYear10000 at h
  unfold nanosPerMilli
  omega

namespace Text

theorem unbroken_paddedDecimal (width n : Nat) : Unbroken (paddedDecimal width n).toList := by
  refine unbroken_of_isDigit fun c hc => ?_
  rw [paddedDecimal, String.toList_ofList] at hc
  obtain ⟨d, hd, rfl⟩ := List.mem_map.1 hc
  simpa using mem_fixedDigits_lt (by decide) hd

theorem unbroken_toString (n : Nat) : Unbroken (toString n).toList := by
  refine unbroken_of_isDigit fun c hc => ?_
  rw [Nat.toString_eq_repr, Nat.toList_repr] at hc
  exact Nat.isDigit_of_mem_toDigits (by decide) (by decide) hc

theorem unbroken_getD {names : Array String} (h : ∀ name ∈ names, Unbroken name.toList) (i : Nat) :
    Unbroken (names.getD i "").toList := by
  rw [Array.getD_eq_getD_getElem?]
  cases hname : names[i]? with
  | none => exact ⟨List.not_mem_nil, List.not_mem_nil⟩
  | some name => exact h name (Array.mem_of_getElem? hname)

end Text

open Text in
theorem Instant.unbroken_mailDate? {t : Instant} {text : String} (h : t.mailDate? = some text) :
    Unbroken text.toList := by
  unfold mailDate? at h
  dsimp only at h
  split at h
  · cases h
    have hweekday := unbroken_getD (show ∀ name ∈ weekdayNames,
      Unbroken name.toList by decide +kernel)
    have hmonth := unbroken_getD (show ∀ name ∈ monthNames, Unbroken name.toList by decide +kernel)
    have hblank : Unbroken " ".toList := by decide +kernel
    have hcomma : Unbroken ", ".toList := by decide +kernel
    have hcolon : Unbroken ":".toList := by decide +kernel
    have hzone : Unbroken " +0000".toList := by decide +kernel
    simp only [List.map_cons, List.map_nil, String.intercalate_cons_cons,
      String.intercalate_singleton,
      String.toList_append, unbroken_append, hweekday, hmonth, hblank, hcomma, hcolon, hzone,
      unbroken_toString, unbroken_paddedDecimal, and_self]
  · cases h

theorem Bounce.unbroken_arrivalDate? {id : MailId} {text : String}
    (h : Bounce.arrivalDate? id = some text) : Text.Unbroken text.toList := by
  unfold arrivalDate? at h
  obtain ⟨t, -, hdate⟩ := Option.bind_eq_some_iff.1 h
  exact Instant.unbroken_mailDate? hdate

end Postroom
