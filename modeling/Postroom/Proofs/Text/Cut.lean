import Postroom.Proofs.Text.Words

/-!
Where texts are cut. The last mark is the one with none behind it, trimming takes nothing off a text
without blanks at its ends, and a separator divides the pieces before it from those behind it.
-/

namespace Postroom.Text

theorem cutLastChars_append {sep : Char} (before : List Char) {after : List Char}
    (h : sep ∉ after) : cutLastChars sep (before ++ sep :: after) = some (before, after) := by
  have hnone : ∀ {cs : List Char}, sep ∉ cs → cutLastChars sep cs = none := by
    intro cs hcs
    induction cs with
    | nil => rfl
    | cons c cs ih =>
        rw [List.mem_cons, not_or] at hcs
        rw [cutLastChars, ih hcs.2]
        exact if_neg (Ne.symm hcs.1)
  induction before with
  | nil => rw [List.nil_append, cutLastChars, hnone h]; exact if_pos rfl
  | cons c before ih => rw [List.cons_append, cutLastChars, ih]

theorem cutLastChars_eq_some {sep : Char} {cs before after : List Char}
    (h : cutLastChars sep cs = some (before, after)) :
    cs = before ++ sep :: after ∧ sep ∉ after := by
  have hnone : ∀ {cs : List Char}, cutLastChars sep cs = none → sep ∉ cs := by
    intro cs hcs
    induction cs with
    | nil => simp
    | cons c cs ih =>
        rw [cutLastChars] at hcs
        split at hcs
        · cases hcs
        · rename_i hrest
          split at hcs
          · cases hcs
          · rename_i hc
            simp [ih hrest, Ne.symm hc]
  induction cs generalizing before with
  | nil => cases h
  | cons c cs ih =>
      rw [cutLastChars] at h
      split at h
      · rename_i front back hrest
        cases h
        obtain ⟨rfl, hout⟩ := ih hrest
        exact ⟨rfl, hout⟩
      · rename_i hrest
        split at h
        · rename_i hc
          cases h
          exact ⟨by rw [hc]; rfl, hnone hrest⟩
        · cases h

theorem trimStartChars_of_head? {cs : List Char} (h : ∀ c ∈ cs.head?, isBlank c = false) :
    trimStartChars cs = cs := by
  cases cs with
  | nil => rfl
  | cons c cs => exact List.dropWhile_cons_of_neg (by simp [h c rfl])

/-- A text that neither begins nor ends with a blank has none to trim. -/
theorem trimChars_eq_self {cs : List Char} (hfirst : ∀ c ∈ cs.head?, isBlank c = false)
    (hlast : ∀ c ∈ cs.getLast?, isBlank c = false) : trimChars cs = cs := by
  have hstart := trimStartChars_of_head? hfirst
  have hend : cs.reverse.dropWhile isBlank = cs.reverse :=
    trimStartChars_of_head? (by rwa [List.head?_reverse])
  rw [trimChars, hstart, trimEndChars, hend, List.reverse_reverse]

theorem isBlank_of_head?_trimStartChars {cs : List Char} {c : Char}
    (h : (trimStartChars cs).head? = some c) : isBlank c = false := by
  have hdropped := List.head?_dropWhile_not isBlank cs
  rw [trimStartChars] at h
  rw [h] at hdropped
  exact hdropped

/-- A line followed by a blank is no shorter text, unless that text begins as the line with a
blank. -/
theorem ne_trimStartChars_append {value line : List Char} (hlong : value.length ≤ line.length)
    (hstart : ∀ c ∈ line.head?, isBlank c = true → value.head? = some c)
    (hspace : value.head? ≠ some ' ') (more : List Char) :
    value ≠ trimStartChars line ++ ' ' :: more := by
  intro hsame
  by_cases hblank : ∀ c ∈ line.head?, isBlank c = false
  · have hlength := congrArg List.length hsame
    rw [trimStartChars_of_head? hblank, List.length_append, List.length_cons] at hlength
    omega
  · simp only [Classical.not_forall, Bool.not_eq_false] at hblank
    obtain ⟨c, hc, hblank⟩ := hblank
    have hvalue := hstart c hc hblank
    cases htrimmed : trimStartChars line with
    | nil =>
        rw [hsame, htrimmed] at hspace
        exact hspace rfl
    | cons d rest =>
        rw [hsame, htrimmed, List.cons_append, List.head?_cons, Option.some.injEq] at hvalue
        rw [← hvalue, isBlank_of_head?_trimStartChars (by rw [htrimmed]; rfl)] at hblank
        cases hblank

/-- The pieces before a separator, and those behind it. -/
theorem splitChars_append_sep {sep : Char → Bool} {c : Char} (hc : sep c = true)
    (before after : List Char) :
    splitChars sep (before ++ c :: after) = splitChars sep before ++ splitChars sep after := by
  induction before with
  | nil => simp [splitChars, hc]
  | cons d before ih =>
      rw [List.cons_append, splitChars, splitChars, ih]
      split
      · rfl
      · cases hpieces : splitChars sep before with
        | nil => exact absurd hpieces (splitChars_ne_nil sep before)
        | cons piece rest => rfl

/-- A text without separators is one piece. -/
theorem splitChars_of_no_sep {sep : Char → Bool} {cs : List Char} (h : ∀ c ∈ cs, sep c = false) :
    splitChars sep cs = [cs] := by
  have hall := splitChars_append h (show splitChars sep [] = [] :: [] from rfl)
  rwa [List.append_nil] at hall

end Postroom.Text
