import Postroom.Text.Blank

/-!
The words of a text. They are what stands between its blanks: no word is empty or has a blank in it,
and there is at least one blank between any two of them. This leaves one way to take a text apart.
-/

namespace Postroom.Text

/-- Words in their order, in a text where blanks stand between them and may stand around them. -/
inductive Spaced : List String → List Char → Prop where
  | nil {gap : List Char} : (∀ c ∈ gap, isBlank c = true) → Spaced [] gap
  | cons {gap rest : List Char} {word : String} {ws : List String} :
      (∀ c ∈ gap, isBlank c = true) → word ≠ "" → (∀ c ∈ word.toList, isBlank c = false) →
      (∀ c ∈ rest.head?, isBlank c = true) → Spaced ws rest →
      Spaced (word :: ws) (gap ++ (word.toList ++ rest))

variable {sep : Char → Bool}

/-- The pieces between separators that are not empty. -/
def pieces (sep : Char → Bool) (cs : List Char) : List (List Char) :=
  (splitChars sep cs).filter (!·.isEmpty)

/-- Characters that are no separators are put in front of the first piece of what follows them. -/
theorem splitChars_append {word : List Char} (h : ∀ c ∈ word, sep c = false)
    {rest piece : List Char}
    {more : List (List Char)} (hrest : splitChars sep rest = piece :: more) :
    splitChars sep (word ++ rest) = (word ++ piece) :: more := by
  induction word with
  | nil => exact hrest
  | cons c word ih =>
      have hc := h c (List.mem_cons_self ..)
      have hothers := ih fun d hd => h d (List.mem_cons_of_mem _ hd)
      simp [splitChars, hc, hothers]

theorem Spaced.blank {c : Char} (hc : isBlank c = true) {ws : List String} {cs : List Char}
    (h : Spaced ws cs) : Spaced ws (c :: cs) := by
  have hlonger : ∀ {gap : List Char}, (∀ d ∈ gap, isBlank d = true) →
      ∀ d ∈ c :: gap, isBlank d = true := by
    intro gap hgap d hd
    rcases List.mem_cons.1 hd with rfl | hd
    · exact hc
    · exact hgap d hd
  cases h with
  | nil hgap => exact .nil (hlonger hgap)
  | cons hgap hword hletters hnext hrest => exact .cons (hlonger hgap) hword hletters hnext hrest

end Postroom.Text
