/-!
Cutting texts at characters: all pieces between separators, and the two halves at the first or the
last separator or at a pair of characters.
-/

namespace Postroom.Text

/-- The pieces between the characters that satisfy `sep`: one more piece than separators. -/
def splitChars (sep : Char → Bool) : List Char → List (List Char)
  | [] => [[]]
  | c :: cs =>
      if sep c then [] :: splitChars sep cs
      else match splitChars sep cs with
        | [] => [[c]]
        | piece :: rest => (c :: piece) :: rest

/-- Cut at the first `sep`: what stands before it and what stands after it. -/
def cutFirstChars (sep : Char) : List Char → Option (List Char × List Char)
  | [] => none
  | c :: cs =>
      if c = sep then some ([], cs)
      else (cutFirstChars sep cs).map fun (before, after) => (c :: before, after)

/-- Cut at the last `sep`: what stands before it and what stands after it. -/
def cutLastChars (sep : Char) : List Char → Option (List Char × List Char)
  | [] => none
  | c :: cs =>
      match cutLastChars sep cs with
      | some (before, after) => some (c :: before, after)
      | none => if c = sep then some ([], cs) else none

/-- Cut at the first place where `a` and `b` stand side by side. -/
def cutPair (a b : Char) : List Char → Option (List Char × List Char)
  | c :: d :: rest =>
      if c = a ∧ d = b then some ([], rest)
      else (cutPair a b (d :: rest)).map fun (before, after) => (c :: before, after)
  | _ => none

theorem splitChars_ne_nil (sep : Char → Bool) (cs : List Char) : splitChars sep cs ≠ [] := by
  induction cs with
  | nil => simp [splitChars]
  | cons c cs ih =>
      simp only [splitChars]
      split
      · simp
      · split <;> simp

theorem cutFirstChars_eq_some {sep : Char} {cs before after : List Char}
    (h : cutFirstChars sep cs = some (before, after)) :
    cs = before ++ sep :: after ∧ sep ∉ before := by
  induction cs generalizing before with
  | nil => simp [cutFirstChars] at h
  | cons c cs ih =>
      by_cases hc : c = sep
      · simp only [cutFirstChars, hc, if_pos, Option.some.injEq, Prod.mk.injEq] at h
        obtain ⟨rfl, rfl⟩ := h
        simp [hc]
      · simp only [cutFirstChars, hc, if_false, Option.map_eq_some_iff] at h
        obtain ⟨⟨front, back⟩, hcut, heq⟩ := h
        simp only [Prod.mk.injEq] at heq
        obtain ⟨rfl, rfl⟩ := heq
        obtain ⟨rfl, hnot⟩ := ih hcut
        exact ⟨by simp, by simp [hnot, Ne.symm hc]⟩

theorem cutFirstChars_append {sep : Char} {before : List Char} (h : sep ∉ before)
    (after : List Char) : cutFirstChars sep (before ++ sep :: after) = some (before, after) := by
  induction before with
  | nil => simp [cutFirstChars]
  | cons c cs ih =>
      simp only [List.mem_cons, not_or] at h
      simp [cutFirstChars, Ne.symm h.1, ih h.2]

theorem cutPair_length {a b : Char} {cs before after : List Char}
    (h : cutPair a b cs = some (before, after)) : after.length < cs.length := by
  fun_induction cutPair a b cs generalizing before with
  | case1 c d rest hc =>
      simp only [Option.some.injEq, Prod.mk.injEq] at h
      simp only [← h.2, List.length_cons]
      omega
  | case2 c d rest hc ih =>
      obtain ⟨⟨front, back⟩, hcut, heq⟩ := Option.map_eq_some_iff.1 h
      simp only [Prod.mk.injEq] at heq
      have := ih (hcut.trans (by rw [heq.2]))
      simp only [List.length_cons] at this ⊢
      omega
  | case3 => simp at h

end Postroom.Text
