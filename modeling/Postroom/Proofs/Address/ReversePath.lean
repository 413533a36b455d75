import Postroom.Proofs.Address.RoundTrip

/-!
Reverse paths and addresses. Reading a reverse path takes the blanks and one pair of brackets off
and has the rest read as an address, which takes them off once more. So it makes of a text what
reading an address makes of it, unless there is something left to take off for the second time. Such
a text is no address, but it is a reverse path if what is left in the end is one.
-/

namespace Postroom

namespace Address

/-- Whether characters have no blank at their ends and no pair of brackets around them. -/
structure Bare (cs : List Char) : Prop where
  first : ∀ c ∈ cs.head?, Text.isBlank c = false
  last : ∀ c ∈ cs.getLast?, Text.isBlank c = false
  unbracketed : ∀ inner, cs ≠ '<' :: (inner ++ ['>'])

variable {a : Address} {cs : List Char} {s : String}

theorem stripBrackets_eq_self (h : ∀ inner, cs ≠ '<' :: (inner ++ ['>'])) :
    stripBrackets cs = cs := by
  unfold stripBrackets
  split
  · rename_i rest
    split
    · rename_i hlast
      obtain ⟨inner, rfl⟩ := List.getLast?_eq_some_iff.1 hlast
      exact absurd rfl (h inner)
    · rfl
  · rfl

/-- From bare characters nothing is taken off. -/
theorem Bare.core_eq (h : Bare cs) : core (String.ofList cs) = cs := by
  rw [core, String.toList_ofList, Text.trimChars_eq_self h.first h.last,
    stripBrackets_eq_self h.unbracketed]

theorem bare_of_allowed (h : ∀ c ∈ cs, isForbidden c = false) : Bare cs := by
  have hblank : ∀ c ∈ cs, Text.isBlank c = false := by
    intro c hc
    have hc := h c hc
    simp only [isForbidden, Bool.or_eq_false_iff] at hc
    exact hc.1.1.1
  refine ⟨fun c hc => hblank c (List.mem_of_mem_head? hc),
    fun c hc => hblank c (List.mem_of_getLast? hc), ?_⟩
  rintro inner rfl
  cases h '<' (List.mem_cons_self ..)

/-- What an address was read from is bare. -/
theorem bare_of_parse (h : parse s = .ok a) : Bare (core s) := by
  obtain ⟨before, after, hcore, -, hmake⟩ := parse_eq_ok_iff.1 h
  have hallowed := (make_eq_ok_iff.1 hmake).1.allowed
  rw [String.toList_ofList, String.toList_ofList] at hallowed
  rw [hcore]
  exact bare_of_allowed hallowed

/-- Reading goes by what is left of a text. -/
theorem parse_congr {t : String} (h : core s = core t) : parse s = parse t := by
  unfold parse
  rw [h]

theorem parseReversePath_of_core (h : core s ≠ []) :
    parseReversePath s = (parse (String.ofList (core s))).map some := by
  unfold parseReversePath
  exact if_neg (by simpa using h)

theorem parseReversePath_eq_none_iff : parseReversePath s = .ok none ↔ core s = [] := by
  constructor
  · intro h
    by_contra hcore
    rw [parseReversePath_of_core hcore] at h
    cases hparse : parse (String.ofList (core s)) with
    | error e =>
        rw [hparse] at h
        cases h
    | ok a =>
        rw [hparse] at h
        cases h
  · intro h
    unfold parseReversePath
    exact if_pos (by simp [h])

theorem parseReversePath_eq_some_iff (h : core s ≠ []) :
    parseReversePath s = .ok (some a) ↔ parse (String.ofList (core s)) = .ok a := by
  rw [parseReversePath_of_core h]
  cases parse (String.ofList (core s)) <;> simp [Except.map]

/-- A reverse path is the null sender if nothing is left of it. If something bare is left, it reads
as an address does, faults included. If something is left that is not bare, the text is no address,
and the reverse path reads as what is left. So the two accept the same unless an address is left
that has blanks or brackets around it. -/
theorem reversePath_agrees_iff (s : String) :
    (parseReversePath s = .ok none ↔ core s = []) ∧
    (core s ≠ [] →
      (∀ a, parse s = .ok a → parseReversePath s = .ok (some a)) ∧
      (Bare (core s) → parseReversePath s = (parse s).map some) ∧
      (¬ Bare (core s) → (∀ a, parse s ≠ .ok a) ∧
        parseReversePath s = (parse (String.ofList (core s))).map some) ∧
      ((∀ a, parseReversePath s = .ok (some a) ↔ parse s = .ok a) ↔
        Bare (core s) ∨ ∀ a, parse (String.ofList (core s)) ≠ .ok a)) := by
  refine ⟨parseReversePath_eq_none_iff, fun hcore => ?_⟩
  have hsame : Bare (core s) → parse (String.ofList (core s)) = parse s := fun hbare =>
    parse_congr hbare.core_eq
  have hrefused : ¬ Bare (core s) → ∀ a, parse s ≠ .ok a := fun hbare a h =>
    hbare (bare_of_parse h)
  refine ⟨fun a h => ?_, fun hbare => ?_,
    fun hbare => ⟨hrefused hbare, parseReversePath_of_core hcore⟩, ?_⟩
  · rw [parseReversePath_eq_some_iff hcore, hsame (bare_of_parse h), h]
  · rw [parseReversePath_of_core hcore, hsame hbare]
  · simp only [parseReversePath_eq_some_iff hcore]
    by_cases hbare : Bare (core s)
    · simp [hbare, hsame hbare]
    · simp [hbare, hrefused hbare]

end Address

namespace Address.Sample

/-- An address between two pairs of brackets is a reverse path and no address. -/
theorem reversePath_of_nested :
    parseReversePath "<<a@b.c>>" = .ok (some ⟨"a", ⟨"b.c"⟩⟩) ∧ core "<<a@b.c>>" ≠ [] ∧
      parse "<<a@b.c>>" = .error (.invalidCharacter "<a@b.c>" '<') := by
  decide +kernel

/-- A bracketed address with blanks around it, and one with blanks between the brackets. -/
theorem reversePath_agrees_of_bracketed :
    Bare (core " <a@b.c> ") ∧ parseReversePath " <a@b.c> " = (parse " <a@b.c> ").map some ∧
      ¬ Bare (core "< a@b.c >") ∧ ∀ a, parse "< a@b.c >" ≠ .ok a := by
  have hbare : Bare (core " <a@b.c> ") :=
    bare_of_parse (a := ⟨"a", ⟨"b.c"⟩⟩) (by decide +kernel)
  have hblank : ¬ Bare (core "< a@b.c >") := by
    intro h
    have hfirst : core "< a@b.c >" = ' ' :: "a@b.c ".toList := by decide +kernel
    rw [hfirst] at h
    cases h.first ' ' rfl
  obtain ⟨-, hagrees, -⟩ := (reversePath_agrees_iff " <a@b.c> ").2 (by decide +kernel)
  obtain ⟨-, -, hrefused, -⟩ := (reversePath_agrees_iff "< a@b.c >").2 (by decide +kernel)
  exact ⟨hbare, hagrees hbare, hblank, (hrefused hblank).1⟩

end Address.Sample

end Postroom
