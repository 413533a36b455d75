/-!
Lower case. Only the capitals of ASCII change, each to a letter of the same size. So a text in lower
case has as many bytes as the text that it comes from, and lower case stays as it is.
-/

namespace Postroom.Text

def capitals : List Char :=
  "ABCDEFGHIJKLMNOPQRSTUVWXYZ".toList

/-- What is so of the capitals is decided by the list of them, not over all characters. -/
theorem forall_capitals {holds : Char → Prop} [DecidablePred holds]
    (h : (capitals.all fun c => holds c) = true) : ∀ c ∈ capitals, holds c := by
  simpa using h

theorem toLower_cases (c : Char) : c.toLower = c ∨ c ∈ capitals := by
  by_cases h : 65 ≤ c.toNat ∧ c.toNat ≤ 90
  · have hletters : ∀ n ∈ List.range' 65 26, Char.ofNat n ∈ capitals := by decide
    have hletter := hletters c.toNat (by rw [List.mem_range'_1]; omega)
    rw [Char.ofNat_toNat] at hletter
    exact .inr hletter
  · left
    unfold Char.toLower
    rw [dif_neg]
    simpa [UInt32.le_iff_toNat_le] using h

/-- What is so of the characters that do not change and of the capitals is so of all. -/
theorem toLower_induction (holds : Char → Char → Prop) (hsame : ∀ c, holds c c)
    (hcapital : ∀ c ∈ capitals, holds c c.toLower) (c : Char) : holds c c.toLower := by
  rcases toLower_cases c with h | h
  · rw [h]
    exact hsame c
  · exact hcapital c h

theorem toLower_toLower (c : Char) : c.toLower.toLower = c.toLower := by
  rcases toLower_cases c with h | h
  · rw [h, h]
  · exact (forall_capitals (by decide) : ∀ c ∈ capitals, c.toLower.toLower = c.toLower) c h

theorem utf8Size_toLower (c : Char) : c.toLower.utf8Size = c.utf8Size :=
  toLower_induction (fun c d => d.utf8Size = c.utf8Size) (fun _ => rfl)
    (forall_capitals (by decide)) c

theorem toList_toLower (s : String) : s.toLower.toList = s.toList.map Char.toLower :=
  String.toList_map

theorem lower_lower (s : String) : s.toLower.toLower = s.toLower := by
  rw [← String.toList_inj, toList_toLower, toList_toLower, List.map_map]
  exact List.map_congr_left fun c _ => toLower_toLower c

theorem utf8ByteSize_lower (s : String) : s.toLower.utf8ByteSize = s.utf8ByteSize := by
  have hchars : ∀ cs : List Char,
      (String.ofList (cs.map Char.toLower)).utf8ByteSize = (String.ofList cs).utf8ByteSize := by
    intro cs
    induction cs with
    | nil => rfl
    | cons c cs ih =>
        rw [List.map_cons, String.ofList_cons, String.ofList_cons, String.utf8ByteSize_append,
          String.utf8ByteSize_append, String.utf8ByteSize_singleton, String.utf8ByteSize_singleton,
          ih, utf8Size_toLower]
  have hsame := hchars s.toList
  rwa [← toList_toLower, String.ofList_toList, String.ofList_toList] at hsame

end Postroom.Text
