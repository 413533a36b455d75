import Mathlib.Data.List.Infix
import Postroom.Proofs.Record.NameOrder
import Postroom.Proofs.Record.WireRoundTrip

/-!
Texts and the bytes that spell them. A character of ASCII is spelled by one byte of its own, and
every other one by bytes beyond ASCII. So bytes of ASCII stand for characters of the text, next to
each other where these are, and a text of ASCII reads the same in Latin-1.
-/

namespace Postroom.Text

/-- How a character is spelled: by its number, or by bytes beyond ASCII of which the first one is
beyond the bytes that go on with a character. -/
theorem utf8EncodeChar_cases (c : Char) :
    (c.toNat < 128 ∧ String.utf8EncodeChar c = [UInt8.ofNat c.toNat]) ∨
    (128 ≤ c.toNat ∧ ∃ lead tails, String.utf8EncodeChar c = lead :: tails ∧ 192 ≤ lead.toNat ∧
      ∀ b ∈ tails, 128 ≤ b.toNat) := by
  have htail : ∀ n : Nat, 128 ≤ (UInt8.ofNat (n % 64 + 128)).toNat := by
    intro n
    rw [UInt8.toNat_ofNat']
    omega
  have hcode : c.toNat = c.val.toNat := rfl
  rw [hcode]
  unfold String.utf8EncodeChar
  dsimp only
  split
  · exact .inl ⟨by omega, rfl⟩
  refine .inr ⟨by omega, ?_⟩
  split
  · refine ⟨_, _, rfl, ?_, by simpa using htail _⟩
    rw [UInt8.toNat_ofNat']
    omega
  split
  · refine ⟨_, _, rfl, ?_, by simpa using ⟨htail _, htail _⟩⟩
    rw [UInt8.toNat_ofNat']
    omega
  · refine ⟨_, _, rfl, ?_, by simpa using ⟨htail _, htail _, htail _⟩⟩
    rw [UInt8.toNat_ofNat']
    omega

theorem toBytes_append (s t : String) : toBytes (s ++ t) = toBytes s ++ toBytes t := by
  simp [toBytes, String.toByteArray_append]

theorem toBytes_eq_flatMap (s : String) : toBytes s = s.toList.flatMap String.utf8EncodeChar := by
  rw [← toBytes_ofList, String.ofList_toList]

/-- A byte of ASCII stands for a character of the text. -/
theorem mem_of_mem_toBytes {s : String} {b : UInt8} (hb : b ∈ toBytes s) (hascii : b.toNat < 128) :
    Char.ofNat b.toNat ∈ s.toList := by
  rw [toBytes_eq_flatMap] at hb
  obtain ⟨c, hc, hmem⟩ := List.mem_flatMap.1 hb
  rcases utf8EncodeChar_cases c with ⟨hsmall, hspelled⟩ | ⟨-, lead, tails, hspelled, hlead, htails⟩
  · rw [hspelled, List.mem_singleton] at hmem
    have hsame : b.toNat = c.toNat := by
      rw [hmem, UInt8.toNat_ofNat']
      omega
    rwa [hsame, Char.ofNat_toNat]
  · rw [hspelled] at hmem
    rcases List.mem_cons.1 hmem with rfl | hmem
    · omega
    · have := htails b hmem
      omega

/-- What begins with a character of ASCII begins with its number, and nothing else does. -/
theorem head?_flatMap_utf8EncodeChar {cs : List Char} {b : UInt8} (hb : b.toNat < 192)
    (h : (cs.flatMap String.utf8EncodeChar).head? = some b) :
    cs.head? = some (Char.ofNat b.toNat) := by
  cases cs with
  | nil => cases h
  | cons c cs =>
      rw [List.flatMap_cons] at h
      rcases utf8EncodeChar_cases c with ⟨hsmall, hspelled⟩ | ⟨-, lead, tails, hspelled, hlead, -⟩
      · rw [hspelled] at h
        cases h
        rw [UInt8.toNat_ofNat', Nat.mod_eq_of_lt (by omega), Char.ofNat_toNat]
        rfl
      · rw [hspelled] at h
        cases h
        omega

theorem infix_of_append {α : Type} {a b : α} {front rest : List α} (ha : a ∉ front)
    (h : [a, b] <:+: front ++ rest) : [a, b] <:+: rest := by
  induction front with
  | nil => exact h
  | cons c front ih =>
      rw [List.mem_cons, not_or] at ha
      rw [List.cons_append, List.infix_cons_iff] at h
      rcases h with hfirst | hlater
      · exact absurd (List.cons_prefix_cons.1 hfirst).1 ha.1
      · exact ih ha.2 hlater

/-- Two bytes of ASCII that stand side by side stand for characters that do. -/
theorem infix_of_infix_toBytes {s : String} {a b : UInt8} (ha : a.toNat < 128) (hb : b.toNat < 128)
    (h : [a, b] <:+: toBytes s) : [Char.ofNat a.toNat, Char.ofNat b.toNat] <:+: s.toList := by
  rw [toBytes_eq_flatMap] at h
  generalize s.toList = cs at h
  induction cs with
  | nil => simp at h
  | cons c cs ih =>
      rw [List.flatMap_cons] at h
      rcases utf8EncodeChar_cases c with ⟨hsmall, hspelled⟩ |
        ⟨-, lead, tails, hspelled, hlead, htails⟩
      · rw [hspelled, List.singleton_append, List.infix_cons_iff] at h
        rcases h with hfirst | hlater
        · obtain ⟨rfl, hnext⟩ := List.cons_prefix_cons.1 hfirst
          obtain ⟨more, hmore⟩ := hnext
          have hhead : (cs.flatMap String.utf8EncodeChar).head? = some b := by rw [← hmore]; rfl
          obtain ⟨more, rfl⟩ := List.head?_eq_some_iff.1
            (head?_flatMap_utf8EncodeChar (by omega) hhead)
          rw [UInt8.toNat_ofNat', Nat.mod_eq_of_lt (by omega), Char.ofNat_toNat]
          exact ⟨[], more, rfl⟩
        · exact List.infix_cons (ih hlater)
      · refine List.infix_cons (ih (infix_of_append ?_ h))
        rw [hspelled]
        intro hmem
        rcases List.mem_cons.1 hmem with rfl | hmem
        · omega
        · have := htails a hmem
          omega

theorem length_le_length_toBytes (s : String) : s.toList.length ≤ (toBytes s).length := by
  rw [toBytes_eq_flatMap]
  generalize s.toList = cs
  induction cs with
  | nil => exact Nat.le_refl 0
  | cons c cs ih =>
      have hpos : 1 ≤ (String.utf8EncodeChar c).length := by
        rcases utf8EncodeChar_cases c with ⟨-, hspelled⟩ | ⟨-, lead, tails, hspelled, -⟩ <;>
          simp [hspelled]
      rw [List.flatMap_cons, List.length_append, List.length_cons]
      omega

theorem toNat_latin1 (b : UInt8) : (Char.ofNat b.toNat).toNat = b.toNat := by
  have hvalid : b.toNat.isValidChar := .inl (by have := b.toNat_lt; omega)
  rw [Char.ofNat, dif_pos hvalid]
  rfl

theorem latin1_inj {a b : UInt8} : Char.ofNat a.toNat = Char.ofNat b.toNat ↔ a = b := by
  refine ⟨fun h => UInt8.toNat_inj.1 ?_, fun h => h ▸ rfl⟩
  rw [← toNat_latin1 a, h, toNat_latin1]

/-- A text of ASCII reads the same in Latin-1. -/
theorem ofLatin1_toBytes {s : String} (h : ∀ c ∈ s.toList, c.toNat < 128) :
    ofLatin1 (toBytes s) = s := by
  have hmap : ∀ cs : List Char, (∀ c ∈ cs, c.toNat < 128) →
      (cs.flatMap String.utf8EncodeChar).map (fun b => Char.ofNat b.toNat) = cs := by
    intro cs hcs
    induction cs with
    | nil => rfl
    | cons c cs ih =>
        have hc := hcs c (List.mem_cons_self ..)
        rcases utf8EncodeChar_cases c with ⟨-, hspelled⟩ | ⟨hbig, -⟩
        · rw [List.flatMap_cons, hspelled, List.singleton_append, List.map_cons,
            ih fun d hd => hcs d (List.mem_cons_of_mem _ hd), UInt8.toNat_ofNat',
            Nat.mod_eq_of_lt (by omega), Char.ofNat_toNat]
        · omega
  rw [ofLatin1, toBytes_eq_flatMap, hmap s.toList h, String.ofList_toList]

theorem isValidUTF8_of_append (s : String) {rest : ByteArray}
    (h : (s.toByteArray ++ rest).IsValidUTF8) : rest.IsValidUTF8 := by
  rw [← String.ofList_toList (s := s), String.toByteArray_ofList] at h
  generalize s.toList = cs at h
  induction cs with
  | nil => simpa using h
  | cons c cs ih =>
      rw [List.utf8Encode_cons, ByteArray.append_assoc,
        ByteArray.isValidUTF8_utf8Encode_singleton_append_iff] at h
      exact ih h

/-- A text whose bytes begin with those of another one begins with that text. -/
theorem exists_append_of_toBytes {s t : String} {rest : List UInt8}
    (h : toBytes s = toBytes t ++ rest) : ∃ u, s = t ++ u := by
  have harray : s.toByteArray = t.toByteArray ++ rest.toByteArray := by
    apply ByteArray.ext
    rw [← Array.toList_inj, ByteArray.data_append, Array.toList_append, List.data_toByteArray]
    simpa [toBytes] using h
  have hvalid : rest.toByteArray.IsValidUTF8 := by
    refine isValidUTF8_of_append t ?_
    rw [← harray]
    exact s.isValidUTF8
  refine ⟨⟨rest.toByteArray, hvalid⟩, ?_⟩
  rw [← String.toByteArray_inj, String.toByteArray_append]
  exact harray

theorem toBytes_of_ofBytes? {bytes : List UInt8} {s : String} (h : ofBytes? bytes = some s) :
    toBytes s = bytes := by
  unfold ofBytes? String.fromUTF8? at h
  split at h
  · cases h
    simp [toBytes, String.fromUTF8]
  · cases h

end Postroom.Text
