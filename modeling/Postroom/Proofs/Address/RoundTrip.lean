import Postroom.Proofs.Chain.Accounts
import Postroom.Proofs.Text.Case
import Postroom.Proofs.Text.Cut

/-!
Addresses and their texts. An address that was read is read again from its text, with or without
brackets. One that was built from two parts is, too, unless there is an at sign in the domain:
building does not look for one, and reading cuts at the last. Either way the domain is in lower
case, so that two spellings of one mailbox are the same address.
-/

namespace Postroom

namespace Address

/-- Whether two parts pass the checks of an address. -/
structure Sound (localPart domain : String) : Prop where
  localSome : localPart ≠ ""
  domainSome : domain ≠ ""
  localSize : localPart.utf8ByteSize ≤ maxLocalPart
  domainSize : domain.utf8ByteSize ≤ maxDomain
  allowed : ∀ c ∈ localPart.toList ++ '@' :: domain.toList, isForbidden c = false

/-- Whether an address was built from two parts, or read. -/
def Checked (a : Address) : Prop :=
  (∃ localPart domain, make localPart domain = .ok a) ∨ ∃ s, parse s = .ok a

variable {a b : Address} {localPart domain s : String}

theorem toList_text (a : Address) :
    a.text.toList = a.localPart.toList ++ '@' :: a.domain.text.toList := by
  simp [text]

theorem make_eq_ok_iff :
    make localPart domain = .ok a ↔ Sound localPart domain ∧ a = ⟨localPart, ⟨domain.toLower⟩⟩ := by
  have hfull : (localPart ++ "@" ++ domain).toList = localPart.toList ++ '@' :: domain.toList := by
    simp
  unfold make
  dsimp only
  rw [hfull]
  constructor
  · intro h
    split at h
    · cases h
    rename_i hlocal
    split at h
    · cases h
    rename_i hdomain
    split at h
    · cases h
    rename_i hlocalSize
    split at h
    · cases h
    rename_i hdomainSize
    split at h
    · cases h
    rename_i hnone
    cases h
    refine ⟨⟨by simpa using hlocal, by simpa using hdomain, Nat.le_of_not_lt hlocalSize,
      Nat.le_of_not_lt hdomainSize, ?_⟩, rfl⟩
    intro c hc
    simpa using List.find?_eq_none.1 hnone c hc
  · rintro ⟨h, rfl⟩
    have hnone : (localPart.toList ++ '@' :: domain.toList).find? isForbidden = none := by
      rw [List.find?_eq_none]
      intro c hc
      simp [h.allowed c hc]
    rw [if_neg (by simpa using h.localSome), if_neg (by simpa using h.domainSome),
      if_neg (Nat.not_lt.2 h.localSize), if_neg (Nat.not_lt.2 h.domainSize), hnone]

theorem isForbidden_toLower (c : Char) (h : isForbidden c = false) :
    isForbidden c.toLower = false :=
  Text.toLower_induction (fun c d => isForbidden c = false → isForbidden d = false)
    (fun _ hc => hc) (Text.forall_capitals (by decide)) c h

theorem at_mem_toLower_iff (s : String) : '@' ∈ s.toLower.toList ↔ '@' ∈ s.toList := by
  have hletter : ∀ c : Char, c.toLower = '@' ↔ c = '@' := by
    intro c
    rcases Text.toLower_cases c with h | h
    · rw [h]
    · exact (Text.forall_capitals (by decide) : ∀ c ∈ Text.capitals, c.toLower = '@' ↔ c = '@') c h
  simp [Text.toList_toLower, hletter]

/-- Parts that pass the checks pass them with the domain in lower case. -/
theorem Sound.lower (h : Sound localPart domain) : Sound localPart domain.toLower where
  localSome := h.localSome
  domainSome := by
    intro hempty
    have hsize := Text.utf8ByteSize_lower domain
    rw [hempty, String.utf8ByteSize_empty, eq_comm, String.utf8ByteSize_eq_zero_iff] at hsize
    exact h.domainSome hsize
  localSize := h.localSize
  domainSize := (Text.utf8ByteSize_lower domain).symm ▸ h.domainSize
  allowed c hc := by
    rw [Text.toList_toLower] at hc
    rcases List.mem_append.1 hc with hc | hc
    · exact h.allowed c (List.mem_append_left _ hc)
    · rcases List.mem_cons.1 hc with rfl | hc
      · rfl
      · obtain ⟨d, hd, rfl⟩ := List.mem_map.1 hc
        exact isForbidden_toLower d (h.allowed d (by simp [hd]))

theorem parse_eq_ok_iff : parse s = .ok a ↔ ∃ before after, core s = before ++ '@' :: after ∧
    '@' ∉ after ∧ make (String.ofList before) (String.ofList after) = .ok a := by
  unfold parse
  dsimp only
  constructor
  · intro h
    split at h
    · cases h
    · split at h
      · cases h
      · rename_i before after hcut
        obtain ⟨hcore, hout⟩ := Text.cutLastChars_eq_some hcut
        exact ⟨before, after, hcore, hout, h⟩
  · rintro ⟨before, after, hcore, hout, hmake⟩
    rw [hcore, if_neg (by simp), Text.cutLastChars_append before hout]
    exact hmake

/-- An address that was read was built from two parts without an at sign in the second. -/
theorem exists_make_of_parse (h : parse s = .ok a) :
    ∃ localPart domain, '@' ∉ domain.toList ∧ make localPart domain = .ok a := by
  obtain ⟨before, after, -, hout, hmake⟩ := parse_eq_ok_iff.1 h
  exact ⟨_, String.ofList after, by rwa [String.toList_ofList], hmake⟩

theorem Checked.exists_make (h : a.Checked) :
    ∃ localPart domain, make localPart domain = .ok a := by
  rcases h with h | ⟨s, h⟩
  · exact h
  · obtain ⟨localPart, domain, -, hmake⟩ := exists_make_of_parse h
    exact ⟨localPart, domain, hmake⟩

/-- The domain of a checked address is in lower case. -/
theorem Checked.lower (h : a.Checked) : a.domain.text.toLower = a.domain.text := by
  obtain ⟨localPart, domain, hmake⟩ := h.exists_make
  rw [(make_eq_ok_iff.1 hmake).2]
  exact Text.lower_lower domain

/-- Reading looks at the whole text of such characters, and at all that stands between brackets. -/
theorem core_of_allowed (h : ∀ c ∈ s.toList, isForbidden c = false) :
    core s = s.toList ∧ core ("<" ++ s ++ ">") = s.toList := by
  have hblank : ∀ c ∈ s.toList, Text.isBlank c = false := by
    intro c hc
    have hc := h c hc
    simp only [isForbidden, Bool.or_eq_false_iff] at hc
    exact hc.1.1.1
  constructor
  · rw [core, Text.trimChars_eq_self (fun c hc => hblank c (List.mem_of_mem_head? hc))
      fun c hc => hblank c (List.mem_of_getLast? hc)]
    cases hs : s.toList with
    | nil => rfl
    | cons c cs =>
        have hfirst := h c (by simp [hs])
        unfold stripBrackets
        split
        · rename_i heq
          cases heq
          cases hfirst
        · rfl
  · have hlist : ("<" ++ s ++ ">").toList = '<' :: (s.toList ++ ['>']) := by simp
    have hfirst : ∀ c ∈ ('<' :: (s.toList ++ ['>'])).head?, Text.isBlank c = false := by
      intro c hc
      cases hc
      decide
    have hlast : ∀ c ∈ ('<' :: (s.toList ++ ['>'])).getLast?, Text.isBlank c = false := by
      intro c hc
      rw [← List.cons_append, List.getLast?_concat] at hc
      cases hc
      decide
    rw [core, hlist, Text.trimChars_eq_self hfirst hlast]
    simp [stripBrackets]

/-- An address built from two parts is read from its characters if no at sign is in the domain, and
is not read from them otherwise. -/
theorem parse_iff_of_core (h : make localPart domain = .ok a) (hcore : core s = a.text.toList) :
    parse s = .ok a ↔ '@' ∉ domain.toList := by
  obtain ⟨hsound, rfl⟩ := make_eq_ok_iff.1 h
  rw [parse_eq_ok_iff, hcore, ← at_mem_toLower_iff, toList_text]
  constructor
  · rintro ⟨before, after, -, hout, hmake⟩
    have hsame := (make_eq_ok_iff.1 hmake).2
    rw [Address.mk.injEq, Domain.mk.injEq] at hsame
    rw [hsame.2, at_mem_toLower_iff, String.toList_ofList]
    exact hout
  · intro hout
    refine ⟨localPart.toList, domain.toLower.toList, rfl, hout, ?_⟩
    rw [String.ofList_toList, String.ofList_toList]
    exact make_eq_ok_iff.2 ⟨hsound.lower, by rw [Text.lower_lower]⟩

/-- The same for its text and for its text between brackets. -/
theorem parse_text_iff (h : make localPart domain = .ok a) :
    (parse a.text = .ok a ↔ '@' ∉ domain.toList) ∧
      (parse ("<" ++ a.text ++ ">") = .ok a ↔ '@' ∉ domain.toList) := by
  have hallowed : ∀ c ∈ a.text.toList, isForbidden c = false := by
    obtain ⟨hsound, rfl⟩ := make_eq_ok_iff.1 h
    rw [toList_text]
    exact hsound.lower.allowed
  obtain ⟨hplain, hbracketed⟩ := core_of_allowed hallowed
  exact ⟨parse_iff_of_core h hplain, parse_iff_of_core h hbracketed⟩

theorem isSameMailbox_iff : a.isSameMailbox b = true ↔
    a.localPart = b.localPart ∧ a.domain.text.toLower = b.domain.text.toLower := by
  simp [isSameMailbox, Domain.matchesName, Domain.sameName]

/-- Two checked addresses of one mailbox are the same. -/
theorem Checked.eq_iff (ha : a.Checked) (hb : b.Checked) : a = b ↔ a.isSameMailbox b = true := by
  rw [isSameMailbox_iff, ha.lower, hb.lower]
  constructor
  · rintro rfl
    exact ⟨rfl, rfl⟩
  · rintro ⟨hlocal, hdomain⟩
    obtain ⟨localPart, ⟨domain⟩⟩ := a
    obtain ⟨other, ⟨name⟩⟩ := b
    cases hlocal
    cases hdomain
    rfl

/-- An address that was read is read again from its text, with or without brackets. One that was
built is in exactly the case that there is no at sign in its domain. Two checked addresses are the
same if they are of one mailbox, so a set of such recipients holds no mailbox twice. -/
theorem text_round_trips (a b : Address) (recipients : Recipients) :
    (∀ s, parse s = .ok a → parse a.text = .ok a ∧ parse ("<" ++ a.text ++ ">") = .ok a) ∧
    (∀ localPart domain, make localPart domain = .ok a →
      (parse a.text = .ok a ↔ '@' ∉ domain.toList) ∧
        (parse ("<" ++ a.text ++ ">") = .ok a ↔ '@' ∉ domain.toList)) ∧
    (a.Checked → b.Checked → (a = b ↔ a.isSameMailbox b = true)) ∧
    ((∀ r ∈ recipients, r.Checked) →
      recipients.toList.Pairwise fun r other => r.isSameMailbox other = false) := by
  refine ⟨fun s h => ?_, fun _ _ => parse_text_iff, Checked.eq_iff, fun hchecked => ?_⟩
  · obtain ⟨localPart, domain, hout, hmake⟩ := exists_make_of_parse h
    obtain ⟨hplain, hbracketed⟩ := parse_text_iff hmake
    exact ⟨hplain.2 hout, hbracketed.2 hout⟩
  · refine recipients.nodup_toList.imp_of_mem fun {r other} hr hother hne => ?_
    have hr := hchecked r (by simpa using hr)
    have hother := hchecked other (by simpa using hother)
    rw [← Bool.not_eq_true, ← hr.eq_iff hother]
    exact hne

end Address

namespace Address.Sample

/-- An address with an at sign in its domain is read back as another mailbox. -/
theorem parse_text_of_at_sign : ∃ a, make "a" "b@c" = .ok a ∧ parse a.text = .ok ⟨"a@b", ⟨"c"⟩⟩ ∧
    parse a.text ≠ .ok a ∧ a.isSameMailbox ⟨"a@b", ⟨"c"⟩⟩ = false := by
  have hmake : make "a" "b@c" = .ok ⟨"a", ⟨"b@c"⟩⟩ := by decide +kernel
  have hparse : parse (⟨"a", ⟨"b@c"⟩⟩ : Address).text = .ok ⟨"a@b", ⟨"c"⟩⟩ := by decide +kernel
  refine ⟨_, hmake, hparse, ?_, by decide +kernel⟩
  rw [hparse]
  decide +kernel

/-- A quoted at sign in the local part, and a domain in capitals. -/
theorem text_round_trips_of_quoted :
    ∃ a, parse " <\"a@b\"@Example.ORG> " = .ok a ∧ parse a.text = .ok a ∧
      parse ("<" ++ a.text ++ ">") = .ok a ∧ make "\"a@b\"" "EXAMPLE.org" = .ok a := by
  have hparse : parse " <\"a@b\"@Example.ORG> " = .ok ⟨"\"a@b\"", ⟨"example.org"⟩⟩ := by
    decide +kernel
  obtain ⟨hplain, hbracketed⟩ := (text_round_trips _ ⟨"a", ⟨"b"⟩⟩ ∅).1 _ hparse
  exact ⟨_, hparse, hplain, hbracketed, by decide +kernel⟩

end Address.Sample

end Postroom
