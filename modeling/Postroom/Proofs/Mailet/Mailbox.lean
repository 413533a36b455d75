import Postroom.Mailet.LocalDelivery
import Postroom.Proofs.Address.RoundTrip
import Postroom.Proofs.Disk.Path

/-!
Where mailboxes are on disk. A directory that is given out lies at most two levels below the root,
for any address whatsoever. For addresses that were read it lies exactly two levels below, and there
is one for each mailbox.
-/

namespace Postroom

namespace Mailbox

/-- Whether a name can be that of an entry of a directory, and of none but this directory. -/
structure IsEntry (name : String) : Prop where
  notEmpty : name ≠ ""
  notHere : name ≠ "."
  notAbove : name ≠ ".."
  slash : '/' ∉ name.toList
  backslash : '\\' ∉ name.toList
  nul : '\x00' ∉ name.toList

variable {root path other : Path} {a b : Address} {name : String}

theorem isUnsafeName_eq_false_iff : isUnsafeName name = false ↔
    name.toList.head? ≠ some '.' ∧ ∀ c ∈ name.toList, c ≠ '/' ∧ c ≠ '\\' ∧ c ≠ '\x00' := by
  simp [isUnsafeName, not_or, and_assoc]

theorem isEntry_of_safe (hname : isUnsafeName name = false) (hsome : name ≠ "") : IsEntry name := by
  obtain ⟨hdot, hchars⟩ := isUnsafeName_eq_false_iff.1 hname
  constructor
  case notEmpty => exact hsome
  case notHere =>
    rintro rfl
    exact hdot (by decide)
  case notAbove =>
    rintro rfl
    exact hdot (by decide)
  case slash => exact fun h => (hchars _ h).1 rfl
  case backslash => exact fun h => (hchars _ h).2.1 rfl
  case nul => exact fun h => (hchars _ h).2.2 rfl

/-- A safe name is a relative path of one component, or of none if it is empty. -/
theorem path_of_safe (hname : isUnsafeName name = false) :
    (⟨name⟩ : Path).isAbsolute = false ∧
      (⟨name⟩ : Path).components = if name = "" then [] else [name] := by
  obtain ⟨hdot, hchars⟩ := isUnsafeName_eq_false_iff.1 hname
  have hslash : '/' ∉ name.toList := fun h => (hchars _ h).1 rfl
  constructor
  · rw [Path.isAbsolute, decide_eq_false_iff_not]
    exact fun hfirst => hslash (List.mem_of_mem_head? hfirst)
  · rw [Path.components_of_piece hslash]
    split
    · rename_i hempty
      rw [hempty]
      rfl
    · rename_i hsome
      have hentry := isEntry_of_safe hname hsome
      rw [List.filter_cons_of_pos (by simpa using ⟨hsome, hentry.notHere⟩)]
      rfl

theorem directory_eq_ok_iff : directory root a = .ok path ↔
    isUnsafeName a.domain.text.toLower = false ∧ isUnsafeName a.localPart = false ∧
      path = (root.join a.domain.text.toLower).join a.localPart := by
  unfold directory
  dsimp only
  split
  · rename_i name hfound
    have hunsafe := List.find?_some hfound
    have hname := List.mem_of_find?_eq_some hfound
    refine iff_of_false (by simp) ?_
    rintro ⟨hdomain, hlocal, -⟩
    simp only [List.mem_cons, List.not_mem_nil, or_false] at hname
    rcases hname with rfl | rfl
    · rw [hdomain] at hunsafe
      cases hunsafe
    · rw [hlocal] at hunsafe
      cases hunsafe
  · rename_i hnone
    have hsafe : ∀ name ∈ [a.domain.text.toLower, a.localPart], isUnsafeName name = false :=
      fun name hname => by simpa using List.find?_eq_none.1 hnone name hname
    have hdomain := hsafe a.domain.text.toLower (by simp)
    have hlocal := hsafe a.localPart (by simp)
    rw [Except.ok.injEq, eq_comm]
    exact ⟨fun h => ⟨hdomain, hlocal, h⟩, fun h => h.2.2⟩

/-- A directory that is given out lies below the root, one level for each name that is not empty. -/
theorem directory_components (h : directory root a = .ok path) :
    path.isAbsolute = root.isAbsolute ∧
      path.components = root.components ++
        [a.domain.text.toLower, a.localPart].filter fun name => name ≠ "" := by
  obtain ⟨hdomain, hlocal, rfl⟩ := directory_eq_ok_iff.1 h
  obtain ⟨hdomain, hfirst⟩ := path_of_safe hdomain
  obtain ⟨hlocal, hsecond⟩ := path_of_safe hlocal
  constructor
  · rw [Path.isAbsolute_join _ hlocal, Path.isAbsolute_join _ hdomain]
  · rw [Path.components_join _ hlocal, Path.components_join _ hdomain, hfirst, hsecond,
      List.append_assoc]
    congr 1
    by_cases hd : a.domain.text.toLower = "" <;> by_cases hl : a.localPart = "" <;> simp [hd, hl]

theorem directory_within (h : directory root a = .ok path) :
    path.isWithin root = true ∧
      ∃ below, path.components = root.components ++ below ∧ ".." ∉ below := by
  obtain ⟨habsolute, hcomponents⟩ := directory_components h
  obtain ⟨hdomain, hlocal, -⟩ := directory_eq_ok_iff.1 h
  refine ⟨?_, _, hcomponents, ?_⟩
  · simp [Path.isWithin, habsolute, hcomponents]
  · intro hup
    obtain ⟨hname, hsome⟩ := List.mem_filter.1 hup
    simp only [List.mem_cons, List.not_mem_nil, or_false] at hname
    rcases hname with hname | hname
    · rw [← hname] at hdomain
      exact absurd hdomain (by decide)
    · rw [← hname] at hlocal
      exact absurd hlocal (by decide)

/-- For an address that was checked the directory lies exactly two levels below. -/
theorem directory_of_checked (ha : a.Checked) (h : directory root a = .ok path) :
    path.components = root.components ++ [a.domain.text, a.localPart] ∧
      IsEntry a.domain.text ∧ IsEntry a.localPart := by
  obtain ⟨hdomain, hlocal, -⟩ := directory_eq_ok_iff.1 h
  obtain ⟨-, hcomponents⟩ := directory_components h
  rw [ha.lower] at hdomain hcomponents
  obtain ⟨localPart, domain, hmake⟩ := ha.exists_make
  obtain ⟨hsound, rfl⟩ := Address.make_eq_ok_iff.1 hmake
  have hdomainSome := hsound.lower.domainSome
  have hlocalSome := hsound.localSome
  refine ⟨?_, isEntry_of_safe hdomain hdomainSome, isEntry_of_safe hlocal hlocalSome⟩
  rw [hcomponents]
  simp [hdomainSome, hlocalSome]

/-- Mailboxes on disk are below the root and apart. The directory of an address that was read is the
root followed by two names, and two such directories are the same, as texts or by their components,
exactly if the addresses are of one mailbox. No directory that is given out leaves the root,
whatever the address. -/
theorem directories_below_and_apart (root : Path) :
    (∀ s a path, Address.parse s = .ok a → directory root a = .ok path →
      path.isAbsolute = root.isAbsolute ∧
        path.components = root.components ++ [a.domain.text, a.localPart] ∧
        IsEntry a.domain.text ∧ IsEntry a.localPart) ∧
    (∀ s t a b path other, Address.parse s = .ok a → Address.parse t = .ok b →
      directory root a = .ok path → directory root b = .ok other →
        (path = other ↔ a.isSameMailbox b = true) ∧
          (path.components = other.components ↔ a.isSameMailbox b = true)) ∧
    ∀ a path, directory root a = .ok path →
      path.isWithin root = true ∧
        ∃ below, path.components = root.components ++ below ∧ ".." ∉ below := by
  refine ⟨?_, ?_, fun a path => directory_within⟩
  · intro s a path hparse h
    exact ⟨(directory_components h).1, directory_of_checked (.inr ⟨s, hparse⟩) h⟩
  · intro s t a b path other hs ht ha hb
    have hfirst : a.Checked := .inr ⟨s, hs⟩
    have hsecond : b.Checked := .inr ⟨t, ht⟩
    obtain ⟨hcomponents, -⟩ := directory_of_checked hfirst ha
    obtain ⟨hothers, -⟩ := directory_of_checked hsecond hb
    have hnames : path.components = other.components → a = b := by
      intro h
      rw [hcomponents, hothers, List.append_cancel_left_eq] at h
      simp only [List.cons.injEq, and_true] at h
      obtain ⟨localPart, ⟨domain⟩⟩ := a
      obtain ⟨otherPart, ⟨otherDomain⟩⟩ := b
      obtain ⟨rfl, rfl⟩ := h
      rfl
    rw [← hfirst.eq_iff hsecond]
    refine ⟨⟨fun h => hnames (by rw [h]), ?_⟩, ⟨hnames, ?_⟩⟩
    · rintro rfl
      exact Except.ok.inj (ha.symm.trans hb)
    · rintro rfl
      rw [Except.ok.inj (ha.symm.trans hb)]

end Mailbox

namespace Mailbox.Sample

def root : Path := ⟨"/srv//mail/."⟩

/-- Two spellings of one mailbox share its directory, and an address without any name has the
root. -/
theorem directories_below_and_apart_of_alice :
    ∃ a b path other, Address.parse "alice@Local.Test" = .ok a ∧
      Address.parse " <alice@LOCAL.test> " = .ok b ∧ directory root a = .ok path ∧
      directory root b = .ok other ∧ path = other ∧
      path.components = ["srv", "mail", "local.test", "alice"] ∧
      ∃ top, directory root ⟨"", ⟨""⟩⟩ = .ok top ∧ top.isWithin root = true := by
  have hfirst : Address.parse "alice@Local.Test" = .ok ⟨"alice", ⟨"local.test"⟩⟩ := by
    decide +kernel
  have hsecond : Address.parse " <alice@LOCAL.test> " = .ok ⟨"alice", ⟨"local.test"⟩⟩ := by
    decide +kernel
  have hpath : directory root ⟨"alice", ⟨"local.test"⟩⟩ =
    .ok ⟨"/srv//mail/./local.test/alice"⟩ := by
    decide +kernel
  have htop : directory root ⟨"", ⟨""⟩⟩ = .ok ⟨"/srv//mail/./"⟩ := by decide +kernel
  have hroot : root.components = ["srv", "mail"] := by decide +kernel
  obtain ⟨hbelow, happart, hwithin⟩ := directories_below_and_apart root
  obtain ⟨-, hcomponents, -⟩ := hbelow _ _ _ hfirst hpath
  obtain ⟨hsame, -⟩ := happart _ _ _ _ _ _ hfirst hsecond hpath hpath
  rw [hroot] at hcomponents
  exact ⟨_, _, _, _, hfirst, hsecond, hpath, hpath, hsame.2 (by decide +kernel),
    hcomponents, _, htop, (hwithin _ _ htop).1⟩

end Mailbox.Sample

end Postroom
