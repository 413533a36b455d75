import Postroom.Proofs.Queue.Recovery
import Postroom.Proofs.Store.Faults

/-!
Which of several records of a mail has precedence. A queue that is opened looks at them in key order
and keeps the one that was updated last, the first of equals. So a record is kept if every other one
that can be read was updated earlier, or was updated at the same time and has a later key.
-/

namespace Postroom

/-- Whether a store lists its keys in key order. -/
def RecordStore.ListsInOrder {σ : Type} (store : RecordStore σ) : Prop :=
  ∀ {s keys s'}, store.list s = (.ok keys, s') → keys.Pairwise fun a b => compare a b = .lt

theorem Memory.listsInOrder : store.ListsInOrder := by
  intro memory keys memory' h
  cases h
  exact Std.ExtTreeMap.ordered_keys

theorem RecordStore.ListsInOrder.refusing {σ : Type} {store : RecordStore σ}
    (h : store.ListsInOrder) (e : QueueError) : (store.refusing e).ListsInOrder :=
  fun hlist => h (of_beside hlist)

namespace Holdings

/-- Whether a version of a mail under one key has precedence over a version under another. -/
def Precedes (key : RecordKey) (mail : Mail) (other : RecordKey) (version : Mail) : Prop :=
  version.updated < mail.updated ∨ version.updated = mail.updated ∧ compare key other = .lt

theorem Precedes.asymm {a b : RecordKey} {mail version : Mail} (h : Precedes a mail b version) :
    ¬ Precedes b version a mail := by
  rcases h with hlater | ⟨hsame, hlt⟩
  · rintro (hearlier | ⟨hsame, -⟩)
    · exact Int.lt_asymm hlater hearlier
    · rw [hsame] at hlater
      exact Int.lt_irrefl _ hlater
  · rintro (hearlier | ⟨-, hgt⟩)
    · rw [hsame] at hearlier
      exact Int.lt_irrefl _ hearlier
    · exact Std.OrientedCmp.not_lt_of_lt hlt hgt

/-- A mail under a key that has precedence over all other records of its id that can be read. -/
structure Prevails (holdings : Holdings) (key : RecordKey) (mail : Mail) : Prop where
  held : holdings key = some (.ok mail)
  precedes : ∀ {other version}, other.id = key.id → other ≠ key →
    holdings other = some (.ok version) → Precedes key mail other version

/-- Of the records of an id one prevails at most. -/
theorem Prevails.unique {holdings : Holdings} {a b : RecordKey} {mail version : Mail}
    (ha : holdings.Prevails a mail) (hb : holdings.Prevails b version) (hid : a.id = b.id) :
    a = b := by
  by_cases hne : a = b
  · exact hne
  · have hahead := ha.precedes hid.symm (fun heq => hne heq.symm) hb.held
    exact absurd (hb.precedes hid hne ha.held) hahead.asymm

/-- A mail that was updated after all of its other records prevails. -/
theorem Prevails.of_later {holdings : Holdings} {key : RecordKey} {mail : Mail}
    (hheld : holdings key = some (.ok mail))
    (hlater : ∀ {other version}, other.id = key.id → other ≠ key →
      holdings other = some (.ok version) → version.updated < mail.updated) :
    holdings.Prevails key mail :=
  ⟨hheld, fun hid hne hother => .inl (hlater hid hne hother)⟩

end Holdings

namespace MailQueue

open Holdings

variable {σ : Type} {store : RecordStore σ} {holds : σ → Holdings} {view : View}
  {holdings : Holdings}

/-- What a search has come to after a look at the records under some keys: none of them reads as a
mail, or the best has precedence over the others. -/
def Foremost (holdings : Holdings) (seen : List RecordKey) : Option (Instant × RecordKey) → Prop
  | none => ∀ key ∈ seen, ∀ mail, holdings key ≠ some (.ok mail)
  | some (time, best) =>
      best ∈ seen ∧ ∃ mail, holdings best = some (.ok mail) ∧ mail.updated = time ∧
        ∀ key ∈ seen, key ≠ best → ∀ version, holdings key = some (.ok version) →
          Precedes best mail key version

/-- A look at a record with a later key than all before keeps track of the foremost one. -/
theorem foremost_newer {seen : List RecordKey} {best : Option (Instant × RecordKey)}
    {key : RecordKey} {result : Except QueueError Mail} (h : Foremost holdings seen best)
    (hresult : holdings key = some result) (hlast : ∀ k ∈ seen, compare k key = .lt) :
    Foremost holdings (seen ++ [key]) (newer best key result) := by
  have hsplit : ∀ {k}, k ∈ seen ++ [key] → k ∈ seen ∨ k = key := by
    intro k hk
    rwa [List.mem_append, List.mem_singleton] at hk
  have hnew : key ∈ seen ++ [key] := List.mem_append_right _ (List.mem_singleton_self key)
  cases result with
  | error e =>
      have hold : ∀ {k mail}, k ∈ seen ++ [key] → holdings k = some (.ok mail) → k ∈ seen := by
        intro k mail hk hread
        refine (hsplit hk).resolve_right ?_
        rintro rfl
        simp [hresult] at hread
      cases best with
      | none => exact fun k hk mail hread => h k (hold hk hread) mail hread
      | some found =>
          obtain ⟨hmem, mail, hread, htime, hahead⟩ := h
          exact ⟨List.mem_append_left _ hmem, mail, hread, htime,
            fun k hk hne version hother => hahead k (hold hk hother) hne version hother⟩
  | ok mail =>
      cases best with
      | none =>
          refine ⟨hnew, mail, hresult, rfl, fun k hk hne version hother => ?_⟩
          exact absurd hother (h k ((hsplit hk).resolve_right hne) version)
      | some found =>
          obtain ⟨time, first⟩ := found
          obtain ⟨hmem, leader, hread, rfl, hahead⟩ := h
          unfold newer
          dsimp only
          split
          · rename_i hlater
            refine ⟨hnew, mail, hresult, rfl, fun k hk hne version hother => .inl ?_⟩
            by_cases hfirst : k = first
            · rw [hfirst, hread] at hother
              cases hother
              exact hlater
            · rcases hahead k ((hsplit hk).resolve_right hne) hfirst version hother with
                hless | ⟨hsame, -⟩
              · exact Int.lt_trans hless hlater
              · rw [hsame]
                exact hlater
          · rename_i hearlier
            refine ⟨List.mem_append_left _ hmem, leader, hread, rfl,
              fun k hk hne version hother => ?_⟩
            rcases hsplit hk with hold | rfl
            · exact hahead k hold hne version hother
            · rw [hresult] at hother
              cases hother
              -- of equals the one that was seen first stays, and its key is the earlier one
              rcases Int.lt_or_eq_of_le (Int.not_lt.1 hearlier) with hless | hsame
              · exact .inl hless
              · exact .inr ⟨Instant.ext hsame, hlast first hmem⟩

/-- Of some records in key order, not all of which are unreadable, the foremost is kept. -/
theorem keepLatest_foremost (hstore : store.Browsable holds view) {candidates : List RecordKey}
    (records : σ) (hordered : candidates.Pairwise fun a b => compare a b = .lt)
    (hheld : ∀ key ∈ candidates, holds records key ≠ none) {key : RecordKey} {mail : Mail}
    (hkey : key ∈ candidates) (hmail : (holds records).seen view key = some (.ok mail)) :
    ∃ time kept records', keepLatest store candidates records = (some kept, records') ∧
      Foremost ((holds records).seen view) candidates (some (time, kept)) := by
  unfold keepLatest
  split
  · cases hkey
  · rename_i only
    obtain rfl := List.mem_singleton.1 hkey
    refine ⟨mail.updated, key, records, rfl, hkey, mail, hmail, rfl, fun k hk hne => ?_⟩
    exact absurd (List.mem_singleton.1 hk) hne
  · have hstart : ([] : List RecordKey).Pairwise (fun a b => compare a b = .lt) →
        Foremost ((holds records).seen view) [] none := by
      simp [Foremost]
    obtain ⟨found, read, hnewest, -, hforemost⟩ :=
      newest_keeps hstore records
        (fun seen best => seen.Pairwise (fun a b => compare a b = .lt) →
          Foremost ((holds records).seen view) seen best)
        (fun {seen best key result} hresult hbest hsorted => by
          obtain ⟨hseen, -, hlast⟩ := List.pairwise_append.1 hsorted
          exact foremost_newer (hbest hseen) hresult fun k hk =>
            hlast k hk key (List.mem_singleton_self key))
        candidates hheld hstart
    have hforemost := hforemost (by rwa [List.nil_append])
    rw [List.nil_append] at hforemost
    rw [hnewest]
    cases found with
    | none => exact absurd hmail (hforemost key hkey mail)
    | some best =>
        obtain ⟨time, kept⟩ := best
        exact ⟨time, kept, _, rfl, hforemost⟩

/-- Of the records of each mail that can be read at all, the one that prevails is recovered, and the
mail waits for the time of its key. -/
theorem recoverFrom_prevailing (hstore : store.Lawful holds) (hordered : store.ListsInOrder)
    (now : Instant) (records : σ) :
    ∃ tracking records', recoverFrom store now records = (.ok tracking, records') ∧
      ∀ {key mail}, holds records key = some (.ok mail) →
        ∃ kept version, kept.id = key.id ∧ (holds records).Prevails kept version ∧
          holds records' kept = some (.ok version) ∧ Awaits tracking now kept := by
  obtain ⟨keys, listed, kept, records', hlist, hrecover, hkeys, hids, hkept, hcovers, -⟩ :=
    recoverFrom_chooses hstore.browsable now records
  refine ⟨_, records', hrecover, fun {key mail} hheld => ?_⟩
  have hlisted : key ∈ keys := (hkeys key).2 (by simp [hheld])
  obtain ⟨k, hk, hid⟩ := hcovers key hlisted
  obtain ⟨-, hsame, between, after, hchoice, hagree⟩ := hkept k hk
  have hmem : ∀ {j}, j ∈ keys.filter (·.id = k.id) ↔ j ∈ keys ∧ j.id = k.id :=
    RecordKey.mem_filter_id
  -- when the choice is made, records of other mails may be gone, but none of this one
  have hread : ∀ j : RecordKey, j.id = k.id →
      (holds between).seen (fun _ => id) j = holds records j := by
    intro j hj
    rw [Holdings.seen, hagree j hj, Option.map_id]
    rfl
  obtain ⟨time, first, final, hkeep, -, version, hversion, -, hahead⟩ :=
    keepLatest_foremost hstore.browsable between ((hordered hlist).filter _)
      (fun j hj => by
        rw [hagree j (hmem.1 hj).2]
        exact (hkeys j).1 (hmem.1 hj).1)
      (hmem.2 ⟨hlisted, hid.symm⟩) ((hread key hid.symm).trans hheld)
  cases hchoice.symm.trans hkeep
  rw [hread k rfl] at hversion
  refine ⟨k, version, hid, ⟨hversion, fun {other older} hother hne hold => ?_⟩,
    hsame.trans hversion, recover_awaits hids now hk⟩
  refine hahead other (hmem.2 ⟨(hkeys other).2 (by simp [hold]), hother⟩) hne older ?_
  rw [hread other hother, hold]

end MailQueue

end Postroom
