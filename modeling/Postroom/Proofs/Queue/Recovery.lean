import Postroom.Proofs.Queue.Abstraction
import Postroom.Proofs.Store.Laws

/-!
What is recovered when a queue is opened. Of the records of each mail the newest is kept, whatever
can be deleted of the others, and the queue tracks exactly the mails that had a record. With one
record for each mail nothing is deleted, and what is tracked is the plain queue over the keys.
-/

namespace Postroom

/-- Of things with different labels at most one has a given label. -/
theorem filter_cases_of_nodup_map {α β : Type} [DecidableEq β] {label : α → β} {xs : List α}
    (h : (xs.map label).Nodup) (b : β) :
    xs.filter (label · = b) = [] ∨ ∃ x, xs.filter (label · = b) = [x] ∧ label x = b := by
  have hmem : ∀ x ∈ xs.filter (label · = b), label x = b := by
    intro x hx
    simpa using (List.mem_filter.1 hx).2
  have hdistinct : ((xs.filter (label · = b)).map label).Nodup :=
    h.sublist (List.filter_sublist.map _)
  generalize xs.filter (label · = b) = found at hmem hdistinct ⊢
  match found with
  | [] => exact .inl rfl
  | [x] => exact .inr ⟨x, rfl, hmem x (by simp)⟩
  | x :: y :: rest =>
      have heq : label x = label y := (hmem x (by simp)).trans (hmem y (by simp)).symm
      simp [heq] at hdistinct

namespace RecordKey

theorem time_le_of_compare {a b : RecordKey} (h : compare a b = .lt) : a.time ≤ b.time := by
  have hunfold : compare a b = (compare a.notBefore b.notBefore).then (compare a.id b.id) := rfl
  have hle : a.notBefore ≤ b.notBefore := by
    rw [hunfold, Ordering.then_eq_lt] at h
    rcases h with hlt | ⟨heq, -⟩
    · exact UInt64.le_of_lt (compareOfLessAndEq_eq_lt.1 hlt)
    · rw [Std.LawfulEqOrd.eq_of_compare heq]
      exact UInt64.le_refl _
  show (a.notBefore.toNat : Int) * 1000000 ≤ b.notBefore.toNat * 1000000
  have := UInt64.le_iff_toNat_le.1 hle
  omega

theorem mem_filter_id {keys : List RecordKey} {key : RecordKey} {id : MailId} :
    key ∈ keys.filter (·.id = id) ↔ key ∈ keys ∧ key.id = id := by
  rw [List.mem_filter, decide_eq_true_eq]

end RecordKey

namespace PlainQueue

/-- To place a mail of a later key is to open the queue over one more record. -/
theorem place_opened {keys : List RecordKey} {key : RecordKey} {now : Instant}
    (hid : key.id ∉ keys.map RecordKey.id) (htime : ∀ k ∈ keys, k.time ≤ key.time) :
    ((opened keys now).remove key.id).place key.id key.time now = opened (keys ++ [key]) now := by
  have hother : ∀ k ∈ keys, k.id ≠ key.id := by
    intro k hk heq
    exact hid (heq ▸ List.mem_map_of_mem hk)
  have hremove : (opened keys now).remove key.id = opened keys now := by
    apply PlainQueue.ext
    · refine List.filter_eq_self.2 fun id hmem => ?_
      obtain ⟨k, hk, rfl⟩ := List.mem_map.1 hmem
      simpa using hother k (List.mem_filter.1 hk).1
    · refine List.filter_eq_self.2 fun e hmem => ?_
      obtain ⟨k, hk, rfl⟩ := List.mem_map.1 hmem
      simpa using hother k (List.mem_filter.1 hk).1
    · rfl
    · rfl
  have hearly : ∀ e ∈ (opened keys now).delayed, e.1 ≤ key.time := by
    intro e hmem
    obtain ⟨k, hk, rfl⟩ := List.mem_map.1 hmem
    exact htime k (List.mem_filter.1 hk).1
  rw [hremove]
  unfold place
  by_cases hdue : key.time ≤ now
  · rw [if_pos hdue]
    apply PlainQueue.ext
    · simp [opened, hdue]
    · simp [opened, hdue]
    · rfl
    · rfl
  · have hnone : (opened keys now).delayed.filter (fun e => key.time < e.1) = [] := by
      refine List.filter_eq_nil_iff.2 fun e he => ?_
      rw [decide_eq_true_eq, ← Instant.not_le]
      exact fun hlate => hlate (hearly e he)
    have hall : (opened keys now).delayed.filter (fun e => e.1 ≤ key.time) =
        (opened keys now).delayed := by
      refine List.filter_eq_self.2 fun e he => ?_
      rw [decide_eq_true_eq]
      exact hearly e he
    rw [if_neg hdue, hnone, hall]
    apply PlainQueue.ext
    · simp [opened, hdue]
    · simp [opened, hdue]
    · rfl
    · rfl

theorem visible_opened (keys : List RecordKey) (now later : Instant) (id : MailId) :
    id ∈ ((opened keys now).promoteDue later).visible ↔
      ∃ key ∈ keys, key.id = id ∧ (key.time ≤ now ∨ key.time ≤ later) := by
  simp only [opened, promoteDue, List.mem_append, List.mem_map, List.mem_filter, decide_eq_true_eq]
  constructor
  · rintro (⟨key, ⟨hkey, hdue⟩, hid⟩ | ⟨e, ⟨⟨key, ⟨hkey, -⟩, rfl⟩, hdue⟩, hid⟩)
    · exact ⟨key, hkey, hid, .inl hdue⟩
    · exact ⟨key, hkey, hid, .inr hdue⟩
  · rintro ⟨key, hkey, hid, hdue⟩
    by_cases hnow : key.time ≤ now
    · exact .inl ⟨key, ⟨hkey, hnow⟩, hid⟩
    · exact .inr ⟨(key.time, key.id), ⟨⟨key, ⟨hkey, hnow⟩, rfl⟩, hdue.resolve_left hnow⟩, hid⟩

end PlainQueue

namespace MailQueue

variable {σ : Type} {store : RecordStore σ} {holds : σ → Holdings}

/-- What a store holds after some records may have been deleted. -/
structure Pruned (before after : Holdings) (spared : RecordKey → Prop) : Prop where
  same_or_none : ∀ key, after key = before key ∨ after key = none
  spares : ∀ {key}, spared key → after key = before key

theorem Pruned.refl (holdings : Holdings) (spared : RecordKey → Prop) :
    Pruned holdings holdings spared :=
  ⟨fun _ => .inl rfl, fun _ => rfl⟩

theorem Pruned.trans {a b c : Holdings} {spared : RecordKey → Prop} (hab : Pruned a b spared)
    (hbc : Pruned b c spared) : Pruned a c spared := by
  refine ⟨fun key => ?_, fun hkey => (hbc.spares hkey).trans (hab.spares hkey)⟩
  rcases hbc.same_or_none key with hsame | hnone
  · rw [hsame]
    exact hab.same_or_none key
  · exact .inr hnone

theorem Pruned.mono {a b : Holdings} {spared fewer : RecordKey → Prop} (h : Pruned a b spared)
    (hfewer : ∀ key, fewer key → spared key) : Pruned a b fewer :=
  ⟨h.same_or_none, fun hkey => h.spares (hfewer _ hkey)⟩

theorem delete_pruned (hstore : store.Lawful holds) (key : RecordKey) (records : σ) :
    Pruned (holds records) (holds (store.delete key records).2) (· ≠ key) := by
  refine ⟨fun k => ?_, fun hne => hstore.delete_other hne records⟩
  by_cases hk : k = key
  · cases hdelete : store.delete key records with
    | mk result after =>
        cases result with
        | error e => exact .inl (by rw [hstore.delete_error hdelete])
        | ok => exact .inr (by rw [hstore.delete_ok hdelete, hk, Holdings.remove_same])
  · exact .inl (hstore.delete_other hk records)

end MailQueue

/-- What a look at the record under a key gives, by what the record reads as. -/
abbrev View := RecordKey → Except QueueError Mail → Except QueueError Mail

/-- What is seen of some holdings. -/
def Holdings.seen (holdings : Holdings) (view : View) : Holdings := fun key =>
  (holdings key).map (view key)

/-- A store whose records can be listed, looked at and deleted one by one. Nothing is said about
writing, and a deletion that fails may have removed its record all the same. -/
structure RecordStore.Browsable {σ : Type} (store : RecordStore σ) (holds : σ → Holdings)
    (view : View) : Prop where
  read : ∀ {key s record}, holds s key = some record →
    ∃ s', store.read key s = (view key record, s') ∧ holds s' = holds s
  delete : ∀ key s, MailQueue.Pruned (holds s) (holds (store.delete key s).2) (· ≠ key)
  list : ∀ s, ∃ keys s', store.list s = (.ok keys, s') ∧ holds s' = holds s ∧ keys.Nodup ∧
    ∀ key, key ∈ keys ↔ holds s key ≠ none

theorem RecordStore.Lawful.browsable {σ : Type} {store : RecordStore σ} {holds : σ → Holdings}
    (hstore : store.Lawful holds) : store.Browsable holds fun _ => id where
  read := hstore.read
  delete := MailQueue.delete_pruned hstore
  list := hstore.list

/-- Whether the record under a key is the one to keep of some: none of them reads as a mail that was
updated later, and if none of them reads as a mail, none has a later key. -/
structure Holdings.Newest (holdings : Holdings) (candidate : RecordKey → Prop) (kept : RecordKey) :
    Prop where
  updated : ∀ {key mail}, candidate key → holdings key = some (.ok mail) →
    ∃ newest, holdings kept = some (.ok newest) ∧ mail.updated ≤ newest.updated
  last : (∀ key mail, candidate key → holdings key ≠ some (.ok mail)) →
    ∀ key, candidate key → (compare key kept).isLE

/-- Which record is to be kept depends on nothing but the candidates. -/
theorem Holdings.Newest.congr {holdings holdings' : Holdings}
    {candidate candidate' : RecordKey → Prop}
    {kept : RecordKey} (h : holdings.Newest candidate kept) (hkept : candidate kept)
    (hcandidate : ∀ key, candidate' key ↔ candidate key)
    (hsame : ∀ key, candidate key → holdings' key = holdings key) :
    holdings'.Newest candidate' kept where
  updated {key mail} hkey hread := by
    rw [hcandidate] at hkey
    rw [hsame key hkey] at hread
    rw [hsame kept hkept]
    exact h.updated hkey hread
  last hnone key hkey := by
    refine h.last (fun k mail hk hread => ?_) key ((hcandidate key).1 hkey)
    exact hnone k mail ((hcandidate k).2 hk) ((hsame k hk).trans hread)

namespace MailQueue

variable {σ : Type} {store : RecordStore σ} {holds : σ → Holdings} {view : View}

theorem deleteAll_pruned (hstore : store.Browsable holds view) (keys : List RecordKey)
    (records : σ) :
    Pruned (holds records) (holds (deleteAll store keys records)) (· ∉ keys) := by
  unfold deleteAll
  induction keys generalizing records with
  | nil => exact .refl _ _
  | cons key keys ih =>
      rw [List.foldl_cons]
      have hfirst : Pruned (holds records) (holds (store.delete key records).2)
          (· ∉ key :: keys) :=
        (hstore.delete key records).mono fun k hk heq => hk (heq ▸ List.mem_cons_self ..)
      have hothers : Pruned (holds (store.delete key records).2) _ (· ∉ key :: keys) :=
        (ih (store.delete key records).2).mono fun k hk hmem => hk (List.mem_cons_of_mem _ hmem)
      exact hfirst.trans hothers

/-- What a search for the newest record has come to after a look at the records under some keys:
none of them reads as a mail, or the best of them is known with its time. -/
def Leads (holdings : Holdings) (seen : List RecordKey) : Option (Instant × RecordKey) → Prop
  | none => ∀ key ∈ seen, ∀ mail, holdings key ≠ some (.ok mail)
  | some (time, best) =>
      best ∈ seen ∧ (∃ mail, holdings best = some (.ok mail) ∧ mail.updated = time) ∧
        ∀ key ∈ seen, ∀ mail, holdings key = some (.ok mail) → mail.updated ≤ time

/-- A record that does not read as a mail leaves the best one. -/
theorem Leads.skip {holdings : Holdings} {seen : List RecordKey}
    {best : Option (Instant × RecordKey)} {key : RecordKey} (h : Leads holdings seen best)
    (hkey : ∀ mail, holdings key ≠ some (.ok mail)) : Leads holdings (seen ++ [key]) best := by
  have hold : ∀ k ∈ seen ++ [key], ∀ mail, holdings k = some (.ok mail) → k ∈ seen := by
    intro k hk mail hread
    rcases List.mem_append.1 hk with hk | hk
    · exact hk
    · rw [List.mem_singleton.1 hk] at hread
      exact absurd hread (hkey mail)
  cases best with
  | none => exact fun k hk mail hread => h k (hold k hk mail hread) mail hread
  | some found =>
      obtain ⟨hmem, hfound, hlate⟩ := h
      exact ⟨List.mem_append_left _ hmem, hfound,
        fun k hk mail hread => hlate k (hold k hk mail hread) mail hread⟩

/-- A look at one more record keeps track of the best one. -/
theorem leads_newer {holdings : Holdings} {seen : List RecordKey}
    {best : Option (Instant × RecordKey)} {key : RecordKey} {result : Except QueueError Mail}
    (h : Leads holdings seen best) (hresult : holdings key = some result) :
    Leads holdings (seen ++ [key]) (newer best key result) := by
  cases result with
  | error e => exact h.skip fun mail hread => by simp [hresult] at hread
  | ok mail =>
      have hlate : ∀ time : Instant, mail.updated ≤ time →
          (∀ k ∈ seen, ∀ other, holdings k = some (.ok other) → other.updated ≤ time) →
          ∀ k ∈ seen ++ [key], ∀ other, holdings k = some (.ok other) → other.updated ≤ time := by
        intro time hmail hseen k hk other hread
        rcases List.mem_append.1 hk with hk | hk
        · exact hseen k hk other hread
        · rw [List.mem_singleton.1 hk, hresult] at hread
          cases hread
          exact hmail
      have hnew : key ∈ seen ++ [key] := List.mem_append_right _ (List.mem_singleton_self key)
      cases best with
      | none =>
          refine ⟨hnew, ⟨mail, hresult, rfl⟩, hlate _ (Int.le_refl _) fun k hk other hread => ?_⟩
          exact absurd hread (h k hk other)
      | some found =>
          obtain ⟨time, first⟩ := found
          obtain ⟨hmem, hfound, hseen⟩ := h
          unfold newer
          dsimp only
          split
          · rename_i hlater
            refine ⟨hnew, ⟨mail, hresult, rfl⟩, hlate _ (Int.le_refl _) fun k hk other hread => ?_⟩
            exact Int.le_trans (hseen k hk other hread) (Int.le_of_lt hlater)
          · rename_i hearlier
            exact ⟨List.mem_append_left _ hmem, hfound, hlate time (Int.not_lt.1 hearlier) hseen⟩

/-- What every look at a record keeps true of a search is true of its outcome. A search changes
nothing. -/
theorem newest_keeps (hstore : store.Browsable holds view) (records : σ)
    (good : List RecordKey → Option (Instant × RecordKey) → Prop)
    (hstep : ∀ {seen best key result}, (holds records).seen view key = some result →
      good seen best → good (seen ++ [key]) (newer best key result))
    (keys : List RecordKey) {seen : List RecordKey} {best : Option (Instant × RecordKey)}
    (hheld : ∀ key ∈ keys, holds records key ≠ none) (hbest : good seen best) :
    ∃ found records', newest store keys best records = (found, records') ∧
      holds records' = holds records ∧ good (seen ++ keys) found := by
  induction keys generalizing seen best records with
  | nil => exact ⟨best, records, rfl, rfl, by rwa [List.append_nil]⟩
  | cons key keys ih =>
      obtain ⟨record, hrecord⟩ := Option.ne_none_iff_exists'.1 (hheld key (List.mem_cons_self ..))
      obtain ⟨read, hread, hsame⟩ := hstore.read hrecord
      have hseen : (holds records).seen view key = some (view key record) := by
        rw [Holdings.seen, hrecord, Option.map_some]
      rw [newest, hread]
      dsimp only
      have hothers : ∀ k ∈ keys, holds read k ≠ none := by
        intro k hk
        rw [hsame]
        exact hheld k (List.mem_cons_of_mem _ hk)
      rw [← hsame] at hstep
      obtain ⟨found, records', hfound, hkept, hgood⟩ :=
        ih read hstep hothers (hstep (by rw [hsame, hseen]) hbest)
      refine ⟨found, records', hfound, hkept.trans hsame, ?_⟩
      rwa [List.append_assoc, List.singleton_append] at hgood

theorem lastKey_mem {keys : List RecordKey} (h : keys ≠ []) :
    ∃ key ∈ keys, lastKey keys = some key := by
  cases keys with
  | nil => exact absurd rfl h
  | cons first rest =>
      refine ⟨_, ?_, rfl⟩
      clear h
      induction rest generalizing first with
      | nil => exact List.mem_cons_self ..
      | cons key rest ih =>
          rw [List.foldl_cons]
          have hlater := ih (if (compare first key).isLT then key else first)
          rcases List.mem_cons.1 hlater with hhere | hrest
          · rw [hhere]
            split
            · exact List.mem_cons_of_mem _ (List.mem_cons_self ..)
            · exact List.mem_cons_self ..
          · exact List.mem_cons_of_mem _ (List.mem_cons_of_mem _ hrest)

/-- No key of a list is later than its last one. -/
theorem isLE_lastKey {keys : List RecordKey} {last : RecordKey} (h : lastKey keys = some last) :
    ∀ key ∈ keys, (compare key last).isLE := by
  cases keys with
  | nil => cases h
  | cons first rest =>
      cases h
      induction rest generalizing first with
      | nil =>
          intro key hkey
          rw [List.mem_singleton.1 hkey]
          exact Std.ReflCmp.isLE_rfl
      | cons second rest ih =>
          intro key hkey
          rw [List.foldl_cons]
          have hothers := ih (if (compare first second).isLT then second else first)
          have hhead := hothers _ (List.mem_cons_self ..)
          have hlater :
              (compare first (if (compare first second).isLT then second else first)).isLE ∧
              (compare second (if (compare first second).isLT then second else first)).isLE := by
            cases hcompare : compare first second with
            | lt => exact ⟨by simp [hcompare], Std.ReflCmp.isLE_rfl⟩
            | eq => exact ⟨Std.ReflCmp.isLE_rfl, by simp [Std.OrientedCmp.eq_symm hcompare]⟩
            | gt =>
                have hlt : compare second first = .lt := Std.OrientedCmp.lt_of_gt hcompare
                exact ⟨Std.ReflCmp.isLE_rfl, by simp [hlt]⟩
          rcases List.mem_cons.1 hkey with rfl | hkey
          · exact Std.TransCmp.isLE_trans hlater.1 hhead
          · rcases List.mem_cons.1 hkey with rfl | hkey
            · exact Std.TransCmp.isLE_trans hlater.2 hhead
            · exact hothers key (List.mem_cons_of_mem _ hkey)

/-- Of some records of a mail the newest is kept, and every record that is none of the others. -/
theorem keepLatest_cases (hstore : store.Browsable holds view) {candidates : List RecordKey}
    (records : σ) (hne : candidates ≠ [])
    (hheld : ∀ key ∈ candidates, holds records key ≠ none) :
    ∃ kept records', keepLatest store candidates records = (some kept, records') ∧
      kept ∈ candidates ∧ ((holds records).seen view).Newest (· ∈ candidates) kept ∧
      Pruned (holds records) (holds records') fun key => key = kept ∨ key ∉ candidates := by
  have hpruned : ∀ {kept : RecordKey} {found : σ}, holds found = holds records →
      Pruned (holds records)
        (holds (deleteAll store (candidates.filter (some · ≠ some kept)) found))
        fun key => key = kept ∨ key ∉ candidates := by
    intro kept found hfound
    rw [← hfound]
    refine (deleteAll_pruned hstore _ found).mono fun key hkey hmem => ?_
    obtain ⟨hcandidate, hother⟩ := List.mem_filter.1 hmem
    rcases hkey with rfl | hout
    · simp at hother
    · exact hout hcandidate
  unfold keepLatest
  split
  · exact absurd rfl hne
  · rename_i key
    refine ⟨key, records, rfl, List.mem_singleton_self key, ⟨?_, ?_⟩, .refl _ _⟩
    · intro k mail hk hread
      rw [List.mem_singleton.1 hk] at hread
      exact ⟨mail, hread, Int.le_refl _⟩
    · intro _ k hk
      rw [List.mem_singleton.1 hk]
      exact Std.ReflCmp.isLE_rfl
  · have hstart : Leads ((holds records).seen view) [] none := by simp [Leads]
    obtain ⟨found, read, hnewest, hsame, hleads⟩ :=
      newest_keeps hstore records _ (fun hresult hbest => leads_newer hbest hresult) candidates
        hheld hstart
    rw [List.nil_append] at hleads
    rw [hnewest]
    cases found with
    | none =>
        obtain ⟨last, hmem, hlast⟩ := lastKey_mem hne
        dsimp only
        rw [hlast]
        refine ⟨last, _, rfl, hmem, ⟨?_, ?_⟩, hpruned hsame⟩
        · exact fun hk hread => absurd hread (hleads _ hk _)
        · exact fun _ => isLE_lastKey hlast
    | some best =>
        obtain ⟨time, kept⟩ := best
        obtain ⟨hmem, ⟨mail, hread, rfl⟩, hlate⟩ := hleads
        refine ⟨kept, _, rfl, hmem, ⟨?_, ?_⟩, hpruned hsame⟩
        · exact fun hk hother => ⟨mail, hread, hlate _ hk _ hother⟩
        · exact fun hnone => absurd hread (hnone kept mail hmem)

/-- Whether a key is the one that is kept of all of its mail, going by the records under these. -/
def Chosen (store : RecordStore σ) (holds : σ → Holdings) (keys : List RecordKey)
    (holdings : Holdings) (key : RecordKey) : Prop :=
  ∃ between after, keepLatest store (keys.filter (·.id = key.id)) between = (some key, after) ∧
    ∀ k : RecordKey, k.id = key.id → holds between k = holdings k

/-- Of the records of each mail one is kept, which the records of other mails have no part in. -/
theorem keepLatestOfEach_cases (hstore : store.Browsable holds view) {keys : List RecordKey}
    {ids : List MailId} (hids : ids.Nodup) (hgroups : ∀ id ∈ ids, ∃ key ∈ keys, key.id = id)
    (records : σ) (hheld : ∀ key ∈ keys, key.id ∈ ids → holds records key ≠ none) :
    ∃ kept records',
      keepLatestOfEach store (ids.map fun id => keys.filter (·.id = id)) records =
        (kept, records') ∧
      kept.map RecordKey.id = ids ∧
      (∀ key ∈ kept, key ∈ keys ∧ Chosen store holds keys (holds records) key) ∧
      Pruned (holds records) (holds records') fun key => key ∈ kept ∨ key.id ∉ ids := by
  induction ids generalizing records with
  | nil => exact ⟨[], records, rfl, rfl, by simp, .refl _ _⟩
  | cons id ids ih =>
      obtain ⟨hout, hids⟩ := List.nodup_cons.1 hids
      have hmem : ∀ {key}, key ∈ keys.filter (·.id = id) ↔ key ∈ keys ∧ key.id = id :=
        RecordKey.mem_filter_id
      obtain ⟨key, hkey, hid⟩ := hgroups id (List.mem_cons_self ..)
      obtain ⟨first, between, hkeep, hcandidate, -, hpruned⟩ :=
        keepLatest_cases hstore records (List.ne_nil_of_mem (hmem.2 ⟨hkey, hid⟩)) fun k hk => by
          obtain ⟨hk, hid⟩ := hmem.1 hk
          exact hheld k hk (hid ▸ List.mem_cons_self ..)
      obtain ⟨hfirst, hfid⟩ := hmem.1 hcandidate
      have hother : ∀ {k : RecordKey}, k.id ∈ ids → k ∉ keys.filter (·.id = id) := by
        intro k hk hcandidate
        exact hout ((hmem.1 hcandidate).2 ▸ hk)
      have hsame : ∀ {k : RecordKey}, k.id ∈ ids → holds between k = holds records k :=
        fun hk => hpruned.spares (.inr (hother hk))
      have hbetween : ∀ k ∈ keys, k.id ∈ ids → holds between k ≠ none := by
        intro k hk hkid
        rw [hsame hkid]
        exact hheld k hk (List.mem_cons_of_mem _ hkid)
      obtain ⟨kept, final, hrest, hkept, hkeys, hlater⟩ :=
        ih hids (fun k hk => hgroups k (List.mem_cons_of_mem _ hk)) between hbetween
      have hkeptid : ∀ {k}, k ∈ kept → k.id ∈ ids := by
        intro k hk
        rw [← hkept]
        exact List.mem_map_of_mem hk
      refine ⟨first :: kept, final, ?_, ?_, ?_, ?_⟩
      · rw [List.map_cons, keepLatestOfEach, hkeep]
        dsimp only
        rw [hrest]
        rfl
      · rw [List.map_cons, hfid, hkept]
      · intro k hk
        rcases List.mem_cons.1 hk with rfl | hk
        · exact ⟨hfirst, records, between, by rw [hfid, hkeep], fun _ _ => rfl⟩
        · obtain ⟨hkey, start, after, hchoice, hagree⟩ := hkeys k hk
          refine ⟨hkey, start, after, hchoice, fun j hj => (hagree j hj).trans ?_⟩
          exact hsame (hj ▸ hkeptid hk)
      · refine (hpruned.mono fun k hk => ?_).trans (hlater.mono fun k hk => ?_)
        · rcases hk with hk | hk
          · rcases List.mem_cons.1 hk with heq | hk
            · exact .inl heq
            · exact .inr (hother (hkeptid hk))
          · exact .inr fun hcandidate => hk (by simp [(hmem.1 hcandidate).2])
        · rcases hk with hk | hk
          · rcases List.mem_cons.1 hk with rfl | hk
            · exact .inr (hfid ▸ hout)
            · exact .inl hk
          · exact .inr fun hmem => hk (List.mem_cons_of_mem _ hmem)

/-- Each mail is listed once. -/
theorem nodup_ids (keys : List RecordKey) :
    (Std.ExtTreeSet.ofList (keys.map RecordKey.id)).toList.Nodup := by
  refine (Std.ExtTreeSet.distinct_toList (α := MailId)).imp ?_
  intro a b hab heq
  simp [heq] at hab

/-- What is recovered: every mail that had a record has one that was kept, and is tracked under its
key. -/
theorem recoverFrom_chooses (hstore : store.Browsable holds view) (now : Instant) (records : σ) :
    ∃ keys listed kept records', store.list records = (.ok keys, listed) ∧
      recoverFrom store now records = (.ok (recover kept now), records') ∧
      (∀ key, key ∈ keys ↔ holds records key ≠ none) ∧
      (kept.map RecordKey.id).Nodup ∧
      (∀ key ∈ kept, key ∈ keys ∧ holds records' key = holds records key ∧
        Chosen store holds keys (holds records) key) ∧
      (∀ key ∈ keys, ∃ k ∈ kept, k.id = key.id) ∧
      (∀ key, holds records' key = holds records key ∨ holds records' key = none) := by
  obtain ⟨keys, listed, hlist, hsame, hnodup, hkeys⟩ := hstore.list records
  have hmem : ∀ {id}, id ∈ (Std.ExtTreeSet.ofList (keys.map RecordKey.id)).toList ↔
      ∃ key ∈ keys, key.id = id := by
    intro id
    simp
  obtain ⟨kept, final, hkeep, hmap, hsub, hpruned⟩ :=
    keepLatestOfEach_cases hstore (nodup_ids keys)
      (fun id hid => hmem.1 hid) listed fun key hkey _ => by
      rw [hsame]
      exact (hkeys key).1 hkey
  rw [hsame] at hpruned hsub
  refine ⟨keys, listed, kept, final, hlist, ?_, hkeys, ?_, ?_, ?_, hpruned.same_or_none⟩
  · unfold recoverFrom groupById
    rw [hlist]
    dsimp only
    rw [hkeep]
  · rw [hmap]
    exact nodup_ids keys
  · exact fun key hkey => ⟨(hsub key hkey).1, hpruned.spares (.inl hkey), (hsub key hkey).2⟩
  · intro key hkey
    have hid := hmem.2 ⟨key, hkey, rfl⟩
    rw [← hmap] at hid
    exact List.mem_map.1 hid

/-- What is recovered: every mail that had a record has one that was kept, which is the newest, and
is tracked under its key. -/
theorem recoverFrom_cases (hstore : store.Browsable holds view) (now : Instant) (records : σ) :
    ∃ kept records', recoverFrom store now records = (.ok (recover kept now), records') ∧
      (kept.map RecordKey.id).Nodup ∧
      (∀ key ∈ kept, holds records key ≠ none ∧ holds records' key = holds records key ∧
        ((holds records).seen view).Newest (fun k => holds records k ≠ none ∧ k.id = key.id) key) ∧
      (∀ key, holds records key ≠ none → ∃ k ∈ kept, k.id = key.id) ∧
      (∀ key, holds records' key = holds records key ∨ holds records' key = none) := by
  obtain ⟨keys, -, kept, records', -, hrecover, hkeys, hids, hkept, hcovers, hpruned⟩ :=
    recoverFrom_chooses hstore now records
  refine ⟨kept, records', hrecover, hids, fun key hkey => ?_,
    fun key hkey => hcovers key ((hkeys key).2 hkey), hpruned⟩
  obtain ⟨hlisted, hsame, between, after, hchoice, hagree⟩ := hkept key hkey
  refine ⟨(hkeys key).1 hlisted, hsame, ?_⟩
  have hmem : ∀ {k}, k ∈ keys.filter (·.id = key.id) ↔ k ∈ keys ∧ k.id = key.id :=
    RecordKey.mem_filter_id
  have hcandidate := hmem.2 ⟨hlisted, rfl⟩
  obtain ⟨first, read, hkeep, -, hnewest, -⟩ :=
    keepLatest_cases hstore between (List.ne_nil_of_mem hcandidate) fun k hk => by
      rw [hagree k (hmem.1 hk).2]
      exact (hkeys k).1 (hmem.1 hk).1
  cases hchoice.symm.trans hkeep
  refine hnewest.congr hcandidate (fun k => by rw [hmem, hkeys]) fun k hk => ?_
  exact congrArg (Option.map (view k)) (hagree k (hmem.1 hk).2).symm

/-- What is tracked one after the other is what was tracked before and the new mails. -/
theorem key?_foldl_track (keys : List RecordKey) (now : Instant)
    (hids : (keys.map RecordKey.id).Nodup)
    (t : Tracking) (id : MailId) (key : RecordKey) :
    (keys.foldl (fun t key => t.track key key.time now) t).key? id = some key ↔
      (key ∈ keys ∧ key.id = id) ∨ (id ∉ keys.map RecordKey.id ∧ t.key? id = some key) := by
  induction keys generalizing t with
  | nil => simp
  | cons first keys ih =>
      obtain ⟨hout, hids⟩ := List.nodup_cons.1 hids
      rw [List.foldl_cons, ih hids, Tracking.key?_track]
      by_cases hid : id = first.id
      · subst hid
        have hlater : ¬ (key ∈ keys ∧ key.id = first.id) := by
          rintro ⟨hkey, heq⟩
          exact hout (heq ▸ List.mem_map_of_mem hkey)
        simp only [hlater, hout, not_false_eq_true, true_and, false_or, if_true, Option.some.injEq,
          List.map_cons, List.mem_cons, not_true_eq_false, false_and, or_false]
        constructor
        · rintro rfl
          exact ⟨.inl rfl, rfl⟩
        · rintro ⟨heq | hkey, hid⟩
          · exact heq.symm
          · exact absurd ⟨hkey, hid⟩ hlater
      · have hfirst : key.id = id → key ≠ first := by
          rintro hkid rfl
          exact hid hkid.symm
        simp only [hid, if_false, List.map_cons, List.mem_cons, false_or]
        constructor
        · rintro (⟨hkey, hkid⟩ | hold)
          · exact .inl ⟨.inr hkey, hkid⟩
          · exact .inr hold
        · rintro (⟨heq | hkey, hkid⟩ | hold)
          · exact absurd heq (hfirst hkid)
          · exact .inl ⟨hkey, hkid⟩
          · exact .inr hold

/-- What is tracked after a recovery, as a plain queue. -/
theorem plain_foldl_track (keys : List RecordKey) (now : Instant) (pre : List RecordKey)
    (t : Tracking) (horderly : t.Orderly) (hplain : t.plain = .opened pre now)
    (htracked : ∀ id, t.key? id ≠ none → id ∈ pre.map RecordKey.id)
    (hids : ((pre ++ keys).map RecordKey.id).Nodup)
    (htimes : (pre ++ keys).Pairwise fun a b => a.time ≤ b.time) :
    (keys.foldl (fun t key => t.track key key.time now) t).plain = .opened (pre ++ keys) now ∧
      (keys.foldl (fun t key => t.track key key.time now) t).Orderly := by
  induction keys generalizing pre t with
  | nil =>
      rw [List.append_nil]
      exact ⟨hplain, horderly⟩
  | cons key keys ih =>
      have hids' := hids
      rw [List.map_append, List.map_cons] at hids'
      have hid : key.id ∉ pre.map RecordKey.id := by
        intro hmem
        exact (List.nodup_append.1 hids').2.2 _ hmem _ (List.mem_cons_self ..) rfl
      have htime : ∀ k ∈ pre, k.time ≤ key.time := by
        intro k hk
        exact (List.pairwise_append.1 htimes).2.2 k hk key (List.mem_cons_self ..)
      have hkey : t.key? key.id = none := by
        by_cases hnone : t.key? key.id = none
        · exact hnone
        · exact absurd (htracked key.id hnone) hid
      have hlease : t.leaseOf? key.id = none := by
        rw [Tracking.leaseOf?_eq, Option.map_eq_none_iff.1 hkey]
        rfl
      have happend : pre ++ key :: keys = (pre ++ [key]) ++ keys := by simp
      rw [happend] at hids htimes ⊢
      refine ih (pre ++ [key]) (t.track key key.time now) (horderly.schedule_assign ..) ?_ ?_ hids
        htimes
      · rw [← PlainQueue.place_opened hid htime, ← hplain]
        exact Tracking.plain_schedule_free horderly.toBounded hlease ..
      · intro id hsome
        rw [Tracking.key?_track] at hsome
        rw [List.map_append, List.mem_append]
        by_cases heq : id = key.id
        · exact .inr (by simp [heq])
        · rw [if_neg heq] at hsome
          exact .inl (htracked id hsome)

theorem plain_empty (now : Instant) : Tracking.empty.plain = .opened [] now := by
  apply PlainQueue.ext
  · rfl
  · have hnone : (∅ : Std.ExtTreeMap Due Position).toList = [] := by simp
    simp only [Tracking.plain, Tracking.empty, hnone]
    rfl
  · apply Std.ExtTreeMap.ext_getElem?
    intro id
    simp [Tracking.plain, Tracking.empty, PlainQueue.opened]
  · rfl

theorem orderly_empty : Tracking.empty.Orderly where
  ready_le := by simp [Tracking.empty]
  delayed_le := by simp [Tracking.empty]
  once {id entry} hentry _ := by simp [Tracking.empty] at hentry

/-- What is tracked after a recovery: the mails of the kept records, each under its key, and the
plain queue that is opened over them in key order. -/
theorem recover_spec {keys : List RecordKey} (hids : (keys.map RecordKey.id).Nodup)
    (now : Instant) :
    (∀ id key, (recover keys now).key? id = some key ↔ key ∈ keys ∧ key.id = id) ∧
      (recover keys now).plain = .opened (Std.ExtTreeSet.ofList keys).toList now ∧
      (recover keys now).Orderly := by
  have hordered : (Std.ExtTreeSet.ofList keys).toList.Pairwise fun a b => compare a b = .lt :=
    Std.ExtTreeSet.ordered_toList
  have hmem : ∀ {key}, key ∈ (Std.ExtTreeSet.ofList keys).toList ↔ key ∈ keys := by
    intro key
    simp
  have hnodup : (Std.ExtTreeSet.ofList keys).toList.Nodup := by
    refine hordered.imp ?_
    intro a b hab heq
    simp [heq] at hab
  have hdistinct : keys.Nodup :=
    List.Pairwise.of_map RecordKey.id (fun a b hne heq => hne (congrArg _ heq)) hids
  have hsame : (Std.ExtTreeSet.ofList keys).toList.Perm keys :=
    (List.perm_ext_iff_of_nodup hnodup hdistinct).2 fun _ => hmem
  have hids' : ((Std.ExtTreeSet.ofList keys).toList.map RecordKey.id).Nodup :=
    (hsame.map RecordKey.id).nodup_iff.2 hids
  refine ⟨?_, ?_⟩
  · intro id key
    unfold recover
    rw [key?_foldl_track _ now hids', hmem]
    simp [Tracking.key?, Tracking.empty]
  · have htimes : (Std.ExtTreeSet.ofList keys).toList.Pairwise fun a b => a.time ≤ b.time :=
      hordered.imp RecordKey.time_le_of_compare
    exact plain_foldl_track _ now [] .empty orderly_empty (plain_empty now)
      (by simp [Tracking.key?, Tracking.empty]) hids' htimes

/-- A mail that is tracked and waits for nothing but the time of its key. -/
structure Awaits (tracking : Tracking) (now : Instant) (key : RecordKey) : Prop where
  tracked : tracking.key? key.id = some key
  free : tracking.leaseOf? key.id = none
  visible : ∀ later, key.id ∈ (tracking.promoteDue later).plain.visible ↔
    key.time ≤ now ∨ key.time ≤ later

/-- After a recovery every mail waits for the time of its key. -/
theorem recover_awaits {keys : List RecordKey} (hids : (keys.map RecordKey.id).Nodup)
    (now : Instant) {key : RecordKey} (hkey : key ∈ keys) : Awaits (recover keys now) now key := by
  obtain ⟨htracked, hplain, horderly⟩ := recover_spec hids now
  have hown : (recover keys now).key? key.id = some key := (htracked key.id key).2 ⟨hkey, rfl⟩
  refine ⟨hown, ?_, fun later => ?_⟩
  · rw [← Tracking.leased_plain, hplain]
    simp [PlainQueue.opened]
  · rw [(Tracking.plain_promoteDue horderly later).1, hplain, PlainQueue.visible_opened]
    constructor
    · rintro ⟨k, hk, hid, hdue⟩
      have hsame := (htracked key.id k).2 ⟨by simpa using hk, hid⟩
      cases hown.symm.trans hsame
      exact hdue
    · exact fun hdue => ⟨key, by simpa using hkey, rfl, hdue⟩

theorem keepLatestOfEach_of_single {groups : List (List RecordKey)}
    (hsingle : ∀ candidates ∈ groups, candidates.length ≤ 1) (records : σ) :
    keepLatestOfEach store groups records = (groups.flatten, records) := by
  induction groups with
  | nil => rfl
  | cons candidates groups ih =>
      have hothers := ih fun g hg => hsingle g (List.mem_cons_of_mem _ hg)
      have hlength := hsingle candidates (List.mem_cons_self ..)
      match candidates with
      | [] => simp [keepLatestOfEach, keepLatest, hothers]
      | [key] => simp [keepLatestOfEach, keepLatest, hothers]
      | _ :: _ :: _ => simp at hlength

/-- One record is recovered, whether or not it can be read. -/
theorem recoverFrom_singleton {records records' : σ} {key : RecordKey}
    (hlist : store.list records = (.ok [key], records')) (now : Instant) :
    recoverFrom store now records = (.ok (recover [key] now), records') := by
  have hgroups : groupById [key] = [[key]] := by
    have hids : (Std.ExtTreeSet.ofList ([key].map RecordKey.id)).toList = [key.id] := rfl
    unfold groupById
    dsimp only
    rw [hids]
    simp
  rw [recoverFrom, hlist]
  dsimp only
  rw [hgroups, keepLatestOfEach_of_single (by simp)]
  rfl

/-- With one record for each mail, all of them are recovered and nothing is deleted. -/
theorem recoverFrom_of_single (hstore : store.Lawful holds) (now : Instant) {records : σ}
    (hsingle : ∀ {a b}, holds records a ≠ none → holds records b ≠ none → a.id = b.id → a = b) :
    ∃ keys, recoverFrom store now records = (.ok (recover keys now), (store.list records).2) ∧
      holds (store.list records).2 = holds records ∧ (keys.map RecordKey.id).Nodup ∧
      ∀ key, key ∈ keys ↔ holds records key ≠ none := by
  obtain ⟨keys, listed, hlist, hsame, hnodup, hkeys⟩ := hstore.list records
  have hids : (keys.map RecordKey.id).Nodup := by
    refine List.pairwise_map.2 (hnodup.imp_of_mem ?_)
    intro a b ha hb hne hid
    exact hne (hsingle ((hkeys a).1 ha) ((hkeys b).1 hb) hid)
  refine ⟨keys, ?_, by rw [hlist, hsame], hids, hkeys⟩
  have hgroups : ∀ candidates ∈ groupById keys, candidates.length ≤ 1 := by
    intro candidates hcandidates
    obtain ⟨id, -, rfl⟩ := List.mem_map.1 hcandidates
    rcases filter_cases_of_nodup_map hids id with hnone | ⟨key, hone, -⟩
    · rw [hnone]
      exact Nat.zero_le 1
    · rw [hone]
      exact Nat.le_refl 1
  have hmem : ∀ key, key ∈ (groupById keys).flatten ↔ key ∈ keys := by
    intro key
    rw [List.mem_flatten]
    constructor
    · rintro ⟨candidates, hcandidates, hkey⟩
      obtain ⟨id, -, rfl⟩ := List.mem_map.1 hcandidates
      exact (List.mem_filter.1 hkey).1
    · intro hkey
      have hid : key.id ∈ (Std.ExtTreeSet.ofList (keys.map RecordKey.id)).toList := by
        simpa using ⟨key, hkey, rfl⟩
      exact ⟨keys.filter (·.id = key.id), List.mem_map_of_mem hid, by simpa using hkey⟩
  have hset : Std.ExtTreeSet.ofList (groupById keys).flatten = Std.ExtTreeSet.ofList keys := by
    apply Std.ExtTreeSet.ext_mem
    intro key
    simp [hmem]
  unfold recoverFrom
  rw [hlist]
  dsimp only
  rw [keepLatestOfEach_of_single hgroups]
  unfold recover
  rw [hset]

end MailQueue

end Postroom
