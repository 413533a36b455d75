import Mathlib.Data.List.Nodup
import Mathlib.Data.List.Perm.Subperm
import Postroom.Proofs.Chain.History

/-!
Books over the recipients and the ids of mails. `Accounts before history after` says that some mails
have become others, with nothing lost or doubled that the history does not account for. Books are
added up along a run, and mails that have no part in a step stand beside it unchanged. So it is
enough to keep them for one mail at one stage.
-/

namespace Postroom

/-- The recipients of a set, listed, are all different. -/
theorem Recipients.nodup_toList (recipients : Recipients) : recipients.toList.Nodup :=
  Std.ExtTreeSet.ordered_toList.imp fun hlt heq => by simp [heq] at hlt

/-- Two parts of a set that have nobody in common are together not larger than the set. -/
theorem Recipients.size_add_size_le {a b whole : Recipients} (hapart : ∀ r ∈ a, r ∉ b)
    (ha : ∀ r ∈ a, r ∈ whole) (hb : ∀ r ∈ b, r ∈ whole) : a.size + b.size ≤ whole.size := by
  have hnodup : (a.toList ++ b.toList).Nodup := by
    refine List.nodup_append.2 ⟨nodup_toList a, nodup_toList b, ?_⟩
    rintro r hr other hother rfl
    exact hapart r (by simpa using hr) (by simpa using hother)
  have hsubset : a.toList ++ b.toList ⊆ whole.toList := by
    intro r hr
    rcases List.mem_append.1 hr with hr | hr
    · simpa using ha r (by simpa using hr)
    · simpa using hb r (by simpa using hr)
  have hlength := (List.subperm_of_subset hnodup hsubset).length_le
  simpa only [List.length_append, Std.ExtTreeSet.length_toList] using hlength

theorem Recipients.size_le {part whole : Recipients} (hsub : ∀ r ∈ part, r ∈ whole) :
    part.size ≤ whole.size := by
  have hnobody : ∀ r ∈ part, r ∉ (∅ : Recipients) := by simp
  have hsizes := size_add_size_le hnobody hsub (by simp)
  omega

theorem Recipients.size_pos {recipients : Recipients} (h : recipients ≠ ∅) :
    0 < recipients.size := by
  refine Nat.pos_of_ne_zero fun hzero => h ?_
  rwa [← Std.ExtTreeSet.isEmpty_iff, Std.ExtTreeSet.isEmpty_eq_size_beq_zero, beq_iff_eq]

/-- How many of some mails hold a recipient. -/
def holders (r : Address) (mails : List Mail) : Nat :=
  mails.countP fun mail => mail.recipients.contains r

theorem holders_append (r : Address) (xs ys : List Mail) :
    holders r (xs ++ ys) = holders r xs + holders r ys :=
  List.countP_append ..

theorem holders_pos_iff {r : Address} {mails : List Mail} :
    0 < holders r mails ↔ ∃ mail ∈ mails, r ∈ mail.recipients := by
  simp [holders, List.countP_pos_iff]

theorem holders_perm (r : Address) {xs ys : List Mail} (h : xs.Perm ys) :
    holders r xs = holders r ys :=
  h.countP_eq _

/-- Two mails without a common recipient. -/
def Mail.Apart (a b : Mail) : Prop :=
  ∀ r ∈ a.recipients, r ∉ b.recipients

/-- If nobody is on two of some mails, these have no recipients in common. -/
theorem pairwise_apart_of_holders {mails : List Mail} (h : ∀ r, holders r mails ≤ 1) :
    mails.Pairwise Mail.Apart := by
  induction mails with
  | nil => exact .nil
  | cons mail rest ih =>
      have hsplit : ∀ r, holders r [mail] + holders r rest ≤ 1 := by
        intro r
        rw [← holders_append]
        exact h r
      refine .cons ?_ (ih fun r => by have := hsplit r; omega)
      intro other hother r hr hr'
      have hhere : 0 < holders r [mail] := holders_pos_iff.2 ⟨mail, by simp, hr⟩
      have hthere : 0 < holders r rest := holders_pos_iff.2 ⟨other, hother, hr'⟩
      have := hsplit r
      omega

/-- How often, in a history, the way of a recipient ends. -/
def takings (r : Address) (history : List Incident) : Nat :=
  history.countP fun incident => decide (incident.Takes r)

@[simp] theorem takings_nil (r : Address) : takings r [] = 0 := rfl

theorem takings_append (r : Address) (xs ys : List Incident) :
    takings r (xs ++ ys) = takings r xs + takings r ys :=
  List.countP_append ..

theorem takings_singleton (r : Address) (incident : Incident) :
    takings r [incident] = if incident.Takes r then 1 else 0 := by
  simp [takings, List.countP_singleton]

theorem takings_pos_iff {r : Address} {history : List Incident} :
    0 < takings r history ↔ ∃ incident ∈ history, incident.Takes r := by
  simp [takings, List.countP_pos_iff]

structure Accounts (before : List Mail) (history : List Incident) (after : List Mail) : Prop where
  /-- Each recipient is on as many mails as before, less those that an incident took it off. -/
  balance : ∀ r, holders r before = holders r after + takings r history
  /-- The ids are old ones or were drawn for forks, each for one mail. -/
  ids : ∀ id, (after.map Mail.id).count id ≤
    (before.map Mail.id).count id + (forkIds history).count id

namespace Accounts

variable {before middle after others : List Mail} {history later : List Incident}

/-- Nobody is on more mails than before. -/
theorem single (h : Accounts before history after) (r : Address) :
    holders r after ≤ holders r before := by
  have := h.balance r
  omega

/-- Whoever was on a mail still is, or was taken off by an incident. -/
theorem covered (h : Accounts before history after) (r : Address) (hr : 0 < holders r before) :
    0 < holders r after ∨ ∃ incident ∈ history, incident.Takes r := by
  have hbalance := h.balance r
  rw [← takings_pos_iff]
  omega

theorem refl (mails : List Mail) : Accounts mails [] mails where
  balance _ := rfl
  ids _ := Nat.le_add_right _ _

/-- A mail that keeps its id and its recipients. -/
theorem relabel {a b : Mail} (hid : b.id = a.id) (hsame : b.recipients = a.recipients) :
    Accounts [a] [] [b] where
  balance r := by simp [holders, hsame]
  ids id := by simp [hid]

/-- A mail whose recipients are divided between two, one of them with a new id. -/
theorem split {mail rest fork : Mail} (hid : rest.id = mail.id) (hapart : rest.Apart fork)
    (hmem : ∀ r, r ∈ mail.recipients ↔ r ∈ rest.recipients ∨ r ∈ fork.recipients) :
    Accounts [mail] [.forked fork.id] [rest, fork] where
  balance r := by
    have hfree : ¬ (Incident.forked fork.id).Takes r := id
    rw [takings_singleton, if_neg hfree]
    by_cases hrest : r ∈ rest.recipients
    · have hfork : r ∉ fork.recipients := hapart r hrest
      simp [holders, hmem r, hrest, hfork]
    · simp [holders, hmem r, hrest, List.countP_cons]
  ids id := by
    simp only [List.map_cons, List.map_nil, hid, forkIds, Incident.forkId?, List.filterMap_cons,
      List.filterMap_nil, List.count_cons, List.count_nil]
    omega

/-- A mail that a mailet has served without taking anybody on. -/
theorem served {stage : Stage} {mail : Mail} {pass : Pass}
    (hid : (stage.mailet.service mail pass).mail.id = mail.id)
    (hsub : ∀ r ∈ (stage.mailet.service mail pass).mail.recipients, r ∈ mail.recipients) :
    Accounts [mail] [.served stage mail pass] [(stage.mailet.service mail pass).mail] where
  balance r := by
    rw [takings_singleton]
    by_cases hr : r ∈ (stage.mailet.service mail pass).mail.recipients
    · simp [holders, Incident.Takes, hr, hsub r hr]
    · by_cases hbefore : r ∈ mail.recipients <;> simp [holders, Incident.Takes, hr, hbefore]
  ids id := by simp [hid]

/-- A mail that is gone, by an incident that takes all of its recipients. -/
theorem gone {mail : Mail} {incident : Incident}
    (htakes : ∀ r, incident.Takes r ↔ r ∈ mail.recipients) : Accounts [mail] [incident] [] where
  balance r := by
    rw [takings_singleton, if_congr (htakes r) rfl rfl]
    by_cases hr : r ∈ mail.recipients <;> simp [holders, hr]
  ids id := Nat.zero_le _

theorem trans (first : Accounts before history middle) (second : Accounts middle later after) :
    Accounts before (history ++ later) after where
  balance r := by
    rw [first.balance, second.balance, takings_append]
    omega
  ids id := by
    have hfirst := first.ids id
    have hsecond := second.ids id
    rw [forkIds_append, List.count_append]
    omega

/-- Mails that have no part in it stay as they are. -/
theorem beside (h : Accounts before history after) (others : List Mail) :
    Accounts (before ++ others) history (after ++ others) where
  balance r := by
    have := h.balance r
    rw [holders_append, holders_append]
    omega
  ids id := by
    have := h.ids id
    simp only [List.map_append, List.count_append]
    omega

/-- The order of the mails does not matter. -/
theorem perm (h : Accounts before history after) {before' after' : List Mail}
    (hbefore : before.Perm before') (hafter : after.Perm after') :
    Accounts before' history after' where
  balance r := by
    rw [← holders_perm r hbefore, ← holders_perm r hafter]
    exact h.balance r
  ids id := by
    have := h.ids id
    rwa [(hafter.map _).count_eq, (hbefore.map _).count_eq] at this

/-- Nobody is on a mail afterwards who was on none before. -/
theorem subset (h : Accounts before history after) {r : Address} {mail : Mail}
    (hmail : mail ∈ after) (hr : r ∈ mail.recipients) : ∃ m ∈ before, r ∈ m.recipients := by
  have hafter : 0 < holders r after := holders_pos_iff.2 ⟨mail, hmail, hr⟩
  exact holders_pos_iff.1 (Nat.lt_of_lt_of_le hafter (h.single r))

/-- What one mail has become has no recipient twice. -/
theorem apart_of_singleton {mail : Mail} (h : Accounts [mail] history after) :
    after.Pairwise Mail.Apart := by
  apply pairwise_apart_of_holders
  intro r
  exact Nat.le_trans (h.single r) (List.countP_le_length ..)

/-- If every id is drawn once, what one mail has become has different ids. -/
theorem nodup_ids_of_singleton {mail : Mail} (h : Accounts [mail] history after)
    (hfresh : (mail.id :: forkIds history).Nodup) : (after.map Mail.id).Nodup := by
  apply List.nodup_iff_count_le_one.2
  intro id
  have hids := h.ids id
  have hone := List.nodup_iff_count_le_one.1 hfresh id
  rw [List.count_cons] at hone
  rw [List.map_singleton, List.count_singleton] at hids
  omega

/-- The ids of what one mail has become. -/
theorem id_of_singleton {mail m : Mail} (h : Accounts [mail] history after) (hm : m ∈ after) :
    m.id = mail.id ∨ m.id ∈ forkIds history := by
  have hids := h.ids m.id
  have hpos : 0 < (after.map Mail.id).count m.id :=
    List.count_pos_iff.2 (List.mem_map_of_mem hm)
  by_cases heq : m.id = mail.id
  · exact .inl heq
  · rw [List.map_singleton, List.count_singleton] at hids
    have hne : (mail.id == m.id) = false := by simpa using Ne.symm heq
    rw [if_neg (by simp [hne])] at hids
    exact .inr (List.count_pos_iff.1 (by omega))

/-- The same with mails beside it whose ids were drawn as well. -/
theorem nodup_ids_append {mail : Mail} (h : Accounts [mail] history after) {sent : List Mail}
    (hfresh : (mail.id :: (forkIds history ++ sent.map Mail.id)).Nodup) :
    ((after ++ sent).map Mail.id).Nodup := by
  obtain ⟨hout, hparts⟩ := List.nodup_cons.1 hfresh
  obtain ⟨hforks, hsent, happart⟩ := List.nodup_append.1 hparts
  rw [List.map_append]
  refine List.nodup_append.2 ⟨?_, hsent, ?_⟩
  · refine h.nodup_ids_of_singleton (List.nodup_cons.2 ⟨fun hmem => hout ?_, hforks⟩)
    exact List.mem_append_left _ hmem
  · intro id hid other hother heq
    obtain ⟨m, hm, rfl⟩ := List.mem_map.1 hid
    rcases h.id_of_singleton hm with hsame | hfork
    · exact hout (List.mem_append_right _ (hsame ▸ heq ▸ hother))
    · exact happart _ hfork other hother heq

end Accounts

end Postroom
