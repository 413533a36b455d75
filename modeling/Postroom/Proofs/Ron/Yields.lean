import Postroom.Ron.Value

/-!
What holds of whatever a reader gives, for every document. A condition on the values of fields holds
of the struct that they make, however many fields there are and however they are written.
-/

namespace Postroom.Ron

/-- Whether a condition holds of every value that a reader gives. -/
def Yields {α : Type} (read : Reader α) (post : α → Prop) : Prop :=
  ∀ cs a rest, read cs = .ok (a, rest) → post a

section

variable {α β : Type} {read : Reader α} {next : α → Reader β} {P : α → Prop} {Q : β → Prop}

theorem yields_any (read : Reader α) : Yields read fun _ => True :=
  fun _ _ _ _ => trivial

theorem yields_pure {a : α} (h : P a) : Yields (pure a) P := by
  intro cs b rest hread
  cases hread
  exact h

theorem yields_failure (e : DocumentError) : Yields (throw e : Reader α) P := by
  intro cs a rest h
  cases h

theorem Yields.bind (h : Yields read P) (hnext : ∀ a, P a → Yields (next a) Q) :
    Yields (read >>= next) Q := by
  intro cs b rest hread
  change (read cs >>= fun found => next found.1 found.2) = _ at hread
  cases hfound : read cs with
  | error e =>
      rw [hfound] at hread
      cases hread
  | ok found =>
      rw [hfound] at hread
      exact hnext found.1 (h cs found.1 found.2 hfound) found.2 b rest hread

theorem Yields.of_run (h : Yields read P) {cs : List Char} {a : α}
    (hread : (read.run cs).map Prod.fst = .ok a) : P a := by
  cases hfound : read.run cs with
  | error e =>
      rw [hfound] at hread
      cases hread
  | ok found =>
      rw [hfound] at hread
      cases hread
      exact h cs found.1 found.2 hfound

/-- A condition on what comes last, whatever was read before it. -/
theorem yields_last (hnext : ∀ a, Yields (next a) Q) : Yields (read >>= next) Q :=
  (yields_any read).bind fun a _ => hnext a

end

section

variable {α : Type} {P : α → Prop} {value : Scope → Reader α}

theorem yields_assigned (h : ∀ scope, Yields (value scope) P) (scope : Scope) :
    Yields (assigned scope value) P :=
  yields_last fun _ => yields_last fun _ => yields_last fun _ => yields_last fun scope => h scope

theorem yields_payload (h : ∀ scope, Yields (value scope) P) (scope : Scope) :
    Yields (payload scope value) P := by
  refine yields_last fun _ => yields_last fun _ => yields_last fun _ => yields_last fun scope => ?_
  exact (h scope).bind fun a ha => yields_last fun _ => yields_last fun _ => yields_pure ha

theorem yields_variant {cases : List (String × (Scope → Reader α))}
    (h : ∀ entry ∈ cases, ∀ scope, Yields (entry.2 scope) P) (scope : Scope) :
    Yields (variant scope cases) P := by
  refine yields_last fun _ => yields_last fun scope => yields_last fun _ => yields_last fun word =>
    ?_
  split
  · rename_i read hread
    obtain ⟨before, after, hcases, -⟩ := List.lookup_eq_some_iff.1 hread
    exact h (word, read) (by simp [hcases]) scope
  · exact yields_failure .malformed

/-- Each field that is read keeps a condition on the draft, so all of them together do. -/
theorem yields_fieldsWithin {known : List (StructField α)}
    (h : ∀ field ∈ known, ∀ scope,
      Yields (field.read scope) fun update => ∀ draft, P draft → P (update draft))
    (scope : Scope) (limit : Nat) (seen : List String) {draft : α} (hdraft : P draft) :
    Yields (fieldsWithin scope known limit seen draft) P := by
  induction limit generalizing seen draft with
  | zero => exact yields_failure .malformed
  | succ limit ih =>
      have hafter : ∀ (found : String) (draft : α), P draft → Yields (do
          if ← acceptComma then fieldsWithin scope known limit (found :: seen) draft
          else if ← ahead ")" then return draft
          else malformed) P := by
        intro found draft hdraft
        refine yields_last fun comma => ?_
        split
        · exact ih (found :: seen) hdraft
        refine yields_last fun closed => ?_
        split
        · exact yields_pure hdraft
        · exact yields_failure .malformed
      refine yields_last fun _ => yields_last fun closed => ?_
      split
      · exact yields_pure hdraft
      refine yields_last fun _ => yields_last fun found => ?_
      dsimp only
      split
      · exact yields_last fun _ => hafter found draft hdraft
      · rename_i field hfield
        split
        · exact (yields_failure .malformed).bind (hafter found)
        · have hread := yields_assigned (h field (List.mem_of_find?_eq_some hfield)) scope
          exact hread.bind fun update hupdate => hafter found (update draft) (hupdate draft hdraft)

theorem yields_struct {known : List (StructField α)}
    (h : ∀ field ∈ known, ∀ scope,
      Yields (field.read scope) fun update => ∀ draft, P draft → P (update draft))
    {draft : α} (hdraft : P draft) (scope : Scope) (expected : String) :
    Yields (struct scope expected known draft pure) P := by
  refine yields_last fun _ => yields_last fun _ => yields_last fun _ => ?_
  have hfields : Yields (fields scope known draft) P :=
    yields_last fun scope => yields_last fun cs => yields_fieldsWithin h scope _ [] hdraft
  refine hfields.bind fun found hfound => ?_
  rw [pure_bind]
  exact yields_last fun _ => yields_last fun _ => yields_pure hfound

theorem of_document (h : ∀ scope, Yields (value scope) P) {source : String} {a : α}
    (hsource : document value source = .ok a) : P a := by
  unfold document at hsource
  refine Yields.of_run ?_ hsource
  refine yields_last fun _ => yields_last fun names => (h _).bind fun found hfound => ?_
  refine yields_last fun _ => yields_last fun rest => ?_
  dsimp only
  split
  · exact yields_last fun _ => yields_pure hfound
  · exact yields_pure hfound

end

end Postroom.Ron
