import Postroom.Proofs.Matcher.Condition
import Postroom.Proofs.Matcher.Grammar
import Postroom.Proofs.Matcher.Individual

/-!
The meaning of matcher expressions. What a formula selects among the recipients of a mail is what it
says of the answers of its atoms, whatever else they answer. It fails if its left term does, or if
its right term does and is asked; the right term of a conjunction whose left term selects nobody at
all is not asked.
-/

namespace Postroom

namespace Matcher

def FailsOn (matcher : Matcher) (mail : Mail) : Prop :=
  ∃ e, matcher.select mail = .error e

def Selects (matcher : Matcher) (mail : Mail) (r : Address) : Prop :=
  ∃ selected, matcher.select mail = .ok selected ∧ r ∈ selected

/-- Whether a term is true of a recipient, given the answer of its atom. -/
def Term.Holds (t : Term Matcher) (mail : Mail) (r : Address) : Prop :=
  if t.negated then ¬ t.operand.Selects mail r else t.operand.Selects mail r

def Connective.Holds : Connective → Prop → Prop → Prop
  | .and => And
  | .or => Or

def Formula.Holds (mail : Mail) (r : Address) : Formula Matcher → Prop
  | .single t => t.Holds mail r
  | .joined left op right => op.Holds (left.Holds mail r) (right.Holds mail r)

/-- Whether the right term is asked when the left one does not fail. -/
def Connective.Asks (left : Matcher) (mail : Mail) : Connective → Prop
  | .and => ∃ selected, left.select mail = .ok selected ∧ selected.isEmpty = false
  | .or => True

def Formula.Fails (mail : Mail) : Formula Matcher → Prop
  | .single t => t.operand.FailsOn mail
  | .joined left op right =>
      left.operand.FailsOn mail ∨ right.operand.FailsOn mail ∧ op.Asks left.matcher mail

variable {left right : Matcher} {mail : Mail} {selected : Recipients}

theorem selects_iff (h : left.select mail = .ok selected) (r : Address) :
    left.Selects mail r ↔ r ∈ selected := by
  constructor
  · rintro ⟨found, hfound, hr⟩
    rw [h] at hfound
    cases hfound
    exact hr
  · intro hr
    exact ⟨selected, h, hr⟩

/-- A term selects the recipients of which it is true. -/
theorem Term.mem_iff {t : Term Matcher} (h : t.matcher.select mail = .ok selected) {r : Address}
    (hr : r ∈ mail.recipients) : r ∈ selected ↔ t.Holds mail r := by
  unfold Term.Holds
  rw [Term.matcher] at h
  split at h
  · next hnegated =>
      obtain ⟨inner, hinner, -⟩ := ok_of_bind h
      rw [select_negate hinner] at h
      cases h
      rw [if_pos hnegated, selects_iff hinner, Std.ExtTreeSet.mem_filter]
      simp [hr, ← Std.ExtTreeSet.contains_iff_mem]
  · next hnegated => rw [if_neg hnegated, selects_iff h]

theorem mem_either {first : Recipients} (hfirst : left.select mail = .ok first)
    (h : (left.either right).select mail = .ok selected) (r : Address) :
    ∃ second, right.select mail = .ok second ∧ (r ∈ selected ↔ r ∈ first ∨ r ∈ second) := by
  obtain ⟨_, hsame, hrest⟩ := ok_of_bind h
  obtain ⟨second, hsecond, -⟩ := ok_of_bind hrest
  rw [select_either hfirst hsecond] at h
  cases h
  refine ⟨second, hsecond, ?_⟩
  rw [Std.ExtTreeSet.mem_insertMany_list]
  simp

/-- A conjunction that selects nobody on the left does not ask what stands on the right. -/
theorem mem_both {first : Recipients} (hfirst : left.select mail = .ok first)
    (h : (left.both right).select mail = .ok selected) (r : Address) :
    (r ∉ first ∧ r ∉ selected) ∨
      ∃ second, right.select mail = .ok second ∧ (r ∈ selected ↔ r ∈ first ∧ r ∈ second) := by
  rw [select_both hfirst] at h
  split at h
  · next hempty =>
      cases h
      rw [Std.ExtTreeSet.isEmpty_iff] at hempty
      simp [hempty]
  · cases hsecond : right.select mail with
    | error e => simp [hsecond, Except.map] at h
    | ok second =>
        simp only [hsecond, Except.map, Except.ok.injEq] at h
        refine .inr ⟨second, rfl, ?_⟩
        rw [← h]
        simp

/-- A formula selects the recipients of which it is true. -/
theorem Formula.mem_iff {g : Formula Matcher} (h : g.matcher.select mail = .ok selected)
    {r : Address} (hr : r ∈ mail.recipients) : r ∈ selected ↔ g.Holds mail r := by
  cases g with
  | single t => exact t.mem_iff h hr
  | joined left op right =>
      rw [Formula.Holds]
      rw [Formula.matcher] at h
      cases op with
      | and =>
          obtain ⟨first, hfirst, -⟩ := ok_of_bind h
          have hleft := Term.mem_iff hfirst hr
          rcases mem_both hfirst h r with ⟨hnot, hout⟩ | ⟨second, hsecond, hiff⟩
          · exact iff_of_false hout fun hboth => hnot (hleft.2 hboth.1)
          · rw [hiff, hleft, Term.mem_iff hsecond hr]
            rfl
      | or =>
          obtain ⟨first, hfirst, -⟩ := ok_of_bind h
          obtain ⟨second, hsecond, hiff⟩ := mem_either hfirst h r
          rw [hiff, Term.mem_iff hfirst hr, Term.mem_iff hsecond hr]
          rfl

end Matcher

namespace Catalogue

open Matcher

namespace Sample

end Sample

end Catalogue

end Postroom
