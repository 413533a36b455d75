import Postroom.Proofs.Matcher.Builtin

/-!
Matchers that judge each recipient individually. Such a matcher selects nobody but recipients, and
whether it selects one of them depends on the mail and on that recipient, not on who else is on the
mail. All built-in matchers are of this kind, and expressions keep it: where the left side of a
conjunction selects nobody and the right side is not asked, it would select nobody of a part either.
-/

namespace Postroom

/-- Whether a mail is like another one, with a single recipient of it as its only one. Ids and times
may differ. -/
structure Mail.Alone (r : Address) (alone mail : Mail) : Prop where
  holds : r ∈ mail.recipients
  only : ∀ q, q ∈ alone.recipients ↔ q = r
  sender : alone.sender = mail.sender
  content : alone.content = mail.content
  state : alone.state = mail.state
  attributes : alone.attributes = mail.attributes
  error : alone.error = mail.error
  remoteHost : alone.remoteHost = mail.remoteHost
  remoteAddress : alone.remoteAddress = mail.remoteAddress

namespace Mail.Alone

variable {r : Address} {alone mail : Mail}

theorem mem (h : Mail.Alone r alone mail) : r ∈ alone.recipients :=
  (h.only r).2 rfl

/-- Both are dropped, or neither is. -/
theorem isTerminal_eq (h : Mail.Alone r alone mail) : alone.isTerminal = mail.isTerminal := by
  have hoccupied : ∀ {m : Mail}, r ∈ m.recipients → m.recipients.isEmpty = false := by
    intro m hm
    rw [← Bool.not_eq_true]
    intro hempty
    rw [Std.ExtTreeSet.isEmpty_iff.1 hempty] at hm
    simp at hm
  rw [isTerminal, isTerminal, h.state, hoccupied h.mem, hoccupied h.holds]

theorem setState (h : Mail.Alone r alone mail) (now later : Instant) (state : String) :
    Mail.Alone r (alone.setState later state) (mail.setState now state) :=
  { h with state := rfl }

theorem setError (h : Mail.Alone r alone mail) (now later : Instant) (message : String) :
    Mail.Alone r (alone.setError later message) (mail.setError now message) :=
  { h with error := rfl }

end Mail.Alone

namespace Matcher

/-- Whether a matcher selects recipients only, each for itself. -/
structure Individual (matcher : Matcher) : Prop where
  within : ∀ mail selected, matcher.select mail = .ok selected →
    ∀ r ∈ selected, r ∈ mail.recipients
  alone : ∀ r alone mail selected, Mail.Alone r alone mail →
    matcher.select mail = .ok selected →
    ∃ single, matcher.select alone = .ok single ∧ (r ∈ single ↔ r ∈ selected)

variable {matcher left right : Matcher}

theorem individual_recipientsWhere (name : String) (holds : Address → Bool) :
    (recipientsWhere name holds).Individual where
  within mail selected h r hr := by
    cases h
    simp only [Std.ExtTreeSet.mem_filter] at hr
    exact hr.1
  alone r alone mail selected halone h := by
    cases h
    refine ⟨_, rfl, ?_⟩
    simp [halone.mem, halone.holds]

/-- A condition on the whole mail that does not look at its recipients. -/
theorem individual_of_whole (holds : Mail → Except MatcherError Bool)
    (hsame : ∀ r alone mail, Mail.Alone r alone mail → holds alone = holds mail)
    (hselect : ∀ mail, matcher.select mail =
      (holds mail).map fun whole => if whole then mail.recipients else ∅) :
    matcher.Individual where
  within mail selected h r hr := by
    rw [hselect] at h
    cases hholds : holds mail with
    | error e => simp [hholds, Except.map] at h
    | ok whole =>
        simp only [hholds, Except.map, Except.ok.injEq] at h
        rw [← h] at hr
        cases whole
        · simp at hr
        · simpa using hr
  alone r alone mail selected halone h := by
    rw [hselect] at h ⊢
    rw [hsame r alone mail halone]
    cases hholds : holds mail with
    | error e => simp [hholds, Except.map] at h
    | ok whole =>
        simp only [hholds, Except.map, Except.ok.injEq] at h
        refine ⟨_, rfl, ?_⟩
        rw [← h]
        cases whole
        · simp
        · simp [halone.mem, halone.holds]

theorem individual_allWhen (name : String) (holds : Mail → Bool)
    (hsame : ∀ r alone mail, Mail.Alone r alone mail → holds alone = holds mail) :
    (allWhen name holds).Individual := by
  refine individual_of_whole (fun mail => .ok (holds mail)) ?_ fun mail => rfl
  intro r alone mail halone
  rw [hsame r alone mail halone]

theorem individual_hasHeader (header : String) : (hasHeader header).Individual := by
  refine individual_of_whole
    (fun mail => (mail.content.headers.map fun headers =>
        headers.any (HeaderBlock.hasName header)).mapError
      fun e => ⟨(hasHeader header).name, e.message⟩) ?_ ?_
  · intro r alone mail halone
    rw [halone.content]
  · intro mail
    unfold hasHeader
    dsimp only
    cases mail.content.headers <;> rfl

theorem select_negate {mail : Mail} {inner : Recipients} (h : matcher.select mail = .ok inner) :
    matcher.negate.select mail = .ok (mail.recipients.filter fun r => !inner.contains r) := by
  rw [negate]
  dsimp only
  rw [h]
  rfl

theorem Individual.negate (h : matcher.Individual) : matcher.negate.Individual where
  within mail selected hselect r hr := by
    obtain ⟨inner, -, hselect⟩ := ok_of_bind hselect
    cases hselect
    simp only [Std.ExtTreeSet.mem_filter] at hr
    exact hr.1
  alone r alone mail selected halone hselect := by
    obtain ⟨inner, hinner, -⟩ := ok_of_bind hselect
    rw [select_negate hinner] at hselect
    cases hselect
    obtain ⟨single, hsingle, hiff⟩ := h.alone r alone mail inner halone hinner
    refine ⟨_, select_negate hsingle, ?_⟩
    have hcontains : single.contains r = inner.contains r := by
      rw [Bool.eq_iff_iff, Std.ExtTreeSet.contains_iff_mem, Std.ExtTreeSet.contains_iff_mem, hiff]
    simp [halone.mem, halone.holds, hcontains]

theorem select_either {mail : Mail} {first second : Recipients}
    (hfirst : left.select mail = .ok first) (hsecond : right.select mail = .ok second) :
    (left.either right).select mail = .ok (first.insertMany second.toList) := by
  rw [either]
  dsimp only
  rw [hfirst]
  dsimp only [bind, Except.bind]
  rw [hsecond]
  rfl

theorem Individual.either (hleft : left.Individual) (hright : right.Individual) :
    (left.either right).Individual where
  within mail selected hselect r hr := by
    obtain ⟨first, hfirst, hselect⟩ := ok_of_bind hselect
    obtain ⟨second, hsecond, hselect⟩ := ok_of_bind hselect
    cases hselect
    rw [Std.ExtTreeSet.mem_insertMany_list] at hr
    rcases hr with hr | hr
    · exact hleft.within mail first hfirst r hr
    · exact hright.within mail second hsecond r (by simpa using hr)
  alone r alone mail selected halone hselect := by
    obtain ⟨first, hfirst, hrest⟩ := ok_of_bind hselect
    obtain ⟨second, hsecond, -⟩ := ok_of_bind hrest
    rw [select_either hfirst hsecond] at hselect
    cases hselect
    obtain ⟨one, hone, honeiff⟩ := hleft.alone r alone mail first halone hfirst
    obtain ⟨two, htwo, htwoiff⟩ := hright.alone r alone mail second halone hsecond
    refine ⟨_, select_either hone htwo, ?_⟩
    rw [Std.ExtTreeSet.mem_insertMany_list, Std.ExtTreeSet.mem_insertMany_list]
    simp [honeiff, htwoiff]

/-- What a conjunction selects, by what its left side does. -/
theorem select_both {mail : Mail} {first : Recipients} (hfirst : left.select mail = .ok first) :
    (left.both right).select mail =
      if first.isEmpty then .ok first
      else (right.select mail).map fun second => first.filter fun r => second.contains r := by
  rw [both]
  dsimp only
  rw [hfirst]
  dsimp only [bind, Except.bind]
  split
  · rfl
  · cases right.select mail <;> rfl

/-- A conjunction selects a part of what its left side does. -/
theorem subset_of_select_both {mail : Mail} {first selected : Recipients}
    (hfirst : left.select mail = .ok first)
    (hselect : (left.both right).select mail = .ok selected) : ∀ r ∈ selected, r ∈ first := by
  intro r hr
  rw [select_both hfirst] at hselect
  split at hselect
  · cases hselect
    exact hr
  · cases hsecond : right.select mail with
    | error e => simp [hsecond, Except.map] at hselect
    | ok second =>
        simp only [hsecond, Except.map, Except.ok.injEq] at hselect
        rw [← hselect, Std.ExtTreeSet.mem_filter] at hr
        exact hr.1

theorem Individual.both (hleft : left.Individual) (hright : right.Individual) :
    (left.both right).Individual where
  within mail selected hselect r hr := by
    obtain ⟨first, hfirst, -⟩ := ok_of_bind hselect
    exact hleft.within mail first hfirst r (subset_of_select_both hfirst hselect r hr)
  alone r alone mail selected halone hselect := by
    obtain ⟨first, hfirst, -⟩ := ok_of_bind hselect
    have hsub := subset_of_select_both hfirst hselect r
    obtain ⟨one, hone, honeiff⟩ := hleft.alone r alone mail first halone hfirst
    rw [select_both hfirst] at hselect
    rw [select_both hone]
    by_cases hr : r ∈ first
    · -- the left side selects `r`, so the right side is asked about both mails
      have hsome : ∀ {s : Recipients}, r ∈ s → ¬ s.isEmpty = true := by
        intro s hs hempty
        rw [Std.ExtTreeSet.isEmpty_iff.1 hempty] at hs
        simp at hs
      rw [if_neg (hsome hr)] at hselect
      rw [if_neg (hsome (honeiff.2 hr))]
      cases hsecond : right.select mail with
      | error e => simp [hsecond, Except.map] at hselect
      | ok second =>
          simp only [hsecond, Except.map, Except.ok.injEq] at hselect
          obtain ⟨two, htwo, htwoiff⟩ := hright.alone r alone mail second halone hsecond
          refine ⟨_, by rw [htwo]; rfl, ?_⟩
          rw [← hselect]
          simp [honeiff, htwoiff]
    · -- the left side selects nobody of the mail with `r` alone, so the right side is not asked
      have hnone : one.isEmpty := by
        rw [Std.ExtTreeSet.isEmpty_iff]
        apply Std.ExtTreeSet.ext_mem
        intro q
        constructor
        · intro hq
          have hqr : q = r := (halone.only q).1 (hleft.within alone one hone q hq)
          rw [hqr] at hq
          exact absurd (honeiff.1 hq) hr
        · intro hq
          simp at hq
      rw [if_pos hnone]
      exact ⟨one, rfl, fun h => absurd (honeiff.1 h) hr, fun h => absurd (hsub h) hr⟩

/-- The built-in matchers judge each recipient individually, and so do expressions over them. -/
theorem IsBuiltin.individual (h : matcher.IsBuiltin) : matcher.Individual := by
  induction h with
  | all => exact individual_of_whole (fun _ => .ok true) (fun _ _ _ _ => rfl) fun _ => rfl
  | recipientIs addresses => exact individual_recipientsWhere _ _
  | senderIs addresses =>
      refine individual_allWhen _ _ ?_
      intro r alone mail halone
      rw [halone.sender]
  | senderIsNull =>
      refine individual_allWhen _ _ ?_
      intro r alone mail halone
      rw [halone.sender]
  | hostIs domains => exact individual_recipientsWhere _ _
  | hostIsLocal localDomains => exact individual_recipientsWhere _ _
  | hasAttribute name =>
      refine individual_allWhen _ _ ?_
      intro r alone mail halone
      rw [Mail.attribute?, halone.attributes, Mail.attribute?]
  | hasHeader header => exact individual_hasHeader header
  | sizeGreaterThan limit =>
      refine individual_allWhen _ _ ?_
      intro r alone mail halone
      rw [Mail.size, halone.content, Mail.size]
  | negate _ ih => exact ih.negate
  | both _ _ ihleft ihright => exact ihleft.both ihright
  | either _ _ ihleft ihright => exact ihleft.either ihright

end Matcher

end Postroom
