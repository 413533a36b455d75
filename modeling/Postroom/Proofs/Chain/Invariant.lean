import Postroom.Proofs.Chain.Step

/-!
Invariants of runs. A chain upholds a property of the branches that are inside it if forks keep it
and whatever a mailet or a failure leaves either has it again and goes on, or has the property that
is asked of the mails that leave. Such an invariant is checked for one stage at a time, and holds of
whole runs.
-/

namespace Postroom

namespace Chain

variable {chain : Chain} {within beyond : Mail → Prop} {during : Pass → Prop}

/-- Whether a branch that a stage has served has the property of its further course. -/
def Settles (chain : Chain) (within beyond : Mail → Prop) (mail : Mail) : Prop :=
  mail.isTerminal = false → if mail.state = chain.name then within mail else beyond mail

/-- What the stages of a chain and its end do to the properties of the branches `within` it, of the
mails `beyond` it, and of the pass `during` the run. -/
structure Upholds (chain : Chain) (within beyond : Mail → Prop) (during : Pass → Prop) : Prop where
  fork : ∀ mail pass matched, within mail → during pass →
    within (mail.fork pass.freshId.1 pass.now matched).1 ∧
    within (mail.fork pass.freshId.1 pass.now matched).2 ∧ during pass.freshId.2
  failure : ∀ mail pass message, within mail → during pass →
    chain.Settles within beyond (chain.recordFailure pass.now mail message)
  service : ∀ stage ∈ chain.stages, ∀ mail pass served pass', within mail → during pass →
    chain.attend stage.mailet mail pass = (.ok served, pass') →
    chain.Settles within beyond served ∧ during pass'
  ending : ∀ mail pass, within mail → during pass →
    ∀ m ∈ chain.fallThrough pass.now mail, beyond m

/-- A served branch that goes on has the property of those within, and one that is routed has the
property of those beyond. -/
theorem Settles.course {mail : Mail} (h : chain.Settles within beyond mail) :
    (∀ m ∈ (chain.settle mail).onward?, within m) ∧
      ∀ m ∈ (chain.settle mail).routed?, beyond m := by
  unfold Settles at h
  unfold settle
  split
  · simp [Course.onward?, Course.routed?]
  · rename_i hlive
    have hcourse := h (by simpa using hlive)
    split at hcourse <;> rename_i hname <;> simpa [hname, Course.onward?, Course.routed?]

/-- One stage upholds what the chain does. -/
theorem Upholds.enter (h : chain.Upholds within beyond during) {stage : Stage}
    (hstage : stage ∈ chain.stages) {mail : Mail} {pass pass' : Pass} {kept : Option Mail}
    {course : Course} (hmail : within mail) (hpass : during pass)
    (henter : chain.enter stage mail pass = (.ok (kept, course), pass')) :
    (∀ m ∈ kept, within m) ∧ (∀ m ∈ course.onward?, within m) ∧ (∀ m ∈ course.routed?, beyond m) ∧
      during pass' := by
  rcases enter_cases henter with ⟨e, -, rfl, rfl, rfl, -⟩ | ⟨rfl, rfl, rfl, -⟩ |
    ⟨target, between, served, hpart, hattend, rfl, -⟩
  · have hcourse := (h.failure mail pass' e.message hmail hpass).course
    exact ⟨by simp, hcourse.1, hcourse.2, hpass⟩
  · refine ⟨?_, by simp [Course.onward?], by simp [Course.routed?], hpass⟩
    intro m hm
    cases hm
    exact hmail
  · have hparts : (∀ m ∈ kept, within m) ∧ within target ∧ during between := by
      rcases hpart with ⟨rfl, rfl, rfl⟩ | ⟨rest, matched, hfork, rfl, rfl, -⟩
      · exact ⟨by simp, hmail, hpass⟩
      · obtain ⟨hrest, htarget, hbetween⟩ := h.fork mail pass matched hmail hpass
        rw [← hfork] at hrest htarget
        refine ⟨?_, htarget, hbetween⟩
        intro m hm
        cases hm
        exact hrest
    obtain ⟨hkept, htarget, hbetween⟩ := hparts
    obtain ⟨hsettles, hpass'⟩ := h.service stage hstage target between served pass' htarget
      hbetween hattend
    exact ⟨hkept, hsettles.course.1, hsettles.course.2, hpass'⟩

/-- What holds of the branches that wait and of those that leave a stage for the next one. -/
theorem forall_advance {holds : Mail → Prop} {pending : List Branch} {stages : List Stage}
    {kept : Option Mail} {course : Course} (hpending : ∀ branch ∈ pending, holds branch.mail)
    (hkept : ∀ m ∈ kept, holds m) (honward : ∀ m ∈ course.onward?, holds m) :
    ∀ branch ∈ pending ++ advance stages kept course, holds branch.mail := by
  intro branch hbranch
  rcases List.mem_append.1 hbranch with hold | hnew
  · exact hpending branch hold
  · obtain ⟨m, hm, rfl⟩ := List.mem_map.1 hnew
    rcases List.mem_append.1 hm with hm | hm
    · exact hkept m (Option.mem_toList.1 hm)
    · exact honward m (Option.mem_toList.1 hm)

/-- What halts a stage does so to a branch with the property of those within. -/
theorem Upholds.enter_halted (h : chain.Upholds within beyond during) {stage : Stage} {mail : Mail}
    {pass pass' : Pass} {halt : Halt} (hmail : within mail) (hpass : during pass)
    (henter : chain.enter stage mail pass = (.error halt, pass')) :
    ∃ target between, within target ∧ during between ∧
      (stage.mailet.service target between).outcome = .halted halt := by
  obtain ⟨kept, target, between, hdivide, houtcome⟩ := Chain.enter_halted henter
  refine ⟨target, between, ?_, ?_, houtcome⟩ <;>
    rcases Stage.divide_cases hdivide with heq | heq | ⟨rest, fork, matched, hfork, heq, -⟩ <;>
    cases heq
  · exact hmail
  · obtain ⟨-, htarget, -⟩ := h.fork mail pass matched hmail hpass
    rwa [← hfork] at htarget
  · exact hpass
  · exact (h.fork mail pass matched hmail hpass).2.2

/-- A run upholds what its chain does. -/
theorem Upholds.runPending (h : chain.Upholds within beyond during) (pending : List Branch)
    (routed : List Mail) (pass : Pass) (hinside : ∀ branch ∈ pending, chain.Inside branch)
    (hpending : ∀ branch ∈ pending, within branch.mail) (hrouted : ∀ m ∈ routed, beyond m)
    (hpass : during pass) {final : List Mail} {pass' : Pass}
    (hrun : chain.runPending pending routed pass = (.ok final, pass')) :
    (∀ m ∈ final, beyond m) ∧ during pass' := by
  induction pending, routed, pass using Chain.runPending.induct chain with
  | case1 routed pass =>
      rw [Chain.runPending] at hrun
      cases hrun
      exact ⟨hrouted, hpass⟩
  | case2 mail pending routed pass ih =>
      rw [Chain.runPending] at hrun
      apply ih (fun branch hb => hinside branch (List.mem_cons_of_mem _ hb))
        (fun branch hb => hpending branch (List.mem_cons_of_mem _ hb)) ?_ hpass hrun
      intro m hm
      rcases List.mem_append.1 hm with hold | hended
      · exact hrouted m hold
      · exact h.ending mail pass (hpending _ (List.mem_cons_self ..)) hpass m
          (Option.mem_toList.1 hended)
  | case3 stage stages mail pending routed pass halt after henter =>
      rw [Chain.runPending, henter] at hrun
      cases hrun
  | case4 stage stages mail pending routed pass kept course after henter ih =>
      rw [Chain.runPending, henter] at hrun
      have hstage : stage ∈ chain.stages :=
        hinside _ (List.mem_cons_self ..) stage (List.mem_cons_self ..)
      obtain ⟨hkept, honward, hleft, hafter⟩ :=
        h.enter hstage (hpending _ (List.mem_cons_self ..)) hpass henter
      have hothers := fun branch hb => hpending branch (List.mem_cons_of_mem _ hb)
      apply ih (inside_advance hinside kept course)
        (forall_advance hothers hkept honward) ?_ hafter hrun
      intro m hm
      rcases List.mem_append.1 hm with hold | hnew
      · exact hrouted m hold
      · exact hleft m (Option.mem_toList.1 hnew)

/-- What halts a run does so to a branch with the property of those within. -/
theorem Upholds.runPending_halted (h : chain.Upholds within beyond during) (pending : List Branch)
    (routed : List Mail) (pass : Pass) (hinside : ∀ branch ∈ pending, chain.Inside branch)
    (hpending : ∀ branch ∈ pending, within branch.mail) (hpass : during pass) {halt : Halt}
    {pass' : Pass} (hrun : chain.runPending pending routed pass = (.error halt, pass')) :
    ∃ stage ∈ chain.stages, ∃ target between, within target ∧ during between ∧
      (stage.mailet.service target between).outcome = .halted halt := by
  induction pending, routed, pass using Chain.runPending.induct chain with
  | case1 routed pass =>
      rw [Chain.runPending] at hrun
      cases hrun
  | case2 mail pending routed pass ih =>
      rw [Chain.runPending] at hrun
      exact ih (fun branch hb => hinside branch (List.mem_cons_of_mem _ hb))
        (fun branch hb => hpending branch (List.mem_cons_of_mem _ hb)) hpass hrun
  | case3 stage stages mail pending routed pass halted after henter =>
      rw [Chain.runPending, henter] at hrun
      cases hrun
      have hstage : stage ∈ chain.stages :=
        hinside _ (List.mem_cons_self ..) stage (List.mem_cons_self ..)
      exact ⟨stage, hstage, h.enter_halted (hpending _ (List.mem_cons_self ..)) hpass henter⟩
  | case4 stage stages mail pending routed pass kept course after henter ih =>
      rw [Chain.runPending, henter] at hrun
      have hstage : stage ∈ chain.stages :=
        hinside _ (List.mem_cons_self ..) stage (List.mem_cons_self ..)
      obtain ⟨hkept, honward, -, hafter⟩ :=
        h.enter hstage (hpending _ (List.mem_cons_self ..)) hpass henter
      have hothers := fun branch hb => hpending branch (List.mem_cons_of_mem _ hb)
      exact ih (inside_advance hinside kept course)
        (forall_advance hothers hkept honward) hafter hrun

/-- Every chain upholds what is always so. -/
theorem upholds_true (chain : Chain) :
    chain.Upholds (fun _ => True) (fun _ => True) (fun _ => True) where
  fork _ _ _ _ _ := ⟨trivial, trivial, trivial⟩
  failure _ _ _ _ _ := fun _ => by split <;> trivial
  service _ _ _ _ _ _ _ _ _ := ⟨fun _ => by split <;> trivial, trivial⟩
  ending _ _ _ _ _ _ := trivial

/-- What the run of a mail leaves has the property of the mails beyond, and the pass that of the
pass during the run. -/
theorem Upholds.run (h : chain.Upholds within beyond during) {mail : Mail} {pass pass' : Pass}
    {routed : List Mail} (hmail : within mail) (hpass : during pass)
    (hrun : chain.run mail pass = (.ok routed, pass')) :
    (∀ m ∈ routed, beyond m) ∧ during pass' := by
  refine h.runPending _ _ _ (inside_start chain mail) ?_ (by simp) hpass hrun
  intro branch hbranch
  rw [List.mem_singleton.1 hbranch]
  exact hmail

end Chain

end Postroom
