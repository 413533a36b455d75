import Postroom.Proofs.Chain.Conservation

/-!
Failures in a run. A run goes from one worklist to the next, and in each it takes up the oldest
branch. If a component fails on that branch while somebody is still on it, a chain that does not
handle failures writes the failure down, and the branch leaves at once: the run goes on with the
other branches, and no stage sees this one again. All of this depends on the name of the chain: a
chain called by the state of failed mail takes the branch for one of its own and keeps it.
-/

namespace Postroom

/-- A mail with the text of a failure, in the state of failed mail. -/
def Mail.failed (mail : Mail) (now : Instant) (text : String) : Mail :=
  (mail.setError now text).setState now StateName.error

@[simp] theorem Mail.failed_state (mail : Mail) (now : Instant) (text : String) :
    (mail.failed now text).state = StateName.error := rfl

@[simp] theorem Mail.failed_error (mail : Mail) (now : Instant) (text : String) :
    (mail.failed now text).error = some text := rfl

@[simp] theorem Mail.failed_recipients (mail : Mail) (now : Instant) (text : String) :
    (mail.failed now text).recipients = mail.recipients := rfl

/-- How a component of a stage fails on a branch: what goes on unserved, what it leaves of the
branch it fails on, with somebody on it, the text of the failure, and the pass after it. -/
inductive Stage.Fails (stage : Stage) (mail : Mail) (pass : Pass) :
    Option Mail → Mail → String → Pass → Prop where
  | matcher (e : MatcherError) : stage.matcher.select mail = .error e →
      Fails stage mail pass none mail e.message pass
  | mailet (kept : Option Mail) (target : Mail) (between : Pass) (e : MailetError) :
      stage.divide mail pass = .ok ⟨kept, some target, between⟩ →
      (stage.mailet.service target between).outcome = .failed e →
      (stage.mailet.service target between).mail.recipients ≠ ∅ →
      Fails stage mail pass kept (stage.mailet.service target between).mail
        (stage.mailet.name ++ ": " ++ e.message) (stage.mailet.service target between).pass

namespace Chain

variable {chain : Chain} {mail : Mail} {pass : Pass}

/-- The worklists that the run of a mail comes to, with the mails that it has routed by then. -/
inductive Reaches (chain : Chain) (mail : Mail) (pass : Pass) :
    List Branch → List Mail → Pass → Prop where
  | start : Reaches chain mail pass [⟨chain.stages, mail⟩] [] pass
  | ended {last : Mail} {pending : List Branch} {routed : List Mail} {sofar : Pass} :
      Reaches chain mail pass (⟨[], last⟩ :: pending) routed sofar →
      Reaches chain mail pass pending (routed ++ (chain.fallThrough sofar.now last).toList) sofar
  | entered {stage : Stage} {ahead : List Stage} {branch : Mail} {pending : List Branch}
      {routed : List Mail} {sofar after : Pass} {kept : Option Mail} {course : Course} :
      Reaches chain mail pass (⟨stage :: ahead, branch⟩ :: pending) routed sofar →
      chain.enter stage branch sofar = (.ok (kept, course), after) →
      Reaches chain mail pass (pending ++ advance ahead kept course)
        (routed ++ course.routed?.toList) after

/-- From each worklist that a run comes to, the run goes on. -/
theorem Reaches.run_eq {pending : List Branch} {routed : List Mail} {sofar : Pass}
    (h : chain.Reaches mail pass pending routed sofar) :
    chain.run mail pass = chain.runPending pending routed sofar := by
  induction h with
  | start => rfl
  | ended _ ih => rw [ih, runPending]
  | entered _ henter ih => rw [ih, runPending, henter]

/-- No branch that a run comes to is without recipients. -/
theorem Reaches.occupied (hmail : mail.recipients ≠ ∅) {pending : List Branch}
    {routed : List Mail} {sofar : Pass} (h : chain.Reaches mail pass pending routed sofar) :
    ∀ branch ∈ pending, branch.mail.recipients ≠ ∅ := by
  induction h with
  | start =>
      intro branch hbranch
      rw [List.mem_singleton.1 hbranch]
      exact hmail
  | ended _ ih => exact fun branch hbranch => ih branch (List.mem_cons_of_mem _ hbranch)
  | entered _ henter ih =>
      intro branch hbranch
      rcases List.mem_append.1 hbranch with hold | hnew
      · exact ih branch (List.mem_cons_of_mem _ hold)
      · obtain ⟨m, hm, rfl⟩ := List.mem_map.1 hnew
        exact enter_occupied (ih _ (List.mem_cons_self ..)) henter m (List.mem_append_left _ hm)

/-- The mails that have been routed are among those that the run returns. -/
theorem mem_of_runPending (pending : List Branch) (routed : List Mail) (pass : Pass)
    {final : List Mail} {pass' : Pass}
    (h : chain.runPending pending routed pass = (.ok final, pass'))
    {m : Mail} (hm : m ∈ routed) : m ∈ final := by
  induction pending, routed, pass using Chain.runPending.induct chain with
  | case1 routed pass =>
      rw [runPending] at h
      cases h
      exact hm
  | case2 last pending routed pass ih =>
      rw [runPending] at h
      exact ih h (List.mem_append_left _ hm)
  | case3 stage stages branch pending routed pass halt after henter =>
      rw [runPending, henter] at h
      cases h
  | case4 stage stages branch pending routed pass kept course after henter ih =>
      rw [runPending, henter] at h
      exact ih h (List.mem_append_left _ hm)

/-- What a failure makes of a branch in a chain that does not handle failures. -/
theorem recordFailure_of_not_handles (hhandles : chain.handlesErrors = false) (now : Instant)
    (left : Mail) (text : String) : chain.recordFailure now left text = left.failed now text := by
  rw [recordFailure, hhandles, if_neg Bool.false_ne_true, Mail.failed]

/-- A failed mail with recipients leaves a chain, unless the chain is called by its state. -/
theorem settle_failed (hname : chain.name ≠ StateName.error) {left : Mail}
    (hleft : left.recipients ≠ ∅) (now : Instant) (text : String) :
    chain.settle (left.failed now text) = .routed (left.failed now text) := by
  have hghost : (left.failed now text).state ≠ StateName.ghost := by
    rw [Mail.failed_state]
    decide
  have hlive : (left.failed now text).isTerminal = false :=
    (Mail.isTerminal_eq_false_iff _).2 ⟨hghost, hleft⟩
  have hother : (left.failed now text).state ≠ chain.name := hname.symm
  rw [settle, hlive, if_neg Bool.false_ne_true, if_neg hother]

/-- The failure is noted on what the component left of the branch, which then takes its course. -/
theorem enter_notes_failure {stage : Stage} {branch left : Mail} {sofar after : Pass}
    {kept : Option Mail} {text : String} (hfails : stage.Fails branch sofar kept left text after) :
    chain.enter stage branch sofar =
      (.ok (kept, chain.settle (chain.recordFailure sofar.now left text)), after) := by
  cases hfails with
  | matcher e hselect =>
      have hdivide : stage.divide branch sofar = .error e := by rw [Stage.divide, hselect]
      rw [enter, hdivide]
      rfl
  | mailet kept target between e hdivide hfailed hleft =>
      have hnow : between.now = sofar.now := Stage.divide_now hdivide
      have hattend : chain.attend stage.mailet target between =
          (.ok (chain.recordFailure sofar.now (stage.mailet.service target between).mail
            (stage.mailet.name ++ ": " ++ e.message)),
            (stage.mailet.service target between).pass) := by
        rw [attend, hfailed]
        dsimp only
        rw [hnow]
      rw [enter, hdivide]
      dsimp only
      rw [hattend]
      rfl

/-- A component fails only on a branch on which somebody still is. -/
theorem occupied_of_fails {stage : Stage} {branch left : Mail} {sofar after : Pass}
    {kept : Option Mail} {text : String} (hbranch : branch.recipients ≠ ∅)
    (hfails : stage.Fails branch sofar kept left text after) : left.recipients ≠ ∅ := by
  cases hfails with
  | matcher e hselect => exact hbranch
  | mailet kept target between e hdivide hfailed hleft => exact hleft

/-- A branch on which a component fails is routed, unless the chain is called by the state of failed
mail. -/
theorem enter_of_fails {stage : Stage} {branch left : Mail} {sofar after : Pass}
    {kept : Option Mail} {text : String} (hhandles : chain.handlesErrors = false)
    (hname : chain.name ≠ StateName.error) (hbranch : branch.recipients ≠ ∅)
    (hfails : stage.Fails branch sofar kept left text after) :
    chain.enter stage branch sofar =
      (.ok (kept, .routed (left.failed sofar.now text)), after) := by
  rw [enter_notes_failure hfails, recordFailure_of_not_handles hhandles,
    settle_failed hname (occupied_of_fails hbranch hfails)]

end Chain

end Postroom
