import Postroom.Proofs.Chain.Accounts

/-!
What one stage can do to a branch. The inversion lemma `enter_cases` says all of it, and everything
about a run follows from that: which mails a stage leaves of a branch, what happens there, and that
the worklist afterwards holds these mails in the place of the branch. So whatever books one stage
keeps of its branch, a run keeps of everything that is pending or routed.
-/

namespace Postroom

/-- A mail split in two. -/
structure Mail.Split (mail rest fork : Mail) : Prop where
  rest_id : rest.id = mail.id
  apart : rest.Apart fork
  mem_iff : ∀ r, r ∈ mail.recipients ↔ r ∈ rest.recipients ∨ r ∈ fork.recipients
  rest_occupied : rest.recipients ≠ ∅
  fork_occupied : fork.recipients ≠ ∅

/-- A part of the recipients that is neither empty nor all of them splits a mail. -/
theorem Mail.split_fork {mail : Mail} {matched : Recipients} (id : MailId) (now : Instant)
    (hsub : ∀ r ∈ matched, r ∈ mail.recipients) (hne : matched ≠ ∅)
    (hsize : matched.size ≠ mail.recipients.size) :
    mail.Split (mail.fork id now matched).1 (mail.fork id now matched).2 where
  rest_id := rfl
  apart r hr := by
    rw [Mail.mem_fork_rest] at hr
    exact hr.2
  mem_iff r := by
    rw [Mail.mem_fork_rest, Mail.fork_fork_recipients]
    by_cases hr : r ∈ matched
    · simp [hr, hsub r hr]
    · simp [hr]
  rest_occupied hempty := by
    -- if nobody is left, everybody is selected, and the sizes agree
    apply hsize
    have hall : ∀ r ∈ mail.recipients, r ∈ matched := by
      intro r hr
      by_contra hout
      have hleft := (Mail.mem_fork_rest mail id now matched r).2 ⟨hr, hout⟩
      simp [hempty] at hleft
    exact congrArg Std.ExtTreeSet.size
      (Std.ExtTreeSet.ext_mem fun r => ⟨hsub r, hall r⟩)
  fork_occupied := hne

/-- A stage leaves a branch to the next one, or has all of it served, or splits it. -/
theorem Stage.divide_cases {stage : Stage} {mail : Mail} {pass : Pass} {division : Division}
    (h : stage.divide mail pass = .ok division) :
    division = ⟨some mail, none, pass⟩ ∨ division = ⟨none, some mail, pass⟩ ∨
      ∃ rest fork matched, (rest, fork) = mail.fork pass.freshId.1 pass.now matched ∧
        division = ⟨some rest, some fork, pass.freshId.2⟩ ∧ mail.Split rest fork := by
  unfold Stage.divide at h
  cases hselect : stage.matcher.select mail with
  | error e => simp [hselect] at h
  | ok selected =>
      simp only [hselect] at h
      split at h
      · exact .inl (Except.ok.inj h).symm
      · rename_i hsome
        split at h
        · exact .inr (.inl (Except.ok.inj h).symm)
        · rename_i hsize
          refine .inr (.inr ⟨_, _, _, rfl, (Except.ok.inj h).symm, Mail.split_fork _ _ ?_ ?_ hsize⟩)
          · intro r hr
            simp only [Std.ExtTreeSet.mem_filter] at hr
            simpa using hr.2
          · simpa using hsome

/-- To divide a branch takes no time. -/
theorem Stage.divide_now {stage : Stage} {mail : Mail} {pass : Pass} {division : Division}
    (h : stage.divide mail pass = .ok division) : division.pass.now = pass.now := by
  rcases Stage.divide_cases h with rfl | rfl | ⟨rest, fork, matched, -, rfl, -⟩ <;> rfl

namespace Chain

variable {chain : Chain}

@[simp] theorem recordFailure_id (now : Instant) (mail : Mail) (message : String) :
    (chain.recordFailure now mail message).id = mail.id := by
  unfold recordFailure
  split <;> rfl

@[simp] theorem recordFailure_recipients (now : Instant) (mail : Mail) (message : String) :
    (chain.recordFailure now mail message).recipients = mail.recipients := by
  unfold recordFailure
  split <;> rfl

/-- All that a mailet that returns can do to a branch: it serves it, or it fails, which is then
noted on what it left. -/
theorem attend_cases {mailet : Mailet} {mail served : Mail} {pass pass' : Pass}
    (h : chain.attend mailet mail pass = (.ok served, pass')) :
    pass' = (mailet.service mail pass).pass ∧
      ((mailet.service mail pass).outcome = .done ∧ served = (mailet.service mail pass).mail ∨
        ∃ e, (mailet.service mail pass).outcome = .failed e ∧
          served = chain.recordFailure pass.now (mailet.service mail pass).mail
            (mailet.name ++ ": " ++ e.message)) := by
  unfold attend at h
  dsimp only at h
  split at h
  · rename_i hdone
    cases h
    exact ⟨rfl, .inl ⟨hdone, rfl⟩⟩
  · rename_i e hfailed
    cases h
    exact ⟨rfl, .inr ⟨e, hfailed, rfl⟩⟩
  · cases h

/-- Whether or not the mailet fails, the branch has the id and the recipients that it left. -/
theorem attend_ok {mailet : Mailet} {mail served : Mail} {pass pass' : Pass}
    (h : chain.attend mailet mail pass = (.ok served, pass')) :
    served.id = (mailet.service mail pass).mail.id ∧
      served.recipients = (mailet.service mail pass).mail.recipients := by
  obtain ⟨-, ⟨-, rfl⟩ | ⟨e, -, rfl⟩⟩ := attend_cases h
  · exact ⟨rfl, rfl⟩
  · simp

/-- The mails that a stage leaves of a branch. -/
def survivors (kept : Option Mail) (course : Course) : List Mail :=
  kept.toList ++ course.onward?.toList ++ course.routed?.toList

/-- A branch that is not terminal goes on or is routed; nothing else happens to it. -/
theorem survivors_settle (kept : Option Mail) (mail : Mail) :
    survivors kept (chain.settle mail) =
      kept.toList ++ if mail.isTerminal then [] else [mail] := by
  unfold survivors settle
  split
  · simp [Course.onward?, Course.routed?]
  · split <;> simp [Course.onward?, Course.routed?]

/-- All that a stage can do to a branch: its matcher fails, nothing of it is selected, or its
mailet serves all of it or the part that was split off. -/
theorem enter_cases {stage : Stage} {mail : Mail} {pass pass' : Pass} {kept : Option Mail}
    {course : Course} (h : chain.enter stage mail pass = (.ok (kept, course), pass')) :
    (∃ e, stage.divide mail pass = .error e ∧ kept = none ∧
      course = chain.fail pass.now mail e.message ∧ pass' = pass ∧
      chain.incidents stage mail pass =
        disposal (chain.recordFailure pass.now mail e.message)) ∨
    (kept = some mail ∧ course = .gone ∧ pass' = pass ∧ chain.incidents stage mail pass = []) ∨
    (∃ target between served,
      (kept = none ∧ target = mail ∧ between = pass ∨
        ∃ rest matched, (rest, target) = mail.fork pass.freshId.1 pass.now matched ∧
          kept = some rest ∧ between = pass.freshId.2 ∧ mail.Split rest target) ∧
      chain.attend stage.mailet target between = (.ok served, pass') ∧
      course = chain.settle served ∧
      chain.incidents stage mail pass =
        (kept.toList.map fun _ => Incident.forked target.id) ++
          .served stage target between :: disposal served) := by
  unfold enter at h
  unfold incidents
  cases hdivide : stage.divide mail pass with
  | error e =>
      simp only [hdivide, Prod.mk.injEq, Except.ok.injEq] at h
      obtain ⟨⟨rfl, rfl⟩, rfl⟩ := h
      exact .inl ⟨e, rfl, rfl, rfl, rfl, rfl⟩
  | ok division =>
      obtain ⟨unserved, target, between⟩ := division
      have hparts := Stage.divide_cases hdivide
      cases target with
      | none =>
          simp only [hdivide, Prod.mk.injEq, Except.ok.injEq] at h
          obtain ⟨⟨rfl, rfl⟩, rfl⟩ := h
          rcases hparts with heq | heq | ⟨rest, fork, matched, -, heq, -⟩ <;> cases heq
          exact .inr (.inl ⟨rfl, rfl, rfl, rfl⟩)
      | some target =>
          simp only [hdivide] at h
          cases hattend : chain.attend stage.mailet target between with
          | mk answer after =>
              cases answer with
              | error halt => simp [hattend, Except.map] at h
              | ok served =>
                  simp only [hattend, Except.map, Prod.mk.injEq, Except.ok.injEq] at h
                  obtain ⟨⟨rfl, rfl⟩, rfl⟩ := h
                  refine .inr (.inr ⟨target, between, served, ?_, hattend, rfl, ?_⟩)
                  · rcases hparts with heq | heq | ⟨rest, fork, matched, hfork, heq, hsplit⟩ <;>
                      cases heq
                    · exact .inl ⟨rfl, rfl, rfl⟩
                    · exact .inr ⟨rest, matched, hfork, rfl, rfl, hsplit⟩
                  · simp [hattend]

/-- A stage halts a run only if its mailet does. -/
theorem enter_halted {stage : Stage} {mail : Mail} {pass pass' : Pass} {halt : Halt}
    (h : chain.enter stage mail pass = (.error halt, pass')) :
    ∃ kept target between, stage.divide mail pass = .ok ⟨kept, some target, between⟩ ∧
      (stage.mailet.service target between).outcome = .halted halt := by
  unfold enter at h
  cases hdivide : stage.divide mail pass with
  | error e => simp [hdivide] at h
  | ok division =>
      obtain ⟨kept, target, between⟩ := division
      cases target with
      | none => simp [hdivide] at h
      | some target =>
          refine ⟨kept, target, between, rfl, ?_⟩
          simp only [hdivide] at h
          unfold attend at h
          cases houtcome : (stage.mailet.service target between).outcome with
          | done => simp [houtcome, Except.map] at h
          | failed e => simp [houtcome, Except.map] at h
          | halted other =>
              simp only [houtcome, Except.map, Prod.mk.injEq, Except.error.injEq] at h
              rw [h.1]

/-- All that the end of the chain can do to a branch: it is dropped, or it is handed on with its id
and its recipients. -/
theorem fallThrough_cases (chain : Chain) (now : Instant) (mail : Mail) :
    (chain.fallthrough = .ghost ∧ chain.fallThrough now mail = none ∧
      chain.ending mail = [.dropped mail]) ∨
    (chain.ending mail = [] ∧ ∃ m, chain.fallThrough now mail = some m ∧ m.id = mail.id ∧
      m.recipients = mail.recipients) := by
  unfold ending fallThrough
  cases hfall : chain.fallthrough with
  | ghost => exact .inl ⟨rfl, rfl, rfl⟩
  | error =>
      refine .inr ⟨rfl, _, rfl, ?_, ?_⟩
      · cases mail.error <;> rfl
      · cases mail.error <;> rfl
  | processor state => exact .inr ⟨rfl, _, rfl, rfl, rfl⟩

/-- The worklist after a stage holds what it held before, with the survivors of the branch in the
place of the branch. -/
theorem perm_advance (stages : List Stage) (kept : Option Mail) (course : Course)
    (pending : List Branch) (routed : List Mail) :
    ((pending ++ advance stages kept course).map Branch.mail ++
        (routed ++ course.routed?.toList)).Perm
      (survivors kept course ++ (pending.map Branch.mail ++ routed)) := by
  have hmails : (advance stages kept course).map Branch.mail =
      kept.toList ++ course.onward?.toList := by
    simp [advance, Function.comp_def]
  rw [List.map_append, hmails, survivors]
  calc (pending.map Branch.mail ++ (kept.toList ++ course.onward?.toList)) ++
          (routed ++ course.routed?.toList)
    _ |>.Perm (((kept.toList ++ course.onward?.toList) ++ pending.map Branch.mail) ++
          (routed ++ course.routed?.toList)) := List.perm_append_comm.append_right _
    _ = (kept.toList ++ course.onward?.toList) ++
          ((pending.map Branch.mail ++ routed) ++ course.routed?.toList) := by
        simp only [List.append_assoc]
    _ |>.Perm ((kept.toList ++ course.onward?.toList) ++
          (course.routed?.toList ++ (pending.map Branch.mail ++ routed))) :=
        List.perm_append_comm.append_left _
    _ = _ := by simp only [List.append_assoc]

/-- Books of mails that become others in the course of a pass. They are added up, the order of the
mails does not matter to them, and mails that have no part in a step stand beside it unchanged. -/
structure Books (keeps : List Mail → Pass → List Incident → List Mail → Pass → Prop) : Prop where
  refl : ∀ mails pass, keeps mails pass [] mails pass
  trans : ∀ {before pass history middle between later after pass'},
    keeps before pass history middle between → keeps middle between later after pass' →
      keeps before pass (history ++ later) after pass'
  beside : ∀ {before pass history after pass'} (others), keeps before pass history after pass' →
    keeps (before ++ others) pass history (after ++ others) pass'
  perm : ∀ {before pass history after pass' before'}, keeps before pass history after pass' →
    before.Perm before' → keeps before' pass history after pass'

/-- A run keeps any books that each stage and the end of the chain keep, where a stage may count on
what holds of all branches that enter one. -/
theorem Books.runPending {keeps : List Mail → Pass → List Incident → List Mail → Pass → Prop}
    (hbooks : Books keeps) (holds : Mail → Prop)
    (hend : ∀ mail pass,
      keeps [mail] pass (chain.ending mail) (chain.fallThrough pass.now mail).toList pass)
    (henter : ∀ stage ∈ chain.stages, ∀ {mail pass kept course pass'}, holds mail →
      chain.enter stage mail pass = (.ok (kept, course), pass') →
        keeps [mail] pass (chain.incidents stage mail pass) (survivors kept course) pass' ∧
          ∀ m ∈ kept.toList ++ course.onward?.toList, holds m)
    (pending : List Branch) (routed : List Mail) (pass : Pass)
    (hinside : ∀ branch ∈ pending, chain.Inside branch)
    (hpending : ∀ branch ∈ pending, holds branch.mail) {final : List Mail} {pass' : Pass}
    (h : chain.runPending pending routed pass = (.ok final, pass')) :
    keeps (pending.map Branch.mail ++ routed) pass (chain.historyFrom pending pass)
      final pass' := by
  rw [runPending_eq_outcome] at h
  induction pending, pass using Chain.movesFrom.induct generalizing routed with
  | case1 pass =>
      rw [movesFrom, outcome] at h
      rw [historyFrom_nil]
      cases h
      exact hbooks.refl final pass'
  | case2 mail pending pass ih =>
      rw [movesFrom, outcome] at h
      rw [historyFrom_end]
      have hended := hbooks.beside (pending.map Branch.mail ++ routed) (hend mail pass)
      have hrest := ih _ (fun branch hb => hinside branch (List.mem_cons_of_mem _ hb))
        (fun branch hb => hpending branch (List.mem_cons_of_mem _ hb)) h
      rw [← List.append_assoc] at hrest
      exact hbooks.trans hended (hbooks.perm hrest List.perm_append_comm)
  | case3 stage stages mail pending pass ih =>
      have hstage : stage ∈ chain.stages :=
        hinside _ (List.mem_cons_self ..) stage (List.mem_cons_self ..)
      rcases hentered : chain.enter stage mail pass with ⟨halt | ⟨kept, course⟩, between⟩
      · simp only [movesFrom, outcome, hentered] at h
        cases h
      simp only [movesFrom, outcome, hentered] at h
      rw [historyFrom_stage hentered]
      obtain ⟨hstep, hleft⟩ := henter stage hstage (hpending _ (List.mem_cons_self ..)) hentered
      have hnext : ∀ branch ∈ pending ++ advance stages kept course, holds branch.mail := by
        intro branch hbranch
        rcases List.mem_append.1 hbranch with hold | hnew
        · exact hpending branch (List.mem_cons_of_mem _ hold)
        · obtain ⟨m, hm, rfl⟩ := List.mem_map.1 hnew
          exact hleft m hm
      have hrest := ih kept course between _ (inside_advance hinside kept course) hnext h
      have hbeside := hbooks.beside (pending.map Branch.mail ++ routed) hstep
      exact hbooks.trans hbeside (hbooks.perm hrest (perm_advance ..))

end Chain

end Postroom
