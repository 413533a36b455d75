import Postroom.Proofs.Chain.Invariant
import Postroom.Proofs.Chain.Conservation

/-!
Runs through mailets that take no part in routing. A steady mailet succeeds and leaves the state and
the recipients of a mail. In a chain of such mailets a branch stays until the last stage, unless a
matcher fails on it, and is nowhere disposed of; so every recipient comes out, on one mail. The one
exception is a chain that is called by the state of dropped mail: what its mailets serve is taken
for dropped.
-/

namespace Postroom

/-- Whether a mailet succeeds on every mail and leaves its state and its recipients. -/
structure Mailet.Steady (mailet : Mailet) : Prop where
  done : ∀ mail pass, (mailet.service mail pass).outcome = .done
  state : ∀ mail pass, (mailet.service mail pass).mail.state = mail.state
  recipients : ∀ mail pass, (mailet.service mail pass).mail.recipients = mail.recipients

theorem Mailet.Steady.returns {mailet : Mailet} (h : mailet.Steady) : mailet.Returns := by
  intro mail pass halt hhalted
  rw [h.done] at hhalted
  cases hhalted

/-- Who is on a mail depends on its recipients alone. -/
theorem holders_singleton_congr (r : Address) {a b : Mail} (h : a.recipients = b.recipients) :
    holders r [a] = holders r [b] := by
  simp only [holders, List.countP_singleton, h]

theorem holders_cons (r : Address) (mail : Mail) (mails : List Mail) :
    holders r (mail :: mails) = holders r [mail] + holders r mails :=
  holders_append r [mail] mails

namespace Chain

variable {chain : Chain}

/-- Whether all mailets of a chain are steady. -/
def Steady (chain : Chain) : Prop :=
  ∀ stage ∈ chain.stages, stage.mailet.Steady

/-- What a steady mailet leaves of a branch has its state and its recipients. -/
theorem attend_steady {mailet : Mailet} (hmailet : mailet.Steady) {mail served : Mail}
    {pass pass' : Pass} (h : chain.attend mailet mail pass = (.ok served, pass')) :
    served.state = mail.state ∧ served.recipients = mail.recipients := by
  obtain ⟨-, ⟨-, rfl⟩ | ⟨e, hfailed, -⟩⟩ := attend_cases h
  · exact ⟨hmailet.state mail pass, hmailet.recipients mail pass⟩
  · rw [hmailet.done] at hfailed
    cases hfailed

/-- A failure leaves a branch in its state, or in the state of failed mail. -/
theorem recordFailure_state_cases (chain : Chain) (now : Instant) (mail : Mail) (message : String) :
    (chain.recordFailure now mail message).state = mail.state ∨
      (chain.recordFailure now mail message).state = StateName.error := by
  unfold recordFailure
  split
  · exact .inl rfl
  · exact .inr rfl

/-- The branches of a chain of steady mailets are in its state until they leave it as failed or
behind the last stage. -/
theorem Steady.upholds (h : chain.Steady) :
    chain.Upholds (fun m => m.state = chain.name)
      (fun m => m.state = StateName.error ∨ ∃ now mail, chain.fallThrough now mail = some m)
      (fun _ => True) where
  fork mail pass matched hmail _ := ⟨hmail, hmail, trivial⟩
  failure mail pass message hmail _ := by
    intro _
    split
    · assumption
    · rename_i hother
      rcases chain.recordFailure_state_cases pass.now mail message with hsame | herror
      · exact absurd (hsame.trans hmail) hother
      · exact .inl herror
  service stage hstage mail pass served pass' hmail _ hattend := by
    refine ⟨fun _ => ?_, trivial⟩
    have hstate := (attend_steady (h stage hstage) hattend).1.trans hmail
    rwa [if_pos hstate]
  ending mail pass _ _ m hm := .inr ⟨pass.now, mail, hm⟩

/-- A stage of a steady mailet takes nobody off the branch that enters it. -/
theorem enter_steady {stage : Stage} (hmailet : stage.mailet.Steady)
    (hname : chain.name ≠ StateName.ghost) {mail : Mail} (hstate : mail.state = chain.name)
    (hoccupied : mail.recipients ≠ ∅) {pass pass' : Pass} {kept : Option Mail} {course : Course}
    (henter : chain.enter stage mail pass = (.ok (kept, course), pass')) (r : Address) :
    holders r (survivors kept course) = holders r [mail] := by
  have hlive : ∀ m : Mail, m.state = chain.name ∨ m.state = StateName.error → m.recipients ≠ ∅ →
      m.isTerminal = false := by
    intro m hm hrecipients
    refine (Mail.isTerminal_eq_false_iff m).2 ⟨?_, hrecipients⟩
    rcases hm with hm | hm <;> rw [hm]
    · exact hname
    · decide
  rcases enter_cases henter with ⟨e, -, rfl, rfl, -, -⟩ | ⟨rfl, rfl, -, -⟩ |
    ⟨target, between, served, hpart, hattend, rfl, -⟩
  · have hsame : (chain.recordFailure pass.now mail e.message).recipients = mail.recipients :=
      recordFailure_recipients ..
    have hfailed := hlive (chain.recordFailure pass.now mail e.message)
      ((recordFailure_state_cases ..).imp_left (·.trans hstate)) (hsame ▸ hoccupied)
    rw [fail, survivors_settle, hfailed]
    exact holders_singleton_congr r hsame
  · simp [survivors, Course.onward?, Course.routed?]
  · obtain ⟨hserved, hsame⟩ := attend_steady hmailet hattend
    rcases hpart with ⟨rfl, rfl, -⟩ | ⟨rest, matched, hfork, rfl, -, hsplit⟩
    · rw [survivors_settle, hlive served (.inl (hserved.trans hstate)) (hsame ▸ hoccupied)]
      exact holders_singleton_congr r hsame
    · have htarget : target.state = mail.state := congrArg (fun parts => parts.2.state) hfork
      rw [survivors_settle, hlive served (.inl (hserved.trans (htarget.trans hstate)))
        (hsame ▸ hsplit.fork_occupied)]
      have hparts := (Accounts.split hsplit.rest_id hsplit.apart hsplit.mem_iff).balance r
      have hforked : ¬ (Incident.forked target.id).Takes r := id
      rw [takings_singleton, if_neg hforked, Nat.add_zero, holders_cons r rest] at hparts
      show holders r (rest :: [served]) = holders r [mail]
      rw [holders_cons, holders_singleton_congr r hsame]
      exact hparts.symm

/-- How often each recipient is held is a matter of books. -/
theorem books_holders :
    Books fun before _ _ after _ => ∀ r, holders r after = holders r before where
  refl _ _ _ := rfl
  trans first second r := (second r).trans (first r)
  beside others h r := by rw [holders_append, holders_append, h r]
  perm h hperm r := by rw [h r, holders_perm r hperm]

/-- A run through steady mailets loses nobody, unless it is in a chain called by the state of
dropped mail or in one that drops what comes to its end. -/
theorem runPending_steady (hsteady : chain.Steady) (hname : chain.name ≠ StateName.ghost)
    (hfall : chain.fallthrough ≠ .ghost) (pending : List Branch) (routed : List Mail) (pass : Pass)
    (hinside : ∀ branch ∈ pending, chain.Inside branch)
    (hstate : ∀ branch ∈ pending, branch.mail.state = chain.name)
    (hoccupied : ∀ branch ∈ pending, branch.mail.recipients ≠ ∅) {final : List Mail} {pass' : Pass}
    (hrun : chain.runPending pending routed pass = (.ok final, pass')) (r : Address) :
    holders r final = holders r (pending.map Branch.mail ++ routed) := by
  refine books_holders.runPending
    (fun mail => mail.state = chain.name ∧ mail.recipients ≠ ∅) ?_ ?_ pending routed pass hinside
    (fun branch hb => ⟨hstate branch hb, hoccupied branch hb⟩) hrun r
  · intro mail pass r
    rcases chain.fallThrough_cases pass.now mail with ⟨hghost, -⟩ | ⟨-, m, hsome, -, hsame⟩
    · exact absurd hghost hfall
    · rw [hsome]
      exact holders_singleton_congr r hsame
  · intro stage hstage mail pass kept course after ⟨hmail, hpeople⟩ henter
    refine ⟨enter_steady (hsteady stage hstage) hname hmail hpeople henter, fun m hm => ⟨?_, ?_⟩⟩
    · obtain ⟨hkept, honward, -⟩ := hsteady.upholds.enter hstage hmail trivial henter
      rcases List.mem_append.1 hm with hm | hm
      · exact hkept m (Option.mem_toList.1 hm)
      · exact honward m (Option.mem_toList.1 hm)
    · exact enter_occupied hpeople henter m (List.mem_append_left _ hm)

/-- A run through steady mailets returns, with everybody on one routed mail as before, and each of
these is in the state of failed mail or has come to the end of the chain. -/
theorem run_steady (hsteady : chain.Steady) (hname : chain.name ≠ StateName.ghost)
    (hfall : chain.fallthrough ≠ .ghost) {mail : Mail} (hstate : mail.state = chain.name)
    (hoccupied : mail.recipients ≠ ∅) (pass : Pass) :
    ∃ routed pass', chain.run mail pass = (.ok routed, pass') ∧
      (∀ r, holders r routed = holders r [mail]) ∧
      ∀ m ∈ routed, m.recipients ≠ ∅ ∧
        (m.state = StateName.error ∨ ∃ now last, chain.fallThrough now last = some m) := by
  have hinside := chain.inside_start mail
  have hstart : ∀ branch ∈ [(⟨chain.stages, mail⟩ : Branch)],
      branch.mail.state = chain.name ∧ branch.mail.recipients ≠ ∅ := by
    intro branch hbranch
    rw [List.mem_singleton.1 hbranch]
    exact ⟨hstate, hoccupied⟩
  obtain ⟨routed, pass', hrun⟩ :=
    runPending_returns (fun stage hstage => (hsteady stage hstage).returns) _ [] pass hinside
  refine ⟨routed, pass', hrun, fun r => ?_, fun m hm => ⟨?_, ?_⟩⟩
  · exact runPending_steady hsteady hname hfall _ [] _ hinside (fun b hb => (hstart b hb).1)
      (fun b hb => (hstart b hb).2) hrun r
  · exact runPending_occupied _ [] _ (fun b hb => (hstart b hb).2) (by simp) hrun m hm
  · exact (hsteady.upholds.run hstate trivial hrun).1 m hm

end Chain

end Postroom
