import Postroom.Proofs.Chain.Failure
import Postroom.Proofs.Chain.Visits

/-!
Failures in a chain that handles them itself. The failure is written down on what the component left
of the branch, and nothing else of the branch is touched, its state included. So it is the state
that the component left which says where the branch goes: on to the next stage if it is still the
name of the chain, out of the chain if it is another one, and nowhere if the mail was marked as
dropped. A matcher leaves the branch as it was, so after its failures the branch always goes on. A
mailet may have set the state before it failed. Behind all other chains that makes no difference, as
they set it again.
-/

namespace Postroom

namespace Chain

variable {chain : Chain} {mail : Mail} {pass : Pass}

/-- Whether a run takes up a branch: it comes to be the first of the worklist, where it is the next
stage's turn, or that of the end of the chain. -/
def TakesUp (chain : Chain) (mail : Mail) (pass : Pass) (branch : Branch) : Prop :=
  ∃ later routed sofar, chain.Reaches mail pass (branch :: later) routed sofar

/-- Whether a run is halted. -/
def Halts (chain : Chain) (mail : Mail) (pass : Pass) : Prop :=
  ∃ halt after, chain.run mail pass = (.error halt, after)

/-- The worklist is a queue: whatever is in it is taken up, unless something in front of it halts
the run. -/
theorem Reaches.takesUp {front back : List Branch} {branch : Branch} {routed : List Mail}
    {sofar : Pass} (h : chain.Reaches mail pass (front ++ branch :: back) routed sofar) :
    chain.Halts mail pass ∨ chain.TakesUp mail pass branch := by
  -- What comes of the first branch goes behind all others, so the front gets shorter with each
  -- step.
  induction front generalizing back routed sofar with
  | nil => exact .inr ⟨back, routed, sofar, h⟩
  | cons first front ih =>
      obtain ⟨stages, first⟩ := first
      rw [List.cons_append] at h
      cases stages with
      | nil => exact ih h.ended
      | cons stage ahead =>
          rcases henter : chain.enter stage first sofar with ⟨halt | ⟨kept, course⟩, after⟩
          · refine .inl ⟨halt, after, ?_⟩
            rw [h.run_eq, runPending, henter]
          · have hnext := h.entered henter
            rw [List.append_assoc, List.cons_append] at hnext
            exact ih hnext

/-- The visits of a run go on from each worklist that it comes to. -/
theorem Reaches.visits_suffix {pending : List Branch} {routed : List Mail} {sofar : Pass}
    (h : chain.Reaches mail pass pending routed sofar) :
    chain.visitsFrom pending sofar <:+ chain.visits mail pass := by
  induction h with
  | start => exact List.suffix_rfl
  | ended _ ih => rwa [visitsFrom_end] at ih
  | entered _ henter ih =>
      rw [visitsFrom_stage henter] at ih
      exact (List.suffix_cons ..).trans ih

/-- A branch that is taken up with stages ahead of it enters the next one. -/
theorem TakesUp.visited {next : Stage} {ahead : List Stage} {branch : Mail}
    (h : chain.TakesUp mail pass ⟨next :: ahead, branch⟩) :
    ∃ sofar, ⟨next, ahead, branch, sofar⟩ ∈ chain.visits mail pass := by
  obtain ⟨later, routed, sofar, hreach⟩ := h
  have hfirst : ⟨next, ahead, branch, sofar⟩ ∈
      chain.visitsFrom (⟨next :: ahead, branch⟩ :: later) sofar := by
    rw [visitsFrom, movesFrom, List.filterMap_cons_some (Move.visit?_entered _)]
    exact List.mem_cons_self ..
  exact ⟨sofar, hreach.visits_suffix.subset hfirst⟩

theorem settle_onward {served m : Mail} (h : m ∈ (chain.settle served).onward?) :
    m = served ∧ served.state = chain.name := by
  unfold settle at h
  split at h
  · simp [Course.onward?] at h
  · split at h
    · rename_i hstate
      exact ⟨(Option.some.inj h).symm, hstate⟩
    · simp [Course.onward?] at h

/-- A stage lets only branches go on that are in the state of the chain. -/
theorem enter_state {stage : Stage} {branch : Mail} {sofar after : Pass} {kept : Option Mail}
    {course : Course} (hbranch : branch.state = chain.name)
    (h : chain.enter stage branch sofar = (.ok (kept, course), after)) :
    ∀ m ∈ kept.toList ++ course.onward?.toList, m.state = chain.name := by
  have hcourse : ∀ served, course = chain.settle served →
    ∀ m ∈ course.onward?, m.state = chain.name := by
    rintro served rfl m hm
    obtain ⟨rfl, hstate⟩ := settle_onward hm
    exact hstate
  intro m hm
  rw [List.mem_append, Option.mem_toList, Option.mem_toList] at hm
  rcases enter_cases h with ⟨e, -, rfl, hfail, -, -⟩ | ⟨rfl, rfl, -, -⟩ |
    ⟨target, between, served, hpart, -, hsettle, -⟩
  · rcases hm with hm | hm
    · cases hm
    · exact hcourse _ hfail m hm
  · rcases hm with hm | hm
    · cases hm
      exact hbranch
    · cases hm
  · rcases hm with hm | hm
    · rcases hpart with ⟨rfl, -, -⟩ | ⟨rest, matched, hfork, rfl, -, -⟩
      · cases hm
      · cases hm
        cases hfork
        exact hbranch
    · exact hcourse served hsettle m hm

/-- All branches in a run are in the state of the chain. -/
theorem Reaches.state (hstate : mail.state = chain.name) {pending : List Branch}
    {routed : List Mail} {sofar : Pass} (h : chain.Reaches mail pass pending routed sofar) :
    ∀ branch ∈ pending, branch.mail.state = chain.name := by
  induction h with
  | start =>
      intro branch hbranch
      rw [List.mem_singleton.1 hbranch]
      exact hstate
  | ended _ ih => exact fun branch hbranch => ih branch (List.mem_cons_of_mem _ hbranch)
  | entered _ henter ih =>
      intro branch hbranch
      rcases List.mem_append.1 hbranch with hold | hnew
      · exact ih branch (List.mem_cons_of_mem _ hold)
      · obtain ⟨m, hm, rfl⟩ := List.mem_map.1 hnew
        exact enter_state (ih _ (List.mem_cons_self ..)) henter m hm

/-- What a chain that handles failures makes of a failure: it is noted, and the branch takes its
course. -/
theorem recordFailure_of_handles (hhandles : chain.handlesErrors = true) (now : Instant)
    (left : Mail) (text : String) : chain.recordFailure now left text = left.setError now text := by
  rw [recordFailure, hhandles, if_pos rfl]

/-- The course of a branch that somebody is on goes by its state. -/
theorem settle_of_occupied {left : Mail} (hleft : left.recipients ≠ ∅) :
    chain.settle left = if left.state = StateName.ghost then .gone
      else if left.state = chain.name then .onward left else .routed left := by
  have hterminal : left.isTerminal = true ↔ left.state = StateName.ghost := by
    rw [← not_iff_not, Bool.not_eq_true, Mail.isTerminal_eq_false_iff]
    exact and_iff_left hleft
  unfold settle
  simp only [hterminal]

/-- In a chain that handles failures, a failure on a branch that somebody is still on becomes its
error message, and nothing else of it changes. If the component left the branch in the state of the
chain, as a matcher always does, it goes to the end of the worklist, and unless the run is halted
before, the next stage is applied to it, or the fallthrough behind the last one. In another state it
is routed as it is, and dropped if it is marked so. -/
theorem Reaches.notes_failure (hhandles : chain.handlesErrors = true)
    (hstate : mail.state = chain.name)
    {stage : Stage} {ahead : List Stage} {branch left : Mail} {pending : List Branch}
    {routed : List Mail} {sofar after : Pass} {kept : Option Mail} {text : String}
    (hreach : chain.Reaches mail pass (⟨stage :: ahead, branch⟩ :: pending) routed sofar)
    (hfails : stage.Fails branch sofar kept left text after) (hleft : left.recipients ≠ ∅) :
    let noted := left.setError sofar.now text
    let others := pending ++ kept.toList.map (Branch.mk ahead)
    (noted.error = some text ∧ noted.state = left.state ∧ noted.recipients = left.recipients) ∧
    (∀ e, stage.matcher.select branch = .error e → left.state = chain.name) ∧
    (left.state = StateName.ghost → chain.Reaches mail pass others routed after) ∧
    (left.state ≠ StateName.ghost → left.state ≠ chain.name →
      chain.Reaches mail pass others (routed ++ [noted]) after) ∧
    (left.state ≠ StateName.ghost → left.state = chain.name →
      chain.Reaches mail pass (others ++ [⟨ahead, noted⟩]) routed after ∧
      (chain.Halts mail pass ∨ chain.TakesUp mail pass ⟨ahead, noted⟩ ∧
        ∀ next beyond, ahead = next :: beyond →
          ∃ later, ⟨next, beyond, noted, later⟩ ∈ chain.visits mail pass)) := by
  intro noted others
  have hoccupied : noted.recipients ≠ ∅ := hleft
  have hkeeps : noted.state = left.state := rfl
  have henter : chain.enter stage branch sofar = _ := enter_notes_failure hfails
  rw [recordFailure_of_handles hhandles, settle_of_occupied hoccupied, hkeeps] at henter
  have hnext := hreach.entered henter
  refine ⟨⟨rfl, rfl, rfl⟩, fun e hselect => ?_, fun hghost => ?_, fun hlive hother => ?_,
    fun hlive hsame => ?_⟩
  · cases hfails with
    | matcher _ _ => exact hreach.state hstate _ (List.mem_cons_self ..)
    | mailet _ _ _ _ hdivide _ _ =>
        rw [Stage.divide, hselect] at hdivide
        cases hdivide
  · rw [if_pos hghost] at hnext
    simpa [advance, others, Course.onward?, Course.routed?] using hnext
  · rw [if_neg hlive, if_neg hother] at hnext
    simpa [advance, others, Course.onward?, Course.routed?] using hnext
  · rw [if_neg hlive, if_pos hsame] at hnext
    have hlast : chain.Reaches mail pass (others ++ [⟨ahead, noted⟩]) routed after := by
      simpa [advance, others, Course.onward?, Course.routed?] using hnext
    refine ⟨hlast, hlast.takesUp.imp_right fun htaken => ⟨htaken, ?_⟩⟩
    rintro next beyond rfl
    exact htaken.visited

end Chain

namespace Chain.Sample

/-- A mail in the state of the chain for failed mail. -/
def failedMail : Mail :=
  (Mail.create default .epoch none (.ofList [alice]) .empty).setState .epoch StateName.error

/-- A mailet that fails on every mail, after it has set the state. -/
def givingUp (state : String) : Mailet where
  name := "GivesUp"
  service mail pass := ⟨mail.setState pass.now state, pass, .failed (.failed "boom")⟩

/-- A stage that fails on every mail. -/
def givesUp (state : String) : Stage := ⟨.all, givingUp state⟩

/-- A chain for failed mail, with a stage that fails in front of one that hands everybody on. -/
def recovering (state : String) : Chain where
  name := StateName.error
  stages := [givesUp state, ⟨.all, .toProcessor "done" none⟩]
  handlesErrors := true

/-- What the stage that fails leaves of the mail. -/
def abandoned (state : String) : Mail :=
  failedMail.setState pass.now state

theorem occupied_abandoned (state : String) : (abandoned state).recipients ≠ ∅ := by
  have hsize : failedMail.recipients.size = 1 := by decide +kernel
  intro hempty
  have hsame : failedMail.recipients = ∅ := hempty
  rw [hsame] at hsize
  cases hsize

theorem givesUp_fails (state : String) :
    (givesUp state).Fails failedMail pass none (abandoned state) "GivesUp: boom" pass := by
  have hdivide : (givesUp state).divide failedMail pass = .ok ⟨none, some failedMail, pass⟩ := by
    have hsome : (failedMail.recipients.filter fun r => failedMail.recipients.contains r).isEmpty =
        false := by decide +kernel
    have hall : (failedMail.recipients.filter fun r => failedMail.recipients.contains r).size =
        failedMail.recipients.size := by decide +kernel
    simp only [Stage.divide, givesUp, Matcher.all, hsome, hall, if_true,
      Bool.false_eq_true, if_false]
  exact .mailet none failedMail pass (.failed "boom") hdivide rfl (occupied_abandoned state)

/-- A mailet that sets another state before it fails takes the branch out of the chain: no stage is
applied to it any more. -/
theorem recovering_leaves :
    let chain := recovering "held"
    let stage := givesUp "held"
    let ahead := chain.stages.tail
    chain.handlesErrors = true ∧ failedMail.state = chain.name ∧
      chain.Reaches failedMail pass [⟨stage :: ahead, failedMail⟩] [] pass ∧
      stage.Fails failedMail pass none (abandoned "held") "GivesUp: boom" pass ∧
      (abandoned "held").recipients ≠ ∅ ∧
      chain.run failedMail pass =
        (.ok [(abandoned "held").setError pass.now "GivesUp: boom"], pass) ∧
      chain.visits failedMail pass = [⟨stage, ahead, failedMail, pass⟩] := by
  intro chain stage ahead
  have hfails : stage.Fails failedMail pass none (abandoned "held") "GivesUp: boom" pass :=
    givesUp_fails "held"
  have hnoted : ((abandoned "held").setError pass.now "GivesUp: boom").recipients ≠ ∅ :=
    occupied_abandoned "held"
  have henter : chain.enter stage failedMail pass =
      (.ok (none, .routed ((abandoned "held").setError pass.now "GivesUp: boom")), pass) := by
    rw [enter_notes_failure hfails, recordFailure_of_handles rfl, settle_of_occupied hnoted]
    rfl
  have hstages : chain.stages = stage :: ahead := rfl
  refine ⟨rfl, rfl, .start, hfails, occupied_abandoned "held", ?_, ?_⟩
  · rw [run, hstages, runPending, henter]
    change chain.runPending [] _ pass = _
    rw [runPending]
    rfl
  · rw [visits, hstages, visitsFrom_stage henter]
    exact congrArg _ (visitsFrom_nil ..)

/-- A mailet that fails without having set another state. -/
theorem notes_failure_of_unchanged :
    let chain := recovering StateName.error
    let noted := (abandoned StateName.error).setError pass.now "GivesUp: boom"
    noted.error = some "GivesUp: boom" ∧
      chain.Reaches failedMail pass [⟨chain.stages.tail, noted⟩] [] pass ∧
      (chain.Halts failedMail pass ∨ chain.TakesUp failedMail pass ⟨chain.stages.tail, noted⟩ ∧
        ∀ next beyond, chain.stages.tail = next :: beyond →
          ∃ later, ⟨next, beyond, noted, later⟩ ∈ chain.visits failedMail pass) := by
  intro chain noted
  obtain ⟨⟨herror, -, -⟩, -, -, -, hcontinues⟩ :=
    Reaches.notes_failure rfl rfl (.start : chain.Reaches ..) (givesUp_fails StateName.error)
      (occupied_abandoned StateName.error)
  obtain ⟨hreach, htaken⟩ := hcontinues (by decide) rfl
  exact ⟨herror, hreach, htaken⟩

end Chain.Sample

end Postroom
