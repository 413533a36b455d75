import Postroom.Proofs.Chain.Visits

/-!
Stages one after the other. A sweep takes a whole row of mails through one stage before it begins
with the next one: each mail of the row is replaced, in order, by what the stage makes of it. A run
takes the oldest branch of its worklist instead. The worklist never spans more than two stages,
those branches that have one more stage ahead come first, and so a run is a sweep.
-/

namespace Postroom

/-- What a sweep has done so far. -/
structure Sweep where
  calls : List Call
  /-- The mails that have left the chain. -/
  output : List Mail
  pass : Pass

namespace Chain

/-- The mails that stay in the chain behind a stage, and those that leave it, if a mail was served
there or a component failed on it. A terminal mail is among neither. -/
def sorted (chain : Chain) (mail : Mail) : List Mail × List Mail :=
  if mail.isTerminal then ([], [])
  else if mail.state = chain.name then ([mail], [])
  else ([], [mail])

/-- Have the mailet of a stage serve a mail. The answer is what stays, behind the mails that were
not to be served. -/
def sweepServed (chain : Chain) (stage : Stage) (ahead : List Stage) (unmatched : List Mail)
    (target : Mail) (sweep : Sweep) : Except Halt (List Mail) × Sweep :=
  let calls := sweep.calls ++ [⟨stage, ahead, target, sweep.pass⟩]
  match chain.attend stage.mailet target sweep.pass with
  | (.error halt, pass) => (.error halt, { sweep with calls, pass })
  | (.ok served, pass) =>
      let (staying, leaving) := chain.sorted served
      (.ok (unmatched ++ staying), ⟨calls, sweep.output ++ leaving, pass⟩)

/-- Replace one mail by what a stage makes of it. -/
def sweepMail (chain : Chain) (stage : Stage) (ahead : List Stage) (mail : Mail) (sweep : Sweep) :
    Except Halt (List Mail) × Sweep :=
  match stage.matcher.select mail with
  | .error e =>
      let (staying, leaving) :=
        chain.sorted (chain.recordFailure sweep.pass.now mail e.message)
      (.ok staying, { sweep with output := sweep.output ++ leaving })
  | .ok selected =>
      let matched := selected.filter fun r => mail.recipients.contains r
      if matched.isEmpty then (.ok [mail], sweep)
      else if matched.size = mail.recipients.size then
        chain.sweepServed stage ahead [] mail sweep
      else
        let (id, pass) := sweep.pass.freshId
        let (rest, fork) := mail.fork id pass.now matched
        chain.sweepServed stage ahead [rest] fork { sweep with pass }

/-- Replace each mail of a row, in order. -/
def sweepRow (chain : Chain) (stage : Stage) (ahead : List Stage) :
    List Mail → Sweep → Except Halt (List Mail) × Sweep
  | [], sweep => (.ok [], sweep)
  | mail :: row, sweep =>
      match chain.sweepMail stage ahead mail sweep with
      | (.error halt, sweep) => (.error halt, sweep)
      | (.ok staying, sweep) =>
          match sweepRow chain stage ahead row sweep with
          | (.error halt, sweep) => (.error halt, sweep)
          | (.ok others, sweep) => (.ok (staying ++ others), sweep)

/-- Take a row of mails through some stages, one after the other. -/
def sweepStages (chain : Chain) : List Stage → List Mail → Sweep → Except Halt (List Mail) × Sweep
  | [], row, sweep => (.ok row, sweep)
  | stage :: ahead, row, sweep =>
      match chain.sweepRow stage ahead row sweep with
      | (.error halt, sweep) => (.error halt, sweep)
      | (.ok row, sweep) => sweepStages chain ahead row sweep

/-- Take a mail through all stages, and what is left of it behind the end of the chain. The answer
holds the mails that left, the calls that were made, and the pass. -/
def sweep (chain : Chain) (mail : Mail) (pass : Pass) :
    Except Halt (List Mail) × List Call × Pass :=
  match chain.sweepStages chain.stages [mail] ⟨[], [], pass⟩ with
  | (.error halt, sweep) => (.error halt, sweep.calls, sweep.pass)
  | (.ok row, sweep) =>
      (.ok (sweep.output ++ row.flatMap fun mail => (chain.fallThrough sweep.pass.now mail).toList),
        sweep.calls, sweep.pass)

theorem sorted_eq (chain : Chain) (mail : Mail) :
    chain.sorted mail =
      ((chain.settle mail).onward?.toList, (chain.settle mail).routed?.toList) := by
  unfold sorted settle
  split
  · rfl
  · split <;> rfl

/-- A sweep divides a mail as a stage divides a branch. -/
theorem sweepMail_divide (chain : Chain) (stage : Stage) (ahead : List Stage) (mail : Mail)
    (sweep : Sweep) :
    chain.sweepMail stage ahead mail sweep =
      match stage.divide mail sweep.pass with
      | .error e =>
          let course := chain.fail sweep.pass.now mail e.message
          (.ok course.onward?.toList,
            { sweep with output := sweep.output ++ course.routed?.toList })
      | .ok ⟨kept, none, pass⟩ => (.ok kept.toList, { sweep with pass })
      | .ok ⟨kept, some target, pass⟩ =>
          chain.sweepServed stage ahead kept.toList target { sweep with pass } := by
  unfold sweepMail Stage.divide
  cases stage.matcher.select mail with
  | error e => simp only [sorted_eq, fail]
  | ok selected =>
      dsimp only
      split
      · rfl
      · split <;> rfl

/-- A sweep makes of a mail what a branch becomes that enters the stage, and calls the same
mailet. -/
theorem sweepMail_eq (chain : Chain) (stage : Stage) (ahead : List Stage) (mail : Mail)
    (sweep : Sweep) :
    chain.sweepMail stage ahead mail sweep =
      let calls := sweep.calls ++ (Visit.mk stage ahead mail sweep.pass).call?.toList
      match chain.enter stage mail sweep.pass with
      | (.error halt, pass) => (.error halt, { sweep with calls, pass })
      | (.ok (kept, course), pass) =>
          (.ok (kept.toList ++ course.onward?.toList),
            ⟨calls, sweep.output ++ course.routed?.toList, pass⟩) := by
  rw [sweepMail_divide]
  unfold enter Visit.call?
  rcases stage.divide mail sweep.pass with e | ⟨kept, _ | target, pass⟩
  · simp
  · simp [Course.onward?, Course.routed?]
  · simp only [sweepServed, sorted_eq]
    rcases chain.attend stage.mailet target pass with ⟨halt | served, after⟩ <;> rfl

/-- What a run does from some pending branches on, behind what a sweep has done. -/
def traced (chain : Chain) (pending : List Branch) (sweep : Sweep) :
    Except Halt (List Mail) × List Call × Pass :=
  let run := chain.runPending pending sweep.output sweep.pass
  (run.1, sweep.calls ++ chain.callsFrom pending sweep.pass, run.2)

/-- The branch that is taken up first is replaced as in a sweep, and what stays of it goes to the
end of the worklist. -/
theorem traced_stage (chain : Chain) (stage : Stage) (ahead : List Stage) (mail : Mail)
    (pending : List Branch) (sweep : Sweep) :
    chain.traced (⟨stage :: ahead, mail⟩ :: pending) sweep =
      match chain.sweepMail stage ahead mail sweep with
      | (.error halt, sweep) => (.error halt, sweep.calls, sweep.pass)
      | (.ok staying, sweep) => chain.traced (pending ++ staying.map (Branch.mk ahead)) sweep := by
  rw [sweepMail_eq]
  dsimp only
  unfold traced
  rcases henter : chain.enter stage mail sweep.pass with ⟨halt | ⟨kept, course⟩, pass⟩
  · rw [callsFrom_halted henter, runPending, henter]
  · rw [callsFrom_stage henter, runPending, henter]
    dsimp only
    rw [List.append_assoc]
    rfl

/-- The branches of a row that are one stage behind are taken up first, and what stays of them joins
those that are not. -/
theorem traced_row (chain : Chain) (stage : Stage) (ahead : List Stage) (row passed : List Mail)
    (sweep : Sweep) :
    chain.traced (row.map (Branch.mk (stage :: ahead)) ++ passed.map (Branch.mk ahead)) sweep =
      match chain.sweepRow stage ahead row sweep with
      | (.error halt, sweep) => (.error halt, sweep.calls, sweep.pass)
      | (.ok staying, sweep) =>
          chain.traced ((passed ++ staying).map (Branch.mk ahead)) sweep := by
  induction row generalizing passed sweep with
  | nil => simp [sweepRow]
  | cons mail row ih =>
      rw [List.map_cons, List.cons_append, traced_stage, sweepRow]
      rcases chain.sweepMail stage ahead mail sweep with ⟨halt | staying, sweep⟩
      · rfl
      · dsimp only
        rw [List.append_assoc, ← List.map_append, ih]
        rcases chain.sweepRow stage ahead row sweep with ⟨halt | others, sweep⟩
        · rfl
        · dsimp only
          rw [List.append_assoc]

/-- Behind the last stage the branches of a row are taken up in order. -/
theorem traced_end (chain : Chain) (row : List Mail) (sweep : Sweep) :
    chain.traced (row.map (Branch.mk [])) sweep =
      (.ok (sweep.output ++ row.flatMap fun mail =>
        (chain.fallThrough sweep.pass.now mail).toList), sweep.calls, sweep.pass) := by
  induction row generalizing sweep with
  | nil => simp [traced, runPending, callsFrom]
  | cons mail row ih =>
      have hrest := ih { sweep with
        output := sweep.output ++ (chain.fallThrough sweep.pass.now mail).toList }
      simp only [traced, callsFrom, List.map_cons, visitsFrom_end, runPending] at hrest ⊢
      rw [hrest, List.flatMap_cons, List.append_assoc]

/-- A row of branches with the same stages ahead is swept through them. -/
theorem traced_stages (chain : Chain) (stages : List Stage) (row : List Mail) (sweep : Sweep) :
    chain.traced (row.map (Branch.mk stages)) sweep =
      match chain.sweepStages stages row sweep with
      | (.error halt, sweep) => (.error halt, sweep.calls, sweep.pass)
      | (.ok row, sweep) =>
          (.ok (sweep.output ++ row.flatMap fun mail =>
            (chain.fallThrough sweep.pass.now mail).toList), sweep.calls, sweep.pass) := by
  induction stages generalizing row sweep with
  | nil => exact chain.traced_end row sweep
  | cons stage ahead ih =>
      have hrow := chain.traced_row stage ahead row [] sweep
      rw [List.map_nil, List.append_nil] at hrow
      rw [hrow, sweepStages]
      rcases chain.sweepRow stage ahead row sweep with ⟨halt | staying, sweep⟩
      · rfl
      · exact ih staying sweep

/-- A run is the sweep of its mail: it takes no more steps than its stages allow, it returns if its
mailets do, and its answer, the calls of its mailets and the pass after it are those of the sweep,
in the same order. -/
theorem run_eq_sweep (chain : Chain) (mail : Mail) (pass : Pass) :
    ((chain.run mail pass).1, chain.calls mail pass, (chain.run mail pass).2) =
      chain.sweep mail pass ∧
    (chain.visits mail pass).length ≤ stepBound chain.stages ∧
    ((∀ stage ∈ chain.stages, stage.mailet.Returns) →
      ∃ routed pass', chain.run mail pass = (.ok routed, pass')) := by
  have htraced := chain.traced_stages chain.stages [mail] ⟨[], [], pass⟩
  refine ⟨htraced, ?_, ?_⟩
  · exact length_visitsFrom_le _ _
  · intro hreturns
    exact runPending_returns hreturns _ _ _ (inside_start chain mail)

end Chain

namespace Chain.Sample

/-- A chain whose first mailet takes bob on beside alice, and which hands bob on wherever he is. -/
def enlisting : Chain where
  name := StateName.default
  stages := [
    ⟨.recipientsWhere "IsAlice" (· == alice),
      .rewriting "Enlist" fun now mail => mail.setRecipients now (mail.recipients.insert bob)⟩,
    ⟨.recipientsWhere "IsBob" (· == bob), .toProcessor "list" none⟩]
  fallthrough := .error

/-- Of three recipients the first is served with one more, and the second is then on two
branches. -/
theorem run_eq_sweep_of_enlisting :
    (∀ stage ∈ enlisting.stages, stage.mailet.Returns) ∧
      (enlisting.calls mail pass).length = 3 ∧
      ((enlisting.run mail pass).1, enlisting.calls mail pass, (enlisting.run mail pass).2) =
        enlisting.sweep mail pass ∧
      ∃ routed pass', enlisting.run mail pass = (.ok routed, pass') := by
  have hreturns : ∀ stage ∈ enlisting.stages, stage.mailet.Returns := by
    intro stage hstage
    simp only [enlisting, List.mem_cons, List.not_mem_nil, or_false] at hstage
    rcases hstage with rfl | rfl
    · dsimp only
      exact Mailet.returns_rewriting _ _
    · dsimp only
      exact Mailet.returns_toProcessor _ _
  have hcalls : (enlisting.calls mail pass).length = 3 := by decide +kernel
  obtain ⟨hsweep, -, hreturned⟩ := run_eq_sweep enlisting mail pass
  exact ⟨hreturns, hcalls, hsweep, hreturned hreturns⟩

end Chain.Sample

end Postroom
