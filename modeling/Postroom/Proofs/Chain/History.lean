import Postroom.Chain

/-!
The history of a run. A run moves through its worklist: a branch enters a stage, or comes to the end
of the chain. The moves tell all there is to say of a run. Its answer is read off them, and so is
its history, which shows what the answer does not: which ids its forks drew, which branches its
mailets served, and which branches the chain disposed of, in order.
-/

namespace Postroom

inductive Incident where
  /-- Some recipients were split off under a new id. -/
  | forked (id : MailId)
  /-- The mailet of a stage was called on a branch. -/
  | served (stage : Stage) (before : Mail) (pass : Pass)
  /-- A branch was terminal after a stage and was disposed of. -/
  | discarded (mail : Mail)
  /-- A branch came to the end of a chain that drops such mail. -/
  | dropped (mail : Mail)

namespace Incident

def forkId? : Incident → Option MailId
  | .forked id => some id
  | _ => none

/-- Whether an incident ends the way of a recipient: the mailet that served its branch removed it,
or the branch was disposed of with it. -/
def Takes (incident : Incident) (r : Address) : Prop :=
  match incident with
  | .forked _ => False
  | .served stage before pass =>
      r ∈ before.recipients ∧ r ∉ (stage.mailet.service before pass).mail.recipients
  | .discarded mail => r ∈ mail.recipients
  | .dropped mail => r ∈ mail.recipients

instance (r : Address) : DecidablePred fun incident : Incident => incident.Takes r
  | .forked _ => inferInstanceAs (Decidable False)
  | .served stage before pass =>
      inferInstanceAs (Decidable (r ∈ before.recipients ∧
        r ∉ (stage.mailet.service before pass).mail.recipients))
  | .discarded mail => inferInstanceAs (Decidable (r ∈ mail.recipients))
  | .dropped mail => inferInstanceAs (Decidable (r ∈ mail.recipients))

end Incident

/-- The ids that forks drew, in order. -/
def forkIds (history : List Incident) : List MailId :=
  history.filterMap Incident.forkId?

@[simp] theorem forkIds_nil : forkIds [] = [] := rfl

@[simp] theorem forkIds_append (xs ys : List Incident) :
    forkIds (xs ++ ys) = forkIds xs ++ forkIds ys :=
  List.filterMap_append ..

/-- Whether an incident is one that a run of the chain can have. -/
def Incident.Genuine (chain : Chain) : Incident → Prop
  | .forked _ => True
  | .served stage _ _ => stage ∈ chain.stages
  | .discarded mail => mail.isTerminal = true
  | .dropped _ => chain.fallthrough = .ghost

/-- A branch that enters a stage, with the stages that are behind that one. -/
structure Visit where
  stage : Stage
  ahead : List Stage
  mail : Mail
  pass : Pass

namespace Chain

variable {chain : Chain}

/-- What a run does with the oldest of its pending branches. -/
inductive Move where
  /-- The branch comes to the end of the chain. -/
  | ended (mail : Mail) (pass : Pass)
  /-- The branch enters a stage. -/
  | entered (visit : Visit)

def Move.visit? : Move → Option Visit
  | .ended _ _ => none
  | .entered visit => some visit

theorem Move.visit?_ended (mail : Mail) (pass : Pass) : (Move.ended mail pass).visit? = none := rfl

theorem Move.visit?_entered (visit : Visit) : (Move.entered visit).visit? = some visit := rfl

/-- The moves of a run from some pending branches on. -/
def movesFrom (chain : Chain) : List Branch → Pass → List Move
  | [], _ => []
  | ⟨[], mail⟩ :: pending, pass => .ended mail pass :: movesFrom chain pending pass
  | ⟨stage :: ahead, mail⟩ :: pending, pass =>
      .entered ⟨stage, ahead, mail, pass⟩ ::
        match chain.enter stage mail pass with
        | (.error _, _) => []
        | (.ok (kept, course), pass) =>
            movesFrom chain (pending ++ advance ahead kept course) pass
termination_by pending => totalWeight pending
decreasing_by
  · exact totalWeight_pop _ _
  · exact totalWeight_step _ _ _ _ _ _

/-- What the moves of a run come to. -/
def outcome (chain : Chain) : List Move → List Mail → Pass → Run
  | [], routed, pass => (.ok routed, pass)
  | .ended mail pass :: moves, routed, _ =>
      outcome chain moves (routed ++ (chain.fallThrough pass.now mail).toList) pass
  | .entered visit :: moves, routed, _ =>
      match chain.enter visit.stage visit.mail visit.pass with
      | (.error halt, pass) => (.error halt, pass)
      | (.ok (_, course), pass) => outcome chain moves (routed ++ course.routed?.toList) pass

/-- A run does what its moves come to. -/
theorem runPending_eq_outcome (pending : List Branch) (routed : List Mail) (pass : Pass) :
    chain.runPending pending routed pass =
      chain.outcome (chain.movesFrom pending pass) routed pass := by
  induction pending, routed, pass using Chain.runPending.induct chain with
  | case1 routed pass => rw [runPending, movesFrom, outcome]
  | case2 mail pending routed pass ih => rw [runPending, movesFrom, outcome, ih]
  | case3 stage ahead mail pending routed pass halt after henter =>
      simp only [runPending, movesFrom, outcome, henter]
  | case4 stage ahead mail pending routed pass kept course after henter ih =>
      simp only [runPending, movesFrom, outcome, henter, ih]

/-- The disposal of a branch that has passed a stage, if it is terminal. -/
def disposal (mail : Mail) : List Incident :=
  if mail.isTerminal then [.discarded mail] else []

/-- What happens when a branch enters a stage. -/
def incidents (chain : Chain) (stage : Stage) (mail : Mail) (pass : Pass) : List Incident :=
  match stage.divide mail pass with
  | .error e => disposal (chain.recordFailure pass.now mail e.message)
  | .ok ⟨_, none, _⟩ => []
  | .ok ⟨kept, some target, pass⟩ =>
      (kept.toList.map fun _ => Incident.forked target.id) ++
        .served stage target pass ::
          match (chain.attend stage.mailet target pass).1 with
          | .ok mail => disposal mail
          | .error _ => []

/-- What happens to a branch behind the last stage. -/
def ending (chain : Chain) (mail : Mail) : List Incident :=
  match chain.fallthrough with
  | .ghost => [.dropped mail]
  | _ => []

/-- What happens in a move. -/
def told (chain : Chain) : Move → List Incident
  | .ended mail _ => chain.ending mail
  | .entered visit => chain.incidents visit.stage visit.mail visit.pass

/-- What happens from some pending branches on. -/
def historyFrom (chain : Chain) (pending : List Branch) (pass : Pass) : List Incident :=
  (chain.movesFrom pending pass).flatMap chain.told

/-- The history of the run of a mail. -/
def history (chain : Chain) (mail : Mail) (pass : Pass) : List Incident :=
  chain.historyFrom [⟨chain.stages, mail⟩] pass

theorem historyFrom_nil (chain : Chain) (pass : Pass) : chain.historyFrom [] pass = [] := by
  rw [historyFrom, movesFrom, List.flatMap_nil]

theorem historyFrom_end (chain : Chain) (mail : Mail) (pending : List Branch) (pass : Pass) :
    chain.historyFrom (⟨[], mail⟩ :: pending) pass =
      chain.ending mail ++ chain.historyFrom pending pass := by
  rw [historyFrom, movesFrom, List.flatMap_cons, told, historyFrom]

theorem historyFrom_halted {stage : Stage} {mail : Mail} {pass pass' : Pass} {halt : Halt}
    (h : chain.enter stage mail pass = (.error halt, pass')) (stages : List Stage)
    (pending : List Branch) :
    chain.historyFrom (⟨stage :: stages, mail⟩ :: pending) pass =
      chain.incidents stage mail pass := by
  rw [historyFrom, movesFrom, List.flatMap_cons, h, List.flatMap_nil, List.append_nil, told]

theorem historyFrom_stage {chain : Chain} {stage : Stage} {mail : Mail} {pass pass' : Pass}
    {kept : Option Mail} {course : Course}
    (h : chain.enter stage mail pass = (.ok (kept, course), pass'))
    (stages : List Stage) (pending : List Branch) :
    chain.historyFrom (⟨stage :: stages, mail⟩ :: pending) pass =
      chain.incidents stage mail pass ++
        chain.historyFrom (pending ++ advance stages kept course) pass' := by
  rw [historyFrom, movesFrom, List.flatMap_cons, h, told, historyFrom]

/-- Whether the stages that are ahead of a branch are stages of the chain. -/
def Inside (chain : Chain) (branch : Branch) : Prop :=
  ∀ stage ∈ branch.stages, stage ∈ chain.stages

/-- The mail that a run starts with has the stages of the chain ahead of it. -/
theorem inside_start (chain : Chain) (mail : Mail) :
    ∀ branch ∈ [(⟨chain.stages, mail⟩ : Branch)], chain.Inside branch := by
  intro branch hbranch
  rw [List.mem_singleton.1 hbranch]
  exact fun stage hstage => hstage

/-- No stage comes to the worklist from outside the chain. -/
theorem inside_advance {stage : Stage} {stages : List Stage} {mail : Mail} {pending : List Branch}
    (h : ∀ branch ∈ (⟨stage :: stages, mail⟩ : Branch) :: pending, chain.Inside branch)
    (kept : Option Mail) (course : Course) :
    ∀ branch ∈ pending ++ advance stages kept course, chain.Inside branch := by
  intro branch hbranch
  rcases List.mem_append.1 hbranch with hold | hnew
  · exact h branch (List.mem_cons_of_mem _ hold)
  · obtain ⟨m, -, rfl⟩ := List.mem_map.1 hnew
    intro s hs
    exact h _ (List.mem_cons_self ..) s (List.mem_cons_of_mem _ hs)

theorem incidents_genuine {stage : Stage} (hstage : stage ∈ chain.stages) (mail : Mail)
    (pass : Pass) : ∀ incident ∈ chain.incidents stage mail pass, incident.Genuine chain := by
  have hdisposal : ∀ m : Mail, ∀ incident ∈ disposal m, incident.Genuine chain := by
    intro m incident hincident
    unfold disposal at hincident
    split at hincident
    · rename_i hterminal
      rw [List.mem_singleton.1 hincident]
      exact hterminal
    · cases hincident
  intro incident hincident
  unfold incidents at hincident
  split at hincident
  · exact hdisposal _ _ hincident
  · cases hincident
  · rcases List.mem_append.1 hincident with hfork | hrest
    · obtain ⟨_, -, rfl⟩ := List.mem_map.1 hfork
      trivial
    · rcases List.mem_cons.1 hrest with rfl | hlater
      · exact hstage
      · split at hlater
        · exact hdisposal _ _ hlater
        · cases hlater

/-- A history says nothing that the run does not do. -/
theorem historyFrom_genuine (pending : List Branch) (pass : Pass)
    (hinside : ∀ branch ∈ pending, chain.Inside branch) :
    ∀ incident ∈ chain.historyFrom pending pass, incident.Genuine chain := by
  induction pending, pass using Chain.movesFrom.induct with
  | case1 pass =>
      rw [historyFrom_nil]
      simp
  | case2 mail pending pass ih =>
      rw [historyFrom_end]
      intro incident hincident
      rcases List.mem_append.1 hincident with hend | hlater
      · unfold ending at hend
        split at hend
        · rename_i hghost
          rw [List.mem_singleton.1 hend]
          exact hghost
        · cases hend
      · exact ih (fun branch hb => hinside branch (List.mem_cons_of_mem _ hb)) _ hlater
  | case3 stage stages mail pending pass ih =>
      have hstage : stage ∈ chain.stages :=
        hinside _ (List.mem_cons_self ..) stage (List.mem_cons_self ..)
      have hhere := incidents_genuine hstage mail pass
      rcases henter : chain.enter stage mail pass with ⟨halt | ⟨kept, course⟩, after⟩
      · rw [historyFrom_halted henter]
        exact hhere
      · rw [historyFrom_stage henter]
        intro incident hincident
        rcases List.mem_append.1 hincident with hnow | hlater
        · exact hhere _ hnow
        · exact ih _ _ _ (inside_advance hinside _ _) _ hlater

end Chain

end Postroom
