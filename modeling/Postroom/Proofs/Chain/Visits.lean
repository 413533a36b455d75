import Postroom.Proofs.Chain.Conservation

/-!
The visits of a run: the moves in which branches enter stages, in order, each with the branch as it
comes there. A visit shows which mailet was called on what, and whether a component failed. However
a run goes, it makes no more visits than its stages have steps.
-/

namespace Postroom

/-- A call of the mailet of a stage. -/
structure Call where
  stage : Stage
  ahead : List Stage
  mail : Mail
  pass : Pass

namespace Visit

/-- The call that a visit leads to, if the matcher selects anybody. -/
def call? (visit : Visit) : Option Call :=
  match visit.stage.divide visit.mail visit.pass with
  | .ok ⟨_, some target, pass⟩ => some ⟨visit.stage, visit.ahead, target, pass⟩
  | _ => none

end Visit

namespace Chain

variable {chain : Chain}

/-- The visits from some pending branches on. -/
def visitsFrom (chain : Chain) (pending : List Branch) (pass : Pass) : List Visit :=
  (chain.movesFrom pending pass).filterMap Move.visit?

/-- The visits of the run of a mail. -/
def visits (chain : Chain) (mail : Mail) (pass : Pass) : List Visit :=
  chain.visitsFrom [⟨chain.stages, mail⟩] pass

/-- The calls of mailets from some pending branches on. -/
def callsFrom (chain : Chain) (pending : List Branch) (pass : Pass) : List Call :=
  (chain.visitsFrom pending pass).filterMap Visit.call?

/-- The calls of mailets in the run of a mail. -/
def calls (chain : Chain) (mail : Mail) (pass : Pass) : List Call :=
  chain.callsFrom [⟨chain.stages, mail⟩] pass

@[simp] theorem visitsFrom_nil (chain : Chain) (pass : Pass) : chain.visitsFrom [] pass = [] := by
  rw [visitsFrom, movesFrom, List.filterMap_nil]

@[simp] theorem visitsFrom_end (chain : Chain) (mail : Mail) (pending : List Branch) (pass : Pass) :
    chain.visitsFrom (⟨[], mail⟩ :: pending) pass = chain.visitsFrom pending pass := by
  rw [visitsFrom, movesFrom, List.filterMap_cons_none (Move.visit?_ended _ _), visitsFrom]

theorem visitsFrom_halted {stage : Stage} {mail : Mail} {pass pass' : Pass} {halt : Halt}
    (h : chain.enter stage mail pass = (.error halt, pass')) (ahead : List Stage)
    (pending : List Branch) :
    chain.visitsFrom (⟨stage :: ahead, mail⟩ :: pending) pass = [⟨stage, ahead, mail, pass⟩] := by
  rw [visitsFrom, movesFrom, h, List.filterMap_cons_some (Move.visit?_entered _),
    List.filterMap_nil]

theorem visitsFrom_stage {stage : Stage} {mail : Mail} {pass pass' : Pass} {kept : Option Mail}
    {course : Course} (h : chain.enter stage mail pass = (.ok (kept, course), pass'))
    (ahead : List Stage) (pending : List Branch) :
    chain.visitsFrom (⟨stage :: ahead, mail⟩ :: pending) pass =
      ⟨stage, ahead, mail, pass⟩ ::
        chain.visitsFrom (pending ++ advance ahead kept course) pass' := by
  rw [visitsFrom, movesFrom, h, List.filterMap_cons_some (Move.visit?_entered _), visitsFrom]

theorem filterMap_call?_cons (visit : Visit) (visits : List Visit) :
    (visit :: visits).filterMap Visit.call? = visit.call?.toList ++
      visits.filterMap Visit.call? := by
  rw [List.filterMap_cons]
  cases visit.call? <;> rfl

theorem callsFrom_halted {stage : Stage} {mail : Mail} {pass pass' : Pass} {halt : Halt}
    (h : chain.enter stage mail pass = (.error halt, pass')) (ahead : List Stage)
    (pending : List Branch) :
    chain.callsFrom (⟨stage :: ahead, mail⟩ :: pending) pass =
      (Visit.mk stage ahead mail pass).call?.toList := by
  rw [callsFrom, visitsFrom_halted h, filterMap_call?_cons, List.filterMap_nil, List.append_nil]

theorem callsFrom_stage {stage : Stage} {mail : Mail} {pass pass' : Pass} {kept : Option Mail}
    {course : Course} (h : chain.enter stage mail pass = (.ok (kept, course), pass'))
    (ahead : List Stage) (pending : List Branch) :
    chain.callsFrom (⟨stage :: ahead, mail⟩ :: pending) pass =
      (Visit.mk stage ahead mail pass).call?.toList ++
        chain.callsFrom (pending ++ advance ahead kept course) pass' := by
  rw [callsFrom, visitsFrom_stage h, filterMap_call?_cons, callsFrom]

/-- Each visit takes a step of the worklist, and the steps are bounded by its weight. -/
theorem length_visitsFrom_le (pending : List Branch) (pass : Pass) :
    (chain.visitsFrom pending pass).length ≤ totalWeight pending := by
  induction pending, pass using Chain.movesFrom.induct with
  | case1 pass => simp
  | case2 mail pending pass ih =>
      rw [visitsFrom_end]
      exact Nat.le_trans ih (Nat.le_of_lt (totalWeight_pop _ _))
  | case3 stage ahead mail pending pass ih =>
      rcases henter : chain.enter stage mail pass with ⟨halt | ⟨kept, course⟩, after⟩
      · rw [visitsFrom_halted henter]
        exact Nat.zero_lt_of_lt (totalWeight_pop _ _)
      · rw [visitsFrom_stage henter, List.length_cons]
        have hstep := totalWeight_step stage ahead mail pending kept course
        have hrest := ih kept course after
        omega

end Chain

end Postroom
