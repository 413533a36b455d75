import Postroom.Catalogue

/-!
Chains: named lists of stages, each a matcher and a mailet. A stage serves the recipients that its
matcher selects. If those are all of the mail, the mailet serves the mail itself; if they are some,
they are forked off for it; the others go on to the next stage. A branch goes on as long as its
state is the name of the chain. One that gets another state is routed, and one that becomes terminal
is gone. Failures never end a run: they become the error message of the branch, which is then routed
to the state of errors, except in the chain that handles errors itself.
-/

namespace Postroom

/-- What becomes of a mail behind the last stage of a chain. -/
inductive Fallthrough where
  | ghost
  | error
  | processor (state : String)
  deriving DecidableEq

structure Stage where
  matcher : Matcher
  mailet : Mailet

structure Chain where
  name : String
  stages : List Stage
  fallthrough : Fallthrough := .ghost
  handlesErrors : Bool := false

/-- A stage as a configuration gives it. -/
structure StageConfig where
  matcher : String
  mailet : String
  params : Std.ExtTreeMap String String := ∅

/-- What a stage makes of a branch before its mailet is called. -/
structure Division where
  /-- The mail that goes on to the next stage unserved. -/
  kept : Option Mail
  /-- The mail that the mailet is to serve. -/
  target : Option Mail
  pass : Pass

/-- Divide a branch by what the matcher selects. A new id is drawn only if some recipients are
selected and others are not. -/
def Stage.divide (stage : Stage) (mail : Mail) (pass : Pass) : Except MatcherError Division :=
  match stage.matcher.select mail with
  | .error e => .error e
  | .ok selected =>
      let matched := selected.filter fun r => mail.recipients.contains r
      if matched.isEmpty then .ok ⟨some mail, none, pass⟩
      else if matched.size = mail.recipients.size then .ok ⟨none, some mail, pass⟩
      else
        let (id, pass) := pass.freshId
        let (rest, fork) := mail.fork id pass.now matched
        .ok ⟨some rest, some fork, pass⟩

/-- A chain as a configuration gives it. -/
structure ChainConfig where
  name : String
  stages : List StageConfig := []
  fallthrough : Fallthrough := .ghost

/-- Where a branch goes after a stage. -/
inductive Course where
  | onward (mail : Mail)
  | routed (mail : Mail)
  | gone

namespace Course

/-- The branch that goes on, if it does. -/
def onward? : Course → Option Mail
  | .onward mail => some mail
  | _ => none

/-- The branch that leaves the chain, if it does. -/
def routed? : Course → Option Mail
  | .routed mail => some mail
  | _ => none

end Course

/-- A branch with the stages that are still ahead of it. -/
structure Branch where
  stages : List Stage
  mail : Mail

/-- An upper bound on the steps that these stages lead to, as each of them may split a branch. -/
def stepBound : List Stage → Nat
  | [] => 1
  | _ :: stages => 2 * stepBound stages + 1

/-- An upper bound on the steps that a branch still takes. -/
def Branch.weight (branch : Branch) : Nat :=
  stepBound branch.stages

/-- A run of a chain: the mails that were routed, or why it was halted, and the pass after it. -/
abbrev Run := Except Halt (List Mail) × Pass

namespace Chain

def buildStage (catalogue : Catalogue) (config : StageConfig) : Except ConfigError Stage := do
  let matcher ← catalogue.buildMatcher config.matcher
  let mailet ← catalogue.buildMailet ⟨config.mailet, config.params⟩
  return ⟨matcher, mailet⟩

/-- Build a chain, its stages in order. -/
def ofConfig (catalogue : Catalogue) (config : ChainConfig) : Except ConfigError Chain := do
  let stages ← config.stages.mapM (buildStage catalogue)
  return { name := config.name, stages, fallthrough := config.fallthrough }

/-- The course of a branch that has been served. -/
def settle (chain : Chain) (mail : Mail) : Course :=
  if mail.isTerminal then .gone
  else if mail.state = chain.name then .onward mail
  else .routed mail

/-- The mail with a failure recorded on it. -/
def recordFailure (chain : Chain) (now : Instant) (mail : Mail) (message : String) : Mail :=
  let mail := mail.setError now message
  if chain.handlesErrors then mail else mail.setState now StateName.error

/-- The course of a branch on which a component failed. -/
def fail (chain : Chain) (now : Instant) (mail : Mail) (message : String) : Course :=
  chain.settle (chain.recordFailure now mail message)

/-- What becomes of a branch behind the last stage. -/
def fallThrough (chain : Chain) (now : Instant) (mail : Mail) : Option Mail :=
  match chain.fallthrough with
  | .ghost => none
  | .error =>
      let noted := match mail.error with
        | some _ => mail
        | none => mail.setError now ("Reached the end of processor " ++ chain.name)
      some (noted.setState now StateName.error)
  | .processor state => some (mail.setState now state)

/-- Have a mailet serve a branch. If it fails, the failure is recorded on what it left of it. -/
def attend (chain : Chain) (mailet : Mailet) (mail : Mail) (pass : Pass) :
    Except Halt Mail × Pass :=
  let served := mailet.service mail pass
  match served.outcome with
  | .done => (.ok served.mail, served.pass)
  | .failed e =>
      (.ok (chain.recordFailure pass.now served.mail (mailet.name ++ ": " ++ e.message)),
        served.pass)
  | .halted halt => (.error halt, served.pass)

/-- What a stage does to a branch: the mail that goes on without having been served, if there is
one, and the course of the one that has. -/
def enter (chain : Chain) (stage : Stage) (mail : Mail) (pass : Pass) :
    Except Halt (Option Mail × Course) × Pass :=
  match stage.divide mail pass with
  | .error e => (.ok (none, chain.fail pass.now mail e.message), pass)
  | .ok ⟨kept, none, pass⟩ => (.ok (kept, .gone), pass)
  | .ok ⟨kept, some target, pass⟩ =>
      let (answer, pass) := chain.attend stage.mailet target pass
      (answer.map fun mail => (kept, chain.settle mail), pass)

/-- The branches that leave a stage for the next one. The mail that was not served comes first. -/
def advance (stages : List Stage) (kept : Option Mail) (course : Course) : List Branch :=
  (kept.toList ++ course.onward?.toList).map (Branch.mk stages)

/-- The steps that some branches take at most. -/
def totalWeight : List Branch → Nat
  | [] => 0
  | branch :: rest => branch.weight + totalWeight rest

theorem totalWeight_append (xs ys : List Branch) :
    totalWeight (xs ++ ys) = totalWeight xs + totalWeight ys := by
  induction xs with
  | nil => simp [totalWeight]
  | cons branch rest ih => simp [totalWeight, ih, Nat.add_assoc]

theorem totalWeight_advance (stages : List Stage) (kept : Option Mail) (course : Course) :
    totalWeight (advance stages kept course) ≤ 2 * stepBound stages := by
  have hkept : kept.toList.length ≤ 1 := by cases kept <;> simp
  have hserved : course.onward?.toList.length ≤ 1 := by
    cases course <;> simp [Course.onward?]
  have hsum : ∀ mails : List Mail,
      totalWeight (mails.map (Branch.mk stages)) = mails.length * stepBound stages := by
    intro mails
    induction mails with
    | nil => simp [totalWeight]
    | cons mail rest ih =>
        rw [List.map_cons, totalWeight, ih, Branch.weight, List.length_cons, Nat.succ_mul,
          Nat.add_comm]
  rw [advance, hsum]
  exact Nat.mul_le_mul_right _ (by rw [List.length_append]; omega)

theorem totalWeight_step (stage : Stage) (stages : List Stage) (mail : Mail)
    (pending : List Branch) (kept : Option Mail) (course : Course) :
    totalWeight (pending ++ advance stages kept course) <
      totalWeight (⟨stage :: stages, mail⟩ :: pending) := by
  have h := totalWeight_advance stages kept course
  rw [totalWeight_append, totalWeight, Branch.weight, stepBound]
  omega

theorem stepBound_pos (stages : List Stage) : 0 < stepBound stages := by
  cases stages <;> simp [stepBound]

theorem totalWeight_pop (branch : Branch) (pending : List Branch) :
    totalWeight pending < totalWeight (branch :: pending) := by
  have hpos : 0 < branch.weight := stepBound_pos branch.stages
  rw [totalWeight]
  omega

/-- Take up the pending branches one after the other, the oldest first. -/
def runPending (chain : Chain) : List Branch → List Mail → Pass → Run
  | [], routed, pass => (.ok routed, pass)
  | ⟨[], mail⟩ :: pending, routed, pass =>
      runPending chain pending (routed ++ (chain.fallThrough pass.now mail).toList) pass
  | ⟨stage :: stages, mail⟩ :: pending, routed, pass =>
      match chain.enter stage mail pass with
      | (.error halt, pass) => (.error halt, pass)
      | (.ok (kept, course), pass) =>
          runPending chain (pending ++ advance stages kept course)
            (routed ++ course.routed?.toList) pass
termination_by pending => totalWeight pending
decreasing_by
  · exact totalWeight_pop _ _
  · exact totalWeight_step _ _ _ _ _ _

/-- Run a mail through every stage. -/
def run (chain : Chain) (mail : Mail) (pass : Pass) : Run :=
  chain.runPending [⟨chain.stages, mail⟩] [] pass

end Chain

end Postroom
