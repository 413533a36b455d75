import Postroom.Proofs.Chain.Visits
import Postroom.Proofs.Mailet.Individual

/-!
What a stage with built-in components does to a branch, it does to each recipient of it alone. It
divides the branch so that a recipient is on the served part if the stage serves the recipient
alone, and the part with the recipient has the same course as the single mail.
-/

namespace Postroom

/-- Whether no component fails at a visit: the matcher answers, and the mailet, if it is called,
is done. -/
def Visit.Succeeds (visit : Visit) : Prop :=
  match visit.stage.divide visit.mail visit.pass with
  | .error _ => False
  | .ok ⟨_, none, _⟩ => True
  | .ok ⟨_, some target, pass⟩ => (visit.stage.mailet.service target pass).outcome = .done

instance : DecidablePred Visit.Succeeds := fun visit =>
  match h : visit.stage.divide visit.mail visit.pass with
  | .error _ => .isFalse (by simp [Visit.Succeeds, h])
  | .ok ⟨_, none, _⟩ => .isTrue (by simp [Visit.Succeeds, h])
  | .ok ⟨_, some target, pass⟩ =>
      decidable_of_iff ((visit.stage.mailet.service target pass).outcome = .done)
        (by simp [Visit.Succeeds, h])

/-- Whether the components of a stage are built in, with a mailbox store that judges each recipient
individually. -/
structure Stage.IsBuiltin (stage : Stage) : Prop where
  matcher : stage.matcher.IsBuiltin
  mailet : stage.mailet.IsBuiltin
  store : ∀ store, stage.mailet = .localDelivery store → store.Individual

/-- A stage that does not deliver needs no mailbox store. -/
theorem Stage.IsBuiltin.of_name {stage : Stage} (hmatcher : stage.matcher.IsBuiltin)
    (hmailet : stage.mailet.IsBuiltin) (hname : stage.mailet.name ≠ "LocalDelivery") :
    stage.IsBuiltin where
  matcher := hmatcher
  mailet := hmailet
  store _ hstore := absurd (congrArg Mailet.name hstore) hname

/-- A part of a set that is as large as the set holds all of it. -/
theorem Recipients.mem_of_size_eq {part whole : Recipients} (hsub : ∀ q ∈ part, q ∈ whole)
    (hsize : part.size = whole.size) {r : Address} (hr : r ∈ whole) : r ∈ part := by
  by_contra hout
  have hnodup : (r :: part.toList).Nodup :=
    List.nodup_cons.2 ⟨by simpa using hout, part.nodup_toList⟩
  have hsubset : r :: part.toList ⊆ whole.toList := by
    intro q hq
    rcases List.mem_cons.1 hq with rfl | hlater
    · simpa using hr
    · simpa using hsub q (by simpa using hlater)
  have hlength := (List.subperm_of_subset hnodup hsubset).length_le
  rw [List.length_cons, Std.ExtTreeSet.length_toList, Std.ExtTreeSet.length_toList] at hlength
  omega

theorem Recipients.mem_filter {recipients : Recipients} {holds : Address → Bool} {q : Address} :
    q ∈ recipients.filter holds ↔ q ∈ recipients ∧ holds q = true := by
  simp

/-- How a stage divides the mail with a single recipient: it serves all of it or nothing. -/
theorem Stage.divide_single {stage : Stage} {r : Address} {alone mail : Mail}
    (halone : Mail.Alone r alone mail) {selected : Recipients}
    (hselect : stage.matcher.select alone = .ok selected) (pass : Pass) :
    stage.divide alone pass =
      .ok (if r ∈ selected then ⟨none, some alone, pass⟩ else ⟨some alone, none, pass⟩) := by
  have hmatched : (selected.filter fun q => alone.recipients.contains q) =
      if r ∈ selected then alone.recipients else ∅ := by
    apply Std.ExtTreeSet.ext_mem
    intro q
    rw [Recipients.mem_filter, Std.ExtTreeSet.contains_iff_mem, halone.only]
    split
    · rename_i hr
      rw [halone.only]
      exact ⟨And.right, fun h => ⟨h ▸ hr, h⟩⟩
    · rename_i hr
      constructor
      · rintro ⟨hq, rfl⟩
        exact absurd hq hr
      · intro hq
        simp at hq
  rw [Stage.divide, hselect]
  dsimp only
  rw [hmatched]
  split
  · have hsome : alone.recipients.isEmpty = false := by
      rw [← Bool.not_eq_true]
      intro hempty
      have hmem := halone.mem
      rw [Std.ExtTreeSet.isEmpty_iff.1 hempty] at hmem
      simp at hmem
    rw [hsome]
    simp
  · simp

/-- A stage divides a branch for one of its recipients as it divides the mail with that recipient
alone: the part that goes on unserved holds the recipient, or the part that is served does. -/
theorem Stage.divide_alone {stage : Stage} (hmatcher : stage.matcher.Individual) {r : Address}
    {alone mail : Mail} (halone : Mail.Alone r alone mail) {pass between : Pass}
    {kept target : Option Mail} (h : stage.divide mail pass = .ok ⟨kept, target, between⟩) :
    (∃ rest, kept = some rest ∧ Mail.Alone r alone rest ∧ (∀ t ∈ target, r ∉ t.recipients) ∧
      ∀ pass', stage.divide alone pass' = .ok ⟨some alone, none, pass'⟩) ∨
    (∃ served, target = some served ∧ Mail.Alone r alone served ∧
      (∀ rest ∈ kept, r ∉ rest.recipients) ∧
      ∀ pass', stage.divide alone pass' = .ok ⟨none, some alone, pass'⟩) := by
  unfold Stage.divide at h
  cases hselect : stage.matcher.select mail with
  | error e => simp [hselect] at h
  | ok selected =>
      obtain ⟨single, hsingle, hiff⟩ := hmatcher.alone r alone mail selected halone hselect
      have hdivide := Stage.divide_single halone hsingle
      have hmatched : r ∈ (selected.filter fun q => mail.recipients.contains q) ↔ r ∈ selected := by
        rw [Recipients.mem_filter, Std.ExtTreeSet.contains_iff_mem]
        exact and_iff_left halone.holds
      simp only [hselect] at h
      generalize hpart :
        (selected.filter fun q => mail.recipients.contains q) = matched at h hmatched
      have hsub : ∀ q ∈ matched, q ∈ mail.recipients := by
        intro q hq
        rw [← hpart, Recipients.mem_filter, Std.ExtTreeSet.contains_iff_mem] at hq
        exact hq.2
      split at h
      · rename_i hempty
        cases h
        have hout : r ∉ single := by
          rw [hiff, ← hmatched, Std.ExtTreeSet.isEmpty_iff.1 hempty]
          simp
        simp only [if_neg hout] at hdivide
        exact .inl ⟨mail, rfl, halone, by simp, hdivide⟩
      · split at h
        · rename_i hsize
          cases h
          have hin : r ∈ single :=
            hiff.2 (hmatched.1 (Recipients.mem_of_size_eq hsub hsize halone.holds))
          simp only [if_pos hin] at hdivide
          exact .inr ⟨mail, rfl, halone, by simp, hdivide⟩
        · cases h
          by_cases hin : r ∈ single
          · simp only [if_pos hin] at hdivide
            have hr : r ∈ matched := hmatched.2 (hiff.1 hin)
            refine .inr ⟨_, rfl, { halone with holds := hr }, ?_, hdivide⟩
            intro rest hrest
            cases hrest
            simp [hr]
          · simp only [if_neg hin] at hdivide
            have hr : r ∉ matched := fun h => hin (hiff.2 (hmatched.1 h))
            refine .inl ⟨_, rfl, { halone with holds := ?_ }, ?_, hdivide⟩
            · rw [Mail.mem_fork_rest]
              exact ⟨halone.holds, hr⟩
            · intro t ht
              cases ht
              exact hr

namespace Chain

variable {chain : Chain} {stage : Stage} {r : Address} {alone mail : Mail}

/-- Where in the chain the mailets are called on branches with a recipient: each stage with those
ahead of it. -/
def stopsOf (r : Address) (calls : List Call) : List (Stage × List Stage) :=
  (calls.filter fun call => call.mail.recipients.contains r).map fun call =>
    (call.stage, call.ahead)

@[simp] theorem stopsOf_nil (r : Address) : stopsOf r [] = [] := rfl

theorem stopsOf_append (r : Address) (first second : List Call) :
    stopsOf r (first ++ second) = stopsOf r first ++ stopsOf r second := by
  rw [stopsOf, List.filter_append, List.map_append]
  rfl

theorem stopsOf_of_mem {call : Call} (h : r ∈ call.mail.recipients) :
    stopsOf r [call] = [(call.stage, call.ahead)] := by
  simp [stopsOf, h]

theorem stopsOf_of_not_mem {call : Call} (h : r ∉ call.mail.recipients) :
    stopsOf r [call] = [] := by
  simp [stopsOf, h]

/-- What a stage makes of a branch with a recipient on the left, and of the mail with that recipient
alone on the right. -/
inductive Parallel (r : Address) : Option Mail → Course → Option Mail → Course → Prop where
  | unserved {rest alone : Mail} (course : Course) : Mail.Alone r alone rest →
      Parallel r (some rest) course (some alone) .gone
  | onward {served alone : Mail} (kept : Option Mail) : Mail.Alone r alone served →
      Parallel r kept (.onward served) none (.onward alone)
  | routed {served alone : Mail} (kept : Option Mail) : Mail.Alone r alone served →
      Parallel r kept (.routed served) none (.routed alone)
  | gone {kept : Option Mail} : (∀ rest ∈ kept, r ∉ rest.recipients) →
      Parallel r kept .gone none .gone

theorem settle_ghost (h : mail.state = StateName.ghost) : chain.settle mail = .gone := by
  have hterminal : mail.isTerminal = true := by simp [Mail.isTerminal, h]
  rw [settle, hterminal, if_pos rfl]

/-- Mails that are alike have the same course. -/
theorem parallel_settle {kept : Option Mail} (hkept : ∀ rest ∈ kept, r ∉ rest.recipients)
    (halone : Mail.Alone r alone mail) :
    Parallel r kept (chain.settle mail) none (chain.settle alone) := by
  rw [settle, settle, halone.isTerminal_eq, halone.state]
  split
  · exact .gone hkept
  · split
    · exact .onward kept halone
    · exact .routed kept halone

/-- A visit at which nothing is served. -/
theorem enter_unserved {pass between : Pass} {kept : Option Mail}
    (hdivide : stage.divide mail pass = .ok ⟨kept, none, between⟩) :
    chain.enter stage mail pass = (.ok (kept, .gone), between) := by
  rw [enter, hdivide]

/-- A visit at which the mailet is done with what it served. -/
theorem enter_served {pass between : Pass} {kept : Option Mail} {target : Mail}
    (hdivide : stage.divide mail pass = .ok ⟨kept, some target, between⟩)
    (hdone : (stage.mailet.service target between).outcome = .done) :
    chain.enter stage mail pass =
      (.ok (kept, chain.settle (stage.mailet.service target between).mail),
        (stage.mailet.service target between).pass) := by
  have hattend : chain.attend stage.mailet target between =
      (.ok (stage.mailet.service target between).mail,
        (stage.mailet.service target between).pass) := by
    rw [attend, hdone]
  rw [enter, hdivide]
  dsimp only
  rw [hattend]
  rfl

/-- All that a visit can be at which no component fails. -/
theorem succeeds_cases {visit : Visit} (h : visit.Succeeds) :
    (∃ kept between, visit.stage.divide visit.mail visit.pass = .ok ⟨kept, none, between⟩) ∨
    ∃ kept target between,
      visit.stage.divide visit.mail visit.pass = .ok ⟨kept, some target, between⟩ ∧
        (visit.stage.mailet.service target between).outcome = .done := by
  unfold Visit.Succeeds at h
  rcases hdivide : visit.stage.divide visit.mail visit.pass with e | ⟨kept, _ | target, between⟩
  · simp [hdivide] at h
  · exact .inl ⟨kept, between, rfl⟩
  · simp only [hdivide] at h
    exact .inr ⟨kept, target, between, rfl, h⟩

/-- A branch on which no component fails passes its stage. -/
theorem enter_of_succeeds {ahead : List Stage} {pass : Pass}
    (h : (Visit.mk stage ahead mail pass).Succeeds) :
    ∃ kept course after, chain.enter stage mail pass = (.ok (kept, course), after) := by
  rcases succeeds_cases h with ⟨kept, between, hdivide⟩ | ⟨kept, target, between, hdivide, hdone⟩
  · exact ⟨kept, .gone, between, enter_unserved hdivide⟩
  · exact ⟨kept, _, _, enter_served hdivide hdone⟩

/-- It does so in no time. -/
theorem enter_now (hmailet : stage.mailet.IsBuiltin) {ahead : List Stage} {pass after : Pass}
    (h : (Visit.mk stage ahead mail pass).Succeeds) {kept : Option Mail} {course : Course}
    (henter : chain.enter stage mail pass = (.ok (kept, course), after)) :
    after.now = pass.now := by
  rcases succeeds_cases h with ⟨rest, between, hdivide⟩ | ⟨rest, target, between, hdivide, hdone⟩
  · rw [enter_unserved hdivide] at henter
    cases henter
    exact Stage.divide_now hdivide
  · rw [enter_served hdivide hdone] at henter
    cases henter
    rw [hmailet.service_now]
    exact Stage.divide_now hdivide

/-- If no component fails on a branch, none fails on one of its recipients alone, and what the stage
makes of the branch for that recipient it makes of the single mail. -/
theorem enter_alone (hstage : stage.IsBuiltin) (halone : Mail.Alone r alone mail)
    {pass pass' : Pass} (hnow : pass'.now = pass.now) (hnotify : stage.mailet.CanNotify alone)
    {ahead : List Stage} (hsucceeds : (Visit.mk stage ahead mail pass).Succeeds)
    {kept : Option Mail} {course : Course} {after : Pass}
    (henter : chain.enter stage mail pass = (.ok (kept, course), after)) :
    (Visit.mk stage ahead alone pass').Succeeds ∧
      stopsOf r (Visit.mk stage ahead alone pass').call?.toList =
        stopsOf r (Visit.mk stage ahead mail pass).call?.toList ∧
      ∃ kept' course' after', chain.enter stage alone pass' = (.ok (kept', course'), after') ∧
        Parallel r kept course kept' course' ∧
        ∀ m ∈ survivors kept' course', m.id = alone.id ∧ m.sender = alone.sender := by
  have hindividual := hstage.matcher.individual
  rcases succeeds_cases hsucceeds with ⟨rest, between, hdivide⟩ |
    ⟨rest, target, between, hdivide, hdone⟩
  · -- nobody is served, so nobody is served alone
    rw [enter_unserved hdivide] at henter
    cases henter
    rcases Stage.divide_alone hindividual halone hdivide with
      ⟨m, rfl, hm, -, hsingle⟩ | ⟨served, hserved, -⟩
    · refine ⟨by simp [Visit.Succeeds, hsingle], ?_, some alone, .gone, pass',
        enter_unserved (hsingle pass'), .unserved .gone hm, ?_⟩
      · simp [Visit.call?, hsingle, hdivide]
      · simp [survivors, Course.onward?, Course.routed?]
    · cases hserved
  · rw [enter_served hdivide hdone] at henter
    cases henter
    rcases Stage.divide_alone hindividual halone hdivide with
      ⟨m, rfl, hm, hout, hsingle⟩ | ⟨_, ⟨⟩, hserved, hout, hsingle⟩
    · -- others are served, so nobody is served alone
      refine ⟨by simp [Visit.Succeeds, hsingle], ?_, some alone, .gone, pass',
        enter_unserved (hsingle pass'), .unserved _ hm, ?_⟩
      · simp only [Visit.call?, hsingle, hdivide]
        exact (stopsOf_of_not_mem (hout target rfl)).symm
      · simp [survivors, Course.onward?, Course.routed?]
    · have hbetween : pass'.now = between.now := hnow.trans (Stage.divide_now hdivide).symm
      obtain ⟨hdone', hleft⟩ := hstage.mailet.service_alone hstage.store hserved hbetween hnotify
        hdone
      refine ⟨?_, ?_, none, _, _, enter_served (hsingle pass') hdone', ?_, ?_⟩
      · simp only [Visit.Succeeds, hsingle]
        exact hdone'
      · simp only [Visit.call?, hsingle, hdivide]
        rw [Option.toList_some, Option.toList_some, stopsOf_of_mem (by exact halone.mem),
          stopsOf_of_mem (by exact hserved.holds)]
      · rcases hleft with halike | ⟨hghost', hghost⟩
        · exact parallel_settle hout halike
        · rw [settle_ghost hghost', settle_ghost hghost]
          exact .gone hout
      · intro m hm
        rw [survivors_settle, Option.toList_none, List.nil_append] at hm
        split at hm
        · cases hm
        · rw [List.mem_singleton.1 hm]
          exact ⟨(hstage.mailet.addsNobody alone pass').1, hstage.mailet.service_sender alone pass'⟩

end Chain

end Postroom
