import Postroom.Proofs.Chain.Invariant
import Postroom.Proofs.Mailet.Conduct

/-!
Recipients are conserved by a run. Each stage keeps the books of the branch that enters it, whatever
its matcher answers and whatever its mailet does short of taking recipients on; so does the end of
the chain; and a run adds these up. In the end each recipient is on one routed mail, or was removed
by the mailet that served its branch, or went with a branch that was disposed of.
-/

namespace Postroom

namespace Chain

variable {chain : Chain}

/-- A branch that has passed a stage is disposed of, or it survives. -/
theorem accounts_disposal (mail : Mail) :
    Accounts [mail] (disposal mail) (if mail.isTerminal then [] else [mail]) := by
  unfold disposal
  split
  · exact .gone fun r => .rfl
  · exact .refl [mail]

/-- A branch that its stage has served, up to its disposal. -/
theorem accounts_attend {stage : Stage} {target served : Mail} {pass pass' : Pass}
    (hmailet : stage.mailet.AddsNobody)
    (h : chain.attend stage.mailet target pass = (.ok served, pass')) :
    Accounts [target] (.served stage target pass :: disposal served)
      (if served.isTerminal then [] else [served]) := by
  obtain ⟨hid, hsub⟩ := hmailet target pass
  obtain ⟨hid', hsame⟩ := attend_ok h
  have hcalled : Accounts [target] [.served stage target pass] [_] := .served hid hsub
  have hnoted : Accounts [_] [] [served] := .relabel hid' hsame
  exact (hcalled.trans hnoted).trans (accounts_disposal served)

/-- One stage keeps the books of the branch that enters it. -/
theorem enter_accounts {stage : Stage} {mail : Mail} {pass pass' : Pass} {kept : Option Mail}
    {course : Course} (hmailet : stage.mailet.AddsNobody)
    (h : chain.enter stage mail pass = (.ok (kept, course), pass')) :
    Accounts [mail] (chain.incidents stage mail pass) (survivors kept course) := by
  rcases enter_cases h with ⟨e, -, rfl, rfl, -, hincidents⟩ | ⟨rfl, rfl, -, hincidents⟩ |
    ⟨target, between, served, hpart, hattend, rfl, hincidents⟩
  · rw [hincidents, fail, survivors_settle]
    have hnoted : Accounts [mail] [] [chain.recordFailure pass.now mail e.message] :=
      .relabel (recordFailure_id ..) (recordFailure_recipients ..)
    exact hnoted.trans (accounts_disposal _)
  · rw [hincidents]
    exact .refl [mail]
  · rw [hincidents, survivors_settle]
    have hserved := accounts_attend hmailet hattend
    rcases hpart with ⟨rfl, rfl, -⟩ | ⟨rest, -, -, rfl, -, hsplit⟩
    · exact hserved
    · have hparts := Accounts.split hsplit.rest_id hsplit.apart hsplit.mem_iff
      have hbeside := hserved.beside [rest]
      exact hparts.trans (hbeside.perm (List.Perm.swap ..) List.perm_append_comm)

/-- The end of a chain keeps the books of the branch that reaches it. -/
theorem fallThrough_accounts (chain : Chain) (now : Instant) (mail : Mail) :
    Accounts [mail] (chain.ending mail) (chain.fallThrough now mail).toList := by
  rcases chain.fallThrough_cases now mail with ⟨-, hnone, hending⟩ |
    ⟨hending, m, hsome, hid, hsame⟩
  · rw [hnone, hending]
    exact .gone fun r => .rfl
  · rw [hsome, hending]
    exact .relabel hid hsame

/-- Accounts of recipients and ids are books. -/
theorem books_accounts : Books fun before _ history after _ => Accounts before history after where
  refl mails _ := .refl mails
  trans first second := first.trans second
  beside others h := h.beside others
  perm h hperm := h.perm hperm (.refl _)

/-- A run keeps the books of everything that is pending or routed. -/
theorem runPending_accounts (hmailets : ∀ stage ∈ chain.stages, stage.mailet.AddsNobody)
    (pending : List Branch) (routed : List Mail) (pass : Pass)
    (hinside : ∀ branch ∈ pending, chain.Inside branch) {final : List Mail} {pass' : Pass}
    (h : chain.runPending pending routed pass = (.ok final, pass')) :
    Accounts (pending.map Branch.mail ++ routed) (chain.historyFrom pending pass) final :=
  books_accounts.runPending (fun _ => True)
    (fun mail pass => chain.fallThrough_accounts pass.now mail)
    (fun stage hstage _ _ _ _ _ _ henter =>
      ⟨enter_accounts (hmailets stage hstage) henter, fun _ _ => trivial⟩)
    pending routed pass hinside (fun _ _ => trivial) h

/-- A stage leaves no mail without recipients. -/
theorem enter_occupied {stage : Stage} {mail : Mail} {pass pass' : Pass} {kept : Option Mail}
    {course : Course} (hmail : mail.recipients ≠ ∅)
    (h : chain.enter stage mail pass = (.ok (kept, course), pass')) :
    ∀ m ∈ survivors kept course, m.recipients ≠ ∅ := by
  have hlive : ∀ {served m : Mail}, m ∈ (if served.isTerminal then [] else [served]) →
      m.recipients ≠ ∅ := by
    intro served m hm
    split at hm
    · cases hm
    · rename_i hterminal
      rw [List.mem_singleton.1 hm]
      exact ((Mail.isTerminal_eq_false_iff served).1 (by simpa using hterminal)).2
  intro m hm
  rcases enter_cases h with ⟨e, -, rfl, rfl, -, -⟩ | ⟨rfl, rfl, -, -⟩ |
    ⟨target, between, served, hpart, -, rfl, -⟩
  · rw [fail, survivors_settle] at hm
    exact hlive hm
  · rw [List.mem_singleton.1 hm]
    exact hmail
  · rw [survivors_settle] at hm
    rcases List.mem_append.1 hm with hkept | hserved
    · rcases hpart with ⟨rfl, -⟩ | ⟨rest, -, -, rfl, -, hsplit⟩
      · cases hkept
      · rw [List.mem_singleton.1 hkept]
        exact hsplit.rest_occupied
    · exact hlive hserved

theorem fallThrough_occupied {now : Instant} {mail m : Mail} (hmail : mail.recipients ≠ ∅)
    (hm : m ∈ (chain.fallThrough now mail).toList) : m.recipients ≠ ∅ := by
  rcases chain.fallThrough_cases now mail with ⟨-, hnone, -⟩ | ⟨-, ended, hsome, -, hsame⟩
  · simp [hnone] at hm
  · rw [hsome, Option.toList_some, List.mem_singleton] at hm
    rw [hm, hsame]
    exact hmail

/-- No mail of a run is ever without recipients. -/
theorem runPending_occupied (pending : List Branch) (routed : List Mail) (pass : Pass)
    (hpending : ∀ branch ∈ pending, branch.mail.recipients ≠ ∅)
    (hrouted : ∀ m ∈ routed, m.recipients ≠ ∅) {final : List Mail} {pass' : Pass}
    (h : chain.runPending pending routed pass = (.ok final, pass')) :
    ∀ m ∈ final, m.recipients ≠ ∅ := by
  induction pending, routed, pass using Chain.runPending.induct chain with
  | case1 routed pass =>
      rw [runPending] at h
      cases h
      exact hrouted
  | case2 mail pending routed pass ih =>
      rw [runPending] at h
      refine ih (fun branch hb => hpending branch (List.mem_cons_of_mem _ hb)) ?_ h
      intro m hm
      rcases List.mem_append.1 hm with hold | hnew
      · exact hrouted m hold
      · exact fallThrough_occupied (hpending _ (List.mem_cons_self ..)) hnew
  | case3 stage stages mail pending routed pass halt after henter =>
      rw [runPending, henter] at h
      cases h
  | case4 stage stages mail pending routed pass kept course pass' henter ih =>
      rw [runPending, henter] at h
      have hleft := enter_occupied (hpending _ (List.mem_cons_self ..)) henter
      refine ih ?_ ?_ h
      · intro branch hbranch
        rcases List.mem_append.1 hbranch with hold | hnew
        · exact hpending branch (List.mem_cons_of_mem _ hold)
        · obtain ⟨m, hm, rfl⟩ := List.mem_map.1 hnew
          exact hleft m (List.mem_append_left _ hm)
      · intro m hm
        rcases List.mem_append.1 hm with hold | hnew
        · exact hrouted m hold
        · exact hleft m (List.mem_append_right _ hnew)

/-- A run is halted only by a mailet of its chain. -/
theorem runPending_halted (pending : List Branch) (routed : List Mail) (pass : Pass)
    (hinside : ∀ branch ∈ pending, chain.Inside branch) {halt : Halt} {pass' : Pass}
    (h : chain.runPending pending routed pass = (.error halt, pass')) :
    ∃ stage ∈ chain.stages, ∃ target between,
      (stage.mailet.service target between).outcome = .halted halt := by
  obtain ⟨stage, hstage, target, between, -, -, houtcome⟩ :=
    (upholds_true chain).runPending_halted pending routed pass hinside (fun _ _ => trivial)
      trivial h
  exact ⟨stage, hstage, target, between, houtcome⟩

/-- A run whose mailets return returns. -/
theorem runPending_returns (hreturns : ∀ stage ∈ chain.stages, stage.mailet.Returns)
    (pending : List Branch) (routed : List Mail) (pass : Pass)
    (hinside : ∀ branch ∈ pending, chain.Inside branch) :
    ∃ final pass', chain.runPending pending routed pass = (.ok final, pass') := by
  rcases hrun : chain.runPending pending routed pass with ⟨halt | final, pass'⟩
  · obtain ⟨stage, hstage, target, between, houtcome⟩ := runPending_halted _ _ _ hinside hrun
    exact absurd houtcome (hreturns stage hstage target between halt)
  · exact ⟨final, pass', rfl⟩

/-- Whether, in a history, a mailet of the chain removed a recipient from the branch it served. -/
def Removes (chain : Chain) (history : List Incident) (r : Address) : Prop :=
  ∃ stage ∈ chain.stages, ∃ before pass, .served stage before pass ∈ history ∧
      r ∈ before.recipients ∧ r ∉ (stage.mailet.service before pass).mail.recipients

/-- Whether, in a history, a branch with a recipient was disposed of, as its state was `ghost` or
as it came to the end of a chain that drops its mail. -/
def DisposesOf (chain : Chain) (history : List Incident) (r : Address) : Prop :=
  ∃ mail, r ∈ mail.recipients ∧
    (mail.state = StateName.ghost ∧ .discarded mail ∈ history ∨
      chain.fallthrough = .ghost ∧ .dropped mail ∈ history)

/-- An incident that ends the way of a recipient is a removal or a disposal. -/
theorem removes_or_disposesOf {history : List Incident} {incident : Incident} {r : Address}
    (hmem : incident ∈ history) (hgenuine : incident.Genuine chain) (htakes : incident.Takes r) :
    chain.Removes history r ∨ chain.DisposesOf history r := by
  cases incident with
  | forked id => exact htakes.elim
  | served stage before pass => exact .inl ⟨stage, hgenuine, before, pass, hmem, htakes⟩
  | discarded mail =>
      -- with `r` on it, it can only be terminal for its state
      have hghost : mail.state = StateName.ghost := by
        by_contra hstate
        have hempty : mail.recipients ≠ ∅ := by
          intro hempty
          simp [Incident.Takes, hempty] at htakes
        have hlive := (Mail.isTerminal_eq_false_iff mail).2 ⟨hstate, hempty⟩
        rw [Incident.Genuine, hlive] at hgenuine
        cases hgenuine
      exact .inr ⟨mail, htakes, .inl ⟨hghost, hmem⟩⟩
  | dropped mail => exact .inr ⟨mail, htakes, .inr ⟨hgenuine, hmem⟩⟩

/-- Recipients are conserved by a run whose mailets take nobody on, and it returns if they do. No
recipient is on two routed mails, and none is missing that was not removed or disposed of. Of the
routed mails, at most one has the id of the old one. -/
theorem run_conserves_recipients (chain : Chain) (mail : Mail) (pass : Pass)
    (hmailets : ∀ stage ∈ chain.stages, stage.mailet.AddsNobody)
    (hlive : mail.isTerminal = false) :
    ((∀ stage ∈ chain.stages, stage.mailet.Returns) →
      ∃ routed pass', chain.run mail pass = (.ok routed, pass')) ∧
    ∀ routed pass', chain.run mail pass = (.ok routed, pass') →
      routed.Pairwise Mail.Apart ∧
      (∀ m ∈ routed, m.recipients ≠ ∅ ∧ ∀ r ∈ m.recipients, r ∈ mail.recipients) ∧
      (∀ r ∈ mail.recipients, (∃ m ∈ routed, r ∈ m.recipients) ∨
        chain.Removes (chain.history mail pass) r ∨
        chain.DisposesOf (chain.history mail pass) r) ∧
      ((mail.id :: forkIds (chain.history mail pass)).Nodup →
        (routed.map Mail.id).Nodup ∧ (routed.map Mail.id).count mail.id ≤ 1) := by
  have hinside := inside_start chain mail
  refine ⟨fun hreturns => runPending_returns hreturns _ _ _ hinside, ?_⟩
  intro routed pass' hrun
  have haccounts : Accounts [mail] (chain.history mail pass) routed :=
    runPending_accounts hmailets _ _ _ hinside hrun
  have hoccupied : ∀ m ∈ routed, m.recipients ≠ ∅ := by
    refine runPending_occupied _ _ _ ?_ (by simp) hrun
    intro branch hbranch
    rw [List.mem_singleton.1 hbranch]
    exact ((Mail.isTerminal_eq_false_iff mail).1 hlive).2
  refine ⟨haccounts.apart_of_singleton, ?_, ?_, ?_⟩
  · intro m hm
    refine ⟨hoccupied m hm, ?_⟩
    intro r hr
    obtain ⟨old, hold, hr⟩ := haccounts.subset hm hr
    rwa [List.mem_singleton.1 hold] at hr
  · intro r hr
    rcases haccounts.covered r (holders_pos_iff.2 ⟨mail, by simp, hr⟩) with hleft |
      ⟨incident, hmem, htakes⟩
    · exact .inl (holders_pos_iff.1 hleft)
    · have hgenuine := historyFrom_genuine _ pass hinside incident hmem
      exact .inr (removes_or_disposesOf hmem hgenuine htakes)
  · intro hfresh
    have hids := haccounts.nodup_ids_of_singleton hfresh
    exact ⟨hids, List.nodup_iff_count_le_one.1 hids mail.id⟩

end Chain

namespace Chain.Sample

def alice : Address := ⟨"alice", ⟨"example.org"⟩⟩

def bob : Address := ⟨"bob", ⟨"example.org"⟩⟩

def carol : Address := ⟨"carol", ⟨"example.org"⟩⟩

/-- A chain that serves alice, hands bob on and drops everybody else. -/
def chain : Chain where
  name := StateName.default
  stages := [
    ⟨.recipientsWhere "IsAlice" (· == alice),
      .rewriting "Serve" fun now mail => mail.removeRecipient now alice⟩,
    ⟨.recipientsWhere "IsBob" (· == bob), .toProcessor "list" none⟩]
  fallthrough := .ghost

def mail : Mail :=
  .create default .epoch none (.ofList [alice, bob, carol]) .empty

def pass : Pass :=
  .start .epoch (.counting 1) [] { disk := .empty } none

theorem conduct_chain : ∀ stage ∈ chain.stages, stage.mailet.AddsNobody ∧ stage.mailet.Returns := by
  intro stage hstage
  simp only [chain, List.mem_cons, List.not_mem_nil, or_false] at hstage
  rcases hstage with rfl | rfl
  · dsimp only
    exact ⟨Mailet.addsNobody_rewriting fun now mail => mail.within_removeRecipient now alice,
      Mailet.returns_rewriting _ _⟩
  · dsimp only
    exact ⟨Mailet.addsNobody_toProcessor _ _, Mailet.returns_toProcessor _ _⟩

/-- Of three recipients one is served and removed, one is handed on under a new id, and one is
dropped. -/
theorem run_conserves_recipients_of_three :
    mail.isTerminal = false ∧ ∃ routed pass', chain.run mail pass = (.ok routed, pass') ∧
      routed.Pairwise Mail.Apart ∧ (routed.map Mail.id).Nodup ∧
      ∀ r ∈ [alice, bob, carol], (∃ m ∈ routed, r ∈ m.recipients) ∨
        chain.Removes (chain.history mail pass) r ∨
        chain.DisposesOf (chain.history mail pass) r := by
  have hlive : mail.isTerminal = false := by decide +kernel
  obtain ⟨hreturns, hconserved⟩ := run_conserves_recipients chain mail pass
    (fun stage hstage => (conduct_chain stage hstage).1) hlive
  obtain ⟨routed, pass', hrun⟩ := hreturns fun stage hstage => (conduct_chain stage hstage).2
  obtain ⟨hapart, -, hcovered, hids⟩ := hconserved routed pass' hrun
  have hfresh : (mail.id :: forkIds (chain.history mail pass)).Nodup := by decide +kernel
  have hrecipients : ∀ r ∈ [alice, bob, carol], r ∈ mail.recipients := by decide +kernel
  exact ⟨hlive, routed, pass', hrun, hapart, (hids hfresh).1,
    fun r hr => hcovered r (hrecipients r hr)⟩

end Chain.Sample

end Postroom
