import Postroom.Proofs.Chain.Individual

/-!
The way of a recipient does not depend on who else is on the mail. In a chain of built-in
components, a run of a mail without failures takes each recipient the way that a run of the mail
with that recipient alone takes it: through the same mailets, in the same order, and to the same
end. The branch with the recipient is one of many in the worklist of the first run, and the only one
in that of the second.
-/

namespace Postroom

/-- A mail with one recipient instead of all. -/
def Mail.only (mail : Mail) (r : Address) : Mail :=
  { mail with recipients := .ofList [r] }

theorem Mail.alone_only (mail : Mail) {r : Address} (hr : r ∈ mail.recipients) :
    Mail.Alone r (mail.only r) mail where
  holds := hr
  only q := by
    have hmem : q ∈ (mail.only r).recipients ↔ r = q := by simp [Mail.only]
    rw [hmem, eq_comm]
  sender := rfl
  content := rfl
  state := rfl
  attributes := rfl
  error := rfl
  remoteHost := rfl
  remoteAddress := rfl

namespace Chain

variable {chain : Chain} {r : Address}

/-- Whether the way of a recipient ends alike in two runs: the branch with the recipient is
disposed of in both, or both return it, and the second run returns no other mail. -/
def EndsAlike (r : Address) (routed single : List Mail) : Prop :=
  (∀ m ∈ routed, r ∉ m.recipients) ∧ single = [] ∨
    ∃ m alone, (routed.filter fun m => m.recipients.contains r) = [m] ∧ single = [alone] ∧
      Mail.Alone r alone m

/-- A recipient who is on one mail only is on none of the others. -/
theorem without_of_holders {mails others : List Mail} {m : Mail} (hsingle : holders r mails ≤ 1)
    (hperm : mails.Perm (m :: others)) (hr : r ∈ m.recipients) :
    ∀ q ∈ others, r ∉ q.recipients := by
  intro q hq hrq
  have hothers : 0 < holders r others := holders_pos_iff.2 ⟨q, hq, hrq⟩
  have hhere : 0 < holders r [m] := holders_pos_iff.2 ⟨m, by simp, hr⟩
  have hsum : holders r mails = holders r [m] + holders r others := by
    rw [holders_perm r hperm, ← holders_append, List.singleton_append]
  omega

theorem filter_without {mails : List Mail} (h : ∀ m ∈ mails, r ∉ m.recipients) :
    (mails.filter fun m => m.recipients.contains r) = [] := by
  rw [List.filter_eq_nil_iff]
  intro m hm
  simpa using h m hm

/-- Only the mails with the recipient matter for how its way ends. -/
theorem EndsAlike.of_filter_eq {routed others single : List Mail} (h : EndsAlike r routed single)
    (hsame : (others.filter fun m => m.recipients.contains r) =
      routed.filter fun m => m.recipients.contains r) : EndsAlike r others single := by
  rcases h with ⟨hout, hnone⟩ | ⟨m, alone, hm, halone⟩
  · rw [filter_without hout, List.filter_eq_nil_iff] at hsame
    refine .inl ⟨?_, hnone⟩
    intro m hm
    simpa using hsame m hm
  · exact .inr ⟨m, alone, hsame.trans hm, halone⟩

theorem endsAlike_nil (r : Address) : EndsAlike r [] [] :=
  .inl ⟨by simp, rfl⟩

theorem endsAlike_singleton {m alone : Mail} (h : Mail.Alone r alone m) :
    EndsAlike r [m] [alone] :=
  .inr ⟨m, alone, by simp [h.holds], rfl, h⟩

/-- A stage brings no recipient onto more mails of the worklist. -/
theorem holders_step {stage : Stage} (hmailet : stage.mailet.AddsNobody) {mail : Mail}
    {pass pass' : Pass} {kept : Option Mail} {course : Course}
    (h : chain.enter stage mail pass = (.ok (kept, course), pass')) (stages : List Stage)
    (pending : List Branch) (routed : List Mail) :
    holders r ((pending ++ advance stages kept course).map Branch.mail ++
        (routed ++ course.routed?.toList)) ≤
      holders r (mail :: (pending.map Branch.mail ++ routed)) := by
  have hstep := (enter_accounts hmailet h).beside (pending.map Branch.mail ++ routed)
  rw [holders_perm r (perm_advance ..)]
  exact hstep.single r

theorem holders_end (now : Instant) (mail : Mail) (pending : List Branch) (routed : List Mail) :
    holders r (pending.map Branch.mail ++ (routed ++ (chain.fallThrough now mail).toList)) ≤
      holders r (mail :: (pending.map Branch.mail ++ routed)) := by
  have hend := (chain.fallThrough_accounts now mail).beside (pending.map Branch.mail ++ routed)
  rw [← List.append_assoc, holders_perm r List.perm_append_comm]
  exact hend.single r

/-- Whoever is on no mail of a worklist is on none after a stage. -/
theorem enter_without {stage : Stage} (hmailet : stage.mailet.AddsNobody) {mail : Mail}
    {pass pass' : Pass} {kept : Option Mail} {course : Course}
    (h : chain.enter stage mail pass = (.ok (kept, course), pass')) (hr : r ∉ mail.recipients) :
    ∀ m ∈ survivors kept course, r ∉ m.recipients := by
  intro m hm hrm
  obtain ⟨old, hold, hrold⟩ := (enter_accounts hmailet h).subset hm hrm
  rw [List.mem_singleton.1 hold] at hrold
  exact hr hrold

/-- A mailet is called on recipients of the branch that enters its stage. -/
theorem mem_of_call? {visit : Visit} {call : Call} (h : visit.call? = some call) {q : Address}
    (hq : q ∈ call.mail.recipients) : q ∈ visit.mail.recipients := by
  unfold Visit.call? at h
  split at h
  · rename_i kept target between hdivide
    cases h
    rcases Stage.divide_cases hdivide with heq | heq | ⟨rest, fork, matched, -, heq, hsplit⟩ <;>
      cases heq
    · exact hq
    · exact (hsplit.mem_iff q).2 (.inr hq)
  · cases h

theorem stopsOf_without {visit : Visit} (hr : r ∉ visit.mail.recipients) :
    stopsOf r visit.call?.toList = [] := by
  cases hcall : visit.call? with
  | none => rfl
  | some call => exact stopsOf_of_not_mem fun hmem => hr (mem_of_call? hcall hmem)

/-- A run calls no mailet on whoever is on no branch of the worklist, and returns no further mail to
them. -/
theorem runPending_without (hmailets : ∀ stage ∈ chain.stages, stage.mailet.AddsNobody)
    (pending : List Branch) (routed : List Mail) (pass : Pass)
    (hinside : ∀ branch ∈ pending, chain.Inside branch)
    (hout : ∀ branch ∈ pending, r ∉ branch.mail.recipients) {final : List Mail} {pass' : Pass}
    (h : chain.runPending pending routed pass = (.ok final, pass')) :
    stopsOf r (chain.callsFrom pending pass) = [] ∧
      (final.filter fun m => m.recipients.contains r) =
        routed.filter fun m => m.recipients.contains r := by
  induction pending, routed, pass using Chain.runPending.induct chain with
  | case1 routed pass =>
      rw [runPending] at h
      cases h
      simp [callsFrom]
  | case2 mail pending routed pass ih =>
      rw [runPending] at h
      obtain ⟨hstops, hfinal⟩ := ih (fun branch hb => hinside branch (List.mem_cons_of_mem _ hb))
        (fun branch hb => hout branch (List.mem_cons_of_mem _ hb)) h
      have hended : ∀ m ∈ (chain.fallThrough pass.now mail).toList, r ∉ m.recipients := by
        intro m hm
        rcases chain.fallThrough_cases pass.now mail with ⟨-, hnone, -⟩ | ⟨-, e, hsome, -, hsame⟩
        · simp [hnone] at hm
        · rw [hsome, Option.toList_some, List.mem_singleton] at hm
          rw [hm, hsame]
          exact hout _ (List.mem_cons_self ..)
      refine ⟨by simpa [callsFrom] using hstops, ?_⟩
      rw [hfinal, List.filter_append, filter_without hended, List.append_nil]
  | case3 stage stages mail pending routed pass halt after henter =>
      rw [runPending, henter] at h
      cases h
  | case4 stage stages mail pending routed pass kept course after henter ih =>
      rw [runPending, henter] at h
      have hstage : stage ∈ chain.stages :=
        hinside _ (List.mem_cons_self ..) stage (List.mem_cons_self ..)
      have hmail : r ∉ mail.recipients := hout _ (List.mem_cons_self ..)
      have hleft := enter_without (hmailets stage hstage) henter hmail
      have hpending : ∀ branch ∈ pending ++ advance stages kept course,
          r ∉ branch.mail.recipients := by
        intro branch hbranch
        rcases List.mem_append.1 hbranch with hold | hnew
        · exact hout branch (List.mem_cons_of_mem _ hold)
        · obtain ⟨m, hm, rfl⟩ := List.mem_map.1 hnew
          exact hleft m (List.mem_append_left _ hm)
      have hrouted : ∀ m ∈ course.routed?.toList, r ∉ m.recipients :=
        fun m hm => hleft m (List.mem_append_right _ hm)
      obtain ⟨hstops, hfinal⟩ := ih (inside_advance hinside kept course) hpending h
      rw [callsFrom_stage henter, stopsOf_append, stopsOf_without hmail, hstops, hfinal,
        List.filter_append, filter_without hrouted]
      exact ⟨rfl, List.append_nil _⟩

/-- A run returns if no component fails in it. -/
theorem runPending_of_succeeds (pending : List Branch) (routed : List Mail) (pass : Pass)
    (hsucceeds : ∀ visit ∈ chain.visitsFrom pending pass, visit.Succeeds) :
    ∃ final pass', chain.runPending pending routed pass = (.ok final, pass') := by
  induction pending, routed, pass using Chain.runPending.induct chain with
  | case1 routed pass => exact ⟨routed, pass, by rw [runPending]⟩
  | case2 mail pending routed pass ih =>
      rw [runPending]
      rw [visitsFrom_end] at hsucceeds
      exact ih hsucceeds
  | case3 stage stages mail pending routed pass halt after henter =>
      rw [visitsFrom_halted henter] at hsucceeds
      obtain ⟨kept, course, after', hok⟩ :=
        @enter_of_succeeds chain _ _ _ _ (hsucceeds _ (List.mem_singleton_self _))
      rw [henter] at hok
      cases hok
  | case4 stage stages mail pending routed pass kept course after henter ih =>
      rw [visitsFrom_stage henter] at hsucceeds
      rw [runPending, henter]
      exact ih fun visit hvisit => hsucceeds visit (List.mem_cons_of_mem _ hvisit)

/-- The end of a chain treats mails that are alike alike. -/
theorem fallThrough_alone {alone mail : Mail} (halone : Mail.Alone r alone mail)
    (now later : Instant) :
    EndsAlike r (chain.fallThrough now mail).toList (chain.fallThrough later alone).toList := by
  unfold fallThrough
  cases chain.fallthrough with
  | ghost => exact endsAlike_nil r
  | error =>
      apply endsAlike_singleton
      rw [halone.error]
      cases mail.error with
      | none => exact (halone.setError ..).setState ..
      | some message => exact halone.setState ..
  | processor state => exact endsAlike_singleton (halone.setState ..)

/-- What a run from some worklist on, which returns `final`, has in common with the run of a single
mail: no component fails in the latter, the recipient comes to the same mailets, and its way ends
alike. -/
structure Follows (chain : Chain) (r : Address) (pending : List Branch) (pass : Pass)
    (final : List Mail) (singles : List Branch) (left : List Mail) (pass' : Pass) : Prop where
  succeeds : ∀ visit ∈ chain.visitsFrom singles pass', visit.Succeeds
  stops : stopsOf r (chain.callsFrom singles pass') = stopsOf r (chain.callsFrom pending pass)
  ends : ∃ single last, chain.runPending singles left pass' = (.ok single, last) ∧
    EndsAlike r final single

/-- If the recipient is on no branch of the worklist any more, both runs are through with it. -/
theorem follows_of_without (hmailets : ∀ stage ∈ chain.stages, stage.mailet.AddsNobody)
    {pending : List Branch} {routed added left final : List Mail} {pass last : Pass} (pass' : Pass)
    (hinside : ∀ branch ∈ pending, chain.Inside branch)
    (hpending : ∀ branch ∈ pending, r ∉ branch.mail.recipients)
    (hrouted : ∀ m ∈ routed, r ∉ m.recipients)
    (h : chain.runPending pending (routed ++ added) pass = (.ok final, last))
    (hadded : EndsAlike r added left) : chain.Follows r pending pass final [] left pass' := by
  obtain ⟨hstops, hfinal⟩ := runPending_without hmailets _ _ _ hinside hpending h
  rw [List.filter_append, filter_without hrouted, List.nil_append] at hfinal
  refine ⟨by simp, by rw [hstops]; simp [callsFrom], left, pass', by rw [runPending], ?_⟩
  exact hadded.of_filter_eq hfinal

/-- From any worklist on, if the recipient is on one branch of it and on no other mail, and no
component fails, then the run of the mail with that recipient alone from the same stage on takes it
the same way to the same end. -/
theorem runPending_alone (hstages : ∀ stage ∈ chain.stages, stage.IsBuiltin)
    (pending : List Branch) (routed : List Mail) (pass : Pass)
    (hinside : ∀ branch ∈ pending, chain.Inside branch)
    (hsucceeds : ∀ visit ∈ chain.visitsFrom pending pass, visit.Succeeds)
    (hsingle : holders r (pending.map Branch.mail ++ routed) ≤ 1) {stages : List Stage}
    {mail alone : Mail} (hbranch : ⟨stages, mail⟩ ∈ pending) (halone : Mail.Alone r alone mail)
    (hnotify : ∀ stage ∈ chain.stages, stage.mailet.CanNotify alone) {pass' : Pass}
    (hnow : pass'.now = pass.now) {final : List Mail} {last : Pass}
    (h : chain.runPending pending routed pass = (.ok final, last)) :
    chain.Follows r pending pass final [⟨stages, alone⟩] [] pass' := by
  have hmailets : ∀ stage ∈ chain.stages, stage.mailet.AddsNobody :=
    fun stage hstage => (hstages stage hstage).mailet.addsNobody
  induction pending, routed, pass using Chain.runPending.induct chain
    generalizing stages mail alone pass' with
  | case1 routed pass => cases hbranch
  | case2 ended pending routed pass ih =>
      rw [visitsFrom_end] at hsucceeds
      rw [runPending] at h
      have hinside' : ∀ branch ∈ pending, chain.Inside branch :=
        fun branch hb => hinside branch (List.mem_cons_of_mem _ hb)
      rcases List.mem_cons.1 hbranch with heq | hlater
      · -- the branch with `r` has come to the end of the chain
        cases heq
        have hothers := without_of_holders hsingle (.refl _) halone.holds
        have hrest := follows_of_without hmailets pass' hinside'
          (fun branch hb => hothers _ (List.mem_append_left _ (List.mem_map_of_mem hb)))
          (fun m hm => hothers m (List.mem_append_right _ hm)) h
          (fallThrough_alone halone pass.now pass'.now)
        exact ⟨by simp, by simpa [callsFrom] using hrest.stops,
          by simpa [runPending] using hrest.ends⟩
      · have hrest := ih hinside' hsucceeds (Nat.le_trans (holders_end ..) hsingle) hlater halone
          hnotify hnow h
        exact ⟨hrest.succeeds, by simpa [callsFrom] using hrest.stops, hrest.ends⟩
  | case3 stage ahead entering pending routed pass halt after henter =>
      rw [runPending, henter] at h
      cases h
  | case4 stage ahead entering pending routed pass kept course after henter ih =>
      rw [visitsFrom_stage henter] at hsucceeds
      rw [runPending, henter] at h
      have hstage : stage ∈ chain.stages :=
        hinside _ (List.mem_cons_self ..) stage (List.mem_cons_self ..)
      have hhere : (Visit.mk stage ahead entering pass).Succeeds :=
        hsucceeds _ (List.mem_cons_self ..)
      have hlater : ∀ visit ∈ chain.visitsFrom (pending ++ advance ahead kept course) after,
          visit.Succeeds := fun visit hvisit => hsucceeds visit (List.mem_cons_of_mem _ hvisit)
      have hinside' := inside_advance hinside kept course
      have hsingle' := Nat.le_trans
        (holders_step (r := r) (hmailets stage hstage) henter ahead pending routed) hsingle
      have hafter : after.now = pass.now := enter_now (hstages stage hstage).mailet hhere henter
      rcases List.mem_cons.1 hbranch with heq | hwaiting
      · -- the branch with `r` enters its next stage
        cases heq
        have hothers := without_of_holders hsingle (.refl _) halone.holds
        obtain ⟨hsucceeds', hstop, kept', course', after', henter', hparallel, hsame⟩ :=
          enter_alone (hstages stage hstage) halone hnow (hnotify stage hstage) hhere henter
        have hafter' := enter_now (hstages stage hstage).mailet hsucceeds' henter'
        have hnow' : after'.now = after.now := hafter'.trans (hnow.trans hafter.symm)
        have hnotify' : ∀ m ∈ survivors kept' course', ∀ s ∈ chain.stages, s.mailet.CanNotify m :=
          fun m hm s hs => (hnotify s hs).of_eq (hsame m hm).1 (hsame m hm).2
        have hrest : chain.Follows r (pending ++ advance ahead kept course) after final
            ([] ++ advance ahead kept' course') ([] ++ course'.routed?.toList) after' := by
          cases hparallel with
          | unserved course hm =>
              exact ih hinside' hlater hsingle'
                (List.mem_append_right _ (by simp [advance])) hm
                (hnotify' _ (by simp [survivors])) hnow' h
          | onward kept hm =>
              exact ih hinside' hlater hsingle'
                (List.mem_append_right _ (by simp [advance, Course.onward?])) hm
                (hnotify' _ (by simp [survivors, Course.onward?])) hnow' h
          | routed kept hm =>
              have hpending := without_of_holders hsingle'
                (by rw [← List.append_assoc]; exact List.perm_append_singleton ..) hm.holds
              exact follows_of_without hmailets after' hinside'
                (fun branch hb => hpending _ (List.mem_append_left _ (List.mem_map_of_mem hb)))
                (fun m hm => hothers m (List.mem_append_right _ hm)) h (endsAlike_singleton hm)
          | gone hkept =>
              refine follows_of_without hmailets after' hinside' ?_
                (fun m hm => hothers m (List.mem_append_right _ hm)) h (endsAlike_nil r)
              intro branch hb
              rcases List.mem_append.1 hb with hold | hnew
              · exact hothers _ (List.mem_append_left _ (List.mem_map_of_mem hold))
              · obtain ⟨m, hm, rfl⟩ := List.mem_map.1 hnew
                exact hkept m (by simpa [Course.onward?] using hm)
        refine ⟨?_, ?_, ?_⟩
        · rw [visitsFrom_stage henter']
          exact List.forall_mem_cons.2 ⟨hsucceeds', hrest.succeeds⟩
        · rw [callsFrom_stage henter', callsFrom_stage henter, stopsOf_append,
            stopsOf_append, hstop, hrest.stops]
        · rw [runPending, henter']
          exact hrest.ends
      · -- another branch enters its next stage
        have hentering : r ∉ entering.recipients := fun hr =>
          without_of_holders hsingle (.refl _) hr mail
            (List.mem_append_left _ (List.mem_map_of_mem hwaiting)) halone.holds
        have hrest := ih hinside' hlater hsingle' (List.mem_append_left _ hwaiting) halone hnotify
          (hnow.trans hafter.symm) h
        refine ⟨hrest.succeeds, ?_, hrest.ends⟩
        rw [callsFrom_stage henter, stopsOf_append, stopsOf_without hentering, List.nil_append,
          hrest.stops]

/-- If no component fails in the run of a mail, the run returns, and that of the mail with one of
its recipients alone follows it. -/
theorem run_follows (hstages : ∀ stage ∈ chain.stages, stage.IsBuiltin) {mail : Mail}
    {pass pass' : Pass} (hsucceeds : ∀ visit ∈ chain.visits mail pass, visit.Succeeds) {r : Address}
    (hr : r ∈ mail.recipients) (hnotify : ∀ stage ∈ chain.stages, stage.mailet.CanNotify mail)
    (hnow : pass'.now = pass.now) :
    ∃ routed after, chain.run mail pass = (.ok routed, after) ∧
      chain.Follows r [⟨chain.stages, mail⟩] pass routed
        [⟨chain.stages, mail.only r⟩] [] pass' := by
  obtain ⟨routed, after, hrun⟩ := runPending_of_succeeds _ [] _ hsucceeds
  have hsingle : holders r ([(⟨chain.stages, mail⟩ : Branch)].map Branch.mail ++ []) ≤ 1 :=
    List.countP_le_length
  exact ⟨routed, after, hrun,
    runPending_alone hstages _ _ _ (inside_start chain mail) hsucceeds hsingle
    (List.mem_singleton_self _) (mail.alone_only hr) hnotify hnow hrun⟩

/-- The way of a recipient does not depend on who else is on the mail. In a chain of built-in
components whose mailbox stores judge each recipient individually, if no component fails in the run
of a mail, and its sender can be notified if need be, then none fails in the run of that mail with
one of its recipients alone. Both runs return, the recipient comes to the same mailets in the same
order, and its branch is disposed of in both or returned in both, alike but for ids and times. -/
theorem run_alone (chain : Chain) (mail : Mail) (pass : Pass)
    (hstages : ∀ stage ∈ chain.stages, stage.IsBuiltin)
    (hsucceeds : ∀ visit ∈ chain.visits mail pass, visit.Succeeds) {r : Address}
    (hr : r ∈ mail.recipients) (hnotify : ∀ stage ∈ chain.stages, stage.mailet.CanNotify mail)
    {pass' : Pass} (hnow : pass'.now = pass.now) :
    (∀ visit ∈ chain.visits (mail.only r) pass', visit.Succeeds) ∧
      stopsOf r (chain.calls (mail.only r) pass') = stopsOf r (chain.calls mail pass) ∧
      ∃ routed after single after', chain.run mail pass = (.ok routed, after) ∧
        chain.run (mail.only r) pass' = (.ok single, after') ∧ EndsAlike r routed single := by
  obtain ⟨routed, after, hrun, hfollows⟩ := run_follows hstages hsucceeds hr hnotify hnow
  obtain ⟨single, after', hsolo, hends⟩ := hfollows.ends
  exact ⟨hfollows.succeeds, hfollows.stops, routed, after, single, after', hrun, hsolo, hends⟩

end Chain

namespace Chain.Sample

/-- A chain of built-in components: alice is marked, marked mail of anybody but bob is handed on,
and what is left is bounced if it is carol's. -/
def sorting : Chain where
  name := StateName.default
  stages := [
    ⟨.recipientIs [alice], .setAttribute "seen" "yes"⟩,
    ⟨.both (.negate (.recipientIs [bob])) (.hasAttribute "seen"), .toProcessor "list" none⟩,
    ⟨.either (.recipientIs [carol]) (.hasHeader "X-Bounce"), .bounce ⟨"localhost", carol⟩⟩]
  fallthrough := .error

theorem isBuiltin_sorting : ∀ stage ∈ sorting.stages, stage.IsBuiltin := by
  intro stage hstage
  simp only [sorting, List.mem_cons, List.not_mem_nil, or_false] at hstage
  rcases hstage with rfl | rfl | rfl
  · exact .of_name (.recipientIs _) (.setAttribute _ _) (by decide)
  · exact .of_name (.both (.negate (.recipientIs _)) (.hasAttribute _))
      (.toProcessor "list" none) (by decide)
  · exact .of_name (.either (.recipientIs _) (.hasHeader _)) (.bounce _) (by decide)

/-- A mail from bob, whose id is of the first millisecond. -/
def signed : Mail := { mail with sender := some bob }

/-- Of three recipients the first comes to two mailets, with the others or alone. -/
theorem run_alone_of_alice :
    (∀ visit ∈ sorting.visits signed pass, visit.Succeeds) ∧
      (stopsOf alice (sorting.calls (signed.only alice) pass)).length = 2 ∧
      ∃ routed after single after', sorting.run signed pass = (.ok routed, after) ∧
        sorting.run (signed.only alice) pass = (.ok single, after') ∧
        EndsAlike alice routed single := by
  have hsucceeds : ∀ visit ∈ sorting.visits signed pass, visit.Succeeds := by decide +kernel
  have hstops : (stopsOf alice (sorting.calls signed pass)).length = 2 := by decide +kernel
  have harrival : (Bounce.arrivalDate? signed.id).isSome = true := by decide +kernel
  obtain ⟨-, hsame, hends⟩ := run_alone sorting signed pass isBuiltin_sorting hsucceeds
    (r := alice) (by decide) (fun stage _ settings _ => .inr harrival) rfl
  exact ⟨hsucceeds, by rw [hsame, hstops], hends⟩

/-- A chain that returns mail for alice to its sender. -/
def returning : Chain where
  name := StateName.default
  stages := [⟨.recipientIs [alice], .bounce ⟨"localhost", carol⟩⟩]

/-- A mail for two whose id is of the last millisecond that an id can be of, in the year 10889. -/
def undated : Mail :=
  .create ⟨.allOnes 128⟩ .epoch (some carol) (.ofList [alice, bob]) .empty

/-- With bob on the mail, alice is forked off under an id of the present, and her mail is returned
to its sender. Alone she keeps the id of the mail, whose date cannot be written, and the run
panics. -/
theorem run_alone_panics :
    (∀ stage ∈ returning.stages, stage.IsBuiltin) ∧ undated.isTerminal = false ∧
      undated.state = returning.name ∧ alice ∈ undated.recipients ∧
      (∀ visit ∈ returning.visits undated pass, visit.Succeeds) ∧
      (returning.run (undated.only alice) pass).1 = .error .panicked := by
  have hbuiltin : ∀ stage ∈ returning.stages, stage.IsBuiltin := by
    intro stage hstage
    simp only [returning, List.mem_singleton] at hstage
    subst hstage
    exact .of_name (.recipientIs _) (.bounce _) (by decide)
  have hpanics : (match (returning.run (undated.only alice) pass).1 with
      | .error halt => some halt
      | .ok _ => none) = some .panicked := by decide +kernel
  refine ⟨hbuiltin, by decide, rfl, by decide, by decide +kernel, ?_⟩
  rcases hrun : (returning.run (undated.only alice) pass).1 with halt | routed
  · rw [hrun] at hpanics
    cases hpanics
    rfl
  · rw [hrun] at hpanics
    cases hpanics

end Chain.Sample

end Postroom
