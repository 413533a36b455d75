import Postroom.Proofs.Chain.Conservation
import Postroom.Proofs.Mailet.Individual

/-!
Notifications and what they cost. Of the built-in mailets only the one that returns mails sends any:
one, with the null sender, to the sender of the branch it serves, and it drops the branch. No
built-in mailet changes a sender. So each notification uses up the recipients of a branch that has a
sender, of whom there is at least one, and a mail with the null sender leads to none. Books of this
are kept for one mail at one stage and added up along a run, like those of recipients.
-/

namespace Postroom

namespace Mail

/-- Whom a mail is from and to. -/
def envelope (mail : Mail) : Option Address × Recipients :=
  (mail.sender, mail.recipients)

/-- How many notifications a mail can lead to: one for each recipient, if there is a sender. -/
def credit (mail : Mail) : Nat :=
  if mail.sender.isSome then mail.recipients.size else 0

theorem credit_congr {a b : Mail} (h : b.envelope = a.envelope) : b.credit = a.credit := by
  obtain ⟨hsender, hrecipients⟩ := Prod.mk.inj h
  rw [credit, credit, hsender, hrecipients]

theorem credit_of_null {mail : Mail} (h : mail.sender = none) : mail.credit = 0 := by
  simp [credit, h]

/-- A mail with fewer recipients has no more credit. -/
theorem credit_mono {a b : Mail} (hsender : b.sender = a.sender)
    (hsub : ∀ r ∈ b.recipients, r ∈ a.recipients) : b.credit ≤ a.credit := by
  unfold credit
  rw [hsender]
  split
  · exact Recipients.size_le hsub
  · exact Nat.le_refl 0

/-- The parts of a split mail share its credit. -/
theorem Split.credit_le {mail rest fork : Mail} (hsplit : mail.Split rest fork)
    (hrest : rest.sender = mail.sender) (hfork : fork.sender = mail.sender) :
    rest.credit + fork.credit ≤ mail.credit := by
  unfold credit
  rw [hrest, hfork]
  split
  · exact Recipients.size_add_size_le hsplit.apart (fun r hr => (hsplit.mem_iff r).2 (.inl hr))
      fun r hr => (hsplit.mem_iff r).2 (.inr hr)
  · exact Nat.le_refl 0

end Mail

/-- How many notifications some mails can lead to. -/
def credit : List Mail → Nat
  | [] => 0
  | mail :: rest => mail.credit + credit rest

theorem credit_singleton (mail : Mail) : credit [mail] = mail.credit :=
  rfl

theorem credit_append (xs ys : List Mail) : credit (xs ++ ys) = credit xs + credit ys := by
  induction xs with
  | nil => simp [credit]
  | cons mail rest ih => simp [credit, ih, Nat.add_assoc]

theorem credit_perm {xs ys : List Mail} (h : xs.Perm ys) : credit xs = credit ys := by
  induction h with
  | nil => rfl
  | cons mail _ ih => rw [credit, credit, ih]
  | swap a b rest => exact Nat.add_left_comm ..
  | trans _ _ first second => exact first.trans second

theorem credit_of_null {mails : List Mail} (h : ∀ m ∈ mails, m.sender = none) :
    credit mails = 0 := by
  induction mails with
  | nil => rfl
  | cons mail rest ih =>
      rw [credit, Mail.credit_of_null (h mail (List.mem_cons_self ..)),
        ih fun m hm => h m (List.mem_cons_of_mem _ hm)]

/-- Credit depends on envelopes alone. -/
theorem credit_of_envelopes {xs ys : List Mail} (h : ys.map Mail.envelope = xs.map Mail.envelope) :
    credit ys = credit xs := by
  induction ys generalizing xs with
  | nil => rw [List.map_eq_nil_iff.1 h.symm]
  | cons mail rest ih =>
      obtain ⟨other, others, rfl, hsame, hrest⟩ := List.map_eq_cons_iff.1 h.symm
      rw [credit, credit, Mail.credit_congr hsame.symm, ih hrest.symm]

/-- Whether a mail is the notification about an incident, and for whom: a branch with this sender
came to a mailet that returns mails, and what that wrote about it is the mail. -/
def Incident.Reports (incident : Incident) (sender : Address) (notification : Mail) : Prop :=
  match incident with
  | .served stage branch pass => ∃ settings, stage.mailet = .bounce settings ∧
      branch.sender = some sender ∧
      ∃ after, settings.notification? branch sender pass = some (notification, after)
  | _ => False

namespace Bounce

/-- A notification has the null sender and is for the sender of the mail alone. -/
theorem notification?_envelope {settings : Bounce} {mail notification : Mail} {sender : Address}
    {pass after : Pass}
    (h : settings.notification? mail sender pass = some (notification, after)) :
    notification.envelope = (none, .ofList [sender]) ∧ after.outgoing = pass.outgoing := by
  unfold notification? at h
  cases hdate : pass.now.mailDate? with
  | none => simp [hdate] at h
  | some date =>
      cases harrival : arrivalDate? mail.id with
      | none => simp [hdate, harrival] at h
      | some arrival =>
          rw [hdate, harrival] at h
          cases h
          exact ⟨rfl, rfl⟩

end Bounce

theorem Incident.Reports.envelope {incident : Incident} {sender : Address} {notification : Mail}
    (h : incident.Reports sender notification) :
    notification.envelope = (none, .ofList [sender]) := by
  cases incident with
  | served stage branch pass =>
      obtain ⟨settings, -, -, after, hnotification⟩ := h
      exact (Bounce.notification?_envelope hnotification).1
  | _ => exact h.elim

namespace Mailet

theorem deliverEach_outgoing (store : MailboxStore) (recipients : List Address) (mail : Mail)
    (pass : Pass) :
    (deliverEach store mail pass recipients).pass.outgoing = pass.outgoing := by
  induction recipients generalizing mail pass with
  | nil => rfl
  | cons recipient rest ih =>
      unfold deliverEach
      split
      · rfl
      · rw [ih]

/-- What a built-in mailet sends: nothing, or the notification about the mail it serves, which has a
sender and is then dropped. -/
theorem IsBuiltin.service_outgoing {mailet : Mailet} (h : mailet.IsBuiltin) (mail : Mail)
    (pass : Pass) :
    (mailet.service mail pass).pass.outgoing = pass.outgoing ∨
      ∃ settings sender notification after, mailet = .bounce settings ∧
        mail.sender = some sender ∧
        settings.notification? mail sender pass = some (notification, after) ∧
        (mailet.service mail pass).pass.outgoing = pass.outgoing ++ [notification] ∧
        (mailet.service mail pass).outcome = .done ∧
        (mailet.service mail pass).mail.isTerminal = true := by
  cases h with
  | null => exact .inl rfl
  | toProcessor processor notice => exact .inl rfl
  | setAttribute name value => exact .inl rfl
  | removeAttribute name => exact .inl rfl
  | addHeader name value => exact .inl rfl
  | logMessage comment => exact .inl rfl
  | localDelivery store =>
      have hsame := deliverEach_outgoing store mail.recipients.toList mail pass
      unfold Mailet.localDelivery
      dsimp only
      split <;> exact .inl hsame
  | bounce settings =>
      cases hsender : mail.sender with
      | none =>
          left
          simp [Mailet.bounce, hsender]
      | some sender =>
          cases hnotification : settings.notification? mail sender pass with
          | none =>
              left
              simp [Mailet.bounce, hsender, hnotification]
          | some written =>
              obtain ⟨notification, after⟩ := written
              obtain ⟨-, hsame⟩ := Bounce.notification?_envelope hnotification
              refine .inr ⟨settings, sender, notification, after, rfl, rfl, hnotification, ?_⟩
              simp [Mailet.bounce, hsender, hnotification, Pass.send, hsame, Mail.isTerminal,
                Mail.setState]

end Mailet

/-- Mails that become others while notifications are sent: each has the sender of an old one, each
notification is about an incident and is for the sender of an old one, and all of them are paid for
with credit that is gone. -/
structure Notified (before : List Mail) (history : List Incident) (after sent : List Mail) :
    Prop where
  senders : ∀ m ∈ after, ∃ old ∈ before, m.sender = old.sender
  reports : ∀ notification ∈ sent, ∃ old ∈ before, ∃ sender, old.sender = some sender ∧
    ∃ incident ∈ history, incident.Reports sender notification
  spent : sent.length + credit after ≤ credit before

namespace Notified

variable {before middle after others sent more : List Mail} {history later : List Incident}

/-- Mails that keep their envelopes. -/
theorem of_envelopes (h : after.map Mail.envelope = before.map Mail.envelope) :
    Notified before [] after [] where
  senders m hm := by
    have hmem : m.envelope ∈ before.map Mail.envelope := h ▸ List.mem_map_of_mem hm
    obtain ⟨old, hold, heq⟩ := List.mem_map.1 hmem
    exact ⟨old, hold, (congrArg Prod.fst heq).symm⟩
  reports _ hsent := absurd hsent List.not_mem_nil
  spent := by
    rw [credit_of_envelopes h]
    simp

theorem refl (mails : List Mail) : Notified mails [] mails [] :=
  of_envelopes rfl

/-- Mails that are gone. -/
theorem gone (mails : List Mail) : Notified mails [] [] [] where
  senders _ hm := absurd hm List.not_mem_nil
  reports _ hsent := absurd hsent List.not_mem_nil
  spent := Nat.zero_le _

/-- A mail that keeps its sender and gains no recipient. -/
theorem shrunk {a b : Mail} (hsender : b.sender = a.sender)
    (hsub : ∀ r ∈ b.recipients, r ∈ a.recipients) : Notified [a] [] [b] [] where
  senders m hm := ⟨a, by simp, by rw [List.mem_singleton.1 hm, hsender]⟩
  reports _ hsent := absurd hsent List.not_mem_nil
  spent := by
    have hcredit := Mail.credit_mono hsender hsub
    rw [credit_singleton, credit_singleton, List.length_nil]
    omega

/-- A mail whose recipients are divided between two with its sender. -/
theorem split {mail rest fork : Mail} (hsplit : mail.Split rest fork)
    (hrest : rest.sender = mail.sender) (hfork : fork.sender = mail.sender) :
    Notified [mail] [] [rest, fork] [] where
  senders m hm := by
    refine ⟨mail, by simp, ?_⟩
    rcases List.mem_cons.1 hm with rfl | hm
    · exact hrest
    · rw [List.mem_singleton.1 hm, hfork]
  reports _ hsent := absurd hsent List.not_mem_nil
  spent := by
    have hcredit := hsplit.credit_le hrest hfork
    rw [credit_singleton, credit, credit_singleton, List.length_nil]
    omega

/-- A mail that is reported to its sender and is gone. -/
theorem returned {mail notification : Mail} {sender : Address} {incident : Incident}
    (hsender : mail.sender = some sender) (hoccupied : mail.recipients ≠ ∅)
    (hreports : incident.Reports sender notification) :
    Notified [mail] [incident] [] [notification] where
  senders _ hm := absurd hm List.not_mem_nil
  reports other hother := by
    rw [List.mem_singleton.1 hother]
    exact ⟨mail, by simp, sender, hsender, incident, by simp, hreports⟩
  spent := by
    have hpos := Recipients.size_pos hoccupied
    rw [credit_singleton, Mail.credit, hsender]
    simp only [Option.isSome_some, if_true, credit]
    exact hpos

/-- More may have happened. -/
theorem mono (h : Notified before history after sent) (hsub : history ⊆ later) :
    Notified before later after sent where
  senders := h.senders
  reports notification hsent := by
    obtain ⟨old, hold, sender, hsender, incident, hincident, hreports⟩ :=
      h.reports notification hsent
    exact ⟨old, hold, sender, hsender, incident, hsub hincident, hreports⟩
  spent := h.spent

theorem trans (first : Notified before history middle sent)
    (second : Notified middle later after more) :
    Notified before (history ++ later) after (sent ++ more) where
  senders m hm := by
    obtain ⟨between, hbetween, hsame⟩ := second.senders m hm
    obtain ⟨old, hold, hsender⟩ := first.senders between hbetween
    exact ⟨old, hold, hsame.trans hsender⟩
  reports notification hsent := by
    rcases List.mem_append.1 hsent with hsent | hsent
    · exact (first.mono (List.subset_append_left ..)).reports notification hsent
    · obtain ⟨between, hbetween, sender, hsender, incident, hincident, hreports⟩ :=
        second.reports notification hsent
      obtain ⟨old, hold, hsame⟩ := first.senders between hbetween
      exact ⟨old, hold, sender, hsame ▸ hsender, incident, List.mem_append_right _ hincident,
        hreports⟩
  spent := by
    have hfirst := first.spent
    have hsecond := second.spent
    rw [List.length_append]
    omega

/-- Mails that have no part in it stay as they are. -/
theorem beside (h : Notified before history after sent) (others : List Mail) :
    Notified (before ++ others) history (after ++ others) sent where
  senders m hm := by
    rcases List.mem_append.1 hm with hm | hm
    · obtain ⟨old, hold, hsender⟩ := h.senders m hm
      exact ⟨old, List.mem_append_left _ hold, hsender⟩
    · exact ⟨m, List.mem_append_right _ hm, rfl⟩
  reports notification hsent := by
    obtain ⟨old, hold, hreports⟩ := h.reports notification hsent
    exact ⟨old, List.mem_append_left _ hold, hreports⟩
  spent := by
    have hspent := h.spent
    rw [credit_append, credit_append]
    omega

/-- The order of the mails does not matter. -/
theorem perm (h : Notified before history after sent) {before' after' : List Mail}
    (hbefore : before.Perm before') (hafter : after.Perm after') :
    Notified before' history after' sent where
  senders m hm := by
    obtain ⟨old, hold, hsender⟩ := h.senders m (hafter.mem_iff.2 hm)
    exact ⟨old, hbefore.mem_iff.1 hold, hsender⟩
  reports notification hsent := by
    obtain ⟨old, hold, hreports⟩ := h.reports notification hsent
    exact ⟨old, hbefore.mem_iff.1 hold, hreports⟩
  spent := by
    rw [← credit_perm hbefore, ← credit_perm hafter]
    exact h.spent

/-- Mails with the null sender lead to no notification. -/
theorem sent_eq_nil (h : Notified before history after sent)
    (hnull : ∀ m ∈ before, m.sender = none) : sent = [] := by
  have hspent := h.spent
  rw [credit_of_null hnull] at hspent
  exact List.eq_nil_of_length_eq_zero (by omega)

end Notified

namespace Chain

variable {chain : Chain}

@[simp] theorem recordFailure_envelope (now : Instant) (mail : Mail) (message : String) :
    (chain.recordFailure now mail message).envelope = mail.envelope := by
  unfold recordFailure
  split <;> rfl

/-- A branch that has passed a stage is disposed of, or it survives. -/
theorem notified_disposal (mail : Mail) :
    Notified [mail] [] (if mail.isTerminal then [] else [mail]) [] := by
  split
  · exact .gone [mail]
  · exact .refl [mail]

/-- A branch that its stage has served: either nothing is sent, or the branch is returned and
gone. -/
theorem attend_notified {stage : Stage} {target served : Mail} {pass pass' : Pass}
    (hmailet : stage.mailet.IsBuiltin) (hoccupied : target.recipients ≠ ∅)
    (h : chain.attend stage.mailet target pass = (.ok served, pass')) :
    ∃ sent, pass'.outgoing = pass.outgoing ++ sent ∧
      Notified [target] [.served stage target pass]
        (if served.isTerminal then [] else [served]) sent := by
  obtain ⟨rfl, houtcome⟩ := attend_cases h
  rcases hmailet.service_outgoing target pass with hsame |
    ⟨settings, sender, notification, after, hbounce, hsender, hnotification, hsent,
      hdone, hterminal⟩
  · refine ⟨[], by rw [hsame, List.append_nil], ?_⟩
    have hcalled : Notified [target] [] [(stage.mailet.service target pass).mail] [] :=
      .shrunk (hmailet.service_sender target pass) (hmailet.addsNobody target pass).2
    have hnoted : Notified [(stage.mailet.service target pass).mail] [] [served] [] := by
      rcases houtcome with ⟨-, rfl⟩ | ⟨e, -, rfl⟩
      · exact .refl _
      · exact .of_envelopes (by simp)
    exact ((hcalled.trans hnoted).trans (notified_disposal served)).mono (List.nil_subset _)
  · refine ⟨[notification], hsent, ?_⟩
    rcases houtcome with ⟨-, rfl⟩ | ⟨e, hfailed, -⟩
    · rw [if_pos hterminal]
      exact .returned hsender hoccupied
        ⟨settings, hbounce, hsender, after, hnotification⟩
    · rw [hdone] at hfailed
      cases hfailed

/-- One stage keeps the books of the branch that enters it. -/
theorem enter_notified {stage : Stage} {mail : Mail} {pass pass' : Pass} {kept : Option Mail}
    {course : Course} (hmailet : stage.mailet.IsBuiltin) (hoccupied : mail.recipients ≠ ∅)
    (h : chain.enter stage mail pass = (.ok (kept, course), pass')) :
    ∃ sent, pass'.outgoing = pass.outgoing ++ sent ∧
      Notified [mail] (chain.incidents stage mail pass) (survivors kept course) sent := by
  rcases enter_cases h with ⟨e, -, rfl, rfl, rfl, -⟩ | ⟨rfl, rfl, rfl, hincidents⟩ |
    ⟨target, between, served, hpart, hattend, rfl, hincidents⟩
  · refine ⟨[], (List.append_nil _).symm, ?_⟩
    rw [fail, survivors_settle]
    have hnoted : Notified [mail] [] [chain.recordFailure pass'.now mail e.message] [] :=
      .of_envelopes (by simp)
    exact (hnoted.trans (notified_disposal _)).mono (List.nil_subset _)
  · refine ⟨[], (List.append_nil _).symm, ?_⟩
    rw [hincidents]
    exact .refl [mail]
  · rw [hincidents, survivors_settle]
    have htarget : target.recipients ≠ ∅ := by
      rcases hpart with ⟨-, rfl, -⟩ | ⟨rest, -, -, -, -, hsplit⟩
      · exact hoccupied
      · exact hsplit.fork_occupied
    have hserved : [.served stage target between] ⊆
        (kept.toList.map fun _ => Incident.forked target.id) ++
          .served stage target between :: disposal served := by
      intro incident hincident
      rw [List.mem_singleton.1 hincident]
      exact List.mem_append_right _ (List.mem_cons_self ..)
    obtain ⟨sent, hsent, hcalled⟩ := attend_notified hmailet htarget hattend
    refine ⟨sent, ?_, Notified.mono ?_ hserved⟩
    · rw [hsent]
      rcases hpart with ⟨-, -, rfl⟩ | ⟨rest, matched, -, -, rfl, -⟩ <;> rfl
    · rcases hpart with ⟨rfl, rfl, -⟩ | ⟨rest, matched, hfork, rfl, -, hsplit⟩
      · exact hcalled
      · obtain ⟨rfl, rfl⟩ := Prod.mk.inj hfork
        have hparts := Notified.split hsplit rfl rfl
        have hbeside := hcalled.beside [(mail.fork pass.freshId.1 pass.now matched).1]
        exact hparts.trans (hbeside.perm (List.Perm.swap ..) List.perm_append_comm)

/-- The end of a chain changes no envelope, and sends nothing. -/
theorem fallThrough_notified (chain : Chain) (now : Instant) (mail : Mail) :
    Notified [mail] (chain.ending mail) (chain.fallThrough now mail).toList [] := by
  have hends : Notified [mail] [] (chain.fallThrough now mail).toList [] := by
    unfold fallThrough
    cases chain.fallthrough with
    | ghost => exact .gone [mail]
    | error => exact .of_envelopes (by cases mail.error <;> rfl)
    | processor state => exact .of_envelopes rfl
  exact hends.mono (List.nil_subset _)

/-- Books of notifications, where the notifications are what a pass has sent since. -/
theorem books_notified : Books fun before pass history after pass' =>
    ∃ sent, pass'.outgoing = pass.outgoing ++ sent ∧ Notified before history after sent where
  refl mails _ := ⟨[], (List.append_nil _).symm, .refl mails⟩
  trans := by
    rintro before pass history middle between later after pass' ⟨first, hfirst, hstep⟩
      ⟨more, hmore, hrest⟩
    exact ⟨first ++ more, by rw [hmore, hfirst, List.append_assoc], hstep.trans hrest⟩
  beside := by
    rintro before pass history after pass' others ⟨sent, hsent, h⟩
    exact ⟨sent, hsent, h.beside others⟩
  perm := by
    rintro before pass history after pass' before' ⟨sent, hsent, h⟩ hperm
    exact ⟨sent, hsent, h.perm hperm (.refl _)⟩

/-- A run keeps the books of everything that is pending or routed. -/
theorem runPending_notified (hmailets : ∀ stage ∈ chain.stages, stage.mailet.IsBuiltin)
    (pending : List Branch) (routed : List Mail) (pass : Pass)
    (hinside : ∀ branch ∈ pending, chain.Inside branch)
    (hoccupied : ∀ branch ∈ pending, branch.mail.recipients ≠ ∅) {final : List Mail} {pass' : Pass}
    (h : chain.runPending pending routed pass = (.ok final, pass')) :
    ∃ sent, pass'.outgoing = pass.outgoing ++ sent ∧
      Notified (pending.map Branch.mail ++ routed) (chain.historyFrom pending pass) final sent := by
  refine books_notified.runPending (fun mail => mail.recipients ≠ ∅) ?_ ?_ pending
    routed pass hinside
    hoccupied h
  · intro mail pass
    exact ⟨[], (List.append_nil _).symm, chain.fallThrough_notified pass.now mail⟩
  · intro stage hstage mail pass kept course pass' hmail henter
    exact ⟨enter_notified (hmailets stage hstage) hmail henter,
      fun m hm => enter_occupied hmail henter m (List.mem_append_left _ hm)⟩

end Chain

end Postroom
