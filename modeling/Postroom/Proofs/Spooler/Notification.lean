import Postroom.Proofs.Spooler.Accounting

/-!
Notifications neither loop nor multiply while a server is at work. A notification has the null
sender, and so has every mail that comes of it, so none of these is ever reported. And whatever is
sent is paid for with the credit of a tracked mail, to which only submissions add. Restarts change
neither, as a mail comes back from its record with its envelope.
-/

namespace Postroom

namespace SpoolEvent

/-- The mails that were sent. -/
def sent : SpoolEvent → List Mail
  | passed report => report.sent
  | _ => []

/-- The mails that were submitted. -/
def submitted : SpoolEvent → List Mail
  | accepted mail => [mail]
  | _ => []

end SpoolEvent

namespace Spooler

/-- The mails that were sent in the course of some events. -/
def sentIn (events : List SpoolEvent) : List Mail :=
  events.flatMap SpoolEvent.sent

/-- The mails that were submitted in the course of some events. -/
def submittedIn (events : List SpoolEvent) : List Mail :=
  events.flatMap SpoolEvent.submitted

end Spooler

/-- Whether no mail of a lineage has a sender. -/
def Senderless (lineage : List MailId) (mails : List Mail) : Prop :=
  ∀ m ∈ mails, m.id ∈ lineage → m.sender = none

theorem Senderless.perm {lineage : List MailId} {mails others : List Mail}
    (h : Senderless lineage mails) (hperm : mails.Perm others) : Senderless lineage others :=
  fun m hm => h m (hperm.mem_iff.2 hm)

/-- What is sent has the null sender. -/
theorem Notified.senderless {before after sent : List Mail} {history : List Incident}
    (h : Notified before history after sent) :
    ∀ notification ∈ sent, notification.sender = none := by
  intro notification hsent
  obtain ⟨old, -, sender, -, incident, -, hreports⟩ := h.reports notification hsent
  exact congrArg Prod.fst hreports.envelope

namespace Turns

variable {before after : List Mail} {event : SpoolEvent} {report : PassReport}

/-- Whatever is sent is paid for with credit, and only a submission adds some. -/
theorem spent (h : Turns before event after) :
    event.sent.length + credit after ≤ credit before + credit event.submitted := by
  cases h with
  | idle => simp [SpoolEvent.sent]
  | accepted mail =>
      have hcredit : credit ([mail] ++ before) = credit [mail] + credit before :=
        credit_append [mail] before
      simp only [SpoolEvent.sent, SpoolEvent.submitted, List.length_nil]
      rw [List.singleton_append] at hcredit
      omega
  | @passed report routed others ids balance builtin notified =>
      have hspent := notified.spent
      have hnull : credit report.sent = 0 := credit_of_null notified.senderless
      have hcredit : credit ([report.mail] ++ others) = credit [report.mail] + credit others :=
        credit_append [report.mail] others
      rw [List.singleton_append] at hcredit
      rw [credit_append, credit_append]
      simp only [SpoolEvent.sent]
      omega

/-- What a pass sends are notifications to the sender of its mail, about what happened in the
pass. -/
theorem reports (h : Turns before (.passed report) after) {notification : Mail}
    (hsent : notification ∈ report.sent) : ∃ sender, report.mail.sender = some sender ∧
      ∃ incident ∈ report.history, incident.Reports sender notification := by
  cases h with
  | passed report others ids balance builtin notified =>
      obtain ⟨old, hold, hreports⟩ := notified.reports notification hsent
      rwa [List.mem_singleton.1 hold] at hreports

/-- The pass of a mail of a lineage without senders sends nothing. -/
theorem silent (h : Turns before (.passed report) after) {lineage : List MailId}
    (hnull : Senderless lineage before) (hkin : report.mail.id ∈ lineage) : report.sent = [] := by
  cases h with
  | passed report others ids balance builtin notified =>
      refine notified.sent_eq_nil fun m hm => ?_
      rw [List.mem_singleton.1 hm]
      exact hnull report.mail (List.mem_cons_self ..) hkin

/-- A mail that is sent is the first of a lineage without senders. -/
theorem senderless_sent (h : Turns before (.passed report) after)
    (hdrawn : (SpoolEvent.passed report).drawn.Nodup)
    (hnew : ∀ id ∈ (SpoolEvent.passed report).drawn, id ∉ before.map Mail.id) {notification : Mail}
    (hsent : notification ∈ report.sent) : Senderless [notification.id] after := by
  intro m hm hid
  have hid : m.id = notification.id := List.mem_singleton.1 hid
  have hdrew : m.id ∈ report.sent.map Mail.id := hid ▸ List.mem_map_of_mem hsent
  have hout := hnew m.id (List.mem_append_right _ hdrew)
  cases h with
  | @passed report routed others ids balance builtin notified =>
      simp only [List.mem_append] at hm
      rcases hm with (hm | hm) | hm
      · rcases ids m hm with hsame | hfork
        · exact absurd (hsame ▸ List.mem_cons_self ..) hout
        · exact absurd rfl ((List.nodup_append.1 hdrawn).2.2 m.id hfork m.id hdrew)
      · exact notified.senderless m hm
      · exact absurd (List.mem_cons_of_mem _ (List.mem_map_of_mem hm)) hout

/-- A lineage without senders stays one. -/
theorem senderless (h : Turns before event after) (fate : Fate)
    (hnew : ∀ id ∈ event.drawn, id ∉ before.map Mail.id ∧ id ∉ fate.lineage)
    (hnull : Senderless fate.lineage before) : Senderless (fate.after event).lineage after := by
  cases h with
  | idle => exact hnull
  | accepted mail =>
      intro m hm hkin
      rcases List.mem_cons.1 hm with rfl | hm
      · exact absurd hkin (hnew m.id (List.mem_singleton.2 rfl)).2
      · exact hnull m hm hkin
  | @passed report routed others ids balance builtin notified =>
      have hfork : ∀ id ∈ forkIds report.history,
          id ∉ (report.mail :: others).map Mail.id ∧ id ∉ fate.lineage :=
        fun id hid => hnew id (List.mem_append_left _ hid)
      have hrouted : ∀ m ∈ routed, report.mail.id ∈ fate.lineage → m.sender = none := by
        intro m hm hkin
        obtain ⟨old, hold, hsender⟩ := notified.senders m hm
        rw [hsender, List.mem_singleton.1 hold]
        exact hnull report.mail (List.mem_cons_self ..) hkin
      intro m hm hkin
      simp only [List.mem_append] at hm
      unfold Fate.after at hkin
      dsimp only at hkin
      split at hkin
      · rename_i hmail
        rcases hm with (hm | hm) | hm
        · exact hrouted m hm hmail
        · exact notified.senderless m hm
        · have hmem : m.id ∈ (report.mail :: others).map Mail.id :=
            List.mem_cons_of_mem _ (List.mem_map_of_mem hm)
          rcases List.mem_append.1 hkin with hkin | hforked
          · exact hnull m (List.mem_cons_of_mem _ hm) hkin
          · exact absurd hmem (hfork m.id hforked).1
      · rename_i hmail
        -- nothing that comes out of the pass of a stranger is in the family
        rcases hm with (hm | hm) | hm
        · rcases ids m hm with hsame | hforked
          · exact absurd (hsame ▸ hkin) hmail
          · exact absurd hkin (hfork m.id hforked).2
        · exact notified.senderless m hm
        · exact hnull m (List.mem_cons_of_mem _ hm) hkin

end Turns

namespace TurnsAll

open Spooler (drawnIn sentIn submittedIn)

variable {before after : List Mail} {events : List SpoolEvent}

/-- Whatever is sent in the course of some events is paid for with the credit of the mails that were
tracked at first and of those that were submitted. -/
theorem spent (h : TurnsAll before events after) :
    (sentIn events).length + credit after ≤ credit before + credit (submittedIn events) := by
  induction h with
  | nil hperm =>
      rw [credit_perm hperm]
      simp [sentIn]
  | cons hperm hturned hout hrest ih =>
      have hfirst := hturned.spent
      rw [credit_perm hperm]
      simp only [sentIn, submittedIn, List.flatMap_cons, List.length_append, credit_append] at ih ⊢
      omega

/-- A lineage without senders stays one. -/
theorem senderless (h : TurnsAll before events after) (fate : Fate)
    (hfresh : (drawnIn events).Nodup) (hstrange : ∀ id ∈ drawnIn events, id ∉ fate.lineage)
    (hnull : Senderless fate.lineage before) :
    Senderless (events.foldl Fate.after fate).lineage after := by
  induction h generalizing fate with
  | nil hperm => exact hnull.perm hperm
  | @cons _ held event _ later _ hperm hturned hout _ ih =>
      have hafter := hturned.senderless fate
        (fun id hid => ⟨hout id hid, hstrange id (List.mem_append_left _ hid)⟩) (hnull.perm hperm)
      exact ih (fate.after event) (List.nodup_append.1 hfresh).2.1
        (Fate.strange_after hfresh hstrange) hafter

/-- The pass of a mail that comes of a notification sends nothing. -/
theorem silent {earlier between later : List SpoolEvent} {report report' : PassReport}
    (h : TurnsAll before (earlier ++ .passed report :: (between ++ .passed report' :: later)) after)
    (hfresh :
      (drawnIn (earlier ++ .passed report :: (between ++ .passed report' :: later))).Nodup)
    {notification : Mail} (hsent : notification ∈ report.sent)
    (hkin : report'.mail.id ∈ (Fate.since notification.id between).lineage) :
    report'.sent = [] := by
  rw [Spooler.drawnIn_append] at hfresh
  obtain ⟨hdrawn, hlater, happart⟩ := List.nodup_append.1 (List.nodup_append.1 hfresh).2.1
  have hlater : (drawnIn (between ++ .passed report' :: later)).Nodup := hlater
  have happart : ∀ id ∈ (SpoolEvent.passed report).drawn,
      ∀ other ∈ drawnIn (between ++ .passed report' :: later), id ≠ other := happart
  rw [Spooler.drawnIn_append] at hlater happart
  have hdrew : notification.id ∈ (SpoolEvent.passed report).drawn :=
    List.mem_append_right _ (List.mem_map_of_mem hsent)
  obtain ⟨_, held, left, -, -, hturned, hout, hrest⟩ := h.turns_of_append
  obtain ⟨reached, held', left', hbetween, hperm, hturned', -, -⟩ := hrest.turns_of_append
  -- the notification is new, and what has come of it since has no sender either
  have hnull := hturned.senderless_sent hdrawn hout hsent
  have hnull' : Senderless (Fate.since notification.id between).lineage reached := by
    refine hbetween.senderless (Fate.start notification.id) (List.nodup_append.1 hlater).1
      (fun id hid hmem => ?_) hnull
    exact happart notification.id hdrew id (List.mem_append_left _ hid)
      (List.mem_singleton.1 hmem).symm
  exact hturned'.silent (hnull'.perm hperm) hkin

end TurnsAll

namespace Spooler

open MailQueue (Consistent)

variable {σ : Type} {holds : σ → Holdings} {ledger : Ledger}

/-- However long a server is at work in which nothing goes wrong, its notifications neither loop nor
multiply. Each has the null sender and one recipient, the sender of the mail that it reports. No
pass of a mail that comes of one, after however many hops and restarts, sends another. And at every
point no more have been sent than there are recipients of mails with a sender, of those submitted so
far and those that the queue held at first. The table is one that is built of built-in mailets,
these leave the records of the queue alone, and every id that is drawn is new. -/
theorem notifications_do_not_multiply (spooler : Spooler σ)
    (hstore : spooler.store.Dependable holds) (hapart : spooler.LeavesRecords holds)
    {chains : List Chain} {states : Std.ExtTreeMap String String}
    (hhandles : ∀ chain ∈ chains, chain.handlesErrors = false)
    (hbuiltin : ∀ chain ∈ chains, ∀ stage ∈ chain.stages, stage.mailet.IsBuiltin)
    (hbuild : Registry.build chains states = .ok spooler.registry)
    {steps : List SpoolStep} {spool spool' : Spool σ} {events : List SpoolEvent}
    (hstart : Consistent holds ledger spool.queue)
    (hrun : spooler.performAll steps spool = (events, spool'))
    (hsmooth : ∀ event ∈ events, event.Smooth) (hfresh : (drawnIn events).Nodup)
    (hnew : ∀ id ∈ drawnIn events, spool.queue.tracking.key? id = none) :
    (∀ report, .passed report ∈ events → ∀ notification ∈ report.sent,
      ∃ sender, report.mail.sender = some sender ∧ notification.sender = none ∧
        notification.recipients = .ofList [sender] ∧
        ∃ incident ∈ report.history, incident.Reports sender notification) ∧
    (∀ before report between report' later,
      events = before ++ .passed report :: (between ++ .passed report' :: later) →
      ∀ notification ∈ report.sent,
        report'.mail.id ∈ (Fate.since notification.id between).lineage → report'.sent = []) ∧
    ∀ before later, events = before ++ later →
      (sentIn before).length ≤ credit (spool.queue.census holds ++ submittedIn before) := by
  have hturned := spooler.performAll_turns hstore (Registry.build_isBuiltin hbuiltin hbuild)
    (Registry.build_vetted hhandles hbuild) hapart hstart hrun hsmooth hfresh hnew
  refine ⟨?_, ?_, ?_⟩
  · intro report hreport notification hsent
    obtain ⟨before, later, rfl⟩ := List.append_of_mem hreport
    obtain ⟨_, held, left, -, -, hpass, -, -⟩ := hturned.turns_of_append
    obtain ⟨sender, hsender, incident, hincident, hreports⟩ := hpass.reports hsent
    obtain ⟨hnull, hrecipients⟩ := Prod.mk.inj hreports.envelope
    exact ⟨sender, hsender, hnull, hrecipients, incident, hincident, hreports⟩
  · rintro before report between report' later rfl notification hsent hkin
    exact hturned.silent hfresh hsent hkin
  · rintro before later rfl
    obtain ⟨reached, hbefore, -⟩ := hturned.of_append
    have hspent := hbefore.spent
    rw [credit_append]
    omega

end Spooler

namespace Spooler.Sample

open Chain.Sample (alice bob carol)

def reporter : Bounce where
  reportingMta := "example.org"
  postmaster := ⟨"postmaster", ⟨"example.org"⟩⟩

/-- Chains that return all mail to its sender, that for alice at once and all other by way of a
second chain. -/
def returns : List Chain := [
  { name := StateName.default
    stages := [⟨.recipientsWhere "IsAlice" (· == alice), .bounce reporter⟩,
      ⟨.all, .toProcessor "list" none⟩] },
  { name := "list", stages := [⟨.all, .bounce reporter⟩] },
  { name := StateName.error, stages := [⟨.all, .bounce reporter⟩] }]

theorem isBuiltin_returns : ∀ chain ∈ returns, ∀ stage ∈ chain.stages, stage.mailet.IsBuiltin := by
  intro chain hchain stage hstage
  simp only [returns, List.mem_cons, List.not_mem_nil, or_false] at hchain
  rcases hchain with rfl | rfl | rfl
  · rcases List.mem_cons.1 hstage with rfl | hstage
    · exact .bounce reporter
    · rw [List.mem_singleton.1 hstage]
      exact .toProcessor "list" none
  · rw [List.mem_singleton.1 hstage]
    exact .bounce reporter
  · rw [List.mem_singleton.1 hstage]
    exact .bounce reporter

def returnsRegistry : Registry :=
  match Registry.build returns ∅ with
  | .ok registry => registry
  | .error _ => ⟨∅, ∅⟩

theorem build_returns : Registry.build returns ∅ = .ok returnsRegistry := by
  have hok : (Registry.build returns ∅).isOk = true := by decide +kernel
  unfold returnsRegistry
  rcases hbuild : Registry.build returns ∅ with e | registry
  · rw [hbuild] at hok
    cases hok
  · rfl

def returner : Spooler Memory where
  store := Memory.store
  registry := returnsRegistry

/-- A mail from carol is submitted, and there are passes until nothing is left, with the queue
opened again after the first. -/
def returnDay : List SpoolStep := [
  ⟨.ofMillis 1, .submit { sender := some carol, recipients := .ofList [alice, bob] } .empty⟩,
  ⟨.ofMillis 2, .pass⟩,
  ⟨.ofMillis 3, .restart⟩,
  ⟨.ofMillis 4, .pass⟩,
  ⟨.ofMillis 5, .pass⟩,
  ⟨.ofMillis 6, .pass⟩,
  ⟨.ofMillis 7, .pass⟩,
  ⟨.ofMillis 8, .pass⟩]

/-- Whether the fifth event is the pass of a mail that the second one sent. -/
def comesBack : List SpoolEvent → Bool
  | _ :: .passed report :: _ :: _ :: .passed report' :: _ =>
      report.sent.any fun notification => notification.id = report'.mail.id
  | _ => false

/-- Carol is notified twice, once for alice and once for bob, and no more could be sent. The first
notification makes a pass later, which sends nothing. -/
theorem notifications_do_not_multiply_of_two :
    ∃ events spool', returner.performAll returnDay openSpool = (events, spool') ∧
      (∀ event ∈ events, event.Smooth) ∧ (drawnIn events).Nodup ∧
      (sentIn events).length = 2 ∧ credit (submittedIn events) = 2 ∧
      (∀ report, .passed report ∈ events → ∀ notification ∈ report.sent,
        ∃ sender, report.mail.sender = some sender ∧ notification.recipients = .ofList [sender]) ∧
      (∃ report report', .passed report ∈ events ∧ .passed report' ∈ events ∧
        (∃ notification ∈ report.sent, notification.id = report'.mail.id) ∧ report'.sent = []) ∧
      ∀ before later, events = before ++ later →
        (sentIn before).length ≤ credit (submittedIn before) := by
  have hfacts : comesBack (returner.performAll returnDay openSpool).1 = true ∧
      (∀ event ∈ (returner.performAll returnDay openSpool).1, event.Smooth) ∧
      (drawnIn (returner.performAll returnDay openSpool).1).Nodup ∧
      (sentIn (returner.performAll returnDay openSpool).1).length = 2 ∧
      credit (submittedIn (returner.performAll returnDay openSpool).1) = 2 := by
    decide +kernel
  rcases hrun : returner.performAll returnDay openSpool with
    ⟨_ | ⟨first, _ | ⟨_ | report | _, _ | ⟨second, _ | ⟨third, _ | ⟨_ | report' | _, later⟩⟩⟩⟩⟩,
      spool'⟩
  all_goals rw [hrun] at hfacts
  case cons.cons.passed.cons.cons.cons.passed =>
    obtain ⟨hback, hsmooth, hfresh, hsent, hcredit⟩ := hfacts
    obtain ⟨notification, hnotification, hid⟩ := List.any_eq_true.1 hback
    have hid : notification.id = report'.mail.id := of_decide_eq_true hid
    have hnew : ∀ id ∈
        drawnIn (first :: .passed report :: second :: third :: .passed report' :: later),
        openSpool.queue.tracking.key? id = none := by
      intro id _
      simp [openSpool, Tracking.key?, Tracking.empty]
    obtain ⟨hreports, hsilent, hspent⟩ := notifications_do_not_multiply returner Memory.dependable
      (fun _ _ _ => rfl) (by decide) isBuiltin_returns build_returns
      (MailQueue.consistent_empty none)
      hrun hsmooth hfresh hnew
    have hnobody : report'.sent = [] :=
      hsilent [first] report [second, third] report' later rfl notification hnotification
        (hid ▸ Fate.mem_lineage_since ..)
    refine ⟨_, spool', rfl, hsmooth, hfresh, hsent, hcredit, ?_, ?_, ?_⟩
    · intro passed hpassed other hother
      obtain ⟨sender, hsender, -, hrecipients, -⟩ := hreports passed hpassed other hother
      exact ⟨sender, hsender, hrecipients⟩
    · exact ⟨report, report', by simp, by simp, ⟨notification, hnotification, hid⟩, hnobody⟩
    · -- at first there is nothing in the queue
      exact hspent
  all_goals exact absurd hfacts.1 (by simp [comesBack])

end Spooler.Sample

end Postroom
