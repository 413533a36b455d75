import Postroom.Proofs.Mailet.Ledger
import Postroom.Proofs.Mailet.Quotation
import Postroom.Proofs.Registry.Failure

/-!
The report of a local delivery that failed. Where the chain of failed mail returns all mail to its
sender, the sender hears of exactly those recipients whom the delivery left on the mail: the branch
comes to that chain with nobody else on it, and the notification lists the recipients of the mail
that it is about.
-/

namespace Postroom

/-- A stage for everybody serves a branch as it is. -/
theorem Stage.divide_all {mailet : Mailet} {mail : Mail} (hmail : mail.recipients ≠ ∅)
    (pass : Pass) :
    Stage.divide ⟨.all, mailet⟩ mail pass = .ok ⟨none, some mail, pass⟩ := by
  have hall : (mail.recipients.filter fun r => mail.recipients.contains r) = mail.recipients := by
    apply Std.ExtTreeSet.ext_mem
    intro r
    simp
  have hsome : mail.recipients.isEmpty = false := by
    rw [← Bool.not_eq_true, Std.ExtTreeSet.isEmpty_iff]
    exact hmail
  have hselect : (⟨.all, mailet⟩ : Stage).matcher.select mail = .ok mail.recipients := rfl
  rw [Stage.divide, hselect]
  dsimp only
  rw [hall, hsome, if_neg Bool.false_ne_true, if_pos rfl]

/-- What a chain does that returns all mail to its sender. -/
theorem Chain.run_bounce {chain : Chain} {settings : Bounce}
    (hstages : chain.stages = [⟨.all, .bounce settings⟩]) {mail : Mail}
    (hmail : mail.recipients ≠ ∅)
    {sender : Address} (hsender : mail.sender = some sender) (pass : Pass) :
    chain.run mail pass =
      match settings.notification? mail sender pass with
      | none => (.error .panicked, pass)
      | some (notification, after) => (.ok [], after.send notification) := by
  rw [run, hstages, runPending, enter, Stage.divide_all hmail]
  dsimp only
  rw [attend]
  cases hnotification : settings.notification? mail sender pass with
  | none =>
      have hservice : (Mailet.bounce settings).service mail pass =
        ⟨mail, pass, .halted .panicked⟩ := by
        simp [Mailet.bounce, hsender, hnotification]
      rw [hservice]
      rfl
  | some written =>
      obtain ⟨notification, after⟩ := written
      have hservice : (Mailet.bounce settings).service mail pass =
          ⟨mail.setState pass.now StateName.ghost, after.send notification, .done⟩ := by
        simp [Mailet.bounce, hsender, hnotification]
      have hgone : chain.settle (mail.setState pass.now StateName.ghost) = .gone := by
        rw [settle, if_pos]
        rfl
      rw [hservice]
      simp [Except.map, hgone, advance, Course.onward?, Course.routed?, runPending]

/-- A local delivery that fails on what a stage gives to it, in a chain that does not handle
failures, where the chain of failed mail returns all mail and the mail has a sender to return it
to. -/
structure Setback (registry : Registry) (settings : Bounce) (chain : Chain) (matcher : Matcher)
    (store : MailboxStore) (branch : Mail) (pass : Pass) (kept : Option Mail) (target : Mail)
    (between : Pass) (e : MailetError) (sender : Address) : Prop where
  handles : chain.handlesErrors = false
  returns : ∃ errorChain, registry.resolve StateName.error = some errorChain ∧
    errorChain.stages = [⟨.all, .bounce settings⟩]
  divide : Stage.divide ⟨matcher, .localDelivery store⟩ branch pass =
    .ok ⟨kept, some target, between⟩
  fails : ((Mailet.localDelivery store).service target between).outcome = .failed e
  sender : target.sender = some sender

namespace Bounce

/-- Whether a notification lists these recipients and no others: in the text for humans, and with a
group of fields for each of them. -/
def Lists (settings : Bounce) (notification : Mail) (reason : String) (recipients : List Address) :
    Prop :=
  ∃ front boundary arrival quote, notification.content = .ofText (front ++
    partText boundary "text/plain; charset=utf-8"
      ("This is the mail system at host " ++ settings.reportingMta ++ ".\r\n\r\n" ++
        "Your message could not be delivered to one or more recipients.\r\n\r\n" ++
        ", ".intercalate (recipients.map Address.text) ++ ": " ++ reason ++ "\r\n") ++
    partText boundary "message/delivery-status"
      ("Reporting-MTA: dns; " ++ settings.reportingMta ++ "\r\nArrival-Date: " ++
        arrival ++ "\r\n" ++
        String.join (recipients.map fun r =>
          "\r\nFinal-Recipient: rfc822; " ++ r.text ++ "\r\nAction: failed\r\nStatus: 5.0.0\r\n" ++
            "Diagnostic-Code: smtp; " ++ reason ++ "\r\n")) ++
    partText boundary "text/rfc822-headers" quote ++ "--" ++ boundary ++ "--\r\n")

theorem notification?_lists {settings : Bounce} {mail notification : Mail} {sender : Address}
    {pass after : Pass} {reason : String} (herror : mail.error = some reason)
    (h : settings.notification? mail sender pass = some (notification, after)) :
    settings.Lists notification reason mail.recipients.toList := by
  obtain ⟨front, boundary, arrival, -, hcontent⟩ := notification?_parts h
  rw [herror] at hcontent
  exact ⟨front, boundary, arrival, _, hcontent⟩

end Bounce

namespace Registry

variable {registry : Registry}

/-- Failed mail that has a sender is reported where the chain of failed mail returns all mail. -/
theorem process_failed {errorChain : Chain} {settings : Bounce}
    (herror : registry.resolve StateName.error = some errorChain)
    (hstages : errorChain.stages = [⟨.all, .bounce settings⟩]) {left : Mail}
    (hleft : left.recipients ≠ ∅) {sender : Address} (hsender : left.sender = some sender)
    (now : Instant) (text : String) (later : Pass) :
    registry.process (left.failed now text) later = (.error (.halted .panicked), later) ∧
        (later.now.mailDate?.isSome && (Bounce.arrivalDate? left.id).isSome) = false ∨
      ∃ notification after,
        registry.process (left.failed now text) later = (.ok [], after) ∧
          after.outgoing = later.outgoing ++ [notification] ∧
          notification.envelope = (none, .ofList [sender]) ∧
          settings.Lists notification text left.recipients.toList := by
  have hlive : (left.failed now text).isTerminal = false := by
    refine (Mail.isTerminal_eq_false_iff _).2 ⟨?_, hleft⟩
    rw [Mail.failed_state]
    decide
  have hentry := @entry_of_resolve registry errorChain later.now (left.failed now text) herror
  have hprocess := process_of_entry hlive hentry
  generalize hentered : (if (left.failed now text).state = errorChain.name then left.failed now text
    else (left.failed now text).setState later.now errorChain.name) = entered at hprocess
  have hsame : entered.id = left.id ∧ entered.recipients = left.recipients ∧
      entered.sender = left.sender ∧ entered.error = some text := by
    rw [← hentered]
    split <;> exact ⟨rfl, rfl, rfl, rfl⟩
  obtain ⟨hid, hrecipients, hsenders, hreason⟩ := hsame
  rw [Chain.run_bounce hstages (hrecipients.symm ▸ hleft) (hsenders.trans hsender)] at hprocess
  have hwritable := Mailet.isSome_notification? settings entered sender later
  rw [hid] at hwritable
  cases hnotification : settings.notification? entered sender later with
  | none =>
      rw [hnotification] at hprocess hwritable
      exact .inl ⟨hprocess, hwritable.symm⟩
  | some written =>
      obtain ⟨notification, after⟩ := written
      rw [hnotification] at hprocess
      obtain ⟨henvelope, houtgoing⟩ := Bounce.notification?_envelope hnotification
      have hlists := Bounce.notification?_lists hreason hnotification
      rw [hrecipients] at hlists
      refine .inr ⟨notification, after.send notification, hprocess, ?_, henvelope, hlists⟩
      rw [Pass.send, houtgoing]

/-- A branch on which a component fails is among the mails that a pass returns, in the state of
failed mail. -/
theorem failed_mem_of_process {chain : Chain} (hhandles : chain.handlesErrors = false)
    (hname : chain.name ≠ StateName.error) (herror : (registry.resolve StateName.error).isSome)
    {mail entered branch left : Mail} {start sofar failing after : Pass} {stage : Stage}
    {ahead : List Stage} {pending : List Branch} {routed final : List Mail} {kept : Option Mail}
    {text : String} (hlive : mail.isTerminal = false)
    (hentry : registry.entry start.now mail = .ok (chain, entered))
    (hreaches : chain.Reaches entered start (⟨stage :: ahead, branch⟩ :: pending) routed sofar)
    (hfails : stage.Fails branch sofar kept left text failing)
    (hprocess : registry.process mail start = (.ok final, after)) :
    left.failed sofar.now text ∈ final := by
  obtain ⟨-, -, hsame⟩ := entry_ok hentry
  have hentered : entered.recipients ≠ ∅ := by
    rw [hsame]
    exact ((Mail.isTerminal_eq_false_iff mail).1 hlive).2
  have hbranch := hreaches.occupied hentered _ (List.mem_cons_self ..)
  have hrun := (hreaches.entered (Chain.enter_of_fails hhandles hname hbranch hfails)).run_eq
  rw [process_of_entry hlive hentry] at hprocess
  rcases hresult : chain.run entered start with ⟨halt | returned, last⟩
  · simp [hresult] at hprocess
  · simp only [hresult, Prod.mk.injEq] at hprocess
    have hreturned : left.failed sofar.now text ∈ returned :=
      Chain.mem_of_runPending _ _ _ (hrun.symm.trans hresult) (by simp [Course.routed?])
    exact mem_of_checkRouted hprocess.1 hreturned (by simpa using herror)

/-- Every local delivery has a ledger: its recipients are tried in their order and at most once,
with the content of the mail, up to the first refusal; those who were not refused leave the mail,
which is dropped if nobody was and keeps its other parts otherwise. Where the chain of failed mail
returns all mail to its sender and the mail has one, a delivery that fails in another chain is
routed there, and the sender is notified of exactly the recipients who are not delivered to, unless
a date cannot be written. -/
theorem deliveries_booked_and_reported (store : MailboxStore) :
    (∀ (mail : Mail) (pass : Pass), ∃ delivered refused,
      let served := (Mailet.localDelivery store).service mail pass
      Mailet.Ledger store mail pass mail.recipients.toList served delivered refused ∧
        ((delivered ++ refused.toList).map Attempt.recipient).Nodup ∧
        (served.outcome = .done ↔ refused = none) ∧
        (refused = none → served.mail.state = StateName.ghost)) ∧
    ∀ {registry settings chain matcher branch pass kept target between e sender},
      Setback registry settings chain matcher store branch pass kept target between e sender →
      let stage : Stage := ⟨matcher, .localDelivery store⟩
      let served := (Mailet.localDelivery store).service target between
      let text := "LocalDelivery: " ++ e.message
      let failed := served.mail.failed pass.now text
      chain.enter stage branch pass = (.ok (kept, chain.settle failed), served.pass) ∧
      (chain.name ≠ StateName.error → ∀ mail entered start ahead pending routed final after,
        mail.isTerminal = false → registry.entry start.now mail = .ok (chain, entered) →
        chain.Reaches entered start (⟨stage :: ahead, branch⟩ :: pending) routed pass →
        registry.process mail start = (.ok final, after) → failed ∈ final) ∧
      ∃ delivered attempt,
        Mailet.Ledger store target between target.recipients.toList served delivered
          (some attempt) ∧
        (∀ r, r ∈ failed.recipients ↔
          r ∈ target.recipients ∧ r ∉ delivered.map Attempt.recipient) ∧
        ∀ later : Pass,
          registry.process failed later = (.error (.halted .panicked), later) ∧
              (later.now.mailDate?.isSome && (Bounce.arrivalDate? failed.id).isSome) = false ∨
            ∃ notification after, registry.process failed later = (.ok [], after) ∧
              after.outgoing = later.outgoing ++ [notification] ∧
              notification.envelope = (none, .ofList [sender]) ∧
              settings.Lists notification text failed.recipients.toList := by
  refine ⟨fun mail pass => ?_, ?_⟩
  · obtain ⟨delivered, refused, hledger, hdone, hghost⟩ :=
      Mailet.localDelivery_ledger store mail pass
    exact ⟨delivered, refused, hledger, hledger.nodup, hdone, hghost⟩
  intro registry settings chain matcher branch pass kept target between e sender h stage
    served text failed
  obtain ⟨delivered, refused, hledger, hdone, -⟩ := Mailet.localDelivery_ledger store target between
  obtain ⟨errorChain, herror, hstages⟩ := h.returns
  cases refused with
  | none =>
      have hcomplete := hdone.2 rfl
      rw [h.fails] at hcomplete
      cases hcomplete
  | some attempt =>
      have hleft : served.mail.recipients ≠ ∅ := hledger.occupied
      obtain ⟨-, -, -, hsender⟩ := hledger.unchanged (by simp)
      have hfails : stage.Fails branch pass kept served.mail text served.pass :=
        .mailet kept target between e h.divide h.fails hleft
      have henter := @Chain.enter_notes_failure chain _ _ _ _ _ _ _ hfails
      rw [Chain.recordFailure_of_not_handles h.handles] at henter
      refine ⟨henter, ?_, delivered, attempt, hledger, hledger.left, ?_⟩
      · intro hname mail entered start ahead pending routed final after hlive hentry
          hreaches hprocess
        exact failed_mem_of_process h.handles hname (by simp [herror]) hlive hentry hreaches hfails
          hprocess
      · intro later
        exact process_failed herror hstages hleft (hsender.trans h.sender) pass.now text later

end Registry

namespace Registry.Sample

open Chain.Sample (alice bob carol pass)

/-- A mailbox store that has no room for bob. -/
def crowded : MailboxStore where
  deliver recipient _ world :=
    if recipient = bob then (.error (.failed "mailbox full"), world) else (.ok (), world)

/-- A chain that delivers to everybody, and one that returns all mail to its sender. -/
def delivering : Chain where
  name := StateName.default
  stages := [⟨.all, .localDelivery crowded⟩]

def returning : Chain where
  name := StateName.error
  stages := [⟨.all, .bounce Bounce.Sample.settings⟩]
  handlesErrors := true

def table : Registry where
  chains := .ofList [(StateName.default, delivering), (StateName.error, returning)]
  states := ∅

/-- A mail from carol to alice and bob. -/
def letter : Mail :=
  .create default .epoch (some carol) (.ofList [alice, bob]) .empty

theorem resolve_table {state : String} {chain : Chain}
    (h : (state, chain) ∈ [(StateName.default, delivering), (StateName.error, returning)]) :
    table.resolve state = some chain := by
  have hname : nameFor table.states state = state := by
    rw [nameFor, table]
    simp
  have hdistinct : [(StateName.default, delivering), (StateName.error, returning)].Pairwise
      fun a b => ¬ compare a.1 b.1 = .eq := by
    simp only [List.pairwise_cons]
    decide
  rw [resolve, hname]
  exact Std.ExtTreeMap.getElem?_ofList_of_mem (by simp) hdistinct h

theorem setback_of_bob : Setback table Bounce.Sample.settings delivering .all crowded
    letter pass none
    letter pass (.failed "mailbox full") carol where
  handles := rfl
  returns := ⟨returning, resolve_table (by simp), rfl⟩
  divide := by
    refine Stage.divide_all ?_ pass
    have hlive : letter.isTerminal = false := by decide +kernel
    exact ((Mail.isTerminal_eq_false_iff letter).1 hlive).2
  fails := by decide +kernel
  sender := rfl

/-- Carol hears of bob, and of nobody else. -/
theorem deliveries_booked_and_reported_of_bob :
    ∃ final failed after notification last,
      table.process letter pass = (.ok final, after) ∧ failed ∈ final ∧
        table.process failed pass = (.ok [], last) ∧ last.outgoing = [notification] ∧
        notification.recipients = .ofList [carol] ∧
        Bounce.Sample.settings.Lists notification "LocalDelivery: mailbox full" [bob] := by
  obtain ⟨-, hrouted, -, -, -, -, hreport⟩ :=
    (deliveries_booked_and_reported crowded).2 setback_of_bob
  have hlive : letter.isTerminal = false := by decide +kernel
  have hentry : table.entry pass.now letter = .ok (delivering, letter) := by
    rw [entry_of_resolve (resolve_table (List.mem_cons_self ..))]
    rfl
  have hreturns : ∀ stage ∈ delivering.stages, stage.mailet.Returns := by
    intro stage hstage
    rw [List.mem_singleton.1 hstage]
    exact Mailet.returns_localDelivery crowded
  obtain ⟨final, after, hprocess⟩ := process_returns hlive hentry rfl hreturns
  have hfailed := hrouted (by decide) letter letter pass [] []
    [] final after hlive hentry .start hprocess
  have hleft : ((Mailet.localDelivery crowded).service letter pass).mail.recipients.toList =
    [bob] := by
    decide +kernel
  have hdates : (pass.now.mailDate?.isSome && (Bounce.arrivalDate?
      ((Mailet.localDelivery crowded).service letter pass).mail.id).isSome) =
        true := by decide +kernel
  rcases hreport pass with ⟨-, hunwritable⟩ |
    ⟨notification, last, hreported, hsent, henvelope, hlists⟩
  · have hfalse : false = true := hunwritable.symm.trans hdates
    cases hfalse
  · refine ⟨final, _, after, notification, last, hprocess, hfailed, hreported, hsent,
      congrArg Prod.snd henvelope, ?_⟩
    rw [← hleft]
    exact hlists

end Registry.Sample

end Postroom
