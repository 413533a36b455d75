import Postroom.Proofs.Mailet.Reply
import Postroom.Proofs.Record.RoundTrip
import Postroom.Proofs.Registry.Report
import Postroom.Proofs.Spooler.Notification

/-!
What a stored mail can do to the worker that makes its pass. Where mailets are built in, only a
sender who is to be notified can end a worker: if one of the two dates that the notification bears
cannot be written. All branches of a mail have its sender, and its id or one of the present; so a
pass goes well if the mail as it was stored could be answered.
-/

namespace Postroom

namespace Chain

variable {chain : Chain}

theorem recordFailure_sender (now : Instant) (mail : Mail) (message : String) :
    (chain.recordFailure now mail message).sender = mail.sender := by
  unfold recordFailure
  split <;> rfl

/-- A mail with the id and the sender of another one can be answered if that one can. -/
theorem answerable_of_eq {mail other : Mail} {now : Instant} (hid : other.id = mail.id)
    (hsender : other.sender = mail.sender) (h : mail.sender = none ∨ mail.Datable now) :
    other.sender = none ∨ other.Datable now := by
  rwa [hsender, Mail.Datable, hid]

/-- In a chain of built-in mailets all branches can be answered if one can that they come from. -/
theorem upholds_answerable (hbuiltin : ∀ stage ∈ chain.stages, stage.mailet.IsBuiltin)
    (now : Instant) :
    chain.Upholds (fun m => m.sender = none ∨ m.Datable now) (fun _ => True)
      (fun pass => pass.now = now) where
  fork mail pass matched hmail hnow := by
    refine ⟨answerable_of_eq rfl rfl hmail, hmail.imp_right fun hdatable => ?_, hnow⟩
    have hwritable := ((mail.datable_iff now).1 hdatable).1
    subst hnow
    have harrival := Bounce.isSome_arrivalDate?_make hwritable (pass.ids.random pass.ids.drawn)
    exact ⟨hdatable.1, (Bounce.isSome_arrivalDate?_iff _).1 harrival⟩
  failure mail pass message hmail _ := by
    intro _
    split
    · exact answerable_of_eq (recordFailure_id ..) (recordFailure_sender ..) hmail
    · trivial
  service stage hstage mail pass served pass' hmail hnow hattend := by
    have hmailet := hbuiltin stage hstage
    obtain ⟨rfl, hserved⟩ := attend_cases hattend
    refine ⟨fun _ => ?_, (hmailet.service_now mail pass).trans hnow⟩
    have hleft := answerable_of_eq (hmailet.addsNobody mail pass).1
      (hmailet.service_sender mail pass)
      hmail
    split
    · rcases hserved with ⟨-, rfl⟩ | ⟨e, -, rfl⟩
      · exact hleft
      · exact answerable_of_eq (recordFailure_id ..) (recordFailure_sender ..) hleft
    · trivial
  ending _ _ _ _ _ _ := trivial

end Chain

namespace Registry

variable {registry : Registry}

/-- The pass of a mail whose sender can be answered goes well where mailets are built in. -/
theorem IsBuiltin.process_survives (h : registry.IsBuiltin) (hvetted : registry.Vetted)
    {mail : Mail} {pass : Pass} (hmail : mail.sender = none ∨ mail.Datable pass.now) :
    ∃ routed, (registry.process mail pass).1 = .ok routed := by
  refine (h.process_cases hvetted mail pass).resolve_right fun hpanicked => ?_
  obtain ⟨chain, entered, hentry, hrun⟩ := process_halted (Prod.ext hpanicked rfl)
  obtain ⟨⟨name, hchain⟩, hid, -⟩ := entry_ok hentry
  have hsender : entered.sender = mail.sender := congrArg Prod.fst (entry_envelope hentry)
  have hbuiltin := h name chain hchain
  obtain ⟨stage, hstage, target, between, htarget, hnow, houtcome⟩ :=
    (Chain.upholds_answerable hbuiltin pass.now).runPending_halted _ _ _
    (chain.inside_start entered)
      (by simpa using Chain.answerable_of_eq hid hsender hmail) rfl hrun
  exact (hbuiltin stage hstage).returns_of_datable (hnow ▸ htarget) _ houtcome

end Registry

namespace Spooler

variable {σ : Type}

/-- How a pass ends whose mails can all be queued: its lease is settled with success. -/
theorem process_settles {spooler : Spooler σ} {mail : Mail} {now : Instant} {spool : Spool σ}
    {mails : List Mail} {queue : MailQueue σ}
    (hresult : (spooler.run mail now none spool).1.result = .ok mails)
    (hqueued : enqueueAll spooler.store now mails (spooler.run mail now none spool).2.queue =
      (.ok (), queue)) :
    spooler.process mail now spool = (.acknowledged,
      { (spooler.run mail now none spool).2 with
        queue := (queue.settle spooler.store mail.id true now).2 }) := by
  have hleased : (spooler.run mail now none spool).1.leased = mail.id := rfl
  unfold process Spool.onQueue conclude
  dsimp only
  rw [hresult]
  dsimp only
  rw [hqueued, hleased]

/-- A mail that cannot be answered ends the worker whose chain returns all mail to its sender. -/
theorem process_panics {spooler : Spooler σ} {mail : Mail} {now : Instant} {settings : Bounce}
    {chain : Chain} (hresolve : spooler.registry.resolve mail.state = some chain)
    (hstages : chain.stages = [⟨.all, .bounce settings⟩]) (hlive : mail.isTerminal = false)
    (hmail : ¬ (mail.sender = none ∨ mail.Datable now)) (spool : Spool σ) :
    (spooler.process mail now spool).1 = .faulted (.halted .panicked) := by
  obtain ⟨hsome, hundated⟩ := not_or.1 hmail
  obtain ⟨sender, hsender⟩ := Option.ne_none_iff_exists'.1 hsome
  let start : Pass := .start now spool.ids spooler.localDomains (spool.currentWorld spooler.store)
    none
  let entered : Mail := if mail.state = chain.name then mail else mail.setState now chain.name
  have hentry : spooler.registry.entry start.now mail = .ok (chain, entered) :=
    Registry.entry_of_resolve hresolve
  have hsame : entered.id = mail.id ∧ entered.recipients = mail.recipients ∧
      entered.sender = mail.sender := by
    dsimp only [entered]
    split <;> exact ⟨rfl, rfl, rfl⟩
  obtain ⟨hid, hrecipients, hsenders⟩ := hsame
  have hoccupied : entered.recipients ≠ ∅ :=
    hrecipients ▸ ((Mail.isTerminal_eq_false_iff mail).1 hlive).2
  have hnone : settings.notification? entered sender start = none := by
    rw [← Option.not_isSome_iff_eq_none, Mailet.isSome_notification?, Bool.and_eq_true,
      ← entered.datable_iff, Mail.Datable, hid]
    exact hundated
  have hprocess := Registry.process_of_entry hlive hentry
  rw [Chain.run_bounce hstages hoccupied (hsenders.trans hsender), hnone] at hprocess
  have hresult : (spooler.run mail now none spool).1.result = .error (.halted .panicked) := by
    unfold run
    dsimp only
    rw [hprocess]
    rfl
  unfold process Spool.onQueue conclude
  dsimp only
  rw [hresult]

/-- What a mail does to a worker by way of a mailet that notifies senders, whatever the mail, its
record and the clock. If the mail has no sender, or now and the time of its id have dates that can
be written, the mailet drops it, leaves its recipients and sends one notification for its sender, if
any; and where mailets are built in, every pass of the mail goes well and settles its lease with
success once its mails are queued. Otherwise the mailet panics, and in a chain that returns all mail
to its sender that is the end of the worker. -/
theorem bounce_spares_worker_iff {spooler : Spooler σ} {chains : List Chain}
    {states : Std.ExtTreeMap String String}
    (hchains : ∀ chain ∈ chains, chain.handlesErrors = false)
    (hbuiltin : ∀ chain ∈ chains, ∀ stage ∈ chain.stages, stage.mailet.IsBuiltin)
    (hbuild : Registry.build chains states = .ok spooler.registry) (mail : Mail) (now : Instant) :
    (mail.sender = none ∨ mail.Datable now →
      (∀ settings pass, pass.now = now →
        let served := (Mailet.bounce settings).service mail pass
        served.outcome = .done ∧ served.mail = mail.setState now StateName.ghost ∧
          served.mail.recipients = mail.recipients ∧
          ∃ sent, served.pass.outgoing = pass.outgoing ++ sent ∧
            sent.map Mail.envelope = mail.sender.toList.map fun sender => (none,
              .ofList [sender])) ∧
      ∀ spool, ∃ mails, (spooler.run mail now none spool).1.result = .ok mails ∧
        ∀ queue, enqueueAll spooler.store now mails (spooler.run mail now none spool).2.queue =
            (.ok (), queue) →
          spooler.process mail now spool = (.acknowledged,
            { (spooler.run mail now none spool).2 with
              queue := (queue.settle spooler.store mail.id true now).2 })) ∧
    (¬ (mail.sender = none ∨ mail.Datable now) →
      (∀ settings pass, pass.now = now →
        ((Mailet.bounce settings).service mail pass).outcome = .halted .panicked) ∧
      ∀ settings chain spool, spooler.registry.resolve mail.state = some chain →
        chain.stages = [⟨.all, .bounce settings⟩] → mail.isTerminal = false →
          (spooler.process mail now spool).1 = .faulted (.halted .panicked)) := by
  refine ⟨fun hmail => ⟨?_, ?_⟩, fun hmail => ⟨?_, ?_⟩⟩
  · rintro settings pass rfl
    have hdone := (Mailet.bounce_outcome settings mail pass).1.2 hmail
    obtain ⟨hdropped, hsent⟩ := Mailet.bounce_leaves hdone
    exact ⟨hdone, hdropped, by rw [hdropped]; rfl, hsent⟩
  · intro spool
    have hvetted := Registry.build_vetted hchains hbuild
    have hregistry := Registry.build_isBuiltin hbuiltin hbuild
    let start : Pass := .start now spool.ids spooler.localDomains (spool.currentWorld spooler.store)
      none
    have hstart : mail.sender = none ∨ mail.Datable start.now := hmail
    obtain ⟨routed, hrouted⟩ := hregistry.process_survives hvetted hstart
    have hresult : ∃ mails, (spooler.run mail now none spool).1.result = .ok mails := by
      unfold run
      dsimp only
      rw [hrouted]
      exact ⟨_, rfl⟩
    obtain ⟨mails, hmails⟩ := hresult
    exact ⟨mails, hmails, fun queue hqueued => process_settles hmails hqueued⟩
  · rintro settings pass rfl
    exact (Mailet.bounce_outcome settings mail pass).2.2 (not_or.1 hmail)
  · intro settings chain spool hresolve hstages hlive
    exact process_panics hresolve hstages hlive hmail spool

end Spooler

namespace Spooler.Sample

open Chain.Sample (alice bob carol)

/-- A mail of the last millisecond that an id can be of, in the year 10889, for a chain that returns
all mail to its sender. -/
def unanswerable : Mail :=
  { Mail.create ⟨.allOnes 128⟩ .epoch (some carol) (.ofList [alice, bob]) .empty with
    state := "list" }

/-- It is read back from its record, and it ends the worker that makes its pass. -/
theorem unanswerable_ends_worker :
    ∃ object, Record.encode unanswerable = .ok object ∧
      Record.decode ⟨0, unanswerable.id⟩ object unanswerable.content = .ok unanswerable ∧
      (∀ pass : Pass, ((Mailet.bounce reporter).service unanswerable pass).outcome =
        .halted .panicked) ∧
      (returner.process unanswerable (.ofMillis 1) openSpool).1 = .faulted (.halted .panicked) := by
  have hencode : (Record.encode unanswerable).isOk = true := by decide +kernel
  rcases hobject : Record.encode unanswerable with e | object
  · rw [hobject] at hencode
    cases hencode
  refine ⟨object, rfl, Record.decode_encode hobject rfl, ?_, by decide +kernel⟩
  intro pass
  refine (Mailet.bounce_outcome reporter unanswerable pass).2.2 ⟨by decide, ?_⟩
  rintro ⟨-, hid⟩
  exact absurd hid (by decide +kernel)

/-- A mail of the first millisecond. -/
def answerable : Mail :=
  .create default .epoch (some carol) (.ofList [alice, bob]) .empty

/-- Whether all mails can be queued that come out of a pass. -/
def queuesAll (mail : Mail) : Bool :=
  match (returner.run mail (.ofMillis 1) none openSpool).1.result with
  | .ok mails => (enqueueAll returner.store (.ofMillis 1) mails
      (returner.run mail (.ofMillis 1) none openSpool).2.queue).1.isOk
  | .error _ => false

/-- It is dropped wherever senders are notified, and its pass ends well. -/
theorem bounce_spares_worker_iff_of_carol :
    answerable.sender = some carol ∧ answerable.Datable (.ofMillis 1) ∧
      (∀ settings (pass : Pass), pass.now = .ofMillis 1 →
        ((Mailet.bounce settings).service answerable pass).outcome = .done) ∧
      (returner.process answerable (.ofMillis 1) openSpool).1 = .acknowledged := by
  have hmail : answerable.Datable (.ofMillis 1) := ⟨⟨by decide, by decide⟩, by decide⟩
  have hqueues : queuesAll answerable = true := by decide +kernel
  obtain ⟨hserved, hpasses⟩ := (@bounce_spares_worker_iff _ returner _ _ (by decide)
    isBuiltin_returns build_returns answerable (.ofMillis 1)).1 (.inr hmail)
  obtain ⟨mails, hmails, hsettles⟩ := hpasses openSpool
  refine ⟨rfl, hmail, fun settings pass hnow => (hserved settings pass hnow).1, ?_⟩
  unfold queuesAll at hqueues
  rw [hmails] at hqueues
  dsimp only at hqueues
  rcases hqueued : enqueueAll returner.store (.ofMillis 1) mails
    (returner.run answerable (.ofMillis 1) none openSpool).2.queue with ⟨e | ⟨⟩, queue⟩
  · rw [hqueued] at hqueues
    cases hqueues
  · rw [hsettles queue hqueued]

end Spooler.Sample

end Postroom
