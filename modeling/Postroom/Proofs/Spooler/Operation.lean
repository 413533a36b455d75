import Postroom.Ingress
import Postroom.Proofs.Queue.Durability
import Postroom.Proofs.Registry.Notification
import Postroom.Proofs.Spooler.Rollback

/-!
A server at work. Mail is submitted, a worker makes one pass after the other, delayed mail is
flushed and the queue is opened again, each at whatever time the clock shows then. If nothing goes
wrong, each of these does one of three things to the tracked mails: it leaves them, it adds a new
one, or it puts what came out of a pass in the place of the mail that made it.
-/

namespace Postroom

inductive SpoolCall where
  | submit (submission : Submission) (content : Content)
  /-- A worker leases the next visible mail, if there is one, and makes its pass. -/
  | pass
  | flush
  /-- The queue is abandoned and opened again over the records that it leaves. -/
  | restart

structure SpoolStep where
  /-- What the clock shows. -/
  now : Instant
  call : SpoolCall

/-- A pass that was made: the mail as it was leased, what happened to it in its chain, the mails
that were sent on the way, and the end. -/
structure PassReport where
  mail : Mail
  history : List Incident
  sent : List Mail
  ending : PassEnd

inductive SpoolEvent where
  | accepted (mail : Mail)
  | passed (report : PassReport)
  /-- No mail was accepted and no pass was made. -/
  | idle

namespace SpoolEvent

/-- The ids that were drawn for new mails, for branches that were split off and for mails that were
sent. -/
def drawn : SpoolEvent → List MailId
  | accepted mail => [mail.id]
  | passed report => forkIds report.history ++ report.sent.map Mail.id
  | idle => []

/-- Whether nothing went wrong: whatever came out of a pass could be stored, and no mailet
panicked. -/
def Smooth : SpoolEvent → Prop
  | passed report =>
      report.ending ≠ .rolledBack ∧ report.ending ≠ .faulted (.halted .panicked)
  | _ => True

instance : DecidablePred Smooth
  | accepted _ => inferInstanceAs (Decidable True)
  | passed report => inferInstanceAs (Decidable
      (report.ending ≠ .rolledBack ∧ report.ending ≠ .faulted (.halted .panicked)))
  | idle => inferInstanceAs (Decidable True)

end SpoolEvent

/-- What an event does to the tracked mails. -/
inductive Turns : List Mail → SpoolEvent → List Mail → Prop where
  | idle (mails : List Mail) : Turns mails .idle mails
  | accepted (mail : Mail) (mails : List Mail) : Turns mails (.accepted mail) (mail :: mails)
  | passed (report : PassReport) {routed : List Mail} (others : List Mail)
      (ids : ∀ m ∈ routed, m.id = report.mail.id ∨ m.id ∈ forkIds report.history)
      (balance : ∀ r, holders r [report.mail] = holders r routed + takings r report.history)
      (builtin : ∀ incident ∈ report.history, incident.OfBuiltin)
      (notified : Notified [report.mail] report.history routed report.sent) :
      Turns (report.mail :: others) (.passed report) (routed ++ report.sent ++ others)

namespace Turns

variable {before after : List Mail} {event : SpoolEvent}

/-- The ids of the tracked mails are old ones or were drawn. -/
theorem mem_ids (h : Turns before event after) {id : MailId} (hid : id ∈ after.map Mail.id) :
    id ∈ before.map Mail.id ∨ id ∈ event.drawn := by
  cases h with
  | idle => exact .inl hid
  | accepted mail =>
      rcases List.mem_cons.1 hid with rfl | hid
      · exact .inr (List.mem_singleton.2 rfl)
      · exact .inl hid
  | @passed report routed others ids =>
      simp only [List.map_append, List.mem_append] at hid
      rcases hid with (hid | hid) | hid
      · obtain ⟨m, hm, rfl⟩ := List.mem_map.1 hid
        rcases ids m hm with hsame | hfork
        · exact .inl (hsame ▸ List.mem_cons_self ..)
        · exact .inr (List.mem_append_left _ hfork)
      · exact .inr (List.mem_append_right _ hid)
      · exact .inl (List.mem_cons_of_mem _ hid)

end Turns

/-- What some events, one after the other, do to the tracked mails, in whatever order these are
listed. No event draws the id of a mail that is tracked then. -/
inductive TurnsAll : List Mail → List SpoolEvent → List Mail → Prop where
  | nil {mails others : List Mail} : mails.Perm others → TurnsAll mails [] others
  | cons {mails before : List Mail} {event : SpoolEvent} {between : List Mail}
      {later : List SpoolEvent} {after : List Mail} : mails.Perm before →
      Turns before event between → (∀ id ∈ event.drawn, id ∉ before.map Mail.id) →
      TurnsAll between later after → TurnsAll mails (event :: later) after

namespace TurnsAll

variable {mails others after : List Mail} {events earlier later : List SpoolEvent}

theorem reorder (h : TurnsAll mails events after) (hperm : others.Perm mails) :
    TurnsAll others events after := by
  cases h with
  | nil hsame => exact .nil (hperm.trans hsame)
  | cons hsame hturned hout hrest => exact .cons (hperm.trans hsame) hturned hout hrest

/-- Some mails are tracked at every point between two events. -/
theorem of_append (h : TurnsAll mails (earlier ++ later) after) :
    ∃ between, TurnsAll mails earlier between ∧ TurnsAll between later after := by
  induction earlier generalizing mails with
  | nil => exact ⟨mails, .nil (.refl mails), h⟩
  | cons event rest ih =>
      cases h with
      | cons hsame hturned hout hrest =>
          obtain ⟨between, hfirst, hsecond⟩ := ih hrest
          exact ⟨between, .cons hsame hturned hout hfirst, hsecond⟩

/-- The mails that are tracked before and after one of the events. -/
theorem turns_of_append {event : SpoolEvent}
    (h : TurnsAll mails (earlier ++ event :: later) after) :
    ∃ reached held left, TurnsAll mails earlier reached ∧ reached.Perm held ∧
      Turns held event left ∧
      (∀ id ∈ event.drawn, id ∉ held.map Mail.id) ∧ TurnsAll left later after := by
  obtain ⟨reached, hearlier, hlater⟩ := h.of_append
  cases hlater with
  | @cons _ held _ left _ _ hperm hturned hout hrest =>
      exact ⟨reached, held, left, hearlier, hperm, hturned, hout, hrest⟩

end TurnsAll

namespace Spooler

open MailQueue (Consistent Lists Stores OwnsKeys)

variable {σ : Type} {store : RecordStore σ} {holds : σ → Holdings} {ledger : Ledger} {now : Instant}
  {mails others : List Mail} {queue queue' : MailQueue σ}

/-- Do what a server is told to do. -/
def perform (spooler : Spooler σ) (step : SpoolStep) (spool : Spool σ) : SpoolEvent × Spool σ :=
  match step.call with
  | .submit submission content =>
      match Ingress.submit spooler.store submission content step.now spool with
      | (.ok mail, spool) => (.accepted mail, spool)
      | (.error _, spool) => (.idle, spool)
  | .pass =>
      let leased := (spool.onQueue (MailQueue.dequeue spooler.store step.now)).2
      match spooler.processNext step.now spool with
      | (.ok (some (mail, ending)), spool) =>
          let opening := spooler.opening step.now leased
          let history := spooler.registry.history mail opening
          let sent := (spooler.registry.process mail opening).2.outgoing
          (.passed ⟨mail, history, sent, ending⟩, spool)
      | (_, spool) => (.idle, spool)
  | .flush => (.idle, (spool.onQueue MailQueue.flush).2)
  | .restart =>
      match MailQueue.recoverFrom spooler.store step.now spool.queue.records with
      | (.ok tracking, records) => (.idle, { spool with queue := ⟨tracking, records⟩ })
      | (.error _, records) => (.idle, { spool with queue := { spool.queue with records } })

def performAll (spooler : Spooler σ) : List SpoolStep → Spool σ → List SpoolEvent × Spool σ
  | [], spool => ([], spool)
  | step :: steps, spool =>
      let (event, spool) := spooler.perform step spool
      let (events, spool) := performAll spooler steps spool
      (event :: events, spool)

/-- The ids that were drawn in the course of some events. -/
def drawnIn (events : List SpoolEvent) : List MailId :=
  events.flatMap SpoolEvent.drawn

theorem drawnIn_append (earlier later : List SpoolEvent) :
    drawnIn (earlier ++ later) = drawnIn earlier ++ drawnIn later :=
  List.flatMap_append

/-- Whether the mailets leave the records of the queue as they are. -/
def LeavesRecords (spooler : Spooler σ) (holds : σ → Holdings) : Prop :=
  ∀ mail now spool,
    holds (spooler.run mail now none spool).2.queue.records = holds spool.queue.records

/-- A submission that is refused leaves the tracked mails, and one that is accepted adds a mail. -/
theorem submit_lists (hstore : store.Dependable holds) {spool spool' : Spool σ}
    (h : Consistent holds ledger spool.queue) {submission : Submission} {content : Content}
    {answer : Except IngressError Mail}
    (hsubmit : Ingress.submit store submission content now spool = (answer, spool')) :
    (∃ ledger', Consistent holds ledger' spool'.queue) ∧
      (∀ e, answer = .error e → Lists holds spool'.queue (spool.queue.census holds)) ∧
      ∀ mail, answer = .ok mail → spool.queue.tracking.key? mail.id = none →
        Lists holds spool'.queue (mail :: spool.queue.census holds) := by
  unfold Ingress.submit at hsubmit
  dsimp only at hsubmit
  split at hsubmit
  · cases hsubmit
    exact ⟨⟨ledger, h⟩, fun _ _ => h.lists, by simp⟩
  · generalize Ingress.mailFor submission content _ now = mail at hsubmit
    have hstores := MailQueue.enqueue_stores hstore.toLawful h.ownsKeys mail 0 now
    unfold Spool.onQueue at hsubmit
    dsimp only at hsubmit
    rcases MailQueue.enqueue_cases hstore h mail 0 now with ⟨e, records, -, henqueue, hsame⟩ |
      ⟨tracking, records, henqueue, -, hnext⟩
    · rw [henqueue] at hsubmit hstores
      cases hsubmit
      obtain ⟨-, hnothing⟩ | ⟨hok, -⟩ := hstores
      · have hlists := hnothing.lists h.ownsKeys (by simp) h.lists
        refine ⟨⟨ledger, hsame⟩, fun _ _ => ?_, by simp⟩
        simpa using hlists
      · cases hok
    · rw [henqueue] at hsubmit hstores
      cases hsubmit
      obtain ⟨⟨e, herror⟩, -⟩ | ⟨-, hone, -⟩ := hstores
      · cases herror
      have hlists := hone.lists h.ownsKeys (by simp) h.lists
      refine ⟨⟨_, hnext⟩, by simp, fun accepted haccepted hnew => ?_⟩
      cases haccepted
      -- no other mail has its id
      have hothers : ((spool.queue.census holds).filter fun m => m.id ∉ [mail].map Mail.id) =
          spool.queue.census holds := by
        refine List.filter_eq_self.2 fun m hm => decide_eq_true fun hmem => ?_
        obtain ⟨key, hkey, -⟩ := (h.lists.mem_iff m).1 hm
        rw [List.map_singleton, List.mem_singleton] at hmem
        rw [hmem, hnew] at hkey
        cases hkey
      rwa [hothers] at hlists

/-- If all mails can be stored, they are. -/
theorem enqueueAll_ok (hstore : store.Dependable holds) (h : Consistent holds ledger queue)
    (hall : enqueueAll store now mails queue = (.ok (), queue')) :
    Stores holds mails queue queue' ∧ ∃ ledger', Consistent holds ledger' queue' := by
  induction mails generalizing queue ledger with
  | nil =>
      cases hall
      exact ⟨.of_refused rfl, ledger, h⟩
  | cons mail rest ih =>
      unfold enqueueAll at hall
      have hstores := MailQueue.enqueue_stores hstore.toLawful h.ownsKeys mail 0 now
      rcases MailQueue.enqueue_cases hstore h mail 0 now with ⟨e, records, -, henqueue, -⟩ |
        ⟨tracking, records, henqueue, -, hnext⟩
      · rw [henqueue] at hall
        cases hall
      · rw [henqueue] at hall hstores
        obtain ⟨⟨e, herror⟩, -⟩ | ⟨-, hfirst, -⟩ := hstores
        · cases herror
        obtain ⟨hrest, hlast⟩ := ih hnext hall
        exact ⟨hfirst.trans hrest, hlast⟩

/-- Mails that are new, but for one that may have the id of a leased mail, take its place when its
lease ends with success. -/
theorem lists_complete (hstore : store.Dependable holds) (h : Consistent holds ledger queue)
    {leased : Mail} (hleased : queue.tracking.leaseOf? leased.id = some none)
    (hlists : Lists holds queue (leased :: others)) (hids : (mails.map Mail.id).Nodup)
    (hnew : ∀ m ∈ others, m.id ∉ mails.map Mail.id) (hstores : Stores holds mails queue queue')
    (hown : queue'.OwnsKeys) (now : Instant) :
    Lists holds (queue'.complete store leased.id now).2 (mails ++ others) := by
  have hafter := hstores.lists h.ownsKeys hids hlists
  have hothers : (others.filter fun m => m.id ∉ mails.map Mail.id) = others :=
    List.filter_eq_self.2 fun m hm => decide_eq_true (hnew m hm)
  obtain ⟨hending, hstaying⟩ := hafter.complete hstore.toLawful hown leased.id now
  by_cases hmem : leased.id ∈ mails.map Mail.id
  · -- it was stored again, so there is nothing left to delete
    rw [List.filter_cons_of_neg (by simpa using hmem), hothers] at hstaying
    exact hstaying (hstores.requeued leased.id hmem)
  · rw [List.filter_cons_of_pos (by simpa using hmem), hothers] at hending
    have hout : leased.id ∉ others.map Mail.id := (List.nodup_cons.1 hlists.ids).1
    have hkept : ((mails ++ leased :: others).filter fun m => m.id ≠ leased.id) =
        mails ++ others := by
      rw [List.filter_append, List.filter_cons_of_neg (by simp)]
      congr 1
      · refine List.filter_eq_self.2 fun m hm => decide_eq_true fun heq => hmem ?_
        exact heq ▸ List.mem_map_of_mem hm
      · refine List.filter_eq_self.2 fun m hm => decide_eq_true fun heq => hout ?_
        exact heq ▸ List.mem_map_of_mem hm
    rw [hkept] at hending
    exact hending ((hstores.leases leased.id hmem).trans hleased)

/-- A pass that is not rolled back puts the mails that it hands over in the place of the leased
one. -/
theorem conclude_lists (hstore : store.Dependable holds) (h : Consistent holds ledger queue)
    {passage : Passage} (hmails : passage.result = .ok mails) {leased : Mail}
    (hid : passage.leased = leased.id)
    (hleased : queue.tracking.leaseOf? leased.id = some none)
    (hlists : Lists holds queue (leased :: others)) (hids : (mails.map Mail.id).Nodup)
    (hnew : ∀ m ∈ others, m.id ∉ mails.map Mail.id) {ending : PassEnd}
    (hconclude : conclude store passage now queue = (ending, queue'))
    (hstored : ending ≠ .rolledBack) :
    (∃ ledger', Consistent holds ledger' queue') ∧ Lists holds queue' (mails ++ others) := by
  unfold conclude at hconclude
  rw [hmails, hid] at hconclude
  dsimp only at hconclude
  rcases hall : enqueueAll store now mails queue with ⟨e | ⟨⟩, left⟩
  · rw [hall] at hconclude
    cases hconclude
    exact absurd rfl hstored
  · rw [hall] at hconclude
    cases hconclude
    obtain ⟨hstores, ledger', hleft⟩ := enqueueAll_ok hstore h hall
    refine ⟨⟨ledger', ?_⟩,
      lists_complete hstore h hleased hlists hids hnew hstores hleft.ownsKeys now⟩
    rcases MailQueue.complete_cases hstore hleft leased.id now with ⟨-, hsettle⟩ |
      ⟨-, key, tracking, records, -, hsettle, hnext⟩
    · have hsettle : (left.settle store leased.id true now).2 = left := congrArg Prod.snd hsettle
      rwa [hsettle]
    · have hsettle : (left.settle store leased.id true now).2 = ⟨tracking, records⟩ :=
        congrArg Prod.snd hsettle
      rwa [hsettle]

/-- The order of the handover does not matter to what is handed over. -/
theorem handover_perm (leased : MailId) (routed outgoing : List Mail) :
    (handover leased routed outgoing).Perm (routed ++ outgoing) := by
  have hsplit : (routed.filter (·.id ≠ leased) ++ routed.filter (·.id = leased)).Perm routed := by
    have hparts := List.filter_append_perm (fun m : Mail => decide (m.id ≠ leased)) routed
    simpa using hparts
  unfold handover
  rw [List.append_assoc]
  refine (List.perm_append_comm.append_left _).trans ?_
  rw [← List.append_assoc]
  exact hsplit.append_right outgoing

section Working

variable (spooler : Spooler σ) (hstore : spooler.store.Dependable holds)
  (hregistry : spooler.registry.IsBuiltin) (hvetted : spooler.registry.Vetted)
  (hapart : spooler.LeavesRecords holds)

include hstore hregistry hvetted hapart

/-- A pass in which nothing goes wrong puts what came out of it in the place of the leased mail. -/
theorem process_turns {mail : Mail} {spool spool' : Spool σ} {ending : PassEnd}
    (h : Consistent holds ledger spool.queue)
    (hleased : spool.queue.tracking.leaseOf? mail.id = some none)
    (hlists : Lists holds spool.queue (mail :: others))
    (hdrawn : (spooler.drawnIds mail now spool).Nodup)
    (hnew : ∀ id ∈ spooler.drawnIds mail now spool, spool.queue.tracking.key? id = none)
    (hprocess : spooler.process mail now spool = (ending, spool'))
    (hsmooth : ending ≠ .rolledBack ∧ ending ≠ .faulted (.halted .panicked)) :
    ∃ after, (∃ ledger', Consistent holds ledger' spool'.queue) ∧ Lists holds spool'.queue after ∧
      Turns (mail :: others) (.passed ⟨mail,
        spooler.registry.history mail (spooler.opening now spool),
        (spooler.registry.process mail (spooler.opening now spool)).2.outgoing, ending⟩) after := by
  have hconclude : conclude spooler.store (spooler.run mail now none spool).1 now
      (spooler.run mail now none spool).2.queue = (ending, spool'.queue) :=
    congrArg (fun answer => (answer.1, answer.2.queue)) hprocess
  have hresult : (spooler.run mail now none spool).1.result =
      (spooler.registry.process mail (spooler.opening now spool)).1.map fun routed =>
        handover mail.id routed
          (spooler.registry.process mail (spooler.opening now spool)).2.outgoing := rfl
  rcases hregistry.process_cases hvetted mail (spooler.opening now spool) with
    ⟨routed, hrouted⟩ | hpanicked
  · rw [hrouted] at hresult
    have haccounts := Registry.process_accounts hregistry.addsNobody (Prod.ext hrouted rfl)
    have hperm := handover_perm mail.id routed
      (spooler.registry.process mail (spooler.opening now spool)).2.outgoing
    -- an id that was drawn is not that of a tracked mail
    have hold : ∀ m ∈ mail :: others, m.id ∉ spooler.drawnIds mail now spool := by
      intro m hm hmem
      obtain ⟨key, hkey, -⟩ := (hlists.mem_iff m).1 hm
      rw [hnew m.id hmem] at hkey
      cases hkey
    have hids := haccounts.nodup_ids_append
      (List.nodup_cons.2 ⟨hold mail (List.mem_cons_self ..), hdrawn⟩)
    have hothers : ∀ m ∈ others, m.id ∉ (handover mail.id routed
        (spooler.registry.process mail (spooler.opening now spool)).2.outgoing).map Mail.id := by
      intro m hm hmem
      rw [(hperm.map Mail.id).mem_iff, List.map_append, List.mem_append] at hmem
      refine hold m (List.mem_cons_of_mem _ hm) (List.mem_append.2 (hmem.imp_left ?_))
      intro hmem
      obtain ⟨other, hother, heq⟩ := List.mem_map.1 hmem
      rw [← heq]
      refine (haccounts.id_of_singleton hother).resolve_left fun hsame => ?_
      refine (List.nodup_cons.1 hlists.ids).1 ?_
      rw [← hsame, heq]
      exact List.mem_map_of_mem hm
    have hrun : Consistent holds ledger (spooler.run mail now none spool).2.queue :=
      h.of_same rfl (hapart mail now spool)
    have hrunning : Lists holds (spooler.run mail now none spool).2.queue (mail :: others) :=
      hlists.of_same rfl (hapart mail now spool)
    obtain ⟨hnext, hafter⟩ := conclude_lists hstore hrun hresult rfl hleased hrunning
      ((hperm.map Mail.id).nodup_iff.2 hids) hothers hconclude hsmooth.1
    have hnotified : Notified [mail] (spooler.registry.history mail (spooler.opening now spool))
        routed (spooler.registry.process mail (spooler.opening now spool)).2.outgoing := by
      obtain ⟨sent, hsent, hnotified⟩ := hregistry.process_notified (Prod.ext hrouted rfl)
      -- nothing is on its way when a pass begins
      have hsent : (spooler.registry.process mail (spooler.opening now spool)).2.outgoing = sent :=
        hsent
      rwa [hsent]
    exact ⟨_, hnext, hafter.reorder (hperm.append_right others),
      .passed ⟨mail, _, _, ending⟩ others (fun m hm => haccounts.id_of_singleton hm)
        haccounts.balance (hregistry.history_ofBuiltin mail _) hnotified⟩
  · -- the only fault there can be is a panic
    rw [hpanicked] at hresult
    unfold conclude at hconclude
    rw [hresult] at hconclude
    exact absurd (congrArg Prod.fst hconclude).symm hsmooth.2

/-- If nothing goes wrong, the tracked mails are turned into what the event says. -/
theorem perform_turns {spool spool' : Spool σ} {step : SpoolStep} {event : SpoolEvent}
    (h : Consistent holds ledger spool.queue)
    (hperform : spooler.perform step spool = (event, spool')) (hsmooth : event.Smooth)
    (hdrawn : event.drawn.Nodup)
    (hnew : ∀ id ∈ event.drawn, spool.queue.tracking.key? id = none) :
    ∃ before after, Lists holds spool.queue before ∧
      (∃ ledger', Consistent holds ledger' spool'.queue) ∧ Lists holds spool'.queue after ∧
      Turns before event after := by
  obtain ⟨now, call⟩ := step
  cases call with
  | submit submission content =>
      rcases hsubmit : Ingress.submit spooler.store submission content now spool with
        ⟨e | mail, accepting⟩
      · simp only [perform, hsubmit] at hperform
        cases hperform
        obtain ⟨hnext, hrefused, -⟩ := submit_lists hstore h hsubmit
        exact ⟨_, _, h.lists, hnext, hrefused e rfl, .idle _⟩
      · simp only [perform, hsubmit] at hperform
        cases hperform
        obtain ⟨hnext, -, haccepted⟩ := submit_lists hstore h hsubmit
        exact ⟨_, _, h.lists, hnext, haccepted mail rfl (hnew mail.id (by simp [SpoolEvent.drawn])),
          .accepted mail _⟩
  | pass =>
      rcases hdequeue : spool.queue.dequeue spooler.store now with ⟨answer, leased⟩
      obtain ⟨hkey, hsame, hleased⟩ := h.dequeue hstore.toLawful (fun _ => none) now hdequeue
      have hnext := h.of_same hkey hsame
      have hlists := h.lists.of_same hkey hsame
      simp only [perform, processNext, Spool.onQueue, hdequeue] at hperform
      rcases answer with e | none | mail
      · cases hperform
        exact ⟨_, _, h.lists, ⟨ledger, hnext⟩, hlists, .idle _⟩
      · cases hperform
        exact ⟨_, _, h.lists, ⟨ledger, hnext⟩, hlists, .idle _⟩
      · obtain ⟨hlease, hheld⟩ := hleased mail rfl
        obtain ⟨first, rest, hcensus⟩ := List.append_of_mem ((hlists.mem_iff mail).2 hheld)
        have hperm : (spool.queue.census holds).Perm (mail :: (first ++ rest)) := by
          rw [hcensus]
          exact List.perm_middle
        rcases hprocess :
          spooler.process mail now { spool with queue := leased } with ⟨ending, after⟩
        simp only [hprocess] at hperform
        cases hperform
        obtain ⟨mails, hafter, hturned⟩ :=
          spooler.process_turns hstore hregistry hvetted hapart hnext
          hlease (hlists.reorder hperm) hdrawn (fun id hid => by rw [hkey]; exact hnew id hid)
          hprocess hsmooth
        exact ⟨_, mails, h.lists.reorder hperm, hafter, hturned⟩
  | flush =>
      cases hperform
      have hkey := Tracking.key?_flush spool.queue.tracking
      exact ⟨_, _, h.lists, ⟨ledger, h.of_same hkey rfl⟩, h.lists.of_same hkey rfl, .idle _⟩
  | restart =>
      obtain ⟨keys, hrecover, -, hkey, hsame⟩ := h.reopen hstore.toLawful now
      simp only [perform, hrecover] at hperform
      cases hperform
      exact ⟨_, _, h.lists, ⟨ledger, h.of_same hkey hsame⟩, h.lists.of_same hkey hsame, .idle _⟩

/-- A step turns the tracked mails into what the event says. It keeps what is tracked and what is
stored in agreement, draws no id of a tracked mail, and leaves the ids that are drawn later
unused. -/
theorem perform_turned {spool spool' : Spool σ} {step : SpoolStep} {event : SpoolEvent}
    {later : List SpoolEvent} (h : Consistent holds ledger spool.queue)
    (hperform : spooler.perform step spool = (event, spool')) (hsmooth : event.Smooth)
    (hfresh : (drawnIn (event :: later)).Nodup)
    (hnew : ∀ id ∈ drawnIn (event :: later), spool.queue.tracking.key? id = none) :
    (∃ ledger', Consistent holds ledger' spool'.queue) ∧
      (∀ id ∈ drawnIn later, spool'.queue.tracking.key? id = none) ∧
      ∃ before after, (spool.queue.census holds).Perm before ∧
        (spool'.queue.census holds).Perm after ∧ Turns before event after ∧
        ∀ id ∈ event.drawn, id ∉ before.map Mail.id := by
  obtain ⟨hdrawn, -, happart⟩ := List.nodup_append.1 hfresh
  have hunused : ∀ id ∈ event.drawn, spool.queue.tracking.key? id = none :=
    fun id hid => hnew id (List.mem_append_left _ hid)
  obtain ⟨before, after, hbefore, ⟨ledger', hnext⟩, hafter, hturned⟩ :=
    spooler.perform_turns hstore hregistry hvetted hapart h hperform hsmooth hdrawn hunused
  refine ⟨⟨ledger', hnext⟩, ?_, before, after, h.lists.perm hbefore, hnext.lists.perm hafter,
    hturned, fun id hid hmem => (h.mem_ids hbefore id).1 hmem (hunused id hid)⟩
  intro id hid
  by_contra htracked
  rcases hturned.mem_ids ((hnext.mem_ids hafter id).2 htracked) with hold | hdrew
  · exact (h.mem_ids hbefore id).1 hold (hnew id (List.mem_append_right _ hid))
  · exact happart id hdrew id hid rfl

/-- A run in which nothing goes wrong turns the tracked mails into what its events say. -/
theorem performAll_turns {steps : List SpoolStep} {spool spool' : Spool σ}
    {events : List SpoolEvent} (h : Consistent holds ledger spool.queue)
    (hrun : spooler.performAll steps spool = (events, spool'))
    (hsmooth : ∀ event ∈ events, event.Smooth) (hfresh : (drawnIn events).Nodup)
    (hnew : ∀ id ∈ drawnIn events, spool.queue.tracking.key? id = none) :
    TurnsAll (spool.queue.census holds) events (spool'.queue.census holds) := by
  induction steps generalizing spool ledger events with
  | nil =>
      cases hrun
      exact .nil (.refl _)
  | cons step steps ih =>
      unfold performAll at hrun
      rcases hperform : spooler.perform step spool with ⟨event, next⟩
      rcases hrest : spooler.performAll steps next with ⟨later, final⟩
      simp only [hperform, hrest] at hrun
      cases hrun
      obtain ⟨⟨ledger', hnext⟩, hunused, before, after, hbefore, hafter, hturned, hout⟩ :=
        spooler.perform_turned hstore hregistry hvetted hapart h hperform
          (hsmooth event (List.mem_cons_self ..)) hfresh hnew
      have hlater := ih hnext hrest
        (fun other hother => hsmooth other (List.mem_cons_of_mem _ hother))
        (List.nodup_append.1 hfresh).2.1 hunused
      exact .cons hbefore hturned hout (hlater.reorder hafter.symm)

end Working

end Spooler

end Postroom
