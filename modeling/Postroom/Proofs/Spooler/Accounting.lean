import Postroom.Proofs.Spooler.Operation

/-!
Nobody is lost and nobody is served twice. A recipient of a submitted mail is on one tracked mail
that has come of it, until the mail is delivered to the recipient or its branch is disposed of; and
only one of these happens, once, however many passes the mail makes and however often the queue is
opened again.
-/

namespace Postroom

/-- Those of some mails that belong to a lineage. -/
def kin (lineage : List MailId) (mails : List Mail) : List Mail :=
  mails.filter fun mail => lineage.contains mail.id

section Kin

variable {lineage other : List MailId} {mails : List Mail}

theorem kin_append (lineage : List MailId) (xs ys : List Mail) :
    kin lineage (xs ++ ys) = kin lineage xs ++ kin lineage ys :=
  List.filter_append ..

theorem kin_congr (h : ∀ m ∈ mails, m.id ∈ lineage ↔ m.id ∈ other) :
    kin lineage mails = kin other mails :=
  List.filter_congr fun m hm => by simp [h m hm]

theorem kin_eq_self (h : ∀ m ∈ mails, m.id ∈ lineage) : kin lineage mails = mails :=
  List.filter_eq_self.2 fun m hm => by simp [h m hm]

theorem kin_eq_nil (h : ∀ m ∈ mails, m.id ∉ lineage) : kin lineage mails = [] :=
  List.filter_eq_nil_iff.2 fun m hm => by simp [h m hm]

end Kin

/-- What has become of a submitted mail. -/
structure Fate where
  /-- The ids of the mail and of the forks that descend from it. -/
  lineage : List MailId
  /-- What happened in the passes of the lineage, in order. -/
  history : List Incident

namespace Fate

variable {fate : Fate} {event : SpoolEvent}

/-- The fate of a mail that has just been submitted. -/
def start (id : MailId) : Fate := ⟨[id], []⟩

def after (fate : Fate) : SpoolEvent → Fate
  | .passed report =>
      if report.mail.id ∈ fate.lineage then
        ⟨fate.lineage ++ forkIds report.history, fate.history ++ report.history⟩
      else fate
  | _ => fate

/-- The fate of a mail after some events, from its submission on. -/
def since (id : MailId) (events : List SpoolEvent) : Fate :=
  events.foldl after (start id)

/-- On how many mails of the lineage a recipient is, and how often its way has ended otherwise. -/
def total (fate : Fate) (r : Address) (mails : List Mail) : Nat :=
  holders r (kin fate.lineage mails) + takings r fate.history

/-- Whether a recipient is accounted for in one way, once, where these are the calls in which
mailboxes took mail of the lineage: it is on one mail of the lineage, or there was one such call for
it, or one branch was disposed of with it. -/
def Once (fate : Fate) (delivered : List Attempt) (r : Address) (mails : List Mail) : Prop :=
  let held := holders r (kin fate.lineage mails)
  let taken := deliveries r delivered
  let disposed := disposals r fate.history
  (held = 1 ∧ taken = 0 ∧ disposed = 0) ∨ (held = 0 ∧ taken = 1 ∧ disposed = 0) ∨
    (held = 0 ∧ taken = 0 ∧ disposed = 1)

theorem once_iff {delivered : List Attempt} (hbooked : Booked fate.history delivered)
    (hbuiltin : ∀ incident ∈ fate.history, incident.OfBuiltin) (r : Address) (mails : List Mail) :
    fate.Once delivered r mails ↔ fate.total r mails = 1 := by
  have htakings := hbooked.takings_eq hbuiltin r
  unfold Once total
  omega

theorem total_perm (fate : Fate) (r : Address) {xs ys : List Mail} (h : xs.Perm ys) :
    fate.total r xs = fate.total r ys := by
  unfold total kin
  rw [holders_perm r (h.filter _)]

/-- A lineage grows by ids that are drawn. -/
theorem mem_lineage_after {id : MailId} (h : id ∈ (fate.after event).lineage) :
    id ∈ fate.lineage ∨ id ∈ event.drawn := by
  unfold after at h
  split at h
  · split at h
    · exact (List.mem_append.1 h).imp_right fun hfork => List.mem_append_left _ hfork
    · exact .inl h
  · exact .inl h

/-- If no id is drawn twice, ids that are drawn later stay out of a lineage. -/
theorem strange_after {later : List SpoolEvent} (hfresh : (Spooler.drawnIn (event :: later)).Nodup)
    (hstrange : ∀ id ∈ Spooler.drawnIn (event :: later), id ∉ fate.lineage) :
    ∀ id ∈ Spooler.drawnIn later, id ∉ (fate.after event).lineage := by
  intro id hid hmem
  rcases mem_lineage_after hmem with hold | hdrew
  · exact hstrange id (List.mem_append_right _ hid) hold
  · exact (List.nodup_append.1 hfresh).2.2 id hdrew id hid rfl

/-- Nobody leaves a lineage. -/
theorem lineage_subset_after : fate.lineage ⊆ (fate.after event).lineage := by
  unfold after
  split
  · split
    · exact List.subset_append_left ..
    · exact List.Subset.refl _
  · exact List.Subset.refl _

/-- An id is of its own lineage, whatever happens. -/
theorem mem_lineage_since (id : MailId) (events : List SpoolEvent) :
    id ∈ (since id events).lineage := by
  have hgrows : ∀ fate : Fate, id ∈ fate.lineage → id ∈ (events.foldl after fate).lineage := by
    induction events with
    | nil => exact fun fate hmem => hmem
    | cons event rest ih => exact fun fate hmem => ih _ (lineage_subset_after hmem)
  exact hgrows _ (List.mem_singleton.2 rfl)

end Fate

namespace Turns

variable {before after : List Mail} {event : SpoolEvent}

/-- Whatever happens to the tracked mails, a recipient of a lineage is accounted for as often as
before. -/
theorem total_eq (h : Turns before event after) (fate : Fate) (r : Address)
    (hdrawn : event.drawn.Nodup)
    (hnew : ∀ id ∈ event.drawn, id ∉ before.map Mail.id ∧ id ∉ fate.lineage) :
    (fate.after event).total r after = fate.total r before := by
  cases h with
  | idle => rfl
  | accepted mail =>
      have hout : kin fate.lineage [mail] = [] :=
        kin_eq_nil fun m hm => by
          rw [List.mem_singleton.1 hm]
          exact (hnew mail.id (List.mem_singleton.2 rfl)).2
      show fate.total r ([mail] ++ before) = fate.total r before
      rw [Fate.total, kin_append, hout, List.nil_append, Fate.total]
  | @passed report routed others ids balance =>
      obtain ⟨-, -, happart⟩ := List.nodup_append.1 hdrawn
      have hfork : ∀ id ∈ forkIds report.history,
          id ∉ (report.mail :: others).map Mail.id ∧ id ∉ fate.lineage :=
        fun id hid => hnew id (List.mem_append_left _ hid)
      have hsent : ∀ m ∈ report.sent, m.id ∉ fate.lineage ∧ m.id ∉ forkIds report.history := by
        intro m hm
        have hid := List.mem_map_of_mem (f := Mail.id) hm
        exact ⟨(hnew m.id (List.mem_append_right _ hid)).2, fun hmem => happart _ hmem _ hid rfl⟩
      have hbalance := balance r
      have hsplit : ∀ lineage, kin lineage (report.mail :: others) =
          kin lineage [report.mail] ++ kin lineage others :=
        fun lineage => kin_append lineage [report.mail] others
      unfold Fate.after Fate.total
      dsimp only
      split
      · rename_i hmem
        dsimp only
        -- the whole pass is in the family, but for the mails that were sent
        have hrouted : kin (fate.lineage ++ forkIds report.history) routed = routed :=
          kin_eq_self fun m hm => by
            rcases ids m hm with hsame | hforked
            · exact List.mem_append_left _ (hsame ▸ hmem)
            · exact List.mem_append_right _ hforked
        have hstrange : kin (fate.lineage ++ forkIds report.history) report.sent = [] :=
          kin_eq_nil fun m hm => by
            rw [List.mem_append, not_or]
            exact hsent m hm
        have hothers : kin (fate.lineage ++ forkIds report.history) others =
            kin fate.lineage others :=
          kin_congr fun m hm => by
            rw [List.mem_append, or_iff_left]
            intro hforked
            exact (hfork m.id hforked).1 (List.mem_cons_of_mem _ (List.mem_map_of_mem hm))
        have hleased : kin fate.lineage [report.mail] = [report.mail] :=
          kin_eq_self fun m hm => by rwa [List.mem_singleton.1 hm]
        rw [kin_append, kin_append, hrouted, hstrange, hothers, hsplit, hleased, List.append_nil,
          holders_append, holders_append, takings_append]
        omega
      · rename_i hmem
        -- nothing that comes out of the pass of a stranger is in the family
        have hrouted : kin fate.lineage routed = [] :=
          kin_eq_nil fun m hm => by
            rcases ids m hm with hsame | hforked
            · rwa [hsame]
            · exact (hfork m.id hforked).2
        have hstrange : kin fate.lineage report.sent = [] := kin_eq_nil fun m hm => (hsent m hm).1
        have hleased : kin fate.lineage [report.mail] = [] :=
          kin_eq_nil fun m hm => by rwa [List.mem_singleton.1 hm]
        rw [kin_append, kin_append, hrouted, hstrange, hsplit, hleased]
        rfl

/-- A mail that has just been submitted holds each of its recipients, and nothing else of its
lineage does. -/
theorem total_accepted {mail : Mail} (h : Turns before (.accepted mail) after)
    (hnew : mail.id ∉ before.map Mail.id) {r : Address} (hr : r ∈ mail.recipients) :
    (Fate.start mail.id).total r after = 1 := by
  cases h
  have hmail : kin [mail.id] [mail] = [mail] := kin_eq_self fun m hm => by
    rw [List.mem_singleton.1 hm]
    exact List.mem_singleton.2 rfl
  have hothers : kin [mail.id] before = [] := kin_eq_nil fun m hm hmem => by
    rw [← List.mem_singleton.1 hmem] at hnew
    exact hnew (List.mem_map_of_mem hm)
  show holders r (kin [mail.id] ([mail] ++ before)) + takings r [] = 1
  rw [kin_append, hmail, hothers, takings_nil]
  simp [holders, hr]

/-- What has happened to a lineage tells of built-in mailets only. -/
theorem history_ofBuiltin (h : Turns before event after) {fate : Fate}
    (hbuiltin : ∀ incident ∈ fate.history, incident.OfBuiltin) :
    ∀ incident ∈ (fate.after event).history, incident.OfBuiltin := by
  cases h with
  | idle => exact hbuiltin
  | accepted mail => exact hbuiltin
  | passed report others ids balance builtin =>
      intro incident hincident
      unfold Fate.after at hincident
      dsimp only at hincident
      split at hincident
      · rcases List.mem_append.1 hincident with hold | hnew
        · exact hbuiltin incident hold
        · exact builtin incident hnew
      · exact hbuiltin incident hincident

end Turns

namespace TurnsAll

open Spooler (drawnIn)

variable {before after : List Mail} {events : List SpoolEvent}

/-- However many events there are, a recipient of a lineage is accounted for as often as at
first. -/
theorem total_eq (h : TurnsAll before events after) (fate : Fate) (r : Address)
    (hfresh : (drawnIn events).Nodup) (hstrange : ∀ id ∈ drawnIn events, id ∉ fate.lineage) :
    (events.foldl Fate.after fate).total r after = fate.total r before := by
  induction h generalizing fate with
  | nil hperm => exact fate.total_perm r hperm.symm
  | @cons _ held event _ later _ hperm hturned hout _ ih =>
      obtain ⟨hdrawn, hlater, -⟩ := List.nodup_append.1 hfresh
      rw [fate.total_perm r hperm, ← hturned.total_eq fate r hdrawn fun id hid =>
        ⟨hout id hid, hstrange id (List.mem_append_left _ hid)⟩]
      exact ih (fate.after event) hlater (Fate.strange_after hfresh hstrange)

/-- Whatever happens to a lineage, it happens to it in built-in mailets. -/
theorem history_ofBuiltin (h : TurnsAll before events after) {fate : Fate}
    (hbuiltin : ∀ incident ∈ fate.history, incident.OfBuiltin) :
    ∀ incident ∈ (events.foldl Fate.after fate).history, incident.OfBuiltin := by
  induction h generalizing fate with
  | nil => exact hbuiltin
  | cons _ hturned _ _ ih => exact ih (hturned.history_ofBuiltin hbuiltin)

/-- Each recipient of a mail that was accepted on the way is accounted for once at the end. -/
theorem once_of_accepted {earlier later : List SpoolEvent} {mail : Mail}
    (h : TurnsAll before (earlier ++ .accepted mail :: later) after)
    (hfresh : (drawnIn (earlier ++ .accepted mail :: later)).Nodup) {delivered : List Attempt}
    (hbooked : Booked (Fate.since mail.id later).history delivered) {r : Address}
    (hr : r ∈ mail.recipients) : (Fate.since mail.id later).Once delivered r after := by
  rw [Spooler.drawnIn_append] at hfresh
  obtain ⟨-, hlater, happart⟩ := List.nodup_append.1 (List.nodup_append.1 hfresh).2.1
  obtain ⟨reached, held, left, -, -, hturned, hout, hrest⟩ := h.turns_of_append
  have hdrew : mail.id ∈ (SpoolEvent.accepted mail).drawn := List.mem_singleton.2 rfl
  have hbuiltin : ∀ incident ∈ (Fate.since mail.id later).history, incident.OfBuiltin :=
    hrest.history_ofBuiltin (by simp [Fate.start])
  rw [Fate.once_iff hbooked hbuiltin, ← hturned.total_accepted (hout mail.id hdrew) hr]
  refine hrest.total_eq (Fate.start mail.id) r hlater fun id hid hmem => ?_
  exact happart mail.id hdrew id hid (List.mem_singleton.1 hmem).symm

end TurnsAll

namespace Spooler

open MailQueue (Consistent)

variable {σ : Type} {holds : σ → Holdings} {ledger : Ledger}

/-- However long a server is at work in which nothing goes wrong, each recipient of each mail that
it accepted is accounted for in one way, once, at the end: so at every point, as every point is the
end of a shorter run. Who was delivered to is read off the ledgers of the local deliveries, which
tell of the calls that their mailboxes answered. The table is one that is built of built-in mailets,
these leave the records of the queue alone, and every id that is drawn is new. -/
theorem performAll_accounts_once (spooler : Spooler σ) (hstore : spooler.store.Dependable holds)
    (hapart : spooler.LeavesRecords holds) {chains : List Chain}
    {states : Std.ExtTreeMap String String}
    (hhandles : ∀ chain ∈ chains, chain.handlesErrors = false)
    (hbuiltin : ∀ chain ∈ chains, ∀ stage ∈ chain.stages, stage.mailet.IsBuiltin)
    (hbuild : Registry.build chains states = .ok spooler.registry)
    {steps : List SpoolStep} {spool spool' : Spool σ} {events : List SpoolEvent}
    (hstart : Consistent holds ledger spool.queue)
    (hrun : spooler.performAll steps spool = (events, spool'))
    (hsmooth : ∀ event ∈ events, event.Smooth) (hfresh : (drawnIn events).Nodup)
    (hnew : ∀ id ∈ drawnIn events, spool.queue.tracking.key? id = none)
    {before later : List SpoolEvent} {mail : Mail}
    (hsplit : events = before ++ .accepted mail :: later) :
    let fate := Fate.since mail.id later
    (∃ delivered, Booked fate.history delivered) ∧
      ∀ delivered, Booked fate.history delivered →
        ∀ r ∈ mail.recipients, fate.Once delivered r (spool'.queue.census holds) := by
  have hturned := spooler.performAll_turns hstore (Registry.build_isBuiltin hbuiltin hbuild)
    (Registry.build_vetted hhandles hbuild) hapart hstart hrun hsmooth hfresh hnew
  rw [hsplit] at hturned hfresh
  exact ⟨exists_booked _, fun delivered hbooked r hr => hturned.once_of_accepted hfresh hbooked hr⟩

end Spooler

namespace Spooler.Sample

open Chain.Sample (alice bob carol)

/-- A mailbox store that takes mail for nobody but alice, and notes what it takes. -/
def mailboxes : MailboxStore where
  deliver recipient mail world :=
    if recipient = alice then
      let delivery : Delivery := ⟨world.elapsed, recipient, mail.id, mail.content⟩
      (.ok (), { world with deliveries := world.deliveries ++ [delivery] })
    else (.error (.failed "no such mailbox"), world)

/-- A chain that delivers to alice and bob and drops everybody else, and one for failed mail. -/
def office : List Chain := [
  { name := StateName.default
    stages := [⟨.recipientsWhere "IsLocal" (· ∈ [alice, bob]), .localDelivery mailboxes⟩]
    fallthrough := .ghost },
  { name := StateName.error, stages := [⟨.all, .setAttribute "Undelivered" "yes"⟩] }]

theorem isBuiltin_office : ∀ chain ∈ office, ∀ stage ∈ chain.stages, stage.mailet.IsBuiltin := by
  intro chain hchain stage hstage
  simp only [office, List.mem_cons, List.not_mem_nil, or_false] at hchain
  rcases hchain with rfl | rfl
  · rw [List.mem_singleton.1 hstage]
    exact .localDelivery mailboxes
  · rw [List.mem_singleton.1 hstage]
    exact .setAttribute "Undelivered" "yes"

def officeRegistry : Registry :=
  match Registry.build office ∅ with
  | .ok registry => registry
  | .error _ => ⟨∅, ∅⟩

theorem build_office : Registry.build office ∅ = .ok officeRegistry := by
  have hok : (Registry.build office ∅).isOk = true := by decide +kernel
  unfold officeRegistry
  rcases hbuild : Registry.build office ∅ with e | registry
  · rw [hbuild] at hok
    cases hok
  · rfl

def postmaster : Spooler Memory where
  store := Memory.store
  registry := officeRegistry

def openSpool : Spool Memory where
  queue := ⟨.empty, .empty none⟩
  ids := .counting 1
  world := { disk := .empty }

/-- A mail is submitted and makes a pass, and the queue is opened again. -/
def workday : List SpoolStep := [
  ⟨.ofMillis 1, .submit { sender := none, recipients := .ofList [alice, bob, carol] } .empty⟩,
  ⟨.ofMillis 2, .pass⟩,
  ⟨.ofMillis 3, .restart⟩]

/-- Whether a mail for a recipient was accepted. -/
def accepts (r : Address) : SpoolEvent → Bool
  | .accepted mail => mail.recipients.contains r
  | _ => false

/-- On how many tracked mails of the lineage of the first mail a recipient is, and on how many
branches that were disposed of. -/
def standing (r : Address) : List SpoolEvent × Spool Memory → Nat × Nat
  | (.accepted mail :: later, spool) =>
      let fate := Fate.since mail.id later
      (holders r (kin fate.lineage (spool.queue.census Memory.holds)), disposals r fate.history)
  | _ => (0, 0)

/-- Alice has been delivered to, bob is on a mail that is tracked, and carol has been dropped. The
one delivery that the mailboxes have noted is that to alice. -/
theorem performAll_accounts_once_of_three :
    ∃ mail later spool' delivered,
      postmaster.performAll workday openSpool = (.accepted mail :: later, spool') ∧
      (∀ event ∈ SpoolEvent.accepted mail :: later, event.Smooth) ∧
      (drawnIn (.accepted mail :: later)).Nodup ∧ (∀ r ∈ [alice, bob, carol], r ∈ mail.recipients) ∧
      let fate := Fate.since mail.id later
      let held r := holders r (kin fate.lineage (spool'.queue.census Memory.holds))
      Booked fate.history delivered ∧
      (held alice = 0 ∧ deliveries alice delivered = 1 ∧ disposals alice fate.history = 0) ∧
      (held bob = 1 ∧ deliveries bob delivered = 0 ∧ disposals bob fate.history = 0) ∧
      (held carol = 0 ∧ deliveries carol delivered = 0 ∧ disposals carol fate.history = 1) ∧
      spool'.world.deliveries.map Delivery.recipient = [alice] := by
  obtain ⟨haccepted, hsmooth, hfresh, halice, hbob, hcarol, hnoted⟩ :
      let done := postmaster.performAll workday openSpool
      (∀ r ∈ [alice, bob, carol], done.1.head?.any (accepts r) = true) ∧
        (∀ event ∈ done.1, event.Smooth) ∧ (drawnIn done.1).Nodup ∧
        standing alice done = (0, 0) ∧ standing bob done = (1, 0) ∧ standing carol done = (0, 1) ∧
        done.2.world.deliveries.map Delivery.recipient = [alice] := by
    decide +kernel
  rcases hrun : postmaster.performAll workday openSpool with ⟨_ | ⟨_ | _ | _, later⟩, spool'⟩
  all_goals rw [hrun] at haccepted hsmooth hfresh halice hbob hcarol hnoted
  case cons.accepted mail =>
    have hrecipients : ∀ r ∈ [alice, bob, carol], r ∈ mail.recipients := haccepted
    have hnew : ∀ id ∈ drawnIn (.accepted mail :: later),
        openSpool.queue.tracking.key? id = none := by
      intro id _
      simp [openSpool, Tracking.key?, Tracking.empty]
    obtain ⟨⟨delivered, hbooked⟩, honce⟩ := performAll_accounts_once postmaster Memory.dependable
      (fun _ _ _ => rfl) (by decide) isBuiltin_office build_office (MailQueue.consistent_empty none)
      hrun hsmooth hfresh hnew (List.nil_append _).symm
    have honce := fun r hr => honce delivered hbooked r (hrecipients r hr)
    simp only [standing, Prod.mk.injEq] at halice hbob hcarol
    -- what is held and what was disposed of leave one way for each
    have htaken := honce alice (by simp)
    have hkept := honce bob (by simp)
    have hdropped := honce carol (by simp)
    unfold Fate.Once at htaken hkept hdropped
    dsimp only at htaken hkept hdropped
    refine ⟨mail, later, spool', delivered, rfl, hsmooth, hfresh, hrecipients, hbooked,
      ?_, ?_, ?_, hnoted⟩
    all_goals dsimp only; omega
  all_goals exact absurd (haccepted alice (by simp)) (by simp [accepts])

end Spooler.Sample

end Postroom
