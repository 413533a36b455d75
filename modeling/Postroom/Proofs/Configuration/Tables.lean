import Postroom.Server
import Postroom.Proofs.Chain.Independence
import Postroom.Proofs.Matcher.Builtin
import Postroom.Proofs.Spooler.Notification
import Postroom.Proofs.Spooler.Survival

/-!
Tables that a configuration builds. The standard catalogue builds built-in components only, and a
chain that it builds leaves failures to the chain of failed mail. So what holds of such chains and
of the tables that are built of them holds of every table, and every server, that is set up from a
configuration.
-/

namespace Postroom

namespace Chain

variable {host : Host} {config : ChainConfig} {chain : Chain}

theorem ofConfig_handlesErrors {catalogue : Catalogue} (h : ofConfig catalogue config = .ok chain) :
    chain.handlesErrors = false := by
  obtain ⟨stages, -, h⟩ := ok_of_bind h
  cases h
  rfl

/-- A configured chain has built-in components, if the mailbox stores that it delivers to judge each
recipient individually. -/
theorem ofConfig_stages (h : ofConfig (.standard host) config = .ok chain)
    (hstores : ∀ stage ∈ chain.stages, ∀ store, stage.mailet = .localDelivery store →
      store.Individual) : ∀ stage ∈ chain.stages, stage.IsBuiltin :=
  fun stage hstage => {
    matcher := ofConfig_matcher_isBuiltin h stage hstage
    mailet := ofConfig_isBuiltin h stage hstage
    store := hstores stage hstage }

/-- A configured chain keeps account of all recipients of a mail. -/
theorem ofConfig_accounts (h : ofConfig (.standard host) config = .ok chain) {mail : Mail}
    {pass pass' : Pass} {routed : List Mail} (hrun : chain.run mail pass = (.ok routed, pass')) :
    Accounts [mail] (chain.history mail pass) routed :=
  runPending_accounts (ofConfig_addsNobody h) _ _ _ (inside_start chain mail) hrun

/-- Where no component of a configured chain fails, the way of a recipient does not depend on who
else is on the mail. -/
theorem ofConfig_follows (h : ofConfig (.standard host) config = .ok chain)
    (hstores : ∀ stage ∈ chain.stages, ∀ store, stage.mailet = .localDelivery store →
      store.Individual) {mail : Mail} {pass pass' : Pass}
    (hsucceeds : ∀ visit ∈ chain.visits mail pass, visit.Succeeds) {r : Address}
    (hr : r ∈ mail.recipients) (hnotify : ∀ stage ∈ chain.stages, stage.mailet.CanNotify mail)
    (hnow : pass'.now = pass.now) :
    ∃ routed after, chain.run mail pass = (.ok routed, after) ∧
      chain.Follows r [⟨chain.stages, mail⟩] pass routed [⟨chain.stages, mail.only r⟩] [] pass' :=
  run_follows (ofConfig_stages h hstores) hsucceeds hr hnotify hnow

end Chain

namespace Registry

variable {host : Host} {configs : List ChainConfig} {states : Std.ExtTreeMap String String}
  {registry : Registry}

theorem ofConfig_isBuiltin (h : ofConfig (.standard host) configs states = .ok registry) :
    registry.IsBuiltin := by
  obtain ⟨chains, hchains, h⟩ := ok_of_bind h
  exact build_isBuiltin (forall_of_mapM (fun _ _ => Chain.ofConfig_isBuiltin) hchains) h

theorem ofConfig_vetted {catalogue : Catalogue}
    (h : ofConfig catalogue configs states = .ok registry) :
    registry.Vetted := by
  obtain ⟨chains, hchains, h⟩ := ok_of_bind h
  exact build_vetted (forall_of_mapM (fun _ _ => Chain.ofConfig_handlesErrors) hchains) h

/-- A pass through a configured table ends with mails to queue if the sender of its mail can be
notified, and otherwise it may panic. -/
theorem ofConfig_process_cases (h : ofConfig (.standard host) configs states = .ok registry)
    (mail : Mail) (pass : Pass) :
    (∃ routed, (registry.process mail pass).1 = .ok routed) ∨
      (registry.process mail pass).1 = .error (.halted .panicked) ∧
        ¬ (mail.sender = none ∨ mail.Datable pass.now) := by
  by_cases hmail : mail.sender = none ∨ mail.Datable pass.now
  · exact .inl ((ofConfig_isBuiltin h).process_survives (ofConfig_vetted h) hmail)
  · exact ((ofConfig_isBuiltin h).process_cases (ofConfig_vetted h) mail pass).imp_right
      fun hpanicked => ⟨hpanicked, hmail⟩

end Registry

namespace Spooler

open MailQueue (Consistent)

variable {σ : Type} {holds : σ → Holdings} {ledger : Ledger} {host : Host}
  {configs : List ChainConfig} {states : Std.ExtTreeMap String String}

section Configured

variable (spooler : Spooler σ)
  (hconfig : Registry.ofConfig (.standard host) configs states = .ok spooler.registry)

include hconfig

/-- Whatever fails while a configured server makes the pass of a leased mail, every recipient that
the pass did not handle is on a mail that is tracked afterwards. -/
theorem process_carries_of_config (hstore : spooler.store.Lawful holds) {mail : Mail}
    {key : RecordKey} {spool : Spool σ} (now : Instant)
    (hleased : spool.queue.Leases holds key mail)
    (hrecords : holds (spooler.run mail now none spool).2.queue.records =
      holds spool.queue.records)
    (hdrawn : (spooler.drawnIds mail now spool).Nodup)
    (hnew : ∀ id ∈ spooler.drawnIds mail now spool, spool.queue.Absent holds id) :
    ∀ r ∈ mail.recipients, ¬ spooler.registry.Handles mail (spooler.opening now spool) r →
      (spooler.process mail now spool).2.queue.Carries holds r := by
  obtain ⟨journal, -, hsettled⟩ :=
    spooler.process_settled hstore (Registry.ofConfig_addsNobody hconfig)
    now hleased hrecords hdrawn hnew
  exact fun r hr hunhandled => hsettled.carried r ⟨hr, hunhandled⟩

variable (hstore : spooler.store.Dependable holds) (hapart : spooler.LeavesRecords holds)
  {steps : List SpoolStep} {spool spool' : Spool σ} {events : List SpoolEvent}
  (hstart : Consistent holds ledger spool.queue)
  (hrun : spooler.performAll steps spool = (events, spool'))
  (hsmooth : ∀ event ∈ events, event.Smooth) (hfresh : (drawnIn events).Nodup)
  (hnew : ∀ id ∈ drawnIn events, spool.queue.tracking.key? id = none)

include hstore hapart hstart hrun hsmooth hfresh hnew

/-- The work of a configured server in which nothing goes wrong turns the tracked mails into what
its events say. -/
theorem performAll_turns_of_config :
    TurnsAll (spool.queue.census holds) events (spool'.queue.census holds) :=
  spooler.performAll_turns hstore (Registry.ofConfig_isBuiltin hconfig)
    (Registry.ofConfig_vetted hconfig) hapart hstart hrun hsmooth hfresh hnew

/-- At a configured server in whose work nothing goes wrong, each recipient of a mail that it
accepted is accounted for in one way, once. -/
theorem performAll_once_of_config {before later : List SpoolEvent} {mail : Mail}
    (hsplit : events = before ++ .accepted mail :: later) {delivered : List Attempt}
    (hbooked : Booked (Fate.since mail.id later).history delivered) {r : Address}
    (hr : r ∈ mail.recipients) :
    (Fate.since mail.id later).Once delivered r (spool'.queue.census holds) := by
  have hturned := spooler.performAll_turns_of_config hconfig hstore hapart hstart hrun hsmooth
    hfresh hnew
  rw [hsplit] at hturned hfresh
  exact hturned.once_of_accepted hfresh hbooked hr

/-- A configured server in whose work nothing goes wrong sends no more notifications than there are
recipients of mails with a sender. -/
theorem performAll_spent_of_config :
    (sentIn events).length ≤ credit (spool.queue.census holds ++ submittedIn events) := by
  have hspent := (spooler.performAll_turns_of_config hconfig hstore hapart hstart hrun hsmooth
    hfresh hnew).spent
  rw [credit_append]
  omega

end Configured

end Spooler

namespace Server

theorem ok_of_mapError {ε ε' α : Type} {wrap : ε → ε'} {answer : Except ε α} {a : α}
    (h : answer.mapError wrap = .ok a) : answer = .ok a := by
  cases answer with
  | error e => cases h
  | ok b =>
      cases h
      rfl

/-- The table of a server without components of the host is the one that its configuration builds
from the standard catalogue. -/
theorem ofConfig_registry {config : Configuration} {mailboxes : Option MailboxStore}
    {processors : Nat} {ids : IdSupply} {world : World} {now : Instant} {server : Server}
    {spool : Spool Vault}
    (h : ofConfig config mailboxes id processors ids world now = .ok (server, spool)) :
    Registry.ofConfig (.standard ⟨config.localDomains.map Domain.mk, mailboxes⟩) config.chains
      config.states = .ok server.spooler.registry := by
  obtain ⟨registry, hregistry, h⟩ := ok_of_bind h
  obtain ⟨vault, -, h⟩ := ok_of_bind h
  obtain ⟨opened, -, h⟩ := ok_of_bind h
  cases h
  exact ok_of_mapError hregistry

/-- However such a server is asked to process a mail, it processes it or it panics, and it panics
only over a mail whose sender it cannot notify. -/
theorem ofConfig_process_cases {config : Configuration} {mailboxes : Option MailboxStore}
    {processors : Nat} {ids : IdSupply} {world : World} {now : Instant} {server : Server}
    {spool : Spool Vault}
    (h : ofConfig config mailboxes id processors ids world now = .ok (server, spool)) (mail : Mail)
    (pass : Pass) :
    (∃ routed, (server.spooler.registry.process mail pass).1 = .ok routed) ∨
      (server.spooler.registry.process mail pass).1 = .error (.halted .panicked) ∧
        ¬ (mail.sender = none ∨ mail.Datable pass.now) :=
  Registry.ofConfig_process_cases (ofConfig_registry h) mail pass

end Server

end Postroom
