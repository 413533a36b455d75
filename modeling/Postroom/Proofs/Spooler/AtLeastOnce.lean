import Postroom.Proofs.Queue.Census
import Postroom.Proofs.Registry.Routing
import Postroom.Proofs.Spooler.Handover
import Postroom.Proofs.Spooler.Shadow

/-!
Mail is processed at least once. Whatever fails during a pass, each recipient that the pass did not
handle is on a mail that is tracked afterwards; and if the server crashes on the way, it is on one
that is tracked after the next start.
-/

namespace Postroom

/-- Whether a mail is leased and has one record, which is the one that it was leased from. -/
structure MailQueue.Leases {σ : Type} (holds : σ → Holdings) (queue : MailQueue σ) (key : RecordKey)
    (mail : Mail) : Prop where
  leased : queue.tracking.leaseOf? mail.id ≠ none
  tracked : queue.tracking.key? mail.id = some key
  own : key.id = mail.id
  recorded : holds queue.records key = some (.ok mail)
  single : ∀ k, k.id = mail.id → k ≠ key → holds queue.records k = none

namespace Spooler

open RecordStore (current)

variable {σ : Type} {holds : σ → Holdings}

/-- The pass that a leased mail is given, at its start. -/
def opening (spooler : Spooler σ) (now : Instant) (spool : Spool σ) : Pass :=
  .start now spool.ids spooler.localDomains (spool.currentWorld spooler.store) none

/-- The ids that a pass draws: those of the branches that it splits off and those of the mails that
it sends. -/
def drawnIds (spooler : Spooler σ) (mail : Mail) (now : Instant) (spool : Spool σ) : List MailId :=
  forkIds (spooler.registry.history mail (spooler.opening now spool)) ++
    (spooler.registry.process mail (spooler.opening now spool)).2.outgoing.map Mail.id

/-- The mails that come out of a pass can be handed over, with every recipient that the pass did not
handle on one of them. -/
theorem handover_presented {registry : Registry} (hregistry : registry.AddsNobody) {mail : Mail}
    {pass pass' : Pass} {routed : List Mail} (h : registry.process mail pass = (.ok routed, pass'))
    {queue : MailQueue σ}
    (hdrawn : (mail.id :: (forkIds (registry.history mail pass) ++
      pass'.outgoing.map Mail.id)).Nodup)
    (hnew : ∀ id ∈ forkIds (registry.history mail pass) ++ pass'.outgoing.map Mail.id,
      queue.Absent holds id) :
    Presented holds (fun r => r ∈ mail.recipients ∧ ¬ registry.Handles mail pass r) mail queue
      (routed.filter (·.id ≠ mail.id) ++ pass'.outgoing) (routed.filter (·.id = mail.id)) := by
  have haccounts := Registry.process_accounts hregistry h
  have hids := haccounts.nodup_ids_append hdrawn
  have hbranch : ∀ m ∈ routed.filter (·.id ≠ mail.id),
      m.id ∈ forkIds (registry.history mail pass) := by
    intro m hm
    obtain ⟨hm, hne⟩ := List.mem_filter.1 hm
    exact (haccounts.id_of_singleton hm).resolve_left (by simpa using hne)
  have hrouted : (routed.map Mail.id).Nodup := by
    rw [List.map_append] at hids
    exact hids.of_append_left
  refine ⟨?_, ?_, filter_cases_of_nodup_map hrouted mail.id, ?_⟩
  · exact hids.sublist ((List.filter_sublist.append_right _).map _)
  · intro m hm
    rcases List.mem_append.1 hm with hm | hm
    · exact hnew _ (List.mem_append_left _ (hbranch m hm))
    · exact hnew _ (List.mem_append_right _ (List.mem_map_of_mem hm))
  · rintro r ⟨hr, hunhandled⟩
    obtain ⟨m, hm, hrm⟩ := Registry.process_covers hregistry h hr hunhandled
    refine ⟨m, ?_, hrm⟩
    by_cases hid : m.id = mail.id
    · exact List.mem_append_right _ (List.mem_filter.2 ⟨hm, by simpa using hid⟩)
    · exact List.mem_append_left _
        (List.mem_append_left _ (List.mem_filter.2 ⟨hm, by simpa using hid⟩))

section Beginning

variable (spooler : Spooler σ) {mail : Mail} {key : RecordKey} {spool : Spool σ} (now : Instant)
  (hleased : spool.queue.Leases holds key mail)
  (hrecords : holds (spooler.run mail now none spool).2.queue.records = holds spool.queue.records)

include hleased hrecords

/-- Behind the run of a leased mail through its chain, the mail is still as it was leased. -/
theorem run_underway {wanted : Address → Prop} (hwanted : ∀ r, wanted r → r ∈ mail.recipients) :
    Underway holds wanted mail key []
      ((spooler.run mail now none spool).2.queue.journaled [spool.queue.records]) := by
  have hversions : (holds spool.queue.records).Versions key mail mail :=
    ⟨hleased.recorded, fun k hk hne => .inl (hleased.single k (hk.trans hleased.own) hne)⟩
  refine ⟨hleased.own, ⟨?_, ?_⟩, by simp, ?_⟩
  · rw [hleased.own]
    exact hleased.tracked
  · show (holds (spooler.run mail now none spool).2.queue.records).Versions key mail mail
    rw [hrecords]
    exact hversions
  · intro past hpast r hr
    rw [List.mem_singleton.1 hpast]
    exact hversions.saves (hwanted r hr) (hwanted r hr)

/-- What comes out of the run of a leased mail can be handed over. -/
theorem run_presented (hregistry : spooler.registry.AddsNobody)
    (hdrawn : (spooler.drawnIds mail now spool).Nodup)
    (hnew : ∀ id ∈ spooler.drawnIds mail now spool, spool.queue.Absent holds id)
    {mails : List Mail} (hmails : (spooler.run mail now none spool).1.result = .ok mails) :
    ∃ others originals, mails = others ++ originals ∧
      Presented (current holds)
        (fun r => r ∈ mail.recipients ∧
          ¬ spooler.registry.Handles mail (spooler.opening now spool) r) mail
        ((spooler.run mail now none spool).2.queue.journaled [spool.queue.records])
        others originals := by
  have habsent : ∀ id ∈ spooler.drawnIds mail now spool,
      ((spooler.run mail now none spool).2.queue.journaled [spool.queue.records]).Absent
        (current holds) id := by
    intro id hid
    refine ⟨(hnew id hid).untracked, fun k hk => ?_⟩
    exact (congrFun hrecords k).trans ((hnew id hid).unrecorded k hk)
  have hout : mail.id ∉ spooler.drawnIds mail now spool := by
    intro hmem
    have huntracked := (hnew mail.id hmem).untracked
    rw [hleased.tracked] at huntracked
    cases huntracked
  have hresult : (spooler.run mail now none spool).1.result =
      (spooler.registry.process mail (spooler.opening now spool)).1.map fun routed =>
        handover mail.id routed
          (spooler.registry.process mail (spooler.opening now spool)).2.outgoing := rfl
  rw [hresult] at hmails
  unfold drawnIds at hdrawn habsent hout
  rcases hprocess : spooler.registry.process mail (spooler.opening now spool) with
    ⟨fault | routed, pass'⟩
  · rw [hprocess] at hmails
    cases hmails
  · rw [hprocess] at hmails hdrawn habsent hout
    cases hmails
    exact ⟨_, _, rfl, handover_presented hregistry hprocess
      (List.nodup_cons.2 ⟨hout, hdrawn⟩) habsent⟩

end Beginning

/-- However the pass of a leased mail ends, its lease does, and every recipient that the pass did
not handle is on a mail that is tracked then, and in every state that the records were in. -/
theorem process_settled (spooler : Spooler σ) (hstore : spooler.store.Lawful holds)
    (hregistry : spooler.registry.AddsNobody) {mail : Mail} {key : RecordKey} {spool : Spool σ}
    (now : Instant) (hleased : spool.queue.Leases holds key mail)
    (hrecords : holds (spooler.run mail now none spool).2.queue.records =
      holds spool.queue.records)
    (hdrawn : (spooler.drawnIds mail now spool).Nodup)
    (hnew : ∀ id ∈ spooler.drawnIds mail now spool, spool.queue.Absent holds id) :
    ∃ journal, spooler.journaled.process mail now (spool.journaled [spool.queue.records]) =
        ((spooler.process mail now spool).1, (spooler.process mail now spool).2.journaled journal) ∧
      Settled holds (fun r => r ∈ mail.recipients ∧
        ¬ spooler.registry.Handles mail (spooler.opening now spool) r) mail
        ((spooler.process mail now spool).2.queue.journaled journal) := by
  obtain ⟨journal, hjournaled⟩ :=
    spooler.process_journaled mail now spool [spool.queue.records]
  have hunderway : Underway holds
      (fun r => r ∈ mail.recipients ∧
        ¬ spooler.registry.Handles mail (spooler.opening now spool) r) mail key []
      ((spooler.run mail now none spool).2.queue.journaled [spool.queue.records]) :=
    spooler.run_underway now hleased hrecords fun r hr => hr.1
  have hleft : (spooler.run mail now none spool).1.leased = mail.id := rfl
  have hsettled := conclude_settled hstore hleft (fun r hr => hr.1) hunderway
    (fun _ => spooler.run_presented now hleased hrecords hregistry hdrawn hnew) now
  have hqueue : (conclude spooler.store.journaled (spooler.run mail now none spool).1 now
      ((spooler.run mail now none spool).2.queue.journaled [spool.queue.records])).2 =
        (spooler.process mail now spool).2.queue.journaled journal :=
    congrArg (fun answer => answer.2.queue) hjournaled
  rw [hqueue] at hsettled
  exact ⟨journal, hjournaled, hsettled⟩

/-- Whatever fails while a leased mail makes its pass, the lease ends, and every recipient that the
pass did not handle is carried on; so it is if the server crashes in any state the records were in,
and recovers. The mailets take nobody on and leave the records alone, and every id that is drawn is
new. -/
theorem process_at_least_once (spooler : Spooler σ) (hstore : spooler.store.Lawful holds)
    (hregistry : spooler.registry.AddsNobody) {mail : Mail} {key : RecordKey} {spool : Spool σ}
    (now : Instant) (hleased : spool.queue.Leases holds key mail)
    (hrecords : holds (spooler.run mail now none spool).2.queue.records =
      holds spool.queue.records)
    (hdrawn : (spooler.drawnIds mail now spool).Nodup)
    (hnew : ∀ id ∈ spooler.drawnIds mail now spool, spool.queue.Absent holds id) :
    ∃ ending spool' journal, spooler.process mail now spool = (ending, spool') ∧
      spooler.journaled.process mail now (spool.journaled [spool.queue.records]) =
        (ending, spool'.journaled journal) ∧
      spool'.queue.tracking.leaseOf? mail.id = none ∧
      ∀ r ∈ mail.recipients, ¬ spooler.registry.Handles mail (spooler.opening now spool) r →
        spool'.queue.Carries holds r ∧
        ∀ records ∈ journal, ∀ later, ∃ tracking records',
          MailQueue.recoverFrom spooler.store later records = (.ok tracking, records') ∧
          (⟨tracking, records'⟩ : MailQueue σ).Carries holds r := by
  obtain ⟨journal, hjournaled, hsettled⟩ :=
    spooler.process_settled hstore hregistry now hleased hrecords hdrawn hnew
  refine ⟨_, _, journal, rfl, hjournaled, hsettled.free, ?_⟩
  intro r hr hunhandled
  refine ⟨hsettled.carried r ⟨hr, hunhandled⟩, ?_⟩
  intro records hpast later
  exact MailQueue.recoverFrom_carries hstore (hsettled.past records hpast r ⟨hr, hunhandled⟩) later

end Spooler

namespace Spooler.Sample

def mail : Mail := Chain.Sample.mail

def key : RecordKey := .scheduled mail.id .epoch

/-- The chain of new mail, and one that drops what has failed. -/
def registry : Registry where
  chains := ((∅ : Std.ExtTreeMap String Chain).insert StateName.error
    { name := StateName.error, stages := [], handlesErrors := true }).insert
      StateName.default Chain.Sample.chain
  states := ∅

/-- A spooler over a memory store that refuses what it is told to refuse. -/
def spooler : Spooler (Memory × List Bool) where
  store := Memory.store.refusing .closed
  registry

/-- The mail is leased. Of the next two writes and deletions the second will be refused. -/
def spool : Spool (Memory × List Bool) where
  queue := {
    tracking := {
      entries := (∅ : Std.ExtTreeMap MailId Entry).insert mail.id ⟨key, 1, .leased none⟩
      ready := []
      delayed := ∅
      lastGeneration := 1
      closed := false }
    records := ((Memory.write key mail (.empty none)).2, [false, true]) }
  ids := .counting 1
  world := { disk := .empty }

theorem recordable_mail : (Record.encode mail).isOk = true := rfl

theorem holds_records (k : RecordKey) :
    Memory.holds spool.queue.records.1 k = if k = key then some (.ok mail) else none := by
  obtain ⟨written, hwrite⟩ :
      ∃ written, Memory.store.write key mail (.empty none) = (.ok (), written) :=
    Memory.reliable.write_recordable rfl recordable_mail
  have hput := congrFun (Memory.lawful.write_ok hwrite rfl) k
  have hrecords : spool.queue.records.1 = written := congrArg Prod.snd hwrite
  rw [hrecords, hput]
  rfl

theorem leases_spool : spool.queue.Leases (RecordStore.current Memory.holds) key mail where
  leased := by simp [spool, Tracking.leaseOf?]
  tracked := by simp [spool, Tracking.key?]
  own := rfl
  recorded := (holds_records key).trans (if_pos rfl)
  single k _ hne := (holds_records k).trans (if_neg hne)

theorem addsNobody_registry : registry.AddsNobody := by
  intro name chain hchain stage hstage
  simp only [registry, Std.ExtTreeMap.getElem?_insert] at hchain
  split at hchain
  · cases hchain
    exact (Chain.Sample.conduct_chain stage hstage).1
  · split at hchain
    · cases hchain
      cases hstage
    · simp at hchain

theorem drawnIds_spool :
    spooler.drawnIds mail .epoch spool = [.make .epoch 1, .make .epoch 2] := by
  decide +kernel

theorem absent_drawn {id : MailId} (h : id ∈ spooler.drawnIds mail .epoch spool) :
    spool.queue.Absent (RecordStore.current Memory.holds) id := by
  have hne : id ≠ mail.id := by
    rw [drawnIds_spool] at h
    simp only [List.mem_cons, List.not_mem_nil, or_false] at h
    rcases h with rfl | rfl <;> decide
  constructor
  · simp [spool, Tracking.key?, Ne.symm hne]
  · intro k hk
    refine (holds_records k).trans (if_neg ?_)
    rintro rfl
    exact hne hk.symm

/-- Of three recipients one is served, one is handed on and one is dropped, while the record of the
mail cannot be deleted. -/
theorem process_at_least_once_of_three :
    spool.queue.Leases (RecordStore.current Memory.holds) key mail ∧
      (spooler.drawnIds mail .epoch spool).Nodup ∧
      ∃ ending spool' journal, spooler.process mail .epoch spool = (ending, spool') ∧
        spooler.journaled.process mail .epoch (spool.journaled [spool.queue.records]) =
          (ending, spool'.journaled journal) ∧
        spool'.queue.tracking.leaseOf? mail.id = none ∧
        ∀ r ∈ mail.recipients, ¬ registry.Handles mail (spooler.opening .epoch spool) r →
          spool'.queue.Carries (RecordStore.current Memory.holds) r ∧
          ∀ records ∈ journal, ∀ later, ∃ tracking records',
            MailQueue.recoverFrom spooler.store later records = (.ok tracking, records') ∧
            (⟨tracking, records'⟩ : MailQueue _).Carries
              (RecordStore.current Memory.holds) r := by
  have hdrawn : (spooler.drawnIds mail .epoch spool).Nodup := by
    rw [drawnIds_spool]
    decide
  refine ⟨leases_spool, hdrawn, ?_⟩
  exact process_at_least_once spooler (Memory.lawful.refusing .closed) addsNobody_registry .epoch
    leases_spool rfl hdrawn fun id hid => absent_drawn hid

end Spooler.Sample

end Postroom
