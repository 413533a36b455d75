import Postroom.Proofs.Queue.Passing
import Postroom.Proofs.Store.Absence
import Postroom.Proofs.Store.Listing

/-!
Records that can never be read do not block a queue, and nothing else is lost with them. Over a
store in which nothing else is wrong, a call for a lease ends at the first visible mail that can be
read, or waits if there is none. Of the mails before that one the records are put aside, and all
others keep their places, their schedules and their records. No queue finds again what was put
aside, unless a directory holds files of the same record under other spellings of their names: those
are not put aside with it.
-/

namespace Postroom

namespace MailQueue

/-- To put records aside one after the other. -/
theorem setAside_putAside {vault : Vault} (h : vault.Sound) (keys : List RecordKey) :
    (setAside Vault.store keys vault).Sound ∧
      Vault.PutAside keys vault (setAside Vault.store keys vault) := by
  induction keys generalizing vault with
  | nil => exact ⟨h, h.putAside_nil⟩
  | cons key keys ih =>
      obtain ⟨hmiddle, hfirst⟩ := h.quarantine key
      obtain ⟨hfinal, hrest⟩ := ih hmiddle
      exact ⟨hfinal, hfirst.cons hrest⟩

/-- What has come of a queue when the first visible mails were passed over, as their records, under
these keys, can never be read. -/
structure Skips (keys : List RecordKey) (queue after : MailQueue Vault) : Prop
    extends Passes Vault.store keys queue after where
  unreadable : ∀ key ∈ keys, Unreadable Vault.store queue.records key
  aside : Vault.PutAside keys queue.records after.records
  /-- Of every other record the same is read as before. -/
  others : ∀ key, key ∉ keys →
    (Vault.store.read key after.records).1 = (Vault.store.read key queue.records).1
  /-- The store lists such a record again exactly if both its parts were there under other spellings
  of their names as well. -/
  relisted : ∀ key ∈ keys, ∃ listed, Vault.store.list after.records = (.ok listed, after.records) ∧
    (key ∈ listed ↔ queue.records.Respelled key)
  /-- If not, a queue that is opened later does not track it, whatever was asked of the store
  meanwhile, as long as nothing was written under its key. -/
  forgotten : ∀ key ∈ keys, ¬ queue.records.Respelled key →
    ∀ calls : List StoreCall, (∀ mail, .write key mail ∉ calls) →
      ∀ now tracking records,
        recoverFrom Vault.store now (after.records.after calls) = (.ok tracking, records) →
          ∀ id, tracking.key? id ≠ some key

theorem Passes.skips {keys : List RecordKey} {queue after : MailQueue Vault}
    (h : Passes Vault.store keys queue after) (hsound : queue.records.Sound)
    (hunreadable : ∀ key ∈ keys, Unreadable Vault.store queue.records key) :
    Skips keys queue after := by
  obtain ⟨hfinal, haside⟩ := setAside_putAside hsound keys
  rw [← h.records] at hfinal haside
  refine ⟨h, hunreadable, haside, fun key hkey => ?_, fun key hkey => haside.listed_iff hfinal hkey,
    fun key hkey honly calls hcalls now tracking records hrecover id htracked => ?_⟩
  · rw [h.records]
    exact read_setAside Vault.separate hsound.direct hkey
  · obtain ⟨-, listed, vault, hlist, hfound⟩ := recoverFrom_listed hrecover
    have hlacks : (after.records.after calls).Lacks key :=
      (haside.lacks hsound.direct hkey honly).after fun other mail hwrite heq =>
        hcalls mail (heq ▸ hwrite)
    exact hlacks.not_listed hlist (hfound id key htracked).1

/-- Over a store in which nothing is wrong but some of the records, a call for a lease passes over
the visible mails whose records can never be read, up to the first that can. That mail is leased. If
there is none, the consumer has to wait. -/
theorem Possible.dequeue_skips {queue : MailQueue Vault} (h : Possible Vault.store queue)
    (hsound : queue.records.Sound) (hopen : queue.tracking.closed = false) (now : Instant) :
    ∃ keys after, Skips keys (queue.promoted now) after ∧
      (after.tracking.plain.visible = [] ∧ queue.dequeue Vault.store now = (.ok none, after) ∨
        ∃ (key : RecordKey) (rest : List MailId) (mail : Mail) (tracking : Tracking),
          after.tracking.plain.visible = key.id :: rest ∧ after.tracking.key? key.id = some key ∧
          (Vault.store.read key queue.records).1 = .ok mail ∧
          queue.dequeue Vault.store now = (.ok (some mail), ⟨tracking, after.records⟩) ∧
          tracking.key? = after.tracking.key? ∧
          tracking.plain = { after.tracking.plain with
            visible := rest
            leased := after.tracking.plain.leased.insert key.id none }) := by
  obtain ⟨keys, after, hpasses, hunreadable, hends⟩ :=
    h.inOrder.dequeue_passes Vault.separate hsound.direct hopen now
  refine ⟨keys, after, hpasses.skips hsound hunreadable, ?_⟩
  generalize queue.dequeue Vault.store now = answer at hends
  cases hends with
  | waits hempty => exact .inl ⟨hempty, rfl⟩
  | leases hfront hkey hread hsame hplain horderly =>
      have hbefore := (hpasses.read_eq Vault.separate hsound.direct hkey).2
      exact .inr ⟨_, _, _, _, hfront, hkey, hbefore.symm.trans hread, rfl, hsame, hplain⟩
  | putsBack hfront hkey hread htransient hsame hplain horderly =>
      -- no read fails only for the time being
      have hbefore := (hpasses.read_eq Vault.separate hsound.direct hkey).2
      rw [hsound.read_lost (hbefore.symm.trans hread)] at htransient
      cases htransient

end MailQueue

namespace MailQueue.Sample

open QueueDirectory (nameOf plain_nameOf)
open QueueDirectory.Sample (spool blank folder_run_blank folder_fills capitalKey lowerCase
  plain_lowerCase read_lowerCase)
open Disk (FileStep)

/-- A queue with two mails that are visible. -/
def pair : MailQueue Vault :=
  (run Vault.store [⟨.epoch, .enqueue first 0⟩, ⟨.epoch, .enqueue second 0⟩]
    ⟨.empty, .memory (.empty none)⟩).2

theorem possible_pair : Possible Vault.store pair := by
  have hopen : recoverFrom Vault.store .epoch (.memory (.empty none)) =
      (.ok .empty, .memory (.empty none)) := rfl
  exact ((Possible.opened hopen).performed ⟨.epoch, .enqueue first 0⟩).performed
    ⟨.epoch, .enqueue second 0⟩

def firstKey : RecordKey := .scheduled first.id .epoch

def secondKey : RecordKey := .scheduled second.id .epoch

/-- The records of the two mails, the first with no object left in its file. -/
def fills : List FileStep :=
  [.fill (nameOf .placed firstKey .object) [],
   .fill (nameOf .placed firstKey .content) first.content.bytes,
   .fill (nameOf .placed secondKey .object) ((Record.encode second).toOption.getD []),
   .fill (nameOf .placed secondKey .content) second.content.bytes]

def damagedDisk : Disk :=
  (DiskStep.run blank (fills.map (FileStep.inside spool.path.components))).2

def damaged : MailQueue Vault :=
  { pair with records := .directory spool damagedDisk }

theorem direct_spool : spool.Direct :=
  QueueDirectory.direct_of_make (rfl : QueueDirectory.make spool.path true = .ok spool)

theorem folder_damaged : ∃ home, Disk.Folder damagedDisk spool.path.components home
    (FileStep.run (fun _ => none) fills).2 := by
  apply folder_run_blank
  have hname := plain_nameOf .placed
  simp [fills, FileStep.Of, hname]

theorem sound_damaged : damaged.records.Sound := by
  obtain ⟨home, hfolder⟩ := folder_damaged
  exact QueueDirectory.sound_of_folder hfolder direct_spool

theorem firstKey_ne : firstKey ≠ secondKey := by
  intro heq
  have hids : first.id ≠ second.id := by decide
  exact hids (congrArg RecordKey.id heq)

theorem find_damaged {home : Location}
    (hfolder : Disk.Folder damagedDisk spool.path.components home
      (FileStep.run (fun _ => none) fills).2) :
    (Vault.store.read firstKey damaged.records).1 = Record.decode firstKey [] first.content ∧
      (Vault.store.read secondKey damaged.records).1 =
        Record.decode secondKey ((Record.encode second).toOption.getD []) second.content := by
  have hfind := fun key => QueueDirectory.find_eq_mailAt hfolder key
  have hread : ∀ key, (Vault.store.read key damaged.records).1 = spool.find damagedDisk key :=
    fun _ => rfl
  rw [hread, hread, hfind, hfind]
  have hkeys := firstKey_ne
  simp [Parts.mailAt, Files.parts, fills, FileStep.run, FileStep.apply, Files.set, Files.nameOf_inj,
    hkeys]

theorem reads_damaged : Unreadable Vault.store damaged.records firstKey ∧
    (Vault.store.read secondKey damaged.records).1 = .ok second := by
  obtain ⟨home, hfolder⟩ := folder_damaged
  obtain ⟨hfirst, hsecond⟩ := find_damaged hfolder
  rw [Unreadable, hfirst, hsecond]
  exact ⟨⟨_, rfl, rfl⟩, rfl⟩

theorem once_damaged : ¬ damaged.records.Respelled firstKey := by
  intro hrespelled
  obtain ⟨name, hread, hname, hthere⟩ := hrespelled .object
  obtain ⟨home, hfolder⟩ := folder_damaged
  obtain rfl := Disk.locate_eq_self direct_spool hfolder.locate
  have hproper : (FileStep.run (fun _ => none) fills).2.Proper := by
    have hempty : Files.Proper fun _ => none := ⟨by simp, by simp⟩
    exact (((hempty.set ..).set ..).set ..).set ..
  have hfile : (FileStep.run (fun _ => none) fills).2 name ≠ none := by
    intro hnone
    rw [QueueDirectory.file, hfolder.entry, hnone] at hthere
    exact hthere rfl
  obtain ⟨k, p, rfl⟩ := hproper.canonical name hfile (by rw [hread]; rfl)
  rw [QueueDirectory.ofFileName?_nameOf (by decide), if_pos rfl] at hread
  cases hread
  exact hname rfl

theorem key?_damaged : (damaged.promoted .epoch).tracking.key? first.id = some firstKey ∧
    (damaged.promoted .epoch).tracking.key? second.id = some secondKey :=
  ⟨rfl, rfl⟩

/-- If any mail is passed over, it is the first one, and it alone: the second can be read. -/
theorem skipped_damaged {keys : List RecordKey} {after : MailQueue Vault}
    (h : Skips keys (damaged.promoted .epoch) after) (hne : keys ≠ []) : keys = [firstKey] := by
  have hvisible : [first.id, second.id] =
      keys.map RecordKey.id ++ after.tracking.plain.visible :=
    congrArg PlainQueue.visible h.plain
  obtain ⟨hfirst, hsecond⟩ := key?_damaged
  match keys with
  | [] => exact absurd rfl hne
  | [key] =>
      obtain ⟨hid, -⟩ := List.cons.inj hvisible
      have htracked := h.tracked key (List.mem_singleton_self key)
      rw [← hid, hfirst] at htracked
      rw [Option.some.inj htracked]
  | first :: key :: others =>
      obtain ⟨-, hrest⟩ := List.cons.inj hvisible
      obtain ⟨hid, -⟩ := List.cons.inj hrest
      have hmem : key ∈ first :: key :: others := by simp
      have htracked := h.tracked key hmem
      rw [← hid, hsecond] at htracked
      cases htracked
      obtain ⟨e, herror, -⟩ := h.unreadable _ hmem
      cases reads_damaged.2.symm.trans herror

/-- The damaged record of the first mail is put aside for good, and the second mail is leased. -/
theorem dequeue_skips_of_damaged : Possible Vault.store damaged ∧ damaged.records.Sound ∧
    damaged.tracking.closed = false ∧
    ∃ after tracking, Skips [firstKey] (damaged.promoted .epoch) after ∧
      damaged.dequeue Vault.store .epoch = (.ok (some second), ⟨tracking, after.records⟩) ∧
      tracking.key? first.id = none ∧ tracking.key? second.id = some secondKey ∧
      tracking.leaseOf? second.id = some none ∧ ¬ damaged.records.Respelled firstKey := by
  have hpossible := possible_pair.changed (.directory spool damagedDisk)
  refine ⟨hpossible, sound_damaged, rfl, ?_⟩
  obtain ⟨keys, after, hskips, hends⟩ := hpossible.dequeue_skips sound_damaged rfl .epoch
  have hvisible : [first.id, second.id] =
      keys.map RecordKey.id ++ after.tracking.plain.visible :=
    congrArg PlainQueue.visible hskips.plain
  have huntracked := hskips.untracked
  obtain ⟨hfirst, hsecond⟩ := key?_damaged
  obtain ⟨hlost, hread⟩ := reads_damaged
  have hne : keys ≠ [] := by
    -- or else the first mail would be leased, and it cannot be read
    rintro rfl
    rcases hends with ⟨hnone, -⟩ | ⟨key, rest, mail, tracking, hfront, hkey, hok, -⟩
    · rw [hnone] at hvisible
      cases hvisible
    · obtain ⟨hid, -⟩ := List.cons.inj (hvisible.trans hfront)
      rw [huntracked, ← hid] at hkey
      cases hfirst.symm.trans hkey
      obtain ⟨e, herror, -⟩ := hlost
      cases hok.symm.trans herror
  obtain rfl := skipped_damaged hskips hne
  obtain ⟨-, hrest⟩ := List.cons.inj hvisible
  have hsecondAfter : after.tracking.key? second.id = some secondKey := by
    rw [huntracked, if_neg (by decide)]
    exact hsecond
  rcases hends with ⟨hnone, -⟩ |
    ⟨key, rest, mail, tracking, hfront, hkey, hok, hlease, hsame, hplain⟩
  · rw [hnone] at hrest
    cases hrest
  · obtain ⟨hid, rfl⟩ := List.cons.inj (hrest.trans hfront)
    rw [← hid] at hkey
    obtain rfl := Option.some.inj (hsecondAfter.symm.trans hkey)
    cases hread.symm.trans hok
    refine ⟨after, tracking, hskips, hlease, ?_, ?_, ?_, once_damaged⟩
    · rw [hsame, huntracked, if_pos (by decide)]
    · rw [hsame, hsecondAfter]
    · rw [← Tracking.leased_plain, hplain]
      simp [secondKey, RecordKey.scheduled]

/-- The pair of a record of which no object is left, and a pair beside it whose names spell the same
key in another way. -/
def doubles : List String :=
  [capitalKey.fileName .object, capitalKey.fileName .content, lowerCase .object, lowerCase .content]

def doubled : Vault :=
  .directory spool (DiskStep.run blank
    ((doubles.map (FileStep.fill · [])).map (FileStep.inside spool.path.components))).2

/-- When the record becomes visible. -/
def due : Instant := .ofMillis 1700000000000

theorem fileName_mem_doubles (part : RecordPart) : capitalKey.fileName part ∈ doubles := by
  cases part <;> simp [doubles]

theorem lowerCase_mem_doubles (part : RecordPart) : lowerCase part ∈ doubles := by
  cases part <;> simp [doubles]

theorem read_doubles {name : String} (hname : name ∈ doubles) :
    ∃ part, RecordKey.ofFileName? name = some (capitalKey, part) := by
  have hplaced : ∀ part, RecordKey.ofFileName? (capitalKey.fileName part) =
    some (capitalKey, part) :=
    fun part => (QueueDirectory.ofFileName?_nameOf (show QueueDirectory.Mark.placed ≠ .temporary by
      decide) capitalKey part).trans (if_pos rfl)
  simp only [doubles, List.mem_cons, List.not_mem_nil, or_false] at hname
  rcases hname with rfl | rfl | rfl | rfl
  · exact ⟨_, hplaced _⟩
  · exact ⟨_, hplaced _⟩
  · exact ⟨_, (read_lowerCase _).1⟩
  · exact ⟨_, (read_lowerCase _).1⟩

theorem folder_doubled : ∃ disk home files, doubled = .directory spool disk ∧
    Disk.Folder disk spool.path.components home files ∧
    ∀ name, files name = if name ∈ doubles then some [] else none := by
  have hplain : ∀ name ∈ doubles, Disk.Plain name := by
    intro name hname
    simp only [doubles, List.mem_cons, List.not_mem_nil, or_false] at hname
    rcases hname with rfl | rfl | rfl | rfl
    · exact plain_nameOf .placed capitalKey .object
    · exact plain_nameOf .placed capitalKey .content
    · exact plain_lowerCase .object
    · exact plain_lowerCase .content
  obtain ⟨home, files, hfolder, hfiles⟩ := folder_fills hplain
  exact ⟨_, home, files, rfl, hfolder, hfiles⟩

theorem sound_doubled : doubled.Sound := by
  obtain ⟨disk, home, files, hdoubled, hfolder, -⟩ := folder_doubled
  rw [hdoubled]
  exact QueueDirectory.sound_of_folder hfolder direct_spool

/-- The object of the record is empty. -/
theorem read_doubled :
    ∃ e, Vault.store.read capitalKey doubled = (.error e, doubled) ∧ e.isTransient = false := by
  obtain ⟨disk, home, files, hdoubled, hfolder, hfiles⟩ := folder_doubled
  have hread : Vault.store.read capitalKey (.directory spool disk) =
      (spool.find disk capitalKey, .directory spool disk) := rfl
  have hparts : ∀ part, files.parts capitalKey part = some [] := by
    intro part
    exact (hfiles _).trans (if_pos (fileName_mem_doubles part))
  rw [hdoubled, hread, QueueDirectory.find_eq_mailAt hfolder, Parts.mailAt, hparts, hparts]
  exact ⟨_, rfl, rfl⟩

theorem respelled_doubled : doubled.Respelled capitalKey := by
  obtain ⟨disk, home, files, hdoubled, hfolder, hfiles⟩ := folder_doubled
  obtain rfl := Disk.locate_eq_self direct_spool hfolder.locate
  rw [hdoubled]
  intro part
  refine ⟨lowerCase part, (read_lowerCase part).1, (read_lowerCase part).2.1, ?_⟩
  rw [QueueDirectory.file, hfolder.entry, hfiles, if_pos (lowerCase_mem_doubles part)]
  simp

theorem lacks_doubled {key : RecordKey} (hne : key ≠ capitalKey) : doubled.Lacks key := by
  obtain ⟨disk, home, files, hdoubled, hfolder, hfiles⟩ := folder_doubled
  obtain rfl := Disk.locate_eq_self direct_spool hfolder.locate
  rw [hdoubled]
  refine ⟨.object, direct_spool, fun name hread => ?_⟩
  rw [QueueDirectory.file, hfolder.entry, hfiles, if_neg]
  · rfl
  · intro hname
    obtain ⟨part, hcapital⟩ := read_doubles hname
    cases hread.symm.trans hcapital
    exact hne rfl

theorem list_doubled : Vault.store.list doubled = (.ok [capitalKey], doubled) := by
  obtain ⟨disk, home, files, hdoubled, hfolder, -⟩ := folder_doubled
  obtain ⟨listed, hlist, hlisted⟩ := (QueueDirectory.sound_of_folder hfolder direct_spool).list_eq
  have hvault : Vault.store.list (.directory spool disk) = (.ok listed, .directory spool disk) := by
    have hfirst := congrArg Prod.fst hlist
    exact Prod.ext hfirst rfl
  have hmem : capitalKey ∈ listed := (hlisted capitalKey).2 fun part => by
    have hrespelled := respelled_doubled
    rw [hdoubled] at hrespelled
    obtain ⟨name, hread, -, hthere⟩ := hrespelled part
    exact ⟨name, hread, hthere⟩
  rw [← hdoubled] at hvault
  rw [hvault, sound_doubled.list_eq_singleton hvault hmem fun _ => lacks_doubled]

/-- A record that was put aside is tracked again if there are files of its id in lower case: they
are read as its own, and are not put aside. -/
theorem set_aside_tracked_again : ∃ queue after later : MailQueue Vault,
    recoverFrom Vault.store due doubled = (.ok queue.tracking, queue.records) ∧
    queue.tracking.key? capitalKey.id = some capitalKey ∧
    Unreadable Vault.store queue.records capitalKey ∧
    queue.dequeue Vault.store due = (.ok none, after) ∧
    queue.records.PutAside [capitalKey] after.records ∧
    after.tracking.key? capitalKey.id = none ∧
    recoverFrom Vault.store due after.records = (.ok later.tracking, later.records) ∧
    later.tracking.key? capitalKey.id = some capitalKey := by
  obtain ⟨haside, hlist⟩ := sound_doubled.quarantine_listed respelled_doubled fun _ => lacks_doubled
  generalize hquarantine : (Vault.store.quarantine capitalKey doubled).2 = aside at haside hlist
  obtain ⟨e, hread, htransient⟩ := read_doubled
  have hkey : (recover [capitalKey] due).key? capitalKey.id = some capitalKey := rfl
  obtain ⟨tracking, hclaim, hnext, hforgotten⟩ : ∃ tracking,
      ((recover [capitalKey] due).promoteDue due).claim = some (capitalKey, tracking) ∧
        (tracking.forget capitalKey.id).claim = none ∧
        (tracking.forget capitalKey.id).key? capitalKey.id = none := ⟨_, rfl, rfl, rfl⟩
  have hdequeue : dequeue Vault.store due ⟨recover [capitalKey] due, doubled⟩ =
      (.ok none, ⟨tracking.forget capitalKey.id, aside⟩) := by
    have hopen : (recover [capitalKey] due).closed = false := rfl
    rw [dequeue, hopen, if_neg (by simp), leaseNext_of_some hclaim, hread]
    simp only [htransient, Bool.false_eq_true, if_false]
    rw [hquarantine]
    exact leaseNext_of_none hnext
  exact ⟨⟨_, doubled⟩, _, ⟨_, aside⟩, recoverFrom_singleton list_doubled due, hkey,
    ⟨e, congrArg Prod.fst hread, htransient⟩, hdequeue, haside, hforgotten,
    recoverFrom_singleton hlist due, hkey⟩

end MailQueue.Sample

end Postroom
