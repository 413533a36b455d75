import Postroom.Record.Key
import Std.Data.ExtTreeMap

/-!
What a queue knows of its mails without looking at their records: which are visible and in which
order, which become visible later, and which are leased. Every mail that is scheduled again gets a
new generation, and a position that carries an older one is stale: it stays where it is and is
skipped when it is met. A leased mail that is enqueued again keeps the time it asks for until the
lease is settled.
-/

namespace Postroom

inductive EntryStatus where
  | ready
  | delayed (due : Instant)
  /-- Held by a consumer. The time is that of an enqueue since. -/
  | leased (requeued : Option Instant)
  deriving DecidableEq

def EntryStatus.isLeased : EntryStatus → Bool
  | .leased _ => true
  | _ => false

structure Entry where
  key : RecordKey
  generation : Nat
  status : EntryStatus
  deriving DecidableEq

/-- A place among the visible or the delayed mails. -/
structure Position where
  id : MailId
  generation : Nat
  deriving DecidableEq

/-- Delayed positions are in the order of time and, at one time, of scheduling. -/
structure Due where
  time : Instant
  generation : Nat
  deriving DecidableEq

namespace Due

instance : Ord Due := ⟨compareLex (compareOn Due.time) (compareOn Due.generation)⟩

instance : Std.TransOrd Due :=
  inferInstanceAs (Std.TransCmp (compareLex (compareOn Due.time) (compareOn Due.generation)))

instance : Std.LawfulEqOrd Due where
  eq_of_compare {a b} h := by
    have h' : (compare a.time b.time).then (compare a.generation b.generation) = .eq := h
    rw [Ordering.then_eq_eq] at h'
    have ht := Std.LawfulEqOrd.eq_of_compare h'.1
    have hg := Std.LawfulEqOrd.eq_of_compare h'.2
    cases a; cases b; simp_all

end Due

structure Tracking where
  entries : Std.ExtTreeMap MailId Entry
  ready : List Position
  delayed : Std.ExtTreeMap Due Position
  lastGeneration : Nat
  closed : Bool

namespace Tracking

def empty : Tracking := ⟨∅, [], ∅, 0, false⟩

/-- Mails tracked: visible, delayed and leased. -/
def size (t : Tracking) : Nat :=
  t.entries.size

/-- Make a mail visible at `due`, or at once if that time has come. -/
def schedule (t : Tracking) (id : MailId) (due now : Instant) : Tracking :=
  let generation := t.lastGeneration + 1
  match t.entries[id]? with
  | none => { t with lastGeneration := generation }
  | some entry =>
      if due ≤ now then
        { t with
          entries := t.entries.insert id { entry with generation, status := .ready }
          ready := t.ready ++ [⟨id, generation⟩]
          lastGeneration := generation }
      else
        { t with
          entries := t.entries.insert id { entry with generation, status := .delayed due }
          delayed := t.delayed.insert ⟨due, generation⟩ ⟨id, generation⟩
          lastGeneration := generation }

/-- Put a mail back at the head of the visible ones. -/
def restore (t : Tracking) (id : MailId) : Tracking :=
  let generation := t.lastGeneration + 1
  match t.entries[id]? with
  | none => { t with lastGeneration := generation }
  | some entry =>
      { t with
        entries := t.entries.insert id { entry with generation, status := .ready }
        ready := ⟨id, generation⟩ :: t.ready
        lastGeneration := generation }

/-- A position counts if its mail was not scheduled since and is not leased. -/
def isCurrent (t : Tracking) (position : Position) : Bool :=
  match t.entries[position.id]? with
  | none => false
  | some entry => entry.generation == position.generation && !entry.status.isLeased

/-- Append a position to the visible ones, if it counts. -/
def promote (t : Tracking) (position : Position) : Tracking :=
  match t.entries[position.id]? with
  | none => t
  | some entry =>
      if t.isCurrent position then
        { t with
          entries := t.entries.insert position.id { entry with status := .ready }
          ready := t.ready ++ [position] }
      else t

/-- The delayed positions whose time has come, in order. -/
def dueAt (t : Tracking) (now : Instant) : List Position :=
  (t.delayed.toList.filter fun (due, _) => due.time ≤ now).map Prod.snd

/-- Make every mail visible whose time has come. -/
def promoteDue (t : Tracking) (now : Instant) : Tracking :=
  (t.dueAt now).foldl promote { t with delayed := t.delayed.filter fun due _ => now < due.time }

/-- Make every delayed mail visible, and count them. -/
def flush (t : Tracking) : Nat × Tracking :=
  let positions := t.delayed.toList.map Prod.snd
  ((positions.filter t.isCurrent).length, positions.foldl promote { t with delayed := ∅ })

/-- Lease the first visible mail. Stale positions before it are dropped. -/
def claim (t : Tracking) : Option (RecordKey × Tracking) :=
  match t.ready.dropWhile (!t.isCurrent ·) with
  | [] => none
  | position :: rest =>
      t.entries[position.id]?.map fun entry =>
        (entry.key,
          { t with
            entries := t.entries.insert position.id { entry with status := .leased none }
            ready := rest })

/-- When the next delayed position comes up. -/
def nextDue (t : Tracking) : Option Instant :=
  t.delayed.toList.head?.map fun (due, _) => due.time

/-- Start to track a mail that is not tracked. -/
def track (t : Tracking) (key : RecordKey) (due now : Instant) : Tracking :=
  schedule { t with entries := t.entries.insert key.id ⟨key, 0, .ready⟩ } key.id due now

/-- Take note that a mail was stored under `key`. A leased mail waits for its lease; another one is
scheduled anew. The answer is the key that is superseded, if there is one. -/
def register (t : Tracking) (key : RecordKey) (due now : Instant) : Option RecordKey × Tracking :=
  match t.entries[key.id]? with
  | none => (none, t.track key due now)
  | some entry =>
      let superseded := if entry.key = key then none else some entry.key
      if entry.status.isLeased then
        let entry := { entry with key, status := .leased (some due) }
        (superseded, { t with entries := t.entries.insert key.id entry })
      else
        let entry := { entry with key }
        (superseded, schedule { t with entries := t.entries.insert key.id entry } key.id due now)

/-- The time that an enqueue since the lease asked for; none if the mail is not leased. -/
def leaseOf? (t : Tracking) (id : MailId) : Option (Option Instant) :=
  match t.entries[id]? with
  | some ⟨_, _, .leased requeued⟩ => some requeued
  | _ => none

/-- End a lease without success: the mail is visible again at the head, unless it was enqueued
since. -/
def release (t : Tracking) (id : MailId) (now : Instant) : Tracking :=
  match t.leaseOf? id with
  | none => t
  | some (some due) => t.schedule id due now
  | some none => t.restore id

/-- Stop tracking a mail. -/
def forget (t : Tracking) (id : MailId) : Tracking :=
  { t with entries := t.entries.erase id }

/-- End a lease with success. The answer is the key whose record is to be deleted; a mail that was
enqueued since stays and has none. Nothing is answered for a mail that is not leased. -/
def acknowledge (t : Tracking) (id : MailId) (now : Instant) :
    Option (Option RecordKey × Tracking) :=
  match t.leaseOf? id with
  | none => none
  | some (some due) => some (none, t.schedule id due now)
  | some none => some (t.entries[id]?.map Entry.key, t.forget id)

def close (t : Tracking) : Tracking :=
  { t with closed := true }

theorem claim_ready_length {t t' : Tracking} {key : RecordKey} (h : t.claim = some (key, t')) :
    t'.ready.length < t.ready.length := by
  simp only [claim] at h
  split at h
  · cases h
  · rename_i position rest heq
    obtain ⟨entry, -, hmap⟩ := Option.map_eq_some_iff.1 h
    simp only [Prod.mk.injEq] at hmap
    have hle := (List.dropWhile_sublist (l := t.ready) (!t.isCurrent ·)).length_le
    rw [heq, List.length_cons] at hle
    rw [← hmap.2]
    exact hle

end Tracking

end Postroom
