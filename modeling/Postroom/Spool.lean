import Postroom.Mailet
import Postroom.Queue

/-!
The state of a running server: its queue, the ids it has still to hand out, and the world its
mailets act on.
-/

namespace Postroom

structure Spool (σ : Type) where
  queue : MailQueue σ
  ids : IdSupply
  world : World

namespace Spool

variable {σ : Type}

/-- The world at present. If the records are on a disk, mailboxes are on the same one. -/
def currentWorld (store : RecordStore σ) (spool : Spool σ) : World :=
  match store.disk? spool.queue.records with
  | some disk => { spool.world with disk }
  | none => spool.world

/-- Take over what a pass has left. -/
def afterPass (store : RecordStore σ) (pass : Pass) (spool : Spool σ) : Spool σ where
  queue := { spool.queue with records := store.onDisk pass.world.disk spool.queue.records }
  ids := pass.ids
  world := pass.world

/-- Replace the queue by what an operation on it leaves. -/
def onQueue {α : Type} (spool : Spool σ) (run : MailQueue σ → α × MailQueue σ) : α × Spool σ :=
  let (answer, queue) := run spool.queue
  (answer, { spool with queue })

end Spool

end Postroom
