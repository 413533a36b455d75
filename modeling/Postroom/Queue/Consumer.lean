import Postroom.Queue

/-!
Consumers that wait for a mail. Whenever something happens to a queue they proceed as far as they
can, in the order in which they began to wait: each leases a mail that has become visible, or gets a
failure, or goes on waiting.
-/

namespace Postroom

inductive Consumer where
  | waiting
  | answered (result : Except QueueError Mail)

namespace Consumer

variable {σ : Type}

/-- Let a consumer proceed as far as it can. -/
def proceed (store : RecordStore σ) (now : Instant) (consumer : Consumer) (queue : MailQueue σ) :
    Consumer × MailQueue σ :=
  match consumer with
  | .answered result => (.answered result, queue)
  | .waiting =>
      match queue.dequeue store now with
      | (.error e, queue) => (.answered (.error e), queue)
      | (.ok none, queue) => (.waiting, queue)
      | (.ok (some mail), queue) => (.answered (.ok mail), queue)

/-- Let named consumers proceed, one after the other. -/
def proceedAll (store : RecordStore σ) (now : Instant) :
    List (String × Consumer) → MailQueue σ → List (String × Consumer) × MailQueue σ
  | [], queue => ([], queue)
  | (name, consumer) :: rest, queue =>
      let (consumer, queue) := consumer.proceed store now queue
      let (rest, queue) := proceedAll store now rest queue
      ((name, consumer) :: rest, queue)

/-- Give up waiting. A lease that the consumer holds is rolled back. -/
def cancel (now : Instant) (consumer : Consumer) (queue : MailQueue σ) : MailQueue σ :=
  match consumer with
  | .answered (.ok mail) => queue.rollBack mail.id now
  | _ => queue

end Consumer

end Postroom
