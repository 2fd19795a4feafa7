import TaxStamps.Library.Sessions
import TaxStamps.Models

/-!
# The outbox publisher

`publish_once` of `outbox_publisher.py` as the statements of a session: it locks
a batch of unpublished messages, sends them one by one and marks each in memory
once the broker acknowledged it; the marks are written with the commit. Other
sessions commit new messages meanwhile.

A row's identifier stands for its text as the key of a record, and the envelope
for its JSON text. A send that fails may or may not have reached the broker. A
crash is an abort of the session.
-/

namespace TaxStamps.Publisher

/-- A record on the broker. -/
structure Record where
  topic : PyStr
  key : Nat
  envelope : Value

/-- The committed messages, the records of the broker in the order in which it
took them, and the keys that it acknowledged. -/
structure Shared where
  outboxMessages : List OutboxMessage
  records : List Record
  acknowledged : List Nat

/-- A message with its identifier. -/
abbrev Message := Nat × OutboxMessage

/-- The number of messages that one round takes at most. -/
def batch : Nat := 100

/-- The messages with their identifiers. -/
def identified (rows : List OutboxMessage) : List Message :=
  rows.zipIdx.map (fun found => (found.2, found.1))

/-- `SELECT ... WHERE published_at IS NULL ORDER BY created_at LIMIT 100 FOR
UPDATE SKIP LOCKED`. The rows to skip are those that others have locked. -/
def selected (skips : Nat → Bool) (rows : List OutboxMessage) : List Message :=
  (((identified rows).filter (fun message =>
    message.2.publishedAt.isNone && !skips message.1)).insertionSort
      (fun left right => left.2.createdAt ≤ right.2.createdAt)).take batch

/-- The record of a message. -/
def recordOf (message : Message) : Record := ⟨message.2.topic, message.1, message.2.envelope⟩

/-- `msg.published_at = utcnow()` and `msg.attempts += 1`. -/
def mark (now : Datetime) (message : Message) : Message :=
  (message.1, { message.2 with publishedAt := some now, attempts := message.2.attempts + 1 })

/-- `UPDATE outbox_messages SET published_at, attempts WHERE id`. -/
def writeMark (rows : List OutboxMessage) (message : Message) : List OutboxMessage :=
  rows.modify message.1 (fun row =>
    { row with publishedAt := message.2.publishedAt, attempts := message.2.attempts })

/-- Where a session is: about to commit messages of its own, about to select, or
in the loop, with the messages that are left and those that are marked, and
possibly one that was sent and is not acknowledged. -/
inductive Session
  | storing (messages : List OutboxMessage)
  | polling
  | sending (pending marked : List Message)
  | awaiting (message : Message) (pending marked : List Message)

/-- The statements of a session. Sends fail only where they may. -/
inductive Acts (failing : Prop) (shared : Shared) : Session → Shared → Option Session → Prop
  | store {messages : List OutboxMessage} (new : ∀ message ∈ messages, message.publishedAt = none) :
      Acts failing shared (.storing messages)
        { shared with outboxMessages := shared.outboxMessages ++ messages } none
  | select (skips : Nat → Bool) :
      Acts failing shared .polling shared (some (.sending (selected skips shared.outboxMessages) []))
  | send {message : Message} {pending marked : List Message} :
      Acts failing shared (.sending (message :: pending) marked)
        { shared with records := shared.records ++ [recordOf message] }
        (some (.awaiting message pending marked))
  | acknowledge {message : Message} {pending marked : List Message} (now : Datetime) :
      Acts failing shared (.awaiting message pending marked)
        { shared with acknowledged := message.1 :: shared.acknowledged }
        (some (.sending pending (marked ++ [mark now message])))
  | commit {marked : List Message} :
      Acts failing shared (.sending [] marked)
        { shared with outboxMessages := marked.foldl writeMark shared.outboxMessages } none
  | refuse {message : Message} {pending marked : List Message} (fails : failing) :
      Acts failing shared (.sending (message :: pending) marked) shared none
  | lose {message : Message} {pending marked : List Message} (fails : failing) :
      Acts failing shared (.awaiting message pending marked) shared none

/-- The identifiers that a session has sent. -/
def Session.delivered : Session → List Nat
  | .sending _ marked => marked.map Prod.fst
  | .awaiting message _ marked => message.1 :: marked.map Prod.fst
  | _ => []

/-- The messages that a session is still to send. -/
def Session.pending : Session → List Message
  | .sending pending _ => pending
  | .awaiting _ pending _ => pending
  | _ => []

/-- The messages that a session marked. -/
def Session.marked : Session → List Message
  | .sending _ marked => marked
  | .awaiting _ _ marked => marked
  | _ => []

/-- The messages that a session is still to send or waits for. -/
def Session.unmarked : Session → List Message
  | .sending pending _ => pending
  | .awaiting message pending _ => message :: pending
  | _ => []

/-- A selected row stays locked to the end of the transaction. -/
def holds (session : Session) (id : Nat) : Prop :=
  id ∈ session.delivered ∨ id ∈ session.pending.map Prod.fst

/-- Any number of publishers, and of transactions that add messages. -/
def protocol (failing : Prop) : Sessions.Protocol Shared Session Nat where
  begins session := session = .polling ∨ ∃ messages, session = .storing messages
  acts := Acts failing
  holds := holds

/-- Nothing was stored or sent yet. -/
def Shared.empty : Shared := ⟨[], [], []⟩

end TaxStamps.Publisher
