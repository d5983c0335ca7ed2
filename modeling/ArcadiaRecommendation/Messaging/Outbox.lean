import ArcadiaRecommendation.Messaging.Record

/-! The relay half of the outbox. One dispatcher drains committed records in passes, one call to
the publisher at a time, and records are committed in between. -/
namespace ArcadiaRecommendation
variable {R : Type}

def OutboxRecord.isPending (record : OutboxRecord R) : Bool := record.publishedAt.isNone && !record.deadLettered

/-- A record as a unit of work commits it. No call has been made for it. -/
structure StagedRecord (R : Type) extends OutboxRecord R where
  unpublished : publishedAt = none
  unattempted : attempts = 0
  unscheduled : nextAttemptAt = none
  alive : deadLettered = false

abbrev OutboxTable (R : Type) := Table UUID (OutboxRecord R) fun record => record.id

/-- What comes of a call to the publisher. The jitter is what the random draw adds, in microseconds. -/
inductive PublishResult
  | sent
  | raised (error : String) (jitter : Nat)

def PublishResult.isSent : PublishResult → Bool
  | .sent => true
  | .raised _ _ => false

/-- Where the dispatcher reads and writes. The table leases what it hands out, in microseconds. -/
inductive OutboxStore
  | memory
  | sql (batchSize lease : Nat)

namespace OutboxStore

def ready (now : DateTime) (record : OutboxRecord R) : Bool :=
  record.isPending && record.nextAttemptAt.all fun at_ => at_.micros ≤ now.micros

def bound : OutboxStore → Nat → Nat
  | .memory, limit => limit
  | .sql batchSize _, limit => min limit batchSize

/-- Oldest first. The table leaves the order of equal times open, and takes the order of commits here. -/
def due (store : OutboxStore) (now : DateTime) (limit : Nat) (outbox : OutboxTable R) : List (OutboxRecord R) :=
  (sortedBy (fun first second => first.occurredAt.micros ≤ second.occurredAt.micros)
    (outbox.values.filter (ready now))).take (store.bound limit)

def leased (now : DateTime) (lease : Nat) (record : OutboxRecord R) : OutboxRecord R :=
  { record with nextAttemptAt := some ⟨now.micros + lease⟩ }

def handedOut (store : OutboxStore) (now : DateTime) (batch : List (OutboxRecord R)) (outbox : OutboxTable R) :
    OutboxTable R :=
  match store with
  | .memory => outbox
  | .sql _ lease => (batch.map (leased now lease)).foldl Table.upsert outbox

/-- `record_published` and `record_failure`. The memory store keeps the object itself. -/
def record (store : OutboxStore) (outbox : OutboxTable R) (result : PublishResult) (after : OutboxRecord R) :
    OutboxTable R :=
  match store with
  | .memory => outbox.upsert after
  | .sql _ _ =>
    match outbox.get after.id,result with
    | none,_ => outbox
    | some row,.sent => outbox.upsert
      { row with publishedAt := after.publishedAt, attempts := after.attempts, lastError := none }
    | some row,.raised _ _ => outbox.upsert
      { row with
        attempts := after.attempts
        lastError := after.lastError
        nextAttemptAt := after.nextAttemptAt
        deadLettered := after.deadLettered }

end OutboxStore

namespace OutboxDispatcher

def maxAttempts : Nat := 5

/-- `BASE_BACKOFF_SECONDS`, in microseconds. -/
def baseBackoff : Nat := 500000

def defaultBatchSize : Nat := 50

def backoff (attempts : Nat) : Nat := baseBackoff * 2^(attempts - 1)

def publish (record : OutboxRecord R) (now : DateTime) : PublishResult → OutboxRecord R
  | .sent => { record with attempts := record.attempts + 1, publishedAt := some now, lastError := none }
  | .raised error jitter =>
    let attempts := record.attempts + 1
    if maxAttempts ≤ attempts then { record with attempts, lastError := some error, deadLettered := true }
    else
      { record with
        attempts := attempts
        lastError := some error
        nextAttemptAt := some ⟨now.micros + backoff attempts + jitter⟩ }

theorem publish_dead (record : OutboxRecord R) (now : DateTime) (error : String) (jitter : Nat)
    (full : maxAttempts ≤ record.attempts + 1) : publish record now (.raised error jitter) =
      { record with attempts := record.attempts + 1, lastError := some error, deadLettered := true } :=
  if_pos full

theorem publish_again (record : OutboxRecord R) (now : DateTime) (error : String) (jitter : Nat)
    (short : ¬maxAttempts ≤ record.attempts + 1) : publish record now (.raised error jitter) =
      { record with
        attempts := record.attempts + 1
        lastError := some error
        nextAttemptAt := some ⟨now.micros + backoff (record.attempts + 1) + jitter⟩ } :=
  if_neg short

theorem publish_raised (record : OutboxRecord R) (now : DateTime) (error : String) (jitter : Nat) :
    (publish record now (.raised error jitter)).publishedAt = record.publishedAt ∧
      (publish record now (.raised error jitter)).attempts = record.attempts + 1 ∧
      (publish record now (.raised error jitter)).deadLettered =
        (decide (maxAttempts ≤ record.attempts + 1) || record.deadLettered) := by
  by_cases full : maxAttempts ≤ record.attempts + 1
  · rw [publish_dead record now error jitter full,decide_eq_true full]
    exact ⟨rfl,rfl,rfl⟩
  · rw [publish_again record now error jitter full,decide_eq_false full]
    exact ⟨rfl,rfl,rfl⟩

theorem publish_content (record : OutboxRecord R) (now : DateTime) (result : PublishResult) :
    (publish record now result).id = record.id ∧ (publish record now result).partitionKey = record.partitionKey ∧
      (publish record now result).occurredAt = record.occurredAt := by
  cases result with
  | sent => exact ⟨rfl,rfl,rfl⟩
  | raised error jitter =>
    by_cases full : maxAttempts ≤ record.attempts + 1
    · rw [publish_dead record now error jitter full]
      exact ⟨rfl,rfl,rfl⟩
    · rw [publish_again record now error jitter full]
      exact ⟨rfl,rfl,rfl⟩

end OutboxDispatcher

structure OutboxDispatcher where
  store : OutboxStore := .memory
  batchSize : Nat := OutboxDispatcher.defaultBatchSize

/-- One call to the publisher, in a pass that started at a time. -/
structure PublishCall (R : Type) where
  record : OutboxRecord R
  at_ : DateTime
  result : PublishResult

def PublishCall.succeeded (call : PublishCall R) : Bool := call.result.isSent

/-- The outbox, the pass under way, and every call made so far. -/
structure Relay (R : Type) where
  outbox : OutboxTable R := ∅
  now : DateTime := ⟨0⟩
  batch : List (OutboxRecord R) := []
  published : Nat := 0
  calls : List (PublishCall R) := []

inductive RelayMove (R : Type)
  | commit (record : StagedRecord R)
  /-- A pass starts, once the last one is through. -/
  | drain (now : DateTime)
  | publish (result : PublishResult)

namespace Relay

def after (dispatcher : OutboxDispatcher) (relay : Relay R) : RelayMove R → Relay R
  | .commit record => { relay with outbox := relay.outbox.upsert record.toOutboxRecord }
  | .drain now =>
    match relay.batch with
    | [] =>
      let batch := dispatcher.store.due now dispatcher.batchSize relay.outbox
      { relay with outbox := dispatcher.store.handedOut now batch relay.outbox, now, batch, published := 0 }
    | _ :: _ => relay
  | .publish result =>
    match relay.batch with
    | [] => relay
    | record :: rest =>
      let after := OutboxDispatcher.publish record relay.now result
      { relay with
        outbox := dispatcher.store.record relay.outbox result after
        batch := rest
        published := relay.published + if result.isSent then 1 else 0
        calls := relay.calls ++ [{ record, at_ := relay.now, result }] }

def run (dispatcher : OutboxDispatcher) (moves : List (RelayMove R)) : Relay R := moves.foldl (after dispatcher) {}

theorem run_append (dispatcher : OutboxDispatcher) (first second : List (RelayMove R)) :
    run dispatcher (first ++ second) = second.foldl (after dispatcher) (run dispatcher first) :=
  List.foldl_append

def callsOf (relay : Relay R) (id : UUID) : List (PublishCall R) := relay.calls.filter fun call => call.record.id = id

end Relay

namespace RelayMove

def committed : RelayMove R → Option UUID
  | .commit record => some record.id
  | .drain _ | .publish _ => none

def Distinct (moves : List (RelayMove R)) : Prop := (moves.filterMap committed).Nodup

end RelayMove

end ArcadiaRecommendation
