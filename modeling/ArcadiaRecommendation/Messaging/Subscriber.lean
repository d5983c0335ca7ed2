import ArcadiaRecommendation.Messaging.Consumers

/-! The inbound half of the broker: decoding, retries and rerouting of one message, the loop over a
topic, and the tasks that a connection starts one by one. -/
namespace ArcadiaRecommendation

/-- What decoding an envelope may raise. -/
inductive DecodeFault
  /-- The value is not an object. -/
  | attributeError
  | valueError
  deriving DecidableEq

/-- One entry of the table of handlers, in the order of subscription. -/
structure Subscription (H : Type) where
  topic : String
  eventType : String
  handler : H

structure KafkaSubscriber (H : Type) where
  subscriptions : List (Subscription H)
  maxRetries : Nat := 3

variable {R H : Type}

/-- `{**entries, key: value}` -/
def Json.set (key : String) (value : Json R) : List (String × Json R) → List (String × Json R)
  | [] => [(key,value)]
  | entry :: rest => if entry.1 = key then (key,value) :: rest else entry :: set key value rest

namespace KafkaSubscriber

def retrySuffix : String := ".retry"

def dlqSuffix : String := ".dlq"

def target (topic : String) : String :=
  if retrySuffix.toList.isSuffixOf topic.toList then topic ++ dlqSuffix else topic ++ retrySuffix

/-- `str(envelope.get("event_type", ""))` -/
def eventTypeOf [Formats R] : Json R → String
  | .dict entries => (Json.lookup "event_type" entries).elim "" Json.text
  | _ => ""

/-- A field that is absent or null is replaced, and one that cannot be read raises. -/
def parsed {A : Type} [Formats R] (parse : String → Option A) (raw : Option (Json R)) (otherwise : A) :
    Except DecodeFault A :=
  match raw with
  | none => .ok otherwise
  | some raw =>
    match parse raw.text with
    | some value => .ok value
    | none => .error .valueError

/-- The fresh id and the clock stand in for what the message lacks. A correlation id is carried
along unread. -/
def recordFromEnvelope [Formats R] (envelope : Json R) (topic : String) (fresh : UUID) (now : DateTime) :
    Except DecodeFault (OutboxRecord R) :=
  match envelope with
  | .dict entries => do
    let eventId ← parsed (Formats.parseUuid R) (Json.field "event_id" entries) fresh
    let aggregateId ← parsed (Formats.parseUuid R) (Json.field "aggregate_id" entries) eventId
    let occurredAt ← parsed (Formats.fromisoformat R) (Json.field "occurred_at" entries) now
    return {
      id := eventId
      aggregateId := aggregateId
      aggregateType := (Json.lookup "aggregate_type" entries).elim "Unknown" Json.text
      eventType := eventTypeOf envelope
      payload := entries
      occurredAt := occurredAt
      topic := topic
      correlationId := (Json.field "correlation_id" entries).map Json.text }
  | _ => .error .attributeError

def handlersFor (subscriber : KafkaSubscriber H) (topic eventType : String) : List H :=
  (subscriber.subscriptions.filter fun entry => entry.topic = topic ∧ entry.eventType = eventType).map (·.handler)

def registered (topics : Topics) (maxRetries : Nat := 3) : KafkaSubscriber Consumer where
  subscriptions := (registerConsumers topics).map fun entry => ⟨entry.1,entry.2.1,entry.2.2⟩
  maxRetries := maxRetries

def topics (subscriber : KafkaSubscriber H) : List String :=
  (subscriber.subscriptions.map (·.topic)).eraseDups

/-- What is sent for a message whose attempts are exhausted. -/
def reroute (connected : Bool) (topic : String) (entries : List (String × Json R)) (error : String) :
    List (String × Json R) :=
  if connected then [(target topic,.dict (Json.set "error" (.str error) entries))] else []

/-- One attempt: the exception of the first handler to raise, if any does. -/
def attempt (handlers : List H) (raises : Nat → Option String) : Option String :=
  (List.range handlers.length).findSome? raises

/-- The exception of the last attempt, unless an attempt returned. -/
def exhausted (handlers : List H) (raises : Nat → Nat → Option String) : (number left : Nat) → Option String
  | _,0 => none
  | number,left + 1 =>
    match attempt handlers (raises number) with
    | none => none
    | some error => if left = 0 then some error else exhausted handlers raises (number + 1) left

end KafkaSubscriber

/-- One message of a topic, and what happens around it: the id and the time that decoding may take,
whether a producer is assigned, and what each handler does on each attempt. -/
structure Inbound (R : Type) where
  value : Json R
  fresh : UUID
  now : DateTime
  connected : Bool
  raises : Nat → Nat → Option String

namespace KafkaSubscriber
variable [Formats R]

/-- `_handle`: what it sends, or what it raises. -/
def handle (subscriber : KafkaSubscriber H) (topic : String) (message : Inbound R) :
    Except DecodeFault (List (String × Json R)) := do
  let record ← recordFromEnvelope message.value topic message.fresh message.now
  let handlers := subscriber.handlersFor topic record.eventType
  if handlers.isEmpty then return []
  match exhausted handlers message.raises 1 subscriber.maxRetries with
  | none => return []
  | some error => return reroute message.connected topic record.payload error

/-- `_run`: the messages whose offsets it committed, in order, and what ended it. -/
def consume (subscriber : KafkaSubscriber H) (topic : String) :
    List (Inbound R) → List (Inbound R) × Option DecodeFault
  | [] => ([],none)
  | message :: rest =>
    match subscriber.handle topic message with
    | .error fault => ([],some fault)
    | .ok _ =>
      let (committed,fault) := consume subscriber topic rest
      (message :: committed,fault)

end KafkaSubscriber

/-- One message as a consumer task received it. -/
structure KafkaDelivery (R : Type) where
  number : Nat
  topic : String
  value : Json R

/-- Where the task of one topic stands between two of its awaits. -/
inductive TaskPhase (R : Type)
  | waiting
  | calling (delivery : KafkaDelivery R) (record : OutboxRecord R) (attempt place : Nat)
  | sleeping (delivery : KafkaDelivery R) (record : OutboxRecord R) (attempt : Nat)
  | committing (delivery : KafkaDelivery R)
  | dead

structure ConsumerTask (R : Type) where
  topic : String
  phase : TaskPhase R := .waiting

/-- Where `_connect` stands. A connection that failed is tried again. -/
inductive Connection
  | down
  | startingProducer
  | startingConsumers (first : String) (rest : List String)
  | up

structure Subscribing (R : Type) where
  connection : Connection := .down
  /-- Whether `self._producer` is assigned. -/
  connected : Bool := false
  tasks : List (ConsumerTask R) := []
  fetched : Nat := 0
  returned : List (KafkaDelivery R) := []
  sent : List (KafkaDelivery R × String × Json R) := []
  committed : List (KafkaDelivery R) := []

inductive SubscriberMove (R : Type)
  /-- `start`, or a later attempt of `_retry_connect`. -/
  | connect
  | producerStarted (ok : Bool)
  | consumerStarted (ok : Bool)
  | fetch (place : Nat) (value : Json R) (fresh : UUID) (now : DateTime)
  /-- The handler that the task at a place awaits returns, or raises. -/
  | handler (place : Nat) (raised : Option String)
  | wake (place : Nat)
  | commit (place : Nat) (ok : Bool)

namespace Subscribing
variable [Formats R]

/-- The consumers that are still to be started. Without one the producer is assigned. -/
def starting (state : Subscribing R) : List String → Subscribing R
  | [] => { state with connection := .up, connected := true }
  | first :: rest => { state with connection := .startingConsumers first rest }

def setPhase (state : Subscribing R) (place : Nat) (task : ConsumerTask R) (phase : TaskPhase R) : Subscribing R :=
  { state with tasks := state.tasks.set place { task with phase } }

def received (subscriber : KafkaSubscriber H) (topic : String) (number : Nat) (value : Json R) (fresh : UUID)
    (now : DateTime) : TaskPhase R :=
  match KafkaSubscriber.recordFromEnvelope value topic fresh now with
  | .error _ => .dead
  | .ok record =>
    if (subscriber.handlersFor topic record.eventType).isEmpty ∨ subscriber.maxRetries = 0 then
      .committing ⟨number,topic,value⟩
    else .calling ⟨number,topic,value⟩ record 1 0

def after (subscriber : KafkaSubscriber H) (state : Subscribing R) : SubscriberMove R → Subscribing R
  | .connect =>
    match state.connection with
    | .down => { state with connection := .startingProducer }
    | .startingProducer | .startingConsumers _ _ | .up => state
  | .producerStarted ok =>
    match state.connection with
    | .startingProducer => if ok then state.starting subscriber.topics else { state with connection := .down }
    | .down | .startingConsumers _ _ | .up => state
  | .consumerStarted ok =>
    match state.connection with
    | .startingConsumers topic rest =>
      if ok then starting { state with tasks := state.tasks ++ [{ topic }] } rest
      else { state with connection := .down }
    | .down | .startingProducer | .up => state
  | .fetch place value fresh now =>
    match state.tasks[place]? with
    | some ⟨topic,.waiting⟩ =>
      { state.setPhase place ⟨topic,.waiting⟩ (received subscriber topic state.fetched value fresh now) with
        fetched := state.fetched + 1 }
    | _ => state
  | .handler place raised =>
    match state.tasks[place]? with
    | some ⟨topic,.calling delivery record attempt handler⟩ =>
      let task : ConsumerTask R := ⟨topic,.calling delivery record attempt handler⟩
      match raised with
      | none =>
        if handler + 1 < (subscriber.handlersFor topic record.eventType).length then
          state.setPhase place task (.calling delivery record attempt (handler + 1))
        else { state.setPhase place task (.committing delivery) with returned := state.returned ++ [delivery] }
      | some error =>
        if attempt = subscriber.maxRetries then
          { state.setPhase place task (.committing delivery) with
            sent := state.sent ++
              (KafkaSubscriber.reroute state.connected topic record.payload error).map fun send => (delivery,send) }
        else state.setPhase place task (.sleeping delivery record attempt)
    | _ => state
  | .wake place =>
    match state.tasks[place]? with
    | some ⟨topic,.sleeping delivery record attempt⟩ =>
      state.setPhase place ⟨topic,.sleeping delivery record attempt⟩ (.calling delivery record (attempt + 1) 0)
    | _ => state
  | .commit place ok =>
    match state.tasks[place]? with
    | some ⟨topic,.committing delivery⟩ =>
      if ok then
        { state.setPhase place ⟨topic,.committing delivery⟩ .waiting with committed := state.committed ++ [delivery] }
      else state.setPhase place ⟨topic,.committing delivery⟩ .dead
    | _ => state

def run (subscriber : KafkaSubscriber H) (moves : List (SubscriberMove R)) : Subscribing R :=
  moves.foldl (after subscriber) {}

end Subscribing

def deployedTopics : Topics := ⟨"game-events","purchase-events","review-events"⟩

/-- Parsers that accept no text, for runs in which none has to be read. -/
@[reducible] def Formats.unread : Formats ℚ where
  parseUuid _ := none
  fromisoformat _ := none
  display _ := ""

end ArcadiaRecommendation
