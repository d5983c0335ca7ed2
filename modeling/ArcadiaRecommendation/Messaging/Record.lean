import ArcadiaRecommendation.Domain.Recommendation
import ArcadiaRecommendation.Foundation.Dict

/-! Messages as the broker and the in-process bus carry them. -/
namespace ArcadiaRecommendation

/-- A decoded JSON value. The keys of an object are distinct, as in any dictionary. -/
inductive Json (R : Type)
  | null
  | bool (value : Bool)
  | int (value : Int)
  | float (value : R)
  | str (value : String)
  | list (items : List (Json R))
  | dict (entries : List (String × Json R))

/-- One event staged for publication, or one delivered message. -/
structure OutboxRecord (R : Type) where
  id : UUID
  aggregateId : UUID
  aggregateType : String
  eventType : String
  payload : List (String × Json R)
  occurredAt : DateTime
  topic : String := "reco-events"
  partitionKey : String := ""
  correlationId : Option String := none
  publishedAt : Option DateTime := none
  attempts : Nat := 0
  lastError : Option String := none
  nextAttemptAt : Option DateTime := none
  deadLettered : Bool := false

variable {R : Type}

/-- `entries.get(key)` -/
def Json.lookup (key : String) : List (String × Json R) → Option (Json R)
  | [] => none
  | entry :: rest => if entry.1 = key then some entry.2 else lookup key rest

namespace Serialization

def producer : String := "recommendation-service"

def schemaVersion : Int := 1

def itemPayload (item : GeneratedItem R) : Json R :=
  .dict [("game_id",.str item.gameId),("score",.float item.score),("source",.str item.source),
    ("rank",.int item.rank)]

def eventPayload (isoformat : DateTime → String) (event : RecommendationGenerated R) : List (String × Json R) :=
  [("user_id",.str event.userId.str),("generated_at",.str (isoformat event.generatedAt)),
    ("items",.list (event.items.map itemPayload))]

def eventEnvelope (isoformat : DateTime → String) (event : RecommendationGenerated R)
    (correlationId : Option String) : List (String × Json R) :=
  [("event_id",.str event.eventId.str),
    ("event_type",.str RecommendationGenerated.eventType),
    ("schema_version",.int schemaVersion),
    ("occurred_at",.str (isoformat event.occurredAt)),
    ("producer",.str producer),
    ("aggregate_type",.str RecommendationGenerated.aggregateType),
    ("aggregate_id",.str event.aggregateId.str),
    ("correlation_id",(correlationId.map .str).getD .null),
    ("payload",.dict (eventPayload isoformat event))]

def partitionKey (event : RecommendationGenerated R) : String := event.aggregateId.str

end Serialization
end ArcadiaRecommendation
