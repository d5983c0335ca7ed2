import ArcadiaRecommendation.Application.Ingest
import ArcadiaRecommendation.Messaging.Record

/-! Inbound messages: the anti-corruption handlers of the three topics, the wrapper
that deduplicates deliveries, and the table of subscriptions. -/
namespace ArcadiaRecommendation

/-- The library functions that read foreign text. -/
class Formats (R : Type) where
  /-- `UUID(text)`, or none where it raises. -/
  parseUuid : String → Option UUID
  /-- `datetime.fromisoformat(text)`, or none where it raises. -/
  fromisoformat : String → Option DateTime
  /-- `str(value)` of a decoded value that is not itself a string. -/
  display : Json R → String

variable {R : Type} [Scalar R] [Formats R]

/-- `str(value)` -/
def Json.text : Json R → String
  | .str value => value
  | value => Formats.display value

/-- `bool(value)` -/
def Json.truthy : Json R → Bool
  | .null => false
  | .bool value => value
  | .int value => value ≠ 0
  | .float value => !Scalar.isZero value
  | .str value => value ≠ ""
  | .list items => !items.isEmpty
  | .dict entries => !entries.isEmpty

/-- `entries.get(key)` where an absent key and a null value are treated alike. -/
def Json.field (key : String) (entries : List (String × Json R)) : Option (Json R) :=
  match Json.lookup key entries with
  | none | some .null => none
  | some value => some value

namespace Envelope

def payloadOf (record : OutboxRecord R) : List (String × Json R) :=
  match Json.lookup "payload" record.payload with
  | some (.dict payload) => payload
  | _ => []

def gameIdOf (payload : List (String × Json R)) : Option GameId := do
  let raw ← Json.field "game_id" payload
  return ⟨← Formats.parseUuid R raw.text⟩

def userIdOf (payload : List (String × Json R)) (key : String) : Option UserId := do
  let raw ← Json.field key payload
  return ⟨← Formats.parseUuid R raw.text⟩

omit [Scalar R] in
theorem gameIdOf_text {payload : List (String × Json R)} {text : String}
    (there : Json.field "game_id" payload = some (.str text)) :
    gameIdOf payload = (Formats.parseUuid R text).map GameId.mk := by
  rw [gameIdOf,there,Option.map_eq_bind]
  rfl

omit [Scalar R] in
theorem userIdOf_text {payload : List (String × Json R)} {key text : String}
    (there : Json.field key payload = some (.str text)) :
    userIdOf payload key = (Formats.parseUuid R text).map UserId.mk := by
  rw [userIdOf,there,Option.map_eq_bind]
  rfl

def timestampOf (raw : Option (Json R)) : Option DateTime := do
  let value ← raw
  Formats.fromisoformat R (value.text.replace "Z" "+00:00")

/-- What deduplication keys on. A malformed id raises. -/
def eventIdOf (record : OutboxRecord R) : Except Fault UUID :=
  match Json.field "event_id" record.payload with
  | none => .ok record.id
  | some raw =>
    match Formats.parseUuid R raw.text with
    | some eventId => .ok eventId
    | none => .error .valueError

end Envelope

open Envelope
variable [Casing]

/-- `str(raw or "")` -/
def textOrEmpty (raw : Option (Json R)) : String :=
  match raw with
  | some value => if value.truthy then value.text else ""
  | none => ""

def strings (raw : Option (Json R)) : List String :=
  match raw with
  | some (.list items) => (items.map fun item => Text.strip item.text).filter fun text => text ≠ ""
  | _ => []

def GamePublishedHandler.call (backfillLimit : Nat) (record : OutboxRecord R) : UseCase R Unit := do
  let payload := payloadOf record
  match gameIdOf payload,userIdOf payload "developer_id" with
  | some gameId,some developerId =>
    let title := Text.strip (textOrEmpty (Json.field "title" payload))
    if title = "" then return ()
    let eventId ← Program.ofExcept (eventIdOf record)
    HandleGamePublished.execute backfillLimit eventId gameId developerId (Text.firstChars 200 title)
      (strings (Json.field "genres" payload)) (strings (Json.field "tags" payload))
      (timestampOf (Json.field "published_at" payload)) (textOrEmpty (Json.field "description" payload))
  | _,_ => return ()

def GameWithdrawnHandler.call (record : OutboxRecord R) : UseCase R Unit := do
  match gameIdOf (payloadOf record) with
  | some gameId =>
    let eventId ← Program.ofExcept (eventIdOf record)
    HandleGameWithdrawn.execute eventId gameId
  | none => return ()

def PurchaseCompletedHandler.call (record : OutboxRecord R) : UseCase R Unit := do
  let payload := payloadOf record
  match (userIdOf payload "recipient_id").or (userIdOf payload "buyer_id"),gameIdOf payload with
  | some recipientId,some gameId =>
    let eventId ← Program.ofExcept (eventIdOf record)
    HandlePurchaseCompleted.execute eventId recipientId gameId
      ((timestampOf (Json.field "completed_at" payload)).or (timestampOf (Json.field "created_at" payload)))
  | _,_ => return ()

def like : String := "LIKE"

def ReviewPostedHandler.call (record : OutboxRecord R) : UseCase R Unit := do
  let payload := payloadOf record
  match userIdOf payload "author_id",gameIdOf payload with
  | some authorId,some gameId =>
    let eventId ← Program.ofExcept (eventIdOf record)
    let sentiment := (Json.lookup "sentiment" payload).getD (.str "")
    HandleReviewPosted.execute eventId authorId gameId (Casing.upper sentiment.text = like)
      (timestampOf (Json.field "occurred_at" record.payload))
  | _,_ => return ()

inductive Consumer
  | gamePublished
  | gameWithdrawn
  | purchaseCompleted
  | reviewPosted
  deriving DecidableEq

def Consumer.call (backfillLimit : Nat) : Consumer → OutboxRecord R → UseCase R Unit
  | .gamePublished => GamePublishedHandler.call backfillLimit
  | .gameWithdrawn => GameWithdrawnHandler.call
  | .purchaseCompleted => PurchaseCompletedHandler.call
  | .reviewPosted => ReviewPostedHandler.call

def Consumer.event (consumer : Consumer) (record : OutboxRecord R) (eventId : UUID) : Option Event := do
  let payload := payloadOf record
  match consumer with
  | .gamePublished =>
    let gameId ← gameIdOf payload
    let developerId ← userIdOf payload "developer_id"
    let title := Text.strip (textOrEmpty (Json.field "title" payload))
    if title = "" then none
    else some (.gamePublished eventId gameId developerId (Text.firstChars 200 title)
      (strings (Json.field "genres" payload)) (strings (Json.field "tags" payload))
      (timestampOf (Json.field "published_at" payload)) (textOrEmpty (Json.field "description" payload)))
  | .gameWithdrawn =>
    let gameId ← gameIdOf payload
    some (.gameWithdrawn eventId gameId)
  | .purchaseCompleted =>
    let recipientId ← (userIdOf payload "recipient_id").or (userIdOf payload "buyer_id")
    let gameId ← gameIdOf payload
    some (.purchaseCompleted eventId recipientId gameId
      ((timestampOf (Json.field "completed_at" payload)).or (timestampOf (Json.field "created_at" payload))))
  | .reviewPosted =>
    let authorId ← userIdOf payload "author_id"
    let gameId ← gameIdOf payload
    some (.reviewPosted eventId authorId gameId
      (Casing.upper ((Json.lookup "sentiment" payload).getD (.str "")).text = like)
      (timestampOf (Json.field "occurred_at" record.payload)))

theorem Consumer.call_event (backfillLimit : Nat) (consumer : Consumer) (record : OutboxRecord R) (eventId : UUID)
    (identified : eventIdOf record = .ok eventId) : consumer.call backfillLimit record =
      ((consumer.event record eventId).map fun event => event.execute backfillLimit).getD (.done ()) := by
  cases consumer with
  | gamePublished =>
    simp only [call,GamePublishedHandler.call,event,identified]
    cases gameIdOf (payloadOf record) with
    | none => rfl
    | some gameId =>
      cases userIdOf (payloadOf record) "developer_id" with
      | none => rfl
      | some developerId =>
        simp only [Option.bind_eq_bind,Option.bind_some]
        split <;> rfl
  | gameWithdrawn =>
    simp only [call,GameWithdrawnHandler.call,event,identified]
    cases gameIdOf (payloadOf record) <;> rfl
  | purchaseCompleted =>
    simp only [call,PurchaseCompletedHandler.call,event,identified]
    cases (userIdOf (payloadOf record) "recipient_id").or (userIdOf (payloadOf record) "buyer_id") with
    | none => rfl
    | some recipientId => cases gameIdOf (payloadOf record) <;> rfl
  | reviewPosted =>
    simp only [call,ReviewPostedHandler.call,event,identified]
    cases userIdOf (payloadOf record) "author_id" with
    | none => rfl
    | some authorId => cases gameIdOf (payloadOf record) <;> rfl

def IdempotentHandler.call (handler : OutboxRecord R → UseCase R Unit) (record : OutboxRecord R) :
    UseCase R Unit := do
  let eventId ← Program.ofExcept (eventIdOf record)
  if ← ProcessedEventLog.seen eventId then return ()
  handler record
  ProcessedEventLog.mark eventId

/-- What is subscribed: the wrapper around an anti-corruption handler around a use case. -/
def Consumer.subscribed (backfillLimit : Nat) (consumer : Consumer) : OutboxRecord R → UseCase R Unit :=
  IdempotentHandler.call (consumer.call backfillLimit)

structure Topics where
  gameEvents : String
  purchaseEvents : String
  reviewEvents : String

def registerConsumers (topics : Topics) : List (String × String × Consumer) :=
  [(topics.gameEvents,"arcadia.catalog.v1.GamePublished",.gamePublished),
    (topics.gameEvents,"arcadia.catalog.v1.GameWithdrawn",.gameWithdrawn),
    (topics.purchaseEvents,"arcadia.order.v1.PurchaseCompleted",.purchaseCompleted),
    (topics.reviewEvents,"arcadia.review.v1.ReviewPosted",.reviewPosted)]

end ArcadiaRecommendation
