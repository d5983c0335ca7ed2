import ArcadiaRecommendation.Memory.Store
import ArcadiaRecommendation.Messaging.Subscriber

/-! The encoder of an event over the values it meets. What it leaves is JSON, which the broker
carries unchanged and the other side reads as the record the in-process bus hands over. -/
namespace ArcadiaRecommendation

/-- A value as the encoder meets it. -/
inductive Value (R : Type)
  | none
  | bool (value : Bool)
  | int (value : Int)
  | float (value : R)
  | str (value : String)
  | uuid (value : UUID)
  | datetime (value : DateTime)
  /-- A member of a string enumeration. -/
  | enum (text : String)
  /-- An object whose `value` is a UUID. -/
  | identity (value : UUID)
  | tuple (items : List (Value R))
  | list (items : List (Value R))
  | dict (entries : List (String × Value R))

namespace Value
variable {R : Type} (isoformat : DateTime → String)

mutual

/-- `_primitive` -/
def primitive : Value R → Value R
  | .uuid value => .str value.str
  | .datetime value => .str (isoformat value)
  | .enum text => .str text
  | .tuple items => .list (primitives items)
  | .list items => .list (primitives items)
  | .dict entries => .dict (Dict.ofList (primitiveEntries entries)).entries
  | .identity value => .str value.str
  | .none => .none
  | .bool value => .bool value
  | .int value => .int value
  | .float value => .float value
  | .str value => .str value

def primitives : List (Value R) → List (Value R)
  | [] => []
  | item :: rest => primitive item :: primitives rest

def primitiveEntries : List (String × Value R) → List (String × Value R)
  | [] => []
  | entry :: rest => (entry.1,primitive entry.2) :: primitiveEntries rest

end

/-- The fields of the dataclass, inherited ones first. -/
def fields (event : RecommendationGenerated R) : List (String × Value R) :=
  [("event_id",.uuid event.eventId),("occurred_at",.datetime event.occurredAt),("aggregate_id",.uuid event.aggregateId),
    ("user_id",.identity event.userId.value),("generated_at",.datetime event.generatedAt),
    ("items",.tuple (event.items.map fun item => .dict [("game_id",.str item.gameId),("score",.float item.score),
      ("source",.str item.source),("rank",.int item.rank)]))]

def envelopeFields : List String := ["event_id","occurred_at","aggregate_id"]

def eventPayload (event : RecommendationGenerated R) : Value R :=
  .dict (primitiveEntries isoformat ((fields event).filter fun field => field.1 ∉ envelopeFields))

def eventEnvelope (event : RecommendationGenerated R) (correlationId : Option String) : Value R :=
  .dict [("event_id",.str event.eventId.str),
    ("event_type",.str RecommendationGenerated.eventType),
    ("schema_version",.int Serialization.schemaVersion),
    ("occurred_at",.str (isoformat event.occurredAt)),
    ("producer",.str Serialization.producer),
    ("aggregate_type",.str RecommendationGenerated.aggregateType),
    ("aggregate_id",.str event.aggregateId.str),
    ("correlation_id",(correlationId.map .str).getD .none),
    ("payload",eventPayload isoformat event)]

mutual

/-- The document `json.dumps` writes. Whatever JSON has no form for raises. -/
def dumps : Value R → Option (Json R)
  | .none => some .null
  | .bool value => some (.bool value)
  | .int value => some (.int value)
  | .float value => some (.float value)
  | .str value => some (.str value)
  | .enum text => some (.str text)
  | .tuple items => (dumpsItems items).map .list
  | .list items => (dumpsItems items).map .list
  | .dict entries => (dumpsEntries entries).map .dict
  | .uuid _ | .datetime _ | .identity _ => Option.none

def dumpsItems : List (Value R) → Option (List (Json R))
  | [] => some []
  | item :: rest => (dumps item).bind fun first => (dumpsItems rest).map (first :: ·)

def dumpsEntries : List (String × Value R) → Option (List (String × Json R))
  | [] => some []
  | entry :: rest => (dumps entry.2).bind fun first => (dumpsEntries rest).map ((entry.1,first) :: ·)

end

mutual

/-- `json.loads`: the later of two entries of one key wins. -/
def loads : Json R → Value R
  | .null => .none
  | .bool value => .bool value
  | .int value => .int value
  | .float value => .float value
  | .str value => .str value
  | .list items => .list (loadsItems items)
  | .dict entries => .dict (Dict.ofList (loadsEntries entries)).entries

def loadsItems : List (Json R) → List (Value R)
  | [] => []
  | item :: rest => loads item :: loadsItems rest

def loadsEntries : List (String × Json R) → List (String × Value R)
  | [] => []
  | entry :: rest => (entry.1,loads entry.2) :: loadsEntries rest

end

/-- The values JSON has a form of their own for. -/
inductive IsJson : Value R → Prop
  | none : IsJson .none
  | bool (value : Bool) : IsJson (.bool value)
  | int (value : Int) : IsJson (.int value)
  | float (value : R) : IsJson (.float value)
  | str (value : String) : IsJson (.str value)
  | list (items : List (Value R)) (all : ∀ item ∈ items, IsJson item) : IsJson (.list items)
  | dict (entries : List (String × Value R)) (distinct : (entries.map Prod.fst).Nodup)
      (all : ∀ entry ∈ entries, IsJson entry.2) : IsJson (.dict entries)

private theorem isJson_collected (entries : List (String × Value R)) (all : ∀ entry ∈ entries, IsJson entry.2) :
    IsJson (.dict (Dict.ofList entries).entries) := by
  apply IsJson.dict _ (Dict.distinct _)
  intro entry member
  exact all entry (Dict.mem_of_ofList entries entry.1 entry.2 ((Dict.mem_entries _ entry.1 entry.2).mp member))

mutual

theorem primitive_isJson : ∀ value : Value R, IsJson (primitive isoformat value)
  | .uuid value => .str value.str
  | .datetime value => .str (isoformat value)
  | .enum text => .str text
  | .tuple items => .list _ (primitives_isJson items)
  | .list items => .list _ (primitives_isJson items)
  | .dict entries => isJson_collected _ (primitiveEntries_isJson entries)
  | .identity value => .str value.str
  | .none => .none
  | .bool value => .bool value
  | .int value => .int value
  | .float value => .float value
  | .str value => .str value

theorem primitives_isJson : ∀ (items : List (Value R)), ∀ item ∈ primitives isoformat items, IsJson item
  | [],_,member => by cases member
  | item :: rest,_,member => by
    rcases List.mem_cons.mp member with rfl | later
    · exact primitive_isJson item
    · exact primitives_isJson rest _ later

theorem primitiveEntries_isJson : ∀ (entries : List (String × Value R)),
    ∀ entry ∈ primitiveEntries isoformat entries, IsJson entry.2
  | [],_,member => by cases member
  | entry :: rest,_,member => by
    rcases List.mem_cons.mp member with rfl | later
    · exact primitive_isJson entry.2
    · exact primitiveEntries_isJson rest _ later

end

private theorem loads_dumps (value : Value R) (json : IsJson value) :
    ∃ document, dumps value = some document ∧ loads document = value := by
  induction json with
  | none => exact ⟨.null,rfl,rfl⟩
  | bool value => exact ⟨.bool value,rfl,rfl⟩
  | int value => exact ⟨.int value,rfl,rfl⟩
  | float value => exact ⟨.float value,rfl,rfl⟩
  | str value => exact ⟨.str value,rfl,rfl⟩
  | list items all ih =>
    have each : ∃ documents, dumpsItems items = some documents ∧ loadsItems documents = items := by
      clear all
      induction items with
      | nil => exact ⟨[],rfl,rfl⟩
      | cons item rest later =>
        obtain ⟨first,written,read⟩ := ih item List.mem_cons_self
        obtain ⟨documents,others,back⟩ := later fun item member => ih item (List.mem_cons_of_mem _ member)
        exact ⟨first :: documents,by rw [dumpsItems,written,others]; rfl,by rw [loadsItems,read,back]⟩
    obtain ⟨documents,written,read⟩ := each
    exact ⟨.list documents,by rw [dumps,written]; rfl,by rw [loads,read]⟩
  | dict entries distinct all ih =>
    have each : ∃ documents, dumpsEntries entries = some documents ∧ loadsEntries documents = entries := by
      clear all distinct
      induction entries with
      | nil => exact ⟨[],rfl,rfl⟩
      | cons entry rest later =>
        obtain ⟨first,written,read⟩ := ih entry List.mem_cons_self
        obtain ⟨documents,others,back⟩ := later fun entry member => ih entry (List.mem_cons_of_mem _ member)
        exact ⟨(entry.1,first) :: documents,by rw [dumpsEntries,written,others]; rfl,by rw [loadsEntries,read,back]⟩
    obtain ⟨documents,written,read⟩ := each
    exact ⟨.dict documents,by rw [dumps,written]; rfl,by rw [loads,read,Dict.entries_ofList entries distinct]⟩

private theorem dumps_items (items : List (GeneratedItem R)) :
    dumpsItems (primitives isoformat (items.map fun item => .dict [("game_id",.str item.gameId),("score",.float item.score),
      ("source",.str item.source),("rank",.int item.rank)])) = some (items.map Serialization.itemPayload) := by
  induction items with
  | nil => rfl
  | cons item rest ih =>
    have kept : (Dict.ofList (primitiveEntries isoformat [("game_id",.str item.gameId),("score",.float item.score),
        ("source",.str item.source),("rank",.int item.rank)])).entries = [("game_id",.str item.gameId),
          ("score",.float item.score),("source",.str item.source),("rank",.int item.rank)] :=
      Dict.entries_ofList _ (by simp [primitiveEntries])
    rw [List.map_cons,primitives,primitive,dumpsItems,ih,kept]
    rfl

theorem eventPayload_eq (event : RecommendationGenerated R) : eventPayload isoformat event =
    .dict [("user_id",.str event.userId.str),("generated_at",.str (isoformat event.generatedAt)),
      ("items",.list (primitives isoformat (event.items.map fun item => .dict [("game_id",.str item.gameId),
        ("score",.float item.score),("source",.str item.source),("rank",.int item.rank)])))] := rfl

private theorem eventEnvelope_isJson (event : RecommendationGenerated R) (correlationId : Option String) :
    IsJson (eventEnvelope isoformat event correlationId) := by
  have payload : IsJson (eventPayload isoformat event) := by
    rw [eventPayload_eq]
    refine .dict _ (by simp) fun entry member => ?_
    simp only [List.mem_cons,List.not_mem_nil,or_false] at member
    rcases member with rfl | rfl | rfl
    · exact .str _
    · exact .str _
    · exact .list _ (primitives_isJson isoformat _)
  refine .dict _ (by simp) fun entry member => ?_
  simp only [List.mem_cons,List.not_mem_nil,or_false] at member
  rcases member with rfl | rfl | rfl | rfl | rfl | rfl | rfl | rfl | rfl
  case inr.inr.inl => exact .int _
  case inr.inr.inr.inr.inr.inr.inr.inl =>
    cases correlationId with
    | none => exact .none
    | some text => exact .str text
  case inr.inr.inr.inr.inr.inr.inr.inr => exact payload
  all_goals exact .str _

private theorem dumps_eventEnvelope (event : RecommendationGenerated R) (correlationId : Option String) :
    dumps (eventEnvelope isoformat event correlationId) =
      some (.dict (Serialization.eventEnvelope isoformat event correlationId)) := by
  have items := dumps_items isoformat event.items
  have payload : dumps (eventPayload isoformat event) = some (.dict (Serialization.eventPayload isoformat event)) := by
    rw [eventPayload_eq]
    simp only [dumps,dumpsEntries,items]
    rfl
  have correlation : dumps ((correlationId.map Value.str).getD (.none : Value R)) =
      some ((correlationId.map Json.str).getD .null) := by
    cases correlationId <;> rfl
  simp only [eventEnvelope,dumps,dumpsEntries,payload,correlation]
  rfl

end Value
variable {R : Type} [Formats R]

theorem parsed_text {A : Type} (parse : String → Option A) (text : String) (value otherwise : A)
    (reads : parse text = some value) : KafkaSubscriber.parsed parse (some (.str text : Json R)) otherwise = .ok value := by
  unfold KafkaSubscriber.parsed
  simp only [Json.text,reads]

/-- The record the broker's other side reads from an event's payload is the record the in-process
bus hands over, where the printed ids and moments of the event are read back. -/
theorem broker_delivers_enqueued (environment : Environment) (event : RecommendationGenerated R) (fresh : UUID)
    (now : DateTime) (eventId : Formats.parseUuid R event.eventId.str = some event.eventId)
    (aggregateId : Formats.parseUuid R event.aggregateId.str = some event.aggregateId)
    (occurredAt : Formats.fromisoformat R (environment.isoformat event.occurredAt) = some event.occurredAt) :
    let enqueued := Memory.outboxRecord environment event
    let payload := Value.eventEnvelope environment.isoformat event environment.correlationId
    payload.IsJson ∧ payload.dumps = some (.dict enqueued.payload) ∧ Value.loads (.dict enqueued.payload) = payload ∧
    ∃ record, KafkaSubscriber.recordFromEnvelope (.dict enqueued.payload) enqueued.topic fresh now = .ok record ∧
      record.id = enqueued.id ∧ record.aggregateId = enqueued.aggregateId ∧
      record.aggregateType = enqueued.aggregateType ∧ record.eventType = enqueued.eventType ∧
      record.occurredAt = enqueued.occurredAt ∧ record.topic = enqueued.topic ∧
      record.correlationId = enqueued.correlationId ∧ record.payload = enqueued.payload := by
  intro enqueued payload
  have json : payload.IsJson := Value.eventEnvelope_isJson environment.isoformat event environment.correlationId
  have written : payload.dumps = some (.dict enqueued.payload) :=
    Value.dumps_eventEnvelope environment.isoformat event environment.correlationId
  refine ⟨json,written,?_,?_⟩
  · obtain ⟨document,dumped,read⟩ := Value.loads_dumps payload json
    rw [written] at dumped
    rw [Option.some.inj dumped]
    exact read
  · have id := parsed_text (R := R) (Formats.parseUuid R) event.eventId.str event.eventId fresh eventId
    have aggregate :=
      parsed_text (R := R) (Formats.parseUuid R) event.aggregateId.str event.aggregateId event.eventId aggregateId
    have moment :=
      parsed_text (R := R) (Formats.fromisoformat R) (environment.isoformat event.occurredAt) event.occurredAt now occurredAt
    have correlation :
        (Json.field "correlation_id" enqueued.payload).map (Json.text (R := R)) = environment.correlationId := by
      cases given : environment.correlationId <;>
        simp [enqueued,Memory.outboxRecord,Serialization.eventEnvelope,Json.field,Json.lookup,given,Json.text]
    have eventType : Json.lookup "event_type" enqueued.payload = some (.str RecommendationGenerated.eventType) := by
      simp [enqueued,Memory.outboxRecord,Serialization.eventEnvelope,Json.lookup]
    have aggregateType :
        Json.lookup "aggregate_type" enqueued.payload = some (.str RecommendationGenerated.aggregateType) := by
      simp [enqueued,Memory.outboxRecord,Serialization.eventEnvelope,Json.lookup]
    have idField : Json.field "event_id" enqueued.payload = some (.str event.eventId.str) := by
      simp [enqueued,Memory.outboxRecord,Serialization.eventEnvelope,Json.field,Json.lookup]
    have aggregateField : Json.field "aggregate_id" enqueued.payload = some (.str event.aggregateId.str) := by
      simp [enqueued,Memory.outboxRecord,Serialization.eventEnvelope,Json.field,Json.lookup]
    have momentField :
        Json.field "occurred_at" enqueued.payload = some (.str (environment.isoformat event.occurredAt)) := by
      simp [enqueued,Memory.outboxRecord,Serialization.eventEnvelope,Json.field,Json.lookup]
    simp only [KafkaSubscriber.recordFromEnvelope,KafkaSubscriber.eventTypeOf,idField,aggregateField,momentField,id,
      moment,eventType,aggregateType,correlation,bind,Except.bind,aggregate]
    exact ⟨_,rfl,rfl,rfl,rfl,rfl,rfl,rfl,rfl,rfl⟩

section

def listed : RecommendationGenerated ℚ where
  eventId := ⟨7⟩
  occurredAt := ⟨0⟩
  aggregateId := ⟨1⟩
  userId := ⟨⟨1⟩⟩
  generatedAt := ⟨0⟩
  items := [⟨"00000000-0000-0000-0000-000000000002",1/2,"CONTENT",1⟩]

def epoch : Environment := { Environment.fixed with isoformat := fun _ => "1970-01-01T00:00:00+00:00" }

@[reducible] def Formats.ofListed : Formats ℚ where
  parseUuid text := if text = listed.eventId.str then some listed.eventId
    else if text = listed.aggregateId.str then some listed.aggregateId else none
  fromisoformat text := if text = "1970-01-01T00:00:00+00:00" then some ⟨0⟩ else none
  display _ := ""

attribute [local instance] Formats.ofListed

theorem broker_delivers_enqueued_listed :
    ∃ record, KafkaSubscriber.recordFromEnvelope (.dict (Memory.outboxRecord epoch listed).payload) "reco-events" ⟨0⟩ ⟨1⟩ =
      .ok record ∧ record.id = ⟨7⟩ ∧ record.aggregateId = ⟨1⟩ ∧ record.occurredAt = ⟨0⟩ := by
  obtain ⟨_,_,_,record,read,id,aggregateId,_,_,occurredAt,_⟩ :=
    broker_delivers_enqueued epoch listed ⟨0⟩ ⟨1⟩ rfl rfl rfl
  exact ⟨record,read,id,aggregateId,occurredAt⟩

end
end ArcadiaRecommendation
