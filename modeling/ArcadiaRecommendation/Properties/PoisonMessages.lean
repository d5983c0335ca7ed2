import ArcadiaRecommendation.Messaging.Subscriber

/-! Which messages stop their topic. The retry loop guards the handlers, not the decoding before it. -/
namespace ArcadiaRecommendation
variable {R H : Type} [Formats R]

/-- An object whose ids and time, where it has them, can be read. -/
def Json.Readable : Json R → Prop
  | .dict entries =>
    (∀ raw, Json.field "event_id" entries = some raw → (Formats.parseUuid R raw.text).isSome = true) ∧
      (∀ raw, Json.field "aggregate_id" entries = some raw → (Formats.parseUuid R raw.text).isSome = true) ∧
      ∀ raw, Json.field "occurred_at" entries = some raw → (Formats.fromisoformat R raw.text).isSome = true
  | _ => False

namespace KafkaSubscriber

theorem parsed_iff {A : Type} (parse : String → Option A) (raw : Option (Json R)) (otherwise : A) :
    (∃ value, parsed parse raw otherwise = .ok value) ↔ ∀ value, raw = some value → (parse value.text).isSome = true := by
  unfold parsed
  cases raw with
  | none => exact ⟨fun _ _ absent => (by cases absent),fun _ => ⟨otherwise,rfl⟩⟩
  | some raw =>
    dsimp only
    constructor
    · rintro ⟨value,read⟩ _ ⟨⟩
      split at read
      · rename_i found
        rw [found]
        rfl
      · cases read
    · intro readable
      obtain ⟨value,found⟩ := Option.isSome_iff_exists.mp (readable raw rfl)
      exact ⟨value,by rw [found]⟩

private theorem recordFromEnvelope_iff (value : Json R) (topic : String) (fresh : UUID) (now : DateTime) :
    (∃ record, recordFromEnvelope value topic fresh now = .ok record) ↔ value.Readable := by
  cases value with
  | dict entries =>
    constructor
    · rintro ⟨record,decoded⟩
      simp only [recordFromEnvelope,bind,Except.bind] at decoded
      split at decoded
      · cases decoded
      rename_i eventId first
      split at decoded
      · cases decoded
      rename_i aggregateId second
      split at decoded
      · cases decoded
      rename_i occurredAt third
      exact ⟨(parsed_iff _ _ fresh).mp ⟨eventId,first⟩,(parsed_iff _ _ eventId).mp ⟨aggregateId,second⟩,
        (parsed_iff _ _ now).mp ⟨occurredAt,third⟩⟩
    · rintro ⟨ids,aggregates,times⟩
      obtain ⟨eventId,first⟩ := (parsed_iff _ _ fresh).mpr ids
      obtain ⟨aggregateId,second⟩ := (parsed_iff _ _ eventId).mpr aggregates
      obtain ⟨occurredAt,third⟩ := (parsed_iff _ _ now).mpr times
      simp only [recordFromEnvelope,first,second,third,bind,Except.bind]
      exact ⟨_,rfl⟩
  | null | bool _ | int _ | float _ | str _ | list _ =>
    constructor
    · rintro ⟨record,raised⟩
      cases raised
    · exact False.elim

private theorem handle_iff (subscriber : KafkaSubscriber H) (topic : String) (message : Inbound R) :
    (∃ sent, subscriber.handle topic message = .ok sent) ↔ message.value.Readable := by
  rw [← recordFromEnvelope_iff message.value topic message.fresh message.now]
  unfold handle
  cases recordFromEnvelope message.value topic message.fresh message.now with
  | error fault =>
    constructor
    · rintro ⟨sent,raised⟩
      cases raised
    · rintro ⟨record,raised⟩
      cases raised
  | ok record =>
    simp only [bind,Except.bind,pure,Except.pure]
    refine ⟨fun _ => ⟨record,rfl⟩,fun _ => ?_⟩
    split
    · exact ⟨_,rfl⟩
    · split <;> exact ⟨_,rfl⟩

private theorem consume_committed (subscriber : KafkaSubscriber H) (topic : String) (messages : List (Inbound R)) :
    (subscriber.consume topic messages).1 = messages ↔ ∀ message ∈ messages, message.value.Readable := by
  induction messages with
  | nil => exact ⟨fun _ _ member => (by cases member),fun _ => rfl⟩
  | cons message rest ih =>
    rw [List.forall_mem_cons,← subscriber.handle_iff topic message,← ih]
    rw [consume]
    cases subscriber.handle topic message with
    | error fault =>
      constructor
      · intro nothing
        cases nothing
      · rintro ⟨⟨sent,raised⟩,_⟩
        cases raised
    | ok sent =>
      dsimp only
      rw [List.cons.injEq]
      exact ⟨fun both => ⟨⟨sent,rfl⟩,both.2⟩,fun both => ⟨rfl,both.2⟩⟩

/-- Whatever the handlers do, a topic is consumed to its end exactly when every message can be read. -/
theorem every_message_reached_iff (subscriber : KafkaSubscriber H) (topic : String) (messages : List (Inbound R)) :
    ((∀ message ∈ messages, ∃ sent, subscriber.handle topic message = .ok sent) ∧
        (subscriber.consume topic messages).1 = messages) ↔
      ∀ message ∈ messages, message.value.Readable := by
  constructor
  · rintro ⟨_,committed⟩
    exact (subscriber.consume_committed topic messages).mp committed
  · intro readable
    refine ⟨fun message member => ?_,(subscriber.consume_committed topic messages).mpr readable⟩
    exact (subscriber.handle_iff topic message).mpr (readable message member)

attribute [local instance] Formats.unread

/-- A message whose id is no UUID, and an empty one behind it. -/
def poisoned : List (Inbound ℚ) :=
  [⟨.dict [("event_id",.str "42"),("event_type",.str "arcadia.catalog.v1.GamePublished")],⟨1⟩,⟨0⟩,true,fun _ _ => none⟩,
    ⟨.dict [],⟨2⟩,⟨0⟩,true,fun _ _ => none⟩]

/-- The task of the topic dies on the first message, so the second is never reached. -/
theorem poison_stops_topic : ¬∀ (messages : List (Inbound ℚ)), (∀ message ∈ messages, ∃ sent,
    (registered deployedTopics).handle "game-events" message = .ok sent) ∧
      ((registered deployedTopics).consume "game-events" messages).1 = messages := by
  intro claim
  have reached := congrArg List.length (claim poisoned).2
  revert reached
  decide +kernel

end KafkaSubscriber
end ArcadiaRecommendation
