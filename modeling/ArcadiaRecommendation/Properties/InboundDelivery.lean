import ArcadiaRecommendation.Foundation.Runs
import ArcadiaRecommendation.Messaging.Subscriber

/-! What became of the inbound messages whose offsets were committed. A consumer task may run
before the subscriber has a producer to reroute with. -/
namespace ArcadiaRecommendation
variable {R H : Type} [Formats R]

private theorem KafkaSubscriber.recordFromEnvelope_ok (value : Json R) (topic : String) (fresh : UUID) (now : DateTime)
    (record : OutboxRecord R) (decoded : recordFromEnvelope value topic fresh now = .ok record) :
    value = .dict record.payload ∧ record.eventType = eventTypeOf value := by
  cases value with
  | dict entries =>
    simp only [recordFromEnvelope,bind,Except.bind] at decoded
    split at decoded
    · cases decoded
    split at decoded
    · cases decoded
    split at decoded
    · cases decoded
    cases decoded
    exact ⟨rfl,rfl⟩
  | null | bool _ | int _ | float _ | str _ | list _ => cases decoded

namespace Subscribing

/-- No handler is registered for the message, or all of them returned in one attempt, or it was sent
to the retry or dead-letter topic. -/
def Kept (subscriber : KafkaSubscriber H) (state : Subscribing R) (delivery : KafkaDelivery R) : Prop :=
  subscriber.handlersFor delivery.topic (KafkaSubscriber.eventTypeOf delivery.value) = [] ∨
    delivery ∈ state.returned ∨
      ∃ entries error, delivery.value = .dict entries ∧
        (delivery,KafkaSubscriber.target delivery.topic,.dict (Json.set "error" (.str error) entries)) ∈ state.sent

structure Decoded (topic : String) (delivery : KafkaDelivery R) (record : OutboxRecord R) : Prop where
  topic : delivery.topic = topic
  value : delivery.value = .dict record.payload
  eventType : record.eventType = KafkaSubscriber.eventTypeOf delivery.value

def TaskKept (subscriber : KafkaSubscriber H) (state : Subscribing R) (task : ConsumerTask R) : Prop :=
  match task.phase with
  | .waiting | .dead => True
  | .calling delivery record _ _ | .sleeping delivery record _ => Decoded task.topic delivery record
  | .committing delivery => Kept subscriber state delivery

structure Sound (subscriber : KafkaSubscriber H) (state : Subscribing R) : Prop where
  tasks : ∀ task ∈ state.tasks, TaskKept subscriber state task
  committed : ∀ delivery ∈ state.committed, Kept subscriber state delivery

theorem Kept.later {subscriber : KafkaSubscriber H} {state next : Subscribing R} {delivery : KafkaDelivery R}
    (kept : Kept subscriber state delivery) (returned : state.returned ⊆ next.returned) (sent : state.sent ⊆ next.sent) :
    Kept subscriber next delivery := by
  rcases kept with unhandled | handled | ⟨entries,error,value,rerouted⟩
  · exact .inl unhandled
  · exact .inr (.inl (returned handled))
  · exact .inr (.inr ⟨entries,error,value,sent rerouted⟩)

theorem TaskKept.later {subscriber : KafkaSubscriber H} {state next : Subscribing R} {task : ConsumerTask R}
    (kept : TaskKept subscriber state task) (returned : state.returned ⊆ next.returned) (sent : state.sent ⊆ next.sent) :
    TaskKept subscriber next task := by
  unfold TaskKept at kept ⊢
  split at kept
  · trivial
  · trivial
  · exact kept
  · exact kept
  · exact kept.later returned sent

theorem Sound.moved {subscriber : KafkaSubscriber H} {state next : Subscribing R} (sound : Sound subscriber state)
    (place : Nat) (task : ConsumerTask R) (tasks : next.tasks = state.tasks.set place task)
    (returned : state.returned ⊆ next.returned) (sent : state.sent ⊆ next.sent) (kept : TaskKept subscriber next task)
    (committed : ∀ delivery ∈ next.committed, delivery ∈ state.committed ∨ Kept subscriber next delivery) :
    Sound subscriber next := by
  constructor
  · intro other member
    rw [tasks] at member
    rcases List.mem_or_eq_of_mem_set member with old | same
    · exact (sound.tasks other old).later returned sent
    · exact same ▸ kept
  · intro delivery member
    rcases committed delivery member with old | new
    · exact (sound.committed delivery old).later returned sent
    · exact new

private theorem Sound.rephased {subscriber : KafkaSubscriber H} {state : Subscribing R} (sound : Sound subscriber state)
    (place : Nat) (task : ConsumerTask R) (phase : TaskPhase R) (kept : TaskKept subscriber state { task with phase }) :
    Sound subscriber (state.setPhase place task phase) :=
  sound.moved place { task with phase } rfl (List.Subset.refl _) (List.Subset.refl _) kept fun _ old => .inl old

theorem Sound.connected {subscriber : KafkaSubscriber H} {state next : Subscribing R} (sound : Sound subscriber state)
    (tasks : ∀ task ∈ next.tasks, task ∈ state.tasks ∨ task.phase = .waiting) (returned : next.returned = state.returned)
    (sent : next.sent = state.sent) (committed : next.committed = state.committed) : Sound subscriber next := by
  constructor
  · intro task member
    rcases tasks task member with old | new
    · exact (sound.tasks task old).later (by rw [returned]; exact List.Subset.refl _)
        (by rw [sent]; exact List.Subset.refl _)
    · unfold TaskKept
      rw [new]
      trivial
  · intro delivery member
    rw [committed] at member
    exact (sound.committed delivery member).later (by rw [returned]; exact List.Subset.refl _)
      (by rw [sent]; exact List.Subset.refl _)

end Subscribing

def ConsumerTask.attempt (task : ConsumerTask R) : Option Nat :=
  match task.phase with
  | .calling _ _ attempt _ => some attempt
  | .waiting | .sleeping _ _ _ | .committing _ | .dead => none

/-- Where the last attempt of a message fails, a producer is assigned, and a message with handlers
is tried at least once. -/
def SubscriberMove.Ready (subscriber : KafkaSubscriber H) (state : Subscribing R) : SubscriberMove R → Prop
  | .fetch place value _ _ => ∀ task ∈ state.tasks[place]?, 0 < subscriber.maxRetries ∨
      (subscriber.handlersFor task.topic (KafkaSubscriber.eventTypeOf value)).isEmpty = true
  | .handler place (some _) => ∀ task ∈ state.tasks[place]?, task.attempt = some subscriber.maxRetries →
      state.connected = true
  | _ => True

instance (subscriber : KafkaSubscriber H) (state : Subscribing R) (move : SubscriberMove R) :
    Decidable (move.Ready subscriber state) :=
  match move with
  | .fetch place _ _ _ => inferInstanceAs (Decidable (∀ task ∈ state.tasks[place]?,_))
  | .handler place (some _) => inferInstanceAs (Decidable (∀ task ∈ state.tasks[place]?,_))
  | .handler _ none | .connect | .producerStarted _ | .consumerStarted _ | .wake _ | .commit _ _ =>
    inferInstanceAs (Decidable True)

namespace Subscribing

private theorem received_kept (subscriber : KafkaSubscriber H) (state : Subscribing R) (topic : String) (number : Nat)
    (value : Json R) (fresh : UUID) (now : DateTime) (ready : 0 < subscriber.maxRetries ∨
      (subscriber.handlersFor topic (KafkaSubscriber.eventTypeOf value)).isEmpty = true) :
    TaskKept subscriber state ⟨topic,received subscriber topic number value fresh now⟩ := by
  unfold received
  cases decoded : KafkaSubscriber.recordFromEnvelope value topic fresh now with
  | error fault => trivial
  | ok record =>
    obtain ⟨payload,eventType⟩ := KafkaSubscriber.recordFromEnvelope_ok value topic fresh now record decoded
    dsimp only
    split
    · rename_i nothing
      left
      rw [eventType] at nothing
      rcases nothing with none | zero
      · exact List.isEmpty_iff.mp none
      · rcases ready with positive | none
        · omega
        · exact List.isEmpty_iff.mp none
    · exact ⟨rfl,payload,eventType⟩

omit [Formats R] in
private theorem starting_frame (state : Subscribing R) (topics : List String) :
    (state.starting topics).tasks = state.tasks ∧ (state.starting topics).returned = state.returned ∧
      (state.starting topics).sent = state.sent ∧ (state.starting topics).committed = state.committed := by
  cases topics <;> exact ⟨rfl,rfl,rfl,rfl⟩

private theorem handler_sound (subscriber : KafkaSubscriber H) (state : Subscribing R) (place : Nat)
    (raised : Option String) (sound : Sound subscriber state)
    (ready : (SubscriberMove.handler place raised).Ready subscriber state) :
    Sound subscriber (state.after subscriber (.handler place raised)) := by
  simp only [after]
  split
  · rename_i topic delivery record attempt handler calling
    have decoded : Decoded topic delivery record := sound.tasks _ (List.mem_of_getElem? calling)
    split
    · split
      · exact sound.rephased place _ _ decoded
      · refine sound.moved place _ rfl (List.subset_append_left _ _) (List.Subset.refl _) ?_ fun _ old => .inl old
        exact .inr (.inl (List.mem_append_right _ List.mem_cons_self))
    · rename_i error
      have ready := ready ⟨topic,.calling delivery record attempt handler⟩ calling
      split
      · rename_i last
        refine sound.moved place _ rfl (List.Subset.refl _) (List.subset_append_left _ _) ?_ fun _ old => .inl old
        refine .inr (.inr ⟨record.payload,error,decoded.value,?_⟩)
        rw [decoded.topic]
        refine List.mem_append_right _ (List.mem_map_of_mem ?_)
        unfold KafkaSubscriber.reroute
        rw [if_pos (ready (congrArg some last))]
        exact List.mem_cons_self
      · exact sound.rephased place _ _ decoded
  · exact sound

theorem after_sound (subscriber : KafkaSubscriber H) (state : Subscribing R) (move : SubscriberMove R)
    (sound : Sound subscriber state) (ready : move.Ready subscriber state) :
    Sound subscriber (state.after subscriber move) := by
  cases move with
  | connect =>
    simp only [after]
    split
    · exact sound.connected (fun _ old => .inl old) rfl rfl rfl
    · exact sound
    · exact sound
    · exact sound
  | producerStarted ok =>
    simp only [after]
    split
    · split
      · obtain ⟨tasks,returned,sent,committed⟩ := state.starting_frame subscriber.topics
        exact sound.connected (fun _ old => .inl (tasks ▸ old)) returned sent committed
      · exact sound.connected (fun _ old => .inl old) rfl rfl rfl
    · exact sound
    · exact sound
    · exact sound
  | consumerStarted ok =>
    simp only [after]
    split
    · rename_i topic rest starting
      split
      · obtain ⟨tasks,returned,sent,committed⟩ :=
          starting_frame { state with tasks := state.tasks ++ [{ topic }] } rest
        refine sound.connected (fun task member => ?_) returned sent committed
        rw [tasks] at member
        rcases List.mem_append.mp member with old | new
        · exact .inl old
        · exact .inr (by rw [List.mem_singleton.mp new])
      · exact sound.connected (fun _ old => .inl old) rfl rfl rfl
    · exact sound
    · exact sound
    · exact sound
  | fetch place value fresh now =>
    simp only [after]
    split
    · rename_i topic waiting
      have ready := ready ⟨topic,.waiting⟩ waiting
      exact sound.moved place _ rfl (List.Subset.refl _) (List.Subset.refl _)
        (received_kept subscriber _ topic state.fetched value fresh now ready) fun _ old => .inl old
    · exact sound
  | handler place raised => exact handler_sound subscriber state place raised sound ready
  | wake place =>
    simp only [after]
    split
    · rename_i topic delivery record attempt sleeping
      have decoded : Decoded topic delivery record := sound.tasks _ (List.mem_of_getElem? sleeping)
      exact sound.rephased place _ _ decoded
    · exact sound
  | commit place ok =>
    simp only [after]
    split
    · rename_i topic delivery committing
      have kept : Kept subscriber state delivery := sound.tasks _ (List.mem_of_getElem? committing)
      split
      · refine sound.moved place _ rfl (List.Subset.refl _) (List.Subset.refl _) trivial fun other member => ?_
        rcases List.mem_append.mp member with old | new
        · exact .inl old
        · right
          rw [List.mem_singleton.mp new]
          exact kept
      · exact sound.rephased place _ _ trivial
    · exact sound

/-- In a run of ready moves no message whose offset was committed is lost, in any state reached. -/
theorem committed_kept (subscriber : KafkaSubscriber H) (moves : List (SubscriberMove R))
    (ready : Throughout (after subscriber) (fun state move => move.Ready subscriber state) {} moves) :
    ∀ earlier later, moves = earlier ++ later → ∀ delivery ∈ (run subscriber earlier).committed,
      Kept subscriber (run subscriber earlier) delivery := by
  intro earlier later split
  rw [split,throughout_append] at ready
  have start : Sound subscriber ({} : Subscribing R) :=
    ⟨fun _ member => (by cases member),fun _ member => (by cases member)⟩
  have sound := ready.1.kept (Sound subscriber) (fun state move => after_sound subscriber state move) start
  exact sound.committed

end Subscribing

namespace Subscribing
attribute [local instance] Formats.unread

def nameless : Json ℚ := .dict [("event_type",.str "arcadia.catalog.v1.GamePublished")]

def failing (place : Nat) : List (SubscriberMove ℚ) :=
  [.fetch place nameless ⟨1⟩ ⟨0⟩,.handler place (some "OperationalError"),.wake place,
    .handler place (some "OperationalError"),.wake place,.handler place (some "OperationalError"),.commit place true]

theorem committed_kept_rerouted :
    Kept (.registered deployedTopics) (run (.registered deployedTopics) ([.connect,.producerStarted true,
      .consumerStarted true,.consumerStarted true,.consumerStarted true] ++ failing 0)) ⟨0,"game-events",nameless⟩ :=
  committed_kept (.registered deployedTopics) _ (by decide +kernel) _ [] (List.append_nil _).symm _ List.mem_cons_self

/-- The first topic has a task while the second consumer is still starting, or failed to, and
`_reroute` returns without a producer. -/
theorem message_lost_while_connecting : ¬∀ (moves : List (SubscriberMove ℚ)),
    ∀ delivery ∈ (run (.registered deployedTopics) moves).committed,
      Kept (.registered deployedTopics) (run (.registered deployedTopics) moves) delivery := by
  intro claim
  have lost := claim ([.connect,.producerStarted true,.consumerStarted true,.consumerStarted false] ++ failing 0)
    ⟨0,"game-events",nameless⟩ List.mem_cons_self
  rcases lost with unhandled | handled | ⟨entries,error,_,rerouted⟩
  · revert unhandled
    decide +kernel
  · cases handled
  · cases rerouted

end Subscribing
end ArcadiaRecommendation
