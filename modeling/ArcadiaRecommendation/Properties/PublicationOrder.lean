import ArcadiaRecommendation.Foundation.Runs
import ArcadiaRecommendation.Properties.OutboxLifecycle

/-! The order in which the records of one partition key are published. A failed record waits out
its backoff, and a later one may be published meanwhile. -/
namespace ArcadiaRecommendation
variable {R : Type}

/-- No record is published after one of its key that is later. -/
def InOrder (calls : List (PublishCall R)) : Prop :=
  calls.Pairwise fun first second => first.succeeded = true → second.succeeded = true →
    first.record.partitionKey = second.record.partitionKey →
      first.record.occurredAt.micros ≤ second.record.occurredAt.micros

namespace RelayMove

def time : RelayMove R → Option Int
  | .drain now => some now.micros
  | .commit _ | .publish _ => none

def Increasing (moves : List (RelayMove R)) : Prop := (moves.filterMap time).Pairwise (· < ·)

/-- What is published leaves no earlier record of its key pending, and what is committed is not
earlier than what was published of its key. -/
def Orderly (relay : Relay R) : RelayMove R → Prop
  | .commit record => ∀ call ∈ relay.calls, call.succeeded = true → call.record.partitionKey = record.partitionKey →
      call.record.occurredAt.micros ≤ record.occurredAt.micros
  | .drain _ => True
  | .publish (.raised _ _) => True
  | .publish .sent => ∀ record ∈ relay.batch.head?, ∀ row ∈ relay.outbox.values, row.isPending = true →
      row.partitionKey = record.partitionKey → record.occurredAt.micros ≤ row.occurredAt.micros

instance (relay : Relay R) (move : RelayMove R) : Decidable (move.Orderly relay) :=
  match move with
  | .commit _ => inferInstanceAs (Decidable (∀ call ∈ relay.calls,_))
  | .drain _ => inferInstanceAs (Decidable True)
  | .publish (.raised _ _) => inferInstanceAs (Decidable True)
  | .publish .sent => inferInstanceAs (Decidable (∀ record ∈ relay.batch.head?,_))

end RelayMove

namespace Relay

theorem RowStep.pending {relay next : Relay R} {move : RelayMove R} {id : UUID}
    (step : RowStep relay next move id) (row : OutboxRecord R) (stored : next.outbox.get id = some row)
    (pending : row.isPending = true) :
    (∃ record, move = .commit record ∧ row = record.toOutboxRecord) ∨
      ∃ before, relay.outbox.get id = some before ∧ before.isPending = true ∧
        before.partitionKey = row.partitionKey ∧ before.occurredAt = row.occurredAt := by
  cases step with
  | kept same calls => exact .inr ⟨row,same ▸ stored,pending,rfl,rfl⟩
  | committed record made key absent committed calls =>
    exact .inl ⟨record,made,Option.some.inj (stored.symm.trans committed)⟩
  | leased before now lease known still due leased calls =>
    cases Option.some.inj (leased.symm.trans stored)
    exact .inr ⟨before,known,still,rfl,rfl⟩
  | called record before after result key handed read written rescheduled calls =>
    cases Option.some.inj (read.symm.trans stored)
    refine .inr ⟨before,key ▸ handed.stored,handed.pending,?_,?_⟩
    · rw [handed.same,written]
      exact (OutboxDispatcher.publish_content record relay.now result).2.1.symm
    · rw [handed.same,written]
      exact (OutboxDispatcher.publish_content record relay.now result).2.2.symm

structure Ahead (relay : Relay R) : Prop where
  ordered : InOrder relay.calls
  pending : ∀ call ∈ relay.calls, call.succeeded = true → ∀ id row, relay.outbox.get id = some row →
    row.isPending = true → row.partitionKey = call.record.partitionKey →
      call.record.occurredAt.micros ≤ row.occurredAt.micros

theorem after_ahead (dispatcher : OutboxDispatcher) (relay : Relay R) (move : RelayMove R) (sound : relay.Sound)
    (fresh : ∀ record, move = .commit record → relay.outbox.get record.id = none) (orderly : move.Orderly relay)
    (ahead : relay.Ahead) : (relay.after dispatcher move).Ahead := by
  have step := relay.after_row dispatcher move sound fresh
  cases move with
  | commit record =>
    refine ⟨ahead.ordered,fun call member sent id row stored pending key => ?_⟩
    rcases (step id).pending row stored pending with ⟨other,same,equal⟩ | ⟨before,known,still,keys,times⟩
    · cases same
      subst equal
      exact orderly call member sent key.symm
    · rw [← times]
      exact ahead.pending call member sent id before known still (keys.trans key)
  | drain now =>
    have calls : (relay.after dispatcher (.drain now)).calls = relay.calls := by
      cases idle : relay.batch <;> simp only [after,idle]
    refine ⟨calls ▸ ahead.ordered,fun call member sent id row stored pending key => ?_⟩
    rw [calls] at member
    rcases (step id).pending row stored pending with ⟨other,same,_⟩ | ⟨before,known,still,keys,times⟩
    · cases same
    · rw [← times]
      exact ahead.pending call member sent id before known still (keys.trans key)
  | publish result =>
    cases batch : relay.batch with
    | nil =>
      simp only [after,batch]
      exact ahead
    | cons record rest =>
      obtain ⟨row,handed⟩ := sound.batch record (batch ▸ List.mem_cons_self)
      have calls : (relay.after dispatcher (.publish result)).calls =
          relay.calls ++ [{ record, at_ := relay.now, result }] := by simp only [after,batch]
      have key : row.partitionKey = record.partitionKey := by rw [handed.same]
      have time : row.occurredAt = record.occurredAt := by rw [handed.same]
      constructor
      · rw [calls]
        refine List.pairwise_append.mpr ⟨ahead.ordered,List.pairwise_singleton _ _,fun call member last new => ?_⟩
        rw [List.mem_singleton.mp new]
        intro sent _ same
        have before := ahead.pending call member sent record.id row handed.stored handed.pending (key.trans same.symm)
        rwa [time] at before
      · intro call member sent id after stored pending same
        rcases (step id).pending after stored pending with ⟨other,impossible,_⟩ | ⟨before,known,still,keys,times⟩
        · cases impossible
        rw [← times]
        rw [calls] at member
        rcases List.mem_append.mp member with old | new
        · exact ahead.pending call old sent id before known still (keys.trans same)
        · rw [List.mem_singleton.mp new] at sent same ⊢
          cases result with
          | raised error jitter => cases sent
          | sent =>
            have stored : before ∈ relay.outbox.values := by
              rw [relay.outbox.mem_values,relay.outbox.keyed id before known]
              exact known
            exact orderly record (by rw [batch]; rfl) before stored still (keys.trans same)

/-- In a run of orderly moves the records of one key are published in the order of their times. -/
theorem published_in_order (dispatcher : OutboxDispatcher) (moves : List (RelayMove R))
    (distinct : RelayMove.Distinct moves)
    (orderly : Throughout (after dispatcher) (fun relay move => move.Orderly relay) {} moves) :
    ∀ earlier later, moves = earlier ++ later → InOrder (run dispatcher earlier).calls := by
  have ahead (earlier later : List (RelayMove R)) (split : moves = earlier ++ later) :
      (run dispatcher earlier).Ahead := by
    induction earlier using List.reverseRecOn generalizing later with
    | nil => exact ⟨.nil,fun _ member => by cases member⟩
    | append_singleton before last ih =>
      have whole : moves = before ++ last :: later := by rw [split,List.append_assoc]; rfl
      have first : RelayMove.Distinct (before ++ [last]) := by
        unfold RelayMove.Distinct at distinct
        rw [split,List.filterMap_append] at distinct
        exact distinct.of_append_left
      obtain ⟨sound,known⟩ := run_sound dispatcher before (first.earlier _ last)
      rw [whole,throughout_append] at orderly
      rw [run_append]
      exact after_ahead dispatcher _ last sound (first.fresh _ last known) orderly.2.1 (ih (last :: later) whole)
  exact fun earlier later split => (ahead earlier later split).ordered

def listed (id : BitVec 128) (second : Nat) : StagedRecord ℚ :=
  { raceHeard with id := ⟨id⟩, occurredAt := ⟨second * 1000000⟩, partitionKey := "1" }

theorem published_in_order_retried : InOrder (run {} [.commit (listed 1 1),.commit (listed 2 2),.drain ⟨3000000⟩,
    .publish (.raised "TimeoutError: " 0),.publish (.raised "TimeoutError: " 0),.drain ⟨4000000⟩,.publish .sent,
    .publish .sent]).calls :=
  published_in_order {} _ (by unfold RelayMove.Distinct; decide +kernel) (by decide +kernel) _ [] (List.append_nil _).symm

/-- The older list fails once, the newer one is published in the same pass, and the retry of the
older one is published after it. -/
theorem older_list_published_last : ¬∀ (moves : List (RelayMove ℚ)), RelayMove.Distinct moves →
    RelayMove.Increasing moves → InOrder (run {} moves).calls := by
  intro claim
  have order := claim [.commit (listed 1 1),.commit (listed 2 2),.drain ⟨3000000⟩,.publish (.raised "TimeoutError: " 0),
    .publish .sent,.drain ⟨3500000⟩,.publish .sent] (by unfold RelayMove.Distinct; decide +kernel)
    (by unfold RelayMove.Increasing; decide +kernel)
  unfold InOrder at order
  revert order
  decide +kernel

end Relay
end ArcadiaRecommendation
