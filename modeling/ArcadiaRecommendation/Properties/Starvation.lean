import ArcadiaRecommendation.Foundation.Selection
import ArcadiaRecommendation.Foundation.Turns
import ArcadiaRecommendation.Properties.OutboxLifecycle

/-! No record of the outbox waits for ever: a pass that it was due for takes it up, or has a full batch of
records that are no younger, and none of these is taken up more often than its attempts allow. -/
namespace ArcadiaRecommendation
variable {R : Type}

namespace Relay

/-- The pass that a move starts, and whether a record was due for it. -/
def round (dispatcher : OutboxDispatcher) (id : UUID) (relay : Relay R) : RelayMove R → List (Round UUID)
  | .drain now =>
    if relay.batch.isEmpty then
      [{ batch := (dispatcher.store.due now dispatcher.batchSize relay.outbox).map fun record => record.id
         offered := (relay.outbox.get id).any (OutboxStore.ready now) }]
    else []
  | .commit _ | .publish _ => []

def rounds (dispatcher : OutboxDispatcher) (id : UUID) (relay : Relay R) : List (RelayMove R) → List (Round UUID)
  | [] => []
  | move :: rest => relay.round dispatcher id move ++ rounds dispatcher id (relay.after dispatcher move) rest

/-- Everything handed to the publisher so far, or about to be. -/
def handed (relay : Relay R) : List UUID :=
  (relay.calls.map fun call => call.record.id) ++ relay.batch.map fun record => record.id

theorem after_handed (dispatcher : OutboxDispatcher) (id : UUID) (relay : Relay R) (move : RelayMove R) :
    (relay.after dispatcher move).handed = relay.handed ++ Round.handed (relay.round dispatcher id move) := by
  cases move with
  | commit record => exact (List.append_nil _).symm
  | drain now =>
    cases batch : relay.batch with
    | nil =>
      simp only [after,handed,round,batch,Round.handed,List.map_nil,List.append_nil,List.isEmpty_nil,if_true,
        List.flatMap_cons,List.flatMap_nil]
    | cons record rest =>
      simp only [after,handed,round,batch,Round.handed,List.isEmpty_cons,if_false,Bool.false_eq_true,List.flatMap_nil,
        List.append_nil]
  | publish result =>
    cases batch : relay.batch with
    | nil => simp only [after,handed,round,batch,Round.handed,List.flatMap_nil,List.append_nil]
    | cons record rest =>
      simp only [after,handed,round,batch,Round.handed,List.flatMap_nil,List.append_nil,List.map_append,List.map_cons,
        List.map_nil,List.append_assoc,List.singleton_append]

theorem run_handed (dispatcher : OutboxDispatcher) (id : UUID) (relay : Relay R) (moves : List (RelayMove R)) :
    (moves.foldl (after dispatcher) relay).handed =
      relay.handed ++ Round.handed (relay.rounds dispatcher id moves) := by
  induction moves generalizing relay with
  | nil => exact (List.append_nil _).symm
  | cons move rest ih =>
    rw [List.foldl_cons,ih,after_handed dispatcher id,rounds,Round.handed,Round.handed,Round.handed,List.flatMap_append,
      List.append_assoc]

private theorem count_calls (relay : Relay R) (id : UUID) :
    (relay.calls.map fun call => call.record.id).count id = (relay.callsOf id).length := by
  rw [List.count,List.countP_map,callsOf,← List.countP_eq_length_filter]
  rfl

/-- Nothing is handed out more often than it may be attempted. -/
theorem Sound.handed_le {relay : Relay R} (sound : relay.Sound) (id : UUID) :
    relay.handed.count id ≤ OutboxDispatcher.maxAttempts := by
  have once : (relay.batch.map fun record => record.id).count id ≤ 1 := List.nodup_iff_count_le_one.mp sound.distinct id
  rw [handed,List.count_append,count_calls]
  by_cases waiting : id ∈ relay.batch.map fun record => record.id
  · obtain ⟨record,member,rfl⟩ := List.mem_map.mp waiting
    obtain ⟨row,held⟩ := sound.batch record member
    have accounted := sound.rows record.id row held.stored
    have short := (accounted.pending held.pending).2.2
    have counted := accounted.counted
    omega
  · rw [List.count_eq_zero.mpr waiting,Nat.add_zero]
    cases stored : relay.outbox.get id with
    | none =>
      rw [sound.absent id stored]
      exact Nat.zero_le _
    | some row =>
      have accounted := sound.rows id row stored
      rw [accounted.counted]
      exact accounted.bounded

private theorem mem_rounds {dispatcher : OutboxDispatcher} {id : UUID} {relay : Relay R} {moves : List (RelayMove R)}
    {round : Round UUID} (member : round ∈ relay.rounds dispatcher id moves) : ∃ earlier move later,
      moves = earlier ++ move :: later ∧ round ∈ (earlier.foldl (after dispatcher) relay).round dispatcher id move := by
  induction moves generalizing relay with
  | nil => cases member
  | cons move rest ih =>
    rcases List.mem_append.mp member with here | later
    · exact ⟨[],move,rest,rfl,here⟩
    · obtain ⟨earlier,other,after,split,found⟩ := ih later
      exact ⟨move :: earlier,other,after,congrArg (move :: ·) split,found⟩

/-- A row stays, and keeps its time. -/
theorem RowStep.occurred {relay next : Relay R} {move : RelayMove R} {id : UUID} (step : RowStep relay next move id)
    {row : OutboxRecord R} (stored : relay.outbox.get id = some row) :
    ∃ after, next.outbox.get id = some after ∧ after.occurredAt = row.occurredAt := by
  cases step with
  | kept same calls => exact ⟨row,same.trans stored,rfl⟩
  | committed record made key absent written calls =>
    rw [absent] at stored
    cases stored
  | leased before now lease known pending due written calls =>
    cases Option.some.inj (known.symm.trans stored)
    exact ⟨_,written,rfl⟩
  | called record before after result key handed written content rescheduled calls =>
    subst key
    cases Option.some.inj (handed.stored.symm.trans stored)
    refine ⟨after,written,?_⟩
    rw [content,handed.same]
    exact (OutboxDispatcher.publish_content record relay.now result).2.2

theorem run_occurred (dispatcher : OutboxDispatcher) (moves later : List (RelayMove R))
    (distinct : RelayMove.Distinct (moves ++ later)) {id : UUID} {row : OutboxRecord R}
    (stored : (run dispatcher moves).outbox.get id = some row) :
    ∃ after, (run dispatcher (moves ++ later)).outbox.get id = some after ∧ after.occurredAt = row.occurredAt := by
  induction later using List.reverseRecOn with
  | nil =>
    rw [List.append_nil]
    exact ⟨row,stored,rfl⟩
  | append_singleton later move ih =>
    rw [← List.append_assoc] at distinct ⊢
    obtain ⟨before,known,same⟩ := ih (distinct.earlier _ move)
    obtain ⟨sound,fresh⟩ := run_sound dispatcher (moves ++ later) (distinct.earlier _ move)
    have step := after_row dispatcher _ move sound (distinct.fresh _ move fresh) id
    rw [run_append]
    obtain ⟨after,read,time⟩ := step.occurred known
    exact ⟨after,read,time.trans same⟩

end Relay

/-- A record that was due and not taken up stood behind a full batch of records no younger than it. -/
theorem OutboxStore.due_full (store : OutboxStore) (now : DateTime) (limit : Nat) (outbox : OutboxTable R) {id : UUID}
    {row : OutboxRecord R} (stored : outbox.get id = some row) (ready : OutboxStore.ready now row = true)
    (missed : id ∉ (store.due now limit outbox).map fun record => record.id) :
    (store.due now limit outbox).length = store.bound limit ∧
      ∀ record ∈ store.due now limit outbox, record.occurredAt.micros ≤ row.occurredAt.micros := by
  have key := outbox.keyed id row stored
  have listed : row ∈ outbox.values.filter (OutboxStore.ready now) :=
    List.mem_filter.mpr ⟨(outbox.mem_values row).mpr ((congrArg outbox.get key).trans stored),ready⟩
  have out : row ∉ store.due now limit outbox := fun member => missed (List.mem_map.mpr ⟨row,member,key⟩)
  have preorders : Preorders fun first second : OutboxRecord R => first.occurredAt.micros ≤ second.occurredAt.micros :=
    Preorders.of_key fun record : OutboxRecord R => record.occurredAt.micros
  have parts := (selected_parts (fun first second : OutboxRecord R =>
    first.occurredAt.micros ≤ second.occurredAt.micros) (store.bound limit) _).mem_iff.mpr listed
  refine ⟨length_of_left_out _ _ _ row ((List.mem_append.mp parts).resolve_left out),fun record due => ?_⟩
  exact preorders.left_out _ _ row record listed out due

namespace Relay

def elders (relay : Relay R) (row : OutboxRecord R) : List UUID :=
  (relay.outbox.values.filter fun other => other.id ≠ row.id ∧ other.occurredAt.micros ≤ row.occurredAt.micros).map
    fun other => other.id

private theorem round_full (dispatcher : OutboxDispatcher) (moves : List (RelayMove R))
    (distinct : RelayMove.Distinct moves) {id : UUID} {row : OutboxRecord R}
    (stored : (run dispatcher moves).outbox.get id = some row) (round : Round UUID)
    (member : round ∈ rounds dispatcher id {} moves) (offered : round.offered = true) (missed : id ∉ round.batch) :
    dispatcher.store.bound dispatcher.batchSize ≤ round.batch.countP (· ∈ (run dispatcher moves).elders row) := by
  obtain ⟨earlier,move,later,rfl,found⟩ := mem_rounds member
  have before : RelayMove.Distinct earlier := by
    rw [RelayMove.Distinct,List.filterMap_append] at distinct
    exact distinct.of_append_left
  cases move with
  | commit record => cases found
  | publish result => cases found
  | drain now =>
    rw [Relay.round] at found
    split at found
    · cases List.mem_singleton.mp found
      change ((run dispatcher earlier).outbox.get id).any (OutboxStore.ready now) = true at offered
      cases known : (run dispatcher earlier).outbox.get id with
      | none =>
        rw [known,Option.any_none] at offered
        cases offered
      | some old =>
        rw [known,Option.any_some] at offered
        obtain ⟨again,read,time⟩ := run_occurred dispatcher earlier (.drain now :: later) distinct known
        cases Option.some.inj (stored.symm.trans read)
        obtain ⟨full,older⟩ := dispatcher.store.due_full now dispatcher.batchSize _ known offered missed
        rw [List.countP_eq_length.mpr,List.length_map]
        · exact Nat.le_of_eq full.symm
        · intro other listed
          obtain ⟨record,due,rfl⟩ := List.mem_map.mp listed
          have there := (dispatcher.store.mem_due now dispatcher.batchSize _ record due).1
          obtain ⟨last,kept,same⟩ := run_occurred dispatcher earlier (.drain now :: later) distinct there
          have key := (run dispatcher (earlier ++ .drain now :: later)).outbox.keyed record.id last kept
          have mine := (run dispatcher (earlier ++ .drain now :: later)).outbox.keyed id row stored
          refine decide_eq_true (List.mem_map.mpr ⟨last,List.mem_filter.mpr ⟨?_,?_⟩,key⟩)
          · rw [Table.mem_values,key]
            exact kept
          · refine decide_eq_true ⟨?_,?_⟩
            · rw [key,mine]
              rintro rfl
              exact missed listed
            · rw [same,time]
              exact older record due
    · cases found

/-- The passes that started while a record was due. -/
def offers (dispatcher : OutboxDispatcher) (moves : List (RelayMove R)) (id : UUID) : Nat :=
  (rounds dispatcher id {} moves).countP Round.offered

/-- No record starves. Between two passes, one that was due for more passes than its own failures and the
attempts at its elders account for is settled, and it was published unless every attempt failed. -/
theorem no_record_starves (dispatcher : OutboxDispatcher) (moves : List (RelayMove R))
    (distinct : RelayMove.Distinct moves) (id : UUID) (row : OutboxRecord R)
    (stored : (run dispatcher moves).outbox.get id = some row) (idle : (run dispatcher moves).batch = []) :
    let relay := run dispatcher moves
    let failed := (relay.callsOf id).countP fun call => !call.succeeded
    OutboxDispatcher.maxAttempts * (relay.elders row).length <
        dispatcher.store.bound dispatcher.batchSize * (offers dispatcher moves id - failed) →
      row.isPending = false ∧ (row.publishedAt.isSome = true ↔ failed < OutboxDispatcher.maxAttempts) := by
  intro relay failed enough
  obtain ⟨sound,_⟩ := run_sound dispatcher moves distinct
  have accounted := sound.rows id row stored
  have handed : relay.handed = Round.handed (rounds dispatcher id {} moves) := run_handed dispatcher id {} moves
  have passed := Round.turns (rounds dispatcher id {} moves) id (relay.elders row)
    (dispatcher.store.bound dispatcher.batchSize) OutboxDispatcher.maxAttempts
    (round_full dispatcher moves distinct stored) fun key => by
      rw [← handed]
      exact sound.handed_le key
  have settled : row.isPending = false := by
    by_contra waits
    have pending := Bool.not_eq_false _ |>.mp waits
    have taken : (Round.handed (rounds dispatcher id {} moves)).count id = failed := by
      rw [← handed,Relay.handed,idle,List.map_nil,List.append_nil,count_calls,accounted.counted]
      exact (accounted.pending pending).2.1.symm
    rw [taken] at passed
    exact absurd passed (Nat.not_le.mpr enough)
  refine ⟨settled,?_,fun short => ?_⟩
  · intro published
    have once : (relay.callsOf id).countP PublishCall.succeeded = 1 := by
      rw [accounted.published,if_pos published]
    have total : (relay.callsOf id).length = (relay.callsOf id).countP PublishCall.succeeded + failed :=
      PublishCall.length_eq _
    have counted : (relay.callsOf id).length = row.attempts := accounted.counted
    have bounded := accounted.bounded
    omega
  · have alive : row.deadLettered = false := by
      cases lettered : row.deadLettered with
      | false => rfl
      | true => exact absurd (accounted.dead.mp lettered) (Nat.ne_of_lt short)
    rw [OutboxRecord.isPending,alive,Bool.not_false,Bool.and_true] at settled
    rw [← Option.not_isNone,settled]
    rfl

/-- An older record fills the batch and fails until it is given up. The other one is passed over
five times, fails once and is sent. -/
def raceWaited : List (RelayMove ℚ) :=
  [.commit { raceHeard with id := ⟨2⟩, occurredAt := ⟨-1⟩ },.commit raceHeard] ++
    (List.range 6).flatMap (fun minute => [.drain ⟨minute * 60000000⟩,.publish (.raised "KafkaTimeoutError" 0)]) ++
    [.drain ⟨360000000⟩,.publish .sent]

theorem no_record_starves_waited : ∃ row, (run { batchSize := 1 } raceWaited).outbox.get ⟨1⟩ = some row ∧
    (run { batchSize := 1 } raceWaited).elders row = [⟨2⟩] ∧ row.isPending = false ∧ row.publishedAt.isSome = true := by
  have known : ((run { batchSize := 1 } raceWaited).outbox.get ⟨1⟩).map (run { batchSize := 1 } raceWaited).elders =
      some [⟨2⟩] := by decide +kernel
  obtain ⟨row,stored,older⟩ := Option.map_eq_some_iff.mp known
  have distinct : RelayMove.Distinct raceWaited := by
    unfold RelayMove.Distinct
    decide +kernel
  have offered : ((run { batchSize := 1 } raceWaited).callsOf ⟨1⟩).countP (fun call => !call.succeeded) = 1 ∧
      offers { batchSize := 1 } raceWaited ⟨1⟩ = 7 := by decide +kernel
  obtain ⟨settled,published⟩ := no_record_starves { batchSize := 1 } raceWaited distinct ⟨1⟩ row stored (by decide +kernel) (by
    rw [older,offered.1,offered.2]
    decide)
  exact ⟨row,stored,older,settled,published.mpr (by rw [offered.1]; decide)⟩

end Relay

end ArcadiaRecommendation
