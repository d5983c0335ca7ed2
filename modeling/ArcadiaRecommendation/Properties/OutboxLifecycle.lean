import ArcadiaRecommendation.Foundation.Paced
import ArcadiaRecommendation.Memory.Generation
import ArcadiaRecommendation.Messaging.Outbox

/-! The mutable fields of an outbox record account for every call made for it, over any passes
of a dispatcher and with records committed at any moment. -/
namespace ArcadiaRecommendation
variable {R : Type}

theorem isPending_iff (record : OutboxRecord R) :
    record.isPending = true ↔ record.publishedAt = none ∧ record.deadLettered = false := by
  unfold OutboxRecord.isPending
  rw [Bool.and_eq_true,Option.isNone_iff_eq_none,Bool.not_eq_true']

namespace OutboxStore

theorem mem_due (store : OutboxStore) (now : DateTime) (limit : Nat) (outbox : OutboxTable R) (record : OutboxRecord R)
    (member : record ∈ store.due now limit outbox) :
    outbox.get record.id = some record ∧ record.isPending = true ∧
      ∀ at_, record.nextAttemptAt = some at_ → at_.micros ≤ now.micros := by
  have found := (mem_sortedBy _ _ record).mp (List.mem_of_mem_take member)
  obtain ⟨stored,test⟩ := List.mem_filter.mp found
  unfold ready at test
  rw [Bool.and_eq_true] at test
  refine ⟨(outbox.mem_values record).mp stored,test.1,?_⟩
  intro at_ scheduled
  have late := test.2
  rw [scheduled] at late
  exact of_decide_eq_true late

private theorem due_distinct (store : OutboxStore) (now : DateTime) (limit : Nat) (outbox : OutboxTable R) :
    ((store.due now limit outbox).map fun record => record.id).Nodup := by
  have values : (outbox.values.map fun record => record.id).Nodup := by
    rw [outbox.keys_values]
    exact outbox.keys_nodup
  have sorted := (List.perm_insertionSort (fun first second : OutboxRecord R =>
    first.occurredAt.micros ≤ second.occurredAt.micros) (outbox.values.filter (ready now))).map fun record => record.id
  exact (sorted.nodup_iff.mpr (values.sublist (List.filter_sublist.map _))).sublist ((List.take_sublist _ _).map _)

theorem get_handedOut (store : OutboxStore) (now : DateTime) (batch : List (OutboxRecord R)) (outbox : OutboxTable R)
    (stored : ∀ record ∈ batch, outbox.get record.id = some record) (id : UUID) :
    (store.handedOut now batch outbox).get id = outbox.get id ∨
      ∃ record ∈ batch, record.id = id ∧ ∃ lease,
        (store.handedOut now batch outbox).get id = some (leased now lease record) := by
  cases store with
  | memory => exact .inl rfl
  | sql batchSize lease =>
    unfold handedOut
    dsimp only
    induction batch using List.reverseRecOn with
    | nil => exact .inl rfl
    | append_singleton earlier last ih =>
      rw [List.map_append,List.foldl_append,List.map_singleton,List.foldl_cons,List.foldl_nil,Table.get_upsert]
      split
      · rename_i same
        exact .inr ⟨last,List.mem_append_right _ List.mem_cons_self,same.symm,lease,rfl⟩
      · rcases ih fun record member => stored record (List.mem_append_left _ member) with kept | ⟨record,member,rest⟩
        · exact .inl kept
        · exact .inr ⟨record,List.mem_append_left _ member,rest⟩

theorem get_handedOut_self (batchSize lease : Nat) (now : DateTime) (batch : List (OutboxRecord R)) (outbox : OutboxTable R)
    (distinct : (batch.map fun record => record.id).Nodup) (record : OutboxRecord R) (member : record ∈ batch) :
    ((OutboxStore.sql batchSize lease).handedOut now batch outbox).get record.id = some (leased now lease record) := by
  unfold handedOut
  dsimp only
  induction batch using List.reverseRecOn with
  | nil => cases member
  | append_singleton earlier last ih =>
    rw [List.map_append,List.nodup_append] at distinct
    obtain ⟨before,_,apart⟩ := distinct
    rw [List.map_append,List.foldl_append,List.map_singleton,List.foldl_cons,List.foldl_nil,Table.get_upsert]
    rcases List.mem_append.mp member with inside | final
    · have other : record.id ≠ last.id := apart record.id (List.mem_map_of_mem inside) last.id List.mem_cons_self
      rw [if_neg (show record.id ≠ (leased now lease last).id from other)]
      exact ih before inside
    · cases List.mem_singleton.mp final
      exact if_pos rfl

/-- The row of a call takes what the call left in the record, but for a schedule that no longer
matters. No other row changes. -/
theorem get_record (store : OutboxStore) (outbox : OutboxTable R) (record row : OutboxRecord R) (now : DateTime)
    (result : PublishResult) (stored : outbox.get record.id = some row)
    (same : row = { record with nextAttemptAt := row.nextAttemptAt }) :
    ∃ after, (∀ id, (store.record outbox result (OutboxDispatcher.publish record now result)).get id =
        if id = record.id then some after else outbox.get id) ∧
      after = { OutboxDispatcher.publish record now result with nextAttemptAt := after.nextAttemptAt } ∧
      (after.isPending = true → after.nextAttemptAt = (OutboxDispatcher.publish record now result).nextAttemptAt) := by
  have key := (OutboxDispatcher.publish_content record now result).1
  generalize row.nextAttemptAt = scheduled at same
  subst same
  cases store with
  | memory =>
    refine ⟨OutboxDispatcher.publish record now result,fun id => ?_,rfl,fun _ => rfl⟩
    unfold OutboxStore.record
    rw [Table.get_upsert,key]
  | sql batchSize lease =>
    have read := (congrArg outbox.get key).trans stored
    unfold OutboxStore.record
    dsimp only
    rw [read]
    cases result with
    | sent =>
      refine ⟨{ OutboxDispatcher.publish record now .sent with nextAttemptAt := scheduled },fun id => ?_,rfl,?_⟩
      · exact Table.get_upsert _ _ id
      · intro pending
        cases ((isPending_iff _).mp pending).1
    | raised error jitter =>
      refine ⟨OutboxDispatcher.publish record now (.raised error jitter),fun id => ?_,rfl,fun _ => rfl⟩
      by_cases full : OutboxDispatcher.maxAttempts ≤ record.attempts + 1
      · rw [OutboxDispatcher.publish_dead record now error jitter full]
        exact Table.get_upsert _ _ id
      · rw [OutboxDispatcher.publish_again record now error jitter full]
        exact Table.get_upsert _ _ id

end OutboxStore

/-- One call failed, and the next one for the record waited out its backoff. -/
def PublishCall.apart (place : Nat) (first second : PublishCall R) : Prop :=
  first.succeeded = false ∧ first.at_.micros + OutboxDispatcher.backoff (place + 1) ≤ second.at_.micros

theorem PublishCall.length_eq (calls : List (PublishCall R)) : calls.length =
    calls.countP PublishCall.succeeded + calls.countP fun call => !call.succeeded := by
  rw [List.length_eq_countP_add_countP PublishCall.succeeded]
  congr 2
  funext call
  cases call.succeeded <;> rfl

/-- What the fields of a row say about the calls made for it. -/
structure Accounted (row : OutboxRecord R) (calls : List (PublishCall R)) : Prop where
  counted : calls.length = row.attempts
  bounded : row.attempts ≤ OutboxDispatcher.maxAttempts
  paced : Paced PublishCall.apart calls
  published : calls.countP PublishCall.succeeded = if row.publishedAt.isSome then 1 else 0
  dead : row.deadLettered = true ↔ calls.countP (fun call => !call.succeeded) = OutboxDispatcher.maxAttempts
  scheduled : row.isPending = true → ∀ last ∈ calls.getLast?, ∃ at_, row.nextAttemptAt = some at_ ∧
    last.at_.micros + OutboxDispatcher.backoff row.attempts ≤ at_.micros

namespace Accounted

theorem staged (record : StagedRecord R) : Accounted record.toOutboxRecord [] where
  counted := record.unattempted.symm
  bounded := by rw [record.unattempted]; exact Nat.zero_le _
  paced := paced_nil _
  published := by rw [record.unpublished]; rfl
  dead := by
    rw [record.alive]
    constructor
    · intro impossible
      cases impossible
    · intro impossible
      cases impossible
  scheduled _ last none := by cases none

theorem pending {row : OutboxRecord R} {calls : List (PublishCall R)} (accounted : Accounted row calls)
    (pending : row.isPending = true) : calls.countP PublishCall.succeeded = 0 ∧
      calls.countP (fun call => !call.succeeded) = row.attempts ∧ row.attempts < OutboxDispatcher.maxAttempts := by
  obtain ⟨unpublished,alive⟩ := (isPending_iff row).mp pending
  have none : calls.countP PublishCall.succeeded = 0 := by
    rw [accounted.published,unpublished]
    rfl
  have live : calls.countP (fun call => !call.succeeded) ≠ OutboxDispatcher.maxAttempts := by
    rw [Ne,← accounted.dead,alive]
    exact Bool.false_ne_true
  have total := PublishCall.length_eq calls
  have counted := accounted.counted
  have bounded := accounted.bounded
  omega

section
variable {row after : OutboxRecord R} {calls : List (PublishCall R)} (accounted : Accounted row calls)
  (pending : row.isPending = true)
include accounted pending

private theorem paced_again (call : PublishCall R)
    (waited : ∀ last ∈ calls.getLast?, last.at_.micros + OutboxDispatcher.backoff row.attempts ≤ call.at_.micros) :
    Paced PublishCall.apart (calls ++ [call]) := by
  obtain ⟨none,_,_⟩ := accounted.pending pending
  have counted := accounted.counted
  apply accounted.paced.append
  intro last member
  have unsent : last.succeeded = false := by
    by_contra sent
    have some : 0 < calls.countP PublishCall.succeeded :=
      List.countP_pos_iff.mpr ⟨last,List.mem_of_getLast? member,Bool.eq_true_of_not_eq_false sent⟩
    omega
  have nonempty : 0 < calls.length := List.length_pos_of_mem (List.mem_of_getLast? member)
  refine ⟨unsent,?_⟩
  rw [show calls.length - 1 + 1 = row.attempts by omega]
  exact waited last member

private theorem one_sent (call : PublishCall R) (paced : Paced PublishCall.apart (calls ++ [call]))
    (succeeded : call.succeeded = true) (again : after.attempts = row.attempts + 1)
    (sent : after.publishedAt.isSome = true) (live : after.deadLettered = row.deadLettered) :
    Accounted after (calls ++ [call]) := by
  obtain ⟨none,failed,short⟩ := accounted.pending pending
  have counted := accounted.counted
  constructor
  case counted =>
    rw [List.length_append,List.length_singleton]
    omega
  case bounded => omega
  case paced => exact paced
  case published =>
    rw [List.countP_append,List.countP_singleton,none,succeeded,sent]
    rfl
  case dead =>
    rw [live,((isPending_iff row).mp pending).2,List.countP_append,List.countP_singleton,succeeded,failed]
    constructor
    · intro impossible
      cases impossible
    · intro full
      exact absurd full (Nat.ne_of_lt short)
  case scheduled =>
    intro still
    rw [((isPending_iff after).mp still).1] at sent
    cases sent

private theorem one_failed (call : PublishCall R) (paced : Paced PublishCall.apart (calls ++ [call]))
    (missed : call.succeeded = false) (again : after.attempts = row.attempts + 1) (unsent : after.publishedAt = none)
    (dead : after.deadLettered = decide (OutboxDispatcher.maxAttempts ≤ row.attempts + 1))
    (scheduled : after.deadLettered = false → ∃ at_, after.nextAttemptAt = some at_ ∧
      call.at_.micros + OutboxDispatcher.backoff after.attempts ≤ at_.micros) :
    Accounted after (calls ++ [call]) := by
  obtain ⟨none,failed,short⟩ := accounted.pending pending
  have counted := accounted.counted
  constructor
  case counted =>
    rw [List.length_append,List.length_singleton]
    omega
  case bounded => omega
  case paced => exact paced
  case published =>
    rw [List.countP_append,List.countP_singleton,none,missed,unsent]
    rfl
  case dead =>
    rw [dead,decide_eq_true_iff,List.countP_append,failed,List.countP_singleton,missed]
    have bound : row.attempts + 1 ≤ OutboxDispatcher.maxAttempts := short
    exact ⟨fun full => Nat.le_antisymm bound full,fun full => Nat.le_of_eq full.symm⟩
  case scheduled =>
    intro still last member
    rw [List.getLast?_concat] at member
    cases Option.some.inj member
    exact scheduled ((isPending_iff after).mp still).2

theorem attempted (record : OutboxRecord R) (now : DateTime) (result : PublishResult)
    (same : row = { record with nextAttemptAt := row.nextAttemptAt })
    (waited : ∀ last ∈ calls.getLast?, last.at_.micros + OutboxDispatcher.backoff row.attempts ≤ now.micros)
    (written : after = { OutboxDispatcher.publish record now result with nextAttemptAt := after.nextAttemptAt })
    (rescheduled : after.isPending = true →
      after.nextAttemptAt = (OutboxDispatcher.publish record now result).nextAttemptAt) :
    Accounted after (calls ++ [{ record, at_ := now, result }]) := by
  have paced := accounted.paced_again pending { record, at_ := now, result } waited
  have columns : record.attempts = row.attempts ∧ record.publishedAt = row.publishedAt ∧
      record.deadLettered = row.deadLettered := by
    rw [same]
    exact ⟨rfl,rfl,rfl⟩
  obtain ⟨attempts,publishedAt,deadLettered⟩ := columns
  obtain ⟨unpublished,alive⟩ := (isPending_iff row).mp pending
  cases result with
  | sent =>
    have settled : after.attempts = record.attempts + 1 ∧ after.publishedAt = some now ∧
        after.deadLettered = record.deadLettered := by
      rw [written]
      exact ⟨rfl,rfl,rfl⟩
    obtain ⟨again,sent,live⟩ := settled
    exact accounted.one_sent pending _ paced rfl (attempts ▸ again) (by rw [sent]; rfl) (live.trans deadLettered)
  | raised error jitter =>
    obtain ⟨kept,counter,letter⟩ := OutboxDispatcher.publish_raised record now error jitter
    have unsent : after.publishedAt = none := by
      rw [written,← unpublished,← publishedAt]
      exact kept
    have again : after.attempts = record.attempts + 1 := by
      rw [written]
      exact counter
    have dead : after.deadLettered = decide (OutboxDispatcher.maxAttempts ≤ record.attempts + 1) := by
      rw [written]
      refine letter.trans ?_
      rw [deadLettered,alive,Bool.or_false]
    refine accounted.one_failed pending _ paced rfl (attempts ▸ again) unsent (attempts ▸ dead) fun live => ?_
    have next := rescheduled ((isPending_iff after).mpr ⟨unsent,live⟩)
    rw [dead,decide_eq_false_iff_not] at live
    rw [OutboxDispatcher.publish_again record now error jitter live] at next
    refine ⟨_,next,?_⟩
    rw [again]
    exact Int.le_add_of_nonneg_right (Int.natCast_nonneg jitter)

end

theorem leased {row : OutboxRecord R} {calls : List (PublishCall R)} (accounted : Accounted row calls) (now : DateTime)
    (lease : Nat) (due : ∀ at_, row.nextAttemptAt = some at_ → at_.micros ≤ now.micros) :
    Accounted (OutboxStore.leased now lease row) calls where
  counted := accounted.counted
  bounded := accounted.bounded
  paced := accounted.paced
  published := accounted.published
  dead := accounted.dead
  scheduled pending last member := by
    obtain ⟨at_,scheduled,waited⟩ := accounted.scheduled pending last member
    have reached := due at_ scheduled
    refine ⟨_,rfl,?_⟩
    show last.at_.micros + OutboxDispatcher.backoff row.attempts ≤ now.micros + lease
    omega

end Accounted

namespace RelayMove

theorem Distinct.earlier (moves : List (RelayMove R)) (last : RelayMove R) (distinct : Distinct (moves ++ [last])) :
    Distinct moves := by
  unfold Distinct at distinct
  rw [List.filterMap_append] at distinct
  exact distinct.of_append_left

theorem Distinct.fresh (moves : List (RelayMove R)) (last : RelayMove R) (distinct : Distinct (moves ++ [last]))
    {outbox : OutboxTable R} (known : ∀ id row, outbox.get id = some row → id ∈ moves.filterMap committed)
    (record : StagedRecord R) (made : last = .commit record) : outbox.get record.id = none := by
  subst made
  unfold Distinct at distinct
  rw [List.filterMap_append] at distinct
  cases stored : outbox.get record.id with
  | none => rfl
  | some row =>
    have apart := List.disjoint_of_nodup_append distinct (known record.id row stored)
    exact absurd List.mem_cons_self apart

end RelayMove

namespace Relay

/-- A record of the batch is still pending, its row differs at most in the schedule, and the
backoff of its last call is over. -/
structure Handed (relay : Relay R) (record row : OutboxRecord R) : Prop where
  stored : relay.outbox.get record.id = some row
  same : row = { record with nextAttemptAt := row.nextAttemptAt }
  pending : row.isPending = true
  waited : ∀ last ∈ (relay.callsOf record.id).getLast?,
    last.at_.micros + OutboxDispatcher.backoff row.attempts ≤ relay.now.micros

structure Sound (relay : Relay R) : Prop where
  rows : ∀ id row, relay.outbox.get id = some row → Accounted row (relay.callsOf id)
  absent : ∀ id, relay.outbox.get id = none → relay.callsOf id = []
  distinct : (relay.batch.map fun record => record.id).Nodup
  batch : ∀ record ∈ relay.batch, ∃ row, relay.Handed record row

inductive RowStep (relay next : Relay R) (move : RelayMove R) (id : UUID) : Prop
  | kept (row : next.outbox.get id = relay.outbox.get id) (calls : next.callsOf id = relay.callsOf id)
  | committed (record : StagedRecord R) (made : move = .commit record) (key : record.id = id)
      (absent : relay.outbox.get id = none)
      (row : next.outbox.get id = some record.toOutboxRecord) (calls : next.callsOf id = relay.callsOf id)
  | leased (row : OutboxRecord R) (now : DateTime) (lease : Nat) (stored : relay.outbox.get id = some row)
      (pending : row.isPending = true) (due : ∀ at_, row.nextAttemptAt = some at_ → at_.micros ≤ now.micros)
      (leased : next.outbox.get id = some (OutboxStore.leased now lease row)) (calls : next.callsOf id = relay.callsOf id)
  | called (record row after : OutboxRecord R) (result : PublishResult) (key : record.id = id)
      (handed : relay.Handed record row) (row : next.outbox.get id = some after)
      (written : after =
        { OutboxDispatcher.publish record relay.now result with nextAttemptAt := after.nextAttemptAt })
      (rescheduled : after.isPending = true →
        after.nextAttemptAt = (OutboxDispatcher.publish record relay.now result).nextAttemptAt)
      (calls : next.callsOf id = relay.callsOf id ++ [{ record, at_ := relay.now, result }])

theorem after_publish (dispatcher : OutboxDispatcher) (relay : Relay R) (record row : OutboxRecord R)
    (rest : List (OutboxRecord R)) (result : PublishResult) (batch : relay.batch = record :: rest)
    (handed : relay.Handed record row) :
    let next := relay.after dispatcher (.publish result)
    next.batch = rest ∧ next.now = relay.now ∧
      (∀ id, next.callsOf id = if id = record.id then relay.callsOf id ++ [{ record, at_ := relay.now, result }]
        else relay.callsOf id) ∧
      ∃ after, (∀ id, next.outbox.get id = if id = record.id then some after else relay.outbox.get id) ∧
        after = { OutboxDispatcher.publish record relay.now result with nextAttemptAt := after.nextAttemptAt } ∧
        (after.isPending = true →
          after.nextAttemptAt = (OutboxDispatcher.publish record relay.now result).nextAttemptAt) := by
  have written := dispatcher.store.get_record relay.outbox record row relay.now result handed.stored handed.same
  simp only [after,batch]
  refine ⟨trivial,trivial,fun id => ?_,written⟩
  by_cases key : id = record.id
  · simp only [callsOf,List.filter_append,key,List.filter_cons,List.filter_nil,decide_true,if_true]
  · have other : ¬record.id = id := fun equal => key equal.symm
    simp only [callsOf,List.filter_append,List.filter_cons,List.filter_nil,decide_eq_true_eq,if_neg other,if_neg key,
      List.append_nil]

theorem after_row (dispatcher : OutboxDispatcher) (relay : Relay R) (move : RelayMove R) (sound : relay.Sound)
    (fresh : ∀ record, move = .commit record → relay.outbox.get record.id = none) (id : UUID) :
    RowStep relay (relay.after dispatcher move) move id := by
  cases move with
  | commit record =>
    by_cases same : id = record.id
    · refine .committed record rfl same.symm (same ▸ fresh record rfl) ?_ rfl
      simp only [after,Table.get_upsert,if_pos same]
    · refine .kept ?_ rfl
      simp only [after,Table.get_upsert,if_neg same]
  | drain now =>
    cases idle : relay.batch with
    | cons first rest =>
      refine .kept ?_ ?_ <;> simp only [after,idle]
    | nil =>
      have due := dispatcher.store.mem_due now dispatcher.batchSize relay.outbox
      have handed := dispatcher.store.get_handedOut now (dispatcher.store.due now dispatcher.batchSize relay.outbox)
        relay.outbox (fun record member => (due record member).1) id
      have calls : (relay.after dispatcher (.drain now)).callsOf id = relay.callsOf id := by
        simp only [after,idle]
        rfl
      rcases handed with kept | ⟨record,member,key,lease,leased⟩
      · refine .kept ?_ calls
        simp only [after,idle]
        exact kept
      · obtain ⟨stored,pending,late⟩ := due record member
        refine .leased record now lease (key ▸ stored) pending late ?_ calls
        simp only [after,idle]
        exact leased
  | publish result =>
    cases batch : relay.batch with
    | nil =>
      refine .kept ?_ ?_ <;> simp only [after,batch]
    | cons record rest =>
      obtain ⟨row,handed⟩ := sound.batch record (batch ▸ List.mem_cons_self)
      obtain ⟨_,_,calls,written,rows,same,rescheduled⟩ := relay.after_publish dispatcher record row rest result batch handed
      have read := rows id
      have called := calls id
      by_cases key : id = record.id
      · rw [if_pos key] at read called
        exact .called record row written result key.symm handed read same rescheduled called
      · rw [if_neg key] at read called
        exact .kept read called

theorem RowStep.accounted {relay next : Relay R} {move : RelayMove R} {id : UUID}
    (step : RowStep relay next move id) (sound : relay.Sound)
    (row : OutboxRecord R) (stored : next.outbox.get id = some row) : Accounted row (next.callsOf id) := by
  cases step with
  | kept same calls =>
    rw [calls]
    exact sound.rows id row (same ▸ stored)
  | committed record made key absent committed calls =>
    cases Option.some.inj (committed.symm.trans stored)
    rw [calls,sound.absent id absent]
    exact Accounted.staged record
  | leased before now lease known pending due leased calls =>
    cases Option.some.inj (leased.symm.trans stored)
    rw [calls]
    exact (sound.rows id before known).leased now lease due
  | called record before after result key handed read written rescheduled calls =>
    cases Option.some.inj (read.symm.trans stored)
    rw [calls,← key]
    exact (sound.rows record.id before handed.stored).attempted handed.pending record relay.now result handed.same
      handed.waited written rescheduled

private theorem RowStep.uncalled {relay next : Relay R} {move : RelayMove R} {id : UUID}
    (step : RowStep relay next move id) (sound : relay.Sound) (missing : next.outbox.get id = none) :
    next.callsOf id = [] := by
  cases step with
  | kept same calls => rw [calls,sound.absent id (same ▸ missing)]
  | committed record made key absent committed calls => cases committed.symm.trans missing
  | leased before now lease known pending due leased calls => cases leased.symm.trans missing
  | called record before after result key handed read written rescheduled calls => cases read.symm.trans missing

theorem RowStep.settled {relay next : Relay R} {move : RelayMove R} {id : UUID}
    (step : RowStep relay next move id) (row : OutboxRecord R)
    (stored : relay.outbox.get id = some row) (settled : row.isPending = false) :
    next.outbox.get id = some row ∧ next.callsOf id = relay.callsOf id := by
  cases step with
  | kept same calls => exact ⟨same.trans stored,calls⟩
  | committed record made key absent committed calls => cases absent.symm.trans stored
  | leased before now lease known pending due leased calls =>
    cases Option.some.inj (known.symm.trans stored)
    rw [pending] at settled
    cases settled
  | called record before after result key handed read written rescheduled calls =>
    subst key
    cases Option.some.inj (handed.stored.symm.trans stored)
    have pending := handed.pending
    rw [settled] at pending
    cases pending

private theorem RowStep.persists {relay next : Relay R} {move : RelayMove R} {id : UUID}
    (step : RowStep relay next move id) (row : OutboxRecord R) (stored : relay.outbox.get id = some row) :
    ∃ after, next.outbox.get id = some after := by
  cases step with
  | kept same calls => exact ⟨row,same.trans stored⟩
  | committed record made key absent committed calls => exact ⟨_,committed⟩
  | leased before now lease known pending due leased calls => exact ⟨_,leased⟩
  | called record before after result key handed read written rescheduled calls => exact ⟨_,read⟩

theorem after_sound (dispatcher : OutboxDispatcher) (relay : Relay R) (move : RelayMove R) (sound : relay.Sound)
    (fresh : ∀ record, move = .commit record → relay.outbox.get record.id = none) :
    (relay.after dispatcher move).Sound := by
  have step := relay.after_row dispatcher move sound fresh
  have rows := fun id row stored => (step id).accounted sound row stored
  have absent := fun id missing => (step id).uncalled sound missing
  cases move with
  | commit record =>
    refine ⟨rows,absent,sound.distinct,fun other member => ?_⟩
    obtain ⟨row,handed⟩ := sound.batch other member
    have apart : other.id ≠ record.id := by
      intro equal
      have missing := fresh record rfl
      rw [← equal,handed.stored] at missing
      cases missing
    refine ⟨row,?_,handed.same,handed.pending,handed.waited⟩
    simp only [after,Table.get_upsert,if_neg apart]
    exact handed.stored
  | drain now =>
    cases idle : relay.batch with
    | cons first rest =>
      simp only [after,idle]
      exact sound
    | nil =>
      refine ⟨rows,absent,?_,?_⟩
      · simp only [after,idle]
        exact dispatcher.store.due_distinct now dispatcher.batchSize relay.outbox
      · simp only [after,idle]
        intro record member
        have due := dispatcher.store.mem_due now dispatcher.batchSize relay.outbox
        obtain ⟨stored,pending,late⟩ := due record member
        have waited : ∀ last ∈ (relay.callsOf record.id).getLast?,
            last.at_.micros + OutboxDispatcher.backoff record.attempts ≤ now.micros := by
          intro last final
          obtain ⟨at_,scheduled,reached⟩ := (sound.rows record.id record stored).scheduled pending last final
          have passed := late at_ scheduled
          omega
        rcases dispatcher.store.get_handedOut now _ relay.outbox (fun record member => (due record member).1) record.id
          with kept | ⟨other,inside,key,lease,leased⟩
        · exact ⟨record,kept.trans stored,rfl,pending,waited⟩
        · have equal : other = record := by
            have known := (due other inside).1
            rw [key,stored] at known
            exact (Option.some.inj known).symm
          subst equal
          exact ⟨_,leased,rfl,pending,waited⟩
  | publish result =>
    cases batch : relay.batch with
    | nil =>
      simp only [after,batch]
      exact sound
    | cons record rest =>
      obtain ⟨row,handed⟩ := sound.batch record (batch ▸ List.mem_cons_self)
      obtain ⟨left,time,calls,written,read,_,_⟩ := relay.after_publish dispatcher record row rest result batch handed
      have distinct := sound.distinct
      rw [batch,List.map_cons,List.nodup_cons] at distinct
      refine ⟨rows,absent,left ▸ distinct.2,fun other member => ?_⟩
      rw [left] at member
      obtain ⟨known,waiting⟩ := sound.batch other (batch ▸ List.mem_cons_of_mem record member)
      have apart : other.id ≠ record.id := by
        intro equal
        exact distinct.1 (equal ▸ List.mem_map_of_mem member)
      have there := read other.id
      have made := calls other.id
      rw [if_neg apart] at there made
      exact ⟨known,there.trans waiting.stored,waiting.same,waiting.pending,by rw [made,time]; exact waiting.waited⟩

private theorem sound_empty : ({} : Relay R).Sound where
  rows _ _ stored := by cases stored
  absent _ _ := rfl
  distinct := List.nodup_nil
  batch _ member := by cases member

theorem run_sound (dispatcher : OutboxDispatcher) (moves : List (RelayMove R)) (distinct : RelayMove.Distinct moves) :
    (run dispatcher moves).Sound ∧
      ∀ id row, (run dispatcher moves).outbox.get id = some row → id ∈ moves.filterMap RelayMove.committed := by
  induction moves using List.reverseRecOn with
  | nil => exact ⟨sound_empty,fun _ _ stored => by cases stored⟩
  | append_singleton earlier last ih =>
    obtain ⟨sound,known⟩ := ih (distinct.earlier _ last)
    have fresh := distinct.fresh _ last known
    rw [run_append]
    refine ⟨after_sound dispatcher _ last sound fresh,fun id row stored => ?_⟩
    rw [List.filterMap_append,List.mem_append]
    cases after_row dispatcher _ last sound fresh id with
    | kept same calls => exact .inl (known id row (same ▸ stored))
    | leased before now lease old pending due leased calls => exact .inl (known id before old)
    | called record before after result key handed read written rescheduled calls =>
      exact .inl (known id before (key ▸ handed.stored))
    | committed record made key absent committed calls =>
      rw [made]
      exact .inr (key ▸ List.mem_cons_self)

/-- A record is never dropped, and one that was published or dead-lettered is left alone. -/
theorem run_kept (dispatcher : OutboxDispatcher) (moves later : List (RelayMove R))
    (distinct : RelayMove.Distinct (moves ++ later)) (id : UUID) (row : OutboxRecord R)
    (stored : (run dispatcher moves).outbox.get id = some row) :
    (∃ kept, (run dispatcher (moves ++ later)).outbox.get id = some kept) ∧
      (row.isPending = false → (run dispatcher (moves ++ later)).outbox.get id = some row ∧
        (run dispatcher (moves ++ later)).callsOf id = (run dispatcher moves).callsOf id) := by
  induction later using List.reverseRecOn with
  | nil =>
    rw [List.append_nil]
    exact ⟨⟨row,stored⟩,fun _ => ⟨stored,rfl⟩⟩
  | append_singleton earlier last ih =>
    rw [← List.append_assoc] at distinct ⊢
    obtain ⟨sound,known⟩ := run_sound dispatcher (moves ++ earlier) (distinct.earlier _ last)
    obtain ⟨⟨kept,present⟩,settled⟩ := ih (distinct.earlier _ last)
    have step := after_row dispatcher _ last sound (distinct.fresh _ last known) id
    rw [run_append]
    refine ⟨step.persists kept present,fun done => ?_⟩
    obtain ⟨same,calls⟩ := settled done
    obtain ⟨again,still⟩ := step.settled row same done
    exact ⟨again,still.trans calls⟩

/-- The life of a record: its attempts count its calls, it ends with one success or with as many
failures as are allowed, nothing else ends it, and every retry waits out the backoff of the failure before. -/
theorem outbox_lifecycle (dispatcher : OutboxDispatcher) (moves later : List (RelayMove R))
    (distinct : RelayMove.Distinct (moves ++ later)) (id : UUID) (row : OutboxRecord R)
    (stored : (run dispatcher moves).outbox.get id = some row) :
    let calls := (run dispatcher moves).callsOf id
    let sent := calls.countP PublishCall.succeeded
    let failed := calls.countP fun call => !call.succeeded
    (calls.length = row.attempts ∧ row.attempts ≤ OutboxDispatcher.maxAttempts) ∧
      (row.publishedAt.isSome = true ↔ sent = 1) ∧
      (row.deadLettered = true ↔ failed = OutboxDispatcher.maxAttempts) ∧
      ¬(row.publishedAt.isSome = true ∧ row.deadLettered = true) ∧
      (row.isPending = true ↔ sent = 0 ∧ failed < OutboxDispatcher.maxAttempts) ∧
      (∀ (place : Nat) (first second : PublishCall R), calls[place]? = some first → calls[place + 1]? = some second →
        first.succeeded = false ∧
          first.at_.micros + (OutboxDispatcher.baseBackoff * 2^place : Nat) ≤ second.at_.micros) ∧
      (∃ kept, (run dispatcher (moves ++ later)).outbox.get id = some kept) ∧
      (row.isPending = false → (run dispatcher (moves ++ later)).outbox.get id = some row ∧
        (run dispatcher (moves ++ later)).callsOf id = calls) := by
  intro calls sent failed
  have before : RelayMove.Distinct moves := by
    unfold RelayMove.Distinct at distinct
    rw [List.filterMap_append] at distinct
    exact distinct.of_append_left
  obtain ⟨sound,_⟩ := run_sound dispatcher moves before
  have accounted := sound.rows id row stored
  have total : calls.length = sent + failed := PublishCall.length_eq calls
  have counted : calls.length = row.attempts := accounted.counted
  have bounded := accounted.bounded
  have published : sent = if row.publishedAt.isSome then 1 else 0 := accounted.published
  have dead : row.deadLettered = true ↔ failed = OutboxDispatcher.maxAttempts := accounted.dead
  obtain ⟨persists,settled⟩ := run_kept dispatcher moves later distinct id row stored
  refine ⟨⟨counted,bounded⟩,?_,dead,?_,?_,accounted.paced,persists,settled⟩
  · rw [published]
    cases row.publishedAt.isSome <;> decide
  · rintro ⟨done,lettered⟩
    rw [done,if_pos rfl] at published
    have full := dead.mp lettered
    omega
  · constructor
    · intro pending
      obtain ⟨none,all,short⟩ := accounted.pending pending
      have made : failed = row.attempts := all
      exact ⟨none,made ▸ short⟩
    · rintro ⟨none,short⟩
      rw [isPending_iff]
      constructor
      · cases at_ : row.publishedAt with
        | none => rfl
        | some at_' =>
          rw [at_,none] at published
          cases published
      · cases lettered : row.deadLettered with
        | false => rfl
        | true => exact absurd (dead.mp lettered) (Nat.ne_of_lt short)

end Relay

namespace Relay

def raceHeard : StagedRecord ℚ where
  id := ⟨1⟩
  aggregateId := ⟨1⟩
  aggregateType := RecommendationGenerated.aggregateType
  eventType := RecommendationGenerated.eventType
  payload := []
  occurredAt := ⟨0⟩
  unpublished := rfl
  unattempted := rfl
  unscheduled := rfl
  alive := rfl

/-- The broker is away for the first call. The second pass comes too early for another. -/
def raceRetried : List (RelayMove ℚ) :=
  [.commit raceHeard,.drain ⟨0⟩,.publish (.raised "ConnectionError: kafka producer is not connected" 0),.drain ⟨499999⟩,
    .drain ⟨500000⟩,.publish .sent]

theorem outbox_lifecycle_retried : ∃ row, (run {} raceRetried).outbox.get ⟨1⟩ = some row ∧
    ((run {} raceRetried).callsOf ⟨1⟩).length = 2 ∧ row.publishedAt.isSome = true ∧
    ((run {} raceRetried).callsOf ⟨1⟩).countP PublishCall.succeeded = 1 ∧
    (run {} (raceRetried ++ [.drain ⟨900000⟩,.publish .sent])).callsOf ⟨1⟩ = (run {} raceRetried).callsOf ⟨1⟩ := by
  have known : ((run {} raceRetried).outbox.get ⟨1⟩).map (fun row => (row.attempts,row.publishedAt)) =
      some (2,some ⟨500000⟩) := by decide +kernel
  obtain ⟨row,stored,columns⟩ := Option.map_eq_some_iff.mp known
  have attempts : row.attempts = 2 := congrArg Prod.fst columns
  have publishedAt : row.publishedAt = some ⟨500000⟩ := congrArg Prod.snd columns
  have published : row.publishedAt.isSome = true := by rw [publishedAt]; rfl
  have done : row.isPending = false := by
    unfold OutboxRecord.isPending
    rw [publishedAt]
    rfl
  obtain ⟨⟨counted,_⟩,once,_,_,_,_,_,settled⟩ := outbox_lifecycle {} raceRetried [.drain ⟨900000⟩,.publish .sent]
    (by unfold RelayMove.Distinct; decide +kernel) ⟨1⟩ row stored
  exact ⟨row,stored,counted.trans attempts,published,once.mp published,(settled done).2⟩

end Relay
end ArcadiaRecommendation
