import ArcadiaRecommendation.Messaging.SharedOutbox
import ArcadiaRecommendation.Properties.OutboxLifecycle

/-! Whether an event that was published can be dead-lettered. The updates of the replicas are
unconditional, so it can where a lease ends before the copy it was given for is through. -/
namespace ArcadiaRecommendation
variable {R : Type}

namespace OutboxStore

def recorded (result : PublishResult) (after row : OutboxRecord R) : OutboxRecord R :=
  match result with
  | .sent => { row with publishedAt := after.publishedAt, attempts := after.attempts, lastError := none }
  | .raised _ _ =>
    { row with
      attempts := after.attempts
      lastError := after.lastError
      nextAttemptAt := after.nextAttemptAt
      deadLettered := after.deadLettered }

private theorem get_record_sql (batchSize lease : Nat) (outbox : OutboxTable R) (result : PublishResult)
    (after : OutboxRecord R) (id : UUID) : ((OutboxStore.sql batchSize lease).record outbox result after).get id =
      if id = after.id then (outbox.get after.id).map (recorded result after) else outbox.get id := by
  cases stored : outbox.get after.id with
  | none =>
    have kept : (OutboxStore.sql batchSize lease).record outbox result after = outbox := by
      simp only [record,stored]
    rw [kept]
    split
    · rename_i same
      rw [same,stored]
      rfl
    · rfl
  | some row =>
    have written :
        (OutboxStore.sql batchSize lease).record outbox result after = outbox.upsert (recorded result after row) := by
      cases result <;> simp only [record,stored,recorded]
    have key : (recorded result after row).id = after.id := by
      rw [← outbox.keyed after.id row stored]
      cases result <;> rfl
    rw [written,Table.get_upsert,key]
    rfl

private theorem mem_copies (outbox : OutboxTable R) (claimed : List UUID) (copy : OutboxRecord R) :
    copy ∈ copies outbox claimed ↔ copy.id ∈ claimed ∧ outbox.get copy.id = some copy := by
  rw [copies,List.mem_filterMap]
  constructor
  · rintro ⟨id,member,stored⟩
    have key := outbox.keyed id copy stored
    subst key
    exact ⟨member,stored⟩
  · rintro ⟨member,stored⟩
    exact ⟨copy.id,member,stored⟩

private theorem copies_ids (outbox : OutboxTable R) (claimed : List UUID) (distinct : claimed.Nodup) :
    ((copies outbox claimed).map fun copy => copy.id).Nodup := by
  have sub : ((copies outbox claimed).map fun copy => copy.id).Sublist claimed := by
    induction claimed with
    | nil => exact .slnil
    | cons id rest ih =>
      have later := ih (List.nodup_cons.mp distinct).2
      cases stored : outbox.get id with
      | none =>
        rw [copies,List.filterMap_cons_none stored]
        exact later.cons id
      | some copy =>
        rw [copies,List.filterMap_cons_some stored,List.map_cons,outbox.keyed id copy stored]
        exact later.cons_cons id
  exact distinct.sublist sub

theorem Offers.ready {store : OutboxStore} {now : DateTime} {limit : Nat} {outbox : OutboxTable R} {claimed : List UUID}
    (offers : store.Offers now limit outbox claimed) (copy : OutboxRecord R) (member : copy ∈ copies outbox claimed) :
    outbox.get copy.id = some copy ∧ copy.isPending = true ∧
      ∀ at_, copy.nextAttemptAt = some at_ → at_.micros ≤ now.micros := by
  obtain ⟨inside,stored⟩ := (mem_copies outbox claimed copy).mp member
  have test := offers.2.2.1 copy.id inside
  rw [stored,Option.any_some,OutboxStore.ready,Bool.and_eq_true] at test
  refine ⟨stored,test.1,fun at_ scheduled => ?_⟩
  have late := test.2
  rw [scheduled] at late
  exact of_decide_eq_true late

end OutboxStore

namespace SharedOutbox
variable {I : Type} [DecidableEq I]

def Settled (shared : SharedOutbox I R) : Prop :=
  ∀ id row, shared.outbox.get id = some row → ¬(row.publishedAt.isSome = true ∧ row.deadLettered = true)

/-- The outcome of a call is final and the row already carries the opposite one: a success comes to
a dead-lettered row, or the last failure to a published one. -/
def Opposes (copy row : OutboxRecord R) : PublishResult → Prop
  | .sent => row.deadLettered = true
  | .raised _ _ => OutboxDispatcher.maxAttempts ≤ copy.attempts + 1 ∧ row.publishedAt.isSome = true

def Agrees (shared : SharedOutbox I R) : SharedMove I R → Prop
  | .publish replica result => ∀ copy ∈ (shared.passes replica).batch.head?, ∀ row ∈ shared.outbox.get copy.id,
    ¬Opposes copy row result
  | .commit _ | .drain _ _ _ | .abandon _ => True

/-- No replica holds a copy of a dead letter. -/
def Alive (shared : SharedOutbox I R) : Prop :=
  ∀ replica, ∀ copy ∈ (shared.passes replica).batch, copy.deadLettered = false

private theorem recorded_both (copy row : OutboxRecord R) (now : DateTime) (result : PublishResult)
    (alive : copy.deadLettered = false) :
    let recorded := OutboxStore.recorded result (OutboxDispatcher.publish copy now result) row
    recorded.publishedAt.isSome = true ∧ recorded.deadLettered = true ↔ Opposes copy row result := by
  cases result with
  | sent => exact ⟨fun both => both.2,fun dead => ⟨rfl,dead⟩⟩
  | raised error jitter =>
    have letter := (OutboxDispatcher.publish_raised copy now error jitter).2.2
    rw [alive,Bool.or_false] at letter
    simp only [OutboxStore.recorded,Opposes,letter,decide_eq_true_eq]
    exact and_comm

inductive PassStep (store : OutboxStore) (limit : Nat) (shared : SharedOutbox I R) (move : SharedMove I R) (replica : I)
    (next : Pass R) : Prop
  | kept (same : next = shared.passes replica)
  | claimed (now : DateTime) (claimed : List UUID) (made : move = .drain replica now claimed)
      (offers : store.Offers now limit shared.outbox claimed)
      (same : next = { now, batch := OutboxStore.copies shared.outbox claimed })
      (outbox : (shared.after store limit move).outbox =
        store.handedOut now (OutboxStore.copies shared.outbox claimed) shared.outbox)
  | published (result : PublishResult) (copy : OutboxRecord R) (made : move = .publish replica result)
      (batch : (shared.passes replica).batch = copy :: next.batch) (now : next.now = (shared.passes replica).now)
  | abandoned (batch : next.batch = [])

theorem after_pass (store : OutboxStore) (limit : Nat) (shared : SharedOutbox I R) (move : SharedMove I R) (replica : I) :
    PassStep store limit shared move replica ((shared.after store limit move).passes replica) := by
  cases move with
  | commit record =>
    simp only [after]
    split <;> exact .kept rfl
  | drain other now claimed =>
    by_cases free : (shared.passes other).batch.isEmpty = true ∧ store.Offers now limit shared.outbox claimed
    · by_cases same : replica = other
      · subst same
        refine .claimed now claimed rfl free.2 ?_ ?_
        · simp only [after,if_pos free,Function.update_self]
        · simp only [after,if_pos free]
      · refine .kept ?_
        simp only [after,if_pos free,Function.update_of_ne same]
    · refine .kept ?_
      simp only [after,if_neg free]
  | publish other result =>
    cases batch : (shared.passes other).batch with
    | nil =>
      simp only [after,batch]
      exact .kept rfl
    | cons copy rest =>
      simp only [after,batch]
      by_cases same : replica = other
      · subst same
        rw [Function.update_self]
        exact .published result copy rfl batch rfl
      · exact .kept (Function.update_of_ne same ..)
  | abandon other =>
    by_cases same : replica = other
    · subst same
      refine .abandoned ?_
      simp only [after,Function.update_self]
    · exact .kept (Function.update_of_ne same ..)

theorem after_alive (store : OutboxStore) (limit : Nat) (shared : SharedOutbox I R) (move : SharedMove I R)
    (alive : shared.Alive) : (shared.after store limit move).Alive := by
  intro replica copy member
  cases shared.after_pass store limit move replica with
  | kept same => exact alive replica copy (same ▸ member)
  | claimed now claimed made offers same outbox =>
    rw [same] at member
    exact ((isPending_iff copy).mp (offers.ready copy member).2.1).2
  | published result first made batch now =>
    exact alive replica copy (batch ▸ List.mem_cons_of_mem first member)
  | abandoned batch =>
    rw [batch] at member
    cases member

variable (batchSize lease limit : Nat)

/-- A row is settled after a move exactly where the outcome the move records does not oppose it. -/
theorem after_settled_iff (shared : SharedOutbox I R) (move : SharedMove I R) (alive : shared.Alive)
    (settled : shared.Settled) :
    (shared.after (.sql batchSize lease) limit move).Settled ↔ shared.Agrees move := by
  cases move with
  | commit record =>
    refine ⟨fun _ => trivial,fun _ id row stored => ?_⟩
    simp only [after] at stored
    split at stored
    · exact settled id row stored
    · rw [Table.get_upsert] at stored
      split at stored
      · cases Option.some.inj stored
        rw [record.alive]
        exact fun both => Bool.false_ne_true both.2
      · exact settled id row stored
  | drain replica now claimed =>
    refine ⟨fun _ => trivial,fun _ id row stored => ?_⟩
    simp only [after] at stored
    split at stored
    · rename_i free
      have known := fun copy member => (free.2.ready copy member).1
      rcases OutboxStore.get_handedOut (.sql batchSize lease) now _ shared.outbox known id with
        kept | ⟨copy,member,key,leased,written⟩
      · exact settled id row (kept ▸ stored)
      · cases Option.some.inj (written.symm.trans stored)
        exact settled copy.id copy (known copy member)
    · exact settled id row stored
  | publish replica result =>
    cases batch : (shared.passes replica).batch with
    | nil => simp [after,Agrees,batch,settled]
    | cons copy rest =>
      have living := alive replica copy (batch ▸ List.mem_cons_self)
      have key := (OutboxDispatcher.publish_content copy (shared.passes replica).now result).1
      have rows := OutboxStore.get_record_sql batchSize lease shared.outbox result
        (OutboxDispatcher.publish copy (shared.passes replica).now result)
      rw [key] at rows
      have both := fun row => recorded_both copy row (shared.passes replica).now result living
      simp only [after,Agrees,batch,Settled,List.head?_cons,Option.mem_def,Option.some.injEq,forall_eq']
      constructor
      · intro all row stored opposes
        have written := rows copy.id
        rw [if_pos rfl,stored] at written
        exact all copy.id _ written ((both row).mpr opposes)
      · intro agrees id row stored
        rw [rows] at stored
        split at stored
        · obtain ⟨before,known,made⟩ := Option.map_eq_some_iff.mp stored
          rw [← made]
          exact fun contradictory => agrees before known ((both before).mp contradictory)
        · exact settled id row stored
  | abandon replica => exact ⟨fun _ => trivial,fun _ => settled⟩

omit [DecidableEq I] in
private theorem alive_empty : ({} : SharedOutbox I R).Alive := by
  intro replica copy member
  cases member

omit [DecidableEq I] in
private theorem settled_empty : ({} : SharedOutbox I R).Settled := by
  intro id row stored
  cases stored

/-- A replica starts a pass only while the leases of the others' copies last. -/
def Timely (lease : Nat) (shared : SharedOutbox I R) : SharedMove I R → Prop
  | .drain replica now _ => ∀ other, other ≠ replica → (shared.passes other).batch ≠ [] →
    now.micros < (shared.passes other).now.micros + lease
  | .commit _ | .publish _ _ | .abandon _ => True

/-- The row of every copy is the copy under its lease, and no other copy has that row. -/
structure Leased (lease : Nat) (shared : SharedOutbox I R) : Prop where
  distinct : ∀ replica, ((shared.passes replica).batch.map fun copy => copy.id).Nodup
  apart : ∀ first second, first ≠ second → ∀ copy ∈ (shared.passes first).batch, ∀ other ∈ (shared.passes second).batch,
    copy.id ≠ other.id
  pending : ∀ replica, ∀ copy ∈ (shared.passes replica).batch, copy.isPending = true
  stored : ∀ replica, ∀ copy ∈ (shared.passes replica).batch,
    shared.outbox.get copy.id = some (OutboxStore.leased (shared.passes replica).now lease copy)

variable {lease} {shared : SharedOutbox I R}

omit [DecidableEq I] in
private theorem Leased.unclaimed (leased : shared.Leased lease) {replica : I} {now : DateTime} {claimed : List UUID}
    (timely : shared.Timely lease (.drain replica now claimed)) (offers : (OutboxStore.sql batchSize lease).Offers now limit
      shared.outbox claimed) {other : I} (apart : other ≠ replica) (copy : OutboxRecord R)
    (held : copy ∈ (shared.passes other).batch) :
    ∀ fresh ∈ OutboxStore.copies shared.outbox claimed, fresh.id ≠ copy.id := by
  intro fresh member same
  obtain ⟨known,_,due⟩ := offers.ready fresh member
  rw [same,leased.stored other copy held] at known
  cases Option.some.inj known
  have late := due _ rfl
  have lasting := timely other apart (List.ne_nil_of_mem held)
  simp only at late
  omega

private theorem Leased.row_kept (leased : shared.Leased lease) (move : SharedMove I R)
    (timely : shared.Timely lease move) (replica : I) (copy : OutboxRecord R)
    (held : copy ∈ (shared.passes replica).batch)
    (still : copy ∈ ((shared.after (.sql batchSize lease) limit move).passes replica).batch) :
    (shared.after (.sql batchSize lease) limit move).outbox.get copy.id = shared.outbox.get copy.id := by
  have stored := leased.stored replica copy held
  cases move with
  | commit record =>
    simp only [after]
    split
    · rfl
    · rename_i absent
      have other : copy.id ≠ record.id := by
        intro same
        rw [same] at stored
        rw [Dict.contains,stored] at absent
        exact absent rfl
      exact (Table.get_upsert ..).trans (if_neg other)
  | drain other now claimed =>
    simp only [after]
    split
    · rename_i free
      have apart : replica ≠ other := by
        intro same
        rw [same,List.isEmpty_iff.mp free.1] at held
        cases held
      have unclaimed := leased.unclaimed batchSize limit timely free.2 apart copy held
      rcases OutboxStore.get_handedOut (.sql batchSize lease) now _ shared.outbox (fun fresh member =>
        (free.2.ready fresh member).1) copy.id with kept | ⟨fresh,member,key,_⟩
      · exact kept
      · exact absurd key (unclaimed fresh member)
    · rfl
  | publish other result =>
    cases batch : (shared.passes other).batch with
    | nil => simp only [after,batch]
    | cons first rest =>
      have elsewhere : copy.id ≠ first.id := by
        by_cases same : replica = other
        · subst same
          simp only [after,batch,Function.update_self] at still
          have distinct := leased.distinct replica
          rw [batch,List.map_cons,List.nodup_cons] at distinct
          exact fun key => distinct.1 (key ▸ List.mem_map_of_mem still)
        · exact leased.apart replica other same copy held first (batch ▸ List.mem_cons_self)
      have key := (OutboxDispatcher.publish_content first (shared.passes other).now result).1
      simp only [after,batch]
      rw [OutboxStore.get_record_sql,key,if_neg elsewhere]
  | abandon other => rfl

theorem after_batch (store : OutboxStore) (move : SharedMove I R) (replica : I) (copy : OutboxRecord R)
    (member : copy ∈ ((shared.after store limit move).passes replica).batch) :
    (copy ∈ (shared.passes replica).batch ∧
      ((shared.after store limit move).passes replica).now = (shared.passes replica).now) ∨
    ∃ now claimed, move = .drain replica now claimed ∧ store.Offers now limit shared.outbox claimed ∧
      copy ∈ OutboxStore.copies shared.outbox claimed ∧ ((shared.after store limit move).passes replica).now = now ∧
      (shared.after store limit move).outbox =
        store.handedOut now (OutboxStore.copies shared.outbox claimed) shared.outbox := by
  cases shared.after_pass store limit move replica with
  | kept same => exact .inl ⟨same ▸ member,congrArg Pass.now same⟩
  | claimed now claimed made offers same outbox =>
    rw [same] at member
    exact .inr ⟨now,claimed,made,offers,member,congrArg Pass.now same,outbox⟩
  | published result first made batch now => exact .inl ⟨batch ▸ List.mem_cons_of_mem first member,now⟩
  | abandoned batch =>
    rw [batch] at member
    cases member

theorem after_leased (move : SharedMove I R) (leased : shared.Leased lease) (timely : shared.Timely lease move) :
    (shared.after (.sql batchSize lease) limit move).Leased lease := by
  have known := shared.after_batch limit (.sql batchSize lease) move
  refine ⟨fun replica => ?_,fun first second differ copy inFirst other inSecond => ?_,fun replica copy member => ?_,
    fun replica copy member => ?_⟩
  · cases shared.after_pass (.sql batchSize lease) limit move replica with
    | kept same => exact same ▸ leased.distinct replica
    | claimed now claimed made offers same outbox =>
      rw [same]
      exact OutboxStore.copies_ids shared.outbox claimed offers.1
    | published result copy made batch now =>
      have distinct := leased.distinct replica
      rw [batch,List.map_cons,List.nodup_cons] at distinct
      exact distinct.2
    | abandoned batch =>
      rw [batch]
      exact List.nodup_nil
  · rcases known first copy inFirst with ⟨left,_⟩ | ⟨now,claimed,made,offers,fresh,_⟩
    · rcases known second other inSecond with ⟨right,_⟩ | ⟨now,claimed,made,offers,fresh,_⟩
      · exact leased.apart first second differ copy left other right
      · subst made
        exact (leased.unclaimed batchSize limit timely offers differ copy left other fresh).symm
    · subst made
      rcases known second other inSecond with ⟨right,_⟩ | ⟨later,again,both,_⟩
      · exact leased.unclaimed batchSize limit timely offers differ.symm other right copy fresh
      · cases both
        exact absurd rfl differ
  · rcases known replica copy member with ⟨held,_⟩ | ⟨now,claimed,_,offers,fresh,_⟩
    · exact leased.pending replica copy held
    · exact (offers.ready copy fresh).2.1
  · rcases known replica copy member with ⟨held,same⟩ | ⟨now,claimed,_,offers,fresh,start,outbox⟩
    · rw [leased.row_kept batchSize limit move timely replica copy held member,same]
      exact leased.stored replica copy held
    · rw [outbox,start]
      exact OutboxStore.get_handedOut_self batchSize lease now _ shared.outbox
        (OutboxStore.copies_ids shared.outbox claimed offers.1) copy fresh

omit [DecidableEq I] in
theorem Leased.agrees (leased : shared.Leased lease) (move : SharedMove I R) : shared.Agrees move := by
  cases move with
  | publish replica result =>
    intro copy first row stored opposes
    have held := List.mem_of_head? first
    obtain ⟨unpublished,alive⟩ := (isPending_iff copy).mp (leased.pending replica copy held)
    cases Option.some.inj ((leased.stored replica copy held).symm.trans stored)
    cases result with
    | sent => exact Bool.false_ne_true (alive.symm.trans opposes)
    | raised error jitter =>
      have published := opposes.2
      simp [OutboxStore.leased,unpublished] at published
  | _ => trivial

omit [DecidableEq I] in
private theorem leased_empty : ({} : SharedOutbox I R).Leased lease where
  distinct _ := List.nodup_nil
  apart _ _ _ _ held := by cases held
  pending _ _ held := by cases held
  stored _ _ held := by cases held

/-- In every run of any number of replicas, no state has a row both published and dead-lettered
exactly where no outcome is recorded that opposes the one its row carries. Every run is such a run
in which the passes start before the leases of the others' copies end. -/
theorem published_never_dead_iff (moves : List (SharedMove I R)) :
    ((∀ earlier later, moves = earlier ++ later → (run (.sql batchSize lease) limit earlier).Settled) ↔
      Throughout (after (.sql batchSize lease) limit) Agrees {} moves) ∧
    (Throughout (after (.sql batchSize lease) limit) (Timely lease) {} moves →
      ∀ earlier later, moves = earlier ++ later → (run (.sql batchSize lease) limit earlier).Settled) := by
  have decided := throughout_iff Alive Settled (after_alive (.sql batchSize lease) limit)
    (after_settled_iff batchSize lease limit) ({} : SharedOutbox I R) alive_empty settled_empty moves
  refine ⟨decided,fun timely => decided.mpr ?_⟩
  exact timely.weaken (Leased lease) (fun shared move leased meets =>
    ⟨after_leased batchSize limit move leased meets,leased.agrees move⟩) leased_empty

def refused : PublishResult := .raised "TimeoutError: " 0

/-- The first replica fails four times and claims the row once more. Its lease ends, the second
replica claims the row and publishes it, and then the call of the first one fails. -/
def stalled : List (SharedMove Bool ℚ) :=
  [.commit Relay.raceHeard,.drain false ⟨0⟩ [⟨1⟩],.publish false refused,.drain false ⟨1000000⟩ [⟨1⟩],.publish false refused,
    .drain false ⟨5000000⟩ [⟨1⟩],.publish false refused,.drain false ⟨10000000⟩ [⟨1⟩],.publish false refused,
    .drain false ⟨20000000⟩ [⟨1⟩],.drain true ⟨50000000⟩ [⟨1⟩],.publish true .sent,.publish false refused]

theorem stalled_published_dead : ¬∀ moves : List (SharedMove Bool ℚ), (run (.sql 50 30000000) 50 moves).Settled := by
  intro settled
  have ended : ((run (.sql 50 30000000) 50 stalled).outbox.get ⟨1⟩).map
      (fun row => (row.publishedAt.isSome,row.deadLettered)) = some (true,true) := by decide +kernel
  obtain ⟨row,stored,both⟩ := Option.map_eq_some_iff.mp ended
  exact settled stalled ⟨1⟩ row stored ⟨congrArg Prod.fst both,congrArg Prod.snd both⟩

end SharedOutbox
end ArcadiaRecommendation
