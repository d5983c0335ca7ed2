import ArcadiaRecommendation.Memory.Delivery

/-! Duplicates, retries and failures have no effect of their own. A sequence of
deliveries leaves the store of the run that makes, for each event, only the first
delivery that took effect, and makes it without a failure. -/
namespace ArcadiaRecommendation
namespace Memory
variable {R : Type} [Scalar R] [Casing]

/-- Either nothing was stored, or the store is that of the undisturbed run, which
returns, and it remembers the event. -/
def Settled (eventId : UUID) (before : MemoryStore R) (cut : Outcome Fault Unit × Session R)
    (full : Except Fault Unit × Session R) : Prop :=
  (cut.2.committed || cut.1.hasReturned) = false ∧ cut.2.store = before ∨
    (cut.2.committed || cut.1.hasReturned) = true ∧ full.1 = .ok () ∧ cut.2.store = full.2.store ∧
      eventId ∈ cut.2.store.processedEvents ∧ before.processedEvents ⊆ cut.2.store.processedEvents

private theorem handle_commit (environment : Environment) (session : Session R) : handle environment .commit session =
    .ok ((),{ session with store := applied session, committed := true }) := rfl

private theorem handle_logMark (environment : Environment) (eventId : UUID) (session : Session R)
    (known : eventId ∈ session.store.processedEvents) :
    handle environment (.logMark eventId) session = .ok ((),session) := by
  simp only [handle,Finset.insert_eq_of_mem known]

theorem guarded_settled (environment : Environment) (eventId : UUID) (marked : Bool) (useCase : UseCase R Unit)
    (guarded : Guarded eventId marked useCase) (session : Session R) (uncommitted : session.committed = false)
    (carried : marked = true → eventId ∈ session.processed) (steps : Nat) :
    Settled eventId session.store
      ((useCase.bind fun _ => ProcessedEventLog.mark eventId).runFor (handle environment) steps session)
      ((useCase.bind fun _ => ProcessedEventLog.mark eventId).run (handle environment) session) := by
  induction guarded generalizing session steps with
  | done marked =>
    cases steps with
    | zero => exact .inl ⟨by simp [Program.runFor,uncommitted,Outcome.hasReturned],rfl⟩
    | succ steps =>
      refine .inr ⟨by cases steps <;> simp [Program.runFor,handle,Outcome.hasReturned],rfl,?_,?_,?_⟩
      · cases steps <;> rfl
      · cases steps <;> exact Finset.mem_insert_self _ _
      · cases steps <;> exact Finset.subset_insert _ _
  | fail marked fault =>
    refine .inl ⟨?_,?_⟩
    · cases steps <;> simp [Program.runFor,uncommitted,Outcome.hasReturned]
    · cases steps <;> rfl
  | mark marked next rest ih =>
    cases steps with
    | zero => exact .inl ⟨by simp [Program.runFor,uncommitted,Outcome.hasReturned],rfl⟩
    | succ steps =>
      exact ih { session with processed := insert eventId session.processed } uncommitted
        (fun _ => Finset.mem_insert_self _ _) steps
  | commit next final =>
    cases steps with
    | zero => exact .inl ⟨by simp [Program.runFor,uncommitted,Outcome.hasReturned],rfl⟩
    | succ steps =>
      have remembered : eventId ∈ (applied session).processedEvents :=
        Finset.mem_union_right _ (carried rfl)
      have grown : session.store.processedEvents ⊆ (applied session).processedEvents :=
        Finset.subset_union_left
      have last := handle_logMark environment eventId { session with store := applied session, committed := true }
        remembered
      simp only [Program.call_bind,Program.runFor,Program.run,handle_commit,final,Program.done_bind]
      cases steps with
      | zero =>
        simp only [Program.runFor,last]
        exact .inr ⟨rfl,rfl,rfl,remembered,grown⟩
      | succ steps =>
        simp only [Program.runFor,last]
        cases steps <;> exact .inr ⟨rfl,rfl,rfl,remembered,grown⟩
  | plain marked op next plain rest ih =>
    cases steps with
    | zero => exact .inl ⟨by simp [Program.runFor,uncommitted,Outcome.hasReturned],rfl⟩
    | succ steps =>
      obtain ⟨pair,answered⟩ := handle_total environment op session
      obtain ⟨store,committed,processed⟩ := handle_plain environment op session pair.2 pair.1 plain answered
      have settled := ih pair.1 pair.2 (committed.trans uncommitted)
        (fun sealed => processed ▸ carried sealed) steps
      rw [store] at settled
      simp only [Program.call_bind,Program.runFor,Program.run,answered]
      exact settled

variable [Formats R]

namespace Delivery

/-- What one delivery does: nothing, or what it does undisturbed, and that is nothing
again when its event had been handled before. -/
theorem deliver_cases (backfillLimit : Nat) (delivery : Delivery R) (store : MemoryStore R) :
    delivery.effective backfillLimit store = false ∧ delivery.deliver backfillLimit store = store ∨
      delivery.effective backfillLimit store = true ∧ ∃ eventId, delivery.eventId = .ok eventId ∧
        (delivery.uncut.run backfillLimit store).1 = .returned () ∧
        delivery.deliver backfillLimit store = delivery.uncut.deliver backfillLimit store ∧
        eventId ∈ (delivery.deliver backfillLimit store).processedEvents ∧
        store.processedEvents ⊆ (delivery.deliver backfillLimit store).processedEvents ∧
        (eventId ∈ store.processedEvents → delivery.deliver backfillLimit store = store) := by
  obtain ⟨steps,stopped⟩ := Program.runUntil_steps (handle delivery.environment) delivery.cut
    (delivery.consumer.subscribed backfillLimit delivery.record) { store }
  simp only [effective,deliver,run,stopped]
  simp only [uncut,Program.runUntil,Consumer.subscribed,IdempotentHandler.call,eventId]
  cases identified : Envelope.eventIdOf delivery.record with
  | error fault =>
    left
    simp only [Program.ofExcept_error,Program.bind_eq,Program.fail_bind]
    cases steps <;> exact ⟨rfl,rfl⟩
  | ok eventId =>
    simp only [Program.ofExcept_ok,Program.bind_eq,Program.done_bind,Program.call_bind]
    cases steps with
    | zero => exact .inl ⟨rfl,rfl⟩
    | succ steps =>
      simp only [Program.runFor,Program.run,handle]
      by_cases known : eventId ∈ store.processedEvents
      · right
        simp only [known,decide_true,if_true,Program.pure_eq]
        cases steps <;> exact ⟨rfl,eventId,rfl,rfl,rfl,known,subset_rfl,fun _ => rfl⟩
      · simp only [known,decide_false,Bool.false_eq_true,if_false]
        have guarded := call_guarded backfillLimit delivery.consumer delivery.record eventId identified
        rcases guarded_settled delivery.environment eventId false _ guarded { store } rfl (fun sealed => by cases sealed)
          steps with ⟨idle,kept⟩ | ⟨moved,returned,same,remembered,grown⟩
        · exact .inl ⟨idle,kept⟩
        · refine .inr ⟨moved,eventId,rfl,?_,same,remembered,grown,fun member => (known member).elim⟩
          rw [returned]
          rfl

end Delivery

def deliverAll (backfillLimit : Nat) (store : MemoryStore R) (deliveries : List (Delivery R)) : MemoryStore R :=
  deliveries.foldl (fun store delivery => delivery.deliver backfillLimit store) store

def AllReturn (backfillLimit : Nat) : MemoryStore R → List (Delivery R) → Prop
  | _, [] => True
  | store, delivery :: rest => (delivery.run backfillLimit store).1 = .returned () ∧
    AllReturn backfillLimit (delivery.deliver backfillLimit store) rest

/-- For each event, the first delivery that committed its unit of work or returned. -/
def firstEffective (backfillLimit : Nat) : Finset UUID → MemoryStore R → List (Delivery R) → List (Delivery R)
  | _, _, [] => []
  | handled, store, delivery :: rest =>
    let after := delivery.deliver backfillLimit store
    match delivery.eventId with
    | .error _ => firstEffective backfillLimit handled after rest
    | .ok eventId =>
      if delivery.effective backfillLimit store = true ∧ eventId ∉ handled then
        delivery :: firstEffective backfillLimit (insert eventId handled) after rest
      else firstEffective backfillLimit handled after rest

private theorem firstEffective_sublist (backfillLimit : Nat) (handled : Finset UUID) (store : MemoryStore R)
    (deliveries : List (Delivery R)) :
    (firstEffective backfillLimit handled store deliveries).Sublist deliveries := by
  induction deliveries generalizing handled store with
  | nil => exact .slnil
  | cons delivery rest ih =>
    unfold firstEffective
    dsimp only
    split
    · exact (ih _ _).cons _
    · split
      · exact (ih _ _).cons_cons _
      · exact (ih _ _).cons _

private theorem firstEffective_fresh (backfillLimit : Nat) (handled : Finset UUID) (store : MemoryStore R)
    (deliveries : List (Delivery R)) :
    ((firstEffective backfillLimit handled store deliveries).map Delivery.eventId).Nodup ∧
      ∀ eventId ∈ handled,
        .ok eventId ∉ (firstEffective backfillLimit handled store deliveries).map Delivery.eventId := by
  induction deliveries generalizing handled store with
  | nil => exact ⟨List.nodup_nil,fun _ _ => List.not_mem_nil⟩
  | cons delivery rest ih =>
    unfold firstEffective
    dsimp only
    split
    · exact ih handled _
    · rename_i eventId identified
      split
      · rename_i fresh
        obtain ⟨distinct,apart⟩ := ih (insert eventId handled) (delivery.deliver backfillLimit store)
        rw [List.map_cons,identified]
        refine ⟨List.nodup_cons.mpr ⟨apart eventId (Finset.mem_insert_self _ _),distinct⟩,?_⟩
        intro other member found
        rcases List.mem_cons.mp found with same | later
        · exact fresh.2 (Except.ok.inj same ▸ member)
        · exact apart other (Finset.mem_insert_of_mem member) later
      · exact ih handled _

private theorem firstEffective_run (backfillLimit : Nat) (handled : Finset UUID) (store : MemoryStore R)
    (deliveries : List (Delivery R)) (remembered : handled ⊆ store.processedEvents) :
    let once := (firstEffective backfillLimit handled store deliveries).map Delivery.uncut
    deliverAll backfillLimit store deliveries = deliverAll backfillLimit store once ∧
      AllReturn backfillLimit store once := by
  induction deliveries generalizing handled store with
  | nil => exact ⟨rfl,trivial⟩
  | cons delivery rest ih =>
    unfold firstEffective
    rcases delivery.deliver_cases backfillLimit store with ⟨idle,same⟩ |
      ⟨moved,eventId,identified,returned,same,known,grown,again⟩
    · simp only [deliverAll,List.foldl_cons,same,idle,Bool.false_eq_true,false_and,if_false]
      cases delivery.eventId <;> exact ih handled store remembered
    · simp only [identified,moved,true_and]
      split
      · have both : insert eventId handled ⊆ (delivery.deliver backfillLimit store).processedEvents := by
          intro other member
          rcases Finset.mem_insert.mp member with rfl | old
          · exact known
          · exact grown (remembered old)
        obtain ⟨equal,returns⟩ := ih (insert eventId handled) _ both
        refine ⟨?_,returned,by rw [← same]; exact returns⟩
        simp only [deliverAll,List.foldl_cons,List.map_cons,← same]
        exact equal
      · rename_i old
        have unchanged := again (remembered (not_not.mp old))
        simp only [deliverAll,List.foldl_cons,unchanged]
        exact ih handled store remembered

private theorem mem_firstEffective (backfillLimit : Nat) (handled : Finset UUID) (store : MemoryStore R)
    (before after : List (Delivery R)) (delivery : Delivery R)
    (moved : delivery.effective backfillLimit (deliverAll backfillLimit store before) = true) :
    (∃ eventId ∈ handled, delivery.eventId = .ok eventId) ∨ delivery.eventId ∈
      (firstEffective backfillLimit handled store (before ++ delivery :: after)).map Delivery.eventId := by
  induction before generalizing handled store with
  | nil =>
    rcases delivery.deliver_cases backfillLimit store with ⟨idle,same⟩ | ⟨_,eventId,identified,_⟩
    · exact (Bool.false_ne_true (idle.symm.trans moved)).elim
    · by_cases old : eventId ∈ handled
      · exact .inl ⟨eventId,old,identified⟩
      · right
        simp only [deliverAll,List.foldl_nil] at moved
        simp [firstEffective,identified,moved,old]
  | cons first rest ih =>
    simp only [List.cons_append,firstEffective]
    split
    · exact ih handled _ moved
    · rename_i eventId identified
      split
      · rcases ih (insert eventId handled) (first.deliver backfillLimit store) moved with ⟨other,member,same⟩ | found
        · rcases Finset.mem_insert.mp member with rfl | old
          · exact .inr (by rw [same,← identified]; exact List.mem_map_of_mem List.mem_cons_self)
          · exact .inl ⟨other,old,same⟩
        · exact .inr (List.mem_cons_of_mem _ found)
      · exact ih handled _ moved

/-- Exactly-once effect. Whatever is delivered, however often, and wherever each
delivery is cut off, the store is that of one undisturbed delivery for each event,
at the place of the first that took effect. A delivery without effect leaves the
store as it found it. -/
theorem deliveries_exactly_once (backfillLimit : Nat) (store : MemoryStore R) (deliveries : List (Delivery R)) :
    let once := firstEffective backfillLimit ∅ store deliveries
    deliverAll backfillLimit store deliveries = deliverAll backfillLimit store (once.map Delivery.uncut) ∧
      AllReturn backfillLimit store (once.map Delivery.uncut) ∧
      once.Sublist deliveries ∧ (once.map Delivery.eventId).Nodup ∧
      (∀ before delivery after, deliveries = before ++ delivery :: after →
        delivery.effective backfillLimit (deliverAll backfillLimit store before) = true →
        delivery.eventId ∈ once.map Delivery.eventId) ∧
      ∀ before delivery after, deliveries = before ++ delivery :: after →
        delivery.effective backfillLimit (deliverAll backfillLimit store before) = false →
        deliverAll backfillLimit store (before ++ [delivery]) = deliverAll backfillLimit store before := by
  intro once
  obtain ⟨same,returns⟩ := firstEffective_run backfillLimit ∅ store deliveries (Finset.empty_subset _)
  refine ⟨same,returns,firstEffective_sublist _ _ _ _,(firstEffective_fresh _ _ _ _).1,?_,?_⟩
  · intro before delivery after split moved
    subst split
    rcases mem_firstEffective backfillLimit ∅ store before after delivery moved with ⟨eventId,member,_⟩ | found
    · exact (Finset.notMem_empty eventId member).elim
    · exact found
  · intro before delivery after split idle
    rcases delivery.deliver_cases backfillLimit (deliverAll backfillLimit store before) with ⟨_,kept⟩ | ⟨moved,_⟩
    · simpa only [deliverAll,List.foldl_append,List.foldl_cons,List.foldl_nil] using kept
    · exact (Bool.false_ne_true (idle.symm.trans moved)).elim

end Memory
end ArcadiaRecommendation
