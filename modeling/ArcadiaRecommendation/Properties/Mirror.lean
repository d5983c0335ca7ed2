import ArcadiaRecommendation.Memory.Attempt

/-! A consumer that keeps the last published list of each user, against the lists the
service stores. The two agree as long as no generation clears a list in silence. -/
namespace ArcadiaRecommendation
namespace Memory
variable {R : Type} [Scalar R] [Casing]

/-- What the consumer holds for a user: the items of the last event about that user. -/
def mirror (enqueued : List (OutboxRecord R)) (userId : UserId) : List (Json R) :=
  enqueued.foldl (fun held record => if record.aggregateId = userId.value then itemsOf record else held) []

def Journal.Mirrored (journal : Journal R) (userId : UserId) : Prop :=
  mirror journal.enqueued userId = (listOf journal.store userId).map published

def Silent (environment : Environment) (generation : Generation R) (userId : UserId) (limit : Nat)
    (store : MemoryStore R) : Prop :=
  (store.preferenceOf userId).isCold = true ∨
    ∃ preference, rebuilt generation store (store.preferenceOf userId) = .ok preference ∧
      ranked environment generation userId limit store preference = []

def Uncut (environment : Environment) (cut : Option Nat) (generation : Generation R) (userId : UserId) (limit : Nat)
    (store : MemoryStore R) : Prop :=
  ∀ steps, cut = some steps →
    (GenerateRecommendations.execute generation userId limit).cost (handle environment) { store } ≤ steps

/-- A generation that recommends nothing finds nothing stored either. -/
def Attempt.Announced (attempt : Attempt R) (store : MemoryStore R) : Prop :=
  match attempt.work with
  | .ingest _ => True
  | .generate generation userId limit =>
    Uncut attempt.environment attempt.cut generation userId limit store →
      Silent attempt.environment generation userId limit store → listOf store userId = []

private theorem silent_iff (environment : Environment) (generation : Generation R) (userId : UserId) (limit : Nat)
    (store : MemoryStore R) : Silent environment generation userId limit store ↔
      ∃ drafted, draft environment generation userId limit store = .ok drafted ∧ drafted.items = [] := by
  constructor
  · intro silent
    unfold draft
    rcases silent with cold | ⟨preference,rebuilding,nothing⟩
    · rw [if_pos cold]
      exact ⟨{},rfl,rfl⟩
    · split
      · exact ⟨{},rfl,rfl⟩
      · have unexplained : explained environment generation ([] : List (ScoredGame R))
            (played store (store.preferenceOf userId)) = [] := by simp [explained]
        refine ⟨{ preference := if generation.denseSpace then some preference else none },?_,rfl⟩
        rw [rebuilding]
        dsimp only
        rw [nothing,unexplained]
        rfl
  · rintro ⟨drafted,ok,nothing⟩
    cases draft_drafted environment generation userId limit store drafted ok with
    | cold cold => exact .inl cold
    | warm preference scored items warm rebuilding same made =>
      refine .inr ⟨preference,rebuilding,?_⟩
      have none : items = [] := nothing
      have entries := congrArg List.length made
      rw [List.length_map,List.length_map,List.length_zipIdx,none] at entries
      have ranking := congrArg List.length same
      rw [List.length_map,List.length_map,← entries] at ranking
      exact List.eq_nil_of_length_eq_zero ranking.symm

omit [Scalar R] [Casing] in
private theorem mirror_append (enqueued : List (OutboxRecord R)) (record : OutboxRecord R) (userId : UserId) :
    mirror (enqueued ++ [record]) userId =
      if record.aggregateId = userId.value then itemsOf record else mirror enqueued userId := by
  simp only [mirror,List.foldl_append,List.foldl_cons,List.foldl_nil]

private theorem mirrored_commit (environment : Environment) (owner : UserId) (before : Journal R) (draft : Draft R)
    (mirrored : ∀ userId, before.Mirrored userId) :
    (∀ userId, ({ store := draft.commit environment owner before.store
                  enqueued := before.enqueued ++ draft.records environment owner } : Journal R).Mirrored userId) ↔
      (draft.items = [] → listOf before.store owner = []) := by
  have lists (userId : UserId) : listOf (draft.commit environment owner before.store) userId =
      if userId = owner then draft.items else listOf before.store userId := by
    simp only [listOf,Draft.commit,Dict.get_set]
    split <;> rfl
  cases items : draft.items with
  | nil =>
    have silent : draft.records environment owner = [] := by simp [Draft.records,items]
    simp only [Journal.Mirrored,lists,silent,List.append_nil,items,true_implies]
    constructor
    · intro after
      have there := after owner
      rw [if_pos rfl,mirrored owner] at there
      simpa using there
    · intro empty userId
      rw [mirrored userId]
      split
      · rename_i same
        rw [same,empty]
      · rfl
  | cons first rest =>
    have spoken : draft.records environment owner = [outboxRecord environment (draft.event environment owner)] := by
      simp [Draft.records,items]
    simp only [Journal.Mirrored,lists,spoken,mirror_append,itemsOf_outboxRecord]
    constructor
    · rintro - nothing
      cases nothing
    · intro _ userId
      have key : (outboxRecord environment (draft.event environment owner)).aggregateId = owner.value := rfl
      rw [key]
      by_cases same : userId = owner
      · rw [if_pos same,if_pos (congrArg UserId.value same.symm)]
      · have apart : owner.value ≠ userId.value := by
          intro equal
          apply same
          cases userId
          cases owner
          exact (congrArg UserId.mk equal).symm
        rw [if_neg same,if_neg apart]
        exact mirrored userId

/-- One unit of work keeps the consumer in agreement about everyone exactly when it announces
what it stores. -/
theorem after_mirrored_iff (backfillLimit : Nat) (journal : Journal R) (attempt : Attempt R)
    (mirrored : ∀ userId, journal.Mirrored userId) :
    (∀ userId, (journal.after backfillLimit attempt).Mirrored userId) ↔ attempt.Announced journal.store := by
  obtain ⟨work,environment,cut⟩ := attempt
  cases work with
  | ingest event =>
    obtain ⟨stored,staged,events,games⟩ := attempt_ingest environment cut backfillLimit event journal.store
    have enqueued : (journal.after backfillLimit ⟨.ingest event,environment,cut⟩).enqueued = journal.enqueued := by
      simp only [Journal.after,Session.released,Attempt.session,events,ite_self,List.append_nil]
    refine ⟨fun _ => trivial,fun _ userId => ?_⟩
    unfold Journal.Mirrored
    rw [enqueued,mirrored userId]
    show (listOf journal.store userId).map published = (listOf (Attempt.session _ _ _).store userId).map published
    simp only [listOf,Attempt.session,stored]
  | generate generation userId limit =>
    have interrupted := Program.runUntil_interrupted_iff (handle environment) cut
      (GenerateRecommendations.execute generation userId limit) { store := journal.store }
    have silent := silent_iff environment generation userId limit journal.store
    rcases attempt_generation environment cut generation userId limit journal.store with
      ⟨draft,drafted,returned,committed,store,events⟩ | ⟨unfinished,store,uncommitted⟩
    · have after : journal.after backfillLimit ⟨.generate generation userId limit,environment,cut⟩ =
          { store := draft.commit environment userId journal.store
            enqueued := journal.enqueued ++ draft.records environment userId } := by
        simp only [Journal.after,Session.released,Attempt.session,committed,store,events,if_true]
      rw [after,mirrored_commit environment userId journal draft mirrored]
      have uncut : Uncut environment cut generation userId limit journal.store := by
        intro steps same
        by_contra short
        have ended := interrupted.mpr ⟨steps,same,Nat.lt_of_not_le short⟩
        rw [← attempt,returned] at ended
        cases ended
      have empty : Silent environment generation userId limit journal.store ↔ draft.items = [] := by
        rw [silent]
        constructor
        · rintro ⟨other,same,nothing⟩
          rw [drafted] at same
          rw [Except.ok.inj same]
          exact nothing
        · exact fun nothing => ⟨draft,drafted,nothing⟩
      constructor
      · exact fun announced _ nothing => announced (empty.mp nothing)
      · exact fun announced nothing => announced uncut (empty.mpr nothing)
    · have after : journal.after backfillLimit ⟨.generate generation userId limit,environment,cut⟩ = journal := by
        simp only [Journal.after,Session.released,Attempt.session,uncommitted,store,Bool.false_eq_true,if_false,
          List.append_nil]
      rw [after]
      refine ⟨fun _ uncut nothing => ?_,fun _ => mirrored⟩
      rcases unfinished with ended | ⟨rule,failed,_⟩
      · obtain ⟨steps,same,short⟩ := interrupted.mp ended
        exact absurd (uncut steps same) (Nat.not_le_of_lt short)
      · obtain ⟨draft,drafted,_⟩ := silent.mp nothing
        rw [failed] at drafted
        cases drafted

/-- In every state of a run the consumer holds every user's stored list, exactly when no
generation of the run clears a list that was stored. -/
theorem mirror_agrees_iff (backfillLimit : Nat) (attempts : List (Attempt R)) :
    (∀ earlier later, attempts = earlier ++ later → ∀ userId, (Journal.run backfillLimit earlier).Mirrored userId) ↔
      ∀ earlier attempt later, attempts = earlier ++ attempt :: later →
        attempt.Announced (Journal.run backfillLimit earlier).store := by
  constructor
  · intro mirrored earlier attempt later split
    have before := mirrored earlier (attempt :: later) split
    have after := mirrored (earlier ++ [attempt]) later (by rw [split,List.append_assoc,List.cons_append,List.nil_append])
    rw [Journal.run_append] at after
    exact (after_mirrored_iff backfillLimit _ attempt before).mp after
  · intro announced earlier
    induction earlier using List.reverseRecOn with
    | nil =>
      intro later split userId
      rfl
    | append_singleton before attempt ih =>
      intro later split
      have whole : attempts = before ++ attempt :: later := by
        rw [split,List.append_assoc,List.cons_append,List.nil_append]
      have mirrored := ih (attempt :: later) whole
      rw [Journal.run_append]
      exact (after_mirrored_iff backfillLimit _ attempt mirrored).mpr (announced before attempt later whole)

end Memory

namespace Memory
attribute [local instance] Casing.unchanged

def raceThenRally : List (Attempt ℚ) :=
  [⟨.ingest (.gamePublished ⟨2⟩ ⟨⟨1⟩⟩ ⟨⟨9⟩⟩ "Race" ["racing"] [] none ""),.fixed,none⟩,
    ⟨.ingest (.gamePublished ⟨4⟩ ⟨⟨2⟩⟩ ⟨⟨9⟩⟩ "Rally" ["racing"] [] none ""),.fixed,none⟩,
    ⟨.ingest (.purchaseCompleted ⟨1⟩ ⟨⟨1⟩⟩ ⟨⟨1⟩⟩ none),.fixed,none⟩,
    ⟨.generate { content := contentBasedScorer } ⟨⟨1⟩⟩ 10,.fixed,none⟩,
    ⟨.ingest (.purchaseCompleted ⟨6⟩ ⟨⟨1⟩⟩ ⟨⟨2⟩⟩ none),.fixed,none⟩,
    ⟨.generate { content := contentBasedScorer } ⟨⟨1⟩⟩ 10,.fixed,none⟩]

/-- Once the user owns the only game on the list, the stored list is emptied and the consumer
goes on showing the game. -/
theorem bought_list_still_mirrored : ¬∀ (attempts : List (Attempt ℚ)) (userId : UserId),
    (Journal.run deployedBackfillLimit attempts).Mirrored userId := by
  intro claim
  have same := congrArg List.length (claim raceThenRally ⟨⟨1⟩⟩)
  rw [List.length_map] at same
  have held : (mirror (Journal.run deployedBackfillLimit raceThenRally).enqueued ⟨⟨1⟩⟩).length = 1 := by
    decide +kernel
  have stored : (listOf (Journal.run deployedBackfillLimit raceThenRally).store ⟨⟨1⟩⟩).length = 0 := by
    decide +kernel
  rw [held,stored] at same
  cases same

end Memory
end ArcadiaRecommendation
