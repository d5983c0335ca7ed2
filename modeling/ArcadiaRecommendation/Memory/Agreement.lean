import ArcadiaRecommendation.Memory.Refinement

/-! Two stores that differ only in dense vectors, lists and outbox. Ingest reads none of
these but to add dense vectors, so the same ingest keeps two such stores alike. -/
namespace ArcadiaRecommendation

theorem map_eq_map_cases {A B : Type} {change : A → B} {left right : Option A}
    (same : left.map change = right.map change) :
    left = none ∧ right = none ∨
      ∃ first second, left = some first ∧ right = some second ∧ change first = change second := by
  cases left with
  | none => exact .inl ⟨rfl,Option.map_eq_none_iff.mp same.symm⟩
  | some first =>
    obtain ⟨second,found,equal⟩ := Option.map_eq_some_iff.mp same.symm
    exact .inr ⟨first,second,rfl,found,equal.symm⟩

variable {R : Type} [Scalar R] [Casing]

namespace GameProfile

theorem sparse_gameId {first second : GameProfile R} (same : first.sparse = second.sparse) :
    first.gameId = second.gameId := congrArg (fun sparse => sparse.gameId) same

private theorem sparse_embedding {first second : GameProfile R} (same : first.sparse = second.sparse) :
    first.embedding = second.embedding := congrArg (fun sparse => sparse.embedding) same

private theorem sparse_bought {first second : GameProfile R} (same : first.sparse = second.sparse) :
    first.bought.sparse = second.bought.sparse :=
  (rfl : first.bought.sparse = first.sparse.bought).trans
    ((congrArg bought same).trans (rfl : second.sparse.bought = second.bought.sparse))

private theorem sparse_withdrawn {first second : GameProfile R} (same : first.sparse = second.sparse) :
    first.withdrawn.sparse = second.withdrawn.sparse :=
  (rfl : first.withdrawn.sparse = first.sparse.withdrawn).trans
    ((congrArg withdrawn same).trans (rfl : second.sparse.withdrawn = second.withdrawn.sparse))

private theorem sparse_redescribed {first second : GameProfile R} (same : first.sparse = second.sparse) (title : String)
    (genres tags : List String) (description : String) :
    first.redescribed title genres tags description = second.redescribed title genres tags description :=
  (rfl : first.redescribed title genres tags description = first.sparse.redescribed title genres tags description).trans
    (congrArg (fun game => game.redescribed title genres tags description) same)

end GameProfile

theorem UserPreference.observe_sparse {left right leftAfter rightAfter : UserPreference R}
    {first second : GameProfile R} {kind : SignalKind} {at_ : DateTime} (same : left.sparse = right.sparse)
    (game : first.sparse = second.sparse) (leftDone : left.observe first kind at_ = .ok leftAfter)
    (rightDone : right.observe second kind at_ = .ok rightAfter) : leftAfter.sparse = rightAfter.sparse := by
  obtain ⟨leftDense,_,leftColumns⟩ := observe_ok _ _ _ _ _ leftDone
  obtain ⟨rightDense,_,rightColumns⟩ := observe_ok _ _ _ _ _ rightDone
  have userId : left.userId = right.userId := congrArg (fun sparse => sparse.userId) same
  have taste : left.taste = right.taste := congrArg (fun sparse => sparse.taste) same
  have owned : left.owned = right.owned := congrArg (fun sparse => sparse.owned) same
  have history : left.history = right.history := congrArg (fun sparse => sparse.history) same
  have signalCount : left.signalCount = right.signalCount := congrArg (fun sparse => sparse.signalCount) same
  rw [leftColumns,rightColumns]
  simp only [sparse,userId,taste,owned,history,signalCount,GameProfile.sparse_gameId game,
    GameProfile.sparse_embedding game]

namespace Memory

/-- The stores are equal up to dense vectors, lists and outbox. -/
structure Agree (left right : MemoryStore R) : Prop where
  games : ∀ gameId, (left.games.get gameId).map GameProfile.sparse = (right.games.get gameId).map GameProfile.sparse
  preferences : ∀ userId,
    (left.preferences.get userId).map UserPreference.sparse = (right.preferences.get userId).map UserPreference.sparse
  ownerships : left.ownerships = right.ownerships
  processed : left.processedEvents = right.processedEvents

namespace Agree

theorem refl (store : MemoryStore R) : Agree store store := ⟨fun _ => rfl,fun _ => rfl,rfl,rfl⟩

variable {left right leftAfter rightAfter : MemoryStore R}

theorem symm (agree : Agree left right) : Agree right left :=
  ⟨fun gameId => (agree.games gameId).symm,fun userId => (agree.preferences userId).symm,agree.ownerships.symm,
    agree.processed.symm⟩

theorem trans {middle : MemoryStore R} (first : Agree left middle) (second : Agree middle right) : Agree left right :=
  ⟨fun gameId => (first.games gameId).trans (second.games gameId),
    fun userId => (first.preferences userId).trans (second.preferences userId),
    first.ownerships.trans second.ownerships,first.processed.trans second.processed⟩

theorem preferenceOf (agree : Agree left right) (userId : UserId) :
    (left.preferenceOf userId).sparse = (right.preferenceOf userId).sparse := by
  unfold MemoryStore.preferenceOf
  rcases map_eq_map_cases (agree.preferences userId) with ⟨leftNone,rightNone⟩ | ⟨first,second,leftSome,rightSome,same⟩
  · rw [leftNone,rightNone]
  · rw [leftSome,rightSome]
    exact same

theorem upsert_game (agree : Agree left right) {first second : GameProfile R} (same : first.sparse = second.sparse)
    (gameId : GameId) : ((left.games.upsert first).get gameId).map GameProfile.sparse =
      ((right.games.upsert second).get gameId).map GameProfile.sparse := by
  rw [Table.get_upsert,Table.get_upsert,GameProfile.sparse_gameId same]
  split
  · exact congrArg some same
  · exact agree.games gameId

theorem upsert_preference (agree : Agree left right) {first second : UserPreference R}
    (same : first.sparse = second.sparse) (userId : UserId) :
    ((left.preferences.upsert first).get userId).map UserPreference.sparse =
      ((right.preferences.upsert second).get userId).map UserPreference.sparse := by
  have key : first.userId = second.userId := congrArg (fun sparse => sparse.userId) same
  rw [Table.get_upsert,Table.get_upsert,key]
  split
  · exact congrArg some same
  · exact agree.preferences userId

theorem remember (agree : Agree left right) (eventId : UUID) : Agree (left.remember eventId) (right.remember eventId) :=
  ⟨agree.games,agree.preferences,agree.ownerships,congrArg (insert eventId) agree.processed⟩

theorem credited (agree : Agree left right) (game : GameProfile R) (at_ : DateTime) (owners : List UserId)
    (distinct : owners.Nodup) (leftStaged rightStaged : PreferenceTable R)
    (leftDone : creditAll left.preferences game at_ owners ∅ = .ok leftStaged)
    (rightDone : creditAll right.preferences game at_ owners ∅ = .ok rightStaged) (userId : UserId) :
    ((left.preferences.update leftStaged).get userId).map UserPreference.sparse =
      ((right.preferences.update rightStaged).get userId).map UserPreference.sparse := by
  have leftGet := creditAll_get left.preferences game at_ owners distinct ∅ leftStaged (fun _ _ => rfl) leftDone userId
  have rightGet := creditAll_get right.preferences game at_ owners distinct ∅ rightStaged (fun _ _ => rfl) rightDone
    userId
  rw [Table.get_update,Table.get_update]
  split at leftGet
  · rename_i member
    rw [if_pos member] at rightGet
    obtain ⟨leftObserved,leftFolded,leftFound⟩ := leftGet
    obtain ⟨rightObserved,rightFolded,rightFound⟩ := rightGet
    rw [leftFound,rightFound]
    exact congrArg some (UserPreference.observe_sparse (agree.preferenceOf userId) rfl leftFolded rightFolded)
  · rename_i absent
    rw [if_neg absent] at rightGet
    rw [leftGet,rightGet]
    exact agree.preferences userId

theorem describe (agree : Agree left right) (gameId : GameId) (developerId : UserId) (title : String)
    (genres tags : List String) (publishedAt : Option DateTime) (description : String) :
    HandleGamePublished.describe (left.games.get gameId) gameId developerId title genres tags publishedAt description =
      HandleGamePublished.describe (right.games.get gameId) gameId developerId title genres tags publishedAt
        description := by
  rcases map_eq_map_cases (agree.games gameId) with ⟨leftNone,rightNone⟩ | ⟨first,second,leftSome,rightSome,same⟩
  · rw [leftNone,rightNone]
  · rw [leftSome,rightSome]
    exact GameProfile.sparse_redescribed same title genres tags description

theorem backfilled (agree : Agree left right) (backfillLimit : Nat) (game : GameProfile R) (at_ : DateTime)
    (leftDone : Memory.backfilled left backfillLimit game at_ = .ok leftAfter)
    (rightDone : Memory.backfilled right backfillLimit game at_ = .ok rightAfter) : Agree leftAfter rightAfter := by
  have owners : left.uncounted game.gameId = right.uncounted game.gameId := by
    simp only [MemoryStore.uncounted,agree.ownerships]
  have distinct : ((right.uncounted game.gameId).take backfillLimit).Nodup :=
    (right.uncounted_nodup game.gameId).sublist (List.take_sublist backfillLimit _)
  simp only [Memory.backfilled,owners] at leftDone rightDone
  split at leftDone
  · cases leftDone
  rename_i leftStaged leftCredited
  split at rightDone
  · cases rightDone
  rename_i rightStaged rightCredited
  cases Except.ok.inj leftDone
  cases Except.ok.inj rightDone
  refine ⟨agree.upsert_game rfl,?_,?_,agree.processed⟩
  · exact agree.credited game at_ _ distinct leftStaged rightStaged leftCredited rightCredited
  · simp only [agree.ownerships]

theorem purchased (agree : Agree left right) (userId : UserId) {first second : GameProfile R}
    (same : first.sparse = second.sparse) (at_ : DateTime)
    (leftDone : Memory.purchased left userId first at_ = .ok leftAfter)
    (rightDone : Memory.purchased right userId second at_ = .ok rightAfter) : Agree leftAfter rightAfter := by
  unfold Memory.purchased at leftDone rightDone
  split at leftDone
  · cases leftDone
  rename_i leftObserved leftFolded
  split at rightDone
  · cases rightDone
  rename_i rightObserved rightFolded
  have observed := UserPreference.observe_sparse (agree.preferenceOf userId) same leftFolded rightFolded
  cases Except.ok.inj leftDone
  cases Except.ok.inj rightDone
  refine ⟨agree.upsert_game (GameProfile.sparse_bought same),agree.upsert_preference observed,?_,agree.processed⟩
  simp only [MemoryStore.own,agree.ownerships,GameProfile.sparse_gameId same]

theorem reviewed (agree : Agree left right) (userId : UserId) {first second : GameProfile R}
    (same : first.sparse = second.sparse) (liked : Bool) (at_ : DateTime)
    (leftDone : Memory.reviewed left userId first liked at_ = .ok leftAfter)
    (rightDone : Memory.reviewed right userId second liked at_ = .ok rightAfter) : Agree leftAfter rightAfter := by
  unfold Memory.reviewed at leftDone rightDone
  split at leftDone
  · cases leftDone
  rename_i leftObserved leftFolded
  split at rightDone
  · cases rightDone
  rename_i rightObserved rightFolded
  have observed := UserPreference.observe_sparse (agree.preferenceOf userId) same leftFolded rightFolded
  cases Except.ok.inj leftDone
  cases Except.ok.inj rightDone
  exact ⟨agree.games,agree.upsert_preference observed,agree.ownerships,agree.processed⟩

theorem effect (agree : Agree left right) (backfillLimit : Nat) (environment : Environment) (event : Event)
    (leftDone : Memory.effect backfillLimit environment left event = .ok leftAfter)
    (rightDone : Memory.effect backfillLimit environment right event = .ok rightAfter) : Agree leftAfter rightAfter := by
  cases event with
  | gamePublished eventId gameId developerId title genres tags publishedAt description =>
    simp only [Memory.effect,agree.describe gameId] at leftDone rightDone
    split at leftDone
    · cases leftDone
    · rename_i game described
      simp only [described] at rightDone
      exact agree.backfilled backfillLimit game _ leftDone rightDone
  | gameWithdrawn eventId gameId =>
    simp only [Memory.effect] at leftDone rightDone
    rcases map_eq_map_cases (agree.games gameId) with ⟨leftNone,rightNone⟩ | ⟨first,second,leftSome,rightSome,same⟩
    · rw [leftNone] at leftDone
      rw [rightNone] at rightDone
      cases Except.ok.inj leftDone
      cases Except.ok.inj rightDone
      exact agree
    · rw [leftSome] at leftDone
      rw [rightSome] at rightDone
      cases Except.ok.inj leftDone
      cases Except.ok.inj rightDone
      exact ⟨agree.upsert_game (GameProfile.sparse_withdrawn same),agree.preferences,agree.ownerships,agree.processed⟩
  | purchaseCompleted eventId recipientId gameId occurredAt =>
    simp only [Memory.effect] at leftDone rightDone
    rcases map_eq_map_cases (agree.games gameId) with ⟨leftNone,rightNone⟩ | ⟨first,second,leftSome,rightSome,same⟩
    · rw [leftNone] at leftDone
      rw [rightNone] at rightDone
      cases Except.ok.inj leftDone
      cases Except.ok.inj rightDone
      refine ⟨agree.games,agree.preferences,?_,agree.processed⟩
      simp only [MemoryStore.own,agree.ownerships]
    · rw [leftSome] at leftDone
      rw [rightSome] at rightDone
      exact agree.purchased recipientId same _ leftDone rightDone
  | reviewPosted eventId authorId gameId liked occurredAt =>
    simp only [Memory.effect] at leftDone rightDone
    rcases map_eq_map_cases (agree.games gameId) with ⟨leftNone,rightNone⟩ | ⟨first,second,leftSome,rightSome,same⟩
    · rw [leftNone] at leftDone
      rw [rightNone] at rightDone
      cases Except.ok.inj leftDone
      cases Except.ok.inj rightDone
      exact agree
    · rw [leftSome] at leftDone
      rw [rightSome] at rightDone
      exact agree.reviewed authorId same liked _ leftDone rightDone

theorem ingested (agree : Agree left right) (backfillLimit : Nat) (environment : Environment) (event : Event)
    (leftRan : execute environment (event.execute backfillLimit) left = (.ok (),leftAfter))
    (rightRan : execute environment (event.execute backfillLimit) right = (.ok (),rightAfter)) :
    Agree leftAfter rightAfter := by
  rw [execute_ingest] at leftRan rightRan
  unfold ingest at leftRan rightRan
  rw [agree.processed] at leftRan
  split at leftRan
  · rename_i known
    rw [if_pos known] at rightRan
    cases leftRan
    cases rightRan
    exact agree
  · rename_i fresh
    rw [if_neg fresh] at rightRan
    cases leftDone : Memory.effect backfillLimit environment left event with
    | error rule =>
      rw [leftDone] at leftRan
      cases leftRan
    | ok first =>
      cases rightDone : Memory.effect backfillLimit environment right event with
      | error rule =>
        rw [rightDone] at rightRan
        cases rightRan
      | ok second =>
        rw [leftDone] at leftRan
        rw [rightDone] at rightRan
        cases leftRan
        cases rightRan
        exact (agree.effect backfillLimit environment event leftDone rightDone).remember event.eventId

end Agree
end Memory
end ArcadiaRecommendation
