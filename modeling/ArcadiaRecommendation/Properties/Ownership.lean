import ArcadiaRecommendation.Memory.Service
import ArcadiaRecommendation.ReadModel.Steps

/-! The owned set of a preference and the ownership rows say the same: a game is owned
exactly when its row is counted. Rows stay, and a counted row stays counted. -/
namespace ArcadiaRecommendation

namespace ReadModel
variable {R : Type} [Scalar R] [Casing]

/-- What one user owns agrees with the rows, and every remembered purchase is owned. -/
structure Consistent (model : ReadModel R) (userId : UserId) : Prop where
  owned : ∀ gameId, gameId ∈ (model.preferenceOf userId).owned ↔ model.ownership userId gameId = some true
  remembered : ∀ record ∈ (model.preferenceOf userId).history, record.weight = weightOf .purchase →
    record.gameId ∈ (model.preferenceOf userId).owned

variable {backfillLimit : Nat} {before after : ReadModel R} {event : Event} {userId : UserId}

private theorem consistent_unchanged (consistent : before.Consistent userId)
    (preference : after.preferences userId = before.preferences userId)
    (ownership : ∀ gameId, after.ownership userId gameId = some true ↔ before.ownership userId gameId = some true) :
    after.Consistent userId := by
  have same := preferenceOf_congr preference
  refine ⟨fun gameId => ?_,fun record member => ?_⟩
  · rw [same,consistent.owned gameId,ownership gameId]
  · rw [same] at member ⊢
    exact consistent.remembered record member

private theorem consistent_credited {users : List UserId} {game : GameProfile R} {gameId : GameId} {at_ : DateTime}
    (consistent : before.Consistent userId) (same : game.gameId = gameId)
    (observed : before.Observed after users game .purchase at_)
    (recorded : before.Recorded after users gameId true) : after.Consistent userId := by
  by_cases member : userId ∈ users
  · have folded := observed.credited member
    obtain ⟨tasteDense,_,columns⟩ := UserPreference.observe_ok _ _ _ _ _ folded
    have owned : (after.preferenceOf userId).owned = (before.preferenceOf userId).owned ∪ {gameId} := by
      rw [columns,if_pos rfl,same]
    refine ⟨fun other => ?_,fun record remembered weight => ?_⟩
    · rw [owned,recorded userId other,Finset.mem_union,Finset.mem_singleton,consistent.owned other]
      by_cases target : other = gameId
      · simp [target,member]
      · simp [target]
    · rw [owned,Finset.mem_union,Finset.mem_singleton]
      rcases UserPreference.observe_history _ _ _ _ _ folded record remembered with old | new
      · exact .inl (consistent.remembered record old weight)
      · rw [new]
        exact .inr same
  · apply consistent_unchanged consistent (observed.others member)
    intro other
    rw [recorded userId other,if_neg (fun both => member both.2)]

private theorem consistent_reviewed {game : GameProfile R} {author : UserId} {kind : SignalKind} {at_ : DateTime}
    (consistent : before.Consistent userId) (review : kind ≠ .purchase)
    (distinct : (weightOf kind : R) ≠ weightOf .purchase)
    (observed : before.Observed after [author] game kind at_)
    (ownership : after.ownership = before.ownership) : after.Consistent userId := by
  by_cases member : userId ∈ [author]
  · have folded := observed.credited member
    obtain ⟨tasteDense,_,columns⟩ := UserPreference.observe_ok _ _ _ _ _ folded
    have owned : (after.preferenceOf userId).owned = (before.preferenceOf userId).owned := by
      rw [columns,if_neg review]
    refine ⟨fun other => ?_,fun record remembered weight => ?_⟩
    · rw [owned,ownership,consistent.owned other]
    · rw [owned]
      rcases UserPreference.observe_history _ _ _ _ _ folded record remembered with old | new
      · exact consistent.remembered record old weight
      · rw [new] at weight
        exact (distinct weight).elim
  · apply consistent_unchanged consistent (observed.others member)
    intro other
    rw [ownership]

theorem handled_consistent (distinct : ∀ kind, (weightOf kind : R) = weightOf .purchase → kind = .purchase)
    (effect : Effect backfillLimit before after event) (consistent : before.Consistent userId) :
    after.Consistent userId := by
  cases effect with
  | published eventId gameId developerId title genres tags publishedAt description game users at_ described owed games
      observed recorded =>
    have same : game.gameId = gameId := by
      apply after.gamesKeyed
      rw [games,Function.update_self]
    exact consistent_credited consistent same observed recorded
  | withdrawnUnknown eventId gameId unknown games preferences ownership =>
    exact consistent_unchanged consistent (by rw [preferences]) fun other => by rw [ownership]
  | withdrawn eventId gameId game known games preferences ownership =>
    exact consistent_unchanged consistent (by rw [preferences]) fun other => by rw [ownership]
  | purchasedUnknown eventId owner gameId occurredAt unknown games preferences recorded =>
    apply consistent_unchanged consistent (by rw [preferences])
    intro other
    rw [recorded userId other]
    split
    · cases row : before.ownership userId other with
      | none => simp
      | some counted => simp
    · rfl
  | purchased eventId owner gameId occurredAt game at_ known games observed recorded =>
    exact consistent_credited consistent (before.gamesKeyed gameId game known) observed recorded
  | reviewedUnknown eventId author gameId liked occurredAt unknown games preferences ownership =>
    exact consistent_unchanged consistent (by rw [preferences]) fun other => by rw [ownership]
  | reviewed eventId author gameId liked occurredAt game at_ known games observed ownership =>
    have review : reviewKind liked ≠ .purchase := by
      cases liked <;> decide
    exact consistent_reviewed consistent review (fun equal => review (distinct _ equal)) observed ownership

theorem swept_consistent (swept : before.Swept after) (consistent : before.Consistent userId) :
    after.Consistent userId := by
  have same := swept.preference userId
  have owned : (after.preferenceOf userId).owned = (before.preferenceOf userId).owned  := by
    simpa using congrArg UserPreference.owned same
  have history : (after.preferenceOf userId).history = (before.preferenceOf userId).history  := by
    simpa using congrArg UserPreference.history same
  refine ⟨fun gameId => ?_,fun record member => ?_⟩
  · rw [owned,swept.ownership,consistent.owned gameId]
  · rw [history] at member
    rw [owned]
    exact consistent.remembered record member

theorem run_consistent (distinct : ∀ kind, (weightOf kind : R) = weightOf .purchase → kind = .purchase)
    {events : List Event} {model : ReadModel R} (run : empty.Run backfillLimit events model) :
    model.Consistent userId := by
  induction run with
  | start =>
    refine ⟨fun gameId => ⟨fun member => ?_,fun row => ?_⟩,fun record member => ?_⟩
    · exact (Finset.notMem_empty gameId member).elim
    · cases row
    · cases member
  | handled events event before after earlier step ih => exact handled_consistent distinct step.effect ih
  | swept events before after earlier step ih => exact swept_consistent step ih

def RowsKept (before after : ReadModel R) : Prop :=
  ∀ userId gameId counted, before.ownership userId gameId = some counted →
    ∃ now, after.ownership userId gameId = some now ∧ (counted = true → now = true)

private theorem recorded_kept {users : List UserId} {gameId : GameId} {counted : Bool}
    (recorded : before.Recorded after users gameId counted) : before.RowsKept after := by
  intro userId other row present
  rw [recorded userId other,present]
  split
  · exact ⟨row || counted,rfl,fun raised => by rw [raised]; rfl⟩
  · exact ⟨row,rfl,id⟩

private theorem same_rows_kept (ownership : after.ownership = before.ownership) : before.RowsKept after := by
  intro userId gameId counted present
  exact ⟨counted,by rw [ownership,present],id⟩

theorem handled_kept (effect : Effect backfillLimit before after event) : before.RowsKept after := by
  cases effect with
  | published _ _ _ _ _ _ _ _ _ _ _ _ _ _ _ recorded => exact recorded_kept recorded
  | withdrawnUnknown _ _ _ _ _ ownership => exact same_rows_kept ownership
  | withdrawn _ _ _ _ _ _ ownership => exact same_rows_kept ownership
  | purchasedUnknown _ _ _ _ _ _ _ recorded => exact recorded_kept recorded
  | purchased _ _ _ _ _ _ _ _ _ recorded => exact recorded_kept recorded
  | reviewedUnknown _ _ _ _ _ _ _ _ ownership => exact same_rows_kept ownership
  | reviewed _ _ _ _ _ _ _ _ _ _ ownership => exact same_rows_kept ownership

theorem run_kept {start model : ReadModel R} {events : List Event}
    (run : start.Run backfillLimit events model) : start.RowsKept model := by
  induction run with
  | start => exact same_rows_kept rfl
  | handled events event before after earlier step ih =>
    intro userId gameId counted present
    obtain ⟨middle,found,raised⟩ := ih userId gameId counted present
    obtain ⟨now,last,still⟩ := handled_kept step.effect userId gameId middle found
    exact ⟨now,last,fun before => still (raised before)⟩
  | swept events before after earlier step ih =>
    intro userId gameId counted present
    rw [step.ownership]
    exact ih userId gameId counted present

end ReadModel

namespace Memory
variable {R : Type} [Scalar R] [Casing]

/-- In every state of every run of events, generations and sweeps, owning a game is
having a counted row for it, and from any earlier state to it no row was lost or lowered. -/
theorem counted_rows_are_owned_games (settings : Settings R)
    (distinct : ∀ kind, (weightOf kind : R) = weightOf .purchase → kind = .purchase)
    (earlier later : List (Action R)) :
    let store := (Service.run settings (earlier ++ later)).store
    (∀ userId gameId, gameId ∈ (store.preferenceOf userId).owned ↔
      flag store.ownerships userId gameId = some true) ∧
    (∀ userId, ∀ record ∈ (store.preferenceOf userId).history, record.weight = weightOf .purchase →
      record.gameId ∈ (store.preferenceOf userId).owned) ∧
    ∀ userId gameId counted, flag (Service.run settings earlier).store.ownerships userId gameId = some counted →
      ∃ now, flag store.ownerships userId gameId = some now ∧ (counted = true → now = true) := by
  intro store
  have run := Service.run_from_empty settings (earlier ++ later)
  obtain ⟨events,_,continued⟩ := Service.run_refines settings earlier later
  refine ⟨fun userId => ?_,fun userId => ?_,ReadModel.run_kept continued⟩
  · exact (ReadModel.run_consistent distinct run).owned
  · exact (ReadModel.run_consistent distinct run).remembered

end Memory

namespace Memory
attribute [local instance] Casing.unchanged

theorem counted_rows_are_owned_games_bought :
    let store := (Service.run deployed ([racePublished] ++ [racePurchased])).store
    (∀ userId gameId, gameId ∈ (store.preferenceOf userId).owned ↔
      flag store.ownerships userId gameId = some true) ∧
    (∀ userId, ∀ record ∈ (store.preferenceOf userId).history, record.weight = weightOf .purchase →
      record.gameId ∈ (store.preferenceOf userId).owned) ∧
    ∀ userId gameId counted,
      flag (Service.run deployed [racePublished]).store.ownerships userId gameId = some counted →
        ∃ now, flag store.ownerships userId gameId = some now ∧ (counted = true → now = true) := by
  have distinct : ∀ kind, (weightOf kind : ℚ) = weightOf .purchase → kind = .purchase := by
    intro kind same
    cases kind with
    | purchase => rfl
    | reviewLike => exact absurd same (by decide +kernel)
    | reviewDislike => exact absurd same (by decide +kernel)
  exact counted_rows_are_owned_games deployed distinct [racePublished] [racePurchased]

end Memory
end ArcadiaRecommendation
