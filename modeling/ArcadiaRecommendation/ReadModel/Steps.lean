import ArcadiaRecommendation.ReadModel.Basic

/-! What one step may do to a game, a preference and an ownership. -/
namespace ArcadiaRecommendation
namespace Event

def publishes (gameId : GameId) : Event → Bool
  | gamePublished _ published .. => published = gameId
  | _ => false

def purchases (gameId : GameId) : Event → Bool
  | purchaseCompleted _ _ bought _ => bought = gameId
  | _ => false

@[simp] theorem publishes_gamePublished (gameId published : GameId) (eventId : UUID) (developerId : UserId)
    (title : String) (genres tags : List String) (publishedAt : Option DateTime) (description : String) :
    (gamePublished eventId published developerId title genres tags publishedAt description).publishes gameId =
      decide (published = gameId) := rfl

@[simp] theorem publishes_gameWithdrawn (gameId withdrawn : GameId) (eventId : UUID) :
    (gameWithdrawn eventId withdrawn).publishes gameId = false := rfl

@[simp] theorem publishes_purchaseCompleted (gameId bought : GameId) (eventId : UUID) (recipientId : UserId)
    (occurredAt : Option DateTime) :
    (purchaseCompleted eventId recipientId bought occurredAt).publishes gameId = false := rfl

@[simp] theorem publishes_reviewPosted (gameId reviewed : GameId) (eventId : UUID) (authorId : UserId)
    (liked : Bool) (occurredAt : Option DateTime) :
    (reviewPosted eventId authorId reviewed liked occurredAt).publishes gameId = false := rfl

theorem publishes_gameId {gameId : GameId} {event : Event} (publication : event.publishes gameId) :
    gameId = event.gameId := by
  cases event with
  | gamePublished => exact (of_decide_eq_true publication).symm
  | gameWithdrawn => cases publication
  | purchaseCompleted => cases publication
  | reviewPosted => cases publication

variable {R : Type} [Scalar R] [Casing]

/-- What an event other than a publication does to the row of its game. -/
def changes : Event → GameProfile R → GameProfile R
  | gameWithdrawn .. => GameProfile.withdrawn
  | purchaseCompleted .. => GameProfile.bought
  | gamePublished .. | reviewPosted .. => id

end Event

namespace ReadModel
variable {R : Type} [Scalar R] [Casing] {backfillLimit : Nat} {before after : ReadModel R} {event : Event}

theorem Observed.credited {users : List UserId} {game : GameProfile R} {kind : SignalKind} {at_ : DateTime}
    (observed : before.Observed after users game kind at_) {userId : UserId} (member : userId ∈ users) :
    (before.preferenceOf userId).observe game kind at_ = .ok (after.preferenceOf userId) := by
  have folded := observed userId
  rw [if_pos member] at folded
  obtain ⟨result,ok,found⟩ := folded
  unfold preferenceOf at ok ⊢
  rw [found]
  exact ok

theorem Observed.others {users : List UserId} {game : GameProfile R} {kind : SignalKind} {at_ : DateTime}
    (observed : before.Observed after users game kind at_) {userId : UserId} (absent : userId ∉ users) :
    after.preferences userId = before.preferences userId := by
  have kept := observed userId
  rwa [if_neg absent] at kept

theorem preferenceOf_congr {userId : UserId} (same : after.preferences userId = before.preferences userId) :
    after.preferenceOf userId = before.preferenceOf userId := by
  unfold preferenceOf
  rw [same]

theorem Effect.described (effect : Effect backfillLimit before after event) (publication : event.publishes event.gameId) :
    ∃ game, after.games = Function.update before.games event.gameId (some game) ∧ game.gameId = event.gameId ∧
      game.isPublished = true ∧ game.dense = .empty ∧
      game.purchaseCount = ((before.games event.gameId).map fun known => known.purchaseCount).getD 0 := by
  cases effect with
  | published eventId gameId developerId title genres tags publishedAt description game users at_ described owed games
      observed recorded =>
    obtain ⟨kept,counter,shown,_,_,_,dense⟩ :=
      HandleGamePublished.describe_ok _ gameId developerId title genres tags publishedAt description game described
    refine ⟨game,games,?_,shown,dense,counter⟩
    cases known : before.games gameId with
    | none =>
      rw [known] at kept
      exact kept
    | some current =>
      rw [known] at kept
      exact kept.trans (before.gamesKeyed gameId current known)
  | withdrawnUnknown => cases publication
  | withdrawn => cases publication
  | purchasedUnknown => cases publication
  | purchased => cases publication
  | reviewedUnknown => cases publication
  | reviewed => cases publication

theorem update_unknown (change : GameProfile R → GameProfile R) {gameId : GameId}
    (unknown : before.games gameId = none) :
    Function.update before.games gameId ((before.games gameId).map change) = before.games := by
  have absent : (before.games gameId).map change = before.games gameId := by rw [unknown]; rfl
  rw [absent,Function.update_eq_self]

theorem Effect.changed (effect : Effect backfillLimit before after event)
    (silent : event.publishes event.gameId = false) :
    after.games = Function.update before.games event.gameId ((before.games event.gameId).map event.changes) := by
  cases effect with
  | published => simp [Event.publishes,Event.gameId] at silent
  | withdrawnUnknown eventId gameId unknown games => exact games.trans (update_unknown _ unknown).symm
  | withdrawn eventId gameId game known games => simp [Event.gameId,Event.changes,games,known]
  | purchasedUnknown eventId userId gameId occurredAt unknown games =>
    exact games.trans (update_unknown _ unknown).symm
  | purchased eventId userId gameId occurredAt game at_ known games => simp [Event.gameId,Event.changes,games,known]
  | reviewedUnknown eventId userId gameId liked occurredAt unknown games =>
    exact games.trans (update_unknown _ unknown).symm
  | reviewed eventId userId gameId liked occurredAt game at_ known games =>
    simp [Event.gameId,Event.changes,games]

theorem Effect.other_games (effect : Effect backfillLimit before after event) {gameId : GameId}
    (apart : gameId ≠ event.gameId) : after.games gameId = before.games gameId := by
  by_cases publication : event.publishes event.gameId
  · obtain ⟨game,games,_⟩ := effect.described publication
    rw [games,Function.update_of_ne apart]
  · rw [effect.changed (Bool.eq_false_of_not_eq_true publication),Function.update_of_ne apart]

theorem Swept.game (swept : before.Swept after) {gameId : GameId} {game : GameProfile R}
    (found : after.games gameId = some game) :
    ∃ earlier, before.games gameId = some earlier ∧ game.sparse = earlier.sparse := by
  have same := swept.games gameId
  rw [found] at same
  obtain ⟨earlier,present,equal⟩ := Option.map_eq_some_iff.mp same.symm
  exact ⟨earlier,present,equal.symm⟩

theorem Swept.known (swept : before.Swept after) (gameId : GameId) :
    after.games gameId = none ↔ before.games gameId = none := by
  rw [← Option.map_eq_none_iff,swept.games gameId,Option.map_eq_none_iff]

theorem Swept.preference (swept : before.Swept after) (userId : UserId) :
    (after.preferenceOf userId).sparse = (before.preferenceOf userId).sparse := by
  have same := swept.preferences userId
  unfold preferenceOf
  cases left : after.preferences userId with
  | none =>
    rw [left] at same
    rw [Option.map_eq_none_iff.mp same.symm]
  | some preference =>
    rw [left] at same
    obtain ⟨earlier,present,equal⟩ := Option.map_eq_some_iff.mp same.symm
    rw [present]
    exact equal.symm

end ReadModel
end ArcadiaRecommendation
