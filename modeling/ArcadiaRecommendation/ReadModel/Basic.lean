import ArcadiaRecommendation.Application.Ingest
import Mathlib.Logic.Function.Basic

/-! What the service knows, apart from how a backend holds it: a game for each id, a
preference for each user, a flag for each ownership, and a stored list for each user.
A step is one event handled or one transaction of the sweep. -/
namespace ArcadiaRecommendation

structure ReadModel (R : Type) [Scalar R] [Casing] where
  games : GameId → Option (GameProfile R)
  preferences : UserId → Option (UserPreference R)
  /-- Present once a purchase is recorded, and true once it reached the owner's taste. -/
  ownership : UserId → GameId → Option Bool
  stored : UserId → List (Recommendation R)
  processed : Finset UUID
  gamesKeyed : ∀ gameId game, games gameId = some game → game.gameId = gameId
  preferencesKeyed : ∀ userId preference, preferences userId = some preference → preference.userId = userId

variable {R : Type} [Scalar R] [Casing]

/-- A game with its dense vector forgotten, the part the sweep never writes. -/
def GameProfile.sparse (game : GameProfile R) : GameProfile R := game.embedded .empty

omit [Casing] in
/-- A preference with its dense vector forgotten. -/
def UserPreference.sparse (preference : UserPreference R) : UserPreference R :=
  { preference with tasteDense := .empty }

namespace UserPreference
omit [Casing]

@[simp] theorem sparse_taste (preference : UserPreference R) : preference.sparse.taste = preference.taste := rfl

@[simp] theorem sparse_owned (preference : UserPreference R) : preference.sparse.owned = preference.owned := rfl

@[simp] theorem sparse_history (preference : UserPreference R) : preference.sparse.history = preference.history := rfl

@[simp] theorem sparse_signalCount (preference : UserPreference R) :
    preference.sparse.signalCount = preference.signalCount := rfl

end UserPreference

namespace ReadModel

def empty : ReadModel R where
  games _ := none
  preferences _ := none
  ownership _ _ := none
  stored _ := []
  processed := ∅
  gamesKeyed _ _ found := by cases found
  preferencesKeyed _ _ found := by cases found

def preferenceOf (model : ReadModel R) (userId : UserId) : UserPreference R :=
  (model.preferences userId).getD (.blank userId)

theorem preferenceOf_userId (model : ReadModel R) (userId : UserId) : (model.preferenceOf userId).userId = userId := by
  unfold preferenceOf
  cases found : model.preferences userId with
  | none => rfl
  | some preference => exact model.preferencesKeyed userId preference found

def Observed (before after : ReadModel R) (users : List UserId) (game : GameProfile R) (kind : SignalKind)
    (at_ : DateTime) : Prop :=
  ∀ userId, if userId ∈ users then ∃ observed, (before.preferenceOf userId).observe game kind at_ = .ok observed ∧
    after.preferences userId = some observed else after.preferences userId = before.preferences userId

def Recorded (before after : ReadModel R) (users : List UserId) (gameId : GameId) (counted : Bool) : Prop :=
  ∀ userId other, after.ownership userId other =
    if other = gameId ∧ userId ∈ users then some ((before.ownership userId other).getD false || counted)
    else before.ownership userId other

/-- The users a publication credits: the uncounted owners in some order, cut at the limit. -/
def Owed (backfillLimit : Nat) (model : ReadModel R) (gameId : GameId) (users : List UserId) : Prop :=
  ∃ owners : List UserId, owners.Nodup ∧ (∀ userId, userId ∈ owners ↔ model.ownership userId gameId = some false) ∧
    users = owners.take backfillLimit

inductive Effect (backfillLimit : Nat) (before after : ReadModel R) : Event → Prop
  | published (eventId : UUID) (gameId : GameId) (developerId : UserId) (title : String) (genres tags : List String)
      (publishedAt : Option DateTime) (description : String) (game : GameProfile R) (users : List UserId)
      (at_ : DateTime)
      (described : HandleGamePublished.describe (before.games gameId) gameId developerId title genres tags publishedAt
        description = .ok game)
      (owed : Owed backfillLimit before gameId users)
      (games : after.games = Function.update before.games gameId (some game))
      (observed : Observed before after users game .purchase at_)
      (recorded : Recorded before after users gameId true) :
    Effect backfillLimit before after
      (.gamePublished eventId gameId developerId title genres tags publishedAt description)
  | withdrawnUnknown (eventId : UUID) (gameId : GameId) (unknown : before.games gameId = none)
      (games : after.games = before.games) (preferences : after.preferences = before.preferences)
      (ownership : after.ownership = before.ownership) :
    Effect backfillLimit before after (.gameWithdrawn eventId gameId)
  | withdrawn (eventId : UUID) (gameId : GameId) (game : GameProfile R) (known : before.games gameId = some game)
      (games : after.games = Function.update before.games gameId (some game.withdrawn))
      (preferences : after.preferences = before.preferences) (ownership : after.ownership = before.ownership) :
    Effect backfillLimit before after (.gameWithdrawn eventId gameId)
  | purchasedUnknown (eventId : UUID) (userId : UserId) (gameId : GameId) (occurredAt : Option DateTime)
      (unknown : before.games gameId = none) (games : after.games = before.games)
      (preferences : after.preferences = before.preferences)
      (recorded : Recorded before after [userId] gameId false) :
    Effect backfillLimit before after (.purchaseCompleted eventId userId gameId occurredAt)
  | purchased (eventId : UUID) (userId : UserId) (gameId : GameId) (occurredAt : Option DateTime)
      (game : GameProfile R) (at_ : DateTime) (known : before.games gameId = some game)
      (games : after.games = Function.update before.games gameId (some game.bought))
      (observed : Observed before after [userId] game .purchase at_)
      (recorded : Recorded before after [userId] gameId true) :
    Effect backfillLimit before after (.purchaseCompleted eventId userId gameId occurredAt)
  | reviewedUnknown (eventId : UUID) (userId : UserId) (gameId : GameId) (liked : Bool)
      (occurredAt : Option DateTime) (unknown : before.games gameId = none) (games : after.games = before.games)
      (preferences : after.preferences = before.preferences) (ownership : after.ownership = before.ownership) :
    Effect backfillLimit before after (.reviewPosted eventId userId gameId liked occurredAt)
  | reviewed (eventId : UUID) (userId : UserId) (gameId : GameId) (liked : Bool) (occurredAt : Option DateTime)
      (game : GameProfile R) (at_ : DateTime) (known : before.games gameId = some game)
      (games : after.games = before.games)
      (observed : Observed before after [userId] game (reviewKind liked) at_)
      (ownership : after.ownership = before.ownership) :
    Effect backfillLimit before after (.reviewPosted eventId userId gameId liked occurredAt)

/-- An item that was worth storing for a user: its game was published and not owned. -/
def Offered (model : ReadModel R) (userId : UserId) (gameId : GameId) : Prop :=
  (∃ game, model.games gameId = some game ∧ game.isPublished = true) ∧ gameId ∉ (model.preferenceOf userId).owned

structure Handled (backfillLimit : Nat) (before after : ReadModel R) (event : Event) : Prop where
  fresh : event.eventId ∉ before.processed
  effect : Effect backfillLimit before after event
  stored : after.stored = before.stored
  processed : after.processed = insert event.eventId before.processed

/-- One transaction of the sweep with no ingest inside it. -/
structure Swept (before after : ReadModel R) : Prop where
  games : ∀ gameId, (after.games gameId).map GameProfile.sparse = (before.games gameId).map GameProfile.sparse
  preferences : ∀ userId,
    (after.preferences userId).map UserPreference.sparse = (before.preferences userId).map UserPreference.sparse
  ownership : after.ownership = before.ownership
  stored : ∀ userId, after.stored userId = before.stored userId ∨
    ∀ item ∈ after.stored userId, before.Offered userId item.gameId
  processed : after.processed = before.processed

/-- A run from one read-model to another, with the events it handled in order. -/
inductive Run (backfillLimit : Nat) (start : ReadModel R) : List Event → ReadModel R → Prop
  | start : Run backfillLimit start [] start
  | handled (events : List Event) (event : Event) (before after : ReadModel R)
      (earlier : Run backfillLimit start events before) (last : Handled backfillLimit before after event) :
    Run backfillLimit start (events ++ [event]) after
  | swept (events : List Event) (before after : ReadModel R) (earlier : Run backfillLimit start events before)
      (last : Swept before after) : Run backfillLimit start events after

end ReadModel
end ArcadiaRecommendation
