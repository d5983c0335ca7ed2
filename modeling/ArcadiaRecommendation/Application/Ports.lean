import ArcadiaRecommendation.Foundation.Program
import ArcadiaRecommendation.Domain.Scoring

/-! What a use case may ask of the outside: the repositories and the event log of one
unit of work, the log of the consumer wrapper, the clock, the id source and the
explanation model. -/
namespace ArcadiaRecommendation

structure ExplainedGame where
  gameId : GameId
  title : String
  genres : List String
  tags : List String
  deriving DecidableEq

structure ExplanationRequest where
  liked : List ExplainedGame
  candidates : List ExplainedGame
  deriving DecidableEq

inductive Op (R : Type) [Scalar R] [Casing]
  | getGame (gameId : GameId)
  | upsertGame (game : GameProfile R)
  | recommendable (limit : Nat)
  | gamesByIds (gameIds : List GameId)
  | needingEmbedding (limit : Nat)
  | getPreference (userId : UserId)
  | upsertPreference (preference : UserPreference R)
  | withSignals (limit : Nat)
  | recordOwnership (userId : UserId) (gameId : GameId) (counted : Bool)
  | uncountedOwners (gameId : GameId) (limit : Nat)
  | markCounted (gameId : GameId) (userIds : List UserId)
  | coPurchases (userId : UserId) (owned : Finset GameId) (limit : Nat)
  | replaceFor (userId : UserId) (recommendations : List (Recommendation R))
  | forUser (userId : UserId) (limit : Nat)
  | enqueue (event : RecommendationGenerated R)
  | seen (eventId : UUID)
  | mark (eventId : UUID)
  | commit
  | logSeen (eventId : UUID)
  | logMark (eventId : UUID)
  | now
  | newUuid
  | explain (request : ExplanationRequest)

abbrev Answer {R : Type} [Scalar R] [Casing] : Op R → Type
  | .getGame _ => Option (GameProfile R)
  | .recommendable _ | .gamesByIds _ | .needingEmbedding _ => List (GameProfile R)
  | .getPreference _ => Option (UserPreference R)
  | .withSignals _ | .uncountedOwners _ _ => List UserId
  | .coPurchases _ _ _ => Dict GameId Int
  | .forUser _ _ => List (Recommendation R)
  | .seen _ | .logSeen _ => Bool
  | .now => DateTime
  | .newUuid => UUID
  | .explain _ => Dict GameId (List String)
  | .upsertGame _ | .upsertPreference _ | .recordOwnership _ _ _ | .markCounted _ _ | .replaceFor _ _
  | .enqueue _ | .mark _ | .commit | .logMark _ => Unit

/-- The body of an `async with uow_factory() as uow` block. -/
abbrev UseCase (R : Type) [Scalar R] [Casing] (A : Type) := Program (Op R) Answer Fault A

variable {R : Type} [Scalar R] [Casing]

namespace Games

abbrev get (gameId : GameId) : UseCase R (Option (GameProfile R)) := .call (.getGame gameId) .done
abbrev upsert (game : GameProfile R) : UseCase R Unit := .call (.upsertGame game) .done
abbrev recommendable (limit : Nat) : UseCase R (List (GameProfile R)) := .call (.recommendable limit) .done
abbrev byIds (gameIds : List GameId) : UseCase R (List (GameProfile R)) := .call (.gamesByIds gameIds) .done
abbrev needingEmbedding (limit : Nat) : UseCase R (List (GameProfile R)) := .call (.needingEmbedding limit) .done

end Games

namespace Preferences

abbrev get (userId : UserId) : UseCase R (Option (UserPreference R)) := .call (.getPreference userId) .done
abbrev upsert (preference : UserPreference R) : UseCase R Unit := .call (.upsertPreference preference) .done
abbrev withSignals (limit : Nat) : UseCase R (List UserId) := .call (.withSignals limit) .done

end Preferences

namespace Ownerships

abbrev record (userId : UserId) (gameId : GameId) (counted : Bool) : UseCase R Unit :=
  .call (.recordOwnership userId gameId counted) .done
abbrev uncountedOwners (gameId : GameId) (limit : Nat) : UseCase R (List UserId) :=
  .call (.uncountedOwners gameId limit) .done
abbrev markCounted (gameId : GameId) (userIds : List UserId) : UseCase R Unit :=
  .call (.markCounted gameId userIds) .done
abbrev coPurchases (userId : UserId) (owned : Finset GameId) (limit : Nat) : UseCase R (Dict GameId Int) :=
  .call (.coPurchases userId owned limit) .done

end Ownerships

namespace Recommendations

abbrev replaceFor (userId : UserId) (recommendations : List (Recommendation R)) : UseCase R Unit :=
  .call (.replaceFor userId recommendations) .done
abbrev forUser (userId : UserId) (limit : Nat) : UseCase R (List (Recommendation R)) :=
  .call (.forUser userId limit) .done

end Recommendations

abbrev Outbox.enqueue (event : RecommendationGenerated R) : UseCase R Unit := .call (.enqueue event) .done

namespace ProcessedEvents

abbrev seen (eventId : UUID) : UseCase R Bool := .call (.seen eventId) .done
abbrev mark (eventId : UUID) : UseCase R Unit := .call (.mark eventId) .done

end ProcessedEvents

abbrev commit : UseCase R Unit := .call .commit .done

namespace ProcessedEventLog

abbrev seen (eventId : UUID) : UseCase R Bool := .call (.logSeen eventId) .done
abbrev mark (eventId : UUID) : UseCase R Unit := .call (.logMark eventId) .done

end ProcessedEventLog

namespace Stamps

abbrev now : UseCase R DateTime := .call .now .done
abbrev newUuid : UseCase R UUID := .call .newUuid .done

def next : UseCase R EventStamp := do
  let eventId ← newUuid
  let occurredAt ← now
  return { eventId, occurredAt }

end Stamps

abbrev Explanations.explain (request : ExplanationRequest) : UseCase R (Dict GameId (List String)) :=
  .call (.explain request) .done

/-- A domain call whose broken rule leaves the use case as an exception. -/
def check {A : Type} (result : Except InvariantViolation A) : UseCase R A :=
  .ofExcept (result.mapError .violation)

@[simp] theorem check_ok {A : Type} (value : A) : (check (.ok value) : UseCase R A) = .done value := rfl

@[simp] theorem check_error {A : Type} (rule : InvariantViolation) :
    (check (.error rule) : UseCase R A) = .fail (.violation rule) := rfl

end ArcadiaRecommendation
