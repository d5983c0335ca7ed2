import ArcadiaRecommendation.Domain.Shared
import ArcadiaRecommendation.Foundation.Scalar

/-! One suggested game, and the event that carries a regenerated list. -/
namespace ArcadiaRecommendation

inductive RecommendationSource
  | content
  | collab
  | hybrid
  | fallback
  deriving DecidableEq

def RecommendationSource.str : RecommendationSource → String
  | .content => "CONTENT"
  | .collab => "COLLAB"
  | .hybrid => "HYBRID"
  | .fallback => "FALLBACK"

def RecommendationSource.ofText : String → Option RecommendationSource
  | "CONTENT" => some .content
  | "COLLAB" => some .collab
  | "HYBRID" => some .hybrid
  | "FALLBACK" => some .fallback
  | _ => none

theorem RecommendationSource.ofText_str (source : RecommendationSource) : ofText source.str = some source := by
  cases source <;> rfl

structure RecommendationFields (R : Type) where
  id : RecommendationId
  userId : UserId
  gameId : GameId
  score : R
  source : RecommendationSource
  rank : Nat
  generatedAt : DateTime
  reasons : List String := []
  deriving DecidableEq

structure Recommendation (R : Type) [Scalar R] extends RecommendationFields R where
  rankOneBased : 1 ≤ rank
  scoreNonnegative : Scalar.less score 0 = false
  deriving DecidableEq

/-- The constructor with its `__post_init__`. -/
def Recommendation.construct {R : Type} [Scalar R] (fields : RecommendationFields R) :
    Except InvariantViolation (Recommendation R) :=
  if zero : fields.rank < 1 then .error .rankNotOneBased
  else if negative : Scalar.less fields.score 0 = true then .error .negativeScore
  else .ok
    { fields with
      rankOneBased := Nat.le_of_not_lt zero
      scoreNonnegative := Bool.eq_false_of_not_eq_true negative }

theorem Recommendation.construct_ok {R : Type} [Scalar R] (fields : RecommendationFields R)
    (recommendation : Recommendation R) (built : construct fields = .ok recommendation) :
    recommendation.toRecommendationFields = fields := by
  unfold construct at built
  split at built
  · cases built
  split at built
  · cases built
  · cases Except.ok.inj built
    rfl

theorem Recommendation.construct_error {R : Type} [Scalar R] (fields : RecommendationFields R)
    (rule : InvariantViolation) (refused : construct fields = .error rule) : rule.isWidth = false := by
  unfold construct at refused
  split at refused
  · rw [← Except.error.inj refused]
    rfl
  split at refused
  · rw [← Except.error.inj refused]
    rfl
  · cases refused

theorem Recommendation.construct_accepts {R : Type} [Scalar R] (fields : RecommendationFields R)
    (oneBased : 1 ≤ fields.rank) (nonnegative : Scalar.less fields.score 0 = false) :
    ∃ recommendation, construct fields = .ok recommendation := by
  have low : ¬fields.rank < 1 := by omega
  have sign : ¬Scalar.less fields.score 0 = true := by simp [nonnegative]
  unfold construct
  rw [dif_neg low,dif_neg sign]
  exact ⟨_,rfl⟩

structure GeneratedItem (R : Type) where
  gameId : String
  score : R
  source : String
  rank : Nat
  deriving DecidableEq

structure RecommendationGenerated (R : Type) where
  eventId : UUID
  occurredAt : DateTime
  aggregateId : UUID
  userId : UserId
  generatedAt : DateTime
  items : List (GeneratedItem R)
  deriving DecidableEq

namespace RecommendationGenerated
variable {R : Type} [Scalar R]

def aggregateType : String := "recommendation-set"

def eventType : String := "arcadia.reco.v1.RecommendationGenerated"

def of (userId : UserId) (recommendations : List (Recommendation R)) (stamp : EventStamp) :
    RecommendationGenerated R where
  eventId := stamp.eventId
  occurredAt := stamp.occurredAt
  aggregateId := userId.value
  userId := userId
  generatedAt := stamp.occurredAt
  items := recommendations.map fun item =>
    { gameId := item.gameId.str, score := Scalar.round6 item.score, source := item.source.str, rank := item.rank }

end RecommendationGenerated
end ArcadiaRecommendation
