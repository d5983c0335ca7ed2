import ArcadiaRecommendation.Application.Ingest

/-! The online read path: the stored list, or the top sellers where nothing is stored. -/
namespace ArcadiaRecommendation
variable {R : Type} [Scalar R] [Casing]

structure RecommendationItem (R : Type) where
  gameId : String
  title : String
  genres : List String := []
  score : R
  source : RecommendationSource
  rank : Nat
  reasons : List String := []
  deriving DecidableEq

structure RecommendationsResponse (R : Type) where
  userId : String
  source : RecommendationSource
  generatedAt : Option DateTime := none
  items : List (RecommendationItem R) := []
  deriving DecidableEq

def RecommendationItem.of (recommendation : Recommendation R) (game : Option (GameProfile R)) :
    RecommendationItem R where
  gameId := recommendation.gameId.str
  title := (game.map fun known => known.title).getD ""
  genres := (game.map fun known => known.genres).getD []
  score := Scalar.round6 recommendation.score
  source := recommendation.source
  rank := recommendation.rank
  reasons := recommendation.reasons

def itemsOf (recommendations : List (Recommendation R)) (games : List (GameProfile R)) :
    List (RecommendationItem R) :=
  let catalogue : Dict GameId (GameProfile R) := .ofList (games.map fun game => (game.gameId,game))
  recommendations.map fun item => .of item (catalogue.get item.gameId)

namespace ServeRecommendations

omit [Casing] in
def dominantSource (stored : List (Recommendation R)) : RecommendationSource :=
  match (stored.map fun item => item.source).dedup with
  | [] => .fallback
  | [source] => source
  | _ => .hybrid

def popularityShare (game : GameProfile R) (ranked : List (GameProfile R)) : R :=
  let strongest := (ranked.map fun candidate => candidate.purchaseCount).foldr max 0
  if strongest ≤ 0 then 0 else Scalar.round6 (Scalar.literal (game.purchaseCount / strongest))

def fallbackResponse (userId : UserId) (limit : Nat) : UseCase R (RecommendationsResponse R) := do
  let preference ← preferenceOf userId
  let candidates ← Games.recommendable (max (limit * 4) limit)
  let top := TopSellersProvider.rank candidates preference limit
  return {
    userId := userId.str
    source := .fallback
    items := (top.zipIdx 1).map fun entry =>
      { gameId := entry.1.gameId.str
        title := entry.1.title
        genres := entry.1.genres
        score := popularityShare entry.1 top
        source := .fallback
        rank := entry.2 } }

def execute (userId : UserId) (limit : Nat) : UseCase R (RecommendationsResponse R) := do
  let stored ← Recommendations.forUser userId limit
  match stored with
  | [] => fallbackResponse userId limit
  | first :: _ =>
    let games ← Games.byIds (stored.map fun item => item.gameId)
    return {
      userId := userId.str
      source := dominantSource stored
      generatedAt := some first.generatedAt
      items := itemsOf stored games }

end ServeRecommendations
end ArcadiaRecommendation
