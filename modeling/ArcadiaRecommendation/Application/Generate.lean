import ArcadiaRecommendation.Application.Ingest

/-! The batch: giving vectors to the games that lack one, and ranking, explaining,
storing and publishing one user's list. -/
namespace ArcadiaRecommendation
variable {R : Type} [Scalar R] [Casing]

namespace EmbedPendingGames

def pending (batchSize : Nat) : UseCase R (List (GameProfile R)) := Games.needingEmbedding batchSize

/-- `for game, values in zip(pending, vectors, strict=True)` -/
def upsertEmbedded : List (GameProfile R) → List (List R) → UseCase R Unit
  | game :: games,values :: vectors => do
    Games.upsert (game.embedded ⟨values⟩)
    upsertEmbedded games vectors
  | [],[] => .done ()
  | _,_ => .fail .valueError

/-- The write phase, after the provider has answered. -/
def store (pending : List (GameProfile R)) (vectors : List (List R)) : UseCase R Unit := do
  upsertEmbedded pending vectors
  commit

end EmbedPendingGames

structure Generation (R : Type) [Scalar R] [Casing] where
  content : ContentScorer R
  catalogueLimit : Nat := 500
  /-- Whether an explanation model is configured. -/
  explanations : Bool := false
  denseSpace : Bool := false

namespace GenerateRecommendations

def asExplained (game : GameProfile R) : ExplainedGame :=
  { gameId := game.gameId, title := game.title, genres := game.genres, tags := game.tags }

def explained (generation : Generation R) (scored : List (ScoredGame R)) (played : List (GameProfile R)) :
    UseCase R (List (ScoredGame R)) := do
  if !generation.explanations || scored.isEmpty then return scored
  let reasons ← Explanations.explain
    { liked := (played.take Limits.maxExplainedCandidates).map asExplained
      candidates := (scored.take Limits.maxExplainedCandidates).map fun item => asExplained item.game }
  if reasons.entries.isEmpty then return scored
  return scored.map fun item => { item with reasons := (reasons.get item.game.gameId).getD item.reasons }

def space (played : List (GameProfile R)) : Dict GameId (DenseEmbedding R) :=
  .ofList (played.map fun game => (game.gameId,game.dense))

def rebuilt (generation : Generation R) (preference : UserPreference R) (played : List (GameProfile R)) :
    UseCase R (UserPreference R) :=
  if generation.denseSpace then do
    let preference ← check (preference.rebuiltIn (space played))
    Preferences.upsert preference
    return preference
  else return preference

def recommendation (userId : UserId) (at_ : DateTime) (entry : ScoredGame R × Nat) :
    UseCase R (Recommendation R) := do
  let id ← Stamps.newUuid
  check (Recommendation.construct
    { id := ⟨id⟩
      userId
      gameId := entry.1.game.gameId
      score := HybridRanker.blend entry.1.content entry.1.collaborative
      source := entry.1.source
      rank := entry.2
      generatedAt := at_
      reasons := entry.1.reasons })

def publish (userId : UserId) (recommendations : List (Recommendation R)) : UseCase R Unit := do
  if recommendations.isEmpty then return ()
  let stamp ← Stamps.next
  Outbox.enqueue (.of userId recommendations stamp)

def generate (generation : Generation R) (userId : UserId) (limit : Nat) : UseCase R Nat := do
  let preference ← preferenceOf userId
  if preference.isCold then
    Recommendations.replaceFor userId []
    return 0
  let played ← Games.byIds preference.rememberedGames
  let preference ← rebuilt generation preference played
  let candidates ← Games.recommendable generation.catalogueLimit
  -- The source passes the owned ids sorted. Both backends use them as a set.
  let coPurchases ← Ownerships.coPurchases userId preference.owned Limits.maxCollaborativeCandidates
  let scored := HybridRanker.rank generation.content preference candidates coPurchases limit
  let scored ← explained generation scored played
  let at_ ← Stamps.now
  let recommendations ← Program.forEach (recommendation userId at_) (scored.zipIdx 1)
  Recommendations.replaceFor userId recommendations
  publish userId recommendations
  return recommendations.length

def execute (generation : Generation R) (userId : UserId) (limit : Nat) : UseCase R Nat := do
  let written ← generate generation userId limit
  commit
  return written

end GenerateRecommendations

structure RefreshReport where
  usersProcessed : Nat
  recommendationsWritten : Nat
  generatedAt : DateTime
  deriving DecidableEq

end ArcadiaRecommendation
