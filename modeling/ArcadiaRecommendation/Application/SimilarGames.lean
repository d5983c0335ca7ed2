import ArcadiaRecommendation.Application.Ports

/-! The content neighbours of one game, ranked when they are asked for: by the sparse vectors over a
scan of the catalogue, or by the dense ones as the store answers. -/
namespace ArcadiaRecommendation
structure SimilarGame (R : Type) where
  gameId : String
  title : String
  genres : List String := []
  similarity : R
  sharedFeatures : List String := []
  deriving DecidableEq

structure SimilarGamesResponse (R : Type) where
  gameId : String
  items : List (SimilarGame R) := []
  deriving DecidableEq

structure NotFound where
  message : String
  deriving DecidableEq

/-- The games a store finds nearest to one in the dense space. -/
abbrev NearestTo (R : Type) [Scalar R] [Casing] := GameProfile R → Nat → Except Fault (List (GameProfile R))

namespace ListSimilarGames
variable {R : Type} [Scalar R] [Casing]

/-- The sort key `(-similarity, -purchase_count, str(game_id))` as a relation. -/
def precedes (first second : GameProfile R × R) : Prop :=
  Scalar.less second.2 first.2 = true ∨ Scalar.less first.2 second.2 = false ∧
    (second.1.purchaseCount < first.1.purchaseCount ∨
      first.1.purchaseCount = second.1.purchaseCount ∧ first.1.gameId.str ≤ second.1.gameId.str)

instance : DecidableRel (precedes (R := R)) := fun _ _ => inferInstanceAs (Decidable (_ ∨ _))

def scored (subject : GameProfile R) (gameId : GameId) (candidates : List (GameProfile R)) : List (GameProfile R × R) :=
  ((candidates.filter (·.gameId ≠ gameId)).map fun candidate =>
    (candidate,subject.embedding.cosine candidate.embedding)).filter fun entry => Scalar.less 0 entry.2

def ranked (subject : GameProfile R) (gameId : GameId) (candidates : List (GameProfile R)) (limit : Nat) :
    List (GameProfile R × R) :=
  (sortedBy precedes (scored subject gameId candidates)).take limit

def sparseItem (subject : GameProfile R) (entry : GameProfile R × R) : SimilarGame R where
  gameId := entry.1.gameId.str
  title := entry.1.title
  genres := entry.1.genres
  similarity := Scalar.round6 entry.2
  sharedFeatures := subject.embedding.overlap entry.1.embedding

/-- No dimension of the dense space has a name to share. -/
def denseItem (subject candidate : GameProfile R) : SimilarGame R where
  gameId := candidate.gameId.str
  title := candidate.title
  genres := candidate.genres
  similarity := Scalar.round6 (subject.dense.cosine candidate.dense)

def respond (nearestTo : NearestTo R) (catalogueLimit : Nat) (denseSpace : Bool) (gameId : GameId) (limit : Nat) :
    Option (GameProfile R) → UseCase R (Except NotFound (SimilarGamesResponse R))
  | none => .done (.error ⟨s!"game {gameId.str} is not known to this service"⟩)
  | some subject =>
    if denseSpace then do
      let neighbours ← (.ofExcept (nearestTo subject limit) : UseCase R (List (GameProfile R)))
      return .ok { gameId := gameId.str, items := neighbours.map (denseItem subject) }
    else do
      let candidates ← Games.recommendable catalogueLimit
      return .ok
        { gameId := gameId.str, items := (ranked subject gameId candidates limit).map (sparseItem subject) }

def execute (nearestTo : NearestTo R) (catalogueLimit : Nat) (denseSpace : Bool) (gameId : GameId) (limit : Nat) :
    UseCase R (Except NotFound (SimilarGamesResponse R)) := do
  let subject ← Games.get gameId
  respond nearestTo catalogueLimit denseSpace gameId limit subject

end ListSimilarGames
end ArcadiaRecommendation
