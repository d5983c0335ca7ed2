import ArcadiaRecommendation.Application.SimilarGames
import ArcadiaRecommendation.Sql.Session

/-! The nearest games in the dense space. In memory every embedded game is compared. The database
orders its rows by the distance that its vector extension computes. -/
namespace ArcadiaRecommendation
variable {R : Type} [Scalar R] [Casing]

namespace Memory

/-- The sort key `(-similarity, str(game_id))` as a relation. -/
def nearer (first second : GameProfile R × R) : Prop :=
  Scalar.less second.2 first.2 = true ∨
    Scalar.less first.2 second.2 = false ∧ first.1.gameId.str ≤ second.1.gameId.str

instance : DecidableRel (nearer (R := R)) := fun _ _ => inferInstanceAs (Decidable (_ ∨ _))

def comparable (game candidate : GameProfile R) : Bool :=
  candidate.isPublished && candidate.gameId ≠ game.gameId && !candidate.dense.isEmpty

def nearestTo (store : MemoryStore R) : NearestTo R := fun game limit =>
  if game.dense.isEmpty then .ok []
  else
    let scored := (store.games.values.filter (comparable game)).map fun candidate =>
      (candidate,game.dense.cosine candidate.dense)
    .ok (((sortedBy nearer scored).take limit).map Prod.fst)

end Memory

namespace Sql
variable {width : Nat}

/-- `cosine_distance`. What is not a number sorts last. -/
abbrev CosineDistance (R : Type) := DenseEmbedding R → DenseEmbedding R → Option R

def closer (distance : CosineDistance R) (dense : DenseEmbedding R) (first second : GameFields R) : Prop :=
  match distance first.dense dense,distance second.dense dense with
  | some left,some right => Scalar.less right left = false
  | some _,none | none,none => True
  | none,some _ => False

instance (distance : CosineDistance R) (dense : DenseEmbedding R) : DecidableRel (closer distance dense) :=
  fun first second => by
    unfold closer
    split <;> infer_instance

def comparable (game : GameProfile R) (row : GameFields R) : Bool :=
  row.isPublished && !row.dense.isEmpty && row.gameId ≠ game.gameId

/-- Rows at the same distance come in whatever order the plan finds them. -/
def nearestTo [DecidableEq R] (distance : CosineDistance R) (backend : Backend R) (database : Database R width) :
    NearestTo R := fun game limit =>
  if game.dense.isEmpty then .ok []
  else profiles ({} : Session R width) ((sortedBy (closer distance game.dense)
    (backend.arrange (database.gameRows.filter (comparable game)))).take limit)

end Sql
end ArcadiaRecommendation
