import ArcadiaRecommendation.Memory.CoPurchases
import ArcadiaRecommendation.Properties.Similarity
import ArcadiaRecommendation.Properties.Widths

/-! A cold user is not ranked: what the skipped ranking would have had to go on. -/
namespace ArcadiaRecommendation

namespace HybridRanker
variable {R : Type} [RealScalar R]

theorem blend_pos_iff (content collaborative : R) (own : 0 ≤ content) (others : 0 ≤ collaborative) :
    0 < blend content collaborative ↔ 0 < content ∨ 0 < collaborative := by
  have first : (Scalar.literal contentWeight : R) = 65/100 := by
    rw [ExactScalar.literal_eq,contentWeight]
    norm_num
  have second : (Scalar.literal collaborativeWeight : R) = 35/100 := by
    rw [ExactScalar.literal_eq,collaborativeWeight]
    norm_num
  unfold blend
  rw [first,second]
  constructor
  · intro positive
    by_contra neither
    rw [not_or,not_lt,not_lt] at neither
    linarith
  · rintro (ahead | ahead) <;> linarith

end HybridRanker

theorem atLeastZero_pos_iff {R : Type} [RealScalar R] (value : R) : 0 < atLeastZero value ↔ 0 < value := by
  unfold atLeastZero
  split
  · rfl
  · rename_i low
    exact iff_of_false (lt_irrefl 0) fun positive => low ((ExactScalar.less_eq 0 value).mpr positive)

namespace DenseEmbedding
variable {R : Type} [RealScalar R]

def dot (own other : DenseEmbedding R) : R :=
  Similarity.dot (Finset.range other.values.length) own.component other.component

private theorem component_empty : (empty : DenseEmbedding R).component = fun _ => 0 := rfl

theorem plus_moved (own other sum : DenseEmbedding R) (scale : R) (added : own.plus other scale = .ok sum) :
    sum.component = Similarity.moved own.component other.component scale := by
  unfold plus at added
  split at added
  · rename_i bare
    cases Except.ok.inj added
    rw [(isEmpty_iff other).mp bare,component_empty]
    funext place
    simp [Similarity.moved]
  split at added
  · rename_i bare
    cases Except.ok.inj added
    rw [(isEmpty_iff own).mp bare,component_empty,component_scaled]
    funext place
    simp only [Similarity.moved,zero_add]
  split at added
  · cases added
  · rename_i same
    cases Except.ok.inj added
    exact component_plus own other scale (not_not.mp same)

end DenseEmbedding

def ContentSpace.generation {R : Type} [Scalar R] [Casing] (space : ContentSpace) (catalogueLimit : Nat) :
    Generation R where
  content := space.scorer
  catalogueLimit := catalogueLimit
  denseSpace := match space with
    | .sparse => false
    | .dense => true

namespace Memory

section
variable {R : Type} [RealScalar R] [Casing]

end

section
attribute [local instance] Casing.unchanged

@[reducible] def Floats.integers (R : Type) [Scalar R] : Floats R where
  ofInt value := some (Scalar.literal value)
  ofText _ := none

attribute [local instance] Floats.integers

end
end Memory
end ArcadiaRecommendation
