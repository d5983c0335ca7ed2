import ArcadiaRecommendation.Foundation.Similarity
import ArcadiaRecommendation.Properties.Ranking
import Mathlib.Algebra.Order.Round
import Mathlib.Analysis.Real.Sqrt

/-! The two cosines as quotients of a dot product, in exact real arithmetic: how learning moves
them, and what bounds the scores made of them. -/
namespace ArcadiaRecommendation

open Classical in
/-- The real numbers, rounded to six places by the nearest integer. -/
noncomputable instance : RealScalar ℝ where
  literal := fun value => value
  sum := List.sum
  sqrt := Real.sqrt
  round6 := fun value => round (value * 1000000) / 1000000
  isZero := fun value => decide (value = 0)
  less := fun left right => decide (left < right)
  literal_cast := fun _ => rfl
  sum_exact := fun _ => rfl
  isZero_iff := fun _ => decide_eq_true_iff
  less_iff := fun _ _ => decide_eq_true_iff
  root_nonneg := Real.sqrt_nonneg
  root_square := fun _ => Real.mul_self_sqrt

namespace Embedding
variable {R : Type}

theorem coordinate_absent [Scalar R] (vector : Embedding R) (name : String) (absent : name ∉ vector.weights.keys) :
    vector.coordinate name = 0 := by
  unfold coordinate
  rw [Dict.get_eq_none _ name absent]
  rfl

private theorem values_coordinates [Scalar R] (vector : Embedding R) :
    vector.weights.values = vector.weights.keys.map vector.coordinate := by
  unfold Dict.values Dict.keys
  rw [List.map_map]
  apply List.map_congr_left
  intro entry member
  have found := (vector.weights.mem_entries entry.1 entry.2).mp member
  simp only [Function.comp_apply,coordinate,found,Option.getD_some]

variable [RealScalar R]

def Within (vector : Embedding R) (places : Finset String) : Prop := ∀ name ∈ vector.weights.keys, name ∈ places

theorem magnitude_norm (vector : Embedding R) (places : Finset String) (enough : vector.Within places) :
    Similarity.IsNorm places vector.coordinate vector.magnitude := by
  have squares : Scalar.sum (vector.weights.values.map fun value => value * value) =
      Similarity.dot places vector.coordinate vector.coordinate := by
    rw [ExactScalar.sum_eq,values_coordinates,List.map_map,← List.sum_toFinset _ vector.weights.keys_nodup]
    unfold Similarity.dot
    apply Finset.sum_subset
    · intro name member
      exact enough name (List.mem_toFinset.mp member)
    · intro name _ absent
      have zero := vector.coordinate_absent name fun member => absent (List.mem_toFinset.mpr member)
      simp only [Function.comp_apply,zero,mul_zero]
  refine ⟨RealScalar.sqrt_nonneg _,?_⟩
  unfold magnitude
  rw [RealScalar.sqrt_square,squares]
  rw [squares]
  exact Finset.sum_nonneg fun name _ => mul_self_nonneg _

theorem cosine_quotient (own other : Embedding R) (places : Finset String) (enough : own.Within places) :
    own.cosine other = Similarity.quotient places own.coordinate other.coordinate own.magnitude other.magnitude := by
  have products : Scalar.sum ((own.shared other).map fun name =>
      (own.weights.get name).getD 0 * (other.weights.get name).getD 0) =
        Similarity.dot places own.coordinate other.coordinate := by
    have distinct : (own.shared other).Nodup := own.weights.keys_nodup.sublist List.filter_sublist
    rw [ExactScalar.sum_eq,← List.sum_toFinset _ distinct]
    unfold Similarity.dot
    apply Finset.sum_subset
    · intro name member
      exact enough name (List.mem_filter.mp (List.mem_toFinset.mp member)).1
    · intro name _ absent
      by_cases left : name ∈ own.weights.keys
      · have missing : other.weights.get name = none := by
          cases found : other.weights.get name with
          | none => rfl
          | some value =>
            have both : name ∈ own.shared other := List.mem_filter.mpr ⟨left,by simp [Dict.contains,found]⟩
            exact absurd (List.mem_toFinset.mpr both) absent
        rw [missing,Option.getD_none,mul_zero]
      · have zero := own.coordinate_absent name left
        unfold coordinate at zero
        rw [zero,zero_mul]
  unfold cosine Similarity.quotient
  dsimp only
  split
  · rename_i flat
    rw [Bool.or_eq_true,ExactScalar.isZero_eq,ExactScalar.isZero_eq] at flat
    rcases flat with left | right
    · rw [left,zero_mul,div_zero]
    · rw [right,mul_zero,div_zero]
  split
  · rename_i apart
    rw [← products,List.isEmpty_iff.mp apart,List.map_nil,ExactScalar.sum_eq,List.sum_nil,zero_div]
  · rw [products]

theorem plus_moved (own other : Embedding R) (scale : R) :
    (own.plus other scale).coordinate = Similarity.moved own.coordinate other.coordinate scale :=
  funext fun name => coordinate_plus own other scale name

theorem cosine_plus (own other : Embedding R) (scale : R) :
    (0 ≤ scale → own.cosine other ≤ (own.plus other scale).cosine other) ∧
      (scale ≤ 0 → (own.plus other scale).cosine other ≤ own.cosine other) := by
  let places := (own.weights.keys ++ other.weights.keys ++ (own.plus other scale).weights.keys).toFinset
  have left : own.Within places := fun name member => by simp [places,member]
  have right : other.Within places := fun name member => by simp [places,member]
  have sum : (own.plus other scale).Within places := fun name member => by simp [places,member]
  have after := (own.plus other scale).magnitude_norm places sum
  rw [cosine_quotient own other places left,cosine_quotient _ other places sum]
  rw [plus_moved] at after ⊢
  exact ⟨fun forward => Similarity.quotient_mono (own.magnitude_norm places left) (other.magnitude_norm places right)
      forward after,
    fun backward => Similarity.quotient_anti (own.magnitude_norm places left) (other.magnitude_norm places right)
      backward after⟩

end Embedding

namespace DenseEmbedding
variable {R : Type} [RealScalar R]

def component (vector : DenseEmbedding R) (place : Nat) : R := vector.values.getD place 0

private theorem sum_zipWith (left right : List R) (same : left.length = right.length) :
    (List.zipWith (· * ·) left right).sum =
      Similarity.dot (Finset.range left.length) (left.getD · 0) (right.getD · 0) := by
  unfold Similarity.dot
  induction left generalizing right with
  | nil => rfl
  | cons first rest ih =>
    cases right with
    | nil => cases same
    | cons other later =>
      rw [List.zipWith_cons_cons,List.sum_cons,ih later (Nat.succ.inj same),List.length_cons,Finset.sum_range_succ']
      simp only [List.getD_cons_zero,List.getD_cons_succ]
      exact add_comm _ _

theorem magnitude_norm (vector : DenseEmbedding R) :
    Similarity.IsNorm (Finset.range vector.values.length) vector.component vector.magnitude := by
  have squares : Scalar.sum (vector.values.map fun value => value * value) =
      Similarity.dot (Finset.range vector.values.length) vector.component vector.component := by
    rw [ExactScalar.sum_eq,← List.zipWith_self]
    exact sum_zipWith vector.values vector.values rfl
  refine ⟨RealScalar.sqrt_nonneg _,?_⟩
  unfold magnitude
  rw [squares,RealScalar.sqrt_square]
  exact Finset.sum_nonneg fun place _ => mul_self_nonneg _

theorem cosine_quotient (own other : DenseEmbedding R) (same : own.values.length = other.values.length) :
    own.cosine other = Similarity.quotient (Finset.range own.values.length) own.component other.component
      own.magnitude other.magnitude := by
  have products := sum_zipWith own.values other.values same
  unfold cosine Similarity.quotient
  split
  · rename_i bare
    have none : own.values.length = 0 := by
      simp only [isEmpty,Bool.or_eq_true,List.isEmpty_iff,decide_eq_true_eq] at bare
      rcases bare with (left | right) | differ
      · rw [left]
        rfl
      · rw [same,right]
        rfl
      · exact absurd same differ
    rw [none,Finset.range_zero]
    exact (zero_div _).symm
  · dsimp only
    split
    · rename_i flat
      rw [Bool.or_eq_true,ExactScalar.isZero_eq,ExactScalar.isZero_eq] at flat
      rcases flat with left | right
      · rw [left,zero_mul,div_zero]
      · rw [right,mul_zero,div_zero]
    · rw [ExactScalar.sum_eq,products]
      rfl

theorem component_plus (own other : DenseEmbedding R) (scale : R) (same : own.values.length = other.values.length) :
    component ⟨List.zipWith (fun left right => left + right * scale) own.values other.values⟩ =
      Similarity.moved own.component other.component scale := by
  funext place
  unfold Similarity.moved component
  simp only [List.getD_eq_getElem?_getD,List.getElem?_zipWith]
  rcases Nat.lt_or_ge place own.values.length with inside | outside
  · rw [List.getElem?_eq_getElem inside,List.getElem?_eq_getElem (same ▸ inside)]
    rfl
  · rw [List.getElem?_eq_none outside,List.getElem?_eq_none (same ▸ outside)]
    simp

theorem component_scaled (values : List R) (scale : R) :
    component ⟨values.map fun value => value * scale⟩ = fun place => component ⟨values⟩ place * scale := by
  funext place
  unfold component
  simp only [List.getD_eq_getElem?_getD,List.getElem?_map]
  cases values[place]? with
  | none => simp
  | some value => rfl

private theorem cosine_first (other : DenseEmbedding R) (scale : R) :
    (0 ≤ scale → 0 ≤ cosine ⟨other.values.map fun value => value * scale⟩ other) ∧
      (scale ≤ 0 → cosine ⟨other.values.map fun value => value * scale⟩ other ≤ 0) := by
  have scaled := magnitude_norm ⟨other.values.map fun value => value * scale⟩
  have norms := mul_nonneg scaled.nonneg other.magnitude_norm.nonneg
  have square : 0 ≤ Similarity.dot (Finset.range other.values.length) other.component other.component := by
    rw [← other.magnitude_norm.square]
    exact mul_self_nonneg _
  rw [cosine_quotient ⟨other.values.map fun value => value * scale⟩ other (List.length_map _)]
  unfold Similarity.quotient
  dsimp only
  rw [List.length_map,component_scaled,Similarity.dot_scaled]
  exact ⟨fun forward => div_nonneg (mul_nonneg square forward) norms,
    fun backward => div_nonpos_of_nonpos_of_nonneg (mul_nonpos_of_nonneg_of_nonpos square backward) norms⟩

theorem cosine_plus (own other sum : DenseEmbedding R) (scale : R) (added : own.plus other scale = .ok sum) :
    (0 ≤ scale → own.cosine other ≤ sum.cosine other) ∧ (scale ≤ 0 → sum.cosine other ≤ own.cosine other) := by
  unfold plus at added
  split at added
  · obtain rfl := Except.ok.inj added
    exact ⟨fun _ => le_refl _,fun _ => le_refl _⟩
  split at added
  · rename_i bare
    obtain rfl := Except.ok.inj added
    have before : own.cosine other = 0 := by
      unfold cosine
      rw [bare]
      rfl
    rw [before]
    exact other.cosine_first scale
  split at added
  · cases added
  · rename_i same
    obtain rfl := Except.ok.inj added
    have equal : own.values.length = other.values.length := not_not.mp same
    have width : (List.zipWith (fun left right => left + right * scale) own.values other.values).length =
        own.values.length := by
      rw [List.length_zipWith,← equal,Nat.min_self]
    have right := other.magnitude_norm
    rw [← equal] at right
    have after := magnitude_norm ⟨List.zipWith (fun left right => left + right * scale) own.values other.values⟩
    dsimp only at after
    rw [width,component_plus own other scale equal] at after
    rw [cosine_quotient own other equal,cosine_quotient _ other (width.trans equal)]
    dsimp only
    rw [width,component_plus own other scale equal]
    exact ⟨fun forward => Similarity.quotient_mono own.magnitude_norm right forward after,
      fun backward => Similarity.quotient_anti own.magnitude_norm right backward after⟩

end DenseEmbedding

/-- In exact real arithmetic a purchase or a like never takes the taste further from the game, and a
dislike never brings it closer, in either space. -/
theorem observe_moves_taste {R : Type} [RealScalar R] [Casing] (preference after : UserPreference R)
    (game : GameProfile R) (kind : SignalKind) (at_ : DateTime) (observed : preference.observe game kind at_ = .ok after) :
    (kind ≠ .reviewDislike → preference.taste.cosine game.embedding ≤ after.taste.cosine game.embedding ∧
      preference.tasteDense.cosine game.dense ≤ after.tasteDense.cosine game.dense) ∧
    (kind = .reviewDislike → after.taste.cosine game.embedding ≤ preference.taste.cosine game.embedding ∧
      after.tasteDense.cosine game.dense ≤ preference.tasteDense.cosine game.dense) := by
  obtain ⟨tasteDense,added,same⟩ := UserPreference.observe_ok preference after game kind at_ observed
  obtain ⟨sparseUp,sparseDown⟩ := preference.taste.cosine_plus game.embedding (weightOf kind)
  obtain ⟨denseUp,denseDown⟩ := preference.tasteDense.cosine_plus game.dense tasteDense (weightOf kind) added
  have taste : after.taste = preference.taste.plus game.embedding (weightOf kind) := by rw [same]
  have dense : after.tasteDense = tasteDense := by rw [same]
  rw [taste,dense]
  constructor
  · intro liked
    have forward : (0 : R) ≤ weightOf kind := by
      cases kind with
      | purchase =>
        rw [weightOf,ExactScalar.literal_eq]
        norm_num
      | reviewLike =>
        rw [weightOf,ExactScalar.literal_eq]
        norm_num
      | reviewDislike => exact absurd rfl liked
    exact ⟨sparseUp forward,denseUp forward⟩
  · intro disliked
    have backward : (weightOf kind : R) ≤ 0 := by
      rw [disliked,weightOf,ExactScalar.literal_eq]
      norm_num
    exact ⟨sparseDown backward,denseDown backward⟩

section
attribute [local instance] Casing.unchanged

theorem racing_embedded {R : Type} [Scalar R] :
    (embed ["racing"] [] : Except InvariantViolation (Embedding R)) = .ok (.of ["genre:racing"]) := rfl

/-- A game with one label, as it is first published. -/
def racingGame {R : Type} [Scalar R] (gameId : GameId) : GameProfile R :=
  { (GameProfile.untitled gameId : GameProfile R) with
    genres := ["racing"]
    embedding := .of ["genre:racing"]
    labelsEmbedded := fun _ _ => racing_embedded }

def racingFan {R : Type} [Scalar R] : UserPreference R := { UserPreference.blank ⟨⟨1⟩⟩ with taste := .of ["genre:racing"] }

theorem observe_moves_taste_disliked :
    let fan : UserPreference ℝ := { racingFan with tasteDense := ⟨[2,1]⟩ }
    ∃ after, fan.observe ((racingGame ⟨⟨1⟩⟩).embedded ⟨[1,2]⟩) .reviewDislike ⟨0⟩ = .ok after ∧
      after.taste.cosine (.of ["genre:racing"]) ≤ fan.taste.cosine (.of ["genre:racing"]) ∧
      after.tasteDense.cosine ⟨[1,2]⟩ ≤ fan.tasteDense.cosine ⟨[1,2]⟩ :=
  ⟨_,rfl,(observe_moves_taste _ _ ((racingGame ⟨⟨1⟩⟩).embedded ⟨[1,2]⟩) .reviewDislike ⟨0⟩ rfl).2 rfl⟩

end

/-- A similarity between -1 and 1 that has no regard for the length of its vectors. -/
structure Normalised {V R : Type} [RealScalar R] (cosine : V → V → R) (scaled : V → R → V) : Prop where
  low : ∀ own other, -1 ≤ cosine own other
  high : ∀ own other, cosine own other ≤ 1
  symmetric : ∀ own other, cosine own other = cosine other own
  scale : ∀ own other factor, 0 < factor → cosine (scaled own factor) other = cosine own other
  scaleOther : ∀ own other factor, 0 < factor → cosine own (scaled other factor) = cosine own other

inductive ZeroDivisionError
  | raised

section
variable {R : Type} [Scalar R]

/-- `numerator / denominator` -/
def divided (numerator denominator : R) : Except ZeroDivisionError R :=
  if Scalar.isZero denominator then .error .raised else .ok (numerator / denominator)

/-- The cosine with its division as the interpreter makes it. -/
def Embedding.cosineRaising (own other : Embedding R) : Except ZeroDivisionError R :=
  let left := own.magnitude
  let right := other.magnitude
  if Scalar.isZero left || Scalar.isZero right then .ok 0
  else if (own.shared other).isEmpty then .ok 0
  else
    divided (Scalar.sum ((own.shared other).map fun name =>
      (own.weights.get name).getD 0 * (other.weights.get name).getD 0)) (left * right)

def DenseEmbedding.cosineRaising (own other : DenseEmbedding R) : Except ZeroDivisionError R :=
  if own.isEmpty || other.isEmpty || own.values.length ≠ other.values.length then .ok 0
  else
    let left := own.magnitude
    let right := other.magnitude
    if Scalar.isZero left || Scalar.isZero right then .ok 0
    else divided (Scalar.sum (List.zipWith (· * ·) own.values other.values)) (left * right)

def Embedding.scaled (vector : Embedding R) (factor : R) : Embedding R :=
  ofWeights (vector.weights.mapValues fun value => value * factor)

def DenseEmbedding.scaled (vector : DenseEmbedding R) (factor : R) : DenseEmbedding R :=
  ⟨vector.values.map fun value => value * factor⟩

end

section
variable {R : Type} [RealScalar R]

private theorem divided_norms (numerator left right : R)
    (positive : ¬(Scalar.isZero left || Scalar.isZero right) = true) :
    divided numerator (left * right) = .ok (numerator / (left * right)) := by
  unfold divided
  rw [if_neg]
  rw [Bool.or_eq_true,ExactScalar.isZero_eq,ExactScalar.isZero_eq,not_or] at positive
  rw [ExactScalar.isZero_eq]
  exact mul_ne_zero positive.1 positive.2

private theorem Embedding.cosineRaising_ok (own other : Embedding R) :
    own.cosineRaising other = .ok (own.cosine other) := by
  unfold cosineRaising cosine
  dsimp only
  split
  · rfl
  rename_i positive
  split
  · rfl
  · exact divided_norms _ _ _ positive

private theorem DenseEmbedding.cosineRaising_ok (own other : DenseEmbedding R) :
    own.cosineRaising other = .ok (own.cosine other) := by
  unfold cosineRaising cosine
  split
  · rfl
  dsimp only
  split
  · rfl
  · rename_i positive
    exact divided_norms _ _ _ positive

private theorem Embedding.coordinate_scaled (vector : Embedding R) (factor : R) :
    (vector.scaled factor).coordinate = fun name => vector.coordinate name * factor := by
  funext name
  unfold scaled
  rw [coordinate_ofWeights,Dict.get_mapValues]
  unfold coordinate
  cases vector.weights.get name with
  | none => simp
  | some value => rfl

def Embedding.places (first second : Embedding R) : Finset String := (first.weights.keys ++ second.weights.keys).toFinset

theorem Embedding.within_places (first second : Embedding R) :
    first.Within (first.places second) ∧ second.Within (first.places second) :=
  ⟨fun name member => by simp [places,member],fun name member => by simp [places,member]⟩

private theorem Embedding.cosine_bounds (own other : Embedding R) : -1 ≤ own.cosine other ∧ own.cosine other ≤ 1 := by
  obtain ⟨left,right⟩ := own.within_places other
  rw [cosine_quotient own other _ left]
  exact Similarity.quotient_bounds (own.magnitude_norm _ left) (other.magnitude_norm _ right)

theorem Embedding.cosine_comm (own other : Embedding R) : own.cosine other = other.cosine own := by
  obtain ⟨left,right⟩ := own.within_places other
  rw [cosine_quotient own other _ left,cosine_quotient other own _ right]
  exact Similarity.quotient_comm

private theorem Embedding.cosine_scaled (own other : Embedding R) (factor : R) (positive : 0 < factor) :
    (own.scaled factor).cosine other = own.cosine other := by
  obtain ⟨left,longer⟩ := own.within_places (own.scaled factor)
  have after := (own.scaled factor).magnitude_norm _ longer
  rw [coordinate_scaled] at after
  have length := after.unique ((own.magnitude_norm _ left).scaled positive.le)
  rw [cosine_quotient own other _ left,cosine_quotient _ other _ longer,coordinate_scaled,length]
  exact Similarity.quotient_scaled positive

private theorem Embedding.cosine_normalised : Normalised (Embedding.cosine (R := R)) Embedding.scaled where
  low own other := (own.cosine_bounds other).1
  high own other := (own.cosine_bounds other).2
  symmetric := cosine_comm
  scale := cosine_scaled
  scaleOther own other factor positive := by
    rw [cosine_comm,cosine_scaled other own factor positive,cosine_comm]

private theorem DenseEmbedding.cosine_apart (own other : DenseEmbedding R)
    (apart : own.values.length ≠ other.values.length) : own.cosine other = 0 := by
  unfold cosine
  rw [if_pos]
  simp [apart]

private theorem DenseEmbedding.cosine_bounds (own other : DenseEmbedding R) :
    -1 ≤ own.cosine other ∧ own.cosine other ≤ 1 := by
  by_cases same : own.values.length = other.values.length
  · have right := other.magnitude_norm
    rw [← same] at right
    rw [cosine_quotient own other same]
    exact Similarity.quotient_bounds own.magnitude_norm right
  · rw [cosine_apart own other same]
    exact ⟨by linarith,zero_le_one⟩

theorem DenseEmbedding.cosine_comm (own other : DenseEmbedding R) : own.cosine other = other.cosine own := by
  by_cases same : own.values.length = other.values.length
  · rw [cosine_quotient own other same,cosine_quotient other own same.symm,← same]
    exact Similarity.quotient_comm
  · rw [cosine_apart own other same,cosine_apart other own (Ne.symm same)]

private theorem DenseEmbedding.cosine_scaled (own other : DenseEmbedding R) (factor : R) (positive : 0 < factor) :
    (own.scaled factor).cosine other = own.cosine other := by
  have width : (own.scaled factor).values.length = own.values.length := List.length_map _
  by_cases same : own.values.length = other.values.length
  · have after := (own.scaled factor).magnitude_norm
    have components : (own.scaled factor).component = fun place => own.component place * factor :=
      component_scaled own.values factor
    rw [width,components] at after
    have length := after.unique (own.magnitude_norm.scaled positive.le)
    rw [cosine_quotient own other same,cosine_quotient _ other (width.trans same),width,components,length]
    exact Similarity.quotient_scaled positive
  · rw [cosine_apart own other same,cosine_apart _ other (by rwa [width])]

private theorem DenseEmbedding.cosine_normalised :
    Normalised (DenseEmbedding.cosine (R := R)) DenseEmbedding.scaled where
  low own other := (own.cosine_bounds other).1
  high own other := (own.cosine_bounds other).2
  symmetric := cosine_comm
  scale := cosine_scaled
  scaleOther own other factor positive := by
    rw [cosine_comm,cosine_scaled other own factor positive,cosine_comm]

end

inductive ContentSpace
  | sparse
  | dense

namespace ContentSpace
variable {R : Type} [Casing]

def scorer [Scalar R] : ContentSpace → ContentScorer R
  | .sparse => contentBasedScorer
  | .dense => denseContentScorer

def blended [Scalar R] (space : ContentSpace) (preference : UserPreference R) (game : GameProfile R)
    (coPurchases : Dict GameId Int) : R :=
  HybridRanker.blend (space.scorer.score preference game) (HybridRanker.shared coPurchases game.gameId)

def cosineRaising [Scalar R] (preference : UserPreference R) (game : GameProfile R) :
    ContentSpace → Except ZeroDivisionError R
  | .sparse => preference.taste.cosineRaising game.embedding
  | .dense => preference.tasteDense.cosineRaising game.dense

def believedRaising {R : Type} [Scalar R] (count : Int) : Except ZeroDivisionError R :=
  if 0 < count then
    divided (Scalar.literal count) (Scalar.literal count + Scalar.literal CollaborativeScorer.prior)
  else .ok 0

/-- The same score with every division as the interpreter makes it. -/
def blendedRaising [Scalar R] (space : ContentSpace) (preference : UserPreference R) (game : GameProfile R)
    (coPurchases : Dict GameId Int) : Except ZeroDivisionError R := do
  let collaborative ← believedRaising ((coPurchases.get game.gameId).getD 0)
  let cosine ← space.cosineRaising preference game
  return HybridRanker.blend (atLeastZero cosine) collaborative

variable [RealScalar R]

omit [Casing] in
private theorem atLeastZero_bounds (value : R) (high : value ≤ 1) : 0 ≤ atLeastZero value ∧ atLeastZero value ≤ 1 := by
  unfold atLeastZero
  split
  · rename_i positive
    exact ⟨((ExactScalar.less_eq 0 value).mp positive).le,high⟩
  · exact ⟨le_refl 0,zero_le_one⟩

theorem score_bounds (space : ContentSpace) (preference : UserPreference R) (game : GameProfile R) :
    0 ≤ space.scorer.score preference game ∧ space.scorer.score preference game ≤ 1 := by
  cases space with
  | sparse => exact atLeastZero_bounds _ (Embedding.cosine_normalised.high _ _)
  | dense => exact atLeastZero_bounds _ (DenseEmbedding.cosine_normalised.high _ _)

omit [Casing] in
theorem believed_bounds (count : Int) : 0 ≤ (HybridRanker.believed count : R) ∧ (HybridRanker.believed count : R) < 1 := by
  unfold HybridRanker.believed
  split
  · rename_i positive
    have above : (0 : R) < count := by exact_mod_cast positive
    rw [ExactScalar.literal_int,ExactScalar.literal_eq,CollaborativeScorer.prior]
    have prior : ((5 : ℚ) : R) = 5 := by norm_num
    rw [prior]
    exact ⟨(div_pos above (by linarith)).le,(div_lt_one (by linarith)).mpr (by linarith)⟩
  · exact ⟨le_refl 0,zero_lt_one⟩

omit [Casing] in
private theorem believedRaising_ok (count : Int) : believedRaising count = .ok (HybridRanker.believed count : R) := by
  unfold believedRaising HybridRanker.believed
  split
  · rename_i positive
    have above : (0 : R) < count := by exact_mod_cast positive
    unfold divided
    rw [if_neg]
    rw [ExactScalar.isZero_eq,ExactScalar.literal_int,ExactScalar.literal_eq,CollaborativeScorer.prior]
    have prior : ((5 : ℚ) : R) = 5 := by norm_num
    rw [prior]
    linarith
  · rfl

private theorem blendedRaising_ok (space : ContentSpace) (preference : UserPreference R) (game : GameProfile R)
    (coPurchases : Dict GameId Int) :
    space.blendedRaising preference game coPurchases = .ok (space.blended preference game coPurchases) := by
  unfold blendedRaising blended
  rw [believedRaising_ok,HybridRanker.shared_believed]
  cases space with
  | sparse =>
    simp only [cosineRaising,Embedding.cosineRaising_ok]
    rfl
  | dense =>
    simp only [cosineRaising,DenseEmbedding.cosineRaising_ok]
    rfl

end ContentSpace

/-- In exact real arithmetic both cosines are normalised, and with either scorer a blended score is
at least zero and below one, divides by nothing that is zero, and has no regard for the volume of
the taste. -/
theorem scores_bounded_volume_free (R : Type) [RealScalar R] [Casing] :
    Normalised (Embedding.cosine (R := R)) Embedding.scaled ∧
    Normalised (DenseEmbedding.cosine (R := R)) DenseEmbedding.scaled ∧
    ∀ (space : ContentSpace) (preference : UserPreference R) (game : GameProfile R) (coPurchases : Dict GameId Int),
      0 ≤ space.blended preference game coPurchases ∧ space.blended preference game coPurchases < 1 ∧
      space.blendedRaising preference game coPurchases = .ok (space.blended preference game coPurchases) ∧
      ∀ factor : R, 0 < factor → space.blended { preference with
          taste := preference.taste.scaled factor
          tasteDense := preference.tasteDense.scaled factor } game coPurchases =
        space.blended preference game coPurchases := by
  refine ⟨Embedding.cosine_normalised,DenseEmbedding.cosine_normalised,?_⟩
  intro space preference game coPurchases
  obtain ⟨contentLow,contentHigh⟩ := space.score_bounds preference game
  obtain ⟨sharedLow,sharedHigh⟩ := ContentSpace.believed_bounds (R := R) ((coPurchases.get game.gameId).getD 0)
  rw [← HybridRanker.shared_believed] at sharedLow sharedHigh
  have content : (Scalar.literal HybridRanker.contentWeight : R) = 65/100 := by
    rw [ExactScalar.literal_eq,HybridRanker.contentWeight]
    norm_num
  have collaborative : (Scalar.literal HybridRanker.collaborativeWeight : R) = 35/100 := by
    rw [ExactScalar.literal_eq,HybridRanker.collaborativeWeight]
    norm_num
  refine ⟨?_,?_,space.blendedRaising_ok preference game coPurchases,?_⟩
  · unfold ContentSpace.blended HybridRanker.blend
    rw [content,collaborative]
    linarith
  · unfold ContentSpace.blended HybridRanker.blend
    rw [content,collaborative]
    linarith
  · intro factor positive
    cases space with
    | sparse =>
      have same := Embedding.cosine_normalised.scale preference.taste game.embedding factor positive
      simp only [ContentSpace.blended,ContentSpace.scorer,contentBasedScorer,same]
    | dense =>
      have same := DenseEmbedding.cosine_normalised.scale preference.tasteDense game.dense factor positive
      simp only [ContentSpace.blended,ContentSpace.scorer,denseContentScorer,same]

end ArcadiaRecommendation
