import ArcadiaRecommendation.Domain.Shared
import ArcadiaRecommendation.Foundation.Dict
import ArcadiaRecommendation.Foundation.Scalar

/-! The two content spaces: sparse vectors over named features, and dense vectors
whose coordinates have no names. No law of arithmetic is used by the definitions. -/
namespace ArcadiaRecommendation

/-- One dimension of the sparse space, as `genre:racing` or `tag:co-op`. -/
def feature [Casing] (kind raw : String) : Except InvariantViolation String :=
  let normalised := "-".intercalate (Text.split (Casing.lower (Text.strip raw)))
  if normalised = "" then .error (.blankFeature kind)
  else
    let token := kind ++ ":" ++ normalised
    if Limits.maxFeatureChars < token.length then .error (.longFeature token) else .ok token

theorem feature_error [Casing] (kind raw : String) (rule : InvariantViolation)
    (refused : feature kind raw = .error rule) : rule.isWidth = false := by
  unfold feature at refused
  dsimp only at refused
  split at refused
  · rw [← Except.error.inj refused]
    rfl
  split at refused
  · rw [← Except.error.inj refused]
    rfl
  · cases refused

structure Embedding (R : Type) [Scalar R] where
  weights : Dict String R
  nonzero : ∀ entry ∈ weights.entries, Scalar.isZero entry.2 = false
  deriving DecidableEq

namespace Embedding
variable {R : Type} [Scalar R]

def ofWeights (weights : Dict String R) : Embedding R :=
  ⟨weights.filter fun entry => !Scalar.isZero entry.2,by simp [Dict.filter]⟩

def empty : Embedding R := ofWeights ∅

def of (features : List String) : Embedding R :=
  ofWeights (features.foldl (fun weights name => weights.set name (Scalar.literal 1)) ∅)

def isEmpty (vector : Embedding R) : Bool := vector.weights.entries.isEmpty

def magnitude (vector : Embedding R) : R :=
  Scalar.sqrt (Scalar.sum (vector.weights.values.map fun value => value * value))

def plus (own other : Embedding R) (scale : R) : Embedding R :=
  ofWeights (other.weights.entries.foldl
    (fun combined entry => combined.set entry.1 ((combined.get entry.1).getD 0 + entry.2 * scale)) own.weights)

/-- The names both vectors carry. Python iterates them as a set, in no fixed order. -/
def shared (own other : Embedding R) : List String :=
  own.weights.keys.filter fun name => other.weights.contains name

def cosine (own other : Embedding R) : R :=
  let left := own.magnitude
  let right := other.magnitude
  if Scalar.isZero left || Scalar.isZero right then 0
  else if (own.shared other).isEmpty then 0
  else
    Scalar.sum ((own.shared other).map fun name =>
      (own.weights.get name).getD 0 * (other.weights.get name).getD 0) / (left * right)

def overlap (own other : Embedding R) : List String :=
  let weight := fun name => (own.weights.get name).getD 0
  let positive := (own.shared other).filter fun name =>
    Scalar.less 0 (weight name) && Scalar.less 0 ((other.weights.get name).getD 0)
  sortedBy (fun first second => Scalar.less (weight second) (weight first) = true ∨
    Scalar.less (weight first) (weight second) = false ∧ first ≤ second) positive

def coordinate (vector : Embedding R) (name : String) : R := (vector.weights.get name).getD 0

theorem get_of (unit : Scalar.isZero (Scalar.literal 1 : R) = false) (features : List String) (name : String) :
    (of features : Embedding R).weights.get name = if name ∈ features then some (Scalar.literal 1) else none := by
  have collected (weights : Dict String R) :
      (features.foldl (fun weights name => weights.set name (Scalar.literal 1)) weights).get name =
        if name ∈ features then some (Scalar.literal 1) else weights.get name := by
    induction features generalizing weights with
    | nil => rfl
    | cons first rest ih =>
      rw [List.foldl_cons,ih,Dict.get_set]
      by_cases later : name ∈ rest
      · simp [later]
      · by_cases here : name = first <;> simp [here,later]
  apply Option.ext
  intro value
  rw [of,ofWeights,Dict.get_filter,collected,Dict.get_empty]
  split
  · simp only [Option.some.injEq,and_iff_left_iff_imp]
    rintro rfl
    rw [unit]
    rfl
  · simp

@[simp] theorem coordinate_empty (name : String) : (empty : Embedding R).coordinate name = 0 := rfl

end Embedding

namespace Embedding
variable {R : Type} [ExactScalar R]

theorem coordinate_ofWeights (weights : Dict String R) (name : String) :
    (ofWeights weights).coordinate name = (weights.get name).getD 0 := by
  unfold coordinate ofWeights
  cases kept : (weights.filter fun entry => !Scalar.isZero entry.2).get name with
  | some value =>
    rw [((weights.get_filter _ name value).mp kept).1]
  | none =>
    cases stored : weights.get name with
    | none => rfl
    | some value =>
      have dropped : Scalar.isZero value = true := by
        by_contra nonzero
        have both := (weights.get_filter (fun entry => !Scalar.isZero entry.2) name value).mpr
          ⟨stored,by simpa using nonzero⟩
        rw [kept] at both
        cases both
      exact ((ExactScalar.isZero_iff value).mp dropped).symm

theorem get_combined (scale : R) (entries : List (String × R)) (distinct : (entries.map Prod.fst).Nodup)
    (combined : Dict String R) (name : String) :
    ((entries.foldl (fun combined entry =>
        combined.set entry.1 ((combined.get entry.1).getD 0 + entry.2 * scale)) combined).get name).getD 0 =
      (combined.get name).getD 0 + ((⟨entries,distinct⟩ : Dict String R).get name).getD 0 * scale := by
  induction entries generalizing combined with
  | nil =>
    have nothing : ((⟨[],distinct⟩ : Dict String R).get name).getD 0 = 0 := rfl
    rw [nothing,zero_mul,add_zero]
    rfl
  | cons entry rest ih =>
    obtain ⟨absent,tail⟩ := List.nodup_cons.mp distinct
    rw [List.foldl_cons,ih tail,Dict.get_cons,Dict.get_set]
    by_cases same : name = entry.1
    · have missing : (⟨rest,tail⟩ : Dict String R).get name = none := by
        by_contra present
        obtain ⟨value,found⟩ := Option.ne_none_iff_exists'.mp present
        have member := (Dict.mem_entries _ name value).mpr found
        exact absent (List.mem_map.mpr ⟨(name,value),member,same⟩)
      rw [if_pos same,if_pos same.symm,missing,same]
      simp
    · have apart : entry.1 ≠ name := fun equal => same equal.symm
      simp [same,apart]

theorem coordinate_plus (own other : Embedding R) (scale : R) (name : String) :
    (own.plus other scale).coordinate name = own.coordinate name + other.coordinate name * scale := by
  rw [plus,coordinate_ofWeights]
  exact get_combined scale other.weights.entries other.weights.distinct own.weights name

theorem get_of_coordinate (first second : Embedding R) (name : String)
    (same : first.coordinate name = second.coordinate name) : first.weights.get name = second.weights.get name := by
  have nonzero (vector : Embedding R) (value : R) (found : vector.weights.get name = some value) : value ≠ 0 := by
    intro zero
    have kept : Scalar.isZero value = false :=
      vector.nonzero (name,value) ((vector.weights.mem_entries name value).mpr found)
    have dropped : Scalar.isZero value = true := (ExactScalar.isZero_iff value).mpr zero
    rw [dropped] at kept
    cases kept
  unfold coordinate at same
  cases left : first.weights.get name with
  | none =>
    cases right : second.weights.get name with
    | none => rfl
    | some value =>
      rw [left,right] at same
      exact absurd same.symm (nonzero second value right)
  | some value =>
    cases right : second.weights.get name with
    | none =>
      rw [left,right] at same
      exact absurd same (nonzero first value left)
    | some other =>
      rw [left,right] at same
      exact congrArg some same

end Embedding

structure DenseEmbedding (R : Type) where
  values : List R
  deriving DecidableEq

namespace DenseEmbedding
variable {R : Type}

def empty : DenseEmbedding R := ⟨[]⟩

def isEmpty (vector : DenseEmbedding R) : Bool := vector.values.isEmpty

variable [Scalar R]

def magnitude (vector : DenseEmbedding R) : R :=
  Scalar.sqrt (Scalar.sum (vector.values.map fun value => value * value))

/-- An empty vector is the additive identity on either side. -/
def plus (own other : DenseEmbedding R) (scale : R) : Except InvariantViolation (DenseEmbedding R) :=
  if other.isEmpty then .ok own
  else if own.isEmpty then .ok ⟨other.values.map fun value => value * scale⟩
  else if own.values.length ≠ other.values.length then
    .error (.widthMismatch other.values.length own.values.length)
  else .ok ⟨List.zipWith (fun left right => left + right * scale) own.values other.values⟩

def cosine (own other : DenseEmbedding R) : R :=
  if own.isEmpty || other.isEmpty || own.values.length ≠ other.values.length then 0
  else
    let left := own.magnitude
    let right := other.magnitude
    if Scalar.isZero left || Scalar.isZero right then 0
    else Scalar.sum (List.zipWith (· * ·) own.values other.values) / (left * right)

theorem plus_empty (own : DenseEmbedding R) (scale : R) : own.plus empty scale = .ok own := rfl

/-- Empty, or as wide as the deployment stores. -/
def Sized (width : Nat) (vector : DenseEmbedding R) : Prop := vector = empty ∨ vector.values.length = width

omit [Scalar R] in
theorem isEmpty_iff (vector : DenseEmbedding R) : vector.isEmpty = true ↔ vector = empty := by
  obtain ⟨values⟩ := vector
  rw [isEmpty,List.isEmpty_iff]
  exact ⟨fun none => congrArg mk none,fun none => congrArg DenseEmbedding.values none⟩

theorem plus_sized (width : Nat) (own other : DenseEmbedding R) (scale : R) (left : own.Sized width)
    (right : other.Sized width) : ∃ sum, own.plus other scale = .ok sum ∧ sum.Sized width := by
  unfold plus
  split
  · exact ⟨own,rfl,left⟩
  rename_i nonempty
  have wide : other.values.length = width := right.resolve_left fun none => nonempty ((isEmpty_iff other).mpr none)
  split
  · exact ⟨_,rfl,.inr (by rw [List.length_map,wide])⟩
  rename_i started
  have same : own.values.length = width := left.resolve_left fun none => started ((isEmpty_iff own).mpr none)
  rw [if_neg (by rw [same,wide]; exact fun differ => differ rfl)]
  exact ⟨_,rfl,.inr (by rw [List.length_zipWith,same,wide,Nat.min_self])⟩

theorem plus_error (own other : DenseEmbedding R) (scale : R) (rule : InvariantViolation)
    (refused : own.plus other scale = .error rule) : rule = .widthMismatch other.values.length own.values.length := by
  unfold plus at refused
  split at refused
  · cases refused
  split at refused
  · cases refused
  split at refused
  · exact (Except.error.inj refused).symm
  · cases refused

end DenseEmbedding
end ArcadiaRecommendation
