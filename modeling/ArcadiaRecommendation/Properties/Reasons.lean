import ArcadiaRecommendation.Properties.ColdUsers

/-! What the sparse scorer says of its own suggestions: the reasons of a game are its labels that
the taste is in favour of, and there is one wherever the content counted. -/
namespace ArcadiaRecommendation

namespace Embedding
variable {R : Type} [RealScalar R]

private theorem get_pos_iff (vector : Embedding R) (name : String) :
    Scalar.less 0 ((vector.weights.get name).getD 0) = true ↔ 0 < vector.coordinate name := ExactScalar.less_eq _ _

theorem mem_shared (own other : Embedding R) (name : String) (left : 0 < own.coordinate name)
    (right : 0 < other.coordinate name) : name ∈ own.shared other := by
  have carried (vector : Embedding R) (positive : 0 < vector.coordinate name) : ∃ value, vector.weights.get name = some value := by
    cases found : vector.weights.get name with
    | some value => exact ⟨value,rfl⟩
    | none =>
      unfold coordinate at positive
      rw [found] at positive
      exact absurd positive (lt_irrefl 0)
  obtain ⟨value,found⟩ := carried other right
  refine List.mem_filter.mpr ⟨(own.weights.mem_keys name).mpr (carried own left),?_⟩
  rw [Dict.contains,found]
  rfl

theorem mem_overlap (own other : Embedding R) (name : String) :
    name ∈ own.overlap other ↔ 0 < own.coordinate name ∧ 0 < other.coordinate name := by
  unfold overlap
  rw [mem_sortedBy,List.mem_filter,Bool.and_eq_true,get_pos_iff,get_pos_iff]
  exact ⟨fun both => both.2,fun both => ⟨own.mem_shared other name both.1 both.2,both⟩⟩

private theorem overlap_distinct (own other : Embedding R) : (own.overlap other).Nodup := by
  have names : (own.shared other).Nodup := own.weights.keys_nodup.sublist List.filter_sublist
  exact (List.perm_insertionSort _ _).nodup_iff.mpr (names.sublist List.filter_sublist)

private theorem stronger_preorders (weight : String → R) : Preorders fun first second =>
    Scalar.less (weight second) (weight first) = true ∨
      Scalar.less (weight first) (weight second) = false ∧ first ≤ second := by
  simp only [ExactScalar.less_eq,ExactScalar.not_less]
  constructor
  · intro first second
    rcases lt_trichotomy (weight first) (weight second) with less | same | more
    · exact .inr (.inl less)
    · rcases String.le_total first second with before | after
      · exact .inl (.inr ⟨same.ge,before⟩)
      · exact .inr (.inr ⟨same.le,after⟩)
    · exact .inl (.inl more)
  · rintro first second third (left | ⟨left,before⟩) (right | ⟨right,after⟩)
    · exact .inl (right.trans left)
    · exact .inl (lt_of_le_of_lt right left)
    · exact .inl (lt_of_lt_of_le right left)
    · exact .inr ⟨right.trans left,String.le_trans before after⟩

theorem overlap_ordered (own other : Embedding R) : (own.overlap other).Pairwise fun first second =>
    own.coordinate second < own.coordinate first ∨ own.coordinate first = own.coordinate second ∧ first < second := by
  have sorted : (own.overlap other).Pairwise _ := (stronger_preorders own.coordinate).sorted _
  refine (sorted.and (own.overlap_distinct other)).imp ?_
  rintro first second ⟨before,differ⟩
  rw [ExactScalar.less_eq,ExactScalar.not_less] at before
  rcases before with stronger | ⟨level,name⟩
  · exact .inl stronger
  · rcases level.lt_or_eq with stronger | same
    · exact .inl stronger
    · exact .inr ⟨same.symm,String.not_le.mp fun back => differ (String.le_antisymm name back)⟩

theorem coordinate_of (features : List String) (name : String) :
    (of features : Embedding R).coordinate name = if name ∈ features then 1 else 0 := by
  have unit : Scalar.isZero (Scalar.literal 1 : R) = false := by
    apply Bool.eq_false_of_not_eq_true
    rw [ExactScalar.isZero_eq,ExactScalar.literal_eq,Rat.cast_one]
    exact one_ne_zero
  rw [coordinate,get_of unit]
  split
  · rw [Option.getD_some,ExactScalar.literal_eq,Rat.cast_one]
  · rfl

/-- Similar vectors without a negative weight in the second one have a name in common that both
are in favour of, however much the first one is against others. -/
theorem shared_of_cosine (own other : Embedding R) (nonneg : ∀ name, 0 ≤ other.coordinate name)
    (similar : 0 < own.cosine other) : ∃ name, 0 < own.coordinate name ∧ 0 < other.coordinate name := by
  obtain ⟨left,right⟩ := own.within_places other
  rw [cosine_quotient own other _ left,Similarity.quotient_pos_iff (own.magnitude_norm _ left)
    (other.magnitude_norm _ right)] at similar
  unfold Similarity.dot at similar
  obtain ⟨name,positive⟩ : ∃ name, 0 < own.coordinate name * other.coordinate name := by
    by_contra none
    have low := Finset.sum_nonpos fun name (_ : name ∈ own.places other) => not_lt.mp (not_exists.mp none name)
    exact absurd similar (not_lt.mpr low)
  have along : 0 < other.coordinate name := by
    refine lt_of_le_of_ne (nonneg name) fun zero => ?_
    rw [← zero,mul_zero] at positive
    exact lt_irrefl 0 positive
  exact ⟨name,pos_of_mul_pos_left positive along.le,along⟩

end Embedding

section
variable {R : Type} [RealScalar R] [Casing]

def GameProfile.Labelled (game : GameProfile R) (name : String) : Prop :=
  (∃ genre ∈ game.genres, feature "genre" genre = .ok name) ∨ ∃ tag ∈ game.tags, feature "tag" tag = .ok name

/-- What a ranked game says of itself is true. -/
structure Truthful (preference : UserPreference R) (item : ScoredGame R) : Prop where
  given : item.source = .content ∨ item.source = .hybrid → item.reasons ≠ []
  distinct : item.reasons.Nodup
  own : ∀ name ∈ item.reasons, item.game.Labelled name ∧ 0 < preference.taste.coordinate name
  ordered : item.reasons.Pairwise fun first second =>
    preference.taste.coordinate second < preference.taste.coordinate first ∨
      preference.taste.coordinate first = preference.taste.coordinate second ∧ first < second
  content : item.source = .content ↔ 0 < item.content ∧ ¬0 < item.collaborative
  collab : item.source = .collab ↔ ¬0 < item.content ∧ 0 < item.collaborative
  hybrid : item.source = .hybrid ↔ 0 < item.content ∧ 0 < item.collaborative

private theorem ScoredGame.source_iff (item : ScoredGame R) (positive : 0 < item.content ∨ 0 < item.collaborative) :
    (item.source = .content ↔ 0 < item.content ∧ ¬0 < item.collaborative) ∧
    (item.source = .collab ↔ ¬0 < item.content ∧ 0 < item.collaborative) ∧
    (item.source = .hybrid ↔ 0 < item.content ∧ 0 < item.collaborative) := by
  unfold source
  simp only [Bool.and_eq_true,ExactScalar.less_eq]
  by_cases content : 0 < item.content
  · by_cases collaborative : 0 < item.collaborative <;> simp [content,collaborative]
  · have collaborative := positive.resolve_left content
    simp [content,collaborative]

/-- With the sparse scorer every suggestion that rests on content has a reason, its reasons are
labels of the game that the taste is in favour of, the strongest first, and its source names the
scores that are positive. -/
theorem sparse_reasons_truthful (preference : UserPreference R) (candidates : List (GameProfile R))
    (coPurchases : Dict GameId Int) (limit : Nat)
    (embedded : ∀ game ∈ candidates, embed game.genres game.tags = .ok game.embedding) :
    ∀ item ∈ HybridRanker.rank contentBasedScorer preference candidates coPurchases limit, Truthful preference item := by
  intro item member
  rw [HybridRanker.rank_selected] at member
  obtain ⟨game,candidate,⟨_,_,blended⟩,same⟩ := (HybridRanker.mem_standings _ _ _ _ _).mp (mem_selected _ _ _ _ member)
  obtain ⟨features,vector,labels⟩ := embed_of game.genres game.tags game.embedding (embedded game candidate)
  have reasons : item.reasons = preference.taste.overlap game.embedding := by rw [← same]; rfl
  have about : item.game = game := by rw [← same]; rfl
  have score : item.content = atLeastZero (preference.taste.cosine game.embedding) := by rw [← same]; rfl
  have positive : 0 < item.content ∨ 0 < item.collaborative := by
    have contentLow := (ContentSpace.sparse.score_bounds preference game).1
    have sharedLow : (0 : R) ≤ HybridRanker.shared coPurchases game.gameId := by
      rw [HybridRanker.shared_believed]
      exact (ContentSpace.believed_bounds _).1
    rw [← same]
    exact (HybridRanker.blend_pos_iff _ _ contentLow sharedLow).mp ((ExactScalar.less_eq _ _).mp blended)
  obtain ⟨content,collab,hybrid⟩ := item.source_iff positive
  have given (counted : 0 < item.content) : item.reasons ≠ [] := by
    rw [score,atLeastZero_pos_iff] at counted
    obtain ⟨name,left,right⟩ := preference.taste.shared_of_cosine game.embedding (by
      intro name
      rw [vector,Embedding.coordinate_of]
      split
      · exact zero_le_one
      · exact le_refl 0) counted
    rw [reasons]
    exact List.ne_nil_of_mem ((preference.taste.mem_overlap game.embedding name).mpr ⟨left,right⟩)
  refine ⟨?_,?_,?_,?_,content,collab,hybrid⟩
  · rintro (own | both)
    · exact given (content.mp own).1
    · exact given (hybrid.mp both).1
  · rw [reasons]
    exact Embedding.overlap_distinct _ _
  · intro name inside
    rw [reasons,Embedding.mem_overlap] at inside
    refine ⟨?_,inside.1⟩
    have carried := inside.2
    rw [vector,Embedding.coordinate_of] at carried
    split at carried
    · rename_i listed
      rw [about]
      rcases (labels name).mp listed with ⟨genre,member,_,made⟩ | ⟨tag,member,_,made⟩
      · exact .inl ⟨genre,member,made⟩
      · exact .inr ⟨tag,member,made⟩
    · exact absurd carried (lt_irrefl 0)
  · rw [reasons]
    exact Embedding.overlap_ordered _ _

end

section
attribute [local instance] Casing.unchanged

/-- Liked and bought beside, liked alone, bought beside alone, and neither. -/
def variety {R : Type} [Scalar R] : List (GameProfile R) :=
  [racingGame ⟨⟨1⟩⟩,racingGame ⟨⟨2⟩⟩,.untitled ⟨⟨3⟩⟩,.untitled ⟨⟨4⟩⟩]

private theorem variety_embedded {R : Type} [Scalar R] :
    ∀ game ∈ variety (R := R), embed game.genres game.tags = .ok game.embedding := by
  intro game member
  simp only [variety,List.mem_cons,List.not_mem_nil,or_false] at member
  rcases member with rfl | rfl | rfl | rfl <;> rfl

def besides : Dict GameId Int := .ofList [(⟨⟨1⟩⟩,3),(⟨⟨3⟩⟩,2)]

theorem sparse_reasons_truthful_racing :
    (∀ game ∈ variety (R := ℝ), embed game.genres game.tags = .ok game.embedding) ∧
      ∀ item ∈ HybridRanker.rank contentBasedScorer racingFan variety besides 10, Truthful (R := ℝ) racingFan item :=
  ⟨variety_embedded,sparse_reasons_truthful racingFan variety besides 10 variety_embedded⟩

example : (HybridRanker.rank contentBasedScorer racingFan (variety (R := ℚ)) besides 10).map (fun item =>
    (item.game.gameId,item.source,item.reasons)) = [(⟨⟨1⟩⟩,.hybrid,["genre:racing"]),(⟨⟨2⟩⟩,.content,["genre:racing"]),
      (⟨⟨3⟩⟩,.collab,[])] := by decide +kernel

end
end ArcadiaRecommendation
