import ArcadiaRecommendation.Domain.Preference
import ArcadiaRecommendation.Domain.Recommendation

/-! The two halves of the hybrid, the ranker that blends them, and the fallback. -/
namespace ArcadiaRecommendation
variable {R : Type} [Scalar R] [Casing]

/-- A candidate with its two component scores, before they are blended. -/
structure ScoredGame (R : Type) [Scalar R] [Casing] where
  game : GameProfile R
  content : R
  collaborative : R
  reasons : List String := []
  deriving DecidableEq

def ScoredGame.source (item : ScoredGame R) : RecommendationSource :=
  if Scalar.less 0 item.content && Scalar.less 0 item.collaborative then .hybrid
  else if Scalar.less 0 item.collaborative then .collab
  else .content

structure ContentScorer (R : Type) [Scalar R] [Casing] where
  score : UserPreference R → GameProfile R → R
  reasons : UserPreference R → GameProfile R → List String

/-- `max(0.0, value)` -/
def atLeastZero (value : R) : R := if Scalar.less 0 value then value else 0

def contentBasedScorer : ContentScorer R where
  score preference game := atLeastZero (preference.taste.cosine game.embedding)
  reasons preference game := preference.taste.overlap game.embedding

def denseContentScorer : ContentScorer R where
  score preference game := atLeastZero (preference.tasteDense.cosine game.dense)
  reasons _ _ := []

namespace CollaborativeScorer

def prior : ℚ := 5

omit [Casing] in
def scores (coPurchases : Dict GameId Int) : Dict GameId R :=
  (coPurchases.filter fun entry => 0 < entry.2).mapValues fun (count : Int) =>
    Scalar.literal count / (Scalar.literal count + Scalar.literal prior)

end CollaborativeScorer

namespace HybridRanker

def contentWeight : ℚ := 65/100

def collaborativeWeight : ℚ := 35/100

def blend (content collaborative : R) : R :=
  Scalar.literal contentWeight * content + Scalar.literal collaborativeWeight * collaborative

/-- The sort key `(-blend, -purchase_count, str(game_id))` as a relation. -/
def precedes (first second : ScoredGame R) : Prop :=
  let left := blend first.content first.collaborative
  let right := blend second.content second.collaborative
  Scalar.less right left = true ∨ Scalar.less left right = false ∧
    (second.game.purchaseCount < first.game.purchaseCount ∨
      first.game.purchaseCount = second.game.purchaseCount ∧ first.game.gameId.str ≤ second.game.gameId.str)

instance : DecidableRel (precedes (R := R)) := fun _ _ => inferInstanceAs (Decidable (_ ∨ _))

def scored (content : ContentScorer R) (preference : UserPreference R) (collaborative : Dict GameId R)
    (game : GameProfile R) : Option (ScoredGame R) :=
  if !game.isRecommendable || preference.owns game.gameId then none
  else
    let own := content.score preference game
    let shared := (collaborative.get game.gameId).getD 0
    if !Scalar.less 0 (blend own shared) then none
    else some { game, content := own, collaborative := shared, reasons := content.reasons preference game }

def rank (content : ContentScorer R) (preference : UserPreference R) (candidates : List (GameProfile R))
    (coPurchases : Dict GameId Int) (limit : Nat) : List (ScoredGame R) :=
  (sortedBy precedes
    (candidates.filterMap (scored content preference (CollaborativeScorer.scores coPurchases)))).take limit

theorem scored_game (content : ContentScorer R) (preference : UserPreference R) (collaborative : Dict GameId R)
    (game : GameProfile R) (item : ScoredGame R)
    (kept : scored content preference collaborative game = some item) :
    item.game = game ∧ game.isPublished = true ∧ game.gameId ∉ preference.owned := by
  unfold scored at kept
  split at kept
  · cases kept
  rename_i eligible
  dsimp only at kept
  split at kept
  · cases kept
  · cases Option.some.inj kept
    simpa [GameProfile.isRecommendable,UserPreference.owns] using eligible

theorem mem_rank (content : ContentScorer R) (preference : UserPreference R) (candidates : List (GameProfile R))
    (coPurchases : Dict GameId Int) (limit : Nat) (item : ScoredGame R)
    (member : item ∈ rank content preference candidates coPurchases limit) :
    item.game ∈ candidates ∧ item.game.isPublished = true ∧ item.game.gameId ∉ preference.owned := by
  have found := (mem_sortedBy precedes _ item).mp (List.mem_of_mem_take member)
  obtain ⟨game,candidate,kept⟩ := List.mem_filterMap.mp found
  obtain ⟨same,published,unowned⟩ := scored_game content preference _ game item kept
  rw [same]
  exact ⟨candidate,published,unowned⟩

theorem scored_positive (content : ContentScorer R) (preference : UserPreference R) (collaborative : Dict GameId R)
    (game : GameProfile R) (item : ScoredGame R)
    (kept : scored content preference collaborative game = some item) :
    Scalar.less 0 (blend item.content item.collaborative) = true := by
  unfold scored at kept
  split at kept
  · cases kept
  dsimp only at kept
  split at kept
  · cases kept
  · rename_i positive
    cases Option.some.inj kept
    simpa using positive

theorem rank_positive (content : ContentScorer R) (preference : UserPreference R) (candidates : List (GameProfile R))
    (coPurchases : Dict GameId Int) (limit : Nat) (item : ScoredGame R)
    (member : item ∈ rank content preference candidates coPurchases limit) :
    Scalar.less 0 (blend item.content item.collaborative) = true := by
  have found := (mem_sortedBy precedes _ item).mp (List.mem_of_mem_take member)
  obtain ⟨game,_,kept⟩ := List.mem_filterMap.mp found
  exact scored_positive content preference _ game item kept

theorem rank_length (content : ContentScorer R) (preference : UserPreference R) (candidates : List (GameProfile R))
    (coPurchases : Dict GameId Int) (limit : Nat) :
    (rank content preference candidates coPurchases limit).length ≤ limit := List.length_take_le limit _

theorem rank_distinct (content : ContentScorer R) (preference : UserPreference R) (candidates : List (GameProfile R))
    (coPurchases : Dict GameId Int) (limit : Nat) (distinct : (candidates.map (·.gameId)).Nodup) :
    ((rank content preference candidates coPurchases limit).map fun item => item.game.gameId).Nodup := by
  let collaborative : Dict GameId R := CollaborativeScorer.scores coPurchases
  have games : ((candidates.filterMap (scored content preference collaborative)).map
      fun item => item.game.gameId).Sublist (candidates.map (·.gameId)) := by
    induction candidates with
    | nil => exact .slnil
    | cons game rest ih =>
      have tail := ih (List.nodup_cons.mp distinct).2
      rw [List.map_cons]
      cases kept : scored content preference collaborative game with
      | none =>
        rw [List.filterMap_cons_none kept]
        exact tail.cons _
      | some item =>
        rw [List.filterMap_cons_some kept,List.map_cons,(scored_game content preference _ game item kept).1]
        exact tail.cons_cons _
  have sorted := (List.perm_insertionSort precedes (candidates.filterMap (scored content preference collaborative))).map
    fun item : ScoredGame R => item.game.gameId
  have whole := sorted.nodup_iff.mpr (distinct.sublist games)
  exact whole.sublist ((List.take_sublist limit _).map _)

end HybridRanker

namespace HybridRanker
variable {S : Type} [OrderedScalar S]

theorem precedes_total (first second : ScoredGame S) : precedes first second ∨ precedes second first := by
  unfold precedes
  dsimp only
  generalize blend first.content first.collaborative = left
  generalize blend second.content second.collaborative = right
  cases below : Scalar.less right left with
  | true => exact .inl (.inl rfl)
  | false =>
    cases above : Scalar.less left right with
    | true => exact .inr (.inl rfl)
    | false =>
      rcases lt_trichotomy first.game.purchaseCount second.game.purchaseCount with less | same | more
      · exact .inr (.inr ⟨rfl,.inl less⟩)
      · rcases String.le_total first.game.gameId.str second.game.gameId.str with before | after
        · exact .inl (.inr ⟨rfl,.inr ⟨same,before⟩⟩)
        · exact .inr (.inr ⟨rfl,.inr ⟨same.symm,after⟩⟩)
      · exact .inl (.inr ⟨rfl,.inl more⟩)

theorem precedes_trans (first second third : ScoredGame S) (left : precedes first second)
    (right : precedes second third) : precedes first third := by
  unfold precedes at left right ⊢
  dsimp only at left right ⊢
  generalize blend first.content first.collaborative = a at left ⊢
  generalize blend second.content second.collaborative = b at left right
  generalize blend third.content third.collaborative = c at right ⊢
  have between (x y z : S) (apart : Scalar.less x z = true) := OrderedScalar.less_between x y z apart
  rcases left with above | ⟨level,tie⟩
  · rcases between b c a above with upper | lower
    · rcases right with lower | ⟨level,_⟩
      · have reversed := OrderedScalar.less_asymm c b lower
        rw [upper] at reversed
        cases reversed
      · rw [upper] at level
        cases level
    · exact .inl lower
  · rcases right with above | ⟨flat,later⟩
    · rcases between c a b above with lower | upper
      · exact .inl lower
      · rw [upper] at level
        cases level
    · cases lower : Scalar.less c a with
      | true => exact .inl rfl
      | false =>
        refine .inr ⟨?_,?_⟩
        · apply Bool.eq_false_of_not_eq_true
          intro raised
          rcases between a b c raised with one | other
          · rw [one] at level
            cases level
          · rw [other] at flat
            cases flat
        · rcases tie with more | ⟨same,before⟩
          · rcases later with yet | ⟨equal,_⟩
            · exact .inl (yet.trans more)
            · exact .inl (equal ▸ more)
          · rcases later with yet | ⟨equal,after⟩
            · exact .inl (same ▸ yet)
            · exact .inr ⟨same.trans equal,String.le_trans before after⟩

theorem rank_descending (content : ContentScorer S) (preference : UserPreference S) (candidates : List (GameProfile S))
    (coPurchases : Dict GameId Int) (limit : Nat) :
    (rank content preference candidates coPurchases limit).Pairwise fun above below =>
      Scalar.less (blend above.content above.collaborative) (blend below.content below.collaborative) = false := by
  have total : Std.Total (precedes (R := S)) := ⟨precedes_total⟩
  have transitive : IsTrans (ScoredGame S) precedes := ⟨precedes_trans⟩
  have sorted := List.pairwise_insertionSort precedes
    (candidates.filterMap (scored content preference (CollaborativeScorer.scores coPurchases)))
  apply (sorted.sublist (List.take_sublist limit _)).imp
  intro above below ordered
  rcases ordered with strict | ⟨level,_⟩
  · exact OrderedScalar.less_asymm _ _ strict
  · exact level

end HybridRanker

namespace TopSellersProvider

/-- The sort key `(-purchase_count, str(game_id))` as a relation. -/
def precedes (first second : GameProfile R) : Prop :=
  second.purchaseCount < first.purchaseCount ∨
    first.purchaseCount = second.purchaseCount ∧ first.gameId.str ≤ second.gameId.str

instance : DecidableRel (precedes (R := R)) := fun _ _ => inferInstanceAs (Decidable (_ ∨ _))

def rank (games : List (GameProfile R)) (preference : UserPreference R) (limit : Nat) : List (GameProfile R) :=
  (sortedBy precedes
    (games.filter fun game => game.isRecommendable && !preference.owns game.gameId)).take limit

theorem mem_rank (games : List (GameProfile R)) (preference : UserPreference R) (limit : Nat)
    (game : GameProfile R) (member : game ∈ rank games preference limit) :
    game ∈ games ∧ game.isPublished = true ∧ game.gameId ∉ preference.owned := by
  have found := (mem_sortedBy precedes _ game).mp (List.mem_of_mem_take member)
  simpa [GameProfile.isRecommendable,UserPreference.owns] using found

end TopSellersProvider
end ArcadiaRecommendation
