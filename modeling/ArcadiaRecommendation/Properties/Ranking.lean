import ArcadiaRecommendation.Domain.Scoring
import ArcadiaRecommendation.Foundation.Selection
import Mathlib.Tactic.Linarith
import Mathlib.Tactic.Positivity

/-! The ranking as a selection: which candidates are eligible, in what order they stand, and what
their standing depends on. -/
namespace ArcadiaRecommendation
namespace HybridRanker

section
variable {R : Type} [Scalar R] [Casing] (content : ContentScorer R) (preference : UserPreference R)
  (coPurchases : Dict GameId Int)

def shared (coPurchases : Dict GameId Int) (gameId : GameId) : R :=
  ((CollaborativeScorer.scores coPurchases).get gameId).getD 0

def standing (game : GameProfile R) : ScoredGame R :=
  ⟨game,content.score preference game,shared coPurchases game.gameId,content.reasons preference game⟩

/-- Published, not owned, and with a positive blended score. -/
def Eligible (game : GameProfile R) : Prop :=
  game.isPublished = true ∧ game.gameId ∉ preference.owned ∧
    Scalar.less 0 (blend (content.score preference game) (shared coPurchases game.gameId)) = true

instance : DecidablePred (Eligible content preference coPurchases) := fun _ => inferInstanceAs (Decidable (_ ∧ _ ∧ _))

private theorem scored_standing (game : GameProfile R) :
    scored content preference (CollaborativeScorer.scores coPurchases) game =
      if Eligible content preference coPurchases game then some (standing content preference coPurchases game)
      else none := by
  by_cases eligible : Eligible content preference coPurchases game
  · obtain ⟨published,unowned,positive⟩ := eligible
    have open_ : ¬(!game.isRecommendable || preference.owns game.gameId) = true := by
      simp [GameProfile.isRecommendable,UserPreference.owns,published,unowned]
    rw [if_pos ⟨published,unowned,positive⟩]
    unfold scored
    rw [if_neg open_]
    exact if_neg (by simpa [shared] using positive)
  · rw [if_neg eligible]
    unfold scored
    split
    · rfl
    rename_i open_
    have kept : game.isPublished = true ∧ game.gameId ∉ preference.owned := by
      simpa [GameProfile.isRecommendable,UserPreference.owns] using open_
    exact if_pos (by simpa [Eligible,shared,kept.1,kept.2] using eligible)

def standings (candidates : List (GameProfile R)) : List (ScoredGame R) :=
  (candidates.filter fun game => decide (Eligible content preference coPurchases game)).map
    (standing content preference coPurchases)

theorem mem_standings (candidates : List (GameProfile R)) (item : ScoredGame R) :
    item ∈ standings content preference coPurchases candidates ↔ ∃ game ∈ candidates,
      Eligible content preference coPurchases game ∧ standing content preference coPurchases game = item := by
  simp only [standings,List.mem_map,List.mem_filter,decide_eq_true_eq,and_assoc]

theorem rank_selected (candidates : List (GameProfile R)) (limit : Nat) :
    rank content preference candidates coPurchases limit =
      selected precedes limit (standings content preference coPurchases candidates) := by
  have kept : candidates.filterMap (scored content preference (CollaborativeScorer.scores coPurchases)) =
      standings content preference coPurchases candidates := by
    unfold standings
    induction candidates with
    | nil => rfl
    | cons game rest ih =>
      have here := scored_standing content preference coPurchases game
      by_cases eligible : Eligible content preference coPurchases game
      · rw [if_pos eligible] at here
        simp only [List.filterMap_cons,here,List.filter_cons,eligible,decide_true,if_true,List.map_cons,ih]
      · rw [if_neg eligible] at here
        simp only [List.filterMap_cons,here,List.filter_cons,eligible,decide_false,Bool.false_eq_true,if_false,ih]
  unfold rank
  rw [kept]
  rfl

private theorem standings_nodup (candidates : List (GameProfile R)) (distinct : (candidates.map (·.gameId)).Nodup) :
    (standings content preference coPurchases candidates).Nodup := by
  have games : (candidates.filter fun game => decide (Eligible content preference coPurchases game)).Nodup :=
    distinct.of_map.sublist List.filter_sublist
  apply games.map
  intro first second same
  exact congrArg ScoredGame.game same

end

section
variable {S : Type} [OrderedScalar S] [Casing]

theorem precedes_preorders : Preorders (precedes (R := S)) := ⟨precedes_total,precedes_trans⟩

private theorem precedes_gameId (first second : ScoredGame S) (left : precedes first second)
    (right : precedes second first) : first.game.gameId = second.game.gameId := by
  unfold precedes at left right
  dsimp only at left right
  have counts : first.game.purchaseCount = second.game.purchaseCount ∧
      first.game.gameId.str ≤ second.game.gameId.str ∧ second.game.gameId.str ≤ first.game.gameId.str := by
    rcases left with above | ⟨level,leftTie⟩
    · rcases right with below | ⟨flat,_⟩
      · rw [OrderedScalar.less_asymm _ _ above] at below
        cases below
      · rw [flat] at above
        cases above
    · rcases right with below | ⟨_,rightTie⟩
      · rw [level] at below
        cases below
      · rcases leftTie with more | ⟨same,before⟩
        · rcases rightTie with less | ⟨equal,_⟩
          · omega
          · omega
        · rcases rightTie with less | ⟨_,after⟩
          · omega
          · exact ⟨same,before,after⟩
  exact GameId.str_injective _ _ (String.le_antisymm counts.2.1 counts.2.2)

variable (content : ContentScorer S) (preference : UserPreference S) (coPurchases : Dict GameId Int)

private theorem standings_separated (candidates : List (GameProfile S)) (distinct : (candidates.map (·.gameId)).Nodup) :
    Separates precedes (standings content preference coPurchases candidates) := by
  intro first inFirst second inSecond left right
  obtain ⟨game,candidate,_,rfl⟩ := (mem_standings content preference coPurchases candidates first).mp inFirst
  obtain ⟨other,present,_,rfl⟩ := (mem_standings content preference coPurchases candidates second).mp inSecond
  have same : game = other := List.inj_on_of_nodup_map distinct candidate present (precedes_gameId _ _ left right)
  rw [same]

private theorem rank_perm (first second : List (GameProfile S)) (limit : Nat) (same : first.Perm second)
    (distinct : (first.map (·.gameId)).Nodup) :
    rank content preference first coPurchases limit = rank content preference second coPurchases limit := by
  rw [rank_selected,rank_selected]
  exact precedes_preorders.selected_perm limit _ _ ((same.filter _).map _)
    (standings_separated content preference coPurchases first distinct)

end

/-- The ranking is an exact selection: the eligible candidates, the best of them in order, as many
as fit, whatever order they come in. -/
theorem rank_exact {S : Type} [OrderedScalar S] [Casing] (content : ContentScorer S)
    (preference : UserPreference S) (candidates : List (GameProfile S)) (coPurchases : Dict GameId Int) (limit : Nat)
    (distinct : (candidates.map (·.gameId)).Nodup) :
    let ranked := rank content preference candidates coPurchases limit
    (∀ item ∈ ranked, ∃ game ∈ candidates, Eligible content preference coPurchases game ∧
      item = standing content preference coPurchases game) ∧
    ranked.Pairwise precedes ∧
    ranked.length = min limit
      (candidates.filter fun game => decide (Eligible content preference coPurchases game)).length ∧
    (∀ game ∈ candidates, Eligible content preference coPurchases game →
      standing content preference coPurchases game ∉ ranked →
        ∀ item ∈ ranked, precedes item (standing content preference coPurchases game)) ∧
    ∀ permuted, candidates.Perm permuted → rank content preference permuted coPurchases limit = ranked := by
  intro ranked
  have chosen : ranked = selected precedes limit (standings content preference coPurchases candidates) :=
    rank_selected content preference coPurchases candidates limit
  refine ⟨?_,?_,?_,?_,?_⟩
  · intro item member
    rw [chosen] at member
    obtain ⟨game,candidate,eligible,same⟩ :=
      (mem_standings content preference coPurchases candidates item).mp (mem_selected precedes limit _ item member)
    exact ⟨game,candidate,eligible,same.symm⟩
  · rw [chosen]
    exact precedes_preorders.selected_sorted limit _
  · rw [chosen,length_selected,standings,List.length_map]
  · intro game candidate eligible out item inside
    rw [chosen] at out inside
    have member := (mem_standings content preference coPurchases candidates _).mpr ⟨game,candidate,eligible,rfl⟩
    exact precedes_preorders.left_out limit _ _ item member out inside
  · intro permuted same
    exact (rank_perm content preference coPurchases candidates permuted limit same distinct).symm

section
attribute [local instance] Casing.unchanged

def racer : GameProfile ℚ := .untitled ⟨⟨1⟩⟩

def rally : GameProfile ℚ := .untitled ⟨⟨2⟩⟩

def raceCounts : Dict GameId Int := .ofList [(⟨⟨1⟩⟩,1),(⟨⟨2⟩⟩,3)]

theorem rank_exact_reversed :
    rank contentBasedScorer (.blank ⟨⟨1⟩⟩) [rally,racer] raceCounts 1 =
      rank contentBasedScorer (.blank ⟨⟨1⟩⟩) [racer,rally] raceCounts 1 ∧
    (rank contentBasedScorer (.blank ⟨⟨1⟩⟩) [racer,rally] raceCounts 1).length = 1 :=
  ⟨(rank_exact contentBasedScorer (.blank ⟨⟨1⟩⟩) [racer,rally] raceCounts 1 (by decide)).2.2.2.2 _ (.swap rally racer []),
    (rank_exact contentBasedScorer (.blank ⟨⟨1⟩⟩) [racer,rally] raceCounts 1 (by decide)).2.2.1.trans (by decide +kernel)⟩

end

/-- A call whose limit cuts nothing off. -/
structure Batch (R : Type) [Scalar R] [Casing] where
  candidates : List (GameProfile R)
  coPurchases : Dict GameId Int
  limit : Nat
  distinct : (candidates.map (·.gameId)).Nodup
  room : candidates.length ≤ limit

section
variable {R : Type} [ExactScalar R] [Casing] (content : ContentScorer R) (preference : UserPreference R)

def Batch.ranked (batch : Batch R) : List (ScoredGame R) :=
  rank content preference batch.candidates batch.coPurchases batch.limit

private theorem Batch.ranked_sorted (batch : Batch R) : batch.ranked content preference =
    (standings content preference batch.coPurchases batch.candidates).insertionSort precedes := by
  unfold ranked
  rw [rank_selected]
  apply selected_all
  unfold standings
  rw [List.length_map]
  exact (List.length_filter_le _ _).trans batch.room

private theorem Batch.mem_ranked (batch : Batch R) (game : GameProfile R) (candidate : game ∈ batch.candidates)
    (item : ScoredGame R) (about : item.game = game) : item ∈ batch.ranked content preference ↔
      Eligible content preference batch.coPurchases game ∧ item = standing content preference batch.coPurchases game := by
  rw [ranked_sorted,List.mem_insertionSort,mem_standings]
  constructor
  · rintro ⟨other,_,eligible,same⟩
    have equal : other = game := (congrArg ScoredGame.game same).trans about
    subst equal
    exact ⟨eligible,same.symm⟩
  · rintro ⟨eligible,same⟩
    exact ⟨game,candidate,eligible,same.symm⟩

private theorem Batch.ranked_pair (batch : Batch R) (first second : ScoredGame R) :
    [first,second].Sublist (batch.ranked content preference) ↔ first ∈ batch.ranked content preference ∧
      second ∈ batch.ranked content preference ∧ first ≠ second ∧ precedes first second := by
  rw [ranked_sorted,List.mem_insertionSort,List.mem_insertionSort]
  exact precedes_preorders.sublist_pair_iff _
    (standings_nodup content preference batch.coPurchases batch.candidates batch.distinct)
    (standings_separated content preference batch.coPurchases batch.candidates batch.distinct) first second

def believed (count : Int) : R :=
  if 0 < count then Scalar.literal count / (Scalar.literal count + Scalar.literal CollaborativeScorer.prior) else 0

omit [Casing] in
theorem shared_believed (coPurchases : Dict GameId Int) (gameId : GameId) :
    (shared coPurchases gameId : R) = believed ((coPurchases.get gameId).getD 0) := by
  have filtered := coPurchases.get_filter (fun entry => decide (0 < entry.2)) gameId
  unfold shared CollaborativeScorer.scores believed
  rw [Dict.get_mapValues]
  cases kept : (coPurchases.filter fun entry => decide (0 < entry.2)).get gameId with
  | some count =>
    obtain ⟨stored,positive⟩ := (filtered count).mp kept
    rw [stored]
    exact (if_pos (of_decide_eq_true positive)).symm
  | none =>
    cases stored : coPurchases.get gameId with
    | none => rfl
    | some count =>
      have low : ¬0 < count := by
        intro positive
        have both := (filtered count).mpr ⟨stored,decide_eq_true positive⟩
        rw [kept] at both
        cases both
      exact (if_neg low).symm

omit [Casing] in
private theorem believed_mono (fewer more : Int) (raised : fewer ≤ more) : (believed fewer : R) ≤ believed more := by
  have prior : (Scalar.literal CollaborativeScorer.prior : R) = 5 := by
    rw [ExactScalar.literal_eq,CollaborativeScorer.prior]
    norm_num
  unfold believed
  rw [prior]
  split
  · rename_i positive
    have low : (0 : R) < fewer := by exact_mod_cast positive
    have above : (fewer : R) ≤ more := by exact_mod_cast raised
    rw [if_pos (lt_of_lt_of_le positive raised),ExactScalar.literal_int,ExactScalar.literal_int,
      div_le_div_iff₀ (by linarith) (by linarith)]
    nlinarith
  · split
    · rename_i positive
      have high : (0 : R) < more := by exact_mod_cast positive
      rw [ExactScalar.literal_int]
      positivity
    · exact le_refl 0

omit [Casing] in
private theorem blend_mono (own low high : R) (raised : low ≤ high) : blend own low ≤ blend own high := by
  have weight : (Scalar.literal collaborativeWeight : R) = 35/100 := by
    rw [ExactScalar.literal_eq,collaborativeWeight]
    norm_num
  unfold blend
  rw [weight]
  linarith

private theorem precedes_raised (first raised second : ScoredGame R) (same : raised.game = first.game)
    (more : blend first.content first.collaborative ≤ blend raised.content raised.collaborative)
    (ordered : precedes first second) : precedes raised second := by
  unfold precedes at ordered ⊢
  simp only [ExactScalar.less_eq,ExactScalar.not_less,same] at ordered ⊢
  rcases ordered with above | ⟨level,tie⟩
  · exact .inl (lt_of_lt_of_le above more)
  · exact .inr ⟨level.trans more,tie⟩

end

/-- In exact arithmetic the standing of a game is its own: it does not depend on the other
candidates and counts, and one more co-buyer never costs it a place. -/
theorem standing_own_evidence {R : Type} [ExactScalar R] [Casing] (content : ContentScorer R)
    (preference : UserPreference R) (first second : Batch R) (game other : GameProfile R)
    (gameFirst : game ∈ first.candidates) (gameSecond : game ∈ second.candidates)
    (otherFirst : other ∈ first.candidates) (otherSecond : other ∈ second.candidates)
    (gameCount : first.coPurchases.get game.gameId = second.coPurchases.get game.gameId)
    (otherCount : first.coPurchases.get other.gameId = second.coPurchases.get other.gameId) :
    (∀ item, item.game = game →
      (item ∈ first.ranked content preference ↔ item ∈ second.ranked content preference)) ∧
    (∀ left right, left.game = game → right.game = other →
      ([left,right].Sublist (first.ranked content preference) ↔
        [left,right].Sublist (second.ranked content preference))) ∧
    ∀ raised : Batch R, raised.candidates = first.candidates →
      (∀ gameId, gameId ≠ game.gameId → raised.coPurchases.get gameId = first.coPurchases.get gameId) →
      (first.coPurchases.get game.gameId).getD 0 ≤ (raised.coPurchases.get game.gameId).getD 0 →
      (∀ item ∈ first.ranked content preference, item.game = game →
        ∃ after ∈ raised.ranked content preference, after.game = game) ∧
      ∀ item later, item.game = game → [item,later].Sublist (first.ranked content preference) →
        ∃ after, after.game = game ∧ [after,later].Sublist (raised.ranked content preference) := by
  have alike (left right : Dict GameId Int) (profile : GameProfile R)
      (same : left.get profile.gameId = right.get profile.gameId) :
      (shared left profile.gameId : R) = shared right profile.gameId := by
    rw [shared_believed,shared_believed,same]
  have moved (left right : Batch R) (profile : GameProfile R) (inLeft : profile ∈ left.candidates)
      (inRight : profile ∈ right.candidates)
      (same : left.coPurchases.get profile.gameId = right.coPurchases.get profile.gameId) (item : ScoredGame R)
      (about : item.game = profile) :
      item ∈ left.ranked content preference ↔ item ∈ right.ranked content preference := by
    rw [left.mem_ranked content preference profile inLeft item about,
      right.mem_ranked content preference profile inRight item about]
    unfold Eligible standing
    rw [alike _ _ profile same]
  refine ⟨moved first second game gameFirst gameSecond gameCount,?_,?_⟩
  · intro left right leftGame rightGame
    rw [first.ranked_pair,second.ranked_pair,moved first second game gameFirst gameSecond gameCount left leftGame,
      moved first second other otherFirst otherSecond otherCount right rightGame]
  intro raised candidates elsewhere more
  have gameRaised : game ∈ raised.candidates := candidates ▸ gameFirst
  have higher : (shared first.coPurchases game.gameId : R) ≤ shared raised.coPurchases game.gameId := by
    rw [shared_believed,shared_believed]
    exact believed_mono _ _ more
  have blended := blend_mono (content.score preference game) _ _ higher
  -- the raised standing of the game is eligible where the old one was
  have kept (item : ScoredGame R) (member : item ∈ first.ranked content preference) (about : item.game = game) :
      item = standing content preference first.coPurchases game ∧
        standing content preference raised.coPurchases game ∈ raised.ranked content preference := by
    obtain ⟨⟨published,unowned,positive⟩,same⟩ :=
      (first.mem_ranked content preference game gameFirst item about).mp member
    refine ⟨same,(raised.mem_ranked content preference game gameRaised _ rfl).mpr ⟨⟨published,unowned,?_⟩,rfl⟩⟩
    rw [ExactScalar.less_eq] at positive ⊢
    exact lt_of_lt_of_le positive blended
  constructor
  · intro item member about
    exact ⟨_,(kept item member about).2,rfl⟩
  · intro item later about placed
    obtain ⟨inItem,inLater,differ,ordered⟩ := (first.ranked_pair content preference item later).mp placed
    obtain ⟨same,present⟩ := kept item inItem about
    have apart : later.game ≠ game := by
      intro equal
      have both := (kept later inLater equal).1
      exact differ (same.trans both.symm)
    rw [first.ranked_sorted,List.mem_insertionSort,mem_standings] at inLater
    obtain ⟨profile,candidate,eligible,rfl⟩ := inLater
    have ids : profile.gameId ≠ game.gameId := by
      intro equal
      exact apart (List.inj_on_of_nodup_map first.distinct candidate gameFirst equal)
    have unmoved := (moved first raised profile candidate (candidates ▸ candidate) (elsewhere _ ids).symm
      (standing content preference first.coPurchases profile) rfl).mp
        ((first.mem_ranked content preference profile candidate _ rfl).mpr ⟨eligible,rfl⟩)
    refine ⟨standing content preference raised.coPurchases game,rfl,?_⟩
    rw [raised.ranked_pair]
    refine ⟨present,unmoved,?_,precedes_raised item _ _ about.symm ?_ ordered⟩
    · intro equal
      exact apart (congrArg ScoredGame.game equal).symm
    · rw [same]
      exact blended

section
attribute [local instance] Casing.unchanged

def raceBatch : Batch ℚ := ⟨[racer,rally],raceCounts,2,by decide,by decide⟩

def rallyBatch : Batch ℚ := { raceBatch with candidates := [rally,racer], distinct := by decide, room := by decide }

def raisedBatch : Batch ℚ := { raceBatch with coPurchases := .ofList [(⟨⟨1⟩⟩,9),(⟨⟨2⟩⟩,3)] }

theorem standing_own_evidence_raised :
    (∀ item : ScoredGame ℚ, item.game = racer → (item ∈ raceBatch.ranked contentBasedScorer (.blank ⟨⟨1⟩⟩) ↔
      item ∈ rallyBatch.ranked contentBasedScorer (.blank ⟨⟨1⟩⟩))) ∧
    ∀ item ∈ raceBatch.ranked contentBasedScorer (.blank ⟨⟨1⟩⟩), item.game = racer →
      ∃ after ∈ raisedBatch.ranked contentBasedScorer (.blank ⟨⟨1⟩⟩), after.game = racer := by
  obtain ⟨kept,_,more⟩ := standing_own_evidence contentBasedScorer (.blank ⟨⟨1⟩⟩) raceBatch rallyBatch racer rally
    (by decide) (by decide) (by decide) (by decide) rfl rfl
  refine ⟨kept,(more raisedBatch rfl ?_ (by decide)).1⟩
  intro gameId apart
  have other : gameId ≠ ⟨⟨1⟩⟩ := apart
  simp only [raisedBatch,raceBatch,raceCounts,Dict.ofList,List.foldl_cons,List.foldl_nil,Dict.get_set,other,if_false]

end

end HybridRanker
end ArcadiaRecommendation
