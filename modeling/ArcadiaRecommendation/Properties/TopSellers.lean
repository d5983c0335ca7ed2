import ArcadiaRecommendation.Foundation.Selection
import ArcadiaRecommendation.Properties.Serving

/-! The fallback looks at four times as many popular games as it serves, and leaves out the owned
ones among these. -/
namespace ArcadiaRecommendation

namespace TopSellersProvider
variable {R : Type} [Scalar R] [Casing]

theorem precedes_preorders : Preorders (precedes (R := R)) :=
  Preorders.byCount (fun game : GameProfile R => game.purchaseCount)
    (fun first second => first.gameId.str ≤ second.gameId.str) (Preorders.of_text _)

theorem precedes_separates (games : List (GameProfile R)) (distinct : (games.map (·.gameId)).Nodup) :
    Separates precedes games := by
  intro first inFirst second inSecond left right
  obtain ⟨before,after⟩ := byCount_tied (fun game : GameProfile R => game.purchaseCount)
    (fun first second => first.gameId.str ≤ second.gameId.str) first second left right
  exact List.inj_on_of_nodup_map distinct inFirst inSecond (GameId.str_injective _ _ (String.le_antisymm before after))

end TopSellersProvider

namespace Memory
variable {R : Type} [Scalar R] [Casing]

def bestsellers (store : MemoryStore R) : List (GameProfile R) :=
  sortedBy TopSellersProvider.precedes (store.games.values.filter (·.isPublished))

def unowned (store : MemoryStore R) (userId : UserId) : List (GameProfile R) :=
  sortedBy TopSellersProvider.precedes
    (store.games.values.filter fun game => game.isPublished && !(store.preferenceOf userId).owns game.gameId)

structure TopSellers (store : MemoryStore R) (userId : UserId) (limit : Nat) (items : List (RecommendationItem R)) :
    Prop where
  games : items.map (fun item => item.gameId) = ((unowned store userId).take limit).map fun game => game.gameId.str
  ranks : items.map (fun item => item.rank) = List.range' 1 items.length
  nonempty : (∃ gameId, Servable store userId gameId) → items ≠ []

private theorem games_separate (store : MemoryStore R) (test : GameProfile R → Bool) :
    Separates TopSellersProvider.precedes (store.games.values.filter test) := by
  apply TopSellersProvider.precedes_separates
  have values : (store.games.values.map (·.gameId)).Nodup := by
    rw [store.games.keys_values]
    exact store.games.keys_nodup
  exact values.sublist (List.filter_sublist.map _)

private theorem mem_bestsellers (store : MemoryStore R) (game : GameProfile R) :
    game ∈ bestsellers store ↔ game ∈ store.games.values ∧ game.isPublished = true :=
  (mem_sortedBy _ _ game).trans List.mem_filter

private theorem bestsellers_nodup (store : MemoryStore R) : (bestsellers store).Nodup := by
  have values : (store.games.values.map (·.gameId)).Nodup := by
    rw [store.games.keys_values]
    exact store.games.keys_nodup
  exact (List.perm_insertionSort _ _).nodup_iff.mpr (values.of_map.sublist List.filter_sublist)

private theorem unowned_bestsellers (store : MemoryStore R) (userId : UserId) : unowned store userId =
    (bestsellers store).filter fun game => !(store.preferenceOf userId).owns game.gameId := by
  unfold unowned bestsellers sortedBy
  rw [TopSellersProvider.precedes_preorders.sorted_filter _ (games_separate store _),List.filter_filter]
  simp only [Bool.and_comm]

private theorem fallback_rank (store : MemoryStore R) (userId : UserId) (limit : Nat) :
    TopSellersProvider.rank (recommendable store.games (max (limit * 4) limit)) (store.preferenceOf userId) limit =
      (((bestsellers store).take (limit * 4)).filter
        fun game => !(store.preferenceOf userId).owns game.gameId).take limit := by
  have bound : max (limit * 4) limit = limit * 4 := by omega
  have looked : recommendable store.games (limit * 4) = (bestsellers store).take (limit * 4) := rfl
  have eligible : ((bestsellers store).take (limit * 4)).filter
      (fun game => game.isRecommendable && !(store.preferenceOf userId).owns game.gameId) =
        ((bestsellers store).take (limit * 4)).filter fun game => !(store.preferenceOf userId).owns game.gameId := by
    apply List.filter_congr
    intro game inside
    have published := ((mem_bestsellers store game).mp (List.mem_of_mem_take inside)).2
    rw [GameProfile.isRecommendable,published,Bool.true_and]
  have sorted : (((bestsellers store).take (limit * 4)).filter
      fun game => !(store.preferenceOf userId).owns game.gameId).Pairwise TopSellersProvider.precedes :=
    ((TopSellersProvider.precedes_preorders.sorted _).sublist (List.take_sublist _ _)).filter _
  unfold TopSellersProvider.rank sortedBy
  rw [bound,looked,eligible,sorted.insertionSort_eq]

private theorem unowned_nonempty (store : MemoryStore R) (userId : UserId) (gameId : GameId)
    (servable : Servable store userId gameId) : unowned store userId ≠ [] := by
  obtain ⟨⟨game,found,published⟩,notOwned⟩ := servable
  have same := store.games.keyed gameId game found
  have member : game ∈ unowned store userId := by
    rw [unowned,mem_sortedBy,List.mem_filter]
    refine ⟨(store.games.mem_values game).mpr (same.symm ▸ found),?_⟩
    rw [published,UserPreference.owns,same]
    simpa using notOwned
  exact List.ne_nil_of_mem member

private theorem enough_unowned_iff (store : MemoryStore R) (userId : UserId) (limit : Nat) :
    (limit ≤ ((bestsellers store).take (limit * 4)).countP (fun game => !(store.preferenceOf userId).owns game.gameId) ∨
      ∀ game ∈ (bestsellers store).drop (limit * 4), (!(store.preferenceOf userId).owns game.gameId) = false) ↔
    ((recommendable store.games (limit * 4)).countP fun game => (store.preferenceOf userId).owns game.gameId) ≤
        limit * 3 ∨
      ∀ game ∈ store.games.values, game.isPublished = true → game ∉ recommendable store.games (limit * 4) →
        game.gameId ∈ (store.preferenceOf userId).owned := by
  have looked : recommendable store.games (limit * 4) = (bestsellers store).take (limit * 4) := rfl
  have parts := List.take_append_drop (limit * 4) (bestsellers store)
  have outside (game : GameProfile R) : game ∈ (bestsellers store).drop (limit * 4) ↔
      (game ∈ store.games.values ∧ game.isPublished = true) ∧ game ∉ (bestsellers store).take (limit * 4) := by
    rw [← mem_bestsellers]
    have distinct := bestsellers_nodup store
    rw [← parts,List.nodup_append] at distinct
    constructor
    · intro late
      exact ⟨List.mem_of_mem_drop late,fun early => distinct.2.2 game early game late rfl⟩
    · rintro ⟨member,late⟩
      rw [← parts] at member
      exact (List.mem_append.mp member).resolve_left late
  have rest : (∀ game ∈ (bestsellers store).drop (limit * 4), (!(store.preferenceOf userId).owns game.gameId) = false) ↔
      ∀ game ∈ store.games.values, game.isPublished = true → game ∉ (bestsellers store).take (limit * 4) →
        game.gameId ∈ (store.preferenceOf userId).owned := by
    simp only [outside,and_imp,Bool.not_eq_false',UserPreference.owns,decide_eq_true_eq]
  rw [looked,rest]
  by_cases all : (bestsellers store).drop (limit * 4) = []
  · have none : ∀ game ∈ store.games.values, game.isPublished = true →
        game ∉ (bestsellers store).take (limit * 4) → game.gameId ∈ (store.preferenceOf userId).owned := by
      rw [← rest,all]
      simp
    exact iff_of_true (.inr none) (.inr none)
  · have full : ((bestsellers store).take (limit * 4)).length = limit * 4 := by
      rw [List.length_take]
      have more := List.length_pos_iff.mpr all
      rw [List.length_drop] at more
      omega
    have total := List.length_eq_countP_add_countP (l := (bestsellers store).take (limit * 4))
      fun game => (store.preferenceOf userId).owns game.gameId
    have others : ((bestsellers store).take (limit * 4)).countP
        (fun game => !(store.preferenceOf userId).owns game.gameId) =
          ((bestsellers store).take (limit * 4)).countP
            (fun game => decide ¬(store.preferenceOf userId).owns game.gameId = true) := by
      apply List.countP_congr
      intro game _
      simp
    rw [full] at total
    rw [others]
    apply or_congr_left
    omega

/-- A user without a stored list is served the best sellers not owned yet exactly when at most three
quarters of the games looked at are owned, or all others are. -/
theorem fallback_serves_top_sellers (environment : Environment) (store : MemoryStore R) (userId : UserId) (limit : Nat)
    (positive : 1 ≤ limit) (nothing : store.readModel.stored userId = []) :
    (∃ response, execute environment (ServeRecommendations.execute userId limit) store = (.ok response,store) ∧
        TopSellers store userId limit response.items) ↔
      ((recommendable store.games (limit * 4)).countP fun game => (store.preferenceOf userId).owns game.gameId) ≤
          limit * 3 ∨
        ∀ game ∈ store.games.values, game.isPublished = true → game ∉ recommendable store.games (limit * 4) →
          game.gameId ∈ (store.preferenceOf userId).owned := by
  obtain ⟨response,ran,_,games,ranks,_⟩ :=
    execute_serve_fallback environment store userId limit (listed_empty store userId limit nothing)
  rw [fallback_rank] at games
  rw [← enough_unowned_iff,← take_filter_take_iff,← unowned_bestsellers]
  constructor
  · rintro ⟨served,again,top⟩
    rw [ran] at again
    cases Except.ok.inj (congrArg Prod.fst again)
    have lengths := congrArg List.length (games.symm.trans top.games)
    rw [List.length_map,List.length_map] at lengths
    have early := take_filter_take_prefix (fun game : GameProfile R => !(store.preferenceOf userId).owns game.gameId)
      (limit * 4) limit (bestsellers store)
    rw [← unowned_bestsellers] at early
    exact early.eq_of_length lengths
  · intro found
    rw [found] at games
    refine ⟨response,ran,games,ranks,?_⟩
    rintro ⟨gameId,servable⟩ empty
    rw [empty] at games
    rw [List.map_nil,eq_comm,List.map_eq_nil_iff,List.take_eq_nil_iff] at games
    rcases games with zero | none
    · exact absurd zero (Nat.ne_of_gt positive)
    · exact unowned_nonempty store userId gameId servable none

end Memory

namespace Memory
attribute [local instance] Casing.unchanged

def numberedPublished (number : BitVec 128) : Action ℚ :=
  .ingest (.gamePublished ⟨number⟩ ⟨⟨number⟩⟩ ⟨⟨9⟩⟩ "Race" ["racing"] [] none "") .fixed

def numberedPurchased (number : BitVec 128) : Action ℚ :=
  .ingest (.purchaseCompleted ⟨100 + number⟩ ⟨⟨1⟩⟩ ⟨⟨number⟩⟩ none) .fixed

def fourOfFiveBought : List (Action ℚ) :=
  [1,2,3,4,5].map numberedPublished ++ [1,2,3,4].map numberedPurchased

theorem fallback_serves_top_sellers_bought :
    (∃ response, execute .fixed (ServeRecommendations.execute ⟨⟨1⟩⟩ 2) (Service.run deployed fourOfFiveBought).store =
        (.ok response,(Service.run deployed fourOfFiveBought).store) ∧
      TopSellers (Service.run deployed fourOfFiveBought).store ⟨⟨1⟩⟩ 2 response.items) ↔
    ((recommendable (Service.run deployed fourOfFiveBought).store.games (2 * 4)).countP fun game =>
        ((Service.run deployed fourOfFiveBought).store.preferenceOf ⟨⟨1⟩⟩).owns game.gameId) ≤ 2 * 3 ∨
      ∀ game ∈ (Service.run deployed fourOfFiveBought).store.games.values, game.isPublished = true →
        game ∉ recommendable (Service.run deployed fourOfFiveBought).store.games (2 * 4) →
        game.gameId ∈ ((Service.run deployed fourOfFiveBought).store.preferenceOf ⟨⟨1⟩⟩).owned :=
  fallback_serves_top_sellers .fixed (Service.run deployed fourOfFiveBought).store ⟨⟨1⟩⟩ 2 (by decide)
    (by decide +kernel)

/-- The one game left is not among the four looked at for a list of one. -/
theorem fallback_empty : ¬∀ (actions : List (Action ℚ)) (userId : UserId) (limit : Nat), 1 ≤ limit →
    (Service.run deployed actions).store.readModel.stored userId = [] →
    ∃ response, execute .fixed (ServeRecommendations.execute userId limit) (Service.run deployed actions).store =
        (.ok response,(Service.run deployed actions).store) ∧
      TopSellers (Service.run deployed actions).store userId limit response.items := by
  intro claim
  obtain ⟨response,ran,top⟩ := claim fourOfFiveBought ⟨⟨1⟩⟩ 1 (by decide) (by decide +kernel)
  have served : (execute .fixed (ServeRecommendations.execute ⟨⟨1⟩⟩ 1)
      (Service.run deployed fourOfFiveBought).store).1.map (fun response => response.items) = .ok [] := by
    decide +kernel
  rw [ran] at served
  have published : ((Service.run deployed fourOfFiveBought).store.games.get ⟨⟨5⟩⟩).map (·.isPublished) = some true := by
    decide +kernel
  obtain ⟨game,found,onSale⟩ := Option.map_eq_some_iff.mp published
  exact top.nonempty ⟨⟨⟨5⟩⟩,⟨game,found,onSale⟩,by decide +kernel⟩ (Except.ok.inj served)

end Memory
end ArcadiaRecommendation
