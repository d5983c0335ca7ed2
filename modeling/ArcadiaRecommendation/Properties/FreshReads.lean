import ArcadiaRecommendation.Adapters.Explanation
import ArcadiaRecommendation.Memory.Serve
import ArcadiaRecommendation.Properties.ColdUsers
import ArcadiaRecommendation.Properties.Ranking
import ArcadiaRecommendation.Properties.StoredLists
import ArcadiaRecommendation.Properties.Widths

/-! A read right after a generation. The batch keeps a ranking of the default length, and a read
may ask for more than that. -/
namespace ArcadiaRecommendation
variable {R : Type} [Scalar R] [Casing]

def RecommendationItem.placed (place : ScoredGame R × Nat) : RecommendationItem R where
  gameId := place.1.game.gameId.str
  title := place.1.game.title
  genres := place.1.game.genres
  score := Scalar.round6 (HybridRanker.blend place.1.content place.1.collaborative)
  source := place.1.source
  rank := place.2
  reasons := place.1.reasons

private theorem ScoredGame.source_ranked (item : ScoredGame R) : item.source ≠ .fallback := by
  unfold source
  split
  · exact RecommendationSource.noConfusion
  split <;> exact RecommendationSource.noConfusion

namespace Memory

/-- No explanation provider is configured, or the one that explains nothing. -/
def Unexplained (environment : Environment) (generation : Generation R) : Prop :=
  generation.explanations = false ∨ environment.explain = NoExplanations.explain

theorem Unexplained.explained {environment : Environment} {generation : Generation R}
    (unexplained : Unexplained environment generation) (scored : List (ScoredGame R)) (played : List (GameProfile R)) :
    Memory.explained environment generation scored played = scored := by
  rcases unexplained with off | silent
  · exact explained_off environment generation off scored played
  unfold Memory.explained
  split
  · rfl
  · rw [silent]
    rfl

private theorem listed_made (store : MemoryStore R) (userId : UserId) (limit : Nat) (items : List (Recommendation R))
    (stored : store.recommendations.get userId = some items) (ranks : items.map (·.rank) = List.range' 1 items.length) :
    listed store userId limit = items.take limit := by
  have ascending : items.Pairwise fun first second => first.rank ≤ second.rank := by
    have sorted : (items.map (·.rank)).Pairwise (· ≤ ·) := by
      rw [ranks]
      exact List.pairwise_le_range'
    exact List.pairwise_map.mp sorted
  unfold listed
  rw [stored,Option.getD_some,sortedBy,ascending.insertionSort_eq]

def displayed (catalogue : Dict GameId (GameProfile R)) (fields : RecommendationFields R) : RecommendationItem R where
  gameId := fields.gameId.str
  title := ((catalogue.get fields.gameId).map fun known => known.title).getD ""
  genres := ((catalogue.get fields.gameId).map fun known => known.genres).getD []
  score := Scalar.round6 fields.score
  source := fields.source
  rank := fields.rank
  reasons := fields.reasons

private theorem items_placed (environment : Environment) (store : MemoryStore R) (userId : UserId)
    (scored : List (ScoredGame R)) (items : List (Recommendation R))
    (made : items.map (·.toRecommendationFields) = (scored.zipIdx 1).map (entry environment userId))
    (known : ∀ item ∈ scored, store.games.get item.game.gameId = some item.game)
    (distinct : (scored.map fun item => item.game.gameId).Nodup) :
    ArcadiaRecommendation.itemsOf items ((items.map fun item => item.gameId).filterMap store.games.get) =
      (scored.zipIdx 1).map RecommendationItem.placed := by
  have ids : items.map (fun item => item.gameId) = scored.map fun item => item.game.gameId :=
    made_column made (fun fields => fields.gameId) (fun item => item.game.gameId) fun _ => rfl
  have games : (scored.map fun item => item.game.gameId).filterMap store.games.get = scored.map fun item => item.game := by
    rw [List.filterMap_map,← List.filterMap_eq_map]
    exact List.filterMap_congr known
  let catalogue : Dict GameId (GameProfile R) := .ofList ((scored.map fun item => item.game).map fun game => (game.gameId,game))
  have found (item : ScoredGame R) (member : item ∈ scored) : catalogue.get item.game.gameId = some item.game := by
    apply (Dict.get_ofList _ _ _ _).mpr
    · exact List.mem_map_of_mem (List.mem_map_of_mem member)
    · rw [List.map_map,List.map_map]
      exact distinct
  have shown (place : ScoredGame R × Nat) (member : place ∈ scored.zipIdx 1) :
      displayed catalogue (entry environment userId place) = .placed place := by
    have game := found place.1 (List.fst_mem_of_mem_zipIdx member)
    simp only [displayed,entry,game,Option.map_some,Option.getD_some,RecommendationItem.placed]
  unfold ArcadiaRecommendation.itemsOf
  rw [ids,games]
  calc items.map (fun item => displayed catalogue item.toRecommendationFields)
    _ = ((scored.zipIdx 1).map (entry environment userId)).map (displayed catalogue) := by rw [← made,List.map_map]; rfl
    _ = (scored.zipIdx 1).map RecommendationItem.placed := by
      rw [List.map_map]
      exact List.map_congr_left shown

private theorem read_made (environment reader : Environment) (after : MemoryStore R) (userId : UserId) (limit : Nat)
    (positive : 1 ≤ limit) (kept : List (ScoredGame R)) (nonempty : kept ≠ []) (items : List (Recommendation R))
    (stored : after.recommendations.get userId = some items)
    (made : items.map (·.toRecommendationFields) = (kept.zipIdx 1).map (entry environment userId))
    (known : ∀ item ∈ kept, after.games.get item.game.gameId = some item.game)
    (distinct : (kept.map fun item => item.game.gameId).Nodup) :
    ∃ response, execute reader (ServeRecommendations.execute userId limit) after = (.ok response,after) ∧
      response.items = ((kept.take limit).zipIdx 1).map RecommendationItem.placed := by
  have listing := listed_made after userId limit items stored (made_ranks made)
  have cut : (items.take limit).map (·.toRecommendationFields) =
      ((kept.take limit).zipIdx 1).map (entry environment userId) := by
    have places : (kept.zipIdx 1).take limit = (kept.take limit).zipIdx 1 := by
      apply List.ext_getElem?
      intro place
      rw [List.getElem?_take,List.getElem?_zipIdx,List.getElem?_zipIdx,List.getElem?_take]
      split <;> rfl
    rw [List.map_take,made,← List.map_take,places]
  have lengths := congrArg List.length cut
  rw [List.length_map,List.length_map,List.length_zipIdx,List.length_take (l := kept)] at lengths
  have some_ : 0 < kept.length := List.length_pos_of_ne_nil nonempty
  obtain ⟨first,rest,page⟩ := List.exists_cons_of_length_pos (l := items.take limit) (by omega)
  refine ⟨_,execute_serve_stored reader after userId limit first rest (listing.trans page),?_⟩
  dsimp only
  rw [← page]
  apply items_placed environment after userId (kept.take limit) _ cut
  · exact fun item member => known item (List.mem_of_mem_take member)
  · rw [List.map_take]
    exact distinct.sublist (List.take_sublist _ _)

private theorem generated_warm {S : Type} [OrderedScalar S] (environment : Environment) (generation : Generation S)
    (unexplained : Unexplained environment generation) (userId : UserId) (limit : Nat) (store : MemoryStore S)
    (warm : (store.preferenceOf userId).isCold = false) (preference : UserPreference S)
    (rebuilding : rebuilt generation store (store.preferenceOf userId) = .ok preference) :
    ∃ items after, execute environment (GenerateRecommendations.execute generation userId limit) store =
        (.ok items.length,after) ∧
      after.games = store.games ∧ after.recommendations.get userId = some items ∧
      items.map (·.toRecommendationFields) =
        ((ranked environment generation userId limit store preference).zipIdx 1).map (entry environment userId) := by
  obtain ⟨items,drafted,made⟩ := draft_rebuilt environment generation userId limit store warm preference rebuilding
  rw [unexplained.explained] at made
  have ran := execute_generation environment generation userId limit store
  rw [drafted] at ran
  exact ⟨items,_,ran,rfl,Dict.get_set_self _ _ _,made⟩

private theorem generated_cold (environment : Environment) (generation : Generation R) (userId : UserId) (limit : Nat)
    (store : MemoryStore R) (cold : (store.preferenceOf userId).isCold = true) :
    ∃ after, execute environment (GenerateRecommendations.execute generation userId limit) store = (.ok 0,after) ∧
      after.readModel.stored userId = [] := by
  have drafted : draft environment generation userId limit store = .ok {} := by
    unfold draft
    rw [if_pos cold]
  have ran := execute_generation environment generation userId limit store
  rw [drafted] at ran
  refine ⟨_,ran,?_⟩
  show (Dict.get _ userId).getD [] = []
  rw [Draft.commit,Dict.get_set_self]
  rfl

def eligible (environment : Environment) (generation : Generation R) (userId : UserId) (store : MemoryStore R)
    (preference : UserPreference R) : List (GameProfile R) :=
  (recommendable store.games generation.catalogueLimit).filter fun game => decide (HybridRanker.Eligible generation.content
    preference (coPurchases environment store userId preference.owned Limits.maxCollaborativeCandidates) game)

/-- A regeneration of the default length succeeds, and a read after it shows the ranking of the length it asks for. -/
def ReadsRanking (environment reader : Environment) (generation : Generation R) (userId : UserId) (limit : Nat)
    (store : MemoryStore R) (preference : UserPreference R) : Prop :=
  ∃ written after response,
    execute environment (GenerateRecommendations.execute generation userId Limits.defaultRecommendationCount) store =
      (.ok written,after) ∧
    execute reader (ServeRecommendations.execute userId limit) after = (.ok response,after) ∧
    response.items = ((ranked environment generation userId limit store preference).zipIdx 1).map RecommendationItem.placed

private theorem reads_ranking_determined (environment reader : Environment) (generation : Generation R)
    (userId : UserId) (limit : Nat) (store after : MemoryStore R) (preference : UserPreference R) (written : Nat)
    (response : RecommendationsResponse R)
    (ran : execute environment (GenerateRecommendations.execute generation userId Limits.defaultRecommendationCount) store =
      (.ok written,after))
    (read : execute reader (ServeRecommendations.execute userId limit) after = (.ok response,after)) :
    ReadsRanking environment reader generation userId limit store preference ↔ response.items =
      ((ranked environment generation userId limit store preference).zipIdx 1).map RecommendationItem.placed := by
  refine ⟨?_,fun same => ⟨written,after,response,ran,read,same⟩⟩
  rintro ⟨_,other,_,again,reread,same⟩
  rw [ran] at again
  cases again
  rw [read] at reread
  cases reread
  exact same

private theorem ranked_selected (environment : Environment) (generation : Generation R) (userId : UserId) (limit : Nat)
    (store : MemoryStore R) (preference : UserPreference R) : ranked environment generation userId limit store preference =
      (sortedBy HybridRanker.precedes (HybridRanker.standings generation.content preference
        (coPurchases environment store userId preference.owned Limits.maxCollaborativeCandidates)
        (recommendable store.games generation.catalogueLimit))).take limit :=
  HybridRanker.rank_selected generation.content preference _ _ limit

private theorem length_standings (environment : Environment) (generation : Generation R) (userId : UserId)
    (store : MemoryStore R) (preference : UserPreference R) :
    (sortedBy HybridRanker.precedes (HybridRanker.standings generation.content preference
      (coPurchases environment store userId preference.owned Limits.maxCollaborativeCandidates)
      (recommendable store.games generation.catalogueLimit))).length =
        (eligible environment generation userId store preference).length :=
  (List.length_insertionSort _ _).trans (List.length_map _)

private theorem length_ranked (environment : Environment) (generation : Generation R) (userId : UserId) (limit : Nat)
    (store : MemoryStore R) (preference : UserPreference R) :
    (ranked environment generation userId limit store preference).length =
      min limit (eligible environment generation userId store preference).length := by
  rw [ranked_selected,List.length_take,length_standings]

private theorem ranked_game (environment : Environment) (generation : Generation R) (userId : UserId) (limit : Nat)
    (store : MemoryStore R) (preference : UserPreference R) (item : ScoredGame R)
    (member : item ∈ ranked environment generation userId limit store preference) :
    store.games.get item.game.gameId = some item.game :=
  mem_recommendable _ _ _ (HybridRanker.mem_rank _ _ _ _ _ item member).1

private theorem reads_ranking_warm {S : Type} [OrderedScalar S] (environment reader : Environment)
    (generation : Generation S) (unexplained : Unexplained environment generation) (userId : UserId) (limit : Nat)
    (positive : 1 ≤ limit) (store : MemoryStore S) (warm : (store.preferenceOf userId).isCold = false)
    (preference : UserPreference S) (rebuilding : rebuilt generation store (store.preferenceOf userId) = .ok preference)
    (nonempty : ranked environment generation userId limit store preference ≠ []) :
    ReadsRanking environment reader generation userId limit store preference ↔
      (ranked environment generation userId Limits.defaultRecommendationCount store preference).take limit =
        ranked environment generation userId limit store preference := by
  obtain ⟨items,after,ran,games,stored,made⟩ := generated_warm environment generation unexplained userId
    Limits.defaultRecommendationCount store warm preference rebuilding
  have some_ : ranked environment generation userId Limits.defaultRecommendationCount store preference ≠ [] := by
    rw [ranked_selected] at nonempty ⊢
    rw [Ne,List.take_eq_nil_iff] at nonempty ⊢
    exact not_or.mpr ⟨by decide,fun none => nonempty (.inr none)⟩
  obtain ⟨response,read,shown⟩ := read_made environment reader after userId limit positive _ some_ items stored made
    (fun item member => games ▸ ranked_game environment generation userId _ store preference item member)
    (HybridRanker.rank_distinct _ _ _ _ _ (selected_distinct store.games _ generation.catalogueLimit))
  rw [reads_ranking_determined environment reader generation userId limit store after preference _ response ran read,shown]
  constructor
  · intro same
    have lengths := congrArg List.length same
    simp only [List.length_map,List.length_zipIdx] at lengths
    rw [ranked_selected,ranked_selected] at lengths ⊢
    rw [List.length_take,List.length_take] at lengths
    exact (take_take_iff _ _ _).mpr (by rw [List.length_take] at lengths; omega)
  · intro same
    rw [same]

/-- The ranking a read asks for is shown exactly where one was made and no more than the default length of it was
wanted or there. -/
theorem read_returns_ranking_iff {S : Type} [OrderedScalar S] [Floats S] (backfillLimit : Nat) (shipped : Shipped)
    (moves : List (Move S (List String → Except String (Json S)))) (environment reader : Environment)
    (generation : Generation S) (unexplained : Unexplained environment generation) (userId : UserId) (limit : Nat)
    (positive : 1 ≤ limit) :
    let store := (Enrichment.run backfillLimit shipped.embed moves).store
    ∃ preference, rebuilt generation store (store.preferenceOf userId) = .ok preference ∧
      (ranked environment generation userId limit store preference ≠ [] →
        (ReadsRanking environment reader generation userId limit store preference ↔
          (store.preferenceOf userId).isCold = false ∧ (limit ≤ Limits.defaultRecommendationCount ∨
            (eligible environment generation userId store preference).length ≤ Limits.defaultRecommendationCount))) := by
  intro store
  obtain ⟨preference,rebuilding⟩ := (shipped_one_width backfillLimit shipped moves).rebuilt generation
    (store.preferenceOf userId)
  refine ⟨preference,rebuilding,fun nonempty => ?_⟩
  cases cold : (store.preferenceOf userId).isCold with
  | true =>
    obtain ⟨after,ran,nothing⟩ := generated_cold environment generation userId Limits.defaultRecommendationCount store cold
    obtain ⟨response,read,_,_,_,sources⟩ :=
      execute_serve_fallback reader after userId limit (listed_empty after userId limit nothing)
    rw [reads_ranking_determined environment reader generation userId limit store after preference 0 response ran read]
    refine ⟨fun same => ?_,fun warm => ?_⟩
    · obtain ⟨first,rest,ranking⟩ := List.exists_cons_of_ne_nil nonempty
      have shown : RecommendationItem.placed (first,1) ∈ response.items := by
        rw [same,ranking]
        exact List.mem_cons_self
      exact absurd (sources _ shown) first.source_ranked
    · cases warm.1
  | false =>
    rw [reads_ranking_warm environment reader generation unexplained userId limit positive store cold preference
      rebuilding nonempty,ranked_selected,ranked_selected,take_take_iff,length_standings]
    exact ⟨fun within => ⟨rfl,within⟩,And.right⟩

end Memory
end ArcadiaRecommendation

namespace ArcadiaRecommendation
namespace Memory
attribute [local instance] Casing.unchanged Floats.integers

def twelveRaces : List (Move ℚ (List String → Except String (Json ℚ))) :=
  (((List.range 12).map fun number => Event.gamePublished ⟨BitVec.ofNat 128 (100 + number)⟩ ⟨⟨BitVec.ofNat 128 (1 + number)⟩⟩
    ⟨⟨9⟩⟩ "Race" ["racing"] [] none "") ++ [Event.purchaseCompleted ⟨1⟩ ⟨⟨1⟩⟩ ⟨⟨1⟩⟩ none]).map fun event =>
      .work ⟨.ingest event,.fixed,none⟩

def sparseGeneration : Generation ℚ := { content := contentBasedScorer }

private theorem eleven_suggested :
    (ranked .fixed sparseGeneration ⟨⟨1⟩⟩ 50 (Enrichment.run 500 Shipped.unasked.embed twelveRaces).store
    ((Enrichment.run 500 Shipped.unasked.embed twelveRaces).store.preferenceOf ⟨⟨1⟩⟩)).length = 11 := by
  have each : (eligible .fixed sparseGeneration ⟨⟨1⟩⟩ (Enrichment.run 500 Shipped.unasked.embed twelveRaces).store
      ((Enrichment.run 500 Shipped.unasked.embed twelveRaces).store.preferenceOf ⟨⟨1⟩⟩)).length = 11 := by decide +kernel
  rw [length_ranked,each]
  rfl

theorem read_returns_ranking_iff_races :
    let store := (Enrichment.run 500 Shipped.unasked.embed twelveRaces).store
    ReadsRanking .fixed .fixed sparseGeneration ⟨⟨1⟩⟩ 50 store (store.preferenceOf ⟨⟨1⟩⟩) ↔
      (store.preferenceOf ⟨⟨1⟩⟩).isCold = false ∧ (50 ≤ Limits.defaultRecommendationCount ∨
        (eligible .fixed sparseGeneration ⟨⟨1⟩⟩ store (store.preferenceOf ⟨⟨1⟩⟩)).length ≤
          Limits.defaultRecommendationCount) := by
  intro store
  obtain ⟨preference,rebuilding,exactly⟩ := read_returns_ranking_iff 500 Shipped.unasked twelveRaces .fixed .fixed
    sparseGeneration (.inl rfl) ⟨⟨1⟩⟩ 50 (by decide)
  have unchanged : store.preferenceOf ⟨⟨1⟩⟩ = preference := Except.ok.inj rebuilding
  rw [← unchanged] at exactly
  exact exactly fun none => by
    have suggested := eleven_suggested
    rw [none] at suggested
    cases suggested

/-- Eleven games are suggested to the user, who asks for as many as there are and is shown ten. -/
theorem read_stops_at_default : ¬∀ (moves : List (Move ℚ (List String → Except String (Json ℚ)))) (userId : UserId)
    (limit : Nat), 1 ≤ limit → limit ≤ Limits.maxRecommendationCount →
      let store := (Enrichment.run 500 Shipped.unasked.embed moves).store
      ranked .fixed sparseGeneration userId limit store (store.preferenceOf userId) ≠ [] →
        ReadsRanking .fixed .fixed sparseGeneration userId limit store (store.preferenceOf userId) := by
  intro claim
  let store := (Enrichment.run 500 Shipped.unasked.embed twelveRaces).store
  have warm : (store.preferenceOf ⟨⟨1⟩⟩).isCold = false := by decide +kernel
  have suggested : ranked .fixed sparseGeneration ⟨⟨1⟩⟩ 50 store (store.preferenceOf ⟨⟨1⟩⟩) ≠ [] := by
    intro none
    have length := eleven_suggested
    rw [none] at length
    cases length
  have whole := claim twelveRaces ⟨⟨1⟩⟩ 50 (by decide) (by decide) suggested
  rw [reads_ranking_warm .fixed .fixed sparseGeneration (.inl rfl) ⟨⟨1⟩⟩ 50 (by decide) store warm _ rfl suggested,
    ranked_selected,List.take_take] at whole
  have length := congrArg List.length whole
  rw [eleven_suggested,List.length_take] at length
  exact absurd length (Nat.ne_of_lt (Nat.lt_of_le_of_lt (Nat.min_le_left _ _) (by decide)))

end Memory
end ArcadiaRecommendation
