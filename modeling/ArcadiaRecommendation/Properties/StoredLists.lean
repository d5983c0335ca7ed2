import ArcadiaRecommendation.Memory.Attempt

/-! Every stored list is well formed, whatever units of work ran before and wherever they
were cut off. -/
namespace ArcadiaRecommendation
namespace Memory

section Checks
variable {R : Type} [OrderedScalar R] [Casing]

/-- What the SQL schema and the storefront expect of the list of one user. -/
structure WellFormed (store : MemoryStore R) (userId : UserId) (limit : Nat) (items : List (Recommendation R)) :
    Prop where
  bounded : items.length ≤ limit
  ranks : items.map (·.rank) = List.range' 1 items.length
  distinct : (items.map (·.gameId)).Nodup
  known : ∀ item ∈ items, ∃ game, store.games.get item.gameId = some game
  positive : ∀ item ∈ items, Scalar.less 0 item.score = true
  descending : items.Pairwise fun above below => Scalar.less above.score below.score = false
  users : ∀ item ∈ items, item.userId = userId

private theorem wellFormed_empty (store : MemoryStore R) (userId : UserId) (limit : Nat) :
    WellFormed store userId limit [] where
  bounded := Nat.zero_le limit
  ranks := rfl
  distinct := List.nodup_nil
  known := fun _ member => by cases member
  positive := fun _ member => by cases member
  descending := .nil
  users := fun _ member => by cases member

theorem WellFormed.later {before after : MemoryStore R} {userId : UserId} {limit : Nat} {items : List (Recommendation R)}
    (formed : WellFormed before userId limit items)
    (games : ∀ gameId game, before.games.get gameId = some game → ∃ later, after.games.get gameId = some later) :
    WellFormed after userId limit items := by
  refine { formed with known := fun item member => ?_ }
  obtain ⟨game,found⟩ := formed.known item member
  exact games item.gameId game found

private theorem Drafted.wellFormed {environment : Environment} {generation : Generation R} {userId : UserId}
    {limit : Nat} {store : MemoryStore R} {draft : Draft R}
    (drafted : Drafted environment generation userId limit store draft) :
    WellFormed store userId limit draft.items := by
  obtain ⟨preference,ranking,owned,source,entries,ranks,users⟩ := drafted.lists
  rcases source with rfl | rfl
  · have nothing : draft.items = [] := List.map_eq_nil_iff.mp entries
    rw [nothing]
    exact wellFormed_empty store userId limit
  have gameIds : draft.items.map (·.gameId) = (ranked environment generation userId limit store preference).map
      fun item => item.game.gameId := by
    have first := congrArg (List.map Prod.fst) entries
    rwa [List.map_map,List.map_map] at first
  have scores : draft.items.map (·.score) = (ranked environment generation userId limit store preference).map
      fun item => HybridRanker.blend item.content item.collaborative := by
    have second := congrArg (List.map Prod.snd) entries
    rwa [List.map_map,List.map_map] at second
  refine ⟨?_,ranks,?_,?_,?_,?_,users⟩
  · have length := congrArg List.length entries
    rw [List.length_map,List.length_map] at length
    rw [length]
    exact HybridRanker.rank_length _ _ _ _ limit
  · rw [gameIds]
    exact HybridRanker.rank_distinct _ _ _ _ _ (selected_distinct store.games _ generation.catalogueLimit)
  · intro item member
    have inside : item.gameId ∈ draft.items.map (·.gameId) := List.mem_map_of_mem member
    rw [gameIds] at inside
    obtain ⟨scored,kept,same⟩ := List.mem_map.mp inside
    exact ⟨scored.game,same ▸ mem_recommendable _ _ _ (HybridRanker.mem_rank _ _ _ _ _ scored kept).1⟩
  · intro item member
    have inside : item.score ∈ draft.items.map (·.score) := List.mem_map_of_mem member
    rw [scores] at inside
    obtain ⟨scored,kept,same⟩ := List.mem_map.mp inside
    rw [← same]
    exact HybridRanker.rank_positive _ _ _ _ _ scored kept
  · have descending := HybridRanker.rank_descending generation.content preference
      (recommendable store.games generation.catalogueLimit)
      (coPurchases environment store userId preference.owned Limits.maxCollaborativeCandidates) limit
    have mapped : ((ranked environment generation userId limit store preference).map fun item =>
        HybridRanker.blend item.content item.collaborative).Pairwise fun above below =>
          Scalar.less above below = false := List.pairwise_map.mpr descending
    rw [← scores] at mapped
    exact List.pairwise_map.mp mapped

theorem draft_rebuilt (environment : Environment) (generation : Generation R) (userId : UserId) (limit : Nat)
    (store : MemoryStore R) (warm : (store.preferenceOf userId).isCold = false) (preference : UserPreference R)
    (rebuilding : rebuilt generation store (store.preferenceOf userId) = .ok preference) :
    ∃ items, draft environment generation userId limit store =
        .ok { preference := if generation.denseSpace then some preference else none, items } ∧
      items.map (·.toRecommendationFields) = ((explained environment generation (ranked environment generation userId
        limit store preference) (played store (store.preferenceOf userId))).zipIdx 1).map (entry environment userId) := by
  have accepted : ∀ fields ∈ ((explained environment generation (ranked environment generation userId limit store
      preference) (played store (store.preferenceOf userId))).zipIdx 1).map (entry environment userId),
      1 ≤ fields.rank ∧ Scalar.less fields.score 0 = false := by
    intro fields member
    obtain ⟨place,inside,same⟩ := List.mem_map.mp member
    subst same
    obtain ⟨kept,ranking,_,content,collaborative⟩ := mem_explained environment generation _ _ place.1
      (List.fst_mem_of_mem_zipIdx inside)
    have positive := HybridRanker.rank_positive _ _ _ _ _ kept ranking
    rw [content,collaborative] at positive
    exact ⟨List.le_snd_of_mem_zipIdx inside,OrderedScalar.less_asymm _ _ positive⟩
  obtain ⟨items,constructed⟩ := constructAll_accepts _ accepted
  refine ⟨items,?_,constructAll_ok _ items constructed⟩
  unfold draft
  simp only [warm,Bool.false_eq_true,if_false,rebuilding,constructed]

theorem draft_error (environment : Environment) (generation : Generation R) (userId : UserId) (limit : Nat)
    (store : MemoryStore R) (rule : InvariantViolation)
    (failed : draft environment generation userId limit store = .error rule) :
    ∃ added own, rule = .widthMismatch added own := by
  cases cold : (store.preferenceOf userId).isCold with
  | true =>
    unfold draft at failed
    rw [if_pos cold] at failed
    cases failed
  | false =>
    cases rebuilding : rebuilt generation store (store.preferenceOf userId) with
    | ok preference =>
      obtain ⟨items,made,_⟩ := draft_rebuilt environment generation userId limit store cold preference rebuilding
      rw [made] at failed
      cases failed
    | error broken =>
      unfold draft at failed
      simp only [cold,Bool.false_eq_true,if_false,rebuilding] at failed
      cases Except.error.inj failed
      unfold rebuilt at rebuilding
      split at rebuilding
      · exact UserPreference.rebuiltIn_error _ _ _ rebuilding
      · cases rebuilding

/-- The list stored for a user was generated by one unit of work of the run, and is well formed in
the present store. No generation is refused by the checks of an entry. -/
theorem stored_lists_well_formed (backfillLimit : Nat) (attempts : List (Attempt R)) :
    (∀ userId items, (Journal.run backfillLimit attempts).store.recommendations.get userId = some items →
      ∃ earlier attempt later generation limit, attempts = earlier ++ attempt :: later ∧
        attempt.work = .generate generation userId limit ∧
        (attempt.session backfillLimit (Journal.run backfillLimit earlier).store).committed = true ∧
        (Journal.run backfillLimit (earlier ++ [attempt])).store.recommendations.get userId = some items ∧
        WellFormed (Journal.run backfillLimit attempts).store userId limit items) ∧
    ∀ environment cut generation userId limit,
      let ended := (attempt environment cut (GenerateRecommendations.execute generation userId limit)
        (Journal.run backfillLimit attempts).store).1
      ended ≠ .raised (.violation .rankNotOneBased) ∧ ended ≠ .raised (.violation .negativeScore) := by
  constructor
  · induction attempts using List.reverseRecOn with
    | nil =>
      intro userId items stored
      cases stored
    | append_singleton before attempt ih =>
      intro userId items stored
      rw [Journal.run_append] at stored ⊢
      have unchanged (known : (Journal.run backfillLimit before).store.recommendations.get userId = some items)
          (games : ∀ gameId game, (Journal.run backfillLimit before).store.games.get gameId = some game →
            ∃ later, ((Journal.run backfillLimit before).after backfillLimit attempt).store.games.get gameId =
              some later) :
          ∃ earlier writer later generation limit, before ++ [attempt] = earlier ++ writer :: later ∧
            writer.work = .generate generation userId limit ∧
            (writer.session backfillLimit (Journal.run backfillLimit earlier).store).committed = true ∧
            (Journal.run backfillLimit (earlier ++ [writer])).store.recommendations.get userId = some items ∧
            WellFormed ((Journal.run backfillLimit before).after backfillLimit attempt).store userId limit items := by
        obtain ⟨earlier,writer,later,generation,limit,split,work,committed,written,formed⟩ := ih userId items known
        refine ⟨earlier,writer,later ++ [attempt],generation,limit,?_,work,committed,written,formed.later games⟩
        rw [split,List.append_assoc,List.cons_append]
      cases Journal.after_step backfillLimit (Journal.run backfillLimit before) attempt with
      | quiet same enqueued games =>
        have known := congrArg (fun lists => lists.get userId) same
        exact unchanged (known.symm.trans stored) games
      | generated generation owner limit draft work committed drafted store enqueued =>
        have kept : ∀ gameId game, (Journal.run backfillLimit before).store.games.get gameId = some game →
            ∃ later, ((Journal.run backfillLimit before).after backfillLimit attempt).store.games.get gameId =
              some later := by
          intro gameId game found
          rw [store]
          exact ⟨game,found⟩
        have written := congrArg (fun after => after.recommendations.get userId) store
        simp only [Draft.commit,Dict.get_set] at written
        by_cases same : userId = owner
        · subst same
          rw [if_pos rfl] at written
          cases Option.some.inj (stored.symm.trans written)
          refine ⟨before,attempt,[],generation,limit,rfl,work,committed,?_,?_⟩
          · rw [Journal.run_append]
            exact written
          · exact (draft_drafted _ generation userId limit _ draft drafted).wellFormed.later kept
        · rw [if_neg same] at written
          exact unchanged (written.symm.trans stored) kept
  · intro environment cut generation userId limit
    rcases attempt_generation environment cut generation userId limit (Journal.run backfillLimit attempts).store with
      ⟨draft,_,returned,_⟩ | ⟨interrupted | ⟨rule,failed,raised⟩,_⟩
    · rw [returned]
      exact ⟨(by intro same; cases same),by intro same; cases same⟩
    · rw [interrupted]
      exact ⟨(by intro same; cases same),by intro same; cases same⟩
    · obtain ⟨added,own,same⟩ := draft_error environment generation userId limit _ rule failed
      rw [raised,same]
      exact ⟨(by intro same; cases same),by intro same; cases same⟩

end Checks
end Memory
end ArcadiaRecommendation
