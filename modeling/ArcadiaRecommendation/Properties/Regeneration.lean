import ArcadiaRecommendation.Properties.UserIndependence

/-! Generating a list twice. The rebuilt taste is a fixed point of the rebuild, and a ranking
reads nothing else that its own commit moves. -/
namespace ArcadiaRecommendation

private theorem UserPreference.rebuiltIn_again {R : Type} [Scalar R] (preference after : UserPreference R)
    (space : Dict GameId (DenseEmbedding R)) (rebuilt : preference.rebuiltIn space = .ok after) :
    after.rebuiltIn space = .ok after := by
  have history : after.history = preference.history := by
    obtain ⟨tasteDense,same⟩ := rebuiltIn_ok preference after space rebuilt
    rw [same]
  unfold rebuiltIn at rebuilt ⊢
  rw [history]
  simp only [bind,Except.bind,pure,Except.pure] at rebuilt ⊢
  split at rebuilt
  · cases rebuilt
  · rw [← Except.ok.inj rebuilt]

namespace Memory
variable {R : Type} [Scalar R] [Casing]

private theorem rebuilt_again (generation : Generation R) (store : MemoryStore R) (preference after : UserPreference R)
    (ok : rebuilt generation store preference = .ok after) : rebuilt generation store after = .ok after := by
  have remembered : played store after = played store preference := by
    obtain ⟨tasteDense,same⟩ := rebuilt_ok generation store preference after ok
    rw [same]
    rfl
  unfold rebuilt at ok ⊢
  split at ok
  · rename_i dense
    rw [if_pos dense,remembered]
    exact UserPreference.rebuiltIn_again preference after _ ok
  · rename_i sparse
    rw [if_neg sparse]

private theorem preferenceOf_owner (store : MemoryStore R) (userId : UserId) :
    (store.preferenceOf userId).userId = userId := by
  unfold MemoryStore.preferenceOf
  cases found : store.preferences.get userId with
  | none => rfl
  | some preference => exact store.preferences.keyed userId preference found

private theorem committed_preference (environment : Environment) (generation : Generation R) (userId : UserId)
    (store : MemoryStore R) (preference : UserPreference R) (items : List (Recommendation R))
    (ok : rebuilt generation store (store.preferenceOf userId) = .ok preference) :
    (({ preference := if generation.denseSpace then some preference else none, items } : Draft R).commit environment
      userId store).preferenceOf userId = preference := by
  obtain ⟨tasteDense,columns⟩ := rebuilt_ok generation store _ preference ok
  have owner : preference.userId = userId := by
    rw [columns]
    exact preferenceOf_owner store userId
  unfold MemoryStore.preferenceOf Draft.commit Draft.preferences
  dsimp only
  rw [Table.get_update]
  cases dense : generation.denseSpace with
  | true =>
    simp only [if_true,Table.get_upsert,owner]
    rfl
  | false =>
    unfold rebuilt at ok
    rw [dense] at ok
    simp only [Bool.false_eq_true,if_false]
    exact Except.ok.inj ok

private theorem draft_again (first second : Environment) (generation : Generation R) (userId : UserId) (limit : Nat)
    (store : MemoryStore R) (drafted : Draft R) (ok : draft first generation userId limit store = .ok drafted) :
    draft second generation userId limit (drafted.commit first userId store) =
      draft second generation userId limit store := by
  cases draft_drafted first generation userId limit store drafted ok with
  | cold cold =>
    have found : (({} : Draft R).commit first userId store).preferenceOf userId = store.preferenceOf userId := rfl
    unfold draft
    rw [found,if_pos cold,if_pos cold]
  | warm preference scored items warm rebuilding same made =>
    have found := committed_preference first generation userId store preference items rebuilding
    obtain ⟨tasteDense,columns⟩ := rebuilt_ok generation store _ preference rebuilding
    have stillWarm : preference.isCold = false := by
      rw [columns]
      exact warm
    have remembered : played store preference = played store (store.preferenceOf userId) := by
      rw [columns]
      rfl
    generalize stored : ({ preference := if generation.denseSpace then some preference else none, items } : Draft R) =
      draft at found
    have games : rebuilt generation (draft.commit first userId store) preference =
        rebuilt generation store preference := rfl
    have ranking : ranked second generation userId limit (draft.commit first userId store) preference =
        ranked second generation userId limit store preference := rfl
    have listed : played (draft.commit first userId store) preference = played store preference := rfl
    unfold Memory.draft
    rw [found,games,rebuilt_again generation store _ preference rebuilding,rebuilding,warm,stillWarm,listed,remembered]
    simp only [ranking]

omit [Casing] in
private theorem constructAll_unstamped (fields : List (RecommendationFields R)) :
    (constructAll fields).map (List.map fun item => unstamped item.toRecommendationFields) =
      (constructAll (fields.map unstamped)).map (List.map (·.toRecommendationFields)) := by
  have each (first : RecommendationFields R) :
      (Recommendation.construct first).map (fun item => unstamped item.toRecommendationFields) =
        (Recommendation.construct (unstamped first)).map (·.toRecommendationFields) := by
    unfold Recommendation.construct unstamped
    dsimp only
    split
    · rfl
    split <;> rfl
  rw [constructAll_eq,constructAll_eq,map_mapM,map_mapM,List.mapM_map]
  exact congrArg (fun make => fields.mapM make) (funext each)

/-- What a draft holds, its fresh ids and its timestamp aside. -/
def Draft.content (draft : Draft R) : Option (UserPreference R) × List (RecommendationFields R) :=
  (draft.preference,draft.items.map fun item => unstamped item.toRecommendationFields)

private theorem draft_content (first second : Environment) (users : second.users = first.users)
    (games : second.games = first.games) (generation : Generation R) (unexplained : generation.explanations = false)
    (userId : UserId) (limit : Nat) (store : MemoryStore R) :
    (draft second generation userId limit store).map Draft.content =
      (draft first generation userId limit store).map Draft.content := by
  have ranking (preference : UserPreference R) : ranked second generation userId limit store preference =
      ranked first generation userId limit store preference := by
    unfold ranked coPurchases
    rw [users,games]
  unfold draft
  split
  · rfl
  cases rebuilt generation store (store.preferenceOf userId) with
  | error rule => rfl
  | ok preference =>
    simp only [explained_off _ generation unexplained,ranking]
    generalize (ranked first generation userId limit store preference).zipIdx 1 = places
    have fields : (places.map (entry second userId)).map unstamped = (places.map (entry first userId)).map unstamped := by
      rw [List.map_map,List.map_map]
      rfl
    have here := constructAll_unstamped (places.map (entry first userId))
    have there := constructAll_unstamped (places.map (entry second userId))
    rw [fields,← here] at there
    cases made : constructAll (places.map (entry first userId)) with
    | error rule =>
      cases remade : constructAll (places.map (entry second userId)) with
      | error other =>
        rw [made,remade] at there
        cases there
        rfl
      | ok others =>
        rw [made,remade] at there
        cases there
    | ok items =>
      cases remade : constructAll (places.map (entry second userId)) with
      | error other =>
        rw [made,remade] at there
        cases there
      | ok others =>
        rw [made,remade] at there
        exact congrArg Except.ok (Prod.ext rfl (Except.ok.inj there))

private theorem attempt_whole (environment : Environment) (generation : Generation R) (userId : UserId) (limit : Nat)
    (store : MemoryStore R) :
    let ended := attempt environment none (GenerateRecommendations.execute generation userId limit) store
    match draft environment generation userId limit store with
    | .ok draft => ended.1 = .returned draft.items.length ∧ ended.2.store = draft.commit environment userId store ∧
        ended.2.released = draft.records environment userId
    | .error rule => ended.1 = .raised (.violation rule) ∧ ended.2.store = store ∧ ended.2.released = [] := by
  have whole := (attempt_none environment (GenerateRecommendations.execute generation userId limit) store).1
  rcases attempt_generation environment none generation userId limit store with
    ⟨draft,drafted,returned,committed,stored,events⟩ | ⟨interrupted | ⟨rule,failed,raised⟩,stored,uncommitted⟩
  · simp only [drafted,Session.released,committed,if_true]
    exact ⟨returned,stored,events⟩
  · rw [interrupted] at whole
    unfold Outcome.ofExcept at whole
    split at whole <;> cases whole
  · simp only [failed,Session.released,uncommitted,Bool.false_eq_true,if_false]
    exact ⟨raised,stored,trivial⟩

/-- A second generation of a user's list, with nothing committed since the first, leaves every table
as the first left it, up to fresh ids and timestamps, and publishes the same items. -/
theorem generation_idempotent (generation : Generation R) (unexplained : generation.explanations = false)
    (userId : UserId) (limit : Nat) (store : MemoryStore R) (first second : Environment)
    (users : second.users = first.users) (games : second.games = first.games) :
    let once := attempt first none (GenerateRecommendations.execute generation userId limit) store
    let twice := attempt second none (GenerateRecommendations.execute generation userId limit) once.2.store
    twice.1 = once.1 ∧
    (∀ other, (twice.2.store.recommendations.get other).map (List.map fun item => unstamped item.toRecommendationFields) =
      (once.2.store.recommendations.get other).map (List.map fun item => unstamped item.toRecommendationFields)) ∧
    (∀ other, twice.2.store.preferences.get other = once.2.store.preferences.get other) ∧
    twice.2.store.games = once.2.store.games ∧ twice.2.store.ownerships = once.2.store.ownerships ∧
    (twice.2.released.map fun record => (record.aggregateId,itemsOf record)) =
      once.2.released.map fun record => (record.aggregateId,itemsOf record) := by
  have before := attempt_whole first generation userId limit store
  dsimp only at before ⊢
  cases drafted : draft first generation userId limit store with
  | error rule =>
    rw [drafted] at before
    obtain ⟨raised,stored,quiet⟩ := before
    rw [stored]
    have after := attempt_whole second generation userId limit store
    have content := draft_content first second users games generation unexplained userId limit store
    rw [drafted] at content
    cases redrafted : draft second generation userId limit store with
    | ok others =>
      rw [redrafted] at content
      cases content
    | error other =>
      rw [redrafted] at content after
      cases content
      obtain ⟨again,kept,silent⟩ := after
      exact ⟨again.trans raised.symm,fun _ => by rw [kept],fun _ => by rw [kept],by rw [kept],by rw [kept],
        by rw [quiet,silent]⟩
  | ok kept =>
    rw [drafted] at before
    obtain ⟨returned,stored,released⟩ := before
    have after := attempt_whole second generation userId limit (kept.commit first userId store)
    have content := draft_content first second users games generation unexplained userId limit store
    rw [draft_again first second generation userId limit store kept drafted] at after
    rw [drafted] at content
    rw [stored]
    cases redrafted : draft second generation userId limit store with
    | error rule =>
      rw [redrafted] at content
      cases content
    | ok again =>
      rw [redrafted] at content after
      obtain ⟨reran,restored,rereleased⟩ := after
      have same : again.content = kept.content := Except.ok.inj content
      have preference : again.preference = kept.preference := congrArg Prod.fst same
      have items : again.items.map (fun item => unstamped item.toRecommendationFields) =
          kept.items.map fun item => unstamped item.toRecommendationFields := congrArg Prod.snd same
      have length := congrArg List.length items
      rw [List.length_map,List.length_map] at length
      refine ⟨?_,fun other => ?_,fun other => ?_,?_,?_,?_⟩
      · rw [reran,returned,length]
      · rw [restored]
        simp only [Draft.commit,Dict.get_set]
        split
        · exact congrArg some items
        · rfl
      · rw [restored]
        simp only [Draft.commit,Draft.preferences,preference,Table.get_update]
        cases kept.preference with
        | none => rfl
        | some preference =>
          dsimp only
          cases ((∅ : PreferenceTable R).upsert preference).get other <;> rfl
      · rw [restored]
        rfl
      · rw [restored]
        rfl
      · rw [released,rereleased,records_content,records_content,items]

end Memory

namespace Memory
attribute [local instance] Casing.unchanged

def raceStore : MemoryStore ℚ :=
  (Service.run deployed [racePublished,.ingest (.gamePublished ⟨3⟩ ⟨⟨2⟩⟩ ⟨⟨9⟩⟩ "Rally" ["racing"] [] none "") .fixed,
    racePurchased]).store

def laterEnvironment : Environment := { Environment.fixed with clock := fun reading => ⟨1000 + reading⟩ }

theorem generation_idempotent_later :
    ((attempt laterEnvironment none (GenerateRecommendations.execute { content := contentBasedScorer } ⟨⟨1⟩⟩ 10)
      (attempt .fixed none (GenerateRecommendations.execute { content := contentBasedScorer } ⟨⟨1⟩⟩ 10)
        raceStore).2.store).2.released.map fun record => (record.aggregateId,itemsOf record)) =
      ((attempt .fixed none (GenerateRecommendations.execute { content := contentBasedScorer } ⟨⟨1⟩⟩ 10)
        raceStore).2.released.map fun record => (record.aggregateId,itemsOf record)) ∧
    (attempt .fixed none (GenerateRecommendations.execute { content := contentBasedScorer } ⟨⟨1⟩⟩ 10)
      raceStore).2.released.length = 1 :=
  ⟨(generation_idempotent { content := contentBasedScorer } rfl ⟨⟨1⟩⟩ 10 raceStore .fixed laterEnvironment rfl rfl).2.2.2.2.2,
    by decide +kernel⟩

end Memory
end ArcadiaRecommendation
