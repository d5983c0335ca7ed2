import ArcadiaRecommendation.Memory.Ingest
import ArcadiaRecommendation.Application.Generate

/-! What the generation of one user's list does to the in-memory store, in closed form:
a draft computed from the store, and its commit. -/
namespace ArcadiaRecommendation
namespace Memory
variable {R : Type} [Scalar R] [Casing]

/-- What a generation stages. A cold user's preference is not written back. -/
structure Draft (R : Type) [Scalar R] where
  preference : Option (UserPreference R) := none
  items : List (Recommendation R) := []

def played (store : MemoryStore R) (preference : UserPreference R) : List (GameProfile R) :=
  preference.rememberedGames.filterMap store.games.get

def rebuilt (generation : Generation R) (store : MemoryStore R) (preference : UserPreference R) :
    Except InvariantViolation (UserPreference R) :=
  if generation.denseSpace then preference.rebuiltIn (GenerateRecommendations.space (played store preference))
  else .ok preference

def ranked (environment : Environment) (generation : Generation R) (userId : UserId) (limit : Nat)
    (store : MemoryStore R) (preference : UserPreference R) : List (ScoredGame R) :=
  HybridRanker.rank generation.content preference (recommendable store.games generation.catalogueLimit)
    (coPurchases environment store userId preference.owned Limits.maxCollaborativeCandidates) limit

def explained (environment : Environment) (generation : Generation R) (scored : List (ScoredGame R))
    (played : List (GameProfile R)) : List (ScoredGame R) :=
  if !generation.explanations || scored.isEmpty then scored
  else
    let reasons := environment.explain
      { liked := (played.take Limits.maxExplainedCandidates).map GenerateRecommendations.asExplained
        candidates := (scored.take Limits.maxExplainedCandidates).map fun item =>
          GenerateRecommendations.asExplained item.game }
    if reasons.entries.isEmpty then scored
    else scored.map fun item => { item with reasons := (reasons.get item.game.gameId).getD item.reasons }

theorem explained_off (environment : Environment) (generation : Generation R) (off : generation.explanations = false)
    (scored : List (ScoredGame R)) (played : List (GameProfile R)) :
    explained environment generation scored played = scored := by
  unfold explained
  rw [off]
  rfl

/-- The entry at one rank. The id source is asked once for each rank. -/
def entry (environment : Environment) (userId : UserId) (place : ScoredGame R × Nat) : RecommendationFields R where
  id := ⟨environment.ids (place.2 - 1)⟩
  userId := userId
  gameId := place.1.game.gameId
  score := HybridRanker.blend place.1.content place.1.collaborative
  source := place.1.source
  rank := place.2
  generatedAt := environment.clock 0
  reasons := place.1.reasons

def constructAll : List (RecommendationFields R) → Except InvariantViolation (List (Recommendation R))
  | [] => .ok []
  | fields :: rest =>
    match Recommendation.construct fields,constructAll rest with
    | .error rule,_ => .error rule
    | .ok _,.error rule => .error rule
    | .ok item,.ok items => .ok (item :: items)

def draft (environment : Environment) (generation : Generation R) (userId : UserId) (limit : Nat)
    (store : MemoryStore R) : Except InvariantViolation (Draft R) :=
  if (store.preferenceOf userId).isCold then .ok {}
  else
    match rebuilt generation store (store.preferenceOf userId) with
    | .error rule => .error rule
    | .ok preference =>
      let scored := explained environment generation (ranked environment generation userId limit store preference)
        (played store (store.preferenceOf userId))
      match constructAll ((scored.zipIdx 1).map (entry environment userId)) with
      | .error rule => .error rule
      | .ok items => .ok { preference := if generation.denseSpace then some preference else none, items }

namespace Draft

def event (environment : Environment) (userId : UserId) (draft : Draft R) : RecommendationGenerated R :=
  .of userId draft.items { eventId := environment.ids draft.items.length, occurredAt := environment.clock 1 }

/-- The records it enqueues: one event, unless the list is empty. -/
def records (environment : Environment) (userId : UserId) (draft : Draft R) : List (OutboxRecord R) :=
  if draft.items.isEmpty then [] else [outboxRecord environment (draft.event environment userId)]

def preferences (draft : Draft R) : PreferenceTable R :=
  match draft.preference with
  | none => ∅
  | some preference => (∅ : PreferenceTable R).upsert preference

def session (environment : Environment) (userId : UserId) (store : MemoryStore R) (readings issued : Nat)
    (draft : Draft R) : Session R where
  store := store
  preferences := draft.preferences
  recommendations := (∅ : Dict UserId (List (Recommendation R))).set userId draft.items
  events := draft.records environment userId
  readings := readings
  issued := issued

def commit (environment : Environment) (userId : UserId) (store : MemoryStore R) (draft : Draft R) : MemoryStore R :=
  { store with
    preferences := store.preferences.update draft.preferences
    recommendations := store.recommendations.set userId draft.items
    outbox := (draft.records environment userId).foldl (fun outbox record => outbox.set record.id record)
      store.outbox }

theorem applied_session (environment : Environment) (userId : UserId) (store : MemoryStore R) (readings issued : Nat)
    (draft : Draft R) : applied (draft.session environment userId store readings issued) =
      draft.commit environment userId store := by
  simp only [applied,session,commit,Table.update_empty,List.foldl_nil,Finset.union_empty,Dict.update_set_empty]

end Draft

theorem mem_recommendable (games : GameTable R) (limit : Nat) (game : GameProfile R)
    (member : game ∈ recommendable games limit) : games.get game.gameId = some game := by
  have found := (mem_sortedBy TopSellersProvider.precedes _ game).mp (List.mem_of_mem_take member)
  exact (games.mem_values game).mp (List.mem_filter.mp found).1

theorem selected_distinct (games : GameTable R) (test : GameProfile R → Bool) (limit : Nat) :
    (((sortedBy TopSellersProvider.precedes (games.values.filter test)).take limit).map
      fun game => game.gameId).Nodup := by
  have sorted := (List.perm_insertionSort TopSellersProvider.precedes (games.values.filter test)).map
    fun game : GameProfile R => game.gameId
  have values : (games.values.map fun game => game.gameId).Nodup := by
    rw [games.keys_values]
    exact games.keys_nodup
  have kept := sorted.nodup_iff.mpr (values.sublist (List.filter_sublist.map _))
  exact kept.sublist ((List.take_sublist limit _).map _)

theorem run_rebuilding (environment : Environment) (generation : Generation R) (store : MemoryStore R)
    (preference : UserPreference R) (session : Session R) :
    (GenerateRecommendations.rebuilt generation preference (played store preference)).run (handle environment)
      session =
      match rebuilt generation store preference with
      | .ok after => (.ok after,if generation.denseSpace then
          { session with preferences := session.preferences.upsert after } else session)
      | .error rule => (.error (.violation rule),session) := by
  unfold GenerateRecommendations.rebuilt rebuilt
  split
  · cases preference.rebuiltIn (GenerateRecommendations.space (played store preference)) <;> rfl
  · rfl

theorem run_explained (environment : Environment) (generation : Generation R) (scored : List (ScoredGame R))
    (played : List (GameProfile R)) (session : Session R) :
    (GenerateRecommendations.explained generation scored played).run (handle environment) session =
      (.ok (explained environment generation scored played),session) := by
  unfold GenerateRecommendations.explained explained
  split
  · rfl
  · simp only [Program.bind_eq,Program.pure_eq,Program.call_bind,Program.done_bind,Program.run_call,handle]
    split <;> rfl

theorem run_recommendations (environment : Environment) (userId : UserId) (scored : List (ScoredGame R))
    (session : Session R) :
    let run := (Program.forEach (GenerateRecommendations.recommendation userId (environment.clock 0))
      (scored.zipIdx (session.issued + 1))).run (handle environment) session
    match constructAll ((scored.zipIdx (session.issued + 1)).map (entry environment userId)) with
    | .ok items => run = (.ok items,{ session with issued := session.issued + scored.length })
    | .error rule => run.1 = .error (.violation rule) := by
  induction scored generalizing session with
  | nil => rfl
  | cons item rest ih =>
    have later := ih { session with issued := session.issued + 1 }
    simp only [List.zipIdx_cons,List.map_cons,Program.forEach,constructAll,GenerateRecommendations.recommendation,
      Program.bind_eq,Program.call_bind,Program.done_bind,Program.run_call,handle] at later ⊢
    have fields : entry environment userId (item,session.issued + 1) =
        { id := ⟨environment.ids session.issued⟩, userId, gameId := item.game.gameId,
          score := HybridRanker.blend item.content item.collaborative, source := item.source,
          rank := session.issued + 1, generatedAt := environment.clock 0, reasons := item.reasons } := rfl
    rw [← fields]
    cases Recommendation.construct (entry environment userId (item,session.issued + 1)) with
    | error rule => rfl
    | ok first =>
      simp only [check_ok,Program.done_bind,Program.run_bind]
      generalize (Program.forEach _ _).run (handle environment) { session with issued := session.issued + 1 } = ran
        at later
      cases built : constructAll ((rest.zipIdx (session.issued + 1 + 1)).map (entry environment userId)) with
      | error rule =>
        rw [built] at later
        obtain ⟨result,after⟩ := ran
        cases later
        rfl
      | ok items =>
        rw [built] at later
        cases later
        simp only [Program.run_done,List.length_cons]
        congr 2
        omega

omit [Casing] in
theorem constructAll_eq (fields : List (RecommendationFields R)) :
    constructAll fields = fields.mapM Recommendation.construct := by
  induction fields with
  | nil => rfl
  | cons first rest ih =>
    rw [List.mapM_cons,← ih,constructAll]
    cases Recommendation.construct first with
    | error rule => rfl
    | ok item => cases constructAll rest <;> rfl

omit [Casing] in
theorem constructAll_ok (fields : List (RecommendationFields R)) (items : List (Recommendation R))
    (built : constructAll fields = .ok items) : items.map (·.toRecommendationFields) = fields := by
  rw [constructAll_eq,mapM_ok_iff] at built
  induction built with
  | nil => rfl
  | @cons first item rest others made later ih =>
    rw [List.map_cons,ih,Recommendation.construct_ok first item made]

omit [Casing] in
private theorem constructAll_length (fields : List (RecommendationFields R)) (items : List (Recommendation R))
    (built : constructAll fields = .ok items) : items.length = fields.length := by
  rw [← constructAll_ok fields items built,List.length_map]

omit [Casing] in
theorem constructAll_accepts (fields : List (RecommendationFields R))
    (accepted : ∀ field ∈ fields, 1 ≤ field.rank ∧ Scalar.less field.score 0 = false) :
    ∃ items, constructAll fields = .ok items := by
  rw [constructAll_eq,mapM_total_iff]
  intro field member
  obtain ⟨low,nonnegative⟩ := accepted field member
  exact Recommendation.construct_accepts field low nonnegative

theorem explained_games (environment : Environment) (generation : Generation R) (scored : List (ScoredGame R))
    (played : List (GameProfile R)) :
    (explained environment generation scored played).map (fun item => (item.game,item.content,item.collaborative)) =
      scored.map fun item => (item.game,item.content,item.collaborative) := by
  unfold explained
  split
  · rfl
  · dsimp only
    split
    · rfl
    · rw [List.map_map]
      rfl

theorem mem_explained (environment : Environment) (generation : Generation R) (scored : List (ScoredGame R))
    (played : List (GameProfile R)) (item : ScoredGame R)
    (member : item ∈ explained environment generation scored played) :
    ∃ kept ∈ scored, kept.game = item.game ∧ kept.content = item.content ∧ kept.collaborative = item.collaborative := by
  have columns : (item.game,item.content,item.collaborative) ∈ (explained environment generation scored played).map
      fun item => (item.game,item.content,item.collaborative) := List.mem_map_of_mem member
  rw [explained_games] at columns
  obtain ⟨kept,inside,same⟩ := List.mem_map.mp columns
  have scores := congrArg Prod.snd same
  exact ⟨kept,inside,congrArg Prod.fst same,congrArg Prod.fst scores,congrArg Prod.snd scores⟩

theorem run_publish (environment : Environment) (userId : UserId) (items : List (Recommendation R))
    (session : Session R) (issued : session.issued = items.length) (read : session.readings = 1) :
    ∃ readings issued, (GenerateRecommendations.publish userId items).run (handle environment) session =
      (.ok (),{ session with
        events := session.events ++ ({ items } : Draft R).records environment userId, readings, issued }) := by
  unfold GenerateRecommendations.publish Draft.records
  split
  · exact ⟨session.readings,session.issued,by simp⟩
  · refine ⟨2,items.length + 1,?_⟩
    simp only [Stamps.next,Program.bind_eq,Program.pure_eq,Program.call_bind,Program.done_bind,Program.run_call,
      handle,issued,read]
    rfl

/-- Before its commit a generation has staged exactly its draft, or it raises what the draft raises. -/
theorem run_generation (environment : Environment) (generation : Generation R) (userId : UserId) (limit : Nat)
    (store : MemoryStore R) :
    let run := (GenerateRecommendations.generate generation userId limit).run (handle environment) { store }
    match draft environment generation userId limit store with
    | .ok draft => ∃ readings issued,
        run = (.ok draft.items.length,draft.session environment userId store readings issued)
    | .error rule => run.1 = .error (.violation rule) := by
  simp only [GenerateRecommendations.generate,preferenceOf,Program.bind_eq,Program.pure_eq,Program.call_bind,
    Program.done_bind,Program.run_call,handle,Table.get_empty,Option.none_or]
  unfold draft
  have cached : (store.preferences.get userId).getD (.blank userId) = store.preferenceOf userId := rfl
  rw [cached]
  by_cases cold : (store.preferenceOf userId).isCold = true
  · rw [if_pos cold,if_pos cold]
    exact ⟨0,0,rfl⟩
  rw [if_neg cold,if_neg cold]
  have reread : (store.preferenceOf userId).rememberedGames.filterMap (store.games.update ∅).get =
      played store (store.preferenceOf userId) := rfl
  simp only [Program.run_call,handle,reread,Program.run_bind,run_rebuilding]
  cases rebuilding : rebuilt generation store (store.preferenceOf userId) with
  | error rule => rfl
  | ok preference =>
    let staged : Draft R := { preference := if generation.denseSpace then some preference else none }
    have session : (if generation.denseSpace then
        { ({ store } : Session R) with preferences := (∅ : PreferenceTable R).upsert preference } else { store }) =
        { ({ store } : Session R) with preferences := staged.preferences } := by
      simp only [staged,Draft.preferences]
      split <;> rfl
    have table : store.games.update (∅ : GameTable R) = store.games := rfl
    have scored : HybridRanker.rank generation.content preference (recommendable store.games generation.catalogueLimit)
        (coPurchases environment store userId preference.owned Limits.maxCollaborativeCandidates) limit =
        ranked environment generation userId limit store preference := rfl
    simp only [session,table,run_explained,scored]
    generalize explained environment generation (ranked environment generation userId limit store preference)
      (played store (store.preferenceOf userId)) = list
    have built := run_recommendations environment userId list
      { store, preferences := staged.preferences, readings := 0 + 1 }
    dsimp only at built
    cases drafted : constructAll ((list.zipIdx 1).map (entry environment userId)) with
    | error rule =>
      rw [drafted] at built
      cases making : (Program.forEach (GenerateRecommendations.recommendation userId (environment.clock 0))
          (list.zipIdx 1)).run (handle environment) { store, preferences := staged.preferences, readings := 0 + 1 } with
      | mk result after =>
        rw [making] at built
        cases built
        rfl
    | ok items =>
      rw [drafted] at built
      have length : items.length = list.length := by
        rw [constructAll_length _ items drafted,List.length_map,List.length_zipIdx]
      obtain ⟨readings,issued,published⟩ := run_publish environment userId items
        { store, preferences := staged.preferences, readings := 1, issued := 0 + list.length,
          recommendations := (∅ : Dict UserId (List (Recommendation R))).set userId items }
        (by rw [length,Nat.zero_add]) rfl
      refine ⟨readings,issued,?_⟩
      rw [built]
      dsimp only
      rw [published]
      rfl

def Generating (userId : UserId) : Op R → Prop
  | .getPreference other => other = userId
  | .recommendable _ | .gamesByIds _ | .upsertPreference _ | .coPurchases _ _ _ | .replaceFor _ _ | .enqueue _ | .now
  | .newUuid | .explain _ => True
  | _ => False

private theorem plain_of_generating (userId : UserId) (op : Op R) (generating : Generating userId op) : Plain op := by
  cases op <;> first | exact generating.elim | trivial

private theorem generating_explained (userId : UserId) (generation : Generation R) (scored : List (ScoredGame R))
    (played : List (GameProfile R)) :
    (GenerateRecommendations.explained generation scored played).Only (Generating userId) := by
  unfold GenerateRecommendations.explained
  split
  · trivial
  refine ⟨trivial,fun reasons => ?_⟩
  show Program.Only (Generating userId) (if (Dict.entries reasons).isEmpty then _ else _)
  split <;> trivial

private theorem generating_rebuilt (userId : UserId) (generation : Generation R) (preference : UserPreference R)
    (played : List (GameProfile R)) :
    (GenerateRecommendations.rebuilt generation preference played).Only (Generating userId) := by
  unfold GenerateRecommendations.rebuilt
  split
  · apply Program.only_bind _ _ _ (Program.only_ofExcept (Generating userId) _)
    intro rebuilt
    exact ⟨trivial,fun _ => trivial⟩
  · trivial

private theorem generating_publish (userId : UserId) (items : List (Recommendation R)) :
    (GenerateRecommendations.publish userId items).Only (Generating userId) := by
  unfold GenerateRecommendations.publish
  split
  · trivial
  · exact ⟨trivial,fun _ => ⟨trivial,fun _ => ⟨trivial,fun _ => trivial⟩⟩⟩

theorem generating_generate (generation : Generation R) (userId : UserId) (limit : Nat) :
    (GenerateRecommendations.generate generation userId limit).Only (Generating userId) := by
  refine ⟨rfl,fun found => ?_⟩
  show Program.Only (Generating userId) (if UserPreference.isCold _ then _ else _)
  split
  · exact ⟨trivial,fun _ => trivial⟩
  refine ⟨trivial,fun played => ?_⟩
  apply Program.only_bind _ _ _ (generating_rebuilt userId generation _ played)
  intro rebuilt
  refine ⟨trivial,fun candidates => ⟨trivial,fun coPurchases => ?_⟩⟩
  apply Program.only_bind _ _ _ (generating_explained userId generation _ played)
  intro scored
  refine ⟨trivial,fun at_ => ?_⟩
  apply Program.only_bind (Generating userId)
    (Program.forEach (GenerateRecommendations.recommendation userId at_) (scored.zipIdx 1))
  · apply Program.only_forEach
    intro place member
    exact ⟨trivial,fun _ => Program.only_ofExcept (Generating userId) _⟩
  intro items
  refine ⟨trivial,fun replaced => ?_⟩
  apply Program.only_bind _ _ _ (generating_publish userId items)
  intro published
  trivial

theorem only_generate (generation : Generation R) (userId : UserId) (limit : Nat) :
    (GenerateRecommendations.generate generation userId limit).Only Plain :=
  Program.only_mono (Generating userId) Plain _ (plain_of_generating userId) (generating_generate generation userId limit)

theorem execute_generation (environment : Environment) (generation : Generation R) (userId : UserId) (limit : Nat)
    (store : MemoryStore R) :
    execute environment (GenerateRecommendations.execute generation userId limit) store =
      match draft environment generation userId limit store with
      | .ok draft => (.ok draft.items.length,draft.commit environment userId store)
      | .error rule => (.error (.violation rule),store) := by
  have staged := run_generation environment generation userId limit store
  cases drafted : draft environment generation userId limit store with
  | ok draft =>
    rw [drafted] at staged
    obtain ⟨readings,issued,ran⟩ := staged
    simp only [execute,GenerateRecommendations.execute,Program.bind_eq,Program.run_bind]
    rw [ran]
    exact Prod.ext rfl (draft.applied_session environment userId store readings issued)
  | error rule =>
    rw [drafted] at staged
    have raised : (execute environment (GenerateRecommendations.execute generation userId limit) store).1 =
        .error (.violation rule) := by
      simp only [execute,GenerateRecommendations.execute,Program.bind_eq,Program.run_bind]
      cases ran : (GenerateRecommendations.generate generation userId limit).run (handle environment) { store } with
      | mk result session =>
        rw [ran] at staged
        cases staged
        rfl
    have kept := execute_raised_plain environment _ (fun written => commit.bind fun _ => .done written)
      (only_generate generation userId limit) (fun _ _ => ⟨_,rfl⟩) store _ _ (Prod.ext raised rfl)
    exact Prod.ext raised kept

theorem rebuilt_ok (generation : Generation R) (store : MemoryStore R) (preference after : UserPreference R)
    (ok : rebuilt generation store preference = .ok after) :
    ∃ tasteDense, after = { preference with tasteDense := tasteDense } := by
  unfold rebuilt at ok
  split at ok
  · exact UserPreference.rebuiltIn_ok preference after _ ok
  · cases Except.ok.inj ok
    exact ⟨preference.tasteDense,rfl⟩

inductive Drafted (environment : Environment) (generation : Generation R) (userId : UserId) (limit : Nat)
    (store : MemoryStore R) : Draft R → Prop
  | cold (cold : (store.preferenceOf userId).isCold = true) : Drafted environment generation userId limit store {}
  | warm (preference : UserPreference R) (scored : List (ScoredGame R)) (items : List (Recommendation R))
      (warm : (store.preferenceOf userId).isCold = false)
      (rebuilt : rebuilt generation store (store.preferenceOf userId) = .ok preference)
      (same : scored.map (fun item => (item.game,item.content,item.collaborative)) =
        (ranked environment generation userId limit store preference).map
          fun item => (item.game,item.content,item.collaborative))
      (made : items.map (·.toRecommendationFields) = (scored.zipIdx 1).map (entry environment userId)) :
      Drafted environment generation userId limit store
        { preference := if generation.denseSpace then some preference else none, items }

theorem draft_drafted (environment : Environment) (generation : Generation R) (userId : UserId) (limit : Nat)
    (store : MemoryStore R) (drafted : Draft R) (ok : draft environment generation userId limit store = .ok drafted) :
    Drafted environment generation userId limit store drafted := by
  unfold draft at ok
  split at ok
  · rename_i cold
    cases Except.ok.inj ok
    exact .cold cold
  rename_i warm
  split at ok
  · cases ok
  rename_i preference rebuilding
  dsimp only at ok
  split at ok
  · cases ok
  rename_i items constructed
  cases Except.ok.inj ok
  exact .warm preference _ items (Bool.eq_false_of_not_eq_true warm) rebuilding (explained_games environment generation _ _)
    (constructAll_ok _ items constructed)

section Columns
variable {environment : Environment} {userId : UserId} {scored : List (ScoredGame R)} {items : List (Recommendation R)}

theorem made_column {A : Type}
    (made : items.map (·.toRecommendationFields) = (scored.zipIdx 1).map (entry environment userId))
    (column : RecommendationFields R → A) (score : ScoredGame R → A)
    (same : ∀ place, column (entry environment userId place) = score place.1) :
    items.map (fun item => column item.toRecommendationFields) = scored.map score := by
  have read : column ∘ entry environment userId = score ∘ Prod.fst := funext same
  calc items.map (fun item => column item.toRecommendationFields)
    _ = (items.map (·.toRecommendationFields)).map column := by rw [List.map_map]; rfl
    _ = ((scored.zipIdx 1).map Prod.fst).map score := by rw [made,List.map_map,List.map_map,read]
    _ = scored.map score := by rw [List.zipIdx_map_fst]

theorem made_ranks (made : items.map (·.toRecommendationFields) = (scored.zipIdx 1).map (entry environment userId)) :
    items.map (·.rank) = List.range' 1 items.length := by
  have columns := congrArg (List.map fun fields => fields.rank) made
  rw [List.map_map,List.map_map] at columns
  have length := congrArg List.length made
  rw [List.length_map,List.length_map,List.length_zipIdx] at length
  have read : (fun fields : RecommendationFields R => fields.rank) ∘ entry environment userId = Prod.snd := rfl
  rw [read,List.zipIdx_map_snd,← length] at columns
  exact columns

end Columns

/-- The games and scores of a draft are those of a ranking, its ranks count from one, and every
entry is the user's. -/
structure Draft.Lists (userId : UserId) (ranking : List (ScoredGame R)) (draft : Draft R) : Prop where
  entries : draft.items.map (fun item => (item.gameId,item.score)) =
    ranking.map fun item => (item.game.gameId,HybridRanker.blend item.content item.collaborative)
  ranks : draft.items.map (·.rank) = List.range' 1 draft.items.length
  users : ∀ item ∈ draft.items, item.userId = userId

theorem Drafted.lists {environment : Environment} {generation : Generation R} {userId : UserId} {limit : Nat}
    {store : MemoryStore R} {draft : Draft R} (drafted : Drafted environment generation userId limit store draft) :
    ∃ preference ranking, preference.owned = (store.preferenceOf userId).owned ∧
      (ranking = [] ∨ ranking = ranked environment generation userId limit store preference) ∧
      draft.Lists userId ranking := by
  cases drafted with
  | cold cold => exact ⟨_,[],rfl,.inl rfl,rfl,rfl,fun _ member => by cases member⟩
  | warm preference scored items warm rebuilding same made =>
    obtain ⟨tasteDense,columns⟩ := rebuilt_ok generation store _ preference rebuilding
    refine ⟨preference,_,by rw [columns],.inr rfl,?_,made_ranks made,?_⟩
    · have entries := made_column made (fun fields => (fields.gameId,fields.score))
        (fun item => (item.game.gameId,HybridRanker.blend item.content item.collaborative)) fun _ => rfl
      have ranked := congrArg (List.map fun entry : GameProfile R × R × R =>
        (entry.1.gameId,HybridRanker.blend entry.2.1 entry.2.2)) same
      rw [List.map_map,List.map_map] at ranked
      exact entries.trans ranked
    · intro item member
      have users := made_column made (fun fields => fields.userId) (fun _ => userId) fun _ => rfl
      have inside : item.userId ∈ items.map fun item => item.userId := List.mem_map_of_mem member
      rw [users] at inside
      exact (List.mem_map.mp inside).choose_spec.2.symm

theorem Drafted.preferences {environment : Environment} {generation : Generation R} {userId : UserId} {limit : Nat}
    {store : MemoryStore R} {draft : Draft R} (drafted : Drafted environment generation userId limit store draft)
    (other : UserId) (preference : UserPreference R) (staged : draft.preferences.get other = some preference) :
    other = userId ∧ ∃ current tasteDense, store.preferences.get userId = some current ∧
      preference = { current with tasteDense := tasteDense } := by
  cases drafted with
  | cold cold => cases staged
  | warm after scored items warm rebuilding same made =>
    unfold Draft.preferences at staged
    dsimp only at staged
    split at staged
    · cases staged
    · rename_i written dense
      have equal : after = written := by
        split at dense
        · exact Option.some.inj dense
        · cases dense
      rw [← equal] at staged
      rw [Table.get_upsert] at staged
      split at staged
      case isFalse => cases staged
      rename_i owner
      cases Option.some.inj staged
      obtain ⟨tasteDense,columns⟩ := rebuilt_ok generation store _ preference rebuilding
      cases known : store.preferences.get userId with
      | none =>
        unfold MemoryStore.preferenceOf at warm
        rw [known] at warm
        cases warm
      | some current =>
        have current_eq : store.preferenceOf userId = current := by
          unfold MemoryStore.preferenceOf
          rw [known,Option.getD_some]
        rw [current_eq] at columns
        refine ⟨?_,current,tasteDense,rfl,columns⟩
        rw [owner,columns]
        exact store.preferences.keyed userId current known

end Memory
end ArcadiaRecommendation
