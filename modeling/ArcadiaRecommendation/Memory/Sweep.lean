import ArcadiaRecommendation.Memory.Refinement
import ArcadiaRecommendation.Memory.Generation

/-! The scheduled sweep over the in-memory backend, one unit of work or one provider
call at a time, and what its two kinds of transactions may change. -/
namespace ArcadiaRecommendation
variable {R : Type} [Scalar R] [Casing]

structure Refresh (R : Type) [Scalar R] [Casing] where
  generation : Generation R
  batchSize : Nat := 500
  /-- Whether an embedding pass is configured. -/
  embeds : Bool := true
  embeddingBatchSize : Nat := 32
  limit : Nat := Limits.defaultRecommendationCount

/-- Where a sweep stands between two of its awaits. -/
inductive Phase (R : Type) [Scalar R] [Casing]
  | starting
  | embedding (pending : List (GameProfile R))
  | storing (pending : List (GameProfile R)) (vectors : List (List R))
  | listing
  | generating (users : List UserId) (processed written : Nat)
  | finished (report : Except Fault RefreshReport)

namespace Memory

/-- The next part of the sweep. The provider answers with vectors, or raises. -/
def Phase.advance (refresh : Refresh R) (environment : Environment)
    (provider : List String → Except Fault (List (List R))) : Phase R → MemoryStore R → Phase R × MemoryStore R
  | .starting,store =>
    if !refresh.embeds then (.listing,store)
    else
      match execute environment (EmbedPendingGames.pending refresh.embeddingBatchSize) store with
      | (.ok [],after) => (.listing,after)
      | (.ok pending,after) => (.embedding pending,after)
      | (.error fault,after) => (.finished (.error fault),after)
  | .embedding pending,store =>
    match provider (pending.map (·.embeddingText)) with
    | .ok vectors => (.storing pending vectors,store)
    | .error _ => (.listing,store)
  | .storing pending vectors,store =>
    match execute environment (EmbedPendingGames.store pending vectors) store with
    | (.ok (),after) => (.listing,after)
    | (.error fault,after) => (.finished (.error fault),after)
  | .listing,store =>
    match execute environment (Preferences.withSignals refresh.batchSize) store with
    | (.ok users,after) => (.generating users 0 0,after)
    | (.error fault,after) => (.finished (.error fault),after)
  | .generating (userId :: users) processed written,store =>
    match execute environment (GenerateRecommendations.execute refresh.generation userId refresh.limit) store with
    | (.ok count,after) => (.generating users (processed + 1) (written + count),after)
    | (.error _,after) => (.generating users processed written,after)
  | .generating [] processed written,store =>
    (.finished (.ok
      { usersProcessed := processed, recommendationsWritten := written, generatedAt := environment.clock 0 }),store)
  | .finished report,store => (.finished report,store)

theorem Drafted.offered {environment : Environment} {generation : Generation R} {userId : UserId} {limit : Nat}
    {store : MemoryStore R} {draft : Draft R} (drafted : Drafted environment generation userId limit store draft) :
    ∀ item ∈ draft.items, store.readModel.Offered userId item.gameId := by
  intro item member
  obtain ⟨preference,ranking,owned,source,lists⟩ := drafted.lists
  have entry : (item.gameId,item.score) ∈ draft.items.map fun item => (item.gameId,item.score) :=
    List.mem_map_of_mem member
  rw [lists.entries] at entry
  obtain ⟨scored,kept,same⟩ := List.mem_map.mp entry
  rcases source with rfl | rfl
  · cases kept
  obtain ⟨candidate,published,unowned⟩ := HybridRanker.mem_rank _ _ _ _ _ scored kept
  have gameId : scored.game.gameId = item.gameId := congrArg Prod.fst same
  rw [gameId,owned] at unowned
  rw [← gameId]
  exact ⟨⟨scored.game,mem_recommendable _ _ _ candidate,published⟩,gameId ▸ unowned⟩

theorem execute_generated (environment : Environment) (generation : Generation R) (userId : UserId) (limit : Nat)
    (before after : MemoryStore R) (written : Nat)
    (ran : execute environment (GenerateRecommendations.execute generation userId limit) before =
      (.ok written,after)) :
    after.games = before.games ∧ after.ownerships = before.ownerships ∧
      before.readModel.Swept after.readModel := by
  rw [execute_generation] at ran
  split at ran
  case h_2 => cases ran
  rename_i made ok
  have drafted := draft_drafted environment generation userId limit before made ok
  cases ran
  refine ⟨rfl,rfl,fun _ => rfl,?_,rfl,?_,rfl⟩
  · intro other
    simp only [MemoryStore.readModel,Draft.commit,Table.get_update]
    cases staged : made.preferences.get other with
    | none => rfl
    | some preference =>
      obtain ⟨rfl,current,tasteDense,known,rfl⟩ := drafted.preferences other preference staged
      rw [known]
      rfl
  · intro other
    simp only [MemoryStore.readModel,Draft.commit,Dict.get_set]
    split
    · rename_i owner
      rw [owner]
      exact .inr drafted.offered
    · exact .inl rfl

theorem execute_generated_raised (environment : Environment) (generation : Generation R) (userId : UserId)
    (limit : Nat) (before after : MemoryStore R) (fault : Fault)
    (ran : execute environment (GenerateRecommendations.execute generation userId limit) before =
      (.error fault,after)) : after = before := by
  rw [execute_generation] at ran
  split at ran
  · cases ran
  · exact (congrArg Prod.snd ran).symm

theorem run_upsertEmbedded (environment : Environment) (pending : List (GameProfile R)) (vectors : List (List R))
    (session after : Session R)
    (ran : (EmbedPendingGames.upsertEmbedded pending vectors).run (handle environment) session = (.ok (),after)) :
    ∃ games, after = { session with games := games } ∧ ∀ gameId,
      (∃ pair ∈ pending.zip vectors, pair.1.gameId = gameId ∧ games.get gameId = some (pair.1.embedded ⟨pair.2⟩)) ∨
        (∀ game ∈ pending, game.gameId ≠ gameId) ∧ games.get gameId = session.games.get gameId := by
  induction pending generalizing vectors session with
  | nil =>
    cases vectors with
    | nil =>
      cases ran
      exact ⟨after.games,rfl,fun gameId => .inr ⟨fun _ member => (by cases member),rfl⟩⟩
    | cons values rest => cases ran
  | cons game games ih =>
    cases vectors with
    | nil => cases ran
    | cons values rest =>
      obtain ⟨written,same,rows⟩ := ih rest { session with games := session.games.upsert (game.embedded ⟨values⟩) } ran
      refine ⟨written,same,fun gameId => ?_⟩
      rw [List.zip_cons_cons]
      rcases rows gameId with ⟨pair,member,key,found⟩ | ⟨absent,found⟩
      · exact .inl ⟨pair,List.mem_cons_of_mem _ member,key,found⟩
      · rw [Table.get_upsert] at found
        split at found
        · rename_i key
          exact .inl ⟨(game,values),List.mem_cons_self,key.symm,found⟩
        · rename_i apart
          refine .inr ⟨?_,found⟩
          intro other member
          rcases List.mem_cons.mp member with rfl | later
          · exact fun key => apart key.symm
          · exact absent other later

theorem execute_embedded_zip (environment : Environment) (pending : List (GameProfile R)) (vectors : List (List R))
    (before after : MemoryStore R)
    (ran : execute environment (EmbedPendingGames.store pending vectors) before = (.ok (),after)) :
    ∃ games, after = { before with games := games } ∧ ∀ gameId,
      (∃ pair ∈ pending.zip vectors, pair.1.gameId = gameId ∧ games.get gameId = some (pair.1.embedded ⟨pair.2⟩)) ∨
        (∀ game ∈ pending, game.gameId ≠ gameId) ∧ games.get gameId = before.games.get gameId := by
  simp only [execute,EmbedPendingGames.store,Program.bind_eq,Program.run_bind] at ran
  split at ran
  case h_2 => cases ran
  rename_i nothing session storing
  obtain ⟨staged,same,rows⟩ := run_upsertEmbedded environment pending vectors _ session storing
  subst same
  cases ran
  refine ⟨before.games.update staged,?_,fun gameId => ?_⟩
  · show applied _ = _
    simp only [applied,Table.update_empty,List.foldl_nil,Finset.union_empty]
    rfl
  · rw [Table.get_update]
    rcases rows gameId with ⟨pair,member,key,found⟩ | ⟨absent,found⟩
    · exact .inl ⟨pair,member,key,by rw [found]; rfl⟩
    · exact .inr ⟨absent,by rw [found]; rfl⟩

theorem execute_embedded (environment : Environment) (pending : List (GameProfile R)) (vectors : List (List R))
    (before after : MemoryStore R)
    (ran : execute environment (EmbedPendingGames.store pending vectors) before = (.ok (),after)) :
    ∃ games, after = { before with games := games } ∧ ∀ gameId,
      (∃ game ∈ pending, game.gameId = gameId ∧ ∃ dense, games.get gameId = some (game.embedded dense)) ∨
        (∀ game ∈ pending, game.gameId ≠ gameId) ∧ games.get gameId = before.games.get gameId := by
  obtain ⟨games,same,rows⟩ := execute_embedded_zip environment pending vectors before after ran
  refine ⟨games,same,fun gameId => ?_⟩
  rcases rows gameId with ⟨pair,member,key,found⟩ | untouched
  · exact .inl ⟨pair.1,(List.of_mem_zip member).1,key,_,found⟩
  · exact .inr untouched

theorem only_upsertEmbedded (pending : List (GameProfile R)) (vectors : List (List R)) :
    (EmbedPendingGames.upsertEmbedded pending vectors).Only Plain := by
  induction pending generalizing vectors with
  | nil => cases vectors <;> trivial
  | cons game games ih =>
    cases vectors with
    | nil => trivial
    | cons values rest => exact ⟨trivial,fun _ => ih rest⟩

theorem execute_embedded_raised (environment : Environment) (pending : List (GameProfile R))
    (vectors : List (List R)) (before after : MemoryStore R) (fault : Fault)
    (ran : execute environment (EmbedPendingGames.store pending vectors) before = (.error fault,after)) :
    after = before :=
  execute_raised_plain environment _ _ (only_upsertEmbedded pending vectors) (fun _ _ => ⟨_,rfl⟩)
    before after fault ran

theorem execute_pending (environment : Environment) (batchSize : Nat) (store : MemoryStore R) :
    execute environment (EmbedPendingGames.pending batchSize) store =
      (.ok (needingEmbedding store.games batchSize),store) := rfl

theorem mem_needingEmbedding (games : GameTable R) (limit : Nat) (game : GameProfile R)
    (member : game ∈ needingEmbedding games limit) : games.get game.gameId = some game := by
  have found := (mem_sortedBy TopSellersProvider.precedes _ game).mp (List.mem_of_mem_take member)
  exact (games.mem_values game).mp (List.mem_filter.mp found).1

theorem needingEmbedding_distinct (games : GameTable R) (limit : Nat) :
    ((needingEmbedding games limit).map fun game => game.gameId).Nodup := selected_distinct games _ limit

theorem run_upsertEmbedded_iff (environment : Environment) (pending : List (GameProfile R)) (vectors : List (List R))
    (session : Session R) : (∃ after, (EmbedPendingGames.upsertEmbedded pending vectors).run (handle environment)
      session = (.ok (),after)) ↔ pending.length = vectors.length := by
  induction pending generalizing vectors session with
  | nil =>
    cases vectors with
    | nil => exact ⟨fun _ => rfl,fun _ => ⟨session,rfl⟩⟩
    | cons values rest =>
      constructor
      · intro ran
        obtain ⟨after,ran⟩ := ran
        cases ran
      · intro same
        cases same
  | cons game games ih =>
    cases vectors with
    | nil =>
      constructor
      · intro ran
        obtain ⟨after,ran⟩ := ran
        cases ran
      · intro same
        cases same
    | cons values rest =>
      rw [List.length_cons,List.length_cons,Nat.add_right_cancel_iff,← ih rest]
      rfl

/-- The write phase commits exactly when the provider answered with one vector for each text. -/
theorem execute_embedded_iff (environment : Environment) (pending : List (GameProfile R)) (vectors : List (List R))
    (before : MemoryStore R) : (∃ after, execute environment (EmbedPendingGames.store pending vectors) before =
      (.ok (),after)) ↔ pending.length = vectors.length := by
  rw [← run_upsertEmbedded_iff environment pending vectors { store := before }]
  simp only [execute,EmbedPendingGames.store,Program.bind_eq,Program.run_bind]
  cases (EmbedPendingGames.upsertEmbedded pending vectors).run (handle environment) { store := before } with
  | mk result session =>
    cases result with
    | ok done => exact ⟨fun _ => ⟨session,rfl⟩,fun _ => ⟨_,rfl⟩⟩
    | error fault =>
      constructor
      · intro ran
        obtain ⟨after,ran⟩ := ran
        cases ran
      · intro ran
        obtain ⟨after,ran⟩ := ran
        cases ran

end Memory
end ArcadiaRecommendation
