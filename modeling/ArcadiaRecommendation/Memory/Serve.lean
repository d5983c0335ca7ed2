import ArcadiaRecommendation.Memory.Sweep
import ArcadiaRecommendation.Application.Serve

/-! A read over the in-memory backend: it never raises, never writes, and answers from
the stored list, or from the published games the user does not own. -/
namespace ArcadiaRecommendation
namespace Memory
variable {R : Type} [Scalar R] [Casing]

def listed (store : MemoryStore R) (userId : UserId) (limit : Nat) : List (Recommendation R) :=
  (sortedBy (fun first second => first.rank ≤ second.rank) ((store.recommendations.get userId).getD [])).take limit

theorem listed_stored (store : MemoryStore R) (userId : UserId) (limit : Nat) (item : Recommendation R)
    (member : item ∈ listed store userId limit) : item ∈ store.readModel.stored userId :=
  (mem_sortedBy _ _ item).mp (List.mem_of_mem_take member)

theorem listed_empty (store : MemoryStore R) (userId : UserId) (limit : Nat)
    (empty : store.readModel.stored userId = []) : listed store userId limit = [] := by
  apply List.eq_nil_iff_forall_not_mem.mpr
  intro item member
  have stored := listed_stored store userId limit item member
  rw [empty] at stored
  cases stored

theorem execute_serve_stored (environment : Environment) (store : MemoryStore R) (userId : UserId) (limit : Nat)
    (first : Recommendation R) (rest : List (Recommendation R)) (stored : listed store userId limit = first :: rest) :
    execute environment (ServeRecommendations.execute userId limit) store =
      (.ok {
        userId := userId.str
        source := ServeRecommendations.dominantSource (first :: rest)
        generatedAt := some first.generatedAt
        items := ArcadiaRecommendation.itemsOf (first :: rest)
          (((first :: rest).map fun item => item.gameId).filterMap store.games.get) },
        store) := by
  have read : forUser ({ store } : Session R) userId limit = first :: rest := stored
  simp only [execute,ServeRecommendations.execute,Program.bind_eq,Program.pure_eq,Program.call_bind,
    Program.done_bind,Program.run_call,handle,read]
  rfl

theorem execute_serve_fallback (environment : Environment) (store : MemoryStore R) (userId : UserId) (limit : Nat)
    (nothing : listed store userId limit = []) :
    ∃ response, execute environment (ServeRecommendations.execute userId limit) store = (.ok response,store) ∧
      response.source = .fallback ∧ response.items.map (fun item => item.gameId) =
        (TopSellersProvider.rank (recommendable store.games (max (limit * 4) limit)) (store.preferenceOf userId)
          limit).map (fun game => game.gameId.str) ∧
      response.items.map (fun item => item.rank) = List.range' 1 response.items.length ∧
      ∀ item ∈ response.items, item.source = .fallback := by
  have read : forUser ({ store } : Session R) userId limit = [] := nothing
  simp only [execute,ServeRecommendations.execute,ServeRecommendations.fallbackResponse,preferenceOf,
    Program.bind_eq,Program.pure_eq,Program.call_bind,Program.done_bind,Program.run_call,handle,read]
  refine ⟨_,rfl,rfl,?_,?_,?_⟩
  · rw [List.map_map]
    have ranked (top : List (GameProfile R)) :
        (top.zipIdx 1).map (fun entry => entry.1.gameId.str) = top.map fun game => game.gameId.str := by
      have games := congrArg (List.map fun game : GameProfile R => game.gameId.str) (List.zipIdx_map_fst 1 top)
      rwa [List.map_map] at games
    exact ranked _
  · rw [List.map_map,List.length_map,List.length_zipIdx]
    exact List.zipIdx_map_snd 1 _
  · intro item member
    obtain ⟨entry,_,rfl⟩ := List.mem_map.mp member
    rfl

/-- Every item served is about a game of the stored list, or about one that is published
and not owned now. -/
theorem execute_serve (environment : Environment) (store : MemoryStore R) (userId : UserId) (limit : Nat) :
    ∃ response, execute environment (ServeRecommendations.execute userId limit) store = (.ok response,store) ∧
      ∀ item ∈ response.items, ∃ gameId : GameId, item.gameId = gameId.str ∧
        if listed store userId limit = [] then store.readModel.Offered userId gameId
        else ∃ kept ∈ store.readModel.stored userId, kept.gameId = gameId := by
  cases stored : listed store userId limit with
  | nil =>
    obtain ⟨response,ran,_,games,_⟩ := execute_serve_fallback environment store userId limit stored
    refine ⟨response,ran,?_⟩
    intro item member
    have named : item.gameId ∈ response.items.map fun item => item.gameId := List.mem_map_of_mem member
    rw [games] at named
    obtain ⟨game,ranked,same⟩ := List.mem_map.mp named
    obtain ⟨candidate,published,unowned⟩ := TopSellersProvider.mem_rank _ _ _ game ranked
    refine ⟨game.gameId,same.symm,?_⟩
    rw [if_pos rfl]
    exact ⟨⟨game,mem_recommendable _ _ game candidate,published⟩,unowned⟩
  | cons first rest =>
    refine ⟨_,execute_serve_stored environment store userId limit first rest stored,?_⟩
    intro item member
    obtain ⟨kept,inside,same⟩ := List.mem_map.mp member
    refine ⟨kept.gameId,by rw [← same]; rfl,?_⟩
    rw [if_neg (List.cons_ne_nil first rest)]
    exact ⟨kept,listed_stored store userId limit kept (stored ▸ inside),rfl⟩

end Memory
end ArcadiaRecommendation
