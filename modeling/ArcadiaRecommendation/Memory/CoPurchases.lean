import ArcadiaRecommendation.Foundation.Neighbours
import ArcadiaRecommendation.Memory.Store

/-! What the counter of a unit of work holds, whatever the order in which sets hand out their
elements. -/
namespace ArcadiaRecommendation
namespace Memory
variable {R : Type} [Scalar R] [Casing]

def owns (store : MemoryStore R) (userId : UserId) (gameId : GameId) : Prop := userId ∈ ownersOf store gameId

theorem owns_iff (store : MemoryStore R) (userId : UserId) (gameId : GameId) :
    owns store userId gameId ↔ ∃ counted, ((store.ownerships.get gameId).getD ∅).get userId = some counted := by
  unfold owns ownersOf
  rw [List.mem_toFinset,Dict.mem_keys]

theorem ncard_beyond (store : MemoryStore R) (userId : UserId) (owned : Set GameId) :
    (beyond (owns store) userId owned).ncard ≤ store.ownerships.keys.length := by
  apply ncard_beyond_le
  intro other gameId has
  obtain ⟨counted,found⟩ := (owns_iff store other gameId).mp has
  cases known : store.ownerships.get gameId with
  | none =>
    rw [known] at found
    cases found
  | some owners => exact (store.ownerships.mem_keys gameId).mpr ⟨owners,known⟩

theorem mem_ownedBy (store : MemoryStore R) (userId : UserId) (gameId : GameId) :
    gameId ∈ ownedBy store userId ↔ owns store userId gameId := by
  unfold ownedBy Dict.contains
  simp only [List.mem_toFinset,List.mem_map,List.mem_filter,Option.isSome_iff_exists,owns_iff]
  constructor
  · rintro ⟨⟨game,owners⟩,⟨member,counted,found⟩,rfl⟩
    rw [(store.ownerships.mem_entries game owners).mp member]
    exact ⟨counted,found⟩
  · rintro ⟨counted,found⟩
    cases known : store.ownerships.get gameId with
    | none =>
      rw [known] at found
      cases found
    | some owners =>
      rw [known] at found
      exact ⟨(gameId,owners),⟨(store.ownerships.mem_entries gameId owners).mpr known,counted,found⟩,rfl⟩

def neighbours (environment : Environment) (store : MemoryStore R) (userId : UserId) (owned : Finset GameId) :
    Finset UserId :=
  (((environment.games.list owned).map (ownersOf store)).foldl (· ∪ ·) ∅).erase userId

/-- The games of the neighbours in the order in which they are counted. -/
def encountered (environment : Environment) (store : MemoryStore R) (userId : UserId) (owned : Finset GameId) :
    List GameId :=
  let neighbours := (((environment.games.list owned).map (ownersOf store)).foldl (· ∪ ·) ∅).erase userId
  (environment.users.list neighbours).flatMap fun neighbour => environment.games.list (ownedBy store neighbour \ owned)

def counter (environment : Environment) (store : MemoryStore R) (userId : UserId) (owned : Finset GameId) :
    Dict GameId Int :=
  (encountered environment store userId owned).foldl
    (fun counts gameId => counts.set gameId ((counts.get gameId).getD 0 + 1)) ∅

theorem counter_head (environment : Environment) (store : MemoryStore R) (userId : UserId) (owned : Finset GameId)
    (first : GameId) (rest : List GameId) (head : encountered environment store userId owned = first :: rest) :
    ∃ count later, (counter environment store userId owned).entries = (first,count) :: later := by
  obtain ⟨later,keys⟩ := Dict.keys_counted rest ((∅ : Dict GameId Int).set first 1)
  have listed : (counter environment store userId owned).keys = first :: later := by
    unfold counter
    rw [head]
    exact keys
  unfold Dict.keys at listed
  cases entries : (counter environment store userId owned).entries with
  | nil =>
    rw [entries] at listed
    cases listed
  | cons entry more =>
    rw [entries,List.map_cons] at listed
    exact ⟨entry.2,more,by rw [← (List.cons.inj listed).1]⟩

theorem mem_neighbours (environment : Environment) (store : MemoryStore R) (userId : UserId) (owned : Finset GameId)
    (neighbour : UserId) : neighbour ∈ neighbours environment store userId owned ↔
      neighbour ≠ userId ∧ ∃ gameId ∈ owned, owns store neighbour gameId := by
  have union (games : List GameId) (start : Finset UserId) :
      neighbour ∈ (games.map (ownersOf store)).foldl (· ∪ ·) start ↔
        neighbour ∈ start ∨ ∃ gameId ∈ games, owns store neighbour gameId := by
    induction games generalizing start with
    | nil => simp
    | cons gameId rest ih => simp [ih,or_assoc,owns]
  have members (gameId : GameId) : gameId ∈ environment.games.list owned ↔ gameId ∈ owned := by
    rw [← List.mem_toFinset,environment.games.members]
  rw [neighbours,Finset.mem_erase,union]
  simp only [Finset.notMem_empty,false_or,members]

private theorem count_encountered (environment : Environment) (store : MemoryStore R) (userId : UserId)
    (owned : Finset GameId) (gameId : GameId) (outside : gameId ∉ owned) :
    (encountered environment store userId owned).count gameId =
      (together (owns store) userId ↑owned gameId).ncard := by
  classical
  have near (neighbour : UserId) : neighbour ∈ environment.users.list (neighbours environment store userId owned) ↔
      neighbour ≠ userId ∧ ∃ mine ∈ (owned : Set GameId), owns store neighbour mine := by
    rw [← List.mem_toFinset,environment.users.members,mem_neighbours]
    rfl
  rw [ncard_together _ (environment.users.nodup _) near gameId (fun neighbour => decide (owns store neighbour gameId))
    fun _ => decide_eq_true_iff]
  show List.count gameId ((environment.users.list (neighbours environment store userId owned)).flatMap _) = _
  induction environment.users.list (neighbours environment store userId owned) with
  | nil => rfl
  | cons neighbour rest ih =>
    have once := environment.games.nodup (ownedBy store neighbour \ owned)
    have listed : gameId ∈ environment.games.list (ownedBy store neighbour \ owned) ↔ owns store neighbour gameId := by
      rw [← List.mem_toFinset,environment.games.members,Finset.mem_sdiff,mem_ownedBy]
      exact and_iff_left outside
    rw [List.flatMap_cons,List.count_append,List.countP_cons,ih,Nat.add_comm,once.count]
    simp only [listed,decide_eq_true_eq]

private theorem mem_encountered (environment : Environment) (store : MemoryStore R) (userId : UserId)
    (owned : Finset GameId) (gameId : GameId) : gameId ∈ encountered environment store userId owned ↔
      gameId ∈ beyond (owns store) userId (owned : Set GameId) := by
  show gameId ∈ (environment.users.list (neighbours environment store userId owned)).flatMap _ ↔ _
  rw [List.mem_flatMap]
  constructor
  · rintro ⟨neighbour,near,met⟩
    rw [← List.mem_toFinset,environment.users.members,mem_neighbours] at near
    rw [← List.mem_toFinset,environment.games.members,Finset.mem_sdiff,mem_ownedBy] at met
    exact ⟨met.2,neighbour,near.1,met.1,near.2⟩
  · rintro ⟨outside,neighbour,apart,has,mine⟩
    refine ⟨neighbour,?_,?_⟩
    · rw [← List.mem_toFinset,environment.users.members,mem_neighbours]
      exact ⟨apart,mine⟩
    · rw [← List.mem_toFinset,environment.games.members,Finset.mem_sdiff,mem_ownedBy]
      exact ⟨has,outside⟩

/-- The counter holds the headcount of every game. -/
theorem mem_counter (environment : Environment) (store : MemoryStore R) (userId : UserId) (owned : Finset GameId)
    (gameId : GameId) (count : Int) : (gameId,count) ∈ (counter environment store userId owned).entries ↔
      headcount (owns store) userId ↑owned gameId = some count := by
  have met := mem_encountered environment store userId owned gameId
  rw [Dict.mem_entries,counter,Dict.get_counted,headcount]
  by_cases inside : gameId ∈ beyond (owns store) userId (owned : Set GameId)
  · rw [if_pos (met.mpr inside),if_pos inside,count_encountered environment store userId owned gameId inside.1,
      Dict.get_empty,Option.getD_none,Int.zero_add]
  · rw [if_neg (mt met.mp inside),if_neg inside,Dict.get_empty]

theorem counter_distinct (environment : Environment) (store : MemoryStore R) (userId : UserId) (owned : Finset GameId) :
    ((counter environment store userId owned).entries.map Prod.fst).Nodup := Dict.distinct _

end Memory
end ArcadiaRecommendation
