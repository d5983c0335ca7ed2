import ArcadiaRecommendation.Foundation.Neighbours
import ArcadiaRecommendation.Sql.Database

/-! The self-join over the ownership rows, row by row, and the summary of it by neighbour. -/
namespace ArcadiaRecommendation
namespace OwnershipTable

def owns (ownerships : OwnershipTable) (userId : UserId) (gameId : GameId) : Prop :=
  ownerships.contains (userId,gameId) = true

theorem mem_contains (ownerships : OwnershipTable) (userId : UserId) (gameId : GameId) :
    ownerships.contains (userId,gameId) = true ↔ ∃ row ∈ ownerships.values, row.userId = userId ∧ row.gameId = gameId := by
  unfold Dict.contains
  rw [Option.isSome_iff_exists]
  constructor
  · rintro ⟨row,found⟩
    have key := ownerships.keyed _ row found
    refine ⟨row,(ownerships.mem_values row).mpr ?_,congrArg Prod.fst key,congrArg Prod.snd key⟩
    rw [key]
    exact found
  · rintro ⟨row,member,rfl,rfl⟩
    exact ⟨row,(ownerships.mem_values row).mp member⟩

theorem ncard_beyond (ownerships : OwnershipTable) (userId : UserId) (owned : Set GameId) :
    (beyond ownerships.owns userId owned).ncard ≤ ownerships.values.length := by
  rw [← List.length_map (·.gameId)]
  apply ncard_beyond_le
  intro other gameId has
  obtain ⟨row,member,_,same⟩ := (ownerships.mem_contains other gameId).mp has
  exact List.mem_map.mpr ⟨row,member,same⟩

theorem mem_neighbours (ownerships : OwnershipTable) (userId : UserId) (owned : Finset GameId) (neighbour : UserId) :
    neighbour ∈ ownerships.neighbours userId owned ↔ neighbour ≠ userId ∧ ∃ gameId ∈ owned, ownerships.owns neighbour gameId := by
  simp only [neighbours,owns,List.mem_dedup,List.mem_map,List.mem_filter,decide_eq_true_eq,mem_contains]
  constructor
  · rintro ⟨row,⟨member,inside,apart⟩,rfl⟩
    exact ⟨apart,row.gameId,inside,row,member,rfl,rfl⟩
  · rintro ⟨apart,gameId,inside,row,member,rfl,rfl⟩
    exact ⟨row,⟨member,inside,apart⟩,rfl⟩

/-- The games outside the list that a neighbour owns, each with the number of neighbours who do. -/
def shared (ownerships : OwnershipTable) (userId : UserId) (owned : Finset GameId) : List (GameId × Int) :=
  let near := ownerships.neighbours userId owned
  ((ownerships.values.filter fun row => row.userId ∈ near ∧ row.gameId ∉ owned).map (·.gameId)).dedup.map
    fun gameId => (gameId,((near.filter fun neighbour => ownerships.contains (neighbour,gameId)).length : Int))

theorem shared_distinct (ownerships : OwnershipTable) (userId : UserId) (owned : Finset GameId) :
    ((ownerships.shared userId owned).map Prod.fst).Nodup := by
  have read : Prod.fst ∘ (fun gameId => (gameId,(((ownerships.neighbours userId owned).filter fun neighbour =>
      ownerships.contains (neighbour,gameId)).length : Int))) = id := rfl
  rw [shared,List.map_map,read,List.map_id]
  exact List.nodup_dedup _

theorem mem_shared (ownerships : OwnershipTable) (userId : UserId) (owned : Finset GameId) (gameId : GameId) (count : Int) :
    (gameId,count) ∈ ownerships.shared userId owned ↔ headcount ownerships.owns userId ↑owned gameId = some count := by
  have people := ncard_together (ownerships.neighbours userId owned) (List.nodup_dedup _)
    (ownerships.mem_neighbours userId owned) gameId (fun neighbour => ownerships.contains (neighbour,gameId)) fun _ => Iff.rfl
  rw [headcount_eq_some,people]
  simp only [shared,List.mem_map,List.mem_dedup,List.mem_filter,decide_eq_true_eq,Prod.mk.injEq,
    ← List.countP_eq_length_filter]
  constructor
  · rintro ⟨_,⟨row,⟨member,near,outside⟩,rfl⟩,rfl,rfl⟩
    obtain ⟨apart,mine⟩ := (ownerships.mem_neighbours userId owned row.userId).mp near
    exact ⟨⟨outside,row.userId,apart,(ownerships.mem_contains _ _).mpr ⟨row,member,rfl,rfl⟩,mine⟩,rfl⟩
  · rintro ⟨⟨outside,neighbour,apart,has,mine⟩,rfl⟩
    have near := (ownerships.mem_neighbours userId owned neighbour).mpr ⟨apart,mine⟩
    obtain ⟨row,member,rfl,rfl⟩ := (ownerships.mem_contains _ _).mp has
    exact ⟨row.gameId,⟨row,⟨member,near,outside⟩,rfl⟩,rfl,rfl⟩

/-- `ORDER BY count(*) DESC, game_id` -/
def moreShared (first second : GameId × Int) : Prop :=
  second.2 < first.2 ∨ first.2 = second.2 ∧ first.1.str ≤ second.1.str

instance : DecidableRel moreShared := fun _ _ => inferInstanceAs (Decidable (_ ∨ _))

theorem moreShared_preorders : Preorders moreShared :=
  Preorders.byCount (fun entry : GameId × Int => entry.2) (fun first second => first.1.str ≤ second.1.str)
    (Preorders.of_text _)

private theorem moreShared_separates (entries : List (GameId × Int)) (distinct : (entries.map Prod.fst).Nodup) :
    Separates moreShared entries := by
  intro first inFirst second inSecond left right
  have text := byCount_tied (fun entry : GameId × Int => entry.2) (fun first second => first.1.str ≤ second.1.str) first
    second left right
  exact List.inj_on_of_nodup_map distinct inFirst inSecond
    (GameId.str_injective _ _ (String.le_antisymm text.1 text.2))

/-- Each pair of rows `mine JOIN theirs ON mine.user_id = theirs.user_id` that the WHERE clause keeps. -/
def joined (ownerships : OwnershipTable) (userId : UserId) (owned : Finset GameId) : List (OwnershipRow × OwnershipRow) :=
  ownerships.values.flatMap fun mine => (ownerships.values.filter fun theirs =>
    mine.userId = theirs.userId ∧ mine.gameId ∈ owned ∧ mine.userId ≠ userId ∧ theirs.gameId ∉ owned).map fun theirs =>
      (mine,theirs)

/-- `SELECT theirs.game_id, count(DISTINCT theirs.user_id) ... GROUP BY theirs.game_id` -/
def grouped (ownerships : OwnershipTable) (userId : UserId) (owned : Finset GameId) : List (GameId × Int) :=
  let rows := ownerships.joined userId owned
  (rows.map (·.2.gameId)).dedup.map fun gameId =>
    (gameId,(((rows.filter fun row => row.2.gameId = gameId).map (·.2.userId)).dedup.length : Int))

def selfJoin (ownerships : OwnershipTable) (userId : UserId) (owned : Finset GameId) (limit : Nat) : Dict GameId Int :=
  if owned = ∅ then ∅ else .ofList ((sortedBy moreShared (ownerships.grouped userId owned)).take limit)

theorem mem_joined (ownerships : OwnershipTable) (userId : UserId) (owned : Finset GameId) (other : UserId)
    (gameId : GameId) : (∃ row ∈ ownerships.joined userId owned, row.2.userId = other ∧ row.2.gameId = gameId) ↔
      gameId ∉ owned ∧ other ∈ together ownerships.owns userId ↑owned gameId := by
  simp only [joined,List.mem_flatMap,List.mem_map,List.mem_filter,decide_eq_true_eq]
  constructor
  · rintro ⟨_,⟨mine,inMine,theirs,⟨inTheirs,same,inside,apart,outside⟩,rfl⟩,rfl,rfl⟩
    refine ⟨outside,same ▸ apart,(ownerships.mem_contains _ _).mpr ⟨theirs,inTheirs,rfl,rfl⟩,mine.gameId,inside,?_⟩
    exact (ownerships.mem_contains _ _).mpr ⟨mine,inMine,same,rfl⟩
  · rintro ⟨outside,apart,has,played,inside,both⟩
    obtain ⟨theirs,inTheirs,rfl,rfl⟩ := (ownerships.mem_contains _ _).mp has
    obtain ⟨mine,inMine,same,rfl⟩ := (ownerships.mem_contains _ _).mp both
    exact ⟨_,⟨mine,inMine,theirs,⟨inTheirs,same,inside,same ▸ apart,outside⟩,rfl⟩,rfl,rfl⟩

theorem grouped_distinct (ownerships : OwnershipTable) (userId : UserId) (owned : Finset GameId) :
    ((ownerships.grouped userId owned).map Prod.fst).Nodup := by
  unfold grouped
  rw [List.map_map]
  show (List.map id _).Nodup
  rw [List.map_id]
  exact List.nodup_dedup _

theorem mem_grouped (ownerships : OwnershipTable) (userId : UserId) (owned : Finset GameId) (gameId : GameId) (count : Int) :
    (gameId,count) ∈ ownerships.grouped userId owned ↔ headcount ownerships.owns userId ↑owned gameId = some count := by
  have people (outside : gameId ∉ owned) : (together ownerships.owns userId ↑owned gameId).ncard =
      ((((ownerships.joined userId owned).filter fun row => row.2.gameId = gameId).map (·.2.userId)).dedup).length := by
    have listed : together ownerships.owns userId ↑owned gameId =
        ↑((((ownerships.joined userId owned).filter fun row => row.2.gameId = gameId).map (·.2.userId)).toFinset) := by
      ext other
      rw [List.coe_toFinset,Set.mem_ofPred_eq]
      simp only [List.mem_map,List.mem_filter,decide_eq_true_eq]
      have pairs := ownerships.mem_joined userId owned other gameId
      constructor
      · intro inside
        obtain ⟨row,member,user,game⟩ := pairs.mpr ⟨outside,inside⟩
        exact ⟨row,⟨member,game⟩,user⟩
      · rintro ⟨row,⟨member,game⟩,user⟩
        exact (pairs.mp ⟨row,member,user,game⟩).2
    rw [listed,Set.ncard_coe_finset,List.card_toFinset]
  rw [headcount_eq_some]
  simp only [grouped,List.mem_map,List.mem_dedup,Prod.mk.injEq]
  constructor
  · rintro ⟨_,⟨row,member,rfl⟩,rfl,rfl⟩
    obtain ⟨outside,inside⟩ := (ownerships.mem_joined userId owned row.2.userId _).mp ⟨row,member,rfl,rfl⟩
    exact ⟨⟨outside,row.2.userId,inside⟩,by rw [people outside]⟩
  · rintro ⟨⟨outside,other,inside⟩,rfl⟩
    obtain ⟨row,member,_,game⟩ := (ownerships.mem_joined userId owned other gameId).mpr ⟨outside,inside⟩
    exact ⟨gameId,⟨row,member,game⟩,rfl,by rw [people outside]⟩

/-- The summary by neighbour is the self-join. -/
theorem coPurchases_joined (ownerships : OwnershipTable) (userId : UserId) (owned : Finset GameId) (limit : Nat) :
    ownerships.coPurchases userId owned limit = ownerships.selfJoin userId owned limit := by
  have permuted : (ownerships.shared userId owned).Perm (ownerships.grouped userId owned) := by
    rw [List.perm_ext_iff_of_nodup (ownerships.shared_distinct userId owned).of_map
      (ownerships.grouped_distinct userId owned).of_map]
    rintro ⟨gameId,count⟩
    rw [mem_shared,mem_grouped]
  have sorted := moreShared_preorders.selected_perm limit _ _ permuted
    (moreShared_separates _ (ownerships.shared_distinct userId owned))
  unfold selfJoin
  split
  · rename_i none
    exact if_pos none
  · rename_i some_
    exact (if_neg some_).trans (congrArg Dict.ofList sorted)

end OwnershipTable
end ArcadiaRecommendation
