import ArcadiaRecommendation.Memory.CoPurchases
import ArcadiaRecommendation.Sql.CoPurchases
import ArcadiaRecommendation.Sql.Session

/-! Co-purchases of either backend as headcounts of neighbours. -/
namespace ArcadiaRecommendation
section
variable {R : Type} [Scalar R] [DecidableEq R] [Casing] {width : Nat}

omit [DecidableEq R] in
private theorem Memory.coPurchases_headcount (environment : Environment) (store : MemoryStore R) (userId : UserId)
    (owned : Finset GameId) (limit : Nat) (room : (beyond (owns store) userId ↑owned).ncard ≤ limit) (gameId : GameId) :
    (coPurchases environment store userId owned limit).get gameId = headcount (owns store) userId ↑owned gameId := by
  have counted := headcount_selected _ (counter_distinct environment store userId owned)
    (mem_counter environment store userId owned) (fun first second => second.2 ≤ first.2) limit room gameId
  unfold coPurchases
  split
  · rename_i none
    subst none
    rw [Finset.coe_empty,headcount_empty]
    rfl
  · exact counted

omit [Casing] in
private theorem OwnershipTable.selfJoin_headcount (ownerships : OwnershipTable) (userId : UserId)
    (owned : Finset GameId) (limit : Nat) (room : (beyond ownerships.owns userId ↑owned).ncard ≤ limit)
    (gameId : GameId) :
    (ownerships.selfJoin userId owned limit).get gameId = headcount ownerships.owns userId ↑owned gameId := by
  have counted := headcount_selected _ (ownerships.grouped_distinct userId owned) (ownerships.mem_grouped userId owned)
    moreShared limit room gameId
  unfold selfJoin
  split
  · rename_i none
    subst none
    rw [Finset.coe_empty,headcount_empty]
    rfl
  · exact counted

/-- Where the limit leaves room for every game a neighbour owns, both backends answer how many
people own that game and one of the caller's. -/
theorem co_purchases_count_people (environment : Environment) (backend : Backend R) (store : MemoryStore R)
    (database : Database R width) (userId : UserId) (owned : List GameId) (limit : Nat) :
    ((beyond (Memory.owns store) userId {mine | mine ∈ owned}).ncard ≤ limit →
      ∃ counts : Dict GameId Int, Memory.answer environment store (.coPurchases userId owned.toFinset limit) = .ok counts ∧
        ∀ gameId, counts.get gameId = headcount (Memory.owns store) userId {mine | mine ∈ owned} gameId) ∧
    ((beyond database.ownerships.owns userId {mine | mine ∈ owned}).ncard ≤ limit →
      Sql.answer backend database (.coPurchases userId owned.toFinset limit) =
          .ok (database.ownerships.selfJoin userId owned.toFinset limit) ∧
        ∀ gameId, (database.ownerships.selfJoin userId owned.toFinset limit).get gameId =
          headcount database.ownerships.owns userId {mine | mine ∈ owned} gameId) := by
  have same : {mine | mine ∈ owned} = (↑owned.toFinset : Set GameId) := (List.coe_toFinset owned).symm
  rw [same]
  constructor
  · intro room
    exact ⟨_,rfl,Memory.coPurchases_headcount environment store userId owned.toFinset limit room⟩
  · intro room
    refine ⟨?_,database.ownerships.selfJoin_headcount userId owned.toFinset limit room⟩
    exact congrArg Except.ok (database.ownerships.coPurchases_joined userId owned.toFinset limit)

end

section
attribute [local instance] Casing.unchanged

def bookshelf : List OwnershipRow :=
  [⟨⟨⟨1⟩⟩,⟨⟨1⟩⟩,⟨0⟩,true⟩,⟨⟨⟨1⟩⟩,⟨⟨2⟩⟩,⟨1⟩,true⟩,⟨⟨⟨2⟩⟩,⟨⟨1⟩⟩,⟨2⟩,true⟩,⟨⟨⟨2⟩⟩,⟨⟨2⟩⟩,⟨3⟩,true⟩,⟨⟨⟨2⟩⟩,⟨⟨3⟩⟩,⟨4⟩,false⟩]

def shelvedStore : MemoryStore ℚ where
  ownerships := (bookshelf.map fun row => (row.userId,row.gameId,row.counted)).foldl Memory.recordRow ∅

def shelvedDatabase : Database ℚ 0 where
  ownerships := bookshelf.foldl OwnershipTable.record ∅

theorem co_purchases_count_people_shelved :
    (∃ counts : Dict GameId Int, Memory.answer .fixed shelvedStore (.coPurchases ⟨⟨3⟩⟩ [⟨⟨1⟩⟩,⟨⟨2⟩⟩].toFinset 5) = .ok counts ∧
      ∀ gameId, counts.get gameId = headcount (Memory.owns shelvedStore) ⟨⟨3⟩⟩ {mine | mine ∈ [⟨⟨1⟩⟩,⟨⟨2⟩⟩]} gameId) ∧
    Sql.answer (.fixed ℚ false) shelvedDatabase (.coPurchases ⟨⟨3⟩⟩ [⟨⟨1⟩⟩,⟨⟨2⟩⟩].toFinset 5) =
        .ok (shelvedDatabase.ownerships.selfJoin ⟨⟨3⟩⟩ [⟨⟨1⟩⟩,⟨⟨2⟩⟩].toFinset 5) ∧
      ∀ gameId, (shelvedDatabase.ownerships.selfJoin ⟨⟨3⟩⟩ [⟨⟨1⟩⟩,⟨⟨2⟩⟩].toFinset 5).get gameId =
        headcount shelvedDatabase.ownerships.owns ⟨⟨3⟩⟩ {mine | mine ∈ [⟨⟨1⟩⟩,⟨⟨2⟩⟩]} gameId := by
  have both := co_purchases_count_people .fixed (.fixed ℚ false) shelvedStore shelvedDatabase ⟨⟨3⟩⟩ [⟨⟨1⟩⟩,⟨⟨2⟩⟩] 5
  have games : shelvedStore.ownerships.keys.length ≤ 5 := by decide +kernel
  have rows : shelvedDatabase.ownerships.values.length ≤ 5 := by decide +kernel
  exact ⟨both.1 ((Memory.ncard_beyond _ _ _).trans games),both.2 ((OwnershipTable.ncard_beyond _ _ _).trans rows)⟩

/-- The third game is in the join twice, once for each game its owner shares with the caller. -/
example : (shelvedDatabase.ownerships.selfJoin ⟨⟨3⟩⟩ {⟨⟨1⟩⟩,⟨⟨2⟩⟩} 3).entries = [(⟨⟨3⟩⟩,1)] := by decide +kernel

end
end ArcadiaRecommendation
