import ArcadiaRecommendation.Memory.Store
import ArcadiaRecommendation.Sql.Database

/-! The owners of the two backends: a nested map with a flag for each owner, and a table whose rows
also hold when a game was acquired. Recording and counting keep the two alike. -/
namespace ArcadiaRecommendation

/-- The same owners with the same flags, in the order of `acquired_at`. -/
structure SameOwners (owners : Dict GameId (Dict UserId Bool)) (table : OwnershipTable) : Prop where
  flags : ∀ gameId userId, (table.get (userId,gameId)).map (·.counted) = ((owners.get gameId).getD ∅).get userId
  acquired : ∀ gameId, (((owners.get gameId).getD ∅).keys.filterMap fun userId =>
    (table.get (userId,gameId)).map (·.acquiredAt.micros)).Pairwise (· < ·)

theorem Memory.owners_recordRow (owners : Dict GameId (Dict UserId Bool)) (userId : UserId) (gameId other : GameId)
    (counted : Bool) : ((Memory.recordRow owners (userId,gameId,counted)).get other).getD ∅ =
      if other = gameId then ((owners.get gameId).getD ∅).set userId
        ((((owners.get gameId).getD ∅).get userId).getD false || counted)
      else (owners.get other).getD ∅ := by
  unfold Memory.recordRow
  rw [Dict.get_set]
  split <;> rfl

namespace SameOwners
variable {owners : Dict GameId (Dict UserId Bool)} {table : OwnershipTable}

private theorem recorded_flags (same : SameOwners owners table) (row : OwnershipRow) (gameId : GameId)
    (userId : UserId) : ((table.record row).get (userId,gameId)).map (·.counted) =
      (((Memory.recordRow owners (row.userId,row.gameId,row.counted)).get gameId).getD ∅).get userId := by
  rw [OwnershipTable.get_record,Memory.owners_recordRow]
  by_cases about : gameId = row.gameId
  · subst about
    rw [if_pos rfl,Dict.get_set]
    by_cases buyer : userId = row.userId
    · subst buyer
      rw [if_pos rfl,if_pos rfl,← same.flags]
      cases table.get (row.userId,row.gameId) <;> rfl
    · rw [if_neg buyer,if_neg fun equal => buyer (congrArg Prod.fst equal)]
      exact same.flags row.gameId userId
  · rw [if_neg about,if_neg fun equal => about (congrArg Prod.snd equal)]
    exact same.flags gameId userId

/-- A new row is the last of its game, and a row that is there keeps its moment. -/
theorem recorded (same : SameOwners owners table) (row : OwnershipRow)
    (latest : table.get (row.userId,row.gameId) = none → ∀ key stored, table.get key = some stored →
      stored.acquiredAt.micros < row.acquiredAt.micros) :
    SameOwners (Memory.recordRow owners (row.userId,row.gameId,row.counted)) (table.record row) := by
  refine ⟨same.recorded_flags row,fun gameId => ?_⟩
  have earlier := same.acquired gameId
  have others (userId : UserId) (apart : (userId,gameId) ≠ (row.userId,row.gameId)) :
      (table.record row).get (userId,gameId) = table.get (userId,gameId) := by
    rw [OwnershipTable.get_record,if_neg apart]
  rw [Memory.owners_recordRow]
  by_cases about : gameId = row.gameId
  · subst about
    rw [if_pos rfl,Dict.keys_set]
    have moments (userId : UserId) (known : userId ≠ row.userId ∨ (table.get (row.userId,row.gameId)).isSome) :
        ((table.record row).get (userId,row.gameId)).map (·.acquiredAt.micros) =
          (table.get (userId,row.gameId)).map (·.acquiredAt.micros) := by
      by_cases buyer : userId = row.userId
      · subst buyer
        obtain ⟨stored,found⟩ := Option.isSome_iff_exists.mp (known.resolve_left fun apart => apart rfl)
        rw [OwnershipTable.get_record,if_pos rfl,found]
        rfl
      · rw [others userId fun equal => buyer (congrArg Prod.fst equal)]
    split
    · rename_i inside
      obtain ⟨flag,present⟩ := (Dict.mem_keys _ row.userId).mp inside
      rw [← same.flags] at present
      obtain ⟨stored,found,_⟩ := Option.map_eq_some_iff.mp present
      have there : (table.get (row.userId,row.gameId)).isSome := by
        rw [found]
        rfl
      simp only [moments _ (.inr there)]
      exact earlier
    · rename_i outside
      have vacant : table.get (row.userId,row.gameId) = none := by
        have nothing := same.flags row.gameId row.userId
        rw [Dict.get_eq_none _ _ outside] at nothing
        exact Option.map_eq_none_iff.mp nothing
      have last : ((table.record row).get (row.userId,row.gameId)).map (·.acquiredAt.micros) =
          some row.acquiredAt.micros := by
        rw [OwnershipTable.get_record,if_pos rfl,vacant]
        rfl
      have before : (((owners.get row.gameId).getD ∅).keys.filterMap fun userId =>
          ((table.record row).get (userId,row.gameId)).map (·.acquiredAt.micros)) =
          ((owners.get row.gameId).getD ∅).keys.filterMap fun userId =>
            (table.get (userId,row.gameId)).map (·.acquiredAt.micros) := by
        apply List.filterMap_congr
        intro userId member
        exact moments userId (.inl fun equal => outside (equal ▸ member))
      rw [List.filterMap_append,before,List.filterMap_cons,last]
      refine List.pairwise_append.mpr ⟨earlier,List.pairwise_singleton _ _,?_⟩
      intro moment member newest only
      cases List.mem_singleton.mp only
      obtain ⟨userId,_,known⟩ := List.mem_filterMap.mp member
      obtain ⟨stored,found,moment⟩ := Option.map_eq_some_iff.mp known
      rw [← moment]
      exact latest vacant _ stored found
  · rw [if_neg about]
    have moments (userId : UserId) : ((table.record row).get (userId,gameId)).map (·.acquiredAt.micros) =
        (table.get (userId,gameId)).map (·.acquiredAt.micros) := by
      rw [others userId fun equal => about (congrArg Prod.snd equal)]
    simp only [moments]
    exact earlier

theorem marked (same : SameOwners owners table) (gameId : GameId) (userIds : List UserId)
    (present : ∀ userId ∈ userIds, (table.get (userId,gameId)).isSome) :
    SameOwners ((userIds.map fun userId => (userId,gameId,true)).foldl Memory.recordRow owners)
      (table.markCounted gameId userIds) := by
  unfold OwnershipTable.markCounted
  induction userIds generalizing owners table with
  | nil => exact same
  | cons userId rest ih =>
    obtain ⟨stored,found⟩ := Option.isSome_iff_exists.mp (present userId List.mem_cons_self)
    -- raising the flag of a row that is there is the upsert of a record
    let row : OwnershipRow := ⟨userId,gameId,stored.acquiredAt,true⟩
    have raised : table.upsert { stored with counted := true } = table.record row := by
      have here : table.get row.key = some stored := found
      unfold OwnershipTable.record
      rw [here]
      dsimp only [row]
      rw [Bool.or_true]
    rw [List.map_cons,List.foldl_cons,List.foldl_cons,found]
    dsimp only
    rw [raised]
    apply ih
    · apply same.recorded row
      intro vacant
      rw [found] at vacant
      cases vacant
    · intro other member
      rw [OwnershipTable.get_record]
      split
      · rfl
      · exact present other (List.mem_cons_of_mem userId member)

end SameOwners

namespace OwnershipTable

/-- Every moment at which a row was acquired has the property. -/
def Acquired (holds : DateTime → Prop) (table : OwnershipTable) : Prop :=
  ∀ key row, table.get key = some row → holds row.acquiredAt

theorem acquired_record (table : OwnershipTable) (row : OwnershipRow) (holds : DateTime → Prop)
    (before : table.Acquired holds) (now : holds row.acquiredAt) : (table.record row).Acquired holds := by
  intro key stored found
  rw [get_record] at found
  split at found
  · cases known : table.get key with
    | none =>
      rw [known] at found
      cases found
      exact now
    | some earlier =>
      rw [known] at found
      cases found
      exact before key earlier known
  · exact before key stored found

theorem acquired_marked (table : OwnershipTable) (gameId : GameId) (userIds : List UserId) (holds : DateTime → Prop)
    (before : table.Acquired holds) : (table.markCounted gameId userIds).Acquired holds := by
  unfold markCounted
  induction userIds generalizing table with
  | nil => exact before
  | cons userId rest ih =>
    rw [List.foldl_cons]
    apply ih
    intro other row known
    split at known
    · exact before other row known
    · rename_i earlier there
      rw [Table.get_upsert] at known
      split at known
      · cases known
        exact before _ earlier there
      · exact before other row known

end OwnershipTable
end ArcadiaRecommendation
