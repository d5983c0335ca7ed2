import ArcadiaRecommendation.Foundation.Dict
import ArcadiaRecommendation.Foundation.Selection
import Mathlib.Data.Set.Card

/-! Who owns two things at once, counted by owner, and when a bounded selection of such counts is
the whole count. -/
namespace ArcadiaRecommendation
variable {U G : Type} (owns : U → G → Prop) (user : U) (own : Set G)

/-- The other owners of an item who own something of a set too. -/
def together (item : G) : Set U := {other | other ≠ user ∧ owns other item ∧ ∃ mine ∈ own, owns other mine}

def beyond : Set G := {item | item ∉ own ∧ (together owns user own item).Nonempty}

open Classical in
/-- The number of people for each item beyond the set, and nothing for any other. -/
noncomputable def headcount (item : G) : Option Int :=
  if item ∈ beyond owns user own then some (together owns user own item).ncard else none

variable {owns user own}

theorem headcount_eq_some (item : G) (count : Int) : headcount owns user own item = some count ↔
    item ∈ beyond owns user own ∧ count = (together owns user own item).ncard := by
  unfold headcount
  split
  · rename_i inside
    rw [Option.some_inj]
    exact ⟨fun same => ⟨inside,same.symm⟩,fun both => both.2.symm⟩
  · rename_i out
    exact ⟨fun nothing => (by cases nothing),fun both => absurd both.1 out⟩

theorem headcount_empty (item : G) : headcount owns user ∅ item = none := by
  unfold headcount
  rw [if_neg]
  rintro ⟨_,_,_,_,_,nothing,_⟩
  exact nothing

theorem ncard_beyond_le (items : List G) (known : ∀ other item, owns other item → item ∈ items) :
    (beyond owns user own).ncard ≤ items.length := by
  classical
  have inside : beyond owns user own ⊆ ↑items.toFinset := by
    rintro item ⟨_,other,_,has,_⟩
    exact List.mem_toFinset.mpr (known other item has)
  calc (beyond owns user own).ncard
    _ ≤ (items.toFinset : Set G).ncard := Set.ncard_le_ncard inside (Finset.finite_toSet _)
    _ = items.toFinset.card := Set.ncard_coe_finset _
    _ ≤ items.length := items.toFinset_card_le

theorem ncard_together (others : List U) (distinct : others.Nodup)
    (near : ∀ other, other ∈ others ↔ other ≠ user ∧ ∃ mine ∈ own, owns other mine) (item : G) (test : U → Bool)
    (has : ∀ other, test other = true ↔ owns other item) :
    (together owns user own item).ncard = others.countP test := by
  classical
  have listed : together owns user own item = ↑(others.filter test).toFinset := by
    ext other
    rw [List.coe_toFinset,Set.mem_ofPred_eq,List.mem_filter,near,has]
    exact ⟨fun ⟨apart,both,mine⟩ => ⟨⟨apart,mine⟩,both⟩,fun ⟨⟨apart,mine⟩,both⟩ => ⟨apart,both,mine⟩⟩
  rw [listed,Set.ncard_coe_finset,List.toFinset_card_of_nodup (distinct.sublist List.filter_sublist),
    List.countP_eq_length_filter]

theorem headcount_selected [DecidableEq G] (entries : List (G × Int)) (distinct : (entries.map Prod.fst).Nodup)
    (counts : ∀ item count, (item,count) ∈ entries ↔ headcount owns user own item = some count)
    (before : G × Int → G × Int → Prop) [DecidableRel before] (limit : Nat)
    (room : (beyond owns user own).ncard ≤ limit) (item : G) :
    (Dict.ofList (selected before limit entries)).get item = headcount owns user own item := by
  have keys : beyond owns user own = ↑(entries.map Prod.fst).toFinset := by
    ext other
    rw [List.coe_toFinset,Set.mem_ofPred_eq (p := fun known => known ∈ entries.map Prod.fst)]
    constructor
    · intro member
      exact List.mem_map.mpr ⟨_,(counts other _).mpr (if_pos member),rfl⟩
    · intro listed
      obtain ⟨⟨_,count⟩,member,rfl⟩ := List.mem_map.mp listed
      by_contra out
      have nothing := (counts _ count).mp member
      rw [headcount,if_neg out] at nothing
      cases nothing
  have fits : entries.length ≤ limit := by
    rwa [keys,Set.ncard_coe_finset,List.toFinset_card_of_nodup distinct,List.length_map] at room
  have permuted := List.perm_insertionSort before entries
  rw [selected_all before limit entries fits]
  apply Option.ext
  intro count
  rw [Dict.get_ofList _ ((permuted.map Prod.fst).nodup_iff.mpr distinct),permuted.mem_iff,counts]

end ArcadiaRecommendation
