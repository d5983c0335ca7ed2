import ArcadiaRecommendation.Foundation.IdentityMap
import Mathlib.Logic.Function.Basic

/-! What a unit of work has staged, as a map from keys to columns. The identity map of a session that
writes no row twice holds exactly that, and its flush lays it over the table. -/
namespace ArcadiaRecommendation
namespace IdentityMap
variable {K Row Columns Fault : Type} [DecidableEq K] {mapping : Mapping K Row Columns Fault}

/-- Over this table the map holds these writes, each with columns that the table accepts. -/
structure Stages (map : IdentityMap mapping) (table : Table K Row mapping.key) (staged : K → Option Columns) : Prop where
  held : ∀ key loaded current, map.held.get key = some (loaded,current) →
    table.get key = some loaded ∧ current = (staged key).getD (mapping.columns loaded)
  added : ∀ columns ∈ map.added, table.get (mapping.keyOf columns) = none ∧ staged (mapping.keyOf columns) = some columns
  distinct : (map.added.map mapping.keyOf).Nodup
  kept : ∀ key columns, staged key = some columns → mapping.keyOf columns = key ∧
    (∃ row, mapping.accept columns = .ok row) ∧
    ((∃ loaded, map.held.get key = some (loaded,columns)) ∨ columns ∈ map.added)

theorem stages_empty (table : Table K Row mapping.key) :
    ({} : IdentityMap mapping).Stages table fun _ => none where
  held _ _ _ missing := by cases missing
  added _ missing := by cases missing
  distinct := List.nodup_nil
  kept _ _ missing := by cases missing

variable {map : IdentityMap mapping} {table : Table K Row mapping.key} {staged : K → Option Columns}

theorem Stages.find_unstaged (stages : map.Stages table staged) (key : K) (unstaged : staged key = none) :
    map.find table key = (table.get key).map fun row => (row,mapping.columns row) := by
  unfold find
  cases known : map.held.get key with
  | none => rw [Option.none_or]
  | some found =>
    obtain ⟨loaded,current⟩ := found
    obtain ⟨stored,same⟩ := stages.held key loaded current known
    rw [unstaged] at same
    rw [stored,same]
    rfl

theorem Stages.fetched (stages : map.Stages table staged) (retains : Bool) (key : K) (unstaged : staged key = none) :
    (map.fetch retains table key).1 = columnsAt mapping table key ∧ (map.fetch retains table key).2.Stages table staged := by
  unfold fetch columnsAt
  rw [stages.find_unstaged key unstaged]
  cases stored : table.get key with
  | none => exact ⟨rfl,stages⟩
  | some row =>
    refine ⟨rfl,?_⟩
    cases retains with
    | false => exact stages
    | true =>
      have same : mapping.keyOf (mapping.columns row) = key := (mapping.keyOf_columns row).trans (table.keyed key row stored)
      constructor
      · intro other loaded current found
        simp only [hold,if_true,Option.map_some,same,Dict.get_set] at found
        split at found
        · rename_i here
          cases found
          subst here
          exact ⟨stored,by rw [unstaged]; rfl⟩
        · exact stages.held other loaded current found
      · exact stages.added
      · exact stages.distinct
      · intro other columns written
        obtain ⟨keyed,accepted,place⟩ := stages.kept other columns written
        refine ⟨keyed,accepted,?_⟩
        have apart : other ≠ key := by
          intro equal
          rw [equal,unstaged] at written
          cases written
        simp only [hold,if_true,Option.map_some,same,Dict.get_set_of_ne _ _ apart]
        exact place

theorem Stages.written (stages : map.Stages table staged) (columns : Columns) (unstaged : staged (mapping.keyOf columns) = none)
    (row : Row) (accepted : mapping.accept columns = .ok row) :
    (map.write table columns).Stages table (Function.update staged (mapping.keyOf columns) (some columns)) := by
  have moved (other : K) (apart : other ≠ mapping.keyOf columns) :
      Function.update staged (mapping.keyOf columns) (some columns) other = staged other := Function.update_of_ne apart _ _
  have present (other : K) (known : Columns) (found : staged other = some known) : other ≠ mapping.keyOf columns := by
    intro equal
    rw [equal,unstaged] at found
    cases found
  unfold write
  rw [stages.find_unstaged _ unstaged]
  cases stored : table.get (mapping.keyOf columns) with
  | none =>
    constructor
    · intro other loaded current found
      obtain ⟨there,same⟩ := stages.held other loaded current found
      have apart : other ≠ mapping.keyOf columns := by
        intro equal
        rw [equal,stored] at there
        cases there
      rw [moved other apart]
      exact ⟨there,same⟩
    · intro other member
      rcases List.mem_append.mp member with earlier | last
      · obtain ⟨vacant,same⟩ := stages.added other earlier
        rw [moved _ (present _ other same)]
        exact ⟨vacant,same⟩
      · cases List.mem_singleton.mp last
        exact ⟨stored,Function.update_self _ _ _⟩
    · simp only [Option.map_none,List.map_append,List.map_cons,List.map_nil]
      refine List.nodup_append.mpr ⟨stages.distinct,List.nodup_singleton _,?_⟩
      intro key earlier other last equal
      obtain ⟨known,member,same⟩ := List.mem_map.mp earlier
      rw [List.mem_singleton] at last
      exact present _ known (stages.added known member).2 (same.trans (equal.trans last))
    · intro other known found
      by_cases here : other = mapping.keyOf columns
      · subst here
        rw [Function.update_self] at found
        cases found
        exact ⟨rfl,⟨row,accepted⟩,.inr (List.mem_append_right _ (List.mem_singleton_self _))⟩
      · rw [moved other here] at found
        obtain ⟨keyed,accepts,place⟩ := stages.kept other known found
        exact ⟨keyed,accepts,place.imp id fun member => List.mem_append_left _ member⟩
  | some before =>
    constructor
    · intro other loaded current found
      simp only [hold,Option.map_some,Dict.get_set] at found
      split at found
      · rename_i here
        cases found
        subst here
        exact ⟨stored,by rw [Function.update_self]; rfl⟩
      · rename_i apart
        rw [moved other apart]
        exact stages.held other loaded current found
    · intro other member
      obtain ⟨vacant,same⟩ := stages.added other member
      rw [moved _ (present _ other same)]
      exact ⟨vacant,same⟩
    · exact stages.distinct
    · intro other known found
      by_cases here : other = mapping.keyOf columns
      · subst here
        rw [Function.update_self] at found
        cases found
        exact ⟨rfl,⟨row,accepted⟩,.inl ⟨before,Dict.get_set_self _ _ _⟩⟩
      · rw [moved other here] at found
        obtain ⟨keyed,accepts,place⟩ := stages.kept other known found
        refine ⟨keyed,accepts,?_⟩
        simp only [hold,Option.map_some,Dict.get_set_of_ne _ _ here]
        exact place

theorem insertAll_ok (duplicate : Fault) (table : Table K Row mapping.key) (added : List Columns)
    (vacant : ∀ columns ∈ added, table.get (mapping.keyOf columns) = none)
    (accepted : ∀ columns ∈ added, ∃ row, mapping.accept columns = .ok row) (distinct : (added.map mapping.keyOf).Nodup) :
    ∃ after, insertAll mapping duplicate table added = .ok after := by
  induction added generalizing table with
  | nil => exact ⟨table,rfl⟩
  | cons first rest ih =>
    obtain ⟨row,accepts⟩ := accepted first List.mem_cons_self
    obtain ⟨apart,tail⟩ := List.nodup_cons.mp distinct
    have same : mapping.key row = mapping.keyOf first := by
      rw [← mapping.keyOf_columns,mapping.columns_accept _ _ accepts]
    obtain ⟨after,done⟩ := ih (table.upsert row) (fun columns member => by
      have other : mapping.keyOf columns ≠ mapping.key row := by
        rw [same]
        exact fun equal => apart (equal ▸ List.mem_map_of_mem member)
      rw [Table.get_upsert,if_neg other]
      exact vacant columns (List.mem_cons_of_mem first member))
      (fun columns member => accepted columns (List.mem_cons_of_mem first member)) tail
    refine ⟨after,?_⟩
    unfold insertAll
    rw [vacant first List.mem_cons_self,accepts]
    exact done

theorem updateAll_ok (table : Table K Row mapping.key) (entries : List (K × Row × Columns))
    (distinct : (entries.map Prod.fst).Nodup)
    (fits : ∀ key loaded current, (key,loaded,current) ∈ entries → table.get key = some loaded ∧
      mapping.keyOf current = key ∧ ∃ row, mapping.accept current = .ok row) :
    ∃ after, updateAll mapping table entries = .ok after := by
  induction entries generalizing table with
  | nil => exact ⟨table,rfl⟩
  | cons entry rest ih =>
    obtain ⟨key,loaded,current⟩ := entry
    obtain ⟨apart,tail⟩ := List.nodup_cons.mp distinct
    obtain ⟨stored,keyed,row,accepts⟩ := fits key loaded current List.mem_cons_self
    have loadedKey : mapping.keyOf (mapping.columns loaded) = key :=
      (mapping.keyOf_columns loaded).trans (table.keyed key loaded stored)
    have written : mapping.merged (mapping.columns loaded) current (mapping.columns loaded) = current :=
      mapping.merged_stored _ _ (keyed.trans loadedKey.symm)
    have same : mapping.key row = key := by rw [← mapping.keyOf_columns,mapping.columns_accept _ _ accepts,keyed]
    obtain ⟨after,done⟩ := ih (table.upsert row) tail (fun other before now member => by
      have different : other ≠ mapping.key row := by
        rw [same]
        intro equal
        have inside : other ∈ rest.map Prod.fst := List.mem_map_of_mem member
        exact apart (equal ▸ inside)
      rw [Table.get_upsert,if_neg different]
      exact fits other before now (List.mem_cons_of_mem _ member))
    refine ⟨after,?_⟩
    unfold updateAll
    rw [stored]
    dsimp only
    rw [written,accepts]
    exact done

omit [DecidableEq K] in
theorem columns_injective (first second : Row) (same : mapping.columns first = mapping.columns second) : first = second := by
  have accepted := mapping.accept_columns first
  rw [same,mapping.accept_columns] at accepted
  exact (Except.ok.inj accepted).symm

theorem Stages.find_added (stages : map.Stages table staged) (key : K) :
    (map.added.find? fun columns => mapping.keyOf columns = key) = if (table.get key).isSome then none
      else staged key := by
  cases found : map.added.find? fun columns => mapping.keyOf columns = key with
  | some columns =>
    have same : mapping.keyOf columns = key := by simpa using List.find?_some found
    obtain ⟨vacant,written⟩ := stages.added columns (List.mem_of_find?_eq_some found)
    rw [same] at vacant written
    simp [vacant,written]
  | none =>
    rw [List.find?_eq_none] at found
    cases stored : table.get key with
    | some row => simp
    | none =>
      cases written : staged key with
      | none => simp
      | some columns =>
        obtain ⟨same,_,⟨loaded,holds⟩ | member⟩ := stages.kept key columns written
        · have there := (stages.held key loaded columns holds).1
          rw [stored] at there
          cases there
        · exact absurd (decide_eq_true same) (found columns member)

/-- The flush never fails, and a reader then finds what was staged, and elsewhere the row of before. -/
theorem Stages.flushed (stages : map.Stages table staged) (duplicate : Fault) :
    ∃ after, map.flush duplicate table = .ok after ∧
      ∀ key, columnsAt mapping after key = (staged key).or (columnsAt mapping table key) := by
  have accepts (columns : Columns) (member : columns ∈ map.added) : ∃ row, mapping.accept columns = .ok row :=
    (stages.kept _ columns (stages.added columns member).2).2.1
  obtain ⟨inserted,into⟩ := insertAll_ok duplicate table map.added (fun columns member => (stages.added columns member).1)
    accepts stages.distinct
  have untouched (key : K) (loaded : Row) (stored : table.get key = some loaded) : inserted.get key = some loaded := by
    have read := columnsAt_insertAll mapping duplicate table inserted map.added into key
    rw [stages.find_added,stored,Option.isSome_some,if_pos rfl,Option.none_or] at read
    unfold columnsAt at read
    rw [stored] at read
    obtain ⟨row,there,same⟩ := Option.map_eq_some_iff.mp read
    rw [there,columns_injective row loaded same]
  have fits (key : K) (loaded : Row) (current : Columns) (member : (key,loaded,current) ∈ map.held.entries) :
      inserted.get key = some loaded ∧ mapping.keyOf current = key ∧ ∃ row, mapping.accept current = .ok row := by
    have known := (map.held.mem_entries key (loaded,current)).mp member
    obtain ⟨stored,same⟩ := stages.held key loaded current known
    refine ⟨untouched key loaded stored,map.keyed key _ known,?_⟩
    cases written : staged key with
    | none =>
      rw [written] at same
      exact ⟨loaded,by rw [same]; exact mapping.accept_columns loaded⟩
    | some columns =>
      rw [written] at same
      rw [same]
      exact (stages.kept key columns written).2.1
  obtain ⟨after,updated⟩ := updateAll_ok inserted map.held.entries map.held.distinct fits
  have done : map.flush duplicate table = .ok after := by
    unfold flush
    rw [into]
    exact updated
  refine ⟨after,done,fun key => ?_⟩
  rw [columnsAt_flush mapping duplicate map table after done,stages.find_added]
  cases known : map.held.get key with
  | none =>
    cases stored : table.get key with
    | none => cases staged key <;> simp [columnsAt,stored,revised]
    | some row =>
      cases written : staged key with
      | none => simp [columnsAt,stored,revised]
      | some columns =>
        obtain ⟨same,_,⟨loaded,holds⟩ | member⟩ := stages.kept key columns written
        · rw [known] at holds
          cases holds
        · have vacant := (stages.added columns member).1
          rw [same,stored] at vacant
          cases vacant
  | some found =>
    obtain ⟨loaded,current⟩ := found
    obtain ⟨stored,same⟩ := stages.held key loaded current known
    have keyed : mapping.keyOf current = mapping.keyOf (mapping.columns loaded) :=
      (map.keyed key _ known).trans ((mapping.keyOf_columns loaded).trans (table.keyed key loaded stored)).symm
    have merged := mapping.merged_stored (mapping.columns loaded) current keyed
    simp only [columnsAt,stored,Option.isSome_some,if_true,Option.none_or,Option.map_some,revised,merged]
    rw [same]
    cases staged key <;> rfl

end IdentityMap
end ArcadiaRecommendation
