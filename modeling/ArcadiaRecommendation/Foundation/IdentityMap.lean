import ArcadiaRecommendation.Foundation.Dict

/-! A unit of work over one keyed table: the rows it has loaded, as they were and as they
have been changed since, and the rows it will insert. A flush inserts, then writes of each
loaded row the columns that changed. -/
namespace ArcadiaRecommendation

/-- How the rows of a table are told apart, read, changed and checked. -/
structure Mapping (K Row Columns Fault : Type) where
  key : Row → K
  columns : Row → Columns
  keyOf : Columns → K
  /-- The stored columns, save those that changed since they were loaded. -/
  merged : (loaded current stored : Columns) → Columns
  /-- The checks of the table itself. -/
  accept : Columns → Except Fault Row
  keyOf_columns : ∀ row, keyOf (columns row) = key row
  keyOf_merged : ∀ loaded current stored, keyOf (merged loaded current stored) = keyOf stored
  merged_loaded : ∀ loaded stored, merged loaded loaded stored = stored
  merged_current : ∀ loaded current, merged loaded current current = current
  merged_stored : ∀ loaded current, keyOf current = keyOf loaded → merged loaded current loaded = current
  accept_columns : ∀ row, accept (columns row) = .ok row
  columns_accept : ∀ columns' row, accept columns' = .ok row → columns row = columns'

structure IdentityMap {K Row Columns Fault : Type} [DecidableEq K] (mapping : Mapping K Row Columns Fault) where
  /-- Each row of the map as it was loaded, and its columns now. -/
  held : Dict K (Row × Columns) := ∅
  /-- New rows, not inserted yet. -/
  added : List Columns := []
  keyed : ∀ key found, held.get key = some found → mapping.keyOf found.2 = key := by
    intro key found missing
    cases missing

namespace IdentityMap
variable {K Row Columns Fault : Type} [DecidableEq K] {mapping : Mapping K Row Columns Fault}

def find (map : IdentityMap mapping) (table : Table K Row mapping.key) (key : K) : Option (Row × Columns) :=
  (map.held.get key).or ((table.get key).map fun row => (row,mapping.columns row))

def hold (map : IdentityMap mapping) (loaded : Row) (current : Columns) : IdentityMap mapping where
  held := map.held.set (mapping.keyOf current) (loaded,current)
  added := map.added
  keyed := by
    intro key found present
    rw [Dict.get_set] at present
    split at present
    · rename_i same
      rw [← Option.some.inj present,same]
    · exact map.keyed key found present

/-- Reads a row. Whether the map still holds a row that was only read is up to the collector. -/
def fetch (retains : Bool) (map : IdentityMap mapping) (table : Table K Row mapping.key) (key : K) :
    Option Columns × IdentityMap mapping :=
  match map.find table key with
  | none => (none,map)
  | some (loaded,current) => (some current,if retains then map.hold loaded current else map)

/-- Looks the row up, then sets its columns or adds a new row. -/
def write (map : IdentityMap mapping) (table : Table K Row mapping.key) (columns : Columns) : IdentityMap mapping :=
  match map.find table (mapping.keyOf columns) with
  | none => { map with added := map.added ++ [columns] }
  | some (loaded,_) => map.hold loaded columns

variable (mapping) in
def insertAll (duplicate : Fault) (table : Table K Row mapping.key) :
    List Columns → Except Fault (Table K Row mapping.key)
  | [] => .ok table
  | columns :: rest =>
    if (table.get (mapping.keyOf columns)).isSome then .error duplicate
    else
      match mapping.accept columns with
      | .error fault => .error fault
      | .ok row => insertAll duplicate (table.upsert row) rest

variable (mapping) in
/-- Writes the changed columns. No row is ever deleted from such a table. -/
def updateAll (table : Table K Row mapping.key) :
    List (K × Row × Columns) → Except Fault (Table K Row mapping.key)
  | [] => .ok table
  | (key,loaded,current) :: rest =>
    match table.get key with
    | none => updateAll table rest
    | some stored =>
      match mapping.accept (mapping.merged (mapping.columns loaded) current (mapping.columns stored)) with
      | .error fault => .error fault
      | .ok row => updateAll (table.upsert row) rest

def flush (duplicate : Fault) (map : IdentityMap mapping) (table : Table K Row mapping.key) :
    Except Fault (Table K Row mapping.key) :=
  match insertAll mapping duplicate table map.added with
  | .error fault => .error fault
  | .ok inserted => updateAll mapping inserted map.held.entries

variable (mapping)

def columnsAt (table : Table K Row mapping.key) (key : K) : Option Columns := (table.get key).map mapping.columns

def revised (change : Option (Row × Columns)) (stored : Columns) : Columns :=
  match change with
  | none => stored
  | some (loaded,current) => mapping.merged (mapping.columns loaded) current stored

theorem key_merged (table : Table K Row mapping.key) (key : K) (stored row : Row) (loaded current : Columns)
    (found : table.get key = some stored)
    (accepted : mapping.accept (mapping.merged loaded current (mapping.columns stored)) = .ok row) :
    mapping.key row = key := by
  rw [← mapping.keyOf_columns,mapping.columns_accept _ _ accepted,mapping.keyOf_merged,mapping.keyOf_columns]
  exact table.keyed key stored found

theorem columnsAt_upsert (table : Table K Row mapping.key) (row : Row) (key : K) :
    columnsAt mapping (table.upsert row) key =
      if key = mapping.key row then some (mapping.columns row) else columnsAt mapping table key := by
  unfold columnsAt
  rw [Table.get_upsert]
  split <;> rfl

theorem insertAll_fresh (duplicate : Fault) (table after : Table K Row mapping.key) (added : List Columns)
    (inserted : insertAll mapping duplicate table added = .ok after) (columns : Columns) (member : columns ∈ added) :
    table.get (mapping.keyOf columns) = none := by
  induction added generalizing table with
  | nil => cases member
  | cons first rest ih =>
    unfold insertAll at inserted
    split at inserted
    · cases inserted
    rename_i vacant
    split at inserted
    · cases inserted
    rename_i row accepted
    rcases List.mem_cons.mp member with rfl | later
    · simpa using vacant
    · have absent := ih _ inserted later
      rw [Table.get_upsert] at absent
      split at absent
      · cases absent
      · exact absent

theorem columnsAt_insertAll (duplicate : Fault) (table after : Table K Row mapping.key) (added : List Columns)
    (inserted : insertAll mapping duplicate table added = .ok after) (key : K) :
    columnsAt mapping after key =
      (added.find? fun columns => mapping.keyOf columns = key).or (columnsAt mapping table key) := by
  induction added generalizing table with
  | nil =>
    cases Except.ok.inj inserted
    rfl
  | cons first rest ih =>
    unfold insertAll at inserted
    split at inserted
    · cases inserted
    split at inserted
    · cases inserted
    rename_i row accepted
    have same : mapping.key row = mapping.keyOf first := by
      rw [← mapping.keyOf_columns,mapping.columns_accept _ _ accepted]
    rw [ih _ inserted,columnsAt_upsert,same,mapping.columns_accept _ _ accepted,List.find?_cons]
    by_cases here : mapping.keyOf first = key
    · have apart : (rest.find? fun columns => mapping.keyOf columns = key) = none := by
        rw [List.find?_eq_none]
        intro columns member equal
        have absent := insertAll_fresh mapping duplicate _ after rest inserted columns member
        rw [Table.get_upsert,of_decide_eq_true equal,same,if_pos here.symm] at absent
        cases absent
      simp [here,apart]
    · simp [here,Ne.symm here]

theorem columnsAt_updateAll (table after : Table K Row mapping.key) (entries : List (K × Row × Columns))
    (distinct : (entries.map Prod.fst).Nodup) (updated : updateAll mapping table entries = .ok after) (key : K) :
    columnsAt mapping after key = (columnsAt mapping table key).map
      (revised mapping ((⟨entries,distinct⟩ : Dict K (Row × Columns)).get key)) := by
  induction entries generalizing table with
  | nil =>
    cases Except.ok.inj updated
    exact (congrFun Option.map_id _).symm
  | cons entry rest ih =>
    obtain ⟨place,loaded,current⟩ := entry
    obtain ⟨absent,tail⟩ := List.nodup_cons.mp distinct
    rw [Dict.get_cons]
    unfold updateAll at updated
    split at updated
    · rename_i missing
      rw [ih table tail updated]
      by_cases here : place = key
      · have nothing : columnsAt mapping table key = none := by
          unfold columnsAt
          rw [← here,missing]
          rfl
        rw [nothing]
        rfl
      · rw [if_neg here]
    · rename_i stored found
      split at updated
      · cases updated
      rename_i row accepted
      have same := key_merged mapping table place stored row _ current found accepted
      rw [ih _ tail updated,columnsAt_upsert,same,mapping.columns_accept _ _ accepted]
      by_cases here : place = key
      · have apart : (⟨rest,tail⟩ : Dict K (Row × Columns)).get key = none :=
          Dict.get_eq_none _ key (here ▸ absent)
        have present : columnsAt mapping table key = some (mapping.columns stored) := by
          unfold columnsAt
          rw [← here,found]
          rfl
        rw [if_pos here.symm,if_pos here,apart,present]
        rfl
      · rw [if_neg (Ne.symm here),if_neg here]

theorem columnsAt_flush (duplicate : Fault) (map : IdentityMap mapping) (table after : Table K Row mapping.key)
    (flushed : map.flush duplicate table = .ok after) (key : K) :
    columnsAt mapping after key =
      ((map.added.find? fun columns => mapping.keyOf columns = key).or (columnsAt mapping table key)).map
        (revised mapping (map.held.get key)) := by
  unfold flush at flushed
  split at flushed
  · cases flushed
  rename_i inserted done
  rw [columnsAt_updateAll mapping inserted after map.held.entries map.held.distinct flushed key,
    columnsAt_insertAll mapping duplicate table inserted map.added done key]

variable {mapping}

def single (loaded : Option Row) (current : Columns) : IdentityMap mapping :=
  match loaded with
  | some row => ({} : IdentityMap mapping).hold row current
  | none => { added := [current] }

theorem write_fetch (retains : Bool) (before after : Table K Row mapping.key) (key : K) (current : Columns)
    (same : mapping.keyOf current = key) :
    ((({} : IdentityMap mapping).fetch retains before key).2).write after current =
      single ((if retains then before.get key else none).or (after.get key)) current := by
  have twice (loaded : Row) (columns : Columns) (equal : mapping.keyOf columns = key) :
      ((({} : IdentityMap mapping).hold loaded columns).write after current) =
        ({} : IdentityMap mapping).hold loaded current := by
    simp only [write,find,hold,same,equal,Dict.get_set_self,Option.some_or,Dict.set_set_empty]
  have fresh : ({} : IdentityMap mapping).write after current = single (after.get key) current := by
    simp only [write,find,same,Dict.get_empty,Option.none_or,single]
    cases after.get key with
    | none => rfl
    | some row => rfl
  simp only [fetch,find,Dict.get_empty,Option.none_or]
  cases stored : before.get key with
  | none =>
    rw [ite_self,Option.none_or]
    exact fresh
  | some row =>
    cases retains with
    | false =>
      simp only [Bool.false_eq_true,if_false,Option.none_or,Option.map_some]
      exact fresh
    | true =>
      have equal : mapping.keyOf (mapping.columns row) = key := by
        rw [mapping.keyOf_columns]
        exact before.keyed key row stored
      simp only [if_true,Option.some_or,Option.map_some]
      exact twice row _ equal

theorem flush_added (duplicate : Fault) (current : Columns) (table : Table K Row mapping.key) :
    (single none current : IdentityMap mapping).flush duplicate table =
      if (table.get (mapping.keyOf current)).isSome then .error duplicate
      else (mapping.accept current).map table.upsert := by
  simp only [single,flush,insertAll]
  by_cases taken : (table.get (mapping.keyOf current)).isSome = true
  · simp only [taken,if_true]
  · cases mapping.accept current with
    | error fault => simp only [taken,Bool.false_eq_true,if_false,Except.map]
    | ok row => simp only [taken,Bool.false_eq_true,if_false,Except.map,updateAll,Dict.entries_empty]

theorem flush_held (duplicate : Fault) (loaded stored : Row) (current : Columns) (table : Table K Row mapping.key)
    (found : table.get (mapping.keyOf current) = some stored) :
    (single (some loaded) current : IdentityMap mapping).flush duplicate table =
      (mapping.accept (mapping.merged (mapping.columns loaded) current (mapping.columns stored))).map table.upsert := by
  have entries : ((∅ : Dict K (Row × Columns)).set (mapping.keyOf current) (loaded,current)).entries =
      [(mapping.keyOf current,loaded,current)] := rfl
  simp only [single,flush,hold,insertAll,entries,updateAll,found]
  cases mapping.accept (mapping.merged (mapping.columns loaded) current (mapping.columns stored)) with
  | error fault => rfl
  | ok row => rfl

theorem flush_taken (duplicate : Fault) (current : Columns) (table : Table K Row mapping.key)
    (taken : (table.get (mapping.keyOf current)).isSome = true) :
    (single none current : IdentityMap mapping).flush duplicate table = .error duplicate :=
  (flush_added duplicate current table).trans (if_pos taken)

theorem flush_added_ok (duplicate : Fault) (current : Columns) (table : Table K Row mapping.key)
    (vacant : table.get (mapping.keyOf current) = none) (row : Row) (accepted : mapping.accept current = .ok row) :
    ∃ after, (single none current : IdentityMap mapping).flush duplicate table = .ok after ∧
      columnsAt mapping after (mapping.keyOf current) = some current := by
  have done : (single none current : IdentityMap mapping).flush duplicate table = .ok (table.upsert row) := by
    rw [flush_added,vacant,accepted]
    rfl
  refine ⟨_,done,?_⟩
  rw [columnsAt_flush mapping duplicate _ table _ done]
  simp [single,revised]

theorem flush_held_ok (duplicate : Fault) (loaded stored row : Row) (current : Columns)
    (table : Table K Row mapping.key) (found : table.get (mapping.keyOf current) = some stored)
    (accepted : mapping.accept (mapping.merged (mapping.columns loaded) current (mapping.columns stored)) = .ok row) :
    ∃ after, (single (some loaded) current : IdentityMap mapping).flush duplicate table = .ok after ∧
      columnsAt mapping after (mapping.keyOf current) =
        some (mapping.merged (mapping.columns loaded) current (mapping.columns stored)) := by
  have done : (single (some loaded) current : IdentityMap mapping).flush duplicate table = .ok (table.upsert row) := by
    rw [flush_held duplicate loaded stored current table found,accepted]
    rfl
  refine ⟨_,done,?_⟩
  rw [columnsAt_flush mapping duplicate _ table _ done]
  simp [single,hold,revised,columnsAt,found]

end IdentityMap
end ArcadiaRecommendation
