import Mathlib.Data.List.Nodup

/-! Insertion-ordered dictionaries. A key keeps the place of its first insertion,
and writing it again changes its value only. -/
namespace ArcadiaRecommendation

structure Dict (K V : Type) where
  entries : List (K × V)
  distinct : (entries.map Prod.fst).Nodup
  deriving DecidableEq

namespace Dict
variable {K V : Type}

def empty : Dict K V := ⟨[],List.nodup_nil⟩

instance : EmptyCollection (Dict K V) := ⟨empty⟩

def keys (dict : Dict K V) : List K := dict.entries.map Prod.fst

def values (dict : Dict K V) : List V := dict.entries.map Prod.snd

def filter (test : K × V → Bool) (dict : Dict K V) : Dict K V :=
  ⟨dict.entries.filter test,dict.distinct.sublist (List.filter_sublist.map _)⟩

def mapValues {W : Type} (change : V → W) (dict : Dict K V) : Dict K W :=
  ⟨dict.entries.map fun entry => (entry.1,change entry.2),by rw [List.map_map]; exact dict.distinct⟩

@[simp] theorem entries_empty : (∅ : Dict K V).entries = [] := rfl

theorem keys_nodup (dict : Dict K V) : dict.keys.Nodup := dict.distinct

variable [DecidableEq K]

private def find (key : K) : List (K × V) → Option V
  | [] => none
  | entry :: rest => if entry.1 = key then some entry.2 else find key rest

private def place (key : K) (value : V) : List (K × V) → List (K × V)
  | [] => [(key,value)]
  | entry :: rest => if entry.1 = key then (key,value) :: rest else entry :: place key value rest

private theorem place_keys (key : K) (value : V) (entries : List (K × V)) :
    (place key value entries).map Prod.fst =
      if key ∈ entries.map Prod.fst then entries.map Prod.fst else entries.map Prod.fst ++ [key] := by
  induction entries with
  | nil => simp [place]
  | cons entry rest ih =>
    by_cases same : entry.1 = key
    · simp [place,same]
    · have other : key ≠ entry.1 := fun equal => same equal.symm
      simp only [place,same,if_false,List.map_cons,ih,List.mem_cons,other,false_or]
      split <;> simp

private theorem place_distinct (key : K) (value : V) (entries : List (K × V))
    (distinct : (entries.map Prod.fst).Nodup) : ((place key value entries).map Prod.fst).Nodup := by
  rw [place_keys]
  split
  · exact distinct
  · rename_i absent
    rw [List.nodup_append]
    refine ⟨distinct,by simp,?_⟩
    intro a member b single equal
    exact absent ((List.mem_singleton.mp single) ▸ equal ▸ member)

private theorem find_place (key other : K) (value : V) (entries : List (K × V)) :
    find other (place key value entries) = if other = key then some value else find other entries := by
  induction entries with
  | nil => simp [place,find,eq_comm]
  | cons entry rest ih =>
    by_cases same : entry.1 = key
    · by_cases found : other = key
      · simp [place,find,same,found]
      · have apart : key ≠ other := fun equal => found equal.symm
        simp [place,find,same,found,apart]
    · by_cases found : entry.1 = other
      · have apart : other ≠ key := fun equal => same (found.trans equal)
        simp [place,find,found,apart]
      · simp [place,find,same,found,ih]

private theorem find_of_mem (key : K) (value : V) (entries : List (K × V))
    (distinct : (entries.map Prod.fst).Nodup) : (key,value) ∈ entries ↔ find key entries = some value := by
  induction entries with
  | nil => simp [find]
  | cons entry rest ih =>
    obtain ⟨absent,tail⟩ := List.nodup_cons.mp distinct
    obtain ⟨first,second⟩ := entry
    by_cases same : first = key
    · have outside : (key,value) ∉ rest := fun member =>
        absent (List.mem_map.mpr ⟨(key,value),member,same.symm⟩)
      simp [find,same,outside,eq_comm]
    · have other : key ≠ first := fun equal => same equal.symm
      simp [find,same,other,ih tail]

def get (dict : Dict K V) (key : K) : Option V := find key dict.entries

def contains (dict : Dict K V) (key : K) : Bool := (dict.get key).isSome

/-- Overwrites in place, or appends a new key at the end. -/
def set (dict : Dict K V) (key : K) (value : V) : Dict K V :=
  ⟨place key value dict.entries,place_distinct key value dict.entries dict.distinct⟩

/-- The keys of the second dictionary win, as in `{**first, **second}`. -/
def update (first second : Dict K V) : Dict K V :=
  second.entries.foldl (fun dict entry => dict.set entry.1 entry.2) first

def ofList (entries : List (K × V)) : Dict K V :=
  entries.foldl (fun dict entry => dict.set entry.1 entry.2) ∅

@[simp] theorem get_empty (key : K) : (∅ : Dict K V).get key = none := rfl

theorem get_set (dict : Dict K V) (key other : K) (value : V) :
    (dict.set key value).get other = if other = key then some value else dict.get other :=
  find_place key other value dict.entries

@[simp] theorem get_set_self (dict : Dict K V) (key : K) (value : V) :
    (dict.set key value).get key = some value := by simp [get_set]

@[simp] theorem set_set_empty (key : K) (first second : V) :
    ((∅ : Dict K V).set key first).set key second = (∅ : Dict K V).set key second := by
  simp [set,place]

theorem get_set_of_ne (dict : Dict K V) {key other : K} (value : V) (apart : other ≠ key) :
    (dict.set key value).get other = dict.get other := by simp [get_set,apart]

theorem get_cons (entry : K × V) (rest : List (K × V)) (distinct : ((entry :: rest).map Prod.fst).Nodup) (key : K) :
    (⟨entry :: rest,distinct⟩ : Dict K V).get key =
      if entry.1 = key then some entry.2 else (⟨rest,(List.nodup_cons.mp distinct).2⟩ : Dict K V).get key := rfl

theorem keys_set (dict : Dict K V) (key : K) (value : V) :
    (dict.set key value).keys = if key ∈ dict.keys then dict.keys else dict.keys ++ [key] :=
  place_keys key value dict.entries

theorem mem_entries (dict : Dict K V) (key : K) (value : V) :
    (key,value) ∈ dict.entries ↔ dict.get key = some value :=
  find_of_mem key value dict.entries dict.distinct

theorem mem_keys (dict : Dict K V) (key : K) : key ∈ dict.keys ↔ ∃ value, dict.get key = some value := by
  simp only [keys,List.mem_map]
  constructor
  · rintro ⟨entry,member,rfl⟩
    exact ⟨entry.2,(dict.mem_entries entry.1 entry.2).mp member⟩
  · rintro ⟨value,found⟩
    exact ⟨(key,value),(dict.mem_entries key value).mpr found,rfl⟩

theorem get_eq_none (dict : Dict K V) (key : K) (absent : key ∉ dict.keys) : dict.get key = none := by
  by_contra present
  obtain ⟨value,found⟩ := Option.ne_none_iff_exists'.mp present
  exact absent ((dict.mem_keys key).mpr ⟨value,found⟩)

theorem mem_values (dict : Dict K V) (value : V) : value ∈ dict.values ↔ ∃ key, dict.get key = some value := by
  simp only [values,List.mem_map]
  constructor
  · rintro ⟨entry,member,rfl⟩
    exact ⟨entry.1,(dict.mem_entries entry.1 entry.2).mp member⟩
  · rintro ⟨key,found⟩
    exact ⟨(key,value),(dict.mem_entries key value).mpr found,rfl⟩

private theorem get_foldl_set (entries : List (K × V)) (dict : Dict K V) (key : K)
    (distinct : (entries.map Prod.fst).Nodup) :
    (entries.foldl (fun dict entry => dict.set entry.1 entry.2) dict).get key =
      (find key entries).or (dict.get key) := by
  induction entries generalizing dict with
  | nil => rfl
  | cons entry rest ih =>
    obtain ⟨absent,tail⟩ := List.nodup_cons.mp distinct
    obtain ⟨first,second⟩ := entry
    rw [List.foldl_cons,ih _ tail,get_set]
    by_cases same : first = key
    · have missing : find key rest = none := by
        by_contra present
        obtain ⟨value,found⟩ := Option.ne_none_iff_exists'.mp present
        have member := (find_of_mem key value rest tail).mpr found
        exact absent (List.mem_map.mpr ⟨(key,value),member,same.symm⟩)
      simp [find,same,missing]
    · have other : key ≠ first := fun equal => same equal.symm
      simp [find,same,other]

@[simp] theorem get_update (first second : Dict K V) (key : K) :
    (first.update second).get key = (second.get key).or (first.get key) :=
  get_foldl_set second.entries first key second.distinct

@[simp] theorem update_empty (dict : Dict K V) : dict.update ∅ = dict := rfl

@[simp] theorem update_set_empty (dict : Dict K V) (key : K) (value : V) :
    dict.update ((∅ : Dict K V).set key value) = dict.set key value := rfl

private theorem mem_foldl_set (entries : List (K × V)) (dict : Dict K V) (key : K) (value : V)
    (found : (entries.foldl (fun dict entry => dict.set entry.1 entry.2) dict).get key = some value) :
    (key,value) ∈ entries ∨ dict.get key = some value := by
  induction entries generalizing dict with
  | nil => exact .inr found
  | cons entry rest ih =>
    rcases ih (dict.set entry.1 entry.2) found with later | now
    · exact .inl (List.mem_cons_of_mem entry later)
    rw [get_set] at now
    split at now
    · rename_i same
      have here : (key,value) = entry := Prod.ext same (Option.some.inj now).symm
      exact .inl (here ▸ List.mem_cons_self)
    · exact .inr now

theorem mem_of_ofList (entries : List (K × V)) (key : K) (value : V) (found : (ofList entries).get key = some value) :
    (key,value) ∈ entries := by
  rcases mem_foldl_set entries ∅ key value found with member | nothing
  · exact member
  · cases nothing

theorem get_ofList (entries : List (K × V)) (distinct : (entries.map Prod.fst).Nodup) (key : K) (value : V) :
    (ofList entries).get key = some value ↔ (key,value) ∈ entries := by
  rw [ofList,get_foldl_set entries ∅ key distinct,get_empty,Option.or_none]
  exact (find_of_mem key value entries distinct).symm

private theorem place_absent (key : K) (value : V) (entries : List (K × V)) (absent : key ∉ entries.map Prod.fst) :
    place key value entries = entries ++ [(key,value)] := by
  induction entries with
  | nil => rfl
  | cons entry rest ih =>
    rw [List.map_cons,List.mem_cons,not_or] at absent
    have apart : entry.1 ≠ key := fun equal => absent.1 equal.symm
    simp only [place,apart,if_false,ih absent.2,List.cons_append]

private theorem foldl_set_absent (entries : List (K × V)) (dict : Dict K V)
    (distinct : ((dict.entries ++ entries).map Prod.fst).Nodup) :
    (entries.foldl (fun dict entry => dict.set entry.1 entry.2) dict).entries = dict.entries ++ entries := by
  induction entries generalizing dict with
  | nil => exact (List.append_nil _).symm
  | cons entry rest ih =>
    have absent : entry.1 ∉ dict.entries.map Prod.fst := by
      rw [List.map_append,List.map_cons,List.nodup_append] at distinct
      intro member
      exact distinct.2.2 entry.1 member entry.1 List.mem_cons_self rfl
    have placed : (dict.set entry.1 entry.2).entries = dict.entries ++ [entry] :=
      place_absent entry.1 entry.2 dict.entries absent
    rw [List.foldl_cons,ih,placed,List.append_assoc,List.singleton_append]
    rw [placed,List.append_assoc,List.singleton_append]
    exact distinct

theorem entries_ofList (entries : List (K × V)) (distinct : (entries.map Prod.fst).Nodup) :
    (ofList entries).entries = entries := foldl_set_absent entries ∅ distinct

theorem ofList_entries (dict : Dict K V) : ofList dict.entries = dict := by
  have same := entries_ofList dict.entries dict.distinct
  cases collected : ofList dict.entries with
  | mk entries distinct =>
    rw [collected] at same
    subst same
    rfl

theorem get_counted (items : List K) (counts : Dict K Int) (key : K) :
    (items.foldl (fun counts item => counts.set item ((counts.get item).getD 0 + 1)) counts).get key =
      if key ∈ items then some ((counts.get key).getD 0 + items.count key) else counts.get key := by
  induction items generalizing counts with
  | nil => simp
  | cons item rest ih =>
    rw [List.foldl_cons,ih,get_set]
    by_cases same : key = item
    · subst same
      by_cases again : key ∈ rest
      · simp [again]
        omega
      · simp [again,List.count_eq_zero_of_not_mem again]
    · have apart : item ≠ key := fun equal => same equal.symm
      by_cases again : key ∈ rest
      · simp [again,same,apart]
      · simp [again,same]

theorem keys_counted (items : List K) (counts : Dict K Int) : ∃ later,
    (items.foldl (fun counts item => counts.set item ((counts.get item).getD 0 + 1)) counts).keys =
      counts.keys ++ later := by
  induction items generalizing counts with
  | nil => exact ⟨[],(List.append_nil _).symm⟩
  | cons item rest ih =>
    obtain ⟨later,listed⟩ := ih (counts.set item ((counts.get item).getD 0 + 1))
    rw [List.foldl_cons,listed,keys_set]
    split
    · exact ⟨later,rfl⟩
    · exact ⟨item :: later,by rw [List.append_assoc,List.singleton_append]⟩

theorem get_filter (test : K × V → Bool) (dict : Dict K V) (key : K) (value : V) :
    (dict.filter test).get key = some value ↔ dict.get key = some value ∧ test (key,value) = true := by
  rw [← mem_entries,← mem_entries]
  simp [filter]

theorem get_mapValues {W : Type} (change : V → W) (dict : Dict K V) (key : K) :
    (dict.mapValues change).get key = (dict.get key).map change := by
  apply Option.ext
  intro value
  rw [← mem_entries]
  simp [mapValues,← mem_entries,Option.map_eq_some_iff]

end Dict

/-- A dictionary in which every value is stored under its own key. -/
structure Table (K V : Type) [DecidableEq K] (key : V → K) extends Dict K V where
  keyed : ∀ found value, toDict.get found = some value → key value = found

namespace Table
variable {K V : Type} [DecidableEq K] {key : V → K}

instance : EmptyCollection (Table K V key) := ⟨⟨∅,fun _ _ found => by cases found⟩⟩

def upsert (table : Table K V key) (value : V) : Table K V key where
  toDict := table.toDict.set (key value) value
  keyed := by
    intro found other stored
    rw [Dict.get_set] at stored
    split at stored
    · rename_i same
      exact (Option.some.inj stored) ▸ same.symm
    · exact table.keyed found other stored

def update (first second : Table K V key) : Table K V key where
  toDict := first.toDict.update second.toDict
  keyed := by
    intro found value stored
    rw [Dict.get_update] at stored
    rcases Option.or_eq_some_iff.mp stored with new | ⟨_,old⟩
    · exact second.keyed found value new
    · exact first.keyed found value old

@[simp] theorem get_empty (found : K) : (∅ : Table K V key).get found = none := rfl

theorem get_upsert (table : Table K V key) (value : V) (found : K) :
    (table.upsert value).get found = if found = key value then some value else table.get found :=
  table.toDict.get_set (key value) found value

@[simp] theorem get_upsert_self (table : Table K V key) (value : V) :
    (table.upsert value).get (key value) = some value := by simp [get_upsert]

@[simp] theorem get_update (first second : Table K V key) (found : K) :
    (first.update second).get found = (second.get found).or (first.get found) :=
  first.toDict.get_update second.toDict found

@[simp] theorem update_empty (table : Table K V key) : table.update ∅ = table := rfl

@[simp] theorem update_upsert_empty (table : Table K V key) (value : V) :
    table.update ((∅ : Table K V key).upsert value) = table.upsert value := rfl

theorem mem_values (table : Table K V key) (value : V) :
    value ∈ table.values ↔ table.get (key value) = some value := by
  rw [Dict.mem_values]
  constructor
  · intro stored
    obtain ⟨found,present⟩ := stored
    rw [table.keyed found value present]
    exact present
  · intro stored
    exact ⟨key value,stored⟩

theorem keys_values (table : Table K V key) : table.values.map key = table.keys := by
  unfold Dict.values Dict.keys
  rw [List.map_map]
  apply List.map_congr_left
  intro entry member
  exact table.keyed entry.1 entry.2 ((table.mem_entries entry.1 entry.2).mp member)

theorem mem_filterMap (table : Table K V key) (wanted : List K) (value : V) :
    value ∈ wanted.filterMap table.get ↔ key value ∈ wanted ∧ table.get (key value) = some value := by
  rw [List.mem_filterMap]
  constructor
  · rintro ⟨found,member,stored⟩
    have own := table.keyed found value stored
    rw [own]
    exact ⟨member,stored⟩
  · rintro ⟨member,stored⟩
    exact ⟨key value,member,stored⟩

theorem keys_filterMap (table : Table K V key) (wanted : List K) :
    (wanted.filterMap table.get).map key = wanted.filter fun found => (table.get found).isSome := by
  induction wanted with
  | nil => rfl
  | cons found rest ih =>
    cases stored : table.get found with
    | none => simp [stored,ih]
    | some value => simp [stored,ih,table.keyed found value stored]

/-- Selecting the stored values by key finds what looking up the keys finds, in another order. -/
theorem filter_perm_filterMap (table : Table K V key) (wanted : List K) (distinct : wanted.Nodup) :
    (table.values.filter fun value => decide (key value ∈ wanted)).Perm (wanted.filterMap table.get) := by
  have stored : (table.values.map key).Nodup := by
    rw [table.keys_values]
    exact table.keys_nodup
  have found : ((wanted.filterMap table.get).map key).Nodup := by
    rw [table.keys_filterMap]
    exact distinct.filter _
  rw [List.perm_ext_iff_of_nodup (stored.of_map.filter _) found.of_map]
  intro value
  rw [List.mem_filter,table.mem_values,table.mem_filterMap,decide_eq_true_eq]
  exact and_comm

theorem shown_iff {C : Type} (table : Table K V key) (display : V → C) (keyOf : C → K)
    (keys : ∀ value, keyOf (display value) = key value) (found : K) (shown : C) :
    (table.get found).map display = some shown ↔ shown ∈ table.values.map display ∧ keyOf shown = found := by
  rw [Option.map_eq_some_iff,List.mem_map]
  constructor
  · rintro ⟨value,stored,rfl⟩
    have own := table.keyed found value stored
    refine ⟨⟨value,(table.mem_values value).mpr ?_,rfl⟩,(keys value).trans own⟩
    rw [own]
    exact stored
  · rintro ⟨⟨value,member,rfl⟩,rfl⟩
    rw [keys]
    exact ⟨value,(table.mem_values value).mp member,rfl⟩

theorem shown_nodup {C : Type} (table : Table K V key) (display : V → C) (keyOf : C → K)
    (keys : ∀ value, keyOf (display value) = key value) : (table.values.map display).Nodup := by
  have distinct : ((table.values.map display).map keyOf).Nodup := by
    rw [List.map_map,show keyOf ∘ display = key from funext keys,table.keys_values]
    exact table.keys_nodup
  exact distinct.of_map

/-- Two tables show the same at every key exactly when they list the same. -/
theorem shown_perm_iff {W C : Type} {other : W → K} (first : Table K V key) (second : Table K W other) (left : V → C)
    (right : W → C) (keyOf : C → K) (leftKey : ∀ value, keyOf (left value) = key value)
    (rightKey : ∀ value, keyOf (right value) = other value) :
    (∀ found, (first.get found).map left = (second.get found).map right) ↔
      (first.values.map left).Perm (second.values.map right) := by
  rw [List.perm_ext_iff_of_nodup (first.shown_nodup left keyOf leftKey) (second.shown_nodup right keyOf rightKey)]
  constructor
  · intro same shown
    have here := first.shown_iff left keyOf leftKey (keyOf shown) shown
    have there := second.shown_iff right keyOf rightKey (keyOf shown) shown
    rw [same] at here
    simpa using here.symm.trans there
  · intro same found
    apply Option.ext
    intro shown
    rw [first.shown_iff left keyOf leftKey,second.shown_iff right keyOf rightKey,same]

end Table
end ArcadiaRecommendation
