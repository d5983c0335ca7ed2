import ArcadiaRecommendation.Adapters.Embedding
import ArcadiaRecommendation.Properties.ColdUsers

/-! What an answer of the embedding endpoint stands for, and what the adapter reads it as. A row
behind the first one is read to the width of the first, whatever else is in it. -/
namespace ArcadiaRecommendation
namespace HuggingFaceEmbedder
variable {R : Type}

/-- A JSON number. Python takes a bool for one too, and `bools` says whether it counts here. -/
def numeric (bools : Bool) : Json R → Bool
  | .int _ | .float _ => true
  | .bool _ => bools
  | .null | .str _ | .list _ | .dict _ => false

def IsVector (bools : Bool) (values : List (Json R)) : Prop := values ≠ [] ∧ ∀ value ∈ values, numeric bools value = true

def IsMatrix (bools : Bool) (width : Nat) (rows : List (List (Json R))) : Prop :=
  rows ≠ [] ∧ ∀ row ∈ rows, row.length = width ∧ ∀ value ∈ row, numeric bools value = true

def Shaped (bools : Bool) (item : Json R) : Prop :=
  (∃ values, item = .list values ∧ IsVector bools values) ∨
    ∃ rows width, item = .list (rows.map .list) ∧ IsMatrix bools width rows

variable [Scalar R] [Floats R]

/-- The numbers of a flat list, or the mean of all the rows of a matrix. -/
inductive StandsFor (bools : Bool) : Json R → List R → Prop
  | vector (values : List (Json R)) (floats : List R) (flat : IsVector bools values)
    (read : values.mapM toFloat = .ok floats) : StandsFor bools (.list values) floats
  | matrix (rows : List (List (Json R))) (width : Nat) (cells : List (List R)) (rectangular : IsMatrix bools width rows)
    (read : rows.mapM (fun row => row.mapM toFloat) = .ok cells) :
    StandsFor bools (.list (rows.map .list)) ((List.range width).map fun index =>
      Scalar.sum (cells.map fun row => row.getD index 0) / Scalar.literal rows.length)

/-- The vectors are what the items of the answer stand for, one for each text and each of the width of the
deployment. -/
structure Decoded (embedder : HuggingFaceEmbedder) (bools : Bool) (respond : List String → Except String (Json R))
    (texts : List String) (vectors : List (List R)) : Prop where
  count : vectors.length = texts.length
  width : ∀ vector ∈ vectors, vector.length = embedder.dimensions
  items : texts ≠ [] → ∃ items, respond (texts.map fun text => embedder.inputPrefix ++ text) = .ok (.list items) ∧
    List.Forall₂ (StandsFor bools) items vectors

def DecodesOrRejects (embedder : HuggingFaceEmbedder) (bools : Bool) (respond : List String → Except String (Json R))
    (texts : List String) : Prop :=
  (∃ vectors, embedder.embed respond texts = .ok vectors ∧ embedder.Decoded bools respond texts vectors) ∨
    ∃ message, embedder.embed respond texts = .error (.unavailable message)

theorem StandsFor.shaped {bools : Bool} {item : Json R} {vector : List R} (stands : StandsFor bools item vector) :
    Shaped bools item := by
  cases stands with
  | vector values floats flat read => exact .inl ⟨values,rfl,flat⟩
  | matrix rows width cells rectangular read => exact .inr ⟨rows,width,rfl,rectangular⟩

def Convertible (value : Json R) : Prop := ∃ float, toFloat value = .ok float

/-- Rows that can be read to the width of the first one. -/
def ReadableRows : List (List (Json R)) → Prop
  | [] => False
  | head :: tail => ∀ index ∈ List.range head.length, ∀ row ∈ head :: tail, ∃ value, row[index]? = some value ∧ Convertible value

def Readable : Json R → Prop
  | .list (first :: rest) =>
    if (first :: rest).all isNumber then ∀ value ∈ first :: rest, Convertible value
    else ReadableRows ((first :: rest).filterMap rowOf)
  | _ => False

omit [Scalar R] [Floats R] in
/-- An item that has no number and no row to read. -/
def Unusable : Json R → Prop
  | .list (first :: rest) => (first :: rest).all isNumber = false ∧ (first :: rest).filterMap rowOf = []
  | _ => True

omit [Scalar R] [Floats R] in
def widthOf : Json R → Nat
  | .list items => if items.all isNumber then items.length else ((items.filterMap rowOf).headD []).length
  | _ => 0

private theorem toFloat_error (value : Json R) (fault : EmbedFault) (failed : toFloat value = .error fault)
    (message : String) : fault ≠ .unavailable message := by
  rintro rfl
  cases value with
  | null | list _ | dict _ | float _ | bool _ => cases failed
  | int number =>
    dsimp only [toFloat] at failed
    cases read : Floats.ofInt (R := R) number <;> rw [read] at failed <;> cases failed
  | str text =>
    dsimp only [toFloat] at failed
    cases read : Floats.ofText (R := R) text <;> rw [read] at failed <;> cases failed

def cell (index : Nat) (row : List (Json R)) : Except EmbedFault R :=
  (row[index]?).elim (.error .indexError) toFloat

private theorem mean_eq (rows : List (List (Json R))) (index : Nat) : mean rows index =
    (rows.mapM (cell index)).map fun column => Scalar.sum column / Scalar.literal rows.length := by
  refine congrArg (Except.map _) (congrArg (fun read => List.mapM read rows) (funext fun row => ?_))
  unfold cell
  cases row[index]? <;> rfl

private theorem cell_ok_iff (index : Nat) (row : List (Json R)) :
    (∃ float, cell index row = .ok float) ↔ ∃ value, row[index]? = some value ∧ Convertible value := by
  unfold cell
  cases row[index]? with
  | none => exact iff_of_false (fun ⟨_,read⟩ => by cases read) fun ⟨_,there,_⟩ => by cases there
  | some value => simp only [Option.elim_some,Option.some.injEq,exists_eq_left',Convertible]

private theorem cell_error (index : Nat) (row : List (Json R)) (fault : EmbedFault)
    (failed : cell index row = .error fault) (message : String) : fault ≠ .unavailable message := by
  unfold cell at failed
  cases there : row[index]? with
  | none =>
    rw [there] at failed
    cases failed
    exact EmbedFault.noConfusion
  | some value =>
    rw [there] at failed
    exact toFloat_error value fault failed message

private theorem mean_ok_iff (rows : List (List (Json R))) (index : Nat) :
    (∃ float, mean rows index = .ok float) ↔ ∀ row ∈ rows, ∃ value, row[index]? = some value ∧ Convertible value := by
  simp only [← cell_ok_iff,← mapM_total_iff,mean_eq]
  cases rows.mapM (cell index) with
  | error fault => simp [Except.map]
  | ok column => simp [Except.map]

private theorem mean_error (rows : List (List (Json R))) (index : Nat) (fault : EmbedFault)
    (failed : mean rows index = .error fault) (message : String) : fault ≠ .unavailable message := by
  rw [mean_eq] at failed
  cases read : rows.mapM (cell index) with
  | error other =>
    rw [read] at failed
    cases failed
    obtain ⟨row,_,broken⟩ := mapM_error _ _ _ read
    exact cell_error index row fault broken message
  | ok column =>
    rw [read] at failed
    cases failed

private theorem pooled_rows (first : Json R) (rest : List (Json R)) (nested : (first :: rest).all isNumber = false)
    (head : List (Json R)) (tail : List (List (Json R))) (rows : (first :: rest).filterMap rowOf = head :: tail) :
    pooled (.list (first :: rest)) = (List.range head.length).mapM (mean (head :: tail)) := by
  dsimp only [pooled]
  rw [nested,if_neg Bool.false_ne_true,rows]

inductive Reading (item : Json R) : Prop
  | refused (unusable : Unusable item) (unreadable : ¬Readable item)
    (refusal : ∃ message, pooled item = .error (.unavailable message))
  | flat (values : List (Json R)) (same : item = .list values) (usable : ¬Unusable item)
    (readable : Readable item ↔ ∀ value ∈ values, Convertible value) (width : widthOf item = values.length)
    (read : pooled item = values.mapM toFloat)
  | rows (head : List (Json R)) (tail : List (List (Json R))) (usable : ¬Unusable item)
    (readable : Readable item ↔ ReadableRows (head :: tail)) (width : widthOf item = head.length)
    (read : pooled item = (List.range head.length).mapM (mean (head :: tail)))

theorem reading (item : Json R) : Reading item := by
  cases item with
  | list items =>
    cases items with
    | nil => exact .refused trivial id ⟨_,rfl⟩
    | cons first rest =>
      cases flat : (first :: rest).all isNumber with
      | true =>
        refine .flat (first :: rest) rfl (fun unusable => ?_) ?_ (if_pos flat) (if_pos flat)
        · rw [unusable.1] at flat
          cases flat
        · dsimp only [Readable]
          rw [if_pos flat]
      | false =>
        have nested : ¬(first :: rest).all isNumber = true := by rw [flat]; exact Bool.false_ne_true
        cases rows : (first :: rest).filterMap rowOf with
        | nil =>
          refine .refused ⟨flat,rows⟩ (fun readable => ?_) ?_
          · dsimp only [Readable] at readable
            rw [if_neg nested,rows] at readable
            exact readable
          · dsimp only [pooled]
            rw [if_neg nested,rows]
            exact ⟨_,rfl⟩
        | cons head tail =>
          refine .rows head tail (fun unusable => ?_) ?_ ?_ (pooled_rows first rest flat head tail rows)
          · rw [unusable.2] at rows
            cases rows
          · dsimp only [Readable]
            rw [if_neg nested,rows]
          · dsimp only [widthOf]
            rw [if_neg nested,rows]
            rfl
  | null | bool _ | int _ | float _ | str _ | dict _ => exact .refused trivial id ⟨_,rfl⟩

private theorem pooled_ok_iff (item : Json R) : (∃ vector, pooled item = .ok vector) ↔ Readable item := by
  cases reading item with
  | refused unusable unreadable refusal =>
    obtain ⟨message,refused⟩ := refusal
    rw [refused]
    exact iff_of_false (fun ⟨_,read⟩ => by cases read) unreadable
  | flat values same usable readable width read =>
    rw [read,readable]
    exact mapM_total_iff toFloat values
  | rows head tail usable readable width read =>
    rw [read,readable,mapM_total_iff]
    exact forall₂_congr fun index _ => mean_ok_iff (head :: tail) index

private theorem pooled_unavailable_iff (item : Json R) :
    (∃ message, pooled item = .error (.unavailable message)) ↔ Unusable item := by
  cases reading item with
  | refused unusable unreadable refusal => exact iff_of_true refusal unusable
  | flat values same usable readable width read =>
    refine iff_of_false ?_ usable
    rintro ⟨message,refused⟩
    rw [read] at refused
    obtain ⟨value,_,broken⟩ := mapM_error _ _ _ refused
    exact toFloat_error value _ broken message rfl
  | rows head tail usable readable width read =>
    refine iff_of_false ?_ usable
    rintro ⟨message,refused⟩
    rw [read] at refused
    obtain ⟨index,_,broken⟩ := mapM_error _ _ _ refused
    exact mean_error (head :: tail) index _ broken message rfl

private theorem pooled_width (item : Json R) (vector : List R) (pooling : pooled item = .ok vector) :
    vector.length = widthOf item := by
  have length {A B E : Type} (make : A → Except E B) (items : List A) (made : List B) (ok : items.mapM make = .ok made) :
      made.length = items.length := ((mapM_ok_iff make items made).mp ok).length_eq.symm
  cases reading item with
  | refused unusable unreadable refusal =>
    obtain ⟨message,refused⟩ := refusal
    rw [refused] at pooling
    cases pooling
  | flat values same usable readable width read =>
    rw [width]
    exact length toFloat values vector (read.symm.trans pooling)
  | rows head tail usable readable width read =>
    rw [width,length _ _ vector (read.symm.trans pooling),List.length_range]

omit [Scalar R] [Floats R] in
private theorem isNumber_of_numeric (bools : Bool) (value : Json R) (number : numeric bools value = true) :
    isNumber value = true := by
  cases value with
  | int _ | float _ | bool _ => rfl
  | null | str _ | list _ | dict _ => cases number

private theorem cell_read (row : List (Json R)) (floats : List R) (read : row.mapM toFloat = .ok floats) (index : Nat)
    (inside : index < row.length) : cell index row = .ok (floats.getD index 0) := by
  obtain ⟨length,each⟩ := List.forall₂_iff_get.mp ((mapM_ok_iff toFloat row floats).mp read)
  have there : index < floats.length := length ▸ inside
  rw [cell,List.getElem?_eq_getElem inside,Option.elim_some,List.getD_eq_getElem?_getD,List.getElem?_eq_getElem there]
  exact each index inside there

private theorem mean_read (rows : List (List (Json R))) (cells : List (List R))
    (read : rows.mapM (fun row => row.mapM toFloat) = .ok cells) (index : Nat) (inside : ∀ row ∈ rows, index < row.length) :
    mean rows index = .ok (Scalar.sum (cells.map fun row => row.getD index 0) / Scalar.literal rows.length) := by
  have column : rows.mapM (cell index) = .ok (cells.map fun row => row.getD index 0) := by
    rw [mapM_ok_iff] at read ⊢
    rw [List.forall₂_map_right_iff]
    induction read with
    | nil => exact .nil
    | @cons row floats rest others first later ih =>
      obtain ⟨here,there⟩ := List.forall_mem_cons.mp inside
      exact .cons (cell_read row floats first index here) (ih there)
  rw [mean_eq,column]
  rfl

omit [Scalar R] [Floats R] in
private theorem unusable_matrix (bools : Bool) (rows : List (List (Json R))) (rectangular : IsMatrix bools 0 rows) :
    Unusable (.list (rows.map .list)) := by
  obtain ⟨head,tail,rfl⟩ := List.exists_cons_of_ne_nil rectangular.1
  have bare : ((head :: tail).map Json.list).filterMap rowOf = [] := by
    rw [List.filterMap_map,List.filterMap_eq_nil_iff]
    intro row member
    rw [Function.comp_apply,List.length_eq_zero_iff.mp (rectangular.2 row member).1]
    rfl
  exact ⟨rfl,bare⟩

omit [Scalar R] [Floats R] in
private theorem rows_matrix (bools : Bool) (width : Nat) (wide : width ≠ 0) (rows : List (List (Json R)))
    (rectangular : IsMatrix bools width rows) : (rows.map Json.list).filterMap rowOf = rows := by
  have each : ∀ row ∈ rows, (rowOf ∘ Json.list) row = some row := by
    intro row member
    have long : 0 < row.length := (rectangular.2 row member).1 ▸ Nat.pos_of_ne_zero wide
    obtain ⟨first,rest,rfl⟩ := List.exists_cons_of_length_pos long
    rfl
  rw [List.filterMap_map,List.filterMap_congr each]
  exact List.filterMap_some

private theorem cells_matrix (bools : Bool) (width : Nat) (rows : List (List (Json R)))
    (rectangular : IsMatrix bools width rows)
    (means : ∀ index ∈ List.range width, ∃ float, mean rows index = .ok float) :
    ∃ cells, rows.mapM (fun row => row.mapM toFloat) = .ok cells := by
  rw [mapM_total_iff]
  intro row member
  rw [mapM_total_iff]
  intro value inside
  obtain ⟨index,bound,there⟩ := List.getElem_of_mem inside
  have place : index ∈ List.range width := List.mem_range.mpr ((rectangular.2 row member).1 ▸ bound)
  obtain ⟨other,found,convertible⟩ := (mean_ok_iff rows index).mp (means index place) row member
  rw [List.getElem?_eq_getElem bound,there] at found
  exact Option.some.inj found ▸ convertible

private theorem pooled_matrix (bools : Bool) (width : Nat) (rows : List (List (Json R)))
    (rectangular : IsMatrix bools width rows) (vector : List R)
    (pooling : pooled (.list (rows.map .list)) = .ok vector) :
    StandsFor bools (.list (rows.map .list)) vector := by
  rcases eq_or_ne width 0 with rfl | wide
  · obtain ⟨message,refused⟩ := (pooled_unavailable_iff _).mpr (unusable_matrix bools rows rectangular)
    rw [refused] at pooling
    cases pooling
  have kept := rows_matrix bools width wide rows rectangular
  obtain ⟨head,tail,rfl⟩ := List.exists_cons_of_ne_nil rectangular.1
  rw [List.map_cons] at kept pooling
  rw [pooled_rows (.list head) (tail.map .list) rfl head tail kept,(rectangular.2 head List.mem_cons_self).1] at pooling
  have means := (mapM_total_iff (mean (head :: tail)) (List.range width)).mp ⟨vector,pooling⟩
  obtain ⟨cells,read⟩ := cells_matrix bools width (head :: tail) rectangular means
  have averaged := mapM_eq_map (mean (head :: tail)) _ (List.range width) fun index member =>
    mean_read (head :: tail) cells read index fun row inside => by
      rw [(rectangular.2 row inside).1]
      exact List.mem_range.mp member
  rw [Except.ok.inj (pooling.symm.trans averaged)]
  exact .matrix (head :: tail) width cells rectangular read

private theorem pooled_stands (bools : Bool) (item : Json R) (vector : List R) (pooling : pooled item = .ok vector) :
    StandsFor bools item vector ↔ Shaped bools item := by
  refine ⟨StandsFor.shaped,?_⟩
  rintro (⟨values,rfl,flat⟩ | ⟨rows,width,rfl,rectangular⟩)
  · obtain ⟨first,rest,rfl⟩ := List.exists_cons_of_ne_nil flat.1
    have numbers : (first :: rest).all isNumber = true :=
      List.all_eq_true.mpr fun value member => isNumber_of_numeric bools value (flat.2 value member)
    refine .vector (first :: rest) vector flat ?_
    rw [← pooling]
    exact (if_pos numbers).symm
  · exact pooled_matrix bools width rows rectangular vector pooling

section
variable (embedder : HuggingFaceEmbedder) (respond : List String → Except String (Json R)) (texts : List String)

def Fits (vectors : List (List R)) : Prop :=
  vectors.length = texts.length ∧ ∀ vector ∈ vectors, vector.length = embedder.dimensions

private theorem embed_pooled (some : texts ≠ []) (items : List (Json R))
    (answered : respond (texts.map fun text => embedder.inputPrefix ++ text) = .ok (.list items)) :
    (∀ fault, items.mapM pooled = .error fault → embedder.embed respond texts = .error fault) ∧
    ∀ vectors, items.mapM pooled = .ok vectors →
      (embedder.Fits texts vectors → embedder.embed respond texts = .ok vectors) ∧
      (¬embedder.Fits texts vectors → ∃ message, embedder.embed respond texts = .error (.unavailable message)) := by
  have asked : texts.isEmpty = false := by simpa using some
  simp only [embed,asked,Bool.false_eq_true,if_false,answered,asList,bind,Except.bind]
  refine ⟨fun fault failed => by rw [failed],fun vectors made => ?_⟩
  rw [made]
  dsimp only
  constructor
  · rintro ⟨count,width⟩
    have uniform : (vectors.find? fun vector => decide (vector.length ≠ embedder.dimensions)) = none :=
      List.find?_eq_none.mpr fun vector member => by simpa using width vector member
    rw [if_neg (not_not.mpr count),uniform]
    rfl
  · intro unfit
    by_cases count : vectors.length = texts.length
    · rw [if_neg (not_not.mpr count)]
      cases found : vectors.find? fun vector => decide (vector.length ≠ embedder.dimensions) with
      | none =>
        refine absurd ⟨count,fun vector member => ?_⟩ unfit
        simpa using List.find?_eq_none.mp found vector member
      | some vector => exact ⟨_,rfl⟩
    · rw [if_pos count]
      exact ⟨_,rfl⟩

private theorem embed_unlisted (some : texts ≠ []) (unlisted : ∀ items,
    respond (texts.map fun text => embedder.inputPrefix ++ text) ≠ .ok (.list items)) :
    ∃ message, embedder.embed respond texts = .error (.unavailable message) := by
  have asked : texts.isEmpty = false := by simpa using some
  simp only [embed,asked,Bool.false_eq_true,if_false]
  cases answered : respond (texts.map fun text => embedder.inputPrefix ++ text) with
  | error exc => exact ⟨_,rfl⟩
  | ok body =>
    cases body with
    | list items => exact absurd answered (unlisted items)
    | null | bool _ | int _ | float _ | str _ | dict _ => exact ⟨_,rfl⟩

end

private theorem stands_iff_shaped (bools : Bool) (items : List (Json R)) (vectors : List (List R))
    (made : items.mapM pooled = .ok vectors) :
    List.Forall₂ (StandsFor bools) items vectors ↔ ∀ item ∈ items, Shaped bools item := by
  have each := (mapM_ok_iff pooled items vectors).mp made
  clear made
  induction each with
  | nil => exact iff_of_true .nil fun item member => by cases member
  | @cons item vector rest others first later ih =>
    rw [List.forall₂_cons,List.forall_mem_cons,pooled_stands bools item vector first]
    exact and_congr_right fun _ => ih

private theorem fits_iff (embedder : HuggingFaceEmbedder) (texts : List String) (items : List (Json R))
    (vectors : List (List R)) (made : items.mapM pooled = .ok vectors) : embedder.Fits texts vectors ↔
      items.length = texts.length ∧ ∀ item ∈ items, widthOf item = embedder.dimensions := by
  have each := (mapM_ok_iff pooled items vectors).mp made
  rw [Fits,each.length_eq]
  clear made
  refine and_congr Iff.rfl ?_
  induction each with
  | nil => exact iff_of_true (List.forall_mem_nil _) (List.forall_mem_nil _)
  | @cons item vector rest others first later ih =>
    rw [List.forall_mem_cons,List.forall_mem_cons,pooled_width item vector first]
    exact and_congr_right fun _ => ih

private theorem refused_iff (items : List (Json R)) : (∃ message, items.mapM pooled = .error (.unavailable message)) ↔
    ∃ before item after, items = before ++ item :: after ∧ (∀ earlier ∈ before, Readable earlier) ∧ Unusable item := by
  simp only [mapM_error_iff,pooled_ok_iff,← pooled_unavailable_iff]
  constructor
  · rintro ⟨message,before,item,after,whole,read,refused⟩
    exact ⟨before,item,after,whole,read,message,refused⟩
  · rintro ⟨before,item,after,whole,read,message,refused⟩
    exact ⟨message,before,item,after,whole,read,refused⟩

/-- The items are read up to one that is refused, or to the end, and then they fail a check or have one of the two
shapes each. -/
def Expected (embedder : HuggingFaceEmbedder) (bools : Bool) (texts : List String) (items : List (Json R)) : Prop :=
  (∃ before item after, items = before ++ item :: after ∧ (∀ earlier ∈ before, Readable earlier) ∧ Unusable item) ∨
    (∀ item ∈ items, Readable item) ∧ (items.length ≠ texts.length ∨
      (∃ item ∈ items, widthOf item ≠ embedder.dimensions) ∨ ∀ item ∈ items, Shaped bools item)

section
variable (bools : Bool) (embedder : HuggingFaceEmbedder) (respond : List String → Except String (Json R))
  (texts : List String) (some : texts ≠ []) (items : List (Json R))
  (answered : respond (texts.map fun text => embedder.inputPrefix ++ text) = .ok (.list items))
include some answered

/-- Vectors that pass the checks are returned, and stand for items of the two shapes only. -/
theorem fitting_iff (vectors : List (List R)) (made : items.mapM pooled = .ok vectors) (fit : embedder.Fits texts vectors) :
    embedder.DecodesOrRejects bools respond texts ↔ ∀ item ∈ items, Shaped bools item := by
  have kept := ((embed_pooled embedder respond texts some items answered).2 vectors made).1 fit
  unfold DecodesOrRejects
  rw [kept,← stands_iff_shaped bools items vectors made]
  constructor
  · rintro (⟨others,done,decoded⟩ | ⟨_,refused⟩)
    · cases Except.ok.inj done
      obtain ⟨read,same,stand⟩ := decoded.items some
      cases answered.symm.trans same
      exact stand
    · cases refused
  · exact fun stand => .inl ⟨vectors,rfl,fit.1,fit.2,fun _ => ⟨items,answered,stand⟩⟩

private theorem listed_iff : embedder.DecodesOrRejects bools respond texts ↔ embedder.Expected bools texts items := by
  obtain ⟨fails,checks⟩ := embed_pooled embedder respond texts some items answered
  unfold Expected
  rw [← refused_iff]
  simp only [← pooled_ok_iff,← mapM_total_iff]
  cases made : items.mapM pooled with
  | error fault =>
    unfold DecodesOrRejects
    rw [fails fault made]
    constructor
    · rintro (⟨_,done,_⟩ | ⟨message,refused⟩)
      · cases done
      · exact .inl ⟨message,refused⟩
    · rintro (⟨message,refused⟩ | ⟨⟨_,done⟩,_⟩)
      · exact .inr ⟨message,refused⟩
      · cases done
  | ok vectors =>
    have fits := fits_iff embedder texts items vectors made
    by_cases fit : embedder.Fits texts vectors
    · rw [fitting_iff bools embedder respond texts some items answered vectors made fit]
      obtain ⟨count,width⟩ := fits.mp fit
      constructor
      · exact fun shaped => .inr ⟨⟨vectors,rfl⟩,.inr (.inr shaped)⟩
      · rintro (⟨_,refused⟩ | ⟨_,unequal | ⟨item,member,other⟩ | shaped⟩)
        · cases refused
        · exact absurd count unequal
        · exact absurd (width item member) other
        · exact shaped
    · refine iff_of_true (.inr ((checks vectors made).2 fit)) (.inr ⟨⟨vectors,rfl⟩,?_⟩)
      rw [fits,not_and_or] at fit
      refine fit.imp id fun width => .inl ?_
      push Not at width
      exact width

end

/-- The answer is decoded exactly or rejected, except where an item that cannot be read is met before one that is
refused, or where all of the answer is read and passes the checks and an item of it has neither of the two shapes. -/
theorem decodes_or_rejects_iff (bools : Bool) (embedder : HuggingFaceEmbedder)
    (respond : List String → Except String (Json R)) (texts : List String) :
    embedder.DecodesOrRejects bools respond texts ↔
      ∀ items, texts ≠ [] → respond (texts.map fun text => embedder.inputPrefix ++ text) = .ok (.list items) →
        embedder.Expected bools texts items := by
  rcases eq_or_ne texts [] with rfl | some
  · exact iff_of_true (.inl ⟨[],rfl,rfl,List.forall_mem_nil _,fun more => absurd rfl more⟩) fun items more => absurd rfl more
  by_cases listed : ∃ items, respond (texts.map fun text => embedder.inputPrefix ++ text) = .ok (.list items)
  · obtain ⟨items,answered⟩ := listed
    rw [listed_iff bools embedder respond texts some items answered]
    constructor
    · intro expected others _ same
      cases answered.symm.trans same
      exact expected
    · exact fun each => each items some answered
  · exact iff_of_true (.inr (embed_unlisted embedder respond texts some (not_exists.mp listed)))
      fun items _ answered => absurd ⟨items,answered⟩ listed

section
attribute [local instance] Memory.Floats.integers

def raggedAnswer : Json ℚ := .list [.list [.list [.int 1],.list [.int 2,.int 3]]]

private theorem raggedAnswer_read :
    (({ dimensions := 1 } : HuggingFaceEmbedder).embed (fun _ => .ok raggedAnswer) ["Race"]).toOption =
    some [[3/2]] := by decide +kernel

/-- The second row is cut to the width of the first. -/
theorem ragged_rows_read : ¬∃ bools, ∀ (embedder : HuggingFaceEmbedder) (respond : List String → Except String (Json ℚ))
    (texts : List String), embedder.DecodesOrRejects bools respond texts := by
  rintro ⟨bools,claim⟩
  rcases claim { dimensions := 1 } (fun _ => .ok raggedAnswer) ["Race"] with ⟨vectors,_,decoded⟩ | ⟨message,refused⟩
  · obtain ⟨items,answered,stand⟩ := decoded.items (List.cons_ne_nil _ _)
    cases answered
    cases stand with
    | cons first rest =>
      rcases first.shaped with ⟨values,same,flat⟩ | ⟨rows,width,same,rectangular⟩
      · cases same
        cases flat.2 _ List.mem_cons_self
      · have inside (row : List (Json ℚ)) (member : Json.list row ∈ [Json.list [.int 1],Json.list [.int 2,.int 3]]) :
            row.length = width := by
          rw [Json.list.inj same] at member
          obtain ⟨other,there,equal⟩ := List.mem_map.mp member
          exact Json.list.inj equal ▸ (rectangular.2 other there).1
        have one := inside [.int 1] List.mem_cons_self
        have two := inside [.int 2,.int 3] (List.mem_cons_of_mem _ List.mem_cons_self)
        rw [← one] at two
        cases two
  · have read := raggedAnswer_read
    rw [refused] at read
    cases read

end
end HuggingFaceEmbedder
end ArcadiaRecommendation
