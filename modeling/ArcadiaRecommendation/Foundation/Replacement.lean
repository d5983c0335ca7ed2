import ArcadiaRecommendation.Foundation.Interleaving
import Mathlib.Data.List.Nodup

/-! Two writers that each replace a list of rows: a delete of the rows that were committed before
it, and an insert that becomes visible with the commit. The later writer leaves its own list alone,
unless its delete came too early to see the list of the other. -/
namespace ArcadiaRecommendation
variable {A I : Type} [DecidableEq I]

/-- What a writer inserts, what its delete found, and whose commits came before the delete. -/
structure Staged (A I : Type) where
  items : List A
  found : List I
  seen : List Side

def Staged.replaced (id : A → I) (rows : List A) (staged : Staged A I) : List A :=
  rows.filter (fun row => id row ∉ staged.found) ++ staged.items

def rowsAfter (id : A → I) (old : List A) (staged : Side → Option (Staged A I)) (committed : List Side) : List A :=
  committed.foldl (fun rows side => (staged side).elim rows (·.replaced id rows)) old

structure Replacements (id : A → I) (old : List A) (staged : Side → Option (Staged A I)) (committed : List Side) :
    Prop where
  distinct : committed.Nodup
  wrote : ∀ side ∈ committed, ∃ writes, staged side = some writes
  seen : ∀ side writes, staged side = some writes → writes.seen <+: committed ∧ side ∉ writes.seen
  found : ∀ side writes, staged side = some writes → writes.found = (rowsAfter id old staged writes.seen).map id
  fresh : ∀ side writes, staged side = some writes → ∀ item ∈ writes.items, ∀ row ∈ old, id item ≠ id row

theorem rowsAfter_append (id : A → I) (old : List A) (staged : Side → Option (Staged A I)) (committed : List Side)
    (side : Side) (writes : Staged A I) (known : staged side = some writes) :
    rowsAfter id old staged (committed ++ [side]) = writes.replaced id (rowsAfter id old staged committed) := by
  unfold rowsAfter
  rw [List.foldl_append,List.foldl_cons,List.foldl_nil,known]
  rfl

theorem rowsAfter_congr (id : A → I) (old : List A) (first second : Side → Option (Staged A I)) (committed : List Side)
    (same : ∀ side ∈ committed, first side = second side) :
    rowsAfter id old first committed = rowsAfter id old second committed := by
  induction committed using List.reverseRecOn with
  | nil => rfl
  | append_singleton earlier last ih =>
    unfold rowsAfter at ih ⊢
    rw [List.foldl_append,List.foldl_append,ih fun side member => same side (List.mem_append_left _ member)]
    rw [List.foldl_cons,List.foldl_cons,same last (List.mem_append_right _ List.mem_cons_self)]
    rfl

theorem rowsAfter_update (id : A → I) (old : List A) (staged : Side → Option (Staged A I)) (committed : List Side)
    (side : Side) (writes : Option (Staged A I)) (absent : side ∉ committed) :
    rowsAfter id old (Function.update staged side writes) committed = rowsAfter id old staged committed := by
  apply rowsAfter_congr
  intro other member
  have different : other ≠ side := fun same => absent (same ▸ member)
  exact Function.update_of_ne different _ _

theorem replaced_all (id : A → I) (rows : List A) (writes : Staged A I) (found : writes.found = rows.map id) :
    writes.replaced id rows = writes.items := by
  unfold Staged.replaced
  have nothing : rows.filter (fun row => id row ∉ writes.found) = [] := by
    rw [List.filter_eq_nil_iff]
    intro row member
    rw [found]
    simpa using ⟨row,member,rfl⟩
  rw [nothing,List.nil_append]

theorem replaced_none (id : A → I) (rows : List A) (writes : Staged A I) (missed : ∀ row ∈ rows, id row ∉ writes.found) :
    writes.replaced id rows = rows ++ writes.items := by
  unfold Staged.replaced
  have all : rows.filter (fun row => id row ∉ writes.found) = rows := by
    rw [List.filter_eq_self]
    intro row member
    simpa using missed row member
  rw [all]

section Replacements
variable {id : A → I} {old : List A} {staged : Side → Option (Staged A I)} {committed : List Side}

omit [DecidableEq I] in
theorem staged_update_cases (side other : Side) (mine writes : Staged A I)
    (known : Function.update staged side (some mine) other = some writes) :
    other = side ∧ writes = mine ∨ other ≠ side ∧ staged other = some writes := by
  by_cases same : other = side
  · rw [same,Function.update_self] at known
    exact .inl ⟨same,(Option.some.inj known).symm⟩
  · rw [Function.update_of_ne same] at known
    exact .inr ⟨same,known⟩

theorem Replacements.stage (replacements : Replacements id old staged committed) (side : Side)
    (absent : side ∉ committed) (writes : Staged A I) (seen : writes.seen = committed)
    (found : writes.found = (rowsAfter id old staged committed).map id)
    (fresh : ∀ item ∈ writes.items, ∀ row ∈ old, id item ≠ id row) :
    Replacements id old (Function.update staged side (some writes)) committed where
  distinct := replacements.distinct
  wrote other member := by
    obtain ⟨theirs,known⟩ := replacements.wrote other member
    have different : other ≠ side := fun same => absent (same ▸ member)
    exact ⟨theirs,(Function.update_of_ne different _ _).trans known⟩
  seen other theirs known := by
    rcases staged_update_cases side other writes theirs known with ⟨same,mine⟩ | ⟨_,before⟩
    · rw [same,mine,seen]
      exact ⟨List.prefix_rfl,absent⟩
    · exact replacements.seen other theirs before
  found other theirs known := by
    rcases staged_update_cases side other writes theirs known with ⟨_,mine⟩ | ⟨_,before⟩
    · rw [mine,found,seen,rowsAfter_update id old staged committed side _ absent]
    · have earlier := (replacements.seen other theirs before).1
      rw [replacements.found other theirs before,
        rowsAfter_update id old staged _ side _ fun member => absent (earlier.subset member)]
  fresh other theirs known := by
    rcases staged_update_cases side other writes theirs known with ⟨_,mine⟩ | ⟨_,before⟩
    · rw [mine]
      exact fresh
    · exact replacements.fresh other theirs before

theorem Replacements.commit (replacements : Replacements id old staged committed) (side : Side)
    (absent : side ∉ committed) (writes : Staged A I) (known : staged side = some writes) :
    Replacements id old staged (committed ++ [side]) where
  distinct := by
    rw [← List.concat_eq_append]
    exact replacements.distinct.concat absent
  wrote other member := by
    rcases List.mem_append.mp member with earlier | last
    · exact replacements.wrote other earlier
    · rw [List.mem_singleton.mp last]
      exact ⟨writes,known⟩
  seen other theirs before := by
    obtain ⟨earlier,away⟩ := replacements.seen other theirs before
    exact ⟨earlier.trans (List.prefix_append _ _),away⟩
  found := replacements.found
  fresh := replacements.fresh

theorem Replacements.first (replacements : Replacements id old staged committed) (side : Side) (rest : List Side)
    (split : committed = side :: rest) (writes : Staged A I) (known : staged side = some writes) :
    rowsAfter id old staged [side] = writes.items := by
  obtain ⟨earlier,absent⟩ := replacements.seen side writes known
  have unseen : writes.seen = [] := by
    rw [split] at earlier
    rcases List.prefix_cons_iff.mp earlier with none | ⟨tail,same,_⟩
    · exact none
    · rw [same] at absent
      exact absurd List.mem_cons_self absent
  have found := replacements.found side writes known
  rw [unseen] at found
  have single := rowsAfter_append id old staged [] side writes known
  rw [List.nil_append] at single
  rw [single]
  exact replaced_all id old writes found

theorem Replacements.second (replacements : Replacements id old staged committed) (first second : Side)
    (split : committed = [first,second]) (early late : Staged A I) (known : staged first = some early)
    (after : staged second = some late) :
    rowsAfter id old staged committed = if first ∈ late.seen then late.items else early.items ++ late.items := by
  have single := replacements.first first [second] split early known
  have both := rowsAfter_append id old staged [first] second late after
  rw [List.singleton_append,← split,single] at both
  rw [both]
  obtain ⟨earlier,absent⟩ := replacements.seen second late after
  have found := replacements.found second late after
  rw [split] at earlier
  rcases List.prefix_cons_iff.mp earlier with none | ⟨tail,same,later⟩
  · rw [none,if_neg List.not_mem_nil]
    apply replaced_none
    intro item member
    rw [found,none]
    intro old_
    obtain ⟨row,inside,equal⟩ := List.mem_map.mp old_
    exact replacements.fresh first early known item member row inside equal.symm
  · have nothing : tail = [] := by
      rcases List.prefix_cons_iff.mp later with none | ⟨more,again,_⟩
      · exact none
      · rw [same,again] at absent
        exact absurd (List.mem_cons_of_mem _ List.mem_cons_self) absent
    rw [nothing] at same
    rw [if_pos (by rw [same]; exact List.mem_cons_self)]
    apply replaced_all
    rw [found,same,single]

/-- Both write something, and neither delete saw the commit of the other. -/
def Overlapping (staged : Side → Option (Staged A I)) : Prop :=
  ∃ left right, staged .left = some left ∧ staged .right = some right ∧ .left ∉ right.seen ∧ .right ∉ left.seen ∧
    left.items ≠ [] ∧ right.items ≠ []

omit [DecidableEq I] in
theorem overlapping_iff (side : Side) (mine theirs : Staged A I) (known : staged side = some mine)
    (other : staged side.other = some theirs) :
    Overlapping staged ↔ side ∉ theirs.seen ∧ side.other ∉ mine.seen ∧ mine.items ≠ [] ∧ theirs.items ≠ [] := by
  constructor
  · rintro ⟨left,right,one,two,early,late,some_,more⟩
    cases side with
    | left =>
      obtain rfl := Option.some.inj (one.symm.trans known)
      obtain rfl := Option.some.inj (two.symm.trans other)
      exact ⟨early,late,some_,more⟩
    | right =>
      obtain rfl := Option.some.inj (two.symm.trans known)
      obtain rfl := Option.some.inj (one.symm.trans other)
      exact ⟨late,early,more,some_⟩
  · rintro ⟨early,late,some_,more⟩
    cases side with
    | left => exact ⟨mine,theirs,known,other,early,late,some_,more⟩
    | right => exact ⟨theirs,mine,other,known,late,early,more,some_⟩

theorem Replacements.unseen (replacements : Replacements id old staged committed) (first second : Side)
    (split : committed = [first,second]) (early : Staged A I) (known : staged first = some early) :
    second ∉ early.seen := by
  obtain ⟨earlier,absent⟩ := replacements.seen first early known
  rw [split] at earlier
  rcases List.prefix_cons_iff.mp earlier with none | ⟨tail,same,_⟩
  · rw [none]
    exact List.not_mem_nil
  · rw [same] at absent
    exact absurd List.mem_cons_self absent

theorem Replacements.both_iff (replacements : Replacements id old staged committed) (first : Side)
    (split : committed = [first,first.other]) :
    (∃ side ∈ committed, ∃ writes, staged side = some writes ∧ rowsAfter id old staged committed = writes.items) ↔
      ¬ Overlapping staged := by
  obtain ⟨early,one⟩ := replacements.wrote first (by rw [split]; exact List.mem_cons_self)
  obtain ⟨late,two⟩ := replacements.wrote first.other (by rw [split]; exact List.mem_cons_of_mem _ List.mem_cons_self)
  have unseen := replacements.unseen first first.other split early one
  rw [overlapping_iff first early late one two,replacements.second first first.other split early late one two]
  by_cases saw : first ∈ late.seen
  · rw [if_pos saw]
    have done : ∃ side ∈ committed, ∃ writes, staged side = some writes ∧ late.items = writes.items :=
      ⟨first.other,by rw [split]; exact List.mem_cons_of_mem _ List.mem_cons_self,late,two,rfl⟩
    exact iff_of_true done fun overlap => overlap.1 saw
  · rw [if_neg saw]
    constructor
    · rintro ⟨side,_,writes,known,rows⟩ ⟨_,_,some_,more⟩
      rcases Side.eq_or_other first side with same | same
      · rw [same,one] at known
        obtain rfl := Option.some.inj known
        exact more (List.append_right_eq_self.mp rows)
      · rw [same,two] at known
        obtain rfl := Option.some.inj known
        exact some_ (List.append_left_eq_self.mp rows)
    · intro apart
      by_cases none : early.items = []
      · exact ⟨first.other,by rw [split]; exact List.mem_cons_of_mem _ List.mem_cons_self,late,two,by rw [none]; rfl⟩
      · have nothing : late.items = [] := by
          by_contra more
          exact apart ⟨saw,unseen,none,more⟩
        exact ⟨first,by rw [split]; exact List.mem_cons_self,early,one,by rw [nothing,List.append_nil]⟩

/-- One complete list is left exactly when a writer committed and, where both did, they do not overlap. -/
theorem Replacements.one_list_iff (replacements : Replacements id old staged committed) :
    (∃ side ∈ committed, ∃ writes, staged side = some writes ∧ rowsAfter id old staged committed = writes.items) ↔
      committed ≠ [] ∧ (.left ∈ committed → .right ∈ committed → ¬ Overlapping staged) := by
  cases split : committed with
  | nil =>
    constructor
    · rintro ⟨side,member,_⟩
      exact absurd member List.not_mem_nil
    · rintro ⟨some_,_⟩
      exact absurd rfl some_
  | cons first rest =>
    obtain ⟨early,known⟩ := replacements.wrote first (by rw [split]; exact List.mem_cons_self)
    have distinct := replacements.distinct
    rw [split] at distinct
    cases rest with
    | nil =>
      have single := replacements.first first [] split early known
      refine iff_of_true ⟨first,List.mem_cons_self,early,known,single⟩ ⟨List.cons_ne_nil _ _,fun left right => ?_⟩
      rw [List.mem_singleton] at left right
      exact absurd (left.trans right.symm) (by decide)
    | cons second more =>
      obtain ⟨away,rest⟩ := List.nodup_cons.mp distinct
      have other : second = first.other := by
        rcases Side.eq_or_other first second with same | same
        · exact absurd (by rw [same]; exact List.mem_cons_self) away
        · exact same
      have last : more = [] := by
        rw [List.eq_nil_iff_forall_not_mem]
        intro third member
        rcases Side.eq_or_other first third with same | same
        · exact away (by rw [← same]; exact List.mem_cons_of_mem _ member)
        · exact (List.nodup_cons.mp rest).1 (by rw [other,← same]; exact member)
      rw [other,last] at split
      have exact_ := replacements.both_iff first split
      rw [split] at exact_
      rw [other,last,exact_]
      constructor
      · exact fun apart => ⟨List.cons_ne_nil _ _,fun _ _ => apart⟩
      · rintro ⟨_,apart⟩
        cases first with
        | left => exact apart (by decide) (by decide)
        | right => exact apart (by decide) (by decide)

end Replacements
end ArcadiaRecommendation
