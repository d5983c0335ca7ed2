import Mathlib.Data.List.Sort
import Mathlib.Data.List.Infix
import Mathlib.Data.List.TakeWhile

/-! The first so many items of a list in some order: how many they are, what is left out, and
when two lists or two orders select alike. -/
namespace ArcadiaRecommendation

/-- An order in which any two items of a list can be placed, some of them alike. -/
structure Preorders {A : Type} (before : A → A → Prop) : Prop where
  total : ∀ first second, before first second ∨ before second first
  trans : ∀ first second third, before first second → before second third → before first third

def Separates {A : Type} (before : A → A → Prop) (items : List A) : Prop :=
  ∀ first ∈ items, ∀ second ∈ items, before first second → before second first → first = second

theorem Preorders.of_key {A K : Type} [LinearOrder K] (key : A → K) :
    Preorders fun first second => key first ≤ key second :=
  ⟨fun _ _ => le_total _ _,fun _ _ _ => le_trans⟩

theorem Preorders.of_text {A : Type} (text : A → String) : Preorders fun first second => text first ≤ text second :=
  ⟨fun _ _ => String.le_total _ _,fun _ _ _ => String.le_trans⟩

theorem Separates.of_key {A K : Type} [LinearOrder K] (key : A → K) (items : List A) (distinct : (items.map key).Nodup) :
    Separates (fun first second => key first ≤ key second) items :=
  fun _ inFirst _ inSecond left right => List.inj_on_of_nodup_map distinct inFirst inSecond (le_antisymm left right)

section
variable {A : Type} (count : A → Int) (later : A → A → Prop)

theorem Preorders.byCount (ties : Preorders later) :
    Preorders fun first second => count second < count first ∨ count first = count second ∧ later first second := by
  constructor
  · intro first second
    rcases lt_trichotomy (count first) (count second) with less | same | more
    · exact .inr (.inl less)
    · rcases ties.total first second with before | after
      · exact .inl (.inr ⟨same,before⟩)
      · exact .inr (.inr ⟨same.symm,after⟩)
    · exact .inl (.inl more)
  · rintro first second third (left | ⟨left,before⟩) (right | ⟨right,after⟩)
    · exact .inl (right.trans left)
    · exact .inl (right ▸ left)
    · exact .inl (left ▸ right)
    · exact .inr ⟨left.trans right,ties.trans _ _ _ before after⟩

theorem Preorders.descending {K : Type} [LinearOrder K] (key : A → K) (ties : Preorders later) :
    Preorders fun first second => key second < key first ∨ key second ≤ key first ∧ later first second := by
  constructor
  · intro first second
    rcases lt_trichotomy (key first) (key second) with less | same | more
    · exact .inr (.inl less)
    · rcases ties.total first second with before | after
      · exact .inl (.inr ⟨same.ge,before⟩)
      · exact .inr (.inr ⟨same.le,after⟩)
    · exact .inl (.inl more)
  · rintro first second third (left | ⟨left,before⟩) (right | ⟨right,after⟩)
    · exact .inl (right.trans left)
    · exact .inl (lt_of_le_of_lt right left)
    · exact .inl (lt_of_lt_of_le right left)
    · exact .inr ⟨right.trans left,ties.trans _ _ _ before after⟩

theorem byCount_tied (first second : A)
    (left : count second < count first ∨ count first = count second ∧ later first second)
    (right : count first < count second ∨ count second = count first ∧ later second first) :
    later first second ∧ later second first := by
  rcases left with more | ⟨same,before⟩
  · rcases right with less | ⟨equal,_⟩
    · exact absurd less (lt_asymm more)
    · exact absurd equal more.ne
  · rcases right with less | ⟨_,after⟩
    · exact absurd same less.ne
    · exact ⟨before,after⟩

end

section
variable {A : Type} (test : A → Bool) (bound limit : Nat) (items : List A)

theorem take_filter_take_prefix : ((items.take bound).filter test).take limit <+: (items.filter test).take limit :=
  List.IsPrefix.take ((List.take_prefix bound items).filter test) limit

/-- A test of the first so many items finds the first so many that pass, exactly when it finds
enough of them or all there are. -/
theorem take_filter_take_iff : ((items.take bound).filter test).take limit = (items.filter test).take limit ↔
    limit ≤ (items.take bound).countP test ∨ ∀ item ∈ items.drop bound, test item = false := by
  have parts : items.filter test = (items.take bound).filter test ++ (items.drop bound).filter test := by
    rw [← List.filter_append,List.take_append_drop]
  rw [parts,List.take_append,List.self_eq_append_right,List.take_eq_nil_iff,List.countP_eq_length_filter,
    List.filter_eq_nil_iff,Nat.sub_eq_zero_iff_le]
  simp only [Bool.not_eq_true]

end

/-- A selection cut again is the selection exactly where the first cut kept enough. -/
theorem take_take_iff {A : Type} (items : List A) (kept limit : Nat) :
    (items.take kept).take limit = items.take limit ↔ limit ≤ kept ∨ items.length ≤ kept := by
  rw [List.take_take]
  constructor
  · intro same
    have length := congrArg List.length same
    rw [List.length_take,List.length_take] at length
    omega
  · rintro (enough | few)
    · rw [Nat.min_eq_left enough]
    · rw [List.take_eq_take_iff]
      omega

theorem single_of_ends {A : Type} (items : List A) (distinct : items.Nodup) (ends : items.head? = items.reverse.head?) :
    items.length ≤ 1 := by
  cases items with
  | nil => exact Nat.zero_le 1
  | cons first rest =>
    cases rest with
    | nil => exact Nat.le_refl 1
    | cons second rest =>
      rw [List.head?_reverse,List.head?_cons,List.getLast?_cons_cons] at ends
      exact absurd (List.mem_of_getLast? ends.symm) (List.nodup_cons.mp distinct).1

theorem single_of_taken {A : Type} (items : List A) (count : Nat) (distinct : items.Nodup)
    (same : items.take (count+1) = items.reverse.take (count+1)) : items.length ≤ 1 := by
  apply single_of_ends items distinct
  have heads := congrArg List.head? same
  rw [List.head?_take,List.head?_take] at heads
  simpa using heads

theorem perm_of_single {A : Type} (first second : List A) (same : first.Perm second) (few : first.length ≤ 1) :
    first = second := by
  cases first with
  | nil => exact same.nil_eq
  | cons item rest =>
    have empty : rest = [] := List.eq_nil_of_length_eq_zero (by rw [List.length_cons] at few; omega)
    rw [empty] at same ⊢
    exact List.singleton_perm.mp same

section
variable {A : Type} (before : A → A → Prop) [DecidableRel before]

def selected (limit : Nat) (items : List A) : List A := (items.insertionSort before).take limit

theorem mem_selected (limit : Nat) (items : List A) (item : A) (member : item ∈ selected before limit items) :
    item ∈ items :=
  (List.mem_insertionSort before).mp (List.mem_of_mem_take member)

theorem length_selected (limit : Nat) (items : List A) :
    (selected before limit items).length = min limit items.length := by
  rw [selected,List.length_take,List.length_insertionSort]

theorem selected_all (limit : Nat) (items : List A) (room : items.length ≤ limit) :
    selected before limit items = items.insertionSort before :=
  List.take_of_length_le (by rwa [List.length_insertionSort])

variable {before}

theorem Preorders.sorted (preorders : Preorders before) (items : List A) :
    (items.insertionSort before).Pairwise before := by
  have total : Std.Total before := ⟨preorders.total⟩
  have transitive : IsTrans A before := ⟨preorders.trans⟩
  exact List.pairwise_insertionSort before items

theorem Preorders.selected_sorted (preorders : Preorders before) (limit : Nat) (items : List A) :
    (selected before limit items).Pairwise before :=
  (preorders.sorted items).sublist (List.take_sublist limit _)

theorem Preorders.left_out (preorders : Preorders before) (limit : Nat) (items : List A) (item other : A)
    (member : item ∈ items) (out : item ∉ selected before limit items)
    (inside : other ∈ selected before limit items) : before other item := by
  have parts : items.insertionSort before =
      selected before limit items ++ (items.insertionSort before).drop limit := (List.take_append_drop limit _).symm
  have sorted := preorders.sorted items
  rw [parts,List.pairwise_append] at sorted
  have placed : item ∈ items.insertionSort before := (List.mem_insertionSort before).mpr member
  rw [parts] at placed
  rcases List.mem_append.mp placed with early | late
  · exact absurd early out
  · exact sorted.2.2 other inside item late

theorem Preorders.sorted_perm (preorders : Preorders before) (first second : List A) (same : first.Perm second)
    (apart : Separates before first) : first.insertionSort before = second.insertionSort before := by
  have left := List.perm_insertionSort before first
  have right := List.perm_insertionSort before second
  apply ((left.trans same).trans right.symm).eq_of_pairwise
  · intro a b inFirst inSecond
    exact apart a (left.mem_iff.mp inFirst) b (same.mem_iff.mpr (right.mem_iff.mp inSecond))
  · exact preorders.sorted first
  · exact preorders.sorted second

theorem Preorders.selected_perm (preorders : Preorders before) (limit : Nat) (first second : List A)
    (same : first.Perm second) (apart : Separates before first) :
    selected before limit first = selected before limit second :=
  congrArg (List.take limit) (preorders.sorted_perm first second same apart)

theorem Preorders.sorted_filter (preorders : Preorders before)
    (items : List A) (apart : Separates before items) (test : A → Bool) :
    (items.insertionSort before).filter test = (items.filter test).insertionSort before := by
  have sorted := List.perm_insertionSort before items
  have kept := List.perm_insertionSort before (items.filter test)
  apply ((sorted.filter test).trans kept.symm).eq_of_pairwise
  · intro first second inFirst inSecond
    have left := sorted.mem_iff.mp (List.mem_of_mem_filter inFirst)
    have right := List.mem_of_mem_filter (kept.mem_iff.mp inSecond)
    exact apart first left second right
  · exact (preorders.sorted items).filter test
  · exact preorders.sorted _

theorem Preorders.sublist_pair_iff (preorders : Preorders before) (items : List A) (distinct : items.Nodup)
    (apart : Separates before items) (first second : A) : [first,second].Sublist (items.insertionSort before) ↔
      first ∈ items ∧ second ∈ items ∧ first ≠ second ∧ before first second := by
  have sorted := preorders.sorted items
  have permuted := List.perm_insertionSort before items
  have nodup : (items.insertionSort before).Nodup := permuted.nodup_iff.mpr distinct
  constructor
  · intro placed
    have differ := List.nodup_cons.mp (nodup.sublist placed)
    refine ⟨permuted.mem_iff.mp (placed.subset List.mem_cons_self),
      permuted.mem_iff.mp (placed.subset (List.mem_cons_of_mem _ List.mem_cons_self)),?_,?_⟩
    · intro same
      exact differ.1 (same ▸ List.mem_cons_self)
    · exact (List.pairwise_cons.mp (sorted.sublist placed)).1 second List.mem_cons_self
  · rintro ⟨inFirst,inSecond,differ,ordered⟩
    obtain ⟨front,back,split⟩ := List.append_of_mem (permuted.mem_iff.mpr inFirst)
    have placed : second ∈ items.insertionSort before := permuted.mem_iff.mpr inSecond
    rw [split] at sorted placed ⊢
    rcases List.mem_append.mp placed with early | late
    · have reversed := (List.pairwise_append.mp sorted).2.2 second early first List.mem_cons_self
      exact absurd (apart first inFirst second inSecond ordered reversed) differ
    · rcases List.mem_cons.mp late with same | later
      · exact absurd same.symm differ
      · exact (List.cons_sublist_cons.mpr (List.singleton_sublist.mpr later)).trans (List.sublist_append_right front _)

/-- How many items of a list come strictly before one of them. -/
def ahead (before : A → A → Prop) [DecidableRel before] (items : List A) (item : A) : Nat :=
  items.countP fun other => ¬before item other

/-- How many come before it or are like it, itself included. -/
def level (before : A → A → Prop) [DecidableRel before] (items : List A) (item : A) : Nat :=
  items.countP fun other => before other item

theorem ahead_perm (first second : List A) (same : first.Perm second) (item : A) :
    ahead before first item = ahead before second item := same.countP_eq _

theorem level_perm (first second : List A) (same : first.Perm second) (item : A) :
    level before first item = level before second item := same.countP_eq _

variable (before) in
theorem selected_parts (limit : Nat) (items : List A) :
    (selected before limit items ++ (items.insertionSort before).drop limit).Perm items := by
  rw [selected,List.take_append_drop]
  exact List.perm_insertionSort before items

variable (before) in
theorem length_of_left_out (limit : Nat) (items : List A) (item : A)
    (out : item ∈ (items.insertionSort before).drop limit) : (selected before limit items).length = limit := by
  have some := List.length_pos_of_mem out
  rw [List.length_drop] at some
  rw [selected,List.length_take]
  omega

theorem Preorders.ahead_of_selected (preorders : Preorders before) (limit : Nat) (items : List A) (item : A)
    (inside : item ∈ selected before limit items) : ahead before items item < limit := by
  obtain ⟨front,back,split⟩ := List.append_of_mem inside
  have short : front.length < limit := by
    have length := List.length_take_le limit (items.insertionSort before)
    rw [← selected,split,List.length_append,List.length_cons] at length
    omega
  have sorted := preorders.sorted items
  have parts : items.insertionSort before = front ++ item :: (back ++ (items.insertionSort before).drop limit) := by
    rw [← List.cons_append,← List.append_assoc,← split,selected,List.take_append_drop]
  rw [parts,List.pairwise_append,List.pairwise_cons] at sorted
  have behind : ∀ other ∈ item :: (back ++ (items.insertionSort before).drop limit), before item other := by
    intro other member
    rcases List.mem_cons.mp member with rfl | later
    · exact (preorders.total other other).elim id id
    · exact sorted.2.1.1 other later
  have none : (item :: (back ++ (items.insertionSort before).drop limit)).countP
      (fun other => ¬before item other) = 0 := by
    rw [List.countP_eq_zero]
    intro other member refused
    exact of_decide_eq_true refused (behind other member)
  calc ahead before items item
    _ = (items.insertionSort before).countP fun other => ¬before item other :=
      ((List.perm_insertionSort before items).countP_eq _).symm
    _ = front.countP fun other => ¬before item other := by rw [parts,List.countP_append,none,Nat.add_zero]
    _ ≤ front.length := List.countP_le_length
    _ < limit := short

theorem Preorders.selected_of_level (preorders : Preorders before) (limit : Nat) (items : List A) (item : A)
    (member : item ∈ items) (room : level before items item ≤ limit) : item ∈ selected before limit items := by
  by_contra out
  have late : item ∈ (items.insertionSort before).drop limit := by
    have placed := (selected_parts before limit items).mem_iff.mpr member
    exact (List.mem_append.mp placed).resolve_left out
  have earlier : (selected before limit items).countP (fun other => before other item) = limit := by
    apply Eq.trans _ (length_of_left_out before limit items item late)
    rw [List.countP_eq_length]
    intro other inside
    exact decide_eq_true (preorders.left_out limit items item other member out inside)
  have self : 0 < ((items.insertionSort before).drop limit).countP (fun other => before other item) :=
    List.countP_pos_iff.mpr ⟨item,late,decide_eq_true ((preorders.total item item).elim id id)⟩
  have total := (selected_parts before limit items).countP_eq fun other => before other item
  rw [List.countP_append,earlier] at total
  unfold level at room
  omega

/-- Among items in an order that tells them apart, exactly those with fewer than the limit
before them are selected. -/
theorem Preorders.mem_selected_iff (preorders : Preorders before) (limit : Nat) (items : List A)
    (apart : Separates before items) (item : A) (member : item ∈ items) :
    item ∈ selected before limit items ↔ ahead before items item < limit := by
  refine ⟨preorders.ahead_of_selected limit items item,fun few => ?_⟩
  by_contra out
  have late : item ∈ (items.insertionSort before).drop limit := by
    have placed := (selected_parts before limit items).mem_iff.mpr member
    exact (List.mem_append.mp placed).resolve_left out
  have earlier : (selected before limit items).countP (fun other => ¬before item other) = limit := by
    apply Eq.trans _ (length_of_left_out before limit items item late)
    rw [List.countP_eq_length]
    intro other inside
    refine decide_eq_true fun reversed => out ?_
    have known := mem_selected before limit items other inside
    have same := apart item member other known reversed
      (preorders.left_out limit items item other member out inside)
    exact same ▸ inside
  have total := (selected_parts before limit items).countP_eq fun other => ¬before item other
  rw [List.countP_append,earlier] at total
  unfold ahead at few
  omega

theorem selected_head (limit : Nat) (rest : List A) (item : A) (room : ahead before rest item < limit) :
    item ∈ selected before limit (item :: rest) := by
  have early : ((rest.insertionSort before).takeWhile fun other => ¬before item other).length < limit := by
    have prior := List.takeWhile_prefix (l := rest.insertionSort before) fun other => ¬before item other
    have counted : ((rest.insertionSort before).takeWhile fun other => ¬before item other).countP
        (fun other => ¬before item other) = ((rest.insertionSort before).takeWhile fun other => ¬before item other).length := by
      rw [List.countP_eq_length]
      intro other inside
      have kept := List.mem_takeWhile_imp inside
      exact kept
    have bounded := prior.sublist.countP_le (p := fun other => decide ¬before item other)
    rw [counted,(List.perm_insertionSort before rest).countP_eq] at bounded
    exact lt_of_le_of_lt bounded room
  rw [selected,List.insertionSort_cons_eq_take_drop,List.take_append,List.mem_append]
  right
  obtain ⟨more,split⟩ := Nat.exists_eq_succ_of_ne_zero (Nat.sub_ne_zero_of_lt early)
  rw [split,List.take_succ_cons]
  exact List.mem_cons_self

end

section
variable {A : Type} {first second : A → A → Prop} [DecidableRel first] [DecidableRel second]

/-- Two orders select alike exactly when no pair that they place differently begins, in the first
order, within the limit. -/
theorem selected_agree (left : Preorders first) (right : Preorders second) (limit : Nat) (items : List A)
    (firstApart : Separates first items) (secondApart : Separates second items) :
    selected first limit items = selected second limit items ↔
      ∀ item ∈ items, ∀ other ∈ items, ¬first other item → ¬second item other → limit ≤ ahead first items item := by
  constructor
  · intro same item inItem other inOther ordered reversed
    by_contra few
    have inside := (left.mem_selected_iff limit items firstApart item inItem).mpr (Nat.lt_of_not_le few)
    have also : other ∈ selected first limit items := by
      by_contra out
      rw [same] at inside out
      exact reversed (right.left_out limit items other item inOther out inside)
    have both : (selected first limit items).Pairwise fun one two => first one two ∧ second one two :=
      (left.selected_sorted limit items).and (same ▸ right.selected_sorted limit items)
    have apart : item ≠ other := by
      rintro rfl
      exact ordered ((left.total item item).elim id id)
    obtain ⟨front,back,split⟩ := List.append_of_mem inside
    rw [split] at also
    rcases List.mem_append.mp also with early | late
    · have placed : [other,item].Sublist (selected first limit items) := by
        rw [split]
        exact (List.singleton_sublist.mpr early).append (List.singleton_sublist.mpr List.mem_cons_self)
      exact ordered (List.pairwise_iff_forall_sublist.mp both placed).1
    · have behind := (List.mem_cons.mp late).resolve_left apart.symm
      have placed : [item,other].Sublist (selected first limit items) := by
        rw [split]
        exact (List.cons_sublist_cons.mpr (List.singleton_sublist.mpr behind)).trans (List.sublist_append_right front _)
      exact reversed (List.pairwise_iff_forall_sublist.mp both placed).2
  · intro settled
    have agreed (item : A) (inside : item ∈ selected first limit items) (other : A) (member : other ∈ items)
        (ordered : first item other) : second item other := by
      by_contra reversed
      have known := mem_selected first limit items item inside
      by_cases alike : first other item
      · have same := firstApart item known other member ordered alike
        subst same
        exact reversed ((right.total item item).elim id id)
      · have few := left.ahead_of_selected limit items item inside
        have many := settled item known other member alike reversed
        omega
    let out := (items.insertionSort first).drop limit
    have parts := selected_parts first limit items
    have rest := List.perm_insertionSort second out
    have permuted : (selected first limit items ++ out.insertionSort second).Perm items :=
      ((List.Perm.refl _).append rest).trans parts
    have ordered : (selected first limit items ++ out.insertionSort second).Pairwise second := by
      rw [List.pairwise_append]
      refine ⟨?_,right.sorted out,?_⟩
      · exact (left.selected_sorted limit items).imp_of_mem fun inside also before =>
          agreed _ inside _ (mem_selected first limit items _ also) before
      · intro item inside other late
        have sorted := left.sorted items
        have whole : items.insertionSort first = selected first limit items ++ out := (List.take_append_drop limit _).symm
        rw [whole,List.pairwise_append] at sorted
        have after := rest.mem_iff.mp late
        exact agreed item inside other (parts.mem_iff.mp (List.mem_append_right _ after))
          (sorted.2.2 item inside other after)
    have sorted : items.insertionSort second = selected first limit items ++ out.insertionSort second := by
      have again := List.perm_insertionSort second items
      apply (again.trans permuted.symm).eq_of_pairwise
      · intro a b inFirst inSecond
        exact secondApart a (again.mem_iff.mp inFirst) b (permuted.mem_iff.mp inSecond)
      · exact right.sorted items
      · exact ordered
    rw [selected.eq_def second,sorted]
    rcases Nat.lt_or_ge limit items.length with short | room
    · have length : (selected first limit items).length = limit := by
        rw [length_selected]
        omega
      exact (List.take_left' length).symm
    · have none : out = [] := List.drop_eq_nil_of_le (by rw [List.length_insertionSort]; exact room)
      rw [none,List.insertionSort_nil,List.append_nil]
      exact (List.take_of_length_le (by rw [length_selected]; omega)).symm

theorem selected_refined (coarse : Preorders first) (fine : Preorders second)
    (refines : ∀ one two, second one two → first one two) (limit : Nat) (items others : List A) (same : items.Perm others)
    (uncut : ∀ item ∈ items, limit ≤ ahead first items item ∨ level first items item ≤ limit) (item : A) :
    item ∈ selected first limit items ↔ item ∈ selected second limit others := by
  have fewer (inside : item ∈ items) (few : ahead first items item < limit) : level first items item ≤ limit :=
    (uncut item inside).resolve_left (Nat.not_le_of_lt few)
  constructor
  · intro inside
    have member := mem_selected first limit items item inside
    have room := fewer member (coarse.ahead_of_selected limit items item inside)
    apply fine.selected_of_level limit others item (same.mem_iff.mp member)
    rw [← level_perm items others same]
    refine le_trans (List.countP_mono_left fun other _ before => ?_) room
    exact decide_eq_true (refines other item (of_decide_eq_true before))
  · intro inside
    have member := same.mem_iff.mpr (mem_selected second limit others item inside)
    have few := fine.ahead_of_selected limit others item inside
    rw [← ahead_perm items others same] at few
    refine coarse.selected_of_level limit items item member (fewer member (lt_of_le_of_lt ?_ few))
    refine List.countP_mono_left fun other _ before => ?_
    exact decide_eq_true fun back => of_decide_eq_true before (refines item other back)

theorem left_out_of_cut (coarse : Preorders first) (fine : Preorders second)
    (refines : ∀ one two, second one two → first one two) (limit : Nat) (items : List A) (distinct : items.Nodup)
    (item : A) (member : item ∈ items) (many : limit < level first items item) :
    ∃ other ∈ items, first other item ∧ first item other ∧ other ∉ selected second limit items := by
  by_contra none
  have each (other : A) (inside : other ∈ items) (before : first other item) : other ∈ selected second limit items := by
    by_cases back : first item other
    · by_contra out
      exact none ⟨other,inside,before,back,out⟩
    · by_contra out
      have self : item ∈ selected second limit items := by
        by_contra out
        exact none ⟨item,member,(coarse.total item item).elim id id,(coarse.total item item).elim id id,out⟩
      exact back (refines _ _ (fine.left_out limit items other item inside out self))
  have group : (items.filter fun other => first other item).Nodup := distinct.sublist List.filter_sublist
  have inside : (items.filter fun other => first other item) ⊆ selected second limit items := by
    intro other kept
    obtain ⟨present,before⟩ := List.mem_filter.mp kept
    exact each other present (of_decide_eq_true before)
  have length := (List.subperm_of_subset group inside).length_le
  rw [← List.countP_eq_length_filter,length_selected] at length
  unfold level at many
  omega

end

/-- Items told apart by a key are known by it. -/
theorem eq_of_keys {A K : Type} (key : A → K) (items : List A) (distinct : (items.map key).Nodup) (one two : List A)
    (inOne : ∀ item ∈ one, item ∈ items) (inTwo : ∀ item ∈ two, item ∈ items) (same : one.map key = two.map key) :
    one = two := by
  induction one generalizing two with
  | nil => exact (List.map_eq_nil_iff.mp same.symm).symm
  | cons first rest ih =>
    obtain ⟨other,later,rfl,alike,equal⟩ := List.map_eq_cons_iff.mp same.symm
    rw [List.inj_on_of_nodup_map distinct (inTwo other List.mem_cons_self) (inOne first List.mem_cons_self) alike,
      ih later (fun item member => inOne item (List.mem_cons_of_mem _ member))
        (fun item member => inTwo item (List.mem_cons_of_mem _ member)) equal.symm]

section
variable {A K : Type} [LinearOrder K] (key : A → K) {first second : A → A → Prop} [DecidableRel first] [DecidableRel second]

/-- Two orders by the same key may place items of one key differently, but select the same keys. -/
theorem selected_keys (left : Preorders first) (right : Preorders second) (limit : Nat) (items others : List A)
    (same : items.Perm others) (firstDown : ∀ one ∈ items, ∀ two ∈ items, first one two → key two ≤ key one)
    (secondDown : ∀ one ∈ items, ∀ two ∈ items, second one two → key two ≤ key one) :
    (selected first limit items).map key = (selected second limit others).map key := by
  have one := List.perm_insertionSort first items
  have two := (List.perm_insertionSort second others).trans same.symm
  have sorted : (items.insertionSort first).map key = (others.insertionSort second).map key := by
    apply List.Perm.eq_of_pairwise (fun _ _ _ _ below above => le_antisymm above below)
    · refine List.pairwise_map.mpr ((left.sorted items).imp_of_mem ?_)
      exact fun inOne inTwo => firstDown _ (one.mem_iff.mp inOne) _ (one.mem_iff.mp inTwo)
    · refine List.pairwise_map.mpr ((right.sorted others).imp_of_mem ?_)
      exact fun inOne inTwo => secondDown _ (two.mem_iff.mp inOne) _ (two.mem_iff.mp inTwo)
    · exact (one.trans two.symm).map key
  unfold selected
  rw [List.map_take,List.map_take,sorted]

/-- So many of the items as there is room for, none with a lower key than what is left out. -/
structure Highest (limit : Nat) (items chosen : List A) : Prop where
  length : chosen.length = min limit items.length
  ordered : chosen.Pairwise fun one two => key two ≤ key one
  parts : ∃ rest, (chosen ++ rest).Perm items ∧ ∀ one ∈ chosen, ∀ two ∈ rest, key two ≤ key one

theorem Preorders.highest (preorders : Preorders first) (limit : Nat) (items : List A)
    (down : ∀ one ∈ items, ∀ two ∈ items, first one two → key two ≤ key one) :
    Highest key limit items (selected first limit items) := by
  have permuted := List.perm_insertionSort first items
  have sorted : (items.insertionSort first).Pairwise fun one two => key two ≤ key one := by
    refine (preorders.sorted items).imp_of_mem ?_
    exact fun inOne inTwo => down _ (permuted.mem_iff.mp inOne) _ (permuted.mem_iff.mp inTwo)
  have split := sorted
  rw [← List.take_append_drop limit (items.insertionSort first),List.pairwise_append] at split
  exact ⟨length_selected first limit items,split.1,(items.insertionSort first).drop limit,
    selected_parts first limit items,split.2.2⟩

end
end ArcadiaRecommendation
