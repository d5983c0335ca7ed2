import ArcadiaRecommendation.Foundation.Text
import Mathlib.Algebra.Group.Nat.Defs
import Mathlib.Data.List.Sort

/-! Identifiers, clock readings, limits and the faults of the domain. -/
namespace ArcadiaRecommendation

structure UUID where
  bits : BitVec 128
  deriving DecidableEq

/-- The canonical text: thirty-two lower-case hexadecimal digits in five groups. -/
def UUID.str (id : UUID) : String :=
  String.ofList ((List.range 32).flatMap fun place =>
    (if place ∈ [8,12,16,20] then ['-'] else []) ++ [Nat.digitChar (id.bits.toNat / 16^(31-place) % 16)])

theorem digitChar_injective (first second : Nat) (left : first < 16) (right : second < 16)
    (same : Nat.digitChar first = Nat.digitChar second) : first = second := by
  have all : ∀ first : Fin 16, ∀ second : Fin 16, Nat.digitChar first = Nat.digitChar second → first = second := by
    decide
  exact congrArg Fin.val (all ⟨first,left⟩ ⟨second,right⟩ same)

theorem digitChar_ne_dash (digit : Nat) (bound : digit < 16) : Nat.digitChar digit ≠ '-' := by
  have all : ∀ digit : Fin 16, Nat.digitChar digit ≠ '-' := by decide
  exact all ⟨digit,bound⟩

def UUID.digit (id : UUID) (place : Nat) : Nat := id.bits.toNat / 16^(31-place) % 16

theorem UUID.str_digits (id : UUID) : id.str.toList.filter (· ≠ '-') =
    (List.range 32).map fun place => Nat.digitChar (id.digit place) := by
  rw [UUID.str,String.toList_ofList,List.filter_flatMap,List.map_eq_flatMap]
  apply List.flatMap_congr
  intro place _
  have kept : Nat.digitChar (id.bits.toNat / 16^(31-place) % 16) ≠ '-' :=
    digitChar_ne_dash _ (Nat.mod_lt _ (by omega))
  by_cases dashed : place ∈ [8,12,16,20]
  · simp [dashed,kept,UUID.digit]
  · simp [dashed,kept,UUID.digit]

theorem mod_of_digits (first second count : Nat)
    (same : ∀ place, place < count → first / 16^place % 16 = second / 16^place % 16) :
    first % 16^count = second % 16^count := by
  induction count with
  | zero => rw [Nat.pow_zero,Nat.mod_one,Nat.mod_one]
  | succ count ih =>
    have lower := ih fun place bound => same place (by omega)
    rw [Nat.mod_pow_succ,Nat.mod_pow_succ,lower,same count (by omega)]

theorem UUID.str_injective (first second : UUID) (same : first.str = second.str) : first = second := by
  have digits := congrArg (fun text : String => text.toList.filter (· ≠ '-')) same
  simp only [UUID.str_digits] at digits
  have each (place : Nat) (bound : place < 32) : first.digit place = second.digit place := by
    have char := List.map_inj_left.mp digits place (List.mem_range.mpr bound)
    exact digitChar_injective _ _ (Nat.mod_lt _ (by omega)) (Nat.mod_lt _ (by omega)) char
  have small (id : UUID) : id.bits.toNat % 16^32 = id.bits.toNat := Nat.mod_eq_of_lt id.bits.isLt
  have bits := mod_of_digits first.bits.toNat second.bits.toNat 32 fun place bound => by
    have there := each (31 - place) (by omega)
    unfold UUID.digit at there
    rwa [show 31 - (31 - place) = place by omega] at there
  rw [small,small] at bits
  obtain ⟨left⟩ := first
  obtain ⟨right⟩ := second
  exact congrArg UUID.mk (BitVec.eq_of_toNat_eq bits)

/-- The value of a hexadecimal digit of either case. -/
def hexDigit (char : Char) : Option Nat :=
  if '0' ≤ char ∧ char ≤ '9' then some (char.toNat - '0'.toNat)
  else if 'a' ≤ char ∧ char ≤ 'f' then some (char.toNat - 'a'.toNat + 10)
  else if 'A' ≤ char ∧ char ≤ 'F' then some (char.toNat - 'A'.toNat + 10)
  else none

theorem hexDigit_digitChar (digit : Nat) (bound : digit < 16) : hexDigit (Nat.digitChar digit) = some digit := by
  have all : ∀ digit : Fin 16, hexDigit (Nat.digitChar digit) = some digit.val := by decide
  exact all ⟨digit,bound⟩

/-- Thirty-two hexadecimal digits, with dashes between them anywhere. -/
def UUID.ofText (text : String) : Option UUID :=
  match (text.toList.filter (· ≠ '-')).mapM hexDigit with
  | none => none
  | some digits =>
    if digits.length = 32 then some ⟨BitVec.ofNat 128 (digits.foldl (fun value digit => value * 16 + digit) 0)⟩ else none

theorem digits_hexed (places : List Nat) (digit : Nat → Nat) (bound : ∀ place, digit place < 16) :
    (places.map fun place => Nat.digitChar (digit place)).mapM hexDigit = some (places.map digit) := by
  induction places with
  | nil => rfl
  | cons place rest ih =>
    rw [List.map_cons,List.mapM_cons,hexDigit_digitChar (digit place) (bound place),ih]
    rfl

theorem digits_folded (number total count : Nat) (bound : count ≤ total) :
    ((List.range count).map fun place => number / 16^(total-1-place) % 16).foldl (fun value digit => value * 16 + digit) 0 =
      number / 16^(total-count) % 16^count := by
  induction count with
  | zero => rw [Nat.pow_zero,Nat.mod_one]; rfl
  | succ count ih =>
    rw [List.range_succ,List.map_append,List.foldl_append,ih (by omega)]
    have shifted : number / 16^(total-count) = number / 16^(total-(count+1)) / 16 := by
      rw [Nat.div_div_eq_div_mul,← Nat.pow_succ,Nat.succ_eq_add_one,show total - (count + 1) + 1 = total - count by omega]
    have place : total - 1 - count = total - (count + 1) := by omega
    simp only [List.map_cons,List.map_nil,List.foldl_cons,List.foldl_nil]
    rw [place,shifted,Nat.pow_succ',Nat.mod_mul]
    omega

theorem UUID.ofText_str (id : UUID) : ofText id.str = some id := by
  have digits : (id.str.toList.filter (· ≠ '-')).mapM hexDigit = some ((List.range 32).map id.digit) := by
    rw [str_digits]
    exact digits_hexed (List.range 32) id.digit fun place => Nat.mod_lt _ (by omega)
  have folded : ((List.range 32).map id.digit).foldl (fun value digit => value * 16 + digit) 0 = id.bits.toNat := by
    have read := digits_folded id.bits.toNat 32 32 (by omega)
    have small : id.bits.toNat % 16^32 = id.bits.toNat := Nat.mod_eq_of_lt id.bits.isLt
    rw [Nat.sub_self,Nat.pow_zero,Nat.div_one,small] at read
    exact read
  simp only [ofText,digits,folded,List.length_map,List.length_range,if_true,BitVec.ofNat_toNat,BitVec.setWidth_eq]

structure UserId where
  value : UUID
  deriving DecidableEq

structure GameId where
  value : UUID
  deriving DecidableEq

structure RecommendationId where
  value : UUID
  deriving DecidableEq

def UserId.str (id : UserId) : String := id.value.str

def GameId.str (id : GameId) : String := id.value.str

theorem GameId.str_injective (first second : GameId) (same : first.str = second.str) : first = second :=
  congrArg GameId.mk (UUID.str_injective first.value second.value same)

/-- A time zone aware instant, in microseconds of UTC. -/
structure DateTime where
  micros : Int
  deriving DecidableEq

structure EventStamp where
  eventId : UUID
  occurredAt : DateTime

namespace Limits

def defaultRecommendationCount : Nat := 10
def maxRecommendationCount : Nat := 50
def maxCollaborativeCandidates : Nat := 200
def maxFeatureChars : Nat := 64
def maxTitleChars : Nat := 200
def maxDescriptionChars : Nat := 2000
def maxSignalHistory : Nat := 200
def maxExplainedCandidates : Nat := 10

end Limits

/-- The rules an aggregate or value object can be asked to break. -/
inductive InvariantViolation
  | blankTitle
  | longTitle
  | negativePurchaseCount
  | blankFeature (kind : String)
  | longFeature (token : String)
  | widthMismatch (added own : Nat)
  | rankNotOneBased
  | negativeScore
  deriving DecidableEq

/-- The text of the exception, with the builtin `repr` of strings as a parameter. -/
def InvariantViolation.message (repr : String → String) : InvariantViolation → String
  | .blankTitle => "game title must not be blank"
  | .longTitle => s!"game title must be at most {Limits.maxTitleChars} characters"
  | .negativePurchaseCount => "purchase count must not be negative"
  | .blankFeature kind => s!"{kind} must not be blank"
  | .longFeature token => s!"feature {repr token} must be at most {Limits.maxFeatureChars} characters"
  | .widthMismatch added own =>
    s!"cannot add a {added}-dimensional vector to a {own}-dimensional one"
  | .rankNotOneBased => "rank is one-based"
  | .negativeScore => "a recommendation with a negative score should not have been kept"

/-- The exceptions that can leave a use case. -/
inductive Fault
  | violation (rule : InvariantViolation)
  /-- A builtin `ValueError`, such as a malformed UUID or unequal lengths in `zip`. -/
  | valueError
  /-- A unique constraint of the database was violated. -/
  | integrityError
  /-- Whatever a third party raised. -/
  | provider (message : String)
  deriving DecidableEq

def InvariantViolation.isWidth : InvariantViolation → Bool
  | .widthMismatch _ _ => true
  | _ => false

/-- A stable sort by a key order, the builtin `sorted`. -/
def sortedBy {A : Type} (before : A → A → Prop) [DecidableRel before] (items : List A) : List A :=
  items.insertionSort before

theorem mem_sortedBy {A : Type} (before : A → A → Prop) [DecidableRel before] (items : List A) (item : A) :
    item ∈ sortedBy before items ↔ item ∈ items :=
  (List.perm_insertionSort before items).mem_iff

theorem mapM_ok_iff {A B E : Type} (make : A → Except E B) (items : List A) (made : List B) :
    items.mapM make = .ok made ↔ List.Forall₂ (fun item result => make item = .ok result) items made := by
  induction items generalizing made with
  | nil =>
    rw [List.forall₂_nil_left_iff]
    exact ⟨fun done => (Except.ok.inj done).symm,fun none => congrArg Except.ok none.symm⟩
  | cons item rest ih =>
    rw [List.mapM_cons,List.forall₂_cons_left_iff]
    constructor
    · intro done
      cases first : make item with
      | error fault =>
        rw [first] at done
        cases done
      | ok result =>
        cases others : rest.mapM make with
        | error fault =>
          rw [first,others] at done
          cases done
        | ok tail =>
          rw [first,others] at done
          exact ⟨result,tail,rfl,(ih tail).mp others,(Except.ok.inj done).symm⟩
    · rintro ⟨result,tail,first,others,rfl⟩
      rw [first,(ih tail).mpr others]
      rfl

theorem mem_mapM_iff {A B E : Type} (make : A → Except E B) (items : List A) (made : List B)
    (ok : items.mapM make = .ok made) (result : B) : result ∈ made ↔ ∃ item ∈ items, make item = .ok result := by
  have each := (mapM_ok_iff make items made).mp ok
  clear ok
  induction each with
  | nil => simp
  | @cons item head rest tail first others ih =>
    rw [List.mem_cons,List.exists_mem_cons_iff,first,Except.ok.injEq,eq_comm]
    exact or_congr_right ih

theorem mem_mapM {A B E : Type} (make : A → Except E B) (items : List A) (made : List B)
    (ok : items.mapM make = .ok made) (result : B) (member : result ∈ made) : ∃ item ∈ items, make item = .ok result :=
  (mem_mapM_iff make items made ok result).mp member

theorem mapM_total_iff {A B E : Type} (make : A → Except E B) (items : List A) :
    (∃ made, items.mapM make = .ok made) ↔ ∀ item ∈ items, ∃ result, make item = .ok result := by
  simp only [mapM_ok_iff]
  induction items with
  | nil => exact iff_of_true ⟨[],.nil⟩ (List.forall_mem_nil _)
  | cons item rest ih =>
    rw [List.forall_mem_cons,← ih]
    constructor
    · rintro ⟨made,each⟩
      obtain ⟨result,tail,first,others,_⟩ := List.forall₂_cons_left_iff.mp each
      exact ⟨⟨result,first⟩,tail,others⟩
    · rintro ⟨⟨result,first⟩,made,others⟩
      exact ⟨result :: made,.cons first others⟩

theorem mapM_eq_map {A B E : Type} (make : A → Except E B) (result : A → B) (items : List A)
    (each : ∀ item ∈ items, make item = .ok (result item)) : items.mapM make = .ok (items.map result) := by
  rw [mapM_ok_iff,List.forall₂_map_right_iff]
  exact List.forall₂_same.mpr each

theorem mapM_written {A B E : Type} (write : A → B) (read : B → Except E A) (back : ∀ item, read (write item) = .ok item)
    (items : List A) : (items.map write).mapM read = .ok items := by
  rw [mapM_ok_iff,List.forall₂_map_left_iff]
  exact List.forall₂_same.mpr fun item _ => back item

theorem map_mapM {A B C E : Type} (make : A → Except E B) (change : B → C) (items : List A) :
    (items.mapM make).map (List.map change) = items.mapM fun item => (make item).map change := by
  induction items with
  | nil => rfl
  | cons item rest ih =>
    rw [List.mapM_cons,List.mapM_cons,← ih]
    cases make item with
    | error fault => rfl
    | ok result => cases rest.mapM make <;> rfl

theorem mapM_error_iff {A B E : Type} (make : A → Except E B) (items : List A) (fault : E) :
    items.mapM make = .error fault ↔ ∃ before item after, items = before ++ item :: after ∧
      (∀ earlier ∈ before, ∃ result, make earlier = .ok result) ∧ make item = .error fault := by
  constructor
  · intro failed
    induction items with
    | nil => cases failed
    | cons item rest ih =>
      rw [List.mapM_cons] at failed
      cases first : make item with
      | error other =>
        rw [first] at failed
        cases Except.error.inj failed
        exact ⟨[],item,rest,rfl,List.forall_mem_nil _,first⟩
      | ok head =>
        cases others : rest.mapM make with
        | error other =>
          rw [first,others] at failed
          cases Except.error.inj failed
          obtain ⟨before,broken,after,whole,made,failing⟩ := ih others
          refine ⟨item :: before,broken,after,by rw [whole]; rfl,?_,failing⟩
          exact List.forall_mem_cons.mpr ⟨⟨head,first⟩,made⟩
        | ok tail =>
          rw [first,others] at failed
          cases failed
  · rintro ⟨before,item,after,rfl,made,failing⟩
    obtain ⟨results,done⟩ := (mapM_total_iff make before).mpr made
    rw [List.mapM_append,done,List.mapM_cons,failing]
    rfl

theorem mapM_error {A B E : Type} (make : A → Except E B) (items : List A) (fault : E)
    (failed : items.mapM make = .error fault) : ∃ item ∈ items, make item = .error fault := by
  obtain ⟨before,item,after,rfl,_,failing⟩ := (mapM_error_iff make items fault).mp failed
  exact ⟨item,List.mem_append_right before List.mem_cons_self,failing⟩

theorem foldlM_kept {A B E : Type} (step : B → A → Except E B) (holds : B → Prop)
    (each : ∀ value item after, holds value → step value item = .ok after → holds after) (items : List A)
    (start last : B) (first : holds start) (folded : items.foldlM step start = .ok last) : holds last := by
  induction items generalizing start with
  | nil =>
    cases Except.ok.inj folded
    exact first
  | cons item rest ih =>
    rw [List.foldlM_cons] at folded
    cases stepped : step start item with
    | error fault =>
      rw [stepped] at folded
      cases folded
    | ok after =>
      rw [stepped] at folded
      exact ih after (each start item after first stepped) folded

theorem foldlM_error {A B E : Type} (step : B → A → Except E B) (holds : E → Prop)
    (each : ∀ value item fault, step value item = .error fault → holds fault) (items : List A) (start : B) (fault : E)
    (failed : items.foldlM step start = .error fault) : holds fault := by
  induction items generalizing start with
  | nil => cases failed
  | cons item rest ih =>
    rw [List.foldlM_cons] at failed
    cases first : step start item with
    | error other =>
      rw [first] at failed
      cases Except.error.inj failed
      exact each start item fault first
    | ok value =>
      rw [first] at failed
      exact ih value failed

theorem foldlM_invariant {A B E : Type} (step : B → A → Except E B) (holds : B → Prop) (items : List A)
    (each : ∀ value, ∀ item ∈ items, holds value → ∃ after, step value item = .ok after ∧ holds after) (start : B)
    (first : holds start) : ∃ after, items.foldlM step start = .ok after ∧ holds after := by
  induction items generalizing start with
  | nil => exact ⟨start,rfl,first⟩
  | cons item rest ih =>
    obtain ⟨value,stepped,kept⟩ := each start item List.mem_cons_self first
    obtain ⟨after,folded,last⟩ := ih (fun value other member => each value other (List.mem_cons_of_mem item member))
      value kept
    refine ⟨after,?_,last⟩
    rw [List.foldlM_cons,stepped]
    exact folded

end ArcadiaRecommendation
