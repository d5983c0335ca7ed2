import Mathlib.Data.List.TakeWhile
import Mathlib.Logic.Function.Iterate

/-! A queue served in batches that succeed or fail as a whole. What stands before the first batch with a
refused item is served, and that batch stays at the head for ever. -/
namespace ArcadiaRecommendation
variable {A : Type} (accepted : A → Bool) (size : Nat)

/-- One pass over the queue. -/
def advance (queue : List A) : List A := if (queue.take size).all accepted then queue.drop size else queue

/-- How many items are ever served. -/
def headway (queue : List A) : Nat :=
  let front := (queue.takeWhile accepted).length
  if front < queue.length then size * (front / size) else queue.length

variable {accepted}

theorem advance_accepted (front back : List A) (each : ∀ item ∈ front, accepted item = true) (room : size ≤ front.length) :
    advance accepted size (front ++ back) = front.drop size ++ back := by
  have taken : (front ++ back).take size = front.take size := List.take_append_of_le_length room
  rw [advance,taken,if_pos,List.drop_append_of_le_length room]
  exact List.all_eq_true.mpr fun item member => each item (List.mem_of_mem_take member)

theorem advance_refused (front : List A) (item : A) (back : List A) (refused : accepted item = false)
    (short : front.length < size) : advance accepted size (front ++ item :: back) = front ++ item :: back := by
  refine if_neg fun all => ?_
  have inside : item ∈ (front ++ item :: back).take size := by
    rw [List.take_append,List.mem_append]
    right
    obtain ⟨more,size_eq⟩ := Nat.exists_eq_add_of_lt short
    have left_over : size - front.length = more + 1 := by omega
    rw [left_over,List.take_succ_cons]
    exact List.mem_cons_self
  rw [List.all_eq_true.mp all item inside] at refused
  cases refused

theorem headway_refused (front : List A) (item : A) (back : List A) (each : ∀ item ∈ front, accepted item = true)
    (refused : accepted item = false) : headway accepted size (front ++ item :: back) = size * (front.length / size) := by
  have served : (front ++ item :: back).takeWhile accepted = front := by
    rw [List.takeWhile_append_of_pos each,List.takeWhile_cons_of_neg (by rw [refused]; exact Bool.false_ne_true),
      List.append_nil]
  rw [headway,served]
  refine if_pos ?_
  rw [List.length_append,List.length_cons]
  omega

theorem headway_accepted (queue : List A) (each : ∀ item ∈ queue, accepted item = true) :
    headway accepted size queue = queue.length := by
  have served : queue.takeWhile accepted = queue := List.takeWhile_eq_self_iff.mpr each
  rw [headway,served]
  exact if_neg (Nat.lt_irrefl _)

theorem iterate_accepted (passes : Nat) (queue : List A) (each : ∀ item ∈ queue, accepted item = true) :
    (advance accepted size)^[passes] queue = queue.drop (passes * size) := by
  induction passes generalizing queue with
  | zero => rw [Nat.zero_mul,List.drop_zero]; rfl
  | succ passes ih =>
    have served : advance accepted size queue = queue.drop size :=
      if_pos (List.all_eq_true.mpr fun item member => each item (List.mem_of_mem_take member))
    rw [Function.iterate_succ_apply,served,ih _ fun item member => each item (List.mem_of_mem_drop member),List.drop_drop,
      Nat.succ_mul,Nat.add_comm]

theorem iterate_refused (passes : Nat) (front : List A) (item : A) (back : List A)
    (each : ∀ item ∈ front, accepted item = true) (refused : accepted item = false) :
    (advance accepted size)^[passes] (front ++ item :: back) =
      (front ++ item :: back).drop (min (passes * size) (size * (front.length / size))) := by
  induction passes generalizing front with
  | zero => rw [Nat.zero_mul,Nat.zero_min,List.drop_zero]; rfl
  | succ passes ih =>
    by_cases short : front.length < size
    · rw [Function.iterate_fixed (advance_refused size front item back refused short),Nat.div_eq_of_lt short,Nat.mul_zero,
        Nat.min_zero,List.drop_zero]
    · have room : size ≤ front.length := Nat.le_of_not_lt short
      have counts : size + min (passes * size) (size * ((front.length - size) / size)) =
          min ((passes + 1) * size) (size * (front.length / size)) := by
        rcases Nat.eq_zero_or_pos size with rfl | positive
        · simp only [Nat.zero_mul,Nat.mul_zero,Nat.min_self,Nat.add_zero]
        · rw [Nat.div_eq_sub_div positive room,Nat.mul_succ,Nat.succ_mul]
          omega
      rw [Function.iterate_succ_apply,advance_accepted size front _ each room,
        ih _ fun item member => each item (List.mem_of_mem_drop member),List.length_drop,← counts,
        ← List.drop_append_of_le_length room,List.drop_drop]

/-- After any number of passes the head of the queue is where the passes led, or the batch that is refused. -/
theorem advance_iterate (passes : Nat) (queue : List A) :
    (advance accepted size)^[passes] queue = queue.drop (min (passes * size) (headway accepted size queue)) := by
  have parts : queue.takeWhile accepted ++ queue.dropWhile accepted = queue := List.takeWhile_append_dropWhile
  have each : ∀ item ∈ queue.takeWhile accepted, accepted item = true := fun item member => List.mem_takeWhile_imp member
  cases rest : queue.dropWhile accepted with
  | nil =>
    have all : ∀ item ∈ queue, accepted item = true := List.dropWhile_eq_nil_iff.mp rest
    rw [iterate_accepted size passes queue all,headway_accepted size queue all]
    rcases Nat.le_total (passes * size) queue.length with few | many
    · rw [Nat.min_eq_left few]
    · rw [Nat.min_eq_right many,List.drop_of_length_le many,List.drop_length]
  | cons item back =>
    have refused : accepted item = false := by
      have head := List.dropWhile_get_zero_not accepted queue (by rw [rest]; exact Nat.succ_pos _)
      simpa only [rest,List.get_eq_getElem,List.getElem_cons_zero,Bool.not_eq_true] using head
    rw [rest] at parts
    have served := iterate_refused size passes (queue.takeWhile accepted) item back each refused
    have stops := headway_refused size (queue.takeWhile accepted) item back each refused
    rw [parts] at served stops
    rw [served,stops]

end ArcadiaRecommendation
