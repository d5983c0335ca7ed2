import Mathlib.Data.List.Count

/-! Work handed out in rounds, some of it over and over. Where an item is passed over only for a full
batch of others, and nothing is handed out more often than a limit, few rounds can pass it over. -/
namespace ArcadiaRecommendation
variable {K : Type}

/-- One batch, and whether an item that is watched could have been in it. -/
structure Round (K : Type) where
  batch : List K
  offered : Bool

namespace Round

def handed (rounds : List (Round K)) : List K := rounds.flatMap Round.batch

variable [DecidableEq K]

theorem countP_cons_le (items keys : List K) (key : K) :
    items.countP (· ∈ key :: keys) ≤ items.count key + items.countP (· ∈ keys) := by
  induction items with
  | nil => exact Nat.zero_le _
  | cons item items ih =>
    have one : (if item ∈ key :: keys then 1 else 0) ≤ (if item = key then 1 else 0) + if item ∈ keys then 1 else 0 := by
      by_cases same : item = key
      · rw [if_pos same]
        split <;> omega
      · rw [if_neg same]
        simp only [List.mem_cons,same,false_or,Nat.zero_add,Nat.le_refl]
    simp only [List.countP_cons,List.count_cons,decide_eq_true_eq,beq_iff_eq]
    omega

theorem count_le (items keys : List K) (limit : Nat) (each : ∀ key ∈ keys, items.count key ≤ limit) :
    items.countP (· ∈ keys) ≤ limit * keys.length := by
  induction keys with
  | nil =>
    rw [List.countP_eq_zero.mpr fun item _ => by simp only [List.not_mem_nil,decide_false,Bool.false_eq_true,not_false_iff]]
    exact Nat.zero_le _
  | cons key keys ih =>
    calc items.countP (· ∈ key :: keys)
        ≤ items.count key + items.countP (· ∈ keys) := countP_cons_le items keys key
      _ ≤ limit + limit * keys.length :=
          Nat.add_le_add (each key List.mem_cons_self) (ih fun other member => each other (List.mem_cons_of_mem _ member))
      _ = limit * (key :: keys).length := by rw [List.length_cons,Nat.mul_succ,Nat.add_comm]

/-- The rounds that passed over an item had their batches full of others. -/
theorem passed_over (rounds : List (Round K)) (mine : K) (others : List K) (bound : Nat)
    (full : ∀ round ∈ rounds, round.offered = true → mine ∉ round.batch → bound ≤ round.batch.countP (· ∈ others)) :
    bound * (rounds.countP Round.offered - (handed rounds).count mine) ≤ (handed rounds).countP (· ∈ others) := by
  induction rounds with
  | nil => simp only [List.countP_nil,Nat.zero_sub,Nat.mul_zero,Nat.zero_le]
  | cons round rounds ih =>
    have rest := ih fun round member => full round (List.mem_cons_of_mem _ member)
    have first := full round List.mem_cons_self
    rw [handed,List.flatMap_cons,← handed,List.count_append,List.countP_append,List.countP_cons]
    by_cases missed : round.offered = true ∧ mine ∉ round.batch
    · have absent : round.batch.count mine = 0 := List.count_eq_zero.mpr missed.2
      have batch := first missed.1 missed.2
      rw [if_pos missed.1,absent,Nat.zero_add]
      calc bound * (rounds.countP Round.offered + 1 - (handed rounds).count mine)
          ≤ bound * (rounds.countP Round.offered - (handed rounds).count mine + 1) := Nat.mul_le_mul_left _ (by omega)
        _ = bound + bound * (rounds.countP Round.offered - (handed rounds).count mine) := by
          rw [Nat.mul_succ,Nat.add_comm]
        _ ≤ round.batch.countP (· ∈ others) + (handed rounds).countP (· ∈ others) := Nat.add_le_add batch rest
    · have covered : (if round.offered = true then 1 else 0) ≤ round.batch.count mine := by
        split
        · next offered =>
          have member : mine ∈ round.batch := by
            by_contra absent
            exact missed ⟨offered,absent⟩
          exact List.count_pos_iff.mpr member
        · exact Nat.zero_le _
      calc bound * (rounds.countP Round.offered + (if round.offered = true then 1 else 0) -
              (round.batch.count mine + (handed rounds).count mine))
          ≤ bound * (rounds.countP Round.offered - (handed rounds).count mine) := Nat.mul_le_mul_left _ (by omega)
        _ ≤ (handed rounds).countP (· ∈ others) := rest
        _ ≤ round.batch.countP (· ∈ others) + (handed rounds).countP (· ∈ others) := Nat.le_add_left _ _

/-- An item is passed over in few rounds, and is in the batch of all others that it was offered to. -/
theorem turns (rounds : List (Round K)) (mine : K) (others : List K) (bound limit : Nat)
    (full : ∀ round ∈ rounds, round.offered = true → mine ∉ round.batch → bound ≤ round.batch.countP (· ∈ others))
    (each : ∀ key, (handed rounds).count key ≤ limit) :
    bound * (rounds.countP Round.offered - (handed rounds).count mine) ≤ limit * others.length :=
  Nat.le_trans (passed_over rounds mine others bound full) (count_le _ others limit fun key _ => each key)

end Round

end ArcadiaRecommendation
