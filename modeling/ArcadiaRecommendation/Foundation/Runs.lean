import Mathlib.Logic.Basic

/-! Runs as folds of a step over moves, conditions that every move of a run meets where it is made,
and what such a run keeps. -/
namespace ArcadiaRecommendation
variable {State Move : Type}

def Throughout (step : State → Move → State) (meets : State → Move → Prop) : State → List Move → Prop
  | _,[] => True
  | state,move :: rest => meets state move ∧ Throughout step meets (step state move) rest

instance decidableThroughout (step : State → Move → State) (meets : State → Move → Prop)
    [∀ state move, Decidable (meets state move)] : (state : State) → (moves : List Move) →
      Decidable (Throughout step meets state moves)
  | _,[] => inferInstanceAs (Decidable True)
  | state,move :: rest =>
    have := decidableThroughout step meets (step state move) rest
    inferInstanceAs (Decidable (meets state move ∧ _))

variable {step : State → Move → State} {meets : State → Move → Prop}

theorem throughout_append (start : State) (first second : List Move) :
    Throughout step meets start (first ++ second) ↔
      Throughout step meets start first ∧ Throughout step meets (first.foldl step start) second := by
  induction first generalizing start with
  | nil => rw [List.nil_append,Throughout,true_and,List.foldl_nil]
  | cons move rest ih =>
    rw [List.cons_append,List.foldl_cons,Throughout,Throughout,ih,and_assoc]

theorem Throughout.kept {start : State} {moves : List Move} (met : Throughout step meets start moves)
    (holds : State → Prop) (each : ∀ state move, holds state → meets state move → holds (step state move))
    (first : holds start) : holds (moves.foldl step start) := by
  induction moves generalizing start with
  | nil => exact first
  | cons move rest ih => exact ih met.2 (each start move first met.1)

theorem Throughout.weaken {other : State → Move → Prop} {start : State} {moves : List Move}
    (met : Throughout step meets start moves) (kept : State → Prop)
    (each : ∀ state move, kept state → meets state move → kept (step state move) ∧ other state move)
    (first : kept start) : Throughout step other start moves := by
  induction moves generalizing start with
  | nil => trivial
  | cons move rest ih =>
    obtain ⟨next,meets⟩ := each start move first met.1
    exact ⟨meets,ih met.2 next⟩

/-- Where a condition decides what one move keeps, it decides what every state of a run keeps. -/
theorem throughout_iff (kept holds : State → Prop) (each : ∀ state move, kept state → kept (step state move))
    (decides : ∀ state move, kept state → holds state → (holds (step state move) ↔ meets state move)) (start : State)
    (invariant : kept start) (first : holds start) (moves : List Move) :
    (∀ earlier later, moves = earlier ++ later → holds (earlier.foldl step start)) ↔
      Throughout step meets start moves := by
  induction moves generalizing start with
  | nil =>
    refine ⟨fun _ => trivial,fun _ earlier later split => ?_⟩
    rw [(List.append_eq_nil_iff.mp split.symm).1]
    exact first
  | cons move rest ih =>
    have next := ih (step start move) (each start move invariant)
    constructor
    · intro all
      have moved : holds (step start move) := all [move] rest rfl
      refine ⟨(decides start move invariant first).mp moved,(next moved).mp fun earlier later split => ?_⟩
      exact all (move :: earlier) later (congrArg (move :: ·) split)
    · intro met earlier later split
      have moved := (decides start move invariant first).mpr met.1
      cases earlier with
      | nil => exact first
      | cons other earlier =>
        obtain ⟨same,rest⟩ := List.cons.inj split
        subst same
        exact (next moved).mpr met.2 earlier later rest

end ArcadiaRecommendation
