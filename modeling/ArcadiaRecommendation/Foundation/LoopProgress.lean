import ArcadiaRecommendation.Foundation.LoopRuns

/-! When a periodic loop works and when it rests: never once it is stopped, again and again until
then, and a stop that waits for its task comes back. -/
namespace ArcadiaRecommendation
namespace Routine
variable (loop : Routine)

theorem run_append (first second : List LoopMove) : loop.run (first ++ second) = second.foldl loop.after (loop.run first) :=
  List.foldl_append

theorem after_open {state : LoopState} {move : LoopMove} (open_ : state.stopping = false) (other : move ≠ .stop) :
    (loop.after state move).stopping = false := by
  cases move with
  | stop => exact absurd rfl other
  | wait ticks => exact open_
  | start =>
    dsimp only [after]
    split
    · exact open_
    · split <;> rfl
  | probed =>
    dsimp only [after]
    split <;> exact open_
  | joined =>
    dsimp only [after]
    split
    · split <;> exact open_
    · exact open_
    · exact open_
  | resume place raised =>
    dsimp only [after]
    split <;> exact open_

theorem after_halted {state : LoopState} {move : LoopMove} (owned : Owned state) (halted : state.stopping = true)
    (other : move ≠ .start) : (loop.after state move).stopping = true ∧ (loop.after state move).works = state.works := by
  cases move with
  | start => exact absurd rfl other
  | wait ticks => exact ⟨halted,rfl⟩
  | probed =>
    dsimp only [after]
    split
    · next starting =>
      rw [(owned.starting starting).2] at halted
      cases halted
    · exact ⟨halted,rfl⟩
    · exact ⟨halted,rfl⟩
  | stop =>
    dsimp only [after]
    split
    · exact ⟨halted,rfl⟩
    · split <;> exact ⟨rfl,rfl⟩
  | joined =>
    dsimp only [after]
    split
    · split <;> exact ⟨halted,rfl⟩
    · exact ⟨halted,rfl⟩
    · exact ⟨halted,rfl⟩
  | resume place raised =>
    dsimp only [after]
    split
    · next task found =>
      refine ⟨halted,if_neg ?_⟩
      rw [loop.onward_ended state raised task (owned.cancelled halted place task found)]
      exact LoopPhase.noConfusion
    · exact ⟨halted,rfl⟩

/-- Once stopped, no work begins before the next start. -/
theorem run_halted (moves later : List LoopMove) (halted : (loop.run moves).stopping = true)
    (calm : LoopMove.start ∉ later) :
    (loop.run (moves ++ later)).stopping = true ∧ (loop.run (moves ++ later)).works = (loop.run moves).works := by
  induction later using List.reverseRecOn with
  | nil =>
    rw [List.append_nil]
    exact ⟨halted,rfl⟩
  | append_singleton later move ih =>
    rw [List.mem_append,List.mem_singleton,not_or] at calm
    obtain ⟨still,same⟩ := ih calm.1
    rw [← List.append_assoc,run_append]
    have kept := loop.after_halted (loop.run_owned (moves ++ later)) still fun started => calm.2 started.symm
    exact ⟨kept.1,kept.2.trans same⟩

theorem after_length (state : LoopState) (move : LoopMove) :
    state.works.length ≤ (loop.after state move).works.length := by
  have stepped := loop.after_stepped state move
  generalize loop.after state move = next at stepped ⊢
  cases stepped with
  | resumed place raised task found =>
    dsimp only [resumed]
    split
    · rw [List.length_append]
      exact Nat.le_add_right _ _
    · exact Nat.le_refl _
  | _ => exact Nat.le_refl _

theorem after_resume {state : LoopState} {place : Nat} (raised : Bool) {task : LoopTask}
    (found : state.tasks[place]? = some task) :
    loop.after state (.resume place raised) = loop.resumed state place raised task := by
  rw [after,found]

theorem resumed_length {state : LoopState} {place : Nat} {raised : Bool} {task : LoopTask}
    (works : loop.onward state raised task = .working) :
    state.works.length < (loop.resumed state place raised task).works.length := by
  rw [resumed,if_pos works,List.length_append]
  exact Nat.lt_succ_self _

/-- More work has begun than at some moment, or the loop still sleeps since before it. -/
structure Nearing (place count moment : Nat) (state : LoopState) : Prop where
  open_ : state.stopping = false
  held : state.held = some place
  least : count ≤ state.works.length
  near : count < state.works.length ∨
    ∃ task since, state.tasks[place]? = some task ∧ task.phase = .sleeping since ∧ since ≤ moment

variable {loop}

/-- The task of a loop that was not stopped sleeps out its interval, and then works. -/
theorem asleep_onward {state : LoopState} (owned : Owned state) {place : Nat} (open_ : state.stopping = false)
    (held : state.held = some place) (raised : Bool) {task : LoopTask} (found : state.tasks[place]? = some task)
    {since : Nat} (slept : task.phase = .sleeping since) :
    loop.onward state raised task = if since + loop.interval ≤ state.now then .working else .sleeping since := by
  obtain ⟨same,was,live,wanted⟩ := owned.alive open_ place held
  cases Option.some.inj (found.symm.trans was)
  unfold onward
  rw [slept,wanted,loop.proceed_slept open_]
  exact if_neg Bool.false_ne_true

theorem nearing_resumed {state : LoopState} (owned : Owned state) (timed : Timed loop state) {place : Nat}
    (open_ : state.stopping = false) (held : state.held = some place) (raised : Bool) :
    Nearing place state.works.length state.now (loop.after state (.resume place raised)) := by
  obtain ⟨task,found,live,wanted⟩ := owned.alive open_ place held
  have advanced := loop.onward_advanced state raised task fun stopping => owned.cancelled stopping place task found
  have goes_on := advanced.kept live wanted
  have inside := owned.held place held
  have asleep : ∀ since, loop.onward state raised task = .sleeping since → since ≤ state.now →
      ∃ after since, (loop.resumed state place raised task).tasks[place]? = some after ∧
        after.phase = .sleeping since ∧ since ≤ state.now :=
    fun since phase before => ⟨_,since,List.getElem?_set_self inside,phase,before⟩
  have least := loop.after_length state (.resume place raised)
  rw [loop.after_resume raised found] at least ⊢
  refine ⟨open_,held,least,?_⟩
  generalize phase_eq : loop.onward state raised task = phase at advanced goes_on
  cases advanced with
  | ended lapsed => exact absurd rfl goes_on
  | rests fresh first => exact .inr (asleep state.now phase_eq (Nat.le_refl _))
  | works fresh first => exact .inl (loop.resumed_length phase_eq)
  | sleeps since slept early => exact .inr (asleep since phase_eq (timed.sleeping place task since found slept).2.1)
  | wakes since slept late => exact .inl (loop.resumed_length phase_eq)
  | tires busy => exact .inr (asleep state.now phase_eq (Nat.le_refl _))

namespace Nearing
variable {state : LoopState} {place count moment : Nat}

theorem wakes (nearing : Nearing place count moment state) (owned : Owned state)
    (late : moment + loop.interval ≤ state.now) (raised : Bool) :
    count < (loop.after state (.resume place raised)).works.length := by
  rcases nearing.near with grown | ⟨task,since,found,slept,before⟩
  · exact Nat.lt_of_lt_of_le grown (loop.after_length state _)
  · have works : loop.onward state raised task = .working := by
      rw [asleep_onward owned nearing.open_ nearing.held raised found slept,if_pos]
      omega
    rw [loop.after_resume raised found]
    exact Nat.lt_of_le_of_lt nearing.least (loop.resumed_length works)

theorem resumed (nearing : Nearing place count moment state) (owned : Owned state) (other : Nat) (raised : Bool)
    {task : LoopTask} (found : state.tasks[other]? = some task) :
    Nearing place count moment (loop.resumed state other raised task) := by
  have longer := loop.after_length state (.resume other raised)
  rw [loop.after_resume raised found] at longer
  refine ⟨nearing.open_,nearing.held,Nat.le_trans nearing.least longer,?_⟩
  rcases nearing.near with grown | ⟨sleeper,since,get,slept,before⟩
  · exact .inl (Nat.lt_of_lt_of_le grown longer)
  by_cases same : other = place
  · subst same
    cases Option.some.inj (found.symm.trans get)
    have onward : loop.onward state raised task =
        if since + loop.interval ≤ state.now then .working else .sleeping since :=
      asleep_onward owned nearing.open_ nearing.held raised found slept
    split at onward
    · exact .inl (Nat.lt_of_le_of_lt nearing.least (loop.resumed_length onward))
    · exact .inr ⟨_,since,List.getElem?_set_self (owned.held other nearing.held),onward,before⟩
  · exact .inr ⟨sleeper,since,(List.getElem?_set_ne same).trans get,slept,before⟩

theorem after (nearing : Nearing place count moment state) (owned : Owned state) {move : LoopMove}
    (other : move ≠ .stop) : Nearing place count moment (loop.after state move) := by
  have open_ := loop.after_open nearing.open_ other
  have running : state.isRunning = true := by
    rw [owned.running nearing.open_,nearing.held,Option.isSome_some]
  have stepped := loop.after_stepped state move
  generalize loop.after state move = next at stepped open_ ⊢
  cases stepped with
  | stayed => exact nearing
  | waited ticks => exact ⟨nearing.open_,nearing.held,nearing.least,nearing.near⟩
  | probing idle off => rw [running] at off; cases off
  | started idle off => rw [running] at off; cases off
  | probed starting =>
    have none_held := (owned.starting starting).1
    rw [nearing.held] at none_held
    cases none_held
  | stopped idle none_held => cases open_
  | stopping idle place held => cases open_
  | joined waiting off => rw [running] at off; cases off
  | resumed other raised task found => exact nearing.resumed owned other raised found

end Nearing

theorem run_nearing (moves between : List LoopMove) {place : Nat} (open_ : (loop.run moves).stopping = false)
    (held : (loop.run moves).held = some place) (raised : Bool) (calm : LoopMove.stop ∉ between) :
    Nearing place (loop.run moves).works.length (loop.run moves).now (loop.run (moves ++ .resume place raised :: between)) := by
  induction between using List.reverseRecOn with
  | nil =>
    rw [run_append]
    exact nearing_resumed (loop.run_owned moves) (loop.run_timed moves) open_ held raised
  | append_singleton between move ih =>
    rw [List.mem_append,List.mem_singleton,not_or] at calm
    rw [← List.cons_append,← List.append_assoc,run_append]
    exact (ih calm.1).after (loop.run_owned _) fun stopped => calm.2 stopped.symm

/-- Resumed at two moments an interval apart, a loop that is not stopped begins work in between. -/
theorem works_again (moves between : List LoopMove) {place : Nat} (open_ : (loop.run moves).stopping = false)
    (held : (loop.run moves).held = some place) (first last : Bool) (calm : LoopMove.stop ∉ between)
    (late : (loop.run moves).now + loop.interval ≤ (loop.run (moves ++ .resume place first :: between)).now) :
    (loop.run moves).works.length <
      (loop.run (moves ++ .resume place first :: between ++ [.resume place last])).works.length := by
  rw [run_append _ _ [_]]
  exact (run_nearing moves between open_ held first calm).wakes (loop.run_owned _) late last

theorem after_joined (state : LoopState) (waiting : state.call = some .stopping) (off : state.isRunning = false) :
    loop.after state .joined = { state with held := none, call := none } := by
  rw [Routine.after,waiting]
  exact if_neg (Bool.eq_false_iff.mp off)

/-- A stop that waits needs the cancelled task to be resumed once, and then returns. -/
theorem stop_returns (moves : List LoopMove) {place : Nat} (waiting : (loop.run moves).call = some .stopping)
    (held : (loop.run moves).held = some place) (raised : Bool) :
    (loop.run (moves ++ [.resume place raised,.joined])).call = none ∧
      (loop.run (moves ++ [.resume place raised,.joined])).isRunning = false := by
  have owned := loop.run_owned moves
  have inside := owned.held place held
  obtain ⟨task,found⟩ : ∃ task, (loop.run moves).tasks[place]? = some task := ⟨_,List.getElem?_eq_getElem inside⟩
  have ends := loop.onward_ended (loop.run moves) raised task (owned.cancelled (owned.closing waiting) place task found)
  have off : (loop.resumed (loop.run moves) place raised task).isRunning = false := by
    simp only [LoopState.isRunning,resumed,held,Option.bind_some,List.getElem?_set_self inside,Option.any_some,
      LoopTask.live,ends,bne_self_eq_false]
  rw [run_append,List.foldl_cons,List.foldl_cons,List.foldl_nil,loop.after_resume raised found,
    after_joined (loop.resumed (loop.run moves) place raised task) waiting off]
  exact ⟨rfl,rfl⟩

end Routine

end ArcadiaRecommendation
