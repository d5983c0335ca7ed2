import ArcadiaRecommendation.Foundation.PeriodicLoop
import Mathlib.Data.List.Induction

/-! What any run of a periodic loop keeps: one live task and the owner holds it, no work once it is
stopped, and an interval between one piece of work and the next. -/
namespace ArcadiaRecommendation

/-- The owner's grip on its tasks. -/
structure Owned (state : LoopState) : Prop where
  held : ∀ place, state.held = some place → place < state.tasks.length
  sole : ∀ (place : Nat) task, state.tasks[place]? = some task → task.live = true → state.held = some place
  cancelled : state.stopping = true → ∀ (place : Nat) task, state.tasks[place]? = some task → task.live = true →
    task.cancelled = true
  closed : state.stopping = true → state.call = none → state.held = none
  starting : state.call = some .starting → state.held = none ∧ state.stopping = false
  closing : state.call = some .stopping → state.stopping = true
  alive : state.stopping = false → ∀ place, state.held = some place →
    ∃ task, state.tasks[place]? = some task ∧ task.live = true ∧ task.cancelled = false

namespace Owned
variable {state : LoopState}

theorem running (owned : Owned state) (open_ : state.stopping = false) : state.isRunning = state.held.isSome := by
  cases held : state.held with
  | none => simp only [LoopState.isRunning,held,Option.bind_none,Option.any_none,Option.isSome_none]
  | some place =>
    obtain ⟨task,found,live,_⟩ := owned.alive open_ place held
    simp only [LoopState.isRunning,held,Option.bind_some,found,Option.any_some,live,Option.isSome_some]

theorem idle_off (owned : Owned state) (idle : state.call = none) (off : state.isRunning = false) :
    state.held = none := by
  cases stopping : state.stopping with
  | true => exact owned.closed stopping idle
  | false =>
    rw [owned.running stopping] at off
    exact Option.isSome_eq_false_iff.mp off |> Option.isNone_iff_eq_none.mp

/-- A live task shows in the owner's own report. -/
theorem off_ended (owned : Owned state) (off : state.isRunning = false) {place : Nat} {task : LoopTask}
    (found : state.tasks[place]? = some task) : task.live = false := by
  cases live : task.live with
  | false => rfl
  | true =>
    have held := owned.sole place task found live
    rw [LoopState.isRunning,held,Option.bind_some,found,Option.any_some,live] at off
    cases off

theorem none_ended (owned : Owned state) (none_held : state.held = none) {place : Nat} {task : LoopTask}
    (found : state.tasks[place]? = some task) : task.live = false := by
  cases live : task.live with
  | false => rfl
  | true =>
    have held := owned.sole place task found live
    rw [none_held] at held
    cases held

theorem create (owned : Owned state) (none_held : state.held = none) (open_ : state.stopping = false) :
    Owned state.create where
  held place held := by
    cases Option.some.inj held
    simp only [LoopState.create,List.length_append,List.length_singleton,Nat.lt_succ_self]
  sole place task found live := by
    simp only [LoopState.create,List.getElem?_append] at found
    split at found
    · rw [owned.none_ended none_held found] at live
      cases live
    · next beyond =>
      obtain ⟨inside,_⟩ := List.getElem?_eq_some_iff.mp found
      rw [List.length_singleton] at inside
      exact congrArg some (by omega)
  cancelled stopping := by
    rw [LoopState.create,open_] at stopping
    cases stopping
  closed stopping := by
    rw [LoopState.create,open_] at stopping
    cases stopping
  starting starting := by cases starting
  closing closing := by cases closing
  alive _ place held := by
    cases Option.some.inj held
    exact ⟨_,List.getElem?_concat_length,rfl,rfl⟩

theorem stopping (owned : Owned state) {place : Nat} (held : state.held = some place) :
    Owned { state.cancel place with stopping := true, call := some .stopping } where
  held other other_held := by
    simp only [LoopState.cancel,List.length_modify]
    exact owned.held other other_held
  sole other task found live := by
    obtain ⟨before,was,_,phase,_⟩ := LoopState.cancel_get found
    rw [LoopTask.live,phase] at live
    exact owned.sole other before was live
  cancelled _ other task found live := by
    obtain ⟨before,was,_,phase,cancelled⟩ := LoopState.cancel_get found
    rw [LoopTask.live,phase] at live
    have same : place = other := Option.some.inj (held.symm.trans (owned.sole other before was live))
    rw [cancelled,decide_eq_true same,Bool.true_or]
  closed _ idle := by cases idle
  starting starting := by cases starting
  closing _ := rfl
  alive open_ := by cases open_

theorem resumed {loop : Routine} (owned : Owned state) {place : Nat} (raised : Bool) {task : LoopTask}
    (found : state.tasks[place]? = some task) : Owned (loop.resumed state place raised task) where
  held other other_held := by
    rw [Routine.resumed,List.length_set]
    exact owned.held other other_held
  sole other after get live := by
    have advanced := loop.onward_advanced state raised task fun stopping => owned.cancelled stopping place task found
    rcases set_get get with ⟨rfl,rfl⟩ | ⟨_,get⟩
    · exact owned.sole other task found (advanced.live (bne_iff_ne.mp live))
    · exact owned.sole other after get live
  cancelled stopping other after get live := by
    have advanced := loop.onward_advanced state raised task fun stopping => owned.cancelled stopping place task found
    rcases set_get get with ⟨rfl,rfl⟩ | ⟨_,get⟩
    · exact owned.cancelled stopping other task found (advanced.live (bne_iff_ne.mp live))
    · exact owned.cancelled stopping other after get live
  closed := owned.closed
  starting := owned.starting
  closing := owned.closing
  alive open_ other other_held := by
    have advanced := loop.onward_advanced state raised task fun stopping => owned.cancelled stopping place task found
    obtain ⟨before,was,live,wanted⟩ := owned.alive open_ other other_held
    by_cases same : place = other
    · subst same
      cases Option.some.inj (found.symm.trans was)
      refine ⟨_,List.getElem?_set_self (owned.held place other_held),bne_iff_ne.mpr (advanced.kept live wanted),wanted⟩
    · exact ⟨before,by rw [Routine.resumed,List.getElem?_set_ne same]; exact was,live,wanted⟩

theorem after (loop : Routine) (owned : Owned state) (move : LoopMove) : Owned (loop.after state move) := by
  have stepped := loop.after_stepped state move
  generalize loop.after state move = next at stepped ⊢
  cases stepped with
  | stayed => exact owned
  | waited ticks => exact ⟨owned.held,owned.sole,owned.cancelled,owned.closed,owned.starting,owned.closing,owned.alive⟩
  | probing idle off =>
    have none_held := owned.idle_off idle off
    refine ⟨owned.held,owned.sole,?_,?_,fun _ => ⟨none_held,rfl⟩,?_,?_⟩
    · intro stopping
      cases stopping
    · intro stopping
      cases stopping
    · intro closing
      cases closing
    · intro _ place held
      rw [none_held] at held
      cases held
  | started idle off =>
    have none_held := owned.idle_off idle off
    have opened : Owned { state with stopping := false } := by
      refine ⟨owned.held,owned.sole,?_,?_,fun starting => ⟨none_held,rfl⟩,?_,?_⟩
      · intro stopping
        cases stopping
      · intro stopping
        cases stopping
      · intro closing
        rw [idle] at closing
        cases closing
      · intro _ place held
        rw [none_held] at held
        cases held
    exact opened.create none_held rfl
  | probed starting => exact owned.create (owned.starting starting).1 (owned.starting starting).2
  | stopped idle none_held =>
    refine ⟨owned.held,owned.sole,?_,fun _ _ => none_held,?_,fun _ => rfl,?_⟩
    · intro _ place task found live
      rw [owned.none_ended none_held found] at live
      cases live
    · intro starting
      rw [idle] at starting
      cases starting
    · intro open_
      cases open_
  | stopping idle place held => exact owned.stopping held
  | joined waiting off =>
    have ended := fun place task (found : state.tasks[place]? = some task) => owned.off_ended off found
    refine ⟨?_,?_,?_,fun _ _ => rfl,?_,?_,?_⟩
    · intro place held
      cases held
    · intro place task found live
      rw [ended place task found] at live
      cases live
    · intro _ place task found live
      rw [ended place task found] at live
      cases live
    · intro starting
      cases starting
    · intro closing
      cases closing
    · intro _ place held
      cases held
  | resumed place raised task found => exact owned.resumed raised found

end Owned

theorem owned_initial : Owned {} := by
  refine ⟨?_,?_,?_,?_,?_,?_,?_⟩
  all_goals
    intros
    contradiction

theorem Routine.run_owned (loop : Routine) (moves : List LoopMove) : Owned (loop.run moves) := by
  induction moves using List.reverseRecOn with
  | nil => exact owned_initial
  | append_singleton moves move ih =>
    rw [run,List.foldl_append]
    exact ih.after loop move

/-- A loop that sleeps first keeps its distance across tasks too, since each starts with a sleep. -/
def Routine.Spaced (loop : Routine) (first second : LoopWork) : Prop :=
  loop.sleepsFirst = true ∨ first.task = second.task → first.began + loop.interval ≤ second.began

/-- What the clock says of the tasks and of the work they began. -/
structure Timed (loop : Routine) (state : LoopState) : Prop where
  created : ∀ (place : Nat) task, state.tasks[place]? = some task → task.created ≤ state.now
  sleeping : ∀ (place : Nat) task since, state.tasks[place]? = some task → task.phase = .sleeping since →
    task.created ≤ since ∧ since ≤ state.now ∧ ∀ work ∈ state.works, work.began ≤ since
  fresh : ∀ (place : Nat) task, state.tasks[place]? = some task → task.phase = .created →
    ∀ work ∈ state.works, work.task ≠ place
  began : ∀ work ∈ state.works, work.began ≤ state.now
  delayed : ∀ work ∈ state.works, ∃ task, state.tasks[work.task]? = some task ∧
    (loop.sleepsFirst = true → task.created + loop.interval ≤ work.began)
  spaced : state.works.Pairwise loop.Spaced

namespace Timed
variable {loop : Routine} {state : LoopState}

theorem create (timed : Timed loop state) : Timed loop state.create where
  created place task found := by
    simp only [LoopState.create,List.getElem?_append] at found
    split at found
    · exact timed.created place task found
    · rw [List.mem_singleton.mp (List.mem_of_getElem? found)]
      exact Nat.le_refl _
  sleeping place task since found asleep := by
    simp only [LoopState.create,List.getElem?_append] at found
    split at found
    · exact timed.sleeping place task since found asleep
    · rw [List.mem_singleton.mp (List.mem_of_getElem? found)] at asleep
      cases asleep
  fresh place task found new work began := by
    simp only [LoopState.create,List.getElem?_append] at found
    obtain ⟨before,was,_⟩ := timed.delayed work began
    obtain ⟨inside,_⟩ := List.getElem?_eq_some_iff.mp was
    split at found
    · exact timed.fresh place task found new work began
    · omega
  began := timed.began
  delayed work began := by
    obtain ⟨task,found,late⟩ := timed.delayed work began
    refine ⟨task,?_,late⟩
    obtain ⟨inside,_⟩ := List.getElem?_eq_some_iff.mp found
    rw [LoopState.create,List.getElem?_append_left inside]
    exact found
  spaced := timed.spaced

theorem cancel (timed : Timed loop state) (place : Nat) : Timed loop (state.cancel place) where
  created other task found := by
    obtain ⟨before,was,created,_⟩ := LoopState.cancel_get found
    rw [created]
    exact timed.created other before was
  sleeping other task since found asleep := by
    obtain ⟨before,was,created,phase,_⟩ := LoopState.cancel_get found
    rw [created]
    exact timed.sleeping other before since was (phase.symm.trans asleep)
  fresh other task found new := by
    obtain ⟨before,was,_,phase,_⟩ := LoopState.cancel_get found
    exact timed.fresh other before was (phase.symm.trans new)
  began := timed.began
  delayed work began := by
    obtain ⟨task,found,late⟩ := timed.delayed work began
    refine ⟨if place = work.task then { task with cancelled := true } else task,?_,?_⟩
    · rw [LoopState.cancel,List.getElem?_modify,found]
      rfl
    · split
      · exact late
      · exact late
  spaced := timed.spaced

/-- What the clock says where a task is resumed and no work begins. -/
theorem idled (timed : Timed loop state) {place : Nat} {task : LoopTask} {phase : LoopPhase}
    (found : state.tasks[place]? = some task) (advanced : loop.Advanced state task phase) (idle : phase ≠ .working) :
    Timed loop { state with tasks := state.tasks.set place { task with phase } } where
  created other after get := by
    rcases set_get get with ⟨_,rfl⟩ | ⟨_,get⟩
    · exact timed.created place task found
    · exact timed.created other after get
  sleeping other after since get asleep := by
    rcases set_get get with ⟨_,rfl⟩ | ⟨_,get⟩
    · cases asleep
      cases advanced with
      | rests fresh first => exact ⟨timed.created place task found,Nat.le_refl _,timed.began⟩
      | sleeps since asleep early => exact timed.sleeping place task since found asleep
      | tires busy => exact ⟨timed.created place task found,Nat.le_refl _,timed.began⟩
    · exact timed.sleeping other after since get asleep
  fresh other after get new := by
    rcases set_get get with ⟨_,rfl⟩ | ⟨_,get⟩
    · cases new
      cases advanced
    · exact timed.fresh other after get new
  began := timed.began
  delayed work began := by
    obtain ⟨before,was,late⟩ := timed.delayed work began
    obtain ⟨after,get,created⟩ := get_set found was phase
    exact ⟨after,get,by rw [created]; exact late⟩
  spaced := timed.spaced

/-- And where a piece of work begins. No other task is awake then. -/
theorem worked (timed : Timed loop state) {place : Nat} {task : LoopTask} (found : state.tasks[place]? = some task)
    (advanced : loop.Advanced state task .working)
    (alone : ∀ (other : Nat) after, state.tasks[other]? = some after → other ≠ place → after.live = false) :
    Timed loop { state with
      tasks := state.tasks.set place { task with phase := .working }
      works := state.works ++ [⟨place,state.now⟩] } where
  created other after get := by
    rcases set_get get with ⟨_,rfl⟩ | ⟨_,get⟩
    · exact timed.created place task found
    · exact timed.created other after get
  sleeping other after since get asleep := by
    rcases set_get get with ⟨_,rfl⟩ | ⟨elsewhere,get⟩
    · cases asleep
    · have ended := alone other after get elsewhere
      rw [LoopTask.live,asleep] at ended
      cases ended
  fresh other after get new := by
    rcases set_get get with ⟨_,rfl⟩ | ⟨elsewhere,get⟩
    · cases new
    · have ended := alone other after get elsewhere
      rw [LoopTask.live,new] at ended
      cases ended
  began work begun := by
    rcases List.mem_append.mp begun with before | now
    · exact timed.began work before
    · cases List.mem_singleton.mp now
      exact Nat.le_refl _
  delayed work begun := by
    rcases List.mem_append.mp begun with before | now
    · obtain ⟨before,was,late⟩ := timed.delayed work before
      obtain ⟨after,get,created⟩ := get_set found was .working
      exact ⟨after,get,by rw [created]; exact late⟩
    · cases List.mem_singleton.mp now
      obtain ⟨after,get,created⟩ := get_set found found .working
      refine ⟨after,get,fun first => ?_⟩
      rw [created]
      cases advanced with
      | works fresh second => rw [first] at second; cases second
      | wakes since asleep late =>
        exact Nat.le_trans (Nat.add_le_add_right (timed.sleeping place task since found asleep).1 _) late
  spaced := by
    refine List.pairwise_append.mpr ⟨timed.spaced,List.pairwise_singleton _ _,?_⟩
    intro before begun work now same
    cases List.mem_singleton.mp now
    cases advanced with
    | works fresh second =>
      rcases same with first | same
      · rw [first] at second
        cases second
      · exact absurd same (timed.fresh place task found fresh before begun)
    | wakes since asleep late =>
      exact Nat.le_trans (Nat.add_le_add_right ((timed.sleeping place task since found asleep).2.2 before begun) _) late

theorem resumed (timed : Timed loop state) (owned : Owned state) {place : Nat} (raised : Bool) {task : LoopTask}
    (found : state.tasks[place]? = some task) : Timed loop (loop.resumed state place raised task) := by
  have advanced := loop.onward_advanced state raised task fun stopping => owned.cancelled stopping place task found
  by_cases works : loop.onward state raised task = .working
  · have goes_on : loop.onward state raised task ≠ .finished := by
      rw [works]
      exact LoopPhase.noConfusion
    have held := owned.sole place task found (advanced.live goes_on)
    have alone : ∀ (other : Nat) after, state.tasks[other]? = some after → other ≠ place → after.live = false := by
      intro other after get elsewhere
      cases live : after.live with
      | false => rfl
      | true =>
        have other_held := owned.sole other after get live
        exact absurd (Option.some.inj (other_held.symm.trans held)) elsewhere
    rw [works] at advanced
    rw [Routine.resumed,works,if_pos rfl]
    exact timed.worked found advanced alone
  · rw [Routine.resumed,if_neg works]
    exact timed.idled found advanced works

theorem after (timed : Timed loop state) (owned : Owned state) (move : LoopMove) :
    Timed loop (loop.after state move) := by
  have stepped := loop.after_stepped state move
  generalize loop.after state move = next at stepped ⊢
  cases stepped with
  | stayed => exact timed
  | waited ticks =>
    have later : state.now ≤ state.now + ticks := Nat.le_add_right _ _
    refine ⟨?_,?_,timed.fresh,?_,timed.delayed,timed.spaced⟩
    · intro place task found
      exact Nat.le_trans (timed.created place task found) later
    · intro place task since found asleep
      obtain ⟨made,slept,began⟩ := timed.sleeping place task since found asleep
      exact ⟨made,Nat.le_trans slept later,began⟩
    · intro work began
      exact Nat.le_trans (timed.began work began) later
  | probing idle off => exact ⟨timed.created,timed.sleeping,timed.fresh,timed.began,timed.delayed,timed.spaced⟩
  | started idle off =>
    have made := timed.create
    exact ⟨made.created,made.sleeping,made.fresh,made.began,made.delayed,made.spaced⟩
  | probed starting => exact timed.create
  | stopped idle none_held => exact ⟨timed.created,timed.sleeping,timed.fresh,timed.began,timed.delayed,timed.spaced⟩
  | stopping idle place held =>
    have cut := timed.cancel place
    exact ⟨cut.created,cut.sleeping,cut.fresh,cut.began,cut.delayed,cut.spaced⟩
  | joined waiting off => exact ⟨timed.created,timed.sleeping,timed.fresh,timed.began,timed.delayed,timed.spaced⟩
  | resumed place raised task found => exact timed.resumed owned raised found

end Timed

theorem Routine.run_timed (loop : Routine) (moves : List LoopMove) : Timed loop (loop.run moves) := by
  induction moves using List.reverseRecOn with
  | nil =>
    refine ⟨?_,?_,?_,?_,?_,List.Pairwise.nil⟩
    all_goals
      intros
      contradiction
  | append_singleton moves move ih =>
    rw [run,List.foldl_append]
    exact ih.after (loop.run_owned moves) move

end ArcadiaRecommendation
