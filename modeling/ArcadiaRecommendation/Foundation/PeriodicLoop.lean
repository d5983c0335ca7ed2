import Mathlib.Data.List.Basic

/-! A loop that sleeps and works in turns, as a task of a cooperative event loop, and the calls that
start and stop it. A task runs unbroken from one wait to the next, so other moves fall between waits. -/
namespace ArcadiaRecommendation

inductive LoopStep
  | recheck
  | sleep
  | work
  deriving DecidableEq

def LoopStep.waits : LoopStep → Bool
  | .recheck => false
  | .sleep | .work => true

/-- `while not stopping` over one round. An exception of the work is caught, and may end the round. A
cancellation that the work itself raises would end the task, and is outside the model: here only `stop`
cancels. -/
structure Routine where
  round : List LoopStep
  interval : Nat
  enabled : Bool
  /-- Starting awaits one call of the work before the task is created. -/
  probes : Bool
  raiseEnds : Bool
  alternates : round.filter LoopStep.waits = [.sleep,.work] ∨
    round.filter LoopStep.waits = [.work,.sleep] ∧ raiseEnds = false

inductive LoopPhase
  | created
  | sleeping (since : Nat)
  | working
  | finished
  deriving DecidableEq

structure LoopTask where
  created : Nat
  phase : LoopPhase := .created
  cancelled : Bool := false

/-- The work that a task began, and when. -/
structure LoopWork where
  task : Nat
  began : Nat

inductive LoopCall
  | starting
  | stopping

structure LoopState where
  now : Nat := 0
  stopping : Bool := false
  held : Option Nat := none
  /-- The call of the owner that is under way. The owner awaits each before the next. -/
  call : Option LoopCall := none
  tasks : List LoopTask := []
  works : List LoopWork := []

inductive LoopMove
  | wait (ticks : Nat)
  | start
  | probed
  | stop
  | joined
  /-- `raised` says whether the work raised an exception that the loop catches. -/
  | resume (task : Nat) (raised : Bool)

def LoopTask.live (task : LoopTask) : Bool := task.phase != .finished

theorem set_get {tasks : List LoopTask} {place other : Nat} {task found : LoopTask}
    (get : (tasks.set place task)[other]? = some found) :
    other = place ∧ found = task ∨ other ≠ place ∧ tasks[other]? = some found := by
  by_cases same : place = other
  · subst same
    rw [List.getElem?_set_self'] at get
    obtain ⟨_,_,rfl⟩ := Option.map_eq_some_iff.mp get
    exact .inl ⟨rfl,rfl⟩
  · rw [List.getElem?_set_ne same] at get
    exact .inr ⟨fun other_eq => same other_eq.symm,get⟩

theorem get_set {tasks : List LoopTask} {place other : Nat} {task before : LoopTask}
    (found : tasks[place]? = some task) (was : tasks[other]? = some before) (phase : LoopPhase) :
    ∃ after, (tasks.set place { task with phase })[other]? = some after ∧ after.created = before.created := by
  by_cases same : place = other
  · subst same
    cases Option.some.inj (found.symm.trans was)
    exact ⟨_,List.getElem?_set_self (List.getElem?_eq_some_iff.mp found).1,rfl⟩
  · exact ⟨before,(List.getElem?_set_ne same).trans was,rfl⟩

namespace LoopState
variable (state : LoopState)

def isRunning : Bool := (state.held.bind (state.tasks[·]?)).any LoopTask.live

def create : LoopState :=
  { state with tasks := state.tasks ++ [{ created := state.now }], held := some state.tasks.length, call := none }

def cancel (place : Nat) : LoopState :=
  { state with tasks := state.tasks.modify place fun task => { task with cancelled := true } }

variable {state} in
theorem cancel_get {place other : Nat} {task : LoopTask} (found : (state.cancel place).tasks[other]? = some task) :
    ∃ before, state.tasks[other]? = some before ∧ task.created = before.created ∧ task.phase = before.phase ∧
      task.cancelled = (decide (place = other) || before.cancelled) := by
  obtain ⟨before,was,rfl⟩ := Option.map_eq_some_iff.mp ((List.getElem?_modify ..).symm.trans found)
  refine ⟨before,was,?_⟩
  split
  · next same => exact ⟨rfl,rfl,by rw [decide_eq_true same,Bool.true_or]⟩
  · next other_place => exact ⟨rfl,rfl,by rw [decide_eq_false other_place,Bool.false_or]⟩

end LoopState

namespace Routine
variable (loop : Routine)

def rest (step : LoopStep) : List LoopStep → List LoopStep
  | [] => []
  | other :: steps => if other = step then steps else rest step steps

/-- From a place in the round to the next wait. `beyond` is what comes at the end of the round. -/
def reach (stopping : Bool) (now : Nat) (beyond : LoopPhase) : List LoopStep → LoopPhase
  | [] => beyond
  | .sleep :: _ => .sleeping now
  | .work :: _ => .working
  | .recheck :: steps => if stopping then .finished else reach stopping now beyond steps

def top (state : LoopState) : LoopPhase :=
  if state.stopping then .finished else reach state.stopping state.now .finished loop.round

def proceed (state : LoopState) (steps : List LoopStep) : LoopPhase :=
  reach state.stopping state.now (loop.top state) steps

/-- Where a task that is resumed waits next. A sleep that is not over, or a task that ended, stays. -/
def onward (state : LoopState) (raised : Bool) (task : LoopTask) : LoopPhase :=
  match task.phase with
  | .created => if task.cancelled then .finished else loop.top state
  | .sleeping since =>
    if task.cancelled then .finished
    else if since + loop.interval ≤ state.now then loop.proceed state (rest .sleep loop.round)
    else .sleeping since
  | .working =>
    if task.cancelled then .finished
    else loop.proceed state (if raised && loop.raiseEnds then [] else rest .work loop.round)
  | .finished => .finished

def resumed (state : LoopState) (place : Nat) (raised : Bool) (task : LoopTask) : LoopState :=
  let phase := loop.onward state raised task
  { state with
    tasks := state.tasks.set place { task with phase }
    works := if phase = .working then state.works ++ [⟨place,state.now⟩] else state.works }

def after (state : LoopState) : LoopMove → LoopState
  | .wait ticks => { state with now := state.now + ticks }
  | .start =>
    if state.call.isSome || !loop.enabled || state.isRunning then state
    else if loop.probes then { state with stopping := false, call := some .starting }
    else LoopState.create { state with stopping := false }
  | .probed =>
    match state.call with
    | some .starting => state.create
    | some .stopping | none => state
  | .stop =>
    if state.call.isSome then state
    else
      match state.held with
      | none => { state with stopping := true }
      | some place => { state.cancel place with stopping := true, call := some .stopping }
  | .joined =>
    match state.call with
    | some .stopping => if state.isRunning then state else { state with held := none, call := none }
    | some .starting | none => state
  | .resume place raised =>
    match state.tasks[place]? with
    | some task => loop.resumed state place raised task
    | none => state

def run (moves : List LoopMove) : LoopState := moves.foldl loop.after {}

def sleepsFirst : Bool := loop.round.filter LoopStep.waits == [.sleep,.work]

theorem filter_rest (step : LoopStep) (waits : step.waits = true) (steps : List LoopStep) :
    (rest step steps).filter LoopStep.waits = rest step (steps.filter LoopStep.waits) := by
  induction steps with
  | nil => rfl
  | cons other steps ih =>
    by_cases same : other = step
    · rw [List.filter_cons_of_pos (by rw [same]; exact waits),rest,rest,if_pos same,if_pos same]
    · rw [rest,if_neg same,ih,List.filter_cons]
      split
      · rw [rest,if_neg same]
      · rfl

/-- Until the loop is stopped, only the steps that wait matter. -/
theorem reach_open (now : Nat) (beyond : LoopPhase) (steps : List LoopStep) :
    reach false now beyond steps = reach false now beyond (steps.filter LoopStep.waits) := by
  induction steps with
  | nil => rfl
  | cons step steps ih =>
    cases step with
    | recheck => exact ih
    | sleep => rfl
    | work => rfl

theorem top_open {state : LoopState} (open_ : state.stopping = false) :
    loop.top state = if loop.sleepsFirst then .sleeping state.now else .working := by
  rw [top,open_,if_neg Bool.false_ne_true,reach_open,sleepsFirst]
  rcases loop.alternates with first | ⟨first,_⟩
  · rw [first]
    rfl
  · rw [first]
    rfl

theorem proceed_slept {state : LoopState} (open_ : state.stopping = false) :
    loop.proceed state (rest .sleep loop.round) = .working := by
  rw [proceed,loop.top_open open_,open_,reach_open,filter_rest .sleep rfl,sleepsFirst]
  rcases loop.alternates with first | ⟨first,_⟩
  · rw [first]
    rfl
  · rw [first]
    rfl

theorem proceed_worked {state : LoopState} (open_ : state.stopping = false) (raised : Bool) :
    loop.proceed state (if raised && loop.raiseEnds then [] else rest .work loop.round) = .sleeping state.now := by
  rw [proceed,loop.top_open open_,open_,reach_open]
  rcases loop.alternates with first | ⟨first,goes_on⟩
  · have sleeper : loop.sleepsFirst = true := by rw [sleepsFirst,first]; rfl
    rw [sleeper,if_pos rfl]
    split
    · rfl
    · rw [filter_rest .work rfl,first]
      rfl
  · rw [goes_on,Bool.and_false,if_neg Bool.false_ne_true,filter_rest .work rfl,first]
    rfl

/-- Where a resumed task can come to, of a loop whose tasks are cancelled once it is stopped. -/
inductive Advanced (state : LoopState) (task : LoopTask) : LoopPhase → Prop
  | ended (lapsed : task.live = true → task.cancelled = true) : Advanced state task .finished
  | rests (fresh : task.phase = .created) (first : loop.sleepsFirst = true) : Advanced state task (.sleeping state.now)
  | works (fresh : task.phase = .created) (first : loop.sleepsFirst = false) : Advanced state task .working
  | sleeps (since : Nat) (asleep : task.phase = .sleeping since) (early : state.now < since + loop.interval) :
      Advanced state task (.sleeping since)
  | wakes (since : Nat) (asleep : task.phase = .sleeping since) (late : since + loop.interval ≤ state.now) :
      Advanced state task .working
  | tires (busy : task.phase = .working) : Advanced state task (.sleeping state.now)

theorem onward_ended (state : LoopState) (raised : Bool) (task : LoopTask)
    (lapsed : task.live = true → task.cancelled = true) : loop.onward state raised task = .finished := by
  unfold onward
  split
  · next fresh => exact if_pos (lapsed (by rw [LoopTask.live,fresh]; rfl))
  · next since asleep => exact if_pos (lapsed (by rw [LoopTask.live,asleep]; rfl))
  · next busy => exact if_pos (lapsed (by rw [LoopTask.live,busy]; rfl))
  · rfl

theorem onward_advanced (state : LoopState) (raised : Bool) (task : LoopTask)
    (halted : state.stopping = true → task.live = true → task.cancelled = true) :
    loop.Advanced state task (loop.onward state raised task) := by
  by_cases lapsed : task.live = true → task.cancelled = true
  · rw [loop.onward_ended state raised task lapsed]
    exact .ended lapsed
  · have cancelled : ¬task.cancelled = true := fun cancelled => lapsed fun _ => cancelled
    have open_ : state.stopping = false := Bool.eq_false_iff.mpr fun stopping => lapsed (halted stopping)
    unfold onward
    split
    · next fresh =>
      rw [if_neg cancelled,loop.top_open open_]
      split
      · next first => exact .rests fresh first
      · next first => exact .works fresh (Bool.eq_false_iff.mpr first)
    · next since asleep =>
      rw [if_neg cancelled]
      split
      · next late =>
        rw [loop.proceed_slept open_]
        exact .wakes since asleep late
      · next early => exact .sleeps since asleep (Nat.lt_of_not_le early)
    · next busy =>
      rw [if_neg cancelled,loop.proceed_worked open_]
      exact .tires busy
    · next ended => exact absurd (fun live => by rw [LoopTask.live,ended] at live; cases live) lapsed

variable {loop} in
theorem Advanced.live {state : LoopState} {task : LoopTask} {phase : LoopPhase} (advanced : loop.Advanced state task phase)
    (goes_on : phase ≠ .finished) : task.live = true := by
  cases advanced with
  | ended lapsed => exact absurd rfl goes_on
  | rests fresh first => rw [LoopTask.live,fresh]; rfl
  | works fresh first => rw [LoopTask.live,fresh]; rfl
  | sleeps since asleep early => rw [LoopTask.live,asleep]; rfl
  | wakes since asleep late => rw [LoopTask.live,asleep]; rfl
  | tires busy => rw [LoopTask.live,busy]; rfl

variable {loop} in
theorem Advanced.kept {state : LoopState} {task : LoopTask} {phase : LoopPhase} (advanced : loop.Advanced state task phase)
    (live : task.live = true) (wanted : task.cancelled = false) : phase ≠ .finished := by
  rintro rfl
  cases advanced with
  | ended lapsed => rw [lapsed live] at wanted; cases wanted

/-- What a move can do, with what held before it. -/
inductive Stepped (state : LoopState) : LoopState → Prop
  | stayed : Stepped state state
  | waited (ticks : Nat) : Stepped state { state with now := state.now + ticks }
  | probing (idle : state.call = none) (off : state.isRunning = false) :
      Stepped state { state with stopping := false, call := some .starting }
  | started (idle : state.call = none) (off : state.isRunning = false) :
      Stepped state (LoopState.create { state with stopping := false })
  | probed (starting : state.call = some .starting) : Stepped state state.create
  | stopped (idle : state.call = none) (none_held : state.held = none) : Stepped state { state with stopping := true }
  | stopping (idle : state.call = none) (place : Nat) (held : state.held = some place) :
      Stepped state { state.cancel place with stopping := true, call := some .stopping }
  | joined (waiting : state.call = some .stopping) (off : state.isRunning = false) :
      Stepped state { state with held := none, call := none }
  | resumed (place : Nat) (raised : Bool) (task : LoopTask) (found : state.tasks[place]? = some task) :
      Stepped state (loop.resumed state place raised task)

theorem after_stepped (state : LoopState) (move : LoopMove) : loop.Stepped state (loop.after state move) := by
  cases move with
  | wait ticks => exact .waited ticks
  | start =>
    dsimp only [after]
    split
    · exact .stayed
    · next refused =>
      simp only [Bool.or_eq_true,not_or,Bool.not_eq_true,Option.isSome_eq_false_iff,Option.isNone_iff_eq_none] at refused
      split
      · exact .probing refused.1.1 refused.2
      · exact .started refused.1.1 refused.2
  | probed =>
    dsimp only [after]
    split
    · next starting => exact .probed starting
    · exact .stayed
    · exact .stayed
  | stop =>
    dsimp only [after]
    split
    · exact .stayed
    · next refused =>
      simp only [Bool.not_eq_true,Option.isSome_eq_false_iff,Option.isNone_iff_eq_none] at refused
      split
      · next nothing => exact .stopped refused nothing
      · next place held => exact .stopping refused place held
  | joined =>
    dsimp only [after]
    split
    · next waiting =>
      split
      · exact .stayed
      · next off => exact .joined waiting (Bool.eq_false_iff.mpr off)
    · exact .stayed
    · exact .stayed
  | resume place raised =>
    dsimp only [after]
    split
    · next task found => exact .resumed place raised task found
    · exact .stayed

end Routine

end ArcadiaRecommendation
