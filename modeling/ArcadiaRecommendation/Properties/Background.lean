import ArcadiaRecommendation.Foundation.LoopProgress
import ArcadiaRecommendation.Http.Lifespan

/-! The loops behind the service: the generation sweep, the sampled gauge and the outbox drain, over any
order of starts, stops, waits and resumptions, and whatever exception their work raises. -/
namespace ArcadiaRecommendation

/-- The dispatcher drains as soon as it starts. The others wait out one interval. -/
def BackgroundLoop.delayed : BackgroundLoop → Bool
  | .scheduler | .knownGames => true
  | .dispatcher => false

theorem Settings.sleepsFirst (settings : Settings) (which : BackgroundLoop) :
    (settings.routine which).sleepsFirst = which.delayed := by
  cases which with
  | dispatcher => rfl
  | scheduler => rfl
  | knownGames => rfl

/-- What a run of a component's loop keeps, and what must come of it next. -/
structure BackgroundLoop.Kept (settings : Settings) (which : BackgroundLoop) (moves : List LoopMove) (state : LoopState) :
    Prop where
  sole : ∀ (place : Nat) task, state.tasks[place]? = some task → task.live = true → state.held = some place
  running : state.stopping = false → state.isRunning = state.held.isSome
  spaced : state.works.Pairwise fun first second =>
    which.delayed = true ∨ first.task = second.task → first.began + (settings.routine which).interval ≤ second.began
  delayed : which.delayed = true → ∀ work ∈ state.works,
    ∃ task, state.tasks[work.task]? = some task ∧ task.created + (settings.routine which).interval ≤ work.began
  halted : ∀ later, state.stopping = true → LoopMove.start ∉ later →
    ((settings.routine which).run (moves ++ later)).works = state.works
  returns : ∀ place raised, state.call = some .stopping → state.held = some place →
    ((settings.routine which).run (moves ++ [.resume place raised,.joined])).call = none ∧
      ((settings.routine which).run (moves ++ [.resume place raised,.joined])).isRunning = false
  again : ∀ between place first last, state.stopping = false → state.held = some place → LoopMove.stop ∉ between →
    state.now + (settings.routine which).interval ≤ ((settings.routine which).run (moves ++ .resume place first :: between)).now →
    state.works.length <
      ((settings.routine which).run (moves ++ .resume place first :: between ++ [.resume place last])).works.length

/-- No overlap, no burst and no silent death: one task at most, an interval between its pieces of work,
none once it is stopped, and always another one until then. -/
theorem background_loops_kept (settings : Settings) (which : BackgroundLoop) (moves : List LoopMove) :
    which.Kept settings moves ((settings.routine which).run moves) := by
  have owned := (settings.routine which).run_owned moves
  have timed := (settings.routine which).run_timed moves
  have first := settings.sleepsFirst which
  refine ⟨owned.sole,owned.running,?_,?_,?_,?_,?_⟩
  · exact timed.spaced.imp fun spaced => by rwa [Routine.Spaced,first] at spaced
  · intro delayed work begun
    obtain ⟨task,found,late⟩ := timed.delayed work begun
    exact ⟨task,found,late (first.trans delayed)⟩
  · intro later halted calm
    exact ((settings.routine which).run_halted moves later halted calm).2
  · intro place raised waiting held
    exact Routine.stop_returns moves waiting held raised
  · intro between place first last open_ held calm late
    exact Routine.works_again moves between open_ held first last calm late

end ArcadiaRecommendation
