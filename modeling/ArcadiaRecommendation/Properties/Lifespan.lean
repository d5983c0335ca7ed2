import ArcadiaRecommendation.Foundation.LoopRuns
import ArcadiaRecommendation.Http.Lifespan
import Mathlib.Data.List.Infix

/-! Every loop runs while the service serves, so only persistence decides whether it is ready. Once the
lifespan is over no task is left, and the outbox is drained only between the publisher's start and stop. -/
namespace ArcadiaRecommendation

/-- How far the owner has come with a loop. -/
inductive Stand
  | before
  | starting
  | up
  | stopping
  | down
  deriving DecidableEq

def Stand.holds (enabled : Bool) (state : LoopState) : Stand → Prop
  | .before => state.call = none ∧ state.held = none ∧ state.stopping = false
  | .starting => state.stopping = false ∧
      (state.call = none ∧ state.held.isSome = enabled ∨ state.call = some .starting ∧ enabled = true)
  | .up => state.call = none ∧ state.held.isSome = enabled ∧ state.stopping = false
  | .stopping => state.call = none ∧ state.held = none ∨ state.call = some .stopping
  | .down => state.call = none ∧ state.held = none

/-- Read off the next call of the script that is about the loop. -/
def stand (which : BackgroundLoop) (called : Bool) : List OwnerCall → Stand
  | [] => .down
  | call :: rest =>
    if call = .start (.loop which) then if called then .starting else .before
    else if call = .stop (.loop which) then if called then .stopping else .up
    else stand which false rest

/-- How a loop stands once the call at the head of a script came back. -/
def OwnerCall.leaves (which : BackgroundLoop) (call : OwnerCall) (rest : List OwnerCall) : Bool :=
  match call with
  | .start (.loop other) => other != which || stand which false rest == .up
  | .stop (.loop other) => other != which || stand which false rest == .down
  | .serve => stand which false rest == .up
  | .start _ => stand which false rest == .before
  | .stop _ => stand which false rest == .down

def wellOrdered (which : BackgroundLoop) : List OwnerCall → Bool
  | [] => true
  | call :: rest => call.leaves which rest && wellOrdered which rest

private theorem Settings.lifespan_ordered (settings : Settings) (which : BackgroundLoop) :
    wellOrdered which settings.lifespan = true := by
  unfold lifespan lifecycle
  cases settings.usesPostgres && settings.runMigrations <;> cases settings.usesKafka <;> cases which <;> decide

private theorem Settings.lifespan_before (settings : Settings) (which : BackgroundLoop) :
    stand which false settings.lifespan = .before := by
  unfold lifespan lifecycle
  cases settings.usesPostgres && settings.runMigrations <;> cases settings.usesKafka <;> cases which <;> decide

/-- Where the dispatcher may run, the publisher was started and is not being stopped. -/
def covered (called : Bool) (script : List OwnerCall) : Bool :=
  stand .dispatcher called script == .before || stand .dispatcher called script == .down ||
    Lifespan.publishing { script, called }

def wellCovered : List OwnerCall → Bool
  | [] => true
  | call :: rest => covered true (call :: rest) && covered false (call :: rest) && wellCovered rest

private theorem Settings.lifespan_covered (settings : Settings) (kafka : settings.usesKafka = true) :
    wellCovered settings.lifespan = true := by
  unfold lifespan lifecycle
  rw [kafka]
  cases settings.usesPostgres && settings.runMigrations <;> decide

private theorem stand_other {which : BackgroundLoop} {call : OwnerCall} (not_start : call ≠ .start (.loop which))
    (not_stop : call ≠ .stop (.loop which)) (called : Bool) (rest : List OwnerCall) :
    stand which called (call :: rest) = stand which false rest := by
  rw [stand,if_neg not_start,if_neg not_stop]

private theorem stand_start (which : BackgroundLoop) (called : Bool) (rest : List OwnerCall) :
    stand which called (.start (.loop which) :: rest) = if called then .starting else .before :=
  if_pos rfl

private theorem stand_stop (which : BackgroundLoop) (called : Bool) (rest : List OwnerCall) :
    stand which called (.stop (.loop which) :: rest) = if called then .stopping else .up := by
  rw [stand,if_neg OwnerCall.noConfusion,if_pos rfl]

private theorem stand_elsewhere {which other : BackgroundLoop} {call : OwnerCall}
    (about : call = .start (.loop which) ∨ call = .stop (.loop which)) (elsewhere : other ≠ which) (called : Bool)
    (rest : List OwnerCall) : stand other called (call :: rest) = stand other false rest := by
  refine stand_other ?_ ?_ called rest
  · rintro rfl
    rcases about with start | stop
    · exact elsewhere (Component.loop.inj (OwnerCall.start.inj start))
    · cases stop
  · rintro rfl
    rcases about with start | stop
    · cases start
    · exact elsewhere (Component.loop.inj (OwnerCall.stop.inj stop))

section
variable {loop : Routine} {state : LoopState}

private theorem start_starting (before : Stand.before.holds loop.enabled state) :
    Stand.starting.holds loop.enabled (loop.after state .start) := by
  obtain ⟨idle,none_held,open_⟩ := before
  have off : state.isRunning = false := by
    rw [LoopState.isRunning,none_held,Option.bind_none,Option.any_none]
  cases enabled : loop.enabled with
  | false =>
    have stays : loop.after state .start = state := if_pos (by rw [idle,enabled]; rfl)
    rw [stays]
    exact ⟨open_,.inl ⟨idle,by rw [none_held]; rfl⟩⟩
  | true =>
    rw [Routine.after,idle,off,enabled]
    cases loop.probes with
    | false => exact ⟨rfl,.inl ⟨rfl,rfl⟩⟩
    | true => exact ⟨rfl,.inr ⟨rfl,rfl⟩⟩

private theorem stop_stopping (up : Stand.up.holds loop.enabled state) :
    Stand.stopping.holds loop.enabled (loop.after state .stop) := by
  obtain ⟨idle,held,open_⟩ := up
  cases some_held : state.held with
  | none =>
    rw [Routine.after,some_held,idle]
    exact .inl ⟨rfl,rfl⟩
  | some place =>
    rw [Routine.after,some_held,idle]
    exact .inr rfl

private theorem starting_up (starting : Stand.starting.holds loop.enabled state) :
    Stand.up.holds loop.enabled (loop.after (loop.after state .probed) .joined) := by
  obtain ⟨open_,⟨idle,held⟩ | ⟨waiting,enabled⟩⟩ := starting
  · have probed : loop.after state .probed = state := by rw [Routine.after,idle]
    have joined : loop.after state .joined = state := by rw [Routine.after,idle]
    rw [probed,joined]
    exact ⟨idle,held,open_⟩
  · have probed : loop.after state .probed = state.create := by rw [Routine.after,waiting]
    rw [probed]
    exact ⟨rfl,enabled.symm,open_⟩

private theorem stopping_down (stopping : Stand.stopping.holds loop.enabled state) :
    Stand.stopping.holds loop.enabled (loop.after (loop.after state .probed) .joined) := by
  obtain ⟨idle,none_held⟩ | waiting := stopping
  · have probed : loop.after state .probed = state := by rw [Routine.after,idle]
    have joined : loop.after state .joined = state := by rw [Routine.after,idle]
    rw [probed,joined]
    exact .inl ⟨idle,none_held⟩
  · have probed : loop.after state .probed = state := by rw [Routine.after,waiting]
    rw [probed,Routine.after,waiting]
    cases state.isRunning with
    | true => exact .inr waiting
    | false => exact .inl ⟨rfl,rfl⟩

private theorem resume_keeps (place : Nat) (raised : Bool) :
    (loop.after state (.resume place raised)).call = state.call ∧
      (loop.after state (.resume place raised)).held = state.held ∧
      (loop.after state (.resume place raised)).stopping = state.stopping := by
  dsimp only [Routine.after]
  split
  · exact ⟨rfl,rfl,rfl⟩
  · exact ⟨rfl,rfl,rfl⟩

private theorem stands_congr {other : LoopState} {enabled : Bool} {stands : Stand} (holds : stands.holds enabled state)
    (same : other.call = state.call ∧ other.held = state.held ∧ other.stopping = state.stopping) :
    stands.holds enabled other := by
  obtain ⟨call,held,stopping⟩ := same
  cases stands <;> simpa only [Stand.holds,call,held,stopping] using holds

end

namespace Lifespan
variable {settings : Settings}

/-- Each loop went through a run of its own. -/
def Reached (settings : Settings) (state : Lifespan) : Prop :=
  ∀ which, ∃ moves, state.loops which = (settings.routine which).run moves

theorem Reached.move {state : Lifespan} (all : Reached settings state) (which : BackgroundLoop) (made : LoopMove) :
    Reached settings (state.move settings which made) := by
  intro other
  obtain ⟨moves,reached⟩ := all other
  by_cases same : other = which
  · subst same
    refine ⟨moves ++ [made],?_⟩
    rw [Routine.run,List.foldl_append,← Routine.run,← reached]
    exact state.move_self settings other made
  · exact ⟨moves,(state.move_other settings same made).trans reached⟩

/-- The loops stand as the script says. -/
structure InStep (settings : Settings) (state : Lifespan) : Prop where
  ordered : ∀ which, wellOrdered which state.script = true
  covered : settings.usesKafka = true → wellCovered state.script = true
  reached : Reached settings state
  stands : ∀ which, (stand which state.called state.script).holds (settings.routine which).enabled (state.loops which)

namespace InStep
variable {state : Lifespan}

/-- The call at the head comes back, and its loop stands as the rest of the script says. -/
theorem pop (instep : InStep settings state) {call : OwnerCall} {rest : List OwnerCall} (script : state.script = call :: rest)
    {loops : BackgroundLoop → LoopState} (reached : Reached settings { script := rest, loops })
    (stands : ∀ which, (stand which false rest).holds (settings.routine which).enabled (loops which)) :
    InStep settings { script := rest, called := false, loops } where
  ordered which := by
    have ordered := instep.ordered which
    rw [script,wellOrdered,Bool.and_eq_true] at ordered
    exact ordered.2
  covered kafka := by
    have covered := instep.covered kafka
    rw [script,wellCovered,Bool.and_eq_true] at covered
    exact covered.2
  reached := reached
  stands := stands

theorem leaves (instep : InStep settings state) {call : OwnerCall} {rest : List OwnerCall} (script : state.script = call :: rest)
    (which : BackgroundLoop) : call.leaves which rest = true := by
  have ordered := instep.ordered which
  rw [script,wellOrdered,Bool.and_eq_true] at ordered
  exact ordered.1

theorem wait (instep : InStep settings state) (ticks : Nat) : InStep settings (state.after settings (.wait ticks)) where
  ordered := instep.ordered
  covered := instep.covered
  reached which := by
    obtain ⟨moves,reached⟩ := instep.reached which
    refine ⟨moves ++ [.wait ticks],?_⟩
    rw [Routine.run,List.foldl_append,← Routine.run,← reached]
    rfl
  stands which := stands_congr (instep.stands which) ⟨rfl,rfl,rfl⟩

theorem resume (instep : InStep settings state) (which : BackgroundLoop) (task : Nat) (raised : Bool) :
    InStep settings (state.after settings (.resume which task raised)) where
  ordered := instep.ordered
  covered := instep.covered
  reached := instep.reached.move which _
  stands other := by
    refine stands_congr (instep.stands other) ?_
    by_cases same : other = which
    · subst same
      rw [after,move_self]
      exact resume_keeps task raised
    · rw [after,move_other settings state same]
      exact ⟨rfl,rfl,rfl⟩

/-- The head of the script is called, and only its loop hears of it. -/
theorem invoke (instep : InStep settings state) {call : OwnerCall} {rest : List OwnerCall} (script : state.script = call :: rest)
    {which : BackgroundLoop} {made : LoopMove}
    (about : call = .start (.loop which) ∨ call = .stop (.loop which))
    (moved : (stand which true (call :: rest)).holds (settings.routine which).enabled
      ((settings.routine which).after (state.loops which) made)) :
    InStep settings { state.move settings which made with called := true } where
  ordered := instep.ordered
  covered := instep.covered
  reached := instep.reached.move which made
  stands other := by
    have stands := instep.stands other
    by_cases same : other = which
    · subst same
      simp only [move_self,move_script,script]
      exact moved
    · rw [script,stand_elsewhere about same] at stands
      simp only [move_other settings state same,move_script,script,stand_elsewhere about same]
      exact stands

theorem call (instep : InStep settings state) : InStep settings (state.after settings .call) := by
  dsimp only [after]
  split
  · exact instep
  · next calm =>
    have idle : state.called = false := Bool.eq_false_iff.mpr calm
    split
    · next which rest script =>
      refine instep.invoke script (.inl rfl) ?_
      have before := instep.stands which
      rw [idle,script,stand_start] at before
      rw [stand_start]
      exact start_starting before
    · next which rest script =>
      refine instep.invoke script (.inr rfl) ?_
      have up := instep.stands which
      rw [idle,script,stand_stop] at up
      rw [stand_stop]
      exact stop_stopping up
    · next call rest not_start not_stop script =>
      refine ⟨instep.ordered,instep.covered,instep.reached,fun which => ?_⟩
      have stands := instep.stands which
      have other_start : call ≠ .start (.loop which) := by
        rintro rfl
        exact not_start which rfl
      have other_stop : call ≠ .stop (.loop which) := by
        rintro rfl
        exact not_stop which rfl
      rw [script,stand_other other_start other_stop] at stands
      dsimp only
      rw [script,stand_other other_start other_stop]
      exact stands
    · exact instep

theorem settled (instep : InStep settings state) {call : OwnerCall} {rest : List OwnerCall} (script : state.script = call :: rest)
    {which : BackgroundLoop} (others : ∀ other, other ≠ which → stand other state.called (call :: rest) = stand other false rest)
    (finished : LoopState) (ends : finished = (settings.routine which).after
      ((settings.routine which).after (state.loops which) .probed) .joined)
    (lapsed : finished.call = none → (stand which false rest).holds (settings.routine which).enabled finished)
    (goes_on : finished.call ≠ none → (stand which state.called (call :: rest)).holds (settings.routine which).enabled finished) :
    InStep settings (state.settled settings which rest) := by
  have loops : ((state.move settings which .probed).move settings which .joined).loops which = finished := by
    rw [move_self,move_self,ends]
  have same : ∀ other, other ≠ which →
      ((state.move settings which .probed).move settings which .joined).loops other = state.loops other := by
    intro other elsewhere
    rw [move_other settings _ elsewhere,move_other settings _ elsewhere]
  have reached := (instep.reached.move which .probed).move which .joined
  unfold Lifespan.settled
  dsimp only
  split
  · next idle =>
    rw [loops] at idle
    refine instep.pop script reached fun other => ?_
    by_cases here : other = which
    · subst here
      rw [loops]
      exact lapsed (Option.isNone_iff_eq_none.mp idle)
    · have stands := instep.stands other
      rw [script,others other here] at stands
      rw [same other here]
      exact stands
  · next busy =>
    refine ⟨instep.ordered,instep.covered,reached,fun other => ?_⟩
    by_cases here : other = which
    · subst here
      have going := goes_on fun idle => busy (by rw [loops,idle]; rfl)
      rw [loops]
      rw [← script] at going
      exact going
    · rw [same other here]
      exact instep.stands other

/-- What a connection raises leaves no loop behind, since none was started yet or all were stopped. -/
theorem dropped (instep : InStep settings state) {call : OwnerCall} {rest : List OwnerCall} (script : state.script = call :: rest)
    (others : ∀ which, stand which state.called (call :: rest) = stand which false rest)
    (quiet : ∀ which, stand which false rest = .before ∨ stand which false rest = .down) (raised : Bool) :
    InStep settings { state with script := if raised then [] else rest, called := false } := by
  have stands : ∀ which, (stand which false rest).holds (settings.routine which).enabled (state.loops which) := by
    intro which
    have stands := instep.stands which
    rw [script,others which] at stands
    exact stands
  cases raised with
  | false => exact instep.pop script instep.reached stands
  | true =>
    refine ⟨fun _ => rfl,fun _ => rfl,instep.reached,fun which => ?_⟩
    have here := stands which
    rcases quiet which with before | down
    · rw [before] at here
      exact ⟨here.1,here.2.1⟩
    · rw [down] at here
      exact here

theorem returned (instep : InStep settings state) (raised : Bool) :
    InStep settings (state.after settings (.returned raised)) := by
  dsimp only [after]
  split
  · exact instep
  · next going =>
    have called : state.called = true := by simpa only [Bool.not_eq_true',Bool.not_eq_false] using going
    split
    · next which rest script =>
      have starting := instep.stands which
      rw [called,script,stand_start] at starting
      have up := starting_up starting
      have leaves := instep.leaves script which
      simp only [OwnerCall.leaves,bne_self_eq_false,Bool.false_or,beq_iff_eq] at leaves
      refine instep.settled script (fun other elsewhere => stand_elsewhere (.inl rfl) elsewhere _ rest) _ rfl ?_ ?_
      · intro _
        rw [leaves]
        exact up
      · intro busy
        exact absurd up.1 busy
    · next which rest script =>
      have stopping := instep.stands which
      rw [called,script,stand_stop] at stopping
      have after := stopping_down stopping
      have leaves := instep.leaves script which
      simp only [OwnerCall.leaves,bne_self_eq_false,Bool.false_or,beq_iff_eq] at leaves
      refine instep.settled script (fun other elsewhere => stand_elsewhere (.inr rfl) elsewhere _ rest) _ rfl ?_ ?_
      · intro idle
        rw [leaves]
        rcases after with down | busy
        · exact down
        · rw [busy] at idle
          cases idle
      · intro _
        rw [called,stand_stop]
        exact after
    · next component rest not_loop script =>
      refine instep.dropped script (fun which => stand_other ?_ OwnerCall.noConfusion _ rest) (fun which => .inl ?_) raised
      · exact fun same => not_loop which (OwnerCall.start.inj same)
      · have leaves := instep.leaves script which
        cases component with
        | loop other => exact absurd rfl (not_loop other)
        | _ => exact beq_iff_eq.mp leaves
    · next component rest not_loop script =>
      refine instep.dropped script (fun which => stand_other OwnerCall.noConfusion ?_ _ rest) (fun which => .inr ?_) raised
      · exact fun same => not_loop which (OwnerCall.stop.inj same)
      · have leaves := instep.leaves script which
        cases component with
        | loop other => exact absurd rfl (not_loop other)
        | _ => exact beq_iff_eq.mp leaves
    · next rest script =>
      refine instep.pop script instep.reached fun which => ?_
      have stands := instep.stands which
      rw [script,stand_other OwnerCall.noConfusion OwnerCall.noConfusion] at stands
      exact stands
    · exact instep

theorem after (instep : InStep settings state) (move : LifespanMove) : InStep settings (state.after settings move) := by
  cases move with
  | wait ticks => exact instep.wait ticks
  | resume which task raised => exact instep.resume which task raised
  | call => exact instep.call
  | returned raised => exact instep.returned raised

end InStep

theorem run_inStep (settings : Settings) (moves : List LifespanMove) : InStep settings (run settings moves) := by
  induction moves using List.reverseRecOn with
  | nil =>
    refine ⟨settings.lifespan_ordered,settings.lifespan_covered,fun which => ⟨[],rfl⟩,fun which => ?_⟩
    have before : stand which (run settings []).called (run settings []).script = .before := settings.lifespan_before which
    rw [before]
    exact ⟨rfl,rfl,rfl⟩
  | append_singleton moves move ih =>
    rw [run,List.foldl_append]
    exact ih.after move

end Lifespan

/-- While the service serves every loop that is switched on runs, and it is ready as long as persistence
answers. Once the lifespan is over, whichever way, no task is left. The dispatcher has a task only between
the start and the stop of the publisher. -/
theorem lifespan_keeps_loops {R : Type} (settings : Settings) (moves : List LifespanMove) :
    let state := Lifespan.run settings moves
    (state.serving = true →
      (∀ which, (state.loops which).isRunning = (settings.routine which).enabled) ∧
      ∀ persistence cache, (Health.readyz settings (fun which => (state.loops which).isRunning) persistence cache :
        Nat × Value R).1 = if persistence.isOk then 200 else 503) ∧
    (state.script = [] → ∀ which (place : Nat) task, (state.loops which).tasks[place]? = some task → task.live = false) ∧
    (settings.usesKafka = true → ∀ (place : Nat) task, (state.loops .dispatcher).tasks[place]? = some task →
      task.live = true → state.publishing = true) := by
  have instep := Lifespan.run_inStep settings moves
  generalize Lifespan.run settings moves = state at instep
  have owned : ∀ which, Owned (state.loops which) := by
    intro which
    obtain ⟨moves,reached⟩ := instep.reached which
    rw [reached]
    exact (settings.routine which).run_owned moves
  refine ⟨fun serving => ?_,fun lapsed which place task found => ?_,fun kafka place task found live => ?_⟩
  · have running : ∀ which, (state.loops which).isRunning = (settings.routine which).enabled := by
      intro which
      rw [Lifespan.serving,Bool.and_eq_true,beq_iff_eq,List.head?_eq_some_iff] at serving
      obtain ⟨called,rest,script⟩ := serving
      have stands := instep.stands which
      have up : stand which false rest = .up := beq_iff_eq.mp (instep.leaves script which)
      rw [script,stand_other OwnerCall.noConfusion OwnerCall.noConfusion,up] at stands
      rw [(owned which).running stands.2.2]
      exact stands.2.1
    refine ⟨running,fun persistence cache => ?_⟩
    rw [Health.readyz_status,running]
    exact congrArg (if · then 200 else 503) (Bool.and_true _)
  · have stands := instep.stands which
    rw [lapsed] at stands
    exact (owned which).none_ended stands.2 found
  · have stands := instep.stands .dispatcher
    have somewhere : covered state.called state.script = true := by
      have all := instep.covered kafka
      cases script : state.script with
      | nil => rfl
      | cons call rest =>
        rw [script,wellCovered,Bool.and_eq_true,Bool.and_eq_true] at all
        cases state.called with
        | true => exact all.1.1
        | false => exact all.1.2
    have running : (state.loops .dispatcher).held ≠ none := by
      intro none_held
      rw [(owned .dispatcher).none_ended none_held found] at live
      cases live
    simp only [covered,Bool.or_eq_true,beq_iff_eq] at somewhere
    rcases somewhere with (before | down) | publishing
    · rw [before] at stands
      exact absurd stands.2.1 running
    · rw [down] at stands
      exact absurd stands.2 running
    · exact publishing

example : (Lifespan.run { usesKafka := true } [.call,.returned false,.call,.returned false,.call,.returned false,.call,
    .returned false,.call,.returned false,.call]).serving = true := by decide

end ArcadiaRecommendation
