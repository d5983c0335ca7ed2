import ArcadiaRecommendation.Foundation.PeriodicLoop
import ArcadiaRecommendation.Http.Identity
import ArcadiaRecommendation.Messaging.Outbox
import ArcadiaRecommendation.Messaging.Serialization

/-! The lifespan of the service: the components it starts in order and stops in reverse, the loops that
run behind it meanwhile, and the report that says whether it can serve. -/
namespace ArcadiaRecommendation

/-- A sweep that fails is logged, and `continue`s. -/
def GenerationScheduler.routine (interval : Nat) (enabled : Bool) : Routine where
  round := [.sleep,.recheck,.work]
  interval
  enabled
  probes := false
  raiseEnds := true
  alternates := by decide

/-- `_refresh` catches what the provider raises. `start` awaits it once. -/
def PolledGauge.routine (interval : Nat) : Routine where
  round := [.sleep,.work]
  interval
  enabled := true
  probes := true
  raiseEnds := false
  alternates := by decide

def OutboxDispatcher.routine (pollInterval : Nat) : Routine where
  round := [.work,.sleep]
  interval := pollInterval
  enabled := true
  probes := false
  raiseEnds := false
  alternates := by decide

inductive BackgroundLoop
  | dispatcher
  | scheduler
  | knownGames
  deriving DecidableEq

inductive Component
  | schemaMigrator
  | publisher
  | subscriber
  | loop (which : BackgroundLoop)
  deriving DecidableEq

inductive OwnerCall
  | start (component : Component)
  /-- The `yield` between startup and shutdown. -/
  | serve
  | stop (component : Component)
  deriving DecidableEq

namespace Settings
variable (settings : Settings)

def routine : BackgroundLoop → Routine
  | .dispatcher => OutboxDispatcher.routine settings.outboxPollInterval
  | .scheduler => GenerationScheduler.routine settings.generationInterval settings.generationEnabled
  | .knownGames => PolledGauge.routine settings.gaugeRefresh

def lifecycle : List Component :=
  (if settings.usesPostgres && settings.runMigrations then [.schemaMigrator] else []) ++
    (if settings.usesKafka then [.publisher,.subscriber] else []) ++
    [.loop .dispatcher,.loop .scheduler,.loop .knownGames]

def lifespan : List OwnerCall :=
  settings.lifecycle.map .start ++ .serve :: settings.lifecycle.reverse.map .stop

end Settings

/-- What is left of the lifespan, whether the call at its head is under way, and the loops. -/
structure Lifespan where
  script : List OwnerCall
  called : Bool := false
  loops : BackgroundLoop → LoopState := fun _ => {}

inductive LifespanMove
  | wait (ticks : Nat)
  | resume (which : BackgroundLoop) (task : Nat) (raised : Bool)
  | call
  /-- The call under way comes back, if it can by now. Shutdown is what ends the `yield`. -/
  | returned (raised : Bool)

namespace Lifespan
variable (settings : Settings) (state : Lifespan)

def move (which : BackgroundLoop) (move : LoopMove) : Lifespan :=
  { state with loops := Function.update state.loops which ((settings.routine which).after (state.loops which) move) }

@[simp] theorem move_self (which : BackgroundLoop) (made : LoopMove) :
    (state.move settings which made).loops which = (settings.routine which).after (state.loops which) made :=
  Function.update_self ..

@[simp] theorem move_script (which : BackgroundLoop) (made : LoopMove) :
    (state.move settings which made).script = state.script := rfl

@[simp] theorem move_called (which : BackgroundLoop) (made : LoopMove) :
    (state.move settings which made).called = state.called := rfl

theorem move_other {which other : BackgroundLoop} (elsewhere : other ≠ which) (made : LoopMove) :
    (state.move settings which made).loops other = state.loops other :=
  Function.update_of_ne elsewhere ..

def serving : Bool := state.called && state.script.head? == some .serve

/-- The caller of a loop's `start` or `stop` goes on once the loop is done with the call. -/
def settled (which : BackgroundLoop) (rest : List OwnerCall) : Lifespan :=
  let moved := (state.move settings which .probed).move settings which .joined
  if (moved.loops which).call.isNone then { moved with script := rest, called := false } else moved

def after : LifespanMove → Lifespan
  | .wait ticks => { state with loops := fun which => (settings.routine which).after (state.loops which) (.wait ticks) }
  | .resume which task raised => state.move settings which (.resume task raised)
  | .call =>
    if state.called then state
    else
      match state.script with
      | .start (.loop which) :: _ => { state.move settings which .start with called := true }
      | .stop (.loop which) :: _ => { state.move settings which .stop with called := true }
      | _ :: _ => { state with called := true }
      | [] => state
  | .returned raised =>
    if !state.called then state
    else
      match state.script with
      | .start (.loop which) :: rest | .stop (.loop which) :: rest => state.settled settings which rest
      -- what a connection raises leaves the lifespan, and nothing else is started or stopped
      | .start _ :: rest | .stop _ :: rest => { state with script := if raised then [] else rest, called := false }
      | .serve :: rest => { state with script := rest, called := false }
      | [] => state

def run (moves : List LifespanMove) : Lifespan :=
  moves.foldl (fun state move => state.after settings move) { script := settings.lifespan }

/-- Whether the publisher was started and is not being stopped. -/
def publishing : Bool :=
  !state.script.contains (.start .publisher) && state.script.contains (.stop .publisher) &&
    !(state.called && state.script.head? == some (.stop .publisher))

end Lifespan

namespace Health

structure Entry where
  status : String
  error : Option String := none

/-- What a probe came to, as it stands in the report. -/
def check (critical : Bool) : Except String Unit → Entry
  | .ok _ => ⟨"UP",none⟩
  | .error error => ⟨if critical then "DOWN" else "DEGRADED",some (Text.firstChars 200 error)⟩

def Entry.value {R : Type} (entry : Entry) : Value R :=
  .dict (("status",.str entry.status) :: (entry.error.map fun error => ("error",.str error)).toList)

def Entry.passes (entry : Entry) : Bool := entry.status != "DOWN"

variable (settings : Settings) (running : BackgroundLoop → Bool) (persistence cache : Except String Unit)

/-- Persistence and the dispatcher are critical. The cache and the scheduler only show. -/
def checks : List (String × Entry) :=
  [("persistence",check true persistence),
    ("outbox_dispatcher",⟨if running .dispatcher then "UP" else "DOWN",none⟩)] ++
  (if settings.usesRedis then [("cache",check false cache)] else []) ++
  (if settings.generationEnabled then
    [("generation_scheduler",⟨if running .scheduler then "UP" else "DEGRADED",none⟩)] else [])

def readyz {R : Type} : Nat × Value R :=
  let checks := checks settings running persistence cache
  let healthy := checks.all fun entry => entry.2.passes
  (if healthy then 200 else 503,
    .dict [("status",.str (if healthy then "UP" else "DOWN")),("service",.str settings.serviceName),
      ("checks",.dict (checks.map fun entry => (entry.1,entry.2.value)))])

theorem check_passes (critical : Bool) (ping : Except String Unit) :
    (check critical ping).passes = (ping.isOk || !critical) := by
  cases ping with
  | ok _ => rfl
  | error error =>
    cases critical with
    | true => rfl
    | false => rfl

theorem readyz_status {R : Type} : (readyz settings running persistence cache : Nat × Value R).1 =
    if persistence.isOk && running .dispatcher then 200 else 503 := by
  have shown : ∀ (on : Bool) name (entry : Entry), entry.passes = true →
      (if on then [(name,entry)] else [] : List (String × Entry)).all (fun entry => entry.2.passes) = true := by
    intro on name entry passes
    cases on with
    | true => rw [if_pos rfl,List.all_cons,passes,List.all_nil]; rfl
    | false => rfl
  have sweep : Entry.passes ⟨if running .scheduler then "UP" else "DEGRADED",none⟩ = true := by
    cases running .scheduler with
    | true => rfl
    | false => rfl
  have drain : Entry.passes ⟨if running .dispatcher then "UP" else "DOWN",none⟩ = running .dispatcher := by
    cases running .dispatcher with
    | true => rfl
    | false => rfl
  have healthy : (checks settings running persistence cache).all (fun entry => entry.2.passes) =
      (persistence.isOk && running .dispatcher) := by
    rw [checks,List.all_append,List.all_append,shown _ _ _ (check_passes false cache |>.trans (Bool.or_true _)),
      shown _ _ _ sweep,List.all_cons,List.all_cons,List.all_nil,check_passes,drain]
    simp only [Bool.not_true,Bool.or_false,Bool.and_true]
  rw [readyz,healthy]

end Health

end ArcadiaRecommendation
