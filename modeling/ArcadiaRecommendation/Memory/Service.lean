import ArcadiaRecommendation.Memory.Sweep

/-! Whole runs of the service over the in-memory backend: events, generations and
sweeps in any order. Run one at a time they are a run of the read-model. -/
namespace ArcadiaRecommendation
namespace Memory
variable {R : Type} [Scalar R] [Casing]

structure Service (R : Type) [Scalar R] [Casing] where
  store : MemoryStore R := {}
  phase : Phase R := .starting
  handled : List Event := []

inductive Action (R : Type) [Scalar R] [Casing]
  | ingest (event : Event) (environment : Environment)
  | generate (generation : Generation R) (userId : UserId) (limit : Nat) (environment : Environment)
  /-- The next part of the sweep, or the start of a new one. -/
  | advance (environment : Environment) (provider : List String → Except Fault (List (List R)))

def Phase.idle : Phase R → Bool
  | .starting | .finished _ => true
  | _ => false

structure Settings (R : Type) [Scalar R] [Casing] where
  backfillLimit : Nat := deployedBackfillLimit
  refresh : Refresh R

namespace Service

def ingest (backfillLimit : Nat) (service : Service R) (event : Event) (environment : Environment) : Service R :=
  match execute environment (event.execute backfillLimit) service.store with
  | (.ok (),after) => { service with
      store := after
      handled := if event.eventId ∈ service.store.processedEvents then service.handled
        else service.handled ++ [event] }
  | (.error _,after) => { service with store := after }

def generate (service : Service R) (generation : Generation R) (userId : UserId) (limit : Nat)
    (environment : Environment) : Service R :=
  { service with
    store := (execute environment (GenerateRecommendations.execute generation userId limit) service.store).2 }

def advance (refresh : Refresh R) (service : Service R) (environment : Environment)
    (provider : List String → Except Fault (List (List R))) : Service R :=
  match service.phase with
  | .finished _ => { service with phase := .starting }
  | phase =>
    let (next,after) := Phase.advance refresh environment provider phase service.store
    { service with store := after, phase := next }

def act (settings : Settings R) (service : Service R) : Action R → Service R
  | .ingest event environment => service.ingest settings.backfillLimit event environment
  | .generate generation userId limit environment => service.generate generation userId limit environment
  | .advance environment provider => service.advance settings.refresh environment provider

def actAlone (settings : Settings R) (service : Service R) (action : Action R) : Service R :=
  match action with
  | .advance environment provider => service.advance settings.refresh environment provider
  | action => if Phase.idle service.phase then service.act settings action else service

def run (settings : Settings R) (actions : List (Action R)) : Service R :=
  actions.foldl (actAlone settings) {}

theorem run_append (settings : Settings R) (first second : List (Action R)) :
    run settings (first ++ second) = second.foldl (actAlone settings) (run settings first) := by
  simp only [run,List.foldl_append]

/-- The games a sweep holds between its read and its write are those of the store. -/
def Current (service : Service R) : Prop :=
  match service.phase with
  | .embedding pending | .storing pending _ =>
    ∀ game ∈ pending, service.store.games.get game.gameId = some game
  | _ => True

inductive Moved (backfillLimit : Nat) (before after : Service R) : Prop
  | idle (handled : after.handled = before.handled) (store : after.store = before.store)
  | handled (event : Event) (handled : after.handled = before.handled ++ [event])
      (step : before.store.readModel.Handled backfillLimit after.store.readModel event)
  | swept (handled : after.handled = before.handled) (step : before.store.readModel.Swept after.store.readModel)

theorem current_of_idle (service : Service R) (idle : Phase.idle service.phase = true) : service.Current := by
  unfold Current
  cases phase : service.phase with
  | embedding pending =>
    rw [phase] at idle
    cases idle
  | storing pending vectors =>
    rw [phase] at idle
    cases idle
  | starting => trivial
  | listing => trivial
  | generating users processed written => trivial
  | finished report => trivial

theorem ingest_phase (backfillLimit : Nat) (service : Service R) (event : Event) (environment : Environment) :
    (service.ingest backfillLimit event environment).phase = service.phase := by
  unfold ingest
  split <;> rfl

private theorem ingest_moved (backfillLimit : Nat) (service : Service R) (event : Event) (environment : Environment) :
    Moved backfillLimit service (service.ingest backfillLimit event environment) := by
  unfold ingest
  split
  · rename_i after ran
    have step := execute_returned backfillLimit environment event service.store after ran
    by_cases known : event.eventId ∈ service.store.processedEvents
    · rw [if_pos known] at step
      exact .idle (if_pos known) step
    · rw [if_neg known] at step
      exact .handled event (if_neg known) step
  · rename_i fault after ran
    exact .idle rfl (execute_raised backfillLimit environment event service.store after fault ran)

private theorem generate_moved (backfillLimit : Nat) (service : Service R) (generation : Generation R) (userId : UserId)
    (limit : Nat) (environment : Environment) :
    Moved backfillLimit service (service.generate generation userId limit environment) := by
  unfold generate
  cases ran : execute environment (GenerateRecommendations.execute generation userId limit) service.store with
  | mk result after =>
    cases result with
    | error fault =>
      exact .idle rfl (execute_generated_raised environment generation userId limit service.store after fault ran)
    | ok written =>
      obtain ⟨_,_,swept⟩ := execute_generated environment generation userId limit service.store after written ran
      exact .swept rfl swept

theorem swept_embedded (before : MemoryStore R) (games : GameTable R) (pending : List (GameProfile R))
    (current : ∀ game ∈ pending, before.games.get game.gameId = some game)
    (rows : ∀ gameId, (∃ game ∈ pending, game.gameId = gameId ∧ ∃ dense,
        games.get gameId = some (game.embedded dense)) ∨
      (∀ game ∈ pending, game.gameId ≠ gameId) ∧ games.get gameId = before.games.get gameId) :
    before.readModel.Swept ({ before with games := games } : MemoryStore R).readModel := by
  refine ⟨fun gameId => ?_,fun _ => rfl,rfl,fun _ => .inl rfl,rfl⟩
  simp only [MemoryStore.readModel]
  rcases rows gameId with ⟨game,member,key,dense,found⟩ | ⟨_,found⟩
  · rw [found,← key,current game member]
    rfl
  · rw [found]

theorem advance_moved (backfillLimit : Nat) (refresh : Refresh R) (service : Service R) (environment : Environment)
    (provider : List String → Except Fault (List (List R))) (current : service.Current) :
    Moved backfillLimit service (service.advance refresh environment provider) ∧
      (service.advance refresh environment provider).Current := by
  unfold Current at current
  unfold advance
  cases phase : service.phase with
  | finished report => exact ⟨.idle rfl rfl,trivial⟩
  | starting =>
    simp only [Phase.advance,execute_pending]
    split
    · exact ⟨.idle rfl rfl,trivial⟩
    · cases pending : needingEmbedding service.store.games refresh.embeddingBatchSize with
      | nil => exact ⟨.idle rfl rfl,trivial⟩
      | cons first rest =>
        refine ⟨.idle rfl rfl,?_⟩
        intro game member
        exact mem_needingEmbedding _ _ game (pending ▸ member)
  | embedding pending =>
    rw [phase] at current
    simp only [Phase.advance]
    split
    · exact ⟨.idle rfl rfl,current⟩
    · exact ⟨.idle rfl rfl,trivial⟩
  | storing pending vectors =>
    rw [phase] at current
    simp only [Phase.advance]
    split
    · rename_i after ran
      obtain ⟨games,same,rows⟩ := execute_embedded environment pending vectors service.store after ran
      subst same
      exact ⟨.swept rfl (swept_embedded service.store games pending current rows),trivial⟩
    · rename_i fault after ran
      exact ⟨.idle rfl (execute_embedded_raised environment pending vectors service.store after fault ran),trivial⟩
  | listing => exact ⟨.idle rfl rfl,trivial⟩
  | generating users processed written =>
    cases users with
    | nil => exact ⟨.idle rfl rfl,trivial⟩
    | cons userId rest =>
      simp only [Phase.advance]
      split
      · rename_i count after ran
        obtain ⟨_,_,swept⟩ := execute_generated environment refresh.generation userId refresh.limit service.store
          after count ran
        exact ⟨.swept rfl swept,trivial⟩
      · rename_i fault after ran
        exact ⟨.idle rfl (execute_generated_raised environment refresh.generation userId refresh.limit service.store
          after fault ran),trivial⟩

theorem actAlone_moved (settings : Settings R) (service : Service R) (action : Action R) (current : service.Current) :
    Moved settings.backfillLimit service (service.actAlone settings action) ∧
      (service.actAlone settings action).Current := by
  cases action with
  | advance environment provider => exact advance_moved _ settings.refresh service environment provider current
  | ingest event environment =>
    simp only [actAlone]
    split
    · rename_i idle
      refine ⟨ingest_moved settings.backfillLimit service event environment,current_of_idle _ ?_⟩
      exact (congrArg Phase.idle (ingest_phase settings.backfillLimit service event environment)).trans idle
    · exact ⟨.idle rfl rfl,current⟩
  | generate generation userId limit environment =>
    simp only [actAlone]
    split
    · rename_i idle
      exact ⟨generate_moved _ service generation userId limit environment,current_of_idle _ idle⟩
    · exact ⟨.idle rfl rfl,current⟩

theorem run_current (settings : Settings R) (actions : List (Action R)) : (run settings actions).Current := by
  induction actions using List.reverseRecOn with
  | nil => trivial
  | append_singleton earlier action ih =>
    rw [run_append]
    exact (actAlone_moved settings _ action ih).2

theorem run_moved (settings : Settings R) (earlier : List (Action R)) (action : Action R) :
    Moved settings.backfillLimit (run settings earlier) (run settings (earlier ++ [action])) := by
  rw [run_append]
  exact (actAlone_moved settings _ action (run_current settings earlier)).1

/-- From any two points of a run, the later store is reached by a run of the read-model
that handles exactly the events handled in between. -/
theorem run_refines (settings : Settings R) (first second : List (Action R)) :
    ∃ events, (run settings (first ++ second)).handled = (run settings first).handled ++ events ∧
      (run settings first).store.readModel.Run settings.backfillLimit events
        (run settings (first ++ second)).store.readModel := by
  induction second using List.reverseRecOn with
  | nil => exact ⟨[],by simp,by simpa using .start⟩
  | append_singleton earlier action ih =>
    obtain ⟨events,same,reached⟩ := ih
    rw [← List.append_assoc]
    cases run_moved settings (first ++ earlier) action with
    | idle handled store => exact ⟨events,handled.trans same,by rw [store]; exact reached⟩
    | handled event handled step =>
      refine ⟨events ++ [event],?_,.handled events event _ _ reached step⟩
      rw [handled,same,List.append_assoc]
    | swept handled step => exact ⟨events,handled.trans same,.swept events _ _ reached step⟩

theorem run_from_empty (settings : Settings R) (actions : List (Action R)) :
    ReadModel.empty.Run settings.backfillLimit (run settings actions).handled
      (run settings actions).store.readModel := by
  obtain ⟨events,same,reached⟩ := run_refines settings [] actions
  rw [List.nil_append] at same reached
  rw [same]
  exact reached

end Service
end Memory

namespace Memory
attribute [local instance] Casing.unchanged

/-- The service as deployed, in the sparse space and in exact arithmetic. -/
def deployed : Settings ℚ where
  refresh := { generation := { content := contentBasedScorer } }

def racePublished : Action ℚ :=
  .ingest (.gamePublished ⟨2⟩ ⟨⟨1⟩⟩ ⟨⟨9⟩⟩ "Race" ["racing"] [] none "") .fixed

def racePurchased : Action ℚ := .ingest (.purchaseCompleted ⟨1⟩ ⟨⟨1⟩⟩ ⟨⟨1⟩⟩ none) .fixed

end Memory
end ArcadiaRecommendation
