import ArcadiaRecommendation.Application.Ports
import ArcadiaRecommendation.Foundation.Interleaving
import ArcadiaRecommendation.Memory.Store
import ArcadiaRecommendation.Sql.Database

/-! The relational backend under READ COMMITTED. Every statement sees the rows committed
before it and the statements of its own session; the session writes its loaded and new rows
on commit. Row locks are left out: they delay a statement and never change what it sees. -/
namespace ArcadiaRecommendation

/-- The surroundings of one session, with what the driver and the planner leave open. -/
structure Backend (R : Type) [Scalar R] where
  environment : Environment
  /-- Whether the identity map, which is weak, still holds the rows that were only read. -/
  retains : Bool
  /-- The order of the rows of an unordered SELECT. -/
  arrange : List (GameFields R) → List (GameFields R)
  arranged : ∀ rows, (arrange rows).Perm rows

def Backend.fixed (R : Type) [Scalar R] (retains : Bool) : Backend R :=
  { environment := .fixed, retains, arrange := id, arranged := fun _ => .refl _ }

namespace Sql

structure Session (R : Type) [Scalar R] [DecidableEq R] (width : Nat) where
  games : IdentityMap (games R width) := {}
  preferences : IdentityMap (preferences R width) := {}
  recommendations : List (Recommendation R) := []
  outbox : List (OutboxRecord R) := []
  statements : List Statement := []
  readings : Nat := 0
  issued : Nat := 0

variable {R : Type} [Scalar R] [DecidableEq R] {width : Nat}

def visible (session : Session R width) (database : Database R width) : Database R width :=
  database.applyAll session.statements

def execute (statement : Statement) (session : Session R width) : Session R width :=
  { session with statements := session.statements ++ [statement] }

/-- The flush and the end of the transaction. A violated constraint ends it without effect. -/
def committed (session : Session R width) (database : Database R width) : Except Fault (Database R width) := do
  let games ← session.games.flush .integrityError database.games
  let preferences ← session.preferences.flush .integrityError database.preferences
  let after := visible session database
  let recommendations ← Database.insertRecommendations after.recommendations session.recommendations
  let outbox ← Database.insertOutbox after.outbox session.outbox
  return { after with games, preferences, recommendations, outbox }

variable [Casing]

def gameToDomain (fields : GameFields R) : Except Fault (GameProfile R) :=
  (GameProfile.construct fields).mapError .violation

omit [DecidableEq R] in
theorem gameToDomain_fields (game : GameProfile R) : gameToDomain game.toGameFields = .ok game := by
  unfold gameToDomain
  rw [game.construct_fields]
  rfl

/-- The rows of a SELECT, each in the state the session holds it in. -/
def profiles (session : Session R width) (rows : List (GameFields R)) : Except Fault (List (GameProfile R)) :=
  rows.mapM fun row => gameToDomain (((session.games.held.get row.gameId).map (·.2)).getD row)

def handle (backend : Backend R) : SharedHandler (Op R) Answer Fault (Session R width) (Database R width) :=
  fun op database session =>
  match op with
  | .getGame gameId =>
    let (found,rows) := session.games.fetch backend.retains database.games gameId
    match found with
    | none => .ok (none,session,database)
    | some fields => (gameToDomain fields).map fun game => (some game,{ session with games := rows },database)
  | .upsertGame game =>
    let rows := session.games.write database.games game.toGameFields
    .ok ((),{ session with games := rows },database)
  | .recommendable limit =>
    (profiles session (database.recommendable limit)).map fun games => (games,session,database)
  | .gamesByIds gameIds =>
    (profiles session (backend.arrange (database.byIds gameIds))).map fun games => (games,session,database)
  | .needingEmbedding limit =>
    (profiles session (database.needingEmbedding limit)).map fun games => (games,session,database)
  | .getPreference userId =>
    let (found,rows) := session.preferences.fetch backend.retains database.preferences userId
    .ok (found,{ session with preferences := rows },database)
  | .upsertPreference preference =>
    let rows := session.preferences.write database.preferences preference
    .ok ((),{ session with preferences := rows },database)
  | .withSignals limit => .ok (database.withSignals limit,session,database)
  | .recordOwnership userId gameId counted =>
    let acquiredAt := backend.environment.clock session.readings
    let after := execute (.recordOwnership { userId, gameId, acquiredAt, counted }) session
    .ok ((),{ after with readings := session.readings + 1 },database)
  | .uncountedOwners gameId limit =>
    .ok ((visible session database).ownerships.uncountedOwners gameId limit,session,database)
  | .markCounted gameId userIds => .ok ((),execute (.markCounted gameId userIds) session,database)
  | .coPurchases userId owned limit =>
    .ok ((visible session database).ownerships.coPurchases userId owned limit,session,database)
  | .replaceFor userId recommendations =>
    let found := ((visible session database).recommendations.filter (·.userId = userId)).map (·.id)
    let after := execute (.deleteRecommendations found) session
    .ok ((),{ after with recommendations := session.recommendations ++ recommendations },database)
  | .forUser userId limit => .ok ((visible session database).forUser userId limit,session,database)
  | .enqueue event =>
    let row := Memory.outboxRecord backend.environment event
    .ok ((),{ session with outbox := session.outbox ++ [row] },database)
  | .seen eventId => .ok (decide (eventId ∈ (visible session database).processedEvents),session,database)
  | .mark eventId => .ok ((),execute (.markProcessed eventId) session,database)
  | .commit =>
    (committed session database).map fun after =>
      ((),{ readings := session.readings, issued := session.issued },after)
  | .logSeen eventId => .ok (decide (eventId ∈ database.processedEvents),session,database)
  | .logMark eventId =>
    .ok ((),session,{ database with processedEvents := insert eventId database.processedEvents })
  | .now => .ok (backend.environment.clock session.readings,{ session with readings := session.readings + 1 },database)
  | .newUuid => .ok (backend.environment.ids session.issued,{ session with issued := session.issued + 1 },database)
  | .explain request => .ok (backend.environment.explain request,session,database)

/-- The operations that make something visible to others. -/
def closes : Op R → Bool
  | .commit | .logMark _ => true
  | _ => false

theorem handle_quiet (backend : Backend R) :
    Quiet closes (handle backend : SharedHandler (Op R) Answer Fault (Session R width) (Database R width)) := by
  intro op database session answer after changed open_ answered
  have mapped {A B : Type} (result : Except Fault A) (pair : A → B × Session R width × Database R width)
      (same : ∀ value, (pair value).2.2 = database) (value : B × Session R width × Database R width)
      (done : result.map pair = .ok value) : value.2.2 = database := by
    cases result with
    | error fault => cases done
    | ok found =>
      cases Except.ok.inj done
      exact same found
  cases op with
  | getGame gameId =>
    simp only [handle] at answered
    split at answered
    · cases answered
      rfl
    · exact mapped _ _ (fun _ => rfl) _ answered
  | recommendable limit => exact mapped _ _ (fun _ => rfl) _ answered
  | gamesByIds gameIds => exact mapped _ _ (fun _ => rfl) _ answered
  | needingEmbedding limit => exact mapped _ _ (fun _ => rfl) _ answered
  | commit => cases open_
  | logMark eventId => cases open_
  | _ =>
    cases answered
    rfl

def unitOfWork {A : Type} (useCase : UseCase R A) : Party (Op R) Answer Fault (Session R width) A := ⟨useCase,{}⟩

def answer (backend : Backend R) (database : Database R width) (op : Op R) : Except Fault (Answer op) :=
  (handle backend op database {}).map Prod.fst

omit [Casing]

def reading (backend : Backend R) (database : Database R width) (gameId : GameId) : Session R width :=
  { games := (({} : IdentityMap (games R width)).fetch backend.retains database.games gameId).2 }

def remembering (backend : Backend R) (database : Database R width) (userId : UserId) : IdentityMap (preferences R width) :=
  (({} : IdentityMap (preferences R width)).fetch backend.retains database.preferences userId).2

end Sql
end ArcadiaRecommendation
