import ArcadiaRecommendation.Foundation.Simulation
import ArcadiaRecommendation.Foundation.StagedWrites
import ArcadiaRecommendation.Properties.BoundedReads
import ArcadiaRecommendation.Sql.Owners
import ArcadiaRecommendation.Sql.Purchase

/-! A relational session beside an in-memory one, operation by operation. What the one has staged,
the other holds in its identity maps and its statements. -/
namespace ArcadiaRecommendation
variable {R : Type} [Scalar R] {width : Nat}

section
variable [Casing] {store : MemoryStore R} {database : Database R width}

theorem SameRows.owners (same : SameRows store database) : SameOwners store.ownerships database.ownerships := by
  refine ⟨same.ownerships,fun gameId => ?_⟩
  have ascending := List.pairwise_map.mpr (same.acquired gameId)
  rw [List.map_filterMap] at ascending
  exact ascending

private theorem SameRows.of_owners (games : ∀ gameId, (database.games.get gameId).map (·.toGameFields) =
      (store.games.get gameId).map (·.toGameFields))
    (preferences : ∀ userId, (database.preferences.get userId).map (·.toUserPreference) = store.preferences.get userId)
    (owners : SameOwners store.ownerships database.ownerships)
    (recommendations : ∀ userId, (database.recommendations.filter (·.userId = userId)).Perm (Memory.listOf store userId))
    (ranks : Memory.Ranked store) : SameRows store database := by
  refine ⟨games,preferences,owners.flags,fun gameId => ?_,recommendations,ranks⟩
  have ascending := owners.acquired gameId
  have split : (((store.ownerships.get gameId).getD ∅).keys.filterMap fun userId =>
      (database.ownerships.get (userId,gameId)).map (·.acquiredAt.micros)) =
      (((store.ownerships.get gameId).getD ∅).keys.filterMap fun userId =>
        database.ownerships.get (userId,gameId)).map (·.acquiredAt.micros) := List.map_filterMap.symm
  rw [split] at ascending
  exact List.pairwise_map.mp ascending

end

namespace Sql
variable [DecidableEq R]

theorem visible_execute (statement : Statement) (own : Session R width) (database : Database R width) :
    visible (execute statement own) database = (visible own database).apply statement := by
  unfold visible execute Database.applyAll
  rw [List.foldl_append]
  rfl

variable [Casing]

/-- A session that has not committed yet, beside one in memory. Whoever owned a game before this
session acquired it in the past, and whoever it adds acquires it at a reading of its clock. -/
structure Beside (clock : Nat → DateTime) (past : DateTime → Prop) (session : Memory.Session R) (own : Session R width)
    (database : Database R width) : Prop where
  rows : SameRows session.store database
  log : session.store.processedEvents = database.processedEvents
  games : own.games.Stages database.games fun gameId => (session.games.get gameId).map (·.toGameFields)
  preferences : own.preferences.Stages database.preferences session.preferences.get
  owners : SameOwners (Memory.applied session).ownerships (visible own database).ownerships
  processed : (Memory.applied session).processedEvents = (visible own database).processedEvents
  unlisted : session.recommendations = ∅ ∧ own.recommendations = [] ∧ own.outbox = []
  kept : (visible own database).recommendations = database.recommendations
  before : database.ownerships.Acquired past
  acquired : (visible own database).ownerships.Acquired fun at_ => past at_ ∨ ∃ reading, at_ = clock reading
  untouched : session.ownerships = [] →
    (visible own database).ownerships = database.ownerships ∧ own.readings = session.readings

/-- The states of the two backends at the same point of a unit of work. -/
def Joined (clock : Nat → DateTime) (past : DateTime → Prop) (session : Memory.Session R)
    (state : Session R width × Database R width) : Prop :=
  if session.committed then SameRows session.store state.2 ∧ session.store.processedEvents = state.2.processedEvents ∧
    state.2.ownerships.Acquired fun at_ => past at_ ∨ ∃ reading, at_ = clock reading
  else Beside clock past session state.1 state.2

/-- What an ingest may ask in a session. No row is read again once it is written, and the clock is
read before an owner is recorded, since a deployed recording reads it too. -/
def Permits (width : Nat) (session : Memory.Session R) (op : Op R) : Prop :=
  session.committed = false ∧
    match op with
    | .getGame gameId => session.games.get gameId = none
    | .upsertGame game => session.games.get game.gameId = none ∧ game.dense.Sized width
    | .getPreference userId => session.preferences.get userId = none
    | .upsertPreference preference =>
      session.preferences.get preference.userId = none ∧ preference.tasteDense.Sized width
    | .recordOwnership _ _ _ | .uncountedOwners _ _ | .now => session.ownerships = []
    | .markCounted gameId userIds => session.ownerships = [] ∧
      ∀ userId ∈ userIds, (((session.store.ownerships.get gameId).getD ∅).get userId).isSome
    | .seen _ | .mark _ | .commit => True
    | _ => False

section Steps
variable {clock : Nat → DateTime} {past : DateTime → Prop} {session : Memory.Session R} {own : Session R width}
  {database : Database R width}

theorem Beside.marked (beside : Beside clock past session own database) (eventId : UUID) :
    Beside clock past { session with processed := insert eventId session.processed }
      (execute (.markProcessed eventId) own) database where
  rows := beside.rows
  log := beside.log
  games := beside.games
  preferences := beside.preferences
  owners := by
    rw [visible_execute]
    exact beside.owners
  processed := by
    have same := beside.processed
    rw [visible_execute]
    unfold Memory.applied at same ⊢
    unfold Database.apply
    dsimp only at same ⊢
    rw [Finset.union_insert,same]
  unlisted := beside.unlisted
  kept := by
    rw [visible_execute]
    exact beside.kept
  before := beside.before
  acquired := by
    rw [visible_execute]
    exact beside.acquired
  untouched none := by
    rw [visible_execute]
    exact beside.untouched none

private theorem Beside.gotGame (beside : Beside clock past session own database) (retains : Bool) (gameId : GameId)
    (unwritten : session.games.get gameId = none) :
    (own.games.fetch retains database.games gameId).1 = (session.store.games.get gameId).map (·.toGameFields) ∧
      Beside clock past session { own with games := (own.games.fetch retains database.games gameId).2 } database := by
  obtain ⟨found,games⟩ := beside.games.fetched retains gameId (by rw [unwritten]; rfl)
  exact ⟨found.trans (beside.rows.games gameId),{ beside with games }⟩

private theorem Beside.gotPreference (beside : Beside clock past session own database) (retains : Bool)
    (userId : UserId) (unwritten : session.preferences.get userId = none) :
    (own.preferences.fetch retains database.preferences userId).1 = session.store.preferences.get userId ∧
      Beside clock past session { own with preferences := (own.preferences.fetch retains database.preferences userId).2 }
        database := by
  obtain ⟨found,preferences⟩ := beside.preferences.fetched retains userId unwritten
  exact ⟨found.trans (beside.rows.preferences userId),{ beside with preferences }⟩

private theorem Beside.putGame (beside : Beside clock past session own database) (game : GameProfile R)
    (unwritten : session.games.get game.gameId = none) (sized : game.dense.Sized width) :
    Beside clock past { session with games := session.games.upsert game }
      { own with games := own.games.write database.games game.toGameFields } database := by
  have fits : Sized width game.toGameFields.dense := (sized_iff _).mpr sized
  have written := beside.games.written game.toGameFields (by
    have none : session.games.get ((Sql.games R width).keyOf game.toGameFields) = none := unwritten
    rw [none]
    rfl) ⟨game.toGameFields,fits⟩ (dif_pos fits)
  have staged : (fun gameId => ((session.games.upsert game).get gameId).map (·.toGameFields)) =
      Function.update (fun gameId => (session.games.get gameId).map (·.toGameFields))
        ((Sql.games R width).keyOf game.toGameFields) (some game.toGameFields) := by
    funext gameId
    have keyed : (Sql.games R width).keyOf game.toGameFields = game.gameId := rfl
    rw [keyed,Table.get_upsert,Function.update_apply]
    split <;> rfl
  exact { beside with games := staged ▸ written }

private theorem Beside.putPreference (beside : Beside clock past session own database) (preference : UserPreference R)
    (unwritten : session.preferences.get preference.userId = none) (sized : preference.tasteDense.Sized width) :
    Beside clock past { session with preferences := session.preferences.upsert preference }
      { own with preferences := own.preferences.write database.preferences preference } database := by
  have fits : Sized width preference.tasteDense := (sized_iff _).mpr sized
  have written := beside.preferences.written preference unwritten ⟨preference,fits⟩ (dif_pos fits)
  have staged : (session.preferences.upsert preference).get = Function.update session.preferences.get
      ((Sql.preferences R width).keyOf preference) (some preference) := by
    funext userId
    have keyed : (Sql.preferences R width).keyOf preference = preference.userId := rfl
    rw [keyed,Table.get_upsert,Function.update_apply]
  exact { beside with preferences := staged ▸ written }

private theorem Beside.ticked (beside : Beside clock past session own database) (unrecorded : session.ownerships = []) :
    own.readings = session.readings ∧ Beside clock past { session with readings := session.readings + 1 }
      { own with readings := own.readings + 1 } database := by
  obtain ⟨rows,same⟩ := beside.untouched unrecorded
  exact ⟨same,{ beside with untouched := fun _ => ⟨rows,congrArg Nat.succ same⟩ }⟩

theorem Beside.recorded (beside : Beside clock past session own database)
    (ahead : ∀ at_, past at_ → ∀ reading, at_.micros < (clock reading).micros) (unrecorded : session.ownerships = [])
    (row : OwnershipRow) (moment : row.acquiredAt = clock own.readings) :
    Beside clock past { session with ownerships := session.ownerships ++ [(row.userId,row.gameId,row.counted)] }
      { execute (.recordOwnership row) own with readings := own.readings + 1 } database := by
  have seen : visible { execute (.recordOwnership row) own with readings := own.readings + 1 } database =
      (visible own database).apply (.recordOwnership row) := visible_execute (.recordOwnership row) own database
  obtain ⟨rows,_⟩ := beside.untouched unrecorded
  refine { beside with owners := ?_, processed := ?_, kept := ?_, acquired := ?_, untouched := ?_ }
  · rw [seen]
    unfold Memory.applied
    dsimp only
    rw [List.foldl_append]
    apply beside.owners.recorded row
    intro _ key stored found
    rw [rows] at found
    rw [moment]
    exact ahead _ (beside.before key stored found) own.readings
  · rw [seen]
    exact beside.processed
  · rw [seen]
    exact beside.kept
  · rw [seen]
    exact OwnershipTable.acquired_record _ row _ beside.acquired (.inr ⟨own.readings,moment⟩)
  · intro none
    cases (List.append_eq_nil_iff.mp none).2

theorem Beside.counted (beside : Beside clock past session own database) (unrecorded : session.ownerships = [])
    (gameId : GameId) (userIds : List UserId)
    (present : ∀ userId ∈ userIds, (((session.store.ownerships.get gameId).getD ∅).get userId).isSome) :
    Beside clock past
      { session with ownerships := session.ownerships ++ userIds.map fun userId => (userId,gameId,true) }
      (execute (.markCounted gameId userIds) own) database := by
  obtain ⟨rows,readings⟩ := beside.untouched unrecorded
  refine { beside with owners := ?_, processed := ?_, kept := ?_, acquired := ?_, untouched := ?_ }
  · rw [visible_execute]
    unfold Memory.applied
    dsimp only
    rw [List.foldl_append]
    apply beside.owners.marked gameId userIds
    intro userId member
    have there := present userId member
    rw [← beside.rows.ownerships,Option.isSome_map] at there
    rw [rows]
    exact there
  · rw [visible_execute]
    exact beside.processed
  · rw [visible_execute]
    exact beside.kept
  · rw [visible_execute]
    exact OwnershipTable.acquired_marked _ gameId userIds _ beside.acquired
  · intro none
    obtain ⟨_,nobody⟩ := List.append_eq_nil_iff.mp none
    cases List.map_eq_nil_iff.mp nobody
    rw [visible_execute]
    exact ⟨rows,readings⟩

theorem Beside.uncounted (beside : Beside clock past session own database) (unrecorded : session.ownerships = [])
    (gameId : GameId) (limit : Nat) : (visible own database).ownerships.uncountedOwners gameId limit =
      Memory.uncountedOwners session gameId limit := by
  rw [(beside.untouched unrecorded).1,← beside.rows.uncountedOwners gameId limit]
  unfold Memory.uncountedOwners
  rw [unrecorded]

/-- The commit never fails, and then both hold the same rows. -/
theorem Beside.commits (beside : Beside clock past session own database) :
    ∃ after, committed own database = .ok after ∧ SameRows (Memory.applied session) after ∧
      (Memory.applied session).processedEvents = after.processedEvents ∧
      after.ownerships.Acquired fun at_ => past at_ ∨ ∃ reading, at_ = clock reading := by
  obtain ⟨games,flushed,stored⟩ := beside.games.flushed .integrityError
  obtain ⟨preferences,written,known⟩ := beside.preferences.flushed .integrityError
  obtain ⟨unlisted,recommendations,outbox⟩ := beside.unlisted
  have done : committed own database = .ok { visible own database with games, preferences } := by
    unfold committed
    rw [flushed,written,recommendations,outbox]
    rfl
  have lists : (Memory.applied session).recommendations = session.store.recommendations := by
    unfold Memory.applied
    dsimp only
    rw [unlisted]
    exact Dict.update_empty _
  refine ⟨_,done,?_,beside.processed,beside.acquired⟩
  apply SameRows.of_owners
  · intro gameId
    refine (stored gameId).trans ?_
    unfold IdentityMap.columnsAt Memory.applied
    rw [Table.get_update]
    have before : (database.games.get gameId).map (Sql.games R width).columns =
        (session.store.games.get gameId).map (·.toGameFields) := beside.rows.games gameId
    rw [before]
    cases session.games.get gameId <;> rfl
  · intro userId
    refine (known userId).trans ?_
    unfold IdentityMap.columnsAt Memory.applied
    rw [Table.get_update]
    exact congrArg _ (beside.rows.preferences userId)
  · exact beside.owners
  · intro userId
    unfold Memory.listOf
    rw [lists]
    have same := beside.rows.recommendations userId
    rw [← beside.kept] at same
    exact same
  · exact Memory.ranked_of_same _ _ lists beside.rows.ranks

end Steps

section Session
variable {clock : Nat → DateTime} {past : DateTime → Prop}

theorem Joined.beside {session : Memory.Session R} {state : Session R width × Database R width}
    (joined : Joined clock past session state) (uncommitted : session.committed = false) :
    Beside clock past session state.1 state.2 := by
  unfold Joined at joined
  rw [uncommitted] at joined
  exact joined

theorem Beside.joined {session : Memory.Session R} {own : Session R width} {database : Database R width}
    (beside : Beside clock past session own database) (uncommitted : session.committed = false) :
    Joined clock past session (own,database) := by
  unfold Joined
  rw [uncommitted]
  exact beside

/-- Every operation that an ingest may ask is answered alike on both backends. -/
theorem handle_simulates (backend : Backend R) (past : DateTime → Prop)
    (ahead : ∀ at_, past at_ → ∀ reading, at_.micros < (backend.environment.clock reading).micros) :
    Program.Simulates (Memory.handle backend.environment)
      (handle backend : SharedHandler (Op R) Answer Fault (Session R width) (Database R width)).joint (Permits width)
      (Joined backend.environment.clock past) := by
  intro op session state permitted joined
  obtain ⟨own,database⟩ := state
  obtain ⟨uncommitted,allowed⟩ := permitted
  have beside := joined.beside uncommitted
  refine .inl ?_
  cases op with
  | getGame gameId =>
    obtain ⟨found,later⟩ := beside.gotGame backend.retains gameId allowed
    have read : Memory.handle backend.environment (.getGame gameId) session =
        .ok (session.store.games.get gameId,session) := by
      unfold Memory.handle
      dsimp only
      rw [allowed,Option.none_or]
    cases stored : session.store.games.get gameId with
    | none =>
      rw [stored] at read found
      refine ⟨none,session,(own,database),read,?_,joined⟩
      unfold SharedHandler.joint handle
      dsimp only
      rw [found]
      rfl
    | some game =>
      rw [stored] at read found
      refine ⟨some game,session,_,read,?_,later.joined uncommitted⟩
      unfold SharedHandler.joint handle
      dsimp only
      rw [found]
      dsimp only [Option.map_some]
      rw [gameToDomain_fields]
      rfl
  | upsertGame game =>
    exact ⟨(),_,_,rfl,rfl,(beside.putGame game allowed.1 allowed.2).joined uncommitted⟩
  | getPreference userId =>
    obtain ⟨found,later⟩ := beside.gotPreference backend.retains userId allowed
    refine ⟨session.store.preferences.get userId,session,_,?_,?_,later.joined uncommitted⟩
    · unfold Memory.handle
      dsimp only
      rw [allowed,Option.none_or]
    · unfold SharedHandler.joint handle
      dsimp only
      rw [found]
  | upsertPreference preference =>
    exact ⟨(),_,_,rfl,rfl,(beside.putPreference preference allowed.1 allowed.2).joined uncommitted⟩
  | recordOwnership userId gameId counted =>
    exact ⟨(),_,_,rfl,rfl,(beside.recorded ahead allowed
      ⟨userId,gameId,backend.environment.clock own.readings,counted⟩ rfl).joined uncommitted⟩
  | uncountedOwners gameId limit =>
    refine ⟨_,session,_,rfl,?_,joined⟩
    rw [← beside.uncounted allowed gameId limit]
    rfl
  | markCounted gameId userIds =>
    exact ⟨(),_,_,rfl,rfl,(beside.counted allowed.1 gameId userIds allowed.2).joined uncommitted⟩
  | seen eventId =>
    refine ⟨_,session,_,rfl,?_,joined⟩
    have same := beside.processed
    unfold SharedHandler.joint handle
    dsimp only
    rw [← same]
    unfold Memory.applied
    simp only [Finset.mem_union]
  | mark eventId => exact ⟨(),_,_,rfl,rfl,(beside.marked eventId).joined uncommitted⟩
  | commit =>
    obtain ⟨after,done,same⟩ := beside.commits
    refine ⟨(),_,({ readings := own.readings, issued := own.issued },after),rfl,?_,?_⟩
    · unfold SharedHandler.joint handle
      dsimp only
      rw [done]
      rfl
    · exact (if_pos rfl).mpr same
  | now =>
    obtain ⟨readings,later⟩ := beside.ticked allowed
    refine ⟨_,_,_,rfl,?_,later.joined uncommitted⟩
    unfold SharedHandler.joint handle
    dsimp only
    rw [readings]
  | _ => exact allowed.elim

end Session

end Sql
end ArcadiaRecommendation
