import ArcadiaRecommendation.Memory.Store
import ArcadiaRecommendation.Application.Ingest

/-! What each ingest use case does to the in-memory store, in closed form. An
execution that raises leaves the store as it was. -/
namespace ArcadiaRecommendation
variable {R : Type} [Scalar R] [Casing]

namespace MemoryStore

def remember (store : MemoryStore R) (eventId : UUID) : MemoryStore R :=
  { store with processedEvents := insert eventId store.processedEvents }

def preferenceOf (store : MemoryStore R) (userId : UserId) : UserPreference R :=
  (store.preferences.get userId).getD (.blank userId)

def own (store : MemoryStore R) (userId : UserId) (gameId : GameId) (counted : Bool) : MemoryStore R :=
  { store with ownerships := Memory.recordRow store.ownerships (userId,gameId,counted) }

/-- The owners of a game whose purchase has not reached their taste, oldest row first. -/
def uncounted (store : MemoryStore R) (gameId : GameId) : List UserId :=
  (((store.ownerships.get gameId).getD ∅).entries.filter fun entry => !entry.2).map Prod.fst

end MemoryStore

namespace Memory
open MemoryStore

/-- The loop of a backfill: the preferences it stages, over those already staged. -/
def creditAll (preferences : PreferenceTable R) (game : GameProfile R) (at_ : DateTime) :
    List UserId → PreferenceTable R → Except InvariantViolation (PreferenceTable R)
  | [],staged => .ok staged
  | userId :: rest,staged =>
    match (((staged.get userId).or (preferences.get userId)).getD (.blank userId)).observe game .purchase at_ with
    | .ok observed => creditAll preferences game at_ rest (staged.upsert observed)
    | .error rule => .error rule

theorem applied_marked (session : Session R) (eventId : UUID) (unmarked : session.processed = ∅) :
    applied { session with processed := insert eventId session.processed } =
      { applied session with processedEvents := insert eventId session.store.processedEvents } := by
  simp only [applied,unmarked,Finset.union_insert,Finset.union_empty]

theorem uncountedOwners_start (session : Session R) (gameId : GameId) (limit : Nat)
    (unstaged : session.ownerships = []) :
    uncountedOwners session gameId limit = (session.store.uncounted gameId).take limit := by
  simp only [uncountedOwners,unstaged,List.filter_nil,List.map_nil,List.append_nil,uncounted]

theorem run_credits (environment : Environment) (game : GameProfile R) (at_ : DateTime) (owners : List UserId)
    (session : Session R) (staged : PreferenceTable R)
    (credited : creditAll session.store.preferences game at_ owners session.preferences = .ok staged) :
    ∃ units, (Program.forEach (HandleGamePublished.credit game at_) owners).run (handle environment) session =
      (.ok units,{ session with preferences := staged }) := by
  induction owners generalizing session with
  | nil =>
    cases Except.ok.inj credited
    exact ⟨[],rfl⟩
  | cons userId rest ih =>
    unfold creditAll at credited
    split at credited
    · rename_i observed done
      obtain ⟨units,ran⟩ := ih { session with preferences := session.preferences.upsert observed } credited
      refine ⟨() :: units,?_⟩
      simp only [Program.forEach,HandleGamePublished.credit,preferenceOf,Program.bind_eq,Program.pure_eq,
        Program.call_bind,Program.done_bind,Program.run_call,handle]
      rw [done]
      simp only [check_ok,Program.done_bind,Program.call_bind,Program.run_call,handle,Program.run_bind,ran,
        Program.run_done]
    · cases credited

theorem run_credits_error (environment : Environment) (game : GameProfile R) (at_ : DateTime)
    (owners : List UserId) (session : Session R) (rule : InvariantViolation)
    (refused : creditAll session.store.preferences game at_ owners session.preferences = .error rule) :
    ∃ after, (Program.forEach (HandleGamePublished.credit game at_) owners).run (handle environment) session =
      (.error (.violation rule),after) ∧ after.store = session.store := by
  induction owners generalizing session with
  | nil => cases refused
  | cons userId rest ih =>
    unfold creditAll at refused
    simp only [Program.forEach,HandleGamePublished.credit,preferenceOf,Program.bind_eq,Program.pure_eq,
      Program.call_bind,Program.done_bind,Program.run_call,handle]
    split at refused
    · rename_i observed done
      obtain ⟨after,ran,same⟩ := ih { session with preferences := session.preferences.upsert observed } refused
      refine ⟨after,?_,same⟩
      rw [done]
      simp only [check_ok,Program.done_bind,Program.call_bind,Program.run_call,handle,Program.run_bind,ran]
    · rename_i broken failed
      cases Except.error.inj refused
      rw [failed]
      exact ⟨session,rfl,rfl⟩

def backfilled (store : MemoryStore R) (backfillLimit : Nat) (game : GameProfile R) (at_ : DateTime) :
    Except InvariantViolation (MemoryStore R) :=
  let owners := (store.uncounted game.gameId).take backfillLimit
  match creditAll store.preferences game at_ owners ∅ with
  | .error rule => .error rule
  | .ok staged => .ok
    { store with
      games := store.games.upsert game
      preferences := store.preferences.update staged
      ownerships := (owners.map fun userId => (userId,game.gameId,true)).foldl recordRow store.ownerships }

def purchased (store : MemoryStore R) (userId : UserId) (game : GameProfile R) (at_ : DateTime) :
    Except InvariantViolation (MemoryStore R) :=
  match (store.preferenceOf userId).observe game .purchase at_ with
  | .error rule => .error rule
  | .ok observed => .ok
    { store.own userId game.gameId true with
      games := store.games.upsert game.bought, preferences := store.preferences.upsert observed }

def reviewed (store : MemoryStore R) (userId : UserId) (game : GameProfile R) (liked : Bool) (at_ : DateTime) :
    Except InvariantViolation (MemoryStore R) :=
  match (store.preferenceOf userId).observe game (reviewKind liked) at_ with
  | .error rule => .error rule
  | .ok observed => .ok { store with preferences := store.preferences.upsert observed }

def effect (backfillLimit : Nat) (environment : Environment) (store : MemoryStore R) :
    Event → Except InvariantViolation (MemoryStore R)
  | .gamePublished _ gameId developerId title genres tags publishedAt description =>
    match HandleGamePublished.describe (store.games.get gameId) gameId developerId title genres tags
      publishedAt description with
    | .error rule => .error rule
    | .ok game => backfilled store backfillLimit game (environment.clock 0)
  | .gameWithdrawn _ gameId =>
    match store.games.get gameId with
    | none => .ok store
    | some game => .ok { store with games := store.games.upsert game.withdrawn }
  | .purchaseCompleted _ recipientId gameId occurredAt =>
    match store.games.get gameId with
    | none => .ok (store.own recipientId gameId false)
    | some game => purchased store recipientId game (occurredAt.getD (environment.clock 0))
  | .reviewPosted _ authorId gameId liked occurredAt =>
    match store.games.get gameId with
    | none => .ok store
    | some game => reviewed store authorId game liked (occurredAt.getD (environment.clock 0))

def ingest (backfillLimit : Nat) (environment : Environment) (event : Event) (store : MemoryStore R) :
    Except InvariantViolation (MemoryStore R) :=
  if event.eventId ∈ store.processedEvents then .ok store
  else (effect backfillLimit environment store event).map fun after => after.remember event.eventId

def resultOf (store : MemoryStore R) : Except InvariantViolation (MemoryStore R) →
    Except Fault Unit × MemoryStore R
  | .ok after => (.ok (),after)
  | .error rule => (.error (.violation rule),store)

theorem run_moment (environment : Environment) (occurredAt : Option DateTime) (session : Session R)
    (unread : session.readings = 0) :
    ∃ readings, (momentOf occurredAt).run (handle environment) session =
      (.ok (occurredAt.getD (environment.clock 0)),{ session with readings }) := by
  cases occurredAt with
  | some moment => exact ⟨session.readings,rfl⟩
  | none => exact ⟨1,by simp only [momentOf,Program.run_call,handle,unread]; rfl⟩

theorem execute_unless (environment : Environment) (eventId : UUID) (rest : UseCase R Unit)
    (store : MemoryStore R) :
    execute environment ((alreadyHandled eventId).bind fun handled => if handled then .done () else rest) store =
      if eventId ∈ store.processedEvents then (.ok (),store) else execute environment rest store := by
  simp only [execute,alreadyHandled,Program.call_bind,Program.done_bind,Program.run_call,handle]
  by_cases known : eventId ∈ store.processedEvents
  · simp [known]
  · simp [known]

theorem resultOf_ingest (backfillLimit : Nat) (environment : Environment) (event : Event)
    (store : MemoryStore R) (rest : Except Fault Unit × MemoryStore R)
    (ran : event.eventId ∉ store.processedEvents → rest =
      resultOf store ((effect backfillLimit environment store event).map fun after => after.remember event.eventId)) :
    (if event.eventId ∈ store.processedEvents then (.ok (),store) else rest) =
      resultOf store (ingest backfillLimit environment event store) := by
  unfold ingest
  split
  · rfl
  · rename_i fresh
    exact ran fresh

private theorem execute_published (backfillLimit : Nat) (environment : Environment) (store : MemoryStore R)
    (eventId : UUID) (game : GameProfile R) :
    execute environment ((Games.upsert game).bind fun _ =>
      (HandleGamePublished.backfill backfillLimit game).bind fun _ =>
        (ProcessedEvents.mark eventId).bind fun _ => commit) store =
      resultOf store ((backfilled store backfillLimit game (environment.clock 0)).map
        fun after => after.remember eventId) := by
  have owners := uncountedOwners_start
    ({ store, games := (∅ : GameTable R).upsert game } : Session R) game.gameId backfillLimit rfl
  simp only [execute,HandleGamePublished.backfill,Program.bind_eq,Program.pure_eq,Program.call_bind,
    Program.done_bind,Program.run_call,handle,owners,backfilled]
  cases pending : (store.uncounted game.gameId).take backfillLimit with
  | nil =>
    simp only [List.isEmpty_nil,if_true,Program.done_bind,creditAll,Except.map,resultOf,List.map_nil,List.foldl_nil]
    refine Prod.ext rfl ?_
    exact applied_marked { store, games := (∅ : GameTable R).upsert game } eventId rfl
  | cons first rest =>
    simp only [List.isEmpty_cons,Bool.false_eq_true,if_false,Program.call_bind,Program.done_bind,
      Program.run_call,handle,Program.bind_assoc,Program.run_bind]
    cases credited : creditAll store.preferences game (environment.clock 0) (first :: rest) ∅ with
    | error rule =>
      obtain ⟨after,ran,same⟩ := run_credits_error environment game (environment.clock 0) (first :: rest)
        { store, games := (∅ : GameTable R).upsert game, readings := 1 } rule credited
      rw [ran]
      exact Prod.ext rfl same
    | ok staged =>
      obtain ⟨units,ran⟩ := run_credits environment game (environment.clock 0) (first :: rest)
        { store, games := (∅ : GameTable R).upsert game, readings := 1 } staged credited
      rw [ran]
      refine Prod.ext rfl ?_
      exact applied_marked
        { store, games := (∅ : GameTable R).upsert game, preferences := staged, readings := 1,
          ownerships := (first :: rest).map fun userId => (userId,game.gameId,true) } eventId rfl

/-- Every ingest use case does what the closed form says, or raises and changes nothing. -/
theorem execute_ingest (backfillLimit : Nat) (environment : Environment) (event : Event) (store : MemoryStore R) :
    execute environment (event.execute backfillLimit) store =
      resultOf store (ingest backfillLimit environment event store) := by
  cases event with
  | gamePublished eventId gameId developerId title genres tags publishedAt description =>
    apply (execute_unless environment eventId _ store).trans
    apply resultOf_ingest backfillLimit environment (.gamePublished eventId gameId developerId title genres tags
      publishedAt description)
    intro fresh
    simp only [effect,Event.eventId]
    have read (next : Option (GameProfile R) → UseCase R Unit) :
        execute environment ((Games.get gameId).bind next) store =
          execute environment (next (store.games.get gameId)) store := rfl
    apply (read _).trans
    cases HandleGamePublished.describe (store.games.get gameId) gameId developerId title genres tags publishedAt
      description with
    | error rule => rfl
    | ok game => exact execute_published backfillLimit environment store eventId game
  | gameWithdrawn eventId gameId =>
    apply (execute_unless environment eventId _ store).trans
    apply resultOf_ingest backfillLimit environment (.gameWithdrawn eventId gameId)
    intro fresh
    simp only [effect,execute,Program.bind_eq,Program.call_bind,Program.done_bind,Program.run_call,handle,Event.eventId]
    cases store.games.get gameId with
    | none => exact Prod.ext rfl (applied_marked { store } eventId rfl)
    | some game =>
      exact Prod.ext rfl (applied_marked { store, games := (∅ : GameTable R).upsert game.withdrawn } eventId rfl)
  | purchaseCompleted eventId recipientId gameId occurredAt =>
    apply (execute_unless environment eventId _ store).trans
    apply resultOf_ingest backfillLimit environment (.purchaseCompleted eventId recipientId gameId occurredAt)
    intro fresh
    simp only [effect,execute,Program.bind_eq,Program.call_bind,Program.done_bind,Program.run_call,handle,Event.eventId]
    cases found : store.games.get gameId with
    | none => exact Prod.ext rfl (applied_marked { store, ownerships := [(recipientId,gameId,false)] } eventId rfl)
    | some game =>
      simp only [preferenceOf,Program.bind_eq,Program.pure_eq,Program.call_bind,Program.done_bind,Program.run_call,
        handle,Table.get_empty,Option.none_or]
      obtain ⟨readings,read⟩ := run_moment environment occurredAt ({ store } : Session R) rfl
      rw [Program.run_bind,read]
      simp only [purchased,MemoryStore.preferenceOf,store.games.keyed gameId game found]
      cases ((store.preferences.get recipientId).getD (.blank recipientId)).observe game .purchase
        (occurredAt.getD (environment.clock 0)) with
      | error rule => rfl
      | ok observed =>
        exact Prod.ext rfl (applied_marked
          { store, readings, games := (∅ : GameTable R).upsert game.bought,
            preferences := (∅ : PreferenceTable R).upsert observed,
            ownerships := [(recipientId,gameId,true)] } eventId rfl)
  | reviewPosted eventId authorId gameId liked occurredAt =>
    apply (execute_unless environment eventId _ store).trans
    apply resultOf_ingest backfillLimit environment (.reviewPosted eventId authorId gameId liked occurredAt)
    intro fresh
    simp only [effect,execute,Program.bind_eq,Program.call_bind,Program.done_bind,Program.run_call,handle,Event.eventId]
    cases store.games.get gameId with
    | none => exact Prod.ext rfl (applied_marked { store } eventId rfl)
    | some game =>
      simp only [preferenceOf,Program.bind_eq,Program.pure_eq,Program.call_bind,Program.done_bind,Program.run_call,
        handle,Table.get_empty,Option.none_or]
      obtain ⟨readings,read⟩ := run_moment environment occurredAt ({ store } : Session R) rfl
      rw [Program.run_bind,read]
      simp only [reviewed,MemoryStore.preferenceOf]
      cases ((store.preferences.get authorId).getD (.blank authorId)).observe game (reviewKind liked)
        (occurredAt.getD (environment.clock 0)) with
      | error rule => rfl
      | ok observed =>
        exact Prod.ext rfl (applied_marked
          { store, readings, preferences := (∅ : PreferenceTable R).upsert observed } eventId rfl)

end Memory
end ArcadiaRecommendation
