import ArcadiaRecommendation.Application.Ports
import ArcadiaRecommendation.Messaging.Record
import Mathlib.Data.Finset.Basic
import Mathlib.Data.Finset.Lattice.Lemmas
import Mathlib.Data.Finset.Dedup

/-! The in-memory backend. A unit of work stages every write and applies them to the
store on commit, so a session that never commits leaves the store as it was. -/
namespace ArcadiaRecommendation

abbrev GameTable (R : Type) [Scalar R] [Casing] := Table GameId (GameProfile R) (·.gameId)

abbrev PreferenceTable (R : Type) [Scalar R] := Table UserId (UserPreference R) (·.userId)

structure MemoryStore (R : Type) [Scalar R] [Casing] where
  games : GameTable R := ∅
  preferences : PreferenceTable R := ∅
  /-- Game, owner, and whether the purchase also reached that owner's taste. -/
  ownerships : Dict GameId (Dict UserId Bool) := ∅
  recommendations : Dict UserId (List (Recommendation R)) := ∅
  outbox : Dict UUID (OutboxRecord R) := ∅
  processedEvents : Finset UUID := ∅

/-- The order in which a builtin set hands out its elements. -/
structure SetOrder (A : Type) [DecidableEq A] where
  list : Finset A → List A
  nodup : ∀ elements, (list elements).Nodup
  members : ∀ elements, (list elements).toFinset = elements

structure Environment where
  topic : String
  correlationId : Option String
  isoformat : DateTime → String
  /-- The successive readings of the clock, and the successive fresh ids. -/
  clock : Nat → DateTime
  ids : Nat → UUID
  explain : ExplanationRequest → Dict GameId (List String)
  users : SetOrder UserId
  games : SetOrder GameId

def SetOrder.ascending {A : Type} [DecidableEq A] (key : A → Nat) (injective : Function.Injective key) : SetOrder A :=
  let before : A → A → Prop := fun first second => key first ≤ key second
  have total : Std.Total before := ⟨fun _ _ => Nat.le_total _ _⟩
  have transitive : IsTrans A before := ⟨fun _ _ _ => Nat.le_trans⟩
  have permuted (items : List A) : (items.insertionSort before).Perm items := List.perm_insertionSort before items
  { list := fun elements => Quot.liftOn elements.val (List.insertionSort before) fun left right same => by
      apply (((permuted left).trans same).trans (permuted right).symm).eq_of_pairwise
        (fun a b _ _ below above => injective (Nat.le_antisymm below above))
      · exact List.pairwise_insertionSort before left
      · exact List.pairwise_insertionSort before right
    nodup := by
      intro elements
      obtain ⟨⟨items⟩,distinct⟩ := elements
      exact (permuted items).nodup_iff.mpr distinct
    members := by
      intro elements
      obtain ⟨⟨items⟩,distinct⟩ := elements
      ext element
      rw [List.mem_toFinset]
      exact (permuted items).mem_iff }

theorem UserId.toNat_injective : Function.Injective fun id : UserId => id.value.bits.toNat := by
  intro first second same
  obtain ⟨⟨left⟩⟩ := first
  obtain ⟨⟨right⟩⟩ := second
  have equal : left = right := BitVec.eq_of_toNat_eq same
  rw [equal]

theorem GameId.toNat_injective : Function.Injective fun id : GameId => id.value.bits.toNat := by
  intro first second same
  obtain ⟨⟨left⟩⟩ := first
  obtain ⟨⟨right⟩⟩ := second
  have equal : left = right := BitVec.eq_of_toNat_eq same
  rw [equal]

/-- An environment whose clock counts microseconds and that explains nothing. -/
def Environment.fixed : Environment where
  topic := "reco-events"
  correlationId := none
  isoformat _ := ""
  clock reading := ⟨reading⟩
  ids count := ⟨BitVec.ofNat 128 (1000 + count)⟩
  explain _ := ∅
  users := .ascending _ UserId.toNat_injective
  games := .ascending _ GameId.toNat_injective

namespace Memory

structure Session (R : Type) [Scalar R] [Casing] where
  store : MemoryStore R
  games : GameTable R := ∅
  preferences : PreferenceTable R := ∅
  ownerships : List (UserId × GameId × Bool) := []
  recommendations : Dict UserId (List (Recommendation R)) := ∅
  events : List (OutboxRecord R) := []
  processed : Finset UUID := ∅
  committed : Bool := false
  readings : Nat := 0
  issued : Nat := 0

variable {R : Type} [Scalar R] [Casing]

def ownersOf (store : MemoryStore R) (gameId : GameId) : Finset UserId :=
  ((store.ownerships.get gameId).getD ∅).keys.toFinset

def ownedBy (store : MemoryStore R) (userId : UserId) : Finset GameId :=
  ((store.ownerships.entries.filter fun entry => entry.2.contains userId).map Prod.fst).toFinset

def recommendable (games : GameTable R) (limit : Nat) : List (GameProfile R) :=
  (sortedBy TopSellersProvider.precedes (games.values.filter (·.isPublished))).take limit

def needingEmbedding (games : GameTable R) (limit : Nat) : List (GameProfile R) :=
  (sortedBy TopSellersProvider.precedes (games.values.filter (·.needsEmbedding))).take limit

/-- The sort key `(updated_at is None, str(user_id))` as a relation. -/
def moreActive (first second : UserPreference R) : Prop :=
  first.updatedAt.isSome = true ∧ second.updatedAt.isNone = true ∨
    first.updatedAt.isNone = second.updatedAt.isNone ∧ first.userId.str ≤ second.userId.str

instance : DecidableRel (moreActive (R := R)) := fun _ _ => inferInstanceAs (Decidable (_ ∨ _))

def withSignals (preferences : PreferenceTable R) (limit : Nat) : List UserId :=
  ((sortedBy moreActive (preferences.values.filter fun item => 0 < item.signalCount)).take limit).map (·.userId)

def uncountedOwners (session : Session R) (gameId : GameId) (limit : Nat) : List UserId :=
  let pending :=
    (((session.store.ownerships.get gameId).getD ∅).entries.filter fun entry => !entry.2).map Prod.fst
  let staged := (session.ownerships.filter fun row => row.2.1 = gameId ∧ ¬row.2.2 ∧ row.1 ∉ pending).map Prod.fst
  (pending ++ staged).take limit

/-- Counts of distinct neighbours, largest first; ties keep the order of counting. -/
def coPurchases (environment : Environment) (store : MemoryStore R) (userId : UserId) (owned : Finset GameId)
    (limit : Nat) : Dict GameId Int :=
  if owned = ∅ then ∅
  else
    let neighbours := (((environment.games.list owned).map (ownersOf store)).foldl (· ∪ ·) ∅).erase userId
    let counted := (environment.users.list neighbours).flatMap fun neighbour =>
      environment.games.list (ownedBy store neighbour \ owned)
    let counts := counted.foldl (fun counts gameId => counts.set gameId ((counts.get gameId).getD 0 + 1))
      (∅ : Dict GameId Int)
    .ofList ((sortedBy (fun first second => second.2 ≤ first.2) counts.entries).take limit)

def forUser (session : Session R) (userId : UserId) (limit : Nat) : List (Recommendation R) :=
  let stored := (session.recommendations.get userId).getD ((session.store.recommendations.get userId).getD [])
  (sortedBy (fun first second => first.rank ≤ second.rank) stored).take limit

def outboxRecord (environment : Environment) (event : RecommendationGenerated R) : OutboxRecord R where
  id := event.eventId
  aggregateId := event.aggregateId
  aggregateType := RecommendationGenerated.aggregateType
  eventType := RecommendationGenerated.eventType
  payload := Serialization.eventEnvelope environment.isoformat event environment.correlationId
  occurredAt := event.occurredAt
  topic := environment.topic
  partitionKey := Serialization.partitionKey event
  correlationId := environment.correlationId

/-- The flag of a row is raised, never lowered. -/
def recordRow (ownerships : Dict GameId (Dict UserId Bool)) (row : UserId × GameId × Bool) :
    Dict GameId (Dict UserId Bool) :=
  let owners := (ownerships.get row.2.1).getD ∅
  ownerships.set row.2.1 (owners.set row.1 ((owners.get row.1).getD false || row.2.2))

def applied (session : Session R) : MemoryStore R where
  games := session.store.games.update session.games
  preferences := session.store.preferences.update session.preferences
  ownerships := session.ownerships.foldl recordRow session.store.ownerships
  recommendations := session.store.recommendations.update session.recommendations
  outbox := session.events.foldl (fun outbox record => outbox.set record.id record) session.store.outbox
  processedEvents := session.store.processedEvents ∪ session.processed

def handle (environment : Environment) : Handler (Op R) Answer Fault (Session R) := fun op session =>
  let games := session.store.games.update session.games
  match op with
  | .getGame gameId => .ok ((session.games.get gameId).or (session.store.games.get gameId),session)
  | .upsertGame game => .ok ((),{ session with games := session.games.upsert game })
  | .recommendable limit => .ok (recommendable games limit,session)
  | .gamesByIds gameIds => .ok (gameIds.filterMap games.get,session)
  | .needingEmbedding limit => .ok (needingEmbedding games limit,session)
  | .getPreference userId =>
    .ok ((session.preferences.get userId).or (session.store.preferences.get userId),session)
  | .upsertPreference preference =>
    .ok ((),{ session with preferences := session.preferences.upsert preference })
  | .withSignals limit => .ok (withSignals (session.store.preferences.update session.preferences) limit,session)
  | .recordOwnership userId gameId counted =>
    .ok ((),{ session with ownerships := session.ownerships ++ [(userId,gameId,counted)] })
  | .uncountedOwners gameId limit => .ok (uncountedOwners session gameId limit,session)
  | .markCounted gameId userIds =>
    .ok ((),{ session with ownerships := session.ownerships ++ userIds.map fun userId => (userId,gameId,true) })
  | .coPurchases userId owned limit => .ok (coPurchases environment session.store userId owned limit,session)
  | .replaceFor userId recommendations =>
    .ok ((),{ session with recommendations := session.recommendations.set userId recommendations })
  | .forUser userId limit => .ok (forUser session userId limit,session)
  | .enqueue event =>
    .ok ((),{ session with events := session.events ++ [outboxRecord environment event] })
  | .seen eventId =>
    .ok (decide (eventId ∈ session.store.processedEvents ∨ eventId ∈ session.processed),session)
  | .mark eventId => .ok ((),{ session with processed := insert eventId session.processed })
  | .commit => .ok ((),{ session with store := applied session, committed := true })
  | .logSeen eventId => .ok (decide (eventId ∈ session.store.processedEvents),session)
  | .logMark eventId =>
    .ok ((),{ session with
      store := { session.store with processedEvents := insert eventId session.store.processedEvents } })
  | .now => .ok (environment.clock session.readings,{ session with readings := session.readings + 1 })
  | .newUuid => .ok (environment.ids session.issued,{ session with issued := session.issued + 1 })
  | .explain request => .ok (environment.explain request,session)

theorem handle_total (environment : Environment) (op : Op R) (session : Session R) :
    ∃ answered, handle environment op session = .ok answered := by
  cases op <;> exact ⟨_,rfl⟩

/-- One unit of work from entry to exit. Leaving without a commit discards the staged writes. -/
def execute {A : Type} (environment : Environment) (useCase : UseCase R A) (store : MemoryStore R) :
    Except Fault A × MemoryStore R :=
  let (result,session) := useCase.run (handle environment) { store }
  (result,session.store)

def answer (environment : Environment) (store : MemoryStore R) (op : Op R) : Except Fault (Answer op) :=
  (handle environment op { store }).map Prod.fst

def Plain : Op R → Prop
  | .mark _ | .commit | .logMark _ => False
  | _ => True

theorem handle_plain (environment : Environment) (op : Op R) (session after : Session R) (answer : Answer op)
    (plain : Plain op) (answered : handle environment op session = .ok (answer,after)) :
    after.store = session.store ∧ after.committed = session.committed ∧ after.processed = session.processed := by
  cases op <;> first | exact plain.elim | (cases answered; exact ⟨rfl,rfl,rfl⟩)

theorem execute_raised_plain {A : Type} (environment : Environment) (useCase : UseCase R A) (last : A → UseCase R A)
    (plain : useCase.Only Plain) (sealed : ∀ value session, ∃ done, (last value).run (handle environment) session =
      (.ok value,done)) (before after : MemoryStore R) (fault : Fault)
    (ran : execute environment (useCase.bind last) before = (.error fault,after)) : after = before := by
  have kept : (useCase.run (handle environment) { store := before }).2.store = before := by
    apply Program.run_only (handle environment) Plain (fun session => session.store = before) _ useCase plain _ rfl
    intro op session later answer allowed same answered
    exact (handle_plain environment op session later answer allowed answered).1.trans same
  simp only [execute,Program.run_bind] at ran
  split at ran
  · rename_i value session first
    obtain ⟨done,finished⟩ := sealed value session
    rw [finished] at ran
    cases ran
  · rename_i other session first
    rw [first] at kept
    cases ran
    exact kept

end Memory
end ArcadiaRecommendation
