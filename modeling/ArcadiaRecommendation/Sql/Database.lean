import ArcadiaRecommendation.Domain.Preference
import ArcadiaRecommendation.Foundation.IdentityMap
import ArcadiaRecommendation.Messaging.Record

/-! The tables of the relational backend, what a statement changes in them, and what
the bounded reads select. A vector column has a fixed width. Apart from that a column takes
every value and returns it as it was written: numbers are not rounded, texts not refused. -/
namespace ArcadiaRecommendation

/-- NULL, which stands for the empty vector, or a value of the width of the column. -/
def Sized {R : Type} (width : Nat) (dense : DenseEmbedding R) : Prop :=
  dense.isEmpty = true ∨ dense.values.length = width

instance {R : Type} (width : Nat) (dense : DenseEmbedding R) : Decidable (Sized width dense) :=
  inferInstanceAs (Decidable (_ ∨ _))

structure GameProfileRow (R : Type) [Scalar R] (width : Nat) extends GameFields R where
  sized : Sized width dense
  deriving DecidableEq

structure UserPreferenceRow (R : Type) [Scalar R] (width : Nat) extends UserPreference R where
  sized : Sized width tasteDense
  deriving DecidableEq

structure OwnershipRow where
  userId : UserId
  gameId : GameId
  acquiredAt : DateTime
  counted : Bool
  deriving DecidableEq

def OwnershipRow.key (row : OwnershipRow) : UserId × GameId := (row.userId,row.gameId)

abbrev OwnershipTable := Table (UserId × GameId) OwnershipRow OwnershipRow.key

structure Database (R : Type) [Scalar R] (width : Nat) where
  games : Table GameId (GameProfileRow R width) (·.gameId) := ∅
  preferences : Table UserId (UserPreferenceRow R width) (·.userId) := ∅
  ownerships : OwnershipTable := ∅
  recommendations : List (Recommendation R) := []
  outbox : List (OutboxRecord R) := []
  processedEvents : Finset UUID := ∅

namespace Sql

/-- What the driver says of a value that does not fit a vector column. -/
def widthFault (width : Nat) (values : List α) : Fault :=
  .provider s!"expected {width} dimensions, not {values.length}"

section
variable {R : Type} [Scalar R] [DecidableEq R]

/-- A column that is as it was loaded is not written. -/
def column {A : Type} [DecidableEq A] (loaded current stored : A) : A := if current = loaded then stored else current

theorem column_loaded {A : Type} [DecidableEq A] (loaded stored : A) : column loaded loaded stored = stored := if_pos rfl

theorem column_current {A : Type} [DecidableEq A] (loaded current : A) : column loaded current current = current := by
  unfold column
  split <;> rfl

theorem column_stored {A : Type} [DecidableEq A] (loaded current : A) : column loaded current loaded = current := by
  unfold column
  split
  · rename_i same
    exact same.symm
  · rfl

def mergedGame (loaded current stored : GameFields R) : GameFields R where
  gameId := stored.gameId
  developerId := column loaded.developerId current.developerId stored.developerId
  title := column loaded.title current.title stored.title
  genres := column loaded.genres current.genres stored.genres
  tags := column loaded.tags current.tags stored.tags
  description := column loaded.description current.description stored.description
  publishedAt := column loaded.publishedAt current.publishedAt stored.publishedAt
  isPublished := column loaded.isPublished current.isPublished stored.isPublished
  purchaseCount := column loaded.purchaseCount current.purchaseCount stored.purchaseCount
  embedding := column loaded.embedding current.embedding stored.embedding
  dense := column loaded.dense current.dense stored.dense

def mergedPreference (loaded current stored : UserPreference R) : UserPreference R where
  userId := stored.userId
  taste := column loaded.taste current.taste stored.taste
  tasteDense := column loaded.tasteDense current.tasteDense stored.tasteDense
  owned := column loaded.owned current.owned stored.owned
  history := column loaded.history current.history stored.history
  signalCount := column loaded.signalCount current.signalCount stored.signalCount
  updatedAt := column loaded.updatedAt current.updatedAt stored.updatedAt

def games (R : Type) [Scalar R] [DecidableEq R] (width : Nat) :
    Mapping GameId (GameProfileRow R width) (GameFields R) Fault where
  key := (·.gameId)
  columns := (·.toGameFields)
  keyOf := (·.gameId)
  merged := mergedGame
  accept fields := if sized : Sized width fields.dense then .ok ⟨fields,sized⟩
    else .error (widthFault width fields.dense.values)
  keyOf_columns _ := rfl
  keyOf_merged _ _ _ := rfl
  merged_loaded _ _ := by simp only [mergedGame,column_loaded]
  merged_current _ _ := by simp only [mergedGame,column_current]
  merged_stored _ _ same := by simp only [mergedGame,column_stored,← same]
  accept_columns row := dif_pos row.sized
  columns_accept fields row accepted := by
    split at accepted
    · cases Except.ok.inj accepted
      rfl
    · cases accepted

def preferences (R : Type) [Scalar R] [DecidableEq R] (width : Nat) :
    Mapping UserId (UserPreferenceRow R width) (UserPreference R) Fault where
  key := (·.userId)
  columns := (·.toUserPreference)
  keyOf := (·.userId)
  merged := mergedPreference
  accept fields := if sized : Sized width fields.tasteDense then .ok ⟨fields,sized⟩
    else .error (widthFault width fields.tasteDense.values)
  keyOf_columns _ := rfl
  keyOf_merged _ _ _ := rfl
  merged_loaded _ _ := by simp only [mergedPreference,column_loaded]
  merged_current _ _ := by simp only [mergedPreference,column_current]
  merged_stored _ _ same := by simp only [mergedPreference,column_stored,← same]
  accept_columns row := dif_pos row.sized
  columns_accept fields row accepted := by
    split at accepted
    · cases Except.ok.inj accepted
      rfl
    · cases accepted

end
end Sql

namespace OwnershipTable

/-- `ON CONFLICT DO UPDATE`: the flag of a row is raised, never lowered. -/
def record (ownerships : OwnershipTable) (row : OwnershipRow) : OwnershipTable :=
  match ownerships.get row.key with
  | none => ownerships.upsert row
  | some stored => ownerships.upsert { stored with counted := stored.counted || row.counted }

theorem get_record (table : OwnershipTable) (row : OwnershipRow) (key : UserId × GameId) :
    (table.record row).get key = if key = (row.userId,row.gameId)
      then some ((table.get key).elim row fun stored => { stored with counted := stored.counted || row.counted })
      else table.get key := by
  change _ = if key = row.key then _ else _
  unfold record
  cases known : table.get row.key with
  | none =>
    rw [Table.get_upsert]
    split
    · rename_i here
      rw [here,known]
      rfl
    · rfl
  | some stored =>
    have same : stored.key = row.key := table.keyed row.key stored known
    rw [Table.get_upsert]
    have moved : ({ stored with counted := stored.counted || row.counted } : OwnershipRow).key = row.key := same
    rw [moved]
    split
    · rename_i here
      rw [here,known]
      rfl
    · rfl

def markCounted (gameId : GameId) (userIds : List UserId) (ownerships : OwnershipTable) : OwnershipTable :=
  userIds.foldl (fun ownerships userId =>
    match ownerships.get (userId,gameId) with
    | none => ownerships
    | some stored => ownerships.upsert { stored with counted := true }) ownerships

def uncountedOwners (ownerships : OwnershipTable) (gameId : GameId) (limit : Nat) : List UserId :=
  ((sortedBy (fun first second => first.acquiredAt.micros ≤ second.acquiredAt.micros)
    (ownerships.values.filter fun row => row.gameId = gameId ∧ row.counted = false)).take limit).map (·.userId)

/-- The users other than the caller who own a game of the list, each once. -/
def neighbours (ownerships : OwnershipTable) (userId : UserId) (owned : Finset GameId) : List UserId :=
  ((ownerships.values.filter fun row => row.gameId ∈ owned ∧ row.userId ≠ userId).map (·.userId)).dedup

/-- The self-join: each other game of a neighbour, with the number of neighbours who own it. -/
def coPurchases (ownerships : OwnershipTable) (userId : UserId) (owned : Finset GameId) (limit : Nat) :
    Dict GameId Int :=
  if owned = ∅ then ∅
  else
    let near := ownerships.neighbours userId owned
    let theirs := ((ownerships.values.filter fun row => row.userId ∈ near ∧ row.gameId ∉ owned).map (·.gameId)).dedup
    let counts := theirs.map fun gameId =>
      (gameId,((near.filter fun neighbour => ownerships.contains (neighbour,gameId)).length : Int))
    .ofList ((sortedBy (fun first second => second.2 < first.2 ∨ first.2 = second.2 ∧ first.1.str ≤ second.1.str)
      counts).take limit)

end OwnershipTable

/-- What a statement changes at once, for its own transaction, and for all on commit. -/
inductive Statement
  | recordOwnership (row : OwnershipRow)
  | markCounted (gameId : GameId) (userIds : List UserId)
  /-- The rows a DELETE found. -/
  | deleteRecommendations (ids : List RecommendationId)
  | markProcessed (eventId : UUID)

namespace Database
variable {R : Type} [Scalar R] {width : Nat}

def apply (database : Database R width) : Statement → Database R width
  | .recordOwnership row => { database with ownerships := database.ownerships.record row }
  | .markCounted gameId userIds => { database with ownerships := database.ownerships.markCounted gameId userIds }
  | .deleteRecommendations ids =>
    { database with recommendations := database.recommendations.filter fun row => row.id ∉ ids }
  | .markProcessed eventId => { database with processedEvents := insert eventId database.processedEvents }

def applyAll (database : Database R width) (statements : List Statement) : Database R width :=
  statements.foldl apply database

/-- The primary key and the `(user_id, game_id)` constraint of a new recommendation. -/
def insertRecommendations (stored : List (Recommendation R)) :
    List (Recommendation R) → Except Fault (List (Recommendation R))
  | [] => .ok stored
  | row :: rest =>
    if stored.any fun other => other.id = row.id ∨ other.userId = row.userId ∧ other.gameId = row.gameId then
      .error .integrityError
    else insertRecommendations (stored ++ [row]) rest

def insertOutbox (stored : List (OutboxRecord R)) : List (OutboxRecord R) → Except Fault (List (OutboxRecord R))
  | [] => .ok stored
  | row :: rest => if stored.any (·.id = row.id) then .error .integrityError else insertOutbox (stored ++ [row]) rest

/-- `ORDER BY purchase_count DESC, game_id` -/
def popular (first second : GameFields R) : Prop :=
  second.purchaseCount < first.purchaseCount ∨
    first.purchaseCount = second.purchaseCount ∧ first.gameId.str ≤ second.gameId.str

instance : DecidableRel (popular (R := R)) := fun _ _ => inferInstanceAs (Decidable (_ ∨ _))

def gameRows (database : Database R width) : List (GameFields R) := database.games.values.map (·.toGameFields)

def recommendable (database : Database R width) (limit : Nat) : List (GameFields R) :=
  (sortedBy popular (database.gameRows.filter (·.isPublished))).take limit

def needingEmbedding (database : Database R width) (limit : Nat) : List (GameFields R) :=
  (sortedBy popular (database.gameRows.filter fun row => row.isPublished && row.dense.isEmpty)).take limit

/-- The rows in no particular order. -/
def byIds (database : Database R width) (gameIds : List GameId) : List (GameFields R) :=
  database.gameRows.filter (·.gameId ∈ gameIds)

/-- `ORDER BY updated_at DESC NULLS LAST, user_id` -/
def moreActive (first second : UserPreference R) : Prop :=
  match first.updatedAt,second.updatedAt with
  | some left,some right => right.micros < left.micros ∨ left = right ∧ first.userId.str ≤ second.userId.str
  | some _,none => True
  | none,some _ => False
  | none,none => first.userId.str ≤ second.userId.str

instance : DecidableRel (moreActive (R := R)) := fun first second => by
  unfold moreActive
  split <;> infer_instance

def withSignals (database : Database R width) (limit : Nat) : List UserId :=
  ((sortedBy moreActive ((database.preferences.values.map (·.toUserPreference)).filter fun row =>
    0 < row.signalCount)).take limit).map (·.userId)

def forUser (database : Database R width) (userId : UserId) (limit : Nat) : List (Recommendation R) :=
  (sortedBy (fun first second => first.rank ≤ second.rank)
    (database.recommendations.filter (·.userId = userId))).take limit

end Database
end ArcadiaRecommendation
