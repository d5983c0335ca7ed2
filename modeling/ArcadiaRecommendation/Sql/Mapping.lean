import ArcadiaRecommendation.Adapters.Embedding
import ArcadiaRecommendation.Foundation.Selection
import ArcadiaRecommendation.Messaging.Subscriber
import ArcadiaRecommendation.Sql.Session

/-! The columns of a row as the driver holds them, and the mapping between rows and aggregates.
The tables of the sessions hold a game as `gameFields` reads it from such a row. -/
namespace ArcadiaRecommendation
namespace Columns

/-- A datetime as the driver hands it over. A naive one has lost its offset. -/
inductive Moment
  | naive (micros : Int)
  | aware (moment : DateTime)
  deriving DecidableEq

def aware : Moment → DateTime
  | .naive micros => ⟨micros⟩
  | .aware moment => moment

structure GameProfileRow (R : Type) where
  gameId : UUID
  developerId : UUID
  title : String
  genres : List String
  tags : List String
  description : String
  embedding : Dict String (Json R)
  dense : Option (List R)
  isPublished : Bool
  purchaseCount : Int
  publishedAt : Option Moment

structure UserPreferenceRow (R : Type) where
  userId : UUID
  taste : Dict String (Json R)
  tasteDense : Option (List R)
  owned : List String
  history : List (Json R)
  signalCount : Int
  updatedAt : Option Moment

structure RecommendationRow (R : Type) where
  id : UUID
  userId : UUID
  gameId : UUID
  score : R
  source : String
  rank : Int
  reasons : List String
  generatedAt : Moment

inductive LoadFault
  | violation (rule : InvariantViolation)
  | builtin (fault : EmbedFault)

section
variable {R : Type}

def denseToDomain (values : Option (List R)) : DenseEmbedding R := values.elim .empty DenseEmbedding.mk

def denseToColumn (dense : DenseEmbedding R) : Option (List R) := if dense.isEmpty then none else some dense.values

theorem denseToDomain_column (dense : DenseEmbedding R) : denseToDomain (denseToColumn dense) = dense := by
  unfold denseToColumn
  split
  · rename_i empty
    exact ((DenseEmbedding.isEmpty_iff dense).mp empty).symm
  · rfl

theorem aware_written (moment : Option DateTime) : (moment.map Moment.aware).map aware = moment := by
  cases moment <;> rfl

end

variable {R : Type} [Scalar R]

def writeGame [Casing] (row : GameProfileRow R) (game : GameProfile R) : GameProfileRow R :=
  { row with
    gameId := game.gameId.value
    developerId := game.developerId.value
    title := game.title
    genres := game.genres
    tags := game.tags
    description := game.description
    embedding := game.embedding.weights.mapValues .float
    dense := denseToColumn game.dense
    isPublished := game.isPublished
    purchaseCount := game.purchaseCount
    publishedAt := game.publishedAt.map .aware }

/-- The owned set is iterated in some order, and sorted. -/
def writePreference (order : SetOrder GameId) (row : UserPreferenceRow R) (preference : UserPreference R) :
    UserPreferenceRow R :=
  { row with
    userId := preference.userId.value
    taste := preference.taste.weights.mapValues .float
    tasteDense := denseToColumn preference.tasteDense
    owned := sortedBy (· ≤ ·) ((order.list preference.owned).map GameId.str)
    history := preference.history.map fun record =>
      .dict [("game_id",.str record.gameId.str),("weight",.float record.weight)]
    signalCount := preference.signalCount
    updatedAt := preference.updatedAt.map .aware }

def recommendationRow (recommendation : Recommendation R) : RecommendationRow R where
  id := recommendation.id.value
  userId := recommendation.userId.value
  gameId := recommendation.gameId.value
  score := recommendation.score
  source := recommendation.source.str
  rank := recommendation.rank
  reasons := recommendation.reasons
  generatedAt := .aware recommendation.generatedAt

/-- A rank below zero is refused as zero is. -/
def recommendationToDomain (row : RecommendationRow R) : Except LoadFault (Recommendation R) :=
  match RecommendationSource.ofText row.source with
  | none => .error (.builtin .valueError)
  | some source =>
    (Recommendation.construct
      { id := ⟨row.id⟩, userId := ⟨row.userId⟩, gameId := ⟨row.gameId⟩, score := row.score, source, rank := row.rank.toNat,
        generatedAt := aware row.generatedAt, reasons := row.reasons }).mapError .violation

section
variable [Floats R]

/-- `Embedding({name: float(value) for name, value in column.items()})` -/
def weightsToDomain (column : Dict String (Json R)) : Except LoadFault (Embedding R) := do
  let entries ← column.entries.mapM fun entry =>
    ((HuggingFaceEmbedder.toFloat entry.2).map fun value => (entry.1,value)).mapError .builtin
  return .ofWeights (.ofList entries)

/-- The columns of a game, before the constructor looks at them. -/
def gameFields (row : GameProfileRow R) : Except LoadFault (GameFields R) := do
  let embedding ← weightsToDomain row.embedding
  return { gameId := ⟨row.gameId⟩, developerId := ⟨row.developerId⟩, title := row.title, genres := row.genres,
           tags := row.tags, description := row.description, publishedAt := row.publishedAt.map aware,
           isPublished := row.isPublished, purchaseCount := row.purchaseCount, embedding, dense := denseToDomain row.dense }

def gameToDomain [Casing] (row : GameProfileRow R) : Except LoadFault (GameProfile R) := do
  let fields ← gameFields row
  (GameProfile.construct fields).mapError .violation

variable [Formats R]

/-- `GameId(UUID(raw))` -/
def gameIdOf (raw : String) : Except LoadFault GameId :=
  match Formats.parseUuid R raw with
  | none => .error (.builtin .valueError)
  | some id => .ok ⟨id⟩

/-- The two fields of a history entry, none where `_is_record` fails. -/
def isRecord : Json R → Option (Json R × Json R)
  | .dict entries => do
    let gameId ← Json.lookup "game_id" entries
    let weight ← Json.lookup "weight" entries
    return (gameId,weight)
  | _ => none

/-- `_record` -/
def record (fields : Json R × Json R) : Except LoadFault (SignalRecord R) := do
  let gameId ← gameIdOf (R := R) fields.1.text
  let weight ← (HuggingFaceEmbedder.toFloat fields.2).mapError .builtin
  return { gameId, weight }

def preferenceToDomain (row : UserPreferenceRow R) : Except LoadFault (UserPreference R) := do
  let taste ← weightsToDomain row.taste
  let owned ← row.owned.mapM (gameIdOf (R := R))
  let history ← (row.history.filterMap isRecord).mapM record
  return { userId := ⟨row.userId⟩, taste, tasteDense := denseToDomain row.tasteDense, owned := owned.toFinset, history,
           signalCount := row.signalCount, updatedAt := row.updatedAt.map aware }

end

/-- A column of weights gives back the vector it was written from: nothing in it is zero. -/
theorem weights_written [Floats R] (vector : Embedding R) :
    weightsToDomain (vector.weights.mapValues Json.float) = .ok vector := by
  have read := mapM_written (fun entry : String × R => (entry.1,Json.float entry.2)) (fun entry =>
    ((HuggingFaceEmbedder.toFloat entry.2).map fun value => (entry.1,value)).mapError LoadFault.builtin) (fun _ => rfl)
    vector.weights.entries
  have kept : Embedding.ofWeights vector.weights = vector := by
    obtain ⟨⟨entries,distinct⟩,nonzero⟩ := vector
    have all : entries.filter (fun entry => !Scalar.isZero entry.2) = entries :=
      List.filter_eq_self.mpr fun entry member => by rw [nonzero entry member]; rfl
    simp only [Embedding.ofWeights,Dict.filter,all]
  unfold weightsToDomain
  simp only [Dict.mapValues,read,bind,Except.bind,pure,Except.pure,Dict.ofList_entries,kept]

/-- A session decodes what `gameFields` reads as the row itself is decoded. -/
theorem gameToDomain_ok_iff [Casing] [Floats R] (row : GameProfileRow R) (game : GameProfile R) :
    gameToDomain row = .ok game ↔ ∃ fields, gameFields row = .ok fields ∧ Sql.gameToDomain fields = .ok game := by
  unfold gameToDomain Sql.gameToDomain
  cases gameFields row with
  | error fault =>
    constructor
    · intro failed
      cases failed
    · rintro ⟨fields,failed,_⟩
      cases failed
  | ok fields =>
    simp only [bind,Except.bind,Except.ok.injEq,exists_eq_left']
    cases GameProfile.construct fields with
    | error rule => exact iff_of_false (fun failed => by cases failed) fun failed => by cases failed
    | ok made => exact ⟨fun same => by cases same; rfl,fun same => by cases same; rfl⟩

private theorem gameFields_written [Casing] [Floats R] (row : GameProfileRow R) (game : GameProfile R) :
    gameFields (writeGame row game) = .ok game.toGameFields := by
  unfold gameFields writeGame
  simp only [weights_written,denseToDomain_column,aware_written,bind,Except.bind,pure,Except.pure]

private theorem game_written [Casing] [Floats R] (row : GameProfileRow R) (game : GameProfile R) :
    gameToDomain (writeGame row game) = .ok game :=
  (gameToDomain_ok_iff (writeGame row game) game).mpr ⟨game.toGameFields,gameFields_written row game,Sql.gameToDomain_fields game⟩

private theorem recommendation_written (recommendation : Recommendation R) :
    recommendationToDomain (recommendationRow recommendation) = .ok recommendation := by
  have low : ¬recommendation.rank < 1 := Nat.not_lt.mpr recommendation.rankOneBased
  have sign : ¬Scalar.less recommendation.score 0 = true := by simp [recommendation.scoreNonnegative]
  unfold recommendationToDomain recommendationRow Recommendation.construct
  simp only [RecommendationSource.ofText_str,aware,Int.toNat_natCast]
  rw [dif_neg low,dif_neg sign]
  rfl

section
variable [Floats R] [Formats R] (parses : ∀ id : UUID, Formats.parseUuid R id.str = some id)
include parses

omit [Scalar R] [Floats R] in
theorem gameIdOf_str (gameId : GameId) : gameIdOf (R := R) gameId.str = .ok gameId := by
  unfold gameIdOf GameId.str
  rw [parses]

private theorem history_written (history : List (SignalRecord R)) :
    ((history.map fun action =>
      (Json.dict [("game_id",.str action.gameId.str),("weight",.float action.weight)] : Json R)).filterMap isRecord).mapM
        record = .ok history := by
  have entry (action : SignalRecord R) : isRecord
      (Json.dict [("game_id",.str action.gameId.str),("weight",.float action.weight)] : Json R) =
        some (.str action.gameId.str,.float action.weight) := by
    simp [isRecord,Json.lookup]
  have read (action : SignalRecord R) :
      record ((.str action.gameId.str,.float action.weight) : Json R × Json R) = .ok action := by
    simp only [record,Json.text,gameIdOf_str parses,bind,Except.bind]
    rfl
  have fields : ((history.map fun action =>
      (Json.dict [("game_id",.str action.gameId.str),("weight",.float action.weight)] : Json R)).filterMap isRecord) =
        history.map fun action => ((.str action.gameId.str,.float action.weight) : Json R × Json R) := by
    rw [List.filterMap_map,← List.filterMap_eq_map]
    exact List.filterMap_congr fun action _ => entry action
  rw [fields]
  exact mapM_written _ record read history

omit [Floats R] [Formats R] parses in
private theorem owned_sorted (gameIds : List GameId) : sortedBy (· ≤ ·) (gameIds.map GameId.str) =
    (sortedBy (fun first second => first.str ≤ second.str) gameIds).map GameId.str :=
  (List.map_insertionSort _ _ GameId.str gameIds fun _ _ _ _ => Iff.rfl).symm

private theorem preference_written (order : SetOrder GameId) (row : UserPreferenceRow R)
    (preference : UserPreference R) : preferenceToDomain (writePreference order row preference) = .ok preference := by
  have owned := mapM_written GameId.str (gameIdOf (R := R)) (gameIdOf_str parses)
    (sortedBy (fun first second => first.str ≤ second.str) (order.list preference.owned))
  have same : (sortedBy (fun first second => first.str ≤ second.str) (order.list preference.owned)).toFinset =
      preference.owned :=
    (List.toFinset_eq_of_perm _ _ (List.perm_insertionSort _ _)).trans (order.members preference.owned)
  unfold preferenceToDomain writePreference
  simp only [weights_written,owned_sorted,owned,history_written parses,denseToDomain_column,aware_written,same,bind,
    Except.bind,pure,Except.pure]

end

/-- `==` on preferences: the order in which a vector holds its features does not count. -/
def Equal (first second : UserPreference R) : Prop :=
  (∀ name, first.taste.weights.get name = second.taste.weights.get name) ∧ { first with taste := second.taste } = second

/-- Rows of one content: an object of JSON has no order of its keys. -/
def Identical (first second : UserPreferenceRow R) : Prop :=
  (∀ name, first.taste.get name = second.taste.get name) ∧ { first with taste := second.taste } = second

theorem owned_identical (first second : SetOrder GameId) (gameIds : Finset GameId) :
    sortedBy (· ≤ ·) ((first.list gameIds).map GameId.str) = sortedBy (· ≤ ·) ((second.list gameIds).map GameId.str) := by
  have permuted : (first.list gameIds).Perm (second.list gameIds) :=
    List.perm_of_nodup_nodup_toFinset_eq (first.nodup gameIds) (second.nodup gameIds)
      ((first.members gameIds).trans (second.members gameIds).symm)
  exact (Preorders.of_text id).sorted_perm _ _ (permuted.map _) fun _ _ _ _ => String.le_antisymm

private theorem written_identical (left right : SetOrder GameId) (before other : UserPreferenceRow R)
    (first second : UserPreference R) (equal : Equal first second) :
    Identical (writePreference left before first) (writePreference right other second) := by
  obtain ⟨taste,rest⟩ := equal
  constructor
  · intro name
    simp only [writePreference,Dict.get_mapValues,taste]
  · rw [← rest]
    simp only [writePreference,owned_identical left right]

private theorem written_alike (left right : SetOrder GameId) (before other : UserPreferenceRow R)
    (preference : UserPreference R) :
    writePreference left before preference = writePreference right other preference := by
  simp only [writePreference,owned_identical left right]

/-- Reading back what was written gives an equal aggregate, and equal preferences are written as
identical rows in whatever order their owned sets are iterated. -/
theorem rows_round_trip [Casing] [Floats R] [Formats R] (parses : ∀ id : UUID, Formats.parseUuid R id.str = some id) :
    (∀ (row : GameProfileRow R) (game : GameProfile R), gameToDomain (writeGame row game) = .ok game) ∧
    (∀ (order : SetOrder GameId) (row : UserPreferenceRow R) (preference : UserPreference R),
      preferenceToDomain (writePreference order row preference) = .ok preference) ∧
    (∀ recommendation : Recommendation R, recommendationToDomain (recommendationRow recommendation) = .ok recommendation) ∧
    (∀ (left right : SetOrder GameId) (before other : UserPreferenceRow R) (first second : UserPreference R),
      Equal first second → Identical (writePreference left before first) (writePreference right other second)) ∧
    ∀ (left right : SetOrder GameId) (before other : UserPreferenceRow R) (preference : UserPreference R),
      writePreference left before preference = writePreference right other preference :=
  ⟨game_written,preference_written parses,recommendation_written,written_identical,written_alike⟩

section

@[reducible] def canonicalFormats : Formats ℚ := { Formats.unread with parseUuid := UUID.ofText }

@[reducible] def canonicalFloats : Floats ℚ where
  ofInt value := some value
  ofText _ := none

attribute [local instance] Casing.unchanged canonicalFormats canonicalFloats

def rememberedPreference : UserPreference ℚ where
  userId := ⟨⟨1⟩⟩
  taste := .of ["genre:racing"]
  owned := {⟨⟨3⟩⟩,⟨⟨2⟩⟩}
  history := [⟨⟨⟨3⟩⟩,1⟩,⟨⟨⟨2⟩⟩,1⟩,⟨⟨⟨3⟩⟩,-3/10⟩]
  signalCount := 3
  updatedAt := some ⟨5⟩

def rememberedRow : UserPreferenceRow ℚ := ⟨⟨0⟩,∅,none,[],[],0,none⟩

theorem rows_round_trip_remembered :
    preferenceToDomain (writePreference Environment.fixed.games rememberedRow rememberedPreference) =
      .ok rememberedPreference :=
  (rows_round_trip (R := ℚ) UUID.ofText_str).2.1 Environment.fixed.games rememberedRow rememberedPreference

end

end Columns
end ArcadiaRecommendation
