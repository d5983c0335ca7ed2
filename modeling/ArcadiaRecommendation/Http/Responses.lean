import ArcadiaRecommendation.Application.Serve
import ArcadiaRecommendation.Application.SimilarGames
import ArcadiaRecommendation.Messaging.Serialization

/-! What the read routes put into the cache and take out of it: a response as JSON values, as the
document `json.dumps` writes, and as the model that is validated from what `json.loads` reads. -/
namespace ArcadiaRecommendation
variable {R : Type}

namespace Value
variable (str : Value R → String)

mutual

/-- `json.dumps(value, default=str)` -/
def dumpsDefault : Value R → Json R
  | .none => .null
  | .bool value => .bool value
  | .int value => .int value
  | .float value => .float value
  | .str value => .str value
  | .enum text => .str text
  | .tuple items => .list (dumpsDefaultItems items)
  | .list items => .list (dumpsDefaultItems items)
  | .dict entries => .dict (dumpsDefaultEntries entries)
  | .uuid value => .str (str (.uuid value))
  | .datetime value => .str (str (.datetime value))
  | .identity value => .str (str (.identity value))

def dumpsDefaultItems : List (Value R) → List (Json R)
  | [] => []
  | item :: rest => dumpsDefault item :: dumpsDefaultItems rest

def dumpsDefaultEntries : List (String × Value R) → List (String × Json R)
  | [] => []
  | entry :: rest => (entry.1,dumpsDefault entry.2) :: dumpsDefaultEntries rest

end

theorem loads_dumpsDefault (value : Value R) (json : IsJson value) : loads (dumpsDefault str value) = value := by
  induction json with
  | none => rfl
  | bool value => rfl
  | int value => rfl
  | float value => rfl
  | str value => rfl
  | list items all ih =>
    have each : loadsItems (dumpsDefaultItems str items) = items := by
      clear all
      induction items with
      | nil => rfl
      | cons item rest later =>
        rw [dumpsDefaultItems,loadsItems,ih item List.mem_cons_self,
          later fun item member => ih item (List.mem_cons_of_mem _ member)]
    rw [dumpsDefault,loads,each]
  | dict entries distinct all ih =>
    have each : loadsEntries (dumpsDefaultEntries str entries) = entries := by
      clear all distinct
      induction entries with
      | nil => rfl
      | cons entry rest later =>
        rw [dumpsDefaultEntries,loadsEntries,ih entry List.mem_cons_self,
          later fun entry member => ih entry (List.mem_cons_of_mem _ member)]
    rw [dumpsDefault,loads,each,Dict.entries_ofList entries distinct]

def texts (items : List String) : Value R := .list (items.map .str)

theorem texts_isJson (items : List String) : IsJson (texts items : Value R) := by
  refine .list _ fun item member => ?_
  obtain ⟨text,_,rfl⟩ := List.mem_map.mp member
  exact .str text

def field (key : String) (entries : List (String × Value R)) : Option (Value R) :=
  (entries.find? fun entry => entry.1 = key).map Prod.snd

def asText : Value R → Option String
  | .str text => some text
  | _ => Option.none

def asInt : Value R → Option Int
  | .int value => some value
  | _ => Option.none

def asFloat [Scalar R] : Value R → Option R
  | .float value => some value
  | .int value => some (Scalar.literal value)
  | _ => Option.none

def asList {A : Type} (read : Value R → Option A) : Value R → Option (List A)
  | .list items => items.mapM read
  | _ => Option.none

theorem asList_written {A : Type} (write : A → Value R) (read : Value R → Option A)
    (back : ∀ item, read (write item) = some item) (items : List A) :
    asList read (.list (items.map write)) = some items := by
  unfold asList
  dsimp only
  rw [List.mapM_map]
  induction items with
  | nil => rfl
  | cons item rest ih =>
    rw [List.mapM_cons,Function.comp_apply,back,ih]
    rfl

theorem asTexts_texts (items : List String) : asList asText (texts items : Value R) = some items :=
  asList_written .str asText (fun _ => rfl) items

end Value

/-- How an instant is written in a response, and read back by the model of the response. -/
structure IsoFormat where
  text : DateTime → String
  parse : String → Option DateTime
  back : ∀ at_, parse (text at_) = some at_

variable [Scalar R]

namespace RecommendationItem

/-- `jsonable_encoder` -/
def encoded (item : RecommendationItem R) : Value R :=
  .dict [("game_id",.str item.gameId),("title",.str item.title),("genres",.texts item.genres),("score",.float item.score),
    ("source",.str item.source.str),("rank",.int item.rank),("reasons",.texts item.reasons)]

/-- `model_validate` of what is read from a document. A list that is absent is empty. -/
def validated : Value R → Option (RecommendationItem R)
  | .dict entries => do
    let gameId ← (Value.field "game_id" entries).bind Value.asText
    let title ← (Value.field "title" entries).bind Value.asText
    let genres ← (Value.field "genres" entries).elim (some []) (Value.asList Value.asText)
    let score ← (Value.field "score" entries).bind Value.asFloat
    let source ← ((Value.field "source" entries).bind Value.asText).bind RecommendationSource.ofText
    let rank ← (Value.field "rank" entries).bind Value.asInt
    let reasons ← (Value.field "reasons" entries).elim (some []) (Value.asList Value.asText)
    return { gameId, title, genres, score, source, rank := rank.toNat, reasons }
  | _ => none

omit [Scalar R] in
theorem encoded_isJson (item : RecommendationItem R) : item.encoded.IsJson := by
  refine .dict _ (by simp) fun entry member => ?_
  simp only [List.mem_cons,List.not_mem_nil,or_false] at member
  rcases member with rfl | rfl | rfl | rfl | rfl | rfl | rfl
  · exact .str _
  · exact .str _
  · exact Value.texts_isJson _
  · exact .float _
  · exact .str _
  · exact .int _
  · exact Value.texts_isJson _

theorem validated_encoded (item : RecommendationItem R) : validated item.encoded = some item := by
  have source : RecommendationSource.ofText item.source.str = some item.source := by cases item.source <;> rfl
  unfold encoded validated
  simp [Value.field,Value.asText,Value.asTexts_texts,Value.asFloat,Value.asInt,source]

end RecommendationItem

namespace RecommendationsResponse

def encoded (format : IsoFormat) (response : RecommendationsResponse R) : Value R :=
  .dict [("user_id",.str response.userId),("source",.str response.source.str),
    ("generated_at",(response.generatedAt.map fun at_ => .str (format.text at_)).getD .none),
    ("items",.list (response.items.map RecommendationItem.encoded))]

def instant (format : IsoFormat) : Value R → Option (Option DateTime)
  | .none => some none
  | .str text => (format.parse text).map some
  | _ => none

def validated (format : IsoFormat) : Value R → Option (RecommendationsResponse R)
  | .dict entries => do
    let userId ← (Value.field "user_id" entries).bind Value.asText
    let source ← ((Value.field "source" entries).bind Value.asText).bind RecommendationSource.ofText
    let generatedAt ← (Value.field "generated_at" entries).elim (some none) (instant format)
    let items ← (Value.field "items" entries).elim (some []) (Value.asList RecommendationItem.validated)
    return { userId, source, generatedAt, items }
  | _ => none

omit [Scalar R] in
theorem encoded_isJson (format : IsoFormat) (response : RecommendationsResponse R) : (response.encoded format).IsJson := by
  refine .dict _ (by simp) fun entry member => ?_
  simp only [List.mem_cons,List.not_mem_nil,or_false] at member
  rcases member with rfl | rfl | rfl | rfl
  · exact .str _
  · exact .str _
  · cases response.generatedAt with
    | none => exact .none
    | some at_ => exact .str _
  · refine .list _ fun item member => ?_
    obtain ⟨shown,_,rfl⟩ := List.mem_map.mp member
    exact shown.encoded_isJson

theorem validated_encoded (format : IsoFormat) (response : RecommendationsResponse R) :
    validated format (response.encoded format) = some response := by
  have source : RecommendationSource.ofText response.source.str = some response.source := by
    cases response.source <;> rfl
  have items := Value.asList_written RecommendationItem.encoded RecommendationItem.validated
    RecommendationItem.validated_encoded response.items
  have generated : instant format (((response.generatedAt.map fun at_ => .str (format.text at_)).getD .none : Value R)) =
      some response.generatedAt := by
    cases response.generatedAt with
    | none => rfl
    | some at_ => exact congrArg (Option.map some) (format.back at_)
  unfold encoded validated
  simp [Value.field,Value.asText,source,generated,items]

end RecommendationsResponse

namespace SimilarGame

def encoded (game : SimilarGame R) : Value R :=
  .dict [("game_id",.str game.gameId),("title",.str game.title),("genres",.texts game.genres),
    ("similarity",.float game.similarity),("shared_features",.texts game.sharedFeatures)]

def validated : Value R → Option (SimilarGame R)
  | .dict entries => do
    let gameId ← (Value.field "game_id" entries).bind Value.asText
    let title ← (Value.field "title" entries).bind Value.asText
    let genres ← (Value.field "genres" entries).elim (some []) (Value.asList Value.asText)
    let similarity ← (Value.field "similarity" entries).bind Value.asFloat
    let sharedFeatures ← (Value.field "shared_features" entries).elim (some []) (Value.asList Value.asText)
    return { gameId, title, genres, similarity, sharedFeatures }
  | _ => none

omit [Scalar R] in
theorem encoded_isJson (game : SimilarGame R) : game.encoded.IsJson := by
  refine .dict _ (by simp) fun entry member => ?_
  simp only [List.mem_cons,List.not_mem_nil,or_false] at member
  rcases member with rfl | rfl | rfl | rfl | rfl
  · exact .str _
  · exact .str _
  · exact Value.texts_isJson _
  · exact .float _
  · exact Value.texts_isJson _

theorem validated_encoded (game : SimilarGame R) : validated game.encoded = some game := by
  unfold encoded validated
  simp [Value.field,Value.asText,Value.asTexts_texts,Value.asFloat]

end SimilarGame

namespace SimilarGamesResponse

def encoded (response : SimilarGamesResponse R) : Value R :=
  .dict [("game_id",.str response.gameId),("items",.list (response.items.map SimilarGame.encoded))]

def validated : Value R → Option (SimilarGamesResponse R)
  | .dict entries => do
    let gameId ← (Value.field "game_id" entries).bind Value.asText
    let items ← (Value.field "items" entries).elim (some []) (Value.asList SimilarGame.validated)
    return { gameId, items }
  | _ => none

omit [Scalar R] in
theorem encoded_isJson (response : SimilarGamesResponse R) : response.encoded.IsJson := by
  refine .dict _ (by simp) fun entry member => ?_
  simp only [List.mem_cons,List.not_mem_nil,or_false] at member
  rcases member with rfl | rfl
  · exact .str _
  · refine .list _ fun item member => ?_
    obtain ⟨shown,_,rfl⟩ := List.mem_map.mp member
    exact shown.encoded_isJson

theorem validated_encoded (response : SimilarGamesResponse R) : validated response.encoded = some response := by
  have items := Value.asList_written SimilarGame.encoded SimilarGame.validated SimilarGame.validated_encoded response.items
  unfold encoded validated
  simp [Value.field,Value.asText,items]

end SimilarGamesResponse

end ArcadiaRecommendation
