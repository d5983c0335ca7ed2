import ArcadiaRecommendation.Application.Ports
import ArcadiaRecommendation.Messaging.Consumers

/-! The explanation provider behind a chat-completions endpoint: what is posted, the path into
the body that comes back, and the reading of the model's own answer inside it. -/
namespace ArcadiaRecommendation

inductive ExplainFault
  /-- `httpx.HTTPError` -/
  | httpError
  | lookupError
  | typeError
  | valueError
  /-- An exception that no filter of the adapter names. -/
  | other
  deriving DecidableEq

variable {R : Type}

/-- `value[key]` -/
def Json.item (key : String) : Json R → Except ExplainFault (Json R)
  | .dict entries => (Json.lookup key entries).elim (.error .lookupError) .ok
  | .null | .bool _ | .int _ | .float _ | .str _ | .list _ => .error .typeError

/-- `value[0]`. A text is indexed like a list, and no key of an object is a number. -/
def Json.first : Json R → Except ExplainFault (Json R)
  | .list (item :: _) => .ok item
  | .list [] => .error .lookupError
  | .str text => text.toList.head?.elim (.error .lookupError) fun char => .ok (.str (String.singleton char))
  | .dict _ => .error .lookupError
  | .null | .bool _ | .int _ | .float _ => .error .typeError

/-- `NoExplanations` -/
def NoExplanations.explain (_request : ExplanationRequest) : Dict GameId (List String) := ∅

structure OpenAiCompatibleExplainer (R : Type) where
  url : String
  apiKey : String
  model : String
  timeout : R
  maxTokens : Int

structure ChatRequest (R : Type) where
  url : String
  headers : List (String × String)
  timeout : R
  payload : Json R

namespace OpenAiCompatibleExplainer

def init (baseUrl apiKey model : String) (timeoutSeconds : R) (maxTokens : Int) : OpenAiCompatibleExplainer R where
  url := Text.rstripChars ['/'] baseUrl ++ "/chat/completions"
  apiKey := apiKey
  model := model
  timeout := timeoutSeconds
  maxTokens := maxTokens

def system : String :=
  "You explain game recommendations for a digital game store. " ++
  "For each candidate game, give one short reason it suits this player, based only on the games they " ++
  "already play and the candidate's own genres and tags. " ++
  "Write plainly, at most twelve words, no marketing language, no invented facts about the game. " ++
  "Answer with JSON only: \x7b\"reasons\": [\x7b\"id\": \"<game id>\", \"reason\": \"<text>\"\x7d]\x7d. " ++
  "Omit any game you cannot justify from what you were given."

def describe (game : ExplainedGame) : String :=
  let labels := String.intercalate ", " (game.genres ++ game.tags)
  if labels = "" then game.title else game.title ++ " (" ++ labels ++ ")"

def prompt (request : ExplanationRequest) : String :=
  let played := String.intercalate ", " (request.liked.map describe)
  let candidates := String.intercalate "\n" (request.candidates.map fun game =>
    "- id=" ++ game.gameId.str ++ " " ++ describe game)
  "The player already plays: " ++ (if played = "" then "nothing yet" else played) ++ ".\n\nCandidates:\n" ++ candidates

def payload (explainer : OpenAiCompatibleExplainer R) (request : ExplanationRequest) : Json R :=
  .dict [("model",.str explainer.model),
    ("max_tokens",.int explainer.maxTokens),
    ("messages",.list [.dict [("role",.str "system"),("content",.str system)],
      .dict [("role",.str "user"),("content",.str (prompt request))]]),
    ("response_format",.dict [("type",.str "json_object")])]

def headers (explainer : OpenAiCompatibleExplainer R) : List (String × String) :=
  if explainer.apiKey = "" then [] else [("Authorization","Bearer " ++ explainer.apiKey)]

def chatRequest (explainer : OpenAiCompatibleExplainer R) (request : ExplanationRequest) : ChatRequest R where
  url := explainer.url
  headers := explainer.headers
  timeout := explainer.timeout
  payload := explainer.payload request

/-- `body["choices"][0]["message"]["content"]` -/
def content (body : Json R) : Except ExplainFault (Json R) := do
  let choices ← body.item "choices"
  let choice ← choices.first
  let message ← choice.item "message"
  message.item "content"

/-- `json.loads(value)`, which takes a text and nothing else. -/
def decoded (loads : String → Except ExplainFault (Json R)) : Json R → Except ExplainFault (Json R)
  | .str text => loads text
  | .null | .bool _ | .int _ | .float _ | .list _ | .dict _ => .error .typeError

def wanted (candidates : List ExplainedGame) : Dict String GameId :=
  .ofList (candidates.map fun game => (game.gameId.str,game.gameId))

/-- The entries of the answer, unless it is not an object with a list of them. -/
def entriesOf : Json R → Option (List (Json R))
  | .dict body =>
    match Json.lookup "reasons" body with
    | some (.list entries) => some entries
    | _ => none
  | .null | .bool _ | .int _ | .float _ | .str _ | .list _ => none

section Parsing
variable [Formats R]

/-- `str(entry.get(key, ""))` -/
def textAt (key : String) (entry : List (String × Json R)) : String := ((Json.lookup key entry).getD (.str "")).text

/-- One entry of the answer. A later one for the same game replaces an earlier one. -/
def attach (wanted : Dict String GameId) (reasons : Dict GameId (List String)) : Json R → Dict GameId (List String)
  | .dict entry =>
    let reason := Text.strip (textAt "reason" entry)
    match wanted.get (textAt "id" entry) with
    | some gameId => if reason = "" then reasons else reasons.set gameId [reason]
    | none => reasons
  | .null | .bool _ | .int _ | .float _ | .str _ | .list _ => reasons

def parse (loads : String → Except ExplainFault (Json R)) (content : Json R) (candidates : List ExplainedGame) :
    Except ExplainFault (Dict GameId (List String)) :=
  match decoded loads content with
  | .ok body =>
    match entriesOf body with
    | some entries => .ok (entries.foldl (attach (wanted candidates)) ∅)
    | none => .ok ∅
  | .error .valueError => .ok ∅
  | .error fault => .error fault

/-- The endpoint answers what is posted with a body, or the exchange raises. -/
def explain (explainer : OpenAiCompatibleExplainer R) (post : ChatRequest R → Except ExplainFault (Json R))
    (loads : String → Except ExplainFault (Json R)) (request : ExplanationRequest) :
    Except ExplainFault (Dict GameId (List String)) :=
  if request.candidates.isEmpty then .ok ∅
  else
    match post (explainer.chatRequest request) >>= content with
    | .ok content => parse loads content request.candidates
    | .error .other => .error .other
    | .error _ => .ok ∅

end Parsing

end OpenAiCompatibleExplainer
end ArcadiaRecommendation
