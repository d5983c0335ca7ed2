import ArcadiaRecommendation.Messaging.Record
import ArcadiaRecommendation.Foundation.Text

/-! The embedding providers: one hashes words into buckets, the other posts the texts to an
inference endpoint, pools what comes back and checks its width. -/
namespace ArcadiaRecommendation

inductive EmbedFault
  /-- `ProviderUnavailableError` -/
  | unavailable (message : String)
  | indexError
  | typeError
  | valueError
  | overflowError
  | zeroDivisionError
  deriving DecidableEq

/-- The builtin `float` of an integer or a text, none where it raises. -/
class Floats (R : Type) where
  ofInt : Int → Option R
  ofText : String → Option R

variable {R : Type} [Scalar R]

structure HashingEmbedder where
  dimensions : Nat
  /-- The eight digest bytes of an encoded token, first byte highest. A text that cannot be
  encoded has none. -/
  blake2b : String → Option (BitVec 64)

namespace HashingEmbedder

def punctuation : List Char := ['.',',',':',';','!','?','(',')','[',']','"','\'']

def fill (embedder : HashingEmbedder) (buckets : List R) (word : String) : Except EmbedFault (List R) :=
  let token := Text.strip (Text.stripChars punctuation word)
  if token = "" then .ok buckets
  else
    match embedder.blake2b token with
    | none => .error .valueError
    | some digest =>
      if embedder.dimensions = 0 then .error .zeroDivisionError else
      let index := (digest >>> 32).toNat % embedder.dimensions
      .ok (buckets.modify index fun value => value + Scalar.literal (if digest.getLsbD 24 then 1 else -1))

def one [Casing] (embedder : HashingEmbedder) (text : String) : Except EmbedFault (List R) := do
  let buckets ← (Text.split (Casing.lower text)).foldlM embedder.fill (List.replicate embedder.dimensions 0)
  let magnitude := Scalar.sqrt (Scalar.sum (buckets.map fun value => value * value))
  if Scalar.isZero magnitude then return buckets
  return buckets.map fun value => value / magnitude

def embed [Casing] (embedder : HashingEmbedder) (texts : List String) : Except EmbedFault (List (List R)) :=
  texts.mapM embedder.one

private theorem one_width [Casing] (embedder : HashingEmbedder) (text : String) (vector : List R)
    (ok : embedder.one text = .ok vector) : vector.length = embedder.dimensions := by
  unfold one at ok
  cases filled : (Text.split (Casing.lower text)).foldlM embedder.fill (List.replicate embedder.dimensions (0 : R)) with
  | error fault =>
    rw [filled] at ok
    cases ok
  | ok buckets =>
    have length : buckets.length = embedder.dimensions := by
      apply foldlM_kept embedder.fill (fun buckets => buckets.length = embedder.dimensions) _ _ _ buckets
        List.length_replicate filled
      intro before word after kept step
      unfold fill at step
      dsimp only at step
      split at step
      · cases Except.ok.inj step
        exact kept
      split at step
      · cases step
      split at step
      · cases step
      · cases Except.ok.inj step
        rw [List.length_modify,kept]
    rw [filled] at ok
    simp only [bind,Except.bind,pure,Except.pure] at ok
    split at ok
    · cases Except.ok.inj ok
      exact length
    · cases Except.ok.inj ok
      rw [List.length_map,length]

theorem embed_width [Casing] (embedder : HashingEmbedder) (texts : List String) (vectors : List (List R))
    (ok : embedder.embed texts = .ok vectors) : ∀ vector ∈ vectors, vector.length = embedder.dimensions := by
  intro vector member
  obtain ⟨text,_,made⟩ := mem_mapM embedder.one texts vectors ok vector member
  exact one_width embedder text vector made

end HashingEmbedder

structure HuggingFaceEmbedder where
  dimensions : Nat
  inputPrefix : String := ""

namespace HuggingFaceEmbedder

/-- `type(body).__name__` -/
def typeName : Json R → String
  | .null => "NoneType"
  | .bool _ => "bool"
  | .int _ => "int"
  | .float _ => "float"
  | .str _ => "str"
  | .list _ => "list"
  | .dict _ => "dict"

def asList : Json R → Except EmbedFault (List (Json R))
  | .list items => .ok items
  | body => .error (.unavailable s!"embedding provider returned {typeName body}, expected a list")

/-- `isinstance(value, int | float)`, which a bool satisfies too. -/
def isNumber : Json R → Bool
  | .int _ | .float _ | .bool _ => true
  | .null | .str _ | .list _ | .dict _ => false

variable [Floats R]

/-- `float(value)` -/
def toFloat : Json R → Except EmbedFault R
  | .float value => .ok value
  | .bool value => .ok (Scalar.literal (if value then 1 else 0))
  | .int value => (Floats.ofInt value).elim (.error .overflowError) .ok
  | .str text => (Floats.ofText text).elim (.error .valueError) .ok
  | .null | .list _ | .dict _ => .error .typeError

def rowOf : Json R → Option (List (Json R))
  | .list (first :: rest) => some (first :: rest)
  | _ => none

/-- The mean of one column. A row that is too short raises. -/
def mean (rows : List (List (Json R))) (index : Nat) : Except EmbedFault R := do
  let column ← rows.mapM fun row => match row[index]? with
    | some value => toFloat value
    | none => .error .indexError
  return Scalar.sum column / Scalar.literal rows.length

def pooled : Json R → Except EmbedFault (List R)
  | .list (first :: rest) =>
    if (first :: rest).all isNumber then (first :: rest).mapM toFloat
    else
      match (first :: rest).filterMap rowOf with
      | [] => .error (.unavailable "embedding provider returned an unrecognised vector shape")
      | head :: tail => (List.range head.length).mapM (mean (head :: tail))
  | _ => .error (.unavailable "embedding provider returned an empty or non-list vector")

/-- The endpoint answers a request with a body, or the exchange raises an `httpx.HTTPError` or a
`ValueError`. What else it may raise (a RecursionError of the decoder, an InvalidURL) is outside the model. -/
def embed (embedder : HuggingFaceEmbedder) (respond : List String → Except String (Json R)) (texts : List String) :
    Except EmbedFault (List (List R)) :=
  if texts.isEmpty then .ok []
  else
    match respond (texts.map fun text => embedder.inputPrefix ++ text) with
    | .error exc => .error (.unavailable s!"embedding provider failed: {exc}")
    | .ok body => do
      let items ← asList body
      let vectors ← items.mapM pooled
      if vectors.length ≠ texts.length then
        throw (.unavailable s!"embedding provider returned {vectors.length} vectors for {texts.length} inputs")
      match vectors.find? fun vector => vector.length ≠ embedder.dimensions with
      | some vector =>
        throw (.unavailable (s!"embedding provider returned {vector.length} dimensions, " ++
          s!"but this deployment stores {embedder.dimensions}"))
      | none => return vectors

/-- Whatever the endpoint answers, an embedding that succeeds has the width of the deployment. -/
theorem embed_width (embedder : HuggingFaceEmbedder) (respond : List String → Except String (Json R))
    (texts : List String) (vectors : List (List R)) (ok : embedder.embed respond texts = .ok vectors) :
    ∀ vector ∈ vectors, vector.length = embedder.dimensions := by
  unfold embed at ok
  split at ok
  · cases Except.ok.inj ok
    intro vector member
    cases member
  split at ok
  · cases ok
  rename_i body answered
  simp only [bind,Except.bind,pure,Except.pure] at ok
  split at ok
  · cases ok
  rename_i items listed
  split at ok
  · cases ok
  rename_i found pooling
  split at ok
  · cases ok
  split at ok
  · cases ok
  rename_i uniform
  cases Except.ok.inj ok
  intro vector member
  simpa using List.find?_eq_none.mp uniform vector member

end HuggingFaceEmbedder
end ArcadiaRecommendation
