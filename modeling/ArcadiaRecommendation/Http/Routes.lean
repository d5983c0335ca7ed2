import ArcadiaRecommendation.Foundation.CacheAside
import ArcadiaRecommendation.Http.Identity
import ArcadiaRecommendation.Http.Responses
import ArcadiaRecommendation.Memory.Enrichment
import ArcadiaRecommendation.Sql.NearestTo

/-! The read routes over the in-memory backend: who may ask for what, and the cache that two of the
three routes answer from. -/
namespace ArcadiaRecommendation

inductive ReadQuery
  | recommendations (userId : UserId) (limit : Nat)
  | similar (gameId : GameId) (limit : Nat)
  deriving DecidableEq

def ReadQuery.key : ReadQuery → String
  | .recommendations userId limit => s!"user:{userId.str}:reco:{limit}"
  | .similar gameId limit => s!"game:{gameId.str}:similar:{limit}"

inductive ReadRoute
  | myRecommendations (limit : Option Int)
  | recommendationsFor (userId : UUID) (limit : Option Int)
  | similarGames (gameId : UUID) (limit : Option Int)

inductive ReadResponse (R : Type)
  | recommendations (response : RecommendationsResponse R)
  | similar (response : SimilarGamesResponse R)
  deriving DecidableEq

def limitDep : Option Int → Except HttpFault Nat
  | none => .ok Limits.defaultRecommendationCount
  | some limit =>
    if limit < 1 then .error (.validation "limit: Input should be greater than or equal to 1")
    else if Limits.maxRecommendationCount < limit then
      .error (.validation s!"limit: Input should be less than or equal to {Limits.maxRecommendationCount}")
    else .ok limit.toNat

def HttpFault.ofFault (quote : String → String) : Fault → HttpFault
  | .violation rule => .invariantViolation (rule.message quote)
  | .valueError | .integrityError | .provider _ => .unexpected

/-- A process that serves: its settings and the libraries around it. -/
structure HttpService (R Body : Type) [Scalar R] [Casing] where
  settings : Settings
  library : TokenLibrary R
  format : IsoFormat
  /-- `str`, for what JSON has no form for. -/
  str : Value R → String
  environment : Environment
  backfillLimit : Nat
  embed : Memory.Embedder R Body

variable {R : Type} [Scalar R] [Casing] {Body : Type}

namespace HttpService

/-- What a route asks for once its caller is known, and whether the cache may answer it. -/
def asked [Formats R] (service : HttpService R Body) (caller : Caller) : ReadRoute → Except HttpFault (ReadQuery × Bool)
  | .myRecommendations limit => do
    let actor ← currentActor service.library service.settings caller
    let limit ← limitDep limit
    return (.recommendations actor.userId limit,true)
  | .recommendationsFor userId limit => do
    let actor ← currentActor service.library service.settings caller
    let limit ← limitDep limit
    if ⟨userId⟩ ≠ actor.userId && !actor.isModerator then
      throw (.authorization "only Support or the user themselves may read these recommendations")
    return (.recommendations ⟨userId⟩ limit,false)
  | .similarGames gameId limit => do
    let limit ← limitDep limit
    return (.similar ⟨gameId⟩ limit,true)

/-- The dependency of the two routes that force a refresh. -/
def moderatorDep [Formats R] (service : HttpService R Body) (caller : Caller) : Except HttpFault Actor :=
  requireRoles service.library service.settings [.support,.admin] caller

/-- The use case behind a query. -/
def read (service : HttpService R Body) (query : ReadQuery) (store : MemoryStore R) : Except HttpFault (ReadResponse R) :=
  let lift {A : Type} (ended : Except Fault A) : Except HttpFault A :=
    ended.mapError (.ofFault fun text => service.library.repr (some (.str text)))
  match query with
  | .recommendations userId limit =>
    (lift (Memory.execute service.environment (ServeRecommendations.execute userId limit) store).1).map .recommendations
  | .similar gameId limit => do
    let answer ← lift (Memory.execute service.environment (ListSimilarGames.execute (Memory.nearestTo store)
      service.settings.catalogueScanLimit service.settings.ranksInDenseSpace gameId limit) store).1
    match answer with
    | .ok response => .ok (.similar response)
    | .error lost => .error (.notFound lost.message)

def encoded (service : HttpService R Body) : ReadResponse R → Value R
  | .recommendations response => response.encoded service.format
  | .similar response => response.encoded

/-- The model that a route validates its payload against. -/
def validated (service : HttpService R Body) (query : ReadQuery) (payload : Value R) : Option (ReadResponse R) :=
  match query with
  | .recommendations _ _ => (RecommendationsResponse.validated service.format payload).map .recommendations
  | .similar _ _ => (SimilarGamesResponse.validated payload).map .similar

/-- `ResponseCache` between the routes and the store. -/
def cache (service : HttpService R Body) :
    CacheAside (Memory.Enrichment R) (Memory.Move R Body) ReadQuery String (Value R) (Json R) HttpFault where
  next := Memory.Enrichment.after service.backfillLimit service.embed
  compute query enrichment := (service.read query enrichment.store).map service.encoded
  key query := s!"{service.settings.serviceName}:{query.key}"
  write := Value.dumpsDefault service.str
  read := Value.loads
  lifetime := service.settings.recommendationCacheTtlSeconds
  enabled := service.settings.usesRedis

/-- A request, or whatever else may happen next to the open ones. -/
inductive Step (R Body : Type) [Scalar R] [Casing]
  | request (caller : Caller) (route : ReadRoute) (readable : Bool)
  | change (change : Memory.Move R Body)
  | wait (seconds : Nat)
  | forget (key : String)
  | compute (place : Nat)
  | store (place : Nat) (writable : Bool)
  | abandon (place : Nat)

/-- A request that is refused leaves nothing behind. -/
def move [Formats R] (service : HttpService R Body) :
    Step R Body → Option (CacheMove (Memory.Move R Body) (Caller × ReadRoute) ReadQuery String)
  | .request caller route readable =>
    match service.asked caller route with
    | .ok (query,cached) => some (.ask (caller,route) query (cached && readable))
    | .error _ => none
  | .change change => some (.change change)
  | .wait seconds => some (.wait seconds)
  | .forget key => some (.forget key)
  | .compute place => some (.compute place)
  | .store place writable => some (.store place writable)
  | .abandon place => some (.abandon place)

abbrev State (R : Type) [Scalar R] :=
  CacheState (Memory.Enrichment R) (Caller × ReadRoute) ReadQuery String (Value R) (Json R) HttpFault

def run [Formats R] (service : HttpService R Body) (steps : List (Step R Body)) : State R :=
  service.cache.run {} (steps.filterMap service.move)

/-- What the caller of an answered request receives. -/
def response (service : HttpService R Body) (answer : CacheAnswer (Caller × ReadRoute) ReadQuery (Value R) HttpFault) :
    Except Problem (ReadResponse R) :=
  match answer.result with
  | .error fault => .error fault.problem
  | .ok payload =>
    match service.validated answer.query payload with
    | some response => .ok response
    | none => .error HttpFault.unexpected.problem

end HttpService
end ArcadiaRecommendation
