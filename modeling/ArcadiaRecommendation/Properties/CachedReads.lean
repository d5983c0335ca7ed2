import ArcadiaRecommendation.Http.Routes

/-! Reads through the cache beside the reads of the store: what a caller receives is what the store
answered to the same query a bounded time before. -/
namespace ArcadiaRecommendation

private theorem prefix_filterMap_concat {A B : Type} (convert : A → Option B) (items : List A) (earlier : List B) (last : B)
    (known : earlier ++ [last] <+: items.filterMap convert) :
    ∃ before item, before ++ [item] <+: items ∧ before.filterMap convert = earlier ∧ convert item = some last := by
  obtain ⟨kept,early,same⟩ := List.prefix_filterMap_iff.mp known
  obtain ⟨first,second,rfl,rfl,lasts⟩ := List.filterMap_eq_append_iff.mp same.symm
  obtain ⟨skipped,item,rest,rfl,none,converted,_⟩ := List.filterMap_eq_cons_iff.mp lasts
  refine ⟨first ++ skipped,item,List.IsPrefix.trans ⟨rest,by simp⟩ early,?_,converted⟩
  rw [List.filterMap_append,List.filterMap_eq_nil_iff.mpr none,List.append_nil]

private theorem UUID.length_str (id : UUID) : id.str.toList.length = 36 := by
  rw [UUID.str,String.toList_ofList,List.length_flatMap]
  have each (place : Nat) : ((if place ∈ [8,12,16,20] then ['-'] else []) ++
      [Nat.digitChar (id.bits.toNat / 16^(31-place) % 16)]).length = (if place ∈ [8,12,16,20] then 1 else 0)+1 := by
    split <;> rfl
  simp only [each]
  decide

theorem UserId.str_injective (first second : UserId) (same : first.str = second.str) : first = second :=
  congrArg UserId.mk (UUID.str_injective first.value second.value same)

private theorem natText_injective (first second : Nat) (same : toString first = toString second) : first = second := by
  have digits : (toString first).toList = (toString second).toList := congrArg String.toList same
  rw [Nat.toString_eq_repr,Nat.toString_eq_repr,Nat.toList_repr,Nat.toList_repr] at digits
  have read := congrArg (Nat.ofDigitChars 10 · 0) digits
  simpa only [Nat.ofDigitChars_ten_toDigits] using read

/-- A key names its subject in a place of fixed width, and the kind of the subject before it. -/
theorem ReadQuery.key_injective : Function.Injective ReadQuery.key := by
  have parts (kind middle : String) (left right : UUID) (one other : Nat)
      (same : kind ++ left.str ++ middle ++ toString one = kind ++ right.str ++ middle ++ toString other) :
      left = right ∧ one = other := by
    have texts := congrArg String.toList same
    simp only [String.toList_append,List.append_assoc] at texts
    have after := List.append_cancel_left texts
    obtain ⟨ids,rest⟩ := List.append_inj after (by rw [UUID.length_str,UUID.length_str])
    have digits := List.append_cancel_left rest
    exact ⟨UUID.str_injective left right (String.toList_injective ids),natText_injective one other (String.toList_injective digits)⟩
  have kinds (user game : String) : "user:" ++ user ≠ "game:" ++ game := by
    intro same
    have texts := congrArg String.toList same
    simp [String.toList_append] at texts
  intro first second same
  cases first with
  | recommendations user limit =>
    cases second with
    | recommendations other bound =>
      obtain ⟨ids,limits⟩ := parts "user:" ":reco:" user.value other.value limit bound same
      exact congrArg₂ recommendations (congrArg UserId.mk ids) limits
    | similar game bound =>
      simp only [key,String.append_assoc] at same
      exact (kinds _ _ same).elim
  | similar game limit =>
    cases second with
    | recommendations user bound =>
      simp only [key,String.append_assoc] at same
      exact (kinds _ _ same.symm).elim
    | similar other bound =>
      obtain ⟨ids,limits⟩ := parts "game:" ":similar:" game.value other.value limit bound same
      exact congrArg₂ similar (congrArg GameId.mk ids) limits

namespace HttpService
variable {R : Type} [Scalar R] [Casing] {Body : Type} (service : HttpService R Body)

private theorem key_injective : Function.Injective service.cache.key := by
  intro first second same
  have texts := congrArg String.toList same
  simp only [cache,String.toList_append] at texts
  exact ReadQuery.key_injective (String.toList_injective (List.append_cancel_left texts))

theorem encoded_isJson (response : ReadResponse R) : (service.encoded response).IsJson := by
  cases response with
  | recommendations response => exact response.encoded_isJson service.format
  | similar response => exact response.encoded_isJson

theorem read_recommendations (userId : UserId) (limit : Nat) (store : MemoryStore R) (response : ReadResponse R)
    (answered : service.read (.recommendations userId limit) store = .ok response) :
    ∃ list, response = .recommendations list ∧
      (Memory.execute service.environment (ServeRecommendations.execute userId limit) store).1 = .ok list := by
  unfold read at answered
  dsimp only at answered
  cases ran : (Memory.execute service.environment (ServeRecommendations.execute userId limit) store).1 with
  | error fault =>
    rw [ran] at answered
    cases answered
  | ok list =>
    rw [ran] at answered
    cases answered
    exact ⟨list,rfl,rfl⟩

theorem read_similar (gameId : GameId) (limit : Nat) (store : MemoryStore R) (response : ReadResponse R)
    (answered : service.read (.similar gameId limit) store = .ok response) : ∃ rail, response = .similar rail := by
  unfold read at answered
  dsimp only at answered
  cases ran : (Memory.execute service.environment (ListSimilarGames.execute (Memory.nearestTo store)
      service.settings.catalogueScanLimit service.settings.ranksInDenseSpace gameId limit) store).1 with
  | error fault =>
    rw [ran] at answered
    cases answered
  | ok found =>
    rw [ran] at answered
    cases found with
    | error lost => cases answered
    | ok rail =>
      cases answered
      exact ⟨rail,rfl⟩

/-- A route validates what its use case answered as that answer. -/
theorem validated_read (query : ReadQuery) (store : MemoryStore R) (response : ReadResponse R)
    (answered : service.read query store = .ok response) :
    service.validated query (service.encoded response) = some response := by
  cases query with
  | recommendations userId limit =>
    obtain ⟨list,rfl,_⟩ := service.read_recommendations userId limit store response answered
    unfold validated encoded
    dsimp only
    rw [list.validated_encoded service.format]
    rfl
  | similar gameId limit =>
    obtain ⟨rail,rfl⟩ := service.read_similar gameId limit store response answered
    unfold validated encoded
    dsimp only
    rw [rail.validated_encoded]
    rfl

private theorem compute_ok (query : ReadQuery) (enrichment : Memory.Enrichment R) (payload : Value R)
    (computed : service.cache.compute query enrichment = .ok payload) :
    ∃ response, service.read query enrichment.store = .ok response ∧ payload = service.encoded response := by
  cases answered : service.read query enrichment.store with
  | error fault =>
    simp only [cache,answered] at computed
    cases computed
  | ok response =>
    simp only [cache,answered] at computed
    cases computed
    exact ⟨response,rfl,rfl⟩

private theorem cache_faithful : service.cache.Faithful where
  apart := service.key_injective
  back query enrichment payload computed := by
    obtain ⟨response,_,rfl⟩ := service.compute_ok query enrichment payload computed
    exact Value.loads_dumpsDefault service.str _ (service.encoded_isJson response)

/-- What a caller would receive from the store itself. -/
def direct (query : ReadQuery) (store : MemoryStore R) : Except Problem (ReadResponse R) :=
  (service.read query store).mapError HttpFault.problem

private theorem response_computed (answer : CacheAnswer (Caller × ReadRoute) ReadQuery (Value R) HttpFault)
    (enrichment : Memory.Enrichment R) (computed : answer.result = service.cache.compute answer.query enrichment) :
    service.response answer = service.direct answer.query enrichment.store := by
  unfold response direct
  cases answered : service.read answer.query enrichment.store with
  | error fault =>
    simp only [computed,cache,answered]
    rfl
  | ok response =>
    simp only [computed,cache,answered,Except.map,service.validated_read _ _ response answered]
    rfl

/-- What was ingested, generated and embedded so far. -/
def changes (steps : List (Step R Body)) : List (Memory.Move R Body) :=
  steps.filterMap fun step => match step with
    | .change change => some change
    | _ => none

variable [Formats R]

private theorem changed_moves (steps : List (Step R Body)) :
    (steps.filterMap service.move).filterMap CacheMove.changed = changes steps := by
  rw [List.filterMap_filterMap]
  apply List.filterMap_congr
  intro step _
  cases step with
  | request caller route readable =>
    unfold move
    dsimp only
    cases service.asked caller route with
    | error fault => rfl
    | ok admitted => rfl
  | _ => rfl

theorem run_source (steps : List (Step R Body)) :
    (service.run steps).source = Memory.Enrichment.run service.backfillLimit service.embed (changes steps) := by
  rw [← service.changed_moves steps]
  exact service.cache.run_source {} _

/-- The store of the process after these steps. -/
def storeAfter (steps : List (Step R Body)) : MemoryStore R :=
  (Memory.Enrichment.run service.backfillLimit service.embed (changes steps)).store

private theorem response_source (steps : List (Step R Body))
    (answer : CacheAnswer (Caller × ReadRoute) ReadQuery (Value R) HttpFault)
    (computed : answer.result = service.cache.compute answer.query (service.run steps).source) :
    service.response answer = service.direct answer.query (service.storeAfter steps) := by
  rw [service.response_computed answer _ computed,service.run_source]
  rfl

private theorem move_compute (step : Step R Body) (place : Nat) (moved : service.move step = some (.compute place)) :
    step = .compute place := by
  cases step with
  | request caller route readable =>
    unfold move at moved
    dsimp only at moved
    split at moved <;> cases moved
  | _ => cases moved <;> rfl

private theorem move_store (step : Step R Body) (place : Nat) (writable : Bool)
    (moved : service.move step = some (.store place writable)) : step = .store place writable := by
  cases step with
  | request caller route readable =>
    unfold move at moved
    dsimp only at moved
    split at moved <;> cases moved
  | _ => cases moved <;> rfl

/-- The cache is read only where the route lets it answer. -/
private theorem move_ask (step : Step R Body) (asker : Caller × ReadRoute) (query : ReadQuery)
    (moved : service.move step = some (.ask asker query true)) :
    step = .request asker.1 asker.2 true ∧ service.asked asker.1 asker.2 = .ok (query,true) := by
  cases step with
  | request caller route readable =>
    unfold move at moved
    dsimp only at moved
    split at moved
    · rename_i about cached admitted
      simp only [Option.some.injEq,CacheMove.ask.injEq,Bool.and_eq_true] at moved
      obtain ⟨rfl,rfl,rfl,rfl⟩ := moved
      exact ⟨rfl,admitted⟩
    · cases moved
  | _ => cases moved

/-- A request computed this payload from the store as these steps left it, and has had it in hand since. -/
structure Carried (before : List (Step R Body)) (place : Nat) (steps : List (Step R Body)) (asker : Caller × ReadRoute)
    (query : ReadQuery) (payload : Value R) : Prop where
  made : before ++ [.compute place] <+: steps
  missed : (service.run before).requests[place]? = some (.missed asker query)
  drew : service.cache.compute query (service.run before).source = .ok payload
  inHand : ∀ between, before ++ [.compute place] <+: between → between <+: steps →
    .computed asker query payload ∈ (service.run between).requests

theorem run_carried (steps : List (Step R Body)) (asker : Caller × ReadRoute) (query : ReadQuery) (payload : Value R)
    (inHand : .computed asker query payload ∈ (service.run steps).requests) :
    ∃ before place, service.Carried before place steps asker query payload := by
  obtain ⟨moves,place,carried⟩ := service.cache.run_carried {} (steps.filterMap service.move) asker query payload inHand
  obtain ⟨before,step,known,rfl,moved⟩ := prefix_filterMap_concat service.move steps moves _ carried.made
  cases service.move_compute step place moved
  refine ⟨before,place,known,carried.missed,carried.drew,fun between made early => ?_⟩
  apply carried.inHand _ _ (early.filterMap service.move)
  have through := made.filterMap service.move
  rw [List.filterMap_append] at through
  exact through

/-- How a step that follows these steps gives an answer: the use case ran for this very request, or
ran for it before and the payload is now stored, or the payload of a request for the same query was
stored less than a lifetime ago. -/
inductive Given (steps : List (Step R Body)) (answer : CacheAnswer (Caller × ReadRoute) ReadQuery (Value R) HttpFault) :
    Step R Body → Prop
  | drawn (place : Nat) (request : CacheRequest (Caller × ReadRoute) ReadQuery (Value R))
      (here : (service.run steps).requests[place]? = some request) (asker : answer.asker = request.asker)
      (query : answer.query = request.query)
      (same : service.response answer = service.direct answer.query (service.storeAfter steps)) :
      Given steps answer (.compute place)
  | carried (place made : Nat) (writable : Bool) (payload : Value R) (before : List (Step R Body))
      (here : (service.run steps).requests[place]? = some (.computed answer.asker answer.query payload))
      (own : service.Carried before made steps answer.asker answer.query payload)
      (same : service.response answer = service.direct answer.query (service.storeAfter before)) :
      Given steps answer (.store place writable)
  | held (caller : Caller) (route : ReadRoute) (other : Caller × ReadRoute) (place made : Nat) (payload : Value R)
      (before storing : List (Step R Body)) (asker : answer.asker = (caller,route))
      (cached : service.asked caller route = .ok (answer.query,true)) (stored : storing ++ [.store place true] <+: steps)
      (here : (service.run storing).requests[place]? = some (.computed other answer.query payload))
      (live : (service.run steps).now < (service.run storing).now + service.settings.recommendationCacheTtlSeconds)
      (own : service.Carried before made storing other answer.query payload)
      (same : service.response answer = service.direct answer.query (service.storeAfter before)) :
      Given steps answer (.request caller route true)

/-- A step answers nothing, or one request. -/
theorem run_given (steps : List (Step R Body)) (step : Step R Body) :
    (service.run (steps ++ [step])).answers = (service.run steps).answers ∨
      ∃ answer, (service.run (steps ++ [step])).answers = (service.run steps).answers ++ [answer] ∧
        answer.moment = (service.run steps).now ∧ service.Given steps answer step := by
  cases moved : service.move step with
  | none =>
    left
    unfold run
    rw [List.filterMap_append,List.filterMap_cons_none moved,List.filterMap_nil,List.append_nil]
  | some move =>
    have ran : service.run (steps ++ [step]) = service.cache.run {} (steps.filterMap service.move ++ [move]) := by
      unfold run
      rw [List.filterMap_append,List.filterMap_cons_some moved,List.filterMap_nil]
    rw [ran]
    rcases service.cache.run_given {} service.cache_faithful (steps.filterMap service.move) move with same | ⟨answer,grown,given⟩
    · exact .inl same
    refine .inr ⟨answer,grown,given.moment,?_⟩
    cases given with
    | drawn place request here =>
      cases service.move_compute step place moved
      exact .drawn place request here rfl rfl (service.response_source steps _ rfl)
    | carried place writable asker query payload here =>
      cases service.move_store step place writable moved
      obtain ⟨before,made,own⟩ := service.run_carried steps asker query payload (List.mem_of_getElem? here)
      exact .carried place made writable payload before here own (service.response_source before _ own.drew.symm)
    | held asker other query payload moves place stored here live =>
      obtain ⟨rfl,cached⟩ := service.move_ask step asker query moved
      obtain ⟨storing,step,known,rfl,put⟩ := prefix_filterMap_concat service.move steps moves _ stored
      cases service.move_store step place true put
      obtain ⟨before,made,own⟩ := service.run_carried storing other query payload (List.mem_of_getElem? here)
      exact .held asker.1 asker.2 other place made payload before storing rfl cached known here live own
        (service.response_source before _ own.drew.symm)

theorem Given.earlier {steps : List (Step R Body)} {answer : CacheAnswer (Caller × ReadRoute) ReadQuery (Value R) HttpFault}
    {step : Step R Body} (given : service.Given steps answer step) :
    ∃ before, before <+: steps ∧ service.response answer = service.direct answer.query (service.storeAfter before) := by
  cases given with
  | drawn place request here asker query same => exact ⟨steps,List.prefix_refl steps,same⟩
  | carried place made writable payload before here own same =>
    exact ⟨before,(List.prefix_append before _).trans own.made,same⟩
  | held caller route other place made payload before storing asker cached stored here live own same =>
    exact ⟨before,((List.prefix_append before _).trans own.made).trans ((List.prefix_append storing _).trans stored),same⟩

theorem answer_earlier (steps : List (Step R Body)) (answer : CacheAnswer (Caller × ReadRoute) ReadQuery (Value R) HttpFault)
    (member : answer ∈ (service.run steps).answers) :
    ∃ before, before <+: steps ∧ service.response answer = service.direct answer.query (service.storeAfter before) := by
  induction steps using List.reverseRecOn with
  | nil => exact absurd member List.not_mem_nil
  | append_singleton earlier step ih =>
    have longer (before : List (Step R Body)) (known : before <+: earlier) : before <+: earlier ++ [step] :=
      known.trans (List.prefix_append earlier [step])
    rcases service.run_given earlier step with same | ⟨last,grown,_,given⟩
    · rw [same] at member
      obtain ⟨before,known,shown⟩ := ih member
      exact ⟨before,longer before known,shown⟩
    rw [grown] at member
    rcases List.mem_append.mp member with old | new
    · obtain ⟨before,known,shown⟩ := ih old
      exact ⟨before,longer before known,shown⟩
    · obtain ⟨before,known,shown⟩ := given.earlier
      rw [List.mem_singleton.mp new]
      exact ⟨before,longer before known,shown⟩

/-- Every answer is what the store gave for the same query to this very request, or to one whose
payload was put into the cache less than a lifetime before. Once the store has stopped changing, and
what was computed before is stored, a lifetime later every answer is up to date. -/
theorem cached_reads (steps : List (Step R Body)) :
    (∀ before step, before ++ [step] <+: steps →
      (service.run (before ++ [step])).answers = (service.run before).answers ∨
        ∃ answer, (service.run (before ++ [step])).answers = (service.run before).answers ++ [answer] ∧
          answer.moment = (service.run before).now ∧ service.Given before answer step) ∧
    ∀ early late, steps = early ++ late → changes late = [] →
      (∀ asker query payload, .computed asker query payload ∈ (service.run early).requests →
        (service.read query (service.storeAfter early)).map service.encoded = .ok payload) →
      ∀ answer ∈ (service.run steps).answers,
        (service.run early).now + service.settings.recommendationCacheTtlSeconds < answer.moment →
          service.response answer = service.direct answer.query (service.storeAfter steps) := by
  constructor
  · exact fun before step _ => service.run_given before step
  · rintro early late rfl quiet current answer member since
    have still : ∀ move ∈ late.filterMap service.move, move.changed = none := by
      have none := service.changed_moves late
      rw [quiet,List.filterMap_eq_nil_iff] at none
      exact none
    have settled := service.cache.run_settled service.cache_faithful {} (early.filterMap service.move)
      (late.filterMap service.move) (fun asker query payload open_ => by
        have drew := current asker query payload open_
        unfold storeAfter at drew
        rw [← service.run_source early] at drew
        exact drew) still
    rw [← List.filterMap_append] at settled
    have same := service.response_source early answer ((settled.answers answer member).resolve_left (Nat.not_le.mpr since))
    have unchanged : changes (early ++ late) = changes early := by
      unfold changes at quiet ⊢
      rw [List.filterMap_append,quiet,List.append_nil]
    unfold storeAfter at same ⊢
    rw [unchanged]
    exact same

end HttpService
end ArcadiaRecommendation
