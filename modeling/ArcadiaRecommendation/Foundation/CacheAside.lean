import Mathlib.Data.List.Basic
import Mathlib.Data.List.Induction
import Mathlib.Logic.Function.Basic

/-! A cache beside a source of values. A request reads the cache, computes where nothing is held, and
stores what it computed for a while. Requests interleave with each other and with changes of the
source, and the cache may fail any read or write and forget any key. -/
namespace ArcadiaRecommendation

structure CacheAside (Source Change Query Key Value Text Fault : Type) where
  next : Source → Change → Source
  compute : Query → Source → Except Fault Value
  key : Query → Key
  write : Value → Text
  read : Text → Value
  lifetime : Nat
  enabled : Bool

/-- What is held under a key, and the first moment it is not. -/
structure CacheEntry (Text : Type) where
  text : Text
  expires : Nat

/-- A request between two of its waits. -/
inductive CacheRequest (Asker Query Value : Type)
  | missed (asker : Asker) (query : Query)
  /-- The cache could not be read, so nothing is stored either. -/
  | bypassed (asker : Asker) (query : Query)
  | computed (asker : Asker) (query : Query) (value : Value)

def CacheRequest.asker {Asker Query Value : Type} : CacheRequest Asker Query Value → Asker
  | .missed asker _ | .bypassed asker _ | .computed asker _ _ => asker

def CacheRequest.query {Asker Query Value : Type} : CacheRequest Asker Query Value → Query
  | .missed _ query | .bypassed _ query | .computed _ query _ => query

structure CacheAnswer (Asker Query Value Fault : Type) where
  asker : Asker
  query : Query
  result : Except Fault Value
  moment : Nat

inductive CacheMove (Change Asker Query Key : Type)
  | change (change : Change)
  | wait (ticks : Nat)
  | forget (key : Key)
  | ask (asker : Asker) (query : Query) (readable : Bool)
  | compute (place : Nat)
  | store (place : Nat) (writable : Bool)
  | abandon (place : Nat)

def CacheMove.changed {Change Asker Query Key : Type} : CacheMove Change Asker Query Key → Option Change
  | .change made => some made
  | .wait _ | .forget _ | .ask _ _ _ | .compute _ | .store _ _ | .abandon _ => none

structure CacheState (Source Asker Query Key Value Text Fault : Type) where
  source : Source
  now : Nat := 0
  held : Key → Option (CacheEntry Text) := fun _ => none
  requests : List (CacheRequest Asker Query Value) := []
  answers : List (CacheAnswer Asker Query Value Fault) := []

namespace CacheState
variable {Source Asker Query Key Value Text Fault : Type} (state : CacheState Source Asker Query Key Value Text Fault)

def live (key : Key) : Option Text := ((state.held key).filter fun entry => state.now < entry.expires).map (·.text)

def answer (asker : Asker) (query : Query) (result : Except Fault Value) : CacheState Source Asker Query Key Value Text Fault :=
  { state with answers := state.answers ++ [⟨asker,query,result,state.now⟩] }

def drop (place : Nat) : CacheState Source Asker Query Key Value Text Fault :=
  { state with requests := state.requests.eraseIdx place }

end CacheState

namespace CacheAside
variable {Source Change Asker Query Key Value Text Fault : Type} [DecidableEq Key]
  (cache : CacheAside Source Change Query Key Value Text Fault)

/-- A lifetime of nothing is refused, as any failed write is. -/
def put (query : Query) (value : Value) (writable : Bool) (state : CacheState Source Asker Query Key Value Text Fault) :
    CacheState Source Asker Query Key Value Text Fault :=
  if writable && 0 < cache.lifetime then
    { state with held := Function.update state.held (cache.key query) (some ⟨cache.write value,state.now + cache.lifetime⟩) }
  else state

def after (state : CacheState Source Asker Query Key Value Text Fault) :
    CacheMove Change Asker Query Key → CacheState Source Asker Query Key Value Text Fault
  | .change change => { state with source := cache.next state.source change }
  | .wait ticks => { state with now := state.now + ticks }
  | .forget key => { state with held := Function.update state.held key none }
  | .ask asker query readable =>
    if cache.enabled && readable then
      match state.live (cache.key query) with
      | some text => state.answer asker query (.ok (cache.read text))
      | none => { state with requests := state.requests ++ [.missed asker query] }
    else { state with requests := state.requests ++ [.bypassed asker query] }
  | .compute place =>
    match state.requests[place]? with
    | some (.missed asker query) =>
      match cache.compute query state.source with
      | .ok value => { state with requests := state.requests.set place (.computed asker query value) }
      | .error fault => (state.drop place).answer asker query (.error fault)
    | some (.bypassed asker query) => (state.drop place).answer asker query (cache.compute query state.source)
    | some (.computed _ _ _) | none => state
  | .store place writable =>
    match state.requests[place]? with
    | some (.computed asker query value) => ((cache.put query value writable state).drop place).answer asker query (.ok value)
    | some (.missed _ _) | some (.bypassed _ _) | none => state
  | .abandon place => state.drop place

def run (start : Source) (moves : List (CacheMove Change Asker Query Key)) : CacheState Source Asker Query Key Value Text Fault :=
  moves.foldl cache.after { source := start }

theorem after_source (state : CacheState Source Asker Query Key Value Text Fault) (move : CacheMove Change Asker Query Key) :
    (cache.after state move).source = move.changed.elim state.source (cache.next state.source) := by
  cases move with
  | change change => rfl
  | wait ticks => rfl
  | forget key => rfl
  | abandon place => rfl
  | ask asker query readable =>
    dsimp only [after]
    split
    · split <;> rfl
    · rfl
  | compute place =>
    dsimp only [after]
    split
    · split <;> rfl
    · rfl
    · rfl
    · rfl
  | store place writable =>
    dsimp only [after]
    split
    · unfold put
      split <;> rfl
    · rfl
    · rfl
    · rfl

theorem run_source (start : Source) (moves : List (CacheMove Change Asker Query Key)) :
    (cache.run start moves : CacheState Source Asker Query Key Value Text Fault).source =
      (moves.filterMap CacheMove.changed).foldl cache.next start := by
  induction moves using List.reverseRecOn with
  | nil => rfl
  | append_singleton earlier move ih =>
    unfold run at ih ⊢
    rw [List.foldl_append,List.filterMap_append,List.foldl_append,← ih]
    refine (cache.after_source _ move).trans ?_
    cases move with
    | change change => rfl
    | _ => rfl

/-- Queries share no key, and what was written is read as it was. -/
structure Faithful : Prop where
  apart : Function.Injective cache.key
  back : ∀ query source value, cache.compute query source = .ok value → cache.read (cache.write value) = value

/-- What one move does to a state. -/
inductive Stepped (state : CacheState Source Asker Query Key Value Text Fault) :
    CacheMove Change Asker Query Key → CacheState Source Asker Query Key Value Text Fault → Prop
  | idle (move : CacheMove Change Asker Query Key) : Stepped state move state
  | changed (change : Change) : Stepped state (.change change) { state with source := cache.next state.source change }
  | waited (ticks : Nat) : Stepped state (.wait ticks) { state with now := state.now + ticks }
  | forgot (key : Key) : Stepped state (.forget key) { state with held := Function.update state.held key none }
  | hit (asker : Asker) (query : Query) (entry : CacheEntry Text) (found : state.held (cache.key query) = some entry)
      (live : state.now < entry.expires) :
      Stepped state (.ask asker query true) (state.answer asker query (.ok (cache.read entry.text)))
  | asked (asker : Asker) (query : Query) (readable : Bool) (request : CacheRequest Asker Query Value)
      (mine : request = .missed asker query ∨ request = .bypassed asker query) :
      Stepped state (.ask asker query readable) { state with requests := state.requests ++ [request] }
  | answered (place : Nat) (request : CacheRequest Asker Query Value)
      (here : state.requests[place]? = some request) :
      Stepped state (.compute place)
        ((state.drop place).answer request.asker request.query (cache.compute request.query state.source))
  | computed (place : Nat) (asker : Asker) (query : Query) (value : Value)
      (here : state.requests[place]? = some (.missed asker query)) (result : cache.compute query state.source = .ok value) :
      Stepped state (.compute place) { state with requests := state.requests.set place (.computed asker query value) }
  | stored (place : Nat) (writable : Bool) (asker : Asker) (query : Query) (value : Value)
      (here : state.requests[place]? = some (.computed asker query value)) :
      Stepped state (.store place writable) (((cache.put query value writable state).drop place).answer asker query (.ok value))
  | dropped (place : Nat) : Stepped state (.abandon place) (state.drop place)

theorem after_stepped (state : CacheState Source Asker Query Key Value Text Fault) (move : CacheMove Change Asker Query Key) :
    cache.Stepped state move (cache.after state move) := by
  cases move with
  | change change => exact .changed change
  | wait ticks => exact .waited ticks
  | forget key => exact .forgot key
  | abandon place => exact .dropped place
  | ask asker query readable =>
    dsimp only [after]
    split
    · rename_i reads
      cases hit : state.live (cache.key query) with
      | none => exact .asked asker query readable _ (.inl rfl)
      | some text =>
        unfold CacheState.live at hit
        obtain ⟨entry,kept,rfl⟩ := Option.map_eq_some_iff.mp hit
        obtain ⟨found,live⟩ := Option.filter_eq_some_iff.mp kept
        cases (Bool.and_eq_true_iff.mp reads).2
        exact .hit asker query entry found (of_decide_eq_true live)
    · exact .asked asker query readable _ (.inr rfl)
  | compute place =>
    dsimp only [after]
    cases here : state.requests[place]? with
    | none => exact .idle _
    | some request =>
      cases request with
      | computed asker query value => exact .idle _
      | bypassed asker query => exact .answered place _ here
      | missed asker query =>
        dsimp only
        cases result : cache.compute query state.source with
        | error fault =>
          dsimp only
          rw [← result]
          exact .answered place _ here
        | ok value => exact .computed place asker query value here result
  | store place writable =>
    dsimp only [after]
    cases here : state.requests[place]? with
    | none => exact .idle _
    | some request =>
      cases request with
      | missed asker query => exact .idle _
      | bypassed asker query => exact .idle _
      | computed asker query value => exact .stored place writable asker query value here

section Put
variable (query : Query) (value : Value) (writable : Bool) (state : CacheState Source Asker Query Key Value Text Fault)

theorem put_now : (cache.put query value writable state).now = state.now := by
  unfold put
  split <;> rfl

theorem put_requests : (cache.put query value writable state).requests = state.requests := by
  unfold put
  split <;> rfl

theorem put_answers : (cache.put query value writable state).answers = state.answers := by
  unfold put
  split <;> rfl

theorem put_held (key : Key) (entry : CacheEntry Text) (found : (cache.put query value writable state).held key = some entry) :
    state.held key = some entry ∨
      writable = true ∧ cache.key query = key ∧ entry = ⟨cache.write value,state.now + cache.lifetime⟩ := by
  unfold put at found
  split at found
  · rename_i writes
    dsimp only at found
    rw [Function.update_apply] at found
    split at found
    · rename_i same
      exact .inr ⟨(Bool.and_eq_true_iff.mp writes).1,same.symm,(Option.some.inj found).symm⟩
    · exact .inl found
  · exact .inl found

end Put

section After
variable (state : CacheState Source Asker Query Key Value Text Fault) (move : CacheMove Change Asker Query Key)

theorem after_now_le : state.now ≤ (cache.after state move).now := by
  have stepped := cache.after_stepped state move
  generalize cache.after state move = later at stepped ⊢
  cases stepped with
  | waited ticks => exact Nat.le_add_right state.now ticks
  | stored place writable asker query value here => exact Nat.le_of_eq (cache.put_now query value writable state).symm
  | _ => exact Nat.le_refl state.now

/-- A request has a value in hand that it computed with this move, or had it before. -/
theorem after_computed (asker : Asker) (query : Query) (value : Value)
    (inHand : .computed asker query value ∈ (cache.after state move).requests) :
    .computed asker query value ∈ state.requests ∨ ∃ place, move = .compute place ∧
      state.requests[place]? = some (.missed asker query) ∧ cache.compute query state.source = .ok value := by
  have stepped := cache.after_stepped state move
  generalize cache.after state move = later at stepped inHand
  cases stepped with
  | asked other about readable request mine =>
    rcases List.mem_append.mp inHand with old | new
    · exact .inl old
    · have own := List.mem_singleton.mp new
      rw [← own] at mine
      rcases mine with none | none <;> cases none
  | answered place request here => exact .inl (List.mem_of_mem_eraseIdx inHand)
  | computed place other about drawn here result =>
    rcases List.mem_or_eq_of_mem_set inHand with old | new
    · exact .inl old
    · cases new
      exact .inr ⟨place,rfl,here,result⟩
  | stored place writable other about drawn here =>
    have left := List.mem_of_mem_eraseIdx inHand
    rw [put_requests] at left
    exact .inl left
  | dropped place => exact .inl (List.mem_of_mem_eraseIdx inHand)
  | _ => exact .inl inHand

/-- What is held was put there by this move, or was held before. -/
theorem after_held (key : Key) (entry : CacheEntry Text) (found : (cache.after state move).held key = some entry) :
    state.held key = some entry ∨ ∃ place asker query value, move = .store place true ∧
      state.requests[place]? = some (.computed asker query value) ∧ cache.key query = key ∧
      entry = ⟨cache.write value,state.now + cache.lifetime⟩ := by
  have stepped := cache.after_stepped state move
  generalize cache.after state move = later at stepped found
  cases stepped with
  | forgot other =>
    dsimp only at found
    rw [Function.update_apply] at found
    split at found
    · cases found
    · exact .inl found
  | stored place writable asker query value here =>
    rcases cache.put_held query value writable state key entry found with old | ⟨rfl,same,put⟩
    · exact .inl old
    · exact .inr ⟨place,asker,query,value,rfl,here,same,put⟩
  | _ => exact .inl found

end After

section Run
variable (start : Source)

theorem run_concat (moves : List (CacheMove Change Asker Query Key)) (move : CacheMove Change Asker Query Key) :
    (cache.run start (moves ++ [move]) : CacheState Source Asker Query Key Value Text Fault) =
      cache.after (cache.run start moves) move := by
  unfold run
  rw [List.foldl_append]
  rfl

theorem run_now_le (before moves : List (CacheMove Change Asker Query Key)) (known : before <+: moves) :
    (cache.run start before).now ≤ (cache.run start moves).now := by
  induction moves using List.reverseRecOn with
  | nil =>
    cases List.prefix_nil.mp known
    exact Nat.le_refl _
  | append_singleton earlier move ih =>
    rcases List.prefix_concat_iff.mp known with rfl | shorter
    · exact Nat.le_refl _
    · rw [run_concat]
      exact Nat.le_trans (ih shorter) (cache.after_now_le _ move)

/-- A request computed this value after these moves, and has had it in hand since. -/
structure Carried (before : List (CacheMove Change Asker Query Key)) (place : Nat)
    (moves : List (CacheMove Change Asker Query Key)) (asker : Asker) (query : Query) (value : Value) : Prop where
  made : before ++ [.compute place] <+: moves
  missed : (cache.run start before).requests[place]? = some (.missed asker query)
  drew : cache.compute query (cache.run start before).source = .ok value
  inHand : ∀ between, before ++ [.compute place] <+: between → between <+: moves →
    .computed asker query value ∈ (cache.run start between).requests

theorem run_carried (moves : List (CacheMove Change Asker Query Key)) (asker : Asker) (query : Query) (value : Value)
    (inHand : .computed asker query value ∈ (cache.run start moves).requests) :
    ∃ before place, cache.Carried start before place moves asker query value := by
  induction moves using List.reverseRecOn with
  | nil => exact absurd inHand List.not_mem_nil
  | append_singleton earlier move ih =>
    have now := inHand
    rw [run_concat] at inHand
    rcases cache.after_computed _ move asker query value inHand with old | ⟨place,rfl,missed,drew⟩
    · obtain ⟨before,place,carried⟩ := ih old
      refine ⟨before,place,carried.made.trans (List.prefix_append earlier [move]),carried.missed,carried.drew,?_⟩
      intro between made known
      rcases List.prefix_concat_iff.mp known with rfl | shorter
      · exact now
      · exact carried.inHand between made shorter
    · refine ⟨earlier,place,List.prefix_refl _,missed,drew,?_⟩
      intro between made known
      rw [← made.eq_of_length_le known.length_le]
      exact now

theorem run_held (moves : List (CacheMove Change Asker Query Key)) (key : Key) (entry : CacheEntry Text)
    (found : (cache.run start moves : CacheState Source Asker Query Key Value Text Fault).held key = some entry) :
    ∃ storing place asker query value, storing ++ [.store place true] <+: moves ∧
      (cache.run start storing).requests[place]? = some (.computed asker query value) ∧ cache.key query = key ∧
      entry = ⟨cache.write value,(cache.run start storing).now + cache.lifetime⟩ := by
  induction moves using List.reverseRecOn with
  | nil => cases found
  | append_singleton earlier move ih =>
    rw [run_concat] at found
    rcases cache.after_held _ move key entry found with old | ⟨place,asker,query,value,rfl,here,same,put⟩
    · obtain ⟨storing,place,asker,query,value,stored,here,same,put⟩ := ih old
      exact ⟨storing,place,asker,query,value,stored.trans (List.prefix_append earlier [move]),here,same,put⟩
    · exact ⟨earlier,place,asker,query,value,List.prefix_refl _,here,same,put⟩

/-- How a move that follows these moves answers a request: from the source, with the value that the
request computed, or with one stored less than a lifetime ago. -/
inductive Given (moves : List (CacheMove Change Asker Query Key)) :
    CacheMove Change Asker Query Key → CacheAnswer Asker Query Value Fault → Prop
  | drawn (place : Nat) (request : CacheRequest Asker Query Value)
      (here : (cache.run start moves).requests[place]? = some request) :
      Given moves (.compute place) ⟨request.asker,request.query,
        cache.compute request.query (cache.run start moves).source,(cache.run start moves).now⟩
  | carried (place : Nat) (writable : Bool) (asker : Asker) (query : Query) (value : Value)
      (here : (cache.run start moves).requests[place]? = some (.computed asker query value)) :
      Given moves (.store place writable) ⟨asker,query,.ok value,(cache.run start moves).now⟩
  | held (asker other : Asker) (query : Query) (value : Value) (storing : List (CacheMove Change Asker Query Key))
      (place : Nat) (stored : storing ++ [.store place true] <+: moves)
      (here : (cache.run start storing).requests[place]? = some (.computed other query value))
      (live : (cache.run start moves).now < (cache.run start storing).now + cache.lifetime) :
      Given moves (.ask asker query true) ⟨asker,query,.ok value,(cache.run start moves).now⟩

theorem run_given (faithful : cache.Faithful) (moves : List (CacheMove Change Asker Query Key))
    (move : CacheMove Change Asker Query Key) : (cache.run start (moves ++ [move])).answers = (cache.run start moves).answers ∨
      ∃ answer, (cache.run start (moves ++ [move])).answers = (cache.run start moves).answers ++ [answer] ∧
        cache.Given start moves move answer := by
  rw [run_concat]
  have stepped := cache.after_stepped (cache.run start moves) move
  generalize cache.after (cache.run start moves) move = later at stepped ⊢
  cases stepped with
  | hit asker query entry found live =>
    obtain ⟨storing,place,other,about,value,stored,here,same,rfl⟩ := cache.run_held start moves _ entry found
    cases faithful.apart same
    obtain ⟨before,made,carried⟩ := cache.run_carried start storing other query value (List.mem_of_getElem? here)
    refine .inr ⟨⟨asker,query,.ok value,_⟩,?_,.held asker other query value storing place stored here live⟩
    unfold CacheState.answer
    rw [faithful.back query _ value carried.drew]
  | answered place request here => exact .inr ⟨_,rfl,.drawn place request here⟩
  | stored place writable asker query value here =>
    refine .inr ⟨_,?_,.carried place writable asker query value here⟩
    unfold CacheState.answer CacheState.drop
    dsimp only
    rw [put_answers,put_now]
  | _ => exact .inl rfl

theorem Given.moment {moves : List (CacheMove Change Asker Query Key)} {move : CacheMove Change Asker Query Key}
    {answer : CacheAnswer Asker Query Value Fault} (given : cache.Given start moves move answer) :
    answer.moment = (cache.run start moves).now := by
  cases given <;> rfl

theorem run_past (faithful : cache.Faithful) (moves : List (CacheMove Change Asker Query Key))
    (answer : CacheAnswer Asker Query Value Fault) (member : answer ∈ (cache.run start moves).answers) :
    answer.moment ≤ (cache.run start moves).now := by
  induction moves using List.reverseRecOn with
  | nil => exact absurd member List.not_mem_nil
  | append_singleton earlier move ih =>
    have later := cache.run_now_le start earlier (earlier ++ [move]) (List.prefix_append earlier [move])
    rcases cache.run_given start faithful earlier move with same | ⟨last,grown,given⟩
    · rw [same] at member
      exact Nat.le_trans (ih member) later
    rw [grown] at member
    rcases List.mem_append.mp member with old | new
    · exact Nat.le_trans (ih old) later
    · rw [List.mem_singleton.mp new,given.moment]
      exact later

end Run

/-- The source has been as it is since the horizon, and what is held since before expires on time. -/
structure Settled (source : Source) (horizon : Nat) (state : CacheState Source Asker Query Key Value Text Fault) : Prop where
  still : state.source = source
  computed : ∀ asker query value, .computed asker query value ∈ state.requests → cache.compute query source = .ok value
  held : ∀ key entry, state.held key = some entry → entry.expires ≤ horizon ∨
    ∃ query value, cache.key query = key ∧ entry.text = cache.write value ∧ cache.compute query source = .ok value
  answers : ∀ answer ∈ state.answers, answer.moment ≤ horizon ∨ answer.result = cache.compute answer.query source

section Settle
variable {cache} {source : Source} {horizon : Nat} {state : CacheState Source Asker Query Key Value Text Fault}

namespace Settled

omit [DecidableEq Key] in
theorem answer (settled : cache.Settled source horizon state) (asker : Asker) (query : Query)
    (result : Except Fault Value) (right : state.now ≤ horizon ∨ result = cache.compute query source) :
    cache.Settled source horizon (state.answer asker query result) where
  still := settled.still
  computed := settled.computed
  held := settled.held
  answers other member := by
    rcases List.mem_append.mp member with old | new
    · exact settled.answers other old
    · rw [List.mem_singleton.mp new]
      exact right

omit [DecidableEq Key] in
theorem requests (settled : cache.Settled source horizon state) (requests : List (CacheRequest Asker Query Value))
    (computed : ∀ asker query value, .computed asker query value ∈ requests → cache.compute query source = .ok value) :
    cache.Settled source horizon { state with requests } :=
  ⟨settled.still,computed,settled.held,settled.answers⟩

omit [DecidableEq Key] in
theorem drop (settled : cache.Settled source horizon state) (place : Nat) :
    cache.Settled source horizon (state.drop place) :=
  settled.requests _ fun asker query value member => settled.computed asker query value (List.mem_of_mem_eraseIdx member)

omit [DecidableEq Key] in
theorem asked (settled : cache.Settled source horizon state) (request : CacheRequest Asker Query Value)
    (empty : ∀ asker query value, request ≠ .computed asker query value) :
    cache.Settled source horizon { state with requests := state.requests ++ [request] } :=
  settled.requests _ fun asker query value member => by
    rcases List.mem_append.mp member with old | new
    · exact settled.computed asker query value old
    · exact absurd (List.mem_singleton.mp new).symm (empty asker query value)

theorem after (settled : cache.Settled source horizon state) (faithful : cache.Faithful)
    (move : CacheMove Change Asker Query Key) (still : move.changed = none) : cache.Settled source horizon (cache.after state move) := by
  have stepped := cache.after_stepped state move
  generalize cache.after state move = later at stepped ⊢
  cases stepped with
  | idle => exact settled
  | changed change => cases still
  | waited ticks => exact ⟨settled.still,settled.computed,settled.held,settled.answers⟩
  | forgot key =>
    refine ⟨settled.still,settled.computed,fun other entry found => settled.held other entry ?_,settled.answers⟩
    dsimp only at found
    rw [Function.update_apply] at found
    split at found
    · cases found
    · exact found
  | hit asker query entry found live =>
    apply settled.answer
    rcases settled.held _ entry found with early | ⟨other,value,same,text,drew⟩
    · exact .inl (Nat.le_of_lt (Nat.lt_of_lt_of_le live early))
    · rw [text,faithful.back other source value drew,← faithful.apart same,drew]
      exact .inr rfl
  | asked asker query readable request mine =>
    exact settled.asked request fun _ _ _ same => by rw [same] at mine; simp at mine
  | answered place request here =>
    exact (settled.drop place).answer request.asker request.query _ (.inr (by rw [settled.still]))
  | computed place asker query value here result =>
    refine settled.requests _ fun other about drawn member => ?_
    rcases List.mem_or_eq_of_mem_set member with old | new
    · exact settled.computed other about drawn old
    · cases new
      rw [← settled.still,result]
  | stored place writable asker query value here =>
    have drew := settled.computed asker query value (List.mem_of_getElem? here)
    have stored : cache.Settled source horizon (cache.put query value writable state) := by
      unfold CacheAside.put
      split
      · refine ⟨settled.still,settled.computed,fun key entry found => ?_,settled.answers⟩
        dsimp only at found
        rw [Function.update_apply] at found
        split at found
        · rename_i same
          cases found
          exact .inr ⟨query,value,same.symm,rfl,drew⟩
        · exact settled.held key entry found
      · exact settled
    exact (stored.drop place).answer asker query _ (.inr drew.symm)
  | dropped place => exact settled.drop place

theorem afterAll (settled : cache.Settled source horizon state) (faithful : cache.Faithful)
    (moves : List (CacheMove Change Asker Query Key)) (still : ∀ move ∈ moves, move.changed = none) :
    cache.Settled source horizon (moves.foldl cache.after state) := by
  induction moves generalizing state with
  | nil => exact settled
  | cons move rest ih =>
    exact ih (settled.after faithful move (still move List.mem_cons_self)) fun other member =>
      still other (List.mem_cons_of_mem move member)

end Settled
end Settle

/-- After the last change of the source, and once no value drawn before it is left to be stored,
answers are as the source gives them when a lifetime has passed. -/
theorem run_settled (faithful : cache.Faithful) (start : Source) (early late : List (CacheMove Change Asker Query Key))
    (current : ∀ asker query value, .computed asker query value ∈ (cache.run start early).requests →
      cache.compute query (cache.run start early).source = .ok value)
    (still : ∀ move ∈ late, move.changed = none) :
    cache.Settled (cache.run start early).source ((cache.run start early).now + cache.lifetime)
      (cache.run start (early ++ late)) := by
  have settled : cache.Settled (cache.run start early).source ((cache.run start early).now + cache.lifetime)
      (cache.run start early) := by
    refine ⟨rfl,current,fun key entry found => ?_,fun answer member => .inl ?_⟩
    · obtain ⟨storing,place,_,_,_,stored,_,_,rfl⟩ := cache.run_held start early key entry found
      have past := cache.run_now_le start storing early ((List.prefix_append storing _).trans stored)
      exact .inl (Nat.add_le_add_right past cache.lifetime)
    · exact Nat.le_add_right_of_le (cache.run_past start faithful early answer member)
  have after := settled.afterAll faithful late still
  unfold run at after ⊢
  rw [List.foldl_append]
  exact after

section Entitled
variable (entitled : Asker → Query → Prop)

/-- Whoever waits for an answer, or has one, may have it. -/
structure Entitled (state : CacheState Source Asker Query Key Value Text Fault) : Prop where
  requests : ∀ request ∈ state.requests, entitled request.asker request.query
  answers : ∀ answer ∈ state.answers, entitled answer.asker answer.query

variable {entitled} {state : CacheState Source Asker Query Key Value Text Fault}

omit [DecidableEq Key] in
theorem Entitled.answer (only : Entitled entitled state) (asker : Asker) (query : Query) (result : Except Fault Value)
    (may : entitled asker query) : Entitled entitled (state.answer asker query result) where
  requests := only.requests
  answers other member := by
    rcases List.mem_append.mp member with old | new
    · exact only.answers other old
    · rw [List.mem_singleton.mp new]
      exact may

omit [DecidableEq Key] in
theorem Entitled.drop (only : Entitled entitled state) (place : Nat) : Entitled entitled (state.drop place) :=
  ⟨fun request member => only.requests request (List.mem_of_mem_eraseIdx member),only.answers⟩

omit [DecidableEq Key] in
theorem Entitled.asked (only : Entitled entitled state) (request : CacheRequest Asker Query Value)
    (may : entitled request.asker request.query) :
    Entitled entitled { state with requests := state.requests ++ [request] } where
  requests other member := by
    rcases List.mem_append.mp member with old | new
    · exact only.requests other old
    · rw [List.mem_singleton.mp new]
      exact may
  answers := only.answers

theorem Entitled.after (only : Entitled entitled state) (move : CacheMove Change Asker Query Key)
    (may : ∀ asker query readable, move = .ask asker query readable → entitled asker query) :
    Entitled entitled (cache.after state move) := by
  have stepped := cache.after_stepped state move
  generalize cache.after state move = later at stepped ⊢
  cases stepped with
  | idle => exact only
  | changed change => exact ⟨only.requests,only.answers⟩
  | waited ticks => exact ⟨only.requests,only.answers⟩
  | forgot key => exact ⟨only.requests,only.answers⟩
  | hit asker query entry found live => exact only.answer asker query _ (may asker query true rfl)
  | asked asker query readable request mine =>
    refine only.asked request ?_
    rcases mine with rfl | rfl
    · exact may asker query readable rfl
    · exact may asker query readable rfl
  | answered place request here => exact (only.drop place).answer _ _ _ (only.requests request (List.mem_of_getElem? here))
  | computed place asker query value here result =>
    refine ⟨fun other member => ?_,only.answers⟩
    rcases List.mem_or_eq_of_mem_set member with old | rfl
    · exact only.requests other old
    · exact only.requests (.missed asker query) (List.mem_of_getElem? here)
  | stored place writable asker query value here =>
    have stored : Entitled entitled (cache.put query value writable state) := by
      unfold CacheAside.put
      split
      · exact ⟨only.requests,only.answers⟩
      · exact only
    exact (stored.drop place).answer asker query _ (only.requests _ (List.mem_of_getElem? here))
  | dropped place => exact only.drop place

theorem run_entitled (start : Source) (moves : List (CacheMove Change Asker Query Key))
    (may : ∀ asker query readable, .ask asker query readable ∈ moves → entitled asker query) :
    Entitled entitled (cache.run start moves) := by
  induction moves using List.reverseRecOn with
  | nil => exact ⟨fun _ none => absurd none List.not_mem_nil,fun _ none => absurd none List.not_mem_nil⟩
  | append_singleton earlier move ih =>
    have stepped := (ih fun asker query readable member => may asker query readable (List.mem_append_left _ member)).after
      cache move fun asker query readable same => may asker query readable (by rw [same]; simp)
    unfold run at stepped ⊢
    rw [List.foldl_append]
    exact stepped

end Entitled
end CacheAside
end ArcadiaRecommendation
