import ArcadiaRecommendation.ReadModel.History
import Mathlib.Algebra.BigOperators.Group.Finset.Basic
import Mathlib.Algebra.BigOperators.Group.Finset.Piecewise

/-! A quantity of a preference that every folded action raises by a fixed amount is,
after a run, the sum over the games of what the events handled so far are worth. -/
namespace ArcadiaRecommendation
namespace Event

def signal (userId : UserId) (gameId : GameId) : Event → Option SignalKind
  | purchaseCompleted _ recipientId bought _ => if recipientId = userId ∧ bought = gameId then some .purchase else none
  | reviewPosted _ authorId reviewed liked _ =>
    if authorId = userId ∧ reviewed = gameId then some (reviewKind liked) else none
  | _ => none

private theorem signal_other {userId : UserId} {gameId : GameId} {event : Event} (apart : gameId ≠ event.gameId) :
    event.signal userId gameId = none := by
  cases event with
  | gamePublished => rfl
  | gameWithdrawn => rfl
  | purchaseCompleted eventId recipientId bought => exact if_neg fun both => apart both.2.symm
  | reviewPosted eventId authorId reviewed => exact if_neg fun both => apart both.2.symm

private theorem signal_publishes {userId : UserId} {gameId : GameId} {event : Event}
    (publication : event.publishes gameId) : event.signal userId gameId = none := by
  cases event with
  | gamePublished => rfl
  | gameWithdrawn => rfl
  | purchaseCompleted => cases publication
  | reviewPosted => cases publication

def reviews (userId : UserId) (gameId : GameId) : Event → Bool
  | reviewPosted _ authorId reviewed _ _ => authorId = userId ∧ reviewed = gameId
  | _ => false

theorem reviews_gameId {userId : UserId} {gameId : GameId} {event : Event}
    (review : event.reviews userId gameId = true) : gameId = event.gameId := by
  cases event with
  | gamePublished => cases review
  | gameWithdrawn => cases review
  | purchaseCompleted => cases review
  | reviewPosted => exact (of_decide_eq_true review).2.symm

/-- Nothing the user did before a game was known is lost. -/
def Kept (userId : UserId) (gameId : GameId) (events : List Event) : Prop :=
  (early gameId events).countP (buys userId gameId) ≤ 1 ∧ (early gameId events).countP (reviews userId gameId) = 0

variable {A : Type} [AddCommMonoid A] (amount : SignalKind → A) (userId : UserId) (gameId : GameId)

/-- What the events are worth to a user about a game: every action since its first
publication, and one purchase for all those before it. -/
def worth (events : List Event) : A :=
  if published gameId events then
    (if (early gameId events).any (buys userId gameId) then amount .purchase else 0) +
      (((late gameId events).filterMap (signal userId gameId)).map amount).sum
  else 0

def gain (events : List Event) (event : Event) : A :=
  if published gameId events then ((event.signal userId gameId).map amount).getD 0
  else if event.publishes gameId && events.any (buys userId gameId) then amount .purchase
  else 0

private theorem worth_append (events : List Event) (event : Event) :
    worth amount userId gameId (events ++ [event]) =
      worth amount userId gameId events + gain amount userId gameId events event := by
  unfold worth gain
  cases known : published gameId events with
  | true =>
    have still : published gameId (events ++ [event]) = true := by rw [published_append,known,Bool.true_or]
    rw [still,early_append gameId events event still,late_append gameId events event still]
    simp only [if_true,List.filterMap_append,List.map_append,List.sum_append,add_assoc]
    cases given : event.signal userId gameId with
    | none => simp [given]
    | some kind => simp [given]
  | false =>
    cases publication : event.publishes gameId with
    | true =>
      have first : published gameId (events ++ [event]) = true := by rw [published_append,publication,Bool.or_true]
      rw [first,early_append gameId events event first,late_append gameId events event first,
        late_unpublished gameId events known,early_unpublished gameId events known]
      simp [signal_publishes publication]
    | false => simp [known,publication]

private theorem filterMap_unreviewed (events : List Event) (unreviewed : events.countP (reviews userId gameId) = 0) :
    events.filterMap (signal userId gameId) = List.replicate (events.countP (buys userId gameId)) .purchase := by
  induction events with
  | nil => rfl
  | cons event rest ih =>
    rw [List.countP_cons] at unreviewed
    have later := ih (by omega)
    rw [List.filterMap_cons,List.countP_cons,later]
    cases event with
    | gamePublished => rfl
    | gameWithdrawn => rfl
    | purchaseCompleted eventId recipientId bought =>
      by_cases same : recipientId = userId ∧ bought = gameId
      · simp [signal,same,List.replicate_succ]
      · simp [signal,same]
    | reviewPosted eventId authorId reviewed =>
      by_cases same : authorId = userId ∧ reviewed = gameId
      · simp [reviews,same] at unreviewed
      · simp [signal,same]

theorem worth_kept (events : List Event) (kept : Kept userId gameId events) :
    worth amount userId gameId events =
      if published gameId events then ((events.filterMap (signal userId gameId)).map amount).sum else 0 := by
  have all : (events.filterMap (signal userId gameId)).map amount =
      ((early gameId events).filterMap (signal userId gameId)).map amount ++
        ((late gameId events).filterMap (signal userId gameId)).map amount := by
    rw [← List.map_append,← List.filterMap_append,early_late]
  rw [worth,all,List.sum_append,filterMap_unreviewed userId gameId _ kept.2]
  have once := kept.1
  cases bought : (early gameId events).any (buys userId gameId) with
  | true =>
    have some_bought : 0 < (early gameId events).countP (buys userId gameId) := by
      rw [List.countP_pos_iff]
      exact List.any_eq_true.mp bought
    have single : (early gameId events).countP (buys userId gameId) = 1 := by omega
    simp [single]
  | false =>
    have none_bought : (early gameId events).countP (buys userId gameId) = 0 := by
      rw [List.countP_eq_zero]
      exact List.any_eq_false.mp bought
    simp [none_bought]

private theorem gain_other (events : List Event) (event : Event) (apart : gameId ≠ event.gameId) :
    gain amount userId gameId events event = 0 := by
  have silent : event.publishes gameId = false := by
    apply Bool.eq_false_of_not_eq_true
    exact fun publication => apart (publishes_gameId publication)
  simp [gain,signal_other apart,silent]

private theorem sum_worth_append (amount : GameId → SignalKind → A) (games : Finset GameId) (events : List Event)
    (event : Event) (member : event.gameId ∈ games) :
    ∑ gameId ∈ games, worth (amount gameId) userId gameId (events ++ [event]) =
      ∑ gameId ∈ games, worth (amount gameId) userId gameId events +
        gain (amount event.gameId) userId event.gameId events event := by
  have single : ∑ gameId ∈ games, gain (amount gameId) userId gameId events event =
      gain (amount event.gameId) userId event.gameId events event := by
    apply Finset.sum_eq_single_of_mem event.gameId member
    intro gameId _ apart
    exact gain_other (amount gameId) userId gameId events event apart
  rw [← single,← Finset.sum_add_distrib]
  exact Finset.sum_congr rfl fun gameId _ => worth_append (amount gameId) userId gameId events event

def Embeds {R : Type} [Scalar R] [Casing] (gameId : GameId) (embedding : Embedding R) : Event → Prop
  | gamePublished _ published _ _ genres tags _ _ => published = gameId ∧ embed genres tags = .ok embedding
  | _ => False

end Event

/-- A quantity of a preference, and what each kind of action on a game adds to it. -/
structure Measure (R A : Type) [Scalar R] [AddCommMonoid A] where
  value : UserPreference R → A
  amount : GameId → SignalKind → A
  blank : ∀ userId, value (.blank userId) = 0
  sparse : ∀ preference, value preference.sparse = value preference

namespace Measure
variable {R A : Type} [Scalar R] [Casing] [AddCommMonoid A]

def Adds (measure : Measure R A) (gameId : GameId) (embedding : Embedding R) : Prop :=
  ∀ (game : GameProfile R) (preference after : UserPreference R) (kind : SignalKind) (at_ : DateTime),
    game.gameId = gameId → game.embedding = embedding → preference.observe game kind at_ = .ok after →
      measure.value after = measure.value preference + measure.amount gameId kind

end Measure

namespace ReadModel
variable {R A : Type} [Scalar R] [Casing] [AddCommMonoid A] {backfillLimit : Nat} {before after : ReadModel R}

private theorem described_embeds (existing : Option (GameProfile R)) (eventId : UUID) (gameId : GameId)
    (developerId : UserId) (title : String) (genres tags : List String) (publishedAt : Option DateTime)
    (description : String) (game : GameProfile R)
    (described : HandleGamePublished.describe existing gameId developerId title genres tags publishedAt
      description = .ok game) :
    (Event.gamePublished eventId gameId developerId title genres tags publishedAt description).Embeds gameId
      game.embedding := by
  obtain ⟨_,_,_,_,_,labels,_⟩ :=
    HandleGamePublished.describe_ok existing gameId developerId title genres tags publishedAt description game described
  exact ⟨rfl,labels⟩

theorem Effect.embeds {event : Event} (effect : Effect backfillLimit before after event)
    (publication : event.publishes event.gameId = true) (game : GameProfile R)
    (found : after.games event.gameId = some game) : event.Embeds event.gameId game.embedding := by
  cases effect with
  | published eventId gameId developerId title genres tags publishedAt description described users at_ ok owed games
      observed recorded =>
    simp only [Event.gameId,games,Function.update_self,Option.some.injEq] at found
    subst found
    exact described_embeds _ eventId gameId developerId title genres tags publishedAt description _ ok
  | withdrawnUnknown => cases publication
  | withdrawn => cases publication
  | purchasedUnknown => cases publication
  | purchased => cases publication
  | reviewedUnknown => cases publication
  | reviewed => cases publication

private theorem changes_embedding (event : Event) (game : GameProfile R) :
    (event.changes game).embedding = game.embedding := by
  cases event <;> rfl

theorem run_embedding {events : List Event} {model : ReadModel R} (run : empty.Run backfillLimit events model)
    (gameId : GameId) (game : GameProfile R) (found : model.games gameId = some game) :
    ∃ event ∈ events, event.Embeds gameId game.embedding := by
  induction run generalizing game with
  | start => cases found
  | swept events before after earlier step ih =>
    obtain ⟨current,present,same⟩ := step.game found
    obtain ⟨event,member,embeds⟩ := ih current present
    have embedding : game.embedding = current.embedding := congrArg (fun sparse => sparse.embedding) same
    exact ⟨event,member,embedding ▸ embeds⟩
  | handled events event before after earlier step ih =>
    by_cases publication : gameId = event.gameId ∧ event.publishes event.gameId = true
    · obtain ⟨own,publication⟩ := publication
      subst own
      exact ⟨event,List.mem_append_right events List.mem_cons_self,step.effect.embeds publication game found⟩
    · have old : ∃ current, before.games gameId = some current ∧ game.embedding = current.embedding := by
        by_cases own : gameId = event.gameId
        · subst own
          have silent := Bool.eq_false_of_not_eq_true fun published => publication ⟨rfl,published⟩
          rw [step.effect.changed silent,Function.update_self] at found
          obtain ⟨current,present,changed⟩ := Option.map_eq_some_iff.mp found
          exact ⟨current,present,by rw [← changed,changes_embedding]⟩
        · rw [step.effect.other_games own] at found
          exact ⟨game,found,rfl⟩
      obtain ⟨current,present,embedding⟩ := old
      obtain ⟨source,member,embeds⟩ := ih current present
      exact ⟨source,List.mem_append_left [event] member,embedding ▸ embeds⟩

/-- Every vector the events give a game is added by the amounts of the measure. -/
def Valued (measure : Measure R A) (events : List Event) : Prop :=
  ∀ event ∈ events, ∀ gameId embedding, event.Embeds gameId embedding → measure.Adds gameId embedding

theorem observed_value (measure : Measure R A) {users : List UserId} {game : GameProfile R} {gameId : GameId}
    {kind : SignalKind} {at_ : DateTime} (same : game.gameId = gameId) (adds : measure.Adds gameId game.embedding)
    (observed : before.Observed after users game kind at_) (userId : UserId) :
    measure.value (after.preferenceOf userId) = measure.value (before.preferenceOf userId) +
      if userId ∈ users then measure.amount gameId kind else 0 := by
  split
  · rename_i member
    exact adds game _ _ kind at_ same rfl (observed.credited member)
  · rename_i absent
    rw [preferenceOf_congr (observed.others absent),add_zero]

theorem kept_value (measure : Measure R A) (preferences : after.preferences = before.preferences) (userId : UserId) :
    measure.value (after.preferenceOf userId) = measure.value (before.preferenceOf userId) + 0 := by
  rw [preferenceOf_congr (congrFun preferences userId),add_zero]

theorem handled_value (measure : Measure R A) {events : List Event} {event : Event}
    (earlier : empty.Run backfillLimit events before) (step : Handled backfillLimit before after event)
    (bounded : Event.Bounded backfillLimit events) (valued : Valued measure (events ++ [event])) (userId : UserId) :
    measure.value (after.preferenceOf userId) = measure.value (before.preferenceOf userId) +
      Event.gain (measure.amount event.gameId) userId event.gameId events event := by
  have run := Run.handled events event before after earlier step
  have known (gameId : GameId) (game : GameProfile R) (found : before.games gameId = some game) :
      Event.published gameId events = true := by
    apply Bool.eq_true_of_not_eq_false
    intro unpublished
    rw [(run_known earlier gameId).mpr unpublished] at found
    cases found
  have adds (gameId : GameId) (game : GameProfile R) (found : after.games gameId = some game) :
      measure.Adds gameId game.embedding := by
    obtain ⟨source,member,embeds⟩ := run_embedding run gameId game found
    exact valued source member gameId game.embedding embeds
  cases step.effect with
  | published eventId gameId developerId title genres tags publishedAt description game users at_ described owed games
      observed recorded =>
    have new : after.games gameId = some game := by rw [games,Function.update_self]
    rw [observed_value measure (after.gamesKeyed gameId game new) (adds gameId game new) observed userId]
    have credited := owed_waiting owed bounded (fun owner => run_rows earlier bounded owner gameId) userId
    simp only [Event.gain,Event.gameId,Event.signal,Event.publishes_gamePublished,decide_true,Bool.true_and,credited]
    cases Event.published gameId events with
    | true => simp
    | false => simp
  | withdrawnUnknown eventId gameId unknown games preferences ownership =>
    rw [kept_value measure preferences]
    simp [Event.gain,Event.signal]
  | withdrawn eventId gameId game found games preferences ownership =>
    rw [kept_value measure preferences]
    simp [Event.gain,Event.signal]
  | purchasedUnknown eventId owner gameId occurredAt unknown games preferences recorded =>
    rw [kept_value measure preferences]
    simp [Event.gain,Event.gameId,(run_known earlier gameId).mp unknown]
  | purchased eventId owner gameId occurredAt game at_ found games observed recorded =>
    have bought : after.games gameId = some game.bought := by rw [games,Function.update_self]
    rw [observed_value measure (before.gamesKeyed gameId game found) (adds gameId game.bought bought) observed userId]
    simp only [Event.gain,Event.gameId,known gameId game found,if_true,Event.signal,List.mem_singleton]
    by_cases same : userId = owner
    · simp [same]
    · have apart : owner ≠ userId := fun equal => same equal.symm
      simp [same,apart]
  | reviewedUnknown eventId author gameId liked occurredAt unknown games preferences ownership =>
    rw [kept_value measure preferences]
    simp [Event.gain,Event.gameId,(run_known earlier gameId).mp unknown]
  | reviewed eventId author gameId liked occurredAt game at_ found games observed ownership =>
    have same_game : after.games gameId = some game := by rw [games,found]
    rw [observed_value measure (before.gamesKeyed gameId game found) (adds gameId game same_game) observed userId]
    simp only [Event.gain,Event.gameId,known gameId game found,if_true,Event.signal,List.mem_singleton]
    by_cases same : userId = author
    · simp [same]
    · have apart : author ≠ userId := fun equal => same equal.symm
      simp [same,apart]

theorem run_value (measure : Measure R A) {events : List Event} {model : ReadModel R}
    (run : empty.Run backfillLimit events model) (bounded : Event.Bounded backfillLimit events)
    (valued : Valued measure events) (games : Finset GameId) (all : ∀ event ∈ events, event.gameId ∈ games)
    (userId : UserId) : measure.value (model.preferenceOf userId) =
      ∑ gameId ∈ games, Event.worth (measure.amount gameId) userId gameId events := by
  induction run with
  | start =>
    have nothing : ∑ gameId ∈ games, Event.worth (measure.amount gameId) userId gameId [] = 0 :=
      Finset.sum_eq_zero fun gameId _ => rfl
    rw [nothing]
    exact measure.blank userId
  | swept events before after earlier step ih =>
    rw [← measure.sparse,step.preference userId,measure.sparse]
    exact ih bounded valued all
  | handled events event before after earlier step ih =>
    have inside : ∀ other ∈ events, other ∈ events ++ [event] := fun other => List.mem_append_left [event]
    rw [Event.sum_worth_append userId measure.amount games events event
      (all event (List.mem_append_right events List.mem_cons_self))]
    rw [← ih bounded.earlier (fun other member => valued other (inside other member))
      (fun other member => all other (inside other member))]
    exact handled_value measure earlier step bounded.earlier valued userId

end ReadModel
end ArcadiaRecommendation
