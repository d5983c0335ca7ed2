import ArcadiaRecommendation.Memory.Service
import ArcadiaRecommendation.ReadModel.Credit
import Mathlib.Algebra.Order.BigOperators.Group.Finset
import Mathlib.Algebra.Ring.Int.Defs
import Mathlib.Algebra.Order.Ring.Int

/-! The signal counter of a user counts what the user did about known games, except
that of all they did before a game was known at most one purchase is kept. -/
namespace ArcadiaRecommendation
namespace Event

def signals (userId : UserId) : Event → Bool
  | purchaseCompleted _ recipientId _ _ => recipientId = userId
  | reviewPosted _ authorId _ _ _ => authorId = userId
  | _ => false

variable (userId : UserId) (gameId : GameId)

private theorem isSome_signal (event : Event) :
    (event.signal userId gameId).isSome = (event.signals userId && decide (event.gameId = gameId)) := by
  cases event with
  | gamePublished => rfl
  | gameWithdrawn => rfl
  | purchaseCompleted eventId recipientId bought =>
    simp only [signal,signals,Event.gameId,apply_ite Option.isSome]
    by_cases same : recipientId = userId
    · simp [same]
      rfl
    · simp [same]
  | reviewPosted eventId authorId reviewed =>
    simp only [signal,signals,Event.gameId,apply_ite Option.isSome]
    by_cases same : authorId = userId
    · simp [same]
      rfl
    · simp [same]

private theorem countP_signal (events : List Event) : events.countP (fun event => (event.signal userId gameId).isSome) =
    events.countP (buys userId gameId) + events.countP (reviews userId gameId) := by
  induction events with
  | nil => rfl
  | cons event rest ih =>
    rw [List.countP_cons,List.countP_cons,List.countP_cons,ih]
    have one : (if (event.signal userId gameId).isSome then 1 else 0) =
        (if event.buys userId gameId then 1 else 0) + if event.reviews userId gameId then 1 else 0 := by
      cases event with
      | gamePublished => rfl
      | gameWithdrawn => rfl
      | purchaseCompleted eventId recipientId bought =>
        by_cases same : recipientId = userId ∧ bought = gameId
        · simp [signal,buys,reviews,same]
        · simp [signal,buys,reviews,same]
      | reviewPosted eventId authorId reviewed =>
        by_cases same : authorId = userId ∧ reviewed = gameId
        · simp [signal,buys,reviews,same]
        · simp [signal,buys,reviews,same]
    omega

private theorem countP_known (known : GameId → Bool) (events : List Event) (games : Finset GameId)
    (all : ∀ event ∈ events, event.gameId ∈ games) :
    (events.countP (fun event => event.signals userId && known event.gameId) : ℤ) =
      ∑ gameId ∈ games, if known gameId then
        (events.countP fun event => (event.signal userId gameId).isSome : ℤ) else 0 := by
  induction events with
  | nil => simp
  | cons event rest ih =>
    have later := ih fun other member => all other (List.mem_cons_of_mem event member)
    have one : ∑ gameId ∈ games, (if known gameId && (event.signal userId gameId).isSome then (1 : ℤ) else 0) =
        if event.signals userId && known event.gameId then 1 else 0 := by
      rw [Finset.sum_eq_single_of_mem event.gameId (all event List.mem_cons_self)]
      · simp [isSome_signal,Bool.and_comm]
      · intro other _ apart
        simp [isSome_signal,apart.symm]
    rw [List.countP_cons,Nat.cast_add,later]
    rw [show ((if (event.signals userId && known event.gameId) = true then 1 else 0 : ℕ) : ℤ) =
      if event.signals userId && known event.gameId then 1 else 0 by split <;> rfl]
    rw [← one,← Finset.sum_add_distrib]
    apply Finset.sum_congr rfl
    intro gameId _
    rw [List.countP_cons]
    cases known gameId with
    | true => cases (event.signal userId gameId).isSome <;> simp
    | false => simp

private theorem worth_one (events : List Event) : worth (fun _ => (1 : ℤ)) userId gameId events =
    if published gameId events then
      (if (early gameId events).any (buys userId gameId) then 1 else 0) +
        ((late gameId events).countP fun event => (event.signal userId gameId).isSome : ℤ)
    else 0 := by
  unfold worth
  rw [List.map_const',List.sum_replicate,List.length_filterMap_eq_countP,nsmul_one]

private theorem worth_reported (events : List Event) (known : published gameId events = true) :
    worth (fun _ => (1 : ℤ)) userId gameId events ≤
        (events.countP fun event => (event.signal userId gameId).isSome : ℤ) ∧
      (worth (fun _ => (1 : ℤ)) userId gameId events =
        (events.countP fun event => (event.signal userId gameId).isSome : ℤ) ↔ Kept userId gameId events) := by
  have split : events.countP (fun event => (event.signal userId gameId).isSome) =
      (early gameId events).countP (buys userId gameId) + (early gameId events).countP (reviews userId gameId) +
        (late gameId events).countP fun event => (event.signal userId gameId).isSome := by
    rw [← countP_signal,← List.countP_append,early_late]
  rw [worth_one,if_pos known,split]
  unfold Kept
  cases bought : (early gameId events).any (buys userId gameId) with
  | true =>
    have some_bought : 0 < (early gameId events).countP (buys userId gameId) := by
      rw [List.countP_pos_iff]
      exact List.any_eq_true.mp bought
    simp only [if_true]
    omega
  | false =>
    have none_bought : (early gameId events).countP (buys userId gameId) = 0 := by
      rw [List.countP_eq_zero]
      intro event member purchase
      rw [List.any_eq_false] at bought
      exact bought event member purchase
    simp only [Bool.false_eq_true,if_false]
    omega

private theorem sum_worth_eq_iff (events : List Event) (games : Finset GameId)
    (all : ∀ event ∈ events, event.gameId ∈ games) : ∑ gameId ∈ games, worth (fun _ => (1 : ℤ)) userId gameId events =
        (events.countP (fun event => event.signals userId && published event.gameId events) : ℤ) ↔
      ∀ gameId, published gameId events = true → Kept userId gameId events := by
  have unknown (gameId : GameId) (unpublished : ¬published gameId events = true) :
      worth (fun _ => (1 : ℤ)) userId gameId events = 0 := by
    unfold worth
    rw [if_neg unpublished]
  rw [countP_known userId (fun gameId => published gameId events) events games all]
  rw [Finset.sum_eq_sum_iff_of_le]
  · constructor
    · intro equal gameId known
      obtain ⟨event,member,publication⟩ := List.any_eq_true.mp known
      have inside := equal gameId (publishes_gameId publication ▸ all event member)
      rw [if_pos known] at inside
      exact (worth_reported userId gameId events known).2.mp inside
    · intro kept gameId _
      split
      · rename_i known
        exact (worth_reported userId gameId events known).2.mpr (kept gameId known)
      · rename_i unpublished
        exact unknown gameId unpublished
  · intro gameId _
    split
    · rename_i known
      exact (worth_reported userId gameId events known).1
    · rename_i unpublished
      exact (unknown gameId unpublished).le

end Event

namespace Memory
variable {R : Type} [Scalar R] [Casing]

def signalMeasure : Measure R ℤ where
  value preference := preference.signalCount
  amount _ _ := 1
  blank _ := rfl
  sparse _ := rfl

theorem signalMeasure_adds (gameId : GameId) (embedding : Embedding R) :
    (signalMeasure : Measure R ℤ).Adds gameId embedding := by
  intro game preference after kind at_ _ _ observed
  obtain ⟨tasteDense,_,columns⟩ := UserPreference.observe_ok _ _ _ _ _ observed
  exact congrArg UserPreference.signalCount columns

/-- The counter of a user is the number of their handled actions on known games exactly
when, for each of these games, they had at most one purchase and no review handled
before its first publication. -/
theorem signalCount_eq_signals_iff (settings : Settings R) (actions : List (Action R)) (userId : UserId)
    (bounded : Event.Bounded settings.backfillLimit (Service.run settings actions).handled) :
    ((Service.run settings actions).store.preferenceOf userId).signalCount =
        (Service.run settings actions).handled.countP (fun event => event.signals userId &&
          ((Service.run settings actions).store.games.get event.gameId).isSome) ↔
      ∀ gameId, Event.published gameId (Service.run settings actions).handled = true →
        (Event.early gameId (Service.run settings actions).handled).countP (Event.buys userId gameId) ≤ 1 ∧
          (Event.early gameId (Service.run settings actions).handled).countP (Event.reviews userId gameId) = 0 := by
  have run := Service.run_from_empty settings actions
  have known (gameId : GameId) : ((Service.run settings actions).store.games.get gameId).isSome =
      Event.published gameId (Service.run settings actions).handled := by
    have iff := ReadModel.run_known run gameId
    cases published : Event.published gameId (Service.run settings actions).handled with
    | true =>
      apply Option.isSome_iff_ne_none.mpr
      intro unknown
      rw [iff.mp unknown] at published
      cases published
    | false => exact Option.isSome_eq_false_iff.mpr (Option.isNone_iff_eq_none.mpr (iff.mpr published))
  have value := ReadModel.run_value signalMeasure run bounded
    (fun _ _ gameId embedding _ => signalMeasure_adds gameId embedding)
    ((Service.run settings actions).handled.map Event.gameId).toFinset
    (fun event member => List.mem_toFinset.mpr (List.mem_map_of_mem member)) userId
  simp only [known]
  rw [show ((Service.run settings actions).store.preferenceOf userId).signalCount = _ from value]
  exact Event.sum_worth_eq_iff userId _ _ fun event member => List.mem_toFinset.mpr (List.mem_map_of_mem member)

end Memory

namespace Memory
attribute [local instance] Casing.unchanged

def raceReviewed : Action ℚ := .ingest (.reviewPosted ⟨3⟩ ⟨⟨1⟩⟩ ⟨⟨1⟩⟩ true none) .fixed

theorem signalCount_eq_signals_iff_reviewed :
    ((Service.run deployed [racePurchased,racePublished,raceReviewed]).store.preferenceOf ⟨⟨1⟩⟩).signalCount =
        (Service.run deployed [racePurchased,racePublished,raceReviewed]).handled.countP
          (fun event => event.signals ⟨⟨1⟩⟩ &&
            ((Service.run deployed [racePurchased,racePublished,raceReviewed]).store.games.get event.gameId).isSome) ↔
      ∀ gameId, Event.published gameId (Service.run deployed [racePurchased,racePublished,raceReviewed]).handled = true →
        (Event.early gameId (Service.run deployed [racePurchased,racePublished,raceReviewed]).handled).countP
            (Event.buys ⟨⟨1⟩⟩ gameId) ≤ 1 ∧
          (Event.early gameId (Service.run deployed [racePurchased,racePublished,raceReviewed]).handled).countP
            (Event.reviews ⟨⟨1⟩⟩ gameId) = 0 := by
  have bounded : Event.Bounded deployed.backfillLimit
      (Service.run deployed [racePurchased,racePublished,raceReviewed]).handled := by
    apply Event.bounded_of_length
    decide +kernel
  exact signalCount_eq_signals_iff deployed [racePurchased,racePublished,raceReviewed] ⟨⟨1⟩⟩ bounded

/-- A review that arrives before the description of its game is dropped. -/
theorem early_review_dropped : ¬∀ (actions : List (Action ℚ)) (userId : UserId),
    Event.Bounded deployed.backfillLimit (Service.run deployed actions).handled →
      ((Service.run deployed actions).store.preferenceOf userId).signalCount =
        (Service.run deployed actions).handled.countP (fun event => event.signals userId &&
          ((Service.run deployed actions).store.games.get event.gameId).isSome) := by
  intro claim
  have bounded : Event.Bounded deployed.backfillLimit (Service.run deployed [raceReviewed,racePublished]).handled := by
    apply Event.bounded_of_length
    decide +kernel
  have equal := claim [raceReviewed,racePublished] ⟨⟨1⟩⟩ bounded
  exact absurd equal (by decide +kernel)

end Memory
end ArcadiaRecommendation
