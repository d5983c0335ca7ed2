import ArcadiaRecommendation.Memory.Service
import ArcadiaRecommendation.ReadModel.History

/-! The purchase counter of a game counts the purchases handled once the game was known. -/
namespace ArcadiaRecommendation

namespace ReadModel
variable {R : Type} [Scalar R] [Casing]

theorem run_popularity {backfillLimit : Nat} {events : List Event} {model : ReadModel R}
    (run : empty.Run backfillLimit events model) (gameId : GameId) (game : GameProfile R)
    (found : model.games gameId = some game) :
    game.purchaseCount = (Event.late gameId events).countP (Event.purchases gameId) := by
  induction run generalizing game with
  | start => cases found
  | swept events before after earlier step ih =>
    obtain ⟨current,present,same⟩ := step.game found
    have counts : game.sparse.purchaseCount = current.sparse.purchaseCount := by rw [same]
    exact counts.trans (ih current present)
  | handled events event before after earlier step ih =>
    have known : Event.published gameId (events ++ [event]) = true := by
      apply Bool.eq_true_of_not_eq_false
      intro unknown
      rw [(run_known (.handled events event before after earlier step) gameId).mpr unknown] at found
      cases found
    rw [Event.late_append gameId events event known,List.countP_append,List.countP_singleton]
    by_cases own : gameId = event.gameId
    · subst own
      by_cases publication : event.publishes event.gameId
      · obtain ⟨described,games,_,_,_,count⟩ := step.effect.described publication
        rw [games,Function.update_self] at found
        cases Option.some.inj found
        have silent : event.purchases event.gameId = false := by
          cases event with
          | gamePublished => rfl
          | gameWithdrawn => rfl
          | purchaseCompleted => cases publication
          | reviewPosted => rfl
        rw [count,silent]
        cases current : before.games event.gameId with
        | none => simp [Event.late_unpublished _ _ ((run_known earlier event.gameId).mp current)]
        | some row => simpa using ih row current
      · rw [step.effect.changed (Bool.eq_false_of_not_eq_true publication),Function.update_self] at found
        obtain ⟨current,present,changed⟩ := Option.map_eq_some_iff.mp found
        have count := ih current present
        rw [← changed]
        cases event with
        | gamePublished => simp [Event.gameId] at publication
        | gameWithdrawn => simpa [Event.changes,Event.purchases] using count
        | purchaseCompleted => simpa [Event.changes,Event.purchases,Event.gameId] using count
        | reviewPosted => simpa [Event.changes,Event.purchases] using count
    · have other : event.purchases gameId = false := by
        cases event with
        | gamePublished => rfl
        | gameWithdrawn => rfl
        | purchaseCompleted eventId userId bought => simpa [Event.purchases,Event.gameId,eq_comm] using own
        | reviewPosted => rfl
      rw [step.effect.other_games own] at found
      rw [other]
      simpa using ih game found

end ReadModel

namespace Memory
variable {R : Type} [Scalar R] [Casing]

/-- The counter of a game is the number of its purchases exactly when none of them was
handled before the game was published. A backfill credits the owner and not the game. -/
theorem purchaseCount_eq_purchases_iff (settings : Settings R) (actions : List (Action R)) (gameId : GameId)
    (game : GameProfile R) (known : (Service.run settings actions).store.games.get gameId = some game) :
    game.purchaseCount = (Service.run settings actions).handled.countP (Event.purchases gameId) ↔
      ∀ event ∈ Event.early gameId (Service.run settings actions).handled, event.purchases gameId = false := by
  have count := ReadModel.run_popularity (Service.run_from_empty settings actions) gameId game known
  have split := congrArg (List.countP (Event.purchases gameId))
    (Event.early_late gameId (Service.run settings actions).handled)
  rw [List.countP_append] at split
  have none : (Event.early gameId (Service.run settings actions).handled).countP (Event.purchases gameId) = 0 ↔
      ∀ event ∈ Event.early gameId (Service.run settings actions).handled, event.purchases gameId = false := by
    simp [List.countP_eq_zero]
  rw [count,← none]
  omega

end Memory

namespace Memory
attribute [local instance] Casing.unchanged

theorem purchaseCount_eq_purchases_iff_published : ∃ game,
    (Service.run deployed [racePublished,racePurchased]).store.games.get ⟨⟨1⟩⟩ = some game ∧
      (game.purchaseCount =
          (Service.run deployed [racePublished,racePurchased]).handled.countP (Event.purchases ⟨⟨1⟩⟩) ↔
        ∀ event ∈ Event.early ⟨⟨1⟩⟩ (Service.run deployed [racePublished,racePurchased]).handled,
          event.purchases ⟨⟨1⟩⟩ = false) := by
  have known : ((Service.run deployed [racePublished,racePurchased]).store.games.get ⟨⟨1⟩⟩).isSome = true := by
    decide +kernel
  obtain ⟨game,found⟩ := Option.isSome_iff_exists.mp known
  exact ⟨game,found,purchaseCount_eq_purchases_iff deployed [racePublished,racePurchased] ⟨⟨1⟩⟩ game found⟩

/-- A purchase that arrives before the description of its game is never counted. -/
theorem early_purchase_uncounted : ¬∀ (actions : List (Action ℚ)) (gameId : GameId) (game : GameProfile ℚ),
    (Service.run deployed actions).store.games.get gameId = some game →
      game.purchaseCount = (Service.run deployed actions).handled.countP (Event.purchases gameId) := by
  intro claim
  have counts : ((Service.run deployed [racePurchased,racePublished]).store.games.get ⟨⟨1⟩⟩).map
      (fun game => game.purchaseCount) = some 0 := by decide +kernel
  have purchases : (Service.run deployed [racePurchased,racePublished]).handled.countP (Event.purchases ⟨⟨1⟩⟩) = 1 := by
    decide +kernel
  obtain ⟨game,found,zero⟩ := Option.map_eq_some_iff.mp counts
  have one := claim [racePurchased,racePublished] ⟨⟨1⟩⟩ game found
  rw [zero,purchases] at one
  cases one

end Memory
end ArcadiaRecommendation
