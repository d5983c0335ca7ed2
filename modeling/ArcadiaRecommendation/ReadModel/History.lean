import ArcadiaRecommendation.ReadModel.Steps
import Mathlib.Data.Finset.Card
import Mathlib.Data.List.TakeWhile

/-! What the events handled so far say about the read-model: which games are known,
which rows exist, and where the vector of a game comes from. -/
namespace ArcadiaRecommendation
namespace Event

def early (gameId : GameId) (events : List Event) : List Event :=
  events.takeWhile fun event => !event.publishes gameId

def late (gameId : GameId) (events : List Event) : List Event :=
  events.dropWhile fun event => !event.publishes gameId

theorem early_late (gameId : GameId) (events : List Event) : early gameId events ++ late gameId events = events :=
  List.takeWhile_append_dropWhile

def published (gameId : GameId) (events : List Event) : Bool := events.any (publishes gameId)

@[simp] theorem published_append (gameId : GameId) (events : List Event) (event : Event) :
    published gameId (events ++ [event]) = (published gameId events || event.publishes gameId) := by
  simp [published]

theorem late_append (gameId : GameId) (events : List Event) (event : Event)
    (known : published gameId (events ++ [event]) = true) :
    late gameId (events ++ [event]) = late gameId events ++ [event] := by
  induction events with
  | nil =>
    have publication : event.publishes gameId = true := by simpa [published] using known
    simp [late,publication]
  | cons first rest ih =>
    cases publication : first.publishes gameId with
    | true => simp [late,publication]
    | false =>
      have later : published gameId (rest ++ [event]) = true := by
        simpa [published,publication] using known
      simp only [late,List.cons_append,List.dropWhile_cons,publication,Bool.not_false,if_true] at ih ⊢
      exact ih later

theorem early_append (gameId : GameId) (events : List Event) (event : Event)
    (known : published gameId (events ++ [event]) = true) : early gameId (events ++ [event]) = early gameId events := by
  have split := early_late gameId (events ++ [event])
  rw [late_append gameId events event known,← List.append_assoc] at split
  have shorter := (List.append_cancel_right split).trans (early_late gameId events).symm
  exact List.append_cancel_right shorter

theorem late_unpublished (gameId : GameId) (events : List Event) (unknown : published gameId events = false) :
    late gameId events = [] := by
  simpa [late,published,List.dropWhile_eq_nil_iff] using unknown

theorem early_unpublished (gameId : GameId) (events : List Event) (unknown : published gameId events = false) :
    early gameId events = events := by
  have split := early_late gameId events
  rwa [late_unpublished gameId events unknown,List.append_nil] at split

def buys (userId : UserId) (gameId : GameId) : Event → Bool
  | purchaseCompleted _ recipientId bought _ => recipientId = userId ∧ bought = gameId
  | _ => false

def buyer (gameId : GameId) : Event → Option UserId
  | purchaseCompleted _ recipientId bought _ => if bought = gameId then some recipientId else none
  | _ => none

@[simp] theorem buys_gamePublished (userId : UserId) (gameId published : GameId) (eventId : UUID)
    (developerId : UserId) (title : String) (genres tags : List String) (publishedAt : Option DateTime)
    (description : String) : (gamePublished eventId published developerId title genres tags publishedAt
      description).buys userId gameId = false := rfl

@[simp] theorem buys_gameWithdrawn (userId : UserId) (gameId withdrawn : GameId) (eventId : UUID) :
    (gameWithdrawn eventId withdrawn).buys userId gameId = false := rfl

@[simp] theorem buys_purchaseCompleted (userId recipientId : UserId) (gameId bought : GameId) (eventId : UUID)
    (occurredAt : Option DateTime) : (purchaseCompleted eventId recipientId bought occurredAt).buys userId gameId =
      decide (recipientId = userId ∧ bought = gameId) := rfl

@[simp] theorem buys_reviewPosted (userId authorId : UserId) (gameId reviewed : GameId) (eventId : UUID)
    (liked : Bool) (occurredAt : Option DateTime) :
    (reviewPosted eventId authorId reviewed liked occurredAt).buys userId gameId = false := rfl

private theorem buyer_eq_some_iff (userId : UserId) (gameId : GameId) (event : Event) :
    event.buyer gameId = some userId ↔ event.buys userId gameId = true := by
  cases event with
  | gamePublished => simp [buyer,buys]
  | gameWithdrawn => simp [buyer,buys]
  | purchaseCompleted eventId recipientId bought occurredAt =>
    simp only [buyer,buys,decide_eq_true_eq,Option.ite_none_right_eq_some,Option.some.injEq]
    exact and_comm
  | reviewPosted => simp [buyer,buys]

def buyers (gameId : GameId) (events : List Event) : Finset UserId := (events.filterMap (buyer gameId)).toFinset

theorem mem_buyers (userId : UserId) (gameId : GameId) (events : List Event) :
    userId ∈ buyers gameId events ↔ events.any (buys userId gameId) = true := by
  simp only [buyers,List.mem_toFinset,List.mem_filterMap,buyer_eq_some_iff,List.any_eq_true]

private theorem buyers_subset (gameId : GameId) (first second : List Event) :
    buyers gameId first ⊆ buyers gameId (first ++ second) := by
  intro userId member
  rw [mem_buyers] at member ⊢
  rw [List.any_append,member,Bool.true_or]

def Bounded (backfillLimit : Nat) (events : List Event) : Prop :=
  ∀ gameId, (buyers gameId events).card ≤ backfillLimit

theorem Bounded.earlier {backfillLimit : Nat} {first second : List Event}
    (bounded : Bounded backfillLimit (first ++ second)) : Bounded backfillLimit first :=
  fun gameId => (Finset.card_le_card (buyers_subset gameId first second)).trans (bounded gameId)

theorem bounded_of_length {backfillLimit : Nat} {events : List Event} (few : events.length ≤ backfillLimit) :
    Bounded backfillLimit events := by
  intro gameId
  have distinct := List.toFinset_card_le (events.filterMap (buyer gameId))
  have shorter := List.length_filterMap_le (buyer gameId) events
  unfold buyers
  omega

end Event

namespace ReadModel
variable {R : Type} [Scalar R] [Casing] {backfillLimit : Nat}

theorem run_known {events : List Event} {model : ReadModel R} (run : empty.Run backfillLimit events model)
    (gameId : GameId) : model.games gameId = none ↔ Event.published gameId events = false := by
  induction run with
  | start => exact ⟨fun _ => rfl,fun _ => rfl⟩
  | swept events before after earlier step ih => exact (step.known gameId).trans ih
  | handled events event before after earlier step ih =>
    rw [Event.published_append]
    cases publication : event.publishes gameId with
    | true =>
      have own := Event.publishes_gameId publication
      obtain ⟨game,games,_⟩ := step.effect.described (own ▸ publication)
      rw [games,own,Function.update_self]
      simp
    | false =>
      have changed : after.games gameId = none ↔ before.games gameId = none := by
        by_cases own : gameId = event.gameId
        · rw [step.effect.changed (own ▸ publication),own,Function.update_self,Option.map_eq_none_iff]
        · rw [step.effect.other_games own]
      rw [changed,ih,Bool.or_false]

/-- A publication credits exactly the buyers of a game that was unknown until then. -/
theorem owed_waiting {events : List Event} {model : ReadModel R} {gameId : GameId} {users : List UserId}
    (owed : model.Owed backfillLimit gameId users) (bounded : Event.Bounded backfillLimit events)
    (rows : ∀ userId, model.ownership userId gameId =
      if events.any (Event.buys userId gameId) then some (Event.published gameId events) else none)
    (userId : UserId) :
    userId ∈ users ↔ events.any (Event.buys userId gameId) = true ∧ Event.published gameId events = false := by
  obtain ⟨owners,distinct,uncounted,cut⟩ := owed
  have waiting (owner : UserId) :
      owner ∈ owners ↔ events.any (Event.buys owner gameId) = true ∧ Event.published gameId events = false := by
    rw [uncounted owner,rows owner]
    simp
  have inside : owners ⊆ (Event.buyers gameId events).toList := by
    intro owner member
    rw [Finset.mem_toList,Event.mem_buyers]
    exact ((waiting owner).mp member).1
  have fits := (distinct.subperm inside).length_le
  rw [Finset.length_toList] at fits
  rw [cut,List.take_of_length_le (fits.trans (bounded gameId))]
  exact waiting userId

/-- As long as no game outgrows the backfill, there is one row for each purchase, counted
once its game is known. -/
theorem run_rows {events : List Event} {model : ReadModel R} (run : empty.Run backfillLimit events model)
    (bounded : Event.Bounded backfillLimit events) (userId : UserId) (gameId : GameId) :
    model.ownership userId gameId =
      if events.any (Event.buys userId gameId) then some (Event.published gameId events) else none := by
  induction run generalizing userId gameId with
  | start => rfl
  | swept events before after earlier step ih =>
    rw [step.ownership]
    exact ih bounded userId gameId
  | handled events event before after earlier step ih =>
    have rows := ih bounded.earlier
    have known := run_known earlier
    rw [List.any_append,Event.published_append]
    cases step.effect with
    | published eventId published developerId title genres tags publishedAt description game users at_ described owed
        games observed recorded =>
      have credited := owed_waiting owed bounded.earlier (fun owner => rows owner published) userId
      rw [recorded userId gameId,rows userId gameId]
      by_cases same : gameId = published
      · subst same
        simp only [credited]
        cases events.any (Event.buys userId gameId) with
        | true => cases Event.published gameId events <;> simp
        | false => simp
      · have apart : published ≠ gameId := fun equal => same equal.symm
        simp [same,apart]
    | withdrawnUnknown eventId withdrawn unknown games preferences ownership =>
      rw [ownership,rows userId gameId]
      simp
    | withdrawn eventId withdrawn game found games preferences ownership =>
      rw [ownership,rows userId gameId]
      simp
    | purchasedUnknown eventId owner bought occurredAt unknown games preferences recorded =>
      rw [recorded userId gameId,rows userId gameId]
      have unpublished := (known bought).mp unknown
      by_cases both : gameId = bought ∧ userId = owner
      · simp [both,unpublished]
        split <;> rfl
      · have apart : ¬(owner = userId ∧ bought = gameId) := fun equal => both ⟨equal.2.symm,equal.1.symm⟩
        simp [both,apart]
    | purchased eventId owner bought occurredAt game at_ found games observed recorded =>
      rw [recorded userId gameId,rows userId gameId]
      have published : Event.published bought events = true := by
        apply Bool.eq_true_of_not_eq_false
        intro unpublished
        rw [(known bought).mpr unpublished] at found
        cases found
      by_cases both : gameId = bought ∧ userId = owner
      · simp [both,published]
      · have apart : ¬(owner = userId ∧ bought = gameId) := fun equal => both ⟨equal.2.symm,equal.1.symm⟩
        simp [both,apart]
    | reviewedUnknown eventId author reviewed liked occurredAt unknown games preferences ownership =>
      rw [ownership,rows userId gameId]
      simp
    | reviewed eventId author reviewed liked occurredAt game at_ found games observed ownership =>
      rw [ownership,rows userId gameId]
      simp

end ReadModel
end ArcadiaRecommendation
