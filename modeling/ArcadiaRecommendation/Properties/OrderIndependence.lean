import ArcadiaRecommendation.Properties.Ownership
import ArcadiaRecommendation.Properties.Signals

/-! Two runs that handle the same events in different orders end with the same tastes,
owned sets, counters and rows, if no review comes before its game. -/
namespace ArcadiaRecommendation
namespace Event

/-- A history a user could have caused: one publication for each game, one purchase for each
user and game, no more owners than a backfill credits, and no review before its game. -/
structure Orderly (backfillLimit : Nat) (events : List Event) : Prop where
  publishedOnce : ∀ gameId, events.countP (publishes gameId) ≤ 1
  boughtOnce : ∀ userId gameId, events.countP (buys userId gameId) ≤ 1
  bounded : Bounded backfillLimit events
  reviewed : ∀ userId gameId, (early gameId events).countP (reviews userId gameId) = 0

theorem Orderly.kept {backfillLimit : Nat} {events : List Event} (orderly : Orderly backfillLimit events)
    (userId : UserId) (gameId : GameId) : Kept userId gameId events := by
  have inside : (early gameId events).Sublist events := List.takeWhile_sublist _
  exact ⟨inside.countP_le.trans (orderly.boughtOnce userId gameId),orderly.reviewed userId gameId⟩

private theorem publication_unique {events : List Event} {gameId : GameId} (once : events.countP (publishes gameId) ≤ 1)
    {first second : Event} (inFirst : first ∈ events) (inSecond : second ∈ events)
    (firstPublishes : first.publishes gameId = true) (secondPublishes : second.publishes gameId = true) :
    first = second := by
  rw [List.countP_eq_length_filter] at once
  have left := List.mem_filter.mpr ⟨inFirst,firstPublishes⟩
  have right := List.mem_filter.mpr ⟨inSecond,secondPublishes⟩
  cases kept : events.filter (publishes gameId) with
  | nil =>
    rw [kept] at left
    cases left
  | cons event rest =>
    rw [kept,List.length_cons] at once
    have empty : rest = [] := List.eq_nil_of_length_eq_zero (by omega)
    rw [kept,empty] at left right
    exact (List.mem_singleton.mp left).trans (List.mem_singleton.mp right).symm

variable {R : Type} [Scalar R] [Casing]

theorem Embeds.publishes {gameId : GameId} {embedding : Embedding R} {event : Event}
    (embeds : event.Embeds gameId embedding) : event.publishes gameId = true := by
  cases event with
  | gamePublished => exact decide_eq_true embeds.1
  | gameWithdrawn => cases embeds
  | purchaseCompleted => cases embeds
  | reviewPosted => cases embeds

theorem Embeds.unique {gameId : GameId} {first second : Embedding R} {event : Event}
    (embedsFirst : event.Embeds gameId first) (embedsSecond : event.Embeds gameId second) : first = second := by
  cases event with
  | gamePublished => exact Except.ok.inj (embedsFirst.2.symm.trans embedsSecond.2)
  | gameWithdrawn => cases embedsFirst
  | purchaseCompleted => cases embedsFirst
  | reviewPosted => cases embedsFirst

private theorem vectors_fixed (events : List Event) (once : ∀ gameId, events.countP (publishes gameId) ≤ 1) :
    ∃ vectors : GameId → Embedding R, ∀ event ∈ events, ∀ gameId embedding,
      event.Embeds gameId embedding → embedding = vectors gameId := by
  have fixed (gameId : GameId) : ∃ vector : Embedding R, ∀ event ∈ events, ∀ embedding,
      event.Embeds gameId embedding → embedding = vector := by
    by_cases published : ∃ event ∈ events, ∃ embedding : Embedding R, event.Embeds gameId embedding
    · obtain ⟨source,inside,vector,given⟩ := published
      refine ⟨vector,?_⟩
      intro event member embedding embeds
      have same := publication_unique (once gameId) member inside embeds.publishes given.publishes
      exact (same ▸ embeds).unique given
    · refine ⟨.empty,?_⟩
      intro event member embedding embeds
      exact absurd ⟨event,member,embedding,embeds⟩ published
  exact ⟨fun gameId => (fixed gameId).choose,
    fun event member gameId embedding => (fixed gameId).choose_spec event member embedding⟩

end Event

section
variable {R : Type} [ExactScalar R]

def tasteMeasure (vectors : GameId → Embedding R) (name : String) : Measure R R where
  value preference := preference.taste.coordinate name
  amount gameId kind := (vectors gameId).coordinate name * weightOf kind
  blank _ := rfl
  sparse _ := rfl

variable [Casing]

private theorem tasteMeasure_adds (vectors : GameId → Embedding R) (name : String) (gameId : GameId) :
    (tasteMeasure vectors name).Adds gameId (vectors gameId) := by
  intro game preference after kind at_ same embedding observed
  obtain ⟨tasteDense,_,columns⟩ := UserPreference.observe_ok _ _ _ _ _ observed
  have taste := congrArg UserPreference.taste columns
  show after.taste.coordinate name = _
  rw [taste,Embedding.coordinate_plus,embedding]
  rfl

end

namespace ReadModel
variable {A : Type} [AddCommMonoid A] {backfillLimit : Nat} {first second : List Event}

private theorem published_perm (same : first.Perm second) (gameId : GameId) :
    Event.published gameId first = Event.published gameId second := same.any_eq

section
variable {R : Type} [Scalar R] [Casing] {left right : ReadModel R}

private theorem values_agree (measure : Measure R A) (same : first.Perm second)
    (leftRun : empty.Run backfillLimit first left) (rightRun : empty.Run backfillLimit second right)
    (leftOrderly : Event.Orderly backfillLimit first) (rightOrderly : Event.Orderly backfillLimit second)
    (valued : Valued measure first) (userId : UserId) :
    measure.value (left.preferenceOf userId) = measure.value (right.preferenceOf userId) := by
  have inGames (event : Event) (member : event ∈ first) : event.gameId ∈ (first.map Event.gameId).toFinset :=
    List.mem_toFinset.mpr (List.mem_map_of_mem member)
  rw [run_value measure leftRun leftOrderly.bounded valued _ inGames userId]
  rw [run_value measure rightRun rightOrderly.bounded (fun event member => valued event (same.mem_iff.mpr member))
    (first.map Event.gameId).toFinset (fun event member => inGames event (same.mem_iff.mpr member)) userId]
  apply Finset.sum_congr rfl
  intro gameId _
  rw [Event.worth_kept _ userId gameId first (leftOrderly.kept userId gameId)]
  rw [Event.worth_kept _ userId gameId second (rightOrderly.kept userId gameId),published_perm same gameId]
  rw [((same.filterMap _).map _).sum_eq]

private theorem rows_agree (same : first.Perm second) (leftRun : empty.Run backfillLimit first left)
    (rightRun : empty.Run backfillLimit second right) (leftOrderly : Event.Orderly backfillLimit first)
    (rightOrderly : Event.Orderly backfillLimit second) (userId : UserId) (gameId : GameId) :
    left.ownership userId gameId = right.ownership userId gameId := by
  rw [run_rows leftRun leftOrderly.bounded,run_rows rightRun rightOrderly.bounded]
  rw [published_perm same gameId,same.any_eq]

end

section
variable {R : Type} [ExactScalar R] [Casing] {left right : ReadModel R}

private theorem tastes_agree (same : first.Perm second) (leftRun : empty.Run backfillLimit first left)
    (rightRun : empty.Run backfillLimit second right) (leftOrderly : Event.Orderly backfillLimit first)
    (rightOrderly : Event.Orderly backfillLimit second) (userId : UserId) (name : String) :
    (left.preferenceOf userId).taste.weights.get name = (right.preferenceOf userId).taste.weights.get name := by
  obtain ⟨vectors,fixed⟩ := Event.vectors_fixed (R := R) first leftOrderly.publishedOnce
  apply Embedding.get_of_coordinate
  apply values_agree (tasteMeasure vectors name) same leftRun rightRun leftOrderly rightOrderly
  intro event member gameId embedding embeds
  rw [fixed event member gameId embedding embeds]
  exact tasteMeasure_adds vectors name gameId

private theorem owned_agree (same : first.Perm second) (leftRun : empty.Run backfillLimit first left)
    (rightRun : empty.Run backfillLimit second right) (leftOrderly : Event.Orderly backfillLimit first)
    (rightOrderly : Event.Orderly backfillLimit second) (userId : UserId) :
    (left.preferenceOf userId).owned = (right.preferenceOf userId).owned := by
  ext gameId
  rw [(run_consistent weightOf_purchase leftRun).owned,(run_consistent weightOf_purchase rightRun).owned]
  rw [rows_agree same leftRun rightRun leftOrderly rightOrderly userId gameId]

end
end ReadModel

namespace Memory
variable {R : Type} [ExactScalar R] [Casing]

/-- However the independent topics interleave, the same events leave the same read-model. -/
theorem handling_order_irrelevant (settings : Settings R) (first second : List (Action R))
    (same : (Service.run settings first).handled.Perm (Service.run settings second).handled)
    (firstOrderly : Event.Orderly settings.backfillLimit (Service.run settings first).handled)
    (secondOrderly : Event.Orderly settings.backfillLimit (Service.run settings second).handled) :
    let left := (Service.run settings first).store
    let right := (Service.run settings second).store
    (∀ userId, (∀ name, (left.preferenceOf userId).taste.weights.get name =
        (right.preferenceOf userId).taste.weights.get name) ∧
      (left.preferenceOf userId).owned = (right.preferenceOf userId).owned ∧
      (left.preferenceOf userId).signalCount = (right.preferenceOf userId).signalCount) ∧
    ∀ userId gameId, flag left.ownerships userId gameId = flag right.ownerships userId gameId := by
  intro left right
  have leftRun := Service.run_from_empty settings first
  have rightRun := Service.run_from_empty settings second
  refine ⟨fun userId => ⟨fun name => ?_,?_,?_⟩,?_⟩
  · exact ReadModel.tastes_agree same leftRun rightRun firstOrderly secondOrderly userId name
  · exact ReadModel.owned_agree same leftRun rightRun firstOrderly secondOrderly userId
  · exact ReadModel.values_agree signalMeasure same leftRun rightRun firstOrderly secondOrderly
      (fun _ _ gameId embedding _ => signalMeasure_adds gameId embedding) userId
  · exact ReadModel.rows_agree same leftRun rightRun firstOrderly secondOrderly

end Memory

namespace Memory
attribute [local instance] Casing.unchanged

private theorem race_orderly (events : List Event) (same : events.Perm
    [.gamePublished ⟨2⟩ ⟨⟨1⟩⟩ ⟨⟨9⟩⟩ "Race" ["racing"] [] none "",.reviewPosted ⟨3⟩ ⟨⟨1⟩⟩ ⟨⟨1⟩⟩ true none,
      .purchaseCompleted ⟨1⟩ ⟨⟨1⟩⟩ ⟨⟨1⟩⟩ none])
    (reviewed : ∀ userId, (Event.early ⟨⟨1⟩⟩ events).countP (Event.reviews userId ⟨⟨1⟩⟩) = 0) :
    Event.Orderly deployed.backfillLimit events := by
  refine ⟨fun gameId => ?_,fun userId gameId => ?_,?_,fun userId gameId => ?_⟩
  · rw [same.countP_eq]
    simp only [List.countP_cons,List.countP_nil,Event.publishes_gamePublished,Event.publishes_reviewPosted,
      Event.publishes_purchaseCompleted,decide_eq_true_eq,Bool.false_eq_true,if_false]
    split <;> omega
  · rw [same.countP_eq]
    simp only [List.countP_cons,List.countP_nil,Event.buys_gamePublished,Event.buys_reviewPosted,
      Event.buys_purchaseCompleted,decide_eq_true_eq,Bool.false_eq_true,if_false]
    split <;> omega
  · apply Event.bounded_of_length
    rw [same.length_eq]
    decide
  · by_cases race : (⟨⟨1⟩⟩ : GameId) = gameId
    · rw [← race]
      exact reviewed userId
    · rw [List.countP_eq_zero]
      intro event member review
      have inside := same.subset ((List.takeWhile_sublist _).subset member)
      have about : event.gameId = ⟨⟨1⟩⟩ := by
        simp only [List.mem_cons,List.not_mem_nil,or_false] at inside
        rcases inside with rfl | rfl | rfl
        · rfl
        · rfl
        · rfl
      exact race (about.symm.trans (Event.reviews_gameId review).symm)

theorem handling_order_irrelevant_race :
    let left := (Service.run deployed [racePurchased,racePublished,raceReviewed]).store
    let right := (Service.run deployed [racePublished,raceReviewed,racePurchased]).store
    (∀ userId, (∀ name, (left.preferenceOf userId).taste.weights.get name =
        (right.preferenceOf userId).taste.weights.get name) ∧
      (left.preferenceOf userId).owned = (right.preferenceOf userId).owned ∧
      (left.preferenceOf userId).signalCount = (right.preferenceOf userId).signalCount) ∧
    ∀ userId gameId, flag left.ownerships userId gameId = flag right.ownerships userId gameId := by
  have first : (Service.run deployed [racePurchased,racePublished,raceReviewed]).handled =
      [.purchaseCompleted ⟨1⟩ ⟨⟨1⟩⟩ ⟨⟨1⟩⟩ none,.gamePublished ⟨2⟩ ⟨⟨1⟩⟩ ⟨⟨9⟩⟩ "Race" ["racing"] [] none "",
        .reviewPosted ⟨3⟩ ⟨⟨1⟩⟩ ⟨⟨1⟩⟩ true none] := by decide +kernel
  have second : (Service.run deployed [racePublished,raceReviewed,racePurchased]).handled =
      [.gamePublished ⟨2⟩ ⟨⟨1⟩⟩ ⟨⟨9⟩⟩ "Race" ["racing"] [] none "",.reviewPosted ⟨3⟩ ⟨⟨1⟩⟩ ⟨⟨1⟩⟩ true none,
        .purchaseCompleted ⟨1⟩ ⟨⟨1⟩⟩ ⟨⟨1⟩⟩ none] := by decide +kernel
  apply handling_order_irrelevant deployed
  · rw [first,second]
    decide
  · rw [first]
    apply race_orderly _ (by decide)
    intro userId
    rfl
  · rw [second]
    apply race_orderly _ (by decide)
    intro userId
    rfl

end Memory
end ArcadiaRecommendation
