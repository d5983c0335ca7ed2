import ArcadiaRecommendation.Application.Ports

/-! The four use cases that fold one inbound event into the read-model. -/
namespace ArcadiaRecommendation
variable {R : Type} [Scalar R] [Casing]

def alreadyHandled (eventId : UUID) : UseCase R Bool := ProcessedEvents.seen eventId

/-- `await uow.preferences.get(user_id) or UserPreference.blank(user_id)` -/
def preferenceOf (userId : UserId) : UseCase R (UserPreference R) := do
  let preference ← Preferences.get userId
  return preference.getD (.blank userId)

/-- `occurred_at or self._stamps.now()` -/
def momentOf (occurredAt : Option DateTime) : UseCase R DateTime :=
  match occurredAt with
  | some moment => .done moment
  | none => Stamps.now

namespace HandleGamePublished

def credit (game : GameProfile R) (at_ : DateTime) (userId : UserId) : UseCase R Unit := do
  let preference ← preferenceOf userId
  let observed ← check (preference.observe game .purchase at_)
  Preferences.upsert observed

def backfill (backfillLimit : Nat) (game : GameProfile R) : UseCase R Unit := do
  let owners ← Ownerships.uncountedOwners game.gameId backfillLimit
  if owners.isEmpty then return ()
  let at_ ← Stamps.now
  let _ ← Program.forEach (credit game at_) owners
  Ownerships.markCounted game.gameId owners

def describe (existing : Option (GameProfile R)) (gameId : GameId) (developerId : UserId) (title : String)
    (genres tags : List String) (publishedAt : Option DateTime) (description : String) :
    Except InvariantViolation (GameProfile R) :=
  match existing with
  | some game => game.redescribed title genres tags description
  | none => GameProfile.published gameId developerId title genres tags publishedAt description

theorem describe_ok (existing : Option (GameProfile R)) (gameId : GameId) (developerId : UserId) (title : String)
    (genres tags : List String) (publishedAt : Option DateTime) (description : String) (game : GameProfile R)
    (described : describe existing gameId developerId title genres tags publishedAt description = .ok game) :
    game.gameId = (existing.map fun known => known.gameId).getD gameId ∧
      game.purchaseCount = (existing.map fun known => known.purchaseCount).getD 0 ∧ game.isPublished = true ∧
      game.genres = genres ∧ game.tags = tags ∧ embed genres tags = .ok game.embedding ∧ game.dense = .empty := by
  cases existing with
  | none =>
    obtain ⟨embedding,labels,fields⟩ :=
      GameProfile.published_ok gameId developerId title genres tags publishedAt description game described
    rw [fields]
    exact ⟨rfl,rfl,rfl,rfl,rfl,labels,rfl⟩
  | some known =>
    obtain ⟨embedding,labels,fields⟩ := known.redescribed_ok title genres tags description game described
    rw [fields]
    exact ⟨rfl,rfl,rfl,rfl,rfl,labels,rfl⟩

theorem describe_total_iff (existing : Option (GameProfile R)) (gameId : GameId) (developerId : UserId) (title : String)
    (genres tags : List String) (publishedAt : Option DateTime) (description : String) (visible : Text.strip title ≠ "")
    (bounded : title.length ≤ Limits.maxTitleChars) :
    (∃ game, describe existing gameId developerId title genres tags publishedAt description = .ok game) ↔
      Acceptable "genre" genres ∧ Acceptable "tag" tags := by
  rw [← embed_total_iff (R := R)]
  constructor
  · rintro ⟨game,described⟩
    exact ⟨game.embedding,(describe_ok existing gameId developerId title genres tags publishedAt description game
      described).2.2.2.2.2.1⟩
  · rintro ⟨embedding,labels⟩
    have stripped := Text.strip_strip title visible
    have short := (Text.length_strip title).trans bounded
    cases existing with
    | none =>
      simp only [describe,GameProfile.published,labels,bind,Except.bind]
      exact GameProfile.construct_total _ stripped short (Int.le_refl 0) labels
    | some known =>
      simp only [describe,GameProfile.redescribed,labels,bind,Except.bind]
      exact GameProfile.construct_total _ stripped short known.countNonnegative labels

def execute (backfillLimit : Nat) (eventId : UUID) (gameId : GameId) (developerId : UserId) (title : String)
    (genres tags : List String) (publishedAt : Option DateTime) (description : String) : UseCase R Unit := do
  if ← alreadyHandled eventId then return ()
  let existing ← Games.get gameId
  let game ← check (describe existing gameId developerId title genres tags publishedAt description)
  Games.upsert game
  backfill backfillLimit game
  ProcessedEvents.mark eventId
  commit

end HandleGamePublished

def HandleGameWithdrawn.execute (eventId : UUID) (gameId : GameId) : UseCase R Unit := do
  if ← alreadyHandled eventId then return ()
  match ← Games.get gameId with
  | none =>
    ProcessedEvents.mark eventId
    commit
  | some game =>
    Games.upsert game.withdrawn
    ProcessedEvents.mark eventId
    commit

def HandlePurchaseCompleted.execute (eventId : UUID) (recipientId : UserId) (gameId : GameId)
    (occurredAt : Option DateTime) : UseCase R Unit := do
  if ← alreadyHandled eventId then return ()
  match ← Games.get gameId with
  | none =>
    Ownerships.record recipientId gameId false
    ProcessedEvents.mark eventId
    commit
  | some game =>
    let preference ← preferenceOf recipientId
    let at_ ← momentOf occurredAt
    let observed ← check (preference.observe game .purchase at_)
    Preferences.upsert observed
    Ownerships.record recipientId gameId true
    Games.upsert game.bought
    ProcessedEvents.mark eventId
    commit

def reviewKind (liked : Bool) : SignalKind := if liked then .reviewLike else .reviewDislike

def HandleReviewPosted.execute (eventId : UUID) (authorId : UserId) (gameId : GameId) (liked : Bool)
    (occurredAt : Option DateTime) : UseCase R Unit := do
  if ← alreadyHandled eventId then return ()
  match ← Games.get gameId with
  | none =>
    ProcessedEvents.mark eventId
    commit
  | some game =>
    let preference ← preferenceOf authorId
    let at_ ← momentOf occurredAt
    let observed ← check (preference.observe game (reviewKind liked) at_)
    Preferences.upsert observed
    ProcessedEvents.mark eventId
    commit

/-- The inbound events, as the anti-corruption handlers hand them to the use cases. -/
inductive Event
  | gamePublished (eventId : UUID) (gameId : GameId) (developerId : UserId) (title : String)
      (genres tags : List String) (publishedAt : Option DateTime) (description : String)
  | gameWithdrawn (eventId : UUID) (gameId : GameId)
  | purchaseCompleted (eventId : UUID) (recipientId : UserId) (gameId : GameId) (occurredAt : Option DateTime)
  | reviewPosted (eventId : UUID) (authorId : UserId) (gameId : GameId) (liked : Bool)
      (occurredAt : Option DateTime)
  deriving DecidableEq

namespace Event

def eventId : Event → UUID
  | gamePublished eventId .. | gameWithdrawn eventId .. | purchaseCompleted eventId .. | reviewPosted eventId .. =>
    eventId

def gameId : Event → GameId
  | gamePublished _ gameId .. | gameWithdrawn _ gameId | purchaseCompleted _ _ gameId _
  | reviewPosted _ _ gameId .. => gameId

def execute (backfillLimit : Nat) : Event → UseCase R Unit
  | gamePublished eventId gameId developerId title genres tags publishedAt description =>
    HandleGamePublished.execute backfillLimit eventId gameId developerId title genres tags publishedAt description
  | gameWithdrawn eventId gameId => HandleGameWithdrawn.execute eventId gameId
  | purchaseCompleted eventId recipientId gameId occurredAt =>
    HandlePurchaseCompleted.execute eventId recipientId gameId occurredAt
  | reviewPosted eventId authorId gameId liked occurredAt =>
    HandleReviewPosted.execute eventId authorId gameId liked occurredAt

end Event

/-- The backfill limit the composition root leaves at its default. -/
def deployedBackfillLimit : Nat := 500

end ArcadiaRecommendation
