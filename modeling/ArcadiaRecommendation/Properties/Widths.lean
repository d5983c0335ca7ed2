import ArcadiaRecommendation.Memory.Enrichment

/-! One vector width everywhere: with either shipped embedder every dense vector is empty or as
wide as the deployment stores, so no sum of two of them is ever refused. -/
namespace ArcadiaRecommendation
namespace Memory

section Shipped
variable {R : Type} [Scalar R] [Casing] [Floats R]

inductive Shipped
  | hashing (embedder : HashingEmbedder)
  | huggingFace (embedder : HuggingFaceEmbedder)

def Shipped.dimensions : Shipped → Nat
  | .hashing embedder => embedder.dimensions
  | .huggingFace embedder => embedder.dimensions

/-- As a port. Only an endpoint has answers that come from outside. -/
def Shipped.embed : Shipped → Embedder R (List String → Except String (Json R))
  | .hashing embedder => fun _ => embedder.embed
  | .huggingFace embedder => embedder.embed

/-- For runs in which no text is hashed. -/
def Shipped.unasked : Shipped := .hashing ⟨4,fun _ => none⟩

theorem Shipped.embed_width (shipped : Shipped) (respond : List String → Except String (Json R)) (texts : List String)
    (vectors : List (List R)) (ok : shipped.embed respond texts = .ok vectors) :
    ∀ vector ∈ vectors, vector.length = shipped.dimensions := by
  cases shipped with
  | hashing embedder => exact embedder.embed_width texts vectors ok
  | huggingFace embedder => exact embedder.embed_width respond texts vectors ok

end Shipped

section Widths
variable {R : Type} [Scalar R] [Casing]

structure OneWidth (width : Nat) (store : MemoryStore R) : Prop where
  games : ∀ gameId game, store.games.get gameId = some game → game.dense.Sized width
  preferences : ∀ userId preference, store.preferences.get userId = some preference → preference.tasteDense.Sized width

theorem sized_closed (width : Nat) : Closed (fun game : GameProfile R => game.dense.Sized width)
    (fun preference => preference.tasteDense.Sized width) where
  described existing gameId developerId title genres tags publishedAt description made _ described :=
    .inl (HandleGamePublished.describe_ok existing gameId developerId title genres tags publishedAt description made
      described).2.2.2.2.2.2
  bought _ sized := sized
  withdrawn _ sized := sized
  blank _ := .inl rfl
  observed stored about kind at_ after taste dense observed := by
    obtain ⟨made,same,sized⟩ := stored.observe_sized width about kind at_ taste dense
    cases same.symm.trans observed
    exact sized
  rebuilt stored space after _ known rebuilt := by
    obtain ⟨made,same,sized⟩ := stored.rebuiltIn_sized width space fun gameId vector found => by
      obtain ⟨about,dense,equal⟩ := known gameId vector found
      exact equal ▸ dense
    cases same.symm.trans rebuilt
    exact sized

theorem OneWidth.holds {width : Nat} {store : MemoryStore R} (one : OneWidth width store) :
    Holds (fun game => game.dense.Sized width) (fun preference => preference.tasteDense.Sized width) store :=
  ⟨one.games,one.preferences⟩

theorem OneWidth.taste {width : Nat} {store : MemoryStore R} (one : OneWidth width store) (userId : UserId) :
    (store.preferenceOf userId).tasteDense.Sized width :=
  one.holds.preferenceOf (sized_closed width) userId

theorem OneWidth.observed {width : Nat} {store : MemoryStore R} (one : OneWidth width store) (userId : UserId)
    (game : GameProfile R) (dense : game.dense.Sized width) (kind : SignalKind) (at_ : DateTime) :
    ∃ after, (store.preferenceOf userId).observe game kind at_ = .ok after := by
  obtain ⟨after,observed,_⟩ := (store.preferenceOf userId).observe_sized width game kind at_ (one.taste userId) dense
  exact ⟨after,observed⟩

theorem OneWidth.rebuilt {width : Nat} {store : MemoryStore R} (one : OneWidth width store)
    (generation : Generation R) (preference : UserPreference R) :
    ∃ after, Memory.rebuilt generation store preference = .ok after := by
  unfold Memory.rebuilt
  split
  · obtain ⟨after,rebuilt,_⟩ := preference.rebuiltIn_sized width
      (GenerateRecommendations.space (played store preference)) fun gameId vector found => by
        obtain ⟨about,member,same⟩ := List.mem_map.mp (Dict.mem_of_ofList _ gameId vector found)
        obtain ⟨known,_,stored⟩ := List.mem_filterMap.mp member
        have dense : about.dense = vector := congrArg Prod.snd same
        exact dense ▸ one.games known about stored
    exact ⟨after,rebuilt⟩
  · exact ⟨preference,rfl⟩

theorem creditAll_sized (width : Nat) (preferences : PreferenceTable R) (game : GameProfile R) (at_ : DateTime)
    (dense : game.dense.Sized width)
    (stored : ∀ userId known, preferences.get userId = some known → known.tasteDense.Sized width)
    (owners : List UserId) (staged : PreferenceTable R)
    (before : ∀ userId known, staged.get userId = some known → known.tasteDense.Sized width) :
    ∃ credited, creditAll preferences game at_ owners staged = .ok credited := by
  induction owners generalizing staged with
  | nil => exact ⟨staged,rfl⟩
  | cons owner rest ih =>
    have base : (((staged.get owner).or (preferences.get owner)).getD (.blank owner)).tasteDense.Sized width := by
      cases known : staged.get owner with
      | some own => exact before owner own known
      | none =>
        cases kept : preferences.get owner with
        | some own => exact stored owner own kept
        | none => exact .inl rfl
    obtain ⟨observed,folded,sized⟩ := UserPreference.observe_sized width _ game .purchase at_ base dense
    unfold creditAll
    rw [folded]
    exact ih (staged.upsert observed) (preferences_upsert staged observed sized before)

private theorem describe_error (existing : Option (GameProfile R)) (gameId : GameId) (developerId : UserId)
    (title : String) (genres tags : List String) (publishedAt : Option DateTime) (description : String)
    (rule : InvariantViolation)
    (refused : HandleGamePublished.describe existing gameId developerId title genres tags publishedAt description =
      .error rule) : rule.isWidth = false := by
  unfold HandleGamePublished.describe at refused
  split at refused
  · exact GameProfile.redescribed_error _ title genres tags description rule refused
  · exact GameProfile.published_error gameId developerId title genres tags publishedAt description rule refused

private theorem OneWidth.effect_error {width : Nat} {store : MemoryStore R} (one : OneWidth width store)
    (backfillLimit : Nat) (environment : Environment) (event : Event) (rule : InvariantViolation)
    (refused : effect backfillLimit environment store event = .error rule) : rule.isWidth = false := by
  cases event with
  | gamePublished eventId gameId developerId title genres tags publishedAt description =>
    simp only [effect] at refused
    split at refused
    · rename_i broken undescribed
      cases Except.error.inj refused
      exact describe_error _ gameId developerId title genres tags publishedAt description rule undescribed
    rename_i made described
    have dense : made.dense.Sized width := .inl (HandleGamePublished.describe_ok _ _ _ _ _ _ _ _ made described).2.2.2.2.2.2
    obtain ⟨credited,folded⟩ := creditAll_sized width store.preferences made (environment.clock 0) dense
      one.preferences ((store.uncounted made.gameId).take backfillLimit) ∅ fun _ _ none => by cases none
    simp only [backfilled,folded] at refused
    cases refused
  | gameWithdrawn eventId gameId =>
    simp only [effect] at refused
    split at refused <;> cases refused
  | purchaseCompleted eventId recipientId gameId occurredAt =>
    simp only [effect] at refused
    split at refused
    · cases refused
    · rename_i game known
      obtain ⟨after,observed⟩ := one.observed recipientId game (one.games gameId game known) .purchase
        (occurredAt.getD (environment.clock 0))
      simp only [purchased,observed] at refused
      cases refused
  | reviewPosted eventId authorId gameId liked occurredAt =>
    simp only [effect] at refused
    split at refused
    · cases refused
    · rename_i game known
      obtain ⟨after,observed⟩ := one.observed authorId game (one.games gameId game known) (reviewKind liked)
        (occurredAt.getD (environment.clock 0))
      simp only [reviewed,observed] at refused
      cases refused

omit [Casing] in
private theorem constructAll_error (fields : List (RecommendationFields R)) (rule : InvariantViolation)
    (refused : constructAll fields = .error rule) : rule.isWidth = false := by
  rw [constructAll_eq] at refused
  obtain ⟨field,_,failed⟩ := mapM_error _ _ _ refused
  exact Recommendation.construct_error field rule failed

theorem OneWidth.draft_error {width : Nat} {store : MemoryStore R} (one : OneWidth width store)
    (environment : Environment) (generation : Generation R) (userId : UserId) (limit : Nat) (rule : InvariantViolation)
    (refused : draft environment generation userId limit store = .error rule) : rule.isWidth = false := by
  obtain ⟨after,rebuilt⟩ := one.rebuilt generation (store.preferenceOf userId)
  unfold draft at refused
  split at refused
  · cases refused
  rw [rebuilt] at refused
  dsimp only at refused
  split at refused
  · rename_i broken failed
    cases Except.error.inj refused
    exact constructAll_error _ rule failed
  · cases refused

def Attempt.fault (backfillLimit : Nat) (attempt : Attempt R) (store : MemoryStore R) : Option Fault :=
  match attempt.work with
  | .ingest event => (Memory.attempt attempt.environment attempt.cut (event.execute backfillLimit) store).1.fault
  | .generate generation userId limit =>
    (Memory.attempt attempt.environment attempt.cut (GenerateRecommendations.execute generation userId limit) store).1.fault

theorem OneWidth.fault {width : Nat} {store : MemoryStore R} (one : OneWidth width store) (backfillLimit : Nat)
    (attempt : Attempt R) (rule : InvariantViolation)
    (failed : attempt.fault backfillLimit store = some (.violation rule)) : rule.isWidth = false := by
  obtain ⟨work,environment,cut⟩ := attempt
  cases work with
  | ingest event =>
    unfold Attempt.fault at failed
    dsimp only at failed
    rcases attempt_event environment cut backfillLimit event store with ⟨ended,_⟩ | ⟨ended,_⟩
    · rw [ended] at failed
      cases failed
    rw [ended] at failed
    unfold ingest at failed
    split at failed
    · cases failed
    cases done : effect backfillLimit environment store event with
    | ok after =>
      rw [done] at failed
      cases failed
    | error broken =>
      rw [done] at failed
      cases failed
      exact one.effect_error backfillLimit environment event rule done
  | generate generation userId limit =>
    unfold Attempt.fault at failed
    dsimp only at failed
    rcases attempt_generation environment cut generation userId limit store with
      ⟨made,_,ended,_,_,_⟩ | ⟨ended | ⟨broken,drafted,ended⟩,_,_⟩
    · rw [ended] at failed
      cases failed
    · rw [ended] at failed
      cases failed
    · rw [ended] at failed
      cases failed
      exact one.draft_error environment generation userId limit rule drafted

end Widths

section Run
variable {R : Type} [Scalar R] [Casing] [Floats R]

private theorem shipped_answers (shipped : Shipped) :
    (shipped.embed : Embedder R _).Answers fun game => game.dense.Sized shipped.dimensions := by
  intro respond pending vectors _ answered pair member
  exact .inr (shipped.embed_width respond _ vectors answered pair.2 (List.of_mem_zip member).2)

theorem shipped_one_width (backfillLimit : Nat) (shipped : Shipped)
    (moves : List (Move R (List String → Except String (Json R)))) :
    OneWidth shipped.dimensions (Enrichment.run backfillLimit shipped.embed moves).store := by
  have kept := Enrichment.run_kept (sized_closed shipped.dimensions) backfillLimit shipped.embed
    (shipped_answers shipped) moves
  exact ⟨kept.store.games,kept.store.preferences⟩

/-- In every reachable state every dense vector is empty or has the width of the deployment, no fold
or rebuild is refused, and nothing that runs there fails over a width. -/
theorem one_vector_width (backfillLimit : Nat) (shipped : Shipped)
    (moves : List (Move R (List String → Except String (Json R)))) :
    let store := (Enrichment.run backfillLimit shipped.embed moves).store
    (∀ gameId game, store.games.get gameId = some game →
      game.dense = .empty ∨ game.dense.values.length = shipped.dimensions) ∧
    (∀ userId preference, store.preferences.get userId = some preference →
      preference.tasteDense = .empty ∨ preference.tasteDense.values.length = shipped.dimensions) ∧
    (∀ userId gameId game kind at_, store.games.get gameId = some game →
      ∃ after, (store.preferenceOf userId).observe game kind at_ = .ok after) ∧
    (∀ generation userId, ∃ after, rebuilt generation store (store.preferenceOf userId) = .ok after) ∧
    ∀ (attempt : Attempt R) added own,
      attempt.fault backfillLimit store ≠ some (.violation (.widthMismatch added own)) := by
  intro store
  have one : OneWidth shipped.dimensions store := shipped_one_width backfillLimit shipped moves
  refine ⟨one.games,one.preferences,?_,?_,?_⟩
  · intro userId gameId game kind at_ stored
    exact one.observed userId game (one.games gameId game stored) kind at_
  · exact fun generation userId => one.rebuilt generation (store.preferenceOf userId)
  · intro attempt added own failed
    cases one.fault backfillLimit attempt _ failed

end Run
end Memory
end ArcadiaRecommendation
