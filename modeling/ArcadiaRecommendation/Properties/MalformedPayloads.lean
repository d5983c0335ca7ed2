import ArcadiaRecommendation.Properties.Widths
import ArcadiaRecommendation.Sql.Mapping

/-! Foreign payloads of any shape: what a handler does not understand it ignores, and what it hands
to a use case goes through unless a label is refused. -/
namespace ArcadiaRecommendation

section
variable [Casing]

def Event.Accepted : Event → Prop
  | .gamePublished _ _ _ _ genres tags _ _ => Acceptable "genre" genres ∧ Acceptable "tag" tags
  | .gameWithdrawn .. | .purchaseCompleted .. | .reviewPosted .. => True

def Event.Titled : Event → Prop
  | .gamePublished _ _ _ title _ _ _ _ => Text.strip title ≠ "" ∧ title.length ≤ Limits.maxTitleChars
  | .gameWithdrawn .. | .purchaseCompleted .. | .reviewPosted .. => True

variable {R : Type} [Scalar R] [Formats R]

theorem Consumer.event_titled (consumer : Consumer) (record : OutboxRecord R) (eventId : UUID) (event : Event)
    (made : consumer.event record eventId = some event) : event.Titled ∧ event.eventId = eventId := by
  cases consumer <;> simp only [Consumer.event,Option.bind_eq_bind,Option.bind_eq_some_iff] at made
  case gamePublished =>
    obtain ⟨gameId,_,developerId,_,rest⟩ := made
    split at rest
    · cases rest
    rename_i title
    cases Option.some.inj rest
    exact ⟨⟨Text.strip_firstChars _ 199 title,Text.length_firstChars 200 _⟩,rfl⟩
  case gameWithdrawn =>
    obtain ⟨gameId,_,same⟩ := made
    cases Option.some.inj same
    exact ⟨trivial,rfl⟩
  case purchaseCompleted =>
    obtain ⟨recipientId,_,gameId,_,same⟩ := made
    cases Option.some.inj same
    exact ⟨trivial,rfl⟩
  case reviewPosted =>
    obtain ⟨authorId,_,gameId,_,same⟩ := made
    cases Option.some.inj same
    exact ⟨trivial,rfl⟩

end

namespace Memory
variable {R : Type} [Scalar R] [Casing]

/-- Where all vectors have one width, an event with a usable title takes effect exactly when its
labels are accepted. -/
theorem OneWidth.effect_total_iff {width : Nat} {store : MemoryStore R} (one : OneWidth width store)
    (backfillLimit : Nat) (environment : Environment) (event : Event) (titled : event.Titled) :
    (∃ after, effect backfillLimit environment store event = .ok after) ↔ event.Accepted := by
  cases event with
  | gamePublished eventId gameId developerId title genres tags publishedAt description =>
    have labels := HandleGamePublished.describe_total_iff (store.games.get gameId) gameId developerId title genres tags
      publishedAt description titled.1 titled.2
    simp only [effect]
    refine Iff.trans ?_ labels
    split
    · rename_i rule refused
      rw [refused]
      refine iff_of_false ?_ ?_ <;>
      · rintro ⟨_,done⟩
        cases done
    · rename_i game described
      have bare := (HandleGamePublished.describe_ok _ _ _ _ _ _ _ _ game described).2.2.2.2.2.2
      obtain ⟨credited,folded⟩ := creditAll_sized width store.preferences game (environment.clock 0) (.inl bare)
        one.preferences ((store.uncounted game.gameId).take backfillLimit) ∅ fun _ _ none => by cases none
      rw [described]
      refine iff_of_true ?_ ⟨game,rfl⟩
      simp only [backfilled,folded]
      exact ⟨_,rfl⟩
  | gameWithdrawn eventId gameId =>
    refine iff_of_true ?_ trivial
    simp only [effect]
    split <;> exact ⟨_,rfl⟩
  | purchaseCompleted eventId recipientId gameId occurredAt =>
    refine iff_of_true ?_ trivial
    simp only [effect]
    split
    · exact ⟨_,rfl⟩
    · rename_i game known
      obtain ⟨after,observed⟩ := one.observed recipientId game (one.games gameId game known) .purchase
        (occurredAt.getD (environment.clock 0))
      simp only [purchased,observed]
      exact ⟨_,rfl⟩
  | reviewPosted eventId authorId gameId liked occurredAt =>
    refine iff_of_true ?_ trivial
    simp only [effect]
    split
    · exact ⟨_,rfl⟩
    · rename_i game known
      obtain ⟨after,observed⟩ := one.observed authorId game (one.games gameId game known) (reviewKind liked)
        (occurredAt.getD (environment.clock 0))
      simp only [reviewed,observed]
      exact ⟨_,rfl⟩

private theorem guarded_uncommitted (environment : Environment) (eventId : UUID) (marked : Bool)
    (useCase : UseCase R Unit) (guarded : Guarded eventId marked useCase) (session : Session R)
    (uncommitted : (useCase.run (handle environment) session).2.committed = false) :
    (useCase.run (handle environment) session).2.store = session.store := by
  induction guarded generalizing session with
  | done marked => rfl
  | fail marked fault => rfl
  | mark marked next rest ih => exact ih { session with processed := insert eventId session.processed } uncommitted
  | commit next last =>
    simp only [Program.run,handle,last] at uncommitted
    cases uncommitted
  | plain marked op next plain rest ih =>
    obtain ⟨pair,answered⟩ := handle_total environment op session
    obtain ⟨same,_,_⟩ := handle_plain environment op session pair.2 pair.1 plain answered
    simp only [Program.run,answered] at uncommitted ⊢
    exact (ih pair.1 pair.2 uncommitted).trans same

variable [Formats R]

/-- The handler returns, and either committed a use case or left the read-model as it was. -/
def Completes (backfillLimit : Nat) (environment : Environment) (consumer : Consumer) (record : OutboxRecord R)
    (store : MemoryStore R) : Prop :=
  ∃ session, (consumer.call backfillLimit record).run (handle environment) { store } = (.ok (),session) ∧
    (session.committed = true ∨ session.store.games = store.games ∧ session.store.preferences = store.preferences ∧
      session.store.ownerships = store.ownerships)

private theorem completes_iff_returns (backfillLimit : Nat) (environment : Environment) (consumer : Consumer)
    (record : OutboxRecord R) (store : MemoryStore R) (eventId : UUID)
    (identified : Envelope.eventIdOf record = .ok eventId) :
    Completes backfillLimit environment consumer record store ↔
      (execute environment (consumer.call backfillLimit record) store).1 = .ok () := by
  have ran : execute environment (consumer.call backfillLimit record) store =
      (((consumer.call backfillLimit record).run (handle environment) { store }).1,
        ((consumer.call backfillLimit record).run (handle environment) { store }).2.store) := rfl
  rw [ran]
  constructor
  · rintro ⟨session,returned,_⟩
    rw [returned]
  · intro returned
    refine ⟨_,Prod.ext returned rfl,?_⟩
    cases committed : ((consumer.call backfillLimit record).run (handle environment) { store }).2.committed with
    | true => exact .inl rfl
    | false =>
      have same := guarded_uncommitted environment eventId false _
        (call_guarded backfillLimit consumer record eventId identified) { store } committed
      rw [same]
      exact .inr ⟨rfl,rfl,rfl⟩

/-- In every reachable state a handler completes, whatever the payload, exactly when the event has been
handled before or the labels it makes of the payload are accepted. -/
theorem foreign_payload_completes_iff [Floats R] (backfillLimit : Nat) (shipped : Shipped)
    (moves : List (Move R (List String → Except String (Json R)))) (environment : Environment) (consumer : Consumer)
    (record : OutboxRecord R) (eventId : UUID) (identified : Envelope.eventIdOf record = .ok eventId) :
    let store := (Enrichment.run backfillLimit shipped.embed moves).store
    Completes backfillLimit environment consumer record store ↔
      eventId ∈ store.processedEvents ∨ ∀ event, consumer.event record eventId = some event → event.Accepted := by
  intro store
  have one : OneWidth shipped.dimensions store := shipped_one_width backfillLimit shipped moves
  rw [completes_iff_returns backfillLimit environment consumer record store eventId identified,
    consumer.call_event backfillLimit record eventId identified]
  cases made : consumer.event record eventId with
  | none => exact iff_of_true rfl (.inr fun _ absurd_ => by cases absurd_)
  | some event =>
    obtain ⟨titled,same⟩ := consumer.event_titled record eventId event made
    have total := one.effect_total_iff backfillLimit environment event titled
    rw [Option.map_some,Option.getD_some,execute_ingest,ingest,same]
    simp only [Option.some.injEq,forall_eq']
    rw [← total]
    by_cases known : eventId ∈ store.processedEvents
    · rw [if_pos known]
      exact iff_of_true rfl (.inl known)
    · rw [if_neg known,or_iff_right known]
      cases effect backfillLimit environment store event with
      | ok after => exact iff_of_true rfl ⟨after,rfl⟩
      | error rule => exact iff_of_false (fun done => by cases done) fun ⟨_,done⟩ => by cases done

end Memory

namespace Memory
attribute [local instance] Casing.unchanged Columns.canonicalFormats Columns.canonicalFloats

def foreignRecord (payload : List (String × Json ℚ)) : OutboxRecord ℚ where
  id := ⟨1⟩
  aggregateId := ⟨1⟩
  aggregateType := "game"
  eventType := "arcadia.catalog.v1.GamePublished"
  payload := [("payload",.dict payload)]
  occurredAt := ⟨0⟩

def labelledRecord (genre : String) : OutboxRecord ℚ :=
  foreignRecord [("game_id",.str (⟨⟨1⟩⟩ : GameId).str),("developer_id",.str (⟨⟨9⟩⟩ : UserId).str),("title",.str "Race"),
    ("genres",.list [.str genre])]

/-- A game is published, and one user buys it. -/
def soldRace : List (Move ℚ (List String → Except String (Json ℚ))) :=
  [Event.gamePublished ⟨7⟩ ⟨⟨1⟩⟩ ⟨⟨9⟩⟩ "Race" ["racing"] [] none "",.purchaseCompleted ⟨8⟩ ⟨⟨1⟩⟩ ⟨⟨1⟩⟩ none].map
    fun event => .work ⟨.ingest event,.fixed,none⟩

theorem foreign_payload_completes_iff_racing :
    Completes 500 .fixed .gamePublished (labelledRecord "board") (Enrichment.run 500 Shipped.unasked.embed soldRace).store ↔
      (⟨1⟩ : UUID) ∈ (Enrichment.run 500 Shipped.unasked.embed soldRace).store.processedEvents ∨
        ∀ event, Consumer.gamePublished.event (labelledRecord "board") ⟨1⟩ = some event → event.Accepted :=
  foreign_payload_completes_iff 500 Shipped.unasked soldRace .fixed .gamePublished (labelledRecord "board") ⟨1⟩ rfl

/-- A genre of sixty characters makes a feature that is too long, and the handler raises. -/
theorem long_genre_raises : ¬∀ (moves : List (Move ℚ (List String → Except String (Json ℚ)))) (consumer : Consumer)
    (record : OutboxRecord ℚ) (eventId : UUID), Envelope.eventIdOf record = .ok eventId →
      Completes 500 .fixed consumer record (Enrichment.run 500 Shipped.unasked.embed moves).store := by
  intro claim
  obtain ⟨session,returned,_⟩ := claim [] .gamePublished (labelledRecord ("".pushn 'a' 60)) ⟨1⟩ rfl
  have raised : ((Consumer.gamePublished.call 500 (labelledRecord ("".pushn 'a' 60))).run (handle .fixed)
      { store := {} }).1.isOk = false := by
    decide +kernel
  have start : (Enrichment.run 500 Shipped.unasked.embed ([] : List (Move ℚ _))).store = {} := rfl
  rw [← start,returned] at raised
  cases raised

end Memory
end ArcadiaRecommendation
