import ArcadiaRecommendation.Memory.Store
import ArcadiaRecommendation.Messaging.Consumers

/-! Deliveries of inbound messages to the subscribed handlers over the in-memory
backend. A delivery runs to its end, or an exception cuts it off between two
operations. It has had its effect once its unit of work committed or it returned. -/
namespace ArcadiaRecommendation
namespace Memory
variable {R : Type} [Scalar R] [Casing]

/-- The shape of every ingest use case: it marks its event before it commits, and
nothing follows the commit. -/
inductive Guarded (eventId : UUID) : Bool → UseCase R Unit → Prop
  | done (marked : Bool) : Guarded eventId marked (.done ())
  | fail (marked : Bool) (fault : Fault) : Guarded eventId marked (.fail fault)
  | mark (marked : Bool) (next : Unit → UseCase R Unit) (rest : Guarded eventId true (next ())) :
    Guarded eventId marked (.call (.mark eventId) next)
  | commit (next : Unit → UseCase R Unit) (last : next () = .done ()) :
    Guarded eventId true (.call .commit next)
  | plain (marked : Bool) (op : Op R) (next : Answer op → UseCase R Unit) (plain : Plain op)
    (rest : ∀ answer, Guarded eventId marked (next answer)) : Guarded eventId marked (.call op next)

theorem guarded_bind {A : Type} (eventId : UUID) (marked : Bool) (program : UseCase R A)
    (next : A → UseCase R Unit) (only : program.Only Plain)
    (rest : ∀ value, Guarded eventId marked (next value)) : Guarded eventId marked (program.bind next) := by
  induction program with
  | done value => exact rest value
  | fail fault => exact .fail marked fault
  | call op tail ih => exact .plain marked op _ only.1 fun answer => ih answer (only.2 answer)

theorem guarded_check {A : Type} (eventId : UUID) (marked : Bool) (result : Except InvariantViolation A)
    (next : A → UseCase R Unit) (rest : ∀ value, Guarded eventId marked (next value)) :
    Guarded eventId marked ((check result).bind next) :=
  guarded_bind eventId marked _ next (Program.only_ofExcept Plain _) rest

theorem guarded_seal (eventId : UUID) (marked : Bool) :
    Guarded (R := R) eventId marked ((ProcessedEvents.mark eventId).bind fun _ => commit) :=
  .mark marked _ (.commit _ rfl)

theorem guarded_unless (eventId : UUID) (rest : UseCase R Unit) (guarded : Guarded eventId false rest) :
    Guarded eventId false ((alreadyHandled eventId).bind fun handled => if handled then .done () else rest) := by
  apply Guarded.plain
  · trivial
  intro handled
  show Guarded eventId false (if handled then .done () else rest)
  split
  · exact .done false
  · exact guarded

def Staging : Op R → Prop
  | .getGame _ | .upsertGame _ | .getPreference _ | .upsertPreference _ | .recordOwnership _ _ _
  | .uncountedOwners _ _ | .markCounted _ _ | .now => True
  | _ => False

private theorem plain_of_staging (op : Op R) (staging : Staging op) : Plain op := by
  cases op <;> first | exact staging.elim | trivial

theorem guarded_staged {A : Type} (eventId : UUID) (marked : Bool) (program : UseCase R A)
    (next : A → UseCase R Unit) (only : program.Only Staging)
    (rest : ∀ value, Guarded eventId marked (next value)) : Guarded eventId marked (program.bind next) :=
  guarded_bind eventId marked program next (Program.only_mono Staging Plain program plain_of_staging only) rest

theorem only_preferenceOf (userId : UserId) : (preferenceOf (R := R) userId).Only Staging :=
  ⟨trivial,fun _ => trivial⟩

theorem only_momentOf (occurredAt : Option DateTime) : (momentOf (R := R) occurredAt).Only Staging := by
  cases occurredAt with
  | none => exact ⟨trivial,fun _ => trivial⟩
  | some moment => trivial

private theorem only_credit (game : GameProfile R) (at_ : DateTime) (userId : UserId) :
    (HandleGamePublished.credit game at_ userId).Only Staging := by
  apply Program.only_bind _ _ _ (only_preferenceOf userId)
  intro preference
  apply Program.only_bind _ _ _ (Program.only_ofExcept Staging _)
  intro observed
  exact ⟨trivial,fun _ => trivial⟩

theorem only_backfill (backfillLimit : Nat) (game : GameProfile R) :
    (HandleGamePublished.backfill backfillLimit game).Only Staging := by
  refine ⟨trivial,fun owners => ?_⟩
  show Program.Only Staging (if List.isEmpty owners then _ else _)
  split
  · trivial
  refine ⟨trivial,fun at_ => ?_⟩
  apply Program.only_bind Staging (Program.forEach (HandleGamePublished.credit game at_) owners)
  · exact Program.only_forEach Staging _ _ fun userId _ => only_credit game at_ userId
  · intro credited
    exact ⟨trivial,fun _ => trivial⟩

/-- Every use case checks its event first, marks it before it commits, and does
nothing after its commit. -/
theorem execute_guarded (backfillLimit : Nat) (event : Event) :
    Guarded event.eventId false (event.execute backfillLimit : UseCase R Unit) := by
  cases event with
  | gamePublished eventId gameId developerId title genres tags publishedAt description =>
    apply guarded_unless
    apply Guarded.plain
    · trivial
    intro existing
    apply guarded_check
    intro game
    apply Guarded.plain
    · trivial
    intro stored
    apply guarded_staged _ _ _ _ (only_backfill backfillLimit game)
    intro credited
    exact guarded_seal eventId false
  | gameWithdrawn eventId gameId =>
    apply guarded_unless
    apply Guarded.plain
    · trivial
    intro existing
    cases existing with
    | none => exact guarded_seal eventId false
    | some game =>
      apply Guarded.plain
      · trivial
      intro stored
      exact guarded_seal eventId false
  | purchaseCompleted eventId recipientId gameId occurredAt =>
    apply guarded_unless
    apply Guarded.plain
    · trivial
    intro existing
    cases existing with
    | none =>
      apply Guarded.plain
      · trivial
      intro recorded
      exact guarded_seal eventId false
    | some game =>
      apply guarded_staged _ _ _ _ (only_preferenceOf recipientId)
      intro preference
      apply guarded_staged _ _ _ _ (only_momentOf occurredAt)
      intro moment
      apply guarded_check
      intro observed
      refine .plain _ _ _ trivial fun _ => .plain _ _ _ trivial fun _ => .plain _ _ _ trivial fun _ => ?_
      exact guarded_seal eventId false
  | reviewPosted eventId authorId gameId liked occurredAt =>
    apply guarded_unless
    apply Guarded.plain
    · trivial
    intro existing
    cases existing with
    | none => exact guarded_seal eventId false
    | some game =>
      apply guarded_staged _ _ _ _ (only_preferenceOf authorId)
      intro preference
      apply guarded_staged _ _ _ _ (only_momentOf occurredAt)
      intro moment
      apply guarded_check
      intro observed
      refine .plain _ _ _ trivial fun _ => ?_
      exact guarded_seal eventId false

variable [Formats R]

theorem call_guarded (backfillLimit : Nat) (consumer : Consumer) (record : OutboxRecord R) (eventId : UUID)
    (identified : Envelope.eventIdOf record = .ok eventId) :
    Guarded eventId false (consumer.call backfillLimit record) := by
  cases consumer with
  | gamePublished =>
    simp only [Consumer.call,GamePublishedHandler.call,identified]
    split
    · split
      · exact .done false
      · exact execute_guarded backfillLimit (.gamePublished eventId _ _ _ _ _ _ _)
    · exact .done false
  | gameWithdrawn =>
    simp only [Consumer.call,GameWithdrawnHandler.call,identified]
    split
    · exact execute_guarded backfillLimit (.gameWithdrawn eventId _)
    · exact .done false
  | purchaseCompleted =>
    simp only [Consumer.call,PurchaseCompletedHandler.call,identified]
    split
    · exact execute_guarded backfillLimit (.purchaseCompleted eventId _ _ _)
    · exact .done false
  | reviewPosted =>
    simp only [Consumer.call,ReviewPostedHandler.call,identified]
    split
    · exact execute_guarded backfillLimit (.reviewPosted eventId _ _ _ _)
    · exact .done false

/-- One attempt at handling one message. Without a cut it runs to its end. -/
structure Delivery (R : Type) where
  consumer : Consumer
  record : OutboxRecord R
  environment : Environment
  cut : Option Nat

namespace Delivery

def eventId (delivery : Delivery R) : Except Fault UUID := Envelope.eventIdOf delivery.record

def uncut (delivery : Delivery R) : Delivery R := { delivery with cut := none }

def run (backfillLimit : Nat) (delivery : Delivery R) (store : MemoryStore R) : Outcome Fault Unit × Session R :=
  (delivery.consumer.subscribed backfillLimit delivery.record).runUntil
    (handle delivery.environment) delivery.cut { store }

def deliver (backfillLimit : Nat) (delivery : Delivery R) (store : MemoryStore R) : MemoryStore R :=
  (delivery.run backfillLimit store).2.store

def effective (backfillLimit : Nat) (delivery : Delivery R) (store : MemoryStore R) : Bool :=
  (delivery.run backfillLimit store).2.committed || (delivery.run backfillLimit store).1.hasReturned

end Delivery

end Memory
end ArcadiaRecommendation
