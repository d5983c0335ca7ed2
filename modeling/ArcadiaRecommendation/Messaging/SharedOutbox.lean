import ArcadiaRecommendation.Foundation.Runs
import ArcadiaRecommendation.Messaging.Outbox
import Mathlib.Logic.Function.Basic

/-! Several replicas over one outbox table. Each claims rows and works through its own copies of
them, one call to the publisher and one update at a time, while the others do the same. -/
namespace ArcadiaRecommendation
variable {R : Type}

namespace OutboxStore

def copies (outbox : OutboxTable R) (claimed : List UUID) : List (OutboxRecord R) := claimed.filterMap outbox.get

/-- What a claim may return: ready rows, oldest first and so many at most. Rows that another statement
has locked are skipped, and rows of one time come in any order. -/
def Offers (store : OutboxStore) (now : DateTime) (limit : Nat) (outbox : OutboxTable R) (claimed : List UUID) : Prop :=
  claimed.Nodup ∧ claimed.length ≤ store.bound limit ∧ (∀ id ∈ claimed, (outbox.get id).any (ready now) = true) ∧
    (copies outbox claimed).Pairwise fun first second => first.occurredAt.micros ≤ second.occurredAt.micros

instance (store : OutboxStore) (now : DateTime) (limit : Nat) (outbox : OutboxTable R) (claimed : List UUID) :
    Decidable (store.Offers now limit outbox claimed) := inferInstanceAs (Decidable (_ ∧ _ ∧ _ ∧ _))

end OutboxStore

/-- The pass of one replica: when it began, and its copies that are still to be published. -/
structure Pass (R : Type) where
  now : DateTime := ⟨0⟩
  batch : List (OutboxRecord R) := []

structure SharedOutbox (I R : Type) where
  outbox : OutboxTable R := ∅
  passes : I → Pass R := fun _ => {}

inductive SharedMove (I R : Type)
  | commit (record : StagedRecord R)
  /-- A replica starts a pass with the rows it claims, once its last one is over. -/
  | drain (replica : I) (now : DateTime) (claimed : List UUID)
  /-- The call for the first copy has ended, however late, and its update is made. -/
  | publish (replica : I) (result : PublishResult)
  /-- The pass ends early, as when the replica dies. -/
  | abandon (replica : I)

namespace SharedOutbox
variable {I : Type} [DecidableEq I]

/-- A row of a known id is refused by the primary key. -/
def after (store : OutboxStore) (limit : Nat) (shared : SharedOutbox I R) : SharedMove I R → SharedOutbox I R
  | .commit record =>
    if shared.outbox.contains record.id then shared
    else { shared with outbox := shared.outbox.upsert record.toOutboxRecord }
  | .drain replica now claimed =>
    if (shared.passes replica).batch.isEmpty = true ∧ store.Offers now limit shared.outbox claimed then
      let batch := OutboxStore.copies shared.outbox claimed
      { outbox := store.handedOut now batch shared.outbox, passes := Function.update shared.passes replica { now, batch } }
    else shared
  | .publish replica result =>
    let pass := shared.passes replica
    match pass.batch with
    | [] => shared
    | copy :: rest =>
      { outbox := store.record shared.outbox result (OutboxDispatcher.publish copy pass.now result)
        passes := Function.update shared.passes replica { pass with batch := rest } }
  | .abandon replica =>
    { shared with passes := Function.update shared.passes replica { shared.passes replica with batch := [] } }

def run (store : OutboxStore) (limit : Nat) (moves : List (SharedMove I R)) : SharedOutbox I R :=
  moves.foldl (after store limit) {}

end SharedOutbox
end ArcadiaRecommendation
