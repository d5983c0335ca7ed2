import ArcadiaRecommendation.Memory.Attempt
import ArcadiaRecommendation.Memory.Sweep

/-! The loop of the sweep over its users. Each is generated in a unit of work of its own,
and one that fails is passed over. -/
namespace ArcadiaRecommendation
namespace Memory
variable {R : Type} [Scalar R] [Casing]

/-- One user of the loop, with the process as it stands then and the exception that comes. -/
structure Turn where
  userId : UserId
  environment : Environment
  cut : Option Nat := none

def Turn.attempt (generation : Generation R) (limit : Nat) (turn : Turn) (store : MemoryStore R) :
    Outcome Fault Nat × Session R :=
  Memory.attempt turn.environment turn.cut (GenerateRecommendations.execute generation turn.userId limit) store

structure Refreshing (R : Type) [Scalar R] [Casing] where
  store : MemoryStore R
  enqueued : List (OutboxRecord R) := []
  outcomes : List (Outcome Fault Nat) := []
  processed : Nat := 0
  written : Nat := 0

namespace Refreshing

def visit (generation : Generation R) (limit : Nat) (refreshing : Refreshing R) (turn : Turn) : Refreshing R :=
  let (outcome,session) := turn.attempt generation limit refreshing.store
  let after := { refreshing with
    store := session.store
    enqueued := refreshing.enqueued ++ session.released
    outcomes := refreshing.outcomes ++ [outcome] }
  match outcome with
  | .returned written => { after with processed := after.processed + 1, written := after.written + written }
  | .raised _ | .interrupted => after

def loop (generation : Generation R) (limit : Nat) (turns : List Turn) (store : MemoryStore R) : Refreshing R :=
  turns.foldl (visit generation limit) { store }

def report (refreshing : Refreshing R) (at_ : DateTime) : RefreshReport :=
  { usersProcessed := refreshing.processed, recommendationsWritten := refreshing.written, generatedAt := at_ }

end Refreshing
end Memory
end ArcadiaRecommendation
