import ArcadiaRecommendation.Memory.Enrichment
import ArcadiaRecommendation.Sql.Ingest
import ArcadiaRecommendation.Foundation.Simulation

/-! Embedding passes beside ingest over the relational backend, turn by turn as in memory. -/
namespace ArcadiaRecommendation
variable {R : Type} [Scalar R] [Casing] {Body : Type}

inductive Task (Body : Type)
  | ingest (event : Event)
  /-- A new embedding pass reads its batch. -/
  | read (batchSize : Nat)
  | answer (place : Nat) (body : Body)
  | write (place : Nat)

/-- One unit of work or one answer of the provider, with what surrounds it on either backend. -/
structure Turn (R Body : Type) [Scalar R] where
  backend : Backend R
  cut : Option Nat := none
  task : Task Body

def Turn.move (turn : Turn R Body) : Memory.Move R Body :=
  match turn.task with
  | .ingest event => .work { work := .ingest event, environment := turn.backend.environment, cut := turn.cut }
  | .read batchSize => .read turn.backend.environment batchSize
  | .answer place body => .answer place body
  | .write place => .write place turn.backend.environment turn.cut

/-- The clock of a later unit of work is ahead of every reading of an earlier one. -/
def Turn.Before (first second : Turn R Body) : Prop :=
  ∀ earlier later, (first.backend.environment.clock earlier).micros < (second.backend.environment.clock later).micros

namespace Sql
variable [DecidableEq R] {width : Nat}

/-- One unit of work from entry to exit. Leaving without a commit rolls it back. -/
def attempt {A : Type} (backend : Backend R) (cut : Option Nat) (useCase : UseCase R A) (database : Database R width) :
    Outcome Fault A × Database R width :=
  let party := unitOfWork useCase
  let ended := party.program.runUntil (SharedHandler.joint (handle backend)) cut (party.own,database)
  (ended.1,ended.2.2)

structure Enrichment (R : Type) [Scalar R] [DecidableEq R] [Casing] (width : Nat) where
  database : Database R width := {}
  passes : List (Memory.Pass R) := []

namespace Enrichment

def after (backfillLimit : Nat) (embed : Memory.Embedder R Body) (enrichment : Enrichment R width) (turn : Turn R Body) :
    Enrichment R width :=
  match turn.task with
  | .ingest event =>
    { enrichment with database := (attempt turn.backend turn.cut (event.execute backfillLimit) enrichment.database).2 }
  | .read batchSize =>
    match (attempt turn.backend none (EmbedPendingGames.pending batchSize) enrichment.database).1 with
    | .returned (first :: rest) => { enrichment with passes := enrichment.passes ++ [.asked (first :: rest)] }
    | .returned [] | .raised _ | .interrupted => enrichment
  | .answer place body =>
    match enrichment.passes[place]? with
    | some (.asked pending) =>
      match embed body (pending.map (·.embeddingText)) with
      | .ok vectors => { enrichment with passes := enrichment.passes.set place (.answered pending vectors) }
      | .error _ => { enrichment with passes := enrichment.passes.eraseIdx place }
    | some (.answered _ _) | none => enrichment
  | .write place =>
    match enrichment.passes[place]? with
    | some (.answered pending vectors) =>
      { database := (attempt turn.backend turn.cut (EmbedPendingGames.store pending vectors) enrichment.database).2
        passes := enrichment.passes.eraseIdx place }
    | some (.asked _) | none => enrichment

def run (backfillLimit : Nat) (embed : Memory.Embedder R Body) (turns : List (Turn R Body)) : Enrichment R width :=
  turns.foldl (after backfillLimit embed) {}

/-- How the unit of work of a turn would end. -/
def outcome (backfillLimit : Nat) (enrichment : Enrichment R width) (turn : Turn R Body) : Option (Outcome Fault Unit) :=
  match turn.task with
  | .ingest event => some (attempt turn.backend turn.cut (event.execute backfillLimit) enrichment.database).1
  | .write place =>
    match enrichment.passes[place]? with
    | some (.answered pending vectors) =>
      some (attempt turn.backend turn.cut (EmbedPendingGames.store pending vectors) enrichment.database).1
    | some (.asked _) | none => none
  | .read _ | .answer _ _ => none

end Enrichment
end Sql

def Memory.Enrichment.outcome (backfillLimit : Nat) (enrichment : Memory.Enrichment R)
    (turn : ArcadiaRecommendation.Turn R Body) : Option (Outcome Fault Unit) :=
  match turn.task with
  | .ingest event =>
    some (Memory.attempt turn.backend.environment turn.cut (event.execute backfillLimit) enrichment.store).1
  | .write place =>
    match enrichment.passes[place]? with
    | some (.answered pending vectors) =>
      some (Memory.attempt turn.backend.environment turn.cut (EmbedPendingGames.store pending vectors) enrichment.store).1
    | some (.asked _) | none => none
  | .read _ | .answer _ _ => none

end ArcadiaRecommendation
