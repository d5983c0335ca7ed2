import ArcadiaRecommendation.Foundation.Replacement
import ArcadiaRecommendation.Memory.Attempt
import ArcadiaRecommendation.Sql.Ingest

/-! Two replicas that generate one user's list at the same time, each in a unit of work of its own,
with ingest transactions among their operations. -/
namespace ArcadiaRecommendation
namespace Sql
variable {R : Type} [Scalar R] [DecidableEq R] [Casing] {width : Nat}

structure Replicas (R : Type) [Scalar R] [DecidableEq R] [Casing] (width : Nat) where
  database : Database R width
  parties : Side → Party (Op R) Answer Fault (Session R width) Nat
  ingests : Nat → Party (Op R) Answer Fault (Session R width) Unit
  /-- The list a replica has handed to `replace_for`, with the ids its DELETE found. -/
  staged : Side → Option (Staged (Recommendation R) RecommendationId) := fun _ => none
  committed : List Side := []

inductive ReplicaMove
  | step (side : Side)
  | ingest (index : Nat)

namespace Replicas

def start (generation : Side → Generation R) (limit : Side → Nat) (userId : UserId) (backfillLimit : Nat)
    (events : Nat → Event) (database : Database R width) : Replicas R width where
  database
  parties side := unitOfWork (GenerateRecommendations.execute (generation side) userId (limit side))
  ingests index := handling backfillLimit (events index)

def rows (replicas : Replicas R width) (userId : UserId) : List (Recommendation R) :=
  replicas.database.recommendations.filter (·.userId = userId)

/-- What is recorded of an operation that was answered. -/
def noted (replicas : Replicas R width) (side : Side) : Op R → Replicas R width
  | .replaceFor userId items =>
    let found := ((visible (replicas.parties side).own replicas.database).recommendations.filter
      (·.userId = userId)).map (·.id)
    { replicas with staged := Function.update replicas.staged side (some { items, found, seen := replicas.committed }) }
  | .commit => { replicas with committed := replicas.committed ++ [side] }
  | _ => replicas

def stepped (backends : Side → Backend R) (replicas : Replicas R width) (side : Side) : Replicas R width :=
  let (party,database) := (replicas.parties side).step (handle (backends side)) replicas.database
  let noted := match (replicas.parties side).program with
    | .call op _ => if (handle (backends side) op replicas.database (replicas.parties side).own).isOk
      then replicas.noted side op else replicas
    | .done _ | .fail _ => replicas
  { noted with database, parties := Function.update replicas.parties side party }

def ingested (backend : Backend R) (replicas : Replicas R width) (index : Nat) : Replicas R width :=
  let (party,database) := (replicas.ingests index).step (handle backend) replicas.database
  { replicas with database, ingests := Function.update replicas.ingests index party }

def after (backends : Side → Backend R) (ingesting : Backend R) (replicas : Replicas R width) :
    ReplicaMove → Replicas R width
  | .step side => replicas.stepped backends side
  | .ingest index => replicas.ingested ingesting index

def run (backends : Side → Backend R) (ingesting : Backend R) (replicas : Replicas R width)
    (moves : List ReplicaMove) : Replicas R width :=
  moves.foldl (after backends ingesting) replicas

/-- A replica that writes something starts its replacement before the other has one, or after the
other has committed it. -/
def Spaced (replicas : Replicas R width) : ReplicaMove → Prop
  | .ingest _ => True
  | .step side =>
    match (replicas.parties side).program,replicas.staged side.other with
    | .call (.replaceFor _ items) _,some theirs => side.other ∈ replicas.committed ∨ theirs.items = [] ∨ items = []
    | _,_ => True

instance (replicas : Replicas R width) (move : ReplicaMove) : Decidable (replicas.Spaced move) := by
  unfold Spaced
  split
  · infer_instance
  · split <;> infer_instance

end Replicas

def Gathering : Op R → Prop
  | .getPreference _ | .upsertPreference _ | .gamesByIds _ | .recommendable _ | .coPurchases _ _ _ | .explain _ | .now
  | .newUuid | .enqueue _ => True
  | _ => False

/-- The shape of a generation: one list with ranks from 1 and fresh ids, then one commit at the end. -/
inductive Replacing (userId : UserId) (fresh : UUID → Prop) : Option (List (Recommendation R)) → UseCase R Nat → Prop
  | fail (list : Option (List (Recommendation R))) (fault : Fault) : Replacing userId fresh list (.fail fault)
  | newUuid (list : Option (List (Recommendation R))) (next : UUID → UseCase R Nat)
    (rest : ∀ id, fresh id → Replacing userId fresh list (next id)) : Replacing userId fresh list (.call .newUuid next)
  | gather (list : Option (List (Recommendation R))) (op : Op R) (next : Answer op → UseCase R Nat)
    (gathering : Gathering op) (rest : ∀ answer, Replacing userId fresh list (next answer)) :
    Replacing userId fresh list (.call op next)
  | replace (items : List (Recommendation R)) (next : Unit → UseCase R Nat)
    (ranks : items.map (·.rank) = List.range' 1 items.length)
    (own : ∀ item ∈ items, item.userId = userId ∧ fresh item.id.value)
    (rest : Replacing userId fresh (some items) (next ())) :
    Replacing userId fresh none (.call (.replaceFor userId items) next)
  | commit (items : List (Recommendation R)) (next : Unit → UseCase R Nat) (last : (next ()).finished = true) :
    Replacing userId fresh (some items) (.call .commit next)

section Shape
variable {userId : UserId} {fresh : UUID → Prop} {list : Option (List (Recommendation R))}

omit [DecidableEq R] in
theorem replacing_bind {A : Type} (program : UseCase R A) (next : A → UseCase R Nat) (only : program.Only Gathering)
    (rest : ∀ value, Replacing userId fresh list (next value)) : Replacing userId fresh list (program.bind next) := by
  induction program with
  | done value => exact rest value
  | fail fault => exact .fail list fault
  | call op tail ih => exact .gather list op _ only.1 fun answer => ih answer (only.2 answer)

omit [DecidableEq R] in
private theorem replacing_check {A : Type} (result : Except InvariantViolation A) (next : A → UseCase R Nat)
    (rest : ∀ value, result = .ok value → Replacing userId fresh list (next value)) :
    Replacing userId fresh list ((check result).bind next) := by
  cases result with
  | error rule => exact .fail list _
  | ok value => exact rest value rfl

omit [DecidableEq R] in
private theorem replacing_items (at_ : DateTime) (entries : List (ScoredGame R × Nat))
    (next : List (Recommendation R) → UseCase R Nat) (rest : ∀ items, items.map (·.rank) = entries.map (·.2) →
      (∀ item ∈ items, item.userId = userId ∧ fresh item.id.value) → Replacing userId fresh list (next items)) :
    Replacing userId fresh list
      ((Program.forEach (GenerateRecommendations.recommendation userId at_) entries).bind next) := by
  induction entries generalizing next with
  | nil => exact rest [] rfl fun item member => absurd member List.not_mem_nil
  | cons entry others ih =>
    simp only [Program.forEach,GenerateRecommendations.recommendation,Program.bind_eq,Program.call_bind,
      Program.done_bind,Program.bind_assoc]
    refine .newUuid list _ fun id new => ?_
    apply replacing_check
    intro item built
    have fields := Recommendation.construct_ok _ item built
    apply ih
    intro items ranks own
    apply rest
    · rw [List.map_cons,List.map_cons,ranks,fields]
    · intro other member
      rcases List.mem_cons.mp member with same | later
      · rw [same,fields]
        exact ⟨rfl,new⟩
      · exact own other later

omit [DecidableEq R] in
private theorem replacing_explained (generation : Generation R) (scored : List (ScoredGame R))
    (played : List (GameProfile R)) (next : List (ScoredGame R) → UseCase R Nat)
    (rest : ∀ scored, Replacing userId fresh list (next scored)) :
    Replacing userId fresh list ((GenerateRecommendations.explained generation scored played).bind next) := by
  apply replacing_bind _ _ _ rest
  unfold GenerateRecommendations.explained
  split
  · trivial
  refine ⟨trivial,fun reasons => ?_⟩
  show Program.Only Gathering (if reasons.entries.isEmpty then _ else _)
  split <;> trivial

omit [DecidableEq R] in
private theorem replacing_rebuilt (generation : Generation R) (preference : UserPreference R)
    (played : List (GameProfile R)) (next : UserPreference R → UseCase R Nat)
    (rest : ∀ preference, Replacing userId fresh list (next preference)) :
    Replacing userId fresh list ((GenerateRecommendations.rebuilt generation preference played).bind next) := by
  apply replacing_bind _ _ _ rest
  unfold GenerateRecommendations.rebuilt
  split
  · apply Program.only_bind Gathering _ _ (Program.only_ofExcept Gathering _)
    intro rebuilt
    exact ⟨trivial,fun _ => trivial⟩
  · trivial

omit [DecidableEq R] in
theorem execute_replacing (generation : Generation R) (userId : UserId) (fresh : UUID → Prop) (limit : Nat) :
    Replacing userId fresh none (GenerateRecommendations.execute generation userId limit) := by
  unfold GenerateRecommendations.execute GenerateRecommendations.generate
  simp only [Program.bind_eq,Program.bind_assoc]
  apply replacing_bind (preferenceOf userId) _ ⟨trivial,fun _ => trivial⟩
  intro preference
  split
  · refine .replace [] _ rfl (fun item member => absurd member List.not_mem_nil) ?_
    exact .commit [] _ rfl
  · simp only [Program.bind_assoc]
    refine .gather none _ _ trivial fun played => ?_
    apply replacing_rebuilt
    intro rebuilt
    refine .gather none _ _ trivial fun candidates => ?_
    refine .gather none _ _ trivial fun counts => ?_
    apply replacing_explained
    intro scored
    refine .gather none _ _ trivial fun at_ => ?_
    apply replacing_items
    intro items ranks own
    have numbered : items.map (·.rank) = List.range' 1 items.length := by
      have length := congrArg List.length ranks
      simp only [List.length_map,List.length_zipIdx] at length
      rw [ranks,List.zipIdx_map_snd,length]
    refine .replace items _ numbered own ?_
    apply replacing_bind (GenerateRecommendations.publish userId items)
    · unfold GenerateRecommendations.publish
      split
      · trivial
      · exact ⟨trivial,fun _ => ⟨trivial,fun _ => ⟨trivial,fun _ => trivial⟩⟩⟩
    · intro published
      exact .commit items _ rfl

end Shape

omit [DecidableEq R] [Casing] in
private theorem insertRecommendations_ok (stored rows after : List (Recommendation R))
    (done : Database.insertRecommendations stored rows = .ok after) : after = stored ++ rows := by
  induction rows generalizing stored with
  | nil =>
    rw [List.append_nil]
    exact (Except.ok.inj done).symm
  | cons row rest ih =>
    rw [Database.insertRecommendations] at done
    split at done
    · cases done
    · rw [ih _ done,List.append_assoc,List.singleton_append]

omit [Casing] in
theorem committed_recommendations (session : Session R width) (database after : Database R width)
    (done : committed session database = .ok after) :
    after.recommendations = (visible session database).recommendations ++ session.recommendations := by
  obtain ⟨games,_,done⟩ := ok_of_bind done
  obtain ⟨preferences,_,done⟩ := ok_of_bind done
  obtain ⟨recommendations,inserted,done⟩ := ok_of_bind done
  obtain ⟨outbox,_,done⟩ := ok_of_bind done
  rw [← Except.ok.inj done]
  exact insertRecommendations_ok _ _ _ inserted

theorem handle_gathering (backend : Backend R) (op : Op R) (gathering : Gathering op) (database changed : Database R width)
    (session after : Session R width) (answer : Answer op)
    (answered : handle backend op database session = .ok (answer,after,changed)) :
    after.statements = session.statements ∧ after.recommendations = session.recommendations ∧ changed = database := by
  cases op with
  | recommendable limit | gamesByIds gameIds =>
    obtain ⟨found,_,same⟩ := ok_of_map answered
    cases same
    exact ⟨rfl,rfl,rfl⟩
  | getPreference | upsertPreference | coPurchases | enqueue | now | newUuid | explain =>
    cases answered
    exact ⟨rfl,rfl,rfl⟩
  | _ => exact gathering.elim

structure Bystander (session : Session R width) : Prop where
  rows : session.recommendations = []
  statements : ∀ ids, Statement.deleteRecommendations ids ∉ session.statements

omit [Casing] in
theorem Bystander.visible {session : Session R width} (bystander : Bystander session) (database : Database R width) :
    (visible session database).recommendations = database.recommendations := by
  have general (statements : List Statement) (none : ∀ ids, Statement.deleteRecommendations ids ∉ statements) :
      (database.applyAll statements).recommendations = database.recommendations := by
    induction statements using List.reverseRecOn with
    | nil => rfl
    | append_singleton earlier last ih =>
      have kept := ih fun ids member => none ids (List.mem_append_left _ member)
      unfold Database.applyAll at kept ⊢
      rw [List.foldl_append,List.foldl_cons,List.foldl_nil]
      cases last with
      | deleteRecommendations ids => exact absurd (List.mem_append_right _ List.mem_cons_self) (none ids)
      | _ => exact kept
  exact general session.statements bystander.statements

omit [Casing] in
theorem Bystander.execute {session : Session R width} (bystander : Bystander session) (statement : Statement)
    (other : ∀ ids, statement ≠ .deleteRecommendations ids) : Bystander (execute statement session) := by
  refine ⟨bystander.rows,fun ids member => ?_⟩
  rcases List.mem_append.mp member with earlier | last
  · exact bystander.statements ids earlier
  · exact other ids (List.mem_singleton.mp last).symm

private theorem handle_ingesting (backend : Backend R) (op : Op R) (ingesting : Memory.Ingesting op)
    (database changed : Database R width) (session after : Session R width) (answer : Answer op)
    (bystander : Bystander session) (answered : handle backend op database session = .ok (answer,after,changed)) :
    Bystander after ∧ changed.recommendations = database.recommendations := by
  cases op with
  | getGame gameId =>
    simp only [handle] at answered
    split at answered
    · cases answered
      exact ⟨⟨bystander.rows,bystander.statements⟩,rfl⟩
    · obtain ⟨found,_,same⟩ := ok_of_map answered
      cases same
      exact ⟨⟨bystander.rows,bystander.statements⟩,rfl⟩
  | recommendable limit | gamesByIds gameIds | needingEmbedding limit =>
    obtain ⟨found,_,same⟩ := ok_of_map answered
    cases same
    exact ⟨bystander,rfl⟩
  | recordOwnership userId gameId counted =>
    cases answered
    have kept := bystander.execute (.recordOwnership
      ⟨userId,gameId,backend.environment.clock session.readings,counted⟩) (by intro ids same; cases same)
    exact ⟨⟨kept.rows,kept.statements⟩,rfl⟩
  | markCounted gameId userIds =>
    cases answered
    exact ⟨bystander.execute _ (by intro ids same; cases same),rfl⟩
  | mark eventId =>
    cases answered
    exact ⟨bystander.execute _ (by intro ids same; cases same),rfl⟩
  | commit =>
    obtain ⟨stored,done,same⟩ := ok_of_map answered
    cases same
    refine ⟨⟨rfl,fun ids => List.not_mem_nil⟩,?_⟩
    rw [committed_recommendations session database _ done,bystander.visible,bystander.rows,List.append_nil]
  | replaceFor | enqueue | logMark => exact ingesting.elim
  | _ =>
    cases answered
    exact ⟨⟨bystander.rows,bystander.statements⟩,rfl⟩

theorem step_ingesting (backend : Backend R) (party : Party (Op R) Answer Fault (Session R width) Unit)
    (only : party.program.Only Memory.Ingesting) (bystander : Bystander party.own) (database : Database R width) :
    (party.step (handle backend) database).1.program.Only Memory.Ingesting ∧
      Bystander (party.step (handle backend) database).1.own ∧
      (party.step (handle backend) database).2.recommendations = database.recommendations := by
  obtain ⟨program,own⟩ := party
  cases program with
  | done value => exact ⟨trivial,bystander,rfl⟩
  | fail fault => exact ⟨trivial,bystander,rfl⟩
  | call op next =>
    unfold Party.step
    cases answered : handle backend op database own with
    | error fault =>
      simp only [answered]
      exact ⟨trivial,bystander,trivial⟩
    | ok found =>
      obtain ⟨answer,after,changed⟩ := found
      obtain ⟨kept,same⟩ := handle_ingesting backend op only.1 database changed own after answer bystander answered
      simp only [answered]
      exact ⟨only.2 answer,kept,same⟩

end Sql
end ArcadiaRecommendation
