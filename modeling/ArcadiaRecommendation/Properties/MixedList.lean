import ArcadiaRecommendation.Foundation.Runs
import ArcadiaRecommendation.Sql.Replicas

/-! Two replicas at one user's list. The stored list is one complete list exactly when the two
replacements do not overlap, or one of them writes nothing, or only one transaction commits. -/
namespace ArcadiaRecommendation
namespace Sql
namespace Replicas
variable {R : Type} [Scalar R] [DecidableEq R] [Casing] {width : Nat}

def Fresh (old : List (Recommendation R)) (id : UUID) : Prop := ∀ row ∈ old, row.id.value ≠ id

structure Sound (userId : UserId) (old : List (Recommendation R)) (replicas : Replicas R width) : Prop where
  replacements : Replacements (·.id) old replicas.staged replicas.committed
  rows : replicas.rows userId = rowsAfter (·.id) old replicas.staged replicas.committed
  ranks : ∀ side writes, replicas.staged side = some writes →
    writes.items.map (·.rank) = List.range' 1 writes.items.length
  users : ∀ side writes, replicas.staged side = some writes → ∀ item ∈ writes.items, item.userId = userId
  closed : ∀ side ∈ replicas.committed, (replicas.parties side).program.finished = true
  shaped : ∀ side ∉ replicas.committed, Replacing userId (Fresh old) ((replicas.staged side).map (·.items))
    (replicas.parties side).program
  statements : ∀ side ∉ replicas.committed, (replicas.parties side).own.statements =
    (replicas.staged side).elim [] fun writes => [.deleteRecommendations writes.found]
  inserts : ∀ side ∉ replicas.committed, (replicas.parties side).own.recommendations =
    (replicas.staged side).elim [] (·.items)
  ingests : ∀ index, (replicas.ingests index).program.Only Memory.Ingesting ∧ Bystander (replicas.ingests index).own

section Step
variable {backends : Side → Backend R} {replicas : Replicas R width} {side : Side}

theorem stepped_finished (finished : (replicas.parties side).program.finished = true) :
    replicas.stepped backends side = replicas := by
  have idle : (replicas.parties side).step (handle (backends side)) replicas.database =
      (replicas.parties side,replicas.database) := Party.step_finished _ _ _ finished
  simp only [stepped,idle]
  cases program : (replicas.parties side).program with
  | call op next =>
    rw [program] at finished
    cases finished
  | done value => simp only [Function.update_eq_self]
  | fail fault => simp only [Function.update_eq_self]

theorem stepped_answered (op : Op R) (next : Answer op → UseCase R Nat) (answer : Answer op) (own : Session R width)
    (database : Database R width) (program : (replicas.parties side).program = .call op next)
    (answered : handle (backends side) op replicas.database (replicas.parties side).own = .ok (answer,own,database)) :
    replicas.stepped backends side =
      { replicas.noted side op with
        database, parties := Function.update replicas.parties side ⟨next answer,own⟩ } := by
  have moved : (replicas.parties side).step (handle (backends side)) replicas.database =
      (⟨next answer,own⟩,database) := by
    unfold Party.step
    rw [program]
    simp only [answered]
  simp only [stepped,moved,program,answered,Except.isOk,Except.toBool,if_true]

theorem stepped_raised (op : Op R) (next : Answer op → UseCase R Nat) (fault : Fault)
    (program : (replicas.parties side).program = .call op next)
    (raised : handle (backends side) op replicas.database (replicas.parties side).own = .error fault) :
    replicas.stepped backends side =
      { replicas with parties := Function.update replicas.parties side ⟨.fail fault,(replicas.parties side).own⟩ } := by
  have moved : (replicas.parties side).step (handle (backends side)) replicas.database =
      (⟨.fail fault,(replicas.parties side).own⟩,replicas.database) := by
    unfold Party.step
    rw [program]
    simp only [raised]
  simp only [stepped,moved,program,raised,Except.isOk,Except.toBool,Bool.false_eq_true,if_false]

private theorem noted_gathering (op : Op R) (gathering : Gathering op) : replicas.noted side op = replicas := by
  cases op <;> first | exact gathering.elim | rfl

end Step

theorem Sound.moved {userId : UserId} {old : List (Recommendation R)} {replicas : Replicas R width}
    (sound : replicas.Sound userId old) (side : Side) (open_ : side ∉ replicas.committed)
    (party : Party (Op R) Answer Fault (Session R width) Nat)
    (shape : Replacing userId (Fresh old) ((replicas.staged side).map (·.items)) party.program)
    (statements : party.own.statements = (replicas.parties side).own.statements)
    (inserts : party.own.recommendations = (replicas.parties side).own.recommendations) :
    { replicas with parties := Function.update replicas.parties side party }.Sound userId old where
  replacements := sound.replacements
  rows := sound.rows
  ranks := sound.ranks
  users := sound.users
  closed other member := by
    have different : other ≠ side := fun same => open_ (same ▸ member)
    simp only [Function.update_of_ne different]
    exact sound.closed other member
  shaped other absent := by
    by_cases same : other = side
    · simp only [same,Function.update_self]
      exact shape
    · simp only [Function.update_of_ne same]
      exact sound.shaped other absent
  statements other absent := by
    by_cases same : other = side
    · simp only [same,Function.update_self]
      exact statements.trans (sound.statements side open_)
    · simp only [Function.update_of_ne same]
      exact sound.statements other absent
  inserts other absent := by
    by_cases same : other = side
    · simp only [same,Function.update_self]
      exact inserts.trans (sound.inserts side open_)
    · simp only [Function.update_of_ne same]
      exact sound.inserts other absent
  ingests := sound.ingests

theorem Sound.staging {userId : UserId} {old : List (Recommendation R)} {replicas : Replicas R width}
    (sound : replicas.Sound userId old) (side : Side) (open_ : side ∉ replicas.committed)
    (items : List (Recommendation R))
    (ranks : items.map (·.rank) = List.range' 1 items.length)
    (own : ∀ item ∈ items, item.userId = userId ∧ Fresh old item.id.value)
    (party : Party (Op R) Answer Fault (Session R width) Nat)
    (shape : Replacing userId (Fresh old) (some items) party.program)
    (statements : party.own.statements = [.deleteRecommendations ((replicas.rows userId).map (·.id))])
    (inserts : party.own.recommendations = items) :
    { replicas with
      parties := Function.update replicas.parties side party
      staged := Function.update replicas.staged side (some
        ⟨items,(replicas.rows userId).map fun row : Recommendation R => row.id,replicas.committed⟩) }.Sound userId old where
  replacements := by
    refine sound.replacements.stage side open_ _ rfl (by rw [sound.rows]) ?_
    intro item member row stored same
    exact (own item member).2 row stored (congrArg RecommendationId.value same.symm)
  rows := sound.rows.trans (rowsAfter_update _ _ _ _ _ _ open_).symm
  ranks other writes known := by
    rcases staged_update_cases side other _ writes known with ⟨_,mine⟩ | ⟨_,before⟩
    · rw [mine]
      exact ranks
    · exact sound.ranks other writes before
  users other writes known := by
    rcases staged_update_cases side other _ writes known with ⟨_,mine⟩ | ⟨_,before⟩
    · rw [mine]
      exact fun item member => (own item member).1
    · exact sound.users other writes before
  closed other member := by
    have different : other ≠ side := fun same => open_ (same ▸ member)
    simp only [Function.update_of_ne different]
    exact sound.closed other member
  shaped other absent := by
    by_cases same : other = side
    · simp only [same,Function.update_self]
      exact shape
    · simp only [Function.update_of_ne same]
      exact sound.shaped other absent
  statements other absent := by
    by_cases same : other = side
    · simp only [same,Function.update_self]
      exact statements
    · simp only [Function.update_of_ne same]
      exact sound.statements other absent
  inserts other absent := by
    by_cases same : other = side
    · simp only [same,Function.update_self]
      exact inserts
    · simp only [Function.update_of_ne same]
      exact sound.inserts other absent
  ingests := sound.ingests

theorem Sound.committing {userId : UserId} {old : List (Recommendation R)} {replicas : Replicas R width}
    (sound : replicas.Sound userId old) (side : Side) (open_ : side ∉ replicas.committed)
    (writes : Staged (Recommendation R) RecommendationId) (known : replicas.staged side = some writes)
    (database : Database R width) (done : Sql.committed (replicas.parties side).own replicas.database = .ok database)
    (party : Party (Op R) Answer Fault (Session R width) Nat) (finished : party.program.finished = true) :
    { replicas with
      database
      parties := Function.update replicas.parties side party
      committed := replicas.committed ++ [side] }.Sound userId old where
  replacements := sound.replacements.commit side open_ writes known
  rows := by
    have statements := sound.statements side open_
    have inserts := sound.inserts side open_
    rw [known] at statements inserts
    have left : (visible (replicas.parties side).own replicas.database).recommendations =
        replicas.database.recommendations.filter fun row => row.id ∉ writes.found := by
      rw [visible,statements]
      rfl
    have listed : writes.items.filter (fun row => row.userId = userId) = writes.items := by
      rw [List.filter_eq_self]
      intro item member
      exact decide_eq_true (sound.users side writes known item member)
    rw [rowsAfter_append _ _ _ _ _ writes known,← sound.rows]
    simp only [Replicas.rows,committed_recommendations _ _ _ done,left,inserts,Option.elim_some,List.filter_append,listed,
      Staged.replaced,List.filter_filter,Bool.and_comm]
  ranks := sound.ranks
  users := sound.users
  closed other member := by
    by_cases same : other = side
    · simp only [same,Function.update_self]
      exact finished
    · simp only [Function.update_of_ne same]
      rcases List.mem_append.mp member with earlier | last
      · exact sound.closed other earlier
      · exact absurd (List.mem_singleton.mp last) same
  shaped other absent := by
    have away : other ≠ side := fun same => absent (same ▸ List.mem_append_right _ List.mem_cons_self)
    simp only [Function.update_of_ne away]
    exact sound.shaped other fun member => absent (List.mem_append_left _ member)
  statements other absent := by
    have away : other ≠ side := fun same => absent (same ▸ List.mem_append_right _ List.mem_cons_self)
    simp only [Function.update_of_ne away]
    exact sound.statements other fun member => absent (List.mem_append_left _ member)
  inserts other absent := by
    have away : other ≠ side := fun same => absent (same ▸ List.mem_append_right _ List.mem_cons_self)
    simp only [Function.update_of_ne away]
    exact sound.inserts other fun member => absent (List.mem_append_left _ member)
  ingests := sound.ingests

theorem ingested_sound (backend : Backend R) {userId : UserId} {old : List (Recommendation R)}
    (replicas : Replicas R width) (sound : replicas.Sound userId old) (index : Nat) :
    (replicas.ingested backend index).Sound userId old := by
  obtain ⟨only,bystander,kept⟩ := step_ingesting backend (replicas.ingests index) (sound.ingests index).1
    (sound.ingests index).2 replicas.database
  refine ⟨sound.replacements,?_,sound.ranks,sound.users,sound.closed,sound.shaped,sound.statements,sound.inserts,?_⟩
  · simp only [ingested,Replicas.rows,kept]
    exact sound.rows
  · intro other
    by_cases same : other = index
    · simp only [ingested,same,Function.update_self]
      exact ⟨only,bystander⟩
    · simp only [ingested,Function.update_of_ne same]
      exact sound.ingests other

theorem stepped_sound (backends : Side → Backend R) {userId : UserId} {old : List (Recommendation R)}
    (fresh : ∀ side index, Fresh old ((backends side).environment.ids index)) (replicas : Replicas R width)
    (sound : replicas.Sound userId old) (side : Side) : (replicas.stepped backends side).Sound userId old := by
  by_cases open_ : side ∈ replicas.committed
  · rw [stepped_finished (sound.closed side open_)]
    exact sound
  have shape := sound.shaped side open_
  generalize list : (replicas.staged side).map (·.items) = listed at shape
  generalize program : (replicas.parties side).program = rest at shape
  cases shape with
  | fail _ fault =>
    rw [stepped_finished (by rw [program]; rfl)]
    exact sound
  | newUuid _ next rest =>
    rw [stepped_answered .newUuid next _ _ _ program rfl]
    apply sound.moved side open_
    · rw [list]
      exact rest _ (fresh side _)
    · rfl
    · rfl
  | gather _ op next gathering rest =>
    cases answered : handle (backends side) op replicas.database (replicas.parties side).own with
    | error fault =>
      rw [stepped_raised op next fault program answered]
      exact sound.moved side open_ _ (.fail _ fault) rfl rfl
    | ok found =>
      obtain ⟨answer,own,database⟩ := found
      obtain ⟨statements,inserts,same⟩ := handle_gathering (backends side) op gathering _ _ _ own answer answered
      rw [stepped_answered op next answer own database program answered,noted_gathering op gathering,same]
      exact sound.moved side open_ _ (by rw [list]; exact rest answer) statements inserts
  | replace items next ranks own rest =>
    have unstaged : replicas.staged side = none := Option.map_eq_none_iff.mp list
    have statements := sound.statements side open_
    have inserts := sound.inserts side open_
    rw [unstaged] at statements inserts
    have sees : visible (replicas.parties side).own replicas.database = replicas.database := by
      rw [visible,statements]
      rfl
    rw [stepped_answered (.replaceFor userId items) next () _ _ program rfl]
    simp only [noted,sees]
    apply sound.staging side open_ items ranks own
    · exact rest
    · simp only [execute,statements]
      rfl
    · simp only [inserts]
      rfl
  | commit items next last =>
    obtain ⟨writes,known,_⟩ := Option.map_eq_some_iff.mp list
    cases done : Sql.committed (replicas.parties side).own replicas.database with
    | error fault =>
      rw [stepped_raised .commit next fault program (by simp only [handle,done]; rfl)]
      exact sound.moved side open_ _ (.fail _ fault) rfl rfl
    | ok database =>
      rw [stepped_answered .commit next () _ database program (by simp only [handle,done]; rfl)]
      exact sound.committing side open_ writes known database done _ last

theorem after_sound (backends : Side → Backend R) (ingesting : Backend R) {userId : UserId}
    {old : List (Recommendation R)} (fresh : ∀ side index, Fresh old ((backends side).environment.ids index))
    (replicas : Replicas R width) (sound : replicas.Sound userId old) (move : ReplicaMove) :
    (replicas.after backends ingesting move).Sound userId old := by
  cases move with
  | step side => exact stepped_sound backends fresh replicas sound side
  | ingest index => exact ingested_sound ingesting replicas sound index

private theorem start_sound (generation : Side → Generation R) (limit : Side → Nat) (userId : UserId)
    (backfillLimit : Nat) (events : Nat → Event) (database : Database R width) :
    (start generation limit userId backfillLimit events database).Sound userId
      (database.recommendations.filter (·.userId = userId)) where
  replacements := ⟨.nil,fun side member => absurd member List.not_mem_nil,(by intro side writes known; cases known),
    (by intro side writes known; cases known),by intro side writes known; cases known⟩
  rows := rfl
  ranks side writes known := by cases known
  users side writes known := by cases known
  closed side member := absurd member List.not_mem_nil
  shaped side _ := execute_replacing (generation side) userId _ (limit side)
  statements _ _ := rfl
  inserts _ _ := rfl
  ingests index := ⟨Memory.only_execute backfillLimit (events index),rfl,fun _ => List.not_mem_nil⟩

theorem run_sound (backends : Side → Backend R) (ingesting : Backend R) {userId : UserId}
    {old : List (Recommendation R)} (fresh : ∀ side index, Fresh old ((backends side).environment.ids index))
    (replicas : Replicas R width) (sound : replicas.Sound userId old) (moves : List ReplicaMove) :
    (replicas.run backends ingesting moves).Sound userId old := by
  induction moves generalizing replicas with
  | nil => exact sound
  | cons move rest ih => exact ih _ (after_sound backends ingesting fresh replicas sound move)

private theorem spaced_gathering (replicas : Replicas R width) (side : Side) (op : Op R)
    (next : Answer op → UseCase R Nat) (program : (replicas.parties side).program = .call op next)
    (gathering : Gathering op) :
    replicas.Spaced (.step side) := by
  unfold Spaced
  simp only [program]
  cases op <;> first | exact gathering.elim | trivial

theorem stepped_overlapping (backends : Side → Backend R) {userId : UserId} {old : List (Recommendation R)}
    (replicas : Replicas R width) (sound : replicas.Sound userId old) (side : Side) :
    Overlapping (replicas.stepped backends side).staged ↔
      Overlapping replicas.staged ∨ ¬replicas.Spaced (.step side) := by
  have still (same : (replicas.stepped backends side).staged = replicas.staged) (spaced : replicas.Spaced (.step side)) :
      Overlapping (replicas.stepped backends side).staged ↔
        Overlapping replicas.staged ∨ ¬replicas.Spaced (.step side) := by
    rw [same]
    exact ⟨.inl,fun either => either.resolve_right fun early => early spaced⟩
  by_cases finished : (replicas.parties side).program.finished = true
  · apply still
    · rw [stepped_finished finished]
    · unfold Spaced
      cases program : (replicas.parties side).program with
      | call op next =>
        rw [program] at finished
        cases finished
      | done value => simp only [program]
      | fail fault => simp only [program]
  have open_ : side ∉ replicas.committed := fun member => finished (sound.closed side member)
  have shape := sound.shaped side open_
  generalize list : (replicas.staged side).map (·.items) = listed at shape
  generalize program : (replicas.parties side).program = rest at shape
  cases shape with
  | fail _ fault => exact absurd (by rw [program]; rfl) finished
  | newUuid _ next rest =>
    apply still
    · rw [stepped_answered .newUuid next _ _ _ program rfl]
      rfl
    · exact spaced_gathering replicas side .newUuid next program trivial
  | gather _ op next gathering rest =>
    apply still
    · cases answered : handle (backends side) op replicas.database (replicas.parties side).own with
      | error fault => rw [stepped_raised op next fault program answered]
      | ok found =>
        rw [stepped_answered op next found.1 found.2.1 found.2.2 program answered,noted_gathering op gathering]
    · exact spaced_gathering replicas side op next program gathering
  | commit items next last =>
    apply still
    · cases done : Sql.committed (replicas.parties side).own replicas.database with
      | error fault => rw [stepped_raised .commit next fault program (by simp only [handle,done]; rfl)]
      | ok database =>
        rw [stepped_answered .commit next () _ database program (by simp only [handle,done]; rfl)]
        rfl
    · unfold Spaced
      simp only [program]
  | replace items next ranks own rest =>
    have unstaged : replicas.staged side = none := Option.map_eq_none_iff.mp list
    rw [stepped_answered (.replaceFor userId items) next () _ _ program rfl]
    have apart : ¬Overlapping replicas.staged := by
      rintro ⟨left,right,one,two,_⟩
      cases side with
      | left => cases unstaged.symm.trans one
      | right => cases unstaged.symm.trans two
    simp only [noted,apart,false_or]
    have away : side.other ≠ side := Side.other_ne side
    cases other : replicas.staged side.other with
    | none =>
      unfold Spaced
      simp only [program,other,not_true_eq_false,iff_false]
      rintro ⟨left,right,one,two,_⟩
      cases side with
      | left => cases (Function.update_of_ne away _ _).symm.trans two |>.symm.trans other
      | right => cases (Function.update_of_ne away _ _).symm.trans one |>.symm.trans other
    | some theirs =>
      have unseen : side ∉ theirs.seen := fun member =>
        open_ ((sound.replacements.seen side.other theirs other).1.subset member)
      rw [overlapping_iff side _ theirs (Function.update_self _ _ _) ((Function.update_of_ne away _ _).trans other)]
      unfold Spaced
      simp only [program,other]
      tauto

theorem run_overlapping (backends : Side → Backend R) (ingesting : Backend R) {userId : UserId}
    {old : List (Recommendation R)} (fresh : ∀ side index, Fresh old ((backends side).environment.ids index))
    (replicas : Replicas R width) (sound : replicas.Sound userId old) (moves : List ReplicaMove) :
    Overlapping (replicas.run backends ingesting moves).staged ↔
      Overlapping replicas.staged ∨ ¬Throughout (after backends ingesting) Spaced replicas moves := by
  induction moves generalizing replicas with
  | nil =>
    simp only [Throughout,not_true_eq_false,or_false]
    rfl
  | cons move rest ih =>
    have step : Overlapping (replicas.after backends ingesting move).staged ↔
        Overlapping replicas.staged ∨ ¬replicas.Spaced move := by
      cases move with
      | step side => exact stepped_overlapping backends replicas sound side
      | ingest index => exact ⟨.inl,fun either => either.resolve_right fun early => early trivial⟩
    have whole := ih _ (after_sound backends ingesting fresh replicas sound move)
    rw [step] at whole
    simp only [Throughout,not_and_or]
    rw [← or_assoc]
    exact whole

/-- The stored list is the complete list of a replica exactly when a transaction commits and, where
both do, no replacement starts while the other is open. -/
theorem stored_list_complete_iff (generation : Side → Generation R) (limit : Side → Nat) (userId : UserId)
    (backfillLimit : Nat) (events : Nat → Event) (backends : Side → Backend R) (ingesting : Backend R)
    (database : Database R width) (moves : List ReplicaMove)
    (fresh : ∀ side index, Fresh (database.recommendations.filter (·.userId = userId))
      ((backends side).environment.ids index)) :
    let began := start generation limit userId backfillLimit events database
    let ended := began.run backends ingesting moves
    ((∃ side ∈ ended.committed, ∃ writes, ended.staged side = some writes ∧ ended.rows userId = writes.items ∧
      writes.items.map (·.rank) = List.range' 1 writes.items.length) ↔
        ended.committed ≠ [] ∧ (.left ∈ ended.committed → .right ∈ ended.committed →
          Throughout (after backends ingesting) Spaced began moves)) ∧
      (ended.committed = [] → ended.rows userId = began.rows userId) := by
  intro began ended
  have first := start_sound generation limit userId backfillLimit events database
  have sound : ended.Sound userId _ := run_sound backends ingesting fresh began first moves
  have overlapping := run_overlapping backends ingesting fresh began first moves
  have apart : ¬Overlapping began.staged := by
    rintro ⟨left,_,none,_⟩
    cases none
  constructor
  · have whole := sound.replacements.one_list_iff
    rw [← sound.rows,overlapping] at whole
    simp only [apart,false_or,not_not] at whole
    rw [← whole]
    constructor
    · rintro ⟨side,member,writes,known,same,_⟩
      exact ⟨side,member,writes,known,same⟩
    · rintro ⟨side,member,writes,known,same⟩
      exact ⟨side,member,writes,known,same,sound.ranks side writes known⟩
  · intro none
    rw [sound.rows,none]
    rfl

end Replicas
end Sql

namespace Sql
namespace Replicas
attribute [local instance] Casing.unchanged

def raceOwned : Database ℚ 0 :=
  let backend : Backend ℚ := .fixed ℚ true
  let race : Event := .gamePublished ⟨1⟩ ⟨⟨1⟩⟩ ⟨⟨9⟩⟩ "Race" ["racing"] [] none ""
  let rally : Event := .gamePublished ⟨2⟩ ⟨⟨2⟩⟩ ⟨⟨9⟩⟩ "Rally" ["racing"] [] none ""
  let bought : Event := .purchaseCompleted ⟨3⟩ ⟨⟨1⟩⟩ ⟨⟨1⟩⟩ none
  alone 1000 backend rally (alone 1000 backend bought (alone 1000 backend race {}))

def rallyBought : Nat → Event
  | 0 => .purchaseCompleted ⟨4⟩ ⟨⟨1⟩⟩ ⟨⟨2⟩⟩ none
  | _ => .gamePublished ⟨5⟩ ⟨⟨3⟩⟩ ⟨⟨9⟩⟩ "Kart" ["racing"] [] none ""

def replica (side : Side) : Backend ℚ :=
  let first := match side with
    | .left => 100
    | .right => 200
  { Backend.fixed ℚ true with environment := { Environment.fixed with ids := fun index => ⟨.ofNat 128 (first + index)⟩ } }

def racing : Replicas ℚ 0 :=
  start (fun _ => { content := contentBasedScorer }) (fun _ => 10) ⟨⟨1⟩⟩ 1000 rallyBought raceOwned

def serial : List ReplicaMove :=
  .replicate 11 (.step .left) ++ .replicate 9 (.ingest 0) ++ .replicate 9 (.ingest 1) ++ .replicate 11 (.step .right)

theorem stored_list_complete_iff_serial :
    let ended := racing.run replica (.fixed ℚ true) serial
    ∃ side ∈ ended.committed, ∃ writes, ended.staged side = some writes ∧ ended.rows ⟨⟨1⟩⟩ = writes.items ∧
      writes.items.map (·.rank) = List.range' 1 writes.items.length := by
  have unlisted : raceOwned.recommendations.filter (·.userId = ⟨⟨1⟩⟩) = [] := by decide +kernel
  have fresh : ∀ side index, Fresh (raceOwned.recommendations.filter (·.userId = ⟨⟨1⟩⟩))
      ((replica side).environment.ids index) := by
    intro side index row member
    rw [unlisted] at member
    exact absurd member List.not_mem_nil
  have whole := (stored_list_complete_iff (fun _ => { content := contentBasedScorer }) (fun _ => 10) ⟨⟨1⟩⟩ 1000 rallyBought
    replica (.fixed ℚ true) raceOwned serial fresh).1
  have began : start (fun _ => { content := contentBasedScorer }) (fun _ => 10) ⟨⟨1⟩⟩ 1000 rallyBought raceOwned =
      racing := rfl
  rw [began] at whole
  have some_ : (racing.run replica (.fixed ℚ true) serial).committed ≠ [] := by decide +kernel
  have spaced : Throughout (after replica (.fixed ℚ true)) Spaced racing serial := by decide +kernel
  exact whole.mpr ⟨some_,fun _ _ => spaced⟩

/-- Both replicas rank, then both delete, then both commit. -/
def overlapped : List ReplicaMove :=
  .replicate 6 (.step .left) ++ .replicate 9 (.ingest 0) ++ .replicate 9 (.ingest 1) ++ .replicate 6 (.step .right) ++
    [.step .left,.step .right] ++ .replicate 4 (.step .left) ++ .replicate 4 (.step .right)

/-- One replica ranks before the purchase and the other after the publication. Both delete before
either commits, and the two games stand at rank 1. -/
theorem two_replicas_mix_lists : ¬∀ (moves : List ReplicaMove),
    let ended := racing.run replica (.fixed ℚ true) moves
    (∀ side, (ended.parties side).program.finished = true) →
      ∃ side writes, ended.staged side = some writes ∧ ended.rows ⟨⟨1⟩⟩ = writes.items ∧
        writes.items.map (·.rank) = List.range' 1 writes.items.length := by
  intro claim
  have finished : ((racing.run replica (.fixed ℚ true) overlapped).parties .left).program.finished = true ∧
      ((racing.run replica (.fixed ℚ true) overlapped).parties .right).program.finished = true := by decide +kernel
  have one : ((racing.run replica (.fixed ℚ true) overlapped).staged .left).map (·.items.map (·.rank)) = some [1] ∧
      ((racing.run replica (.fixed ℚ true) overlapped).staged .right).map (·.items.map (·.rank)) = some [1] := by
    decide +kernel
  have two : ((racing.run replica (.fixed ℚ true) overlapped).rows ⟨⟨1⟩⟩).map (·.rank) = [1,1] := by decide +kernel
  obtain ⟨side,writes,known,rows,_⟩ := claim overlapped fun side => by
    cases side with
    | left => exact finished.1
    | right => exact finished.2
  have single : writes.items.map (·.rank) = [1] := by
    cases side with
    | left =>
      rw [known] at one
      exact Option.some.inj one.1
    | right =>
      rw [known] at one
      exact Option.some.inj one.2
  rw [rows,single] at two
  exact absurd two (by decide)

end Replicas
end Sql
end ArcadiaRecommendation
