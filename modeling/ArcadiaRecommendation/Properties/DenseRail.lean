import ArcadiaRecommendation.Properties.Backends
import ArcadiaRecommendation.Properties.SimilarGames
import ArcadiaRecommendation.Sql.NearestTo

/-! The rail of similar games on the two backends. Over the sparse vectors it is the same, and over
the dense ones it is as close at every place, whatever the order of equally close games. -/
namespace ArcadiaRecommendation

section
variable {R : Type} [Scalar R] [DecidableEq R] [Casing] {width : Nat}

namespace Sql

/-- A row that was only read is held as it is in its table. -/
theorem profiles_read (session : Session R width) (database : Database R width)
    (unwritten : session.games.Stages database.games fun _ => none) (rows : List (GameFields R))
    (stored : ∀ row ∈ rows, row ∈ database.gameRows) : profiles session rows = profiles ({} : Session R width) rows := by
  have same (row : GameFields R) (member : row ∈ database.gameRows) :
      ((session.games.held.get row.gameId).map (·.2)).getD row = row := by
    cases held : session.games.held.get row.gameId with
    | none => rfl
    | some found =>
      obtain ⟨loaded,current⟩ := found
      obtain ⟨there,equal⟩ := unwritten.held row.gameId loaded current held
      obtain ⟨kept,inside,shown⟩ := List.mem_map.mp member
      have known := (database.games.mem_values kept).mp inside
      have about : kept.gameId = row.gameId := congrArg GameFields.gameId shown
      rw [about,there] at known
      cases known
      exact equal.trans shown
  have read : rows.map (fun row => ((session.games.held.get row.gameId).map (·.2)).getD row) = rows := by
    refine Eq.trans ?_ (List.map_id rows)
    exact List.map_congr_left fun row member => same row (stored row member)
  have decoded (session : Session R width) : profiles session rows =
      (rows.map fun row => ((session.games.held.get row.gameId).map (·.2)).getD row).mapM gameToDomain := by
    rw [List.mapM_map]
    unfold profiles
    simp only [Function.comp_def]
  have bare : rows.map (fun row => (((({} : Session R width).games.held.get row.gameId).map (·.2)).getD row)) = rows :=
    List.map_id rows
  rw [decoded session,decoded {},read,bare]

private theorem handle_getGame (backend : Backend R) (store : MemoryStore R) (database : Database R width)
    (same : SameRows store database) (gameId : GameId) : ∃ own : Session R width,
      own.games.Stages database.games (fun _ => none) ∧
        handle backend (.getGame gameId) database {} = .ok (store.games.get gameId,own,database) := by
  have empty : ({} : IdentityMap (games R width)).Stages database.games fun _ => none := IdentityMap.stages_empty _
  obtain ⟨found,later⟩ := empty.fetched backend.retains gameId rfl
  have shown : (({} : Session R width).games.fetch backend.retains database.games gameId).1 =
      (store.games.get gameId).map (·.toGameFields) := found.trans (same.games gameId)
  cases stored : store.games.get gameId with
  | none =>
    rw [stored] at shown
    refine ⟨{},empty,?_⟩
    unfold handle
    dsimp only
    rw [shown]
    rfl
  | some game =>
    rw [stored] at shown
    refine ⟨{ games := (({} : IdentityMap (games R width)).fetch backend.retains database.games gameId).2 },later,?_⟩
    unfold handle
    dsimp only
    rw [shown]
    dsimp only [Option.map_some]
    rw [gameToDomain_fields]
    rfl

theorem run_getGame {A : Type} (backend : Backend R) (store : MemoryStore R) (database : Database R width)
    (same : SameRows store database) (gameId : GameId) (next : Option (GameProfile R) → UseCase R A) :
    ∃ own : Session R width, own.games.Stages database.games (fun _ => none) ∧
      (Program.call (.getGame gameId) next : UseCase R A).run (SharedHandler.joint (handle backend)) ({},database) =
        (next (store.games.get gameId)).run (SharedHandler.joint (handle backend)) (own,database) := by
  obtain ⟨own,unwritten,answered⟩ := handle_getGame backend store database same gameId
  have ran : (Program.call (.getGame gameId) next : UseCase R A).run (SharedHandler.joint (handle backend)) ({},database) =
      (next (store.games.get gameId)).run (SharedHandler.joint (handle backend)) (own,database) := by
    rw [Program.run_call,SharedHandler.joint,answered]
  exact ⟨own,unwritten,ran⟩

/-- The sparse rail does not depend on the backend. -/
theorem similar_sparse (backend : Backend R) (store : MemoryStore R) (database : Database R width)
    (same : SameRows store database) (here there : NearestTo R) (catalogueLimit : Nat) (gameId : GameId) (limit : Nat) :
    (attempt backend none (ListSimilarGames.execute here catalogueLimit false gameId limit) database).1 =
      .ofExcept (Memory.execute backend.environment
        (ListSimilarGames.execute there catalogueLimit false gameId limit) store).1 := by
  obtain ⟨own,unwritten,reads⟩ := run_getGame backend store database same gameId
    (ListSimilarGames.respond here catalogueLimit false gameId limit)
  have started : (attempt backend none (ListSimilarGames.execute here catalogueLimit false gameId limit) database).1 =
      .ofExcept ((ListSimilarGames.respond here catalogueLimit false gameId limit (store.games.get gameId)).run
        (SharedHandler.joint (handle backend)) (own,database)).1 := by
    rw [← reads]
    rfl
  rw [started]
  cases stored : store.games.get gameId with
  | none =>
    rw [Memory.similar_unknown backend.environment there catalogueLimit false gameId limit store stored]
    rfl
  | some subject =>
    rw [Memory.similar_known backend.environment there catalogueLimit gameId limit store subject stored]
    have shown := same.popular catalogueLimit (·.isPublished) (·.isPublished) fun _ => rfl
    have read : profiles own (database.recommendable catalogueLimit) =
        .ok (Memory.recommendable store.games catalogueLimit) := by
      refine (profiles_read own database unwritten (database.recommendable catalogueLimit) ?_).trans shown
      exact fun row member => List.mem_of_mem_filter ((List.mem_insertionSort _).mp (List.mem_of_mem_take member))
    have scanned : handle backend (.recommendable catalogueLimit) database own =
        .ok (Memory.recommendable store.games catalogueLimit,own,database) := by
      unfold handle
      dsimp only
      rw [read]
      rfl
    unfold ListSimilarGames.respond
    dsimp only
    rw [if_neg Bool.false_ne_true]
    simp only [Program.bind_eq,Program.call_bind,Program.done_bind,Games.recommendable,Program.run_call,
      SharedHandler.joint,scanned]
    rfl

private theorem similar_dense (backend : Backend R) (store : MemoryStore R) (database : Database R width)
    (same : SameRows store database) (nearest : NearestTo R) (catalogueLimit : Nat) (gameId : GameId) (limit : Nat)
    (subject : GameProfile R) (stored : store.games.get gameId = some subject) (neighbours : List (GameProfile R))
    (found : nearest subject limit = .ok neighbours) :
    (attempt backend none (ListSimilarGames.execute nearest catalogueLimit true gameId limit) database).1 =
      .returned (.ok ⟨gameId.str,neighbours.map (ListSimilarGames.denseItem subject)⟩) := by
  obtain ⟨own,_,reads⟩ := run_getGame backend store database same gameId
    (ListSimilarGames.respond nearest catalogueLimit true gameId limit)
  have started : (attempt backend none (ListSimilarGames.execute nearest catalogueLimit true gameId limit) database).1 =
      .ofExcept ((ListSimilarGames.respond nearest catalogueLimit true gameId limit (store.games.get gameId)).run
        (SharedHandler.joint (handle backend)) (own,database)).1 := by
    rw [← reads]
    rfl
  rw [started,stored]
  unfold ListSimilarGames.respond
  dsimp only
  rw [if_pos rfl,found]
  rfl

end Sql

omit [DecidableEq R] in
private theorem Memory.similar_dense (environment : Environment) (store : MemoryStore R) (nearest : NearestTo R)
    (catalogueLimit : Nat) (gameId : GameId) (limit : Nat) (subject : GameProfile R)
    (stored : store.games.get gameId = some subject) (neighbours : List (GameProfile R))
    (found : nearest subject limit = .ok neighbours) :
    (Memory.execute environment (ListSimilarGames.execute nearest catalogueLimit true gameId limit) store).1 =
      .ok (.ok ⟨gameId.str,neighbours.map (ListSimilarGames.denseItem subject)⟩) := by
  have known : (({ store } : Session R).games.get gameId).or (store.games.get gameId) = some subject := stored
  unfold Memory.execute ListSimilarGames.execute ListSimilarGames.respond
  simp only [Program.bind_eq,Program.call_bind,Program.done_bind,Program.run_call,handle,known,if_true,found]
  rfl

end

section
variable {R : Type} [RealScalar R]

namespace DenseEmbedding

private theorem cosine_null (first second : DenseEmbedding R) (null : first.magnitude = 0 ∨ second.magnitude = 0) :
    first.cosine second = 0 := by
  unfold cosine
  split
  · rfl
  · dsimp only
    rw [if_pos]
    rw [Bool.or_eq_true,ExactScalar.isZero_eq,ExactScalar.isZero_eq]
    exact null

end DenseEmbedding

namespace Memory
variable [Casing]

private theorem nearer_preorders : Preorders (nearer (R := R)) := by
  have ties := Preorders.descending (fun first second : GameProfile R × R => first.1.gameId.str ≤ second.1.gameId.str)
    Prod.snd (Preorders.of_text _)
  unfold nearer
  simpa only [ExactScalar.less_eq,ExactScalar.not_less] using ties

/-- The games that a game is compared with in the dense space. -/
def rivals (store : MemoryStore R) (subject : GameProfile R) : List (GameProfile R) :=
  store.games.values.filter (comparable subject)

/-- Games in the order of their cosines to the subject, then of their ids. -/
def nearerTo (subject first second : GameProfile R) : Prop :=
  nearer (first,subject.dense.cosine first.dense) (second,subject.dense.cosine second.dense)

instance (subject : GameProfile R) : DecidableRel (nearerTo subject) := fun _ _ => inferInstanceAs (Decidable (nearer _ _))

theorem nearerTo_preorders (subject : GameProfile R) : Preorders (nearerTo subject) :=
  have pairs := nearer_preorders (R := R)
  ⟨fun _ _ => pairs.total _ _,fun _ _ _ => pairs.trans _ _ _⟩

private theorem nearerTo_down (subject first second : GameProfile R) (before : nearerTo subject first second) :
    subject.dense.cosine second.dense ≤ subject.dense.cosine first.dense := by
  unfold nearerTo nearer at before
  rw [ExactScalar.less_eq,ExactScalar.not_less] at before
  exact before.elim le_of_lt And.left

theorem nearestTo_selected (store : MemoryStore R) (subject : GameProfile R) (embedded : subject.dense.isEmpty = false)
    (limit : Nat) : nearestTo store subject limit = .ok (selected (nearerTo subject) limit (rivals store subject)) := by
  have scored : ((rivals store subject).insertionSort (nearerTo subject)).map (fun game =>
      (game,subject.dense.cosine game.dense)) = ((rivals store subject).map fun game =>
        (game,subject.dense.cosine game.dense)).insertionSort nearer :=
    List.map_insertionSort _ _ _ _ fun _ _ _ _ => Iff.rfl
  unfold nearestTo
  rw [embedded,if_neg Bool.false_ne_true]
  dsimp only
  rw [sortedBy,← rivals,← scored,← List.map_take,List.map_map]
  exact congrArg Except.ok (List.map_id _)

end Memory

namespace Sql
variable [Casing] {width : Nat}

/-- `cosine_distance` of the vector extension over a column of this width. A vector of no length
has no direction. -/
def Measures (width : Nat) (distance : CosineDistance R) : Prop :=
  ∀ first second : DenseEmbedding R, first.values.length = width → second.values.length = width →
    distance first second = if first.magnitude = 0 ∨ second.magnitude = 0 then none else some (1-first.cosine second)

omit [Casing] in
private theorem closer_preorders (distance : CosineDistance R) (dense : DenseEmbedding R) :
    Preorders (closer distance dense) := by
  constructor
  · intro first second
    unfold closer
    cases distance first.dense dense <;> cases distance second.dense dense
    all_goals simp only [ExactScalar.not_less,true_or,or_true]
    exact le_total _ _
  · intro first second third
    unfold closer
    cases distance first.dense dense <;> cases distance second.dense dense <;> cases distance third.dense dense
    all_goals simp only [ExactScalar.not_less,false_imp_iff,imp_true_iff]
    exact le_trans

/-- The first of two games is nearer where neither is without a direction. -/
theorem closer_iff (distance : CosineDistance R) (measures : Measures width distance) (subject first second : GameProfile R)
    (own : subject.dense.values.length = width) (left : first.dense.values.length = width)
    (right : second.dense.values.length = width) :
    closer distance subject.dense first.toGameFields second.toGameFields ↔
      (second.dense.magnitude = 0 ∨ subject.dense.magnitude = 0) ∨
        ¬(first.dense.magnitude = 0 ∨ subject.dense.magnitude = 0) ∧
          subject.dense.cosine second.dense ≤ subject.dense.cosine first.dense := by
  unfold closer
  rw [measures _ _ left own,measures _ _ right own,first.dense.cosine_comm,second.dense.cosine_comm]
  by_cases one : first.dense.magnitude = 0 ∨ subject.dense.magnitude = 0
  · by_cases two : second.dense.magnitude = 0 ∨ subject.dense.magnitude = 0
    · rw [if_pos one,if_pos two]
      exact ⟨fun _ => .inl two,fun _ => trivial⟩
    · rw [if_pos one,if_neg two]
      exact ⟨False.elim,fun either => either.elim two fun both => both.1 one⟩
  · by_cases two : second.dense.magnitude = 0 ∨ subject.dense.magnitude = 0
    · rw [if_neg one,if_pos two]
      exact ⟨fun _ => .inl two,fun _ => trivial⟩
    · rw [if_neg one,if_neg two]
      dsimp only
      rw [ExactScalar.not_less,sub_le_sub_iff_left]
      exact ⟨fun less => .inr ⟨one,less⟩,fun either => (either.resolve_left two).2⟩

def nearerTo (distance : CosineDistance R) (subject first second : GameProfile R) : Prop :=
  closer distance subject.dense first.toGameFields second.toGameFields

instance (distance : CosineDistance R) (subject : GameProfile R) : DecidableRel (nearerTo distance subject) :=
  fun _ _ => inferInstanceAs (Decidable (closer _ _ _ _))

theorem nearerTo_preorders (distance : CosineDistance R) (subject : GameProfile R) :
    Preorders (nearerTo distance subject) :=
  have rows := closer_preorders distance subject.dense
  ⟨fun _ _ => rows.total _ _,fun _ _ _ => rows.trans _ _ _⟩

theorem nearestTo_selected [DecidableEq R] (distance : CosineDistance R) (backend : Backend R) (store : MemoryStore R)
    (database : Database R width) (same : SameRows store database) (subject : GameProfile R)
    (embedded : subject.dense.isEmpty = false) : ∃ found : List (GameProfile R), found.Perm (Memory.rivals store subject) ∧
      ∀ limit, nearestTo distance backend database subject limit = .ok (selected (nearerTo distance subject) limit found) := by
  have rows : (database.gameRows.filter (comparable subject)).Perm
      ((Memory.rivals store subject).map (·.toGameFields)) := by
    have stored := same.game_rows.filter (comparable subject)
    rw [List.filter_map] at stored
    have tests : comparable subject ∘ (fun profile : GameProfile R => profile.toGameFields) = Memory.comparable subject := by
      funext profile
      exact (Bool.and_assoc _ _ _).trans ((congrArg _ (Bool.and_comm _ _)).trans (Bool.and_assoc _ _ _).symm)
    rwa [tests] at stored
  have arranged := (backend.arranged (database.gameRows.filter (comparable subject))).trans rows
  obtain ⟨found,shown,permuted⟩ := (congrFun₂ (List.eq_map_comp_perm _) _ _).mpr arranged
  refine ⟨found,permuted,fun limit => ?_⟩
  have sorted : (found.insertionSort (nearerTo distance subject)).map (·.toGameFields) =
      (found.map (·.toGameFields)).insertionSort (closer distance subject.dense) :=
    List.map_insertionSort _ _ _ _ fun _ _ _ _ => Iff.rfl
  unfold nearestTo
  rw [embedded,if_neg Bool.false_ne_true,shown,sortedBy,← sorted,← List.map_take]
  exact profiles_fresh _

section
variable (distance : CosineDistance R) (measures : Measures width distance) (subject : GameProfile R)
  (own : subject.dense.values.length = width) (rivals found : List (GameProfile R)) (same : found.Perm rivals)
  (wide : ∀ game ∈ rivals, game.dense.values.length = width)
include measures own same wide

/-- The two orders select games as near, however many, unless one game has no direction and
another points away. -/
theorem nearerTo_keys : (∀ limit, (selected (nearerTo distance subject) limit found).map (subject.dense.cosine ·.dense) =
      (selected (Memory.nearerTo subject) limit rivals).map (subject.dense.cosine ·.dense)) ↔
    ¬∃ blank ∈ rivals, blank.dense.magnitude = 0 ∧ ∃ opposed ∈ rivals, subject.dense.cosine opposed.dense < 0 := by
  have near (first second : GameProfile R) (inFirst : first ∈ rivals) (inSecond : second ∈ rivals) :=
    closer_iff distance measures subject first second own (wide first inFirst) (wide second inSecond)
  constructor
  · rintro alike ⟨blank,inBlank,null,opposed,inOpposed,away⟩
    have flat : subject.dense.cosine blank.dense = 0 := subject.dense.cosine_null blank.dense (.inr null)
    have straight : ¬(opposed.dense.magnitude = 0 ∨ subject.dense.magnitude = 0) :=
      fun null => away.ne (subject.dense.cosine_null opposed.dense null.symm)
    have all := alike rivals.length
    rw [selected_all (nearerTo distance subject) _ found same.length_eq.le,selected_all _ _ rivals le_rfl] at all
    have descending : (found.insertionSort (nearerTo distance subject)).Pairwise fun first second =>
        subject.dense.cosine second.dense ≤ subject.dense.cosine first.dense := by
      have sorted := (Memory.nearerTo_preorders subject).sorted rivals
      have keys : ((rivals.insertionSort (Memory.nearerTo subject)).map (subject.dense.cosine ·.dense)).Pairwise
          fun first second => second ≤ first := List.pairwise_map.mpr (sorted.imp (Memory.nearerTo_down subject _ _))
      rw [← all] at keys
      exact List.pairwise_map.mp keys
    have both := ((nearerTo_preorders distance subject).sorted found).and descending
    have member (game : GameProfile R) (inside : game ∈ rivals) : game ∈ found.insertionSort (nearerTo distance subject) :=
      (List.mem_insertionSort _).mpr (same.mem_iff.mpr inside)
    obtain ⟨front,back,split⟩ := List.append_of_mem (member opposed inOpposed)
    have placed := member blank inBlank
    rw [split] at both placed
    rcases List.mem_append.mp placed with early | late
    · have before := (List.pairwise_append.mp both).2.2 blank early opposed List.mem_cons_self
      rcases (near blank opposed inBlank inOpposed).mp before.1 with lost | ⟨directed,_⟩
      · exact straight lost
      · exact directed (.inl null)
    · rcases List.mem_cons.mp late with rfl | later
      · exact away.ne flat
      · have after := (List.pairwise_cons.mp (List.pairwise_append.mp both).2.1).1 blank later
        rw [flat] at after
        exact absurd after.2 (not_le.mpr away)
  · intro none limit
    refine (selected_keys _ (Memory.nearerTo_preorders subject) (nearerTo_preorders distance subject) limit rivals found same.symm ?_ ?_).symm
    · exact fun first _ second _ => Memory.nearerTo_down subject first second
    · intro first inFirst second inSecond before
      rcases (near first second inFirst inSecond).mp before with null | ⟨_,less⟩
      · rw [subject.dense.cosine_null second.dense null.symm]
        by_contra away
        rcases null with null | null
        · exact none ⟨second,inSecond,null,first,inFirst,not_le.mp away⟩
        · rw [subject.dense.cosine_null first.dense (.inl null)] at away
          exact away le_rfl
      · exact less

end
end Sql

private theorem Memory.rivals_wide [Casing] {width : Nat} (store : MemoryStore R) (one : Memory.OneWidth width store)
    (subject game : GameProfile R) (member : game ∈ Memory.rivals store subject) : game.dense.values.length = width := by
  obtain ⟨known,compared⟩ := List.mem_filter.mp member
  have stored := (store.games.mem_values game).mp known
  refine (one.games game.gameId game stored).resolve_left fun bare => ?_
  unfold Memory.comparable at compared
  rw [bare] at compared
  simp [DenseEmbedding.empty,DenseEmbedding.isEmpty] at compared

variable [Casing] [DecidableEq R]

/-- How the rails of a game compare on the two backends. The sparse one is the same. The dense one
shows games as near at every place, however many are asked for, except where one game has no
direction and another points away; games that are all differently near are then the same games. -/
def RailsCompare {width : Nat} (backend : Backend R) (distance : Sql.CosineDistance R) (store : MemoryStore R)
    (database : Database R width) (catalogueLimit : Nat) (gameId : GameId) : Prop :=
  let inMemory := fun denseSpace limit => Outcome.ofExcept (Memory.execute backend.environment
    (ListSimilarGames.execute (Memory.nearestTo store) catalogueLimit denseSpace gameId limit) store).1
  let deployed := fun denseSpace limit => (Sql.attempt backend none
    (ListSimilarGames.execute (Sql.nearestTo distance backend database) catalogueLimit denseSpace gameId limit) database).1
  (∀ limit, deployed false limit = inMemory false limit) ∧
    ∀ subject, store.games.get gameId = some subject → subject.dense.isEmpty = false →
      let rivals := Memory.rivals store subject
      let nearness := fun game : GameProfile R => subject.dense.cosine game.dense
      ∃ here there : Nat → List (GameProfile R),
        (∀ limit, inMemory true limit = .returned (.ok ⟨gameId.str,(here limit).map (ListSimilarGames.denseItem subject)⟩) ∧
          deployed true limit = .returned (.ok ⟨gameId.str,(there limit).map (ListSimilarGames.denseItem subject)⟩) ∧
          Highest nearness limit rivals (here limit)) ∧
        ((∀ limit, (there limit).map nearness = (here limit).map nearness) ↔
          ¬∃ blank ∈ rivals, blank.dense.magnitude = 0 ∧ ∃ opposed ∈ rivals, nearness opposed < 0) ∧
        ((rivals.map nearness).Nodup → ∀ limit, (there limit).map nearness = (here limit).map nearness →
          there limit = here limit)

/-- Whatever the two services have ingested and embedded, their rails of a game compare so: in exact real
arithmetic, and with columns that return what was written to them. -/
theorem similar_games_backends [Floats R] (backfillLimit : Nat) (shipped : Memory.Shipped)
    (turns : List (Turn R (List String → Except String (Json R)))) (ordered : turns.Pairwise Turn.Before)
    (backend : Backend R) (distance : Sql.CosineDistance R) (measures : Sql.Measures shipped.dimensions distance)
    (catalogueLimit : Nat) (gameId : GameId) :
    let store := (Memory.Enrichment.run backfillLimit shipped.embed (turns.map Turn.move)).store
    let database : Database R shipped.dimensions := (Sql.Enrichment.run backfillLimit shipped.embed turns).database
    RailsCompare backend distance store database catalogueLimit gameId := by
  intro store database
  have same : SameRows store database := (run_inStep backfillLimit shipped.embed
    shipped.embed_width turns ordered).matched.rows
  refine ⟨fun limit => Sql.similar_sparse backend store database same _ _ catalogueLimit gameId limit,?_⟩
  intro subject stored embedded rivals nearness
  obtain ⟨found,permuted,answers⟩ := Sql.nearestTo_selected distance backend store database same subject embedded
  refine ⟨fun limit => selected (Memory.nearerTo subject) limit rivals,
    fun limit => selected (Sql.nearerTo distance subject) limit found,fun limit => ⟨?_,?_,?_⟩,?_,?_⟩
  · dsimp only
    rw [Memory.similar_dense backend.environment store _ catalogueLimit gameId limit subject stored _
      (Memory.nearestTo_selected store subject embedded limit)]
    rfl
  · exact Sql.similar_dense backend store database same _ catalogueLimit gameId limit subject stored _ (answers limit)
  · exact (Memory.nearerTo_preorders subject).highest nearness limit rivals fun first _ second _ =>
      Memory.nearerTo_down subject first second
  · have one := same.oneWidth
    have known : subject.dense.values.length = shipped.dimensions :=
      (one.games gameId subject stored).resolve_left fun bare => by rw [bare] at embedded; cases embedded
    exact Sql.nearerTo_keys distance measures subject known rivals found permuted (Memory.rivals_wide store one subject)
  · intro apart limit alike
    apply eq_of_keys nearness rivals apart
    · exact fun game inside => permuted.mem_iff.mp (mem_selected _ limit found game inside)
    · exact fun game inside => mem_selected _ limit rivals game inside
    · exact alike

end
end ArcadiaRecommendation

namespace ArcadiaRecommendation
attribute [local instance] Casing.unchanged Memory.Floats.integers

private theorem race_described (id : UUID) :
    HandleGamePublished.describe none ⟨id⟩ ⟨⟨9⟩⟩ "Untitled" ["racing"] [] none "" = .ok (racingGame (R := ℝ) ⟨id⟩) := by
  obtain ⟨game,described⟩ := (HandleGamePublished.describe_total_iff (R := ℝ) none ⟨id⟩ ⟨⟨9⟩⟩ "Untitled" ["racing"] [] none ""
    (by decide) (by decide)).mpr ((embed_total_iff (R := ℝ) ["racing"] []).mp ⟨_,racing_embedded⟩)
  obtain ⟨embedding,labels,fields⟩ := GameProfile.published_ok _ _ _ _ _ _ _ game described
  cases Except.ok.inj (labels.symm.trans racing_embedded)
  rw [described,GameProfile.ext_fields (fields.trans (b := (racingGame (R := ℝ) ⟨id⟩).toGameFields) rfl)]

def raceAt (moment : Int) (id : UUID) : Int × Task (List String → Except String (Json ℝ)) :=
  (moment,.ingest (.gamePublished id ⟨id⟩ ⟨⟨9⟩⟩ "Untitled" ["racing"] [] none ""))

private theorem race_stored (backfillLimit : Nat) (shipped : Memory.Shipped) (enrichment : Memory.Enrichment ℝ)
    (moment : Int) (id : UUID) (fresh : id ∉ enrichment.store.processedEvents)
    (new : enrichment.store.games.get ⟨id⟩ = none) (unowned : enrichment.store.uncounted ⟨id⟩ = []) :
    Memory.Enrichment.after backfillLimit shipped.embed enrichment (turnAt moment (raceAt moment id).2).move =
      { enrichment with
        store := { enrichment.store with games := enrichment.store.games.upsert (racingGame ⟨id⟩) }.remember id } := by
  let environment : Environment := { Environment.fixed with clock := fun _ => ⟨moment⟩ }
  let published : Event := .gamePublished id ⟨id⟩ ⟨⟨9⟩⟩ "Untitled" ["racing"] [] none ""
  have done : Memory.effect backfillLimit environment enrichment.store published =
      .ok { enrichment.store with games := enrichment.store.games.upsert (racingGame ⟨id⟩) } := by
    have nobody : enrichment.store.uncounted (racingGame (R := ℝ) ⟨id⟩).gameId = [] := unowned
    unfold Memory.effect
    dsimp only [published]
    rw [new,race_described]
    dsimp only [Memory.backfilled]
    rw [nobody,List.take_nil]
    rfl
  have ingested : Memory.ingest backfillLimit environment published enrichment.store =
      .ok ({ enrichment.store with games := enrichment.store.games.upsert (racingGame ⟨id⟩) }.remember id) :=
    (if_neg fresh).trans (by rw [done]; rfl)
  have ended := (Memory.attempt_none environment (published.execute backfillLimit) enrichment.store).2
  rw [Memory.execute_ingest,ingested] at ended
  exact congrArg (fun store => { enrichment with store }) ended

/-- Three games with one label are published, and an endpoint embeds them in three directions. -/
def released : List (Int × Task (List String → Except String (Json ℝ))) :=
  [raceAt 1 ⟨1⟩,raceAt 2 ⟨2⟩,raceAt 3 ⟨3⟩,(4,.read 10),
    (5,.answer 0 fun _ => .ok (.list [.list [.int 1,.int 0],.list [.int 1,.int 1],.list [.int 0,.int 1]])),(6,.write 0)]

noncomputable def stocked : MemoryStore ℝ where
  games := (((∅ : GameTable ℝ).upsert (racingGame ⟨⟨1⟩⟩)).upsert (racingGame ⟨⟨2⟩⟩)).upsert (racingGame ⟨⟨3⟩⟩)
  processedEvents := {⟨3⟩,⟨2⟩,⟨1⟩}

private theorem released_stocked : Memory.Enrichment.run 500 endpoint.embed
    ((released.take 3).map fun entry => (turnAt entry.1 entry.2 : Turn ℝ _).move) = { store := stocked } := by
  have first := race_stored 500 endpoint {} 1 ⟨1⟩ (by decide) rfl rfl
  have second := race_stored 500 endpoint
    { store := { games := (∅ : GameTable ℝ).upsert (racingGame ⟨⟨1⟩⟩), processedEvents := {⟨1⟩} } } 2 ⟨2⟩ (by decide) rfl rfl
  have third := race_stored 500 endpoint
    { store :=
      { games := ((∅ : GameTable ℝ).upsert (racingGame ⟨⟨1⟩⟩)).upsert (racingGame ⟨⟨2⟩⟩), processedEvents := {⟨2⟩,⟨1⟩} } }
    3 ⟨3⟩ (by decide) rfl rfl
  exact (congrArg (fun enrichment => Memory.Enrichment.after 500 endpoint.embed
    (Memory.Enrichment.after 500 endpoint.embed enrichment _) _) first).trans
    ((congrArg (fun enrichment => Memory.Enrichment.after 500 endpoint.embed enrichment _) second).trans third)

private theorem released_ascending : (released.map Prod.fst).Pairwise (· < ·) := by
  have moments : ([1,2,3,4,5,6] : List Int).Pairwise (· < ·) := by decide
  exact moments

open Classical in
noncomputable def measured (first second : DenseEmbedding ℝ) : Option ℝ :=
  if first.magnitude = 0 ∨ second.magnitude = 0 then none else some (1-first.cosine second)

/-- Whether the first game lacks a dense vector, and which games it is compared with. -/
noncomputable def compared (store : MemoryStore ℝ) : Option (Bool × List GameId) :=
  (store.games.get ⟨⟨1⟩⟩).map fun subject => (subject.dense.isEmpty,(Memory.rivals store subject).map (·.gameId))

theorem similar_games_backends_released :
    let turns : List (Turn ℝ (List String → Except String (Json ℝ))) := released.map fun entry => turnAt entry.1 entry.2
    let store := (Memory.Enrichment.run 500 endpoint.embed (turns.map Turn.move)).store
    let database : Database ℝ endpoint.dimensions := (Sql.Enrichment.run 500 endpoint.embed turns).database
    RailsCompare (Backend.fixed ℝ true) measured store database 500 ⟨⟨1⟩⟩ ∧
      compared store = some (false,[⟨⟨2⟩⟩,⟨⟨3⟩⟩]) := by
  intro turns store database
  have embedded : compared (((released.drop 3).map fun entry => (turnAt entry.1 entry.2 : Turn ℝ _).move).foldl
      (Memory.Enrichment.after 500 endpoint.embed) { store := stocked }).store = some (false,[⟨⟨2⟩⟩,⟨⟨3⟩⟩]) := by
    decide +kernel
  rw [← released_stocked] at embedded
  exact ⟨similar_games_backends 500 endpoint turns (turnAt_ordered released released_ascending) (Backend.fixed ℝ true)
    measured (fun first second _ _ => by unfold measured; congr) 500 ⟨⟨1⟩⟩,embedded⟩

end ArcadiaRecommendation
