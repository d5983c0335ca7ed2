import ArcadiaRecommendation.Properties.ColdUsers
import ArcadiaRecommendation.Properties.Widths
import ArcadiaRecommendation.Sql.Enrichment
import ArcadiaRecommendation.Sql.Simulation

/-! Ingest and embedding on the two backends: whatever is delivered, each unit of work ends alike
and leaves the same rows, so a local run behaves as the deployed service does. -/
namespace ArcadiaRecommendation
variable {R : Type} [Scalar R] [Casing] {width : Nat}

theorem SameRows.oneWidth {store : MemoryStore R} {database : Database R width} (same : SameRows store database) :
    Memory.OneWidth width store where
  games gameId game stored := by
    have shown := same.games gameId
    rw [stored] at shown
    obtain ⟨row,_,fields⟩ := Option.map_eq_some_iff.mp shown
    have fits := (Sql.sized_iff _).mp row.sized
    rw [fields] at fits
    exact fits
  preferences userId preference stored := by
    have shown := same.preferences userId
    rw [stored] at shown
    obtain ⟨row,_,fields⟩ := Option.map_eq_some_iff.mp shown
    rw [← fields]
    exact (Sql.sized_iff _).mp row.sized

namespace Memory

/-- A session that has recorded no owner and committed nothing yet, before these users are written. -/
structure Fresh (store : MemoryStore R) (userIds : List UserId) (session : Session R) : Prop where
  store : session.store = store
  uncommitted : session.committed = false
  unrecorded : session.ownerships = []
  distinct : userIds.Nodup
  unwritten : ∀ userId ∈ userIds, session.preferences.get userId = none

section
variable (environment : Environment) {store : MemoryStore R}

private theorem meets_closing (eventId : UUID) (session : Session R) (uncommitted : session.committed = false) :
    (do ProcessedEvents.mark eventId
        commit : UseCase R Unit).Meets (handle environment) (Sql.Permits width) (fun _ _ => True) session := by
  refine (Program.meets_call _ _ _ _ _ _ _ _ rfl).mpr ⟨⟨uncommitted,trivial⟩,?_⟩
  exact (Program.meets_call _ _ _ _ _ _ _ _ rfl).mpr ⟨⟨uncommitted,trivial⟩,trivial⟩

private theorem Fresh.meets_preferenceOf {userId : UserId} {rest : List UserId} {session : Session R}
    (fresh : Fresh store (userId :: rest) session) (ensures : UserPreference R → Session R → Prop)
    (later : ensures (store.preferenceOf userId) session) :
    (preferenceOf userId).Meets (handle environment) (Sql.Permits width) ensures session := by
  have unwritten := fresh.unwritten userId List.mem_cons_self
  have read : (session.preferences.get userId).or (session.store.preferences.get userId) = store.preferences.get userId := by
    rw [unwritten,Option.none_or,fresh.store]
  refine (Program.meets_call _ _ _ _ _ _ _ _ rfl).mpr ⟨⟨fresh.uncommitted,unwritten⟩,?_⟩
  rw [read]
  exact later

private theorem Fresh.meets_momentOf {userIds : List UserId} {session : Session R} (fresh : Fresh store userIds session)
    (occurredAt : Option DateTime) (ensures : DateTime → Session R → Prop)
    (later : ∀ at_ after, Fresh store userIds after → after.games = session.games → ensures at_ after) :
    (momentOf occurredAt).Meets (handle environment) (Sql.Permits width) ensures session := by
  cases occurredAt with
  | some at_ => exact later at_ session fresh rfl
  | none =>
    refine (Program.meets_call _ _ _ _ _ _ _ _ rfl).mpr ⟨⟨fresh.uncommitted,fresh.unrecorded⟩,?_⟩
    exact later _ _ { fresh with } rfl

private theorem OneWidth.meets_observe (one : OneWidth width store) {userId : UserId} {rest : List UserId}
    {session : Session R} (fresh : Fresh store (userId :: rest) session) (game : GameProfile R)
    (dense : game.dense.Sized width) (kind : SignalKind) (at_ : DateTime) (ensures : Unit → Session R → Prop)
    (later : ∀ after, Fresh store rest after → after.games = session.games → ensures () after) :
    ((check ((store.preferenceOf userId).observe game kind at_)).bind Preferences.upsert).Meets (handle environment)
      (Sql.Permits width) ensures session := by
  obtain ⟨observed,folded,sized⟩ := (store.preferenceOf userId).observe_sized width game kind at_ (one.taste userId) dense
  have own : observed.userId = userId :=
    (UserPreference.observe_userId _ observed game kind at_ folded).trans (store.readModel.preferenceOf_userId userId)
  have unwritten := fresh.unwritten userId List.mem_cons_self
  obtain ⟨apart,distinct⟩ := List.nodup_cons.mp fresh.distinct
  rw [folded,check_ok,Program.done_bind]
  refine (Program.meets_call _ _ _ _ _ _ _ _ rfl).mpr ⟨⟨fresh.uncommitted,own ▸ unwritten,sized⟩,?_⟩
  refine later _ ⟨fresh.store,fresh.uncommitted,fresh.unrecorded,distinct,fun other member => ?_⟩ rfl
  have different : other ≠ observed.userId := by
    rw [own]
    exact fun equal => apart (equal ▸ member)
  dsimp only
  rw [Table.get_upsert,if_neg different]
  exact fresh.unwritten other (List.mem_cons_of_mem userId member)

private theorem OneWidth.meets_credit (one : OneWidth width store) (game : GameProfile R)
    (dense : game.dense.Sized width) (at_ : DateTime) (userId : UserId) (rest : List UserId) (session : Session R)
    (fresh : Fresh store (userId :: rest) session) :
    (HandleGamePublished.credit game at_ userId).Meets (handle environment) (Sql.Permits width)
      (fun _ after => Fresh store rest after) session := by
  apply Program.meets_bind
  apply fresh.meets_preferenceOf
  exact one.meets_observe environment fresh game dense .purchase at_ _ fun after kept _ => kept

private theorem start_fresh (userIds : List UserId) (distinct : userIds.Nodup) : Fresh store userIds { store } :=
  ⟨rfl,rfl,rfl,distinct,fun _ _ => rfl⟩

private theorem OneWidth.meets_backfill (one : OneWidth width store) (backfillLimit : Nat) (game : GameProfile R)
    (dense : game.dense.Sized width) (games : GameTable R) (ensures : Unit → Session R → Prop)
    (later : ∀ after, after.committed = false → ensures () after) :
    (HandleGamePublished.backfill backfillLimit game).Meets (handle environment) (Sql.Permits width) ensures
      { store, games } := by
  refine (Program.meets_call _ _ _ _ _ _ _ _ rfl).mpr ⟨⟨rfl,rfl⟩,?_⟩
  rw [uncountedOwners_start _ _ _ rfl]
  have distinct := (store.uncounted_nodup game.gameId).sublist (List.take_sublist backfillLimit _)
  have present (userId : UserId) (member : userId ∈ (store.uncounted game.gameId).take backfillLimit) :
      (((store.ownerships.get game.gameId).getD ∅).get userId).isSome := by
    have flag := (store.mem_uncounted game.gameId userId).mp (List.mem_of_mem_take member)
    exact Option.isSome_iff_exists.mpr ⟨false,flag⟩
  generalize (store.uncounted game.gameId).take backfillLimit = owners at distinct present
  change (if owners.isEmpty then (.done () : UseCase R Unit)
    else Program.call .now fun at_ => (Program.forEach (HandleGamePublished.credit game at_) owners).bind fun _ =>
      Ownerships.markCounted game.gameId owners).Meets _ _ _ _
  split
  · exact later _ rfl
  refine (Program.meets_call _ _ _ _ _ _ _ _ rfl).mpr ⟨⟨rfl,rfl⟩,?_⟩
  apply Program.meets_bind
  apply Program.meets_mono _ _ _ _ _ _ _ (Program.meets_forEach _ _ _ (Fresh store)
    (one.meets_credit environment game dense _) owners _ ⟨rfl,rfl,rfl,distinct,fun _ _ => rfl⟩)
  intro _ after credited
  refine (Program.meets_call _ _ _ _ _ _ _ _ rfl).mpr ⟨⟨credited.uncommitted,credited.unrecorded,?_⟩,?_⟩
  · rw [credited.store]
    exact present
  · exact later _ credited.uncommitted

/-- An ingest asks nothing that the two backends would answer differently. -/
theorem OneWidth.meets_execute (one : OneWidth width store) (backfillLimit : Nat) (event : Event) :
    (event.execute backfillLimit : UseCase R Unit).Meets (handle environment) (Sql.Permits width) (fun _ _ => True)
      { store } := by
  rw [Sql.execute_resume]
  refine (Program.meets_call _ _ _ _ _ _ _ _ rfl).mpr ⟨⟨rfl,trivial⟩,?_⟩
  split
  · trivial
  refine (Program.meets_call _ _ _ _ _ _ _ _ rfl).mpr ⟨⟨rfl,rfl⟩,?_⟩
  have read : (({ store } : Session R).games.get event.gameId).or (({ store } : Session R).store.games.get event.gameId) =
      store.games.get event.gameId := rfl
  rw [read]
  cases event with
  | gamePublished eventId gameId developerId title genres tags publishedAt description =>
    change (Program.bind (check (HandleGamePublished.describe (store.games.get gameId) gameId developerId title genres tags
      publishedAt description)) _).Meets _ _ _ _
    cases described : HandleGamePublished.describe (store.games.get gameId) gameId developerId title genres tags
        publishedAt description with
    | error rule => trivial
    | ok game =>
      have dense : game.dense.Sized width := .inl (HandleGamePublished.describe_ok _ _ _ _ _ _ _ _ game described).2.2.2.2.2.2
      rw [check_ok,Program.done_bind]
      refine (Program.meets_call _ _ _ _ _ _ _ _ rfl).mpr ⟨⟨rfl,rfl,dense⟩,?_⟩
      change (Program.bind (HandleGamePublished.backfill backfillLimit game) _).Meets _ _ _ _
      apply Program.meets_bind
      apply one.meets_backfill environment backfillLimit game dense
      exact fun after uncommitted => meets_closing environment eventId after uncommitted
  | gameWithdrawn eventId gameId =>
    change (Sql.resume backfillLimit (.gameWithdrawn eventId gameId) (store.games.get gameId)).Meets _ _ _ _
    cases known : store.games.get gameId with
    | none => exact meets_closing environment eventId _ rfl
    | some game =>
      refine (Program.meets_call _ _ _ _ _ _ _ _ rfl).mpr ⟨⟨rfl,rfl,one.games gameId game known⟩,?_⟩
      exact meets_closing environment eventId _ rfl
  | purchaseCompleted eventId recipientId gameId occurredAt =>
    change (Sql.resume backfillLimit (.purchaseCompleted eventId recipientId gameId occurredAt)
      (store.games.get gameId)).Meets _ _ _ _
    cases known : store.games.get gameId with
    | none =>
      refine (Program.meets_call _ _ _ _ _ _ _ _ rfl).mpr ⟨⟨rfl,rfl⟩,?_⟩
      exact meets_closing environment eventId _ rfl
    | some game =>
      have dense := one.games gameId game known
      have fresh : Fresh store [recipientId] { store } := start_fresh _ (List.nodup_singleton _)
      apply Program.meets_bind
      apply fresh.meets_preferenceOf
      apply Program.meets_bind
      apply fresh.meets_momentOf
      intro at_ after kept games
      simp only [Program.bind_eq]
      rw [← Program.bind_assoc]
      apply Program.meets_bind
      apply one.meets_observe environment kept game dense .purchase at_
      intro last folded same
      refine (Program.meets_call _ _ _ _ _ _ _ _ rfl).mpr ⟨⟨folded.uncommitted,folded.unrecorded⟩,?_⟩
      have unwritten : last.games.get game.bought.gameId = none := by rw [same,games]; rfl
      refine (Program.meets_call _ _ _ _ _ _ _ _ rfl).mpr ⟨⟨folded.uncommitted,unwritten,dense⟩,?_⟩
      exact meets_closing environment eventId _ folded.uncommitted
  | reviewPosted eventId authorId gameId liked occurredAt =>
    change (Sql.resume backfillLimit (.reviewPosted eventId authorId gameId liked occurredAt)
      (store.games.get gameId)).Meets _ _ _ _
    cases known : store.games.get gameId with
    | none => exact meets_closing environment eventId _ rfl
    | some game =>
      have fresh : Fresh store [authorId] { store } := start_fresh _ (List.nodup_singleton _)
      apply Program.meets_bind
      apply fresh.meets_preferenceOf
      apply Program.meets_bind
      apply fresh.meets_momentOf
      intro at_ after kept games
      simp only [Program.bind_eq]
      rw [← Program.bind_assoc]
      apply Program.meets_bind
      apply one.meets_observe environment kept game (one.games gameId game known) (reviewKind liked) at_
      exact fun last folded _ => meets_closing environment eventId last folded.uncommitted

private theorem meets_upsertEmbedded (pending : List (GameProfile R)) (vectors : List (List R))
    (wide : ∀ vector ∈ vectors, vector.length = width) (distinct : (pending.map (·.gameId)).Nodup) (session : Session R)
    (uncommitted : session.committed = false) (unwritten : ∀ game ∈ pending, session.games.get game.gameId = none) :
    (EmbedPendingGames.upsertEmbedded pending vectors).Meets (handle environment) (Sql.Permits width)
      (fun _ after => after.committed = false) session := by
  induction pending generalizing vectors session with
  | nil => cases vectors <;> first | exact uncommitted | trivial
  | cons game games ih =>
    cases vectors with
    | nil => trivial
    | cons values rest =>
      obtain ⟨apart,later⟩ := List.nodup_cons.mp distinct
      refine (Program.meets_call _ _ _ _ _ _ _ _ rfl).mpr ⟨⟨uncommitted,unwritten game List.mem_cons_self,
        .inr (wide values List.mem_cons_self)⟩,?_⟩
      rw [Program.done_bind]
      refine ih rest (fun vector member => wide vector (List.mem_cons_of_mem values member)) later _ uncommitted ?_
      intro other member
      have different : other.gameId ≠ (game.embedded ⟨values⟩).gameId := by
        intro equal
        have same : other.gameId = game.gameId := equal
        have inside : other.gameId ∈ games.map (·.gameId) := List.mem_map_of_mem member
        rw [same] at inside
        exact apart inside
      dsimp only
      rw [Table.get_upsert,if_neg different]
      exact unwritten other (List.mem_cons_of_mem game member)

private theorem meets_store (pending : List (GameProfile R)) (vectors : List (List R))
    (wide : ∀ vector ∈ vectors, vector.length = width) (distinct : (pending.map (·.gameId)).Nodup) :
    (EmbedPendingGames.store pending vectors).Meets (handle environment) (Sql.Permits width) (fun _ _ => True) { store } := by
  apply Program.meets_bind
  apply Program.meets_mono _ _ _ _ _ _ _
    (meets_upsertEmbedded environment pending vectors wide distinct { store } rfl fun _ _ => rfl)
  intro _ after uncommitted
  exact (Program.meets_call _ _ _ _ _ _ _ _ rfl).mpr ⟨⟨uncommitted,trivial⟩,trivial⟩

end
end Memory

/-- Committed states of the two backends that the same work has led to. -/
structure Matched (past : DateTime → Prop) (store : MemoryStore R) (database : Database R width) : Prop where
  rows : SameRows store database
  log : store.processedEvents = database.processedEvents
  before : database.ownerships.Acquired past

namespace Matched
variable [DecidableEq R] {past : DateTime → Prop} {store : MemoryStore R} {database : Database R width}

omit [DecidableEq R] in
theorem later (matched : Matched past store database) (further : DateTime → Prop) (more : ∀ at_, past at_ → further at_) :
    Matched further store database :=
  { matched with before := fun key row found => more _ (matched.before key row found) }

theorem beside (matched : Matched past store database) (clock : Nat → DateTime) :
    Sql.Beside clock past { store } {} database where
  rows := matched.rows
  log := matched.log
  games :=
    have empty : ({} : IdentityMap (Sql.games R width)).Stages database.games fun _ => none := IdentityMap.stages_empty _
    empty
  preferences :=
    have empty : ({} : IdentityMap (Sql.preferences R width)).Stages database.preferences fun _ => none :=
      IdentityMap.stages_empty _
    empty
  owners := matched.rows.owners
  processed := (Finset.union_empty _).trans matched.log
  unlisted := ⟨rfl,rfl,rfl⟩
  kept := rfl
  before := matched.before
  acquired key row found := .inl (matched.before key row found)
  untouched _ := ⟨rfl,rfl⟩

/-- A unit of work that asks what both answer alike ends alike on both, committed or not. -/
theorem attempt {A : Type} (matched : Matched past store database) (backend : Backend R)
    (ahead : ∀ at_, past at_ → ∀ reading, at_.micros < (backend.environment.clock reading).micros)
    (cut : Option Nat) (useCase : UseCase R A) (ensures : A → Memory.Session R → Prop)
    (meets : useCase.Meets (Memory.handle backend.environment) (Sql.Permits width) ensures { store }) :
    (Memory.attempt backend.environment cut useCase store).1 = (Sql.attempt backend cut useCase database).1 ∧
      Matched (fun at_ => past at_ ∨ ∃ reading, at_ = backend.environment.clock reading)
        (Memory.attempt backend.environment cut useCase store).2.store (Sql.attempt backend cut useCase database).2 := by
  obtain ⟨alike,joined⟩ := Program.runUntil_simulates _ _ _ _ (Sql.handle_simulates backend past ahead) useCase ensures cut
    { store } ({},database) meets ((matched.beside backend.environment.clock).joined rfl)
  refine ⟨alike,?_⟩
  unfold Sql.Joined at joined
  split at joined
  · exact ⟨joined.1,joined.2.1,joined.2.2⟩
  · exact ⟨joined.rows,joined.log,fun key row found => .inl (joined.before key row found)⟩

theorem pending (matched : Matched past store database) (backend : Backend R) (batchSize : Nat) :
    (Sql.attempt backend none (EmbedPendingGames.pending batchSize) database).1 =
      .returned (Memory.needingEmbedding store.games batchSize) := by
  have read := matched.rows.popular batchSize (fun row => row.isPublished && row.dense.isEmpty) (·.needsEmbedding)
    fun _ => rfl
  have batch : database.needingEmbedding batchSize = (sortedBy Database.popular (database.gameRows.filter fun row =>
      row.isPublished && row.dense.isEmpty)).take batchSize := rfl
  rw [← batch] at read
  unfold Sql.attempt Sql.unitOfWork EmbedPendingGames.pending Program.runUntil
  dsimp only
  rw [Program.run_call]
  unfold SharedHandler.joint Sql.handle
  dsimp only
  rw [read]
  rfl

end Matched

def Memory.Pass.pending : Memory.Pass R → List (GameProfile R)
  | .asked pending | .answered pending _ => pending

def Memory.Pass.vectors : Memory.Pass R → List (List R)
  | .asked _ => []
  | .answered _ vectors => vectors

/-- The two services after the same turns. The batches in flight hold no game twice. -/
structure InStep (past : DateTime → Prop) [DecidableEq R] (here : Memory.Enrichment R) (there : Sql.Enrichment R width) :
    Prop where
  matched : Matched past here.store there.database
  passes : here.passes = there.passes
  distinct : ∀ pass ∈ here.passes, (pass.pending.map (·.gameId)).Nodup
  wide : ∀ pass ∈ here.passes, ∀ vector ∈ pass.vectors, vector.length = width

namespace InStep
variable [DecidableEq R] {past : DateTime → Prop} {here : Memory.Enrichment R} {there : Sql.Enrichment R width} {Body : Type}

theorem outcome (inStep : InStep past here there) (backfillLimit : Nat) (turn : Turn R Body)
    (ahead : ∀ at_, past at_ → ∀ reading, at_.micros < (turn.backend.environment.clock reading).micros) :
    here.outcome backfillLimit turn = there.outcome backfillLimit turn := by
  have one := inStep.matched.rows.oneWidth
  unfold Memory.Enrichment.outcome Sql.Enrichment.outcome
  cases turn.task with
  | ingest event =>
    exact congrArg some (inStep.matched.attempt turn.backend ahead turn.cut _ _
      (one.meets_execute turn.backend.environment backfillLimit event)).1
  | read batchSize => rfl
  | answer place body => rfl
  | write place =>
    dsimp only
    rw [← inStep.passes]
    cases found : here.passes[place]? with
    | none => rfl
    | some pass =>
      have member := List.mem_of_getElem? found
      cases pass with
      | asked pending => rfl
      | answered pending vectors =>
        exact congrArg some (inStep.matched.attempt turn.backend ahead turn.cut _ _
          (Memory.meets_store turn.backend.environment pending vectors (inStep.wide _ member) (inStep.distinct _ member))).1

theorem after (inStep : InStep past here there) (backfillLimit : Nat) (embed : Memory.Embedder R Body)
    (wide : ∀ body texts vectors, embed body texts = .ok vectors → ∀ vector ∈ vectors, vector.length = width)
    (turn : Turn R Body)
    (ahead : ∀ at_, past at_ → ∀ reading, at_.micros < (turn.backend.environment.clock reading).micros) :
    InStep (fun at_ => past at_ ∨ ∃ reading, at_ = turn.backend.environment.clock reading)
      (Memory.Enrichment.after backfillLimit embed here turn.move) (there.after backfillLimit embed turn) := by
  have one := inStep.matched.rows.oneWidth
  have still : InStep (fun at_ => past at_ ∨ ∃ reading, at_ = turn.backend.environment.clock reading) here there :=
    { inStep with matched := inStep.matched.later _ fun _ => .inl }
  obtain ⟨backend,cut,task⟩ := turn
  cases task with
  | ingest event =>
    exact { inStep with matched := (inStep.matched.attempt backend ahead cut _ _
      (one.meets_execute backend.environment backfillLimit event)).2 }
  | read batchSize =>
    unfold Turn.move Memory.Enrichment.after Sql.Enrichment.after
    dsimp only
    rw [Memory.execute_pending,inStep.matched.pending backend batchSize]
    have batch : ((Memory.needingEmbedding here.store.games batchSize).map (·.gameId)).Nodup :=
      Memory.selected_distinct here.store.games (·.needsEmbedding) batchSize
    cases known : Memory.needingEmbedding here.store.games batchSize with
    | nil => exact still
    | cons first rest =>
      rw [known] at batch
      refine { still with passes := congrArg (· ++ _) inStep.passes, distinct := ?_, wide := ?_ }
      · intro pass member
        rcases List.mem_append.mp member with earlier | last
        · exact inStep.distinct pass earlier
        · rw [List.mem_singleton.mp last]
          exact batch
      · intro pass member
        rcases List.mem_append.mp member with earlier | last
        · exact inStep.wide pass earlier
        · rw [List.mem_singleton.mp last]
          exact fun _ none => by cases none
  | answer place body =>
    unfold Turn.move Memory.Enrichment.after Sql.Enrichment.after
    dsimp only
    rw [← inStep.passes]
    have erased : InStep (fun at_ => past at_ ∨ ∃ reading, at_ = backend.environment.clock reading)
        { here with passes := here.passes.eraseIdx place } { there with passes := here.passes.eraseIdx place } :=
      { still with
        passes := rfl
        distinct := fun pass member => inStep.distinct pass (List.mem_of_mem_eraseIdx member)
        wide := fun pass member => inStep.wide pass (List.mem_of_mem_eraseIdx member) }
    cases found : here.passes[place]? with
    | none => exact still
    | some pass =>
      cases pass with
      | answered pending vectors => exact still
      | asked pending =>
        have known := inStep.distinct _ (List.mem_of_getElem? found)
        dsimp only
        cases answered : embed body (pending.map (·.embeddingText)) with
        | error fault => exact erased
        | ok vectors =>
          refine { still with passes := rfl, distinct := ?_, wide := ?_ }
          · intro pass member
            rcases List.mem_or_eq_of_mem_set member with earlier | new
            · exact inStep.distinct pass earlier
            · rw [new]
              exact known
          · intro pass member
            rcases List.mem_or_eq_of_mem_set member with earlier | new
            · exact inStep.wide pass earlier
            · rw [new]
              exact wide body _ vectors answered
  | write place =>
    unfold Turn.move Memory.Enrichment.after Sql.Enrichment.after
    dsimp only
    rw [← inStep.passes]
    cases found : here.passes[place]? with
    | none => exact still
    | some pass =>
      cases pass with
      | asked pending => exact still
      | answered pending vectors =>
        have member := List.mem_of_getElem? found
        exact { passes := rfl
                distinct := fun pass member => inStep.distinct pass (List.mem_of_mem_eraseIdx member)
                wide := fun pass member => inStep.wide pass (List.mem_of_mem_eraseIdx member)
                matched := (inStep.matched.attempt backend ahead cut _ _ (Memory.meets_store backend.environment pending
                  vectors (inStep.wide _ member) (inStep.distinct _ member))).2 }

end InStep

private theorem empty_matched [DecidableEq R] :
    Matched (fun _ => False) ({} : MemoryStore R) ({} : Database R width) where
  rows :=
    { games := fun _ => rfl
      preferences := fun _ => rfl
      ownerships := fun _ _ => rfl
      acquired := fun _ => .nil
      recommendations := fun _ => .nil
      ranks := fun _ => List.nodup_nil }
  log := rfl
  before _ _ missing := by cases missing

section Run
variable [DecidableEq R] {Body : Type}

theorem run_inStep (backfillLimit : Nat) (embed : Memory.Embedder R Body)
    (wide : ∀ body texts vectors, embed body texts = .ok vectors → ∀ vector ∈ vectors, vector.length = width)
    (turns : List (Turn R Body)) (ordered : turns.Pairwise Turn.Before) :
    InStep (fun at_ => ∃ turn ∈ turns, ∃ reading, at_ = turn.backend.environment.clock reading)
      (Memory.Enrichment.run backfillLimit embed (turns.map Turn.move))
      (Sql.Enrichment.run backfillLimit embed turns : Sql.Enrichment R width) := by
  induction turns using List.reverseRecOn with
  | nil =>
    exact { matched := empty_matched.later _ fun _ none => none.elim
            passes := rfl
            distinct := fun _ missing => by cases missing
            wide := fun _ missing => by cases missing }
  | append_singleton earlier last ih =>
    obtain ⟨before,_,ahead⟩ := List.pairwise_append.mp ordered
    have stepped := (ih before).after backfillLimit embed wide last (by
      rintro at_ ⟨turn,member,reading,rfl⟩ later
      exact ahead turn member last List.mem_cons_self reading later)
    unfold Memory.Enrichment.run Sql.Enrichment.run
    rw [List.map_append,List.foldl_append,List.foldl_append]
    refine { stepped with matched := stepped.matched.later _ ?_ }
    rintro at_ (⟨turn,member,reading⟩ | reading)
    · exact ⟨turn,List.mem_append_left _ member,reading⟩
    · exact ⟨last,List.mem_append_right _ List.mem_cons_self,reading⟩

variable [Floats R]

/-- Whatever is delivered, cut off, read and embedded, the two services hold the same rows after it,
and the next unit of work ends alike on both. -/
theorem backends_in_step (backfillLimit : Nat) (shipped : Memory.Shipped)
    (turns : List (Turn R (List String → Except String (Json R)))) (next : Turn R (List String → Except String (Json R)))
    (ordered : (turns ++ [next]).Pairwise Turn.Before) :
    let here := Memory.Enrichment.run backfillLimit shipped.embed (turns.map Turn.move)
    let there : Sql.Enrichment R shipped.dimensions := Sql.Enrichment.run backfillLimit shipped.embed turns
    SameRows here.store there.database ∧ here.store.processedEvents = there.database.processedEvents ∧
      here.passes = there.passes ∧ here.outcome backfillLimit next = there.outcome backfillLimit next := by
  intro here there
  obtain ⟨before,_,ahead⟩ := List.pairwise_append.mp ordered
  have inStep := run_inStep backfillLimit shipped.embed shipped.embed_width turns before
  refine ⟨inStep.matched.rows,inStep.matched.log,inStep.passes,inStep.outcome backfillLimit next ?_⟩
  rintro at_ ⟨turn,member,reading,rfl⟩ later
  exact ahead turn member next List.mem_cons_self reading later

end Run
end ArcadiaRecommendation

namespace ArcadiaRecommendation
attribute [local instance] Casing.unchanged Memory.Floats.integers

def turnAt {R Body : Type} [Scalar R] (moment : Int) (task : Task Body) : Turn R Body where
  backend := { Backend.fixed R true with environment := { Environment.fixed with clock := fun _ => ⟨moment⟩ } }
  task := task

theorem turnAt_ordered {R Body : Type} [Scalar R] (entries : List (Int × Task Body))
    (ascending : (entries.map Prod.fst).Pairwise (· < ·)) :
    (entries.map fun entry => (turnAt entry.1 entry.2 : Turn R Body)).Pairwise Turn.Before :=
  List.pairwise_map.mpr ((List.pairwise_map.mp ascending).imp fun less _ _ => less)

/-- A game is bought before it is published, then embedded, bought by another user and reviewed. -/
def served : List (Int × Task (List String → Except String (Json ℚ))) :=
  [(1,.ingest (.purchaseCompleted ⟨1⟩ ⟨⟨1⟩⟩ ⟨⟨1⟩⟩ none)),
    (2,.ingest (.gamePublished ⟨2⟩ ⟨⟨1⟩⟩ ⟨⟨9⟩⟩ "Race" ["racing"] [] none "")),(3,.read 10),
    (4,.answer 0 fun _ => .ok (.list [.list [.int 1,.int 0]])),
    (5,.ingest (.purchaseCompleted ⟨3⟩ ⟨⟨2⟩⟩ ⟨⟨1⟩⟩ none)),(6,.write 0)]

/-- An endpoint that embeds in the plane. -/
def endpoint : Memory.Shipped := .huggingFace { dimensions := 2 }

def servedTurns : List (Turn ℚ (List String → Except String (Json ℚ))) := served.map fun entry => turnAt entry.1 entry.2

def reviewed : Turn ℚ (List String → Except String (Json ℚ)) :=
  turnAt 7 (.ingest (.reviewPosted ⟨4⟩ ⟨⟨1⟩⟩ ⟨⟨1⟩⟩ true none))

private theorem served_ordered : (servedTurns ++ [reviewed]).Pairwise Turn.Before := by
  have moments : ([1,2,3,4,5,6] : List Int).Pairwise (· < ·) := by decide
  have times : (served.map Prod.fst).Pairwise (· < ·) := moments
  refine List.pairwise_append.mpr ⟨turnAt_ordered served times,List.pairwise_singleton _ _,?_⟩
  intro turn member last only
  have early : ∀ moment ∈ ([1,2,3,4,5,6] : List Int), moment < 7 := by decide
  have times : ∀ moment ∈ served.map Prod.fst, moment < 7 := early
  obtain ⟨entry,inside,rfl⟩ := List.mem_map.mp member
  rw [List.mem_singleton.mp only]
  exact fun _ _ => times entry.1 (List.mem_map_of_mem inside)

theorem backends_in_step_served :
    let here := Memory.Enrichment.run 500 endpoint.embed (servedTurns.map Turn.move)
    let there : Sql.Enrichment ℚ endpoint.dimensions := Sql.Enrichment.run 500 endpoint.embed servedTurns
    (SameRows here.store there.database ∧ here.store.processedEvents = there.database.processedEvents ∧
      here.passes = there.passes ∧ here.outcome 500 reviewed = there.outcome 500 reviewed) ∧
      (here.store.games.get ⟨⟨1⟩⟩).map (·.dense.values) = some [1,0] :=
  ⟨backends_in_step 500 endpoint servedTurns reviewed served_ordered,by decide +kernel⟩

end ArcadiaRecommendation
