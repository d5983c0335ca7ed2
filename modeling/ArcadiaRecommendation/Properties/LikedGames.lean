import ArcadiaRecommendation.Foundation.Selection
import ArcadiaRecommendation.Memory.Generation
import ArcadiaRecommendation.Sql.Purchase

/-! What the explanation provider is told of a user: the games of the request, on both
backends, against the most recent games of the history. -/
namespace ArcadiaRecommendation
variable {R : Type} [Scalar R]

def GameFields.shown (fields : GameFields R) : ExplainedGame where
  gameId := fields.gameId
  title := fields.title
  genres := fields.genres
  tags := fields.tags

/-- The games last acted on that a catalogue knows, each once, most recent first. -/
def UserPreference.recent (preference : UserPreference R) (known : GameId → Option ExplainedGame) : List ExplainedGame :=
  ((preference.history.map (·.gameId)).dedup.reverse.filterMap known).take Limits.maxExplainedCandidates

variable [Casing]

def Op.explanation : Op R → Option ExplanationRequest
  | .explain request => some request
  | _ => none

def requests (operations : List (Op R)) : List ExplanationRequest := operations.filterMap Op.explanation

namespace GenerateRecommendations

/-- A generation from the moment its list has been explained. -/
def record (userId : UserId) (scored : List (ScoredGame R)) : UseCase R Nat := do
  let at_ ← Stamps.now
  let recommendations ← Program.forEach (recommendation userId at_) (scored.zipIdx 1)
  Recommendations.replaceFor userId recommendations
  publish userId recommendations
  return recommendations.length

/-- A generation from the moment its remembered games have been read. -/
def consult (generation : Generation R) (userId : UserId) (limit : Nat) (preference : UserPreference R)
    (played : List (GameProfile R)) : UseCase R Nat := do
  let preference ← rebuilt generation preference played
  let candidates ← Games.recommendable generation.catalogueLimit
  let coPurchases ← Ownerships.coPurchases userId preference.owned Limits.maxCollaborativeCandidates
  let scored := HybridRanker.rank generation.content preference candidates coPurchases limit
  let scored ← explained generation scored played
  record userId scored

private theorem generate_consults (generation : Generation R) (userId : UserId) (limit : Nat) :
    generate generation userId limit = (preferenceOf userId).bind fun preference =>
      if preference.isCold then (Recommendations.replaceFor userId []).bind fun _ => .done 0
      else (Games.byIds preference.rememberedGames).bind (consult generation userId limit preference) := rfl

def Recording : Op R → Prop
  | .upsertPreference _ | .now | .newUuid | .replaceFor _ _ | .enqueue _ => True
  | _ => False

private theorem unexplained_of_recording (op : Op R) (recording : Recording op) : op.explanation = none := by
  cases op <;> first | exact recording.elim | rfl

private theorem recording_rebuilt (generation : Generation R) (preference : UserPreference R)
    (played : List (GameProfile R)) : (rebuilt generation preference played).Only Recording := by
  unfold rebuilt
  split
  · apply Program.only_bind _ _ _ (Program.only_ofExcept _ _)
    intro after
    exact ⟨trivial,fun _ => trivial⟩
  · trivial

private theorem recording_publish (userId : UserId) (items : List (Recommendation R)) :
    (publish userId items).Only Recording := by
  unfold publish
  split
  · trivial
  · exact ⟨trivial,fun _ => ⟨trivial,fun _ => ⟨trivial,fun _ => trivial⟩⟩⟩

private theorem recording_record (userId : UserId) (scored : List (ScoredGame R)) :
    (record userId scored).Only Recording := by
  refine ⟨trivial,fun at_ => ?_⟩
  apply Program.only_bind _ (Program.forEach (recommendation userId at_) (scored.zipIdx 1))
  · apply Program.only_forEach
    intro place member
    exact ⟨trivial,fun _ => Program.only_ofExcept _ _⟩
  intro items
  refine ⟨trivial,fun replaced => ?_⟩
  apply Program.only_bind _ _ _ (recording_publish userId items)
  intro published
  trivial

def Consulting : Op R → Prop
  | .recommendable _ | .coPurchases _ _ _ | .explain _ => True
  | op => Recording op

private theorem consulting_of_recording (op : Op R) (recording : Recording op) : Consulting op := by
  cases op <;> first | exact recording.elim | trivial

private theorem consulting_consult (generation : Generation R) (userId : UserId) (limit : Nat)
    (preference : UserPreference R) (played : List (GameProfile R)) :
    (consult generation userId limit preference played).Only Consulting := by
  have recorded (scored : List (ScoredGame R)) : (record userId scored).Only Consulting :=
    Program.only_mono Recording Consulting _ consulting_of_recording (recording_record userId scored)
  apply Program.only_bind _ _ _
    (Program.only_mono Recording Consulting _ consulting_of_recording (recording_rebuilt generation preference played))
  intro renewed
  refine ⟨trivial,fun candidates => ⟨trivial,fun coPurchases => ?_⟩⟩
  show Program.Only Consulting ((explained generation _ played).bind _)
  unfold explained
  split
  · exact recorded _
  refine ⟨trivial,fun reasons => ?_⟩
  show Program.Only Consulting (Program.bind (if (Dict.entries reasons).isEmpty then _ else _) _)
  split <;> exact recorded _

private theorem requests_silent {A State : Type} (handle : Handler (Op R) Answer Fault State) (state : State)
    (program : UseCase R A) (silent : program.Only fun op => op.explanation = none) :
    requests (program.trace handle state) = [] :=
  List.filterMap_eq_nil_iff.mpr (Program.trace_only handle _ program silent state)

private theorem silent_record (userId : UserId) (scored : List (ScoredGame R)) :
    (record userId scored).Only fun op => op.explanation = none :=
  Program.only_mono _ _ _ unexplained_of_recording (recording_record userId scored)

private theorem requests_explained {State : Type} (handle : Handler (Op R) Answer Fault State) (state : State)
    (userId : UserId) (generation : Generation R) (scored : List (ScoredGame R)) (played : List (GameProfile R)) :
    requests (((explained generation scored played).bind (record userId)).trace handle state) =
      if !generation.explanations || scored.isEmpty then []
      else [{ liked := (played.take Limits.maxExplainedCandidates).map asExplained
              candidates := (scored.take Limits.maxExplainedCandidates).map fun item => asExplained item.game }] := by
  unfold explained
  split
  · exact requests_silent handle state _ (silent_record userId scored)
  simp only [Program.bind_eq,Program.pure_eq,Program.call_bind,Program.done_bind,Program.trace]
  cases answered : handle _ state with
  | error fault => rfl
  | ok pair =>
    dsimp only
    rw [requests,List.filterMap_cons]
    dsimp only [Op.explanation]
    congr 1
    apply requests_silent
    split <;> exact silent_record userId _

section Order
variable {State : Type} (handle : Handler (Op R) Answer Fault State)

/-- The requests of a run suggest the same games in whatever order the remembered games were read. -/
def SameShortlists (alike : List (GameProfile R) → Prop) (program : List (GameProfile R) → UseCase R Nat)
    (state : State) : Prop :=
  ∃ shortlists : List (List ExplainedGame), ∀ played, alike played → requests ((program played).trace handle state) =
    shortlists.map fun candidates =>
      { liked := (played.take Limits.maxExplainedCandidates).map asExplained, candidates }

variable (alike : List (GameProfile R) → Prop) (state : State)

private theorem same_explained (userId : UserId) (generation : Generation R) (scored : List (ScoredGame R)) :
    SameShortlists handle alike (fun played => (explained generation scored played).bind (record userId)) state := by
  refine ⟨if !generation.explanations || scored.isEmpty then []
    else [(scored.take Limits.maxExplainedCandidates).map fun item => asExplained item.game],fun played _ => ?_⟩
  rw [requests_explained]
  split <;> rfl

private theorem same_bind {A : Type} (program : UseCase R A) (silent : program.Only fun op => op.explanation = none)
    (next : A → List (GameProfile R) → UseCase R Nat) (each : ∀ value after, SameShortlists handle alike (next value) after) :
    SameShortlists handle alike (fun played => program.bind fun value => next value played) state := by
  cases ran : program.run handle state with
  | mk result after =>
    have unasked := requests_silent handle state program silent
    cases result with
    | error fault =>
      refine ⟨[],fun played _ => ?_⟩
      rw [Program.trace_bind,ran,List.append_nil,unasked]
      rfl
    | ok value =>
      obtain ⟨shortlists,same⟩ := each value after
      refine ⟨shortlists,fun played inside => ?_⟩
      rw [Program.trace_bind,ran,← same played inside]
      unfold requests at unasked ⊢
      rw [List.filterMap_append,unasked,List.nil_append]

private theorem same_consult (generation : Generation R) (userId : UserId) (limit : Nat) (preference : UserPreference R)
    (played : List (GameProfile R)) : SameShortlists handle
      (fun other => rebuilt generation preference other = rebuilt generation preference played)
      (consult generation userId limit preference) state := by
  obtain ⟨shortlists,same⟩ := same_bind handle (fun _ => True) state
    (rebuilt generation preference played) (Program.only_mono _ _ _ unexplained_of_recording (recording_rebuilt generation preference played))
    (fun renewed other => do
      let candidates ← Games.recommendable generation.catalogueLimit
      let coPurchases ← Ownerships.coPurchases userId renewed.owned Limits.maxCollaborativeCandidates
      let scored := HybridRanker.rank generation.content renewed candidates coPurchases limit
      let scored ← explained generation scored other
      record userId scored) (by
        intro renewed after
        apply same_bind handle _ _ (Games.recommendable generation.catalogueLimit) ⟨rfl,fun _ => trivial⟩
        intro candidates after
        apply same_bind handle _ _ (Ownerships.coPurchases userId renewed.owned _) ⟨rfl,fun _ => trivial⟩
        intro coPurchases after
        exact same_explained handle _ _ userId generation _)
  refine ⟨shortlists,fun other alike => ?_⟩
  unfold consult
  rw [alike]
  exact same other trivial

private theorem requests_read (generation : Generation R) (userId : UserId) (limit : Nat)
    (found : Option (UserPreference R)) (after read : State) (played : List (GameProfile R))
    (fetched : handle (.getPreference userId) state = .ok (found,after))
    (warm : (found.getD (.blank userId)).isCold = false)
    (answered : handle (.gamesByIds (found.getD (.blank userId)).rememberedGames) after = .ok (played,read)) :
    requests ((generate generation userId limit).trace handle state) =
      requests ((consult generation userId limit (found.getD (.blank userId)) played).trace handle read) := by
  rw [generate_consults]
  simp only [preferenceOf,Program.bind_eq,Program.pure_eq,Program.call_bind,Program.done_bind,Program.trace,fetched,warm,
    Bool.false_eq_true,if_false,answered]
  rfl

private theorem requests_generate (generation : Generation R) (userId : UserId) (limit : Nat) :
    requests ((generate generation userId limit).trace handle state) = [] ∨ ∃ found after played read,
      handle (.getPreference userId) state = .ok (found,after) ∧ (found.getD (.blank userId)).isCold = false ∧
      handle (.gamesByIds (found.getD (.blank userId)).rememberedGames) after = .ok (played,read) := by
  rw [generate_consults]
  cases fetched : handle (.getPreference userId) state with
  | error fault =>
    left
    simp only [preferenceOf,Program.bind_eq,Program.pure_eq,Program.call_bind,Program.done_bind,Program.trace,fetched]
    rfl
  | ok pair =>
    obtain ⟨found,after⟩ := pair
    simp only [preferenceOf,Program.bind_eq,Program.pure_eq,Program.call_bind,Program.done_bind,Program.trace,fetched]
    by_cases cold : (found.getD (.blank userId)).isCold = true
    · left
      rw [if_pos cold]
      exact requests_silent handle after ((Recommendations.replaceFor userId []).bind fun _ => .done 0)
        ⟨rfl,fun _ => trivial⟩
    · rw [if_neg cold]
      cases answered : handle (.gamesByIds (found.getD (.blank userId)).rememberedGames) after with
      | error fault =>
        left
        simp only [Program.trace,answered]
        rfl
      | ok reading => exact .inr ⟨found,after,reading.1,reading.2,rfl,Bool.eq_false_of_not_eq_true cold,answered⟩

end Order

private theorem rebuilt_perm (generation : Generation R) (preference : UserPreference R)
    (first second : List (GameProfile R)) (same : first.Perm second) (distinct : (first.map (·.gameId)).Nodup) :
    rebuilt generation preference first = rebuilt generation preference second := by
  have keys (played : List (GameProfile R)) : (played.map fun game => (game.gameId,game.dense)).map Prod.fst =
      played.map (·.gameId) := by rw [List.map_map]; rfl
  have spaces (gameId : GameId) : (space first).get gameId = (space second).get gameId := by
    apply Option.ext
    intro dense
    unfold space
    rw [Dict.get_ofList _ (by rw [keys]; exact distinct),
      Dict.get_ofList _ (by rw [keys]; exact (same.map _).nodup_iff.mp distinct)]
    exact (same.map _).mem_iff
  have preferences : preference.rebuiltIn (space first) = preference.rebuiltIn (space second) := by
    rw [UserPreference.rebuiltIn_eq,UserPreference.rebuiltIn_eq]
    simp only [spaces]
  unfold rebuilt
  rw [preferences]

end GenerateRecommendations

namespace Memory
open GenerateRecommendations

def told (environment : Environment) (store : MemoryStore R) (generation : Generation R) (userId : UserId) (limit : Nat) :
    List ExplanationRequest :=
  requests ((generate generation userId limit).trace (handle environment) { store })

private theorem told_recent (environment : Environment) (store : MemoryStore R) (generation : Generation R)
    (userId : UserId) (limit : Nat) (request : ExplanationRequest)
    (asked : request ∈ told environment store generation userId limit) :
    request.liked = (store.preferenceOf userId).recent fun gameId => (store.games.get gameId).map asExplained := by
  unfold told at asked
  rcases requests_generate (handle environment) { store } generation userId limit with
    none | ⟨found,after,played,read,fetched,warm,answered⟩
  · rw [none] at asked
    cases asked
  rw [requests_read _ _ generation userId limit found after read played fetched warm answered] at asked
  obtain ⟨shortlists,listed⟩ := same_consult (handle environment) read generation userId limit
    (found.getD (.blank userId)) played
  rw [listed played rfl] at asked
  obtain ⟨candidates,_,rfl⟩ := List.mem_map.mp asked
  have games : played = (store.preferenceOf userId).rememberedGames.filterMap store.games.get := by
    cases fetched
    cases answered
    rfl
  dsimp only
  rw [games,UserPreference.rememberedGames_dedup,UserPreference.recent,List.map_take,List.map_filterMap]

end Memory

namespace Sql
open GenerateRecommendations
variable [DecidableEq R] {width : Nat}

/-- A session on a database to which nobody else commits. -/
def still (backend : Backend R) (database : Database R width) : Handler (Op R) Answer Fault (Session R width) :=
  fun op session => (handle backend op database session).map fun (answer,after,_) => (answer,after)

def told (backend : Backend R) (database : Database R width) (generation : Generation R) (userId : UserId) (limit : Nat) :
    List ExplanationRequest :=
  requests ((generate generation userId limit).trace (still backend database) (unitOfWork (generate generation userId limit)).own)

def ordered (backend : Backend R) (arrange : List (GameFields R) → List (GameFields R))
    (arranged : ∀ rows, (arrange rows).Perm rows) : Backend R :=
  { backend with arrange, arranged }

def decoded (row : GameFields R) : GameProfile R := (gameToDomain row).toOption.getD (.untitled row.gameId)

omit [DecidableEq R] in
private theorem decoded_ok (row : GameFields R) (game : GameProfile R) (ok : gameToDomain row = .ok game) :
    decoded row = game := by
  unfold decoded
  rw [ok]
  rfl

omit [DecidableEq R] in
private theorem decoded_shown (row : GameFields R) (readable : gameToDomain row = .ok (decoded row)) :
    asExplained (decoded row) = row.shown := by
  unfold gameToDomain at readable
  cases built : GameProfile.construct row with
  | error rule =>
    rw [built] at readable
    cases readable
  | ok game =>
    rw [built] at readable
    obtain ⟨embedding,same⟩ := GameProfile.construct_kept row game built
    rw [← Except.ok.inj readable]
    show game.toGameFields.shown = row.shown
    rw [same]
    rfl

omit [DecidableEq R] in
private theorem decoded_ids (rows : List (GameFields R))
    (readable : ∀ row ∈ rows, gameToDomain row = .ok (decoded row)) :
    (rows.map decoded).map (·.gameId) = rows.map (·.gameId) := by
  rw [List.map_map]
  apply List.map_congr_left
  intro row member
  exact congrArg ExplainedGame.gameId (decoded_shown row (readable row member))

private theorem profiles_unheld (session : Session R width) (bare : session.games = {}) (rows : List (GameFields R)) :
    profiles session rows = rows.mapM gameToDomain := by
  unfold profiles
  rw [bare]
  rfl

omit [DecidableEq R] in
private theorem readable_rows (rows : List (GameFields R)) (games : List (GameProfile R))
    (read : rows.mapM gameToDomain = .ok games) : ∀ row ∈ rows, gameToDomain row = .ok (decoded row) := by
  intro row member
  obtain ⟨game,ok⟩ := (mapM_total_iff gameToDomain rows).mp ⟨games,read⟩ row member
  rw [decoded_ok row game ok,ok]

omit [Casing] [DecidableEq R] in
private theorem byIds_keys (database : Database R width) (gameIds : List GameId) :
    ((database.byIds gameIds).map (·.gameId)).Nodup := by
  have keys : (database.gameRows.map (·.gameId)) = database.games.keys := by
    rw [← database.games.keys_values,Database.gameRows,List.map_map]
    rfl
  have distinct : (database.gameRows.map (·.gameId)).Nodup := by
    rw [keys]
    exact database.games.keys_nodup
  exact distinct.sublist (List.filter_sublist.map _)

omit [Casing] [DecidableEq R] in
private theorem byIds_perm (database : Database R width) (gameIds : List GameId) (distinct : gameIds.Nodup) :
    (database.byIds gameIds).Perm (gameIds.filterMap fun gameId => (database.games.get gameId).map (·.toGameFields)) := by
  have found := (database.games.filter_perm_filterMap gameIds distinct).map fun row => row.toGameFields
  rw [List.map_filterMap] at found
  refine List.Perm.trans (List.Perm.of_eq ?_) found
  unfold Database.byIds Database.gameRows
  rw [List.filter_map]
  rfl

private theorem still_preference (backend : Backend R) (database : Database R width) (userId : UserId) :
    still backend database (.getPreference userId) {} = .ok ((database.preferences.get userId).map (·.toUserPreference),
      { preferences := remembering backend database userId }) := by
  simp only [still,handle,remembering,Except.map,fetch_fresh]

private theorem still_games (backend : Backend R) (database : Database R width) (gameIds : List GameId)
    (session : Session R width) (bare : session.games = {}) : still backend database (.gamesByIds gameIds) session =
      ((backend.arrange (database.byIds gameIds)).mapM gameToDomain).map fun games => (games,session) := by
  simp only [still,handle,profiles_unheld session bare]
  cases (backend.arrange (database.byIds gameIds)).mapM gameToDomain <;> rfl

/-- The order of the rows of an id lookup is all that the two backends differ in. -/
theorem still_agree (backend : Backend R) (arrange : List (GameFields R) → List (GameFields R))
    (arranged : ∀ rows, (arrange rows).Perm rows) (database : Database R width) (op : Op R) (session : Session R width)
    (consulting : Consulting op) :
    still (ordered backend arrange arranged) database op session = still backend database op session := by
  cases op <;> first | exact consulting.elim | rfl

/-- A request that is built under one order of the rows is built under every order, and differs in the order of
the games the user liked. -/
theorem told_ordered (backend : Backend R) (database : Database R width) (generation : Generation R) (userId : UserId)
    (limit : Nat) (built : told backend database generation userId limit ≠ []) :
    ∃ shortlists : List (List ExplainedGame), shortlists ≠ [] ∧ ∀ arrange arranged,
      told (ordered backend arrange arranged) database generation userId limit =
        shortlists.map fun candidates =>
          { liked := ((arrange (database.byIds (preferenceIn database userId).rememberedGames)).take
              Limits.maxExplainedCandidates).map GameFields.shown
            candidates } := by
  dsimp only [told,unitOfWork] at built ⊢
  obtain ⟨found,after,played,read,fetched,warm,answered⟩ :=
    (requests_generate (still backend database) {} generation userId limit).resolve_left built
  rw [requests_read _ _ generation userId limit found after read played fetched warm answered] at built
  rw [still_preference] at fetched
  cases fetched
  let preference := preferenceIn database userId
  let rows := database.byIds preference.rememberedGames
  rw [still_games _ _ _ _ rfl] at answered
  obtain ⟨games,decoding,reading⟩ := ok_of_map answered
  cases reading
  have readable (row : GameFields R) (member : row ∈ rows) : gameToDomain row = .ok (decoded row) :=
    readable_rows _ _ decoding row ((backend.arranged rows).mem_iff.mpr member)
  have read (arrange : List (GameFields R) → List (GameFields R)) (arranged : ∀ rows, (arrange rows).Perm rows) :
      (arrange rows).mapM gameToDomain = .ok ((arrange rows).map decoded) :=
    mapM_eq_map _ _ _ fun row member => readable row ((arranged rows).mem_iff.mp member)
  have own : played = (backend.arrange rows).map decoded :=
    Except.ok.inj (decoding.symm.trans (read backend.arrange backend.arranged))
  obtain ⟨shortlists,same⟩ := same_consult (still backend database)
    { preferences := remembering backend database userId } generation userId limit preference played
  refine ⟨shortlists,?_,?_⟩
  · intro none
    have silent := same played rfl
    rw [none] at silent
    exact built silent
  intro arrange arranged
  have answer : still (ordered backend arrange arranged) database (.gamesByIds preference.rememberedGames)
      { preferences := remembering backend database userId } =
        .ok ((arrange rows).map decoded,{ preferences := remembering backend database userId }) := by
    rw [still_games _ _ _ _ rfl]
    exact congrArg (Except.map _) (read arrange arranged)
  rw [requests_read (still (ordered backend arrange arranged) database) {} generation userId limit _
    _ _ _ (still_preference (ordered backend arrange arranged) database userId) warm answer]
  rw [Program.trace_agree _ (still backend database) Consulting (still_agree backend arrange arranged database) _
    (consulting_consult generation userId limit _ _)]
  have rebuilding : rebuilt generation preference ((arrange rows).map decoded) = rebuilt generation preference played := by
    apply rebuilt_perm
    · rw [own]
      exact ((arranged rows).trans (backend.arranged rows).symm).map decoded
    · rw [decoded_ids _ fun row member => readable row ((arranged rows).mem_iff.mp member)]
      exact ((arranged rows).map _).nodup_iff.mpr (byIds_keys database _)
  refine (same _ rebuilding).trans (List.map_congr_left fun candidates _ => ?_)
  congr 1
  rw [← List.map_take,List.map_map]
  apply List.map_congr_left
  intro row member
  exact decoded_shown row (readable row ((arranged rows).mem_iff.mp (List.mem_of_mem_take member)))

end Sql

section
variable [DecidableEq R]
open GenerateRecommendations

/-- On the in-memory backend the provider is told the most recent games. On the relational one that holds in every
order of the rows exactly where there is at most one game to tell. -/
theorem liked_recent_iff :
    (∀ (environment : Environment) (store : MemoryStore R) (generation : Generation R) (userId : UserId) (limit : Nat),
      ∀ request ∈ Memory.told environment store generation userId limit, request.liked =
        (store.preferenceOf userId).recent fun gameId => (store.games.get gameId).map asExplained) ∧
    ∀ (width : Nat) (backend : Backend R) (database : Database R width) (generation : Generation R) (userId : UserId)
      (limit : Nat), Sql.told backend database generation userId limit ≠ [] →
        ((∀ arrange arranged, ∀ request ∈ Sql.told (Sql.ordered backend arrange arranged) database generation userId limit,
          request.liked = (Sql.preferenceIn database userId).recent fun gameId =>
            (database.games.get gameId).map fun row => row.shown) ↔
          (((Sql.preferenceIn database userId).history.map (·.gameId)).dedup.filter fun gameId =>
            (database.games.get gameId).isSome).length ≤ 1) := by
  refine ⟨Memory.told_recent,fun width backend database generation userId limit built => ?_⟩
  obtain ⟨shortlists,nonempty,listed⟩ := Sql.told_ordered backend database generation userId limit built
  let preference := Sql.preferenceIn database userId
  let rows := database.byIds preference.rememberedGames
  have selection := Sql.byIds_perm database preference.rememberedGames preference.rememberedGames_nodup
  have expected : (preference.recent fun gameId => (database.games.get gameId).map fun row => row.shown) =
      (((preference.rememberedGames.filterMap fun gameId => (database.games.get gameId).map (·.toGameFields)).take
        Limits.maxExplainedCandidates).map GameFields.shown) := by
    rw [List.map_take,List.map_filterMap,UserPreference.rememberedGames_dedup,UserPreference.recent]
    simp only [Option.map_map,Function.comp_def]
  have count : (((preference.history.map (·.gameId)).dedup.filter fun gameId =>
      (database.games.get gameId).isSome).length) = rows.length := by
    rw [selection.length_eq,List.length_filterMap_eq_countP,UserPreference.rememberedGames_dedup,List.countP_reverse,
      List.countP_eq_length_filter]
    simp only [Option.isSome_map]
  rw [expected,count]
  constructor
  · intro always
    obtain ⟨candidates,shortlisted⟩ := List.exists_mem_of_ne_nil shortlists nonempty
    have told (arrange : List (GameFields R) → List (GameFields R)) (arranged : ∀ rows, (arrange rows).Perm rows) :
        ((arrange rows).take Limits.maxExplainedCandidates).map GameFields.shown = _ :=
      always arrange arranged { liked := _, candidates }
        (by rw [listed arrange arranged]; exact List.mem_map_of_mem shortlisted)
    have ends := (told id fun _ => .refl _).trans (told List.reverse List.reverse_perm).symm
    have distinct : (rows.map GameFields.shown).Nodup := by
      apply List.Nodup.of_map ExplainedGame.gameId
      rw [List.map_map]
      exact Sql.byIds_keys database preference.rememberedGames
    rw [← List.length_map (f := GameFields.shown)]
    apply single_of_taken _ 9 distinct
    rw [← List.map_reverse,← List.map_take,← List.map_take]
    exact ends
  · intro few arrange arranged request asked
    rw [listed arrange arranged] at asked
    obtain ⟨candidates,_,rfl⟩ := List.mem_map.mp asked
    have same := perm_of_single _ _ ((arranged rows).trans selection) (by rwa [(arranged rows).length_eq])
    dsimp only
    rw [same]

end
end ArcadiaRecommendation

namespace ArcadiaRecommendation
namespace Sql
attribute [local instance] Casing.unchanged

def ingested (events : List Event) : Database ℚ 0 :=
  events.foldl (fun database event => alone deployedBackfillLimit (.fixed ℚ false) event database) {}

def racesPublished : List Event :=
  [.gamePublished ⟨1⟩ ⟨⟨1⟩⟩ ⟨⟨9⟩⟩ "Race" ["racing"] [] none "",
    .gamePublished ⟨2⟩ ⟨⟨2⟩⟩ ⟨⟨9⟩⟩ "Rally" ["racing"] [] none "",
    .gamePublished ⟨3⟩ ⟨⟨3⟩⟩ ⟨⟨9⟩⟩ "Kart" ["racing"] [] none ""]

def raceThenRally : List Event :=
  racesPublished ++ [.purchaseCompleted ⟨4⟩ ⟨⟨1⟩⟩ ⟨⟨1⟩⟩ none,.purchaseCompleted ⟨5⟩ ⟨⟨1⟩⟩ ⟨⟨2⟩⟩ none]

def explaining : Generation ℚ := { content := contentBasedScorer, explanations := true }

private theorem told_raced : (told (.fixed ℚ false) (ingested raceThenRally) explaining ⟨⟨1⟩⟩ 10).map (fun request =>
    request.liked.map (·.title)) = [["Race","Rally"]] := by decide +kernel

theorem liked_recent_iff_raced :
    (∀ arrange arranged, ∀ request ∈ told (ordered (.fixed ℚ false) arrange arranged) (ingested raceThenRally) explaining
        ⟨⟨1⟩⟩ 10, request.liked = (preferenceIn (ingested raceThenRally) ⟨⟨1⟩⟩).recent fun gameId =>
          ((ingested raceThenRally).games.get gameId).map fun row => row.shown) ↔
      (((preferenceIn (ingested raceThenRally) ⟨⟨1⟩⟩).history.map (·.gameId)).dedup.filter fun gameId =>
        ((ingested raceThenRally).games.get gameId).isSome).length ≤ 1 :=
  liked_recent_iff.2 0 (.fixed ℚ false) (ingested raceThenRally) explaining ⟨⟨1⟩⟩ 10
    (by intro none; have shown := told_raced; rw [none] at shown; cases shown)

/-- The rows come in the order of their primary keys, which is not the order of the purchases. -/
theorem liked_out_of_order : ¬∀ (events : List Event) (backend : Backend ℚ) (generation : Generation ℚ) (userId : UserId)
    (limit : Nat), ∀ request ∈ told backend (ingested events) generation userId limit,
      request.liked = (preferenceIn (ingested events) userId).recent fun gameId =>
        ((ingested events).games.get gameId).map fun row => row.shown := by
  intro claim
  have recent : ((preferenceIn (ingested raceThenRally) ⟨⟨1⟩⟩).recent fun gameId =>
      ((ingested raceThenRally).games.get gameId).map fun row => row.shown).map (·.title) = ["Rally","Race"] := by
    decide +kernel
  have member : ["Race","Rally"] ∈ (told (.fixed ℚ false) (ingested raceThenRally) explaining ⟨⟨1⟩⟩ 10).map
      fun request => request.liked.map (·.title) := by
    rw [told_raced]
    exact List.mem_cons_self
  obtain ⟨request,asked,titles⟩ := List.mem_map.mp member
  rw [claim raceThenRally (.fixed ℚ false) explaining ⟨⟨1⟩⟩ 10 request asked,recent] at titles
  revert titles
  decide

end Sql
end ArcadiaRecommendation
