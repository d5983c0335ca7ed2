import ArcadiaRecommendation.Memory.Refresh
import ArcadiaRecommendation.Memory.Service

/-! The users of a sweep are generated independently: what the loop leaves for one user is
what the generation of that user alone leaves, whoever else is in the loop, in what order,
and whoever fails. -/
namespace ArcadiaRecommendation
namespace Memory
variable {R : Type} [Scalar R] [Casing]

/-- Two sessions that differ at most in what is stored for other users. -/
structure Beside (userId : UserId) (first second : Session R) : Prop where
  staged : first = { second with store := first.store }
  games : first.store.games = second.store.games
  ownerships : first.store.ownerships = second.store.ownerships
  preference : first.store.preferences.get userId = second.store.preferences.get userId
  stored : first.store.recommendations.get userId = second.store.recommendations.get userId

def Sealing (userId : UserId) : Op R → Prop
  | .commit => True
  | op => Generating userId op

private theorem sealing_of_generating (userId : UserId) (op : Op R) (generating : Generating userId op) :
    Sealing userId op := by
  cases op <;> first | exact generating | trivial

private theorem sealing_execute (generation : Generation R) (userId : UserId) (limit : Nat) :
    (GenerateRecommendations.execute generation userId limit).Only (Sealing userId) := by
  apply Program.only_bind
  · exact Program.only_mono (Generating userId) (Sealing userId) _ (sealing_of_generating userId)
      (generating_generate generation userId limit)
  · intro written
    exact ⟨trivial,fun _ => trivial⟩

private theorem handle_beside (environment : Environment) (userId : UserId) :
    Program.Respects (handle environment) (Sealing userId) (Beside (R := R) userId) := by
  intro op first second sealing beside
  obtain ⟨staged,games,ownerships,preference,stored⟩ := beside
  obtain ⟨⟨games₁,preferences₁,ownerships₁,recommendations₁,outbox₁,processed₁⟩,rest⟩ := first
  obtain ⟨⟨games₂,preferences₂,ownerships₂,recommendations₂,outbox₂,processed₂⟩,rest⟩ := second
  simp only [Session.mk.injEq,true_and] at staged
  obtain ⟨rfl,rfl,rfl,rfl,rfl,rfl,rfl,rfl,rfl⟩ := staged
  simp only at games ownerships preference stored
  subst games
  subst ownerships
  left
  cases op
  case commit =>
    refine ⟨(),_,_,rfl,rfl,⟨rfl,rfl,rfl,?_,?_⟩⟩
    · simp only [applied,Table.get_update,preference]
    · simp only [applied,Dict.get_update,stored]
  case getPreference other =>
    cases (show other = userId from sealing)
    exact ⟨_,_,_,rfl,congrArg (fun known => Except.ok (Option.or _ known,_)) preference.symm,
      ⟨rfl,rfl,rfl,preference,stored⟩⟩
  all_goals first
    | exact (show False from sealing).elim
    | exact ⟨_,_,_,rfl,rfl,⟨rfl,rfl,rfl,preference,stored⟩⟩

private theorem attempt_beside (generation : Generation R) (limit : Nat) (turn : Turn) (first second : MemoryStore R)
    (games : first.games = second.games) (ownerships : first.ownerships = second.ownerships)
    (preference : first.preferences.get turn.userId = second.preferences.get turn.userId)
    (stored : first.recommendations.get turn.userId = second.recommendations.get turn.userId) :
    (turn.attempt generation limit first).1 = (turn.attempt generation limit second).1 ∧
      Beside turn.userId (turn.attempt generation limit first).2 (turn.attempt generation limit second).2 :=
  Program.runUntil_related (handle turn.environment) (Sealing turn.userId) (Beside turn.userId)
    (handle_beside turn.environment turn.userId) _ (sealing_execute generation turn.userId limit) turn.cut
    { store := first } { store := second } ⟨rfl,games,ownerships,preference,stored⟩

structure Framed (generation : Generation R) (limit : Nat) (turn : Turn) (start : MemoryStore R) : Prop where
  games : (turn.attempt generation limit start).2.store.games = start.games
  ownerships : (turn.attempt generation limit start).2.store.ownerships = start.ownerships
  processed : (turn.attempt generation limit start).2.store.processedEvents = start.processedEvents
  preferences : ∀ other, other ≠ turn.userId →
    (turn.attempt generation limit start).2.store.preferences.get other = start.preferences.get other
  stored : ∀ other, other ≠ turn.userId →
    (turn.attempt generation limit start).2.store.recommendations.get other = start.recommendations.get other
  outbox : (turn.attempt generation limit start).2.store.outbox =
    (turn.attempt generation limit start).2.released.foldl (fun outbox record => outbox.set record.id record)
      start.outbox

private theorem attempt_cases (generation : Generation R) (limit : Nat) (turn : Turn) (start : MemoryStore R) :
    (∃ draft, Memory.draft turn.environment generation turn.userId limit start = .ok draft ∧
      (turn.attempt generation limit start).1 = .returned draft.items.length ∧
      (turn.attempt generation limit start).2.store = draft.commit turn.environment turn.userId start ∧
      (turn.attempt generation limit start).2.released = draft.records turn.environment turn.userId) ∨
    (turn.attempt generation limit start).1.hasReturned = false ∧
      (turn.attempt generation limit start).2.store = start ∧ (turn.attempt generation limit start).2.released = [] := by
  rcases attempt_generation turn.environment turn.cut generation turn.userId limit start with
    ⟨draft,drafted,returned,committed,store,events⟩ | ⟨unfinished,store,uncommitted⟩
  · refine .inl ⟨draft,drafted,returned,store,?_⟩
    unfold Session.released Turn.attempt
    rw [if_pos committed,events]
  · refine .inr ⟨?_,store,?_⟩
    · rcases unfinished with interrupted | ⟨rule,_,raised⟩
      · exact congrArg Outcome.hasReturned interrupted
      · exact congrArg Outcome.hasReturned raised
    · unfold Session.released Turn.attempt
      rw [uncommitted]
      rfl

private theorem attempt_framed (generation : Generation R) (limit : Nat) (turn : Turn) (start : MemoryStore R) :
    Framed generation limit turn start := by
  rcases attempt_cases generation limit turn start with ⟨draft,drafted,_,store,released⟩ | ⟨_,store,released⟩
  · have made := draft_drafted _ _ _ _ _ draft drafted
    refine ⟨?_,?_,?_,fun other apart => ?_,fun other apart => ?_,?_⟩
    · rw [store]
      rfl
    · rw [store]
      rfl
    · rw [store]
      rfl
    · rw [store]
      simp only [Draft.commit,Table.get_update]
      cases staged : draft.preferences.get other with
      | none => rfl
      | some preference => exact absurd (made.preferences other preference staged).1 apart
    · rw [store]
      simp only [Draft.commit,Dict.get_set,if_neg apart]
    · rw [store,released]
      rfl
  · refine ⟨?_,?_,?_,fun other _ => ?_,fun other _ => ?_,?_⟩
    all_goals rw [store]
    rw [released]
    rfl

def tally (outcome : Outcome Fault Nat) : Nat × Nat :=
  match outcome with
  | .returned written => (1,written)
  | .raised _ | .interrupted => (0,0)

private theorem visit_eq (generation : Generation R) (limit : Nat) (refreshing : Refreshing R) (turn : Turn) :
    let ended := turn.attempt generation limit refreshing.store
    refreshing.visit generation limit turn =
      { store := ended.2.store
        enqueued := refreshing.enqueued ++ ended.2.released
        outcomes := refreshing.outcomes ++ [ended.1]
        processed := refreshing.processed + (tally ended.1).1
        written := refreshing.written + (tally ended.1).2 } := by
  unfold Refreshing.visit
  generalize turn.attempt generation limit refreshing.store = ended
  obtain ⟨outcome,session⟩ := ended
  cases outcome <;> rfl

/-- The loop over some users, from where it stands, against each of them alone from the start. -/
structure Looped (generation : Generation R) (limit : Nat) (start : MemoryStore R) (turns : List Turn)
    (before after : Refreshing R) : Prop where
  games : after.store.games = before.store.games
  ownerships : after.store.ownerships = before.store.ownerships
  events : after.store.processedEvents = before.store.processedEvents
  visited : ∀ turn ∈ turns,
    after.store.preferences.get turn.userId =
        (turn.attempt generation limit start).2.store.preferences.get turn.userId ∧
      after.store.recommendations.get turn.userId =
        (turn.attempt generation limit start).2.store.recommendations.get turn.userId
  others : ∀ userId ∉ turns.map (·.userId),
    after.store.preferences.get userId = before.store.preferences.get userId ∧
      after.store.recommendations.get userId = before.store.recommendations.get userId
  enqueued : after.enqueued =
    before.enqueued ++ turns.flatMap fun turn => (turn.attempt generation limit start).2.released
  outbox : after.store.outbox = (turns.flatMap fun turn => (turn.attempt generation limit start).2.released).foldl
    (fun outbox record => outbox.set record.id record) before.store.outbox
  outcomes : after.outcomes = before.outcomes ++ turns.map fun turn => (turn.attempt generation limit start).1
  processed : after.processed =
    before.processed + (turns.map fun turn => (tally (turn.attempt generation limit start).1).1).sum
  written : after.written =
    before.written + (turns.map fun turn => (tally (turn.attempt generation limit start).1).2).sum

private theorem loop_alone (generation : Generation R) (limit : Nat) (start : MemoryStore R) (turns : List Turn)
    (distinct : (turns.map (·.userId)).Nodup) (refreshing : Refreshing R)
    (games : refreshing.store.games = start.games) (ownerships : refreshing.store.ownerships = start.ownerships)
    (unvisited : ∀ turn ∈ turns, refreshing.store.preferences.get turn.userId = start.preferences.get turn.userId ∧
      refreshing.store.recommendations.get turn.userId = start.recommendations.get turn.userId) :
    Looped generation limit start turns refreshing (turns.foldl (Refreshing.visit generation limit) refreshing) := by
  induction turns generalizing refreshing with
  | nil =>
    refine ⟨rfl,rfl,rfl,fun _ member => (by cases member),fun _ _ => ⟨rfl,rfl⟩,?_,rfl,?_,rfl,rfl⟩
    · exact (List.append_nil _).symm
    · exact (List.append_nil _).symm
  | cons turn rest ih =>
    obtain ⟨absent,tail⟩ := List.nodup_cons.mp distinct
    obtain ⟨preference,stored⟩ := unvisited turn List.mem_cons_self
    obtain ⟨outcome,beside⟩ := attempt_beside generation limit turn refreshing.store start games ownerships preference stored
    have framed := attempt_framed generation limit turn refreshing.store
    have released : (turn.attempt generation limit refreshing.store).2.released =
        (turn.attempt generation limit start).2.released := by
      rw [beside.staged]
      rfl
    have visited := visit_eq generation limit refreshing turn
    dsimp only at visited
    rw [List.foldl_cons,visited,outcome,released]
    have apart (other : Turn) (member : other ∈ rest) : other.userId ≠ turn.userId := by
      intro same
      exact absent (List.mem_map.mpr ⟨other,member,same⟩)
    have later := ih tail
      { store := (turn.attempt generation limit refreshing.store).2.store
        enqueued := refreshing.enqueued ++ (turn.attempt generation limit start).2.released
        outcomes := refreshing.outcomes ++ [(turn.attempt generation limit start).1]
        processed := refreshing.processed + (tally (turn.attempt generation limit start).1).1
        written := refreshing.written + (tally (turn.attempt generation limit start).1).2 }
      (framed.games.trans games) (framed.ownerships.trans ownerships) (by
        intro other member
        obtain ⟨known,list⟩ := unvisited other (List.mem_cons_of_mem turn member)
        exact ⟨(framed.preferences _ (apart other member)).trans known,(framed.stored _ (apart other member)).trans list⟩)
    refine ⟨later.games.trans framed.games,later.ownerships.trans framed.ownerships,
      later.events.trans framed.processed,?_,?_,?_,?_,?_,?_,?_⟩
    · intro other member
      rcases List.mem_cons.mp member with rfl | inside
      · obtain ⟨known,list⟩ := later.others other.userId absent
        exact ⟨known.trans beside.preference,list.trans beside.stored⟩
      · exact later.visited other inside
    · intro userId outside
      have first : userId ≠ turn.userId := fun same => outside (same ▸ List.mem_cons_self)
      have others : userId ∉ rest.map (·.userId) := fun member => outside (List.mem_cons_of_mem _ member)
      obtain ⟨known,list⟩ := later.others userId others
      exact ⟨known.trans (framed.preferences userId first),list.trans (framed.stored userId first)⟩
    · rw [later.enqueued,List.flatMap_cons,List.append_assoc]
    · rw [later.outbox,framed.outbox,released,List.flatMap_cons,List.foldl_append]
    · rw [later.outcomes,List.map_cons,List.append_assoc,List.singleton_append]
    · rw [later.processed,List.map_cons,List.sum_cons,Nat.add_assoc]
    · rw [later.written,List.map_cons,List.sum_cons,Nat.add_assoc]

/-- An entry without its fresh id and its timestamp. -/
def unstamped (fields : RecommendationFields R) : RecommendationFields R :=
  { fields with id := ⟨⟨0⟩⟩, generatedAt := ⟨0⟩ }

def Restamped (first second : Environment) : Prop :=
  second = { first with clock := second.clock, ids := second.ids }

private theorem draft_restamped (first second : Environment) (restamped : Restamped first second)
    (generation : Generation R) (userId : UserId) (limit : Nat) (store : MemoryStore R) (left right : Draft R)
    (here : draft first generation userId limit store = .ok left)
    (there : draft second generation userId limit store = .ok right) :
    left.preference = right.preference ∧
      left.items.map (fun item => unstamped item.toRecommendationFields) =
        right.items.map fun item => unstamped item.toRecommendationFields := by
  unfold Restamped at restamped
  generalize second.clock = clock at restamped
  generalize second.ids = ids at restamped
  subst restamped
  unfold draft at here there
  by_cases cold : (store.preferenceOf userId).isCold = true
  · rw [if_pos cold] at here there
    cases Except.ok.inj here
    cases Except.ok.inj there
    exact ⟨rfl,rfl⟩
  rw [if_neg cold] at here there
  cases rebuilding : rebuilt generation store (store.preferenceOf userId) with
  | error rule =>
    rw [rebuilding] at here
    cases here
  | ok preference =>
    rw [rebuilding] at here there
    dsimp only at here there
    split at here
    · cases here
    rename_i items made
    split at there
    · cases there
    rename_i others remade
    cases Except.ok.inj here
    cases Except.ok.inj there
    refine ⟨rfl,?_⟩
    have entries := congrArg (List.map unstamped) (constructAll_ok _ items made)
    have again := congrArg (List.map unstamped) (constructAll_ok _ others remade)
    rw [List.map_map,List.map_map] at entries again
    exact entries.trans again.symm

omit [Casing] in
private theorem map_turns_perm {B : Type} (f : Turn → B) (turns others : List Turn)
    (distinct : (turns.map (·.userId)).Nodup) (permuted : (others.map (·.userId)).Perm (turns.map (·.userId)))
    (same : ∀ turn ∈ turns, ∀ other ∈ others, other.userId = turn.userId → f other = f turn) :
    (others.map f).Perm (turns.map f) := by
  let value (userId : UserId) : Option B := (turns.find? fun turn => turn.userId = userId).map f
  have found (turn : Turn) (member : turn ∈ turns) (userId : UserId) (equal : turn.userId = userId) :
      ∃ known ∈ turns, known.userId = userId ∧ value userId = some (f known) := by
    cases search : turns.find? fun turn => turn.userId = userId with
    | none => exact absurd equal (by simpa using List.find?_eq_none.mp search turn member)
    | some known =>
      have key := List.find?_some search
      exact ⟨known,List.mem_of_find?_eq_some search,by simpa using key,by simp only [value,search,Option.map_some]⟩
  have first : (turns.map f).map some = (turns.map (·.userId)).map value := by
    rw [List.map_map,List.map_map]
    apply List.map_congr_left
    intro turn member
    obtain ⟨known,inside,key,stored⟩ := found turn member turn.userId rfl
    have equal : known = turn := List.inj_on_of_nodup_map distinct inside member key
    exact (equal ▸ stored).symm
  have second : (others.map f).map some = (others.map (·.userId)).map value := by
    rw [List.map_map,List.map_map]
    apply List.map_congr_left
    intro other member
    have listed : other.userId ∈ turns.map (·.userId) := permuted.subset (List.mem_map_of_mem member)
    obtain ⟨turn,inside,key⟩ := List.mem_map.mp listed
    obtain ⟨known,there,equal,stored⟩ := found turn inside other.userId key
    show some (f other) = value other.userId
    rw [stored,same known there other member equal.symm]
  have lifted : ((others.map f).map some).Perm ((turns.map f).map some) := by
    rw [first,second]
    exact permuted.map value
  exact (List.map_perm_map_iff (Option.some_injective B)).mp lifted

structure SameResult (first second : Refreshing R) : Prop where
  games : first.store.games = second.store.games
  ownerships : first.store.ownerships = second.store.ownerships
  events : first.store.processedEvents = second.store.processedEvents
  preferences : ∀ userId, first.store.preferences.get userId = second.store.preferences.get userId
  lists : ∀ userId,
    (first.store.recommendations.get userId).map (List.map fun item => unstamped item.toRecommendationFields) =
      (second.store.recommendations.get userId).map (List.map fun item => unstamped item.toRecommendationFields)
  enqueued : (first.enqueued.map fun record => (record.aggregateId,itemsOf record)).Perm
    (second.enqueued.map fun record => (record.aggregateId,itemsOf record))
  processed : first.processed = second.processed
  written : first.written = second.written

omit [Casing] in
private theorem tally_failed (outcome : Outcome Fault Nat) (failed : outcome.hasReturned = false) :
    tally outcome = (0,0) := by
  cases outcome with
  | returned written => cases failed
  | raised fault => rfl
  | interrupted => rfl

omit [Casing] in
theorem records_content (environment : Environment) (userId : UserId) (draft : Draft R) :
    ((draft.records environment userId).map fun record => (record.aggregateId,itemsOf record)) =
      if (draft.items.map fun item => unstamped item.toRecommendationFields).isEmpty then []
      else [(userId.value,(draft.items.map fun item => unstamped item.toRecommendationFields).map fun fields =>
        Serialization.itemPayload
          { gameId := fields.gameId.str, score := Scalar.round6 fields.score, source := fields.source.str,
            rank := fields.rank })] := by
  unfold Draft.records
  rw [List.isEmpty_map]
  split
  · rfl
  · rw [List.map_singleton,itemsOf_outboxRecord,List.map_map]
    rfl

private theorem attempt_restamped (generation : Generation R) (limit : Nat) (turn other : Turn) (start : MemoryStore R)
    (userId : other.userId = turn.userId) (restamped : Restamped turn.environment other.environment)
    (alike : (other.attempt generation limit start).1.hasReturned = (turn.attempt generation limit start).1.hasReturned) :
    tally (other.attempt generation limit start).1 = tally (turn.attempt generation limit start).1 ∧
      (other.attempt generation limit start).2.store.preferences.get turn.userId =
        (turn.attempt generation limit start).2.store.preferences.get turn.userId ∧
      ((other.attempt generation limit start).2.store.recommendations.get turn.userId).map
          (List.map fun item => unstamped item.toRecommendationFields) =
        ((turn.attempt generation limit start).2.store.recommendations.get turn.userId).map
          (List.map fun item => unstamped item.toRecommendationFields) ∧
      ((other.attempt generation limit start).2.released.map fun record => (record.aggregateId,itemsOf record)) =
        (turn.attempt generation limit start).2.released.map fun record => (record.aggregateId,itemsOf record) := by
  rcases attempt_cases generation limit turn start with
    ⟨draft,drafted,returned,store,released⟩ | ⟨failed,store,released⟩
  · rcases attempt_cases generation limit other start with
      ⟨draft',drafted',returned',store',released'⟩ | ⟨failed',_,_⟩
    · rw [userId] at drafted' store' released'
      obtain ⟨preference,items⟩ := draft_restamped _ _ restamped generation turn.userId limit start draft draft' drafted
        drafted'
      have length := congrArg List.length items
      rw [List.length_map,List.length_map] at length
      refine ⟨?_,?_,?_,?_⟩
      · rw [returned,returned',length]
      · rw [store,store']
        simp only [Draft.commit,Draft.preferences,preference]
      · rw [store,store']
        simp only [Draft.commit,Dict.get_set_self,Option.map_some]
        exact congrArg some items.symm
      · rw [released,released',records_content,records_content,items]
    · rw [failed',returned] at alike
      cases alike
  · rcases attempt_cases generation limit other start with
      ⟨draft',_,returned',_,_⟩ | ⟨failed',store',released'⟩
    · rw [failed,returned'] at alike
      cases alike
    · rw [store,store',released,released',tally_failed _ failed,tally_failed _ failed']
      exact ⟨rfl,rfl,rfl,rfl⟩

omit [Casing] in
private theorem tally_sums (turns : List Turn) (outcome : Turn → Outcome Fault Nat) (size : Turn → Nat)
    (sized : ∀ turn ∈ turns, (outcome turn).hasReturned = true → (tally (outcome turn)).2 = size turn) :
    (turns.map fun turn => (tally (outcome turn)).1).sum = (turns.filter fun turn => (outcome turn).hasReturned).length ∧
      (turns.map fun turn => (tally (outcome turn)).2).sum =
        ((turns.filter fun turn => (outcome turn).hasReturned).map size).sum := by
  induction turns with
  | nil => exact ⟨rfl,rfl⟩
  | cons turn rest ih =>
    obtain ⟨processed,written⟩ := ih fun other member => sized other (List.mem_cons_of_mem turn member)
    rw [List.map_cons,List.sum_cons,List.map_cons,List.sum_cons,processed,written]
    cases returned : (outcome turn).hasReturned with
    | false =>
      rw [List.filter_cons_of_neg (by simp [returned]),tally_failed _ returned]
      exact ⟨Nat.zero_add _,Nat.zero_add _⟩
    | true =>
      have own := sized turn List.mem_cons_self returned
      have one : (tally (outcome turn)).1 = 1 := by
        cases ended : outcome turn with
        | returned count => rfl
        | raised fault =>
          rw [ended] at returned
          cases returned
        | interrupted =>
          rw [ended] at returned
          cases returned
      have kept : ((turn :: rest).filter fun turn => (outcome turn).hasReturned) =
          turn :: rest.filter fun turn => (outcome turn).hasReturned := List.filter_cons_of_pos returned
      rw [kept,List.length_cons,List.map_cons,List.sum_cons,own,one]
      exact ⟨Nat.add_comm 1 _,rfl⟩

structure Independent (generation : Generation R) (limit : Nat) (start : MemoryStore R) (turns : List Turn)
    (after : Refreshing R) : Prop where
  outcomes : after.outcomes = turns.map fun turn => (turn.attempt generation limit start).1
  finished : ∀ turn ∈ turns, (turn.attempt generation limit start).1.hasReturned = true →
    let alone := (execute turn.environment (GenerateRecommendations.execute generation turn.userId limit) start).2
    after.store.preferences.get turn.userId = alone.preferences.get turn.userId ∧
      after.store.recommendations.get turn.userId = alone.recommendations.get turn.userId
  failed : ∀ turn ∈ turns, (turn.attempt generation limit start).1.hasReturned = false →
    after.store.preferences.get turn.userId = start.preferences.get turn.userId ∧
      after.store.recommendations.get turn.userId = start.recommendations.get turn.userId
  others : ∀ userId ∉ turns.map (·.userId),
    after.store.preferences.get userId = start.preferences.get userId ∧
      after.store.recommendations.get userId = start.recommendations.get userId
  enqueued : ∀ record ∈ after.enqueued, ∃ turn ∈ turns,
    (turn.attempt generation limit start).1.hasReturned = true ∧ record.aggregateId = turn.userId.value
  outbox : after.store.outbox =
    after.enqueued.foldl (fun outbox record => outbox.set record.id record) start.outbox
  processed : after.processed =
    (turns.filter fun turn => (turn.attempt generation limit start).1.hasReturned).length
  written : after.written = ((turns.filter fun turn => (turn.attempt generation limit start).1.hasReturned).map
    fun turn => (listOf after.store turn.userId).length).sum

private theorem loop_independent (generation : Generation R) (limit : Nat) (start : MemoryStore R) (turns : List Turn)
    (distinct : (turns.map (·.userId)).Nodup) :
    Independent generation limit start turns (Refreshing.loop generation limit turns start) := by
  have looped := loop_alone generation limit start turns distinct { store := start } rfl rfl fun _ _ => ⟨rfl,rfl⟩
  have sums := tally_sums turns (fun turn => (turn.attempt generation limit start).1)
    (fun turn => (listOf (Refreshing.loop generation limit turns start).store turn.userId).length) (by
      intro turn member returned
      obtain ⟨_,stored⟩ := looped.visited turn member
      rcases attempt_cases generation limit turn start with ⟨draft,drafted,ended,store,_⟩ | ⟨failed,_⟩
      · have list := congrArg (fun after => after.recommendations.get turn.userId) store
        simp only [Draft.commit,Dict.get_set_self] at list
        rw [list] at stored
        unfold listOf Refreshing.loop
        rw [stored,ended]
        rfl
      · rw [failed] at returned
        cases returned)
  refine ⟨looped.outcomes,?_,?_,looped.others,?_,?_,?_,?_⟩
  · intro turn member returned
    obtain ⟨preference,stored⟩ := looped.visited turn member
    rcases attempt_cases generation limit turn start with ⟨draft,drafted,_,store,_⟩ | ⟨failed,_⟩
    · have alone := execute_generation turn.environment generation turn.userId limit start
      rw [drafted] at alone
      rw [alone]
      rw [store] at preference stored
      exact ⟨preference,stored⟩
    · rw [failed] at returned
      cases returned
  · intro turn member failed
    obtain ⟨preference,stored⟩ := looped.visited turn member
    rcases attempt_cases generation limit turn start with ⟨draft,_,returned,_,_⟩ | ⟨_,store,_⟩
    · rw [returned] at failed
      cases failed
    · rw [store] at preference stored
      exact ⟨preference,stored⟩
  · intro record member
    have enqueued := looped.enqueued
    rw [List.nil_append] at enqueued
    unfold Refreshing.loop at member
    rw [enqueued] at member
    obtain ⟨turn,inside,released⟩ := List.mem_flatMap.mp member
    refine ⟨turn,inside,?_⟩
    rcases attempt_cases generation limit turn start with ⟨draft,_,returned,_,records⟩ | ⟨_,_,nothing⟩
    · rw [records] at released
      refine ⟨congrArg Outcome.hasReturned returned,?_⟩
      unfold Draft.records at released
      split at released
      · cases released
      · rw [List.mem_singleton.mp released]
        rfl
    · rw [nothing] at released
      cases released
  · have enqueued := looped.enqueued
    rw [List.nil_append] at enqueued
    have outbox := looped.outbox
    rw [← enqueued] at outbox
    exact outbox
  · have processed := looped.processed
    rw [sums.1,Nat.zero_add] at processed
    exact processed
  · have written := looped.written
    rw [sums.2,Nat.zero_add] at written
    exact written

/-- The same users in another order, at other moments, of whom the same ones fail. -/
def Reordered (generation : Generation R) (limit : Nat) (start : MemoryStore R) (turns others : List Turn) : Prop :=
  (others.map (·.userId)).Perm (turns.map (·.userId)) ∧
    ∀ turn ∈ turns, ∀ other ∈ others, other.userId = turn.userId →
      Restamped turn.environment other.environment ∧
        (other.attempt generation limit start).1.hasReturned = (turn.attempt generation limit start).1.hasReturned

private theorem loop_reordered (generation : Generation R) (limit : Nat) (start : MemoryStore R)
    (turns others : List Turn) (distinct : (turns.map (·.userId)).Nodup)
    (reordered : Reordered generation limit start turns others) :
    SameResult (Refreshing.loop generation limit others start) (Refreshing.loop generation limit turns start) := by
  obtain ⟨permuted,alike⟩ := reordered
  have first := loop_alone generation limit start others (permuted.nodup_iff.mpr distinct) { store := start } rfl rfl
    fun _ _ => ⟨rfl,rfl⟩
  have second := loop_alone generation limit start turns distinct { store := start } rfl rfl fun _ _ => ⟨rfl,rfl⟩
  have each (turn : Turn) (member : turn ∈ turns) (other : Turn) (there : other ∈ others)
      (same : other.userId = turn.userId) :=
    attempt_restamped generation limit turn other start same (alike turn member other there same).1
      (alike turn member other there same).2
  have partner (userId : UserId) (listed : userId ∈ turns.map (·.userId)) :
      ∃ turn ∈ turns, ∃ other ∈ others, turn.userId = userId ∧ other.userId = turn.userId := by
    obtain ⟨turn,member,key⟩ := List.mem_map.mp listed
    obtain ⟨other,there,same⟩ := List.mem_map.mp (permuted.mem_iff.mpr listed)
    exact ⟨turn,member,other,there,key,same.trans key.symm⟩
  refine ⟨first.games.trans second.games.symm,first.ownerships.trans second.ownerships.symm,
    first.events.trans second.events.symm,fun userId => ?_,fun userId => ?_,?_,?_,?_⟩
  · by_cases listed : userId ∈ turns.map (·.userId)
    · obtain ⟨turn,member,other,there,rfl,same⟩ := partner userId listed
      obtain ⟨_,preference,_⟩ := each turn member other there same
      have left := (first.visited other there).1
      rw [same] at left
      exact left.trans (preference.trans (second.visited turn member).1.symm)
    · have outside : userId ∉ others.map (·.userId) := fun member => listed (permuted.mem_iff.mp member)
      exact (first.others userId outside).1.trans (second.others userId listed).1.symm
  · by_cases listed : userId ∈ turns.map (·.userId)
    · obtain ⟨turn,member,other,there,rfl,same⟩ := partner userId listed
      obtain ⟨_,_,stored,_⟩ := each turn member other there same
      have left := (first.visited other there).2
      rw [same] at left
      unfold Refreshing.loop
      rw [left,(second.visited turn member).2]
      exact stored
    · have outside : userId ∉ others.map (·.userId) := fun member => listed (permuted.mem_iff.mp member)
      exact congrArg _ ((first.others userId outside).2.trans (second.others userId listed).2.symm)
  · have contents := map_turns_perm (fun turn => (turn.attempt generation limit start).2.released.map fun record =>
      (record.aggregateId,itemsOf record)) turns others distinct permuted
      fun turn member other there same => (each turn member other there same).2.2.2
    unfold Refreshing.loop
    rw [first.enqueued,second.enqueued,List.nil_append,List.nil_append,List.map_flatMap,List.map_flatMap]
    exact contents.flatten
  · have counts := map_turns_perm (fun turn => (tally (turn.attempt generation limit start).1).1) turns others distinct
      permuted fun turn member other there same => congrArg Prod.fst (each turn member other there same).1
    unfold Refreshing.loop
    rw [first.processed,second.processed,counts.sum_nat]
  · have counts := map_turns_perm (fun turn => (tally (turn.attempt generation limit start).1).2) turns others distinct
      permuted fun turn member other there same => congrArg Prod.snd (each turn member other there same).1
    unfold Refreshing.loop
    rw [first.written,second.written,counts.sum_nat]

/-- The loop over distinct users leaves each of them what the generation of that user alone leaves,
passes over those that fail, and does so in whatever order it takes them. -/
theorem users_generated_independently (generation : Generation R) (limit : Nat) (start : MemoryStore R)
    (turns : List Turn) (distinct : (turns.map (·.userId)).Nodup) :
    Independent generation limit start turns (Refreshing.loop generation limit turns start) ∧
      ∀ others, Reordered generation limit start turns others →
        SameResult (Refreshing.loop generation limit others start) (Refreshing.loop generation limit turns start) :=
  ⟨loop_independent generation limit start turns distinct,
    fun others => loop_reordered generation limit start turns others distinct⟩

end Memory

namespace Memory
attribute [local instance] Casing.unchanged

theorem users_generated_independently_two :
    Independent { content := contentBasedScorer } 10 (Service.run deployed [racePublished,racePurchased]).store
        [⟨⟨⟨1⟩⟩,.fixed,none⟩,⟨⟨⟨3⟩⟩,.fixed,some 2⟩]
        (Refreshing.loop { content := contentBasedScorer } 10 [⟨⟨⟨1⟩⟩,.fixed,none⟩,⟨⟨⟨3⟩⟩,.fixed,some 2⟩]
          (Service.run deployed [racePublished,racePurchased]).store) ∧
      ∀ others, Reordered { content := contentBasedScorer } 10 (Service.run deployed [racePublished,racePurchased]).store
          [⟨⟨⟨1⟩⟩,.fixed,none⟩,⟨⟨⟨3⟩⟩,.fixed,some 2⟩] others →
        SameResult
          (Refreshing.loop { content := contentBasedScorer } 10 others
            (Service.run deployed [racePublished,racePurchased]).store)
          (Refreshing.loop { content := contentBasedScorer } 10 [⟨⟨⟨1⟩⟩,.fixed,none⟩,⟨⟨⟨3⟩⟩,.fixed,some 2⟩]
            (Service.run deployed [racePublished,racePurchased]).store) :=
  users_generated_independently { content := contentBasedScorer } 10 _ _ (by decide)

end Memory
end ArcadiaRecommendation
