import ArcadiaRecommendation.Memory.Delivery
import ArcadiaRecommendation.Memory.Generation

/-! Units of work that an exception may cut off, and sequential runs of them: ingest and
generation, the store they leave and the records they enqueue. -/
namespace ArcadiaRecommendation
namespace Memory
variable {R : Type} [Scalar R] [Casing]

def listOf (store : MemoryStore R) (userId : UserId) : List (Recommendation R) :=
  (store.recommendations.get userId).getD []

def published (item : Recommendation R) : Json R :=
  Serialization.itemPayload
    { gameId := item.gameId.str, score := Scalar.round6 item.score, source := item.source.str, rank := item.rank }

def itemsOf (record : OutboxRecord R) : List (Json R) :=
  match Json.lookup "items" (Envelope.payloadOf record) with
  | some (.list items) => items
  | _ => []

omit [Casing] in
@[simp] theorem itemsOf_outboxRecord (environment : Environment) (userId : UserId) (draft : Draft R) :
    itemsOf (outboxRecord environment (draft.event environment userId)) = draft.items.map published := by
  simp [itemsOf,Envelope.payloadOf,outboxRecord,Serialization.eventEnvelope,Serialization.eventPayload,Json.lookup,
    Draft.event,RecommendationGenerated.of,published]

/-- One unit of work from entry to exit, and the session it leaves behind. -/
def attempt {A : Type} (environment : Environment) (cut : Option Nat) (useCase : UseCase R A) (store : MemoryStore R) :
    Outcome Fault A × Session R :=
  useCase.runUntil (handle environment) cut { store }

def Session.sealed (session : Session R) : Session R := { session with store := applied session, committed := true }

def Session.released (session : Session R) : List (OutboxRecord R) := if session.committed then session.events else []

/-- A use case whose last operation is its commit either staged everything and committed it, or
it was cut off or raised before, and then the store is as it was. -/
theorem attempt_sealed {A : Type} (environment : Environment) (cut : Option Nat) (useCase : UseCase R A)
    (plain : useCase.Only Plain) (store : MemoryStore R) :
    let ended := attempt environment cut (useCase.bind fun value => commit.bind fun _ => .done value) store
    let staged := useCase.run (handle environment) { store }
    (∃ value, staged.1 = .ok value ∧ ended = (.returned value,staged.2.sealed)) ∨
      (ended.1 = .interrupted ∨ ∃ fault, staged.1 = .error fault ∧ ended.1 = .raised fault) ∧
        ended.2.store = store ∧ ended.2.committed = false := by
  obtain ⟨steps,stopped⟩ := Program.runUntil_steps (handle environment) cut
    (useCase.bind fun value => commit.bind fun _ => .done value) { store }
  simp only [attempt,stopped]
  clear stopped
  have general (session : Session R) (uncommitted : session.committed = false) :
      let ended := (useCase.bind fun value => commit.bind fun _ => .done value).runFor (handle environment) steps session
      let staged := useCase.run (handle environment) session
      (∃ value, staged.1 = .ok value ∧ ended = (.returned value,staged.2.sealed)) ∨
        (ended.1 = .interrupted ∨ ∃ fault, staged.1 = .error fault ∧ ended.1 = .raised fault) ∧
          ended.2.store = session.store ∧ ended.2.committed = false := by
    induction useCase generalizing session steps with
    | done value =>
      cases steps with
      | zero => exact .inr ⟨.inl rfl,rfl,uncommitted⟩
      | succ steps => cases steps <;> exact .inl ⟨value,rfl,rfl⟩
    | fail fault => cases steps <;> exact .inr ⟨.inr ⟨fault,rfl,rfl⟩,rfl,uncommitted⟩
    | call op next ih =>
      cases steps with
      | zero => exact .inr ⟨.inl rfl,rfl,uncommitted⟩
      | succ steps =>
        obtain ⟨pair,answered⟩ := handle_total environment op session
        obtain ⟨same,committed,_⟩ := handle_plain environment op session pair.2 pair.1 plain.1 answered
        have later := ih pair.1 (plain.2 pair.1) steps pair.2 (committed.trans uncommitted)
        rw [same] at later
        simp only [Program.call_bind,Program.runFor,Program.run,answered]
        exact later
  exact general { store } rfl

theorem attempt_none {A : Type} (environment : Environment) (useCase : UseCase R A) (store : MemoryStore R) :
    (attempt environment none useCase store).1 = .ofExcept (execute environment useCase store).1 ∧
      (attempt environment none useCase store).2.store = (execute environment useCase store).2 :=
  ⟨rfl,rfl⟩

theorem guarded_interrupted (environment : Environment) (eventId : UUID) (marked : Bool) (useCase : UseCase R Unit)
    (guarded : Guarded eventId marked useCase) (steps : Nat) (session : Session R)
    (interrupted : (useCase.runFor (handle environment) steps session).1 = .interrupted) :
    (useCase.runFor (handle environment) steps session).2.store = session.store := by
  induction guarded generalizing session steps with
  | done marked => cases steps <;> rfl
  | fail marked fault => cases steps <;> rfl
  | mark marked next rest ih =>
    cases steps with
    | zero => rfl
    | succ steps => exact ih steps { session with processed := insert eventId session.processed } interrupted
  | commit next last =>
    cases steps with
    | zero => rfl
    | succ steps =>
      simp only [Program.runFor,handle,last] at interrupted
      cases steps <;> cases interrupted
  | plain marked op next plain rest ih =>
    cases steps with
    | zero => rfl
    | succ steps =>
      obtain ⟨pair,answered⟩ := handle_total environment op session
      obtain ⟨same,_,_⟩ := handle_plain environment op session pair.2 pair.1 plain answered
      simp only [Program.runFor,answered] at interrupted ⊢
      exact (ih pair.1 steps pair.2 interrupted).trans same

theorem attempt_event (environment : Environment) (cut : Option Nat) (backfillLimit : Nat) (event : Event)
    (store : MemoryStore R) :
    let ended := attempt environment cut (event.execute backfillLimit) store
    let closed := resultOf store (ingest backfillLimit environment event store)
    ended.1 = .interrupted ∧ ended.2.store = store ∨ ended.1 = .ofExcept closed.1 ∧ ended.2.store = closed.2 := by
  have finished := execute_ingest backfillLimit environment event store
  rcases Program.runUntil_cases (handle environment) cut (event.execute backfillLimit) { store } with
    interrupted | complete
  · refine .inl ⟨interrupted,?_⟩
    obtain ⟨steps,stopped⟩ := Program.runUntil_steps (handle environment) cut (event.execute backfillLimit) { store }
    unfold attempt
    rw [stopped] at interrupted ⊢
    exact guarded_interrupted environment event.eventId false _ (execute_guarded backfillLimit event) steps { store }
      interrupted
  · refine .inr ?_
    unfold attempt
    rw [complete,← finished]
    exact ⟨rfl,rfl⟩

/-- A generation commits its draft, or it is cut off or raises what the draft raises, and then
the store is as it was. -/
theorem attempt_generation (environment : Environment) (cut : Option Nat) (generation : Generation R)
    (userId : UserId) (limit : Nat) (store : MemoryStore R) :
    let ended := attempt environment cut (GenerateRecommendations.execute generation userId limit) store
    let drafted := draft environment generation userId limit store
    (∃ draft, drafted = .ok draft ∧ ended.1 = .returned draft.items.length ∧ ended.2.committed = true ∧
        ended.2.store = draft.commit environment userId store ∧ ended.2.events = draft.records environment userId) ∨
      (ended.1 = .interrupted ∨ ∃ rule, drafted = .error rule ∧ ended.1 = .raised (.violation rule)) ∧
        ended.2.store = store ∧ ended.2.committed = false := by
  have staged := run_generation environment generation userId limit store
  dsimp only at staged
  rcases attempt_sealed environment cut (GenerateRecommendations.generate generation userId limit)
    (only_generate generation userId limit) store with ⟨value,returned,ended⟩ | ⟨unfinished,same,uncommitted⟩
  · left
    cases drafted : draft environment generation userId limit store with
    | error rule =>
      rw [drafted,returned] at staged
      cases staged
    | ok made =>
      rw [drafted] at staged
      obtain ⟨readings,issued,ran⟩ := staged
      rw [ran] at returned ended
      cases Except.ok.inj returned
      have sealing : attempt environment cut (GenerateRecommendations.execute generation userId limit) store = _ := ended
      rw [sealing]
      exact ⟨made,rfl,rfl,rfl,made.applied_session environment userId store readings issued,rfl⟩
  · refine .inr ⟨?_,same,uncommitted⟩
    rcases unfinished with interrupted | ⟨fault,raised,ended⟩
    · exact .inl interrupted
    · right
      cases drafted : draft environment generation userId limit store with
      | ok made =>
        rw [drafted] at staged
        obtain ⟨readings,issued,ran⟩ := staged
        rw [ran] at raised
        cases raised
      | error rule =>
        rw [drafted,raised] at staged
        cases Except.error.inj staged
        exact ⟨rule,rfl,ended⟩

def Ingesting : Op R → Prop
  | .replaceFor _ _ | .enqueue _ | .logMark _ => False
  | _ => True

def Handling (eventId : UUID) : Op R → Prop
  | .seen id | .mark id => id = eventId
  | .commit => True
  | op => Staging op

private theorem ingesting_of_handling (eventId : UUID) (op : Op R) (handling : Handling eventId op) : Ingesting op := by
  cases op <;> first | exact handling.elim | trivial

private theorem handling_of_staging (eventId : UUID) (op : Op R) (staging : Staging op) : Handling eventId op := by
  cases op <;> first | exact staging.elim | trivial

theorem only_staged {A : Type} (eventId : UUID) (program : UseCase R A) (next : A → UseCase R Unit)
    (only : program.Only Staging) (rest : ∀ value, (next value).Only (Handling eventId)) :
    (program.bind next).Only (Handling eventId) :=
  Program.only_bind _ program next (Program.only_mono Staging _ program (handling_of_staging eventId) only) rest

theorem only_check {A : Type} (eventId : UUID) (result : Except InvariantViolation A) (next : A → UseCase R Unit)
    (rest : ∀ value, (next value).Only (Handling eventId)) : ((check result).bind next).Only (Handling eventId) :=
  Program.only_bind _ _ next (Program.only_ofExcept _ _) rest

theorem only_seal (eventId : UUID) :
    Program.Only (Handling eventId) ((ProcessedEvents.mark eventId).bind fun _ => commit : UseCase R Unit) :=
  ⟨rfl,fun _ => ⟨trivial,fun _ => trivial⟩⟩

theorem only_unless (eventId : UUID) (rest : UseCase R Unit) (only : rest.Only (Handling eventId)) :
    ((alreadyHandled eventId).bind fun handled => if handled then .done () else rest).Only (Handling eventId) := by
  refine ⟨rfl,fun handled => ?_⟩
  show Program.Only _ (if handled then .done () else rest)
  split
  · trivial
  · exact only

private theorem only_handling (backfillLimit : Nat) (event : Event) :
    (event.execute backfillLimit : UseCase R Unit).Only (Handling event.eventId) := by
  cases event with
  | gamePublished eventId gameId developerId title genres tags publishedAt description =>
    apply only_unless
    refine ⟨trivial,fun existing => ?_⟩
    apply only_check
    intro game
    refine ⟨trivial,fun stored => ?_⟩
    exact only_staged eventId (HandleGamePublished.backfill backfillLimit game) _ (only_backfill backfillLimit game)
      fun _ => only_seal eventId
  | gameWithdrawn eventId gameId =>
    apply only_unless
    refine ⟨trivial,fun existing => ?_⟩
    cases existing with
    | none => exact only_seal eventId
    | some game => exact ⟨trivial,fun _ => only_seal eventId⟩
  | purchaseCompleted eventId recipientId gameId occurredAt =>
    apply only_unless
    refine ⟨trivial,fun existing => ?_⟩
    cases existing with
    | none => exact ⟨trivial,fun _ => only_seal eventId⟩
    | some game =>
      apply only_staged eventId _ _ (only_preferenceOf recipientId)
      intro preference
      apply only_staged eventId _ _ (only_momentOf occurredAt)
      intro moment
      apply only_check
      intro observed
      exact ⟨trivial,fun _ => ⟨trivial,fun _ => ⟨trivial,fun _ => only_seal eventId⟩⟩⟩
  | reviewPosted eventId authorId gameId liked occurredAt =>
    apply only_unless
    refine ⟨trivial,fun existing => ?_⟩
    cases existing with
    | none => exact only_seal eventId
    | some game =>
      apply only_staged eventId _ _ (only_preferenceOf authorId)
      intro preference
      apply only_staged eventId _ _ (only_momentOf occurredAt)
      intro moment
      apply only_check
      intro observed
      exact ⟨trivial,fun _ => only_seal eventId⟩

theorem only_execute (backfillLimit : Nat) (event : Event) :
    (event.execute backfillLimit : UseCase R Unit).Only Ingesting :=
  Program.only_mono _ Ingesting _ (ingesting_of_handling event.eventId) (only_handling backfillLimit event)

structure Unlisted (before : MemoryStore R) (session : Session R) : Prop where
  stored : session.store.recommendations = before.recommendations
  staged : session.recommendations = ∅
  events : session.events = []
  games : ∀ gameId game, before.games.get gameId = some game → ∃ later, session.store.games.get gameId = some later

theorem handle_unlisted (environment : Environment) (before : MemoryStore R) (op : Op R) (session after : Session R)
    (answer : Answer op) (ingesting : Ingesting op) (unlisted : Unlisted before session)
    (answered : handle environment op session = .ok (answer,after)) : Unlisted before after := by
  obtain ⟨stored,staged,events,games⟩ := unlisted
  cases op
  case commit =>
    cases answered
    refine ⟨?_,staged,events,fun gameId game found => ?_⟩
    · simp only [applied,staged,stored,Dict.update_empty]
    · obtain ⟨later,known⟩ := games gameId game found
      simp only [applied,Table.get_update]
      cases session.games.get gameId with
      | none => exact ⟨later,known⟩
      | some written => exact ⟨written,rfl⟩
  all_goals first | exact ingesting.elim | (cases answered; exact ⟨stored,staged,events,games⟩)

theorem attempt_ingest (environment : Environment) (cut : Option Nat) (backfillLimit : Nat) (event : Event)
    (store : MemoryStore R) : Unlisted store (attempt environment cut (event.execute backfillLimit) store).2 :=
  Program.runUntil_only (handle environment) Ingesting (Unlisted store)
    (fun op session after answer => handle_unlisted environment store op session after answer)
    _ (only_execute backfillLimit event) cut { store } ⟨rfl,rfl,rfl,fun _ game found => ⟨game,found⟩⟩

inductive Work (R : Type) [Scalar R] [Casing]
  | ingest (event : Event)
  | generate (generation : Generation R) (userId : UserId) (limit : Nat)

/-- One unit of work, and the exception from outside that may cut it off. -/
structure Attempt (R : Type) [Scalar R] [Casing] where
  work : Work R
  environment : Environment
  cut : Option Nat := none

def Attempt.session (backfillLimit : Nat) (attempt : Attempt R) (store : MemoryStore R) : Session R :=
  match attempt.work with
  | .ingest event => (Memory.attempt attempt.environment attempt.cut (event.execute backfillLimit) store).2
  | .generate generation userId limit =>
    (Memory.attempt attempt.environment attempt.cut (GenerateRecommendations.execute generation userId limit) store).2

/-- The store, and every record a committed unit of work enqueued, in order. -/
structure Journal (R : Type) [Scalar R] [Casing] where
  store : MemoryStore R := {}
  enqueued : List (OutboxRecord R) := []

namespace Journal

def after (backfillLimit : Nat) (journal : Journal R) (attempt : Attempt R) : Journal R :=
  let session := attempt.session backfillLimit journal.store
  { store := session.store
    enqueued := journal.enqueued ++ session.released }

def run (backfillLimit : Nat) (attempts : List (Attempt R)) : Journal R := attempts.foldl (after backfillLimit) {}

theorem run_append (backfillLimit : Nat) (first second : List (Attempt R)) :
    run backfillLimit (first ++ second) = second.foldl (after backfillLimit) (run backfillLimit first) :=
  List.foldl_append

inductive Step (backfillLimit : Nat) (before after : Journal R) (attempt : Attempt R) : Prop
  | quiet (stored : after.store.recommendations = before.store.recommendations)
      (enqueued : after.enqueued = before.enqueued)
      (games : ∀ gameId game, before.store.games.get gameId = some game →
        ∃ later, after.store.games.get gameId = some later)
  | generated (generation : Generation R) (userId : UserId) (limit : Nat) (draft : Draft R)
      (work : attempt.work = .generate generation userId limit)
      (committed : (attempt.session backfillLimit before.store).committed = true)
      (drafted : Memory.draft attempt.environment generation userId limit before.store = .ok draft)
      (store : after.store = draft.commit attempt.environment userId before.store)
      (enqueued : after.enqueued = before.enqueued ++ draft.records attempt.environment userId)

theorem after_step (backfillLimit : Nat) (journal : Journal R) (attempt : Attempt R) :
    Step backfillLimit journal (journal.after backfillLimit attempt) attempt := by
  obtain ⟨work,environment,cut⟩ := attempt
  cases work with
  | ingest event =>
    obtain ⟨stored,staged,events,games⟩ := attempt_ingest environment cut backfillLimit event journal.store
    refine .quiet stored ?_ games
    simp only [after,Session.released,Attempt.session,events,ite_self,List.append_nil]
  | generate generation userId limit =>
    rcases attempt_generation environment cut generation userId limit journal.store with
      ⟨draft,drafted,_,committed,store,events⟩ | ⟨_,store,uncommitted⟩
    · refine .generated generation userId limit draft rfl committed drafted store ?_
      simp only [after,Session.released,Attempt.session,committed,events,if_true]
    · refine .quiet (congrArg (·.recommendations) store) ?_ ?_
      · simp only [after,Session.released,Attempt.session,uncommitted,Bool.false_eq_true,if_false,List.append_nil]
      · intro gameId game found
        simp only [after,Attempt.session,store]
        exact ⟨game,found⟩

end Journal
end Memory
end ArcadiaRecommendation
