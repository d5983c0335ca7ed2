import ArcadiaRecommendation.Memory.Delivery
import ArcadiaRecommendation.Sql.Session

/-! The ingest use cases over the relational backend: what each asks of the tables,
and the session it has when it comes to its commit. -/
namespace ArcadiaRecommendation
namespace Sql
variable {R : Type} [Scalar R] [DecidableEq R] [Casing] {width : Nat}

omit [DecidableEq R] in
private theorem closes_plain (op : Op R) (plain : Memory.Plain op) : closes op = false := by
  cases op <;> first | rfl | exact plain.elim

omit [DecidableEq R] in
private theorem guarded_sealed (eventId : UUID) (marked : Bool) (program : UseCase R Unit)
    (guarded : Memory.Guarded eventId marked program) : program.Sealed closes := by
  induction guarded with
  | done marked => trivial
  | fail marked fault => trivial
  | mark marked next rest ih => exact fun answer => ih
  | commit next last =>
    intro answer
    rw [last]
    rfl
  | plain marked op next plain rest ih =>
    unfold Program.Sealed
    rw [closes_plain op plain]
    exact ih

omit [DecidableEq R] in
theorem execute_sealed (backfillLimit : Nat) (event : Event) :
    (event.execute backfillLimit : UseCase R Unit).Sealed closes :=
  guarded_sealed event.eventId false _ (Memory.execute_guarded backfillLimit event)

def handling (backfillLimit : Nat) (event : Event) : Party (Op R) Answer Fault (Session R width) Unit :=
  unitOfWork (event.execute backfillLimit)

def alone (backfillLimit : Nat) (backend : Backend R) (event : Event) (database : Database R width) :
    Database R width :=
  (handling backfillLimit event).alone closes (handle backend) database

private theorem reach_moment {A : Type} (backend : Backend R) (moments : Nat → Database R width) (moment : Nat)
    (occurredAt : Option DateTime) (next : DateTime → UseCase R A) (session : Session R width) :
    ∃ gap readings, gap ≤ 1 ∧ reach closes (handle backend) moments moment ((momentOf occurredAt).bind next) session =
      reach closes (handle backend) moments (moment + gap)
        (next (occurredAt.getD (backend.environment.clock session.readings))) { session with readings } := by
  cases occurredAt with
  | some at_ => exact ⟨0,session.readings,by omega,rfl⟩
  | none => exact ⟨1,session.readings + 1,by omega,rfl⟩

def resume (backfillLimit : Nat) : Event → Option (GameProfile R) → UseCase R Unit
  | .gamePublished eventId gameId developerId title genres tags publishedAt description,existing => do
    let game ← check (HandleGamePublished.describe existing gameId developerId title genres tags publishedAt description)
    Games.upsert game
    HandleGamePublished.backfill backfillLimit game
    ProcessedEvents.mark eventId
    commit
  | .gameWithdrawn eventId _,none | .reviewPosted eventId _ _ _ _,none => do
    ProcessedEvents.mark eventId
    commit
  | .gameWithdrawn eventId _,some game => do
    Games.upsert game.withdrawn
    ProcessedEvents.mark eventId
    commit
  | .purchaseCompleted eventId recipientId gameId _,none => do
    Ownerships.record recipientId gameId false
    ProcessedEvents.mark eventId
    commit
  | .purchaseCompleted eventId recipientId gameId occurredAt,some game => do
    let preference ← preferenceOf recipientId
    let at_ ← momentOf occurredAt
    let observed ← check (preference.observe game .purchase at_)
    Preferences.upsert observed
    Ownerships.record recipientId gameId true
    Games.upsert game.bought
    ProcessedEvents.mark eventId
    commit
  | .reviewPosted eventId authorId _ liked occurredAt,some game => do
    let preference ← preferenceOf authorId
    let at_ ← momentOf occurredAt
    let observed ← check (preference.observe game (reviewKind liked) at_)
    Preferences.upsert observed
    ProcessedEvents.mark eventId
    commit

omit [DecidableEq R] in
theorem execute_resume (backfillLimit : Nat) (event : Event) : (event.execute backfillLimit : UseCase R Unit) =
    .call (.seen event.eventId) fun handled => if handled then .done ()
      else .call (.getGame event.gameId) (resume backfillLimit event) := by
  have shaped (eventId : UUID) (gameId : GameId) (first second : Option (GameProfile R) → UseCase R Unit)
      (same : ∀ existing, first existing = second existing) :
      ((alreadyHandled eventId).bind fun handled => if handled then .done () else (Games.get gameId).bind first) =
        .call (.seen eventId) fun handled => if handled then .done () else .call (.getGame gameId) second := by
    have equal : first = second := funext same
    rw [equal]
    rfl
  cases event with
  | gamePublished eventId gameId developerId title genres tags publishedAt description =>
    exact shaped eventId gameId _ _ fun _ => rfl
  | gameWithdrawn eventId gameId =>
    apply shaped eventId gameId
    intro existing
    cases existing <;> rfl
  | purchaseCompleted eventId recipientId gameId occurredAt =>
    apply shaped eventId gameId
    intro existing
    cases existing <;> rfl
  | reviewPosted eventId authorId gameId liked occurredAt =>
    apply shaped eventId gameId
    intro existing
    cases existing <;> rfl

theorem reach_execute (backfillLimit : Nat) (backend : Backend R) (event : Event) (moments : Nat → Database R width) :
    reach closes (handle backend) moments 0 (event.execute backfillLimit) {} =
      if event.eventId ∈ (moments 0).processedEvents then .finished (.ok ())
      else match (moments 1).games.get event.gameId with
        | none => reach closes (handle backend) moments 2 (resume backfillLimit event none) {}
        | some row =>
          match gameToDomain row.toGameFields with
          | .error fault => .finished (.error fault)
          | .ok game => reach closes (handle backend) moments 2 (resume backfillLimit event (some game))
              (reading backend (moments 1) event.gameId) := by
  rw [execute_resume]
  simp only [reach,closes,handle,visible,Database.applyAll,List.foldl_nil,Bool.false_eq_true,if_false]
  by_cases known : event.eventId ∈ (moments 0).processedEvents
  · simp only [known,decide_true,if_true,reach]
  · simp only [known,decide_false,Bool.false_eq_true,if_false,reach,closes,handle,reading,IdentityMap.fetch,
      IdentityMap.find]
    cases (moments 1).games.get event.gameId with
    | none => rfl
    | some row =>
      cases decoded : gameToDomain row.toGameFields with
      | error fault => simp [games,decoded,Except.map]
      | ok game => simp [games,decoded,Except.map]

def preferenceIn (database : Database R width) (userId : UserId) : UserPreference R :=
  ((database.preferences.get userId).map (·.toUserPreference)).getD (.blank userId)

def Closing (reached : Reached (Op R) Answer Fault (Session R width) Unit) (session : Session R width) : Prop :=
  ∃ next, reached = .closing .commit next session

def settled (session : Session R width) (database : Database R width) : Database R width :=
  match committed session database with
  | .ok after => after
  | .error _ => database

theorem conclude_closing (backend : Backend R) (reached : Reached (Op R) Answer Fault (Session R width) Unit)
    (session : Session R width) (closing : Closing reached session) (database : Database R width) :
    conclude (handle backend) reached database = settled session database := by
  obtain ⟨next,same⟩ := closing
  rw [same]
  simp only [conclude,handle,settled]
  cases committed session database with
  | error fault => rfl
  | ok after => rfl

omit [Casing] in
theorem fetch_fresh (backend : Backend R) (database : Database R width) (userId : UserId) :
    (({} : IdentityMap (preferences R width)).fetch backend.retains database.preferences userId).1 =
      (database.preferences.get userId).map (·.toUserPreference) := by
  simp only [IdentityMap.fetch,IdentityMap.find]
  cases database.preferences.get userId with
  | none => rfl
  | some row => rfl

private theorem reach_preferenceOf (backend : Backend R) (moments : Nat → Database R width) (moment : Nat)
    (userId : UserId) (next : UserPreference R → UseCase R Unit) (session : Session R width)
    (bare : session.preferences = {}) :
    reach closes (handle backend) moments moment ((preferenceOf userId).bind next) session =
      reach closes (handle backend) moments (moment + 1) (next (preferenceIn (moments moment) userId))
        { session with preferences := remembering backend (moments moment) userId } := by
  simp only [preferenceOf,Program.bind_eq,Program.pure_eq,Program.call_bind,Program.done_bind,reach,closes,handle,bare,
    remembering,preferenceIn,Bool.false_eq_true,if_false,fetch_fresh]

theorem reach_bought (backfillLimit : Nat) (backend : Backend R) (moments : Nat → Database R width) (eventId : UUID)
    (recipientId : UserId) (gameId : GameId) (occurredAt : Option DateTime) (game : GameProfile R)
    (observed : UserPreference R) (done : (preferenceIn (moments 2) recipientId).observe game .purchase
      (occurredAt.getD (backend.environment.clock 0)) = .ok observed) :
    ∃ later last readings acquiredAt, 3 ≤ later ∧ 3 ≤ last ∧
      Closing (reach closes (handle backend) moments 2
        (resume backfillLimit (.purchaseCompleted eventId recipientId gameId occurredAt) (some game))
        (reading backend (moments 1) gameId))
      { games := (reading backend (moments 1) gameId).games.write (moments last).games game.bought.toGameFields
        preferences := (remembering backend (moments 2) recipientId).write (moments later).preferences observed
        statements := [.recordOwnership ⟨recipientId,gameId,acquiredAt,true⟩,.markProcessed eventId]
        readings } := by
  have first := reach_preferenceOf backend moments 2 recipientId (fun preference => do
      let at_ ← momentOf occurredAt
      let observed ← check (preference.observe game .purchase at_)
      Preferences.upsert observed
      Ownerships.record recipientId gameId true
      Games.upsert game.bought
      ProcessedEvents.mark eventId
      commit) (reading backend (moments 1) gameId) rfl
  obtain ⟨gap,readings,small,moved⟩ := reach_moment backend moments 3 occurredAt
    (fun at_ : DateTime => do
      let observed ← check ((preferenceIn (moments 2) recipientId).observe game .purchase at_)
      Preferences.upsert observed
      Ownerships.record recipientId gameId true
      Games.upsert game.bought
      ProcessedEvents.mark eventId
      commit)
    ({ reading backend (moments 1) gameId with
      preferences := remembering backend (moments 2) recipientId } : Session R width)
  refine ⟨3 + gap,3 + gap + 2,readings + 1,backend.environment.clock readings,by omega,by omega,.done,?_⟩
  refine first.trans (moved.trans ?_)
  simp only [done,check_ok,Program.bind_eq,Program.done_bind,Program.call_bind,reach,closes,handle,execute,
    reading,Bool.false_eq_true,if_false,if_true,List.nil_append,List.cons_append]

end Sql
end ArcadiaRecommendation
