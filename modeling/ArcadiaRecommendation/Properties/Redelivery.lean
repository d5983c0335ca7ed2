import ArcadiaRecommendation.Sql.Purchase
import ArcadiaRecommendation.Sql.Race

/-! One purchase event delivered to two replicas at once. The second transaction is without effect
when it looks for the event after the first commit, and when it has read both the game and the
profile before it. In between it counts the purchase again. -/
namespace ArcadiaRecommendation
namespace Sql
variable {R : Type} [Scalar R] [DecidableEq R] {width : Nat}

/-- What a purchase is to leave: the count of the game, what is remembered of the user, the ownership. -/
structure Outcome (R : Type) [Scalar R] where
  purchaseCount : Option Int
  taste : Option (Embedding R × DenseEmbedding R)
  history : Option (List (SignalRecord R))
  signalCount : Option Int
  ownership : Option OwnershipRow

def outcome (database : Database R width) (recipientId : UserId) (gameId : GameId) : Outcome R where
  purchaseCount := (database.games.get gameId).map (·.purchaseCount)
  taste := (database.preferences.get recipientId).map fun row => (row.taste,row.tasteDense)
  history := (database.preferences.get recipientId).map (·.history)
  signalCount := (database.preferences.get recipientId).map (·.signalCount)
  ownership := database.ownerships.get (recipientId,gameId)

omit [DecidableEq R] in
theorem Purchased.outcome {before after : Database R width} {eventId : UUID} {row : OwnershipRow} {game : GameFields R}
    {preference : UserPreference R} (purchased : Purchased before after eventId row game preference) :
    outcome after row.userId row.gameId =
      { purchaseCount := some game.purchaseCount
        taste := some (preference.taste,preference.tasteDense)
        history := some preference.history
        signalCount := some preference.signalCount
        ownership := (before.ownerships.record row).get row.key } := by
  obtain ⟨gameRow,foundGame,sameGame⟩ := Option.map_eq_some_iff.mp purchased.game
  obtain ⟨userRow,foundUser,sameUser⟩ := Option.map_eq_some_iff.mp purchased.preference
  simp only [Sql.outcome,foundGame,foundUser,Option.map_some,purchased.ownerships,← sameGame,← sameUser]
  rfl

private theorem kept_or_read {A : Type} (retains : Bool) (found : Option A) :
    (if retains then found else none).or found = found := by
  cases retains <;> cases found <;> rfl

omit [DecidableEq R] in
private theorem observe_times [Casing] (preference first second : UserPreference R) (game : GameProfile R)
    (kind : SignalKind) (early late : DateTime) (one : preference.observe game kind early = .ok first)
    (two : preference.observe game kind late = .ok second) : second = { first with updatedAt := some late } := by
  obtain ⟨taste,summed,same⟩ := UserPreference.observe_ok _ _ _ _ _ one
  obtain ⟨again,summedAgain,sameAgain⟩ := UserPreference.observe_ok _ _ _ _ _ two
  obtain rfl := Except.ok.inj (summed.symm.trans summedAgain)
  rw [same,sameAgain]

variable [Casing]

private theorem alone_purchased (backfillLimit : Nat) (backend : Backend R) (start : Database R width) (eventId : UUID)
    (recipientId : UserId) (gameId : GameId) (occurredAt : Option DateTime) (row : GameProfileRow R width)
    (game : GameProfile R) (unseen : eventId ∉ start.processedEvents) (known : start.games.get gameId = some row)
    (decoded : gameToDomain row.toGameFields = .ok game) :
    ∃ observed acquiredAt, (preferenceIn start recipientId).observe game .purchase
        (occurredAt.getD (backend.environment.clock 0)) = .ok observed ∧
      Purchased start (alone backfillLimit backend (.purchaseCompleted eventId recipientId gameId occurredAt) start)
        eventId ⟨recipientId,gameId,acquiredAt,true⟩ game.bought.toGameFields observed := by
  obtain ⟨loaded,read,observed,acquiredAt,readings,ready,closing⟩ := reach_purchase backfillLimit backend
    (fun _ => start) eventId recipientId gameId occurredAt row game unseen known decoded fun _ => by rw [known]; rfl
  obtain ⟨last,found⟩ := ready.loaded
  obtain ⟨later,_,reads⟩ := ready.read
  rw [kept_or_read] at found reads
  obtain rfl := Option.some.inj (known.symm.trans found)
  have fold : Folded read (start.preferences.get recipientId) observed observed := by
    rw [reads]
    cases stored : start.preferences.get recipientId with
    | none => exact .inserted rfl rfl
    | some profile =>
      have merged : mergedPreference profile.toUserPreference observed profile.toUserPreference = observed :=
        (preferences R width).merged_stored _ _
          (ready.owner.trans (start.preferences.keyed recipientId profile stored).symm)
      have updated : Folded (some profile) (some profile) observed _ := .updated profile profile rfl rfl
      rwa [merged] at updated
  have written : mergedGame row.toGameFields game.bought.toGameFields row.toGameFields = game.bought.toGameFields :=
    (games R width).merged_stored _ _ (decoded_columns row game decoded).1
  have purchased := settled_purchase backend _ eventId recipientId gameId occurredAt game row row read observed observed
    acquiredAt readings start ready known fold
  rw [written,← conclude_closing backend _ _ closing] at purchased
  exact ⟨observed,acquiredAt,ready.folded,purchased⟩

section Second
variable {start first : Database R width} {eventId : UUID} {recipientId : UserId} {gameId : GameId}
  {acquiredAt : DateTime} {bought : GameFields R} {observed : UserPreference R}

private theorem settled_late (backfillLimit : Nat) (backend : Backend R) (moments : Nat → Database R width)
    (occurredAt : Option DateTime) (row : GameProfileRow R width) (game : GameProfile R) (at_ : DateTime)
    (folded : (preferenceIn start recipientId).observe game .purchase at_ = .ok observed)
    (purchased : Purchased start first eventId ⟨recipientId,gameId,acquiredAt,true⟩ game.bought.toGameFields observed)
    (unseen : eventId ∉ start.processedEvents) (known : start.games.get gameId = some row)
    (decoded : gameToDomain row.toGameFields = .ok game) (early : ∀ moment < 3, moments moment = start)
    (each : ∀ moment, moments moment = start ∨ moments moment = first) :
    outcome (conclude (handle backend) (reach closes (handle backend) moments 0
      (Event.execute backfillLimit (.purchaseCompleted eventId recipientId gameId occurredAt)) {}) first)
      recipientId gameId = outcome first recipientId gameId := by
  obtain ⟨stored,found,storedGame⟩ := Option.map_eq_some_iff.mp purchased.game
  obtain ⟨profile,present,storedProfile⟩ := Option.map_eq_some_iff.mp purchased.preference
  have kept (moment : Nat) : ((moments moment).games.get gameId).isSome = true := by
    rcases each moment with same | same
    · rw [same,known]
      rfl
    · rw [same,found]
      rfl
  obtain ⟨loaded,read,mine,acquired,readings,ready,closing⟩ := reach_purchase backfillLimit backend moments eventId
    recipientId gameId occurredAt row game (by rw [early 0 (by omega)]; exact unseen)
    (by rw [early 1 (by omega)]; exact known) decoded kept
  rw [conclude_closing backend _ _ closing]
  cases read with
  | none =>
    have clash := committed_clash first eventId ⟨recipientId,gameId,acquired,true⟩ loaded stored game.bought.toGameFields
      mine readings ready.key ready.owner found ready.dense (by rw [present]; rfl)
    unfold settled
    rw [clash]
  | some before =>
    have fold : Folded (some before) (first.preferences.get recipientId) mine _ := .updated before profile rfl present
    have again := settled_purchase backend moments eventId recipientId gameId occurredAt game loaded stored _ mine _
      acquired readings first ready found fold
    have same : ∃ updatedAt, mine = { observed with updatedAt } := by
      have mineFolded := ready.folded
      rw [early 2 (by omega)] at mineFolded
      exact ⟨_,observe_times _ _ _ game .purchase _ _ folded mineFolded⟩
    obtain ⟨updatedAt,rfl⟩ := same
    rw [storedGame,storedProfile] at again
    have left := again.outcome
    have right := purchased.outcome
    have ownership := OwnershipTable.record_again start.ownerships ⟨recipientId,gameId,acquiredAt,true⟩
      ⟨recipientId,gameId,acquired,true⟩ rfl rfl (recipientId,gameId)
    refine left.trans (Eq.trans ?_ right.symm)
    simp only [mergedGame,mergedPreference,column_current,purchased.ownerships,OwnershipRow.key,ownership]

private theorem settled_again (backfillLimit : Nat) (backend : Backend R) (moments : Nat → Database R width)
    (occurredAt : Option DateTime) (row : GameProfileRow R width) (game : GameProfile R)
    (purchased : Purchased start first eventId ⟨recipientId,gameId,acquiredAt,true⟩ bought observed)
    (unseen : eventId ∉ (moments 0).processedEvents) (known : (moments 1).games.get gameId = some row)
    (decoded : gameToDomain row.toGameFields = .ok game)
    (kept : ∀ moment, ((moments moment).games.get gameId).isSome = true)
    (late : ∀ moment, 2 ≤ moment → moments moment = first) :
    (outcome (conclude (handle backend) (reach closes (handle backend) moments 0
      (Event.execute backfillLimit (.purchaseCompleted eventId recipientId gameId occurredAt)) {}) first)
      recipientId gameId).signalCount = some (observed.signalCount + 1) := by
  obtain ⟨stored,found,_⟩ := Option.map_eq_some_iff.mp purchased.game
  obtain ⟨profile,present,storedProfile⟩ := Option.map_eq_some_iff.mp purchased.preference
  obtain ⟨loaded,read,mine,acquired,readings,ready,closing⟩ := reach_purchase backfillLimit backend moments eventId
    recipientId gameId occurredAt row game unseen known decoded kept
  rw [conclude_closing backend _ _ closing]
  obtain ⟨later,bound,reads⟩ := ready.read
  rw [late 2 (Nat.le_refl 2),late later (by omega),kept_or_read,present] at reads
  subst reads
  have fold : Folded (some profile) (first.preferences.get recipientId) mine _ := .updated profile profile rfl present
  have again := settled_purchase backend moments eventId recipientId gameId occurredAt game loaded stored _ mine _
    acquired readings first ready found fold
  have own : mine.userId = profile.userId := ready.owner.trans (first.preferences.keyed recipientId profile present).symm
  have merged : mergedPreference profile.toUserPreference mine profile.toUserPreference = mine :=
    (preferences R width).merged_stored _ _ own
  rw [merged] at again
  have counted : mine.signalCount = observed.signalCount + 1 := by
    have folded := ready.folded
    rw [late 2 (Nat.le_refl 2)] at folded
    have read : preferenceIn first recipientId = observed := by
      unfold preferenceIn
      rw [present,← storedProfile]
      rfl
    rw [read] at folded
    obtain ⟨taste,_,same⟩ := UserPreference.observe_ok _ _ _ _ _ folded
    rw [same]
  rw [again.outcome,counted]

end Second

/-- The operations of a purchase of a known game: the clock is asked when the event has no time. -/
def purchaseSteps (occurredAt : Option DateTime) : Nat := if occurredAt.isSome then 8 else 9

private theorem duration_commit (backend : Backend R) (start : Database R width) (session : Session R width) :
    duration (handle backend) start (commit : UseCase R Unit) session = 1 := by
  simp only [duration,handle]
  cases committed session start with
  | error fault => rfl
  | ok after => rfl

private theorem duration_resume (backfillLimit : Nat) (backend : Backend R) (start : Database R width) (eventId : UUID)
    (recipientId : UserId) (gameId : GameId) (occurredAt : Option DateTime) (game : GameProfile R)
    (observed : UserPreference R) (done : (preferenceIn start recipientId).observe game .purchase
      (occurredAt.getD (backend.environment.clock 0)) = .ok observed) (session : Session R width)
    (bare : session.preferences = {}) (unread : session.readings = 0) :
    duration (handle backend) start
      (resume backfillLimit (.purchaseCompleted eventId recipientId gameId occurredAt) (some game)) session + 2 =
        purchaseSteps occurredAt := by
  have folded : ((start.preferences.get recipientId).map (·.toUserPreference)).getD (.blank recipientId) =
      preferenceIn start recipientId := rfl
  have last := duration_commit backend start
  unfold resume
  generalize (commit : UseCase R Unit) = ending at last ⊢
  cases occurredAt with
  | some at_ =>
    rw [Option.getD_some] at done
    simp only [preferenceOf,momentOf,Program.bind_eq,Program.pure_eq,Program.call_bind,Program.done_bind,duration,
      handle,bare,fetch_fresh,folded,done,check_ok,last]
    rfl
  | none =>
    rw [Option.getD_none] at done
    simp only [preferenceOf,momentOf,Program.bind_eq,Program.pure_eq,Program.call_bind,Program.done_bind,duration,
      handle,bare,unread,fetch_fresh,folded,done,check_ok,last]
    rfl

private theorem duration_purchase (backfillLimit : Nat) (backend : Backend R) (start : Database R width)
    (eventId : UUID) (recipientId : UserId) (gameId : GameId) (occurredAt : Option DateTime)
    (row : GameProfileRow R width) (game : GameProfile R) (unseen : eventId ∉ start.processedEvents)
    (known : start.games.get gameId = some row) (decoded : gameToDomain row.toGameFields = .ok game) :
    (handling backfillLimit (.purchaseCompleted eventId recipientId gameId occurredAt)).duration (handle backend) start =
      purchaseSteps occurredAt := by
  have dense : game.dense.Sized width := by
    rw [(decoded_columns row game decoded).2.2]
    exact (sized_iff _).mp row.sized
  obtain ⟨observed,done,_⟩ := UserPreference.observe_sized width _ game .purchase
    (occurredAt.getD (backend.environment.clock 0)) (preferenceIn_sized start recipientId) dense
  have found : gameToDomain ((games R width).columns row) = .ok game := decoded
  unfold Party.duration handling unitOfWork
  rw [execute_resume]
  simp only [Event.eventId,Event.gameId,duration,handle,visible,Database.applyAll,List.foldl_nil,unseen,decide_false,
    Bool.false_eq_true,if_false,IdentityMap.fetch,IdentityMap.find,Dict.get_empty,Option.none_or,known,Option.map_some,
    found,Except.map]
  exact duration_resume backfillLimit backend start eventId recipientId gameId occurredAt game observed done _ rfl rfl

private theorem reach_unknown (backfillLimit : Nat) (backend : Backend R) (moments : Nat → Database R width)
    (eventId : UUID) (recipientId : UserId) (gameId : GameId) (occurredAt : Option DateTime)
    (unseen : eventId ∉ (moments 0).processedEvents) (absent : (moments 1).games.get gameId = none) :
    Closing (reach closes (handle backend) moments 0
      (Event.execute backfillLimit (.purchaseCompleted eventId recipientId gameId occurredAt)) {})
      { statements := [.recordOwnership ⟨recipientId,gameId,backend.environment.clock 0,false⟩,.markProcessed eventId]
        readings := 1 } := by
  have reached := reach_execute backfillLimit backend (.purchaseCompleted eventId recipientId gameId occurredAt) moments
  simp only [Event.eventId,Event.gameId,unseen,if_false,absent] at reached
  rw [reached]
  refine ⟨.done,?_⟩
  simp only [resume,Program.bind_eq,Program.call_bind,Program.done_bind,reach,closes,handle,execute,Bool.false_eq_true,
    if_false,if_true,List.nil_append,List.cons_append]

omit [Casing] in
private theorem settled_unknown (database : Database R width) (eventId : UUID) (row : OwnershipRow) (readings : Nat) :
    settled { statements := [.recordOwnership row,.markProcessed eventId], readings } database =
      { database with
        ownerships := database.ownerships.record row
        processedEvents := insert eventId database.processedEvents } := rfl

/-- The event is in the read-model of the replica, or its game is not, or its row no longer decodes. -/
def Idle (start : Database R width) (eventId : UUID) (gameId : GameId) : Prop :=
  eventId ∈ start.processedEvents ∨
    ∀ row game, start.games.get gameId = some row → gameToDomain row.toGameFields ≠ .ok game

section Purchase
variable (backfillLimit : Nat) (backend : Backend R) (start : Database R width) (eventId : UUID)
  (recipientId : UserId) (gameId : GameId) (occurredAt : Option DateTime)

private theorem alone_handled (handled : eventId ∈ start.processedEvents) :
    alone backfillLimit backend (.purchaseCompleted eventId recipientId gameId occurredAt) start = start := by
  rw [alone_eq,reach_execute]
  simp only [Event.eventId,handled,if_true,conclude]

private theorem alone_undecodable (row : GameProfileRow R width) (fault : Fault)
    (known : start.games.get gameId = some row) (broken : gameToDomain row.toGameFields = .error fault) :
    alone backfillLimit backend (.purchaseCompleted eventId recipientId gameId occurredAt) start = start := by
  rw [alone_eq,reach_execute]
  simp only [Event.gameId,known,broken]
  split <;> rfl

private theorem alone_unknown (unseen : eventId ∉ start.processedEvents) (absent : start.games.get gameId = none) :
    alone backfillLimit backend (.purchaseCompleted eventId recipientId gameId occurredAt) start =
      { start with
        ownerships := start.ownerships.record ⟨recipientId,gameId,backend.environment.clock 0,false⟩
        processedEvents := insert eventId start.processedEvents } := by
  have closing := reach_unknown backfillLimit backend (fun _ => start) eventId recipientId gameId occurredAt unseen absent
  exact (conclude_closing backend _ _ closing start).trans (settled_unknown start eventId _ 1)

private theorem following_seen (first : Database R width) (marked : eventId ∈ first.processedEvents) :
    following backfillLimit backend (.purchaseCompleted eventId recipientId gameId occurredAt) start first 0 = first :=
  alone_handled backfillLimit backend first eventId recipientId gameId occurredAt marked

private theorem following_unknown (other : Backend R) (count : Nat) (unseen : eventId ∉ start.processedEvents)
    (absent : start.games.get gameId = none) :
    outcome (following backfillLimit backend (.purchaseCompleted eventId recipientId gameId occurredAt) start
      (alone backfillLimit other (.purchaseCompleted eventId recipientId gameId occurredAt) start) count)
      recipientId gameId =
        outcome (alone backfillLimit other (.purchaseCompleted eventId recipientId gameId occurredAt) start)
          recipientId gameId := by
  rw [alone_unknown backfillLimit other start eventId recipientId gameId occurredAt unseen absent]
  cases count with
  | zero =>
    rw [following_seen]
    exact Finset.mem_insert_self eventId _
  | succ count =>
    rw [following_eq]
    have closing := reach_unknown backfillLimit backend (switch (count + 1) start
      { start with
        ownerships := start.ownerships.record ⟨recipientId,gameId,other.environment.clock 0,false⟩
        processedEvents := insert eventId start.processedEvents }) eventId recipientId gameId occurredAt unseen (by
        unfold switch
        split <;> exact absent)
    rw [conclude_closing _ _ _ closing,settled_unknown]
    have ownership := OwnershipTable.record_again start.ownerships
      ⟨recipientId,gameId,other.environment.clock 0,false⟩ ⟨recipientId,gameId,backend.environment.clock 0,false⟩ rfl rfl
      (recipientId,gameId)
    simp only [outcome,ownership]

private theorem following_idle (other : Backend R) (count : Nat) (idle : Idle start eventId gameId) :
    outcome (following backfillLimit backend (.purchaseCompleted eventId recipientId gameId occurredAt) start
      (alone backfillLimit other (.purchaseCompleted eventId recipientId gameId occurredAt) start) count)
      recipientId gameId =
        outcome (alone backfillLimit other (.purchaseCompleted eventId recipientId gameId occurredAt) start)
          recipientId gameId := by
  by_cases handled : eventId ∈ start.processedEvents
  · rw [alone_handled backfillLimit other start eventId recipientId gameId occurredAt handled,following_same,
      alone_handled backfillLimit backend start eventId recipientId gameId occurredAt handled]
  have undecoded := idle.resolve_left handled
  cases known : start.games.get gameId with
  | none => exact following_unknown backfillLimit backend start eventId recipientId gameId occurredAt other count handled known
  | some row =>
    cases decoded : gameToDomain row.toGameFields with
    | ok game => exact absurd decoded (undecoded row game known)
    | error fault =>
      rw [alone_undecodable backfillLimit other start eventId recipientId gameId occurredAt row fault known decoded,
        following_same,
        alone_undecodable backfillLimit backend start eventId recipientId gameId occurredAt row fault known decoded]

section Known
variable (row : GameProfileRow R width) (game : GameProfile R) (unseen : eventId ∉ start.processedEvents)
  (known : start.games.get gameId = some row) (decoded : gameToDomain row.toGameFields = .ok game)
include unseen known decoded

private theorem following_outside (other : Backend R) (count : Nat) (outside : count = 0 ∨ 3 ≤ count) :
    outcome (following backfillLimit backend (.purchaseCompleted eventId recipientId gameId occurredAt) start
      (alone backfillLimit other (.purchaseCompleted eventId recipientId gameId occurredAt) start) count)
      recipientId gameId =
        outcome (alone backfillLimit other (.purchaseCompleted eventId recipientId gameId occurredAt) start)
          recipientId gameId := by
  obtain ⟨observed,acquiredAt,folded,purchased⟩ := alone_purchased backfillLimit other start eventId recipientId gameId
    occurredAt row game unseen known decoded
  rcases outside with none | late
  · rw [none,following_seen]
    rw [purchased.processed]
    exact Finset.mem_insert_self eventId _
  · apply settled_late backfillLimit backend _ occurredAt row game _ folded purchased unseen known decoded
    · intro moment early
      exact if_pos (by omega)
    · intro moment
      unfold switch
      split
      · exact .inl rfl
      · exact .inr rfl

private theorem alone_counted : ∃ count, ∀ backend : Backend R, (outcome (alone backfillLimit backend
    (.purchaseCompleted eventId recipientId gameId occurredAt) start) recipientId gameId).signalCount = some count := by
  refine ⟨(preferenceIn start recipientId).signalCount + 1,fun backend => ?_⟩
  obtain ⟨observed,acquiredAt,folded,purchased⟩ := alone_purchased backfillLimit backend start eventId recipientId gameId
    occurredAt row game unseen known decoded
  obtain ⟨taste,_,same⟩ := UserPreference.observe_ok _ _ _ _ _ folded
  rw [purchased.outcome,same]

private theorem following_between (other : Backend R) (count : Nat) (between : count = 1 ∨ count = 2) (total : Int)
    (counted : (outcome (alone backfillLimit other (.purchaseCompleted eventId recipientId gameId occurredAt) start)
      recipientId gameId).signalCount = some total) :
    (outcome (following backfillLimit backend (.purchaseCompleted eventId recipientId gameId occurredAt) start
      (alone backfillLimit other (.purchaseCompleted eventId recipientId gameId occurredAt) start) count)
      recipientId gameId).signalCount = some (total + 1) := by
  obtain ⟨observed,acquiredAt,folded,purchased⟩ := alone_purchased backfillLimit other start eventId recipientId gameId
    occurredAt row game unseen known decoded
  have total_ : observed.signalCount = total := by
    rw [purchased.outcome] at counted
    exact Option.some.inj counted
  obtain ⟨stored,found,storedGame⟩ := Option.map_eq_some_iff.mp purchased.game
  have kept (moment : Nat) : ((switch count start (alone backfillLimit other
      (.purchaseCompleted eventId recipientId gameId occurredAt) start) moment).games.get gameId).isSome = true := by
    unfold switch
    split
    · rw [known]
      rfl
    · rw [found]
      rfl
  rw [← total_]
  rcases between with one | two
  · subst one
    apply settled_again backfillLimit backend _ occurredAt stored game.bought purchased unseen found _ kept
    · intro moment late
      exact if_neg (by omega)
    · rw [storedGame]
      exact gameToDomain_fields game.bought
  · subst two
    apply settled_again backfillLimit backend _ occurredAt row game purchased unseen known decoded kept
    intro moment late
    exact if_neg (by omega)

end Known
end Purchase

/-- Two deliveries of one purchase at once leave what one of them leaves alone exactly when the
purchase has no effect of its own, or the second transaction looks for the event after the first
commit, or has read both the game and the profile before it. -/
theorem redelivery_counted_once_iff (backfillLimit : Nat) (backends : Side → Backend R) (eventId : UUID)
    (recipientId : UserId) (gameId : GameId) (occurredAt : Option DateTime) (start : Database R width)
    (schedule : List Side) (complete : ((meeting backfillLimit
      (fun _ => .purchaseCompleted eventId recipientId gameId occurredAt) start).run (fun side => handle (backends side))
        schedule).Finished) :
    let event : Event := .purchaseCompleted eventId recipientId gameId occurredAt
    (∃ side, outcome (raced backfillLimit backends (fun _ => event) start schedule) recipientId gameId =
      outcome (alone backfillLimit (backends side) event start) recipientId gameId) ↔
        Idle start eventId gameId ∨ ∀ before side after, schedule = before ++ side :: after →
          before.count side + 1 = purchaseSteps occurredAt →
            before.count side.other ≠ 1 ∧ before.count side.other ≠ 2 := by
  intro event
  by_cases idle : Idle start eventId gameId
  · refine iff_of_true ?_ (.inl idle)
    obtain ⟨before,side,after,split,last,early⟩ := raced_first backfillLimit backends (fun _ => event) start schedule complete
    subst split
    rw [raced_at backfillLimit backends (fun _ => event) start before after side last early complete]
    exact ⟨side,following_idle backfillLimit _ start eventId recipientId gameId occurredAt _ _ idle⟩
  obtain ⟨unseen,row,game,known,decoded⟩ : eventId ∉ start.processedEvents ∧ ∃ row game,
      start.games.get gameId = some row ∧ gameToDomain row.toGameFields = .ok game := by
    simpa [Idle] using idle
  have steps (side : Side) : (handling backfillLimit event).duration (handle (backends side)) start =
      purchaseSteps occurredAt :=
    duration_purchase backfillLimit (backends side) start eventId recipientId gameId occurredAt row game unseen known decoded
  have long : 8 ≤ purchaseSteps occurredAt := by
    unfold purchaseSteps
    split <;> omega
  constructor
  · rintro ⟨side,once⟩
    right
    intro before first after split last
    by_contra inside
    have between : before.count first.other = 1 ∨ before.count first.other = 2 := by omega
    subst split
    rw [raced_at backfillLimit backends (fun _ => event) start before after first (last.trans (steps first).symm)
      (by rw [steps]; omega) complete] at once
    obtain ⟨total,counted⟩ := alone_counted backfillLimit start eventId recipientId gameId occurredAt row game unseen
      known decoded
    have twice := following_between backfillLimit (backends first.other) start eventId recipientId gameId occurredAt row
      game unseen known decoded (backends first) _ between total (counted (backends first))
    have same := congrArg Outcome.signalCount once
    rw [twice,counted (backends side)] at same
    have equal := Option.some.inj same
    omega
  · intro either
    have outside := either.resolve_left idle
    obtain ⟨before,side,after,split,last,early⟩ := raced_first backfillLimit backends (fun _ => event) start schedule complete
    have away := outside before side after split (last.trans (steps side))
    subst split
    rw [raced_at backfillLimit backends (fun _ => event) start before after side last early complete]
    exact ⟨side,following_outside backfillLimit _ start eventId recipientId gameId occurredAt row game unseen known
      decoded _ _ (by omega)⟩

end Sql

namespace Sql
attribute [local instance] Casing.unchanged

def racePublished : Database ℚ 0 :=
  alone 1000 (.fixed ℚ false) (.gamePublished ⟨1⟩ ⟨⟨1⟩⟩ ⟨⟨9⟩⟩ "Race" ["racing"] [] none "") {}

def raceBought : Event := .purchaseCompleted ⟨2⟩ ⟨⟨1⟩⟩ ⟨⟨1⟩⟩ none

/-- One replica has looked for the event when the other handles it to its end. -/
def lookedFirst : List Side := .right :: .replicate 9 .left ++ .replicate 8 .right

theorem redelivery_counted_once_iff_looked :
    (∃ _ : Side, outcome (raced 1000 (fun _ => .fixed ℚ false) (fun _ => raceBought) racePublished lookedFirst) ⟨⟨1⟩⟩ ⟨⟨1⟩⟩ =
      outcome (alone 1000 (.fixed ℚ false) raceBought racePublished) ⟨⟨1⟩⟩ ⟨⟨1⟩⟩) ↔
        Idle racePublished ⟨2⟩ ⟨⟨1⟩⟩ ∨ ∀ before side after, lookedFirst = before ++ side :: after →
          before.count side + 1 = purchaseSteps none → before.count side.other ≠ 1 ∧ before.count side.other ≠ 2 :=
  redelivery_counted_once_iff 1000 (fun _ => .fixed ℚ false) ⟨2⟩ ⟨⟨1⟩⟩ ⟨⟨1⟩⟩ none racePublished lookedFirst
    (by intro side; cases side <;> decide +kernel)

theorem redelivery_counted_twice : ¬∀ (schedule : List Side), ((meeting 1000 (fun _ => raceBought) racePublished).run
    (fun _ => handle (.fixed ℚ false)) schedule).Finished →
      ∃ _ : Side, outcome (raced 1000 (fun _ => .fixed ℚ false) (fun _ => raceBought) racePublished schedule) ⟨⟨1⟩⟩ ⟨⟨1⟩⟩ =
        outcome (alone 1000 (.fixed ℚ false) raceBought racePublished) ⟨⟨1⟩⟩ ⟨⟨1⟩⟩ := by
  intro claim
  obtain ⟨_,once⟩ := claim lookedFirst (by intro side; cases side <;> decide +kernel)
  have counts := congrArg Outcome.purchaseCount once
  revert counts
  decide +kernel

end Sql
end ArcadiaRecommendation
