import ArcadiaRecommendation.Sql.Ingest

/-! A purchase over the relational backend: what its commit leaves of the rows it writes, for
whatever states of the tables its operations saw. -/
namespace ArcadiaRecommendation

namespace OwnershipTable

theorem record_again (ownerships : OwnershipTable) (first second : OwnershipRow) (key : second.key = first.key)
    (counted : second.counted = first.counted) (place : UserId × GameId) :
    ((ownerships.record first).record second).get place = (ownerships.record first).get place := by
  have shared : (second.userId,second.gameId) = (first.userId,first.gameId) := key
  rw [get_record,shared]
  split
  · rename_i same
    rw [same,get_record,if_pos rfl]
    cases ownerships.get (first.userId,first.gameId) with
    | none => simp [counted]
    | some stored => simp [counted]
  · rfl

end OwnershipTable

namespace Sql
variable {R : Type} [Scalar R] [DecidableEq R] {width : Nat}

omit [Scalar R] [DecidableEq R] in
theorem sized_iff (dense : DenseEmbedding R) : Sized width dense ↔ dense.Sized width := by
  unfold Sized DenseEmbedding.Sized
  rw [DenseEmbedding.isEmpty_iff]

theorem column_cases {A : Type} [DecidableEq A] (loaded current stored : A) :
    column loaded current stored = current ∨ column loaded current stored = stored := by
  unfold column
  split
  · exact .inr rfl
  · exact .inl rfl

theorem accept_game (loaded stored : GameProfileRow R width) (game : GameFields R) (dense : Sized width game.dense) :
    ∃ row, (games R width).accept (mergedGame loaded.toGameFields game stored.toGameFields) = .ok row := by
  have fits : Sized width (mergedGame loaded.toGameFields game stored.toGameFields).dense := by
    rcases column_cases loaded.dense game.dense stored.dense with current | kept
    · simp only [mergedGame,current,dense]
    · simp only [mergedGame,kept,stored.sized]
  exact ⟨⟨_,fits⟩,dif_pos fits⟩

private theorem accept_preference (loaded stored : UserPreferenceRow R width) (observed : UserPreference R)
    (taste : Sized width observed.tasteDense) : ∃ row, (preferences R width).accept
      (mergedPreference loaded.toUserPreference observed stored.toUserPreference) = .ok row := by
  have fits : Sized width
      (mergedPreference loaded.toUserPreference observed stored.toUserPreference).tasteDense := by
    rcases column_cases loaded.tasteDense observed.tasteDense stored.tasteDense with current | kept
    · simp only [mergedPreference,current,taste]
    · simp only [mergedPreference,kept,stored.sized]
  exact ⟨⟨_,fits⟩,dif_pos fits⟩

/-- What the commit of a purchase of a known game leaves of the rows it writes. -/
structure Purchased (before after : Database R width) (eventId : UUID) (row : OwnershipRow) (game : GameFields R)
    (preference : UserPreference R) : Prop where
  game : (after.games.get row.gameId).map (·.toGameFields) = some game
  preference : (after.preferences.get row.userId).map (·.toUserPreference) = some preference
  ownerships : after.ownerships = before.ownerships.record row
  processed : after.processedEvents = insert eventId before.processedEvents

def purchasing (eventId : UUID) (row : OwnershipRow) (loaded : GameProfileRow R width) (game : GameFields R)
    (read : Option (UserPreferenceRow R width)) (observed : UserPreference R) (readings : Nat) : Session R width where
  games := .single (some loaded) game
  preferences := .single read observed
  statements := [.recordOwnership row,.markProcessed eventId]
  readings := readings

/-- The row a purchase inserts for its user, or the columns it changes in the row there is. -/
inductive Folded (read stored : Option (UserPreferenceRow R width)) (observed : UserPreference R) :
    UserPreference R → Prop
  | inserted (unread : read = none) (absent : stored = none) : Folded read stored observed observed
  | updated (loaded row : UserPreferenceRow R width) (known : read = some loaded) (found : stored = some row) :
    Folded read stored observed (mergedPreference loaded.toUserPreference observed row.toUserPreference)

private theorem flush_folded (table : Table UserId (UserPreferenceRow R width) (preferences R width).key)
    (read : Option (UserPreferenceRow R width)) (observed folded : UserPreference R)
    (taste : Sized width observed.tasteDense) (fold : Folded read (table.get observed.userId) observed folded) :
    ∃ after, (IdentityMap.single read observed : IdentityMap (preferences R width)).flush .integrityError table =
      .ok after ∧ (after.get observed.userId).map (·.toUserPreference) = some folded := by
  generalize stored : table.get observed.userId = found at fold
  cases fold with
  | inserted unread absent =>
    rw [unread]
    exact @IdentityMap.flush_added_ok _ _ _ _ _ (preferences R width) .integrityError observed table
      (stored.trans absent) ⟨observed,taste⟩ (dif_pos taste)
  | updated before now known present =>
    obtain ⟨row,accepted⟩ := accept_preference before now observed taste
    rw [known]
    exact @IdentityMap.flush_held_ok _ _ _ _ _ (preferences R width) .integrityError before now row observed table
      (stored.trans present) accepted

private theorem committed_purchasing (database : Database R width) (eventId : UUID) (row : OwnershipRow)
    (loaded stored : GameProfileRow R width) (game : GameFields R) (read : Option (UserPreferenceRow R width))
    (observed folded : UserPreference R) (readings : Nat) (gameId : game.gameId = row.gameId)
    (userId : observed.userId = row.userId) (found : database.games.get row.gameId = some stored)
    (dense : Sized width game.dense) (taste : Sized width observed.tasteDense)
    (fold : Folded read (database.preferences.get row.userId) observed folded) :
    ∃ after, committed (purchasing eventId row loaded game read observed readings) database = .ok after ∧
      Purchased database after eventId row (mergedGame loaded.toGameFields game stored.toGameFields) folded := by
  obtain ⟨gameRow,acceptedGame⟩ := accept_game loaded stored game dense
  obtain ⟨gamesAfter,flushedGames,gameAfter⟩ := IdentityMap.flush_held_ok .integrityError loaded stored gameRow game
    database.games (by rw [← found,← gameId]; rfl) acceptedGame
  obtain ⟨usersAfter,flushedUsers,userAfter⟩ := flush_folded database.preferences read observed folded taste
    (by rw [userId]; exact fold)
  let session := purchasing eventId row loaded game read observed readings
  refine ⟨{ visible session database with games := gamesAfter, preferences := usersAfter },?_,?_⟩
  · simp only [committed,session,purchasing,flushedGames,flushedUsers]
    rfl
  · rw [userId] at userAfter
    exact ⟨by rw [← gameId]; exact gameAfter,userAfter,rfl,rfl⟩

theorem committed_clash (database : Database R width) (eventId : UUID) (row : OwnershipRow)
    (loaded stored : GameProfileRow R width) (game : GameFields R) (observed : UserPreference R) (readings : Nat)
    (gameId : game.gameId = row.gameId) (userId : observed.userId = row.userId)
    (found : database.games.get row.gameId = some stored) (dense : Sized width game.dense)
    (taken : (database.preferences.get row.userId).isSome = true) :
    committed (purchasing eventId row loaded game none observed readings) database = .error .integrityError := by
  obtain ⟨gameRow,acceptedGame⟩ := accept_game loaded stored game dense
  obtain ⟨gamesAfter,flushedGames,_⟩ := IdentityMap.flush_held_ok .integrityError loaded stored gameRow game
    database.games (by rw [← found,← gameId]; rfl) acceptedGame
  have refused : (IdentityMap.single none observed : IdentityMap (preferences R width)).flush .integrityError
      database.preferences = .error .integrityError :=
    @IdentityMap.flush_taken _ _ _ _ _ (preferences R width) .integrityError observed database.preferences
      (by rw [← userId] at taken; exact taken)
  simp only [committed,purchasing,flushedGames,refused]
  rfl

variable [Casing]

omit [DecidableEq R] in
theorem decoded_columns (row : GameProfileRow R width) (game : GameProfile R)
    (decoded : gameToDomain row.toGameFields = .ok game) :
    game.gameId = row.gameId ∧ game.purchaseCount = row.purchaseCount ∧ game.dense = row.dense := by
  unfold gameToDomain at decoded
  cases built : GameProfile.construct row.toGameFields with
  | error rule =>
    rw [built] at decoded
    cases decoded
  | ok found =>
    rw [built] at decoded
    obtain rfl := Except.ok.inj decoded
    obtain ⟨embedding,same⟩ := GameProfile.construct_kept _ found built
    rw [same]
    exact ⟨rfl,rfl,rfl⟩

omit [DecidableEq R] [Casing] in
theorem preferenceIn_sized (database : Database R width) (userId : UserId) :
    (preferenceIn database userId).tasteDense.Sized width := by
  unfold preferenceIn
  cases database.preferences.get userId with
  | none => exact .inl rfl
  | some row => exact (sized_iff _).mp row.sized

omit [DecidableEq R] [Casing] in
private theorem preferenceIn_userId (database : Database R width) (userId : UserId) :
    (preferenceIn database userId).userId = userId := by
  unfold preferenceIn
  cases found : database.preferences.get userId with
  | none => rfl
  | some row => exact database.preferences.keyed userId row found

/-- What a purchase has read and computed when it comes to its commit. -/
structure Ready (backend : Backend R) (moments : Nat → Database R width) (recipientId : UserId) (gameId : GameId)
    (occurredAt : Option DateTime) (game : GameProfile R) (loaded : GameProfileRow R width)
    (read : Option (UserPreferenceRow R width)) (observed : UserPreference R) : Prop where
  folded : (preferenceIn (moments 2) recipientId).observe game .purchase
    (occurredAt.getD (backend.environment.clock 0)) = .ok observed
  owner : observed.userId = recipientId
  taste : Sized width observed.tasteDense
  key : game.gameId = gameId
  dense : Sized width game.dense
  loaded : ∃ last, (if backend.retains then (moments 1).games.get gameId else none).or
    ((moments last).games.get gameId) = some loaded
  read : ∃ later, 3 ≤ later ∧ read = (if backend.retains then (moments 2).preferences.get recipientId else none).or
    ((moments later).preferences.get recipientId)

theorem reach_purchase (backfillLimit : Nat) (backend : Backend R) (moments : Nat → Database R width) (eventId : UUID)
    (recipientId : UserId) (gameId : GameId) (occurredAt : Option DateTime) (row : GameProfileRow R width)
    (game : GameProfile R) (unseen : eventId ∉ (moments 0).processedEvents)
    (known : (moments 1).games.get gameId = some row) (decoded : gameToDomain row.toGameFields = .ok game)
    (kept : ∀ moment, ((moments moment).games.get gameId).isSome = true) :
    ∃ loaded read observed acquiredAt readings,
      Ready backend moments recipientId gameId occurredAt game loaded read observed ∧
      Closing (reach closes (handle backend) moments 0
        (Event.execute backfillLimit (.purchaseCompleted eventId recipientId gameId occurredAt)) {})
        (purchasing eventId ⟨recipientId,gameId,acquiredAt,true⟩ loaded game.bought.toGameFields read observed
          readings) := by
  have columns := decoded_columns row game decoded
  have dense : Sized width game.dense := by
    rw [columns.2.2]
    exact row.sized
  obtain ⟨observed,done,taste⟩ := UserPreference.observe_sized width _ game .purchase
    (occurredAt.getD (backend.environment.clock 0)) (preferenceIn_sized (moments 2) recipientId) ((sized_iff _).mp dense)
  obtain ⟨later,last,readings,acquiredAt,after,_,closing⟩ := reach_bought backfillLimit backend moments eventId recipientId
    gameId occurredAt game observed done
  have owner : observed.userId = recipientId :=
    (UserPreference.observe_userId _ _ _ _ _ done).trans (preferenceIn_userId (moments 2) recipientId)
  have key : game.gameId = gameId := columns.1.trans ((moments 1).games.keyed gameId row known)
  have present : ((if backend.retains then (moments 1).games.get gameId else none).or
      ((moments last).games.get gameId)).isSome = true := by
    rw [Option.isSome_or,kept last,Bool.or_true]
  obtain ⟨loaded,found⟩ := Option.isSome_iff_exists.mp present
  have games := @IdentityMap.write_fetch _ _ _ _ _ (games R width) backend.retains (moments 1).games
    (moments last).games gameId game.bought.toGameFields key
  have preferences := @IdentityMap.write_fetch _ _ _ _ _ (preferences R width) backend.retains (moments 2).preferences
    (moments later).preferences recipientId observed owner
  have reached := reach_execute backfillLimit backend (.purchaseCompleted eventId recipientId gameId occurredAt) moments
  simp only [Event.eventId,Event.gameId,unseen,if_false,known,decoded] at reached
  rw [← reached] at closing
  refine ⟨loaded,_,observed,acquiredAt,readings,
    ⟨done,owner,(sized_iff _).mpr taste,key,dense,⟨last,found⟩,⟨later,after,rfl⟩⟩,?_⟩
  unfold purchasing
  rw [← found]
  simp only [reading,remembering] at closing
  rw [← games,← preferences]
  exact closing

theorem settled_purchase (backend : Backend R) (moments : Nat → Database R width) (eventId : UUID)
    (recipientId : UserId) (gameId : GameId) (occurredAt : Option DateTime) (game : GameProfile R)
    (loaded stored : GameProfileRow R width) (read : Option (UserPreferenceRow R width))
    (observed folded : UserPreference R) (acquiredAt : DateTime) (readings : Nat) (database : Database R width)
    (ready : Ready backend moments recipientId gameId occurredAt game loaded read observed)
    (found : database.games.get gameId = some stored)
    (fold : Folded read (database.preferences.get recipientId) observed folded) :
    Purchased database (settled (purchasing eventId ⟨recipientId,gameId,acquiredAt,true⟩ loaded game.bought.toGameFields
      read observed readings) database) eventId ⟨recipientId,gameId,acquiredAt,true⟩
      (mergedGame loaded.toGameFields game.bought.toGameFields stored.toGameFields) folded := by
  obtain ⟨after,committed,purchased⟩ := committed_purchasing database eventId ⟨recipientId,gameId,acquiredAt,true⟩
    loaded stored game.bought.toGameFields read observed folded readings ready.key ready.owner found ready.dense
    ready.taste fold
  unfold settled
  rw [committed]
  exact purchased

end Sql
end ArcadiaRecommendation
