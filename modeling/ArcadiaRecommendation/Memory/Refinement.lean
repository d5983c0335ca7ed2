import ArcadiaRecommendation.Memory.Ingest
import ArcadiaRecommendation.ReadModel.Basic

/-! The in-memory backend refines the read-model: an ingest that returns is one step. -/
namespace ArcadiaRecommendation
namespace Memory

def flag (rows : Dict GameId (Dict UserId Bool)) (userId : UserId) (gameId : GameId) : Option Bool :=
  ((rows.get gameId).getD ∅).get userId

theorem flag_recordRow (rows : Dict GameId (Dict UserId Bool)) (owner : UserId) (game : GameId) (counted : Bool)
    (userId : UserId) (gameId : GameId) :
    flag (recordRow rows (owner,game,counted)) userId gameId =
      if gameId = game ∧ userId = owner then some ((flag rows userId gameId).getD false || counted)
      else flag rows userId gameId := by
  simp only [flag,recordRow,Dict.get_set]
  by_cases sameGame : gameId = game
  · by_cases sameUser : userId = owner
    · simp [sameGame,sameUser]
    · simp [sameGame,sameUser,Dict.get_set_of_ne]
  · simp [sameGame]

private theorem flag_recordRows (rows : Dict GameId (Dict UserId Bool)) (owners : List UserId) (game : GameId)
    (userId : UserId) (gameId : GameId) :
    flag ((owners.map fun owner => (owner,game,true)).foldl recordRow rows) userId gameId =
      if gameId = game ∧ userId ∈ owners then some ((flag rows userId gameId).getD false || true)
      else flag rows userId gameId := by
  induction owners generalizing rows with
  | nil => simp
  | cons owner rest ih =>
    rw [List.map_cons,List.foldl_cons,ih,flag_recordRow]
    by_cases sameGame : gameId = game
    · by_cases sameUser : userId = owner
      · simp [sameGame,sameUser]
      · simp [sameGame,sameUser]
    · simp [sameGame]

variable {R : Type} [Scalar R] [Casing]

theorem creditAll_get (preferences : PreferenceTable R) (game : GameProfile R) (at_ : DateTime)
    (owners : List UserId) (distinct : owners.Nodup) (staged credited : PreferenceTable R)
    (unstaged : ∀ userId ∈ owners, staged.get userId = none)
    (done : creditAll preferences game at_ owners staged = .ok credited) (userId : UserId) :
    if userId ∈ owners then ∃ observed,
      ((preferences.get userId).getD (.blank userId)).observe game .purchase at_ = .ok observed ∧
        credited.get userId = some observed
    else credited.get userId = staged.get userId := by
  induction owners generalizing staged with
  | nil =>
    cases Except.ok.inj done
    simp
  | cons owner rest ih =>
    obtain ⟨absent,tail⟩ := List.nodup_cons.mp distinct
    unfold creditAll at done
    rw [unstaged owner List.mem_cons_self,Option.none_or] at done
    split at done
    · rename_i observed folded
      have sameId : observed.userId = owner := by
        rw [UserPreference.observe_userId _ _ _ _ _ folded]
        cases found : preferences.get owner with
        | none => rfl
        | some preference => exact preferences.keyed owner preference found
      have later : ∀ other ∈ rest, (staged.upsert observed).get other = none := by
        intro other member
        have apart : other ≠ observed.userId := fun same => absent (sameId ▸ same ▸ member)
        rw [Table.get_upsert,if_neg apart]
        exact unstaged other (List.mem_cons_of_mem owner member)
      have rest := ih tail (staged.upsert observed) later done
      by_cases same : userId = owner
      · subst same
        rw [if_neg absent,Table.get_upsert,if_pos sameId.symm] at rest
        rw [if_pos List.mem_cons_self]
        exact ⟨observed,folded,rest⟩
      · have apart : userId ≠ observed.userId := fun equal => same (equal.trans sameId)
        rw [Table.get_upsert,if_neg apart] at rest
        simpa only [List.mem_cons,same,false_or] using rest
    · cases done

theorem creditAll_unembedded (preferences : PreferenceTable R) (game : GameProfile R) (at_ : DateTime)
    (owners : List UserId) (staged : PreferenceTable R) (unembedded : game.dense = .empty) :
    ∃ credited, creditAll preferences game at_ owners staged = .ok credited := by
  induction owners generalizing staged with
  | nil => exact ⟨staged,rfl⟩
  | cons owner rest ih =>
    obtain ⟨observed,folded⟩ := UserPreference.observe_unembedded
      (((staged.get owner).or (preferences.get owner)).getD (.blank owner)) game .purchase at_ unembedded
    obtain ⟨credited,done⟩ := ih (staged.upsert observed)
    exact ⟨credited,by rw [creditAll,folded]; exact done⟩

end Memory

namespace MemoryStore
variable {R : Type} [Scalar R] [Casing]

/-- What the store holds, as a read-model. -/
def readModel (store : MemoryStore R) : ReadModel R where
  games := store.games.get
  preferences := store.preferences.get
  ownership := Memory.flag store.ownerships
  stored userId := (store.recommendations.get userId).getD []
  processed := store.processedEvents
  gamesKeyed := store.games.keyed
  preferencesKeyed := store.preferences.keyed

theorem mem_uncounted (store : MemoryStore R) (gameId : GameId) (userId : UserId) :
    userId ∈ store.uncounted gameId ↔ store.readModel.ownership userId gameId = some false := by
  simp only [uncounted,readModel,Memory.flag,← Dict.mem_entries,List.mem_map,List.mem_filter]
  constructor
  · intro member
    obtain ⟨entry,⟨stored,pending⟩,same⟩ := member
    obtain ⟨owner,counted⟩ := entry
    simp only [Bool.not_eq_true'] at pending
    rw [← same,← pending]
    exact stored
  · intro stored
    exact ⟨(userId,false),⟨stored,rfl⟩,rfl⟩

theorem uncounted_nodup (store : MemoryStore R) (gameId : GameId) : (store.uncounted gameId).Nodup :=
  ((store.ownerships.get gameId).getD ∅).distinct.sublist (List.filter_sublist.map _)

private theorem owed_uncounted (store : MemoryStore R) (backfillLimit : Nat) (gameId : GameId) :
    store.readModel.Owed backfillLimit gameId ((store.uncounted gameId).take backfillLimit) :=
  ⟨store.uncounted gameId,store.uncounted_nodup gameId,store.mem_uncounted gameId,rfl⟩

end MemoryStore

namespace Memory
variable {R : Type} [Scalar R] [Casing]

theorem get_upsert_games (games : GameTable R) (game : GameProfile R) (gameId : GameId)
    (same : game.gameId = gameId) : (games.upsert game).get = Function.update games.get gameId (some game) := by
  funext other
  rw [Table.get_upsert,Function.update_apply,same]

theorem observed_upsert (before after : MemoryStore R) (userId : UserId) (game : GameProfile R)
    (kind : SignalKind) (at_ : DateTime) (observed : UserPreference R)
    (folded : (before.preferenceOf userId).observe game kind at_ = .ok observed)
    (written : after.preferences = before.preferences.upsert observed) :
    before.readModel.Observed after.readModel [userId] game kind at_ := by
  have sameId : observed.userId = userId :=
    (UserPreference.observe_userId _ _ _ _ _ folded).trans (before.readModel.preferenceOf_userId userId)
  intro other
  simp only [List.mem_singleton,MemoryStore.readModel,written,Table.get_upsert,sameId]
  by_cases same : other = userId
  · subst same
    simp only [if_true]
    exact ⟨observed,folded,rfl⟩
  · simp only [same,if_false]

theorem recorded_own (before after : MemoryStore R) (userId : UserId) (gameId : GameId) (counted : Bool)
    (written : after.ownerships = recordRow before.ownerships (userId,gameId,counted)) :
    before.readModel.Recorded after.readModel [userId] gameId counted := by
  intro other game
  simp only [MemoryStore.readModel,written,flag_recordRow,List.mem_singleton]

private theorem describe_gameId (existing : Option (GameProfile R)) (gameId : GameId) (developerId : UserId)
    (title : String) (genres tags : List String) (publishedAt : Option DateTime) (description : String)
    (game : GameProfile R) (keyed : ∀ known, existing = some known → known.gameId = gameId)
    (described : HandleGamePublished.describe existing gameId developerId title genres tags publishedAt
      description = .ok game) : game.gameId = gameId := by
  have kept :=
    (HandleGamePublished.describe_ok existing gameId developerId title genres tags publishedAt description game described).1
  cases existing with
  | none => exact kept
  | some known => exact kept.trans (keyed known rfl)

theorem effect_refines (backfillLimit : Nat) (environment : Environment) (event : Event)
    (before after : MemoryStore R) (done : effect backfillLimit environment before event = .ok after) :
    before.readModel.Effect backfillLimit (after.remember event.eventId).readModel event ∧
      after.readModel.stored = before.readModel.stored ∧ after.processedEvents = before.processedEvents := by
  cases event with
  | gamePublished eventId gameId developerId title genres tags publishedAt description =>
    simp only [effect] at done
    split at done
    · cases done
    rename_i game described
    have sameId := describe_gameId _ gameId developerId title genres tags publishedAt description game
      (before.games.keyed gameId) described
    simp only [backfilled,sameId] at done
    split at done
    · cases done
    rename_i staged credited
    cases Except.ok.inj done
    refine ⟨.published eventId gameId developerId title genres tags publishedAt description game
      ((before.uncounted gameId).take backfillLimit) (environment.clock 0) described
      (before.owed_uncounted backfillLimit gameId) (get_upsert_games _ game gameId sameId) ?_ ?_,rfl,rfl⟩
    · intro userId
      have distinct := (before.uncounted_nodup gameId).sublist (List.take_sublist backfillLimit _)
      have folded := creditAll_get before.preferences game _ _ distinct ∅ staged (fun _ _ => rfl) credited userId
      split at folded
      · rename_i member
        rw [if_pos member]
        obtain ⟨observed,ok,found⟩ := folded
        refine ⟨observed,ok,?_⟩
        show (before.preferences.update staged).get userId = some observed
        rw [Table.get_update,found,Option.some_or]
      · rename_i absent
        rw [if_neg absent]
        show (before.preferences.update staged).get userId = before.preferences.get userId
        rw [Table.get_update,folded,Table.get_empty,Option.none_or]
    · intro userId other
      exact flag_recordRows before.ownerships _ gameId userId other
  | gameWithdrawn eventId gameId =>
    simp only [effect] at done
    split at done
    · rename_i unknown
      cases Except.ok.inj done
      exact ⟨.withdrawnUnknown eventId gameId unknown rfl rfl rfl,rfl,rfl⟩
    · rename_i game known
      cases Except.ok.inj done
      exact ⟨.withdrawn eventId gameId game known
        (get_upsert_games _ game.withdrawn gameId (before.games.keyed gameId game known)) rfl rfl,rfl,rfl⟩
  | purchaseCompleted eventId recipientId gameId occurredAt =>
    simp only [effect] at done
    split at done
    · rename_i unknown
      cases Except.ok.inj done
      exact ⟨.purchasedUnknown eventId recipientId gameId occurredAt unknown rfl rfl
        (recorded_own before _ recipientId gameId false rfl),rfl,rfl⟩
    · rename_i game known
      have sameId := before.games.keyed gameId game known
      simp only [purchased,sameId] at done
      split at done
      · cases done
      rename_i observed folded
      cases Except.ok.inj done
      exact ⟨.purchased eventId recipientId gameId occurredAt game _ known
        (get_upsert_games _ game.bought gameId sameId) (observed_upsert before _ recipientId game _ _ observed folded rfl)
        (recorded_own before _ recipientId gameId true rfl),rfl,rfl⟩
  | reviewPosted eventId authorId gameId liked occurredAt =>
    simp only [effect] at done
    split at done
    · rename_i unknown
      cases Except.ok.inj done
      exact ⟨.reviewedUnknown eventId authorId gameId liked occurredAt unknown rfl rfl rfl,rfl,rfl⟩
    · rename_i game known
      simp only [reviewed] at done
      split at done
      · cases done
      rename_i observed folded
      cases Except.ok.inj done
      exact ⟨.reviewed eventId authorId gameId liked occurredAt game _ known rfl
        (observed_upsert before _ authorId game _ _ observed folded rfl) rfl,rfl,rfl⟩

theorem execute_raised (backfillLimit : Nat) (environment : Environment) (event : Event)
    (before after : MemoryStore R) (fault : Fault)
    (ran : execute environment (event.execute backfillLimit) before = (.error fault,after)) : after = before := by
  rw [execute_ingest] at ran
  unfold resultOf at ran
  split at ran
  · cases ran
  · exact (congrArg Prod.snd ran).symm

theorem execute_returned (backfillLimit : Nat) (environment : Environment) (event : Event)
    (before after : MemoryStore R)
    (ran : execute environment (event.execute backfillLimit) before = (.ok (),after)) :
    if event.eventId ∈ before.processedEvents then after = before
    else before.readModel.Handled backfillLimit after.readModel event := by
  rw [execute_ingest] at ran
  unfold ingest at ran
  split at ran
  · rename_i known
    rw [if_pos known]
    exact (congrArg Prod.snd ran).symm
  · rename_i fresh
    rw [if_neg fresh]
    cases done : effect backfillLimit environment before event with
    | error rule =>
      rw [done] at ran
      cases ran
    | ok changed =>
      rw [done] at ran
      have same : changed.remember event.eventId = after := congrArg Prod.snd ran
      subst same
      obtain ⟨effect,stored,processed⟩ := effect_refines backfillLimit environment event before changed done
      refine ⟨fresh,effect,stored,?_⟩
      show insert event.eventId changed.processedEvents = insert event.eventId before.processedEvents
      rw [processed]

end Memory
end ArcadiaRecommendation
