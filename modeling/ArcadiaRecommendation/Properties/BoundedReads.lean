import ArcadiaRecommendation.Memory.CoPurchases
import ArcadiaRecommendation.Memory.Enrichment
import ArcadiaRecommendation.Sql.CoPurchases
import ArcadiaRecommendation.Sql.Session

/-! The bounded reads of the two backends over the same rows. -/
namespace ArcadiaRecommendation
variable {R : Type} [Scalar R] {width : Nat}

namespace Memory
variable [Casing] {Body : Type}

def Ranked (store : MemoryStore R) : Prop := ∀ userId, ((listOf store userId).map (·.rank)).Nodup

theorem ranked_of_same (before after : MemoryStore R) (same : after.recommendations = before.recommendations)
    (ranked : Ranked before) : Ranked after := by
  unfold Ranked listOf
  rw [same]
  exact ranked

theorem Draft.ranked (environment : Environment) (generation : Generation R) (userId : UserId) (limit : Nat)
    (store : MemoryStore R) (draft : Draft R) (ok : Memory.draft environment generation userId limit store = .ok draft)
    (ranked : Ranked store) : Ranked (draft.commit environment userId store) := by
  intro other
  unfold listOf Draft.commit
  dsimp only
  rw [Dict.get_set]
  split
  · obtain ⟨_,_,_,_,lists⟩ := (draft_drafted environment generation userId limit store draft ok).lists
    rw [Option.getD_some,lists.ranks]
    exact List.nodup_range'
  · exact ranked other

private theorem ingesting_upsertEmbedded (pending : List (GameProfile R)) (vectors : List (List R)) :
    (EmbedPendingGames.upsertEmbedded pending vectors).Only Ingesting := by
  induction pending generalizing vectors with
  | nil => cases vectors <;> trivial
  | cons game games ih =>
    cases vectors with
    | nil => trivial
    | cons values rest => exact ⟨trivial,fun _ => ih rest⟩

theorem Enrichment.after_ranked (backfillLimit : Nat) (embed : Embedder R Body) (enrichment : Enrichment R)
    (move : Move R Body) (ranked : Ranked enrichment.store) : Ranked (after backfillLimit embed enrichment move).store := by
  cases move with
  | work attempt =>
    obtain ⟨work,environment,cut⟩ := attempt
    cases work with
    | ingest event =>
      exact ranked_of_same _ _ (attempt_ingest environment cut backfillLimit event enrichment.store).stored ranked
    | generate generation userId limit =>
      rcases attempt_generation environment cut generation userId limit enrichment.store with
        ⟨draft,drafted,_,_,stored,_⟩ | ⟨_,stored,_⟩
      · have kept := draft.ranked environment generation userId limit enrichment.store drafted ranked
        rw [← stored] at kept
        exact kept
      · have kept := ranked
        rw [← stored] at kept
        exact kept
  | read environment batchSize =>
    simp only [after,execute_pending]
    split <;> exact ranked
  | answer place body =>
    simp only [after]
    split
    · split <;> exact ranked
    · exact ranked
    · exact ranked
  | write place environment cut =>
    simp only [after]
    split
    · rename_i pending vectors _
      have only : (EmbedPendingGames.store pending vectors : UseCase R Unit).Only Ingesting :=
        Program.only_bind _ _ _ (ingesting_upsertEmbedded pending vectors) fun _ => ⟨trivial,fun _ => trivial⟩
      have listed : Unlisted enrichment.store
          (attempt environment cut (EmbedPendingGames.store pending vectors) enrichment.store).2 :=
        Program.runUntil_only (handle environment) Ingesting (Unlisted enrichment.store)
          (fun op session after answer => handle_unlisted environment enrichment.store op session after answer)
          _ only cut { store := enrichment.store } ⟨rfl,rfl,rfl,fun _ game found => ⟨game,found⟩⟩
      exact ranked_of_same _ _ listed.stored ranked
    · exact ranked
    · exact ranked

/-- A list that the service stores never holds a rank twice. -/
theorem Enrichment.run_ranked (backfillLimit : Nat) (embed : Embedder R Body) (moves : List (Move R Body)) :
    Ranked (run backfillLimit embed moves).store := by
  induction moves using List.reverseRecOn with
  | nil => exact fun _ => List.nodup_nil
  | append_singleton earlier last ih =>
    unfold run
    rw [List.foldl_append]
    exact after_ranked backfillLimit embed _ last ih

end Memory

/-- A committed state that both backends hold. The owners of a game come in the order of
`acquired_at`, and a stored list is one that the service writes. -/
structure SameRows [Casing] (store : MemoryStore R) (database : Database R width) : Prop where
  games : ∀ gameId, (database.games.get gameId).map (·.toGameFields) = (store.games.get gameId).map (·.toGameFields)
  preferences : ∀ userId, (database.preferences.get userId).map (·.toUserPreference) = store.preferences.get userId
  ownerships : ∀ gameId userId, (database.ownerships.get (userId,gameId)).map (·.counted) =
    ((store.ownerships.get gameId).getD ∅).get userId
  acquired : ∀ gameId, (((store.ownerships.get gameId).getD ∅).keys.filterMap fun userId =>
    database.ownerships.get (userId,gameId)).Pairwise fun first second => first.acquiredAt.micros < second.acquiredAt.micros
  recommendations : ∀ userId, (database.recommendations.filter (·.userId = userId)).Perm (Memory.listOf store userId)
  ranks : Memory.Ranked store

private theorem popular_preorders : Preorders (Database.popular (R := R)) :=
  Preorders.byCount (fun row : GameFields R => row.purchaseCount) (fun first second => first.gameId.str ≤ second.gameId.str)
    (Preorders.of_text _)

private theorem popular_separates (rows : List (GameFields R)) (distinct : (rows.map (·.gameId)).Nodup) :
    Separates Database.popular rows := by
  intro first inFirst second inSecond left right
  obtain ⟨before,after⟩ := byCount_tied (fun row : GameFields R => row.purchaseCount)
    (fun first second => first.gameId.str ≤ second.gameId.str) first second left right
  exact List.inj_on_of_nodup_map distinct inFirst inSecond (GameId.str_injective _ _ (String.le_antisymm before after))

theorem profiles_fresh [DecidableEq R] [Casing] (games : List (GameProfile R)) :
    Sql.profiles ({} : Sql.Session R width) (games.map (·.toGameFields)) = .ok games := by
  induction games with
  | nil => rfl
  | cons game rest ih =>
    unfold Sql.profiles at ih ⊢
    have first := Sql.gameToDomain_fields game
    have held : ((({} : Sql.Session R width).games.held.get game.toGameFields.gameId).map (·.2)).getD game.toGameFields =
        game.toGameFields := rfl
    rw [List.map_cons,List.mapM_cons,held,first,ih]
    rfl

def active (preferences : PreferenceTable R) : List (UserPreference R) :=
  preferences.values.filter fun preference => 0 < preference.signalCount

/-- Among the active users with a moment, the first so many by their id were each last active no
earlier than anyone whose id comes later. -/
def RecentFirst (preferences : PreferenceTable R) (limit : Nat) : Prop :=
  ∀ first ∈ active preferences, ∀ second ∈ active preferences, ∀ before after,
    first.updatedAt = some before → second.updatedAt = some after →
    first.userId.str < second.userId.str → before.micros < after.micros →
      limit ≤ (active preferences).countP fun other => other.updatedAt.isSome ∧ other.userId.str < first.userId.str

private theorem activity_preorders : Preorders (Memory.moreActive (R := R)) := by
  constructor
  · intro first second
    unfold Memory.moreActive
    cases first.updatedAt <;> cases second.updatedAt <;> simp [String.le_total]
  · intro first second third
    unfold Memory.moreActive
    cases first.updatedAt <;> cases second.updatedAt <;> cases third.updatedAt <;> simp
    · exact String.le_trans
    · exact String.le_trans

private theorem recency_preorders : Preorders (Database.moreActive (R := R)) := by
  constructor
  · intro first second
    unfold Database.moreActive
    cases first.updatedAt with
    | none => cases second.updatedAt <;> simp [String.le_total]
    | some left =>
      cases second.updatedAt with
      | none => exact .inl trivial
      | some right =>
        dsimp only
        rcases lt_trichotomy left.micros right.micros with less | same | more
        · exact .inr (.inl less)
        · have equal : left = right := congrArg DateTime.mk same
          rcases String.le_total first.userId.str second.userId.str with before | after
          · exact .inl (.inr ⟨equal,before⟩)
          · exact .inr (.inr ⟨equal.symm,after⟩)
        · exact .inl (.inl more)
  · intro first second third
    unfold Database.moreActive
    cases first.updatedAt with
    | none =>
      cases second.updatedAt with
      | none =>
        cases third.updatedAt with
        | none => exact String.le_trans
        | some right => intro _ nothing; exact nothing.elim
      | some middle => intro nothing; exact nothing.elim
    | some left =>
      cases third.updatedAt with
      | none => intros; trivial
      | some right =>
        cases second.updatedAt with
        | none => intro _ nothing; exact nothing.elim
        | some middle =>
          dsimp only
          rintro (earlier | ⟨rfl,before⟩) (later | ⟨rfl,after⟩)
          · exact .inl (later.trans earlier)
          · exact .inl earlier
          · exact .inl later
          · exact .inr ⟨rfl,String.le_trans before after⟩

private theorem mem_active (preferences : PreferenceTable R) (preference : UserPreference R)
    (member : preference ∈ active preferences) : preferences.get preference.userId = some preference :=
  (preferences.mem_values preference).mp (List.mem_filter.mp member).1

private theorem activity_tied (first second : UserPreference R) (left : Memory.moreActive first second)
    (right : Memory.moreActive second first) : first.userId.str = second.userId.str := by
  unfold Memory.moreActive at left right
  cases known : first.updatedAt <;> cases also : second.updatedAt <;> simp [known,also] at left right
  all_goals exact String.le_antisymm left right

private theorem recency_tied (first second : UserPreference R) (left : Database.moreActive first second)
    (right : Database.moreActive second first) : first.userId.str = second.userId.str := by
  unfold Database.moreActive at left right
  cases known : first.updatedAt <;> cases also : second.updatedAt <;> simp only [known,also] at left right
  · exact String.le_antisymm left right
  · rcases left with earlier | ⟨_,before⟩
    · rcases right with later | ⟨same,_⟩
      · omega
      · rw [same] at earlier
        omega
    · rcases right with later | ⟨_,after⟩
      · simp_all
      · exact String.le_antisymm before after

private theorem active_separates (before : UserPreference R → UserPreference R → Prop)
    (tied : ∀ first second, before first second → before second first → first.userId.str = second.userId.str)
    (preferences : PreferenceTable R) : Separates before (active preferences) := by
  intro first inFirst second inSecond left right
  have ids : first.userId = second.userId := congrArg UserId.mk (UUID.str_injective _ _ (tied first second left right))
  have found := mem_active preferences first inFirst
  rw [ids,mem_active preferences second inSecond] at found
  exact (Option.some.inj found).symm

private theorem placed_differently (first second : UserPreference R) (ordered : ¬Memory.moreActive second first)
    (reversed : ¬Database.moreActive first second) : ∃ before after, first.updatedAt = some before ∧
      second.updatedAt = some after ∧ first.userId.str < second.userId.str ∧ before.micros < after.micros := by
  unfold Memory.moreActive at ordered
  unfold Database.moreActive at reversed
  cases known : first.updatedAt with
  | none =>
    cases also : second.updatedAt with
    | none =>
      rw [known,also] at ordered reversed
      rcases String.le_total first.userId.str second.userId.str with below | above
      · exact absurd below reversed
      · exact absurd (.inr ⟨rfl,above⟩) ordered
    | some after =>
      rw [known,also] at ordered
      exact absurd (.inl ⟨rfl,rfl⟩) ordered
  | some before =>
    cases also : second.updatedAt with
    | none =>
      rw [known,also] at reversed
      exact absurd trivial reversed
    | some after =>
      rw [known,also] at ordered reversed
      have apart : ¬second.userId.str ≤ first.userId.str := fun above => ordered (.inr ⟨rfl,above⟩)
      have below : first.userId.str ≤ second.userId.str := (String.le_total _ _).resolve_right apart
      refine ⟨before,after,rfl,rfl,String.not_le.mp apart,?_⟩
      rcases lt_trichotomy before.micros after.micros with earlier | same | later
      · exact earlier
      · exact absurd (.inr ⟨congrArg DateTime.mk same,below⟩) reversed
      · exact absurd (.inl later) reversed

private theorem recentFirst_iff (preferences : PreferenceTable R) (limit : Nat) :
    selected Memory.moreActive limit (active preferences) = selected Database.moreActive limit (active preferences) ↔
      RecentFirst preferences limit := by
  have counted (item : UserPreference R) (moment : DateTime) (known : item.updatedAt = some moment) :
      ahead Memory.moreActive (active preferences) item = (active preferences).countP fun other =>
        other.updatedAt.isSome ∧ other.userId.str < item.userId.str := by
    apply List.countP_congr
    intro other _
    rw [decide_eq_true_iff,decide_eq_true_iff]
    unfold Memory.moreActive
    cases other.updatedAt <;> simp [known]
  rw [selected_agree activity_preorders recency_preorders limit (active preferences)
    (active_separates _ activity_tied preferences) (active_separates _ recency_tied preferences)]
  constructor
  · intro settled first inFirst second inSecond before after known also text moments
    rw [← counted first before known]
    apply settled first inFirst second inSecond
    · unfold Memory.moreActive
      simp [known,also,text]
    · unfold Database.moreActive
      simp only [known,also]
      rintro (later | ⟨same,_⟩)
      · omega
      · rw [same] at moments
        omega
  · intro settled first inFirst second inSecond ordered reversed
    obtain ⟨before,after,known,also,text,moments⟩ := placed_differently first second ordered reversed
    rw [counted first before known]
    exact settled first inFirst second inSecond before after known also text moments

def SetOrder.leading {A : Type} [DecidableEq A] (order : SetOrder A) (first : A) : SetOrder A where
  list elements := if first ∈ elements then first :: order.list (elements.erase first) else order.list elements
  nodup elements := by
    split
    · refine List.nodup_cons.mpr ⟨?_,order.nodup _⟩
      rw [← List.mem_toFinset,order.members]
      exact Finset.notMem_erase first elements
    · exact order.nodup elements
  members elements := by
    split
    · rename_i inside
      rw [List.toFinset_cons,order.members,Finset.insert_erase inside]
    · exact order.members elements

private theorem SetOrder.leading_list {A : Type} [DecidableEq A] (order : SetOrder A) (first : A) (elements : Finset A)
    (inside : first ∈ elements) : ∃ rest, (order.leading first).list elements = first :: rest :=
  ⟨_,if_pos inside⟩

namespace OwnershipTable

/-- No group of games that equally many neighbours own is cut by the limit. -/
def Uncut (ownerships : OwnershipTable) (userId : UserId) (owned : Finset GameId) (limit : Nat) : Prop :=
  ∀ entry ∈ ownerships.shared userId owned,
    limit ≤ (ownerships.shared userId owned).countP (fun other => entry.2 < other.2) ∨
      (ownerships.shared userId owned).countP (fun other => entry.2 ≤ other.2) ≤ limit

def moreCounted (first second : GameId × Int) : Prop := second.2 ≤ first.2

instance : DecidableRel moreCounted := fun _ _ => inferInstanceAs (Decidable (_ ≤ _))

private theorem moreCounted_preorders : Preorders moreCounted :=
  ⟨fun _ _ => le_total _ _,fun _ _ _ first second => le_trans second first⟩

private theorem moreShared_finer (first second : GameId × Int) (before : moreShared first second) :
    moreCounted first second := by
  rcases before with more | ⟨same,_⟩
  · exact more.le
  · exact same.ge

private theorem ahead_moreCounted (entries : List (GameId × Int)) (entry : GameId × Int) :
    ahead moreCounted entries entry = entries.countP fun other => entry.2 < other.2 := by
  apply List.countP_congr
  intro other _
  rw [decide_eq_true_iff,decide_eq_true_iff]
  exact not_le

private theorem coPurchases_get (ownerships : OwnershipTable) (userId : UserId) (owned : Finset GameId)
    (some_ : owned ≠ ∅) (limit : Nat) (gameId : GameId) (count : Int) :
    (ownerships.coPurchases userId owned limit).get gameId = some count ↔
      (gameId,count) ∈ selected moreShared limit (ownerships.shared userId owned) := by
  have read : ownerships.coPurchases userId owned limit =
      .ofList (selected moreShared limit (ownerships.shared userId owned)) := if_neg some_
  rw [read]
  apply Dict.get_ofList
  have sorted := (List.perm_insertionSort moreShared (ownerships.shared userId owned)).map Prod.fst
  exact (sorted.nodup_iff.mpr (ownerships.shared_distinct userId owned)).sublist ((List.take_sublist limit _).map _)

end OwnershipTable

namespace SameRows
variable [Casing] {store : MemoryStore R} {database : Database R width}

theorem game_rows (same : SameRows store database) :
    database.gameRows.Perm (store.games.values.map (·.toGameFields)) :=
  (Table.shown_perm_iff database.games store.games (·.toGameFields) (·.toGameFields) (·.gameId) (fun _ => rfl)
    fun _ => rfl).mp same.games

theorem popular [DecidableEq R] (same : SameRows store database) (limit : Nat) (row : GameFields R → Bool)
    (game : GameProfile R → Bool) (alike : ∀ profile, row profile.toGameFields = game profile) :
    Sql.profiles ({} : Sql.Session R width) ((sortedBy Database.popular (database.gameRows.filter row)).take limit) =
      .ok ((sortedBy TopSellersProvider.precedes (store.games.values.filter game)).take limit) := by
  have keys : ((store.games.values.filter game).map fun profile => profile.toGameFields.gameId).Nodup := by
    have all : (store.games.values.map fun profile => profile.gameId).Nodup := by
      rw [store.games.keys_values]
      exact store.games.keys_nodup
    exact all.sublist (List.filter_sublist.map _)
  have kept : (database.gameRows.filter row).Perm ((store.games.values.filter game).map (·.toGameFields)) := by
    have rows := same.game_rows.filter row
    rw [List.filter_map] at rows
    have tests : row ∘ (fun profile : GameProfile R => profile.toGameFields) = game := funext alike
    rw [tests] at rows
    exact rows
  have apart : Separates Database.popular ((store.games.values.filter game).map (·.toGameFields)) :=
    popular_separates _ (by rw [List.map_map]; exact keys)
  have sorted := popular_preorders.selected_perm limit _ _ kept.symm apart
  have mapped : ((store.games.values.filter game).insertionSort TopSellersProvider.precedes).map (·.toGameFields) =
      ((store.games.values.filter game).map (·.toGameFields)).insertionSort Database.popular :=
    List.map_insertionSort _ _ _ _ fun _ _ _ _ => Iff.rfl
  have read : (sortedBy Database.popular (database.gameRows.filter row)).take limit =
      ((sortedBy TopSellersProvider.precedes (store.games.values.filter game)).take limit).map (·.toGameFields) := by
    rw [List.map_take,sortedBy,sortedBy,mapped]
    exact sorted.symm
  rw [read]
  exact profiles_fresh _

private theorem withSignals_iff (same : SameRows store database) (limit : Nat) :
    Memory.withSignals store.preferences limit = database.withSignals limit ↔ RecentFirst store.preferences limit := by
  have rows : (database.preferences.values.map (·.toUserPreference)).Perm store.preferences.values := by
    have listed := (Table.shown_perm_iff database.preferences store.preferences (·.toUserPreference) id (·.userId)
      (fun _ => rfl) fun _ => rfl).mp fun userId => (same.preferences userId).trans Option.map_id_apply.symm
    rwa [List.map_id] at listed
  have listed : database.withSignals limit =
      (selected Database.moreActive limit (active store.preferences)).map (·.userId) := by
    have kept := rows.filter fun preference => 0 < preference.signalCount
    rw [recency_preorders.selected_perm limit (active store.preferences) _ kept.symm
      (active_separates _ recency_tied store.preferences)]
    rfl
  have back (users : List (UserPreference R)) (known : ∀ user ∈ users, user ∈ active store.preferences) :
      (users.map (·.userId)).map store.preferences.get = users.map some := by
    rw [List.map_map]
    exact List.map_congr_left fun user member => mem_active store.preferences user (known user member)
  rw [listed,← recentFirst_iff]
  constructor
  · intro equal
    have found := congrArg (List.map store.preferences.get) equal
    have first := back (selected Memory.moreActive limit (active store.preferences)) (mem_selected _ limit _)
    have second := back (selected Database.moreActive limit (active store.preferences)) (mem_selected _ limit _)
    exact List.map_injective_iff.mpr (Option.some_injective _) (first.symm.trans (found.trans second))
  · intro equal
    rw [← equal]
    rfl

private theorem acquired_rows (same : SameRows store database) (gameId : GameId) :
    ((((store.ownerships.get gameId).getD ∅).keys.filterMap fun userId => database.ownerships.get (userId,gameId)).filter
      fun row => row.counted = false).Perm
        (database.ownerships.values.filter fun row => row.gameId = gameId ∧ row.counted = false) := by
  have distinct : database.ownerships.values.Nodup := by
    have keys : (database.ownerships.values.map OwnershipRow.key).Nodup := by
      rw [database.ownerships.keys_values]
      exact database.ownerships.keys_nodup
    exact keys.of_map
  have ordered : (((store.ownerships.get gameId).getD ∅).keys.filterMap fun userId =>
      database.ownerships.get (userId,gameId)).Nodup := by
    refine (same.acquired gameId).imp fun earlier equal => ?_
    rw [equal] at earlier
    exact lt_irrefl _ earlier
  rw [List.perm_ext_iff_of_nodup (ordered.sublist List.filter_sublist) (distinct.sublist List.filter_sublist)]
  intro row
  simp only [List.mem_filter,List.mem_filterMap,decide_eq_true_eq,database.ownerships.mem_values,Dict.mem_keys]
  constructor
  · rintro ⟨⟨userId,_,found⟩,uncounted⟩
    have key : row.key = (userId,gameId) := database.ownerships.keyed _ row found
    refine ⟨?_,congrArg Prod.snd key,uncounted⟩
    rw [key]
    exact found
  · rintro ⟨found,rfl,uncounted⟩
    refine ⟨⟨row.userId,?_,found⟩,uncounted⟩
    have flag := same.ownerships row.gameId row.userId
    have known : database.ownerships.get (row.userId,row.gameId) = some row := found
    rw [known] at flag
    exact ⟨_,flag.symm⟩

theorem uncountedOwners (same : SameRows store database) (gameId : GameId) (limit : Nat) :
    Memory.uncountedOwners ({ store } : Memory.Session R) gameId limit =
      database.ownerships.uncountedOwners gameId limit := by
  let owners := (store.ownerships.get gameId).getD ∅
  have listed (entries : List (UserId × Bool)) (known : ∀ entry ∈ entries, owners.get entry.1 = some entry.2) :
      (((entries.map Prod.fst).filterMap fun userId => database.ownerships.get (userId,gameId)).filter
        fun row => row.counted = false).map (·.userId) = (entries.filter fun entry => !entry.2).map Prod.fst := by
    induction entries with
    | nil => rfl
    | cons entry rest ih =>
      have later := ih fun entry member => known entry (List.mem_cons_of_mem _ member)
      have flag := (same.ownerships gameId entry.1).trans (known entry List.mem_cons_self)
      obtain ⟨row,found,counted⟩ := Option.map_eq_some_iff.mp flag
      have key := congrArg Prod.fst (database.ownerships.keyed _ row found)
      have userId : row.userId = entry.1 := key
      simp only [List.map_cons,List.filterMap_cons,found,List.filter_cons,counted]
      cases entry.2 with
      | true => exact later
      | false =>
        simp only [decide_true,if_true,Bool.not_false,List.map_cons,later,userId]
  have sorted : sortedBy (fun first second : OwnershipRow => first.acquiredAt.micros ≤ second.acquiredAt.micros)
      (database.ownerships.values.filter fun row => row.gameId = gameId ∧ row.counted = false) =
      (owners.keys.filterMap fun userId => database.ownerships.get (userId,gameId)).filter
        fun row => row.counted = false := by
    have ascending := (same.acquired gameId).sublist (List.filter_sublist (p := fun row => decide (row.counted = false)))
    have moments : (((owners.keys.filterMap fun userId => database.ownerships.get (userId,gameId)).filter
        fun row => row.counted = false).map (·.acquiredAt.micros)).Nodup :=
      List.pairwise_map.mpr (ascending.imp fun earlier => earlier.ne)
    have settled := (Preorders.of_key fun row : OwnershipRow => row.acquiredAt.micros).sorted_perm _ _
      (same.acquired_rows gameId) (Separates.of_key _ _ moments)
    rw [sortedBy,← settled]
    exact (ascending.imp fun earlier => earlier.le).insertionSort_eq
  have pending := listed owners.entries fun entry member => (owners.mem_entries entry.1 entry.2).mp member
  unfold OwnershipTable.uncountedOwners Memory.uncountedOwners
  rw [sorted]
  simp only [List.filter_nil,List.map_nil,List.append_nil]
  rw [List.map_take,← pending]
  rfl

theorem forUser (same : SameRows store database) (userId : UserId) (limit : Nat) :
    Memory.forUser ({ store } : Memory.Session R) userId limit = database.forUser userId limit :=
  ((Preorders.of_key fun item : Recommendation R => item.rank).selected_perm limit _ _
    (same.recommendations userId) (Separates.of_key _ _
      (((same.recommendations userId).map (·.rank)).nodup_iff.mpr (same.ranks userId)))).symm

private theorem mem_ownersOf (same : SameRows store database) (userId : UserId) (gameId : GameId) :
    userId ∈ Memory.ownersOf store gameId ↔ database.ownerships.contains (userId,gameId) = true := by
  unfold Memory.ownersOf Dict.contains
  rw [List.mem_toFinset,Dict.mem_keys,← same.ownerships,Option.isSome_iff_exists]
  constructor
  · rintro ⟨flag,found⟩
    obtain ⟨row,known,_⟩ := Option.map_eq_some_iff.mp found
    exact ⟨row,known⟩
  · rintro ⟨row,known⟩
    exact ⟨row.counted,Option.map_eq_some_iff.mpr ⟨row,known,rfl⟩⟩

/-- Whatever the order of the sets, the counter of a unit of work holds the rows of the join. -/
theorem counter_shared (same : SameRows store database) (environment : Environment) (userId : UserId)
    (owned : Finset GameId) : (Memory.counter environment store userId owned).entries.Perm
      (database.ownerships.shared userId owned) := by
  have alike : Memory.owns store = database.ownerships.owns := by
    funext userId gameId
    exact propext (same.mem_ownersOf userId gameId)
  rw [List.perm_ext_iff_of_nodup (Dict.distinct _).of_map (database.ownerships.shared_distinct userId owned).of_map]
  rintro ⟨gameId,count⟩
  rw [Memory.mem_counter,database.ownerships.mem_shared,alike]

private theorem coPurchases_iff (same : SameRows store database) (userId : UserId) (owned : Finset GameId)
    (limit : Nat) : (∀ environment gameId, (Memory.coPurchases environment store userId owned limit).get gameId =
      (database.ownerships.coPurchases userId owned limit).get gameId) ↔ database.ownerships.Uncut userId owned limit := by
  by_cases none : owned = ∅
  · subst none
    refine ⟨fun _ entry member => ?_,fun _ environment gameId => rfl⟩
    obtain ⟨⟨_,_,_,_,gameId,nothing,_⟩,_⟩ := (headcount_eq_some _ _).mp ((OwnershipTable.mem_shared _ _ _ _ _).mp member)
    exact absurd nothing (Finset.notMem_empty gameId)
  have found (environment : Environment) (gameId : GameId) (count : Int) :
      (Memory.coPurchases environment store userId owned limit).get gameId = some count ↔
        (gameId,count) ∈ selected OwnershipTable.moreCounted limit (Memory.counter environment store userId owned).entries := by
    have read : Memory.coPurchases environment store userId owned limit =
        .ofList (selected OwnershipTable.moreCounted limit (Memory.counter environment store userId owned).entries) :=
      if_neg none
    rw [read]
    apply Dict.get_ofList
    have sorted := (List.perm_insertionSort OwnershipTable.moreCounted
      (Memory.counter environment store userId owned).entries).map Prod.fst
    exact (sorted.nodup_iff.mpr (Dict.distinct _)).sublist ((List.take_sublist limit _).map _)
  constructor
  · intro agree entry member
    by_contra cut
    obtain ⟨few,many⟩ := not_or.mp cut
    rw [← OwnershipTable.ahead_moreCounted] at few
    obtain ⟨⟨gameId,count⟩,shared,before,after,out⟩ := left_out_of_cut OwnershipTable.moreCounted_preorders
      OwnershipTable.moreShared_preorders OwnershipTable.moreShared_finer limit _
      (database.ownerships.shared_distinct userId owned).of_map entry member (Nat.lt_of_not_le many)
    apply out
    rw [← OwnershipTable.coPurchases_get _ _ _ none]
    obtain ⟨⟨outside,neighbour,apart,has,mine,inside,both⟩,_⟩ :=
      (headcount_eq_some _ _).mp ((OwnershipTable.mem_shared _ _ _ _ _).mp shared)
    have owns : Memory.owns store neighbour gameId := (same.mem_ownersOf neighbour gameId).mpr has
    have near : ∃ gameId ∈ owned, Memory.owns store neighbour gameId :=
      ⟨mine,inside,(same.mem_ownersOf neighbour mine).mpr both⟩
    -- a run in which this game is the first to be counted
    let environment : Environment := { Environment.fixed with
      users := Environment.fixed.users.leading neighbour
      games := Environment.fixed.games.leading gameId }
    rw [← agree environment,found]
    obtain ⟨users,firstUser⟩ := Environment.fixed.users.leading_list neighbour _
      ((Memory.mem_neighbours environment store userId owned neighbour).mpr ⟨apart,near⟩)
    obtain ⟨games,firstGame⟩ := Environment.fixed.games.leading_list gameId (Memory.ownedBy store neighbour \ owned)
      (Finset.mem_sdiff.mpr ⟨(Memory.mem_ownedBy store neighbour gameId).mpr owns,outside⟩)
    have head : Memory.encountered environment store userId owned = (neighbour :: users).flatMap fun neighbour =>
        environment.games.list (Memory.ownedBy store neighbour \ owned) :=
      congrArg (List.flatMap fun neighbour => environment.games.list (Memory.ownedBy store neighbour \ owned)) firstUser
    rw [List.flatMap_cons,firstGame,List.cons_append] at head
    obtain ⟨tally,later,entries⟩ := Memory.counter_head environment store userId owned gameId _ head
    have permuted := same.counter_shared environment userId owned
    have distinct := (permuted.map Prod.fst).nodup_iff.mpr (database.ownerships.shared_distinct userId owned)
    have counted : (gameId,count) = (gameId,tally) := List.inj_on_of_nodup_map distinct (permuted.mem_iff.mpr shared)
      (entries ▸ List.mem_cons_self) rfl
    rw [entries,← counted]
    apply selected_head
    have alike : count = entry.2 := le_antisymm after before
    rw [OwnershipTable.ahead_moreCounted,← permuted.countP_eq,entries,List.countP_cons] at few
    rw [OwnershipTable.ahead_moreCounted,alike]
    exact lt_of_le_of_lt (Nat.le_add_right _ _) (Nat.lt_of_not_le few)
  · intro uncut environment gameId
    have permuted := same.counter_shared environment userId owned
    apply Option.ext
    intro count
    rw [found,OwnershipTable.coPurchases_get _ _ _ none]
    apply selected_refined OwnershipTable.moreCounted_preorders OwnershipTable.moreShared_preorders
      OwnershipTable.moreShared_finer limit _ _ permuted
    intro entry member
    rw [ahead_perm _ _ permuted,level_perm _ _ permuted,OwnershipTable.ahead_moreCounted]
    exact uncut entry (permuted.mem_iff.mp member)

end SameRows
/-- Both backends answer the bounded reads alike. Maps are compared key by key. -/
structure SameAnswers [DecidableEq R] [Casing] (backend : Backend R) (store : MemoryStore R) (database : Database R width)
    (userId : UserId) (gameId : GameId) (owned : Finset GameId) (limit : Nat) (environment : Environment) : Prop where
  recommendable : Memory.answer environment store (.recommendable limit) = Sql.answer backend database (.recommendable limit)
  needingEmbedding : Memory.answer environment store (.needingEmbedding limit) =
    Sql.answer backend database (.needingEmbedding limit)
  withSignals : Memory.answer environment store (.withSignals limit) = Sql.answer backend database (.withSignals limit)
  uncountedOwners : Memory.answer environment store (.uncountedOwners gameId limit) =
    Sql.answer backend database (.uncountedOwners gameId limit)
  forUser : Memory.answer environment store (.forUser userId limit) = Sql.answer backend database (.forUser userId limit)
  coPurchases : ∃ counts rows : Dict GameId Int,
    Memory.answer environment store (.coPurchases userId owned limit) = .ok counts ∧
    Sql.answer backend database (.coPurchases userId owned limit) = .ok rows ∧ ∀ other, counts.get other = rows.get other

/-- The two backends answer alike, whatever the order of the sets, exactly when the sweep's batch
holds the most recently active users and the limit cuts no group of equally shared games. -/
theorem bounded_reads_agree_iff [DecidableEq R] [Casing] (backend : Backend R) (store : MemoryStore R)
    (database : Database R width) (same : SameRows store database) (userId : UserId) (gameId : GameId)
    (owned : Finset GameId) (limit : Nat) :
    (∀ environment, SameAnswers backend store database userId gameId owned limit environment) ↔
      RecentFirst store.preferences limit ∧ database.ownerships.Uncut userId owned limit := by
  rw [← same.withSignals_iff limit,← same.coPurchases_iff userId owned limit]
  constructor
  · intro answers
    refine ⟨Except.ok.inj (answers .fixed).withSignals,fun environment other => ?_⟩
    obtain ⟨counts,rows,counted,joined,agree⟩ := (answers environment).coPurchases
    cases Except.ok.inj counted
    cases Except.ok.inj joined
    exact agree other
  · rintro ⟨signals,coPurchases⟩ environment
    refine ⟨?_,?_,congrArg Except.ok signals,congrArg Except.ok (same.uncountedOwners gameId limit),
      congrArg Except.ok (same.forUser userId limit),_,_,rfl,rfl,coPurchases environment⟩
    · have read := same.popular limit (·.isPublished) (·.isPublished) fun _ => rfl
      unfold Sql.answer
      simp only [Sql.handle,Database.recommendable,read]
      rfl
    · have read := same.popular limit (fun row => row.isPublished && row.dense.isEmpty) (·.needsEmbedding) fun _ => rfl
      unfold Sql.answer
      simp only [Sql.handle,Database.needingEmbedding,read]
      rfl

section
attribute [local instance] Casing.unchanged

/-- The earlier of two buyers was last active before the later one, and owns two games more. -/
def purchases : List Event :=
  [.gamePublished ⟨1⟩ ⟨⟨1⟩⟩ ⟨⟨9⟩⟩ "Race" ["racing"] [] none "",
    .purchaseCompleted ⟨2⟩ ⟨⟨1⟩⟩ ⟨⟨1⟩⟩ (some ⟨10⟩),.purchaseCompleted ⟨3⟩ ⟨⟨2⟩⟩ ⟨⟨1⟩⟩ (some ⟨20⟩),
    .purchaseCompleted ⟨4⟩ ⟨⟨1⟩⟩ ⟨⟨2⟩⟩ none,.purchaseCompleted ⟨5⟩ ⟨⟨1⟩⟩ ⟨⟨3⟩⟩ none]

def purchasedStore : MemoryStore ℚ :=
  purchases.foldl (fun store event => (Memory.execute .fixed (event.execute 1000) store).2) {}

def purchasedGame : GameProfile ℚ := (purchasedStore.games.get ⟨⟨1⟩⟩).getD (.untitled ⟨⟨1⟩⟩)

def purchasedDatabase : Database ℚ 0 where
  games := (∅ : Table GameId (GameProfileRow ℚ 0) (·.gameId)).upsert ⟨purchasedGame.toGameFields,by decide +kernel⟩
  preferences := ((∅ : Table UserId (UserPreferenceRow ℚ 0) (·.userId)).upsert
    ⟨purchasedStore.preferenceOf ⟨⟨1⟩⟩,by decide +kernel⟩).upsert ⟨purchasedStore.preferenceOf ⟨⟨2⟩⟩,by decide +kernel⟩
  ownerships := [(⟨⟨⟨1⟩⟩,⟨⟨1⟩⟩,⟨0⟩,true⟩ : OwnershipRow),⟨⟨⟨2⟩⟩,⟨⟨1⟩⟩,⟨1⟩,true⟩,⟨⟨⟨1⟩⟩,⟨⟨2⟩⟩,⟨2⟩,false⟩,
    ⟨⟨⟨1⟩⟩,⟨⟨3⟩⟩,⟨3⟩,false⟩].foldl
    OwnershipTable.record ∅

private theorem purchased_owners : purchasedStore.ownerships = .ofList [(⟨⟨1⟩⟩,.ofList [(⟨⟨1⟩⟩,true),(⟨⟨2⟩⟩,true)]),
    (⟨⟨2⟩⟩,.ofList [(⟨⟨1⟩⟩,false)]),(⟨⟨3⟩⟩,.ofList [(⟨⟨1⟩⟩,false)])] := by decide +kernel

private theorem purchased_table : purchasedDatabase.ownerships.toDict = .ofList [((⟨⟨1⟩⟩,⟨⟨1⟩⟩),⟨⟨⟨1⟩⟩,⟨⟨1⟩⟩,⟨0⟩,true⟩),
    ((⟨⟨2⟩⟩,⟨⟨1⟩⟩),⟨⟨⟨2⟩⟩,⟨⟨1⟩⟩,⟨1⟩,true⟩),((⟨⟨1⟩⟩,⟨⟨2⟩⟩),⟨⟨⟨1⟩⟩,⟨⟨2⟩⟩,⟨2⟩,false⟩),
    ((⟨⟨1⟩⟩,⟨⟨3⟩⟩),⟨⟨⟨1⟩⟩,⟨⟨3⟩⟩,⟨3⟩,false⟩)] := by decide +kernel

private theorem purchased_rows : SameRows purchasedStore purchasedDatabase where
  games := (Table.shown_perm_iff purchasedDatabase.games purchasedStore.games (·.toGameFields) (·.toGameFields)
    (·.gameId) (fun _ => rfl) fun _ => rfl).mpr (by decide +kernel)
  preferences userId := by
    have shown := (Table.shown_perm_iff purchasedDatabase.preferences purchasedStore.preferences
      (·.toUserPreference) id (·.userId) (fun _ => rfl) fun _ => rfl).mpr (by decide +kernel) userId
    rwa [Option.map_id_apply] at shown
  ownerships gameId userId := by
    rw [purchased_owners,purchased_table]
    simp only [Dict.ofList,List.foldl_cons,List.foldl_nil,Dict.get_set,Dict.get_empty,Prod.mk.injEq]
    by_cases first : gameId = ⟨⟨1⟩⟩
    · by_cases buyer : userId = ⟨⟨1⟩⟩ <;> by_cases other : userId = ⟨⟨2⟩⟩ <;> simp_all [Dict.get_set]
    · by_cases buyer : userId = ⟨⟨1⟩⟩ <;> by_cases second : gameId = ⟨⟨2⟩⟩ <;> by_cases third : gameId = ⟨⟨3⟩⟩ <;>
        simp_all [Dict.get_set]
  acquired gameId := by
    rw [purchased_owners,purchased_table]
    by_cases first : gameId = ⟨⟨1⟩⟩
    · subst first
      decide +kernel
    by_cases second : gameId = ⟨⟨2⟩⟩
    · subst second
      decide +kernel
    by_cases third : gameId = ⟨⟨3⟩⟩
    · subst third
      decide +kernel
    simp only [Dict.ofList,List.foldl_cons,List.foldl_nil,Dict.get_set,first,second,third,if_false]
    exact .nil
  recommendations userId := by
    have stored : purchasedStore.recommendations = ∅ := by decide +kernel
    unfold Memory.listOf
    rw [stored]
    exact .nil
  ranks := Memory.Enrichment.run_ranked 1000 (fun (_ : Unit) _ => .ok [])
    (purchases.map fun event => .work ⟨.ingest event,.fixed,none⟩)

theorem bounded_reads_agree_iff_purchased :
    (∀ environment, SameAnswers (.fixed ℚ false) purchasedStore purchasedDatabase ⟨⟨3⟩⟩ ⟨⟨1⟩⟩ {⟨⟨1⟩⟩} 2 environment) ↔
      RecentFirst purchasedStore.preferences 2 ∧ purchasedDatabase.ownerships.Uncut ⟨⟨3⟩⟩ {⟨⟨1⟩⟩} 2 :=
  bounded_reads_agree_iff (.fixed ℚ false) purchasedStore purchasedDatabase purchased_rows ⟨⟨3⟩⟩ ⟨⟨1⟩⟩ {⟨⟨1⟩⟩} 2

/-- With room for one, the batch of a local run holds the buyer with the first id, and the batch of
a deployed one the buyer that was active last. -/
theorem backends_sweep_differently : ¬∀ (store : MemoryStore ℚ) (database : Database ℚ 0), SameRows store database →
    ∀ userId gameId owned limit environment,
      SameAnswers (.fixed ℚ false) store database userId gameId owned limit environment := by
  intro claim
  have batches := (claim purchasedStore purchasedDatabase purchased_rows ⟨⟨3⟩⟩ ⟨⟨1⟩⟩ {⟨⟨1⟩⟩} 1 .fixed).withSignals
  have local_ : Memory.answer .fixed purchasedStore (.withSignals 1) = .ok [⟨⟨1⟩⟩] :=
    congrArg Except.ok (by decide +kernel)
  have deployed : Sql.answer (.fixed ℚ false) purchasedDatabase (.withSignals 1) = .ok [⟨⟨2⟩⟩] :=
    congrArg Except.ok (by decide +kernel)
  rw [local_,deployed] at batches
  exact absurd (Except.ok.inj batches) (by decide)

end
end ArcadiaRecommendation
