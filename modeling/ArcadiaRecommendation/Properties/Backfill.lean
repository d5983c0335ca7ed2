import ArcadiaRecommendation.Memory.Service
import ArcadiaRecommendation.ReadModel.Steps

/-! A publication credits every owner who bought the game before it, as long as they
are no more than the backfill limit. What it leaves out stays uncounted. -/
namespace ArcadiaRecommendation

namespace ReadModel
variable {R : Type} [Scalar R] [Casing]

def Complete (model : ReadModel R) : Prop :=
  ∀ gameId, model.games gameId ≠ none → ∀ userId, model.ownership userId gameId ≠ some false

variable {backfillLimit : Nat} {before after : ReadModel R} {event : Event}

private theorem complete_unchanged (complete : before.Complete)
    (games : ∀ gameId, after.games gameId ≠ none → before.games gameId ≠ none)
    (ownership : after.ownership = before.ownership) : after.Complete := by
  intro gameId known userId
  rw [ownership]
  exact complete gameId (games gameId known) userId

private theorem update_known {gameId : GameId} {game current : GameProfile R}
    (known : before.games gameId = some current) (games : after.games = Function.update before.games gameId (some game))
    (other : GameId) (present : after.games other ≠ none) : before.games other ≠ none := by
  by_cases same : other = gameId
  · rw [same,known]
    exact Option.some_ne_none current
  · rwa [games,Function.update_of_ne same] at present

theorem handled_complete (effect : Effect backfillLimit before after event) (complete : before.Complete)
    (fits : ∀ gameId, event.publishes gameId = true → ∀ owners : List UserId, owners.Nodup →
      (∀ userId, userId ∈ owners ↔ before.ownership userId gameId = some false) → owners.length ≤ backfillLimit) :
    after.Complete := by
  cases effect with
  | published eventId gameId developerId title genres tags publishedAt description game users at_ described owed games
      observed recorded =>
    obtain ⟨owners,distinct,uncounted,cut⟩ := owed
    have all : users = owners := by
      rw [cut]
      exact List.take_of_length_le (fits gameId (decide_eq_true rfl) owners distinct uncounted)
    intro other known userId
    rw [recorded userId other]
    by_cases same : other = gameId
    · by_cases member : userId ∈ users
      · simp [same,member]
      · have counted := fun row => member (all ▸ (uncounted userId).mpr row)
        rw [same,if_neg fun both => member both.2]
        exact counted
    · rw [if_neg fun both => same both.1]
      rw [games,Function.update_of_ne same] at known
      exact complete other known userId
  | withdrawnUnknown eventId gameId unknown games preferences ownership =>
    exact complete_unchanged complete (fun other => by rw [games]; exact id) ownership
  | withdrawn eventId gameId game known games preferences ownership =>
    exact complete_unchanged complete (update_known known games) ownership
  | purchasedUnknown eventId owner gameId occurredAt unknown games preferences recorded =>
    intro other known userId
    rw [games] at known
    have apart : other ≠ gameId := fun same => known (same ▸ unknown)
    rw [recorded userId other,if_neg fun both => apart both.1]
    exact complete other known userId
  | purchased eventId owner gameId occurredAt game at_ known games observed recorded =>
    intro other present userId
    rw [recorded userId other]
    split
    · simp
    · exact complete other (update_known known games other present) userId
  | reviewedUnknown eventId author gameId liked occurredAt unknown games preferences ownership =>
    exact complete_unchanged complete (fun other => by rw [games]; exact id) ownership
  | reviewed eventId author gameId liked occurredAt game at_ known games observed ownership =>
    exact complete_unchanged complete (fun other => by rw [games]; exact id) ownership

theorem swept_complete (swept : before.Swept after) (complete : before.Complete) : after.Complete := by
  apply complete_unchanged complete _ swept.ownership
  intro gameId known absent
  exact known ((swept.known gameId).mpr absent)

private theorem complete_fits (effect : Effect backfillLimit before after event) (complete : after.Complete)
    {gameId : GameId} (publication : event.publishes gameId = true) {owners : List UserId} (distinct : owners.Nodup)
    (uncounted : ∀ userId ∈ owners, before.ownership userId gameId = some false) :
    owners.length ≤ backfillLimit := by
  cases effect with
  | published eventId published developerId title genres tags publishedAt description game users at_ described owed games
      observed recorded =>
    have same : published = gameId := of_decide_eq_true publication
    subst same
    have known : after.games published ≠ none := by
      rw [games,Function.update_self]
      exact Option.some_ne_none game
    have credited : owners ⊆ users := by
      intro userId member
      by_contra absent
      apply complete published known userId
      rw [recorded userId published,if_neg fun both => absent both.2]
      exact uncounted userId member
    obtain ⟨all,_,_,cut⟩ := owed
    have shorter := (distinct.subperm credited).length_le
    rw [cut] at shorter
    exact shorter.trans (List.length_take_le backfillLimit all)
  | withdrawnUnknown => cases publication
  | withdrawn => cases publication
  | purchasedUnknown => cases publication
  | purchased => cases publication
  | reviewedUnknown => cases publication
  | reviewed => cases publication

end ReadModel

namespace Memory
variable {R : Type} [Scalar R] [Casing]

/-- No ownership row of a known game is left uncounted. -/
def Credited (store : MemoryStore R) : Prop :=
  ∀ gameId, store.games.get gameId ≠ none → store.uncounted gameId = []

private theorem credited_iff (store : MemoryStore R) : Credited store ↔ store.readModel.Complete := by
  constructor
  · intro credited gameId known userId row
    have member := (store.mem_uncounted gameId userId).mpr row
    rw [credited gameId known] at member
    cases member
  · intro complete gameId known
    apply List.eq_nil_iff_forall_not_mem.mpr
    intro userId member
    exact complete gameId known userId ((store.mem_uncounted gameId userId).mp member)

private theorem moved_credited (backfillLimit : Nat) (before after : Service R)
    (moved : Service.Moved backfillLimit before after) (credited : Credited before.store)
    (fits : ∀ event gameId, after.handled = before.handled ++ [event] → event.publishes gameId = true →
      (before.store.uncounted gameId).length ≤ backfillLimit) : Credited after.store := by
  rw [credited_iff] at credited ⊢
  cases moved with
  | idle handled store => rwa [store]
  | swept handled step => exact ReadModel.swept_complete step credited
  | handled event handled step =>
    apply ReadModel.handled_complete step.effect credited
    intro gameId publication owners distinct uncounted
    have same : owners.Perm (before.store.uncounted gameId) := by
      apply (List.perm_ext_iff_of_nodup distinct (before.store.uncounted_nodup gameId)).mpr
      intro userId
      rw [uncounted userId,before.store.mem_uncounted]
    rw [same.length_eq]
    exact fits event gameId handled publication

/-- Backfill is complete throughout a run exactly when no publication of the run finds
more uncounted owners than the limit. -/
theorem backfill_complete_iff (settings : Settings R) (actions : List (Action R)) :
    (∀ earlier later, actions = earlier ++ later → Credited (Service.run settings earlier).store) ↔
      ∀ earlier action later, actions = earlier ++ action :: later → ∀ event gameId,
        (Service.run settings (earlier ++ [action])).handled = (Service.run settings earlier).handled ++ [event] →
        event.publishes gameId = true →
        ((Service.run settings earlier).store.uncounted gameId).length ≤ settings.backfillLimit := by
  constructor
  · intro credited earlier action later split event gameId handled publication
    have complete := (credited_iff _).mp (credited (earlier ++ [action]) later (by rw [split,List.append_assoc]; rfl))
    cases Service.run_moved settings earlier action with
    | idle same store =>
      rw [same] at handled
      exact absurd handled (by simp)
    | swept same step =>
      rw [same] at handled
      exact absurd handled (by simp)
    | handled other same step =>
      rw [same] at handled
      have equal : other = event := List.singleton_injective (List.append_cancel_left handled)
      subst equal
      apply ReadModel.complete_fits step.effect complete publication (MemoryStore.uncounted_nodup _ gameId)
      intro userId member
      exact (MemoryStore.mem_uncounted _ gameId userId).mp member
  · intro fits earlier
    induction earlier using List.reverseRecOn with
    | nil =>
      intro later split gameId known
      exact (known rfl).elim
    | append_singleton before action ih =>
      intro later split
      rw [List.append_assoc] at split
      apply moved_credited settings.backfillLimit _ _ (Service.run_moved settings before action) (ih _ split)
      intro event gameId handled publication
      exact fits before action later split event gameId handled publication

end Memory

namespace Memory
attribute [local instance] Casing.unchanged

def crowd (size : Nat) : List (Action ℚ) :=
  (List.range size).map fun place => .ingest
    (.purchaseCompleted ⟨BitVec.ofNat 128 (1000 + place)⟩ ⟨⟨BitVec.ofNat 128 place⟩⟩ ⟨⟨1⟩⟩ none) .fixed

structure Waiting (size : Nat) (service : Service ℚ) : Prop where
  phase : service.phase = .starting
  games : service.store.games = ∅
  processed : ∀ eventId ∈ service.store.processedEvents,
    1000 ≤ eventId.bits.toNat ∧ eventId.bits.toNat < 1000 + size
  uncounted : ∀ userId, (flag service.store.ownerships userId ⟨⟨1⟩⟩).getD false = false
  rows : ∀ place, place < size → flag service.store.ownerships ⟨⟨BitVec.ofNat 128 place⟩⟩ ⟨⟨1⟩⟩ = some false

private theorem waiting_crowd (size : Nat) (small : size < 2^64) :
    Waiting size (Service.run deployed (crowd size)) := by
  induction size with
  | zero => exact ⟨rfl,rfl,fun eventId member => (Finset.notMem_empty eventId member).elim,
      fun _ => rfl,fun place bound => absurd bound (Nat.not_lt_zero place)⟩
  | succ size ih =>
    have waiting := ih (by omega)
    generalize reached : Service.run deployed (crowd size) = service at waiting
    have fresh : (⟨BitVec.ofNat 128 (1000 + size)⟩ : UUID) ∉ service.store.processedEvents := by
      intro member
      have bound := (waiting.processed _ member).2
      rw [BitVec.toNat_ofNat,Nat.mod_eq_of_lt (by omega)] at bound
      omega
    have step : Service.run deployed (crowd (size + 1)) =
        { service with
          store := (service.store.own ⟨⟨BitVec.ofNat 128 size⟩⟩ ⟨⟨1⟩⟩ false).remember ⟨BitVec.ofNat 128 (1000 + size)⟩
          handled := service.handled ++ [.purchaseCompleted ⟨BitVec.ofNat 128 (1000 + size)⟩
            ⟨⟨BitVec.ofNat 128 size⟩⟩ ⟨⟨1⟩⟩ none] } := by
      simp only [crowd,List.range_succ,List.map_append,List.map_singleton] at reached ⊢
      rw [Service.run_append,reached]
      simp only [List.foldl_cons,List.foldl_nil,Service.actAlone,waiting.phase,Phase.idle,if_true,Service.act,
        Service.ingest,execute_ingest,ingest,Event.eventId,fresh,if_false,effect,waiting.games,Table.get_empty,
        Except.map,resultOf]
    rw [step]
    refine ⟨waiting.phase,waiting.games,?_,?_,?_⟩
    · intro eventId member
      rcases Finset.mem_insert.mp member with rfl | old
      · rw [BitVec.toNat_ofNat,Nat.mod_eq_of_lt (by omega)]
        omega
      · have bounds := waiting.processed eventId old
        omega
    · intro userId
      show (flag (recordRow service.store.ownerships _) userId _).getD false = false
      rw [flag_recordRow]
      split
      · rw [waiting.uncounted userId]
        rfl
      · exact waiting.uncounted userId
    · intro place bound
      show flag (recordRow service.store.ownerships _) _ _ = some false
      rw [flag_recordRow,waiting.uncounted]
      split
      · rfl
      · rename_i apart
        apply waiting.rows place
        have other : place ≠ size := fun same => apart ⟨rfl,by rw [same]⟩
        omega

theorem race_described : ∃ game : GameProfile ℚ,
    HandleGamePublished.describe none ⟨⟨1⟩⟩ ⟨⟨9⟩⟩ "Race" ["racing"] [] none "" = .ok game ∧ game.dense = .empty := by
  have built : ((HandleGamePublished.describe none ⟨⟨1⟩⟩ ⟨⟨9⟩⟩ "Race" ["racing"] [] none "" :
      Except InvariantViolation (GameProfile ℚ)).map fun game => game.dense) = .ok .empty := by decide +kernel
  cases done : (HandleGamePublished.describe none ⟨⟨1⟩⟩ ⟨⟨9⟩⟩ "Race" ["racing"] [] none "" :
      Except InvariantViolation (GameProfile ℚ)) with
  | error rule =>
    rw [done] at built
    cases built
  | ok game =>
    rw [done] at built
    exact ⟨game,rfl,Except.ok.inj built⟩

private theorem crowd_published (size : Nat) (small : size < 2^64) :
    ∃ after, effect deployed.backfillLimit .fixed (Service.run deployed (crowd size)).store
        (.gamePublished ⟨2⟩ ⟨⟨1⟩⟩ ⟨⟨9⟩⟩ "Race" ["racing"] [] none "") = .ok after ∧
      (Service.run deployed (crowd size ++ [racePublished])).store = after.remember ⟨2⟩ := by
  have waiting := waiting_crowd size small
  generalize reached : Service.run deployed (crowd size) = service at waiting ⊢
  obtain ⟨game,described,unembedded⟩ := race_described
  obtain ⟨staged,credited⟩ := creditAll_unembedded service.store.preferences game (Environment.fixed.clock 0)
    ((service.store.uncounted game.gameId).take deployed.backfillLimit) ∅ unembedded
  have fresh : (⟨2⟩ : UUID) ∉ service.store.processedEvents := by
    intro member
    have bound := (waiting.processed _ member).1
    exact absurd bound (by decide)
  have done : effect deployed.backfillLimit .fixed service.store
      (.gamePublished ⟨2⟩ ⟨⟨1⟩⟩ ⟨⟨9⟩⟩ "Race" ["racing"] [] none "") =
        backfilled service.store deployed.backfillLimit game (Environment.fixed.clock 0) := by
    simp only [effect,waiting.games,Table.get_empty,described]
  simp only [backfilled,credited] at done
  refine ⟨_,done,?_⟩
  rw [Service.run_append,reached]
  simp only [racePublished,List.foldl_cons,List.foldl_nil,Service.actAlone,waiting.phase,Phase.idle,if_true,
    Service.act,Service.ingest,execute_ingest,ingest,Event.eventId,fresh,if_false,done,Except.map,resultOf]

private theorem crowd_fits (size : Nat) (small : size < 2^64)
    (credited : Credited (Service.run deployed (crowd size ++ [racePublished])).store) :
    size ≤ deployed.backfillLimit := by
  have waiting := waiting_crowd size small
  obtain ⟨after,done,last⟩ := crowd_published size small
  rw [last,credited_iff] at credited
  have distinct : ((List.range size).map fun place => (⟨⟨BitVec.ofNat 128 place⟩⟩ : UserId)).Nodup := by
    apply List.Nodup.map_on _ List.nodup_range
    intro first inFirst second inSecond same
    have bits := congrArg (fun userId : UserId => userId.value.bits.toNat) same
    have firstSmall := List.mem_range.mp inFirst
    have secondSmall := List.mem_range.mp inSecond
    simp only [BitVec.toNat_ofNat] at bits
    omega
  have publication : Event.publishes ⟨⟨1⟩⟩ (.gamePublished ⟨2⟩ ⟨⟨1⟩⟩ ⟨⟨9⟩⟩ "Race" ["racing"] [] none "") = true := by
    decide
  have fits := ReadModel.complete_fits (effect_refines _ _ _ _ _ done).1 credited publication distinct
  rw [List.length_map,List.length_range] at fits
  apply fits
  intro userId member
  obtain ⟨place,inRange,same⟩ := List.mem_map.mp member
  rw [← same]
  exact waiting.rows place (List.mem_range.mp inRange)

/-- With 501 owners waiting, the publication of their game leaves one of them out. -/
theorem crowd_outgrows_backfill : ¬∀ (actions : List (Action ℚ)) (gameId : GameId),
    (Service.run deployed actions).store.games.get gameId ≠ none →
      (Service.run deployed actions).store.uncounted gameId = [] := by
  intro claim
  have fits := crowd_fits 501 (by omega) (claim (crowd 501 ++ [racePublished]))
  have limit : deployed.backfillLimit = 500 := rfl
  omega

end Memory
end ArcadiaRecommendation
