import ArcadiaRecommendation.Memory.Service
import ArcadiaRecommendation.Memory.Agreement

/-! A sweep interleaved with ingest against the same ingest alone. The two stay alike
exactly as long as every embedding write puts back the rows it read. -/
namespace ArcadiaRecommendation
namespace Memory
variable {R : Type} [Scalar R] [Casing]

namespace Service

def alone (settings : Settings R) (store : MemoryStore R) : Action R → MemoryStore R
  | .ingest event environment => (execute environment (event.execute settings.backfillLimit) store).2
  | .generate .. | .advance .. => store

/-- A property of every state of an interleaving, beside the ingest alone, and of the
action that comes next in it. -/
def Along (settings : Settings R) (holds : Service R → MemoryStore R → Option (Action R) → Prop) :
    Service R → MemoryStore R → List (Action R) → Prop
  | service,store,[] => holds service store none
  | service,store,action :: rest => holds service store (some action) ∧
    Along settings holds (service.act settings action) (alone settings store action) rest

instance decidableAlong (settings : Settings R) (holds : Service R → MemoryStore R → Option (Action R) → Prop)
    [∀ service store action, Decidable (holds service store action)] (service : Service R) (store : MemoryStore R)
    (actions : List (Action R)) : Decidable (Along settings holds service store actions) :=
  match actions with
  | [] => inferInstanceAs (Decidable (holds service store none))
  | action :: rest =>
    have := decidableAlong settings holds (service.act settings action) (alone settings store action) rest
    inferInstanceAs (Decidable (_ ∧ _))

def Commits (settings : Settings R) (service : Service R) (store : MemoryStore R) : Option (Action R) → Prop
  | some (.ingest event environment) =>
    (execute environment (event.execute settings.backfillLimit) service.store).1 = .ok () ∧
      (execute environment (event.execute settings.backfillLimit) store).1 = .ok ()
  | _ => True

instance (settings : Settings R) (service : Service R) (store : MemoryStore R) (action : Option (Action R)) :
    Decidable (Commits settings service store action) := by
  unfold Commits
  split <;> infer_instance

/-- An embedding write finds the rows of its batch as they were read, up to dense vectors. -/
def Fresh (service : Service R) : Option (Action R) → Prop
  | some (.advance ..) =>
    match service.phase with
    | .storing pending vectors => pending.length = vectors.length → ∀ game ∈ pending,
      (service.store.games.get game.gameId).map GameProfile.sparse = some game.sparse
    | _ => True
  | _ => True

def Distinct (service : Service R) : Prop :=
  match service.phase with
  | .embedding pending | .storing pending _ => (pending.map fun game => game.gameId).Nodup
  | _ => True

private theorem ingest_distinct (backfillLimit : Nat) (service : Service R) (event : Event) (environment : Environment)
    (distinct : service.Distinct) : (service.ingest backfillLimit event environment).Distinct := by
  unfold Distinct
  rw [ingest_phase]
  exact distinct

theorem advance_distinct (refresh : Refresh R) (service : Service R) (environment : Environment)
    (provider : List String → Except Fault (List (List R))) (distinct : service.Distinct) :
    (service.advance refresh environment provider).Distinct := by
  unfold Distinct at distinct
  unfold advance
  cases phase : service.phase with
  | finished report => trivial
  | starting =>
    simp only [Phase.advance,execute_pending]
    split
    · trivial
    · cases pending : needingEmbedding service.store.games refresh.embeddingBatchSize with
      | nil => trivial
      | cons first rest =>
        have distinct := needingEmbedding_distinct service.store.games refresh.embeddingBatchSize
        rw [pending] at distinct
        exact distinct
  | embedding pending =>
    rw [phase] at distinct
    simp only [Phase.advance]
    split
    · exact distinct
    · trivial
  | storing pending vectors =>
    simp only [Phase.advance]
    split <;> trivial
  | listing => trivial
  | generating users processed written =>
    cases users with
    | nil => trivial
    | cons userId rest =>
      simp only [Phase.advance]
      split <;> trivial

theorem act_distinct (settings : Settings R) (service : Service R) (action : Action R) (distinct : service.Distinct) :
    (service.act settings action).Distinct := by
  cases action with
  | ingest event environment => exact ingest_distinct settings.backfillLimit service event environment distinct
  | generate generation userId limit environment => exact distinct
  | advance environment provider => exact advance_distinct settings.refresh service environment provider distinct

private theorem generated_agree (service : Service R) (environment : Environment) (generation : Generation R)
    (userId : UserId) (limit : Nat) : Agree
      (execute environment (GenerateRecommendations.execute generation userId limit) service.store).2 service.store := by
  cases ran : execute environment (GenerateRecommendations.execute generation userId limit) service.store with
  | mk result after =>
    cases result with
    | error fault =>
      rw [execute_generated_raised environment generation userId limit service.store after fault ran]
      exact .refl service.store
    | ok written =>
      obtain ⟨_,ownerships,swept⟩ := execute_generated environment generation userId limit service.store after written ran
      exact ⟨swept.games,swept.preferences,ownerships,swept.processed⟩

private theorem storing_rows (service : Service R) (refresh : Refresh R) (environment : Environment)
    (provider : List String → Except Fault (List (List R))) (pending : List (GameProfile R)) (vectors : List (List R))
    (phase : service.phase = .storing pending vectors) (lengths : pending.length = vectors.length) :
    ∃ games, (service.advance refresh environment provider).store = { service.store with games := games } ∧
      ∀ gameId, (∃ game ∈ pending, game.gameId = gameId ∧ ∃ dense, games.get gameId = some (game.embedded dense)) ∨
        (∀ game ∈ pending, game.gameId ≠ gameId) ∧ games.get gameId = service.store.games.get gameId := by
  obtain ⟨after,ran⟩ := (execute_embedded_iff environment pending vectors service.store).mpr lengths
  obtain ⟨games,same,rows⟩ := execute_embedded environment pending vectors service.store after ran
  refine ⟨games,?_,rows⟩
  unfold advance
  rw [phase]
  simp only [Phase.advance,ran]
  exact same

/-- Outside an embedding write the sweep changes dense vectors, lists and outbox only, and
an embedding write does if its batch is fresh. -/
theorem advance_agree (refresh : Refresh R) (service : Service R) (environment : Environment)
    (provider : List String → Except Fault (List (List R)))
    (fresh : service.Fresh (some (.advance environment provider))) :
    Agree (service.advance refresh environment provider).store service.store := by
  unfold Fresh at fresh
  cases phase : service.phase with
  | storing pending vectors =>
    rw [phase] at fresh
    by_cases lengths : pending.length = vectors.length
    · obtain ⟨games,same,rows⟩ := storing_rows service refresh environment provider pending vectors phase lengths
      rw [same]
      refine ⟨fun gameId => ?_,fun _ => rfl,rfl,rfl⟩
      rcases rows gameId with ⟨game,member,key,dense,found⟩ | ⟨_,found⟩
      · rw [found,← key]
        exact (fresh lengths game member).symm
      · rw [found]
    · have refused : (service.advance refresh environment provider).store = service.store := by
        unfold advance
        rw [phase]
        simp only [Phase.advance]
        split
        · rename_i after ran
          exact absurd ((execute_embedded_iff environment pending vectors service.store).mp ⟨after,ran⟩) lengths
        · rename_i fault after ran
          exact execute_embedded_raised environment pending vectors service.store after fault ran
      rw [refused]
      exact .refl service.store
  | finished report =>
    unfold advance
    rw [phase]
    exact .refl service.store
  | starting =>
    unfold advance
    rw [phase]
    simp only [Phase.advance,execute_pending]
    split
    · exact .refl service.store
    · cases needingEmbedding service.store.games refresh.embeddingBatchSize with
      | nil => exact .refl service.store
      | cons first rest => exact .refl service.store
  | embedding pending =>
    unfold advance
    rw [phase]
    simp only [Phase.advance]
    split <;> exact .refl service.store
  | listing =>
    unfold advance
    rw [phase]
    exact .refl service.store
  | generating users processed written =>
    unfold advance
    rw [phase]
    cases users with
    | nil => exact .refl service.store
    | cons userId rest =>
      have kept := generated_agree service environment refresh.generation userId refresh.limit
      simp only [Phase.advance]
      split
      · rename_i count after ran
        rwa [ran] at kept
      · rename_i fault after ran
        rwa [ran] at kept

private theorem fresh_of_agree (refresh : Refresh R) (service : Service R) (environment : Environment)
    (provider : List String → Except Fault (List (List R))) (distinct : service.Distinct)
    (agree : Agree (service.advance refresh environment provider).store service.store) :
    service.Fresh (some (.advance environment provider)) := by
  unfold Fresh
  unfold Distinct at distinct
  cases phase : service.phase with
  | storing pending vectors =>
    rw [phase] at distinct
    intro lengths game member
    obtain ⟨games,same,rows⟩ := storing_rows service refresh environment provider pending vectors phase lengths
    rw [same] at agree
    rcases rows game.gameId with ⟨other,inside,key,dense,found⟩ | ⟨absent,_⟩
    · have equal : other = game := List.inj_on_of_nodup_map distinct inside member key
      have kept : (games.get game.gameId).map GameProfile.sparse =
          (service.store.games.get game.gameId).map GameProfile.sparse := agree.games game.gameId
      rw [← kept,found,equal]
      rfl
    · exact absurd rfl (absent game member)
  | finished report => trivial
  | starting => trivial
  | embedding pending => trivial
  | listing => trivial
  | generating users processed written => trivial

theorem act_agree (settings : Settings R) (service : Service R) (store : MemoryStore R) (action : Action R)
    (commits : Commits settings service store (some action)) (agree : Agree service.store store)
    (fresh : service.Fresh (some action)) :
    Agree (service.act settings action).store (alone settings store action) := by
  cases action with
  | ingest event environment =>
    obtain ⟨here,there⟩ := commits
    show Agree (service.ingest settings.backfillLimit event environment).store
      (execute environment (event.execute settings.backfillLimit) store).2
    unfold ingest
    cases left : execute environment (event.execute settings.backfillLimit) service.store with
    | mk leftResult leftAfter =>
      cases right : execute environment (event.execute settings.backfillLimit) store with
      | mk rightResult rightAfter =>
        rw [left] at here
        rw [right] at there
        simp only at here there
        subst here
        subst there
        exact agree.ingested settings.backfillLimit environment event left right
  | generate generation userId limit environment =>
    exact (generated_agree service environment generation userId limit).trans agree
  | advance environment provider => exact (advance_agree settings.refresh service environment provider fresh).trans agree

/-- From any two stores that are alike, the interleaving stays alike to the ingest alone
exactly when each embedding write finds the rows of its batch as they were read. -/
theorem along_agree_iff (settings : Settings R) (actions : List (Action R)) (service : Service R)
    (store : MemoryStore R) (distinct : service.Distinct) (agree : Agree service.store store)
    (commits : Along settings (Commits settings) service store actions) :
    Along settings (fun service store _ => Agree service.store store) service store actions ↔
      Along settings (fun service _ action => service.Fresh action) service store actions := by
  induction actions generalizing service store with
  | nil => exact ⟨fun _ => trivial,fun _ => agree⟩
  | cons action rest ih =>
    obtain ⟨first,others⟩ := commits
    have kept := act_distinct settings service action distinct
    constructor
    · intro alike
      have next : Agree (service.act settings action).store (alone settings store action) := by
        have later := alike.2
        cases rest with
        | nil => exact later
        | cons following rest => exact later.1
      have fresh : service.Fresh (some action) := by
        cases action with
        | ingest event environment => trivial
        | generate generation userId limit environment => trivial
        | advance environment provider =>
          exact fresh_of_agree settings.refresh service environment provider distinct (next.trans agree.symm)
      exact ⟨fresh,(ih _ _ kept next others).mp alike.2⟩
    · intro fresh
      have next := act_agree settings service store action first agree fresh.1
      exact ⟨agree,(ih _ _ kept next others).mpr fresh.2⟩

end Service

/-- A sweep, or any number of them, interleaved with committed ingest leaves in every state
what the ingest alone leaves, up to dense vectors, lists and outbox, exactly when no row of
a batch was changed between the read phase of its embedding pass and the write phase. -/
theorem sweep_frames_ingest_iff (settings : Settings R) (start : MemoryStore R) (actions : List (Action R))
    (commits : Service.Along settings (Service.Commits settings) { store := start } start actions) :
    Service.Along settings (fun service store _ => Agree service.store store) { store := start } start actions ↔
      Service.Along settings (fun service _ action => service.Fresh action) { store := start } start actions :=
  Service.along_agree_iff settings actions { store := start } start trivial (.refl start) commits

end Memory

namespace Memory
attribute [local instance] Casing.unchanged

/-- The next part of the sweep, with a provider that gives every text the same vector. -/
def raceAdvanced : Action ℚ := .advance .fixed fun texts => .ok (texts.map fun _ => [1])

def raceWithdrawn : Action ℚ := .ingest (.gameWithdrawn ⟨5⟩ ⟨⟨1⟩⟩) .fixed

theorem sweep_frames_ingest_iff_undisturbed :
    Service.Along deployed (fun service store _ => Agree service.store store) { store := {} } {}
        [racePublished,raceAdvanced,raceAdvanced,raceAdvanced,raceWithdrawn] ↔
      Service.Along deployed (fun service _ action => service.Fresh action) { store := {} } {}
        [racePublished,raceAdvanced,raceAdvanced,raceAdvanced,raceWithdrawn] :=
  sweep_frames_ingest_iff deployed {} [racePublished,raceAdvanced,raceAdvanced,raceAdvanced,raceWithdrawn]
    (by decide +kernel)

/-- A game withdrawn while its vector is being computed is published again by the write. -/
theorem sweep_resurrects_withdrawn : ¬∀ (start : MemoryStore ℚ) (actions : List (Action ℚ)),
    Service.Along deployed (Service.Commits deployed) { store := start } start actions →
      ∀ gameId, ((actions.foldl (Service.act deployed) { store := start }).store.games.get gameId).map
          (fun game => game.isPublished) =
        ((actions.foldl (Service.alone deployed) start).games.get gameId).map fun game => game.isPublished := by
  intro claim
  have same := claim {} [racePublished,raceAdvanced,raceAdvanced,raceWithdrawn,raceAdvanced] (by decide +kernel) ⟨⟨1⟩⟩
  exact absurd same (by decide +kernel)

end Memory
end ArcadiaRecommendation
