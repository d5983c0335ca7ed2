import ArcadiaRecommendation.Domain.Preference

/-! The rebuilt dense taste: it is the sum of the remembered actions, as if every game had had its
present vector when they were observed. -/
namespace ArcadiaRecommendation

structure Observation (R : Type) [Scalar R] [Casing] where
  game : GameProfile R
  kind : SignalKind
  at_ : DateTime

section
variable {R : Type} [Scalar R] [Casing]

namespace Observation

def record (observation : Observation R) : SignalRecord R := ⟨observation.game.gameId,weightOf observation.kind⟩

def within (space : Dict GameId (DenseEmbedding R)) (observation : Observation R) : Observation R :=
  { observation with game := observation.game.embedded ((space.get observation.game.gameId).getD .empty) }

def recent (observations : List (Observation R)) : List (Observation R) :=
  observations.drop (observations.length - Limits.maxSignalHistory)

end Observation

namespace UserPreference

def observeAll (preference : UserPreference R) (observations : List (Observation R)) :
    Except InvariantViolation (UserPreference R) :=
  observations.foldlM (fun preference observation =>
    preference.observe observation.game observation.kind observation.at_) preference

omit [Scalar R] [Casing] in
private theorem newest_append (records later : List (SignalRecord R)) :
    newest (newest records ++ later) = newest (records ++ later) := by
  unfold newest
  generalize Limits.maxSignalHistory = bound
  rw [← List.drop_append_of_le_length (Nat.sub_le records.length bound),List.drop_drop,List.length_drop]
  congr 1
  simp only [List.length_append]
  omega

private theorem observeAll_history (preference after : UserPreference R) (observations : List (Observation R))
    (observed : preference.observeAll observations = .ok after) (kept : newest preference.history = preference.history) :
    after.history = newest (preference.history ++ observations.map (·.record)) := by
  induction observations generalizing preference with
  | nil =>
    cases Except.ok.inj observed
    rw [List.map_nil,List.append_nil,kept]
  | cons observation rest ih =>
    rw [observeAll,List.foldlM_cons] at observed
    cases first : preference.observe observation.game observation.kind observation.at_ with
    | error rule =>
      rw [first] at observed
      cases observed
    | ok next =>
      rw [first] at observed
      obtain ⟨_,_,same⟩ := observe_ok preference next observation.game observation.kind observation.at_ first
      have history : next.history = newest (preference.history ++ [observation.record]) := by
        rw [same,Observation.record]
      have settled : newest next.history = next.history := by
        have twice := newest_append (preference.history ++ [observation.record]) []
        rwa [List.append_nil,List.append_nil,← history] at twice
      rw [ih next observed settled,history,newest_append,List.append_assoc]
      rfl

private theorem observeAll_dense (preference : UserPreference R) (observations : List (Observation R)) :
    (preference.observeAll observations).map (·.tasteDense) = observations.foldlM (fun taste observation =>
      taste.plus observation.game.dense (weightOf observation.kind)) preference.tasteDense := by
  induction observations generalizing preference with
  | nil => rfl
  | cons observation rest ih =>
    rw [observeAll,List.foldlM_cons,List.foldlM_cons]
    cases added : preference.tasteDense.plus observation.game.dense (weightOf observation.kind) with
    | error rule =>
      simp only [observe,added]
      rfl
    | ok sum =>
      simp only [observe,added]
      exact ih _

private theorem observeAll_sized (width : Nat) (preference : UserPreference R) (observations : List (Observation R))
    (taste : preference.tasteDense.Sized width) (sized : ∀ observation ∈ observations, observation.game.dense.Sized width) :
    ∃ after, preference.observeAll observations = .ok after := by
  obtain ⟨after,observed,_⟩ := foldlM_invariant (fun (preference : UserPreference R) (observation : Observation R) =>
    preference.observe observation.game observation.kind observation.at_) (fun preference =>
    preference.tasteDense.Sized width) observations (fun preference observation member taste =>
    observe_sized width preference observation.game observation.kind observation.at_ taste (sized observation member))
    preference taste
  exact ⟨after,observed⟩

private theorem rebuiltIn_folds (preference : UserPreference R) (space : Dict GameId (DenseEmbedding R))
    (observations : List (Observation R)) (history : preference.history = observations.map (·.record)) :
    preference.rebuiltIn space = (((blank preference.userId).observeAll (observations.map (·.within space))).map
      (·.tasteDense)).map fun tasteDense => { preference with tasteDense } := by
  rw [rebuiltIn_eq,observeAll_dense,history,List.foldlM_map,List.foldlM_map]
  rfl

end UserPreference

/-- Rebuilding is having known the vectors all along. -/
theorem rebuilt_from_recent (width : Nat) (userId : UserId) (observations : List (Observation R))
    (sized : ∀ observation ∈ observations, observation.game.dense.Sized width) (space : Dict GameId (DenseEmbedding R))
    (known : ∀ gameId vector, space.get gameId = some vector → vector.Sized width) :
    ∃ preference rebuilt folded, (UserPreference.blank userId).observeAll observations = .ok preference ∧
      preference.history = (Observation.recent observations).map (·.record) ∧
      preference.rebuiltIn space = .ok rebuilt ∧
      (UserPreference.blank userId).observeAll ((Observation.recent observations).map (·.within space)) = .ok folded ∧
      rebuilt = { preference with tasteDense := folded.tasteDense } := by
  obtain ⟨preference,observed⟩ := UserPreference.observeAll_sized width (.blank userId) observations (.inl rfl) sized
  have history : preference.history = (Observation.recent observations).map (·.record) := by
    rw [UserPreference.observeAll_history _ preference observations observed List.drop_nil]
    simp only [UserPreference.blank,UserPreference.newest,Observation.recent,List.nil_append,List.length_map,List.map_drop]
  obtain ⟨folded,refolded⟩ := UserPreference.observeAll_sized width (.blank userId)
    ((Observation.recent observations).map (·.within space)) (.inl rfl) (by
      intro observation member
      obtain ⟨original,_,rfl⟩ := List.mem_map.mp member
      show ((space.get original.game.gameId).getD .empty).Sized width
      cases found : space.get original.game.gameId with
      | none => exact .inl rfl
      | some vector => exact known _ vector found)
  have rebuilt := UserPreference.rebuiltIn_folds preference space (Observation.recent observations) history
  have dense := congrArg (fun result => result.map UserPreference.tasteDense) refolded
  have anyone : ((UserPreference.blank preference.userId).observeAll
      ((Observation.recent observations).map (·.within space))).map (·.tasteDense) = .ok folded.tasteDense := by
    rw [UserPreference.observeAll_dense] at dense ⊢
    exact dense
  rw [anyone] at rebuilt
  exact ⟨preference,_,folded,observed,history,rebuilt,refolded,rfl⟩

end

section
attribute [local instance] Casing.unchanged

/-- The game is bought and liked before it has a vector, and the vector is there on the next sweep. -/
theorem rebuilt_from_recent_late :
    let observations : List (Observation ℚ) := [⟨.untitled ⟨⟨1⟩⟩,.purchase,⟨0⟩⟩,⟨.untitled ⟨⟨1⟩⟩,.reviewLike,⟨1⟩⟩]
    let space : Dict GameId (DenseEmbedding ℚ) := .ofList [(⟨⟨1⟩⟩,⟨[1,2]⟩)]
    ∃ preference rebuilt folded, (UserPreference.blank ⟨⟨7⟩⟩).observeAll observations = .ok preference ∧
      preference.history = (Observation.recent observations).map (·.record) ∧
      preference.rebuiltIn space = .ok rebuilt ∧
      (UserPreference.blank ⟨⟨7⟩⟩).observeAll ((Observation.recent observations).map (·.within space)) = .ok folded ∧
      rebuilt = { preference with tasteDense := folded.tasteDense } := by
  refine rebuilt_from_recent 2 ⟨⟨7⟩⟩ _ ?_ _ ?_
  · intro observation member
    simp only [List.mem_cons,List.not_mem_nil,or_false] at member
    rcases member with rfl | rfl <;> exact .inl rfl
  · intro gameId vector found
    rw [Dict.ofList,List.foldl_cons,List.foldl_nil,Dict.get_set] at found
    split at found
    · rw [← Option.some.inj found]
      exact .inr rfl
    · cases found

end

end ArcadiaRecommendation
