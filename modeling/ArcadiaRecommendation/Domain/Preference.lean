import ArcadiaRecommendation.Domain.GameProfile
import Mathlib.Data.Finset.Lattice.Basic
import Mathlib.Data.Finset.Insert
import Mathlib.Data.Rat.Cast.CharZero

/-! What the service believes one user likes: a running sum in both content spaces,
the owned set, and the remembered actions from which the dense sum is rebuilt. -/
namespace ArcadiaRecommendation

inductive SignalKind
  | purchase
  | reviewLike
  | reviewDislike
  deriving DecidableEq

def weightOf {R : Type} [Scalar R] : SignalKind → R
  | .purchase => Scalar.literal 1
  | .reviewLike => Scalar.literal (1/2)
  | .reviewDislike => Scalar.literal (-3/10)

theorem weightOf_purchase {R : Type} [ExactScalar R] (kind : SignalKind)
    (same : (weightOf kind : R) = weightOf .purchase) : kind = .purchase := by
  cases kind with
  | purchase => rfl
  | reviewLike =>
    have equal : ((1/2 : ℚ) : R) = ((1 : ℚ) : R) :=
      (ExactScalar.literal_cast _).symm.trans (same.trans (ExactScalar.literal_cast _))
    have half : (1/2 : ℚ) = 1 := Rat.cast_injective equal
    exact absurd half (by decide +kernel)
  | reviewDislike =>
    have equal : ((-3/10 : ℚ) : R) = ((1 : ℚ) : R) :=
      (ExactScalar.literal_cast _).symm.trans (same.trans (ExactScalar.literal_cast _))
    have third : (-3/10 : ℚ) = 1 := Rat.cast_injective equal
    exact absurd third (by decide +kernel)

structure SignalRecord (R : Type) where
  gameId : GameId
  weight : R
  deriving DecidableEq

structure UserPreference (R : Type) [Scalar R] where
  userId : UserId
  taste : Embedding R := .empty
  tasteDense : DenseEmbedding R := .empty
  owned : Finset GameId := ∅
  history : List (SignalRecord R) := []
  signalCount : Int := 0
  updatedAt : Option DateTime := none
  deriving DecidableEq

namespace UserPreference
variable {R : Type} [Scalar R]

def blank (userId : UserId) : UserPreference R := { userId }

def isCold (preference : UserPreference R) : Bool :=
  preference.signalCount = 0 || preference.taste.isEmpty

/-- `records[-limits.MAX_SIGNAL_HISTORY:]` -/
def newest (records : List (SignalRecord R)) : List (SignalRecord R) :=
  records.drop (records.length - Limits.maxSignalHistory)

def owns (preference : UserPreference R) (gameId : GameId) : Bool := gameId ∈ preference.owned

/-- The games behind the history, most recent first and without repeats. -/
def rememberedGames (preference : UserPreference R) : List GameId :=
  (preference.history.reverse.foldl (fun seen record => seen.set record.gameId ()) (∅ : Dict GameId Unit)).keys

theorem keys_seen (gameIds : List GameId) :
    (gameIds.reverse.foldl (fun seen gameId => seen.set gameId ()) (∅ : Dict GameId Unit)).keys =
      gameIds.dedup.reverse := by
  induction gameIds with
  | nil => rfl
  | cons gameId rest ih =>
    rw [List.reverse_cons,List.foldl_append,List.foldl_cons,List.foldl_nil,Dict.keys_set,ih]
    have seen : gameId ∈ rest.dedup.reverse ↔ gameId ∈ rest := List.mem_reverse.trans List.mem_dedup
    split
    · rename_i again
      rw [List.dedup_cons_of_mem (seen.mp again)]
    · rename_i fresh
      rw [List.dedup_cons_of_notMem (mt seen.mpr fresh),List.reverse_cons]

theorem rememberedGames_dedup (preference : UserPreference R) :
    preference.rememberedGames = (preference.history.map (·.gameId)).dedup.reverse := by
  rw [← keys_seen,← List.map_reverse,List.foldl_map]
  rfl

theorem rememberedGames_nodup (preference : UserPreference R) : preference.rememberedGames.Nodup := by
  rw [rememberedGames_dedup]
  exact List.nodup_reverse.mpr (List.nodup_dedup _)

/-- The dense taste, summed again from the remembered actions. A game without a
vector is skipped. -/
def rebuiltIn (preference : UserPreference R) (space : Dict GameId (DenseEmbedding R)) :
    Except InvariantViolation (UserPreference R) := do
  let rebuilt ← preference.history.foldlM (fun rebuilt record =>
    match space.get record.gameId with
    | none => .ok rebuilt
    | some vector => if vector.isEmpty then .ok rebuilt else rebuilt.plus vector record.weight) .empty
  return { preference with tasteDense := rebuilt }

theorem rebuiltIn_eq (preference : UserPreference R) (space : Dict GameId (DenseEmbedding R)) :
    preference.rebuiltIn space = (preference.history.foldlM (fun (rebuilt : DenseEmbedding R) record =>
      rebuilt.plus ((space.get record.gameId).getD .empty) record.weight) .empty).map fun tasteDense =>
        { preference with tasteDense } := by
  have each (rebuilt : DenseEmbedding R) (record : SignalRecord R) :
      (match space.get record.gameId with
      | none => Except.ok rebuilt
      | some vector => if vector.isEmpty then .ok rebuilt else rebuilt.plus vector record.weight) =
        rebuilt.plus ((space.get record.gameId).getD .empty) record.weight := by
    cases space.get record.gameId with
    | none => rfl
    | some vector =>
      simp only [Option.getD_some]
      split
      · rename_i empty
        rw [(DenseEmbedding.isEmpty_iff vector).mp empty]
        rfl
      · rfl
  unfold rebuiltIn
  simp only [each]
  rfl

theorem rebuiltIn_ok (preference after : UserPreference R) (space : Dict GameId (DenseEmbedding R))
    (rebuilt : preference.rebuiltIn space = .ok after) :
    ∃ tasteDense, after = { preference with tasteDense := tasteDense } := by
  unfold rebuiltIn at rebuilt
  simp only [bind,Except.bind,pure,Except.pure] at rebuilt
  split at rebuilt
  · cases rebuilt
  · exact ⟨_,(Except.ok.inj rebuilt).symm⟩

theorem rebuiltIn_sized (width : Nat) (preference : UserPreference R) (space : Dict GameId (DenseEmbedding R))
    (sized : ∀ gameId vector, space.get gameId = some vector → vector.Sized width) :
    ∃ after, preference.rebuiltIn space = .ok after ∧ after.tasteDense.Sized width := by
  have vectors (gameId : GameId) : ((space.get gameId).getD .empty).Sized width := by
    cases found : space.get gameId with
    | none => exact .inl rfl
    | some vector => exact sized gameId vector found
  obtain ⟨rebuilt,folded,kept⟩ := foldlM_invariant (fun (rebuilt : DenseEmbedding R) (record : SignalRecord R) =>
    rebuilt.plus ((space.get record.gameId).getD .empty) record.weight) (DenseEmbedding.Sized width) preference.history
    (fun rebuilt record _ kept => rebuilt.plus_sized width _ record.weight kept (vectors record.gameId)) .empty (.inl rfl)
  refine ⟨{ preference with tasteDense := rebuilt },?_,kept⟩
  rw [rebuiltIn_eq,folded]
  rfl

theorem rebuiltIn_error (preference : UserPreference R) (space : Dict GameId (DenseEmbedding R))
    (rule : InvariantViolation) (refused : preference.rebuiltIn space = .error rule) :
    ∃ added own, rule = .widthMismatch added own := by
  rw [rebuiltIn_eq] at refused
  cases folded : preference.history.foldlM (fun (rebuilt : DenseEmbedding R) record =>
      rebuilt.plus ((space.get record.gameId).getD .empty) record.weight) .empty with
  | ok rebuilt =>
    rw [folded] at refused
    cases refused
  | error broken =>
    rw [folded] at refused
    cases Except.error.inj refused
    exact foldlM_error _ (fun fault => ∃ added own, fault = .widthMismatch added own)
      (fun rebuilt record fault failed => ⟨_,_,DenseEmbedding.plus_error _ _ _ _ failed⟩) _ _ _ folded

omit [Scalar R] in
theorem mem_newest (records : List (SignalRecord R)) (record : SignalRecord R)
    (member : record ∈ newest records) : record ∈ records :=
  List.mem_of_mem_drop member

variable [Casing]

def observe (preference : UserPreference R) (game : GameProfile R) (kind : SignalKind) (at_ : DateTime) :
    Except InvariantViolation (UserPreference R) := do
  let weight := weightOf kind
  let tasteDense ← preference.tasteDense.plus game.dense weight
  return {
    preference with
    taste := preference.taste.plus game.embedding weight
    tasteDense := tasteDense
    owned := if kind = .purchase then preference.owned ∪ {game.gameId} else preference.owned
    history := newest (preference.history ++ [⟨game.gameId,weight⟩])
    signalCount := preference.signalCount + 1
    updatedAt := some at_ }

theorem observe_ok (preference after : UserPreference R) (game : GameProfile R) (kind : SignalKind)
    (at_ : DateTime) (observed : preference.observe game kind at_ = .ok after) :
    ∃ tasteDense, preference.tasteDense.plus game.dense (weightOf kind) = .ok tasteDense ∧ after = {
      preference with
      taste := preference.taste.plus game.embedding (weightOf kind)
      tasteDense := tasteDense
      owned := if kind = .purchase then preference.owned ∪ {game.gameId} else preference.owned
      history := newest (preference.history ++ [⟨game.gameId,weightOf kind⟩])
      signalCount := preference.signalCount + 1
      updatedAt := some at_ } := by
  unfold observe at observed
  cases dense : preference.tasteDense.plus game.dense (weightOf kind) with
  | error rule => simp [dense,bind,Except.bind] at observed
  | ok tasteDense =>
    simp only [dense,bind,Except.bind,pure,Except.pure] at observed
    exact ⟨tasteDense,rfl,(Except.ok.inj observed).symm⟩

theorem observe_userId (preference after : UserPreference R) (game : GameProfile R) (kind : SignalKind)
    (at_ : DateTime) (observed : preference.observe game kind at_ = .ok after) :
    after.userId = preference.userId := by
  obtain ⟨tasteDense,_,same⟩ := observe_ok preference after game kind at_ observed
  rw [same]

theorem observe_history (preference after : UserPreference R) (game : GameProfile R) (kind : SignalKind)
    (at_ : DateTime) (observed : preference.observe game kind at_ = .ok after) (record : SignalRecord R)
    (member : record ∈ after.history) :
    record ∈ preference.history ∨ record = ⟨game.gameId,weightOf kind⟩ := by
  obtain ⟨tasteDense,_,same⟩ := observe_ok preference after game kind at_ observed
  have history := congrArg UserPreference.history same
  simp only at history
  rw [history] at member
  rcases List.mem_append.mp (mem_newest _ record member) with old | new
  · exact .inl old
  · exact .inr (List.mem_singleton.mp new)

theorem observe_unembedded (preference : UserPreference R) (game : GameProfile R) (kind : SignalKind)
    (at_ : DateTime) (unembedded : game.dense = .empty) :
    ∃ after, preference.observe game kind at_ = .ok after := by
  simp [observe,unembedded,DenseEmbedding.plus_empty,bind,Except.bind,pure,Except.pure]

theorem observe_sized (width : Nat) (preference : UserPreference R) (game : GameProfile R) (kind : SignalKind)
    (at_ : DateTime) (taste : preference.tasteDense.Sized width) (dense : game.dense.Sized width) :
    ∃ after, preference.observe game kind at_ = .ok after ∧ after.tasteDense.Sized width := by
  obtain ⟨sum,added,sized⟩ := preference.tasteDense.plus_sized width game.dense (weightOf kind) taste dense
  simp only [observe,added,bind,Except.bind,pure,Except.pure]
  exact ⟨_,rfl,sized⟩

end UserPreference
end ArcadiaRecommendation
