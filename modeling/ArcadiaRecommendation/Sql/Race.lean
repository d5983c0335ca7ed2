import ArcadiaRecommendation.Sql.Ingest

/-! Two ingest transactions at once: what the second leaves to commit, in terms of the moment of the
first commit. -/
namespace ArcadiaRecommendation
namespace Sql
variable {R : Type} [Scalar R] [DecidableEq R] [Casing] {width : Nat}

def meeting (backfillLimit : Nat) (events : Side → Event) (start : Database R width) :
    Encounter (Op R) Answer Fault (Session R width) (Database R width) Unit :=
  ⟨fun side => handling backfillLimit (events side),start⟩

/-- What is left of a transaction that sees the tables as they were for so many operations, and as
another commit left them from then on. -/
def following (backfillLimit : Nat) (backend : Backend R) (event : Event) (start first : Database R width)
    (count : Nat) : Database R width :=
  conclude (handle backend) ((handling backfillLimit event).reached closes (handle backend) (switch count start first))
    first

theorem alone_eq (backfillLimit : Nat) (backend : Backend R) (event : Event) (start : Database R width) :
    alone backfillLimit backend event start = conclude (handle backend)
      (reach closes (handle backend) (fun _ => start) 0 (event.execute backfillLimit) {}) start := rfl

theorem following_eq (backfillLimit : Nat) (backend : Backend R) (event : Event) (start first : Database R width)
    (count : Nat) : following backfillLimit backend event start first count = conclude (handle backend)
      (reach closes (handle backend) (switch count start first) 0 (event.execute backfillLimit) {}) first := rfl

/-- What a transaction asked before the first commit, it would be answered the same after it. -/
def Unseen (backfillLimit : Nat) (backend : Backend R) (event : Event) (start first : Database R width) (count : Nat) :
    Prop :=
  ∀ place question, place < count →
    (asked closes (handle backend) first (event.execute backfillLimit) (handling backfillLimit event).own)[place]? = some question →
      (handle backend question.1 start question.2).map (fun answer => (answer.1,answer.2.1)) =
        (handle backend question.1 first question.2).map fun answer => (answer.1,answer.2.1)

private theorem following_unseen (backfillLimit : Nat) (backend : Backend R) (event : Event)
    (start first : Database R width) (count : Nat) (unseen : Unseen backfillLimit backend event start first count) :
    following backfillLimit backend event start first count = alone backfillLimit backend event first := by
  rw [following_eq,alone_eq]
  congr 1
  apply reach_of_asked
  intro place question member
  rw [Nat.zero_add]
  unfold switch
  split
  · exact unseen place question ‹_› member
  · rfl

theorem following_same (backfillLimit : Nat) (backend : Backend R) (event : Event) (start : Database R width)
    (count : Nat) : following backfillLimit backend event start start count = alone backfillLimit backend event start :=
  following_unseen backfillLimit backend event start start count fun _ _ _ _ => rfl

section Race
variable (backfillLimit : Nat) (backends : Side → Backend R) (events : Side → Event) (start : Database R width)
  (schedule : List Side)

def raced : Database R width :=
  ((meeting backfillLimit events start).run (fun side => handle (backends side)) schedule).shared

theorem raced_at (before after : List Side) (side : Side)
    (last : before.count side + 1 = (handling backfillLimit (events side)).duration (handle (backends side)) start)
    (early : before.count side.other <
      (handling backfillLimit (events side.other)).duration (handle (backends side.other)) start)
    (complete : ((meeting backfillLimit events start).run (fun side => handle (backends side))
      (before ++ side :: after)).Finished) :
    raced backfillLimit backends events start (before ++ side :: after) =
      following backfillLimit (backends side.other) (events side.other) start
        (alone backfillLimit (backends side) (events side) start)
        (before.count side.other) :=
  Encounter.run_race closes (fun side => handle (backends side)) (fun side => handle_quiet (backends side))
    (meeting backfillLimit events start) (fun side => execute_sealed backfillLimit (events side)) before after side last early
    complete

theorem raced_first (complete : ((meeting backfillLimit events start).run (fun side => handle (backends side))
    schedule).Finished) :
    ∃ before side after, schedule = before ++ side :: after ∧
      before.count side + 1 = (handling backfillLimit (events side)).duration (handle (backends side)) start ∧
      before.count side.other <
        (handling backfillLimit (events side.other)).duration (handle (backends side.other)) start := by
  apply Encounter.exists_first closes (fun side => handle (backends side)) (fun side => handle_quiet (backends side))
    (meeting backfillLimit events start) (fun side => execute_sealed backfillLimit (events side)) _ schedule complete
  intro side
  show ((events side).execute backfillLimit : UseCase R Unit).finished = false
  rw [execute_resume]
  rfl

end Race
end Sql
end ArcadiaRecommendation
