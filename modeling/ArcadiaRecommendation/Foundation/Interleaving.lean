import ArcadiaRecommendation.Foundation.Program
import Mathlib.Data.List.Induction
import Mathlib.Logic.Function.Basic

/-! Two parties over one shared state, scheduled one operation at a time. Only the last
operation of a party changes what they share, as a commit does. One party then ends first,
as if alone, and the other ends as a run whose operations saw the old state up to some
point and the new one from there on. -/
namespace ArcadiaRecommendation

/-- Answers one operation from the shared state and the party's own. -/
abbrev SharedHandler (Op : Type) (Answer : Op → Type) (Fault Own Shared : Type) :=
  (op : Op) → Shared → Own → Except Fault (Answer op × Own × Shared)

structure Party (Op : Type) (Answer : Op → Type) (Fault Own A : Type) where
  program : Program Op Answer Fault A
  own : Own

inductive Side
  | left
  | right
  deriving DecidableEq

def Side.other : Side → Side
  | left => right
  | right => left

theorem Side.other_ne (side : Side) : side.other ≠ side := by cases side <;> decide

@[simp] theorem Side.other_other (side : Side) : side.other.other = side := by cases side <;> rfl

theorem Side.eq_or_other (first second : Side) : second = first ∨ second = first.other := by
  cases first <;> cases second <;> decide

namespace Program
variable {Op : Type} {Answer : Op → Type} {Fault A : Type}

def finished : Program Op Answer Fault A → Bool
  | .done _ | .fail _ => true
  | .call _ _ => false

/-- An operation that closes the program is its last. -/
def Sealed (closes : Op → Bool) : Program Op Answer Fault A → Prop
  | .done _ | .fail _ => True
  | .call op next => if closes op then ∀ answer, (next answer).finished = true
    else ∀ answer, (next answer).Sealed closes

end Program

/-- How a party comes to its end, before what it shares is changed. -/
inductive Reached (Op : Type) (Answer : Op → Type) (Fault Own A : Type)
  | finished (result : Except Fault A)
  | closing (op : Op) (next : Answer op → Program Op Answer Fault A) (own : Own)

section
variable {Op : Type} {Answer : Op → Type} {Fault Own Shared A : Type}

/-- No operation changes what is shared, unless it closes its program. -/
def Quiet (closes : Op → Bool) (handle : SharedHandler Op Answer Fault Own Shared) : Prop :=
  ∀ op shared own answer after changed, closes op = false →
    handle op shared own = .ok (answer,after,changed) → changed = shared

/-- The run up to the closing operation. Each operation sees the shared state of its moment. -/
def reach (closes : Op → Bool) (handle : SharedHandler Op Answer Fault Own Shared) (moments : Nat → Shared) :
    Nat → Program Op Answer Fault A → Own → Reached Op Answer Fault Own A
  | _, .done value, _ => .finished (.ok value)
  | _, .fail fault, _ => .finished (.error fault)
  | moment, .call op next, own =>
    if closes op then .closing op next own
    else
      match handle op (moments moment) own with
      | .ok (answer,after,_) => reach closes handle moments (moment + 1) (next answer) after
      | .error fault => .finished (.error fault)

def conclude (handle : SharedHandler Op Answer Fault Own Shared) (reached : Reached Op Answer Fault Own A)
    (shared : Shared) : Shared :=
  match reached with
  | .finished _ => shared
  | .closing op _ own =>
    match handle op shared own with
    | .ok (_,_,after) => after
    | .error _ => shared

/-- The operations a run asks before it closes, each with the party's own state at that time. -/
def asked (closes : Op → Bool) (handle : SharedHandler Op Answer Fault Own Shared) (shared : Shared) :
    Program Op Answer Fault A → Own → List (Op × Own)
  | .done _, _ | .fail _, _ => []
  | .call op next, own =>
    if closes op then []
    else
      match handle op shared own with
      | .ok (answer,after,_) => (op,own) :: asked closes handle shared (next answer) after
      | .error _ => [(op,own)]

def duration (handle : SharedHandler Op Answer Fault Own Shared) (shared : Shared) :
    Program Op Answer Fault A → Own → Nat
  | .done _, _ | .fail _, _ => 0
  | .call op next, own =>
    match handle op shared own with
    | .ok (answer,after,_) => duration handle shared (next answer) after + 1
    | .error _ => 1

def switch (count : Nat) (before after : Shared) : Nat → Shared :=
  fun moment => if moment < count then before else after

namespace Party

def step (handle : SharedHandler Op Answer Fault Own Shared) (party : Party Op Answer Fault Own A) (shared : Shared) :
    Party Op Answer Fault Own A × Shared :=
  match party.program with
  | .call op next =>
    match handle op shared party.own with
    | .ok (answer,own,after) => (⟨next answer,own⟩,after)
    | .error fault => (⟨.fail fault,party.own⟩,shared)
  | .done _ | .fail _ => (party,shared)

def finished (party : Party Op Answer Fault Own A) : Bool := party.program.finished

def duration (handle : SharedHandler Op Answer Fault Own Shared) (party : Party Op Answer Fault Own A)
    (shared : Shared) : Nat :=
  ArcadiaRecommendation.duration handle shared party.program party.own

def advance (handle : SharedHandler Op Answer Fault Own Shared) (shared : Shared) (party : Party Op Answer Fault Own A) :
    Nat → Party Op Answer Fault Own A
  | 0 => party
  | count+1 => ((party.advance handle shared count).step handle shared).1

def reached (closes : Op → Bool) (handle : SharedHandler Op Answer Fault Own Shared)
    (party : Party Op Answer Fault Own A) (moments : Nat → Shared) : Reached Op Answer Fault Own A :=
  reach closes handle moments 0 party.program party.own

def alone (closes : Op → Bool) (handle : SharedHandler Op Answer Fault Own Shared)
    (party : Party Op Answer Fault Own A) (shared : Shared) : Shared :=
  conclude handle (party.reached closes handle fun _ => shared) shared

end Party

structure Encounter (Op : Type) (Answer : Op → Type) (Fault Own Shared A : Type) where
  parties : Side → Party Op Answer Fault Own A
  shared : Shared

namespace Encounter

def step (handle : Side → SharedHandler Op Answer Fault Own Shared) (encounter : Encounter Op Answer Fault Own Shared A)
    (side : Side) : Encounter Op Answer Fault Own Shared A :=
  let (party,shared) := (encounter.parties side).step (handle side) encounter.shared
  ⟨Function.update encounter.parties side party,shared⟩

def run (handle : Side → SharedHandler Op Answer Fault Own Shared) (encounter : Encounter Op Answer Fault Own Shared A)
    (schedule : List Side) : Encounter Op Answer Fault Own Shared A :=
  schedule.foldl (step handle) encounter

def Finished (encounter : Encounter Op Answer Fault Own Shared A) : Prop :=
  ∀ side, (encounter.parties side).finished = true

end Encounter

theorem Program.sealed_of_finished (closes : Op → Bool) (program : Program Op Answer Fault A)
    (finished : program.finished = true) : program.Sealed closes := by
  cases program with
  | done value => trivial
  | fail fault => trivial
  | call op next => cases finished

theorem reach_later (closes : Op → Bool) (handle : SharedHandler Op Answer Fault Own Shared)
    (first second : Nat → Shared) (program : Program Op Answer Fault A) (own : Own) (moment later : Nat)
    (same : ∀ gap, first (moment + gap) = second (later + gap)) :
    reach closes handle first moment program own = reach closes handle second later program own := by
  induction program generalizing own moment later with
  | done value => rfl
  | fail fault => rfl
  | call op next ih =>
    have now : first moment = second later := same 0
    have rest (gap : Nat) : first (moment + 1 + gap) = second (later + 1 + gap) := by
      rw [Nat.add_assoc,Nat.add_assoc]
      exact same (1 + gap)
    unfold reach
    rw [now]
    split
    · rfl
    · split
      · exact ih _ _ _ _ rest
      · rfl

theorem reach_of_asked (closes : Op → Bool) (handle : SharedHandler Op Answer Fault Own Shared)
    (shared : Shared) (moments : Nat → Shared) (program : Program Op Answer Fault A) (own : Own) (moment : Nat)
    (alike : ∀ place question, (asked closes handle shared program own)[place]? = some question →
      (handle question.1 (moments (moment + place)) question.2).map (fun answer => (answer.1,answer.2.1)) =
        (handle question.1 shared question.2).map fun answer => (answer.1,answer.2.1)) :
    reach closes handle moments moment program own = reach closes handle (fun _ => shared) moment program own := by
  induction program generalizing own moment with
  | done value => rfl
  | fail fault => rfl
  | call op next ih =>
    unfold reach
    unfold asked at alike
    by_cases last : closes op = true
    · rw [if_pos last,if_pos last]
    · rw [if_neg last] at alike ⊢
      rw [if_neg last]
      cases here : handle op shared own with
      | error fault =>
        simp only [here] at alike
        have first := alike 0 (op,own) rfl
        rw [Nat.add_zero,here] at first
        cases there : handle op (moments moment) own with
        | error other =>
          rw [there] at first
          have equal : other = fault := Except.error.inj first
          rw [equal]
        | ok answered =>
          rw [there] at first
          cases first
      | ok expected =>
        obtain ⟨answer,after,changed⟩ := expected
        simp only [here] at alike
        have first := alike 0 (op,own) rfl
        rw [Nat.add_zero,here] at first
        cases there : handle op (moments moment) own with
        | error other =>
          rw [there] at first
          cases first
        | ok answered =>
          obtain ⟨reply,mine,other⟩ := answered
          rw [there] at first
          have pair : reply = answer ∧ mine = after := by
            have equal := Except.ok.inj first
            exact ⟨congrArg Prod.fst equal,congrArg Prod.snd equal⟩
          obtain ⟨rfl,rfl⟩ := pair
          apply ih
          intro place question member
          have shifted := alike (place + 1) question (by simpa using member)
          rwa [show moment + (place + 1) = moment + 1 + place by omega] at shifted

namespace Party
variable (closes : Op → Bool) (handle : SharedHandler Op Answer Fault Own Shared)

theorem step_finished (party : Party Op Answer Fault Own A) (shared : Shared) (finished : party.finished = true) :
    party.step handle shared = (party,shared) := by
  obtain ⟨program,own⟩ := party
  cases program with
  | done value => rfl
  | fail fault => rfl
  | call op next => cases finished

theorem step_sealed (party : Party Op Answer Fault Own A) (shared : Shared) (closed : party.program.Sealed closes) :
    (party.step handle shared).1.program.Sealed closes := by
  obtain ⟨program,own⟩ := party
  cases program with
  | done value => trivial
  | fail fault => trivial
  | call op next =>
    simp only [step]
    split
    · rename_i answer after changed _
      simp only [Program.Sealed] at closed
      split at closed
      · exact Program.sealed_of_finished closes _ (closed answer)
      · exact closed answer
    · trivial

theorem advance_sealed (party : Party Op Answer Fault Own A) (shared : Shared) (closed : party.program.Sealed closes)
    (count : Nat) : (party.advance handle shared count).program.Sealed closes := by
  induction count with
  | zero => exact closed
  | succ count ih => exact step_sealed closes handle _ shared ih

theorem step_going (quiet : Quiet closes handle) (party : Party Op Answer Fault Own A) (shared : Shared)
    (closed : party.program.Sealed closes) (going : (party.step handle shared).1.finished = false)
    (moments : Nat → Shared) (moment : Nat) (now : moments moment = shared) :
    (party.step handle shared).2 = shared ∧
      reach closes handle moments moment party.program party.own =
        reach closes handle moments (moment + 1) (party.step handle shared).1.program
          (party.step handle shared).1.own := by
  obtain ⟨program,own⟩ := party
  cases program with
  | done value => cases going
  | fail fault => cases going
  | call op next =>
    simp only [step] at going ⊢
    cases answered : handle op shared own with
    | error fault =>
      rw [answered] at going
      cases going
    | ok triple =>
      obtain ⟨answer,after,changed⟩ := triple
      rw [answered] at going
      have open_ : ¬closes op = true := by
        intro last
        simp only [Program.Sealed,if_pos last] at closed
        have stopped : (next answer).finished = false := going
        rw [closed answer] at stopped
        cases stopped
      refine ⟨quiet op shared own answer after changed (by simpa using open_) answered,?_⟩
      rw [reach,if_neg open_,now,answered]

theorem alone_finished (party : Party Op Answer Fault Own A) (shared : Shared) (finished : party.finished = true) :
    party.alone closes handle shared = shared := by
  obtain ⟨program,own⟩ := party
  cases program with
  | done value => rfl
  | fail fault => rfl
  | call op next => cases finished

theorem alone_finishing (quiet : Quiet closes handle) (party : Party Op Answer Fault Own A) (shared : Shared)
    (stopped : (party.step handle shared).1.finished = true) :
    (party.step handle shared).2 = party.alone closes handle shared := by
  obtain ⟨program,own⟩ := party
  cases program with
  | done value => rfl
  | fail fault => rfl
  | call op next =>
    simp only [step,alone,reached,reach] at stopped ⊢
    by_cases last : closes op = true
    · rw [if_pos last]
      simp only [conclude]
      cases handle op shared own with
      | error fault => rfl
      | ok triple => rfl
    · rw [if_neg last]
      cases answered : handle op shared own with
      | error fault => rfl
      | ok triple =>
        obtain ⟨answer,after,changed⟩ := triple
        rw [answered] at stopped
        have same := quiet op shared own answer after changed (by simpa using last) answered
        have ended : (⟨next answer,after⟩ : Party Op Answer Fault Own A).alone closes handle shared = shared :=
          alone_finished closes handle _ shared stopped
        have shifted := reach_later closes handle (fun _ => shared) (fun _ => shared) (next answer) after 1 0
          fun _ => rfl
        simp only [same]
        rw [Nat.zero_add,shifted]
        exact ended.symm

theorem alone_going (quiet : Quiet closes handle) (party : Party Op Answer Fault Own A) (shared : Shared)
    (closed : party.program.Sealed closes) (going : (party.step handle shared).1.finished = false) :
    party.alone closes handle shared = (party.step handle shared).1.alone closes handle shared := by
  have stepped := (step_going closes handle quiet party shared closed going (fun _ => shared) 0 rfl).2
  have shifted := reach_later closes handle (fun _ => shared) (fun _ => shared)
    (party.step handle shared).1.program (party.step handle shared).1.own 1 0 fun _ => rfl
  unfold alone reached
  rw [stepped,Nat.zero_add,shifted]

theorem duration_eq_zero (party : Party Op Answer Fault Own A) (shared : Shared) :
    party.duration handle shared = 0 ↔ party.finished = true := by
  obtain ⟨program,own⟩ := party
  cases program with
  | done value => exact ⟨fun _ => rfl,fun _ => rfl⟩
  | fail fault => exact ⟨fun _ => rfl,fun _ => rfl⟩
  | call op next =>
    unfold duration ArcadiaRecommendation.duration
    split <;> simp [finished,Program.finished]

theorem duration_step (party : Party Op Answer Fault Own A) (shared : Shared) :
    (party.step handle shared).1.duration handle shared = party.duration handle shared - 1 := by
  obtain ⟨program,own⟩ := party
  cases program with
  | done value => rfl
  | fail fault => rfl
  | call op next =>
    simp only [step,duration]
    rw [ArcadiaRecommendation.duration]
    split <;> rfl

theorem duration_advance (party : Party Op Answer Fault Own A) (shared : Shared) (count : Nat) :
    (party.advance handle shared count).duration handle shared = party.duration handle shared - count := by
  induction count with
  | zero => rfl
  | succ count ih =>
    unfold advance
    rw [duration_step,ih]
    omega

theorem finished_advance (party : Party Op Answer Fault Own A) (shared : Shared) (count : Nat) :
    (party.advance handle shared count).finished = true ↔ party.duration handle shared ≤ count := by
  rw [← duration_eq_zero handle _ shared,duration_advance]
  omega

theorem going_advance (party : Party Op Answer Fault Own A) (shared : Shared) (count : Nat)
    (early : count < party.duration handle shared) : (party.advance handle shared count).finished = false := by
  by_contra stopped
  have late := (finished_advance handle party shared count).mp (by simpa using stopped)
  omega

theorem alone_advance (quiet : Quiet closes handle) (party : Party Op Answer Fault Own A) (shared : Shared)
    (closed : party.program.Sealed closes) (count : Nat) (early : count < party.duration handle shared) :
    (party.advance handle shared count).alone closes handle shared = party.alone closes handle shared := by
  induction count with
  | zero => rfl
  | succ count ih =>
    have going := going_advance handle party shared (count + 1) early
    rw [← ih (by omega)]
    exact (alone_going closes handle quiet _ shared (advance_sealed closes handle party shared closed count) going).symm

theorem reached_switch (quiet : Quiet closes handle) (party : Party Op Answer Fault Own A) (before after : Shared)
    (closed : party.program.Sealed closes) (count : Nat) (early : count < party.duration handle before) :
    party.reached closes handle (switch count before after) =
      (party.advance handle before count).reached closes handle fun _ => after := by
  have each (moments : Nat → Shared) (old : ∀ moment, moment < count → moments moment = before) (place : Nat)
      (bound : place ≤ count) : reach closes handle moments 0 party.program party.own =
        reach closes handle moments place (party.advance handle before place).program
          (party.advance handle before place).own := by
    induction place with
    | zero => rfl
    | succ place ih =>
      rw [ih (by omega)]
      have going := going_advance handle party before (place + 1) (by omega)
      exact (step_going closes handle quiet _ before (advance_sealed closes handle party before closed place) going
        moments place (old place (by omega))).2
  unfold reached
  rw [each (switch count before after) (fun moment early => if_pos early) count (Nat.le_refl count)]
  apply reach_later
  intro gap
  exact if_neg (by omega)

end Party

namespace Encounter
variable (closes : Op → Bool) (handle : Side → SharedHandler Op Answer Fault Own Shared)

theorem run_append (encounter : Encounter Op Answer Fault Own Shared A) (first second : List Side) :
    encounter.run handle (first ++ second) = (encounter.run handle first).run handle second :=
  List.foldl_append

theorem run_both (quiet : ∀ side, Quiet closes (handle side)) (encounter : Encounter Op Answer Fault Own Shared A)
    (closed : ∀ side, (encounter.parties side).program.Sealed closes) (schedule : List Side)
    (early : ∀ side, schedule.count side < (encounter.parties side).duration (handle side) encounter.shared) :
    encounter.run handle schedule =
      ⟨fun side => (encounter.parties side).advance (handle side) encounter.shared (schedule.count side),
        encounter.shared⟩ := by
  induction schedule using List.reverseRecOn with
  | nil => rfl
  | append_singleton before side ih =>
    have counted (other : Side) : (before ++ [side]).count other = before.count other + if side = other then 1 else 0 := by
      rw [List.count_append,List.count_singleton]
      simp only [beq_iff_eq]
    have earlier (other : Side) :
        before.count other < (encounter.parties other).duration (handle other) encounter.shared := by
      have bound := early other
      rw [counted] at bound
      omega
    have now := early side
    rw [counted,if_pos rfl] at now
    have going := Party.going_advance (handle side) (encounter.parties side) encounter.shared _ now
    have unchanged := (Party.step_going closes (handle side) (quiet side) _ encounter.shared
      (Party.advance_sealed closes (handle side) _ encounter.shared (closed side) _) going
      (fun _ => encounter.shared) 0 rfl).1
    rw [run_append,ih earlier]
    simp only [run,List.foldl_cons,List.foldl_nil,step]
    rw [unchanged]
    congr 1
    funext other
    rw [Function.update_apply,counted]
    by_cases same : other = side
    · rw [if_pos same,same,if_pos rfl]
      rfl
    · rw [if_neg same,if_neg fun equal => same equal.symm]
      rfl

theorem run_rest (quiet : ∀ side, Quiet closes (handle side)) (encounter : Encounter Op Answer Fault Own Shared A)
    (side : Side) (stopped : (encounter.parties side).finished = true)
    (closed : (encounter.parties side.other).program.Sealed closes) (schedule : List Side)
    (complete : (encounter.run handle schedule).Finished) :
    (encounter.run handle schedule).shared =
      (encounter.parties side.other).alone closes (handle side.other) encounter.shared := by
  induction schedule generalizing encounter with
  | nil => exact (Party.alone_finished closes (handle side.other) _ encounter.shared (complete side.other)).symm
  | cons next rest ih =>
    have unfolded : encounter.run handle (next :: rest) = (encounter.step handle next).run handle rest := rfl
    rw [unfolded] at complete ⊢
    rcases Side.eq_or_other side next with same | other
    · have idle : encounter.step handle next = encounter := by
        rw [same]
        simp only [step,Party.step_finished (handle side) _ encounter.shared stopped,Function.update_eq_self]
      rw [idle] at complete ⊢
      exact ih encounter stopped closed complete
    · subst other
      have kept : (encounter.step handle side.other).parties side = encounter.parties side :=
        Function.update_of_ne side.other_ne.symm _ _
      have moved : (encounter.step handle side.other).parties side.other =
          ((encounter.parties side.other).step (handle side.other) encounter.shared).1 :=
        Function.update_self side.other _ _
      have closed' : ((encounter.step handle side.other).parties side.other).program.Sealed closes := by
        rw [moved]
        exact Party.step_sealed closes (handle side.other) _ encounter.shared closed
      have ended := ih (encounter.step handle side.other) (by rw [kept]; exact stopped) closed' complete
      have shared : (encounter.step handle side.other).shared =
          ((encounter.parties side.other).step (handle side.other) encounter.shared).2 := rfl
      rw [ended,moved,shared]
      cases last : ((encounter.parties side.other).step (handle side.other) encounter.shared).1.finished with
      | true =>
        rw [Party.alone_finished closes (handle side.other) _ _ last]
        exact Party.alone_finishing closes (handle side.other) (quiet side.other) _ encounter.shared last
      | false =>
        rw [(Party.step_going closes (handle side.other) (quiet side.other) _ encounter.shared closed last
          (fun _ => encounter.shared) 0 rfl).1]
        exact (Party.alone_going closes (handle side.other) (quiet side.other) _ encounter.shared closed last).symm

theorem step_first (quiet : ∀ side, Quiet closes (handle side)) (encounter : Encounter Op Answer Fault Own Shared A)
    (closed : ∀ side, (encounter.parties side).program.Sealed closes) (before : List Side) (side : Side)
    (last : before.count side + 1 = (encounter.parties side).duration (handle side) encounter.shared)
    (early : before.count side.other < (encounter.parties side.other).duration (handle side.other) encounter.shared) :
    (((encounter.run handle before).step handle side).parties side).finished = true ∧
      ((encounter.run handle before).step handle side).parties side.other =
        (encounter.parties side.other).advance (handle side.other) encounter.shared (before.count side.other) ∧
      ((encounter.run handle before).step handle side).shared =
        (encounter.parties side).alone closes (handle side) encounter.shared := by
  have both := run_both closes handle quiet encounter closed before fun other => by
    rcases Side.eq_or_other side other with rfl | rfl
    · omega
    · exact early
  have stopped : (((encounter.parties side).advance (handle side) encounter.shared (before.count side)).step
      (handle side) encounter.shared).1.finished = true :=
    (Party.finished_advance (handle side) _ encounter.shared (before.count side + 1)).mpr (Nat.le_of_eq last.symm)
  rw [both]
  refine ⟨?_,Function.update_of_ne side.other_ne _ _,?_⟩
  · simpa only [step,Function.update_self] using stopped
  · simp only [step]
    rw [Party.alone_finishing closes (handle side) (quiet side) _ encounter.shared stopped]
    exact Party.alone_advance closes (handle side) (quiet side) _ encounter.shared (closed side) _ (by omega)

/-- The outcome of a race in terms of the moment at which the first party ends. -/
theorem run_race (quiet : ∀ side, Quiet closes (handle side)) (encounter : Encounter Op Answer Fault Own Shared A)
    (closed : ∀ side, (encounter.parties side).program.Sealed closes) (before after : List Side) (side : Side)
    (last : before.count side + 1 = (encounter.parties side).duration (handle side) encounter.shared)
    (early : before.count side.other < (encounter.parties side.other).duration (handle side.other) encounter.shared)
    (complete : (encounter.run handle (before ++ side :: after)).Finished) :
    (encounter.run handle (before ++ side :: after)).shared =
      let first := (encounter.parties side).alone closes (handle side) encounter.shared
      conclude (handle side.other) ((encounter.parties side.other).reached closes (handle side.other)
        (switch (before.count side.other) encounter.shared first)) first := by
  obtain ⟨stopped,waits,first⟩ := step_first closes handle quiet encounter closed before side last early
  have split : encounter.run handle (before ++ side :: after) =
      ((encounter.run handle before).step handle side).run handle after := run_append handle encounter before _
  have closed' : (((encounter.run handle before).step handle side).parties side.other).program.Sealed closes := by
    rw [waits]
    exact Party.advance_sealed closes (handle side.other) _ _ (closed side.other) _
  rw [split] at complete ⊢
  rw [run_rest closes handle quiet _ side stopped closed' after complete,waits,first]
  simp only
  rw [Party.reached_switch closes (handle side.other) (quiet side.other) _ _ _ (closed side.other) _ early]
  rfl

theorem exists_first (quiet : ∀ side, Quiet closes (handle side)) (encounter : Encounter Op Answer Fault Own Shared A)
    (closed : ∀ side, (encounter.parties side).program.Sealed closes)
    (busy : ∀ side, (encounter.parties side).finished = false) (schedule : List Side)
    (complete : (encounter.run handle schedule).Finished) :
    ∃ before side after, schedule = before ++ side :: after ∧
      before.count side + 1 = (encounter.parties side).duration (handle side) encounter.shared ∧
      before.count side.other < (encounter.parties side.other).duration (handle side.other) encounter.shared := by
  have found : (∀ side, schedule.count side < (encounter.parties side).duration (handle side) encounter.shared) ∨
      ∃ before side after, schedule = before ++ side :: after ∧
        before.count side + 1 = (encounter.parties side).duration (handle side) encounter.shared ∧
        before.count side.other <
          (encounter.parties side.other).duration (handle side.other) encounter.shared := by
    clear complete
    induction schedule using List.reverseRecOn with
    | nil =>
      left
      intro side
      have works := (Party.duration_eq_zero (handle side) (encounter.parties side) encounter.shared).not.mpr
        (by rw [busy side]; decide)
      rw [List.count_nil]
      omega
    | append_singleton before side ih =>
      rcases ih with early | ⟨earlier,first,after,split,ended,waits⟩
      · by_cases last : before.count side + 1 = (encounter.parties side).duration (handle side) encounter.shared
        · exact .inr ⟨before,side,[],rfl,last,early side.other⟩
        · left
          intro other
          have bound := early other
          rw [List.count_append,List.count_singleton]
          by_cases same : side = other
          · subst same
            rw [if_pos (by simp)]
            omega
          · rw [if_neg (by simpa using same)]
            exact bound
      · exact .inr ⟨earlier,first,after ++ [side],by rw [split]; simp,ended,waits⟩
  rcases found with early | split
  · have both := run_both closes handle quiet encounter closed schedule early
    have stopped := complete .left
    rw [both,Party.finished_advance] at stopped
    exact absurd (early .left) (Nat.not_lt.mpr stopped)
  · exact split

end Encounter
end
end ArcadiaRecommendation
