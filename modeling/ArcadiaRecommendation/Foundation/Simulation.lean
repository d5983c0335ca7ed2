import ArcadiaRecommendation.Foundation.Interleaving

/-! One program on two backends. While every operation of the abstract run is one that both answer
alike in related states, both runs end alike. What a program may ask is checked by a precondition
that is computed from its postcondition. -/
namespace ArcadiaRecommendation

section
variable {Op : Type} {Answer : Op → Type} {Fault Own Shared : Type}

/-- What a party owns and what it shares as one state, when nobody runs beside it. -/
def SharedHandler.joint (handle : SharedHandler Op Answer Fault Own Shared) : Handler Op Answer Fault (Own × Shared) :=
  fun op state => handle op state.2 state.1

end

namespace Program
variable {Op : Type} {Answer : Op → Type} {Fault State A B : Type}

section Meets
variable (handle : Handler Op Answer Fault State) (permits : State → Op → Prop)

/-- The run asks only what is permitted in its state, and a value it returns satisfies `ensures`. -/
def Meets : Program Op Answer Fault A → (A → State → Prop) → State → Prop
  | .done value,ensures,state => ensures value state
  | .fail _,_,_ => True
  | .call op next,ensures,state =>
    permits state op ∧ ∀ answer after, handle op state = .ok (answer,after) → (next answer).Meets ensures after

@[simp] theorem meets_done (value : A) (ensures : A → State → Prop) (state : State) :
    Meets handle permits (.done value) ensures state ↔ ensures value state := Iff.rfl

@[simp] theorem meets_fail (fault : Fault) (ensures : A → State → Prop) (state : State) :
    Meets handle permits (.fail fault) ensures state ↔ True := Iff.rfl

theorem meets_call (op : Op) (next : Answer op → Program Op Answer Fault A) (ensures : A → State → Prop)
    (state after : State) (answer : Answer op) (answered : handle op state = .ok (answer,after)) :
    Meets handle permits (.call op next) ensures state ↔
      permits state op ∧ Meets handle permits (next answer) ensures after := by
  constructor
  · rintro ⟨permitted,later⟩
    exact ⟨permitted,later answer after answered⟩
  · rintro ⟨permitted,later⟩
    refine ⟨permitted,fun other last same => ?_⟩
    cases answered.symm.trans same
    exact later

theorem meets_mono (program : Program Op Answer Fault A) (first second : A → State → Prop) (state : State)
    (weaker : ∀ value last, first value last → second value last) (meets : Meets handle permits program first state) :
    Meets handle permits program second state := by
  induction program generalizing state with
  | done value => exact weaker value state meets
  | fail fault => trivial
  | call op next ih => exact ⟨meets.1,fun answer after answered => ih answer after (meets.2 answer after answered)⟩

theorem meets_bind (program : Program Op Answer Fault A) (next : A → Program Op Answer Fault B)
    (ensures : B → State → Prop) (state : State)
    (meets : Meets handle permits program (fun value after => Meets handle permits (next value) ensures after) state) :
    Meets handle permits (program.bind next) ensures state := by
  induction program generalizing state with
  | done value => exact meets
  | fail fault => trivial
  | call op rest ih => exact ⟨meets.1,fun answer after answered => ih answer after (meets.2 answer after answered)⟩

/-- A loop keeps an invariant over the items that are still to come. -/
theorem meets_forEach (body : A → Program Op Answer Fault B) (holds : List A → State → Prop)
    (each : ∀ item rest state, holds (item :: rest) state →
      Meets handle permits (body item) (fun _ after => holds rest after) state)
    (items : List A) (state : State) (start : holds items state) :
    Meets handle permits (forEach body items) (fun _ after => holds [] after) state := by
  induction items generalizing state with
  | nil => exact start
  | cons item rest ih =>
    apply meets_bind
    apply meets_mono _ _ _ _ _ _ _ (each item rest state start)
    intro first after kept
    apply meets_bind
    exact meets_mono _ _ _ _ _ _ (fun _ _ last => last) (ih after kept)

end Meets

section Simulates
variable {Abstract Concrete : Type} (abstract : Handler Op Answer Fault Abstract)
  (concrete : Handler Op Answer Fault Concrete) (permits : Abstract → Op → Prop) (related : Abstract → Concrete → Prop)

/-- Related states answer a permitted operation alike and stay related. -/
def Simulates : Prop :=
  ∀ op first second, permits first op → related first second →
    (∃ answer left right, abstract op first = .ok (answer,left) ∧ concrete op second = .ok (answer,right) ∧
      related left right) ∨
    ∃ fault, abstract op first = .error fault ∧ concrete op second = .error fault

theorem runFor_simulates (simulates : Simulates abstract concrete permits related) (program : Program Op Answer Fault A)
    (ensures : A → Abstract → Prop) (steps : Nat) (first : Abstract) (second : Concrete)
    (meets : Meets abstract permits program ensures first) (start : related first second) :
    (program.runFor abstract steps first).1 = (program.runFor concrete steps second).1 ∧
      related (program.runFor abstract steps first).2 (program.runFor concrete steps second).2 := by
  induction program generalizing first second steps with
  | done value => cases steps <;> exact ⟨rfl,start⟩
  | fail fault => cases steps <;> exact ⟨rfl,start⟩
  | call op next ih =>
    cases steps with
    | zero => exact ⟨rfl,start⟩
    | succ steps =>
      rcases simulates op first second meets.1 start with ⟨answer,left,right,here,there,kept⟩ | ⟨fault,here,there⟩
      · simp only [runFor,here,there]
        exact ih answer steps left right (meets.2 answer left here) kept
      · simp only [runFor,here,there]
        exact ⟨trivial,start⟩

theorem run_simulates (simulates : Simulates abstract concrete permits related) (program : Program Op Answer Fault A)
    (ensures : A → Abstract → Prop) (first : Abstract) (second : Concrete)
    (meets : Meets abstract permits program ensures first) (start : related first second) :
    (program.run abstract first).1 = (program.run concrete second).1 ∧
      related (program.run abstract first).2 (program.run concrete second).2 := by
  induction program generalizing first second with
  | done value => exact ⟨rfl,start⟩
  | fail fault => exact ⟨rfl,start⟩
  | call op next ih =>
    rcases simulates op first second meets.1 start with ⟨answer,left,right,here,there,kept⟩ | ⟨fault,here,there⟩
    · simp only [run,here,there]
      exact ih answer left right (meets.2 answer left here) kept
    · simp only [run,here,there]
      exact ⟨trivial,start⟩

/-- Wherever an exception cuts the program off, it cuts both runs off at the same operation. -/
theorem runUntil_simulates (simulates : Simulates abstract concrete permits related) (program : Program Op Answer Fault A)
    (ensures : A → Abstract → Prop) (cut : Option Nat) (first : Abstract) (second : Concrete)
    (meets : Meets abstract permits program ensures first) (start : related first second) :
    (program.runUntil abstract cut first).1 = (program.runUntil concrete cut second).1 ∧
      related (program.runUntil abstract cut first).2 (program.runUntil concrete cut second).2 := by
  cases cut with
  | some steps =>
    exact runFor_simulates abstract concrete permits related simulates program ensures steps first second meets start
  | none =>
    obtain ⟨same,kept⟩ := run_simulates abstract concrete permits related simulates program ensures first second meets start
    exact ⟨congrArg Outcome.ofExcept same,kept⟩

end Simulates

end Program

end ArcadiaRecommendation
