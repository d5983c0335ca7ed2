import Mathlib.Tactic.Common

/-! Programs over a port: trees of operations whose continuation reads each answer.
A handler gives the operations a meaning on a state, so one program runs on every
backend, to its end or until an exception cuts it off between two operations. -/
namespace ArcadiaRecommendation

inductive Program (Op : Type) (Answer : Op → Type) (Fault A : Type) : Type
  | done (value : A)
  | fail (fault : Fault)
  | call (op : Op) (next : Answer op → Program Op Answer Fault A)

inductive Outcome (Fault A : Type)
  | returned (value : A)
  | raised (fault : Fault)
  | interrupted
  deriving DecidableEq

def Outcome.ofExcept {Fault A : Type} : Except Fault A → Outcome Fault A
  | .ok value => .returned value
  | .error fault => .raised fault

def Outcome.fault {Fault A : Type} : Outcome Fault A → Option Fault
  | .raised fault => some fault
  | .returned _ | .interrupted => none

def Outcome.hasReturned {Fault A : Type} : Outcome Fault A → Bool
  | .returned _ => true
  | .raised _ | .interrupted => false

abbrev Handler (Op : Type) (Answer : Op → Type) (Fault State : Type) :=
  (op : Op) → State → Except Fault (Answer op × State)

theorem ok_of_bind {Fault A B : Type} {first : Except Fault A} {next : A → Except Fault B} {value : B}
    (done : first >>= next = .ok value) : ∃ found, first = .ok found ∧ next found = .ok value := by
  cases first with
  | error fault => cases done
  | ok found => exact ⟨found,rfl,done⟩

theorem ok_of_map {Fault A B : Type} {first : Except Fault A} {next : A → B} {value : B}
    (done : first.map next = .ok value) : ∃ found, first = .ok found ∧ next found = value := by
  cases first with
  | error fault => cases done
  | ok found => exact ⟨found,rfl,Except.ok.inj done⟩

namespace Program
variable {Op : Type} {Answer : Op → Type} {Fault State A B : Type}

def bind : Program Op Answer Fault A → (A → Program Op Answer Fault B) → Program Op Answer Fault B
  | .done value, next => next value
  | .fail fault, _ => .fail fault
  | .call op rest, next => .call op fun answer => (rest answer).bind next

instance : Monad (Program Op Answer Fault) where
  pure := .done
  bind := bind

def perform (op : Op) : Program Op Answer Fault (Answer op) := .call op .done

def ofExcept : Except Fault A → Program Op Answer Fault A
  | .ok value => .done value
  | .error fault => .fail fault

def forEach (body : A → Program Op Answer Fault B) : List A → Program Op Answer Fault (List B)
  | [] => .done []
  | item :: rest => (body item).bind fun first => (forEach body rest).bind fun others => .done (first :: others)

@[simp] theorem pure_eq (value : A) : (pure value : Program Op Answer Fault A) = .done value := rfl

@[simp] theorem bind_eq (program : Program Op Answer Fault A) (next : A → Program Op Answer Fault B) :
    (program >>= next) = program.bind next := rfl

@[simp] theorem done_bind (value : A) (next : A → Program Op Answer Fault B) :
    (done value : Program Op Answer Fault A).bind next = next value := rfl

@[simp] theorem fail_bind (fault : Fault) (next : A → Program Op Answer Fault B) :
    (fail fault : Program Op Answer Fault A).bind next = .fail fault := rfl

@[simp] theorem call_bind (op : Op) (rest : Answer op → Program Op Answer Fault A)
    (next : A → Program Op Answer Fault B) :
    (call op rest).bind next = .call op fun answer => (rest answer).bind next := rfl

@[simp] theorem perform_bind (op : Op) (next : Answer op → Program Op Answer Fault B) :
    (perform op : Program Op Answer Fault (Answer op)).bind next = .call op next := rfl

@[simp] theorem ofExcept_ok (value : A) :
    (ofExcept (.ok value) : Program Op Answer Fault A) = .done value := rfl

@[simp] theorem ofExcept_error (fault : Fault) :
    (ofExcept (.error fault) : Program Op Answer Fault A) = .fail fault := rfl

theorem bind_assoc {C : Type} (program : Program Op Answer Fault A)
    (first : A → Program Op Answer Fault B) (second : B → Program Op Answer Fault C) :
    (program.bind first).bind second = program.bind fun value => (first value).bind second := by
  induction program with
  | done value => rfl
  | fail fault => rfl
  | call op rest ih => simp only [call_bind,ih]

/-- The whole run. An operation that raises leaves the state as it found it. -/
def run (handle : Handler Op Answer Fault State) :
    Program Op Answer Fault A → State → Except Fault A × State
  | .done value, state => (.ok value,state)
  | .fail fault, state => (.error fault,state)
  | .call op next, state =>
    match handle op state with
    | .ok (answer,after) => run handle (next answer) after
    | .error fault => (.error fault,state)

/-- The run that an exception cuts off once `steps` operations have been answered. -/
def runFor (handle : Handler Op Answer Fault State) :
    Nat → Program Op Answer Fault A → State → Outcome Fault A × State
  | _, .done value, state => (.returned value,state)
  | _, .fail fault, state => (.raised fault,state)
  | 0, .call _ _, state => (.interrupted,state)
  | steps+1, .call op next, state =>
    match handle op state with
    | .ok (answer,after) => runFor handle steps (next answer) after
    | .error fault => (.raised fault,state)

def cost (handle : Handler Op Answer Fault State) : Program Op Answer Fault A → State → Nat
  | .done _,_ | .fail _,_ => 0
  | .call op next,state =>
    match handle op state with
    | .ok (answer,after) => cost handle (next answer) after + 1
    | .error _ => 1

def trace (handle : Handler Op Answer Fault State) : Program Op Answer Fault A → State → List Op
  | .done _,_ | .fail _,_ => []
  | .call op next,state =>
    op :: match handle op state with
      | .ok (answer,after) => trace handle (next answer) after
      | .error _ => []

def runUntil (handle : Handler Op Answer Fault State) (cut : Option Nat) (program : Program Op Answer Fault A)
    (state : State) : Outcome Fault A × State :=
  match cut with
  | some steps => program.runFor handle steps state
  | none =>
    let (result,after) := program.run handle state
    (.ofExcept result,after)

@[simp] theorem run_done (handle : Handler Op Answer Fault State) (value : A) (state : State) :
    run handle (.done value : Program Op Answer Fault A) state = (.ok value,state) := rfl

@[simp] theorem run_fail (handle : Handler Op Answer Fault State) (fault : Fault) (state : State) :
    run handle (.fail fault : Program Op Answer Fault A) state = (.error fault,state) := rfl

theorem run_call (handle : Handler Op Answer Fault State) (op : Op)
    (next : Answer op → Program Op Answer Fault A) (state : State) :
    run handle (.call op next) state =
      match handle op state with
      | .ok (answer,after) => run handle (next answer) after
      | .error fault => (.error fault,state) := by
  rw [run]

theorem run_bind (handle : Handler Op Answer Fault State) (program : Program Op Answer Fault A)
    (next : A → Program Op Answer Fault B) (state : State) :
    run handle (program.bind next) state =
      match run handle program state with
      | (.ok value,after) => run handle (next value) after
      | (.error fault,after) => (.error fault,after) := by
  induction program generalizing state with
  | done value => rfl
  | fail fault => rfl
  | call op rest ih =>
    simp only [call_bind,run_call]
    cases handle op state with
    | error fault => rfl
    | ok pair => exact ih pair.1 pair.2

theorem trace_bind (handle : Handler Op Answer Fault State) (program : Program Op Answer Fault A)
    (next : A → Program Op Answer Fault B) (state : State) :
    trace handle (program.bind next) state = trace handle program state ++
      match run handle program state with
      | (.ok value,after) => trace handle (next value) after
      | (.error _,_) => [] := by
  induction program generalizing state with
  | done value => rfl
  | fail fault => rfl
  | call op rest ih =>
    simp only [call_bind,trace,run_call]
    cases handle op state with
    | error fault => rfl
    | ok pair => exact congrArg (List.cons op) (ih pair.1 pair.2)

@[simp] theorem run_ofExcept (handle : Handler Op Answer Fault State) (result : Except Fault A)
    (state : State) : run handle (ofExcept result : Program Op Answer Fault A) state = (result,state) := by
  cases result <;> rfl

theorem runFor_complete (handle : Handler Op Answer Fault State) (program : Program Op Answer Fault A)
    (state : State) : ∃ steps, program.runFor handle steps state =
      (.ofExcept (program.run handle state).1,(program.run handle state).2) := by
  induction program generalizing state with
  | done value => exact ⟨0,rfl⟩
  | fail fault => exact ⟨0,rfl⟩
  | call op next ih =>
    cases answered : handle op state with
    | error fault => exact ⟨1,by simp only [runFor,run,answered]; rfl⟩
    | ok pair =>
      obtain ⟨steps,finished⟩ := ih pair.1 pair.2
      exact ⟨steps+1,by simp only [runFor,run,answered,finished]⟩

theorem runUntil_steps (handle : Handler Op Answer Fault State) (cut : Option Nat)
    (program : Program Op Answer Fault A) (state : State) :
    ∃ steps, program.runUntil handle cut state = program.runFor handle steps state := by
  cases cut with
  | some steps => exact ⟨steps,rfl⟩
  | none =>
    obtain ⟨steps,finished⟩ := program.runFor_complete handle state
    exact ⟨steps,finished.symm⟩

theorem runUntil_cases (handle : Handler Op Answer Fault State) (cut : Option Nat) (program : Program Op Answer Fault A)
    (state : State) : (program.runUntil handle cut state).1 = .interrupted ∨
      program.runUntil handle cut state = (.ofExcept (program.run handle state).1,(program.run handle state).2) := by
  cases cut with
  | none => exact .inr rfl
  | some steps =>
    simp only [runUntil]
    induction program generalizing state steps with
    | done value => cases steps <;> exact .inr rfl
    | fail fault => cases steps <;> exact .inr rfl
    | call op next ih =>
      cases steps with
      | zero => exact .inl rfl
      | succ steps =>
        rw [runFor,run]
        cases answered : handle op state with
        | error fault => exact .inr rfl
        | ok pair => exact ih pair.1 pair.2 steps

theorem runUntil_interrupted_iff (handle : Handler Op Answer Fault State) (cut : Option Nat)
    (program : Program Op Answer Fault A) (state : State) :
    (program.runUntil handle cut state).1 = .interrupted ↔
      ∃ steps, cut = some steps ∧ steps < program.cost handle state := by
  have general (steps : Nat) (program : Program Op Answer Fault A) (state : State) :
      (program.runFor handle steps state).1 = .interrupted ↔ steps < program.cost handle state := by
    induction program generalizing state steps with
    | done value => cases steps <;> simp [runFor,cost]
    | fail fault => cases steps <;> simp [runFor,cost]
    | call op next ih =>
      cases answered : handle op state with
      | error fault => cases steps <;> simp [runFor,cost,answered]
      | ok pair =>
        cases steps with
        | zero => simp [runFor,cost,answered]
        | succ steps => simp only [runFor,cost,answered,ih pair.1,Nat.add_lt_add_iff_right]
  cases cut with
  | some steps => simpa [runUntil] using general steps program state
  | none =>
    constructor
    · intro interrupted
      simp only [runUntil] at interrupted
      cases ended : (program.run handle state).1 <;> rw [ended] at interrupted <;> cases interrupted
    · rintro ⟨steps,none,_⟩
      cases none

def Only (allowed : Op → Prop) : Program Op Answer Fault A → Prop
  | .done _ | .fail _ => True
  | .call op next => allowed op ∧ ∀ answer, (next answer).Only allowed

theorem only_mono (first second : Op → Prop) (program : Program Op Answer Fault A)
    (weaker : ∀ op, first op → second op) (only : program.Only first) : program.Only second := by
  induction program with
  | done value => trivial
  | fail fault => trivial
  | call op next ih => exact ⟨weaker op only.1,fun answer => ih answer (only.2 answer)⟩

theorem only_bind (allowed : Op → Prop) (program : Program Op Answer Fault A)
    (next : A → Program Op Answer Fault B) (first : program.Only allowed)
    (second : ∀ value, (next value).Only allowed) : (program.bind next).Only allowed := by
  induction program with
  | done value => exact second value
  | fail fault => trivial
  | call op rest ih => exact ⟨first.1,fun answer => ih answer (first.2 answer)⟩

theorem only_ofExcept (allowed : Op → Prop) (result : Except Fault A) :
    (ofExcept result : Program Op Answer Fault A).Only allowed := by
  cases result <;> trivial

theorem only_forEach (allowed : Op → Prop) (body : A → Program Op Answer Fault B) (items : List A)
    (each : ∀ item ∈ items, (body item).Only allowed) : (forEach body items).Only allowed := by
  induction items with
  | nil => trivial
  | cons item rest ih =>
    apply only_bind _ _ _ (each item List.mem_cons_self)
    intro first
    apply only_bind _ _ _ (ih fun other member => each other (List.mem_cons_of_mem item member))
    intro others
    trivial

theorem trace_only (handle : Handler Op Answer Fault State) (allowed : Op → Prop) (program : Program Op Answer Fault A)
    (only : program.Only allowed) (state : State) : ∀ op ∈ program.trace handle state, allowed op := by
  induction program generalizing state with
  | done value => exact fun _ member => by cases member
  | fail fault => exact fun _ member => by cases member
  | call op next ih =>
    intro other member
    rw [trace,List.mem_cons] at member
    rcases member with rfl | later
    · exact only.1
    cases answered : handle op state with
    | error fault =>
      rw [answered] at later
      cases later
    | ok pair =>
      rw [answered] at later
      exact ih pair.1 (only.2 pair.1) pair.2 other later

theorem trace_agree (first second : Handler Op Answer Fault State) (allowed : Op → Prop)
    (agree : ∀ op state, allowed op → first op state = second op state) (program : Program Op Answer Fault A)
    (only : program.Only allowed) (state : State) : program.trace first state = program.trace second state := by
  induction program generalizing state with
  | done value => rfl
  | fail fault => rfl
  | call op next ih =>
    rw [trace,trace,agree op state only.1]
    cases second op state with
    | error fault => rfl
    | ok pair => exact congrArg (List.cons op) (ih pair.1 (only.2 pair.1) pair.2)

theorem run_only (handle : Handler Op Answer Fault State) (allowed : Op → Prop) (holds : State → Prop)
    (kept : ∀ op state after answer, allowed op → holds state → handle op state = .ok (answer,after) → holds after)
    (program : Program Op Answer Fault A) (only : program.Only allowed) (state : State) (start : holds state) :
    holds (program.run handle state).2 := by
  induction program generalizing state with
  | done value => exact start
  | fail fault => exact start
  | call op next ih =>
    rw [run_call]
    cases answered : handle op state with
    | error fault => exact start
    | ok pair => exact ih pair.1 (only.2 pair.1) pair.2 (kept op state pair.2 pair.1 only.1 start answered)

theorem runUntil_only (handle : Handler Op Answer Fault State) (allowed : Op → Prop) (holds : State → Prop)
    (kept : ∀ op state after answer, allowed op → holds state → handle op state = .ok (answer,after) → holds after)
    (program : Program Op Answer Fault A) (only : program.Only allowed) (cut : Option Nat) (state : State)
    (start : holds state) : holds (program.runUntil handle cut state).2 := by
  obtain ⟨steps,stopped⟩ := runUntil_steps handle cut program state
  rw [stopped]
  clear stopped
  induction program generalizing state steps with
  | done value => cases steps <;> exact start
  | fail fault => cases steps <;> exact start
  | call op next ih =>
    cases steps with
    | zero => exact start
    | succ steps =>
      rw [runFor]
      cases answered : handle op state with
      | error fault => exact start
      | ok pair => exact ih pair.1 (only.2 pair.1) pair.2 (kept op state pair.2 pair.1 only.1 start answered) steps

section Related
variable (handle : Handler Op Answer Fault State) (allowed : Op → Prop) (related : State → State → Prop)

/-- Related states answer every allowed operation alike, and are related again afterwards. -/
def Respects : Prop :=
  ∀ op first second, allowed op → related first second →
    (∃ answer left right, handle op first = .ok (answer,left) ∧ handle op second = .ok (answer,right) ∧
      related left right) ∨
    ∃ fault, handle op first = .error fault ∧ handle op second = .error fault

theorem run_related (respects : Respects handle allowed related) (program : Program Op Answer Fault A)
    (only : program.Only allowed) (first second : State) (start : related first second) :
    (program.run handle first).1 = (program.run handle second).1 ∧
      related (program.run handle first).2 (program.run handle second).2 := by
  induction program generalizing first second with
  | done value => exact ⟨rfl,start⟩
  | fail fault => exact ⟨rfl,start⟩
  | call op next ih =>
    rcases respects op first second only.1 start with ⟨answer,left,right,here,there,kept⟩ | ⟨fault,here,there⟩
    · simp only [run,here,there]
      exact ih answer (only.2 answer) left right kept
    · simp only [run,here,there]
      exact ⟨trivial,start⟩

theorem runFor_related (respects : Respects handle allowed related) (program : Program Op Answer Fault A)
    (only : program.Only allowed) (steps : Nat) (first second : State) (start : related first second) :
    (program.runFor handle steps first).1 = (program.runFor handle steps second).1 ∧
      related (program.runFor handle steps first).2 (program.runFor handle steps second).2 := by
  induction program generalizing first second steps with
  | done value => cases steps <;> exact ⟨rfl,start⟩
  | fail fault => cases steps <;> exact ⟨rfl,start⟩
  | call op next ih =>
    cases steps with
    | zero => exact ⟨rfl,start⟩
    | succ steps =>
      rcases respects op first second only.1 start with ⟨answer,left,right,here,there,kept⟩ | ⟨fault,here,there⟩
      · simp only [runFor,here,there]
        exact ih answer (only.2 answer) steps left right kept
      · simp only [runFor,here,there]
        exact ⟨trivial,start⟩

/-- A run cannot tell two related states apart. -/
theorem runUntil_related (respects : Respects handle allowed related) (program : Program Op Answer Fault A)
    (only : program.Only allowed) (cut : Option Nat) (first second : State) (start : related first second) :
    (program.runUntil handle cut first).1 = (program.runUntil handle cut second).1 ∧
      related (program.runUntil handle cut first).2 (program.runUntil handle cut second).2 := by
  cases cut with
  | some steps => exact runFor_related handle allowed related respects program only steps first second start
  | none =>
    obtain ⟨same,kept⟩ := run_related handle allowed related respects program only first second start
    exact ⟨congrArg Outcome.ofExcept same,kept⟩

end Related

end Program
end ArcadiaRecommendation
