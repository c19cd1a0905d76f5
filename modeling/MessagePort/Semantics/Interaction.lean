import Mathlib.Data.List.Basic

/-!
# Sequential programs against a shared server

An `Interaction` is a well-founded tree of operations whose continuations read
only the answers. Client code is written once as such a tree; `Interleaved`
runs it against a server on which other parties act between two operations,
and `wp` is its precondition calculus over any view of the server state.
-/

namespace MessagePort.Semantics

/-- A program that performs operations in sequence and ends in a result. -/
inductive Interaction (Operation : Type) (Answer : Operation → Type) (Result : Type) : Type where
  | done (result : Result)
  | perform (operation : Operation)
      (resume : Answer operation → Interaction Operation Answer Result)

namespace Interaction

variable {Operation : Type} {Answer : Operation → Type} {First Result : Type}

/-- Run a second program from the result of the first. -/
def bind : Interaction Operation Answer First →
    (First → Interaction Operation Answer Result) → Interaction Operation Answer Result
  | .done result, next => next result
  | .perform operation resume, next => .perform operation fun answer => (resume answer).bind next

instance : Monad (Interaction Operation Answer) where
  pure := .done
  bind := bind

@[simp] theorem pure_eq (result : Result) :
    (pure result : Interaction Operation Answer Result) = .done result := rfl

@[simp] theorem done_bind (result : First) (next : First → Interaction Operation Answer Result) :
    (Interaction.done result : Interaction Operation Answer First) >>= next = next result := rfl

@[simp] theorem perform_bind (operation : Operation)
    (resume : Answer operation → Interaction Operation Answer First)
    (next : First → Interaction Operation Answer Result) :
    Interaction.perform operation resume >>= next =
      .perform operation fun answer => resume answer >>= next := rfl

/-- The result of a program whose operations are answered like this. -/
def evaluate (answers : (operation : Operation) → Answer operation) :
    Interaction Operation Answer Result → Result
  | .done result => result
  | .perform operation resume => (resume (answers operation)).evaluate answers

theorem evaluate_bind (answers : (operation : Operation) → Answer operation)
    (program : Interaction Operation Answer First)
    (next : First → Interaction Operation Answer Result) :
    (program >>= next).evaluate answers = (next (program.evaluate answers)).evaluate answers := by
  induction program with
  | done result => rfl
  | perform operation resume ih => exact ih (answers operation)

/-- Every operation that a program can come to is allowed. -/
def Only (allowed : Operation → Prop) : Interaction Operation Answer Result → Prop
  | .done _ => True
  | .perform operation resume => allowed operation ∧ ∀ answer, (resume answer).Only allowed

theorem Only.bind {allowed : Operation → Prop} {program : Interaction Operation Answer First}
    {next : First → Interaction Operation Answer Result} (first : program.Only allowed)
    (second : ∀ result, (next result).Only allowed) : (program >>= next).Only allowed := by
  induction program with
  | done result => exact second result
  | perform operation resume ih => exact ⟨first.1, fun answer => ih answer (first.2 answer)⟩

theorem only_of_forall {allowed : Operation → Prop} (all : ∀ operation, allowed operation)
    (program : Interaction Operation Answer Result) : program.Only allowed := by
  induction program with
  | done result => trivial
  | perform operation resume ih => exact ⟨all operation, ih⟩

section Precondition

variable {View : Type} (may : View → (operation : Operation) → Answer operation → View → Prop)

/-- What must hold of a view for every execution to end in `post`, when `may`
bounds what an operation answers and does. -/
def wp : Interaction Operation Answer Result → (Result → View → Prop) → View → Prop
  | .done result, post, view => post result view
  | .perform operation resume, post, view =>
      ∀ answer next, may view operation answer next → (resume answer).wp post next

variable {may}

/-- `wp` is monotone in its postcondition. -/
theorem wp_mono {program : Interaction Operation Answer Result} {post wider : Result → View → Prop}
    (widen : ∀ result view, post result view → wider result view) {view : View}
    (holds : program.wp may post view) : program.wp may wider view := by
  induction program generalizing view with
  | done result => exact widen _ _ holds
  | perform operation resume ih =>
      exact fun answer next allowed => ih answer (holds answer next allowed)

/-- Nothing is asked of the result. -/
theorem wp_true {program : Interaction Operation Answer Result} {view : View} :
    program.wp may (fun _ _ => True) view := by
  induction program generalizing view with
  | done result => trivial
  | perform operation resume ih => exact fun answer next _ => ih answer

/-- The sequencing rule. -/
theorem wp_bind {program : Interaction Operation Answer First}
    {next : First → Interaction Operation Answer Result} {post : Result → View → Prop} {view : View}
    (holds : program.wp may (fun result view => (next result).wp may post view) view) :
    (program >>= next).wp may post view := by
  induction program generalizing view with
  | done result => exact holds
  | perform operation resume ih =>
      exact fun answer after allowed => ih answer (holds answer after allowed)

variable (may) in
/-- `wp`, where moreover every operation is performed in a view that allows it. -/
def safely (allowed : View → Operation → Prop) : Interaction Operation Answer Result →
    (Result → View → Prop) → View → Prop
  | .done result, post, view => post result view
  | .perform operation resume, post, view => allowed view operation ∧
      ∀ answer next, may view operation answer next → (resume answer).safely allowed post next

variable {allowed : View → Operation → Prop}

theorem safely_mono {program : Interaction Operation Answer Result}
    {post wider : Result → View → Prop}
    (widen : ∀ result view, post result view → wider result view) {view : View}
    (holds : program.safely may allowed post view) : program.safely may allowed wider view := by
  induction program generalizing view with
  | done result => exact widen _ _ holds
  | perform operation resume ih =>
      exact ⟨holds.1, fun answer next served => ih answer (holds.2 answer next served)⟩

/-- What is allowed may be widened. -/
theorem safely_weaken {wider : View → Operation → Prop}
    {program : Interaction Operation Answer Result} {post : Result → View → Prop}
    (widen : ∀ view operation, allowed view operation → wider view operation) {view : View}
    (holds : program.safely may allowed post view) : program.safely may wider post view := by
  induction program generalizing view with
  | done result => exact holds
  | perform operation resume ih =>
      exact ⟨widen view operation holds.1,
        fun answer next served => ih answer (holds.2 answer next served)⟩

theorem safely_bind {program : Interaction Operation Answer First}
    {next : First → Interaction Operation Answer Result} {post : Result → View → Prop} {view : View}
    (holds : program.safely may allowed
      (fun result view => (next result).safely may allowed post view) view) :
    (program >>= next).safely may allowed post view := by
  induction program generalizing view with
  | done result => exact holds
  | perform operation resume ih =>
      exact ⟨holds.1, fun answer after served => ih answer (holds.2 answer after served)⟩

/-- A program whose operations are allowed in every view is safe where its `wp` holds. -/
theorem safely_of_only {program : Interaction Operation Answer Result} {post : Result → View → Prop}
    {view : View} (only : program.Only fun operation => ∀ view, allowed view operation)
    (holds : program.wp may post view) : program.safely may allowed post view := by
  induction program generalizing view with
  | done result => exact holds
  | perform operation resume ih =>
      exact ⟨only.1 view, fun answer next served => ih answer (only.2 answer)
        (holds answer next served)⟩

end Precondition

section Interleaving

/-- One operation as the server carried it out. -/
structure Exchange (State Event Operation : Type) (Answer : Operation → Type) where
  before : State
  operation : Operation
  answer : Answer operation
  events : List Event
  after : State

variable {State Event : Type}
  (serve : State → (operation : Operation) → Answer operation → List Event → State → Prop)
  (other : State → List Event → State → Prop)

/-- Zero or more steps of the other parties. -/
inductive Others : State → List Event → State → Prop where
  | refl {state} : Others state [] state
  | step {state middle final emitted events} (transition : other state emitted middle)
      (rest : Others middle events final) : Others state (emitted ++ events) final

/-- A program is carried out for a while, from a state to another, while other
parties take steps before, between and after its operations. The log has the
operations of the program only, the list of events those of everyone; what is
left of the program comes last. -/
inductive Advances : State → Interaction Operation Answer Result →
    List (Exchange State Event Operation Answer) → List Event → State →
    Interaction Operation Answer Result → Prop where
  | stay {state program} : Advances state program [] [] state program
  | other {state middle final program emitted log events left}
      (transition : other state emitted middle)
      (rest : Advances middle program log events final left) :
      Advances state program log (emitted ++ events) final left
  | perform {state middle final operation resume answer emitted log events left}
      (served : serve state operation answer emitted middle)
      (rest : Advances middle (resume answer) log events final left) :
      Advances state (.perform operation resume)
        (⟨state, operation, answer, emitted, middle⟩ :: log)
        (emitted ++ events) final left

/-- A whole run of a program, up to its result. -/
abbrev Interleaved (state : State) (program : Interaction Operation Answer Result)
    (log : List (Exchange State Event Operation Answer)) (events : List Event) (result : Result)
    (final : State) : Prop :=
  Advances serve other state program log events final (.done result)

variable {serve other} {state final : State} {operation : Operation}
  {resume : Answer operation → Interaction Operation Answer Result}
  {left : Interaction Operation Answer Result} {result : Result}
  {log : List (Exchange State Event Operation Answer)} {events : List Event}

/-- A finished program only lets the others act. -/
theorem Advances.done_inv {returned : Result}
    (run : Advances serve other state (.done returned) log events final left) :
    left = .done returned ∧ log = [] ∧ Others other state events final := by
  generalize shape : (Interaction.done returned : Interaction Operation Answer Result) =
    program at run
  induction run with
  | stay => exact ⟨rfl, rfl, .refl⟩
  | other transition _ ih =>
      obtain ⟨same, none, rest⟩ := ih shape
      exact ⟨same, none, .step transition rest⟩
  | perform => cases shape

/-- A program about to perform an operation first lets the others act; then, if
it gets that far, the operation is served and the continuation runs from there. -/
theorem Advances.perform_inv
    (run : Advances serve other state (.perform operation resume) log events final left) :
    (left = .perform operation resume ∧ log = [] ∧ Others other state events final) ∨
    ∃ early middle answer emitted after log' events',
      Others other state early middle ∧ serve middle operation answer emitted after ∧
      Advances serve other after (resume answer) log' events' final left ∧
      log = ⟨middle, operation, answer, emitted, after⟩ :: log' ∧
      events = early ++ (emitted ++ events') := by
  generalize shape : Interaction.perform operation resume = program at run
  induction run with
  | stay => exact .inl ⟨rfl, rfl, .refl⟩
  | other transition _ ih =>
      rcases ih shape with ⟨same, none, rest⟩ |
        ⟨early, middle, answer, emitted, after, log', events', others, served, rest, rfl, rfl⟩
      · exact .inl ⟨same, none, .step transition rest⟩
      · exact .inr ⟨_, middle, answer, emitted, after, log', events',
          .step transition others, served, rest, rfl, by simp⟩
  | perform served rest =>
      cases shape
      exact .inr ⟨[], _, _, _, _, _, _, .refl, served, rest, rfl, rfl⟩

/-- What is left of a program performs no other operations. -/
theorem Advances.only {allowed : Operation → Prop} {program : Interaction Operation Answer Result}
    (run : Advances serve other state program log events final left) (only : program.Only allowed) :
    left.Only allowed := by
  induction run with
  | stay => exact only
  | other _ _ ih => exact ih only
  | perform _ _ ih => exact ih (only.2 _)

/-- The result of a finished program. -/
theorem Interleaved.done_inv {returned : Result}
    (run : Interleaved serve other state (.done returned) log events result final) :
    result = returned ∧ log = [] ∧ Others other state events final := by
  obtain ⟨same, rest⟩ := Advances.done_inv run
  exact ⟨Interaction.done.inj same, rest⟩

/-- A whole run of a program that performs an operation. -/
theorem Interleaved.perform_inv
    (run : Interleaved serve other state (.perform operation resume) log events result final) :
    ∃ early middle answer emitted after log' events',
      Others other state early middle ∧ serve middle operation answer emitted after ∧
      Interleaved serve other after (resume answer) log' events' result final ∧
      log = ⟨middle, operation, answer, emitted, after⟩ :: log' ∧
      events = early ++ (emitted ++ events') := by
  rcases Advances.perform_inv run with ⟨unfinished, _⟩ | rest
  · cases unfinished
  · exact rest

/-- Carry out a program alone, given what is decided outside for each operation. -/
def exec {Outside : Type} (carryOut : State → (operation : Operation) → Outside →
    Option (Answer operation × List Event × State)) :
    State → Interaction Operation Answer Result → List Outside →
      Option (List (Exchange State Event Operation Answer) × List Event × Result × State)
  | state, .done result, _ => some ([], [], result, state)
  | _, .perform _ _, [] => none
  | state, .perform operation resume, outside :: rest =>
      match carryOut state operation outside with
      | none => none
      | some (answer, emitted, after) =>
          match exec carryOut after (resume answer) rest with
          | none => none
          | some (log, events, result, final) =>
              some (⟨state, operation, answer, emitted, after⟩ :: log,
                emitted ++ events, result, final)

section Execution

variable {Outside : Type} {carryOut : State → (operation : Operation) → Outside →
    Option (Answer operation × List Event × State)} {outside : Outside} {rest : List Outside}

theorem exec_done_inv {returned : Result} {outsides : List Outside}
    (evaluated : (.done returned : Interaction Operation Answer Result).exec carryOut state
      outsides = some (log, events, result, final)) :
    log = [] ∧ events = [] ∧ result = returned ∧ final = state := by
  simp only [exec, Option.some.injEq, Prod.mk.injEq] at evaluated
  obtain ⟨rfl, rfl, rfl, rfl⟩ := evaluated
  exact ⟨rfl, rfl, rfl, rfl⟩

theorem exec_perform_inv {outsides : List Outside}
    (evaluated : (perform operation resume).exec carryOut state outsides =
      some (log, events, result, final)) :
    ∃ outside rest answer emitted after log' events', outsides = outside :: rest ∧
      carryOut state operation outside = some (answer, emitted, after) ∧
      (resume answer).exec carryOut after rest = some (log', events', result, final) ∧
      log = ⟨state, operation, answer, emitted, after⟩ :: log' ∧ events = emitted ++ events' := by
  cases outsides with
  | nil => cases evaluated
  | cons outside rest =>
      rw [exec] at evaluated
      rcases served : carryOut state operation outside with _ | ⟨answer, emitted, after⟩
      · simp [served] at evaluated
      rcases remaining : (resume answer).exec carryOut after rest with
        _ | ⟨log', events', result', final'⟩
      · simp [served, remaining] at evaluated
      · simp only [served, remaining, Option.some.injEq, Prod.mk.injEq] at evaluated
        obtain ⟨rfl, rfl, rfl, rfl⟩ := evaluated
        exact ⟨outside, rest, answer, emitted, after, _, _, rfl, served, remaining, rfl, rfl⟩

/-- An evaluated program is a whole run of it. -/
theorem Interleaved.of_exec {program : Interaction Operation Answer Result}
    {outsides : List Outside}
    (evaluated : program.exec carryOut state outsides = some (log, events, result, final)) :
    Interleaved (fun state operation answer events after =>
      ∃ outside, carryOut state operation outside = some (answer, events, after)) other
      state program log events result final := by
  induction program generalizing state outsides log events with
  | done returned =>
      obtain ⟨rfl, rfl, rfl, rfl⟩ := exec_done_inv evaluated
      exact .stay
  | perform operation resume ih =>
      obtain ⟨outside, rest, answer, emitted, after, log', events', rfl, served,
        remaining, rfl, rfl⟩ := exec_perform_inv evaluated
      exact .perform ⟨outside, served⟩ (ih answer remaining)

/-- What holds after every execution holds after one that was evaluated. -/
theorem wp_of_exec {may : State → (operation : Operation) → Answer operation → State → Prop}
    (bounded : ∀ {state operation outside answer events after}, carryOut state operation
      outside = some (answer, events, after) → may state operation answer after)
    {program : Interaction Operation Answer Result} {outsides : List Outside}
    {post : Result → State → Prop} (holds : program.wp may post state)
    (evaluated : program.exec carryOut state outsides = some (log, events, result, final)) :
    post result final := by
  induction program generalizing state outsides log events with
  | done returned =>
      obtain ⟨_, _, rfl, rfl⟩ := exec_done_inv evaluated
      exact holds
  | perform operation resume ih =>
      obtain ⟨outside, rest, answer, emitted, after, _, _, _, served, remaining, _, _⟩ :=
        exec_perform_inv evaluated
      exact ih answer (holds answer after (bounded served)) remaining

/-- A program returns this when it is carried out alone. -/
def Returns (program : Interaction Operation Answer Result)
    (carryOut : State → (operation : Operation) → Outside →
      Option (Answer operation × List Event × State))
    (state : State) (outsides : List Outside) (result : Result) : Prop :=
  ∃ log events final, program.exec carryOut state outsides = some (log, events, result, final)

@[simp] theorem returns_done {returned : Result} {outsides : List Outside} :
    (.done returned : Interaction Operation Answer Result).Returns carryOut state outsides result ↔
      returned = result := by
  constructor
  · rintro ⟨log, events, final, evaluated⟩
    exact (exec_done_inv evaluated).2.2.1.symm
  · rintro rfl
    exact ⟨_, _, _, rfl⟩

/-- A program that performs an operation returns what it returns once that is answered. -/
theorem returns_perform :
    (perform operation resume).Returns carryOut state (outside :: rest) result ↔
      ∃ answer emitted after, carryOut state operation outside = some (answer, emitted, after) ∧
        (resume answer).Returns carryOut after rest result := by
  constructor
  · rintro ⟨log, events, final, evaluated⟩
    obtain ⟨_, _, answer, emitted, after, _, _, same, served, remaining, _, _⟩ :=
      exec_perform_inv evaluated
    obtain ⟨rfl, rfl⟩ := List.cons.inj same
    exact ⟨answer, emitted, after, served, _, _, _, remaining⟩
  · rintro ⟨answer, emitted, after, served, log, events, final, remaining⟩
    exact ⟨⟨state, operation, answer, emitted, after⟩ :: log, emitted ++ events, final,
      by simp only [exec, served, remaining]⟩

end Execution

end Interleaving

end Interaction

end MessagePort.Semantics
