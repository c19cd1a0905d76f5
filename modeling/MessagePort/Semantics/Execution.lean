import Mathlib.Data.List.Basic

/-!
# Executions of event systems

An event system is a partial step function whose labels carry every choice made
outside the program, so that a step is a function of its state and label. Runs
accumulate the emitted events; `Runs.invariant` is the one induction over runs,
and `Steps.of_exec` turns an evaluated label list into a run.
-/

namespace MessagePort.Semantics

/-- A partial step function emitting a finite list of events; `none` marks a
label that is not admitted, or a step that goes wrong. -/
structure EventSystem (State Label Event : Type) where
  initial : State
  step : State → Label → Option (State × List Event)

namespace EventSystem

variable {State Label Event : Type} {system : EventSystem State Label Event}

/-- Zero or more steps from a selected state, with the events they emit. -/
inductive Steps (system : EventSystem State Label Event) :
    State → List Event → State → Prop where
  | refl {state} : Steps system state [] state
  | snoc {start events state label next emitted}
      (prior : Steps system start events state)
      (transition : system.step state label = some (next, emitted)) :
      Steps system start (events ++ emitted) next

/-- The complete trace and the final state of one run from the initial state. -/
abbrev Runs (system : EventSystem State Label Event) (trace : List Event) (state : State) : Prop :=
  system.Steps system.initial trace state

/-- One transition is a run suffix. -/
theorem Steps.single {state next : State} {label : Label} {emitted : List Event}
    (transition : system.step state label = some (next, emitted)) :
    system.Steps state emitted next := by
  have start : system.Steps state [] state := .refl
  simpa using start.snoc transition

/-- Suffixes that meet at the same state compose. -/
theorem Steps.trans {start middle finish : State} {before after : List Event}
    (first : system.Steps start before middle) (second : system.Steps middle after finish) :
    system.Steps start (before ++ after) finish := by
  induction second with
  | refl => simpa using first
  | snoc _ transition ih =>
      simpa [List.append_assoc] using Steps.snoc ih transition

/-- An event of a trace was emitted by one of its steps. -/
theorem Steps.of_event {start finish : State} {trace before after : List Event} {event : Event}
    (steps : system.Steps start trace finish) (split : trace = before ++ event :: after) :
    ∃ prior state label next early late rest, system.Steps start prior state ∧
      system.step state label = some (next, early ++ event :: late) ∧
      system.Steps next rest finish ∧ before = prior ++ early ∧ after = late ++ rest := by
  induction steps generalizing after with
  | refl => simp at split
  | @snoc events state label next emitted prior transition ih =>
      rcases List.append_eq_append_iff.mp split with ⟨early, rfl, rfl⟩ | ⟨tail, rfl, rest⟩
      · exact ⟨events, state, label, next, early, after, [], prior, transition, .refl, rfl, by simp⟩
      · cases tail with
        | nil =>
            obtain rfl : emitted = event :: after := by simpa using rest.symm
            exact ⟨before, state, label, next, [], after, [], by simpa using prior,
              transition, .refl,
              by simp, by simp⟩
        | cons head tail =>
            obtain ⟨rfl, rfl⟩ := List.cons.inj rest
            obtain ⟨earlier, at_, cause, left, early, late, tail, run, caused, steps, rfl, rfl⟩ :=
              ih rfl
            exact ⟨earlier, at_, cause, left, early, late, tail ++ emitted, run, caused,
              steps.snoc transition, rfl, List.append_assoc _ _ _⟩

/-- A property of traces and states that holds at first and is kept by every
step of a run holds of every run. -/
theorem Runs.invariant {holds : List Event → State → Prop} (initially : holds [] system.initial)
    (preserved : ∀ {trace state label next emitted}, system.Runs trace state → holds trace state →
      system.step state label = some (next, emitted) → holds (trace ++ emitted) next)
    {trace : List Event} {state : State} (run : system.Runs trace state) : holds trace state := by
  generalize origin : system.initial = start at run
  induction run with
  | refl => exact origin ▸ initially
  | snoc prior transition ih =>
      subst origin
      exact preserved prior ih transition

/-- The same rule for runs whose trace satisfies an assumption that every
prefix of such a trace satisfies too. -/
theorem Runs.invariant_of {assumed : List Event → Prop}
    (ofAppend : ∀ {before after}, assumed (before ++ after) → assumed before)
    {holds : List Event → State → Prop} (initially : holds [] system.initial)
    (preserved : ∀ {trace state label next emitted}, system.Runs trace state → holds trace state →
      system.step state label = some (next, emitted) → assumed (trace ++ emitted) →
      holds (trace ++ emitted) next)
    {trace : List Event} {state : State} (run : system.Runs trace state)
    (given : assumed trace) : holds trace state :=
  @Runs.invariant _ _ _ _ (fun trace state => assumed trace → holds trace state)
    (fun _ => initially)
    (fun prior ih transition assumption =>
      preserved prior (ih (ofAppend assumption)) transition assumption) _ _ run given

/-- The state was like this at some time of the run, and no event since satisfies `stops`. -/
def Once (system : EventSystem State Label Event) (stops : Event → Prop) (holds : State → Prop)
    (trace : List Event) (state : State) : Prop :=
  ∃ before earlier after, system.Runs before earlier ∧ holds earlier ∧
    system.Steps earlier after state ∧ trace = before ++ after ∧ ∀ event ∈ after, ¬ stops event

section Once

variable {stops : Event → Prop} {holds : State → Prop}

/-- The state is like this now. -/
theorem Once.now {trace : List Event} {state : State} (run : system.Runs trace state)
    (here : holds state) :
    system.Once stops holds trace state :=
  ⟨trace, state, [], run, here, .refl, by simp, by simp⟩

/-- One more step does not undo what was, unless an event of it stops it. -/
theorem Once.step {trace emitted : List Event} {state next : State} {label : Label}
    (once : system.Once stops holds trace state)
    (transition : system.step state label = some (next, emitted))
    (quiet : ∀ event ∈ emitted, ¬ stops event) :
    system.Once stops holds (trace ++ emitted) next := by
  obtain ⟨before, earlier, after, run, held, steps, rfl, still⟩ := once
  refine ⟨before, earlier, after ++ emitted, run, held, steps.snoc transition,
    List.append_assoc .., ?_⟩
  intro event member
  rcases List.mem_append.mp member with early | late
  · exact still event early
  · exact quiet event late

end Once

/-- The steps of a system that are taken under a condition. -/
def restrict (system : EventSystem State Label Event) (condition : State → Label → Bool) :
    EventSystem State Label Event where
  initial := system.initial
  step state label := if condition state label then system.step state label else none

/-- A step of a restricted system is one of the system, and meets the condition. -/
theorem restrict_step {condition : State → Label → Bool} {state next : State} {label : Label}
    {emitted : List Event}
    (transition : (system.restrict condition).step state label = some (next, emitted)) :
    condition state label = true ∧ system.step state label = some (next, emitted) := by
  simp only [restrict] at transition
  split at transition
  case isTrue met =>
    exact ⟨met, transition⟩
  · cases transition

/-- A run of a restricted system is one of the system. -/
theorem Steps.of_restrict {condition : State → Label → Bool} {start finish : State}
    {events : List Event} (steps : (system.restrict condition).Steps start events finish) :
    system.Steps start events finish := by
  induction steps with
  | refl => exact .refl
  | snoc _ transition ih => exact ih.snoc (restrict_step transition).2

/-- Evaluate a list of labels, accumulating the events. -/
def exec (system : EventSystem State Label Event) :
    State → List Label → Option (State × List Event)
  | state, [] => some (state, [])
  | state, label :: labels =>
      match system.step state label with
      | none => none
      | some (next, emitted) =>
        match system.exec next labels with
        | none => none
        | some (final, events) => some (final, emitted ++ events)

/-- A list of labels is evaluated step by step. -/
theorem exec_cons_inv {label : Label} {labels : List Label} {state final : State}
    {events : List Event} (evaluated : system.exec state (label :: labels) = some (final, events)) :
    ∃ middle emitted later, system.step state label = some (middle, emitted) ∧
      system.exec middle labels = some (final, later) ∧ events = emitted ++ later := by
  rw [exec] at evaluated
  cases transition : system.step state label with
  | none => simp [transition] at evaluated
  | some stepped =>
      obtain ⟨middle, emitted⟩ := stepped
      cases remaining : system.exec middle labels with
      | none => simp [transition, remaining] at evaluated
      | some rest =>
          obtain ⟨last, later⟩ := rest
          simp only [transition, remaining, Option.some.injEq, Prod.mk.injEq] at evaluated
          obtain ⟨rfl, rfl⟩ := evaluated
          exact ⟨middle, emitted, later, rfl, remaining, rfl⟩

/-- An evaluated label list is a run suffix. -/
theorem Steps.of_exec {labels : List Label} {state final : State} {events : List Event}
    (evaluated : system.exec state labels = some (final, events)) :
    system.Steps state events final := by
  induction labels generalizing state events with
  | nil =>
      simp only [exec, Option.some.injEq, Prod.mk.injEq] at evaluated
      obtain ⟨rfl, rfl⟩ := evaluated
      exact .refl
  | cons label labels ih =>
      obtain ⟨middle, emitted, later, transition, remaining, rfl⟩ := exec_cons_inv evaluated
      exact (Steps.single transition).trans (ih remaining)

/-- Label lists are evaluated one after the other. -/
theorem exec_append {first second : List Label} {state middle final : State}
    {early late : List Event} (evaluated : system.exec state first = some (middle, early))
    (remaining : system.exec middle second = some (final, late)) :
    system.exec state (first ++ second) = some (final, early ++ late) := by
  induction first generalizing state early with
  | nil =>
      simp only [exec, Option.some.injEq, Prod.mk.injEq] at evaluated
      obtain ⟨rfl, rfl⟩ := evaluated
      exact remaining
  | cons label labels ih =>
      obtain ⟨next, emitted, later, transition, executed, rfl⟩ := exec_cons_inv evaluated
      simp only [List.cons_append, exec, transition, ih executed, List.append_assoc]

/-- A decided property of an evaluated label list holds of some run. -/
theorem Runs.of_exec {labels : List Label} {accepts : State → List Event → Bool}
    (evaluated : (system.exec system.initial labels).any (fun out => accepts out.1 out.2) = true) :
    ∃ trace state, system.Runs trace state ∧ accepts state trace = true := by
  cases outcome : system.exec system.initial labels with
  | none => simp [outcome] at evaluated
  | some out =>
      obtain ⟨state, trace⟩ := out
      exact ⟨trace, state, Steps.of_exec outcome, by simpa [outcome] using evaluated⟩

end EventSystem

end MessagePort.Semantics
