import MessagePort.Semantics.Interaction

/-!
# Programs that match

Two programs match when they perform the same operations, for as long as these are
answered in ways that are allowed, and end in results that are related. What one of
them evaluates to, the other does too.
-/

namespace MessagePort.Semantics

namespace Interaction

variable {Operation : Type} {Answer : Operation → Type} {View First Second Result Final : Type}

section Matching

variable (may : View → (operation : Operation) → Answer operation → View → Prop)

/-- The programs perform the same operations and end in related results. -/
inductive Matches (related : First → Second → Prop) :
    Interaction Operation Answer First → Interaction Operation Answer Second → View → Prop where
  | done {first second view} (here : related first second) :
      Matches related (.done first) (.done second) view
  | perform {operation resume other view}
      (next : ∀ answer after, may view operation answer after →
        Matches related (resume answer) (other answer) after) :
      Matches related (.perform operation resume) (.perform operation other) view

variable {may} {related : First → Second → Prop}

/-- A program matches itself. -/
theorem Matches.refl (program : Interaction Operation Answer First) (view : View) :
    Matches may Eq program program view := by
  induction program generalizing view with
  | done result => exact .done rfl
  | perform operation resume ih => exact .perform fun answer after _ => ih answer after

/-- Programs that match are continued by programs that match. -/
theorem Matches.bind {final : Result → Final → Prop} {program : Interaction Operation Answer First}
    {other : Interaction Operation Answer Second} {view : View}
    (first : Matches may related program other view)
    {next : First → Interaction Operation Answer Result}
    {next' : Second → Interaction Operation Answer Final}
    (second : ∀ {result result' view}, related result result' →
      Matches may final (next result) (next' result') view) :
    Matches may final (program >>= next) (other >>= next') view := by
  induction first with
  | done here => exact second here
  | perform _ ih => exact .perform fun answer after allowed => ih answer after allowed

end Matching

section Execution

variable {State Event Outside : Type} {log : List (Exchange State Event Operation Answer)}
    {events : List Event} {state final : State} {outsides : List Outside}
    {carryOut : State → (operation : Operation) → Outside →
      Option (Answer operation × List Event × State)}

/-- An operation is carried out, and then the rest. -/
theorem exec_perform {operation : Operation}
    {resume : Answer operation → Interaction Operation Answer Result} {outside : Outside}
    {answer : Answer operation} {emitted : List Event} {after : State} {result : Result}
    (served : carryOut state operation outside = some (answer, emitted, after))
    (remaining : (resume answer).exec carryOut after outsides = some (log, events, result, final)) :
    (perform operation resume).exec carryOut state (outside :: outsides) =
      some (⟨state, operation, answer, emitted, after⟩ :: log, emitted ++ events,
        result, final) := by
  simp only [exec, served, remaining]

/-- However long the world could go on deciding, a program ends if each of its operations
can be carried out whatever is decided. -/
theorem exec_completes {allowed : Operation → Prop}
    (carries : ∀ state operation outside, allowed operation →
      ∃ answer emitted after, carryOut state operation outside = some (answer, emitted, after))
    {program : Interaction Operation Answer Result} (only : program.Only allowed) (state : State)
    (outsides : Nat → Outside) :
    ∃ count log events result final, program.exec carryOut state ((List.range count).map outsides) =
      some (log, events, result, final) := by
  induction program generalizing state outsides with
  | done result => exact ⟨0, [], [], result, state, rfl⟩
  | perform operation resume ih =>
      obtain ⟨answer, emitted, after, served⟩ := carries state operation (outsides 0) only.1
      obtain ⟨count, log, events, result, final, remaining⟩ :=
        ih answer (only.2 answer) after fun number => outsides (number + 1)
      refine ⟨count + 1, ⟨state, operation, answer, emitted, after⟩ :: log, emitted ++ events,
        result, final, ?_⟩
      rw [List.range_succ_eq_map, List.map_cons, List.map_map]
      exact exec_perform served remaining

/-- What a program evaluates to, one that matches it evaluates to as well, when each
operation can be carried out there too. -/
theorem Matches.exec {may : View → (operation : Operation) → Answer operation → View → Prop}
    {related : First → Second → Prop} {same : State → View → Prop}
    {carryOut' : View → (operation : Operation) → Outside →
      Option (Answer operation × List Event × View)}
    (simulates : ∀ {state view operation outside answer events after}, same state view →
      carryOut state operation outside = some (answer, events, after) →
      ∃ next, carryOut' view operation outside = some (answer, events, next) ∧
        may view operation answer next ∧ same after next)
    {program : Interaction Operation Answer First} {other : Interaction Operation Answer Second}
    {view : View} (matched : Matches may related program other view) (together : same state view)
    {result : First}
    (evaluated : program.exec carryOut state outsides = some (log, events, result, final)) :
    ∃ log' result' final', other.exec carryOut' view
      outsides = some (log', events, result', final') ∧
      related result result' ∧ same final final' := by
  induction matched generalizing state outsides log events with
  | done here =>
      obtain ⟨rfl, rfl, rfl, rfl⟩ := exec_done_inv evaluated
      exact ⟨[], _, _, rfl, here, together⟩
  | perform _ ih =>
      obtain ⟨outside, rest, answer, emitted, after, _, _, rfl, served, remaining, rfl, rfl⟩ :=
        exec_perform_inv evaluated
      obtain ⟨next, served', allowed, together⟩ := simulates together served
      obtain ⟨log', result', final', remaining', relates, ends⟩ :=
        ih answer next allowed together remaining
      exact ⟨_, result', final', exec_perform served' remaining', relates, ends⟩

/-- The other way round: what the second program evaluates to, the first one does. -/
theorem Matches.exec_of {may : View → (operation : Operation) → Answer operation → View → Prop}
    {related : First → Second → Prop} {same : State → View → Prop}
    {carryOut' : View → (operation : Operation) → Outside →
      Option (Answer operation × List Event × View)}
    (simulates : ∀ {state view operation outside answer events next}, same state view →
      carryOut' view operation outside = some (answer, events, next) →
      ∃ after, carryOut state operation outside = some (answer, events, after) ∧
        may view operation answer next ∧ same after next)
    {program : Interaction Operation Answer First} {other : Interaction Operation Answer Second}
    {view final : View} (matched : Matches may related program other view)
    (together : same state view) {result : Second}
    {log : List (Exchange View Event Operation Answer)}
    (evaluated : other.exec carryOut' view outsides = some (log, events, result, final)) :
    ∃ log' result' final', program.exec carryOut state
      outsides = some (log', events, result', final') ∧
      related result' result ∧ same final' final := by
  induction matched generalizing state outsides log events with
  | done here =>
      obtain ⟨rfl, rfl, rfl, rfl⟩ := exec_done_inv evaluated
      exact ⟨[], _, _, rfl, here, together⟩
  | perform _ ih =>
      obtain ⟨outside, rest, answer, emitted, next, _, _, rfl, served, remaining, rfl, rfl⟩ :=
        exec_perform_inv evaluated
      obtain ⟨after, served', allowed, together⟩ := simulates together served
      obtain ⟨log', result', final', remaining', relates, ends⟩ :=
        ih answer next allowed together remaining
      exact ⟨_, result', final', exec_perform served' remaining', relates, ends⟩

/-- A program that continues another is evaluated after it. -/
theorem exec_bind_inv {program : Interaction Operation Answer First}
    {next : First → Interaction Operation Answer Result} {result : Result}
    (evaluated : (program >>= next).exec carryOut state outsides =
      some (log, events, result, final)) :
    ∃ early late first middle log' log'' events' events'',
      program.exec carryOut state early = some (log', events', first, middle) ∧
      (next first).exec carryOut middle late = some (log'', events'', result, final) ∧
      outsides = early ++ late ∧ log = log' ++ log'' ∧ events = events' ++ events'' := by
  induction program generalizing state outsides log events with
  | done first =>
      exact ⟨[], outsides, first, state, [], log, [], events, rfl, evaluated, rfl, rfl, rfl⟩
  | perform operation resume ih =>
      obtain ⟨outside, rest, answer, emitted, after, _, _, rfl, served, remaining, rfl, rfl⟩ :=
        exec_perform_inv evaluated
      obtain ⟨early, late, first, middle, log', log'', events', events'', begun, ended,
        rfl, rfl, rfl⟩ := ih answer remaining
      refine ⟨outside :: early, late, first, middle, _ :: log', log'', emitted ++ events', events'',
        exec_perform served begun, ended, rfl, rfl, (List.append_assoc ..).symm⟩

end Execution

end Interaction

end MessagePort.Semantics
