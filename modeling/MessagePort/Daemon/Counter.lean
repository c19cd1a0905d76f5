import Mathlib.Data.Bool.Count
import MessagePort.Daemon.Steps
import MessagePort.Logical.Climbs

/-!
# The id counter

The counter goes up when a service is created and down when an export fails, so
the ids a run hands out are the levels its attempts climb to (`counter_of_runs`).
They are unique exactly along spaced walks, and not along all of them.
-/

namespace MessagePort.Daemon

open Logical Semantics

/-- The attempts to create a service, `true` where the skeleton was exported. -/
def attempts (trace : List Event) : List Bool :=
  trace.filterMap fun
    | .created _ _ => some true
    | .exportFailed _ => some false
    | _ => none

/-- The ids of the services created, in order. -/
def createdIds (trace : List Event) : List Guint :=
  trace.filterMap fun
    | .created service _ => some service.id
    | _ => none

@[simp] theorem attempts_append (first second : List Event) :
    attempts (first ++ second) = attempts first ++ attempts second := List.filterMap_append

@[simp] theorem createdIds_append (first second : List Event) :
    createdIds (first ++ second) = createdIds first ++ createdIds second := List.filterMap_append

/-- Ids that are handed out once in a trace are handed out once in its beginning. -/
theorem unique_of_append {before after : List Event}
    (unique : (0 :: createdIds (before ++ after)).Nodup) :
    (0 :: createdIds before).Nodup := by
  rw [createdIds_append, ← List.cons_append] at unique
  exact (List.nodup_append.mp unique).1

/-- One step counts up with a creation, down with a failure, and not at all otherwise. -/
theorem Effect.counter {before after : State} {events : List Event}
    (effect : Effect before events after) :
    (attempts events = [] ∧ createdIds events = [] ∧ after.objectConter = before.objectConter) ∨
    (attempts events = [true] ∧ createdIds events = [before.objectConter + 1] ∧
      after.objectConter = before.objectConter + 1) ∨
    (attempts events = [false] ∧ createdIds events = [] ∧
      after.objectConter = before.objectConter - 1) := by
  cases effect with
  | quiet registry => exact .inl ⟨rfl, rfl, registry.objectConter⟩
  | connected _ registry => exact .inl ⟨rfl, rfl, registry.objectConter⟩
  | exportFailed => exact .inr (.inr ⟨rfl, rfl, rfl⟩)
  | created served named missing creates =>
      have id := creates.id
      dsimp only at id
      subst id
      exact .inr (.inl ⟨rfl, rfl, creates.objectConter⟩)
  | existing => exact .inl ⟨rfl, rfl, rfl⟩
  | sent => exact .inl ⟨rfl, rfl, rfl⟩
  | @validated _ _ _ _ accepted made _ _ _ _ verdict =>
      rcases DbusManager.validatePeerCertificate_made verdict with rfl | ⟨peer, _, rfl⟩
      all_goals cases accepted <;> exact .inl ⟨rfl, rfl, rfl⟩
  | unknownId => exact .inl ⟨rfl, rfl, rfl⟩
  | removed _ removes => exact .inl ⟨rfl, rfl, removes.objectConter⟩
  | closed _ closes => exact .inl ⟨rfl, rfl, closes.objectConter⟩

/-- The counter and the ids handed out are a walk and the levels it climbs to. -/
theorem counter_of_runs {trace : List Event} {state : State} (run : system.Runs trace state) :
    state.objectConter = BitVec.ofInt 32 (level 0 (attempts trace)) ∧
      createdIds trace = (climbs 0 (attempts trace)).map (BitVec.ofInt 32) := by
  refine @runs_invariant (fun trace state =>
    state.objectConter = BitVec.ofInt 32 (level 0 (attempts trace)) ∧
      createdIds trace = (climbs 0 (attempts trace)).map (BitVec.ofInt 32)) ⟨rfl, rfl⟩ ?_ _ _ run
  rintro trace state emitted next - ⟨counter, ids⟩ effect
  simp only [attempts_append, createdIds_append, level_append, climbs_append, List.map_append, ids]
  generalize level 0 (attempts trace) = reached at counter ⊢
  rcases effect.counter with ⟨tries, made, after⟩ | ⟨tries, made, after⟩ | ⟨tries, made, after⟩
  · simp [tries, made, after, level, climbs, counter]
  · simp [tries, made, after, level, climbs, counter, BitVec.ofInt_add]
  · simp [tries, made, after, level, climbs, counter, sub_eq_add_neg, BitVec.ofInt_add]

/-- Levels less than a full turn of the counter apart are different ids. -/
theorem ofInt_injOn {first second : Int} (near : first - second < 2 ^ 32)
    (near' : second - first < 2 ^ 32) (same : BitVec.ofInt 32 first = BitVec.ofInt 32 second) :
    first = second := by
  have numbers := congrArg BitVec.toNat same
  simp only [BitVec.toNat_ofInt] at numbers
  omega

/-- The ids are nonzero and distinct exactly along spaced walks, the initial
value of the counter taken as a first success. -/
theorem createdIds_nodup_iff {trace : List Event} {state : State} (run : system.Runs trace state)
    (bounded : (attempts trace).length < 2 ^ 32 - 1) :
    (0 :: createdIds trace).Nodup ↔ Spaced (true :: attempts trace) := by
  obtain ⟨-, ids⟩ := counter_of_runs run
  have within {reached : Int} (climbed : reached ∈ climbs (-1) (true :: attempts trace)) :
      -(attempts trace).count false ≤ reached ∧ reached ≤ (attempts trace).count true := by
    have bounds := climbs_bounds climbed
    simp only [List.count_cons_self, List.count_cons_of_ne (by decide : true ≠ false)] at bounds
    omega
  have total := List.count_true_add_count_false (attempts trace)
  have handedOut : (0 : Guint) :: createdIds trace =
      (climbs (-1) (true :: attempts trace)).map (BitVec.ofInt 32) := by
    rw [ids]
    rfl
  rw [handedOut, ← @climbs_nodup_iff (-1)]
  constructor
  · exact List.Nodup.of_map _
  · apply List.Nodup.map_on
    intro first climbed second climbed' same
    have low := within climbed
    have high := within climbed'
    exact ofInt_injOn (by omega) (by omega) same

/-- Without failed exports the ids are nonzero and distinct. -/
theorem createdIds_nodup {trace : List Event} {state : State} (run : system.Runs trace state)
    (exported : false ∉ attempts trace) (bounded : (attempts trace).length < 2 ^ 32 - 1) :
    (0 :: createdIds trace).Nodup := by
  rw [createdIds_nodup_iff run bounded]
  intro before first down second after _ someDown _ equal
  have failed : false ∈ true :: attempts trace := by
    rw [equal]
    simp [Nat.ne_of_gt someDown]
  simp only [List.mem_cons, Bool.false_eq_true, false_or] at failed
  exact absurd failed exported

/-- A run in which every export succeeds and fewer than `2 ^ 31` services are created. -/
structure Regular (trace : List Event) : Prop where
  exported : false ∉ attempts trace
  bounded : (attempts trace).length < 2 ^ 31

namespace Regular

variable {trace : List Event} {state : State}

/-- A part of a regular run is regular. -/
theorem of_append {before after : List Event} (regular : Regular (before ++ after)) :
    Regular before := by
  obtain ⟨exported, bounded⟩ := regular
  rw [attempts_append] at exported bounded
  rw [List.length_append] at bounded
  exact ⟨fun failed => exported (List.mem_append_left _ failed), by omega⟩

theorem exported_right {before after : List Event} (regular : Regular (before ++ after)) :
    false ∉ attempts after := by
  have exported := regular.exported
  rw [attempts_append] at exported
  exact fun failed => exported (List.mem_append_right _ failed)

/-- A regular run hands out no id twice. -/
theorem nodup (regular : Regular trace) (run : system.Runs trace state) :
    (0 :: createdIds trace).Nodup := by
  have bounded := regular.bounded
  exact createdIds_nodup run regular.exported (by omega)

/-- The ids of a regular run are positive as signed numbers too. -/
theorem small (regular : Regular trace) (run : system.Runs trace state) {id : Guint}
    (made : id ∈ createdIds trace) : id.toNat < 2 ^ 31 := by
  obtain ⟨-, ids⟩ := counter_of_runs run
  rw [ids] at made
  obtain ⟨reached, climbed, rfl⟩ := List.mem_map.mp made
  have bounds := climbs_bounds climbed
  rw [List.count_eq_zero_of_not_mem regular.exported] at bounds
  have below : (attempts trace).count true ≤ (attempts trace).length := List.count_le_length
  have bounded := regular.bounded
  rw [BitVec.toNat_ofInt]
  omega

end Regular

/-- Ids are nonzero, never handed out twice, and never shared by live services. -/
structure IdsUnique (trace : List Event) (state : State) : Prop where
  nonzero : ∀ id ∈ createdIds trace, id ≠ 0
  distinct : (createdIds trace).Nodup
  unshared : ∀ {first second one other}, state.services.lookup first = some one →
    state.services.lookup second = some other →
    guintToPointer one.id = guintToPointer other.id → first = second

/-- Ids are unique along exactly those runs in which, the initial value of the
counter taken as a first success, any two groups of successful exports are kept
apart by at least as many failed ones as they have exports together. -/
theorem idsUnique_iff {trace : List Event} {state : State} (run : system.Runs trace state)
    (bounded : (attempts trace).length < 2 ^ 32 - 1) :
    IdsUnique trace state ↔ Spaced (true :: attempts trace) := by
  rw [← createdIds_nodup_iff run bounded, List.nodup_cons]
  constructor
  · rintro ⟨nonzero, distinct, -⟩
    exact ⟨fun zero => nonzero 0 zero rfl, distinct⟩
  · rintro ⟨nonzero, distinct⟩
    refine ⟨fun id made zero => nonzero (zero ▸ made), distinct, fun live live' same => ?_⟩
    exact (sound_of_runs run).addr_of_id live live' (guintToPointer_inj.mp same)

/-- A registration of an untrusted port by a connection. -/
def registerLabel (conn : Conn) (port : String) (choices : Choices) : Label :=
  .request conn (.registerService port false) choices

/-- A run in which an export fails after two others, as `idsUnique_iff` reads it. -/
theorem idsUnique_iff_lateFailure : ∃ trace state, system.Runs trace state ∧
    attempts trace = [true, true, false] ∧
    (IdsUnique trace state ↔ Spaced (true :: attempts trace)) := by
  obtain ⟨trace, state, run, accepted⟩ := @EventSystem.Runs.of_exec _ _ _ system
    [.connect 0 (.pid 1 (some "app")) none, registerLabel 0 "first" .benign,
      registerLabel 0 "second" { Choices.benign with allocated := 1 },
      registerLabel 0 "third" { Choices.benign with exportFailure := some msgportErrorUnknownNew }]
    (fun _ trace => attempts trace = [true, true, false]) (by decide)
  have tries : attempts trace = [true, true, false] := by simpa using accepted
  exact ⟨trace, state, run, tries, idsUnique_iff run (by rw [tries]; decide)⟩

/-- A failed export between two others: both services get the id 1. -/
theorem ids_reused : ¬ ∀ trace state, system.Runs trace state →
    (attempts trace).length < 2 ^ 32 - 1 → IdsUnique trace state := by
  intro unique
  obtain ⟨trace, state, run, accepted⟩ := @EventSystem.Runs.of_exec _ _ _ system
    [.connect 0 (.pid 1 (some "app")) none, .connect 1 (.pid 2 (some "other")) none,
      registerLabel 0 "first" .benign,
      registerLabel 0 "second" { Choices.benign with exportFailure := some msgportErrorUnknownNew },
      registerLabel 1 "third" { Choices.benign with allocated := 1 }]
    (fun _ trace => attempts trace = [true, false, true] ∧ createdIds trace = [1, 1]) (by decide)
  obtain ⟨tries, reused⟩ : attempts trace = [true, false, true] ∧ createdIds trace = [1, 1] := by
    simpa using accepted
  have distinct := (unique trace state run (by rw [tries]; decide)).distinct
  rw [reused] at distinct
  exact absurd distinct (by decide)

end MessagePort.Daemon
