import MessagePort.Client.Factory

/-!
# One manager for each thread

The check of `__managers` before the lock and the check under it are safe
together: between two tear-downs of the factory a thread is always handed the
same manager, and no two threads the same one. What a tear-down breaks is
stated by the events since a call began.
-/

namespace MessagePort.Client.Factory

open Daemon (Addr)
open Logical Semantics EventSystem

/-- The manager the table has for a thread. -/
def State.entry (state : State) (thread : GThread) : Option Addr :=
  match state.managers with
  | .null | .freed => none
  | .table entries => entries.lookup thread

/-- The thread has the manager in the table, is about to store or return it, or
was handed it since the last tear-down. -/
def Owner (trace : List Event) (state : State) (thread : GThread) (manager : Addr) : Prop :=
  state.entry thread = some manager ∨ state.position thread = .insert manager ∨
    state.position thread = .unlock (some manager) ∨
    Since (· = .destroyed) (· = .returned thread (some manager)) trace

/-- Every owned manager exists and has one owner. -/
structure Owned (trace : List Event) (state : State) : Prop where
  live : ∀ {thread manager}, Owner trace state thread manager → manager ∈ state.live
  apart : ∀ {thread other manager}, Owner trace state thread manager →
    Owner trace state other manager → thread = other

/-- A tear-down leaves no owner: the others are outside the lock. -/
theorem owner_of_destroyed {trace : List Event} {state : State} (locking : Locking state)
    {destroyer thread : GThread} {entries : HashTable GThread Addr} {manager : Addr}
    (destroying : state.position destroyer = .uninitDestroy)
    (table : state.managers = .table entries) :
    ¬ Owner (trace ++ [.destroyed]) (state.destroy destroyer).1 thread manager := by
  have alone : (state.position thread).locked = true → thread = destroyer :=
    fun inside => locking.same inside (by rw [destroying]; rfl)
  simp only [State.destroy, table]
  rintro (stored | inserting | unlocking | handed)
  · simp [State.entry] at stored
  · grind [Position.locked]
  · grind [Position.locked]
  · simp [since_concat] at handed

/-- A step makes nobody an owner but the thread that creates a manager. -/
theorem owner_of_moves {trace emitted : List Event} {state next : State} (locking : Locking state)
    (moves : Moves state emitted next) {thread : GThread} {manager : Addr}
    (owner : Owner (trace ++ emitted) next thread manager) :
    Owner trace state thread manager ∨
      manager ∉ state.live ∧ state.position thread = .create ∧
      next.live = manager :: state.live := by
  cases moves with
  | allocated creator created creating fresh =>
      by_cases new : thread = creator ∧ manager = created
      · obtain ⟨rfl, rfl⟩ := new
        exact .inr ⟨fresh, creating, rfl⟩
      · left
        unfold Owner at *
        grind [State.entry]
  | destroyed destroyer entries destroying table =>
      exact absurd owner (owner_of_destroyed locking destroying table)
  | _ =>
      left
      unfold Owner at *
      simp only [List.append_nil, since_concat] at owner
      grind [State.entry, HashTable.lookup_insert_eq, AList.lookup_empty]

/-- A step that leaves an owner leaves the managers that exist. -/
theorem live_of_moves {trace emitted : List Event} {state next : State} (locking : Locking state)
    (moves : Moves state emitted next) {thread : GThread} {manager : Addr}
    (owner : Owner (trace ++ emitted) next thread manager) (live : manager ∈ state.live) :
    manager ∈ next.live := by
  cases moves with
  | allocated creator created creating fresh => exact List.mem_cons_of_mem _ live
  | destroyed destroyer entries destroying table =>
      exact absurd owner (owner_of_destroyed locking destroying table)
  | _ => exact live

theorem owned_step {trace emitted : List Event} {state next : State} (locking : Locking state)
    (owned : Owned trace state) (moves : Moves state emitted next) :
    Owned (trace ++ emitted) next where
  live {thread manager} owner := by
    rcases owner_of_moves locking moves owner with before | ⟨_, _, live⟩
    · exact live_of_moves locking moves owner (owned.live before)
    · simp [live]
  apart {thread other manager} owner also := by
    rcases owner_of_moves locking moves owner with before | ⟨fresh, creating, _⟩ <;>
      rcases owner_of_moves locking moves also with beforeToo | ⟨freshToo, creatingToo, _⟩
    · exact owned.apart before beforeToo
    · exact absurd (owned.live before) freshToo
    · exact absurd (owned.live beforeToo) fresh
    · -- both would stand at the creation, under the lock
      exact locking.same (by rw [creating]; rfl) (by rw [creatingToo]; rfl)

/-- A call of the thread began and `__managers` was not cleared since. -/
def Calling (trace : List Event) (thread : GThread) : Prop :=
  Since (· = .cleared) (· = .called thread) trace

/-- A call of the thread that began since `__managers` was last cleared returned the manager. -/
def Answered (trace : List Event) (thread : GThread) (manager : Addr) : Prop :=
  ∃ before after, trace = before ++ .called thread :: after ∧ .cleared ∉ after ∧
    .returned thread (some manager) ∈ after

@[simp] theorem not_answered_nil (thread : GThread) (manager : Addr) :
    ¬ Answered [] thread manager := by
  rintro ⟨before, after, split, _⟩
  simp at split

theorem answered_concat {trace : List Event} {event : Event} {thread : GThread} {manager : Addr} :
    Answered (trace ++ [event]) thread manager ↔
      (event = .returned thread (some manager) ∧ Calling trace thread) ∨
        (Answered trace thread manager ∧ event ≠ .cleared) := by
  constructor
  · rintro ⟨before, after, split, kept, answered⟩
    cases after using List.reverseRecOn with
    | nil => simp at answered
    | append_singleton after last =>
        rw [← List.cons_append, ← List.append_assoc] at split
        obtain ⟨rfl, same⟩ := List.append_inj_left' split rfl, List.append_inj_right' split rfl
        obtain rfl : event = last := by simpa using same
        simp only [List.mem_append, List.mem_singleton, not_or] at kept answered
        rcases answered with earlier | rfl
        · exact .inr ⟨⟨before, after, rfl, kept.1, earlier⟩, fun now => kept.2 now.symm⟩
        · exact .inl ⟨rfl, before, _, after, rfl, rfl,
            fun later member same => kept.1 (same ▸ member)⟩
  · rintro (⟨rfl, before, _, after, rfl, rfl, kept⟩ | ⟨⟨before, after, rfl, kept, answered⟩, other⟩)
    · refine ⟨before, after ++ [.returned thread (some manager)], by simp, ?_, by simp⟩
      simpa using fun member => kept _ member rfl
    · exact ⟨before,
        after ++ [event], by simp, by simpa [kept] using other.symm, by simp [answered]⟩

/-- What a thread finds when `__managers` was not cleared since its call began. -/
structure Settled (trace : List Event) (state : State) : Prop where
  /-- Past the checks there is a table. -/
  present : ∀ {thread}, Calling trace thread → state.managers = .null →
    state.position thread ∈ [.check, .initLock, .initCreate]
  /-- A manager is created only for a thread that has none. -/
  absent : ∀ {thread}, state.position thread = .create ∨
    (∃ manager, state.position thread = .insert manager) →
    state.entry thread = none
  stored : ∀ {thread manager}, Calling trace thread →
    state.position thread = .unlock (some manager) → state.entry thread = some manager
  kept : ∀ {thread manager}, Answered trace thread manager → state.managers ≠ .freed →
    state.entry thread = some manager
  same : ∀ {thread manager other}, Answered trace thread manager → Answered trace thread other →
    manager = other

theorem present_of_moves {trace emitted : List Event} {state next : State}
    (settled : Settled trace state) (moves : Moves state emitted next) {thread : GThread}
    (calling : Calling (trace ++ emitted) thread) (null : next.managers = .null) :
    next.position thread ∈ [.check, .initLock, .initCreate] := by
  have present := @settled.present thread
  unfold Calling at *
  cases moves <;> simp only [List.append_nil, since_concat] at calling <;> grind [State.destroy]

theorem absent_of_moves {trace emitted : List Event} {state next : State} (locking : Locking state)
    (settled : Settled trace state) (moves : Moves state emitted next) {thread : GThread}
    (creating : next.position thread = .create ∨ ∃ manager,
      next.position thread = .insert manager) :
    next.entry thread = none := by
  have absent := @settled.absent thread
  obtain ⟨holder, unheld, freed⟩ := locking
  cases moves <;>
    grind [State.entry, Position.locked, State.destroy, HashTable.lookup_insert_eq,
      AList.lookup_empty]

theorem stored_of_moves {trace emitted : List Event} {state next : State} (locking : Locking state)
    (settled : Settled trace state) (moves : Moves state emitted next) {thread : GThread}
    {manager : Addr} (calling : Calling (trace ++ emitted) thread)
    (unlocking : next.position thread = .unlock (some manager)) :
    next.entry thread = some manager := by
  have stored := @settled.stored thread manager
  have present := @settled.present thread
  obtain ⟨holder, unheld, freed⟩ := locking
  unfold Calling at *
  cases moves <;> simp only [List.append_nil, since_concat] at calling <;>
    grind [State.entry, Position.locked, State.destroy, HashTable.lookup_insert_eq,
      AList.lookup_empty]

/-- The table keeps the manager of a thread that was answered. -/
theorem kept_of_moves {trace emitted : List Event} {state next : State} (locking : Locking state)
    (settled : Settled trace state) (moves : Moves state emitted next) {thread : GThread}
    {manager : Addr} (answered : Answered (trace ++ emitted) thread manager)
    (intact : next.managers ≠ .freed) :
    next.entry thread = some manager := by
  have kept := @settled.kept thread manager
  have absent := @settled.absent thread
  have stored := @settled.stored thread manager
  obtain ⟨holder, unheld, freed⟩ := locking
  cases moves <;> simp only [List.append_nil, answered_concat] at answered <;>
    grind [State.entry, Position.locked, State.destroy, HashTable.lookup_insert_eq]

theorem settled_step {trace emitted : List Event} {state next : State} (locking : Locking state)
    (settled : Settled trace state) (moves : Moves state emitted next) :
    Settled (trace ++ emitted) next where
  present := present_of_moves settled moves
  absent := absent_of_moves locking settled moves
  stored := stored_of_moves locking settled moves
  kept := kept_of_moves locking settled moves
  same {thread manager other} first second := by
    cases moves with
    | returned returner value leaving =>
        rw [answered_concat] at first second
        -- the earlier one is still in the table, where the later one was found
        have intact := locking.not_freed
          (show (state.position returner).locked = true by rw [leaving]; rfl)
          (by simp [leaving])
        have stored := @settled.stored thread
        have kept := @settled.kept thread
        have same := @settled.same thread
        grind
    | _ =>
        simp only [List.append_nil, answered_concat] at first second
        have same := @settled.same thread
        grind

/-- Tables that were created and not destroyed, and clears that are due. -/
structure Counted (trace : List Event) (state : State) : Prop where
  created : trace.count .created = trace.count .cleared + (if state.managers = .null then 0 else 1)
  destroyed : trace.count .destroyed =
    trace.count .cleared + (if state.managers = .freed then 1 else 0)

theorem counted_step {trace emitted : List Event} {state next : State} (locking : Locking state)
    (counted : Counted trace state) (moves : Moves state emitted next) :
    Counted (trace ++ emitted) next := by
  obtain ⟨created, destroyed⟩ := counted
  obtain ⟨holder, unheld, freed⟩ := locking
  cases moves <;> constructor <;> simp only [List.append_nil, List.count_append] <;>
    grind [State.destroy, Position.locked]

/-- What a thread returns it was asked for. -/
structure Asked (trace : List Event) (state : State) : Prop where
  calling : .cleared ∉ trace → ∀ {thread}, (state.position thread).getting = true →
    Calling trace thread
  answered : .cleared ∉ trace → ∀ {thread manager}, .returned thread (some manager) ∈ trace →
    Answered trace thread manager

theorem asked_step {trace emitted : List Event} {state next : State} (asked : Asked trace state)
    (moves : Moves state emitted next) : Asked (trace ++ emitted) next := by
  obtain ⟨calling, answered⟩ := asked
  cases moves <;> constructor <;>
    simp only [List.append_nil, Calling, since_concat, answered_concat, List.mem_append,
      List.mem_singleton] at * <;> grind [State.destroy, Position.getting]

/-- What holds of every run. -/
structure Consistent (trace : List Event) (state : State) : Prop where
  locking : Locking state
  owned : Owned trace state
  settled : Settled trace state
  counted : Counted trace state
  asked : Asked trace state

theorem consistent_initial : Consistent [] factory.initial where
  locking := by
    refine ⟨?_, ?_, ?_⟩
    · simp [factory, State.initial, Position.locked]
    · simp [factory, State.initial]
    · simp [factory, State.initial]
  owned := by
    constructor <;> simp [Owner, factory, State.initial, State.entry]
  settled := by
    constructor <;> simp [Calling, factory, State.initial, State.entry]
  counted := by
    constructor <;> simp [factory, State.initial]
  asked := by
    constructor <;> simp [factory, State.initial, Position.getting]

theorem consistent_of_runs {trace : List Event} {state : State} (run : factory.Runs trace state) :
    Consistent trace state := by
  refine Runs.invariant consistent_initial (fun _ consistent transition => ?_) run
  have moves := moves_of_step transition
  exact ⟨locking_step consistent.locking transition,
    owned_step consistent.locking consistent.owned moves,
    settled_step consistent.locking consistent.settled moves,
    counted_step consistent.locking consistent.counted moves, asked_step consistent.asked moves⟩

/-- Who is given `NULL` for a table looks it up or stores into it. -/
theorem nullTable_of_moves {state next : State} {emitted early late : List Event} {thread : GThread}
    (moves : Moves state emitted next) (split : emitted = early ++ .nullTable thread :: late) :
    early = [] ∧ state.managers = .null ∧
      (state.position thread = .lookup ∨ ∃ manager, state.position thread = .insert manager) := by
  cases moves with
  | nullTable reader position using_ null =>
      obtain ⟨rfl, rfl, rfl⟩ : early = [] ∧ thread = reader ∧ late = [] := by
        simpa [List.cons_eq_append_iff] using split
      refine ⟨rfl, null, ?_⟩
      rcases using_ with ⟨looking, _⟩ | ⟨manager, inserting, _⟩
      · exact .inl looking
      · exact .inr ⟨manager, inserting⟩
  | _ => simp [List.cons_eq_append_iff] at split

/-- A call that is given `NULL` for a table began before the last clear. -/
theorem nullTable_uncalled {trace before after : List Event} {state : State} {thread : GThread}
    (run : factory.Runs trace state) (split : trace = before ++ .nullTable thread :: after) :
    ¬ Calling before thread ∧ .cleared ∈ before := by
  obtain ⟨prior, at_, label, next, early, late, rest, reached, transition, _, rfl, _⟩ :=
    Steps.of_event run split
  obtain ⟨rfl, null, past⟩ := nullTable_of_moves (moves_of_step transition) rfl
  have consistent := consistent_of_runs reached
  have uncalled : ¬ Calling prior thread := by
    intro calling
    have unchecked := consistent.settled.present calling null
    rcases past with looking | ⟨manager, inserting⟩
    · simp [looking] at unchecked
    · simp [inserting] at unchecked
  rw [List.append_nil]
  refine ⟨uncalled, by_contra fun kept => uncalled (consistent.asked.calling kept ?_)⟩
  rcases past with looking | ⟨manager, inserting⟩
  · rw [looking]
    rfl
  · rw [inserting]
    rfl

/-- A destroyed table is never used, and two threads are never both under the
lock; GLib is given `NULL` for a table only by a call that began before a clear. -/
theorem teardown_safe {trace : List Event} {state : State} (run : factory.Runs trace state) :
    (∀ thread, .usedFreed thread ∉ trace) ∧
      (∀ thread other, (state.position thread).locked = true →
        (state.position other).locked = true → thread = other) ∧
      ∀ before after thread, trace = before ++ .nullTable thread :: after →
        ¬ Calling before thread := by
  refine ⟨fun thread used => ?_, fun _ _ => (consistent_of_runs run).locking.same,
    fun _ _ _ split => (nullTable_uncalled run split).1⟩
  obtain ⟨before, after, split⟩ := List.append_of_mem used
  obtain ⟨prior, at_, label, next, early, late, rest, reached, transition, _⟩ :=
    Steps.of_event run split
  have locking := (consistent_of_runs reached).locking
  generalize same : early ++ .usedFreed thread :: late = emitted at transition
  cases moves_of_step transition with
  | usedFreed reader inside elsewhere freed => exact locking.not_freed inside elsewhere freed
  | _ => simp [List.append_eq_cons_iff] at same

/-- A thread whose second call read `__managers` before a tear-down. -/
def overtaken : List Label :=
  .getManager 1 :: List.replicate 9 (.advance 1 (some 10)) ++
    [.getManager 1, .advance 1 none, .uninit 2] ++
    List.replicate 4 (.advance 2 none) ++ List.replicate 5 (.advance 1 (some 20))

theorem teardown_safe_overtaken : ∃ before after state,
    factory.Runs (before ++ .nullTable 1 :: after) state ∧ ¬ Calling before 1 := by
  obtain ⟨trace, state, run, missed⟩ := @Runs.of_exec _ _ _ factory overtaken
    (fun _ trace => .nullTable 1 ∈ trace) (by decide +kernel)
  obtain ⟨before, after, rfl⟩ := List.append_of_mem (of_decide_eq_true missed)
  exact ⟨before, after, state, run, (teardown_safe run).2.2 before after 1 rfl⟩

/-- Until the next tear-down the manager a thread was handed exists and is
handed to no other thread; a thread that calls again before the next clear is
handed the same one. -/
theorem manager_until_teardown {trace : List Event} {state : State}
    (run : factory.Runs trace state) :
    (∀ thread manager, Since (· = .destroyed) (· = .returned thread (some manager)) trace →
      manager ∈ state.live ∧
        ∀ other, Since (· = .destroyed) (· = .returned other (some manager)) trace →
          other = thread) ∧
      ∀ thread manager other, Answered trace thread manager → Answered trace thread other →
        manager = other := by
  have consistent := consistent_of_runs run
  refine ⟨fun thread manager handed => ⟨?_, fun other handedToo => ?_⟩,
    fun _ _ _ => consistent.settled.same⟩
  · exact consistent.owned.live (.inr (.inr (.inr handed)))
  · exact consistent.owned.apart (.inr (.inr (.inr handedToo))) (.inr (.inr (.inr handed)))

theorem manager_until_teardown_overtaken : ∃ trace state, factory.Runs trace state ∧
    .destroyed ∈ trace ∧ 20 ∈ state.live := by
  obtain ⟨trace, state, run, accepted⟩ := @Runs.of_exec _ _ _ factory overtaken
    (fun _ trace => .destroyed ∈ trace ∧ trace.getLast? = some (.returned 1 (some 20)))
    (by decide +kernel)
  obtain ⟨destroyed, last⟩ := of_decide_eq_true accepted
  obtain ⟨before, rfl⟩ := List.getLast?_eq_some_iff.mp last
  exact ⟨_, state, run, destroyed,
    ((manager_until_teardown run).1 1 20 ⟨before, _, [], rfl, rfl, by simp⟩).1⟩

/-- While nobody tears the factory down, one table is created, every use finds
it, and the threads are handed one manager each. -/
theorem manager_per_thread {trace : List Event} {state : State} (run : factory.Runs trace state)
    (kept : .destroyed ∉ trace) :
    trace.count .created ≤ 1 ∧ (∀ thread, .nullTable thread ∉ trace) ∧
      (∀ thread manager, .returned thread (some manager) ∈ trace → manager ∈ state.live) ∧
      ∀ thread other manager found, .returned thread (some manager) ∈ trace →
        .returned other (some found) ∈ trace → (manager = found ↔ thread = other) := by
  have consistent := consistent_of_runs run
  have uncleared : trace.count .cleared = 0 ∧ state.managers ≠ .freed := by
    have counted := consistent.counted.destroyed
    rw [List.count_eq_zero_of_not_mem kept] at counted
    split at counted
    · omega
    · exact ⟨by omega, by assumption⟩
  have absent : .cleared ∉ trace := List.count_eq_zero.mp uncleared.1
  have handed : ∀ {thread manager}, .returned thread (some manager) ∈ trace →
      Since (· = .destroyed) (· = .returned thread (some manager)) trace := by
    intro thread manager returned
    obtain ⟨before, after, split⟩ := List.append_of_mem returned
    refine ⟨before, _, after, split, rfl, fun later member same => kept ?_⟩
    rw [split, ← same]
    exact List.mem_append_right _ (List.mem_cons_of_mem _ member)
  refine ⟨?_, fun thread missing => ?_, fun thread manager returned => ?_,
    fun thread other manager found returned returnedToo => ⟨fun same => ?_, fun same => ?_⟩⟩
  · have counted := consistent.counted.created
    split at counted <;> omega
  · obtain ⟨before, after, split⟩ := List.append_of_mem missing
    exact absent (split ▸ List.mem_append_left _ (nullTable_uncalled run split).2)
  · exact consistent.owned.live (.inr (.inr (.inr (handed returned))))
  · exact consistent.owned.apart (.inr (.inr (.inr (handed returned))))
      (.inr (.inr (.inr (handed (same ▸ returnedToo)))))
  · subst same
    exact consistent.settled.same (consistent.asked.answered absent returned)
      (consistent.asked.answered absent returnedToo)

/-- Two threads that both find `__managers` null. -/
def raced : List Label :=
  [.getManager 1, .getManager 2, .advance 1 none, .advance 2 none] ++ List.replicate 3
    (.advance 1 none) ++
    List.replicate 8 (.advance 2 (some 20)) ++ List.replicate 5 (.advance 1 (some 10))

theorem manager_per_thread_raced : ∃ trace state, factory.Runs trace state ∧
    .returned 1 (some 10) ∈ trace ∧ .returned 2 (some 20) ∈ trace ∧ trace.count .created ≤ 1 ∧
    10 ∈ state.live ∧ ∀ found, .returned 1 (some found) ∈ trace → 10 = found := by
  obtain ⟨trace, state, run, accepted⟩ := @Runs.of_exec _ _ _ factory raced
    (fun _ trace => .destroyed ∉ trace ∧ .returned 1 (some 10) ∈ trace ∧
      .returned 2 (some 20) ∈ trace) (by decide +kernel)
  obtain ⟨kept, first, second⟩ := of_decide_eq_true accepted
  obtain ⟨once, _, live, apart⟩ := manager_per_thread run kept
  exact ⟨trace, state, run, first, second, once, live 1 10 first,
    fun found again => (apart 1 1 10 found first again).mpr rfl⟩

/-- The statements a thread still runs in its call, at most. -/
def Position.rank : Position → Nat
  | .outside => 0
  | .unlock _ | .uninitUnlock => 1
  | .insert _ | .uninitClear => 2
  | .create | .uninitDestroy => 3
  | .lookup | .uninitLock => 4
  | .lock => 5
  | .initUnlock => 6
  | .initCreate => 7
  | .initLock => 8
  | .check => 9

/-- The lock is taken at once when nobody else holds it. -/
theorem acquire_enabled {state : State} {thread : GThread} {position : Position}
    (free : state.lock = none ∨ state.lock = some thread) (unheld : state.lock ≠ some thread) :
    state.acquire thread position =
      some ({ state with lock := some thread }.goto thread position, []) :=
  if_pos (free.resolve_right unheld)

/-- A statement of a thread that is not kept waiting brings it closer to its return. -/
theorem advance_enabled {state : State} (locking : Locking state) {thread : GThread}
    (inside : state.position thread ≠ .outside)
    (free : state.lock = none ∨ state.lock = some thread) :
    ∃ allocated next emitted, state.advance thread allocated = some (next, emitted) ∧
      (next.position thread).rank < (state.position thread).rank ∧
      ((state.position thread).getting = true →
        (next.position thread).getting = true ∨ ∃ manager, .returned thread manager ∈ emitted) := by
  have unheld : (state.position thread).locked = false → state.lock ≠ some thread := by
    intro outside held
    rw [(locking.holder thread).mp held] at outside
    cases outside
  have intact : (state.position thread).locked = true → state.position thread ≠ .uninitClear →
      state.managers ≠ .freed := locking.not_freed
  obtain ⟨fresh, unused⟩ := Infinite.exists_notMem_finset state.live.toFinset
  rw [List.mem_toFinset] at unused
  refine ⟨some fresh, ?_⟩
  cases standing : state.position thread <;> rw [standing] at unheld intact <;>
    simp only [State.advance, standing]
  case outside => exact absurd standing inside
  case check => cases state.managers <;> simp [Position.rank, Position.getting]
  case initLock | lock | uninitLock =>
    simp [acquire_enabled free (unheld rfl), Position.rank, Position.getting]
  case initCreate => cases state.managers <;> simp [Position.rank, Position.getting]
  case create => simp [State.create, unused, Position.rank, Position.getting]
  case lookup =>
    cases table : state.managers with
    | freed => exact absurd table (intact rfl (by simp))
    | null => simp [State.lookup, table, Position.rank, Position.getting]
    | table entries =>
        cases found : entries.lookup thread <;>
          simp [State.lookup, table, found, Position.rank, Position.getting]
  case insert manager =>
    cases table : state.managers with
    | freed => exact absurd table (intact rfl (by simp))
    | null | table entries => simp [State.insert, table, Position.rank, Position.getting]
  case uninitDestroy =>
    cases table : state.managers with
    | freed => exact absurd table (intact rfl (by simp))
    | null | table entries => simp [State.destroy, table, Position.rank, Position.getting]
  case initUnlock | unlock | uninitClear | uninitUnlock =>
    simp [State.release, Position.rank, Position.getting]

/-- A statement moves one thread, and leaves it with the lock or nobody with a lock it had. -/
theorem advance_local {state next : State} {thread : GThread} {allocated : Option Addr}
    {emitted : List Event} (free : state.lock = none ∨ state.lock = some thread)
    (transition : state.advance thread allocated = some (next, emitted)) :
    (next.lock = none ∨ next.lock = some thread) ∧
      ∀ other, other ≠ thread → next.position other = state.position other := by
  cases standing : state.position thread <;> simp only [State.advance, standing] at transition
  case create => cases allocated <;> grind [State.create]
  all_goals grind [State.acquire, State.release, State.lookup, State.insert, State.destroy]

/-- What a thread does on its own until it has returned. -/
structure Return (state : State) (thread : GThread) (bound : Nat) where
  labels : List Label
  next : State
  events : List Event
  short : labels.length ≤ bound
  own : ∀ label ∈ labels, ∃ allocated, label = .advance thread allocated
  executed : factory.exec state labels = some (next, events)
  locking : Locking next
  unlocked : next.lock = none
  outside : next.position thread = .outside
  others : ∀ other, other ≠ thread → next.position other = state.position other
  answered : (state.position thread).getting = true → ∃ manager, .returned thread manager ∈ events

/-- A thread that is not kept waiting returns after its own statements. -/
theorem return_of_free {thread : GThread} (rank : Nat) {state : State} (locking : Locking state)
    (bound : (state.position thread).rank ≤ rank)
    (free : state.lock = none ∨ state.lock = some thread) :
    Nonempty (Return state thread rank) := by
  by_cases outside : state.position thread = .outside
  · refine ⟨[], state, [], by simp, by simp, rfl, locking,
      free.resolve_right fun held => ?_, outside,
      fun _ _ => rfl, by simp [outside, Position.getting]⟩
    have inside := (locking.holder thread).mp held
    rw [outside] at inside
    cases inside
  · obtain ⟨allocated, next, emitted, transition, closer, going⟩ :=
      advance_enabled locking outside free
    have lockingNext : Locking next :=
      @locking_step state next (.advance thread allocated) emitted locking transition
    obtain ⟨freeNext, others⟩ := advance_local free transition
    cases rank with
    | zero => omega
    | succ rank =>
        obtain ⟨rest⟩ := return_of_free rank lockingNext (by omega) freeNext
        refine ⟨.advance thread allocated :: rest.labels, rest.next, emitted ++ rest.events,
          by simpa using rest.short, fun label member => ?_, ?_, rest.locking, rest.unlocked,
          rest.outside,
          fun other different => (rest.others other different).trans (others other different),
          fun getting => ?_⟩
        · rcases List.mem_cons.mp member with rfl | later
          · exact ⟨allocated, rfl⟩
          · exact rest.own label later
        · have stepped : factory.step state (.advance thread allocated) =
            some (next, emitted) := transition
          simp only [exec, stepped, rest.executed]
        · rcases going getting with still | ⟨manager, returned⟩
          · obtain ⟨manager, returned⟩ := rest.answered still
            exact ⟨manager, List.mem_append_right _ returned⟩
          · exact ⟨manager, List.mem_append_left _ returned⟩

/-- No thread waits forever: at any time some 16 statements of it and of the
holder of the lock bring it back from the factory, with an answer if it asked
for one. -/
theorem getManager_returns {trace : List Event} {state : State} (run : factory.Runs trace state)
    (thread : GThread) :
    ∃ labels next events, labels.length ≤ 16 ∧
      (∀ label ∈ labels, ∃ runs allocated, label = .advance runs allocated ∧
        (runs = thread ∨ state.lock = some runs)) ∧
      factory.exec state labels = some (next, events) ∧ next.position thread = .outside ∧
      ((state.position thread).getting = true → ∃ manager, .returned thread manager ∈ events) := by
  have locking := (consistent_of_runs run).locking
  have bound : ∀ position : Position, position.rank ≤ 9 := by
    intro position
    cases position <;> simp [Position.rank]
  by_cases free : state.lock = none ∨ state.lock = some thread
  · obtain ⟨rest⟩ := return_of_free 9 locking (bound _) free
    refine ⟨rest.labels, rest.next, rest.events, by have := rest.short; omega,
      fun label member => ?_, rest.executed, rest.outside, rest.answered⟩
    obtain ⟨allocated, rfl⟩ := rest.own label member
    exact ⟨thread, allocated, rfl, .inl rfl⟩
  · obtain ⟨unheld, notOwn⟩ := not_or.mp free
    obtain ⟨holder, held⟩ := Option.ne_none_iff_exists'.mp unheld
    have different : thread ≠ holder := fun same => notOwn (same ▸ held)
    have near : (state.position holder).rank ≤ 7 := by
      have inside := (locking.holder holder).mp held
      cases standing : state.position holder <;> simp_all [Position.rank, Position.locked]
    obtain ⟨first⟩ := return_of_free 7 locking near (.inr held)
    obtain ⟨second⟩ := return_of_free 9 first.locking (bound (first.next.position thread))
      (.inl first.unlocked)
    refine ⟨first.labels ++ second.labels, second.next, first.events ++ second.events, ?_,
      fun label member => ?_,
      exec_append first.executed second.executed, second.outside, fun getting => ?_⟩
    · have short := first.short
      have shortToo := second.short
      rw [List.length_append]
      omega
    · rcases List.mem_append.mp member with early | late
      · obtain ⟨allocated, rfl⟩ := first.own label early
        exact ⟨holder, allocated, rfl, .inr held⟩
      · obtain ⟨allocated, rfl⟩ := second.own label late
        exact ⟨thread, allocated, rfl, .inl rfl⟩
    · rw [← first.others thread different] at getting
      obtain ⟨manager, returned⟩ := second.answered getting
      exact ⟨manager, List.mem_append_right _ returned⟩

theorem getManager_returns_raced : ∃ trace state labels next events, factory.Runs trace state ∧
    factory.exec state labels = some (next, events) ∧ next.position 2 = .outside ∧
    ∃ manager, .returned 2 manager ∈ events := by
  obtain ⟨trace, state, run, getting⟩ := @Runs.of_exec _ _ _ factory (raced.take 5)
    (fun state _ => (state.position 2).getting) (by decide +kernel)
  obtain ⟨labels, next, events, _, _, executed, outside, answered⟩ := getManager_returns run 2
  exact ⟨trace, state, labels, next, events, run, executed, outside, answered getting⟩

end MessagePort.Client.Factory
