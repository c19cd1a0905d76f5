import Mathlib.Logic.Function.Basic
import MessagePort.Client.Service
import MessagePort.Semantics.Since

/-!
# The managers of the threads

`lib/msgport-factory.c`: the process keeps one `MsgPortManager` for each of its
threads in the table `__managers`, which `msgport_factory_get_manager` first
reads without the lock. A step runs one statement of one thread, memory is
sequentially consistent, and a thread is known by its `GThread` alone. GLib
answers a lookup in the table `NULL` with `NULL`, and ignores an insertion.
-/

namespace MessagePort.Client.Factory

open Daemon (Addr)
open Logical Semantics EventSystem

/-- A `GThread`, by its address. -/
abbrev GThread := Nat

/-- The pointer `__managers`. -/
inductive Managers where
  | null
  | table (entries : HashTable GThread Addr)
  /-- The table was destroyed and the pointer still points to it. -/
  | freed
deriving DecidableEq

/-- The statement a thread runs next. -/
inductive Position where
  | outside
  /-- `if (!__managers) msgport_factory_init ();` -/
  | check
  | initLock
  | initCreate
  | initUnlock
  | lock
  | lookup
  | create
  | insert (manager : Addr)
  | unlock (manager : Option Addr)
  | uninitLock
  | uninitDestroy
  | uninitClear
  | uninitUnlock
deriving DecidableEq, Repr

/-- Between `G_LOCK` and `G_UNLOCK`. -/
def Position.locked : Position → Bool
  | .initCreate | .initUnlock | .lookup | .create | .insert _ | .unlock _ => true
  | .uninitDestroy | .uninitClear | .uninitUnlock => true
  | .outside | .check | .initLock | .lock | .uninitLock => false

/-- Inside `msgport_factory_get_manager`. -/
def Position.getting : Position → Bool
  | .check | .initLock | .initCreate | .initUnlock | .lock | .lookup | .create | .insert
      _ | .unlock _ => true
  | .outside | .uninitLock | .uninitDestroy | .uninitClear | .uninitUnlock => false

/-- The memory the threads of a process share, and where each of them is. -/
structure State where
  managers : Managers
  /-- Who holds the lock `managers`. -/
  lock : Option GThread
  /-- The `MsgPortManager` objects that exist. -/
  live : List Addr
  position : GThread → Position

/-- What is observed of the factory. -/
inductive Event where
  /-- `msgport_factory_get_manager` was called. -/
  | called (thread : GThread)
  | returned (thread : GThread) (manager : Option Addr)
  /-- A table was stored in `__managers`. -/
  | created
  | destroyed
  /-- `NULL` was stored in `__managers`. -/
  | cleared
  /-- GLib was given `NULL` in place of a table. -/
  | nullTable (thread : GThread)
  /-- GLib was given a table that was destroyed. -/
  | usedFreed (thread : GThread)
deriving DecidableEq, Repr

namespace State

/-- A process that has used the factory in none of its threads. -/
def initial : State := ⟨.null, none, [], fun _ => .outside⟩

/-- The thread goes on to a statement. -/
def goto (state : State) (thread : GThread) (position : Position) : State :=
  { state with position := Function.update state.position thread position }

@[simp, grind =] theorem goto_position (state : State) (thread other : GThread)
    (position : Position) :
    (state.goto thread position).position other =
      if other = thread then position else state.position other :=
  Function.update_apply ..

@[simp, grind =] theorem goto_managers (state : State) (thread : GThread) (position : Position) :
    (state.goto thread position).managers = state.managers := rfl

@[simp, grind =] theorem goto_lock (state : State) (thread : GThread) (position : Position) :
    (state.goto thread position).lock = state.lock := rfl

@[simp, grind =] theorem goto_live (state : State) (thread : GThread) (position : Position) :
    (state.goto thread position).live = state.live := rfl

/-- `G_LOCK`, which waits until nobody holds the lock. -/
def acquire (state : State) (thread : GThread) (position : Position) :
    Option (State × List Event) :=
  if state.lock = none then some ({ state with lock := some thread }.goto thread position, [])
  else none

/-- `G_UNLOCK`. -/
def release (state : State) (thread : GThread) (position : Position) : State :=
  { state with lock := none }.goto thread position

/-- `g_hash_table_lookup (__managers, self_thread)`, and the statement after it. -/
def lookup (state : State) (thread : GThread) : State × List Event :=
  match state.managers with
  | .null => (state.goto thread .create, [.nullTable thread])
  | .freed => (state, [.usedFreed thread])
  | .table entries =>
      match entries.lookup thread with
      | none => (state.goto thread .create, [])
      | some manager => (state.goto thread (.unlock (some manager)), [])

/-- `g_hash_table_insert (__managers, self_thread, manager)`. -/
def insert (state : State) (thread : GThread) (manager : Addr) : State × List Event :=
  match state.managers with
  | .null => (state.goto thread (.unlock (some manager)), [.nullTable thread])
  | .freed => (state, [.usedFreed thread])
  | .table entries =>
      ({ state with managers := .table (entries.insert thread manager) }.goto thread
        (.unlock (some manager)), [])

/-- `g_hash_table_destroy (__managers)` drops the only reference to each manager
of the table; there is nothing to do without a table. -/
def destroy (state : State) (thread : GThread) : State × List Event :=
  match state.managers with
  | .null => (state.goto thread .uninitUnlock, [])
  | .freed => (state, [.usedFreed thread])
  | .table entries =>
      ({ state with
          managers := .freed
          live := state.live.filter fun manager => entries.keys.all fun key =>
            entries.lookup key ≠ some manager }.goto thread .uninitClear,
        [.destroyed])

/-- `msgport_manager_new`, with what `g_object_new` returns. -/
def create (state : State) (thread : GThread) : Option Addr → Option (State × List Event)
  | none => some (state.goto thread (.unlock none), [])
  | some manager =>
      if manager ∈ state.live then none
      else some ({ state with live := manager :: state.live }.goto thread (.insert manager), [])

/-- One statement of `msgport_factory_get_manager`, `msgport_factory_init` or
`msgport_factory_uninit`. -/
def advance (state : State) (thread : GThread) (allocated : Option Addr) :
    Option (State × List Event) :=
  match state.position thread with
  | .outside => none
  | .check =>
      match state.managers with
      | .null => some (state.goto thread .initLock, [])
      | .table _ | .freed => some (state.goto thread .lock, [])
  | .initLock => state.acquire thread .initCreate
  | .initCreate =>
      match state.managers with
      | .null => some ({ state with managers := .table ∅ }.goto thread .initUnlock, [.created])
      | .table _ | .freed => some (state.goto thread .initUnlock, [])
  | .initUnlock => some (state.release thread .lock, [])
  | .lock => state.acquire thread .lookup
  | .lookup => some (state.lookup thread)
  | .create => state.create thread allocated
  | .insert manager => some (state.insert thread manager)
  | .unlock manager => some (state.release thread .outside, [.returned thread manager])
  | .uninitLock => state.acquire thread .uninitDestroy
  | .uninitDestroy => some (state.destroy thread)
  | .uninitClear => some ({ state with managers := .null }.goto thread .uninitUnlock, [.cleared])
  | .uninitUnlock => some (state.release thread .outside, [])

end State

/-- The choices made outside the factory. -/
inductive Label where
  | getManager (thread : GThread)
  | uninit (thread : GThread)
  /-- The thread runs its next statement; `allocated` is the address of a manager it creates. -/
  | advance (thread : GThread) (allocated : Option Addr)
deriving DecidableEq

/-- One step of a process. -/
def step (state : State) : Label → Option (State × List Event)
  | .getManager thread =>
      if state.position thread = .outside then some (state.goto thread .check, [.called thread])
      else none
  | .uninit thread =>
      if state.position thread = .outside then some (state.goto thread .uninitLock, []) else none
  | .advance thread allocated => state.advance thread allocated

/-- The factory, used by any number of threads. -/
def factory : EventSystem State Label Event := ⟨.initial, step⟩

/-- The thread between lock and unlock is the one that holds the lock, and the
table is a destroyed one only while the holder is about to clear it. -/
structure Locking (state : State) : Prop where
  holder : ∀ thread, state.lock = some thread ↔ (state.position thread).locked = true
  unheld : state.lock = none → state.managers ≠ .freed
  freed : ∀ thread, state.lock = some thread →
    (state.managers = .freed ↔ state.position thread = .uninitClear)

namespace Locking

variable {state : State}

/-- Two threads are never both between lock and unlock. -/
theorem same (locking : Locking state) {thread other : GThread}
    (inside : (state.position thread).locked = true) (also : (state.position other).locked = true) :
    thread = other := by
  have held := (locking.holder thread).mpr inside
  have heldToo := (locking.holder other).mpr also
  exact Option.some.inj (held.symm.trans heldToo)

/-- Whoever holds the lock at another statement than the last of a tear-down
does not find a destroyed table. -/
theorem not_freed (locking : Locking state) {thread : GThread}
    (inside : (state.position thread).locked = true)
    (elsewhere : state.position thread ≠ .uninitClear) :
    state.managers ≠ .freed := by
  intro freed
  exact elsewhere ((locking.freed thread ((locking.holder thread).mpr inside)).mp freed)

end Locking

/-- What a step did. -/
inductive Moves (before : State) : List Event → State → Prop where
  | called (thread) (outside : before.position thread = .outside) :
      Moves before [.called thread] (before.goto thread .check)
  | uninit (thread) (outside : before.position thread = .outside) :
      Moves before [] (before.goto thread .uninitLock)
  | absent (thread) (reading : before.position thread = .check) (null : before.managers = .null) :
      Moves before [] (before.goto thread .initLock)
  | present (thread) (reading : before.position thread = .check)
      (notNull : before.managers ≠ .null) :
      Moves before [] (before.goto thread .lock)
  | acquired (thread position) (waiting : (before.position thread, position) ∈
        [(Position.initLock, Position.initCreate), (.lock, .lookup), (.uninitLock, .uninitDestroy)])
      (free : before.lock = none) :
      Moves before [] ({ before with lock := some thread }.goto thread position)
  | created (thread) (creating : before.position thread = .initCreate)
      (null : before.managers = .null) :
      Moves before [.created] ({ before with managers := .table ∅ }.goto thread .initUnlock)
  | existed (thread) (creating : before.position thread = .initCreate)
      (notNull : before.managers ≠ .null) :
      Moves before [] (before.goto thread .initUnlock)
  | left (thread position) (leaving : (before.position thread, position) ∈
        [(Position.initUnlock, Position.lock), (.uninitUnlock, .outside)]) :
      Moves before [] ({ before with lock := none }.goto thread position)
  | returned (thread manager) (leaving : before.position thread = .unlock manager) :
      Moves before [.returned thread manager] ({ before with lock := none }.goto thread .outside)
  | missed (thread entries) (looking : before.position thread = .lookup)
      (table : before.managers = .table entries) (absent : entries.lookup thread = none) :
      Moves before [] (before.goto thread .create)
  | found (thread entries manager) (looking : before.position thread = .lookup)
      (table : before.managers = .table entries) (present : entries.lookup thread = some manager) :
      Moves before [] (before.goto thread (.unlock (some manager)))
  | failed (thread) (creating : before.position thread = .create) :
      Moves before [] (before.goto thread (.unlock none))
  | allocated (thread manager) (creating : before.position thread = .create)
      (fresh : manager ∉ before.live) :
      Moves before [] ({ before with live := manager :: before.live }.goto thread (.insert manager))
  | inserted (thread entries manager) (inserting : before.position thread = .insert manager)
      (table : before.managers = .table entries) :
      Moves before []
        ({ before with managers := .table (entries.insert thread manager) }.goto thread
        (.unlock (some manager)))
  | nullTable (thread position) (using_ : (before.position thread = .lookup ∧ position = .create) ∨
        ∃ manager, before.position thread = .insert manager ∧ position = .unlock (some manager))
      (null : before.managers = .null) :
        Moves before [.nullTable thread] (before.goto thread position)
  | usedFreed (thread) (using_ : (before.position thread).locked = true)
      (elsewhere : before.position thread ≠ .uninitClear) (freed : before.managers = .freed) :
      Moves before [.usedFreed thread] before
  | spared (thread) (destroying : before.position thread = .uninitDestroy)
      (null : before.managers = .null) :
      Moves before [] (before.goto thread .uninitUnlock)
  | destroyed (thread entries) (destroying : before.position thread = .uninitDestroy)
      (table : before.managers = .table entries) :
      Moves before [.destroyed] (before.destroy thread).1
  | cleared (thread) (clearing : before.position thread = .uninitClear) :
      Moves before [.cleared] ({ before with managers := .null }.goto thread .uninitUnlock)

/-- The lock is taken by one who waits for it. -/
theorem moves_of_acquire {state next : State} {thread : GThread} {position : Position}
    {emitted : List Event}
    (waiting : (state.position thread, position) ∈
      [(Position.initLock, Position.initCreate), (.lock, .lookup), (.uninitLock, .uninitDestroy)])
    (transition : state.acquire thread position = some (next, emitted)) :
    Moves state emitted next := by
  unfold State.acquire at transition
  split at transition
  case isTrue free =>
    cases transition
    exact .acquired thread position waiting free
  · cases transition

theorem moves_of_lookup {state : State} {thread : GThread}
    (looking : state.position thread = .lookup) :
    Moves state (state.lookup thread).2 (state.lookup thread).1 := by
  unfold State.lookup
  split
  · exact .nullTable thread .create (.inl ⟨looking, rfl⟩) ‹_›
  · exact .usedFreed thread (by rw [looking]; rfl) (by simp [looking]) ‹_›
  case h_3 entries table =>
    split
    · exact .missed thread entries looking table ‹_›
    case h_2 manager present =>
      exact .found thread entries manager looking table present

theorem moves_of_insert {state : State} {thread : GThread} {manager : Addr}
    (inserting : state.position thread = .insert manager) :
    Moves state (state.insert thread manager).2 (state.insert thread manager).1 := by
  unfold State.insert
  split
  · exact .nullTable thread _ (.inr ⟨manager, inserting, rfl⟩) ‹_›
  · exact .usedFreed thread (by rw [inserting]; rfl) (by simp [inserting]) ‹_›
  case h_3 entries table =>
    exact .inserted thread entries manager inserting table

theorem moves_of_destroy {state : State} {thread : GThread}
    (destroying : state.position thread = .uninitDestroy) :
    Moves state (state.destroy thread).2 (state.destroy thread).1 := by
  cases table : state.managers with
  | null => simpa [State.destroy, table] using Moves.spared thread destroying table
  | freed =>
      simpa [State.destroy, table] using
        Moves.usedFreed thread (by rw [destroying]; rfl) (by simp [destroying]) table
  | table entries =>
      simpa [State.destroy, table] using Moves.destroyed thread entries destroying table

theorem moves_of_create {state next : State} {thread : GThread} {allocated : Option Addr}
    {emitted : List Event} (creating : state.position thread = .create)
    (transition : state.create thread allocated = some (next, emitted)) :
    Moves state emitted next := by
  cases allocated with
  | none =>
      cases transition
      exact .failed thread creating
  | some manager =>
      simp only [State.create] at transition
      split at transition
      · cases transition
      case isFalse fresh =>
        cases transition
        exact .allocated thread manager creating fresh

theorem moves_of_advance {state next : State} {thread : GThread} {allocated : Option Addr}
    {emitted : List Event} (transition : state.advance thread allocated = some (next, emitted)) :
    Moves state emitted next := by
  cases standing : state.position thread <;> simp only [State.advance, standing] at transition
  case outside => cases transition
  case check =>
    cases managers : state.managers <;> rw [managers] at transition <;> cases transition
    · exact .absent thread standing managers
    · exact .present thread standing (by simp [managers])
    · exact .present thread standing (by simp [managers])
  case initLock => exact moves_of_acquire (by simp [standing]) transition
  case initCreate =>
    cases managers : state.managers <;> rw [managers] at transition <;> cases transition
    · exact .created thread standing managers
    · exact .existed thread standing (by simp [managers])
    · exact .existed thread standing (by simp [managers])
  case initUnlock =>
    cases transition
    exact .left thread .lock (by simp [standing])
  case lock => exact moves_of_acquire (by simp [standing]) transition
  case lookup => simpa only [Option.some.inj transition] using moves_of_lookup standing
  case create => exact moves_of_create standing transition
  case insert manager => simpa only [Option.some.inj transition] using moves_of_insert standing
  case unlock manager =>
    cases transition
    exact .returned thread manager standing
  case uninitLock => exact moves_of_acquire (by simp [standing]) transition
  case uninitDestroy => simpa only [Option.some.inj transition] using moves_of_destroy standing
  case uninitClear =>
    cases transition
    exact .cleared thread standing
  case uninitUnlock =>
    cases transition
    exact .left thread .outside (by simp [standing])

/-- Every step is one of the listed moves. -/
theorem moves_of_step {state next : State} {label : Label} {emitted : List Event}
    (transition : step state label = some (next, emitted)) : Moves state emitted next := by
  cases label with
  | getManager thread =>
      simp only [step] at transition
      split at transition
      case isTrue outside =>
        cases transition
        exact .called thread outside
      · cases transition
  | uninit thread =>
      simp only [step] at transition
      split at transition
      case isTrue outside =>
        cases transition
        exact .uninit thread outside
      · cases transition
  | advance thread allocated => exact moves_of_advance transition

theorem locking_step {state next : State} {label : Label} {emitted : List Event}
    (locking : Locking state) (transition : step state label = some (next, emitted)) :
    Locking next := by
  obtain ⟨holder, unheld, freed⟩ := locking
  cases moves_of_step transition <;> clear transition <;> constructor <;> grind
    [Position.locked, State.destroy]

end MessagePort.Client.Factory
