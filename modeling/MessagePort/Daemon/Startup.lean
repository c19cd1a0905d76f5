import MessagePort.Logical.HashTable
import MessagePort.Semantics.Since
import MessagePort.Semantics.Execution

/-!
# Daemons start and end

`daemon/main.c`, and the functions of `daemon/dbus-server.c` that start to listen and
stop. Processes that run the daemon share the addresses they listen at, and the name
on the session bus if the program is built to use it.
-/

namespace MessagePort.Daemon.Startup

open Logical Semantics

/-- A process that runs the daemon. -/
abbrev Pid := Nat

/-- The address of a bus: what comes after `unix:path=`, or another text. -/
inductive BusAddress where
  | unixPath (filePath : String)
  | other (address : String)
deriving DecidableEq

/-- `file_path`. -/
def BusAddress.filePath : BusAddress → Option String
  | .unixPath filePath => some filePath
  | .other _ => none

/-- `MESSAGEPORT_BUS_ADDRESS` of `config.h` with its argument, and `USE_SESSION_BUS`. -/
structure Build where
  busAddress : Option BusAddress
  useSessionBus : Bool

/-- What `configure` defines. -/
def Build.default : Build := ⟨some (.unixPath "/tmp/.message-port"), false⟩

/-- The environment variable `MESSAGEPORT_BUS_ADDRESS`, and `g_get_user_runtime_dir`. -/
structure Environment where
  busAddress : Option BusAddress
  runtimeDir : String

/-- The address that `_start_bus_server` comes to, and `msgport_manager_init` without an
answer from the session bus. -/
def Environment.address (environment : Environment) (build : Build) : BusAddress :=
  match environment.busAddress with
  | some address => address
  | none => build.busAddress.getD (.unixPath (environment.runtimeDir ++ "/.message-port"))

/-- What is found at an address. -/
inductive Node where
  /-- The process listens. -/
  | socket (pid : Pid)
  /-- Another file, or the socket that a process left. -/
  | file
deriving DecidableEq

/-- `struct _MsgPortDbusServerPrivate` of a process. -/
structure MsgPortDbusServer where
  /-- Where `bus_server` listens, if there is one. -/
  busServer : Option BusAddress
  address : Option String
  /-- The main loop was quit. -/
  quit : Bool

/-- The addresses, the processes, and which one owns `org.tizen.messageport`. -/
structure State where
  nodes : BusAddress → Option Node
  servers : HashTable Pid MsgPortDbusServer
  owner : Option Pid

/-- What the processes do to the addresses. -/
inductive Event where
  | started (pid : Pid)
  | listening (pid : Pid) (address : BusAddress)
  | unlinked (pid : Pid) (filePath : String)
  | ended (pid : Pid)
deriving DecidableEq

/-- `g_unlink`, which may not be permitted. -/
def unlink (nodes : BusAddress → Option Node) (pid : Pid) (removable : Bool) :
    Option String → (BusAddress → Option Node) × List Event
  | none => (nodes, [])
  | some filePath =>
      if removable ∧ (nodes (.unixPath filePath)).isSome then
        (Function.update nodes (.unixPath filePath) none, [.unlinked pid filePath])
      else (nodes, [])

/-- `_start_bus_server`. The file that is in the way is removed, whatever it is; nothing
can listen at an address that is taken. -/
def startBusServer (nodes : BusAddress → Option Node) (pid : Pid) (address : BusAddress)
    (removable refused : Bool) : (BusAddress → Option Node) × MsgPortDbusServer × List Event :=
  let (cleared, events) := unlink nodes pid removable address.filePath
  if refused ∨ (cleared address).isSome then (cleared, ⟨none, none, false⟩, events)
  else
    (Function.update cleared address (some (.socket pid)), ⟨some address, address.filePath, false⟩,
      events ++ [.listening pid address])

/-- What a process leaves that ends: the file of its socket, but no other address. -/
def leave (nodes : BusAddress → Option Node) (pid : Pid) (address : BusAddress) : Option Node :=
  if nodes address = some (.socket pid) then address.filePath.map fun _ => .file else nodes address

/-- What happens to the processes. -/
inductive Label where
  /-- `main` or `_on_bus_acquired`, up to `msgport_dbus_server_new`. -/
  | start (pid : Pid) (environment : Environment) (removable refused : Bool)
  /-- The process is given the name, and the one that had it `_on_name_lost`. -/
  | acquire (pid : Pid)
  /-- `_on_unix_signal`, or the interface cannot be exported in `_on_bus_acquired`. -/
  | signal (pid : Pid)
  /-- The main loop returns, and `daemon_data_free` disposes of the server and finalizes it. -/
  | finish (pid : Pid) (removable : Bool)
  /-- The process ends at once. -/
  | kill (pid : Pid)

/-- `g_main_loop_quit` in a process. -/
def State.quitLoop (state : State) (pid : Pid) : State :=
  { state with servers := state.servers.modify pid fun server => { server with quit := true } }

/-- One step. That a server could not listen is reported, and its process goes on. -/
def step (build : Build) (state : State) : Label → Option (State × List Event)
  | .start pid environment removable refused =>
      if pid ∈ state.servers then none
      else
        let (nodes, server, events) :=
          startBusServer state.nodes pid (environment.address build) removable refused
        some ({ state with nodes, servers := state.servers.insert pid server },
          .started pid :: events)
  | .acquire pid =>
      if build.useSessionBus ∧ pid ∈ state.servers ∧ state.owner ≠ some pid then
        let told := match state.owner with
          | none => state
          | some other => state.quitLoop other
        some ({ told with owner := some pid }, [])
      else none
  | .signal pid => if pid ∈ state.servers then some (state.quitLoop pid, []) else none
  | .finish pid removable =>
      match state.servers.lookup pid with
      | none => none
      | some server =>
          if server.quit then
            let (nodes, events) := unlink (leave state.nodes pid) pid removable server.address
            some (⟨nodes, state.servers.erase pid,
              if state.owner = some pid then none else state.owner⟩, .ended pid :: events)
          else none
  | .kill pid =>
      if pid ∈ state.servers then
        some (⟨leave state.nodes pid, state.servers.erase pid,
          if state.owner = some pid then none else state.owner⟩, [.ended pid])
      else none

/-- There may be files at first, but no daemon. -/
def daemons (build : Build) (files : String → Bool) : EventSystem State Label Event where
  initial := ⟨fun address => address.filePath.bind fun path =>
    if files path then some .file else none, ∅, none⟩
  step := step build

/-! ## What a step does -/

/-- Nothing but the main loops may differ. -/
def Alike (before after : HashTable Pid MsgPortDbusServer) : Prop :=
  ∀ pid, (after.lookup pid).map (fun server => (server.busServer, server.address)) =
    (before.lookup pid).map fun server => (server.busServer, server.address)

/-- One step of the processes. A process that is killed unlinks nothing. -/
inductive Moves (build : Build) (before : State) : List Event → State → Prop where
  | deaf {pid environment removable nodes events} (new : pid ∉ before.servers)
      (cleared : unlink before.nodes pid removable
        (Environment.address environment build).filePath = (nodes, events)) :
      Moves build before (.started pid :: events)
        { before with nodes, servers := before.servers.insert pid ⟨none, none, false⟩ }
  | listening {pid address removable nodes events} (new : pid ∉ before.servers)
      (cleared : unlink before.nodes pid removable (BusAddress.filePath address) = (nodes, events))
      (free : nodes address = none) :
      Moves build before (.started pid :: (events ++ [.listening pid address]))
        { before with
          nodes := Function.update nodes address (some (.socket pid))
          servers := before.servers.insert pid ⟨some address, address.filePath, false⟩ }
  | told {servers owner} (alike : Alike before.servers servers)
      (owned : ∀ pid, owner = some pid → before.owner = some pid ∨ pid ∈ before.servers) :
      Moves build before [] ⟨before.nodes, servers, owner⟩
  | ended {pid server removable nodes events} (there : before.servers.lookup pid = some server)
      (left : unlink (leave before.nodes pid) pid removable server.address = (nodes, events)) :
      Moves build before (.ended pid :: events)
        ⟨nodes, before.servers.erase pid, if before.owner = some pid then none else before.owner⟩

theorem Alike.refl (servers : HashTable Pid MsgPortDbusServer) :
    Alike servers servers := fun _ => rfl

/-- Quitting a loop changes nothing else. -/
theorem alike_quitLoop (state : State) (pid : Pid) :
    Alike state.servers (state.quitLoop pid).servers := by
  intro other
  rw [State.quitLoop, HashTable.lookup_modify_eq]
  split
  case isTrue same =>
    rw [same, Option.map_map]
    rfl
  · rfl

/-- What may not be removed stays. -/
theorem unlink_kept (nodes : BusAddress → Option Node) (pid : Pid) (address : Option String) :
    unlink nodes pid false address = (nodes, []) := by
  cases address <;> simp [unlink]

/-- A step does one of these things. -/
theorem moves_of_step {build : Build} {before after : State} {label : Label} {emitted : List Event}
    (transition : step build before label = some (after, emitted)) :
    Moves build before emitted after := by
  cases label with
  | start pid environment removable refused =>
      simp only [step] at transition
      split at transition
      · cases transition
      case isFalse new =>
        obtain ⟨rfl, rfl⟩ := Prod.mk.inj (Option.some.inj transition)
        simp only [startBusServer]
        split
        · exact .deaf new rfl
        case isFalse free =>
          rw [not_or, Option.not_isSome_iff_eq_none] at free
          exact .listening new rfl free.2
  | acquire pid =>
      simp only [step] at transition
      split at transition
      case isTrue given =>
        obtain ⟨rfl, rfl⟩ := Prod.mk.inj (Option.some.inj transition)
        have owned : ∀ other, some pid = some other →
            before.owner = some other ∨ other ∈ before.servers := by
          rintro other ⟨⟩
          exact .inr given.2.1
        cases before.owner with
        | none => exact .told (.refl _) owned
        | some other => exact .told (alike_quitLoop before other) owned
      · cases transition
  | signal pid =>
      simp only [step] at transition
      split at transition
      · obtain ⟨rfl, rfl⟩ := Prod.mk.inj (Option.some.inj transition)
        exact .told (alike_quitLoop before pid) fun _ same => .inl same
      · cases transition
  | finish pid removable =>
      simp only [step] at transition
      cases there : before.servers.lookup pid with
      | none => simp [there] at transition
      | some server =>
      rw [there] at transition
      dsimp only at transition
      split at transition
      · obtain ⟨rfl, rfl⟩ := Prod.mk.inj (Option.some.inj transition)
        exact .ended there rfl
      · cases transition
  | kill pid =>
      simp only [step] at transition
      split at transition
      case isTrue there =>
        obtain ⟨server, found⟩ := HashTable.lookup_isSome_iff.mp there
        obtain ⟨rfl, rfl⟩ := Prod.mk.inj (Option.some.inj transition)
        exact .ended found (unlink_kept _ _ _)
      · cases transition

/-! ## Sockets -/

/-- The process does not listen at the address any more. -/
def Gone (pid : Pid) (address : BusAddress) : Event → Prop
  | .ended ended => ended = pid
  | .unlinked _ filePath => address = .unixPath filePath
  | _ => False

/-- A socket is where it was, unless its file is removed. -/
theorem unlink_socket {nodes left : BusAddress → Option Node} {pid : Pid} {removable : Bool}
    {filePath : Option String} {events : List Event}
    (unlinks : unlink nodes pid removable filePath = (left, events)) (address : BusAddress)
    (other : Pid) :
    left address = some (.socket other) ↔
      nodes address = some (.socket other) ∧ ∀ event ∈ events, ¬ Gone other address event := by
  cases filePath with
  | none =>
      obtain ⟨rfl, rfl⟩ := Prod.mk.inj unlinks
      simp
  | some filePath =>
      simp only [unlink] at unlinks
      split at unlinks
      · obtain ⟨rfl, rfl⟩ := Prod.mk.inj unlinks
        by_cases same : address = .unixPath filePath <;> simp [Gone, same]
      · obtain ⟨rfl, rfl⟩ := Prod.mk.inj unlinks
        simp

/-- A process leaves no socket, and those of the others. -/
theorem leave_socket (nodes : BusAddress → Option Node) (pid : Pid) (address : BusAddress)
    (other : Pid) :
    leave nodes pid address = some (.socket other) ↔
      nodes address = some (.socket other) ∧ other ≠ pid := by
  unfold leave
  split
  case isTrue own =>
    rw [own]
    constructor
    · intro stays
      obtain ⟨_, _, same⟩ := Option.map_eq_some_iff.mp stays
      cases same
    · rintro ⟨same, different⟩
      exact absurd (Node.socket.inj (Option.some.inj same)).symm different
  case isFalse different =>
    constructor
    · intro stays
      refine ⟨stays, ?_⟩
      rintro rfl
      exact different stays
    · exact And.left

/-- A socket is the new one, or another one that was there. -/
theorem update_socket {nodes : BusAddress → Option Node} {address : BusAddress}
    (free : nodes address = none) (pid : Pid) (found : BusAddress) (other : Pid) :
    Function.update nodes address (some (.socket pid)) found = some (.socket other) ↔
      (found = address ∧ other = pid) ∨ nodes found = some (.socket other) := by
  by_cases same : found = address
  · subst same
    simp [free, eq_comm]
  · simp [same]

/-- The sockets and the processes fit together. -/
structure Sound (state : State) : Prop where
  bound : ∀ {address pid}, state.nodes address = some (.socket pid) →
    ∃ server, state.servers.lookup pid = some server ∧ server.busServer = some address
  address : ∀ {pid server}, state.servers.lookup pid = some server →
    server.address = server.busServer.bind BusAddress.filePath
  owner : ∀ {pid}, state.owner = some pid → pid ∈ state.servers

/-- No socket is that of a process that is not there. -/
theorem Sound.unbound {state : State} (sound : Sound state) {pid : Pid}
    (missing : pid ∉ state.servers) (address : BusAddress) :
    state.nodes address ≠ some (.socket pid) := by
  intro bound
  obtain ⟨server, there, _⟩ := sound.bound bound
  exact missing (HashTable.lookup_isSome_iff.mpr ⟨server, there⟩)

/-- What a process stores is not changed by a message to its main loop. -/
theorem Alike.stored {before after : HashTable Pid MsgPortDbusServer} (alike : Alike before after)
    {pid : Pid} {server : MsgPortDbusServer} (there : before.lookup pid = some server) :
    ∃ left, after.lookup pid = some left ∧ left.busServer = server.busServer ∧
      left.address = server.address := by
  have same := alike pid
  rw [there, Option.map_some, Option.map_eq_some_iff] at same
  obtain ⟨left, found, stored⟩ := same
  obtain ⟨busServer, address⟩ := Prod.mk.inj stored
  exact ⟨left, found, busServer, address⟩

theorem Alike.symm {before after : HashTable Pid MsgPortDbusServer} (alike : Alike before after) :
    Alike after before := fun pid => (alike pid).symm

theorem Alike.mem {before after : HashTable Pid MsgPortDbusServer} (alike : Alike before after)
    {pid : Pid} (present : pid ∈ before) : pid ∈ after := by
  obtain ⟨server, there⟩ := HashTable.lookup_isSome_iff.mp present
  obtain ⟨left, found, _⟩ := alike.stored there
  exact HashTable.lookup_isSome_iff.mpr ⟨left, found⟩

/-- Every step keeps them so. -/
theorem Sound.moves {build : Build} {before after : State} {emitted : List Event}
    (sound : Sound before) (moves : Moves build before emitted after) : Sound after := by
  have started {pid : Pid} {server : MsgPortDbusServer} (new : pid ∉ before.servers)
      {other : Pid} {found : MsgPortDbusServer} (there : before.servers.lookup other = some found) :
      (before.servers.insert pid server).lookup other = some found := by
    refine HashTable.lookup_insert_some.mpr (.inr ⟨?_, there⟩)
    rintro rfl
    exact new (HashTable.lookup_isSome_iff.mpr ⟨found, there⟩)
  cases moves with
  | deaf new cleared =>
      refine ⟨fun bound => ?_, fun there => ?_,
        fun owned => AList.mem_insert _ |>.mpr (.inr (sound.owner owned))⟩
      · obtain ⟨server, there, listens⟩ := sound.bound ((unlink_socket cleared _ _).mp bound).1
        exact ⟨server, started new there, listens⟩
      · rcases HashTable.lookup_insert_some.mp there with ⟨_, rfl⟩ | ⟨_, there⟩
        · rfl
        · exact sound.address there
  | listening new cleared free =>
      refine ⟨fun bound => ?_, fun there => ?_,
        fun owned => AList.mem_insert _ |>.mpr (.inr (sound.owner owned))⟩
      · rcases (update_socket free _ _ _).mp bound with ⟨rfl, rfl⟩ | bound
        · exact ⟨_, HashTable.lookup_insert_some.mpr (.inl ⟨rfl, rfl⟩), rfl⟩
        · obtain ⟨server, there, listens⟩ := sound.bound ((unlink_socket cleared _ _).mp bound).1
          exact ⟨server, started new there, listens⟩
      · rcases HashTable.lookup_insert_some.mp there with ⟨_, rfl⟩ | ⟨_, there⟩
        · rfl
        · exact sound.address there
  | told alike owned =>
      refine ⟨fun bound => ?_, fun there => ?_, fun {pid} owner => ?_⟩
      · obtain ⟨server, there, listens⟩ := sound.bound bound
        obtain ⟨left, found, busServer, _⟩ := alike.stored there
        exact ⟨left, found, busServer.trans listens⟩
      · obtain ⟨server, found, busServer, address⟩ := alike.symm.stored there
        rw [← busServer, ← address]
        exact sound.address found
      · exact alike.mem ((owned pid owner).elim sound.owner id)
  | ended there left =>
      refine ⟨fun bound => ?_, fun there => sound.address (HashTable.lookup_erase_some.mp there).2,
        fun owned => ?_⟩
      · obtain ⟨stays, different⟩ := (leave_socket _ _ _ _).mp ((unlink_socket left _ _).mp bound).1
        obtain ⟨server, there, listens⟩ := sound.bound stays
        exact ⟨server, HashTable.lookup_erase_some.mpr ⟨different, there⟩, listens⟩
      · split at owned
        · cases owned
        case isFalse different =>
          refine AList.mem_erase.mpr ⟨?_, sound.owner owned⟩
          rintro rfl
          exact different owned

theorem sound_of_runs {build : Build} {files : String → Bool} {trace : List Event} {state : State}
    (run : (daemons build files).Runs trace state) : Sound state := by
  refine @EventSystem.Runs.invariant _ _ _ (daemons build files)
    (fun _ state => Sound state) ?_ ?_ _ _ run
  · refine ⟨fun {address pid} bound => ?_, (by cases ·), (by cases ·)⟩
    obtain ⟨path, _, node⟩ := Option.bind_eq_some_iff.mp bound
    split at node <;> cases node
  · intro trace before label after emitted _ sound transition
    exact sound.moves (moves_of_step transition)

/-! ## Who listens, by the history -/

/-- The process began to listen there, and since then has not ended, and no process
unlinked the file. -/
def Listens (trace : List Event) (pid : Pid) (address : BusAddress) : Prop :=
  Since (Gone pid address) (· = .listening pid address) trace

/-- Unlinking a file lets nobody listen. -/
theorem silent_of_unlink {nodes left : BusAddress → Option Node} {pid other : Pid}
    {removable : Bool} {filePath : Option String} {events : List Event} {event : Event}
    {address : BusAddress} (unlinks : unlink nodes pid removable filePath = (left, events))
    (silent : event ≠ .listening other address) :
    .listening other address ∉ event :: events := by
  rw [List.mem_cons, not_or]
  refine ⟨silent.symm, ?_⟩
  cases filePath with
  | none =>
      obtain ⟨-, rfl⟩ := Prod.mk.inj unlinks
      simp
  | some filePath =>
      simp only [unlink] at unlinks
      split at unlinks
      · obtain ⟨-, rfl⟩ := Prod.mk.inj unlinks
        simp
      · obtain ⟨-, rfl⟩ := Prod.mk.inj unlinks
        simp

/-- Without an event that begins to listen, a process listens if it did and is not gone. -/
theorem listens_append {trace emitted : List Event} {pid : Pid} {address : BusAddress}
    (silent : .listening pid address ∉ emitted) :
    Listens (trace ++ emitted) pid address ↔
      Listens trace pid address ∧ ∀ event ∈ emitted, ¬ Gone pid address event := by
  unfold Listens
  rw [since_append, or_iff_right]
  intro since
  obtain ⟨event, member, rfl⟩ := since.occurred
  exact silent member

/-- A process is found at an address if and only if it listens there by the history. -/
theorem listens_iff {build : Build} {files : String → Bool} {trace : List Event} {state : State}
    (run : (daemons build files).Runs trace state) (pid : Pid) (address : BusAddress) :
    state.nodes address = some (.socket pid) ↔ Listens trace pid address := by
  revert pid address
  refine @EventSystem.Runs.invariant _ _ _ (daemons build files) (fun trace state => ∀ pid address,
    state.nodes address = some (.socket pid) ↔ Listens trace pid address) ?_ ?_ _ _ run
  · intro pid address
    refine iff_of_false (fun bound => ?_) not_since_nil
    obtain ⟨server, there, _⟩ :=
      (sound_of_runs (.refl : (daemons build files).Runs _ _)).bound bound
    cases there
  intro trace before label after emitted prior ih transition pid address
  have sound := sound_of_runs prior
  cases moves_of_step transition with
  | @deaf other environment removable nodes events new cleared =>
      rw [listens_append (silent_of_unlink cleared (by simp)), ← ih, List.forall_mem_cons,
        unlink_socket cleared]
      simp [Gone]
  | @listening other place removable nodes events new cleared free =>
      have split : trace ++ .started other :: (events ++ [.listening other place]) =
          (trace ++ .started other :: events) ++ [.listening other place] := by simp
      have earlier : Listens (trace ++ .started other :: events) pid address ↔
          nodes address = some (.socket pid) := by
        rw [listens_append (silent_of_unlink cleared (by simp)), ← ih, List.forall_mem_cons,
          unlink_socket cleared]
        simp [Gone]
      rw [split, Listens, since_concat]
      show Function.update nodes place _ address = _ ↔ _ ∨ Listens _ _ _ ∧ ¬ False
      rw [earlier, not_false_iff, and_true, update_socket free]
      simp only [Event.listening.injEq, eq_comm, and_comm]
  | told alike =>
      rw [List.append_nil]
      exact ih pid address
  | @ended other server removable nodes events there left =>
      rw [listens_append (silent_of_unlink left (by simp)), ← ih, List.forall_mem_cons,
        unlink_socket left, leave_socket]
      simp only [Gone, and_assoc, ne_comm, ne_eq]

end MessagePort.Daemon.Startup
