import MessagePort.Daemon.Startup
import MessagePort.Daemon.State

/-!
# Which daemon a client is connected to

`msgport_manager_init` of `lib/msgport-manager.c`, with the processes that run the
daemon. A daemon takes the socket of another one away when it starts at its path, and
also when it ends at the path where the other one started after it.
-/

namespace MessagePort.Client.Startup

open Daemon.Startup Logical Semantics

/-- Who takes a connection at an address. -/
def connect (state : State) (address : BusAddress) : Option Pid :=
  match state.nodes address with
  | some (.socket pid) => some pid
  | _ => none

/-- `_handle_get_bus_address`, of the owner of the name. Without a bus server it is an error. -/
def getBusAddress (state : State) : Option BusAddress :=
  (state.owner.bind state.servers.lookup).bind (·.busServer)

/-- `msgport_manager_init`: the process that it is connected to. If the session bus does not
give an address, `error` is freed, and used once more after the connection. -/
def msgportManagerInit (build : Build) (state : State) (environment : Environment) :
    Except Daemon.Fault (Option Pid) :=
  if build.useSessionBus then
    match getBusAddress state with
    | none => .error .useAfterFree
    | some address => .ok (connect state address)
  else .ok (connect state (environment.address build))

/-- The address that a client comes to. -/
def busAddress (build : Build) (state : State) (environment : Environment) : Option BusAddress :=
  if build.useSessionBus then getBusAddress state else some (environment.address build)

theorem connect_iff {state : State} {address : BusAddress} {pid : Pid} :
    connect state address = some pid ↔ state.nodes address = some (.socket pid) := by
  unfold connect
  rcases bound : state.nodes address with _ | found | _ <;> simp

/-- A client is connected to whom it finds at its address. -/
theorem msgportManagerInit_ok_iff {build : Build} {state : State} {environment : Environment}
    {found : Option Pid} :
    msgportManagerInit build state environment = .ok found ↔
      ∃ address, busAddress build state environment = some address ∧
        connect state address = found := by
  unfold msgportManagerInit busAddress
  split
  · cases given : getBusAddress state with
    | none => simp
    | some address => simp
  · simp

/-- In every run, however many daemons start, end and are killed, a client is connected to
the process that began to listen at its address, if that has not ended and no process
unlinked the file since. -/
theorem connected_iff {build : Build} {files : String → Bool} {trace : List Event} {state : State}
    (run : (daemons build files).Runs trace state) (environment : Environment) (pid : Pid) :
    msgportManagerInit build state environment = .ok (some pid) ↔
      ∃ address, busAddress build state environment = some address ∧ Listens trace pid address := by
  simp only [msgportManagerInit_ok_iff, connect_iff, listens_iff run]

/-- A file is in the way of the first daemon, and another daemon starts at another path. -/
theorem connected_iff_two : ∃ trace state, (daemons .default fun _ => true).Runs trace state ∧
    state.servers.keys.length = 2 ∧ ∃ address, Listens trace 1 address := by
  obtain ⟨trace, state, run, accepted⟩ :=
    @EventSystem.Runs.of_exec _ _ _ (daemons .default fun _ => true)
    [.start 1 ⟨none, "/run"⟩ true false, .start 2 ⟨some (.unixPath "/run/bus"), "/run"⟩ true false]
    (fun state _ => state.servers.keys.length = 2 ∧
      msgportManagerInit .default state ⟨none, "/run"⟩ = .ok (some 1)) (by decide)
  obtain ⟨two, connected⟩ := of_decide_eq_true accepted
  obtain ⟨address, _, listens⟩ := (connected_iff run _ 1).mp connected
  exact ⟨trace, state, run, two, address, listens⟩

/-! ## One daemon at a time -/

/-- A daemon starts when no other one is there. -/
def alone (state : State) : Label → Bool
  | .start .. => state.servers.keys = []
  | _ => true

/-- Only a start is reported as one. -/
theorem label_of_started {build : Build} {before after : State} {label : Label} {pid : Pid}
    {events : List Event}
    (transition : step build before label = some (after, .started pid :: events)) :
    ∃ environment removable refused, label = .start pid environment removable refused := by
  cases label with
  | start other environment removable refused =>
      simp only [step] at transition
      split at transition
      · cases transition
      · obtain ⟨_, emitted⟩ := Prod.mk.inj (Option.some.inj transition)
        obtain ⟨⟨⟩, _⟩ := List.cons.inj emitted
        exact ⟨_, _, _, rfl⟩
  | _ =>
      simp only [step] at transition
      repeat' split at transition
      all_goals simp at transition

/-- There is at most one process, and it is found where it listens. -/
structure Single (state : State) : Prop where
  only : ∀ {pid other}, pid ∈ state.servers → other ∈ state.servers → pid = other
  bound : ∀ {pid server address}, state.servers.lookup pid = some server →
    server.busServer = some address → state.nodes address = some (.socket pid)

theorem single_of_runs {build : Build} {files : String → Bool} {trace : List Event} {state : State}
    (run : ((daemons build files).restrict alone).Runs trace state) : Single state := by
  refine @EventSystem.Runs.invariant _ _ _ ((daemons build files).restrict alone)
    (fun _ state => Single state)
    ⟨(by simp [daemons, EventSystem.restrict]), (by rintro _ _ _ ⟨⟩)⟩ ?_ _ _ run
  intro trace before label after emitted _ single transition
  obtain ⟨condition, transition⟩ := EventSystem.restrict_step transition
  have first {pid other : Pid} {events : List Event} (starts : emitted = .started pid :: events) :
      other ∉ before.servers := by
    subst starts
    obtain ⟨_, _, _, rfl⟩ := label_of_started transition
    have empty : before.servers.keys = [] := of_decide_eq_true condition
    intro there
    have key : other ∈ before.servers.keys := AList.mem_keys.mpr there
    rw [empty] at key
    cases key
  have own {pid other : Pid} {server : MsgPortDbusServer} {events : List Event}
      (starts : emitted = .started pid :: events)
      (there : other ∈ before.servers.insert pid server) : other = pid :=
    ((AList.mem_insert _).mp there).resolve_right (first starts)
  cases moves_of_step transition with
  | deaf new cleared =>
      refine ⟨fun one two => (own rfl one).trans (own rfl two).symm, fun there listens => ?_⟩
      rcases HashTable.lookup_insert_some.mp there with ⟨_, rfl⟩ | ⟨_, old⟩
      · cases listens
      · exact absurd (HashTable.lookup_isSome_iff.mpr ⟨_, old⟩) (first rfl)
  | listening new cleared free =>
      refine ⟨fun one two => (own rfl one).trans (own rfl two).symm, fun there listens => ?_⟩
      rcases HashTable.lookup_insert_some.mp there with ⟨rfl, rfl⟩ | ⟨_, old⟩
      · cases listens
        exact Function.update_self ..
      · exact absurd (HashTable.lookup_isSome_iff.mpr ⟨_, old⟩) (first rfl)
  | told alike =>
      refine ⟨fun one two => single.only (alike.symm.mem one) (alike.symm.mem two),
        fun there listens => ?_⟩
      obtain ⟨server, found, busServer, _⟩ := alike.symm.stored there
      exact single.bound found (busServer.trans listens)
  | ended there left =>
      have ended := HashTable.lookup_isSome_iff.mpr ⟨_, there⟩
      refine ⟨fun one two => single.only (AList.mem_erase.mp one).2 (AList.mem_erase.mp two).2,
        fun stays listens => ?_⟩
      obtain ⟨different, old⟩ := HashTable.lookup_erase_some.mp stays
      exact absurd (single.only (HashTable.lookup_isSome_iff.mpr ⟨_, old⟩) ended) different

/-- While daemons start one at a time, however they end, a client is connected to the daemon
exactly if it listens, at the client's address or as the owner of the name. -/
theorem connected_alone {build : Build} {files : String → Bool} {trace : List Event} {state : State}
    (run : ((daemons build files).restrict alone).Runs trace state) (environment : Environment)
    (pid : Pid) :
    msgportManagerInit build state environment = .ok (some pid) ↔
      ∃ server address, state.servers.lookup pid = some server ∧ server.busServer = some address ∧
        if build.useSessionBus then state.owner = some pid
        else environment.address build = address := by
  have single := single_of_runs run
  have sound := sound_of_runs run.of_restrict
  rw [msgportManagerInit_ok_iff]
  constructor
  · rintro ⟨address, asked, connected⟩
    obtain ⟨server, there, listens⟩ := sound.bound (connect_iff.mp connected)
    refine ⟨server, address, there, listens, ?_⟩
    unfold busAddress getBusAddress at asked
    split at asked
    case isTrue session =>
      obtain ⟨found, owner, _⟩ := Option.bind_eq_some_iff.mp asked
      obtain ⟨other, owned, _⟩ := Option.bind_eq_some_iff.mp owner
      rw [if_pos session, owned, single.only (sound.owner owned)
        (HashTable.lookup_isSome_iff.mpr ⟨server, there⟩)]
    case isFalse session =>
      rw [if_neg session]
      exact Option.some.inj asked
  · rintro ⟨server, address, there, listens, asked⟩
    refine ⟨address, ?_, connect_iff.mpr (single.bound there listens)⟩
    unfold busAddress getBusAddress
    split at asked
    case isTrue session =>
      rw [if_pos session, asked, Option.bind_some, there, Option.bind_some, listens]
    case isFalse session =>
      rw [if_neg session, asked]

/-- A daemon is killed, and another one finds its socket in the way. -/
theorem connected_alone_restarted : ∃ trace state,
    ((daemons .default fun _ => false).restrict alone).Runs trace state ∧
    .unlinked 2 "/tmp/.message-port" ∈ trace ∧
    ∀ environment, environment.busAddress = none →
      msgportManagerInit .default state environment = .ok (some 2) := by
  obtain ⟨trace, state, run, accepted⟩ := @EventSystem.Runs.of_exec _ _ _
    ((daemons .default fun _ => false).restrict alone)
    [.start 1 ⟨none, "/run"⟩ true false, .kill 1, .start 2 ⟨none, "/run"⟩ true false]
    (fun state trace => .unlinked 2 "/tmp/.message-port" ∈ trace ∧
      (state.servers.lookup 2).any fun server =>
      server.busServer = some (.unixPath "/tmp/.message-port")) (by decide)
  obtain ⟨removed, listens⟩ := of_decide_eq_true accepted
  obtain ⟨server, there, listens⟩ := (Option.any_eq_true _ _).mp listens
  refine ⟨trace, state, run, removed, fun environment unset => ?_⟩
  refine (connected_alone run environment 2).mpr ⟨server, _, there, of_decide_eq_true listens, ?_⟩
  rw [Environment.address, unset]
  rfl

/-! ## A daemon that is replaced -/

/-- A process ends, and unlinks its path if it can: nothing is found there. -/
theorem finish_unlinks {build : Build} {files : String → Bool} {before after : State} {pid : Pid}
    {server : MsgPortDbusServer} {filePath : String} {emitted : List Event}
    (there : before.servers.lookup pid = some server) (stored : server.address = some filePath)
    (transition : (daemons build files).step before (.finish pid true) = some (after, emitted)) :
    after.nodes (.unixPath filePath) = none := by
  simp only [daemons, step, there, stored] at transition
  split at transition
  · obtain ⟨rfl, _⟩ := Prod.mk.inj (Option.some.inj transition)
    simp only [unlink]
    split
    · exact Function.update_self ..
    case isFalse absent =>
      simpa using absent
  · cases transition

/-- After a daemon ended by itself and was permitted to unlink its path, every client that
comes to this path is connected to nobody, until a daemon begins to listen there anew: one
that began before, as the one that replaced it, is not found any more. -/
theorem replaced_unreached {build : Build} {files : String → Bool}
    {trace emitted events : List Event} {before between after : State} {pid : Pid}
    {server : MsgPortDbusServer} {filePath : String} (run : (daemons build files).Runs trace before)
    (there : before.servers.lookup pid = some server) (stored : server.address = some filePath)
    (ends : (daemons build files).step before (.finish pid true) = some (between, emitted))
    (steps : (daemons build files).Steps between events after)
    (still : ∀ next, .listening next (.unixPath filePath) ∉ events) {environment : Environment}
    (asked : busAddress build after environment = some (.unixPath filePath)) :
    msgportManagerInit build after environment = .ok none := by
  have ended : (daemons build files).Runs (trace ++ emitted) between := run.snoc ends
  refine msgportManagerInit_ok_iff.mpr ⟨_, asked, ?_⟩
  cases found : connect after (.unixPath filePath) with
  | none => rfl
  | some other =>
      have listens := (listens_iff (ended.trans steps) other _).mp (connect_iff.mp found)
      rw [listens_append (still other), ← listens_iff ended,
        finish_unlinks there stored ends] at listens
      cases listens.1

/-- A daemon replaces another one on the session bus. -/
def replaced : List Label :=
  [.start 1 ⟨none, "/run"⟩ true false, .acquire 1, .start 2 ⟨none, "/run"⟩ true false, .acquire 2]

/-- The second daemon listens and has the name, but is not found once the first one ended. -/
theorem replaced_unreached_second : ∃ trace state,
    (daemons ⟨none, true⟩ fun _ => false).Runs trace state ∧ state.owner = some 2 ∧
    .listening 2 (.unixPath "/run/.message-port") ∈ trace ∧
    msgportManagerInit ⟨none, true⟩ state ⟨none, "/run"⟩ = .ok none := by
  obtain ⟨trace, before, run, accepted⟩ :=
    @EventSystem.Runs.of_exec _ _ _ (daemons ⟨none, true⟩ fun _ => false)
    replaced (fun before trace => .listening 2 (.unixPath "/run/.message-port") ∈ trace ∧
      ((before.servers.lookup 1).any fun server => server.address = some "/run/.message-port") ∧
      ((daemons ⟨none, true⟩ fun _ => false).step before (.finish 1 true)).any fun next =>
        next.1.owner = some 2 ∧
          busAddress ⟨none, true⟩ next.1 ⟨none, "/run"⟩ = some (.unixPath "/run/.message-port"))
            (by decide)
  obtain ⟨listening, stored, next⟩ := of_decide_eq_true accepted
  obtain ⟨server, there, stored⟩ := (Option.any_eq_true _ _).mp stored
  obtain ⟨⟨after, emitted⟩, ends, next⟩ := (Option.any_eq_true _ _).mp next
  obtain ⟨owner, asked⟩ := of_decide_eq_true next
  exact ⟨_, after, run.snoc ends, owner, List.mem_append_left _ listening,
    replaced_unreached run there (of_decide_eq_true stored) ends .refl (by simp) asked⟩

end MessagePort.Client.Startup
