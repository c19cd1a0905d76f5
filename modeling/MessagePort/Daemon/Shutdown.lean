import MessagePort.Daemon.Registry

/-!
# Shutting down

`_dispose` of `daemon/dbus-server.c`. No new connection is accepted and no closed one
is noticed any more; then every dbus manager is released, in any order. The registry
goes with the last of them, and every service with its owner.
-/

namespace MessagePort.Daemon

open Logical Semantics

namespace DbusServer

/-- The dbus managers are released one after the other. -/
def unrefDbusManagers (state : State) : List Conn → Except Fault State
  | [] => .ok state
  | conn :: next =>
      match DbusManager.dispose
        { state with dbusManagers := state.dbusManagers.erase conn } conn with
      | .error fault => .error fault
      | .ok disposed => unrefDbusManagers disposed next

/-- `_dispose`. `visit` is the order in which `g_hash_table_unref` releases the values. -/
def dispose (state : State) (visit : List Conn) : Except Fault State :=
  unrefDbusManagers state (state.dbusManagers.visitOrder visit)

end DbusServer

/-- Services that are live stay so until their turn comes. -/
theorem Manager.unrefDbusManagerCb_total {state : State} (objects : Objects state)
    {list : List Addr} (once : list.Nodup)
    (live : ∀ addr ∈ list, ∃ service, state.services.lookup addr = some service) :
    ∃ after, unrefDbusManagerCb state list = .ok after := by
  induction list generalizing state with
  | nil => exact ⟨state, rfl⟩
  | cons head next ih =>
      obtain ⟨service, here⟩ := live head List.mem_cons_self
      obtain ⟨apart, rest⟩ := List.nodup_cons.mp once
      have removed := cacheRemove_releases objects (guintToPointer service.id)
      simp only [unrefDbusManagerCb, State.deref, here]
      refine ih (objects.releases removed) rest fun addr member => ?_
      obtain ⟨other, there⟩ := live addr (List.mem_cons_of_mem _ member)
      refine ⟨other, (removed.services addr other).mpr ⟨there, fun cached => ?_⟩⟩
      rw [objects.liveCached here] at cached
      exact apart (Option.some.inj cached ▸ member)

/-- So the services of an owner can all be released. -/
theorem Manager.unregisterServices_total {state : State} (objects : Objects state) {owner : Conn}
    (once : (state.ownerList owner).Nodup)
    (live : ∀ addr ∈ state.ownerList owner, ∃ service, state.services.lookup addr = some service) :
    ∃ after, unregisterServices state owner = .ok after := by
  obtain ⟨unregistered, ran⟩ := unrefDbusManagerCb_total objects once live
  unfold unregisterServices
  by_cases empty : state.ownerList owner = []
  · rw [if_pos empty]
    exact ⟨_, rfl⟩
  · rw [if_neg empty, ran]
    exact ⟨_, rfl⟩

/-- While lists name live services, a connection is closed without a fault. -/
theorem onConnectionClosed_total {state : State} (sound : Sound state) (registry : Registry state)
    (conn : Conn) :
    ∃ after, onConnectionClosed state conn = .ok after := by
  have objects : Objects { state with dbusManagers := state.dbusManagers.erase conn } :=
    sound.toObjects.congr rfl (fun _ => rfl) rfl
  obtain ⟨unregistered, ran⟩ := Manager.unregisterServices_total objects (registry.listedOnce conn)
    fun addr listed => (registry.listedLive listed).imp fun _ => And.left
  unfold onConnectionClosed DbusManager.dispose
  rw [ran]
  exact ⟨_, rfl⟩

/-- Without connections the daemon is as at its start, but for the counter. -/
theorem idle_of_runs {trace : List Event} {state : State} (run : system.Runs trace state)
    (alone : state.dbusManagers = ∅) :
    state = { State.initial with objectConter := state.objectConter } := by
  have sound := sound_of_runs run
  have unheld : state.references = 0 := by
    rw [sound.referenced, alone]
    rfl
  have services : state.services = ∅ := HashTable.eq_empty_of_lookup (sound.unreferenced unheld).1
  have exports : state.exports = ∅ := by
    refine HashTable.eq_empty_of_lookup fun place => ?_
    cases found : state.exports.lookup place with
    | none => rfl
    | some addr =>
        obtain ⟨service, live, _⟩ := sound.exported.mp found
        rw [(sound.unreferenced unheld).1] at live
        cases live
  have manager : state.manager = none := by
    cases present : state.manager with
    | none => rfl
    | some manager =>
        have held := sound.counted present
        simp only [State.references, present] at unheld
        omega
  obtain ⟨objectConter, _, _, _, _⟩ := state
  dsimp only at services exports manager alone
  rw [services, exports, manager, alone]
  rfl

/-- The daemon releases every connection once, in any order, and each as if it had been closed. -/
theorem unrefDbusManagers_steps {trace : List Event} {state : State} (run : system.Runs trace state)
    (unique : (0 :: createdIds trace).Nodup) {order : List Conn} (once : order.Nodup)
    (open_ : ∀ conn ∈ order, conn ∈ state.dbusManagers) :
    ∃ after, DbusServer.unrefDbusManagers state order = .ok after ∧
      system.Steps state (order.map .closed) after ∧ after.objectConter = state.objectConter ∧
      ∀ conn, conn ∈ after.dbusManagers ↔ conn ∈ state.dbusManagers ∧ conn ∉ order := by
  induction order generalizing trace state with
  | nil => exact ⟨state, rfl, .refl, rfl, by simp⟩
  | cons conn next ih =>
      obtain ⟨apart, rest⟩ := List.nodup_cons.mp once
      have served := open_ conn List.mem_cons_self
      have sound := sound_of_runs run
      obtain ⟨closed, ran⟩ := onConnectionClosed_total sound (registry_of_runs run unique) conn
      obtain ⟨closes, _⟩ := onConnectionClosed_effect sound served ran
      have step : step state (.close conn) = some (closed, [.closed conn]) := by
        simp only [step, if_pos served, ran]
      have still : (0 :: createdIds (trace ++ [.closed conn])).Nodup := by
        rw [createdIds_append]
        simpa [createdIds] using unique
      have managed (other : Conn) : other ∈ closed.dbusManagers ↔
          other ≠ conn ∧ other ∈ state.dbusManagers := by
        rw [closes.dbusManagers, AList.mem_erase]
      obtain ⟨after, released, steps, counter, left⟩ :=
        ih (run.trans (steps_of_step step)) still rest fun other member => (managed other).mpr
          ⟨fun same => apart (same ▸ member), open_ other (List.mem_cons_of_mem _ member)⟩
      refine ⟨after, ?_, (steps_of_step step).trans steps, counter.trans closes.objectConter,
        fun other => ?_⟩
      · unfold onConnectionClosed at ran
        simp only [DbusServer.unrefDbusManagers, ran, released]
      · rw [left, managed, List.mem_cons]
        tauto

/-- From every state that a run reaches while ids are unique, and in whatever order the
dbus managers are released, the daemon shuts down without following a dangling pointer,
and nothing is left. -/
theorem dispose_leaves_nothing {trace : List Event} {state : State} (run : system.Runs trace state)
    (unique : (0 :: createdIds trace).Nodup) (visit : List Conn) :
    DbusServer.dispose state visit =
      .ok { State.initial with objectConter := state.objectConter } := by
  have order := state.dbusManagers.visitOrder_perm visit
  obtain ⟨after, released, steps, counter, left⟩ := unrefDbusManagers_steps run unique
    (order.nodup_iff.mpr state.dbusManagers.keys_nodup) fun conn => HashTable.mem_visitOrder.mp
  have alone : after.dbusManagers = ∅ := by
    refine HashTable.eq_empty_of_lookup fun conn => AList.lookup_eq_none.mpr fun member => ?_
    obtain ⟨present, passed⟩ := (left conn).mp member
    exact passed (HashTable.mem_visitOrder.mpr present)
  unfold DbusServer.dispose
  rw [released, idle_of_runs (run.trans steps) alone, counter]

/-- A daemon with three connections, two of which have ports. -/
theorem dispose_leaves_nothing_three : ∃ trace state, system.Runs trace state ∧
    state.dbusManagers.keys.length = 3 ∧ state.services.keys.length = 3 ∧
    DbusServer.dispose state [1, 2, 0] = .ok { State.initial with objectConter := 3 } := by
  obtain ⟨trace, state, run, accepted⟩ := @EventSystem.Runs.of_exec _ _ _ system
    [.connect 0 (.pid 1 (some "app")) none, .connect 1 (.pid 2 (some "other")) none,
      .connect 2 .missing none,
      .request 0 (.registerService "port" true) .benign,
      .request 1 (.registerService "port" false) .benign,
      .request 0 (.registerService "port" false) .benign]
    (fun state trace => state.dbusManagers.keys.length = 3 ∧ state.services.keys.length = 3 ∧
      state.objectConter = 3 ∧ createdIds trace = [1, 2, 3]) (by decide)
  obtain ⟨connections, services, counter, ids⟩ := of_decide_eq_true accepted
  refine ⟨trace, state, run, connections, services, ?_⟩
  rw [← counter]
  exact dispose_leaves_nothing run (by rw [ids]; decide) [1, 2, 0]

end MessagePort.Daemon
