import MessagePort.Daemon.DbusManager
import MessagePort.Semantics.Execution

/-!
# The daemon as an event system

Requests as they arrive on a connection, and the callbacks of
`daemon/dbus-server.c`. The main loop runs one callback at a time, so a step of
the daemon is one whole callback; every outside decision is in the label.
-/

namespace MessagePort.Daemon

open Semantics

/-- The method calls of the three interfaces that reach the daemon's objects. -/
inductive Request where
  | registerService (port : String) (isTrusted : Bool)
  | checkForRemoteService (remoteAppId remotePort : String) (isTrusted : Bool)
  | sendMessage (serviceId : Guint) (data : VariantMap)
  | serviceSendMessage (path : ObjectPath) (remoteServiceId : Guint) (data : VariantMap)
  | serviceUnregister (path : ObjectPath)
deriving DecidableEq

/-- The type of the out argument of a method. -/
def Request.Answer : Request → Type
  | .registerService _ _ => ObjectPath
  | .checkForRemoteService _ _ _ => Guint
  | .sendMessage _ _ => Unit
  | .serviceSendMessage _ _ _ => Unit
  | .serviceUnregister _ => Unit

/-- The object path a method is called on. -/
def Request.path : Request → ObjectPath
  | .serviceSendMessage path _ _ => path
  | .serviceUnregister path => path
  | _ => "/"

/-- Run the handler of a request that arrived on a connection. A call on a path
reaches a service only if one is exported there on this connection. -/
def serve (state : State) (conn : Conn) :
    (request : Request) → Choices → Except Fault (Handled request.Answer)
  | .registerService port isTrusted, choices =>
      DbusManager.handleRegisterService state conn port isTrusted choices
  | .checkForRemoteService remoteAppId remotePort isTrusted, choices =>
      DbusManager.handleCheckForRemoteService state remoteAppId remotePort isTrusted choices
  | .sendMessage serviceId data, choices =>
      DbusManager.handleSendMessage state conn serviceId data choices
  | .serviceSendMessage path remoteServiceId data, choices =>
      match state.exports.lookup (conn, path) with
      | none => .ok ⟨state, [], false, []⟩
      | some addr => DbusService.handleSendMessage state addr remoteServiceId data choices
  | .serviceUnregister path, _ =>
      match state.exports.lookup (conn, path) with
      | none => .ok ⟨state, [], false, []⟩
      | some _ => .ok (DbusService.handleUnregister state)

/-- `_on_connection_closed`. -/
def onConnectionClosed (state : State) (conn : Conn) : Except Fault State :=
  DbusManager.dispose { state with dbusManagers := state.dbusManagers.erase conn } conn

/-- One callback of the daemon, or one call of `msgport_manager_unregister_service`,
which no callback makes. -/
inductive Label where
  | connect (conn : Conn) (credentials : DbusManager.PeerCredentials)
      (exportFailure : Option GError)
  | request (conn : Conn) (request : Request) (choices : Choices)
  | unregisterService (serviceId : Gint)
  | close (conn : Conn)

/-- The connection a callback is for. -/
def Label.conn : Label → Option Conn
  | .connect conn _ _ => some conn
  | .request conn _ _ => some conn
  | .unregisterService _ => none
  | .close conn => some conn

/-- Run one callback. A new connection gets a name that is not in use; requests
and closes come from open connections. A fault ends the daemon. -/
def step (state : State) : Label → Option (State × List Event)
  | .connect conn credentials exportFailure =>
      if conn ∈ state.dbusManagers then none
      else
        match DbusManager.new state conn credentials exportFailure with
        | .error _ => none
        | .ok outcome => some outcome
  | .request conn request choices =>
      if conn ∈ state.dbusManagers then
        match serve state conn request choices with
        | .error _ => none
        | .ok outcome => some (outcome.state, outcome.events)
      else none
  | .unregisterService serviceId =>
      match Manager.unregisterService state serviceId with
      | .error _ => none
      | .ok (next, _) => some (next, [.unregisterCalled serviceId])
  | .close conn =>
      if conn ∈ state.dbusManagers then
        match onConnectionClosed state conn with
        | .error _ => none
        | .ok next => some (next, [.closed conn])
      else none

/-- What it takes for a callback to run, and what it leaves. -/
inductive Fires (before : State) : Label → List Event → State → Prop where
  | connect {conn credentials exportFailure after emitted} (new : conn ∉ before.dbusManagers)
      (ran : DbusManager.new before conn credentials exportFailure = .ok (after, emitted)) :
      Fires before (.connect conn credentials exportFailure) emitted after
  | request {conn request choices outcome} (served : conn ∈ before.dbusManagers)
      (ran : serve before conn request choices = .ok outcome) :
      Fires before (.request conn request choices) outcome.events outcome.state
  | unregisterService {serviceId after result}
      (ran : Manager.unregisterService before serviceId = .ok (after, result)) :
      Fires before (.unregisterService serviceId) [.unregisterCalled serviceId] after
  | close {conn after} (served : conn ∈ before.dbusManagers)
      (ran : onConnectionClosed before conn = .ok after) :
      Fires before (.close conn) [.closed conn] after

/-- Every step is one of these. -/
theorem step_cases {state next : State} {label : Label} {emitted : List Event}
    (transition : step state label = some (next, emitted)) : Fires state label emitted next := by
  cases label with
  | connect conn credentials exportFailure =>
      simp only [step] at transition
      split at transition
      · cases transition
      case isFalse new =>
        cases ran : DbusManager.new state conn credentials exportFailure with
        | error fault => simp [ran] at transition
        | ok outcome =>
            rw [ran] at transition
            obtain rfl := Option.some.inj transition
            exact .connect new ran
  | request conn request choices =>
      simp only [step] at transition
      split at transition
      case isTrue served =>
        cases ran : serve state conn request choices with
        | error fault => simp [ran] at transition
        | ok outcome =>
            rw [ran] at transition
            obtain ⟨rfl, rfl⟩ := Prod.mk.inj (Option.some.inj transition)
            exact .request served ran
      · cases transition
  | unregisterService serviceId =>
      simp only [step] at transition
      rcases ran : Manager.unregisterService state serviceId with fault | ⟨after, result⟩
      · simp [ran] at transition
      · rw [ran] at transition
        obtain ⟨rfl, rfl⟩ := Prod.mk.inj (Option.some.inj transition)
        exact .unregisterService ran
  | close conn =>
      simp only [step] at transition
      split at transition
      case isTrue served =>
        cases ran : onConnectionClosed state conn with
        | error fault => simp [ran] at transition
        | ok after =>
            rw [ran] at transition
            obtain ⟨rfl, rfl⟩ := Prod.mk.inj (Option.some.inj transition)
            exact .close served ran
      · cases transition

/-- A step that serves a request. -/
theorem step_request {state next : State} {conn : Conn} {request : Request} {choices : Choices}
    {emitted : List Event}
    (transition : step state (.request conn request choices) = some (next, emitted)) :
    conn ∈ state.dbusManagers ∧ ∃ outcome, serve state conn request choices = .ok outcome ∧
      outcome.state = next ∧ outcome.events = emitted := by
  cases step_cases transition with
  | request served ran => exact ⟨served, _, ran, rfl, rfl⟩

/-- The daemon. -/
def system : EventSystem State Label Event := ⟨State.initial, step⟩

@[simp] theorem system_step : system.step = step := rfl
@[simp] theorem system_initial : system.initial = State.initial := rfl

/-- One callback is a run suffix. -/
theorem steps_of_step {state next : State} {label : Label} {emitted : List Event}
    (transition : step state label = some (next, emitted)) : system.Steps state emitted next :=
  @EventSystem.Steps.single _ _ _ system _ _ label _ transition

end MessagePort.Daemon
