import MessagePort.Daemon.Manager

/-!
# Dbus managers and request handlers

`daemon/dbus-manager.c`, and the send handlers of `daemon/dbus-service.c`, which
call each other. A handler returns what it leaves behind, the completions it
gave its invocation, and whether it claimed the invocation as handled.
-/

namespace MessagePort.Daemon

open Logical

/-- What one handler leaves behind. -/
structure Handled (Answer : Type) where
  state : State
  /-- `g_dbus_method_invocation` completions, in order. -/
  completions : List (Except GError Answer)
  /-- The returned `gboolean`. -/
  handled : Bool
  events : List Event

/-- `G_DBUS_ERROR_UNKNOWN_METHOD`, GDBus's own reply when nothing handles a call. -/
def unknownMethod (path : ObjectPath) : GError :=
  ⟨.gDbusError, 19, "No such interface on object at path " ++ path⟩

/-- The replies sent: a call that no handler claims is answered by GDBus. -/
def Handled.replies {Answer : Type} (outcome : Handled Answer) (path : ObjectPath) :
    List (Except GError Answer) :=
  if outcome.handled then outcome.completions
  else outcome.completions ++ [.error (unknownMethod path)]

namespace DbusManager

/-- What the daemon can learn about the peer of a connection. -/
inductive PeerCredentials where
  /-- `g_dbus_connection_get_peer_credentials` is null. -/
  | missing
  /-- `g_credentials_get_unix_pid` fails. -/
  | noPid
  /-- The pid, and the app id `aul_app_get_appid_bypid` resolves it to, if any. -/
  | pid (peerPid : Int) (resolved : Option String)
deriving DecidableEq, Repr

/-- `_get_app_id_from_connection`: the app id, and whether it is that of an
installed application. -/
def getAppIdFromConnection : PeerCredentials → Option String × Bool
  | .missing => (none, false)
  | .noPid => (none, false)
  | .pid peerPid none => (some (toString peerPid), false)
  | .pid _ (some appId) => (some appId, true)

/-- `_dbus_manager_dispose`: the services of the connection are unregistered and
the reference to the registry is dropped. -/
def dispose (state : State) (conn : Conn) : Except Fault State :=
  match Manager.unregisterServices state conn with
  | .error fault => .error fault
  | .ok unregistered => .ok (Manager.unref unregistered)

/-- `msgport_dbus_manager_new` and the insertion into `dbus_managers` by
`msgport_dbus_server_start_dbus_manager_for_connection`. -/
def new (state : State) (conn : Conn) (credentials : PeerCredentials)
    (exportFailure : Option GError) : Except Fault (State × List Event) :=
  let initialized := Manager.new state
  match exportFailure with
  | some _ =>
      match dispose initialized conn with
      | .error fault => .error fault
      | .ok disposed => .ok (disposed, [])
  | none =>
      let (appId, validApp) := getAppIdFromConnection credentials
      -- an app that is not installed is treated as having a null certificate
      .ok ({ initialized with
             dbusManagers := initialized.dbusManagers.insert conn ⟨appId, !validApp, ∅⟩ },
           [.connected conn appId validApp])

/-- `msgport_dbus_manager_validate_peer_certificate` of the manager of `owner`:
the manager it leaves, its verdict, and the comparison it made. -/
def validatePeerCertificate (owner : Conn) (dbusManager : DbusManager)
    (peerAppId : Option String) (comparison : CertComparison) :
    Except Fault (DbusManager × Bool × List Event) :=
  if dbusManager.isNullCert then .ok (dbusManager, true, [])
  else
    match peerAppId with
    | none => .error .nullKey
    | some peer =>
        match dbusManager.peerCerts.lookup peer with
        | some isValidCert => .ok (dbusManager, isValidCert, [])
        | none =>
            let made := [Event.compared owner peer comparison]
            match comparison with
            | .error _ => .ok (dbusManager, false, made)
            | .ok .lhsNoCert | .ok .bothNoCert =>
                .ok ({ dbusManager with isNullCert := true }, true, made)
            | .ok result =>
                let isValidCert := result = .match
                .ok ({ dbusManager with
                  peerCerts := dbusManager.peerCerts.insert peer isValidCert }, isValidCert, made)

end DbusManager

/-- `msgport_dbus_service_send_message` on the service at `addr`. -/
def DbusService.sendMessage (state : State) (addr : Addr) (data : VariantMap)
    (rAppId : Option String) (rPort : String) (rIsTrusted : Bool) (comparison : CertComparison) :
    Except Fault (State × Except GError Unit × List Event) :=
  match state.deref addr with
  | .error fault => .error fault
  | .ok service =>
      let signal := Event.emitted ⟨service, data, rAppId, rPort, rIsTrusted⟩
      if service.isTrusted then
        match state.dbusManagers.lookup service.owner with
        | none => .error .useAfterFree
        | some owner =>
            match DbusManager.validatePeerCertificate service.owner owner rAppId comparison with
            | .error fault => .error fault
            | .ok (validated, accepted, made) =>
                let next := { state with
                  dbusManagers := state.dbusManagers.insert service.owner validated }
                if accepted then .ok (next, .ok (), made ++ [signal])
                else .ok (next, .error msgportErrorCertificateMismatchNew, made)
      else .ok (state, .ok (), [signal])

namespace DbusManager

/-- `_dbus_manager_handle_register_service`. -/
def handleRegisterService (state : State) (conn : Conn) (portName : String) (isTrusted : Bool)
    (choices : Choices) : Except Fault (Handled ObjectPath) :=
  match Manager.registerService state conn portName isTrusted choices with
  | .error fault => .error fault
  | .ok (next, .ok addr, events) =>
      match next.deref addr with
      | .error fault => .error fault
      | .ok dbusService =>
          .ok ⟨next, [.ok dbusService.objectPath], true,
            events ++ [.registered conn portName isTrusted dbusService.id]⟩
  | .ok (next, .error error, events) => .ok ⟨next, [.error error], true, events⟩

/-- `msgport_dbus_server_get_dbus_manager_by_app_id`. -/
def getDbusManagerByAppId (state : State) (appId : String) (visit : List Conn) : Option Conn :=
  HashTable.find state.dbusManagers visit fun dbusManager => dbusManager.appId = some appId

/-- `_dbus_manager_handle_check_for_remote_service`. -/
def handleCheckForRemoteService (state : State) (remoteAppId remotePortName : String)
    (isTrusted : Bool) (choices : Choices) : Except Fault (Handled Guint) :=
  match getDbusManagerByAppId state remoteAppId choices.visit with
  | none =>
      .ok ⟨state, [.error (msgportErrorPortNotFound (some remoteAppId) remotePortName)], true, []⟩
  | some remoteDbusManager =>
      match Manager.getService state remoteDbusManager remotePortName isTrusted with
      | .error fault => .error fault
      | .ok (.error error) => .ok ⟨state, [.error error], true, []⟩
      | .ok (.ok addr) =>
          match state.deref addr with
          | .error fault => .error fault
          | .ok dbusService => .ok ⟨state, [.ok dbusService.id], true, []⟩

/-- `_dbus_manager_handle_send_message`. -/
def handleSendMessage (state : State) (conn : Conn) (serviceId : Guint) (data : VariantMap)
    (choices : Choices) : Except Fault (Handled Unit) :=
  match Manager.getServiceById state serviceId with
  | (none, error) => .ok ⟨state, [.error (error.getD msgportErrorUnknownNew)], true, []⟩
  | (some peer, _) =>
      let appId := (state.dbusManagers.lookup conn).bind (·.appId)
      match DbusService.sendMessage state peer data appId "" false choices.comparison with
      | .error fault => .error fault
      | .ok (next, .ok (), events) => .ok ⟨next, [.ok ()], true, events⟩
      | .ok (next, .error error, events) => .ok ⟨next, [.error error], true, events⟩

end DbusManager

namespace DbusService

/-- `_dbus_service_handle_send_message` of the service at `addr`. Its `error` is
not initialised: where nothing is stored in it, the stack word decides. -/
def handleSendMessage (state : State) (addr : Addr) (remoteServiceId : Guint) (data : VariantMap)
    (choices : Choices) : Except Fault (Handled Unit) :=
  match state.deref addr with
  | .error fault => .error fault
  | .ok dbusService =>
      match Manager.getServiceById state remoteServiceId with
      | (none, some error) => .ok ⟨state, [.error error], true, []⟩
      | (none, none) =>
          if choices.stackWord = 0 then .ok ⟨state, [.error msgportErrorUnknownNew], true, []⟩
          else .error .wildPointer
      | (some peer, _) =>
          let appId := (state.dbusManagers.lookup dbusService.owner).bind (·.appId)
          match DbusService.sendMessage state peer data appId dbusService.portName
              dbusService.isTrusted choices.comparison with
          | .error fault => .error fault
          | .ok (next, .ok (), events) => .ok ⟨next, [.ok ()], true, events⟩
          | .ok (next, .error error, events) => .ok ⟨next, [.error error], true, events⟩

/-- `_dbus_service_handle_unregister`, which claims the invocation and leaves it. -/
def handleUnregister (state : State) : Handled Unit := ⟨state, [], true, []⟩

end DbusService

end MessagePort.Daemon
