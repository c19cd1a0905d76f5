import MessagePort.Client.Service

/-!
# The client's manager

`lib/msgport-manager.c`. A function takes the manager's tables and returns them
with its other results; `remote_services` is never used and left out.
-/

namespace MessagePort.Client

open Daemon Logical Semantics

/-- `struct _MsgPortManager`. -/
structure MsgPortManager where
  /-- Whether there is a proxy, that is a connection to the daemon. -/
  proxy : Bool
  services : HashTable ObjectPath MsgPortService
  /-- `local_services`: the object path stored under an id used as a pointer. -/
  localServices : HashTable Gpointer ObjectPath
deriving DecidableEq

namespace MsgPortManager

/-- `msgport_manager_new` with a working connection. -/
def new : MsgPortManager := ⟨true, ∅, ∅⟩

/-- `_find_service`. -/
def findService (name : String) (isTrusted : Bool) (service : MsgPortService) : Bool :=
  service.portName = some name ∧ service.isTrusted = isTrusted

/-- `_create_and_cache_service`. A service that was stored under the path before
is released. -/
def createAndCacheService (manager : MsgPortManager) (objectPath : ObjectPath) (cb : Callback) :
    Program (MessageportError × Option Gint × MsgPortManager) :=
  MsgPortService.new objectPath cb >>= fun
    | none => .done (.outOfMemory, none, manager)
    | some service =>
        let cached := { manager with
          services := manager.services.insert objectPath service
          localServices := manager.localServices.insert (gintToPointer service.id) objectPath }
        match manager.services.lookup objectPath with
        | none => .done (.none, some service.id, cached)
        | some old => serviceUnref old.handle >>= fun _ => .done (.none, some service.id, cached)

/-- `msgport_manager_register_service`, and what it stored through `service_id`.
`visit` is the order in which `g_hash_table_find` visits the services. -/
def registerService (manager : MsgPortManager) (portName : Option String) (isTrusted : Bool)
    (messageCb : Option Callback) (visit : List ObjectPath) :
    Program (MessageportError × Option Gint × MsgPortManager) :=
  if manager.proxy = false then .done (.ioError, none, manager)
  else
    match portName, messageCb with
    | some name, some cb =>
        match (manager.services.find visit (findService name isTrusted)).bind
          manager.services.lookup with
        | some service =>
            service.setMessageHandler cb >>= fun _ => .done (.none, some service.id, manager)
        | none =>
            .perform (.call (.registerService name isTrusted)) fun
              | .error error => .done (msgportDaemonErrorToError error, none, manager)
              | .ok objectPath => createAndCacheService manager objectPath cb
    | _, _ => .done (.invalidParameter, none, manager)

/-- `_get_local_port`: an id whose service is gone is forgotten. -/
def getLocalPort (manager : MsgPortManager) (serviceId : Gint) :
    Option MsgPortService × MsgPortManager :=
  match manager.localServices.lookup (gintToPointer serviceId) with
  | none => (none, manager)
  | some objectPath =>
      match manager.services.lookup objectPath with
      | none =>
          (none, { manager with
            localServices := manager.localServices.erase (gintToPointer serviceId) })
      | some service => (some service, manager)

/-- `msgport_manager_unregister_servcie`. The path is read back from `local_services`,
where the id was just found; the service stored under it is released. -/
def unregisterServcie (manager : MsgPortManager) (serviceId : Gint) :
    Program (MessageportError × MsgPortManager) :=
  if manager.proxy = false then .done (.ioError, manager)
  else
    match manager.getLocalPort serviceId with
    | (none, left) => .done (.messageportNotFound, left)
    | (some service, left) =>
        service.unregister >>= fun
          | false => .done (.ioError, left)
          | true =>
              let objectPath := left.localServices.lookup (gintToPointer serviceId)
              serviceUnref service.handle >>= fun _ => .done (.none, { left with
                localServices := left.localServices.erase (gintToPointer serviceId)
                services := objectPath.elim left.services fun path => left.services.erase path })

/-- `msgport_manager_check_remote_service`, and what it stored through `service_id_out`. -/
def checkRemoteService (manager : MsgPortManager) (appId port : Option String) (isTrusted : Bool) :
    Program (MessageportError × Guint) :=
  if manager.proxy = false then .done (.ioError, 0)
  else
    match appId, port with
    | some appId, some port =>
        .perform (.call (.checkForRemoteService appId port isTrusted)) fun
          | .error error => .done (msgportDaemonErrorToError error, 0)
          | .ok remoteServiceId => .done (.none, remoteServiceId)
    | _, _ => .done (.invalidParameter, 0)

/-- `msgport_manager_get_service_name`, and what it stored through `name_out`. -/
def getServiceName (manager : MsgPortManager) (serviceId : Gint) (nameOut : Bool) :
    MessageportError × Option (Option String) × MsgPortManager :=
  if manager.proxy = false then (.ioError, none, manager)
  else if nameOut = false ∨ serviceId = 0 then (.invalidParameter, none, manager)
  else
    match manager.getLocalPort serviceId with
    | (none, left) => (.messageportNotFound, none, left)
    | (some service, left) => (.none, some service.portName, left)

/-- `msgport_manager_get_service_is_trusted`, and what it stored through `is_trusted_out`. -/
def getServiceIsTrusted (manager : MsgPortManager) (serviceId : Gint) (isTrustedOut : Bool) :
    MessageportError × Option Bool × MsgPortManager :=
  if manager.proxy = false then (.ioError, none, manager)
  else if serviceId = 0 ∨ isTrustedOut = false then (.invalidParameter, none, manager)
  else
    match manager.getLocalPort serviceId with
    | (none, left) => (.messageportNotFound, none, left)
    | (some service, left) => (.none, some service.isTrusted, left)

/-- `msgport_manager_send_message`, which decides on the id and not on the status. -/
def sendMessage (manager : MsgPortManager) (remoteAppId remotePort : Option String)
    (isTrusted : Bool) (data : VariantMap) : Program MessageportError :=
  if manager.proxy = false then .done .ioError
  else if remoteAppId.isNone ∨ remotePort.isNone then .done .invalidParameter
  else
    manager.checkRemoteService remoteAppId remotePort isTrusted >>= fun (err, serviceId) =>
      if serviceId = 0 then .done err
      else
        .perform (.call (.sendMessage serviceId data)) fun
          | .error error => .done (msgportDaemonErrorToError error)
          | .ok _ => .done .none

/-- `msgport_manager_send_bidirectional_message`: whatever the lookup fails with
becomes one status. -/
def sendBidirectionalMessage (manager : MsgPortManager) (localPortId : Gint)
    (remoteAppId remotePort : Option String) (isTrusted : Bool) (data : VariantMap) :
    Program (MessageportError × MsgPortManager) :=
  if manager.proxy = false then .done (.ioError, manager)
  else if ¬ 0 < localPortId.toInt ∨ remoteAppId.isNone ∨ remotePort.isNone then
    .done (.invalidParameter, manager)
  else
    match manager.getLocalPort localPortId with
    | (none, left) => .done (.messageportNotFound, left)
    | (some service, left) =>
        left.checkRemoteService remoteAppId remotePort isTrusted >>= fun (err, remoteServiceId) =>
          if err = .none then
            service.sendMessage remoteServiceId data >>= fun status => .done (status, left)
          else .done (.messageportNotFound, left)

end MsgPortManager

end MessagePort.Client
