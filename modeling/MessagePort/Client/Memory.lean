import MessagePort.Client.Api
import MessagePort.Logical.OwnedKeys

/-!
# The client's manager, with its strings

`lib/msgport-manager.c` once more, with the object paths on the heap where they are.
`services` owns its keys, and `local_services` borrows them: its values are the
addresses of these keys. A program that misuses a string ends there.
-/

namespace MessagePort.Client.Memory

open Daemon Logical Semantics

/-- Go on with a value, unless something was misused. -/
def ensuring {First Result : Type} (outcome : Except Misuse First)
    (next : First → Program (Except Misuse Result)) : Program (Except Misuse Result) :=
  match outcome with
  | .error misuse => .done (.error misuse)
  | .ok first => next first

@[simp] theorem ensuring_ok {First Result : Type} (first : First)
    (next : First → Program (Except Misuse Result)) : ensuring (.ok first) next = next first := rfl

/-- `struct _MsgPortManager`, and the strings it allocated. -/
structure MsgPortManager where
  proxy : Bool
  services : HashTable Pointer MsgPortService
  localServices : HashTable Gpointer Pointer
  strings : Strings

namespace MsgPortManager

/-- `msgport_manager_new` with a working connection. -/
def new : MsgPortManager := ⟨true, ∅, ∅, ∅⟩

/-- The manager as a function sees it that uses no table. -/
def untabled (manager : MsgPortManager) : Client.MsgPortManager := ⟨manager.proxy, ∅, ∅⟩

/-- `_create_and_cache_service`. It stores the address that it was passed in
`local_services`, whatever became of it in `services`. -/
def createAndCacheService (manager : MsgPortManager) (objectPath : Pointer) (cb : Callback) :
    Program (Except Misuse (MessageportError × Option Gint × MsgPortManager)) :=
  ensuring (manager.strings.read objectPath) fun path =>
    MsgPortService.new path cb >>= fun
      | none =>
          ensuring (manager.strings.free objectPath) fun strings =>
            .done (.ok (.outOfMemory, none, { manager with strings }))
      | some service =>
          ensuring (OwnedTable.insert manager.strings manager.services objectPath service)
            fun (strings, services, replaced) =>
              let cached := { manager with
                strings, services
                localServices := manager.localServices.insert
                  (gintToPointer service.id) objectPath }
              match replaced with
              | none => .done (.ok (.none, some service.id, cached))
              | some old =>
                  serviceUnref old.handle >>= fun _ => .done (.ok (.none, some service.id, cached))

/-- `msgport_manager_register_service`. The call stores a string of its own for the
path, at an address that the allocator chooses. -/
def registerService (manager : MsgPortManager) (portName : Option String) (isTrusted : Bool)
    (messageCb : Option Callback) (visit : List Pointer) (allocated : Pointer) :
    Program (Except Misuse (MessageportError × Option Gint × MsgPortManager)) :=
  if manager.proxy = false then .done (.ok (.ioError, none, manager))
  else
    match portName, messageCb with
    | some name, some cb =>
        match (manager.services.find visit (Client.MsgPortManager.findService name isTrusted)).bind
            manager.services.lookup with
        | some service =>
            service.setMessageHandler cb >>= fun _ => .done (.ok (.none, some service.id, manager))
        | none =>
            .perform (.call (.registerService name isTrusted)) fun
              | .error error => .done (.ok (msgportDaemonErrorToError error, none, manager))
              | .ok path =>
                  let objectPath := manager.strings.place allocated
                  createAndCacheService
                    { manager with strings := manager.strings.insert objectPath path }
                    objectPath cb
    | _, _ => .done (.ok (.invalidParameter, none, manager))

/-- `_get_local_port`. -/
def getLocalPort (manager : MsgPortManager) (serviceId : Gint) :
    Except Misuse (Option MsgPortService × MsgPortManager) :=
  match manager.localServices.lookup (gintToPointer serviceId) with
  | none => .ok (none, manager)
  | some objectPath =>
      match OwnedTable.lookup manager.strings manager.services objectPath with
      | .error misuse => .error misuse
      | .ok none =>
          .ok (none, { manager with
            localServices := manager.localServices.erase (gintToPointer serviceId) })
      | .ok (some (_, service)) => .ok (some service, manager)

/-- `msgport_manager_unregister_servcie`. The address is read back from
`local_services`, and is the very key that `services` frees. -/
def unregisterServcie (manager : MsgPortManager) (serviceId : Gint) :
    Program (Except Misuse (MessageportError × MsgPortManager)) :=
  if manager.proxy = false then .done (.ok (.ioError, manager))
  else
    ensuring (manager.getLocalPort serviceId) fun
      | (none, left) => .done (.ok (.messageportNotFound, left))
      | (some service, left) =>
          service.unregister >>= fun
            | false => .done (.ok (.ioError, left))
            | true =>
                match left.localServices.lookup (gintToPointer serviceId) with
                | none => .done (.error .nullRead)
                | some objectPath =>
                    ensuring (OwnedTable.remove left.strings left.services objectPath)
                      fun (strings, services, removed) =>
                        let emptied := { left with
                          strings, services
                          localServices := left.localServices.erase (gintToPointer serviceId) }
                        match removed with
                        | none => .done (.ok (.none, emptied))
                        | some old => serviceUnref old.handle >>= fun _ =>
                            .done (.ok (.none, emptied))

/-- `msgport_manager_get_service_name`. -/
def getServiceName (manager : MsgPortManager) (serviceId : Gint) (nameOut : Bool) :
    Except Misuse (MessageportError × Option (Option String) × MsgPortManager) :=
  if manager.proxy = false then .ok (.ioError, none, manager)
  else if nameOut = false ∨ serviceId = 0 then .ok (.invalidParameter, none, manager)
  else
    match manager.getLocalPort serviceId with
    | .error misuse => .error misuse
    | .ok (none, left) => .ok (.messageportNotFound, none, left)
    | .ok (some service, left) => .ok (.none, some service.portName, left)

/-- `msgport_manager_get_service_is_trusted`. -/
def getServiceIsTrusted (manager : MsgPortManager) (serviceId : Gint) (isTrustedOut : Bool) :
    Except Misuse (MessageportError × Option Bool × MsgPortManager) :=
  if manager.proxy = false then .ok (.ioError, none, manager)
  else if serviceId = 0 ∨ isTrustedOut = false then .ok (.invalidParameter, none, manager)
  else
    match manager.getLocalPort serviceId with
    | .error misuse => .error misuse
    | .ok (none, left) => .ok (.messageportNotFound, none, left)
    | .ok (some service, left) => .ok (.none, some service.isTrusted, left)

/-- `msgport_manager_send_bidirectional_message`. -/
def sendBidirectionalMessage (manager : MsgPortManager) (localPortId : Gint)
    (remoteAppId remotePort : Option String) (isTrusted : Bool) (data : VariantMap) :
    Program (Except Misuse (MessageportError × MsgPortManager)) :=
  if manager.proxy = false then .done (.ok (.ioError, manager))
  else if ¬ 0 < localPortId.toInt ∨ remoteAppId.isNone ∨ remotePort.isNone then
    .done (.ok (.invalidParameter, manager))
  else
    ensuring (manager.getLocalPort localPortId) fun
      | (none, left) => .done (.ok (.messageportNotFound, left))
      | (some service, left) =>
          left.untabled.checkRemoteService remoteAppId remotePort
            isTrusted >>= fun (err, remoteServiceId) =>
            if err = .none then
              service.sendMessage remoteServiceId data >>= fun status => .done (.ok (status, left))
            else .done (.ok (.messageportNotFound, left))

/-- `_messageport_register_port`. -/
def messageportRegisterPort (manager : MsgPortManager) (name : Option String) (isTrusted : Bool)
    (cb : Option Callback) (visit : List Pointer) (allocated : Pointer) :
    Program (Except Misuse (Int × MsgPortManager)) :=
  manager.registerService name isTrusted cb visit allocated >>= fun out =>
    ensuring out fun (res, stored, left) =>
      let portId : Gint := stored.getD 0
      .done (.ok (if 0 < portId.toInt then portId.toInt else res.code, left))

/-- The program of a public function. `visit` is the order in which a registration
comes to the addresses in `services`. -/
def program (manager : MsgPortManager) (visit : List Pointer) (allocated : Pointer) :
    ApiCall → Program (Except Misuse (Returned × MsgPortManager))
  | .registerLocalPort localPort isTrusted callback _ =>
      manager.messageportRegisterPort localPort isTrusted callback visit allocated >>= fun out =>
        ensuring out fun (value, left) => .done (.ok (⟨value, none, none, none⟩, left))
  | .checkRemotePort remoteAppId remotePort isTrusted =>
      messageportCheckRemotePort manager.untabled remoteAppId remotePort isTrusted >>=
        fun (status, found) => .done (.ok (⟨status.code, some found, none, none⟩, manager))
  | .sendMessage remoteAppId remotePort isTrusted message =>
      messageportSendMessage manager.untabled remoteAppId remotePort isTrusted message >>=
        fun status => .done (.ok (⟨status.code, none, none, none⟩, manager))
  | .sendBidirectionalMessage id remoteAppId remotePort isTrusted message =>
      manager.sendBidirectionalMessage id remoteAppId remotePort isTrusted
        (bundleToVariantMap message) >>=
        fun out => ensuring out fun (status, left) =>
          .done (.ok (⟨status.code, none, none, none⟩, left))
  | .getLocalPortName id nameOut =>
      ensuring (manager.getServiceName id nameOut) fun (status, name, left) =>
        .done (.ok (⟨status.code, none, name, none⟩, left))
  | .checkTrustedLocalPort id isTrustedOut =>
      ensuring (manager.getServiceIsTrusted id isTrustedOut) fun (status, isTrusted, left) =>
        .done (.ok (⟨status.code, none, none, isTrusted⟩, left))

/-- `_unregister_service_cb`; what becomes of the call is ignored. -/
def unregisterServiceCb (manager : MsgPortManager) (objectPath : Pointer) :
    Program (Except Misuse Unit) :=
  ensuring (OwnedTable.lookup manager.strings manager.services objectPath) fun
    | none => .done (.ok ())
    | some (_, service) => service.unregister >>= fun _ => .done (.ok ())

/-- The `g_hash_table_foreach` of `_dispose`, in some order of `local_services`. -/
def unregisterAll (manager : MsgPortManager) : List Gpointer → Program (Except Misuse Unit)
  | [] => .done (.ok ())
  | serviceId :: next =>
      match manager.localServices.lookup serviceId with
      | none => manager.unregisterAll next
      | some objectPath =>
          manager.unregisterServiceCb objectPath >>= fun out =>
            ensuring out fun _ => manager.unregisterAll next

/-- The last `g_hash_table_unref` of `services`: each key is freed and each service
released, in some order. -/
def unrefServices (strings : Strings) (services : HashTable Pointer MsgPortService) :
    List Pointer → Program (Except Misuse (Strings × HashTable Pointer MsgPortService))
  | [] => .done (.ok (strings, services))
  | objectPath :: next =>
      match services.lookup objectPath with
      | none => unrefServices strings services next
      | some service =>
          ensuring (strings.free objectPath) fun left =>
            serviceUnref service.handle >>= fun _ =>
              unrefServices left (services.erase objectPath) next

/-- `_dispose`, and then `_finalize`, which drops `local_services`. -/
def dispose (manager : MsgPortManager) (visit : List Gpointer) (release : List Pointer) :
    Program (Except Misuse MsgPortManager) :=
  manager.unregisterAll (manager.localServices.visitOrder visit) >>= fun out =>
    ensuring out fun _ =>
      unrefServices manager.strings manager.services (manager.services.visitOrder release) >>=
        fun out => ensuring out fun (strings, services) => .done (.ok ⟨false, services, ∅, strings⟩)

end MsgPortManager

end MessagePort.Client.Memory
