import MessagePort.Daemon.State

/-!
# Services and the registry

`daemon/manager.c`, with the constructor and destructor of `daemon/dbus-service.c`
that it drives. A function returns the state it leaves, its C result as an
`Except`, and the events of the call; following a dangling pointer is a fault.
-/

namespace MessagePort.Daemon

open Logical

/-! ## Service objects -/

namespace DbusService

/-- `G_IO_ERROR_EXISTS`, with which GDBus refuses a second export at one path. -/
def alreadyExported (path : ObjectPath) : GError :=
  ⟨.gIoError, 2,
    "An object is already exported for the interface org.tizen.messageport.Service at " ++ path⟩

/-- `g_dbus_interface_skeleton_export` of a service skeleton. -/
def exportSkeleton (state : State) (conn : Conn) (path : ObjectPath) (addr : Addr)
    (failure : Option GError) : Except GError State :=
  if (conn, path) ∈ state.exports then .error (alreadyExported path)
  else
    match failure with
    | some error => .error error
    | none => .ok { state with exports := state.exports.insert (conn, path) addr }

/-- `msgport_dbus_service_new`. -/
def new (state : State) (owner : Conn) (name : String) (isTrusted : Bool) (choices : Choices) :
    State × Except GError Addr × List Event :=
  if name = "" then (state, .error (msgportErrorAssertion "name && name[0]"), [])
  else
    let addr := state.freshAddr choices.allocated
    let service : DbusService := ⟨state.objectConter + 1, owner, name, isTrusted⟩
    match exportSkeleton state owner service.objectPath addr choices.exportFailure with
    | .error error =>
        -- the object is released again, and the counter goes down although it never went up
        ({ state with objectConter := state.objectConter - 1 }, .error error, [.exportFailed owner])
    | .ok exported =>
        ({ exported with
           objectConter := state.objectConter + 1
           services := state.services.insert addr service },
         .ok addr, [.created service ((state.dbusManagers.lookup owner).bind (·.appId))])

/-- `_dbus_service_dispose`, run when the only reference to a service is dropped:
its skeleton is unexported, and the object is released. -/
def dispose (state : State) (addr : Addr) : State :=
  match state.services.lookup addr with
  | none => state
  | some service =>
      { state with
        services := state.services.erase addr
        exports := state.exports.erase (service.owner, service.objectPath) }

end DbusService

/-! ## The registry -/

namespace Manager

/-- `msgport_manager_new`: a first caller creates the registry, a later one gets
another reference to it. -/
def new (state : State) : State :=
  match state.manager with
  | none => { state with manager := some ⟨1, ∅, ∅⟩ }
  | some manager => { state with manager := some { manager with refCount := manager.refCount + 1 } }

/-- `g_object_unref` of the registry. With the last reference `_manager_dispose`
drops both tables, and with `service_cache` every service still in it. -/
def unref (state : State) : State :=
  match state.manager with
  | none => state
  | some manager =>
      if manager.refCount = 1 then
        { manager.serviceCache.foldl (fun state _ addr => DbusService.dispose state addr) state with
          manager := none }
      else { state with manager := some { manager with refCount := manager.refCount - 1 } }

/-- `g_hash_table_insert` into `service_cache`: a value stored under the key
before is released. -/
def cacheInsert (state : State) (manager : Manager) (key : Gpointer) (addr : Addr) : State :=
  let released :=
    match manager.serviceCache.lookup key with
    | none => state
    | some old => DbusService.dispose state old
  { released with
    manager := some { manager with serviceCache := manager.serviceCache.insert key addr } }

/-- `g_hash_table_remove` from `service_cache`: the value is released. -/
def cacheRemove (state : State) (key : Gpointer) : State :=
  match state.manager with
  | none => state
  | some manager =>
      match manager.serviceCache.lookup key with
      | none => state
      | some addr =>
          { DbusService.dispose state addr with
            manager := some { manager with serviceCache := manager.serviceCache.erase key } }

/-- Store a list for an owner, or let a list that is stored change in place. -/
def setOwnerList (state : State) (owner : Conn) (list : List Addr) : State :=
  match state.manager with
  | none => state
  | some manager =>
      { state with manager := some { manager with
          ownerServiceMap := manager.ownerServiceMap.insert owner list } }

/-- `_manager_get_service_internal`, on the list of the owner. -/
def getServiceInternal (state : State) (portName : String) (isTrusted : Bool) :
    List Addr → Except Fault (Option Addr)
  | [] => .ok none
  | addr :: next =>
      match state.deref addr with
      | .error fault => .error fault
      | .ok dbusService =>
          if portName = dbusService.portName ∧ isTrusted = dbusService.isTrusted then
            .ok (some addr)
          else getServiceInternal state portName isTrusted next

/-- `msgport_manager_register_service`. -/
def registerService (state : State) (owner : Conn) (portName : String) (isTrusted : Bool)
    (choices : Choices) : Except Fault (State × Except GError Addr × List Event) :=
  match state.manager with
  | none =>
      .ok (state, .error (msgportErrorAssertion "manager && MSGPORT_IS_MANAGER (manager)"), [])
  | some _ =>
      if portName = "" then
        .ok (state, .error (msgportErrorAssertion "port_name && port_name[0]"), [])
      else
        match getServiceInternal state portName isTrusted (state.ownerList owner) with
        | .error fault => .error fault
        | .ok (some addr) => .ok (state, .ok addr, [])
        | .ok none =>
            match DbusService.new state owner portName isTrusted choices with
            | (failed, .error error, events) => .ok (failed, .error error, events)
            | (created, .ok addr, events) =>
                match created.deref addr, created.manager with
                | .ok dbusService, some manager =>
                    let cached := cacheInsert created manager (guintToPointer dbusService.id) addr
                    -- an empty list becomes a list of one and is stored; any other grows in place
                    .ok (setOwnerList cached owner (cached.ownerList owner ++ [addr]),
                      .ok addr, events)
                | _, _ => .error .useAfterFree

/-- `msgport_manager_get_service`. -/
def getService (state : State) (owner : Conn) (portName : String) (isTrusted : Bool) :
    Except Fault (Except GError Addr) :=
  match state.manager with
  | none => .ok (.error (msgportErrorAssertion "manager && MSGPORT_IS_MANAGER (manager)"))
  | some _ =>
      if portName = "" then .ok (.error (msgportErrorAssertion "port_name && port_name[0]"))
      else
        match getServiceInternal state portName isTrusted (state.ownerList owner) with
        | .error fault => .error fault
        | .ok (some addr) => .ok (.ok addr)
        | .ok none =>
            .ok (.error (msgportErrorPortNotFound
              ((state.dbusManagers.lookup owner).bind (·.appId)) portName))

/-- `msgport_manager_get_service_by_id`: the returned pointer and the error it
stores. An id that is not found gives a null pointer and no error. -/
def getServiceById (state : State) (serviceId : Guint) : Option Addr × Option GError :=
  match state.manager with
  | none => (none, some (msgportErrorAssertion "manager && MSGPORT_IS_MANAGER (manager)"))
  | some _ =>
      if serviceId = 0 then (none, some (msgportErrorAssertion "service_id != 0"))
      else (state.cached (guintToPointer serviceId), none)

/-- `msgport_manager_unregister_service`. -/
def unregisterService (state : State) (serviceId : Gint) :
    Except Fault (State × Except GError Unit) :=
  match state.manager with
  | none => .ok (state, .error (msgportErrorAssertion "manager && MSGPORT_IS_MANAGER (manager)"))
  | some _ =>
      match state.cached (gintToPointer serviceId) with
      | none => .ok (state, .error (msgportErrorPortIdNotFoundNew serviceId.toInt))
      | some addr =>
          match state.deref addr with
          | .error fault => .error fault
          | .ok service =>
              let serviceList := state.ownerList service.owner
              let newServiceList := serviceList.erase addr
              -- a changed head is stored again, any other element is unlinked in place
              let updated :=
                if serviceList = [] then state else setOwnerList state service.owner newServiceList
              .ok (cacheRemove updated (gintToPointer serviceId), .ok ())

/-- `_manager_unref_dbus_manager_cb` over the rest of a list. -/
def unrefDbusManagerCb (state : State) : List Addr → Except Fault State
  | [] => .ok state
  | addr :: next =>
      match state.deref addr with
      | .error fault => .error fault
      | .ok service => unrefDbusManagerCb (cacheRemove state (guintToPointer service.id)) next

/-- `msgport_manager_unregister_services`. -/
def unregisterServices (state : State) (owner : Conn) : Except Fault State :=
  if state.ownerList owner = [] then .ok state
  else
    match unrefDbusManagerCb state (state.ownerList owner) with
    | .error fault => .error fault
    | .ok unregistered =>
        .ok { unregistered with
              manager := unregistered.manager.map fun manager =>
                { manager with ownerServiceMap := manager.ownerServiceMap.erase owner } }

end Manager

end MessagePort.Daemon
