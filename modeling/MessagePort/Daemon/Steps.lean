import MessagePort.Daemon.Effects

/-!
# The effect of each callback

Each callback has one of the effects, and `Sound` is kept. `Registration` says
in addition how a registration is answered.
-/

namespace MessagePort.Daemon

open Logical Semantics

/-! ## Closing a connection -/

/-- The registry stays sound without the connection and its services, when the
reference of the connection is dropped too. -/
theorem Sound.closes {state after : State} {conn : Conn} (sound : Sound state)
    (served : conn ∈ state.dbusManagers) (closes : Closes state conn after)
    (dropped : after.references = state.references - 1)
    (counted : ∀ {manager}, after.manager = some manager → 0 < manager.refCount) : Sound after := by
  constructor
  · exact sound.toObjects.releases closes.tables
  · intro addr service live
    obtain ⟨before, spared⟩ := (closes.tables.services addr service).mp live
    have listed := sound.listed before
    rw [closes.ownerList, if_neg]
    · exact listed
    · intro same
      exact spared (same ▸ listed)
  · intro owner nonempty
    rw [closes.ownerList] at nonempty
    rw [closes.dbusManagers, AList.mem_erase]
    split at nonempty
    · exact absurd rfl nonempty
    case isFalse different =>
      exact ⟨different, sound.listOpen nonempty⟩
  · rw [dropped, closes.dbusManagers, sound.referenced, AList.keys_erase,
      List.length_erase_of_mem (AList.mem_keys.mp served)]
  · exact counted

/-- A closed connection takes its services with it. -/
theorem onConnectionClosed_effect {state after : State} {conn : Conn} (sound : Sound state)
    (served : conn ∈ state.dbusManagers) (ran : onConnectionClosed state conn = .ok after) :
    Closes state conn after ∧ Sound after := by
  unfold onConnectionClosed DbusManager.dispose at ran
  rcases unregistered : Manager.unregisterServices
      { state with dbusManagers := state.dbusManagers.erase conn } conn with fault | middle <;>
    rw [unregistered] at ran
  · cases ran
  obtain rfl := Except.ok.inj ran
  have objects : Objects { state with dbusManagers := state.dbusManagers.erase conn } :=
    sound.toObjects.congr rfl (fun _ => rfl) rfl
  obtain ⟨released, counter, managers, lists, references, alive⟩ :=
    Manager.unregisterServices_effect objects unregistered
  have held : 0 < state.references := by
    rw [sound.referenced]
    exact List.length_pos_of_mem (AList.mem_keys.mp served)
  have unchanged : middle.references = state.references := references
  obtain ⟨registry, kept, dropped, positive⟩ := Manager.unref_effect (objects.releases released)
    (by
      intro manager present
      have same : middle.references = manager.refCount := by simp only [State.references, present]
      omega)
    (by
      -- with the last reference no other connection is left, so no other service is
      intro last
      rw [unchanged] at last
      refine ⟨fun addr => ?_, fun owner => ?_⟩
      · cases live : middle.services.lookup addr with
        | none => rfl
        | some service =>
            obtain ⟨before, spared⟩ := (released.services addr service).mp live
            have listed := sound.listed before
            rw [sound.alone served last (sound.liveOpen before)] at listed
            exact absurd listed spared
      · rw [lists]
        split
        · rfl
        case isFalse different =>
          by_contra nonempty
          exact different (sound.alone served last (sound.listOpen nonempty)))
  have closes : Closes state conn (Manager.unref middle) := by
    have tables : Releases state (· ∈ state.ownerList conn) middle :=
      ⟨released.services, released.cached, released.exports⟩
    refine ⟨?_, ?_, alive, tables.congr registry.services registry.cached registry.exports, ?_⟩
    · rw [registry.objectConter, counter]
    · rw [kept, managers]
    · intro owner
      rw [registry.ownerList, lists]
      rfl
  exact ⟨closes, sound.closes served closes (dropped.trans (by rw [unchanged])) positive⟩

/-! ## Registering a port -/

/-- `msgport_dbus_service_new` left a new service, exported and not yet registered. -/
structure Constructs (before : State) (addr : Addr) (service : DbusService) (created : State) :
    Prop where
  id : service.id = before.objectConter + 1
  fresh : before.services.lookup addr = none
  freePath : before.exports.lookup (service.owner, service.objectPath) = none
  objectConter : created.objectConter = before.objectConter + 1
  services : created.services = before.services.insert addr service
  exports : created.exports = before.exports.insert (service.owner, service.objectPath) addr
  manager : created.manager = before.manager
  dbusManagers : created.dbusManagers = before.dbusManagers

namespace DbusService

/-- A skeleton is exported only at a free path. -/
theorem exportSkeleton_ok {state exported : State} {conn : Conn} {path : ObjectPath} {addr : Addr}
    {failure : Option GError} (ran : exportSkeleton state conn path addr failure = .ok exported) :
    state.exports.lookup (conn, path) = none ∧
      exported = { state with exports := state.exports.insert (conn, path) addr } := by
  unfold exportSkeleton at ran
  split at ran
  · cases ran
  case isFalse free =>
    cases failure with
    | some error => cases ran
    | none => exact ⟨AList.lookup_eq_none.mpr free, (Except.ok.inj ran).symm⟩

/-- A failed export only changes the counter. -/
theorem new_error {state failed : State} {owner : Conn} {name : String} {isTrusted : Bool}
    {choices : Choices} {error : GError} {events : List Event} (named : name ≠ "")
    (ran : new state owner name isTrusted choices = (failed, .error error, events)) :
    failed = { state with objectConter := state.objectConter - 1 } ∧
      events = [.exportFailed owner] := by
  simp only [new, if_neg named] at ran
  split at ran
  · simp only [Prod.mk.injEq] at ran
    exact ⟨ran.1.symm, ran.2.2.symm⟩
  · simp at ran

/-- A new service lives at a fresh address, and is exported at a path that was free. -/
theorem new_ok {state created : State} {owner : Conn} {name : String} {isTrusted : Bool}
    {choices : Choices} {addr : Addr} {events : List Event} (named : name ≠ "")
    (ran : new state owner name isTrusted choices = (created, .ok addr, events)) :
    Constructs state addr ⟨state.objectConter + 1, owner, name, isTrusted⟩ created ∧
      events = [.created ⟨state.objectConter + 1, owner, name, isTrusted⟩
        ((state.dbusManagers.lookup owner).bind (·.appId))] := by
  simp only [new, if_neg named] at ran
  split at ran
  · simp at ran
  case h_2 exported succeeded =>
    obtain ⟨free, rfl⟩ := exportSkeleton_ok succeeded
    simp only [Prod.mk.injEq, Except.ok.injEq] at ran
    obtain ⟨rfl, rfl, rfl⟩ := ran
    exact ⟨⟨rfl, state.freshAddr_not_live _, free, rfl, rfl, rfl, rfl, rfl⟩, rfl⟩

end DbusService

namespace Manager

/-- The object tables after a new service is cached: the new service is added
before the old one under its id is released, which makes no difference. -/
theorem cacheInsert_lookup {state created : State} {manager : Manager} {addr : Addr}
    {service : DbusService} (objects : Objects state) (present : state.manager = some manager)
    (constructs : Constructs state addr service created) :
    let cached := cacheInsert created manager (guintToPointer service.id) addr
    (∀ other, cached.services.lookup other = if other = addr then some service
      else (cacheRemove state (guintToPointer service.id)).services.lookup other) ∧
    ∀ place, cached.exports.lookup place =
      if place = (service.owner, service.objectPath) then some addr
      else (cacheRemove state (guintToPointer service.id)).exports.lookup place := by
  intro cached
  cases found : manager.serviceCache.lookup (guintToPointer service.id) with
  | none =>
      simp [cached, cacheInsert, cacheRemove, present, found, constructs.services,
        constructs.exports, HashTable.lookup_insert_eq]
  | some old =>
      have here : state.cached (guintToPointer service.id) = some old := by
        simpa [State.cached, present]
      obtain ⟨oldService, live, _⟩ := objects.cachedLive here
      have apart : old ≠ addr := by
        rintro rfl
        rw [constructs.fresh] at live
        cases live
      have elsewhere : (oldService.owner, oldService.objectPath) ≠
          (service.owner, service.objectPath) := by
        intro same
        have taken := objects.exported.mpr ⟨oldService, live, rfl, rfl⟩
        rw [same, constructs.freePath] at taken
        cases taken
      have still : created.services.lookup old = some oldService := by
        rw [constructs.services, HashTable.lookup_insert_eq, if_neg apart, live]
      simp only [cached, cacheInsert, cacheRemove, present, found]
      rw [DbusService.dispose_live still, DbusService.dispose_live live]
      simp only [constructs.services, constructs.exports, HashTable.lookup_erase_eq,
        HashTable.lookup_insert_eq]
      refine ⟨fun other => ?_, fun place => ?_⟩
      · by_cases same : other = addr
        · rw [if_pos same, if_pos same, if_neg (same ▸ apart.symm)]
        · rw [if_neg same, if_neg same]
      · by_cases same : place = (service.owner, service.objectPath)
        · rw [if_pos same, if_pos same, if_neg (same ▸ elsewhere.symm)]
        · rw [if_neg same, if_neg same]

/-- Both insertions of a registration, and what they leave of the registry. -/
theorem cacheInsert_creates {state created : State} {manager : Manager} {addr : Addr}
    {service : DbusService} (objects : Objects state) (present : state.manager = some manager)
    (constructs : Constructs state addr service created) :
    let cached := cacheInsert created manager (guintToPointer service.id) addr
    let after := setOwnerList cached service.owner (cached.ownerList service.owner ++ [addr])
    Creates state addr service after ∧ ∃ left, after.manager = some left ∧
      left.refCount = manager.refCount := by
  intro cached after
  have early := cacheRemove_releases objects (guintToPointer service.id)
  obtain ⟨services, exports⟩ := cacheInsert_lookup objects present constructs
  have lists (owner : Conn) : cached.ownerList owner = state.ownerList owner := by
    simp [cached, cacheInsert, State.ownerList, present]
  have counter : cached.objectConter = created.objectConter := by
    simp only [cached, cacheInsert]
    split <;> simp
  have managers : cached.dbusManagers = created.dbusManagers := by
    simp only [cached, cacheInsert]
    split <;> simp
  refine ⟨?_, _, rfl, rfl⟩
  constructor
  · exact constructs.id
  · exact counter.trans constructs.objectConter
  · exact managers.trans constructs.dbusManagers
  · exact constructs.fresh
  · exact constructs.freePath
  · refine ⟨cacheRemove state (guintToPointer service.id), early, ?_⟩
    constructor
    · rw [Option.eq_none_iff_forall_ne_some]
      intro other live
      have before := ((early.services addr other).mp live).1
      rw [constructs.fresh] at before
      cases before
    · rw [Option.eq_none_iff_forall_ne_some]
      intro other there
      obtain ⟨here, kept⟩ := (early.cached _ other).mp there
      exact kept here
    · rw [Option.eq_none_iff_forall_ne_some]
      intro other taken
      have before := ((early.exports _ other).mp taken).1
      rw [constructs.freePath] at before
      cases before
    · exact services
    · intro key
      simp only [after, setOwnerList, cached, cacheInsert, State.cached, Option.bind_some,
        HashTable.lookup_insert_eq]
      split
      · rfl
      case isFalse different =>
        simp only [cacheRemove, present]
        split
        · simp [present]
        · simp [different]
    · exact exports
  · intro owner
    simp only [after, lists]
    simp only [setOwnerList, cached, cacheInsert, State.ownerList,
      HashTable.lookup_insert_eq, present]
    split
    case isTrue same =>
      rw [same]
      rfl
    · rfl

end Manager

namespace Creates

variable {before after : State} {addr : Addr} {service : DbusService}

/-- The created service is live. -/
theorem live (creates : Creates before addr service after) :
    after.services.lookup addr = some service := by
  obtain ⟨middle, _, late⟩ := creates.tables
  rw [late.services, if_pos rfl]

/-- A created service keeps the tables in step and is listed for its open owner. -/
theorem sound (sound : Sound before) (creates : Creates before addr service after)
    (served : service.owner ∈ before.dbusManagers)
    (references : after.references = before.references)
    (counted : ∀ {manager}, after.manager = some manager → 0 < manager.refCount) : Sound after := by
  obtain ⟨middle, early, late⟩ := creates.tables
  constructor
  · exact (sound.toObjects.releases early).adds late
  · intro other found live
    rw [late.services] at live
    rw [creates.ownerList]
    split at live
    case isTrue same =>
      obtain rfl := Option.some.inj live
      rw [if_pos rfl, same]
      exact List.mem_append_right _ List.mem_cons_self
    · have listed := sound.listed ((early.services _ _).mp live).1
      split
      · exact List.mem_append_left _ listed
      · exact listed
  · intro owner nonempty
    rw [creates.dbusManagers]
    rw [creates.ownerList] at nonempty
    split at nonempty
    case isTrue same =>
      exact same ▸ served
    · exact sound.listOpen nonempty
  · rw [references, creates.dbusManagers, sound.referenced]
  · exact counted

end Creates

/-- How a registration is answered, and what it leaves behind. -/
inductive Registration (before : State) (conn : Conn) (portName : String) (isTrusted : Bool) :
    Handled ObjectPath → Prop where
  | rejected (unnamed : portName = "") :
      Registration before conn portName isTrusted
        ⟨before, [.error (msgportErrorAssertion "port_name && port_name[0]")], true, []⟩
  | existing {addr service} (named : portName ≠ "")
      (found : Manager.getServiceInternal before portName isTrusted (before.ownerList conn) =
        .ok (some addr))
      (live : before.services.lookup addr = some service) :
      Registration before conn portName isTrusted
        ⟨before, [.ok service.objectPath], true, [.registered conn portName isTrusted service.id]⟩
  | exportFailed {error} (named : portName ≠ "")
      (missing : Manager.getServiceInternal before portName isTrusted
        (before.ownerList conn) = .ok none) :
      Registration before conn portName isTrusted
        ⟨{ before with objectConter := before.objectConter - 1 }, [.error error], true,
          [.exportFailed conn]⟩
  | created {dbusManager id addr after} (named : portName ≠ "")
      (served : before.dbusManagers.lookup conn = some dbusManager)
      (missing : Manager.getServiceInternal before portName isTrusted
        (before.ownerList conn) = .ok none)
      (creates : Creates before addr ⟨id, conn, portName, isTrusted⟩ after) (sound : Sound after) :
      Registration before conn portName isTrusted
        ⟨after, [.ok (objectPathOf id)], true,
          [.created ⟨id, conn, portName, isTrusted⟩ dbusManager.appId,
            .registered conn portName isTrusted id]⟩

namespace DbusManager

/-- Every registration by an open connection is answered in one of these ways. -/
theorem handleRegisterService_cases {state : State} {conn : Conn} {portName : String}
    {isTrusted : Bool} {choices : Choices} {outcome : Handled ObjectPath} (sound : Sound state)
    (served : conn ∈ state.dbusManagers)
    (ran : handleRegisterService state conn portName isTrusted choices = .ok outcome) :
    Registration state conn portName isTrusted outcome := by
  obtain ⟨manager, present⟩ := sound.registry served
  obtain ⟨dbusManager, found⟩ := HashTable.lookup_isSome_iff.mp served
  unfold handleRegisterService Manager.registerService at ran
  simp only [present] at ran
  by_cases named : portName = ""
  · simp only [if_pos named, Except.ok.injEq] at ran
    subst ran
    exact .rejected named
  simp only [if_neg named] at ran
  cases search : Manager.getServiceInternal state portName isTrusted (state.ownerList conn) with
  | error fault => simp [search] at ran
  | ok existing =>
      cases existing with
      | some addr =>
          obtain ⟨_, service, live, _⟩ := Manager.getServiceInternal_some search
          simp only [search, State.deref, live, List.nil_append, Except.ok.injEq] at ran
          subst ran
          exact .existing named search live
      | none =>
          simp only [search] at ran
          cases new : DbusService.new state conn portName isTrusted choices with
          | mk created rest =>
              obtain ⟨result, events⟩ := rest
              cases result with
              | error error =>
                  obtain ⟨rfl, rfl⟩ := DbusService.new_error named new
                  simp only [new, Except.ok.injEq] at ran
                  subst ran
                  exact .exportFailed named search
              | ok addr =>
                  obtain ⟨constructs, rfl⟩ := DbusService.new_ok named new
                  have kept : created.manager = some manager := constructs.manager.trans present
                  obtain ⟨creates, left, registry, references⟩ :=
                    Manager.cacheInsert_creates sound.toObjects present constructs
                  have deref : created.deref addr =
                      .ok ⟨state.objectConter + 1, conn, portName, isTrusted⟩ := by
                    simp [State.deref, constructs.services]
                  simp only [new, deref, kept] at ran
                  simp only [State.deref, creates.live, found, Option.bind_some,
                    List.singleton_append, Except.ok.injEq] at ran
                  subst ran
                  refine .created named found search creates (creates.sound sound served ?_ ?_)
                  · simp only [State.references, registry, present, references]
                  · intro other same
                    obtain rfl := Option.some.inj (registry.symm.trans same)
                    rw [references]
                    exact sound.counted present

end DbusManager

/-! ## Unregistering a port -/

/-- The count of a registry is the number of references to it. -/
theorem State.references_of {state : State} {manager : Manager}
    (present : state.manager = some manager) : state.references = manager.refCount := by
  simp only [State.references, present]

namespace Removes

variable {before after : State} {addr : Addr} {service : DbusService}

/-- Removing a service keeps every other service listed for its owner. -/
theorem sound (sound : Sound before) (removes : Removes before addr service after)
    (references : after.references = before.references) : Sound after := by
  constructor
  · exact sound.toObjects.releases removes.tables
  · intro other found live
    obtain ⟨there, different⟩ := (removes.tables.services other found).mp live
    have listed := sound.listed there
    rw [removes.ownerList]
    split
    · exact (List.mem_erase_of_ne different).mpr listed
    · exact listed
  · intro owner nonempty
    rw [removes.dbusManagers]
    rw [removes.ownerList] at nonempty
    split at nonempty
    · apply sound.listOpen
      intro empty
      rw [empty] at nonempty
      exact nonempty rfl
    · exact sound.listOpen nonempty
  · rw [references, removes.dbusManagers, sound.referenced]
  · intro manager present
    have open_ := List.length_pos_of_mem (AList.mem_keys.mp (sound.liveOpen removes.live))
    rw [← State.references_of present, references, sound.referenced]
    exact open_

end Removes

namespace Manager

/-- An id under whose key no service is stored is refused. -/
theorem unregisterService_missing {state : State} {serviceId : Gint} {manager : Manager}
    (present : state.manager = some manager)
    (missing : state.cached (gintToPointer serviceId) = none) :
    unregisterService state serviceId =
      .ok (state, .error (msgportErrorPortIdNotFoundNew serviceId.toInt)) := by
  simp only [unregisterService, present, missing]

/-- A service that is stored under the key of the id is removed from both tables. -/
theorem unregisterService_found {state : State} {serviceId : Gint} {manager : Manager} {addr : Addr}
    {service : DbusService} (sound : Sound state) (present : state.manager = some manager)
    (found : state.cached (gintToPointer serviceId) = some addr)
    (live : state.services.lookup addr = some service) :
    ∃ after, unregisterService state serviceId = .ok (after, .ok ()) ∧
      Removes state addr service after ∧ after.references = state.references := by
  have nonempty : state.ownerList service.owner ≠ [] := List.ne_nil_of_mem (sound.listed live)
  simp only [unregisterService, present, found, State.deref, live, if_neg nonempty, Except.ok.injEq,
    Prod.mk.injEq, and_true, exists_eq_left']
  generalize updated : setOwnerList state service.owner
    ((state.ownerList service.owner).erase addr) = stored
  have shape : stored = { state with
      manager := some { manager with
        ownerServiceMap := manager.ownerServiceMap.insert service.owner
          ((state.ownerList service.owner).erase addr) } } := by
    rw [← updated]
    simp only [setOwnerList, present]
  have cached (key : Gpointer) : stored.cached key = state.cached key := by
    simp [shape, State.cached, present]
  have objects : Objects stored := sound.toObjects.congr (by rw [shape]) cached (by rw [shape])
  have released := cacheRemove_releases objects (gintToPointer serviceId)
  constructor
  · constructor
    · exact live
    · rw [cacheRemove_objectConter, shape]
    · rw [cacheRemove_dbusManagers, shape]
    · have alone (other : Addr) :
          stored.cached (gintToPointer serviceId) = some other ↔ other = addr := by
        rw [cached, found, Option.some.injEq, eq_comm]
      have described := released.describe alone
      refine ⟨fun other found => ?_, fun key other => ?_, fun place other => ?_⟩
      · rw [described.services, shape]
      · rw [described.cached, cached]
      · rw [described.exports, shape]
    · intro owner
      rw [cacheRemove_ownerList, shape]
      simp only [State.ownerList, present, HashTable.lookup_insert_eq]
      split
      case isTrue same =>
        rw [same]
        rfl
      · rfl
  · rw [cacheRemove_references, shape]
    simp only [State.references, present]

/-- An id without a service changes nothing; any other is removed from both tables. -/
theorem unregisterService_effect {state after : State} {serviceId : Gint}
    {result : Except GError Unit} (sound : Sound state)
    (ran : unregisterService state serviceId = .ok (after, result)) :
    Effect state [.unregisterCalled serviceId] after ∧ Sound after := by
  cases present : state.manager with
  | none =>
      simp only [unregisterService, present, Except.ok.injEq, Prod.mk.injEq] at ran
      obtain ⟨rfl, -⟩ := ran
      exact ⟨.unknownId (by simp [State.cached, present]), sound⟩
  | some manager =>
      cases found : state.cached (gintToPointer serviceId) with
      | none =>
          rw [unregisterService_missing present found] at ran
          obtain ⟨rfl, -⟩ := Prod.mk.inj (Except.ok.inj ran)
          exact ⟨.unknownId found, sound⟩
      | some addr =>
          obtain ⟨service, live, _⟩ := sound.cachedLive found
          obtain ⟨left, done, removes, references⟩ :=
            unregisterService_found sound present found live
          rw [done] at ran
          obtain ⟨rfl, -⟩ := Prod.mk.inj (Except.ok.inj ran)
          exact ⟨.removed found removes, removes.sound sound references⟩

end Manager

/-! ## Sending a message -/

/-- How `msgport_dbus_service_send_message` ends, and what it leaves behind. -/
inductive Sending (before : State) (message : OnMessage) :
    State → Except GError Unit → List Event → Prop where
  | untrusted (untrusted : message.service.isTrusted = false) :
      Sending before message before (.ok ()) [.emitted message]
  | accepted {owner next made} (trusted : message.service.isTrusted = true)
      (owned : before.dbusManagers.lookup message.service.owner = some owner)
      (comparison : CertComparison)
      (verdict : DbusManager.validatePeerCertificate message.service.owner owner message.remoteAppId
        comparison = .ok (next, true, made)) :
      Sending before message
        { before with dbusManagers := before.dbusManagers.insert message.service.owner next }
        (.ok ()) (made ++ [.emitted message])
  | refused {owner next made} (trusted : message.service.isTrusted = true)
      (owned : before.dbusManagers.lookup message.service.owner = some owner)
      (comparison : CertComparison)
      (verdict : DbusManager.validatePeerCertificate message.service.owner owner message.remoteAppId
        comparison = .ok (next, false, made)) :
      Sending before message
        { before with dbusManagers := before.dbusManagers.insert message.service.owner next }
        (.error msgportErrorCertificateMismatchNew) made

/-- How a request to send to a service id is answered, and what it leaves behind. -/
inductive Dispatch (before : State) (serviceId : Guint) (data : VariantMap) (appId : Option String)
    (port : String) (isTrusted : Bool) : Handled Unit → Prop where
  | zero (zero : serviceId = 0) :
      Dispatch before serviceId data appId port isTrusted
        ⟨before, [.error (msgportErrorAssertion "service_id != 0")], true, []⟩
  | missing (nonzero : serviceId ≠ 0) (missing : before.cached (guintToPointer serviceId) = none) :
      Dispatch before serviceId data appId port isTrusted
        ⟨before, [.error msgportErrorUnknownNew], true, []⟩
  | sent {addr service after result events} (nonzero : serviceId ≠ 0)
      (found : before.cached (guintToPointer serviceId) = some addr)
      (live : before.services.lookup addr = some service)
      (sending : Sending before ⟨service, data, appId, port, isTrusted⟩ after result events) :
      Dispatch before serviceId data appId port isTrusted ⟨after, [result], true, events⟩

namespace DbusService

/-- Sending on a live service ends in one of these ways. -/
theorem sendMessage_cases {state after : State} {addr : Addr} {service : DbusService}
    {data : VariantMap} {rAppId : Option String} {rPort : String} {rIsTrusted : Bool}
    {comparison : CertComparison} {result : Except GError Unit} {events : List Event}
    (live : state.services.lookup addr = some service)
    (ran : sendMessage state addr data rAppId rPort rIsTrusted comparison =
      .ok (after, result, events)) :
    Sending state ⟨service, data, rAppId, rPort, rIsTrusted⟩ after result events := by
  simp only [sendMessage, State.deref, live] at ran
  by_cases trusted : service.isTrusted = true
  · simp only [if_pos trusted] at ran
    cases owned : state.dbusManagers.lookup service.owner with
    | none => simp [owned] at ran
    | some owner =>
        simp only [owned] at ran
        cases verdict : DbusManager.validatePeerCertificate service.owner owner
            rAppId comparison with
        | error fault => simp [verdict] at ran
        | ok judged =>
            obtain ⟨next, accepted, made⟩ := judged
            simp only [verdict] at ran
            cases accepted with
            | true =>
                simp only [if_true, Except.ok.injEq, Prod.mk.injEq] at ran
                obtain ⟨rfl, rfl, rfl⟩ := ran
                exact .accepted trusted owned comparison verdict
            | false =>
                simp only [Bool.false_eq_true, if_false, Except.ok.injEq, Prod.mk.injEq] at ran
                obtain ⟨rfl, rfl, rfl⟩ := ran
                exact .refused trusted owned comparison verdict
  · simp only [if_neg trusted, Except.ok.injEq, Prod.mk.injEq] at ran
    obtain ⟨rfl, rfl, rfl⟩ := ran
    exact .untrusted (Bool.eq_false_iff.mpr trusted)

end DbusService

/-- Sending changes nothing but the certificates kept for the owner. -/
theorem Sending.effect {before after : State} {message : OnMessage} {addr : Addr}
    {result : Except GError Unit} {events : List Event} (sound : Sound before)
    (live : before.services.lookup addr = some message.service)
    (sending : Sending before message after result events) :
    Effect before events after ∧ Sound after := by
  have validated {next : DbusManager} {owner : DbusManager}
      (owned : before.dbusManagers.lookup message.service.owner = some owner) :
      Sound { before with
        dbusManagers := before.dbusManagers.insert message.service.owner next } := by
    have member := HashTable.lookup_isSome_iff.mpr ⟨owner, owned⟩
    refine sound.congr ⟨rfl, rfl, rfl, fun _ => rfl, fun _ => rfl⟩ ?_ ?_ sound.counted
    · intro conn there
      exact (AList.mem_insert _).mpr (.inr there)
    · have count := sound.referenced
      simp only [AList.keys_insert, List.length_cons,
        List.length_erase_of_mem (AList.mem_keys.mp member)]
      have positive := List.length_pos_of_mem (AList.mem_keys.mp member)
      simp only [State.references] at count ⊢
      omega
  cases sending with
  | untrusted untrusted => exact ⟨.sent live untrusted, sound⟩
  | accepted trusted owned comparison verdict =>
      exact ⟨.validated live trusted owned comparison verdict, validated owned⟩
  | refused trusted owned comparison verdict =>
      exact ⟨.validated live trusted owned comparison verdict, validated owned⟩

/-- A request to send has the effect of its sending, if it gets so far. -/
theorem Dispatch.effect {before : State} {serviceId : Guint} {data : VariantMap}
    {appId : Option String} {port : String} {isTrusted : Bool} {outcome : Handled Unit}
    (sound : Sound before)
    (dispatch : Dispatch before serviceId data appId port isTrusted outcome) :
    Effect before outcome.events outcome.state ∧ Sound outcome.state := by
  cases dispatch with
  | zero => exact ⟨.quiet (.refl before) rfl, sound⟩
  | missing => exact ⟨.quiet (.refl before) rfl, sound⟩
  | sent _ _ live sending => exact sending.effect sound live

/-- A request to send has one reply. -/
theorem Dispatch.reply {before : State} {serviceId : Guint} {data : VariantMap}
    {appId : Option String} {port : String} {isTrusted : Bool} {outcome : Handled Unit}
    (dispatch : Dispatch before serviceId data appId port isTrusted outcome) :
    outcome.handled = true ∧ ∃ reply, outcome.completions = [reply] := by
  cases dispatch <;> exact ⟨rfl, _, rfl⟩

namespace Manager

/-- Looking up an id only fails with an error when the id is zero. -/
theorem getServiceById_eq {state : State} {manager : Manager}
    (present : state.manager = some manager) (serviceId : Guint) : getServiceById state serviceId =
      if serviceId = 0 then (none, some (msgportErrorAssertion "service_id != 0"))
      else (state.cached (guintToPointer serviceId), none) := by
  simp only [getServiceById, present]

end Manager

namespace DbusManager

/-- A request to send on a connection carries its app id and no port. -/
theorem handleSendMessage_cases {state : State} {conn : Conn} {serviceId : Guint}
    {data : VariantMap} {choices : Choices} {outcome : Handled Unit} (sound : Sound state)
    (served : conn ∈ state.dbusManagers)
    (ran : handleSendMessage state conn serviceId data choices = .ok outcome) :
    Dispatch state serviceId data ((state.dbusManagers.lookup conn).bind (·.appId)) ""
      false outcome := by
  obtain ⟨manager, present⟩ := sound.registry served
  simp only [handleSendMessage, Manager.getServiceById_eq present] at ran
  by_cases zero : serviceId = 0
  · simp only [if_pos zero, Option.getD_some, Except.ok.injEq] at ran
    subst ran
    exact .zero zero
  simp only [if_neg zero] at ran
  cases found : state.cached (guintToPointer serviceId) with
  | none =>
      simp only [found, Option.getD_none, Except.ok.injEq] at ran
      subst ran
      exact .missing zero found
  | some addr =>
      obtain ⟨service, live, _⟩ := sound.cachedLive found
      simp only [found] at ran
      rcases sent : DbusService.sendMessage state addr _ _ _ _ _ with fault |
        ⟨next, _ | _, made⟩ <;> rw [sent] at ran
      · cases ran
      all_goals
        obtain rfl := Except.ok.inj ran
        exact .sent zero found live (DbusService.sendMessage_cases live sent)

end DbusManager

namespace DbusService

/-- A request to send on a service carries the app id of its owner, its name and
its trust flag. -/
theorem handleSendMessage_cases {state : State} {addr : Addr} {dbusService : DbusService}
    {remoteServiceId : Guint} {data : VariantMap} {choices : Choices} {outcome : Handled Unit}
    (sound : Sound state) (live : state.services.lookup addr = some dbusService)
    (ran : handleSendMessage state addr remoteServiceId data choices = .ok outcome) :
    Dispatch state remoteServiceId data
      ((state.dbusManagers.lookup dbusService.owner).bind (·.appId))
      dbusService.portName dbusService.isTrusted outcome := by
  obtain ⟨manager, present⟩ := sound.registry (sound.liveOpen live)
  simp only [handleSendMessage, State.deref, live, Manager.getServiceById_eq present] at ran
  by_cases zero : remoteServiceId = 0
  · simp only [if_pos zero, Except.ok.injEq] at ran
    subst ran
    exact .zero zero
  simp only [if_neg zero] at ran
  cases found : state.cached (guintToPointer remoteServiceId) with
  | none =>
      simp only [found] at ran
      split at ran
      · obtain rfl := Except.ok.inj ran
        exact .missing zero found
      · cases ran
  | some peer =>
      obtain ⟨service, there, _⟩ := sound.cachedLive found
      simp only [found] at ran
      rcases sent : sendMessage state peer _ _ _ _ _ with fault | ⟨next, _ | _, made⟩ <;>
        rw [sent] at ran
      · cases ran
      all_goals
        obtain rfl := Except.ok.inj ran
        exact .sent zero found there (sendMessage_cases there sent)

end DbusService

/-! ## Every step -/

/-- A registration has one of the effects. -/
theorem Registration.effect {before : State} {conn : Conn} {portName : String} {isTrusted : Bool}
    {outcome : Handled ObjectPath} (sound : Sound before) (served : conn ∈ before.dbusManagers)
    (registration : Registration before conn portName isTrusted outcome) :
    Effect before outcome.events outcome.state ∧ Sound outcome.state := by
  cases registration with
  | rejected => exact ⟨.quiet (.refl before) rfl, sound⟩
  | existing named found live => exact ⟨.existing served named found live, sound⟩
  | exportFailed named missing =>
      refine ⟨.exportFailed served, ?_⟩
      exact ⟨sound.toObjects.congr rfl (fun _ => rfl) rfl, sound.listed, sound.listOpen,
        sound.referenced, sound.counted⟩
  | created named found missing creates after => exact ⟨.created found named missing creates, after⟩

/-- A lookup leaves everything as it is. -/
theorem DbusManager.handleCheckForRemoteService_quiet {state : State}
    {remoteAppId remotePortName : String} {isTrusted : Bool} {choices : Choices}
    {outcome : Handled Guint}
    (ran : handleCheckForRemoteService state remoteAppId remotePortName isTrusted
      choices = .ok outcome) :
    outcome.state = state ∧ outcome.events = [] := by
  unfold handleCheckForRemoteService at ran
  split at ran
  · obtain rfl := Except.ok.inj ran
    exact ⟨rfl, rfl⟩
  · split at ran
    · cases ran
    · obtain rfl := Except.ok.inj ran
      exact ⟨rfl, rfl⟩
    · split at ran
      · cases ran
      · obtain rfl := Except.ok.inj ran
        exact ⟨rfl, rfl⟩

/-- The effect of a request. -/
theorem serve_effect {state : State} {conn : Conn} {request : Request} {choices : Choices}
    {outcome : Handled request.Answer} (sound : Sound state) (served : conn ∈ state.dbusManagers)
    (ran : serve state conn request choices = .ok outcome) :
    Effect state outcome.events outcome.state ∧ Sound outcome.state := by
  have quiet : Effect state [] state ∧ Sound state := ⟨.quiet (.refl state) rfl, sound⟩
  cases request with
  | registerService port isTrusted =>
      exact (DbusManager.handleRegisterService_cases sound served ran).effect sound served
  | checkForRemoteService remoteAppId remotePort isTrusted =>
      obtain ⟨same, none⟩ := DbusManager.handleCheckForRemoteService_quiet ran
      rw [same, none]
      exact quiet
  | sendMessage serviceId data =>
      exact (DbusManager.handleSendMessage_cases sound served ran).effect sound
  | serviceSendMessage path remoteServiceId data =>
      simp only [serve] at ran
      cases exported : state.exports.lookup (conn, path) with
      | none =>
          simp only [exported, Except.ok.injEq] at ran
          subst ran
          exact quiet
      | some addr =>
          obtain ⟨dbusService, live, _⟩ := sound.exported.mp exported
          simp only [exported] at ran
          exact (DbusService.handleSendMessage_cases sound live ran).effect sound
  | serviceUnregister path =>
      simp only [serve] at ran
      split at ran
      all_goals
        obtain rfl := Except.ok.inj ran
        exact quiet

/-- Every step has one of the effects, and keeps `Sound`. -/
theorem step_effect {state next : State} {label : Label} {emitted : List Event}
    (sound : Sound state) (transition : step state label = some (next, emitted)) :
    Effect state emitted next ∧ Sound next := by
  cases step_cases transition with
  | connect new ran => exact DbusManager.new_effect sound new ran
  | request served ran => exact serve_effect sound served ran
  | unregisterService ran => exact Manager.unregisterService_effect sound ran
  | close served ran =>
      obtain ⟨closes, kept⟩ := onConnectionClosed_effect sound served ran
      exact ⟨.closed served closes, kept⟩

/-- Every reachable state is sound. -/
theorem sound_of_runs {trace : List Event} {state : State} (run : system.Runs trace state) :
    Sound state := by
  refine @EventSystem.Runs.invariant _ _ _ system
    (fun _ state => Sound state) Sound.initial ?_ _ _ run
  intro trace state label next emitted prior sound transition
  exact (step_effect sound transition).2

/-- A property of traces and states that holds at first and is kept by every
effect holds of every run. -/
theorem runs_invariant {holds : List Event → State → Prop} (initially : holds [] State.initial)
    (preserved : ∀ {trace state emitted next}, system.Runs trace state → holds trace state →
      Effect state emitted next → holds (trace ++ emitted) next)
    {trace : List Event} {state : State} (run : system.Runs trace state) : holds trace state := by
  refine EventSystem.Runs.invariant initially ?_ run
  intro trace state label next emitted prior ih transition
  exact preserved prior ih (step_effect (sound_of_runs prior) transition).1

/-- The same rule under an assumption on the trace that every prefix inherits. -/
theorem runs_invariant_of {assumed : List Event → Prop}
    (ofAppend : ∀ {before after}, assumed (before ++ after) → assumed before)
    {holds : List Event → State → Prop} (initially : holds [] State.initial)
    (preserved : ∀ {trace state emitted next}, system.Runs trace state → holds trace state →
      Effect state emitted next → system.Runs (trace ++ emitted) next → assumed (trace ++ emitted) →
      holds (trace ++ emitted) next)
    {trace : List Event} {state : State} (run : system.Runs trace state) (given : assumed trace) :
    holds trace state := by
  refine EventSystem.Runs.invariant_of ofAppend initially ?_ run given
  intro trace state label next emitted prior ih transition assumption
  exact preserved prior ih (step_effect (sound_of_runs prior) transition).1 (prior.snoc transition)
    assumption

end MessagePort.Daemon
