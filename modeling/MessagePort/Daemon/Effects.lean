import MessagePort.Daemon.Objects
import MessagePort.Daemon.Server

/-!
# What one step of the daemon can do

`Effect` lists the effects of a callback on the tables as they read afterwards,
with the events that go with each; `step_effect` shows that there are no others.
Invariants are proved by cases on it, and never unfold a handler.
-/

namespace MessagePort.Daemon

open Logical

/-! ## Lookups in a list of services -/

namespace Manager

/-- A service that is found is listed, alive, and has the name and trust flag. -/
theorem getServiceInternal_some {state : State} {portName : String} {isTrusted : Bool}
    {list : List Addr} {addr : Addr}
    (found : getServiceInternal state portName isTrusted list = .ok (some addr)) :
    addr ∈ list ∧ ∃ service, state.services.lookup addr = some service ∧
      service.portName = portName ∧ service.isTrusted = isTrusted := by
  induction list with
  | nil => simp [getServiceInternal] at found
  | cons head next ih =>
      simp only [getServiceInternal] at found
      cases live : state.services.lookup head with
      | none => simp [State.deref, live] at found
      | some service =>
          simp only [State.deref, live] at found
          split at found
          case isTrue same =>
            simp only [Except.ok.injEq, Option.some.injEq] at found
            subst found
            exact ⟨List.mem_cons_self, service, live, same.1.symm, same.2.symm⟩
          · obtain ⟨member, rest⟩ := ih found
            exact ⟨List.mem_cons_of_mem _ member, rest⟩

/-- When none is found, the whole list was walked: all of it is alive, and no
service of it has the name and trust flag. -/
theorem getServiceInternal_none {state : State} {portName : String} {isTrusted : Bool}
    {list : List Addr} (missing : getServiceInternal state portName isTrusted list = .ok none) :
    ∀ addr ∈ list, ∃ service, state.services.lookup addr = some service ∧
      ¬ (service.portName = portName ∧ service.isTrusted = isTrusted) := by
  induction list with
  | nil => simp
  | cons head next ih =>
      simp only [getServiceInternal] at missing
      cases live : state.services.lookup head with
      | none => simp [State.deref, live] at missing
      | some service =>
          simp only [State.deref, live] at missing
          split at missing
          · simp at missing
          case isFalse different =>
            intro addr member
            rcases List.mem_cons.mp member with rfl | later
            · exact ⟨service, live, fun same => different ⟨same.1.symm, same.2.symm⟩⟩
            · exact ih missing addr later

/-- Without dangling pointers a lookup ends. -/
theorem getServiceInternal_total {state : State} {list : List Addr}
    (live : ∀ addr ∈ list, ∃ service, state.services.lookup addr = some service)
    (portName : String) (isTrusted : Bool) :
    ∃ found, getServiceInternal state portName isTrusted list = .ok found := by
  induction list with
  | nil => exact ⟨none, rfl⟩
  | cons head next ih =>
      obtain ⟨service, there⟩ := live head List.mem_cons_self
      simp only [getServiceInternal, State.deref, there]
      split
      · exact ⟨some head, rfl⟩
      · exact ih fun addr member => live addr (List.mem_cons_of_mem _ member)

end Manager

/-! ## Effects -/

/-- The registry reads the same. -/
structure SameRegistry (before after : State) : Prop where
  objectConter : after.objectConter = before.objectConter
  services : after.services = before.services
  exports : after.exports = before.exports
  cached : ∀ key, after.cached key = before.cached key
  ownerList : ∀ owner, after.ownerList owner = before.ownerList owner

theorem SameRegistry.refl (state : State) : SameRegistry state state :=
  ⟨rfl, rfl, rfl, fun _ => rfl, fun _ => rfl⟩

theorem SameRegistry.trans {before middle after : State} (first : SameRegistry before middle)
    (second : SameRegistry middle after) : SameRegistry before after where
  objectConter := second.objectConter.trans first.objectConter
  services := second.services.trans first.services
  exports := second.exports.trans first.exports
  cached key := (second.cached key).trans (first.cached key)
  ownerList owner := (second.ownerList owner).trans (first.ownerList owner)

/-- A new service is created and registered; a service stored under the same id
before is released. -/
structure Creates (before : State) (addr : Addr) (service : DbusService) (after : State) :
    Prop where
  id : service.id = before.objectConter + 1
  objectConter : after.objectConter = before.objectConter + 1
  dbusManagers : after.dbusManagers = before.dbusManagers
  fresh : before.services.lookup addr = none
  freePath : before.exports.lookup (service.owner, service.objectPath) = none
  tables : ∃ middle,
    Releases before (fun old => before.cached (guintToPointer service.id) = some old) middle ∧
      Adds middle addr service after
  ownerList : ∀ owner, after.ownerList owner =
    if owner = service.owner then before.ownerList owner ++ [addr] else before.ownerList owner

/-- One service is removed from the cache and from the list of its owner. -/
structure Removes (before : State) (addr : Addr) (service : DbusService) (after : State) :
    Prop where
  live : before.services.lookup addr = some service
  objectConter : after.objectConter = before.objectConter
  dbusManagers : after.dbusManagers = before.dbusManagers
  tables : Releases before (· = addr) after
  ownerList : ∀ owner, after.ownerList owner =
    if owner = service.owner then (before.ownerList owner).erase addr else before.ownerList owner

/-- A connection is gone, and all the services in its list with it. -/
structure Closes (before : State) (conn : Conn) (after : State) : Prop where
  objectConter : after.objectConter = before.objectConter
  dbusManagers : after.dbusManagers = before.dbusManagers.erase conn
  live : ∀ addr ∈ before.ownerList conn, ∃ service, before.services.lookup addr = some service
  tables : Releases before (· ∈ before.ownerList conn) after
  ownerList : ∀ owner, after.ownerList owner = if owner = conn then [] else before.ownerList owner

/-- The effects of one callback, with their events. -/
inductive Effect (before : State) : List Event → State → Prop where
  /-- A connection that could not be served, a request that was refused, a lookup. -/
  | quiet {after} (registry : SameRegistry before after)
      (dbusManagers : after.dbusManagers = before.dbusManagers) : Effect before [] after
  | connected {conn appId validApp after} (new : conn ∉ before.dbusManagers)
      (registry : SameRegistry before after)
      (dbusManagers : after.dbusManagers = before.dbusManagers.insert conn ⟨appId, !validApp, ∅⟩) :
      Effect before [.connected conn appId validApp] after
  | exportFailed {conn} (served : conn ∈ before.dbusManagers) :
      Effect before [.exportFailed conn] { before with objectConter := before.objectConter - 1 }
  | created {conn dbusManager portName isTrusted id addr after}
      (served : before.dbusManagers.lookup conn = some dbusManager) (named : portName ≠ "")
      (missing : Manager.getServiceInternal before portName isTrusted
        (before.ownerList conn) = .ok none)
      (creates : Creates before addr ⟨id, conn, portName, isTrusted⟩ after) :
      Effect before [.created ⟨id, conn, portName, isTrusted⟩ dbusManager.appId,
        .registered conn portName isTrusted id] after
  | existing {conn portName isTrusted addr service} (served : conn ∈ before.dbusManagers)
      (named : portName ≠ "")
      (found : Manager.getServiceInternal before portName isTrusted (before.ownerList conn) =
        .ok (some addr))
      (live : before.services.lookup addr = some service) :
      Effect before [.registered conn portName isTrusted service.id] before
  | sent {message addr} (live : before.services.lookup addr = some message.service)
      (untrusted : message.service.isTrusted = false) : Effect before [.emitted message] before
  | validated {message addr owner next accepted made}
      (live : before.services.lookup addr = some message.service)
      (trusted : message.service.isTrusted = true)
      (owned : before.dbusManagers.lookup message.service.owner = some owner)
      (comparison : CertComparison)
      (verdict : DbusManager.validatePeerCertificate message.service.owner owner message.remoteAppId
        comparison = .ok (next, accepted, made)) :
      Effect before (if accepted then made ++ [.emitted message] else made)
        { before with dbusManagers := before.dbusManagers.insert message.service.owner next }
  | unknownId {serviceId} (missing : before.cached (gintToPointer serviceId) = none) :
      Effect before [.unregisterCalled serviceId] before
  | removed {serviceId addr service after}
      (found : before.cached (gintToPointer serviceId) = some addr)
      (removes : Removes before addr service after) :
      Effect before [.unregisterCalled serviceId] after
  | closed {conn after} (served : conn ∈ before.dbusManagers) (closes : Closes before conn after) :
      Effect before [.closed conn] after

/-- A check of a certificate makes no comparison or one. -/
theorem DbusManager.validatePeerCertificate_made {owner : Conn} {dbusManager next : DbusManager}
    {peerAppId : Option String} {comparison : CertComparison} {accepted : Bool} {made : List Event}
    (verdict : validatePeerCertificate owner dbusManager peerAppId comparison =
      .ok (next, accepted, made)) :
    made = [] ∨ ∃ peer, peerAppId = some peer ∧ made = [.compared owner peer comparison] := by
  unfold validatePeerCertificate at verdict
  split at verdict
  · cases verdict
    exact .inl rfl
  · cases peerAppId with
    | none => cases verdict
    | some peer =>
      dsimp only at verdict
      split at verdict
      · cases verdict
        exact .inl rfl
      · split at verdict
        all_goals
          cases verdict
          exact .inr ⟨peer, rfl, rfl⟩

/-- A check keeps the app id of the manager. -/
theorem DbusManager.validatePeerCertificate_appId {owner : Conn} {dbusManager next : DbusManager}
    {peerAppId : Option String} {comparison : CertComparison} {accepted : Bool} {made : List Event}
    (verdict : validatePeerCertificate owner dbusManager peerAppId comparison =
      .ok (next, accepted, made)) : next.appId = dbusManager.appId := by
  unfold validatePeerCertificate at verdict
  split at verdict
  · cases verdict
    rfl
  · split at verdict
    · cases verdict
    · split at verdict
      · cases verdict
        rfl
      · dsimp only at verdict
        split at verdict <;> cases verdict <;> rfl

/-- A manager without a certificate keeps every check from looking further. -/
theorem DbusManager.validatePeerCertificate_flagged {owner : Conn} {dbusManager next : DbusManager}
    {peerAppId : Option String} {comparison : CertComparison} {accepted : Bool} {made : List Event}
    (verdict : validatePeerCertificate owner dbusManager peerAppId comparison =
      .ok (next, accepted, made)) (flagged : dbusManager.isNullCert = true) :
    next = dbusManager ∧ accepted = true ∧ made = [] := by
  simp only [validatePeerCertificate, flagged, if_true, Except.ok.injEq, Prod.mk.injEq] at verdict
  obtain ⟨rfl, rfl, rfl⟩ := verdict
  exact ⟨rfl, rfl, rfl⟩

/-! ## What holds of every reachable state -/

/-- The references held to the registry. -/
def State.references (state : State) : Nat :=
  match state.manager with
  | none => 0
  | some manager => manager.refCount

/-- What every run keeps, whatever exports fail: the tables name the live
services, a live service is in the list of its owner, only open connections have
services, and each open connection holds one reference to the registry. -/
structure Sound (state : State) : Prop extends Objects state where
  listed : ∀ {addr service}, state.services.lookup addr = some service →
    addr ∈ state.ownerList service.owner
  listOpen : ∀ {owner}, state.ownerList owner ≠ [] → owner ∈ state.dbusManagers
  referenced : state.references = state.dbusManagers.keys.length
  counted : ∀ {manager}, state.manager = some manager → 0 < manager.refCount

namespace Sound

variable {state : State}

theorem initial : Sound State.initial where
  toObjects := Objects.initial
  listed := by simp [State.initial]
  listOpen := by simp [State.initial, State.ownerList]
  referenced := rfl
  counted := by simp [State.initial]

/-- The owner of a live service is connected. -/
theorem liveOpen (sound : Sound state) {addr : Addr} {service : DbusService}
    (live : state.services.lookup addr = some service) : service.owner ∈ state.dbusManagers :=
  sound.listOpen (List.ne_nil_of_mem (sound.listed live))

/-- While a connection is open, there is a registry. -/
theorem registry (sound : Sound state) {conn : Conn} (served : conn ∈ state.dbusManagers) :
    ∃ manager, state.manager = some manager := by
  cases present : state.manager with
  | some manager => exact ⟨manager, rfl⟩
  | none =>
      have count := sound.referenced
      have member := List.length_pos_of_mem (AList.mem_keys.mp served)
      simp only [State.references, present] at count
      omega

/-- Without a reference to the registry there is no connection, and nothing is registered. -/
theorem unreferenced (sound : Sound state) (unheld : state.references = 0) :
    (∀ addr, state.services.lookup addr = none) ∧ ∀ owner, state.ownerList owner = [] := by
  have closed (owner : Conn) : owner ∉ state.dbusManagers := by
    intro served
    have some_ := List.length_pos_of_mem (AList.mem_keys.mp served)
    rw [← sound.referenced] at some_
    omega
  constructor
  · intro addr
    cases live : state.services.lookup addr with
    | none => rfl
    | some service => exact absurd (sound.liveOpen live) (closed _)
  · intro owner
    by_contra nonempty
    exact closed owner (sound.listOpen nonempty)

/-- The only reference to the registry is that of the only connection. -/
theorem alone (sound : Sound state) {conn other : Conn} (served : conn ∈ state.dbusManagers)
    (last : state.references = 1) (another : other ∈ state.dbusManagers) : other = conn := by
  rw [sound.referenced, List.length_eq_one_iff] at last
  obtain ⟨only, keys⟩ := last
  have first := AList.mem_keys.mp served
  have second := AList.mem_keys.mp another
  rw [keys, List.mem_singleton] at first second
  rw [first, second]

end Sound

/-! ## The effect of each function -/

namespace Manager

theorem new_registry (state : State) : SameRegistry state (new state) := by
  unfold new
  cases present : state.manager with
  | none =>
      exact ⟨rfl, rfl, rfl, fun key => by simp [State.cached, present],
        fun owner => by simp [State.ownerList, present]⟩
  | some manager =>
      exact ⟨rfl, rfl, rfl, fun key => by simp [State.cached, present],
        fun owner => by simp [State.ownerList, present]⟩

@[simp] theorem new_dbusManagers (state : State) :
    (new state).dbusManagers = state.dbusManagers := by
  unfold new
  split <;> rfl

@[simp] theorem new_references (state : State) : (new state).references = state.references + 1 := by
  unfold new State.references
  cases state.manager <;> rfl

/-- The reference count of a registry that was just referred to. -/
theorem new_manager (state : State) : ∃ manager, (new state).manager = some manager ∧
    manager.refCount = state.references + 1 := by
  unfold new State.references
  cases state.manager with
  | none => exact ⟨_, rfl, rfl⟩
  | some manager => exact ⟨_, rfl, rfl⟩

@[simp] theorem cacheRemove_references (state : State) (key : Gpointer) :
    (cacheRemove state key).references = state.references := by
  unfold cacheRemove
  cases present : state.manager with
  | none => rfl
  | some manager =>
      dsimp only
      split <;> simp [State.references, present]

/-- Removing a whole list from the cache, which is only possible while all of
it is alive. -/
theorem unrefDbusManagerCb_effect {state after : State} {list : List Addr} (objects : Objects state)
    (walked : unrefDbusManagerCb state list = .ok after) :
    Releases state (· ∈ list) after ∧ after.objectConter = state.objectConter ∧
      after.dbusManagers = state.dbusManagers ∧
      (∀ owner, after.ownerList owner = state.ownerList owner) ∧
      after.references = state.references ∧
      ∀ addr ∈ list, ∃ service, state.services.lookup addr = some service := by
  induction list generalizing state with
  | nil =>
      obtain rfl := Except.ok.inj walked
      exact ⟨(Releases.none state).describe (by simp), rfl, rfl, fun _ => rfl, rfl, by simp⟩
  | cons head next ih =>
      simp only [unrefDbusManagerCb, State.deref] at walked
      cases live : state.services.lookup head with
      | none => simp [live] at walked
      | some service =>
          simp only [live] at walked
          have early := cacheRemove_releases objects (guintToPointer service.id)
          obtain ⟨late, counter, managers, lists, references, alive⟩ :=
            ih (objects.releases early) walked
          have here := objects.liveCached live
          refine ⟨(early.trans late).describe fun addr => ?_, by simpa using counter,
            by simpa using managers, by simpa using lists, by simpa using references, ?_⟩
          · rw [here, Option.some.injEq, List.mem_cons, eq_comm]
          · intro addr member
            rcases List.mem_cons.mp member with rfl | later
            · exact ⟨service, live⟩
            · obtain ⟨other, there⟩ := alive addr later
              exact ⟨other, ((early.services addr other).mp there).1⟩

/-- Unregistering the services of an owner. -/
theorem unregisterServices_effect {state after : State} {owner : Conn} (objects : Objects state)
    (unregistered : unregisterServices state owner = .ok after) :
    Releases state (· ∈ state.ownerList owner) after ∧ after.objectConter = state.objectConter ∧
      after.dbusManagers = state.dbusManagers ∧
      (∀ other, after.ownerList other = if other = owner then [] else state.ownerList other) ∧
      after.references = state.references ∧
      ∀ addr ∈ state.ownerList owner, ∃ service, state.services.lookup addr = some service := by
  unfold unregisterServices at unregistered
  split at unregistered
  case isTrue empty =>
    obtain rfl := Except.ok.inj unregistered
    refine ⟨(Releases.none state).describe (by simp [empty]), rfl, rfl, fun other => ?_, rfl,
      by simp [empty]⟩
    split
    case isTrue same =>
      rw [same, empty]
    · rfl
  · cases path : unrefDbusManagerCb state (state.ownerList owner) with
    | error fault => simp [path] at unregistered
    | ok walked =>
      rw [path] at unregistered
      obtain rfl := Except.ok.inj unregistered
      obtain ⟨released, counter, managers, lists, references, alive⟩ :=
        unrefDbusManagerCb_effect objects path
      refine ⟨released.congr rfl (fun key => ?_) rfl, counter, managers, fun other => ?_, ?_, alive⟩
      · cases present : walked.manager <;> simp [State.cached, present]
      · rw [← lists other]
        cases present : walked.manager with
        | none => simp [State.ownerList, present]
        | some manager =>
            simp only [State.ownerList, present, Option.map_some, HashTable.lookup_erase_eq]
            split <;> rfl
      · rw [← references]
        cases present : walked.manager <;> simp [State.references, present]

/-- Dropping a reference to the registry, the last one only when nothing is registered. -/
theorem unref_effect {state : State} (objects : Objects state)
    (counted : ∀ {manager}, state.manager = some manager → 0 < manager.refCount)
    (unused : state.references = 1 →
      (∀ addr, state.services.lookup addr = none) ∧ ∀ owner, state.ownerList owner = []) :
    SameRegistry state (unref state) ∧ (unref state).dbusManagers = state.dbusManagers ∧
      (unref state).references = state.references - 1 ∧
      ∀ {manager}, (unref state).manager = some manager → 0 < manager.refCount := by
  unfold unref
  cases present : state.manager with
  | none =>
      exact ⟨SameRegistry.refl state, rfl, by simp [State.references, present], by simp [present]⟩
  | some manager =>
      have positive := counted present
      dsimp only
      split
      case isTrue last =>
        obtain ⟨dead, empty⟩ := unused (by simp [State.references, present, last])
        have uncached (key : Gpointer) : manager.serviceCache.lookup key = none := by
          cases found : manager.serviceCache.lookup key with
          | none => rfl
          | some addr =>
              have cached : state.cached key = some addr := by simpa [State.cached, present]
              obtain ⟨service, live, _⟩ := objects.cachedLive cached
              rw [dead addr] at live
              cases live
        have vacant : manager.serviceCache = ∅ := by
          apply AList.ext
          rw [AList.empty_entries, List.eq_nil_iff_forall_not_mem]
          intro entry member
          have found := AList.mem_lookup_iff.mpr member
          rw [uncached] at found
          cases found
        rw [vacant]
        refine ⟨⟨rfl, rfl, rfl, fun key => ?_, fun owner => ?_⟩, rfl, ?_, by simp⟩
        · simp [State.cached, present, uncached]
        · rw [empty]
          rfl
        · simp [State.references, present, last]
      case isFalse more =>
        refine ⟨⟨rfl, rfl, rfl, fun key => ?_, fun owner => ?_⟩, rfl, ?_, ?_⟩
        · simp [State.cached, present]
        · simp [State.ownerList, present]
        · simp [State.references, present]
        · intro kept same
          obtain rfl := Option.some.inj same
          dsimp only
          omega

end Manager

namespace Sound

variable {state after : State}

/-- `Sound` for a state in which the registry reads the same and every list of an
owner belongs to an open connection. -/
theorem congr (sound : Sound state) (registry : SameRegistry state after)
    (open_ : ∀ conn ∈ state.dbusManagers, conn ∈ after.dbusManagers)
    (referenced : after.references = after.dbusManagers.keys.length)
    (counted : ∀ {manager}, after.manager = some manager → 0 < manager.refCount) : Sound after where
  toObjects := sound.toObjects.congr registry.services registry.cached registry.exports
  listed := by
    intro addr service live
    rw [registry.ownerList]
    exact sound.listed (registry.services ▸ live)
  listOpen := by
    intro owner nonempty
    rw [registry.ownerList] at nonempty
    exact open_ owner (sound.listOpen nonempty)
  referenced := referenced
  counted := counted

end Sound

/-- A connection is served, unless the export of its manager fails. -/
theorem DbusManager.new_effect {state after : State} {conn : Conn}
    {credentials : DbusManager.PeerCredentials} {exportFailure : Option GError}
    {events : List Event} (sound : Sound state) (new : conn ∉ state.dbusManagers)
    (ran : DbusManager.new state conn credentials exportFailure = .ok (after, events)) :
    Effect state events after ∧ Sound after := by
  have initialized := Manager.new_registry state
  obtain ⟨manager, present, count⟩ := Manager.new_manager state
  have counted : ∀ {kept}, (Manager.new state).manager = some kept → 0 < kept.refCount := by
    intro kept same
    obtain rfl := Option.some.inj (present.symm.trans same)
    omega
  unfold DbusManager.new at ran
  cases exportFailure with
  | none =>
      simp only [Except.ok.injEq, Prod.mk.injEq] at ran
      obtain ⟨rfl, rfl⟩ := ran
      have registry : SameRegistry state { Manager.new state with
          dbusManagers := (Manager.new state).dbusManagers.insert conn
            ⟨(DbusManager.getAppIdFromConnection credentials).1,
              !(DbusManager.getAppIdFromConnection credentials).2, ∅⟩ } :=
        ⟨initialized.objectConter, initialized.services, initialized.exports, initialized.cached,
          initialized.ownerList⟩
      refine ⟨.connected new registry (by simp), sound.congr registry ?_ ?_ counted⟩
      · intro other member
        simp [member]
      · have count := sound.referenced
        have references := Manager.new_references state
        have absent := fun member => new (AList.mem_keys.mpr member)
        simp only [State.references] at count references ⊢
        simp only [Manager.new_dbusManagers, AList.keys_insert, List.erase_of_not_mem absent,
          List.length_cons]
        rw [← count, references]
  | some error =>
      -- nothing was registered for this connection, so only the reference is dropped again
      have empty : (Manager.new state).ownerList conn = [] := by
        rw [initialized.ownerList]
        by_contra nonempty
        exact new (sound.listOpen nonempty)
      simp only [dispose, Manager.unregisterServices, if_pos empty, Except.ok.injEq,
        Prod.mk.injEq] at ran
      obtain ⟨rfl, rfl⟩ := ran
      have objects := sound.toObjects.congr initialized.services initialized.cached
        initialized.exports
      obtain ⟨registry, managers, references, positive⟩ := Manager.unref_effect objects counted (by
        intro last
        rw [Manager.new_references] at last
        obtain ⟨services, lists⟩ := sound.unreferenced (by omega)
        exact ⟨fun addr => by rw [initialized.services, services],
          fun owner => by rw [initialized.ownerList, lists]⟩)
      have same := initialized.trans registry
      have kept : (Manager.unref (Manager.new state)).dbusManagers = state.dbusManagers := by
        rw [managers, Manager.new_dbusManagers]
      refine ⟨.quiet same kept, sound.congr same (by simp [kept]) ?_ positive⟩
      rw [references, Manager.new_references, kept, Nat.add_sub_cancel, sound.referenced]

/-! ## What an effect keeps -/

namespace Effect

variable {before after : State} {events : List Event} {conn : Conn}

/-- A connection stays open unless it is closed, and keeps its app id. -/
theorem stays (effect : Effect before events after) {dbusManager : DbusManager}
    (found : before.dbusManagers.lookup conn = some dbusManager) (open_ : .closed conn ∉ events) :
    ∃ left, after.dbusManagers.lookup conn = some left ∧ left.appId = dbusManager.appId := by
  cases effect with
  | quiet _ managers => exact ⟨dbusManager, by rw [managers, found], rfl⟩
  | connected new _ managers =>
      refine ⟨dbusManager, ?_, rfl⟩
      rw [managers, HashTable.lookup_insert_eq, if_neg, found]
      rintro rfl
      exact new (HashTable.lookup_isSome_iff.mpr ⟨_, found⟩)
  | exportFailed => exact ⟨dbusManager, found, rfl⟩
  | created _ _ _ creates => exact ⟨dbusManager, by rw [creates.dbusManagers, found], rfl⟩
  | existing => exact ⟨dbusManager, found, rfl⟩
  | sent => exact ⟨dbusManager, found, rfl⟩
  | @validated _ _ owner next _ _ _ _ owned _ verdict =>
      rw [HashTable.lookup_insert_eq]
      split
      case isTrue same =>
        rw [same, owned, Option.some.injEq] at found
        exact ⟨next, rfl, found ▸ DbusManager.validatePeerCertificate_appId verdict⟩
      · exact ⟨dbusManager, found, rfl⟩
  | unknownId => exact ⟨dbusManager, found, rfl⟩
  | removed _ removes => exact ⟨dbusManager, by rw [removes.dbusManagers, found], rfl⟩
  | @closed other _ _ closes =>
      refine ⟨dbusManager, ?_, rfl⟩
      rw [closes.dbusManagers, HashTable.lookup_erase_eq, if_neg, found]
      rintro rfl
      exact open_ List.mem_cons_self

/-- A connection of the daemon was there before, or has just been made; one without a
certificate stays so. -/
theorem came (effect : Effect before events after) {left : DbusManager}
    (found : after.dbusManagers.lookup conn = some left) :
    (∃ dbusManager, before.dbusManagers.lookup conn = some dbusManager ∧
      left.appId = dbusManager.appId ∧ (dbusManager.isNullCert = true → left.isNullCert = true)) ∨
    ∃ validApp, left.isNullCert = !validApp ∧ .connected conn left.appId validApp ∈ events := by
  have kept (found : before.dbusManagers.lookup conn = some left) :
      ∃ dbusManager, before.dbusManagers.lookup conn = some dbusManager ∧
        left.appId = dbusManager.appId ∧ (dbusManager.isNullCert = true → left.isNullCert = true) :=
    ⟨left, found, rfl, id⟩
  cases effect with
  | quiet _ managers => exact .inl (kept (by rw [← managers, found]))
  | @connected other appId validApp _ _ _ managers =>
      rw [managers] at found
      rcases HashTable.lookup_insert_some.mp found with ⟨same, rfl⟩ | ⟨_, found⟩
      · exact .inr ⟨validApp, rfl, by simp [same]⟩
      · exact .inl (kept found)
  | exportFailed => exact .inl (kept found)
  | created _ _ _ creates => exact .inl (kept (by rw [← creates.dbusManagers, found]))
  | existing => exact .inl (kept found)
  | sent => exact .inl (kept found)
  | @validated _ _ owner next _ _ _ _ owned _ verdict =>
      rcases HashTable.lookup_insert_some.mp found with ⟨same, rfl⟩ | ⟨_, found⟩
      · refine .inl ⟨owner, by rw [same, owned],
          DbusManager.validatePeerCertificate_appId verdict, ?_⟩
        intro flagged
        rw [(DbusManager.validatePeerCertificate_flagged verdict flagged).1, flagged]
      · exact .inl (kept found)
  | unknownId => exact .inl (kept found)
  | removed _ removes => exact .inl (kept (by rw [← removes.dbusManagers, found]))
  | @closed other _ _ closes =>
      rw [closes.dbusManagers] at found
      obtain ⟨_, found⟩ := HashTable.lookup_erase_some.mp found
      exact .inl (kept found)

/-- A live service was live before and its owner is not closed, or has just been created. -/
theorem live_before (effect : Effect before events after) (sound : Sound before) {addr : Addr}
    {service : DbusService} (live : after.services.lookup addr = some service) :
    (before.services.lookup addr = some service ∧ .closed service.owner ∉ events) ∨
    ∃ dbusManager, before.dbusManagers.lookup service.owner = some dbusManager ∧
      events = [.created service dbusManager.appId,
        .registered service.owner service.portName service.isTrusted service.id] := by
  cases effect with
  | quiet registry => exact .inl ⟨registry.services ▸ live, by simp⟩
  | connected _ registry => exact .inl ⟨registry.services ▸ live, by simp⟩
  | exportFailed => exact .inl ⟨live, by simp⟩
  | @created _ dbusManager _ _ _ _ _ served _ _ creates =>
      obtain ⟨middle, early, late⟩ := creates.tables
      rw [late.services] at live
      split at live
      · obtain rfl := Option.some.inj live
        exact .inr ⟨dbusManager, served, rfl⟩
      · exact .inl ⟨((early.services _ _).mp live).1, by simp⟩
  | existing => exact .inl ⟨live, by simp⟩
  | sent => exact .inl ⟨live, by simp⟩
  | validated _ _ _ _ verdict =>
      refine .inl ⟨live, ?_⟩
      rcases DbusManager.validatePeerCertificate_made verdict with rfl | ⟨peer, _, rfl⟩
      all_goals split <;> simp
  | unknownId => exact .inl ⟨live, by simp⟩
  | removed _ removes => exact .inl ⟨((removes.tables.services _ _).mp live).1, by simp⟩
  | closed _ closes =>
      obtain ⟨there, spared⟩ := (closes.tables.services _ _).mp live
      refine .inl ⟨there, ?_⟩
      rw [List.mem_singleton, Event.closed.injEq]
      rintro rfl
      exact spared (sound.listed there)

end Effect

end MessagePort.Daemon
