import MessagePort.Daemon.Counter

/-!
# The registry while ids are unique

While no id is handed out twice a creation never releases an older service, so
the two tables of the registry agree: `Registry` says how, and is kept by every
effect of such a run.
-/

namespace MessagePort.Daemon

open Logical Semantics

/-- Every live service was created in this run, for an owner that still has the
same app id. -/
theorem created_of_live {trace : List Event} {state : State} (run : system.Runs trace state) :
    ∀ {addr service}, state.services.lookup addr = some service →
      ∃ dbusManager, .created service dbusManager.appId ∈ trace ∧
        state.dbusManagers.lookup service.owner = some dbusManager := by
  refine @runs_invariant (fun trace state => ∀ {addr service},
    state.services.lookup addr = some service → ∃ dbusManager,
      .created service dbusManager.appId ∈ trace ∧
        state.dbusManagers.lookup service.owner = some dbusManager) ?_ ?_ _ _ run
  · intro addr service live
    simp [State.initial] at live
  · intro trace state emitted next prior ih effect addr service live
    rcases effect.live_before (sound_of_runs prior) live with ⟨before, open_⟩ |
      ⟨dbusManager, served, rfl⟩
    · obtain ⟨dbusManager, made, owned⟩ := ih before
      obtain ⟨left, still, same⟩ := effect.stays owned open_
      exact ⟨left, List.mem_append_left _ (same ▸ made), still⟩
    · obtain ⟨left, still, same⟩ := effect.stays served (by simp)
      exact ⟨left, List.mem_append_right _ (same ▸ List.mem_cons_self), still⟩

/-- The id of a created service is among the ids handed out. -/
theorem mem_createdIds {trace : List Event} {service : DbusService} {appId : Option String}
    (made : Event.created service appId ∈ trace) : service.id ∈ createdIds trace :=
  List.mem_filterMap.mpr ⟨_, made, rfl⟩

/-- While ids are distinct, an id stands for one created service. -/
theorem created_inj {trace : List Event} (distinct : (createdIds trace).Nodup)
    {first second : DbusService} {firstApp secondApp : Option String}
    (made : .created first firstApp ∈ trace) (made' : .created second secondApp ∈ trace)
    (same : first.id = second.id) : first = second ∧ firstApp = secondApp := by
  induction trace with
  | nil => cases made
  | cons event rest ih =>
      rw [← List.singleton_append, createdIds_append] at distinct
      obtain ⟨-, later, apart⟩ := List.nodup_append.mp distinct
      rcases List.mem_cons.mp made with rfl |
        early <;> rcases List.mem_cons.mp made' with now | late
      · exact ⟨(Event.created.inj now).1.symm, (Event.created.inj now).2.symm⟩
      · exact absurd same (apart _ (by simp [createdIds]) _ (mem_createdIds late))
      · subst now
        exact absurd same.symm (apart _ (by simp [createdIds]) _ (mem_createdIds early))
      · exact ih later early late

/-- A created service has a name. -/
theorem created_named {trace : List Event} {state : State} (run : system.Runs trace state)
    {service : DbusService} {appId : Option String} (made : .created service appId ∈ trace) :
    service.portName ≠ "" := by
  revert made
  refine @runs_invariant (fun trace _ => .created service appId ∈ trace →
    service.portName ≠ "") ?_ ?_ _ _ run
  · simp
  · intro trace state emitted next _ ih effect made
    rcases List.mem_append.mp made with before | now
    · exact ih before
    · cases effect with
      | created served named missing creates =>
          simp only [List.mem_cons, Event.created.injEq, List.not_mem_nil, or_false,
            reduceCtorEq] at now
          rw [now.1]
          exact named
      | @validated _ _ _ _ accepted made _ _ _ _ verdict =>
          rcases DbusManager.validatePeerCertificate_made verdict with rfl | ⟨peer, _, rfl⟩
          all_goals cases accepted <;> simp at now
      | quiet => simp at now
      | connected => simp at now
      | exportFailed => simp at now
      | existing => simp at now
      | sent => simp at now
      | unknownId => simp at now
      | removed => simp at now
      | closed => simp at now

/-- The two tables of the registry agree: lists hold live services of their
owner, each once, and no two of one name and trust flag. -/
structure Registry (state : State) : Prop where
  listedLive : ∀ {owner addr}, addr ∈ state.ownerList owner →
    ∃ service, state.services.lookup addr = some service ∧ service.owner = owner
  listedOnce : ∀ owner, (state.ownerList owner).Nodup
  distinct : ∀ {first second one other}, state.services.lookup first = some one →
    state.services.lookup second = some other → one.owner = other.owner →
    one.portName = other.portName → one.isTrusted = other.isTrusted → first = second

namespace Registry

variable {before after : State}

theorem initial : Registry State.initial where
  listedLive := by simp [State.initial, State.ownerList]
  listedOnce := by simp [State.initial, State.ownerList]
  distinct := by simp [State.initial]

/-- `Registry` reads nothing but the objects and the lists. -/
theorem congr (registry : Registry before) (services : after.services = before.services)
    (ownerList : ∀ owner, after.ownerList owner = before.ownerList owner) : Registry after where
  listedLive := by
    intro owner addr listed
    rw [services]
    exact registry.listedLive (ownerList owner ▸ listed)
  listedOnce owner := ownerList owner ▸ registry.listedOnce owner
  distinct := by
    rw [services]
    exact registry.distinct

/-- A creation under a free id releases nothing. -/
theorem creates_services {addr : Addr} {service : DbusService}
    (free : before.cached (guintToPointer service.id) = none)
    (creates : Creates before addr service after) (other : Addr) :
    after.services.lookup other =
      if other = addr then some service else before.services.lookup other := by
  obtain ⟨middle, early, late⟩ := creates.tables
  have kept : middle.services.lookup other = before.services.lookup other := by
    apply Option.ext
    intro found
    rw [early.services, free]
    simp
  rw [late.services, kept]

/-- A new service under a free id, of a name its owner does not have yet. -/
theorem creates {conn : Conn} {portName : String} {isTrusted : Bool} {id : Guint} {addr : Addr}
    (sound : Sound before) (registry : Registry before)
    (free : before.cached (guintToPointer id) = none)
    (missing : Manager.getServiceInternal before portName isTrusted
      (before.ownerList conn) = .ok none)
    (creates : Creates before addr ⟨id, conn, portName, isTrusted⟩ after) : Registry after := by
  have services := creates_services free creates
  have fresh {other : Addr} {found : DbusService}
      (live : before.services.lookup other = some found) :
      other ≠ addr := by
    rintro rfl
    rw [creates.fresh] at live
    cases live
  -- the walk that found nothing saw every service of this owner
  have unnamed {other : Addr} {found : DbusService}
      (live : before.services.lookup other = some found)
      (owner : found.owner = conn) (name : found.portName = portName)
      (trust : found.isTrusted = isTrusted) : False := by
    obtain ⟨seen, there, different⟩ :=
      Manager.getServiceInternal_none missing other (owner ▸ sound.listed live)
    obtain rfl := Option.some.inj (live.symm.trans there)
    exact different ⟨name, trust⟩
  constructor
  · intro owner other listed
    rw [creates.ownerList] at listed
    rw [services]
    have old (member : other ∈ before.ownerList owner) : ∃ found,
        (if other = addr then some ⟨id, conn, portName, isTrusted⟩
          else before.services.lookup other) = some found ∧ found.owner = owner := by
      obtain ⟨found, live, owned⟩ := registry.listedLive member
      exact ⟨found, by rw [if_neg (fresh live), live], owned⟩
    split at listed
    case isTrue same =>
      rcases List.mem_append.mp listed with early | late
      · exact old early
      · rw [List.mem_singleton.mp late, if_pos rfl]
        exact ⟨_, rfl, same.symm⟩
    · exact old listed
  · intro owner
    rw [creates.ownerList]
    split
    · have apart : addr ∉ before.ownerList owner := by
        intro listed
        obtain ⟨found, live, _⟩ := registry.listedLive listed
        exact fresh live rfl
      rw [List.nodup_append_comm, List.singleton_append, List.nodup_cons]
      exact ⟨apart, registry.listedOnce owner⟩
    · exact registry.listedOnce owner
  · intro first second one other live live' owner name trust
    rw [services] at live live'
    split at live
    case isTrue isNew =>
      obtain rfl := Option.some.inj live
      split at live'
      case isTrue isNew' =>
        rw [isNew, isNew']
      · exact (unnamed live' owner.symm name.symm trust.symm).elim
    · split at live'
      · obtain rfl := Option.some.inj live'
        exact (unnamed live owner name trust).elim
      · exact registry.distinct live live' owner name trust

/-- Removing one service. -/
theorem removes {addr : Addr} {service : DbusService} (registry : Registry before)
    (removes : Removes before addr service after) : Registry after := by
  constructor
  · intro owner other listed
    rw [removes.ownerList] at listed
    have kept (member : other ∈ before.ownerList owner) (different : other ≠ addr) :
        ∃ found, after.services.lookup other = some found ∧ found.owner = owner := by
      obtain ⟨found, live, owned⟩ := registry.listedLive member
      exact ⟨found, (removes.tables.services _ _).mpr ⟨live, different⟩, owned⟩
    split at listed
    · rw [(registry.listedOnce owner).mem_erase_iff] at listed
      exact kept listed.2 listed.1
    case isFalse elsewhere =>
      apply kept listed
      rintro rfl
      obtain ⟨found, live, owned⟩ := registry.listedLive listed
      obtain rfl := Option.some.inj (removes.live.symm.trans live)
      exact elsewhere owned.symm
  · intro owner
    rw [removes.ownerList]
    split
    · exact (registry.listedOnce owner).erase addr
    · exact registry.listedOnce owner
  · intro first second one other live live'
    exact registry.distinct ((removes.tables.services _ _).mp live).1
      ((removes.tables.services _ _).mp live').1

/-- Closing a connection. -/
theorem closes {conn : Conn} (registry : Registry before) (closes : Closes before conn after) :
    Registry after := by
  constructor
  · intro owner other listed
    rw [closes.ownerList] at listed
    split at listed
    · cases listed
    case isFalse different =>
      obtain ⟨found, live, owned⟩ := registry.listedLive listed
      refine ⟨found, (closes.tables.services _ _).mpr ⟨live, fun gone => ?_⟩, owned⟩
      obtain ⟨again, there, closed⟩ := registry.listedLive gone
      obtain rfl := Option.some.inj (live.symm.trans there)
      exact different (owned.symm.trans closed)
  · intro owner
    rw [closes.ownerList]
    split
    · exact List.nodup_nil
    · exact registry.listedOnce owner
  · intro first second one other live live'
    exact registry.distinct ((closes.tables.services _ _).mp live).1
      ((closes.tables.services _ _).mp live').1

/-- Every effect keeps the registry, a creation if its id is free. -/
theorem effect {events : List Event} (sound : Sound before) (registry : Registry before)
    (effect : Effect before events after)
    (free : ∀ service appId, .created service appId ∈ events →
      before.cached (guintToPointer service.id) = none) : Registry after := by
  cases effect with
  | quiet same => exact registry.congr same.services same.ownerList
  | connected _ same => exact registry.congr same.services same.ownerList
  | exportFailed => exact registry.congr rfl fun _ => rfl
  | created _ _ missing creates =>
      exact registry.creates sound (free _ _ List.mem_cons_self) missing creates
  | existing => exact registry
  | sent => exact registry
  | validated => exact registry.congr rfl fun _ => rfl
  | unknownId => exact registry
  | removed _ removes => exact registry.removes removes
  | closed _ closes => exact registry.closes closes

/-- The search of a list finds exactly the live service of this owner, name and
trust flag. -/
theorem search_some_iff {state : State} (sound : Sound state) (registry : Registry state)
    {owner : Conn} {portName : String} {isTrusted : Bool} {addr : Addr} :
    Manager.getServiceInternal state portName isTrusted (state.ownerList owner) = .ok (some addr) ↔
      ∃ id, state.services.lookup addr = some ⟨id, owner, portName, isTrusted⟩ := by
  constructor
  · intro found
    obtain ⟨listed, service, live, rfl, rfl⟩ := Manager.getServiceInternal_some found
    obtain ⟨same, there, rfl⟩ := registry.listedLive listed
    obtain rfl := Option.some.inj (live.symm.trans there)
    exact ⟨service.id, live⟩
  · rintro ⟨id, live⟩
    have alive (other : Addr) (listed : other ∈ state.ownerList owner) :
        ∃ service, state.services.lookup other = some service := by
      obtain ⟨service, there, _⟩ := registry.listedLive listed
      exact ⟨service, there⟩
    obtain ⟨found, search⟩ := Manager.getServiceInternal_total alive portName isTrusted
    cases found with
    | none =>
        obtain ⟨seen, there, different⟩ :=
          Manager.getServiceInternal_none search addr (sound.listed live)
        obtain rfl := Option.some.inj (live.symm.trans there)
        exact absurd ⟨rfl, rfl⟩ different
    | some other =>
        obtain ⟨listed, service, there, name, trust⟩ := Manager.getServiceInternal_some search
        obtain ⟨same, there', owned⟩ := registry.listedLive listed
        obtain rfl := Option.some.inj (there.symm.trans there')
        rw [search, registry.distinct live there owned.symm name.symm trust.symm]

/-- The search fails exactly when there is no such service. -/
theorem search_none_iff {state : State} (sound : Sound state) (registry : Registry state)
    {owner : Conn} {portName : String} {isTrusted : Bool} :
    Manager.getServiceInternal state portName isTrusted (state.ownerList owner) = .ok none ↔
      ∀ addr id, state.services.lookup addr ≠ some ⟨id, owner, portName, isTrusted⟩ := by
  constructor
  · intro missing addr id live
    rw [(search_some_iff sound registry).mpr ⟨id, live⟩] at missing
    cases missing
  · intro absent
    have alive (other : Addr) (listed : other ∈ state.ownerList owner) :
        ∃ service, state.services.lookup other = some service := by
      obtain ⟨service, there, _⟩ := registry.listedLive listed
      exact ⟨service, there⟩
    obtain ⟨found, search⟩ := Manager.getServiceInternal_total alive portName isTrusted
    cases found with
    | none => exact search
    | some addr =>
        obtain ⟨id, live⟩ := (search_some_iff sound registry).mp search
        exact absurd live (absent addr id)

end Registry

/-- Ids that are unique, together with the initial value of the counter, are not zero. -/
theorem nonzero_of_live {trace : List Event} {state : State} (run : system.Runs trace state)
    (unique : (0 :: createdIds trace).Nodup) {addr : Addr} {service : DbusService}
    (live : state.services.lookup addr = some service) : service.id ≠ 0 := by
  intro zero
  obtain ⟨_, made, _⟩ := created_of_live run live
  exact (List.nodup_cons.mp unique).1 (zero ▸ mem_createdIds made)

/-- The ids of the live services of a regular run fit. -/
theorem Regular.fits {trace : List Event} {state : State} (regular : Regular trace)
    (run : system.Runs trace state) {addr : Addr} {service : DbusService}
    (live : state.services.lookup addr = some service) : FitsInt service.id where
  positive := by
    have nonzero := nonzero_of_live run (regular.nodup run) live
    exact Nat.pos_of_ne_zero fun zero => nonzero (BitVec.eq_of_toNat_eq zero)
  small := by
    obtain ⟨_, made, _⟩ := created_of_live run live
    exact regular.small run (mem_createdIds made)

/-- A service created now has an id that no live service has. -/
theorem created_free {trace emitted : List Event} {state : State} (run : system.Runs trace state)
    (unique : (0 :: createdIds (trace ++ emitted)).Nodup) {service : DbusService}
    {appId : Option String} (made : .created service appId ∈ emitted) :
    state.cached (guintToPointer service.id) = none := by
  rw [Option.eq_none_iff_forall_ne_some]
  intro addr found
  obtain ⟨old, live, keyed⟩ := (sound_of_runs run).cachedLive found
  obtain ⟨_, before, _⟩ := created_of_live run live
  have first : service.id ∈ createdIds trace := by
    rw [guintToPointer_inj.mp keyed]
    exact mem_createdIds before
  rw [createdIds_append] at unique
  exact (List.nodup_append.mp (List.nodup_cons.mp unique).2).2.2 _ first _ (mem_createdIds made) rfl

/-- The registry of every run with unique ids. -/
theorem registry_of_runs {trace : List Event} {state : State} (run : system.Runs trace state)
    (unique : (0 :: createdIds trace).Nodup) : Registry state := by
  refine @runs_invariant_of (fun trace => (0 :: createdIds trace).Nodup) unique_of_append
    (fun _ state => Registry state) Registry.initial ?_ _ _ run unique
  intro trace state emitted next prior registry effect _ unique
  exact registry.effect (sound_of_runs prior) effect fun service appId made =>
    created_free prior unique made

/-! ## The representation invariant -/

/-- `service_cache` and `owner_service_map` represent one set of services. -/
structure Represents (state : State) : Prop where
  /-- An entry of the cache is keyed by its service's own nonzero id. -/
  keyed : ∀ {key addr}, state.cached key = some addr → ∃ service,
    state.services.lookup addr = some service ∧ service.id ≠ 0 ∧ key = guintToPointer service.id
  /-- A service is cached if and only if it is listed under its own owner. -/
  cachedIffListed : ∀ addr, (∃ key, state.cached key = some addr) ↔
    ∃ service, state.services.lookup addr = some service ∧ addr ∈ state.ownerList service.owner
  /-- A listed service is listed once, and under its own owner. -/
  listed : ∀ {owner addr}, addr ∈ state.ownerList owner → (state.ownerList owner).count addr = 1 ∧
    ∃ service, state.services.lookup addr = some service ∧ service.owner = owner
  /-- No two services of one list have the same name and trust flag. -/
  distinct : ∀ {owner first second one other}, first ∈ state.ownerList owner →
    second ∈ state.ownerList owner → state.services.lookup first = some one →
    state.services.lookup second = some other →
    (one.portName, one.isTrusted) = (other.portName, other.isTrusted) → first = second
  /-- An owner with a list is the manager of an open connection. -/
  listOpen : ∀ {owner}, state.ownerList owner ≠ [] → owner ∈ state.dbusManagers

/-- The registry represents one set of services in every reachable state. -/
theorem represents_of_runs {trace : List Event} {state : State} (run : system.Runs trace state)
    (regular : Regular trace) : Represents state := by
  have sound := sound_of_runs run
  have unique := regular.nodup run
  have registry := registry_of_runs run unique
  constructor
  · intro key addr found
    obtain ⟨service, live, keyed⟩ := sound.cachedLive found
    exact ⟨service, live, nonzero_of_live run unique live, keyed⟩
  · intro addr
    constructor
    · rintro ⟨key, found⟩
      obtain ⟨service, live, _⟩ := sound.cachedLive found
      exact ⟨service, live, sound.listed live⟩
    · rintro ⟨service, live, _⟩
      exact ⟨_, sound.liveCached live⟩
  · intro owner addr listed
    exact ⟨List.count_eq_one_of_mem (registry.listedOnce owner) listed, registry.listedLive listed⟩
  · intro owner first second one other listed listed' live live' same
    obtain ⟨service, there, owned⟩ := registry.listedLive listed
    obtain ⟨service', there', owned'⟩ := registry.listedLive listed'
    obtain rfl := Option.some.inj (live.symm.trans there)
    obtain rfl := Option.some.inj (live'.symm.trans there')
    exact registry.distinct live live' (owned.trans owned'.symm) (Prod.mk.inj same).1
      (Prod.mk.inj same).2
  · exact sound.listOpen

/-- A run with two owners, a removal and a close. -/
theorem represents_of_runs_twoOwners : ∃ trace state, system.Runs trace state ∧
    state.ownerList 1 ≠ [] ∧ Represents state := by
  obtain ⟨trace, state, run, accepted⟩ := @EventSystem.Runs.of_exec _ _ _ system
    [.connect 0 (.pid 1 (some "app")) none, .connect 1 (.pid 2 (some "other")) none,
      registerLabel 0 "first" .benign,
      registerLabel 0 "second" { Choices.benign with allocated := 1 },
      registerLabel 1 "first" { Choices.benign with allocated := 2 },
      .unregisterService 1, .close 0]
    (fun state trace => state.ownerList 1 ≠ [] ∧ attempts trace = [true, true, true]) (by decide)
  obtain ⟨listed, tries⟩ : state.ownerList 1 ≠ [] ∧ attempts trace = [true, true, true] := by
    simpa using accepted
  exact ⟨trace, state, run, listed,
    represents_of_runs run ⟨by rw [tries]; decide, by rw [tries]; decide⟩⟩

end MessagePort.Daemon
