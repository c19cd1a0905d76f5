import MessagePort.Daemon.Manager

/-!
# Service objects and the tables that name them

`Objects` ties the live services to the tables that name them: every key of
`service_cache` is the id of the live service under it, and the exported
skeletons are those of the live services. It holds however exports fail, since
a key that is stored twice releases its old service. Releasing objects and
adding one are the only two things that happen to it.
-/

namespace MessagePort.Daemon

open Logical

/-- The live services, `service_cache` and the exported skeletons name each other. -/
structure Objects (state : State) : Prop where
  cachedLive : ∀ {key addr}, state.cached key = some addr →
    ∃ service, state.services.lookup addr = some service ∧ key = guintToPointer service.id
  liveCached : ∀ {addr service}, state.services.lookup addr = some service →
    state.cached (guintToPointer service.id) = some addr
  exported : ∀ {conn path addr}, state.exports.lookup (conn, path) = some addr ↔
    ∃ service, state.services.lookup addr = some service ∧ service.owner = conn ∧
      service.objectPath = path

/-- The services at some addresses are released, and nothing names them any more. -/
structure Releases (before : State) (released : Addr → Prop) (after : State) : Prop where
  services : ∀ addr service, after.services.lookup addr = some service ↔
    before.services.lookup addr = some service ∧ ¬ released addr
  cached : ∀ key addr, after.cached key = some addr ↔
    before.cached key = some addr ∧ ¬ released addr
  exports : ∀ place addr, after.exports.lookup place = some addr ↔
    before.exports.lookup place = some addr ∧ ¬ released addr

/-- A service appears at a fresh address, under an id and at a path not in use. -/
structure Adds (before : State) (addr : Addr) (service : DbusService) (after : State) : Prop where
  fresh : before.services.lookup addr = none
  freeKey : before.cached (guintToPointer service.id) = none
  freePath : before.exports.lookup (service.owner, service.objectPath) = none
  services : ∀ other, after.services.lookup other =
    if other = addr then some service else before.services.lookup other
  cached : ∀ key, after.cached key =
    if key = guintToPointer service.id then some addr else before.cached key
  exports : ∀ place, after.exports.lookup place =
    if place = (service.owner, service.objectPath) then some addr else before.exports.lookup place

namespace Releases

variable {before middle after : State} {first second : Addr → Prop}

/-- Releasing nothing. -/
theorem none (state : State) : Releases state (fun _ => False) state := ⟨by simp, by simp, by simp⟩

/-- Releases compose. -/
theorem trans (early : Releases before first middle) (late : Releases middle second after) :
    Releases before (fun addr => first addr ∨ second addr) after where
  services addr service := by rw [late.services, early.services, and_assoc, not_or]
  cached key addr := by rw [late.cached, early.cached, and_assoc, not_or]
  exports place addr := by rw [late.exports, early.exports, and_assoc, not_or]

/-- The released addresses, described otherwise. -/
theorem describe (effect : Releases before first after) (same : ∀ addr, first addr ↔ second addr) :
    Releases before second after := by
  obtain rfl : first = second := funext fun addr => propext (same addr)
  exact effect

/-- `Releases` reads nothing but the three tables. -/
theorem congr {state : State} (effect : Releases before first state)
    (services : after.services = state.services)
    (cached : ∀ key, after.cached key = state.cached key)
    (exports : after.exports = state.exports) : Releases before first after where
  services addr service := by rw [services, effect.services]
  cached key addr := by rw [cached, effect.cached]
  exports place addr := by rw [exports, effect.exports]

end Releases

namespace Objects

variable {before after : State}

/-- Two live services never share an id: the cache has one entry for it. -/
theorem addr_of_id {state : State} (objects : Objects state) {first second : Addr}
    {one other : DbusService} (live : state.services.lookup first = some one)
    (live' : state.services.lookup second = some other) (same : one.id = other.id) :
    first = second := by
  have cached := objects.liveCached live
  rw [same, objects.liveCached live', Option.some.injEq] at cached
  exact cached.symm

theorem initial : Objects State.initial where
  cachedLive := by simp [State.initial, State.cached]
  liveCached := by simp [State.initial]
  exported := by simp [State.initial]

/-- Releasing services keeps the tables in step. -/
theorem releases {released : Addr → Prop} (objects : Objects before)
    (effect : Releases before released after) : Objects after where
  cachedLive := by
    intro key addr found
    obtain ⟨found, kept⟩ := (effect.cached _ _).mp found
    obtain ⟨service, live, keyed⟩ := objects.cachedLive found
    exact ⟨service, (effect.services _ _).mpr ⟨live, kept⟩, keyed⟩
  liveCached := by
    intro addr service live
    obtain ⟨live, kept⟩ := (effect.services _ _).mp live
    exact (effect.cached _ _).mpr ⟨objects.liveCached live, kept⟩
  exported := by
    intro conn path addr
    rw [effect.exports, objects.exported]
    constructor
    · rintro ⟨⟨service, live, place⟩, kept⟩
      exact ⟨service, (effect.services _ _).mpr ⟨live, kept⟩, place⟩
    · rintro ⟨service, live, place⟩
      obtain ⟨live, kept⟩ := (effect.services _ _).mp live
      exact ⟨⟨service, live, place⟩, kept⟩

/-- Adding a service keeps the tables in step. -/
theorem adds {addr : Addr} {service : DbusService} (objects : Objects before)
    (effect : Adds before addr service after) : Objects after where
  cachedLive := by
    intro key found at_
    rw [effect.cached] at at_
    split at at_
    case isTrue keyed =>
      obtain rfl := Option.some.inj at_
      exact ⟨service, by rw [effect.services, if_pos rfl], keyed⟩
    · obtain ⟨other, live, keyed⟩ := objects.cachedLive at_
      refine ⟨other, ?_, keyed⟩
      rw [effect.services, if_neg, live]
      rintro rfl
      rw [effect.fresh] at live
      cases live
  liveCached := by
    intro other found live
    rw [effect.services] at live
    rw [effect.cached]
    split at live
    case isTrue same =>
      obtain rfl := Option.some.inj live
      rw [if_pos rfl, same]
    · have cached := objects.liveCached live
      rw [if_neg, cached]
      intro keyed
      rw [keyed, effect.freeKey] at cached
      cases cached
  exported := by
    intro conn path other
    rw [effect.exports, effect.services]
    constructor
    · intro found
      split at found
      case isTrue place =>
        obtain rfl := Option.some.inj found
        exact ⟨service, by rw [if_pos rfl], (Prod.mk.inj place.symm).1, (Prod.mk.inj place.symm).2⟩
      · obtain ⟨found, live, place⟩ := objects.exported.mp found
        refine ⟨found, ?_, place⟩
        rw [if_neg, live]
        rintro rfl
        rw [effect.fresh] at live
        cases live
    · rintro ⟨found, live, rfl, rfl⟩
      split at live
      case isTrue same =>
        obtain rfl := Option.some.inj live
        rw [if_pos rfl, same]
      · have taken := objects.exported.mpr ⟨found, live, rfl, rfl⟩
        rw [if_neg, taken]
        intro place
        rw [place, effect.freePath] at taken
        cases taken

/-- `Objects` reads nothing but the three tables. -/
theorem congr (objects : Objects before) (services : after.services = before.services)
    (cached : ∀ key, after.cached key = before.cached key)
    (exports : after.exports = before.exports) :
    Objects after where
  cachedLive := by
    intro key addr found
    rw [services]
    exact objects.cachedLive (cached key ▸ found)
  liveCached := by
    intro addr service live
    rw [cached]
    exact objects.liveCached (services ▸ live)
  exported := by
    intro conn path addr
    rw [exports, services]
    exact objects.exported

end Objects

/-! ## Effects of the registry's table operations -/

namespace DbusService

theorem dispose_live {state : State} {addr : Addr} {service : DbusService}
    (live : state.services.lookup addr = some service) :
    dispose state addr =
      { state with
        services := state.services.erase addr
        exports := state.exports.erase (service.owner, service.objectPath) } := by
  simp only [dispose, live]

@[simp] theorem dispose_manager (state : State) (addr : Addr) :
    (dispose state addr).manager = state.manager := by
  unfold dispose
  split <;> rfl

@[simp] theorem dispose_dbusManagers (state : State) (addr : Addr) :
    (dispose state addr).dbusManagers = state.dbusManagers := by
  unfold dispose
  split <;> rfl

@[simp] theorem dispose_objectConter (state : State) (addr : Addr) :
    (dispose state addr).objectConter = state.objectConter := by
  unfold dispose
  split <;> rfl

/-- Disposing of an address removes its object and its skeleton. -/
theorem dispose_lookup {state : State} (objects : Objects state) (addr : Addr) :
    (∀ other service, (dispose state addr).services.lookup other = some service ↔
      state.services.lookup other = some service ∧ other ≠ addr) ∧
    ∀ place other, (dispose state addr).exports.lookup place = some other ↔
      state.exports.lookup place = some other ∧ other ≠ addr := by
  cases live : state.services.lookup addr with
  | none =>
      have apart {other service} (there : state.services.lookup other = some service) :
          other ≠ addr := by
        rintro rfl
        rw [live] at there
        cases there
      simp only [dispose, live]
      refine ⟨fun other service => ⟨fun there => ⟨there, apart there⟩, And.left⟩,
        fun place other => ⟨fun there => ⟨there, ?_⟩, And.left⟩⟩
      obtain ⟨_, object, _⟩ := objects.exported.mp there
      exact apart object
  | some service =>
      rw [dispose_live live]
      simp only [HashTable.lookup_erase_eq]
      refine ⟨fun other there => by aesop, fun place other => ?_⟩
      have here := objects.exported.mpr ⟨service, live, rfl, rfl⟩
      constructor
      · intro there
        split at there
        · cases there
        case isFalse elsewhere =>
          refine ⟨there, ?_⟩
          rintro rfl
          obtain ⟨_, object, owner, path⟩ := objects.exported.mp there
          obtain rfl := Option.some.inj (live.symm.trans object)
          exact elsewhere (Prod.ext owner.symm path.symm)
      · rintro ⟨there, different⟩
        rw [if_neg, there]
        rintro rfl
        exact different (Option.some.inj (there.symm.trans here))

end DbusService

namespace Manager

@[simp] theorem cacheRemove_dbusManagers (state : State) (key : Gpointer) :
    (cacheRemove state key).dbusManagers = state.dbusManagers := by
  unfold cacheRemove
  split
  · rfl
  · split <;> simp

@[simp] theorem cacheRemove_objectConter (state : State) (key : Gpointer) :
    (cacheRemove state key).objectConter = state.objectConter := by
  unfold cacheRemove
  split
  · rfl
  · split <;> simp

@[simp] theorem cacheRemove_ownerList (state : State) (key : Gpointer) (owner : Conn) :
    (cacheRemove state key).ownerList owner = state.ownerList owner := by
  unfold cacheRemove
  cases present : state.manager with
  | none => rfl
  | some manager =>
      dsimp only
      split <;> simp [State.ownerList, present]

/-- Removing a key releases the service under it. -/
theorem cacheRemove_releases {state : State} (objects : Objects state) (key : Gpointer) :
    Releases state (fun addr => state.cached key = some addr) (cacheRemove state key) := by
  have unchanged (absent : state.cached key = none) :
      Releases state (fun addr => state.cached key = some addr) state := by
    rw [absent]
    exact ⟨by simp, by simp, by simp⟩
  cases present : state.manager with
  | none =>
      have absent : state.cached key = none := by simp [State.cached, present]
      simpa only [cacheRemove, present] using unchanged absent
  | some manager =>
      have cached (other : Gpointer) : state.cached other = manager.serviceCache.lookup other := by
        simp [State.cached, present]
      cases found : manager.serviceCache.lookup key with
      | none => simpa only [cacheRemove, present, found] using unchanged ((cached key).trans found)
      | some addr =>
          have here : state.cached key = some addr := (cached key).trans found
          obtain ⟨services, exports⟩ := DbusService.dispose_lookup objects addr
          have alone (other : Addr) : ¬ state.cached key = some other ↔ other ≠ addr := by
            rw [here, Option.some.injEq, eq_comm]
          simp only [cacheRemove, present, found]
          refine ⟨fun other service => ?_, fun other second => ?_, fun place other => ?_⟩
          · rw [alone]
            exact services other service
          · rw [alone, cached other]
            simp only [State.cached, Option.bind_some, HashTable.lookup_erase_eq]
            constructor
            · intro there
              split at there
              · cases there
              case isFalse different =>
                refine ⟨there, ?_⟩
                rintro rfl
                obtain ⟨service, live, keyed⟩ := objects.cachedLive ((cached other).trans there)
                obtain ⟨_, live', keyed'⟩ := objects.cachedLive here
                obtain rfl := Option.some.inj (live.symm.trans live')
                exact different (keyed.trans keyed'.symm)
            · rintro ⟨there, different⟩
              rw [if_neg, there]
              rintro rfl
              exact different (Option.some.inj (there.symm.trans found))
          · rw [alone]
            exact exports place other

end Manager

end MessagePort.Daemon
