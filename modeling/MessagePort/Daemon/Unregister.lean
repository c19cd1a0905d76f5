import MessagePort.Daemon.Registry

/-!
# Unregistering by id

The registry stores a service under its id as a `guint`, and unregisters by an id
that was made a `gint`. The two keys differ from the sign bit on, so that an id
above it is never found.
-/

namespace MessagePort.Daemon

open Logical Semantics

/-- Exactly one service is gone from `service_cache` and from the list of its owner. -/
structure Unregistered (before : State) (addr : Addr) (service : DbusService) (after : State) :
    Prop where
  cached : ∀ key other, after.cached key = some other ↔
    before.cached key = some other ∧ other ≠ addr
  services : ∀ other found, after.services.lookup other = some found ↔
    before.services.lookup other = some found ∧ other ≠ addr
  list : after.ownerList service.owner = (before.ownerList service.owner).filter (· ≠ addr)
  others : ∀ owner, owner ≠ service.owner → after.ownerList owner = before.ownerList owner
  dbusManagers : after.dbusManagers = before.dbusManagers

/-- The live service with this id is unregistered; without one, nothing changes and
the error says that the id was not found. -/
structure Unregisters (state : State) (serviceId : Guint) : Prop where
  removes : ∀ addr service, state.services.lookup addr = some service → service.id = serviceId →
    ∃ after, Manager.unregisterService state serviceId = .ok (after, .ok ()) ∧
      Unregistered state addr service after
  refuses : (∀ addr service, state.services.lookup addr = some service → service.id ≠ serviceId) →
    Manager.unregisterService state serviceId =
      .ok (state, .error (msgportErrorPortIdNotFoundNew serviceId.toInt))

section Unregister

variable {state : State} {manager : Manager} {serviceId : Guint}

/-- While every service is listed once, removing it keeps the order of the others. -/
theorem Removes.unregistered {after : State} {addr : Addr} {service : DbusService}
    (registry : Registry state) (removes : Removes state addr service after) :
    Unregistered state addr service after where
  cached := removes.tables.cached
  services := removes.tables.services
  list := by
    rw [removes.ownerList, if_pos rfl, (registry.listedOnce _).erase_eq_filter]
    apply List.filter_congr
    intro other _
    by_cases same : other = addr <;> simp [same]
  others := by
    intro owner different
    rw [removes.ownerList, if_neg different]
  dbusManagers := removes.dbusManagers

/-- Nothing is stored under the key of an id that no live service has. -/
theorem cached_eq_none (objects : Objects state)
    (dead : ∀ addr service, state.services.lookup addr = some service →
      gintToPointer serviceId ≠ guintToPointer service.id) :
    state.cached (gintToPointer serviceId) = none := by
  rw [Option.eq_none_iff_forall_ne_some]
  intro addr found
  obtain ⟨service, live, keyed⟩ := objects.cachedLive found
  exact dead addr service live keyed

/-- An id above the sign bit is refused, whether a service has it or not. -/
theorem unregisterService_large (objects : Objects state) (present : state.manager = some manager)
    (large : 2 ^ 31 ≤ serviceId.toNat) :
    Manager.unregisterService state serviceId =
      .ok (state, .error (msgportErrorPortIdNotFoundNew serviceId.toInt)) := by
  apply Manager.unregisterService_missing present
  apply cached_eq_none objects
  intro addr service live
  exact gintToPointer_ne_of_large large service.id

/-- An id below the sign bit is unregistered as asked. -/
theorem unregisters_of_small (sound : Sound state) (registry : Registry state)
    (present : state.manager = some manager) (small : serviceId.toNat < 2 ^ 31) :
    Unregisters state serviceId := by
  constructor
  · rintro addr service live rfl
    have found : state.cached (gintToPointer service.id) = some addr := by
      rw [gintToPointer_of_small small]
      exact sound.liveCached live
    obtain ⟨after, done, removes, _⟩ := Manager.unregisterService_found sound present found live
    exact ⟨after, done, removes.unregistered registry⟩
  · intro dead
    apply Manager.unregisterService_missing present
    apply cached_eq_none sound.toObjects
    intro addr service live keyed
    exact dead addr service live (eq_of_gintToPointer keyed).symm

/-- An id is unregistered as asked exactly if it is below the sign bit, or no live
service has it. -/
theorem unregisters_iff {trace : List Event} (run : system.Runs trace state)
    (registry : Registry state) (present : state.manager = some manager) (serviceId : Guint) :
    Unregisters state serviceId ↔ serviceId.toNat < 2 ^ 31 ∨
      ∀ addr service, state.services.lookup addr = some service → service.id ≠ serviceId := by
  have sound := sound_of_runs run
  by_cases small : serviceId.toNat < 2 ^ 31
  · exact iff_of_true (unregisters_of_small sound registry present small) (.inl small)
  · have large : 2 ^ 31 ≤ serviceId.toNat := Nat.le_of_not_lt small
    have refused := unregisterService_large sound.toObjects present large
    rw [or_iff_right small]
    constructor
    · intro unregisters addr service live same
      obtain ⟨after, done, _⟩ := unregisters.removes addr service live same
      rw [refused] at done
      cases done
    · intro dead
      refine ⟨fun addr service live same => absurd same (dead addr service live), fun _ => refused⟩

end Unregister

/-- The middle one of three ports is unregistered. -/
theorem unregisters_iff_middle : ∃ trace state, system.Runs trace state ∧
    state.ownerList 0 = [0, 1, 2] ∧ Unregisters state 2 := by
  obtain ⟨trace, state, run, accepted⟩ := @EventSystem.Runs.of_exec _ _ _ system
    [.connect 0 (.pid 1 (some "app")) none, registerLabel 0 "first" .benign,
      registerLabel 0 "second" { Choices.benign with allocated := 1 },
      registerLabel 0 "third" { Choices.benign with allocated := 2 }]
    (fun state trace => state.ownerList 0 = [0, 1, 2] ∧ (0 :: createdIds trace).Nodup ∧
      0 ∈ state.dbusManagers) (by decide)
  obtain ⟨listed, unique, served⟩ := of_decide_eq_true accepted
  obtain ⟨manager, present⟩ := (sound_of_runs run).registry served
  exact ⟨trace, state, run, listed,
    (unregisters_iff run (registry_of_runs run unique) present 2).mpr (.inl (by decide))⟩

/-- An export that the connection refuses. -/
def refusing :
    Choices := { Choices.benign with exportFailure := some (DbusService.alreadyExported "/1") }

/-- Two failed exports take the counter below zero, and the next service gets the
greatest id there is. -/
theorem unregister_misses : ¬ ∀ trace state, system.Runs trace state → Registry state →
    ∀ manager, state.manager = some manager → ∀ serviceId, Unregisters state serviceId := by
  intro unregisters
  obtain ⟨trace, state, run, accepted⟩ := @EventSystem.Runs.of_exec _ _ _ system
    [.connect 0 (.pid 1 (some "app")) none, registerLabel 0 "first" refusing,
      registerLabel 0 "second" refusing, registerLabel 0 "third" .benign]
    (fun state trace => state.services.lookup 0 = some ⟨4294967295, 0, "third", false⟩ ∧
      (0 :: createdIds trace).Nodup ∧ 0 ∈ state.dbusManagers) (by decide)
  obtain ⟨live, unique, served⟩ := of_decide_eq_true accepted
  have sound := sound_of_runs run
  obtain ⟨manager, present⟩ := sound.registry served
  obtain ⟨after, done, _⟩ :=
    (unregisters trace state run (registry_of_runs run unique) manager present
    4294967295).removes 0 _ live rfl
  rw [unregisterService_large sound.toObjects present (by decide)] at done
  cases done

end MessagePort.Daemon
