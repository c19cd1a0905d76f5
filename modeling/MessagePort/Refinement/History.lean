import MessagePort.Daemon.Frame
import MessagePort.Semantics.Since

/-!
# The registry as a map of the history

What is registered at any time can be read off the history of the run alone: the
registrations that were answered, less those whose id was unregistered or whose
owner was closed since. Both lookups of the registry answer from this map.
-/

namespace MessagePort.Refinement

open Logical Semantics Daemon

/-- A registration of this port by this owner was answered with this id, and since
then neither was the id unregistered nor the owner closed. -/
def Registered (trace : List Event) (owner : Conn) (portName : String) (isTrusted : Bool)
    (id : Guint) : Prop :=
  Since (fun event => event = .unregisterCalled id ∨ event = .closed owner)
    (· = .registered owner portName isTrusted id) trace

/-- What one step does to the map of the history. -/
theorem registered_append {trace emitted : List Event} {owner : Conn} {portName : String}
    {isTrusted : Bool} {id : Guint} :
    Registered (trace ++ emitted) owner portName isTrusted id ↔
      Registered emitted owner portName isTrusted id ∨
        (Registered trace owner portName isTrusted id ∧
          .unregisterCalled id ∉ emitted ∧ .closed owner ∉ emitted) := by
  unfold Registered
  rw [since_append]
  have quiet : (∀ later ∈ emitted, ¬ (later = Event.unregisterCalled id ∨ later = .closed owner)) ↔
      .unregisterCalled id ∉ emitted ∧ .closed owner ∉ emitted := by
    constructor
    · exact fun none => ⟨fun member => none _ member (.inl rfl),
        fun member => none _ member (.inr rfl)⟩
    · rintro ⟨kept, served⟩ later member (rfl | rfl)
      · exact kept member
      · exact served member
  rw [quiet]

/-- Events that answer no registration can only revoke one. -/
theorem registered_append_of_unanswered {trace emitted : List Event} {owner : Conn}
    {portName : String} {isTrusted : Bool} {id : Guint}
    (unanswered : .registered owner portName isTrusted id ∉ emitted) :
    Registered (trace ++ emitted) owner portName isTrusted id ↔
      Registered trace owner portName isTrusted id ∧
        .unregisterCalled id ∉ emitted ∧ .closed owner ∉ emitted := by
  rw [registered_append]
  constructor
  · rintro (now | kept)
    · obtain ⟨event, member, rfl⟩ := Since.occurred now
      exact absurd member unanswered
    · exact kept
  · exact .inr

/-- Events that neither register nor revoke leave the map alone. -/
theorem registered_append_of_quiet {trace emitted : List Event} {owner : Conn} {portName : String}
    {isTrusted : Bool} {id : Guint}
    (quiet : ∀ event ∈ emitted, event ≠ .registered owner portName isTrusted id ∧
      event ≠ .unregisterCalled id ∧ event ≠ .closed owner) :
    Registered (trace ++ emitted) owner portName isTrusted id ↔
      Registered trace owner portName isTrusted id := by
  rw [registered_append_of_unanswered fun member => (quiet _ member).1 rfl]
  exact and_iff_left ⟨fun member => (quiet _ member).2.1 rfl,
    fun member => (quiet _ member).2.2 rfl⟩

/-- A step registers and revokes what it makes its owner have and lose. -/
theorem registered_step {trace emitted : List Event} {state next : State}
    (prior : system.Runs trace state) (effect : Effect state emitted next)
    (run : system.Runs (trace ++ emitted) next) (regular : Regular (trace ++ emitted))
    (ih : ∀ {owner portName isTrusted id}, Registered trace owner portName isTrusted id ↔
      Owns state owner portName isTrusted id)
    {owner : Conn} {portName : String} {isTrusted : Bool} {id : Guint} :
    Registered (trace ++ emitted) owner portName isTrusted id ↔
      Owns next owner portName isTrusted id := by
  have sound := sound_of_runs prior
  have registry := registry_of_runs prior (regular.of_append.nodup prior)
  -- where nothing is registered or revoked, and no service comes or goes
  have unchanged (same : next.services = state.services)
      (quiet : ∀ event ∈ emitted, event ≠ .registered owner portName isTrusted id ∧
        event ≠ .unregisterCalled id ∧ event ≠ .closed owner) :
      Registered (trace ++ emitted) owner portName isTrusted id ↔
        Owns next owner portName isTrusted id := by
    rw [registered_append_of_quiet quiet, ih, Owns, Owns, same]
  cases effect with
  | quiet same => exact unchanged same.services (by simp)
  | connected _ same => exact unchanged same.services (by simp)
  | exportFailed => exact unchanged rfl (by simp)
  | sent => exact unchanged rfl (by simp)
  | @validated _ _ _ _ accepted made _ _ _ _ verdict =>
      apply unchanged rfl
      rcases DbusManager.validatePeerCertificate_made verdict with rfl | ⟨peer, _, rfl⟩
      all_goals cases accepted <;> simp
  | created _ _ _ creates =>
      have free := created_free prior (regular.nodup run) List.mem_cons_self
      rw [registered_append, ih, creates.owns_iff free]
      simp only [Registered, since_pair]
      constructor
      · rintro ((now | ⟨start, _⟩) | ⟨before, _⟩)
        · cases now
          exact .inr ⟨rfl, rfl, rfl, rfl⟩
        · cases start
        · exact .inl before
      · rintro (before | ⟨rfl, rfl, rfl, rfl⟩)
        · exact .inr ⟨before, by simp, by simp⟩
        · exact .inl (.inl rfl)
  | @existing _ _ _ addr _ _ _ found live =>
      obtain ⟨newId, there⟩ := (Registry.search_some_iff sound registry).mp found
      obtain rfl := Option.some.inj (live.symm.trans there)
      rw [registered_append, ih]
      simp only [Registered, since_singleton]
      constructor
      · rintro (now | ⟨before, _⟩)
        · cases now
          exact ⟨addr, live⟩
        · exact before
      · exact fun before => .inr ⟨before, by simp, by simp⟩
  | @unknownId serviceId missing =>
      rw [registered_append_of_unanswered (by simp), ih]
      apply and_iff_left_of_imp
      rintro ⟨addr, live⟩
      refine ⟨fun called => ?_, by simp⟩
      obtain rfl : id = serviceId := by simpa using called
      obtain ⟨_, made, _⟩ := created_of_live prior live
      have small := regular.of_append.small prior (mem_createdIds made)
      have cached := sound.liveCached live
      rw [← gintToPointer_of_small small, missing] at cached
      cases cached
  | @removed serviceId addr service next found removes =>
      obtain ⟨same, live, keyed⟩ := sound.cachedLive found
      obtain rfl := Option.some.inj (removes.live.symm.trans live)
      obtain rfl := eq_of_gintToPointer keyed
      rw [registered_append_of_unanswered (by simp), ih, removes.owns_iff sound]
      simp
  | closed served closes =>
      rw [registered_append_of_unanswered (by simp), ih, closes.owns_iff sound registry]
      simp

/-- A port is registered in the history exactly while its owner has it. -/
theorem registered_iff_owns {trace : List Event} {state : State} (run : system.Runs trace state)
    (regular : Regular trace) : ∀ {owner portName isTrusted id},
      Registered trace owner portName isTrusted id ↔ Owns state owner portName isTrusted id := by
  refine @runs_invariant_of Regular Regular.of_append (fun trace state =>
    ∀ {owner portName isTrusted id}, Registered trace owner portName isTrusted id ↔
      Owns state owner portName isTrusted id) ?_ ?_ _ _ run regular
  · intro owner portName isTrusted id
    simp [Registered, Owns, State.initial]
  · intro trace state emitted next prior ih effect after regular owner portName isTrusted id
    exact registered_step prior effect after regular ih

/-! ## The registry's functions answer from the history -/

section Functions

variable {state : State} {owner : Conn} {portName : String} {isTrusted : Bool}

/-- The three functions of the registry, by what its search returns. -/
theorem search_functions (sound : Sound state) (served : owner ∈ state.dbusManagers)
    (named : portName ≠ "") {found : Option Addr}
    (search : Manager.getServiceInternal state portName isTrusted
      (state.ownerList owner) = .ok found) :
    Manager.getService state owner portName isTrusted = .ok (match found with
      | some addr => .ok addr
      | none => .error (msgportErrorPortNotFound
          ((state.dbusManagers.lookup owner).bind (·.appId)) portName)) ∧
    ∀ addr, found = some addr → ∀ choices,
      Manager.registerService state owner portName isTrusted choices =
        .ok (state, .ok addr, []) := by
  obtain ⟨manager, present⟩ := sound.registry served
  constructor
  · simp only [Manager.getService, present, if_neg named, search]
    cases found <;> rfl
  · rintro addr rfl choices
    simp only [Manager.registerService, present, if_neg named, search]

end Functions

/-- The registry answers as the map of the history says. -/
structure Refines (trace : List Event) (state : State) : Prop where
  getService : ∀ {owner portName isTrusted}, owner ∈ state.dbusManagers → portName ≠ "" → ∀ id,
    (∃ addr service, Manager.getService state owner portName isTrusted = .ok (.ok addr) ∧
      state.services.lookup addr = some service ∧ service.id = id) ↔
      Registered trace owner portName isTrusted id
  notFound : ∀ {owner portName isTrusted}, owner ∈ state.dbusManagers → portName ≠ "" →
    (∀ id, ¬ Registered trace owner portName isTrusted id) →
    ∃ error, Manager.getService state owner portName isTrusted = .ok (.error error) ∧
      error.domain = .msgport ∧ error.code = MsgPortError.notFound.code
  getServiceById : ∀ {id}, id ≠ 0 → ((∃ addr, (Manager.getServiceById state id).1 = some addr) ↔
    ∃ owner portName isTrusted, owner ∈ state.dbusManagers ∧ portName ≠ "" ∧
      Registered trace owner portName isTrusted id)
  sameService : ∀ {owner portName isTrusted id}, owner ∈ state.dbusManagers →
    portName ≠ "" → id ≠ 0 → Registered trace owner portName isTrusted id →
    ∃ addr, Manager.getServiceById state id = (some addr, none) ∧
      Manager.getService state owner portName isTrusted = .ok (.ok addr)
  registerService : ∀ {owner portName isTrusted id}, owner ∈ state.dbusManagers → portName ≠ "" →
    Registered trace owner portName isTrusted id → ∀ choices, ∃ addr service,
      Manager.registerService state owner portName isTrusted choices = .ok (state, .ok addr, []) ∧
        state.services.lookup addr = some service ∧ service.id = id

/-- The registry refines the map of the history along every regular run. -/
theorem refines_of_runs {trace : List Event} {state : State} (run : system.Runs trace state)
    (regular : Regular trace) : Refines trace state := by
  have sound := sound_of_runs run
  have registry := registry_of_runs run (regular.nodup run)
  have history {owner : Conn} {portName : String} {isTrusted : Bool} {id : Guint} :=
    @registered_iff_owns trace state run regular owner portName isTrusted id
  constructor
  · intro owner portName isTrusted served named id
    rw [history]
    constructor
    · rintro ⟨addr, service, returned, live, rfl⟩
      cases search : Manager.getServiceInternal state portName isTrusted
          (state.ownerList owner) with
      | error fault =>
          obtain ⟨manager, present⟩ := sound.registry served
          simp [Manager.getService, present, named, search] at returned
      | ok found =>
          rw [(search_functions sound served named search).1] at returned
          cases found with
          | none => simp at returned
          | some other =>
              simp only [Except.ok.injEq] at returned
              subst returned
              obtain ⟨id, there⟩ := (Registry.search_some_iff sound registry).mp search
              obtain rfl := Option.some.inj (live.symm.trans there)
              exact ⟨other, live⟩
    · rintro ⟨addr, live⟩
      have search := (Registry.search_some_iff sound registry).mpr ⟨id, live⟩
      exact ⟨addr, _, (search_functions sound served named search).1, live, rfl⟩
  · intro owner portName isTrusted served named absent
    have search := (Registry.search_none_iff sound registry).mpr fun addr id live =>
      absent id (history.mpr ⟨addr, live⟩)
    exact ⟨_, (search_functions sound served named search).1, rfl, rfl⟩
  · intro id nonzero
    constructor
    · rintro ⟨addr, returned⟩
      have found : state.cached (guintToPointer id) = some addr := by
        cases present : state.manager with
        | none => simp [Manager.getServiceById, present] at returned
        | some manager =>
            rw [Manager.getServiceById_eq present, if_neg nonzero] at returned
            exact returned
      obtain ⟨service, live, keyed⟩ := sound.cachedLive found
      obtain rfl := guintToPointer_inj.mp keyed
      obtain ⟨_, made, _⟩ := created_of_live run live
      exact ⟨service.owner, service.portName, service.isTrusted, sound.liveOpen live,
        created_named run made, history.mpr ⟨addr, live⟩⟩
    · rintro ⟨owner, portName, isTrusted, served, named, registered⟩
      obtain ⟨addr, live⟩ := history.mp registered
      obtain ⟨manager, present⟩ := sound.registry served
      refine ⟨addr, ?_⟩
      rw [Manager.getServiceById_eq present, if_neg nonzero]
      exact sound.liveCached live
  · intro owner portName isTrusted id served named nonzero registered
    obtain ⟨addr, live⟩ := history.mp registered
    obtain ⟨manager, present⟩ := sound.registry served
    have search := (Registry.search_some_iff sound registry).mpr ⟨id, live⟩
    refine ⟨addr, ?_, (search_functions sound served named search).1⟩
    rw [Manager.getServiceById_eq present, if_neg nonzero]
    exact congrArg (·, none) (sound.liveCached live)
  · intro owner portName isTrusted id served named registered choices
    obtain ⟨addr, live⟩ := history.mp registered
    have search := (Registry.search_some_iff sound registry).mpr ⟨id, live⟩
    exact ⟨addr, _, (search_functions sound served named search).2 addr rfl choices, live, rfl⟩

/-- A run in which the registry is destroyed and created again in between. -/
theorem refines_of_runs_recreated : ∃ trace state, system.Runs trace state ∧
    state.ownerList 1 ≠ [] ∧ Refines trace state := by
  obtain ⟨trace, state, run, accepted⟩ := @EventSystem.Runs.of_exec _ _ _ system
    [.connect 0 (.pid 1 (some "app")) none, registerLabel 0 "first" .benign, .close 0,
      .connect 1 (.pid 1 (some "app")) none, registerLabel 1 "first" .benign,
      registerLabel 1 "second" { Choices.benign with allocated := 1 },
      .unregisterService 2, registerLabel 1 "first" .benign]
    (fun state trace => state.ownerList 1 ≠ [] ∧ attempts trace = [true, true, true, true])
      (by decide)
  obtain ⟨listed, tries⟩ : state.ownerList 1 ≠ [] ∧ attempts trace = [true, true, true, true] := by
    simpa using accepted
  exact ⟨trace, state, run, listed,
    refines_of_runs run ⟨by rw [tries]; decide, by rw [tries]; decide⟩⟩

end MessagePort.Refinement
