import MessagePort.Daemon.Registry

/-!
# Remote lookups

`checkForRemoteService` looks for the port on one connection only, the first of
the app id that the hash table yields. `lookupComplete_iff` says for which states
that is as good as looking on all of them.
-/

namespace MessagePort.Daemon

open Logical Semantics

/-- An open connection has this app id. -/
def HasAppId (state : State) (appId : String) (conn : Conn) : Prop :=
  ∃ dbusManager, state.dbusManagers.lookup conn = some dbusManager ∧ dbusManager.appId = some appId

/-- A connection owns a live service of this name and trust flag with this id. -/
def Owns (state : State) (conn : Conn) (portName : String) (isTrusted : Bool) (id : Guint) : Prop :=
  ∃ addr, state.services.lookup addr = some ⟨id, conn, portName, isTrusted⟩

/-- Some open connection of the app id owns a live service of this name and trust flag. -/
def SomeOwns (state : State) (appId portName : String) (isTrusted : Bool) : Prop :=
  ∃ conn id, HasAppId state appId conn ∧ Owns state conn portName isTrusted id

/-- In whatever order the connections are visited, the lookup is answered, it
succeeds if and only if some open connection of the app id owns such a service,
and then with the id of one. -/
def LookupComplete (state : State) (appId portName : String) (isTrusted : Bool) : Prop :=
  ∀ choices, ∃ outcome,
    DbusManager.handleCheckForRemoteService state appId portName isTrusted choices = .ok outcome ∧
    ((∃ id, .ok id ∈ outcome.completions) ↔ SomeOwns state appId portName isTrusted) ∧
    ∀ id, .ok id ∈ outcome.completions →
      ∃ conn, HasAppId state appId conn ∧ Owns state conn portName isTrusted id

/-- A live service of another name or trust flag. -/
def Passed (state : State) (portName : String) (isTrusted : Bool) (addr : Addr) : Prop :=
  ∃ service, state.services.lookup addr = some service ∧
    ¬ (service.portName = portName ∧ service.isTrusted = isTrusted)

/-- The list of a connection alone tells whether the app has the port: its first
service that is not a live one of another name is the port, of a connection with
this app id; or there is none in the list, and none of this app id at all. -/
def ListTells (state : State) (appId portName : String) (isTrusted : Bool) (conn : Conn) : Prop :=
  (∃ passed addr rest id owner, state.ownerList conn = passed ++ addr :: rest ∧
    (∀ other ∈ passed, Passed state portName isTrusted other) ∧
    state.services.lookup addr = some ⟨id, owner, portName, isTrusted⟩ ∧
    HasAppId state appId owner) ∨
  ((∀ addr ∈ state.ownerList conn, Passed state portName isTrusted addr) ∧
    ¬ SomeOwns state appId portName isTrusted)

namespace Manager

/-- One step of a search: the entry is the one asked for, or is passed. -/
theorem getServiceInternal_cons_iff {state : State} {portName : String} {isTrusted : Bool}
    {head addr : Addr} {next : List Addr} :
    getServiceInternal state portName isTrusted (head :: next) = .ok (some addr) ↔
      (head = addr ∧ ∃ id owner, state.services.lookup
        addr = some ⟨id, owner, portName, isTrusted⟩) ∨ (Passed state portName isTrusted head ∧
        getServiceInternal state portName isTrusted next = .ok (some addr)) := by
  simp only [getServiceInternal, State.deref]
  cases live : state.services.lookup head with
  | none =>
      simp only [reduceCtorEq, false_iff]
      rintro (⟨rfl, id, owner, there⟩ | ⟨⟨service, there, _⟩, _⟩)
      all_goals
        rw [live] at there
        cases there
  | some service =>
      by_cases same : portName = service.portName ∧ isTrusted = service.isTrusted
      · obtain ⟨rfl, rfl⟩ := same
        simp only [and_self, if_true, Except.ok.injEq, Option.some.injEq]
        constructor
        · rintro rfl
          exact .inl ⟨rfl, service.id, service.owner, live⟩
        · rintro (⟨same, _⟩ | ⟨⟨other, there, different⟩, _⟩)
          · exact same
          · obtain rfl := Option.some.inj (live.symm.trans there)
            exact absurd ⟨rfl, rfl⟩ different
      · simp only [if_neg same]
        constructor
        · exact fun later =>
            .inr ⟨⟨service, live, fun equal => same ⟨equal.1.symm, equal.2.symm⟩⟩, later⟩
        · rintro (⟨rfl, id, owner, there⟩ | ⟨_, later⟩)
          · obtain rfl := Option.some.inj (live.symm.trans there)
            exact absurd ⟨rfl, rfl⟩ same
          · exact later

/-- What a search finds is the first entry that is not a live service of another name. -/
theorem getServiceInternal_some_iff {state : State} {portName : String} {isTrusted : Bool}
    {list : List Addr} {addr : Addr} :
    getServiceInternal state portName isTrusted list = .ok (some addr) ↔
      ∃ passed rest id owner, list = passed ++ addr :: rest ∧
        (∀ other ∈ passed, Passed state portName isTrusted other) ∧
        state.services.lookup addr = some ⟨id, owner, portName, isTrusted⟩ := by
  induction list with
  | nil => simp [getServiceInternal]
  | cons head next ih =>
      rw [getServiceInternal_cons_iff, ih]
      constructor
      · rintro (⟨rfl, id, owner, there⟩ | ⟨passes, passed, rest, id, owner, rfl, earlier, there⟩)
        · exact ⟨[], next, id, owner, rfl, by simp, there⟩
        · exact ⟨head :: passed, rest, id, owner, rfl,
            List.forall_mem_cons.mpr ⟨passes, earlier⟩, there⟩
      · rintro ⟨passed, rest, id, owner, equal, earlier, there⟩
        cases passed with
        | nil =>
            obtain ⟨rfl, _⟩ := List.cons.inj equal
            exact .inl ⟨rfl, id, owner, there⟩
        | cons first passed =>
            obtain ⟨rfl, rfl⟩ := List.cons.inj equal
            obtain ⟨passes, earlier⟩ := List.forall_mem_cons.mp earlier
            exact .inr ⟨passes, passed, rest, id, owner, rfl, earlier, there⟩

/-- A search finds nothing when the whole list is passed. -/
theorem getServiceInternal_none_iff {state : State} {portName : String} {isTrusted : Bool}
    {list : List Addr} : getServiceInternal state portName isTrusted list = .ok none ↔
      ∀ addr ∈ list, Passed state portName isTrusted addr := by
  constructor
  · exact getServiceInternal_none
  · intro passed
    have alive (addr : Addr) (listed : addr ∈ list) :
        ∃ service, state.services.lookup addr = some service := by
      obtain ⟨service, live, _⟩ := passed addr listed
      exact ⟨service, live⟩
    obtain ⟨found, search⟩ := getServiceInternal_total alive portName isTrusted
    cases found with
    | none => exact search
    | some addr =>
        obtain ⟨listed, service, live, same⟩ := getServiceInternal_some search
        obtain ⟨other, there, different⟩ := passed addr listed
        obtain rfl := Option.some.inj (live.symm.trans there)
        exact absurd same different

end Manager

/-- Any connection of the app id can be the one visited first, and no other. -/
theorem getDbusManagerByAppId_iff {state : State} {appId : String} {conn : Conn} :
    (∃ visit, DbusManager.getDbusManagerByAppId state appId visit = some conn) ↔
      HasAppId state appId conn := by
  constructor
  · rintro ⟨visit, found⟩
    obtain ⟨dbusManager, present, same⟩ := HashTable.find_some found
    exact ⟨dbusManager, present, by simpa using same⟩
  · rintro ⟨dbusManager, present, same⟩
    exact HashTable.exists_find_eq present (by simpa using same)

/-- Without a connection of the app id nothing is visited. -/
theorem getDbusManagerByAppId_eq_none {state : State} {appId : String} {visit : List Conn}
    (none : DbusManager.getDbusManagerByAppId state appId visit = none) (conn : Conn) :
    ¬ HasAppId state appId conn := by
  rintro ⟨dbusManager, present, same⟩
  have refused := HashTable.find_eq_none.mp none conn dbusManager present
  simp [same] at refused

/-- How a lookup is answered. -/
inductive Checked (state : State) (appId portName : String) (isTrusted : Bool) :
    Handled Guint → Prop where
  | unconnected (absent : ∀ conn, ¬ HasAppId state appId conn) :
      Checked state appId portName isTrusted
        ⟨state, [.error (msgportErrorPortNotFound (some appId) portName)], true, []⟩
  | rejected {conn} (unnamed : portName = "") (hasAppId : HasAppId state appId conn) :
      Checked state appId portName isTrusted
        ⟨state, [.error (msgportErrorAssertion "port_name && port_name[0]")], true, []⟩
  | missing {conn app} (named : portName ≠ "") (hasAppId : HasAppId state appId conn)
      (passed : ∀ addr ∈ state.ownerList conn, Passed state portName isTrusted addr) :
      Checked state appId portName isTrusted
        ⟨state, [.error (msgportErrorPortNotFound app portName)], true, []⟩
  | found {conn addr id owner} (named : portName ≠ "") (hasAppId : HasAppId state appId conn)
      (listed : addr ∈ state.ownerList conn)
      (live : state.services.lookup addr = some ⟨id, owner, portName, isTrusted⟩) :
      Checked state appId portName isTrusted ⟨state, [.ok id], true, []⟩

/-- A lookup has one reply, and changes nothing. -/
theorem Checked.reply {state : State} {appId portName : String} {isTrusted : Bool}
    {outcome : Handled Guint} (checked : Checked state appId portName isTrusted outcome) :
    ∃ reply, outcome = ⟨state, [reply], true, []⟩ := by
  cases checked <;> exact ⟨_, rfl⟩

section Visited

variable {state : State} {appId portName : String} {isTrusted : Bool} {conn : Conn}
    {choices : Choices}

/-- The lookup on the connection visited first, by what the search of its list returns. -/
theorem handleCheckForRemoteService_eq (sound : Sound state) (named : portName ≠ "")
    (visited : DbusManager.getDbusManagerByAppId state appId choices.visit = some conn) :
    DbusManager.handleCheckForRemoteService state appId portName isTrusted choices =
      match Manager.getServiceInternal state portName isTrusted (state.ownerList conn) with
      | .error fault => .error fault
      | .ok none => .ok ⟨state, [.error (msgportErrorPortNotFound
          ((state.dbusManagers.lookup conn).bind (·.appId)) portName)], true, []⟩
      | .ok (some addr) =>
          match state.deref addr with
          | .error fault => .error fault
          | .ok dbusService => .ok ⟨state, [.ok dbusService.id], true, []⟩ := by
  obtain ⟨dbusManager, present, _⟩ := getDbusManagerByAppId_iff.mp ⟨_, visited⟩
  obtain ⟨manager, registry⟩ := sound.registry (HashTable.lookup_isSome_iff.mpr ⟨_, present⟩)
  simp only [DbusManager.handleCheckForRemoteService, visited, Manager.getService,
    registry, if_neg named]
  cases Manager.getServiceInternal state portName isTrusted (state.ownerList conn) with
  | error fault => rfl
  | ok found => cases found <;> rfl

/-- Every lookup that ends is answered in one of these ways. -/
theorem handleCheckForRemoteService_cases {outcome : Handled Guint} (sound : Sound state)
    (ran : DbusManager.handleCheckForRemoteService state appId portName isTrusted
      choices = .ok outcome) :
    Checked state appId portName isTrusted outcome := by
  cases visited : DbusManager.getDbusManagerByAppId state appId choices.visit with
  | none =>
      simp only [DbusManager.handleCheckForRemoteService, visited, Except.ok.injEq] at ran
      subst ran
      exact .unconnected (getDbusManagerByAppId_eq_none visited)
  | some conn =>
      have hasAppId := getDbusManagerByAppId_iff.mp ⟨_, visited⟩
      by_cases named : portName = ""
      · obtain ⟨dbusManager, present, _⟩ := hasAppId
        obtain ⟨manager, registry⟩ := sound.registry (HashTable.lookup_isSome_iff.mpr ⟨_, present⟩)
        simp only [DbusManager.handleCheckForRemoteService, visited, Manager.getService, registry,
          if_pos named, Except.ok.injEq] at ran
        subst ran
        exact .rejected named (getDbusManagerByAppId_iff.mp ⟨_, visited⟩)
      · rw [handleCheckForRemoteService_eq sound named visited] at ran
        cases search : Manager.getServiceInternal state portName isTrusted
            (state.ownerList conn) with
        | error fault => simp [search] at ran
        | ok found =>
            cases found with
            | none =>
                simp only [search, Except.ok.injEq] at ran
                subst ran
                exact .missing named hasAppId (Manager.getServiceInternal_none_iff.mp search)
            | some addr =>
                obtain ⟨passed, rest, id, owner, split, _, live⟩ :=
                  Manager.getServiceInternal_some_iff.mp search
                simp only [search, State.deref, live, Except.ok.injEq] at ran
                subst ran
                exact .found named hasAppId (by simp [split]) live

/-- With intact lists every lookup ends. -/
theorem handleCheckForRemoteService_total (sound : Sound state) (registry : Registry state)
    (appId portName : String) (isTrusted : Bool) (choices : Choices) : ∃ outcome,
      DbusManager.handleCheckForRemoteService state appId portName isTrusted choices =
        .ok outcome := by
  cases visited : DbusManager.getDbusManagerByAppId state appId choices.visit with
  | none =>
      simp only [DbusManager.handleCheckForRemoteService, visited]
      exact ⟨_, rfl⟩
  | some conn =>
      by_cases named : portName = ""
      · obtain ⟨dbusManager, present, _⟩ := getDbusManagerByAppId_iff.mp ⟨_, visited⟩
        obtain ⟨manager, there⟩ := sound.registry (HashTable.lookup_isSome_iff.mpr ⟨_, present⟩)
        simp only [DbusManager.handleCheckForRemoteService, visited, Manager.getService,
          there, if_pos named]
        exact ⟨_, rfl⟩
      · rw [handleCheckForRemoteService_eq sound named visited]
        have alive (addr : Addr) (listed : addr ∈ state.ownerList conn) :
            ∃ service, state.services.lookup addr = some service := by
          obtain ⟨service, live, _⟩ := registry.listedLive listed
          exact ⟨service, live⟩
        obtain ⟨found, search⟩ := Manager.getServiceInternal_total alive portName isTrusted
        cases found with
        | none =>
            simp only [search]
            exact ⟨_, rfl⟩
        | some addr =>
            obtain ⟨_, service, live, _⟩ := Manager.getServiceInternal_some search
            simp only [search, State.deref, live]
            exact ⟨_, rfl⟩

/-- The lookup is complete when this connection is visited first exactly when its
list alone tells. -/
theorem complete_at_iff (sound : Sound state) (named : portName ≠ "")
    (visited : DbusManager.getDbusManagerByAppId state appId choices.visit = some conn) :
    (∃ outcome,
      DbusManager.handleCheckForRemoteService state appId portName isTrusted choices = .ok outcome ∧
      ((∃ id, .ok id ∈ outcome.completions) ↔ SomeOwns state appId portName isTrusted) ∧
      ∀ id, .ok id ∈ outcome.completions →
        ∃ conn, HasAppId state appId conn ∧ Owns state conn portName isTrusted id) ↔
    ListTells state appId portName isTrusted conn := by
  rw [handleCheckForRemoteService_eq sound named visited]
  unfold ListTells
  cases search : Manager.getServiceInternal state portName isTrusted (state.ownerList conn) with
  | error fault =>
      simp only [reduceCtorEq, false_and, exists_false, false_iff]
      rintro (⟨passed, addr, rest, id, owner, split, earlier, live, _⟩ | ⟨all, _⟩)
      · rw [Manager.getServiceInternal_some_iff.mpr
          ⟨passed, rest, id, owner, split, earlier, live⟩] at search
        cases search
      · rw [Manager.getServiceInternal_none_iff.mpr all] at search
        cases search
  | ok found =>
      cases found with
      | none =>
          have all := Manager.getServiceInternal_none_iff.mp search
          simp only [Except.ok.injEq, exists_eq_left', List.mem_singleton,
            reduceCtorEq, exists_false, false_iff, false_imp_iff, implies_true, and_true]
          constructor
          · exact fun none => .inr ⟨all, none⟩
          · rintro (⟨passed, addr, rest, id, owner, split, _, live, _⟩ | ⟨_, none⟩)
            · obtain ⟨service, there, different⟩ := all addr (by simp [split])
              obtain rfl := Option.some.inj (live.symm.trans there)
              exact absurd ⟨rfl, rfl⟩ different
            · exact none
      | some addr =>
          obtain ⟨passed, rest, id, owner, split, earlier, live⟩ :=
            Manager.getServiceInternal_some_iff.mp search
          simp only [State.deref, live, Except.ok.injEq, exists_eq_left', List.mem_singleton,
            exists_eq, true_iff]
          constructor
          · rintro ⟨_, returned⟩
            obtain ⟨other, hasAppId, there, live'⟩ := returned id rfl
            obtain rfl := sound.addr_of_id live live' rfl
            obtain rfl : owner = other := by
              have same := Option.some.inj (live.symm.trans live')
              exact congrArg DbusService.owner same
            exact .inl ⟨passed, addr, rest, id, owner, split, earlier, live, hasAppId⟩
          · rintro (⟨_, other, _, otherId, otherOwner, split', earlier', live',
              hasAppId⟩ | ⟨all, _⟩)
            · rw [Manager.getServiceInternal_some_iff.mpr
                ⟨_, _, otherId, otherOwner, split', earlier', live'⟩] at search
              obtain rfl := Option.some.inj (Except.ok.inj search)
              rw [live, Option.some.injEq, DbusService.mk.injEq] at live'
              obtain ⟨rfl, rfl, -⟩ := live'
              refine ⟨⟨owner, id, hasAppId, other, live⟩, ?_⟩
              rintro _ rfl
              exact ⟨owner, hasAppId, other, live⟩
            · rw [Manager.getServiceInternal_none_iff.mpr all] at search
              cases search

end Visited

/-- With intact lists each connection tells exactly if every connection of the app
id owns the port, or none does. -/
theorem tells_iff {state : State} (sound : Sound state) (registry : Registry state)
    {appId portName : String} {isTrusted : Bool} :
    (∀ conn, HasAppId state appId conn → ListTells state appId portName isTrusted conn) ↔
      (∀ conn, HasAppId state appId conn → ∃ id, Owns state conn portName isTrusted id) ∨
        ¬ SomeOwns state appId portName isTrusted := by
  constructor
  · intro tells
    by_cases some_ : SomeOwns state appId portName isTrusted
    · refine .inl fun conn hasAppId => ?_
      rcases tells conn hasAppId with ⟨passed, addr, rest, id, owner, split, _, live, _⟩ | ⟨_, none⟩
      · have listed : addr ∈ state.ownerList conn := by simp [split]
        obtain ⟨service, there, rfl⟩ := registry.listedLive listed
        obtain rfl := Option.some.inj (live.symm.trans there)
        exact ⟨id, addr, live⟩
      · exact absurd some_ none
    · exact .inr some_
  · rintro (all | none) conn hasAppId
    · obtain ⟨id, addr, live⟩ := all conn hasAppId
      obtain ⟨passed, rest, _, _, split, earlier, _⟩ := Manager.getServiceInternal_some_iff.mp
        ((Registry.search_some_iff sound registry).mpr ⟨id, live⟩)
      exact .inl ⟨passed, addr, rest, id, conn, split, earlier, live, hasAppId⟩
    · refine .inr ⟨?_, none⟩
      apply Manager.getServiceInternal_none_iff.mp
      apply (Registry.search_none_iff sound registry).mpr
      exact fun addr id live => none ⟨conn, id, hasAppId, addr, live⟩

/-- A lookup is complete exactly when the list of each connection of the app id
tells; while no id was handed out twice, when all of them own the port or none. -/
theorem lookupComplete_iff {trace : List Event} {state : State} (run : system.Runs trace state)
    (appId : String) {portName : String} (named : portName ≠ "") (isTrusted : Bool) :
    (LookupComplete state appId portName isTrusted ↔
      ∀ conn, HasAppId state appId conn → ListTells state appId portName isTrusted conn) ∧
    ((0 :: createdIds trace).Nodup → (LookupComplete state appId portName isTrusted ↔
      (∀ conn, HasAppId state appId conn → ∃ id, Owns state conn portName isTrusted id) ∨
        ¬ SomeOwns state appId portName isTrusted)) := by
  have sound := sound_of_runs run
  have complete : LookupComplete state appId portName isTrusted ↔
      ∀ conn, HasAppId state appId conn → ListTells state appId portName isTrusted conn := by
    constructor
    · intro complete conn hasAppId
      obtain ⟨visit, visited⟩ := getDbusManagerByAppId_iff.mpr hasAppId
      exact (complete_at_iff sound named visited).mp
        (complete { Choices.benign with visit := visit })
    · intro tells choices
      cases visited : DbusManager.getDbusManagerByAppId state appId choices.visit with
      | some conn =>
          exact (complete_at_iff sound named visited).mpr
            (tells conn (getDbusManagerByAppId_iff.mp ⟨_, visited⟩))
      | none =>
          have absent := getDbusManagerByAppId_eq_none visited
          refine ⟨_, by simp only [DbusManager.handleCheckForRemoteService, visited]; rfl, ?_,
            by simp⟩
          simp only [List.mem_singleton, reduceCtorEq, exists_false, false_iff]
          rintro ⟨conn, _, hasAppId, _⟩
          exact absent conn hasAppId
  refine ⟨complete, fun unique => ?_⟩
  rw [complete, tells_iff sound (registry_of_runs run unique)]

/-- Two connections of one app id, only the first of which owns the port. -/
def twoThreads : List Label :=
  [.connect 0 (.pid 1 (some "app")) none, .connect 1 (.pid 1 (some "app")) none,
    registerLabel 0 "port" .benign]

/-- The port that the second thread of its app does not own. -/
theorem lookupComplete_iff_twoThreads : ∃ trace state, system.Runs trace state ∧
    attempts trace = [true] ∧ (LookupComplete state "app" "port" false ↔
      ∀ conn, HasAppId state "app" conn → ListTells state "app" "port" false conn) := by
  obtain ⟨trace, state, run, accepted⟩ := @EventSystem.Runs.of_exec _ _ _ system twoThreads
    (fun _ trace => attempts trace = [true]) (by decide)
  exact ⟨trace, state, run, by simpa using accepted,
    (lookupComplete_iff run "app" (by decide) false).1⟩

/-- When the second thread is visited first, the lookup misses the port of the first. -/
theorem lookup_incomplete : ¬ ∀ trace state, system.Runs trace state →
    ∀ appId portName isTrusted, portName ≠ "" → LookupComplete state appId portName isTrusted := by
  intro complete
  obtain ⟨trace, state, run, accepted⟩ := @EventSystem.Runs.of_exec _ _ _ system twoThreads
    (fun state _ => state.services.lookup 0 = some ⟨1, 0, "port", false⟩ ∧
      (state.dbusManagers.lookup 0).map (·.appId) = some (some "app") ∧
      (DbusManager.handleCheckForRemoteService state "app" "port" false
        { Choices.benign with visit := [1, 0] }).toOption.map (·.completions) =
          some [.error (msgportErrorPortNotFound (some "app") "port")]) (by decide)
  simp only [decide_eq_true_eq] at accepted
  obtain ⟨live, app, missed⟩ := accepted
  obtain ⟨dbusManager, present, hasApp⟩ := Option.map_eq_some_iff.mp app
  obtain ⟨outcome, ran, found, _⟩ := complete trace state run "app" "port" false (by decide)
    { Choices.benign with visit := [1, 0] }
  obtain ⟨id, returned⟩ := found.mpr ⟨0, 1, ⟨dbusManager, present, hasApp⟩, 0, live⟩
  rw [ran] at missed
  simp only [Except.toOption, Option.map_some, Option.some.injEq] at missed
  rw [missed] at returned
  simp at returned

end MessagePort.Daemon
