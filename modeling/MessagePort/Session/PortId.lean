import MessagePort.Daemon.Unregister
import MessagePort.Session.Register

/-!
# What a registration returns

The daemon's ids are unsigned; the client reads them as signed and tells an id from
an error by its sign. An id from `2 ^ 31` on is stored, and success is returned.
-/

namespace MessagePort.Session

open Daemon Client Logical Semantics

theorem returnedId_pos_iff {id : Guint} : 0 < returnedId id ↔ FitsInt id := by
  rw [fitsInt_iff, returnedId]
  split <;> omega

/-- An id that fits is returned as it is. -/
theorem returnedId_of_fits {id : Guint} (fits : FitsInt id) : returnedId id = id.toNat := by
  rw [returnedId, if_pos (fitsInt_iff.mp fits), fits.toInt_eq]

/-- A call registered the port and has it cached: the tables it leaves have the
service, and the service has the callback of the call. -/
structure Caches (portName : Option String) (isTrusted : Bool) (cb : Option Callback) (log : Log)
    (left : MsgPortManager) (service : MsgPortService) : Prop where
  stored : ∃ path, left.services.lookup path = some service
  portName : service.portName = portName
  isTrusted : service.isTrusted = isTrusted
  handler : ∃ messageCb, cb = some messageCb ∧ ∃ exchange ∈ log,
    exchange.operation = .setMessageHandler service.handle messageCb ∨
      exchange.operation = .connectOnMessage service.handle messageCb

/-- What is returned is the id of the port, and positive, if the port was registered
and cached, and negative otherwise. -/
def ReturnsId (portName : Option String) (isTrusted : Bool) (cb : Option Callback) (log : Log)
    (left : MsgPortManager) (value : Int) : Prop :=
  (∃ service, Caches portName isTrusted cb log left service ∧ 0 < value ∧
    value = service.id.toNat) ∨
    ((∀ service, ¬ Caches portName isTrusted cb log left service) ∧ value < 0)

/-- The path of a proxy that was created. -/
def proxyPath (exchange : Interaction.Exchange State Event Operation Operation.Answer) :
    Option ObjectPath :=
  match exchange with
  | ⟨_, .serviceProxyNew path, .ok _, _, _⟩ => some path
  | _ => none

theorem proxyPath_of_unref {exchange : Interaction.Exchange State Event Operation Operation.Answer}
    {handle : Handle} (operation : exchange.operation = .serviceUnref handle) :
    proxyPath exchange = none := by
  obtain ⟨_, _, _, _, _⟩ := exchange
  subst operation
  rfl

/-- The ids that a registration can come by fit: that of the cached port, and
otherwise the one exported when the proxy is created. -/
structure IdsFit (conn : Conn) (manager : MsgPortManager) (portName : Option String)
    (isTrusted : Bool) (cb : Option Callback) (visit : List ObjectPath) (log : Log) : Prop where
  cached : ∀ service, cachedPort manager portName isTrusted cb visit = some service →
    FitsInt service.id
  exported : ∀ exchange ∈ log, ∀ path, proxyPath exchange = some path →
    FitsInt (exportedId exchange.before conn path)

/-- Without a cached port only the exported ids matter. -/
theorem idsFit_of_missing {conn : Conn} {manager : MsgPortManager} {portName : Option String}
    {isTrusted : Bool} {cb : Option Callback} {visit : List ObjectPath} {log : Log}
    (missing : cachedPort manager portName isTrusted cb visit = none)
    (exported : ∀ exchange ∈ log, ∀ path, proxyPath exchange = some path →
      FitsInt (exportedId exchange.before conn path)) :
    IdsFit conn manager portName isTrusted cb visit log where
  cached := by
    intro service cached
    rw [missing] at cached
    cases cached
  exported := exported

/-- The port that was found is in the tables. -/
theorem cachedPort_some {manager : MsgPortManager} {portName : Option String} {isTrusted : Bool}
    {cb : Option Callback} {visit : List ObjectPath} {service : MsgPortService}
    (cached : cachedPort manager portName isTrusted cb visit = some service) :
    (∃ path, manager.services.lookup path = some service) ∧ service.portName = portName ∧
      service.isTrusted = isTrusted := by
  unfold cachedPort at cached
  split at cached
  · cases cached
  split at cached
  · obtain ⟨path, found, there⟩ := Option.bind_eq_some_iff.mp cached
    obtain ⟨other, there', accepted⟩ := HashTable.find_some found
    obtain rfl := Option.some.inj (there.symm.trans there')
    exact ⟨⟨path, there⟩, of_decide_eq_true accepted⟩
  · cases cached

/-- A stored id is returned as it should be exactly when it fits. -/
theorem returnsId_iff_of_stored {portName : Option String} {isTrusted : Bool} {cb : Option Callback}
    {log : Log} {left : MsgPortManager} {id : Guint}
    (caches : FitsInt id → ∃ service, Caches portName isTrusted cb log left service ∧
      service.id = id) :
    ReturnsId portName isTrusted cb log left (returnedId id) ↔ FitsInt id := by
  constructor
  · rintro (⟨_, _, positive, _⟩ | ⟨_, negative⟩)
    · exact returnedId_pos_iff.mp positive
    · exact absurd (returnedId_nonneg id) (by omega)
  · intro fits
    obtain ⟨service, cached, rfl⟩ := caches fits
    exact .inl ⟨service, cached, returnedId_pos_iff.mpr fits, returnedId_of_fits fits⟩

/-- A failed call gave its callback to no service. -/
theorem FailsAt.not_caches {conn : Conn} {portName : Option String} {isTrusted : Bool} {log : Log}
    (failsAt : FailsAt conn portName isTrusted log) (cb : Option Callback) (left : MsgPortManager)
    (service : MsgPortService) : ¬ Caches portName isTrusted cb log left service := by
  rintro ⟨_, _, _, messageCb, _, exchange, member, operation⟩
  cases failsAt with
  | client => cases member
  | daemon =>
      rw [List.mem_singleton.mp member] at operation
      simp at operation
  | proxy =>
      rcases List.mem_cons.mp member with rfl | last
      · simp at operation
      · rw [List.mem_singleton.mp last] at operation
        simp at operation

/-- A failed call created no proxy. -/
theorem FailsAt.no_proxy {conn : Conn} {portName : Option String} {isTrusted : Bool} {log : Log}
    (failsAt : FailsAt conn portName isTrusted log) :
    ∀ exchange ∈ log, proxyPath exchange = none := by
  intro exchange member
  cases failsAt with
  | client => cases member
  | daemon =>
      rw [List.mem_singleton.mp member]
      rfl
  | proxy =>
      rcases List.mem_cons.mp member with rfl | last
      · rfl
      · rw [List.mem_singleton.mp last]
        rfl

/-- The id of the service exported at a path. -/
theorem exportedId_some {state : State} {conn : Conn} {path : ObjectPath}
    (fits : FitsInt (exportedId state conn path)) : ∃ addr service,
      state.exports.lookup (conn, path) = some addr ∧
      state.services.lookup addr = some service := by
  unfold exportedId at fits
  cases exported : (state.exports.lookup (conn, path)).bind state.services.lookup with
  | none =>
      rw [exported] at fits
      exact absurd fits.positive (by simp)
  | some service =>
      obtain ⟨addr, there, live⟩ := Option.bind_eq_some_iff.mp exported
      exact ⟨addr, service, there, live⟩

/-- A new service whose id fits is cached, if it is the port that was registered. -/
theorem caches_new {conn : Conn} {portName : Option String} {name : String} {isTrusted : Bool}
    {cb : Option Callback} {messageCb : Callback} {log : Log} {left manager : MsgPortManager}
    {last : State} {path : ObjectPath} {handle : Handle} (named : portName = some name)
    (handler : cb = some messageCb)
    (registered : ∀ addr service, last.exports.lookup (conn, path) = some addr →
      last.services.lookup addr = some service →
      service.portName = name ∧ service.isTrusted = isTrusted)
    (stored : left.services = manager.services.insert path (proxyProperties last conn path handle))
    (connected : ∃ exchange ∈ log, exchange.operation = .connectOnMessage handle messageCb)
    (fits : FitsInt (exportedId last conn path)) :
    ∃ service, Caches portName isTrusted cb log left service ∧
      service.id = exportedId last conn path := by
  obtain ⟨addr, service, exported, live⟩ := exportedId_some fits
  obtain ⟨sameName, sameTrust⟩ := registered addr service exported live
  have properties := proxyProperties_exported exported live handle
  refine ⟨proxyProperties last conn path handle, ⟨⟨path, ?_⟩, ?_, ?_, messageCb, handler, ?_⟩,
    proxyProperties_id _ _ _ _⟩
  · rw [stored, AList.lookup_insert]
  · rw [properties, named, sameName]
  · rw [properties, sameTrust]
  · obtain ⟨exchange, member, operation⟩ := connected
    exact ⟨exchange, member, .inr (by rw [operation, proxyProperties_handle])⟩

/-- A registration returns the positive id of its port, or a negative error, exactly
when the ids it can come by fit. -/
theorem register_value_iff {trace : List Event} {state final : State}
    (run : system.Runs trace state) {conn : Conn} {manager left : MsgPortManager}
    {portName : Option String} {isTrusted : Bool} {cb : Option Callback} {visit : List ObjectPath}
    {log : Log} {events : List Event} {value : Int}
    (call : Calls conn state (messageportRegisterPort manager portName isTrusted cb visit) log
      events (value, left) final) :
    ReturnsId portName isTrusted cb log left value ↔
      IdsFit conn manager portName isTrusted cb visit log := by
  cases register_cases run call with
  | failed failsAt missing failure =>
      constructor
      · refine fun _ => idsFit_of_missing missing fun exchange member path created => ?_
        rw [failsAt.no_proxy exchange member] at created
        cases created
      · exact fun _ => .inr ⟨failsAt.not_caches cb manager, MessageportError.code_neg failure⟩
  | @found service messageCb middle cached handler =>
      obtain ⟨there, named, trust⟩ := cachedPort_some cached
      rw [returnsId_iff_of_stored fun _ => ⟨service,
        ⟨there, named, trust, messageCb, handler, _, List.mem_cons_self, .inl rfl⟩, rfl⟩]
      constructor
      · intro fits
        constructor
        · intro other same
          obtain rfl := Option.some.inj (cached.symm.trans same)
          exact fits
        · intro exchange member path created
          rw [List.mem_singleton.mp member] at created
          cases created
      · exact fun fits => fits.cached _ cached
  | @created name messageCb middle path emitted after last handle connected released _ missing named
      handler registered stored releases =>
      rw [returnsId_iff_of_stored]
      · constructor
        · refine fun fits => idsFit_of_missing missing fun exchange member other created => ?_
          -- the log has one proxy
          rcases List.mem_cons.mp member with rfl | member
          · cases created
          rcases List.mem_cons.mp member with rfl | member
          · obtain rfl := Option.some.inj created
            exact fits
          rcases List.mem_cons.mp member with rfl | member
          · cases created
          · obtain ⟨old, operation⟩ := releases exchange member
            rw [proxyPath_of_unref operation] at created
            cases created
        · exact fun fits => fits.exported _ (List.mem_cons_of_mem _ List.mem_cons_self) _ rfl
      · exact caches_new named handler registered stored
          ⟨_, List.mem_cons_of_mem _ (List.mem_cons_of_mem _ List.mem_cons_self), rfl⟩

/-- A first registration returns the first id. -/
theorem register_value_iff_first : ∃ trace state log events left final, system.Runs trace state ∧
    Calls 0 state (messageportRegisterPort .new (some "port") false (some 7) [])
      log events (1, left) final ∧ ReturnsId (some "port") false (some 7) log left 1 := by
  obtain ⟨trace, state, log, events, ⟨value, left⟩, final, run, call, accepted⟩ :=
    @Calls.of_exec _ 0 [.connect 0 (.pid 1 (some "app")) none]
    (messageportRegisterPort .new (some "port") false (some 7) [])
    [⟨Choices.benign, none, 0⟩, ⟨Choices.benign, none, 0⟩, ⟨Choices.benign, none, 0⟩]
    (fun _ _ log _ result _ => result.1 = 1 ∧
      ∀ exchange ∈ log, ∀ path ∈ proxyPath exchange, exportedId exchange.before 0 path = 1)
        (by decide)
  obtain ⟨rfl, ids⟩ := of_decide_eq_true accepted
  refine ⟨trace, state, log, events, left, final, run, call,
    (register_value_iff run call).mpr ⟨?_, ?_⟩⟩
  · intro service cached
    cases cached
  · intro exchange member path created
    rw [ids exchange member path created]
    exact ⟨by decide, by decide⟩

/-- Two failed exports take the counter below zero; the next port is registered and
cached under the greatest id there is, and 0 is returned for it. -/
theorem register_returns_zero : ¬ ∀ trace state, system.Runs trace state →
    ∀ conn manager portName isTrusted cb visit log events value left final,
      Calls conn state (messageportRegisterPort manager portName isTrusted cb visit)
        log events (value, left) final →
      ReturnsId portName isTrusted cb log left value := by
  intro returns
  obtain ⟨trace, state, log, events, ⟨value, left⟩, final, run, call, zero⟩ := @Calls.of_exec _ 0
    [.connect 0 (.pid 1 (some "app")) none, registerLabel 0 "first" refusing,
      registerLabel 0 "second" refusing]
    (messageportRegisterPort .new (some "third") false (some 7) [])
    [⟨Choices.benign, none, 0⟩, ⟨Choices.benign, none, 0⟩, ⟨Choices.benign, none, 0⟩]
    (fun _ _ _ _ result _ => result.1 = 0) (by decide)
  obtain rfl := of_decide_eq_true zero
  rcases returns _ _ run _ _ _ _ _ _ _ _ _ _ _ call with ⟨_, _, positive, _⟩ |
    ⟨_, negative⟩ <;> omega

end MessagePort.Session
