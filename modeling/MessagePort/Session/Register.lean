import MessagePort.Session.Call

/-!
# How a registration ends

A registration changes the daemon first and the client's tables last.
`RegisterEnds` lists how it can end, and `FailsAt` where it can fail; the one step
at which a failure leaves something behind is the creation of the client's proxy.
-/

namespace MessagePort.Session

open Daemon Client Logical Semantics

/-- The daemon has the same connections, ports and ids, so that every lookup and
every send does the same. -/
structure SamePorts (before after : State) : Prop where
  services : after.services = before.services
  cached : ∀ key, after.cached key = before.cached key
  ownerList : ∀ owner, after.ownerList owner = before.ownerList owner
  dbusManagers : after.dbusManagers = before.dbusManagers

theorem SamePorts.refl (state : State) :
    SamePorts state state := ⟨rfl, fun _ => rfl, fun _ => rfl, rfl⟩

/-- Nothing that a call did changed what the daemon has. -/
def Untouched (log : Log) : Prop :=
  ∀ exchange ∈ log, SamePorts exchange.before exchange.after

/-- A failed call left neither side changed. -/
structure NoTrace (manager left : MsgPortManager) (log : Log) : Prop where
  untouched : Untouched log
  services : left.services = manager.services
  localServices : left.localServices = manager.localServices

/-- The daemon does not have the port when it handles the registration, and the
proxy for it cannot be created. -/
def Orphans (conn : Conn) (portName : String) (isTrusted : Bool) (log : Log) : Prop :=
  ∃ middle answer events after last path error,
    log = [⟨middle, .call (.registerService portName isTrusted), answer, events, after⟩,
      ⟨last, .serviceProxyNew path, .error error, [], last⟩] ∧
    ∀ addr ∈ middle.ownerList conn, Passed middle portName isTrusted addr

/-- Where a failing registration fails: in the client's own checks, in the daemon,
or when its proxy is created. -/
inductive FailsAt (conn : Conn) (portName : Option String) (isTrusted : Bool) : Log → Prop where
  | client : FailsAt conn portName isTrusted []
  | daemon {middle name outcome error} (named : portName = some name)
      (registration : Registration middle conn name isTrusted outcome)
      (refused : outcome.completions = [.error error]) :
      FailsAt conn portName isTrusted
        [⟨middle, .call (.registerService name isTrusted),
          decodeReply (.error error : Except GError ObjectPath), outcome.events, outcome.state⟩]
  | proxy {middle name outcome path last error} (named : portName = some name)
      (registration : Registration middle conn name isTrusted outcome)
      (registered : outcome.completions = [.ok path]) :
      FailsAt conn portName isTrusted
        [⟨middle, .call (.registerService name isTrusted),
          decodeReply (.ok path : Except GError ObjectPath), outcome.events, outcome.state⟩,
          ⟨last, .serviceProxyNew path, .error error, [], last⟩]

/-- A registration has one reply. -/
theorem registration_reply {before : State} {conn : Conn} {portName : String} {isTrusted : Bool}
    {outcome : Handled ObjectPath}
    (registration : Registration before conn portName isTrusted outcome) :
    outcome.handled = true ∧ ∃ reply, outcome.completions = [reply] := by
  cases registration <;> exact ⟨rfl, _, rfl⟩

/-- The port that a registration is answered for is there. -/
theorem registration_live {before : State} {conn : Conn} {portName : String} {isTrusted : Bool}
    {outcome : Handled ObjectPath} {path : ObjectPath}
    (registration : Registration before conn portName isTrusted outcome)
    (registered : outcome.completions = [.ok path]) :
    ∃ addr service, outcome.state.services.lookup addr = some service ∧ service.objectPath = path ∧
      service.portName = portName ∧ service.isTrusted = isTrusted := by
  cases registration with
  | rejected => cases List.head_eq_of_cons_eq registered
  | exportFailed => cases List.head_eq_of_cons_eq registered
  | @existing addr service _ found live =>
      obtain ⟨_, other, there, same⟩ := Manager.getServiceInternal_some found
      obtain rfl := Option.some.inj (live.symm.trans there)
      exact ⟨addr, service, live, Except.ok.inj (List.head_eq_of_cons_eq registered), same⟩
  | @created _ id addr _ _ _ _ creates =>
      exact ⟨addr, _, creates.live, Except.ok.inj (List.head_eq_of_cons_eq registered), rfl, rfl⟩

/-- What is exported later at the path that a registration was answered with is the
port that was registered. -/
theorem exported_registered {trace : List Event} {middle last : State} {conn : Conn}
    {portName : String} {isTrusted : Bool} {outcome : Handled ObjectPath} {path : ObjectPath}
    {events : List Event} (run : system.Runs trace outcome.state)
    (registration : Registration middle conn portName isTrusted outcome)
    (registered : outcome.completions = [.ok path])
    (others : Interaction.Others (Elsewhere conn) outcome.state events last) {addr : Addr}
    {service : DbusService} (exported : last.exports.lookup (conn, path) = some addr)
    (live : last.services.lookup addr = some service) :
    service.portName = portName ∧ service.isTrusted = isTrusted := by
  obtain ⟨first, port, there, placed, same⟩ := registration_live registration registered
  obtain ⟨other, live', owned, placed'⟩ :=
    (sound_of_runs (run.trans (elsewhere_steps others))).exported.mp exported
  obtain rfl := Option.some.inj (live.symm.trans live')
  -- it was there when the registration was answered, under the id of the port
  have before := elsewhere_live run others owned live
  have named : service.id = port.id := objectPathOf_inj.mp (placed'.trans placed.symm)
  obtain rfl := (sound_of_runs run).addr_of_id before there named
  obtain rfl := Option.some.inj (before.symm.trans there)
  exact same

/-! ## How a registration ends -/

/-- The service of the tables with the name and trust flag of a registration, if
the registration gets to look for one. -/
def cachedPort (manager : MsgPortManager) (portName : Option String) (isTrusted : Bool)
    (cb : Option Callback) (visit : List ObjectPath) : Option MsgPortService :=
  if manager.proxy = false then none
  else
    match portName, cb with
    | some name, some _ =>
        (manager.services.find visit (MsgPortManager.findService name isTrusted)).bind
          manager.services.lookup
    | _, _ => none

/-- The id of the service exported at a path of a connection, 0 if there is none. -/
def exportedId (state : State) (conn : Conn) (path : ObjectPath) : Guint :=
  ((state.exports.lookup (conn, path)).bind state.services.lookup).elim 0 (·.id)

/-- What is returned for a stored id: the id if it is positive, otherwise success. -/
def returnedId (id : Guint) : Int := if 0 < id.toInt then id.toInt else 0

theorem proxyProperties_id (state : State) (conn : Conn) (path : ObjectPath) (handle : Handle) :
    (proxyProperties state conn path handle).id = exportedId state conn path := by
  unfold proxyProperties exportedId
  split
  case h_1 missing =>
    rw [missing]
    rfl
  case h_2 service exported =>
    rw [exported]
    rfl

theorem proxyProperties_handle (state : State) (conn : Conn) (path : ObjectPath) (handle : Handle) :
    (proxyProperties state conn path handle).handle = handle := by
  unfold proxyProperties
  split <;> rfl

/-- How a registration ends: with an error, with a service of the tables, or with
the new service that it stores. -/
inductive RegisterEnds (conn : Conn) (manager : MsgPortManager) (portName : Option String)
    (isTrusted : Bool) (cb : Option Callback) (visit : List ObjectPath) :
    Log → Int → MsgPortManager → Prop where
  | failed {log status} (failsAt : FailsAt conn portName isTrusted log)
      (missing : cachedPort manager portName isTrusted cb visit = none) (failure : status ≠ .none) :
      RegisterEnds conn manager portName isTrusted cb visit log
        (MessageportError.code status) manager
  | found {service messageCb middle}
      (cached : cachedPort manager portName isTrusted cb visit = some service)
      (handler : cb = some messageCb) :
      RegisterEnds conn manager portName isTrusted cb visit
        [⟨middle, .setMessageHandler service.handle messageCb, (), [], middle⟩]
        (returnedId service.id) manager
  | created {name messageCb middle path emitted after last handle connected released left}
      (missing : cachedPort manager portName isTrusted cb visit = none)
      (named : portName = some name) (handler : cb = some messageCb)
      (registered : ∀ addr service, last.exports.lookup (conn, path) = some addr →
        last.services.lookup addr = some service →
        service.portName = name ∧ service.isTrusted = isTrusted)
      (stored : left.services = manager.services.insert path
        (proxyProperties last conn path handle))
      (releases : ∀ exchange ∈ released, ∃ old, exchange.operation = .serviceUnref old) :
      RegisterEnds conn manager portName isTrusted cb visit
        (⟨middle, .call (.registerService name isTrusted),
            decodeReply (.ok path : Except GError ObjectPath), emitted, after⟩ ::
          ⟨last, .serviceProxyNew path, .ok (proxyProperties last conn path handle), [], last⟩ ::
          ⟨connected, .connectOnMessage handle messageCb, (), [], connected⟩ :: released)
        (returnedId (exportedId last conn path)) left

/-- With the daemon's reply the client creates a proxy, or fails to; then it stores the
new service and releases the one stored before. -/
theorem createAndCacheService_cases {Result : Type} {conn : Conn} {manager : MsgPortManager}
    {path : ObjectPath} {messageCb : Callback}
    {next : MessageportError × Option Gint × MsgPortManager → Program Result} {start final : State}
    {log : Log} {events : List Event} {result : Result}
    (call : Calls conn start (manager.createAndCacheService path messageCb >>= next) log
      events result final) :
    (∃ last error rest late, log = ⟨last, .serviceProxyNew path, .error error, [], last⟩ :: rest ∧
      Calls conn last (next (.outOfMemory, none, manager)) rest late result final) ∨
    ∃ between last handle connected released resumed left rest late,
      Interaction.Others (Elsewhere conn) start between last ∧
      left.services = manager.services.insert path (proxyProperties last conn path handle) ∧
      (∀ exchange ∈ released, ∃ old, exchange.operation = .serviceUnref old) ∧
      log = ⟨last, .serviceProxyNew path, .ok (proxyProperties last conn path handle), [], last⟩ ::
        ⟨connected, .connectOnMessage handle messageCb, (), [], connected⟩ :: (released ++ rest) ∧
      Calls conn resumed (next (.none, some (exportedId last conn path), left)) rest late
        result final := by
  simp only [MsgPortManager.createAndCacheService, MsgPortService.new,
    Interaction.perform_bind] at call
  obtain ⟨between, _, created, _, last, rest, late, others, served, ending, rfl, rfl⟩ :=
    call.perform_inv
  obtain ⟨rfl, rfl⟩ := serves_local (by simp) served
  cases created with
  | error error => exact .inl ⟨last, error, rest, late, rfl, ending⟩
  | ok service =>
      obtain ⟨handle, rfl⟩ := serves_serviceProxyNew served
      simp only [Interaction.perform_bind, Interaction.done_bind] at ending
      obtain ⟨_, _, _, _, connected, rest, late, _, connects, storing, rfl, _⟩ := ending.perform_inv
      obtain ⟨rfl, rfl⟩ := serves_local (by simp) connects
      rw [proxyProperties_handle]
      rw [proxyProperties_id] at storing
      refine .inr ⟨between, last, handle, connected, ?_⟩
      split at storing
      · exact ⟨[], _, _, rest, late, others, rfl, by simp, rfl, storing⟩
      · simp only [serviceUnref] at storing
        obtain ⟨_, _, _, _, _, rest, late, _, _, released, rfl, _⟩ := storing.perform_inv
        exact ⟨[_], _, _, rest, late, others, rfl, by simp, rfl, released⟩

/-- Every registration ends in one of these ways. -/
theorem register_cases {trace : List Event} {state final : State} (run : system.Runs trace state)
    {conn : Conn} {manager left : MsgPortManager} {portName : Option String} {isTrusted : Bool}
    {cb : Option Callback} {visit : List ObjectPath} {log : Log} {events : List Event} {value : Int}
    (call : Calls conn state (messageportRegisterPort manager portName isTrusted cb visit)
      log events (value, left) final) :
    RegisterEnds conn manager portName isTrusted cb visit log value left := by
  -- the value of each branch, as it is read from here on
  have ended {result : Int} {tables : MsgPortManager} {rest : Log}
      {late : List Event} {start : State}
      (done : Calls conn start (.done (result, tables)) rest late (value, left) final) :
      rest = [] ∧ value = result ∧ left = tables := by
    obtain ⟨same, rfl, _⟩ := done.done_inv
    obtain ⟨rfl, rfl⟩ := Prod.mk.inj same
    exact ⟨rfl, rfl, rfl⟩
  unfold messageportRegisterPort MsgPortManager.registerService at call
  by_cases proxy : manager.proxy = false
  · rw [if_pos proxy] at call
    obtain ⟨rfl, rfl, rfl⟩ := @ended (MessageportError.code .ioError) _ _ _ _ call
    exact .failed .client (if_pos proxy) (by simp)
  rw [if_neg proxy] at call
  cases portName with
  | none =>
      obtain ⟨rfl, rfl, rfl⟩ := @ended (MessageportError.code .invalidParameter) _ _ _ _ call
      exact .failed .client (if_neg proxy) (by simp)
  | some name =>
  cases cb with
  | none =>
      obtain ⟨rfl, rfl, rfl⟩ := @ended (MessageportError.code .invalidParameter) _ _ _ _ call
      exact .failed .client (if_neg proxy) (by simp)
  | some messageCb =>
  dsimp only at call
  cases missing : (manager.services.find visit
      (MsgPortManager.findService name isTrusted)).bind manager.services.lookup with
  | some service =>
    simp only [missing, MsgPortService.setMessageHandler] at call
    obtain ⟨_, middle, _, _, _, _, _, _, served, ending, rfl, _⟩ := call.perform_inv
    obtain ⟨rfl, rfl⟩ := serves_local (by simp) served
    obtain ⟨rfl, rfl, rfl⟩ := @ended (returnedId _) _ _ _ _ ending
    exact .found ((if_neg proxy).trans missing) rfl
  | none =>
  rw [missing] at call
  replace missing : cachedPort manager (some name) isTrusted (some messageCb) visit = none :=
    (if_neg proxy).trans missing
  simp only [Interaction.perform_bind] at call
  obtain ⟨early, middle, answer, emitted, after, log', events', others, served, rest, rfl, rfl⟩ :=
    call.perform_inv
  have before := run.trans (elsewhere_steps others)
  obtain ⟨open_, choices, outcome, reply, rest', ran, replied, rfl, rfl, rfl⟩ := serves_call served
  have registration := DbusManager.handleRegisterService_cases (sound_of_runs before) open_ ran
  obtain ⟨handled, only, completions⟩ := registration_reply registration
  rw [Handled.replies, if_pos handled, completions] at replied
  obtain ⟨rfl, -⟩ := List.cons.inj replied
  cases only with
  | error error =>
      obtain ⟨rfl, rfl, rfl⟩ := @ended (MessageportError.code _) _ _ _ _ rest
      exact .failed (.daemon rfl registration completions) missing
        (msgportDaemonErrorToError_ne_none _)
  | ok path =>
      have reached := before.trans (serves_steps served)
      rcases createAndCacheService_cases rest with ⟨last, error, rest, late, rfl, ending⟩ |
        ⟨between, last, handle, connected, released, resumed, left, rest, late, others',
          stored, releases, rfl, ending⟩
      · obtain ⟨rfl, rfl, rfl⟩ := @ended (MessageportError.code .outOfMemory) _ _ _ _ ending
        exact .failed (.proxy rfl registration completions) missing (by simp)
      · obtain ⟨rfl, rfl, rfl⟩ := @ended (returnedId _) _ _ _ _ ending
        rw [List.append_nil]
        exact .created missing rfl rfl
          (fun _ _ => exported_registered reached registration completions others') stored releases

theorem returnedId_nonneg (id : Guint) : 0 ≤ returnedId id := by
  unfold returnedId
  split <;> omega

/-- A registration that returns a negative status failed at one of these steps, and
left the client's tables as they were. -/
theorem register_failed {trace : List Event} {state final : State} (run : system.Runs trace state)
    {conn : Conn} {manager left : MsgPortManager} {portName : Option String} {isTrusted : Bool}
    {cb : Option Callback} {visit : List ObjectPath} {log : Log} {events : List Event} {value : Int}
    (call : Calls conn state (messageportRegisterPort manager portName isTrusted cb visit)
      log events (value, left) final) (failed : value < 0) :
    left = manager ∧ FailsAt conn portName isTrusted log := by
  cases register_cases run call with
  | failed failsAt => exact ⟨rfl, failsAt⟩
  | @found service => exact absurd (returnedId_nonneg service.id) (by omega)
  | @created _ _ _ path _ _ last =>
      exact absurd (returnedId_nonneg (exportedId last conn path)) (by omega)

/-! ## What a failed registration leaves -/

/-- A failed registration leaves no trace exactly when it does not orphan a port. -/
theorem register_noTrace_iff {trace : List Event} {state final : State}
    (run : system.Runs trace state) {conn : Conn} {manager left : MsgPortManager}
    {portName : Option String} {isTrusted : Bool} {cb : Option Callback} {visit : List ObjectPath}
    {log : Log} {events : List Event} {value : Int}
    (call : Calls conn state (messageportRegisterPort manager portName isTrusted cb visit) log
      events (value, left) final) (failed : value < 0) :
    NoTrace manager left log ↔ ∀ name, portName = some name →
      ¬ Orphans conn name isTrusted log := by
  obtain ⟨rfl, failsAt⟩ := register_failed run call failed
  have unchanged : NoTrace left left log ↔ Untouched log :=
    ⟨NoTrace.untouched, fun untouched => ⟨untouched, rfl, rfl⟩⟩
  rw [unchanged]
  cases failsAt with
  | client =>
      refine ⟨?_, fun _ exchange member => absurd member List.not_mem_nil⟩
      rintro _ name _ ⟨_, _, _, _, _, _, _, shape, _⟩
      cases shape
  | daemon named registration refused =>
      constructor
      · rintro _ name _ ⟨_, _, _, _, _, _, _, shape, _⟩
        simp at shape
      · intro _ exchange member
        rw [List.mem_singleton.mp member]
        cases registration with
        | rejected => exact .refl _
        | exportFailed => exact ⟨rfl, fun _ => rfl, fun _ => rfl, rfl⟩
        | existing => cases List.head_eq_of_cons_eq refused
        | created => cases List.head_eq_of_cons_eq refused
  | @proxy middle name outcome path last error named registration registered =>
      obtain rfl := named
      cases registration with
      | rejected => cases List.head_eq_of_cons_eq registered
      | exportFailed => cases List.head_eq_of_cons_eq registered
      | existing _ found _ =>
          constructor
          · rintro _ other same ⟨before, _, _, _, _, _, _, shape, passed⟩
            obtain rfl := Option.some.inj same
            obtain rfl : middle = before :=
              Option.some.inj (congrArg (·.head?.map (·.before)) shape)
            obtain ⟨listed, service, live, name, trust⟩ := Manager.getServiceInternal_some found
            obtain ⟨again, live', different⟩ := passed _ listed
            obtain rfl := Option.some.inj (live.symm.trans live')
            exact different ⟨name, trust⟩
          · intro _ exchange member
            rcases List.mem_cons.mp member with rfl | second
            · exact .refl _
            · rw [List.mem_singleton.mp second]
              exact .refl _
      | created _ _ missing creates _ =>
          constructor
          · intro untouched
            -- the new service is there afterwards and was not before
            have same := (untouched _ List.mem_cons_self).services
            have live := creates.live
            rw [same, creates.fresh] at live
            cases live
          · intro spared
            refine absurd ⟨_, _, _, _, _, _, _, rfl, ?_⟩ (spared name rfl)
            exact Manager.getServiceInternal_none_iff.mp missing

/-- A registration whose proxy cannot be created. -/
theorem orphan_call : ∃ trace state log events final, system.Runs trace state ∧
    Calls 0 state (messageportRegisterPort .new (some "port") false (some 7) [])
      log events (-2, .new) final ∧ ¬ Untouched log := by
  let refused : GError := ⟨.gIoError, 0, "no proxy"⟩
  obtain ⟨trace, state, log, events, ⟨value, left⟩, final, run, call, accepted⟩ :=
    @Calls.of_exec _ 0 [.connect 0 (.pid 1 (some "app")) none]
    (messageportRegisterPort .new (some "port") false (some 7) [])
    [⟨Choices.benign, none, 0⟩, ⟨Choices.benign, some refused, 0⟩]
    (fun _ _ log _ result _ => result.1 = -2 ∧
      log.map (fun exchange => (exchange.before.services.keys, exchange.after.services.keys)) =
        [([], [0]), ([0], [0])]) (by decide)
  simp only [decide_eq_true_eq] at accepted
  obtain ⟨rfl, keys⟩ := accepted
  obtain ⟨rfl, -⟩ := register_failed run call (by decide)
  refine ⟨trace, state, log, events, final, run, call, fun untouched => ?_⟩
  cases log with
  | nil => simp at keys
  | cons exchange rest =>
      have same := (untouched exchange List.mem_cons_self).services
      simp only [List.map_cons, List.cons.injEq, Prod.mk.injEq, same] at keys
      obtain ⟨⟨empty, one⟩, _⟩ := keys
      rw [empty] at one
      cases one

/-- The failing call, as `register_noTrace_iff` reads it. -/
theorem register_noTrace_iff_orphan : ∃ log, ¬ Untouched log ∧
    (NoTrace .new .new log ↔ ∀ name, some "port" = some name → ¬ Orphans 0 name false log) := by
  obtain ⟨trace, state, log, events, final, run, call, touched⟩ := orphan_call
  exact ⟨log, touched, register_noTrace_iff run call (by decide)⟩

/-- A failing registration leaves its port behind in the daemon. -/
theorem register_leaves_port : ¬ ∀ trace state, system.Runs trace state →
    ∀ conn manager portName isTrusted cb visit log events value left final,
      Calls conn state (messageportRegisterPort manager portName isTrusted cb visit)
        log events (value, left) final →
      value < 0 → NoTrace manager left log := by
  intro clean
  obtain ⟨trace, state, log, events, final, run, call, touched⟩ := orphan_call
  exact touched (clean _ _ run _ _ _ _ _ _ _ _ _ _ _ call (by decide)).untouched

end MessagePort.Session
