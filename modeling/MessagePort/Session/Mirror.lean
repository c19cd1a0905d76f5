import MessagePort.Client.Tables
import MessagePort.Session.Follow

/-!
# The client's cache of ports

A client keeps a service for each port it registered, and the daemon keeps the
ports of its connection. Neither asks the other before it uses what it has, so
both must agree whenever a call begins. A call is followed on the ports of its
own connection only: `May` bounds what the daemon can do to these.
-/

namespace MessagePort.Session

open Daemon Client Logical Semantics

/-- The services of a client are those of the ports of its connection, each under
its object path. -/
structure Mirrors (manager : MsgPortManager) (ports : Ports) : Prop where
  connected : manager.proxy = true
  held : ∀ {path service}, manager.services.lookup path = some service →
    path = objectPathOf service.id ∧
      ∃ name, service.portName = some name ∧ ports name service.isTrusted service.id
  cached : ∀ {name isTrusted id}, ports name isTrusted id → ∃ handle,
    manager.services.lookup (objectPathOf id) =
      some ⟨handle, objectPathOf id, id, some name, isTrusted⟩

/-- The ids that a client can look up do not matter to `Mirrors`. -/
theorem Mirrors.leftBy {manager left : MsgPortManager} {ports : Ports}
    (mirrors : Mirrors manager ports) (leftBy : LeftBy manager left) : Mirrors left ports := by
  rcases leftBy with rfl | ⟨id, rfl⟩
  · exact mirrors
  · unfold MsgPortManager.getLocalPort
    split
    · exact mirrors
    · split
      · exact ⟨mirrors.connected, mirrors.held, mirrors.cached⟩
      · exact mirrors

/-- A registration makes one port appear, or finds it there; no other port has its id. -/
structure Gains (before : Ports) (name : String) (isTrusted : Bool) (id : Guint) (after : Ports) :
    Prop where
  ports : ∀ n u i, after n u i ↔ before n u i ∨ (n = name ∧ u = isTrusted ∧ i = id)
  alone : ∀ n u, after n u id → n = name ∧ u = isTrusted

/-- What an operation of the client may be answered, and what it may do to the
ports of the client's connection. -/
def May (before : Ports) : (operation : Operation) → operation.Answer → Ports → Prop
  | .call (.registerService _ _), .error _, after => after = before
  | .call (.registerService name isTrusted), .ok path, after =>
      ∃ id, path = objectPathOf id ∧ Gains before name isTrusted id after
  | .serviceProxyNew path, answer, after =>
      after = before ∧ ∀ name isTrusted id, before name isTrusted id → path = objectPathOf id →
        ∃ handle, answer = .ok ⟨handle, path, id, some name, isTrusted⟩
  | _, _, after => after = before

/-! ## What each public function does to the cache -/

/-- A new service mirrors the new port. -/
theorem createAndCacheService_wp {manager : MsgPortManager} {before after : Ports} {name : String}
    {isTrusted : Bool} {id : Guint} (mirrors : Mirrors manager before)
    (gains : Gains before name isTrusted id after) (cb : Callback) :
    (manager.createAndCacheService (objectPathOf id) cb).wp May
      (fun out ports => Mirrors out.2.2 ports) after := by
  have there : after name isTrusted id := (gains.ports _ _ _).mpr (.inr ⟨rfl, rfl, rfl⟩)
  unfold MsgPortManager.createAndCacheService MsgPortService.new
  rintro answer after ⟨rfl, created⟩
  obtain ⟨handle, rfl⟩ := created name isTrusted id there rfl
  rintro _ after rfl
  -- the service is stored under its path, and nothing else changes
  have stored : Mirrors { manager with
      services := manager.services.insert (objectPathOf id)
        ⟨handle, objectPathOf id, id, some name, isTrusted⟩
      localServices := manager.localServices.insert (gintToPointer id)
        (objectPathOf id) } after := by
    constructor
    · exact mirrors.connected
    · intro path service found
      rcases HashTable.lookup_insert_some.mp found with ⟨same, rfl⟩ | ⟨_, found⟩
      · exact ⟨same, name, rfl, there⟩
      · obtain ⟨place, port, named, owned⟩ := mirrors.held found
        exact ⟨place, port, named, (gains.ports _ _ _).mpr (.inl owned)⟩
    · intro port trusted other owned
      rw [HashTable.lookup_insert_eq]
      by_cases same : other = id
      · subst same
        obtain ⟨rfl, rfl⟩ := gains.alone _ _ owned
        exact ⟨handle, if_pos rfl⟩
      · rw [if_neg (fun path => same (objectPathOf_inj.mp path))]
        rcases (gains.ports _ _ _).mp owned with old | ⟨_, _, new⟩
        · exact mirrors.cached old
        · exact absurd new same
  dsimp only
  split
  · exact stored
  · rintro _ _ rfl
    exact stored

/-- A registration keeps the cache a mirror. -/
theorem registerService_wp {manager : MsgPortManager} {ports : Ports}
    (mirrors : Mirrors manager ports) (portName : Option String) (isTrusted : Bool)
    (cb : Option Callback) (visit : List ObjectPath) :
    (manager.registerService portName isTrusted cb visit).wp May
      (fun out ports => Mirrors out.2.2 ports) ports := by
  have program := manager.registerService_cases portName isTrusted cb visit
  generalize manager.registerService portName isTrusted cb visit = registers at program ⊢
  cases program with
  | failed _ => exact mirrors
  | found _ _ =>
      rintro _ _ rfl
      exact mirrors
  | asked _ =>
      rintro answer after may
      cases answer with
      | error error =>
          obtain rfl := may
          exact mirrors
      | ok path =>
          obtain ⟨id, rfl, gains⟩ := may
          exact createAndCacheService_wp mirrors gains _

/-- Only a registration changes the ports. -/
theorem may_leaves : Leaves May := by
  intro ports request answer after other may
  cases request with
  | registerService name isTrusted => exact absurd rfl (other name isTrusted)
  | _ => exact may

/-- Every public function keeps the cache a mirror. -/
theorem program_wp {manager : MsgPortManager} {ports : Ports} (mirrors : Mirrors manager ports)
    (call : ApiCall) :
    (call.program manager).wp May (fun out ports => Mirrors out.2 ports) ports := by
  by_cases registers : ∃ localPort isTrusted callback visit,
      call = .registerLocalPort localPort isTrusted callback visit
  · obtain ⟨localPort, isTrusted, callback, visit, rfl⟩ := registers
    apply Interaction.wp_bind
    apply Interaction.wp_bind
    refine Interaction.wp_mono ?_ (registerService_wp mirrors localPort isTrusted callback visit)
    rintro ⟨res, stored, left⟩ after kept
    exact kept
  · refine Interaction.wp_mono ?_ (program_wp_quiet may_leaves manager ports fun localPort isTrusted
      callback visit same => registers ⟨localPort, isTrusted, callback, visit, same⟩)
    rintro ⟨returned, left⟩ _ ⟨forgets, rfl⟩
    exact mirrors.leftBy forgets

/-! ## What the daemon does -/

/-- No other port has the id of a port. -/
theorem owns_alone {state : State} (sound : Sound state) {conn : Conn} {name other : String}
    {isTrusted trust : Bool} {id : Guint} (owned : Owns state conn name isTrusted id)
    (same : Owns state conn other trust id) : other = name ∧ trust = isTrusted := by
  obtain ⟨addr, live⟩ := owned
  obtain ⟨there, live'⟩ := same
  obtain rfl := sound.addr_of_id live live' rfl
  rw [live, Option.some.injEq, DbusService.mk.injEq] at live'
  exact ⟨live'.2.2.1.symm, live'.2.2.2.symm⟩

/-- A proxy for a port caches the properties of the port. -/
theorem proxyProperties_of_owns {state : State} (sound : Sound state) {conn : Conn} {name : String}
    {isTrusted : Bool} {id : Guint} (owned : Owns state conn name isTrusted id) (handle : Handle) :
    proxyProperties state conn (objectPathOf id) handle =
      ⟨handle, objectPathOf id, id, some name, isTrusted⟩ := by
  obtain ⟨addr, live⟩ := owned
  have exported : state.exports.lookup (conn, objectPathOf id) = some addr :=
    sound.exported.mpr ⟨_, live, rfl, rfl⟩
  exact proxyProperties_exported exported live handle

/-- In a run with unique ids the daemon does to the ports of a connection, and
answers, what an operation may. -/
theorem may_of_served {trace : List Event} {state after : State} {conn : Conn}
    {operation : Operation} {answer : operation.Answer} {events : List Event} {outside : Outside}
    (run : system.Runs trace state) (unique : (0 :: createdIds (trace ++ events)).Nodup)
    (exported : false ∉ attempts events) (proxied : proxyEvents conn operation answer = [])
    (served : serveOperation state conn operation outside = some (answer, events, after)) :
    May (Owns state conn) operation answer (Owns after conn) := by
  have registry := registry_of_runs run (unique_of_append unique)
  have sound := sound_of_runs run
  cases operation with
  | call request =>
      obtain ⟨open_, choices, outcome, reply, rest, ran, replied, rfl, rfl, rfl⟩ :=
        serves_call ⟨outside, served⟩
      have effect := (serve_effect sound open_ ran).1
      have free (service appId) (made : Event.created service appId ∈ outcome.events) :=
        created_free run unique made
      cases request with
      | registerService name isTrusted =>
          have registration := DbusManager.handleRegisterService_cases sound open_ ran
          cases registration with
          | rejected =>
              obtain rfl := List.head_eq_of_cons_eq replied
              rfl
          | exportFailed => exact absurd List.mem_cons_self exported
          | existing named found live =>
              obtain rfl := List.head_eq_of_cons_eq replied
              obtain ⟨id, there⟩ := (Registry.search_some_iff sound registry).mp found
              obtain rfl := Option.some.inj (live.symm.trans there)
              refine ⟨id, rfl, fun n u i => ⟨.inl, ?_⟩, fun n u => owns_alone sound ⟨_, live⟩⟩
              rintro (before | ⟨rfl, rfl, rfl⟩)
              · exact before
              · exact ⟨_, live⟩
          | @created _ id addr after named found missing creates sound' =>
              obtain rfl := List.head_eq_of_cons_eq replied
              have owns {n u i} := @Creates.owns_iff _ _ conn n u i _ _ _ _ _ creates
                (free _ _ List.mem_cons_self)
              exact ⟨id, rfl, fun n u i => owns.trans (or_congr_right (and_iff_right rfl)),
                fun n u => owns_alone sound' ⟨addr, creates.live⟩⟩
      | _ =>
          -- any other request is part of a send, if anything
          have sending := sending_of_serve sound open_ (by simp) ran
          exact effect.owns_eq sound registry free fun event member => .inl (sending event member)
  | serviceProxyNew path =>
      simp only [serveOperation, Option.some.injEq] at served
      cases failure : outside.proxyFailure with
      | some error =>
          simp only [failure] at served
          obtain ⟨rfl, -, -⟩ := served
          cases proxied
      | none =>
          simp only [failure] at served
          obtain ⟨rfl, -, rfl⟩ := served
          refine ⟨rfl, ?_⟩
          rintro name isTrusted id owned rfl
          exact ⟨outside.handle, congrArg Except.ok
            (proxyProperties_of_owns sound owned outside.handle)⟩
  | _ =>
      obtain ⟨-, rfl⟩ := serves_local (by simp) ⟨outside, served⟩
      rfl

/-! ## The cache along a run -/

/-- Between calls the cache mirrors the ports of the connection, and during a call
it will when the call ends. -/
def Tracks (daemon : State) (conn : Conn) (client : ClientThread) : Prop :=
  match client.activity with
  | none => Mirrors client.manager (Owns daemon conn)
  | some (_, program) => program.wp May (fun out ports => Mirrors out.2 ports) (Owns daemon conn)

/-- A run in which every export and every proxy creation succeeds, and fewer than
`2 ^ 31` services are created. -/
structure Reliable (trace : List WorldEvent) : Prop where
  daemon : Regular (daemonEvents trace)
  proxied : ∀ conn, .proxyFailed conn ∉ trace

theorem Reliable.of_append {before after : List WorldEvent}
    (reliable : Reliable (before ++ after)) :
    Reliable before where
  daemon := regular_of_append reliable.daemon
  proxied conn failed := reliable.proxied conn (List.mem_append_left _ failed)

/-- Calls keep the cache a mirror, where operations are answered as they may be. -/
theorem mirrors_keeps : Keeps Mirrors
    (fun _ program ports => program.wp May (fun out ports => Mirrors out.2 ports) ports) May where
  new none := ⟨rfl, by simp [MsgPortManager.new], fun owned => absurd owned (none _ _ _)⟩
  begins call mirrors := program_wp mirrors call
  performs holds may := holds _ _ may
  ends holds := holds

/-- Every client tracks its ports. -/
theorem tracks_of_runs {trace : List WorldEvent} {state : World} (run : world.Runs trace state)
    (reliable : Reliable trace) :
    ∀ conn client, state.clients.lookup conn = some client → Tracks state.daemon conn client := by
  refine follows_of_runs mirrors_keeps Reliable.of_append
    (fun reliable => reliable.daemon) ?_ run reliable
  intro trace state conn operation outside answer events after run reliable served
  have daemonRun := daemon_of_runs run
  have regular := reliable.daemon
  rw [daemonEvents_append, daemonEvents_performed] at regular
  refine may_of_served daemonRun (regular.nodup (daemonRun.trans (serves_steps ⟨_, served⟩)))
    regular.exported_right ?_ served
  refine proxyEvents_eq_nil fun failed => reliable.proxied conn ?_
  exact List.mem_append_right _ (List.mem_append_right _ failed)

/-! ## What a client can rely on -/

/-- The client has a service for a port of this name, trust flag and id. -/
def HoldsService (manager : MsgPortManager) (portName : String) (isTrusted : Bool) (id : Guint) :
    Prop :=
  ∃ path service, manager.services.lookup path = some service ∧
    service.portName = some portName ∧ service.isTrusted = isTrusted ∧ service.id = id

/-- The daemon has such a port in the list of a connection. -/
def ListsPort (state : State) (conn : Conn) (portName : String) (isTrusted : Bool) (id : Guint) :
    Prop :=
  ∃ addr ∈ state.ownerList conn, ∃ service, state.services.lookup addr = some service ∧
    service.portName = portName ∧ service.isTrusted = isTrusted ∧ service.id = id

/-- In a run with unique ids, the list of a connection holds exactly its ports. -/
theorem listsPort_iff {state : State} (sound : Sound state) (registry : Registry state)
    {conn : Conn} {portName : String} {isTrusted : Bool} {id : Guint} :
    ListsPort state conn portName isTrusted id ↔ Owns state conn portName isTrusted id := by
  constructor
  · rintro ⟨addr, listed, service, live, rfl, rfl, rfl⟩
    obtain ⟨_, same, rfl⟩ := registry.listedLive listed
    obtain rfl := Option.some.inj (live.symm.trans same)
    exact ⟨addr, live⟩
  · rintro ⟨addr, live⟩
    exact ⟨addr, sound.listed live, _, live, rfl, rfl, rfl⟩

/-- A mirror has exactly the ports. -/
theorem Mirrors.holds_iff {manager : MsgPortManager} {ports : Ports}
    (mirrors : Mirrors manager ports) {portName : String} {isTrusted : Bool} {id : Guint} :
    HoldsService manager portName isTrusted id ↔ ports portName isTrusted id := by
  constructor
  · rintro ⟨path, service, found, named, rfl, rfl⟩
    obtain ⟨_, name, named', owned⟩ := mirrors.held found
    obtain rfl := Option.some.inj (named.symm.trans named')
    exact owned
  · intro owned
    obtain ⟨handle, found⟩ := mirrors.cached owned
    exact ⟨_, _, found, rfl, rfl, rfl⟩

/-- A port that the connection has is found again, and nothing changes. -/
theorem handleRegisterService_existing {state : State} (sound : Sound state)
    (registry : Registry state) {conn : Conn} {portName : String} {isTrusted : Bool} {id : Guint}
    (served : conn ∈ state.dbusManagers) (named : portName ≠ "")
    (owned : Owns state conn portName isTrusted id) (choices : Choices) :
    DbusManager.handleRegisterService state conn portName isTrusted choices =
      .ok ⟨state, [.ok (objectPathOf id)], true, [.registered conn portName isTrusted id]⟩ := by
  obtain ⟨addr, live⟩ := owned
  obtain ⟨manager, present⟩ := sound.registry served
  have found := (Registry.search_some_iff sound registry).mpr ⟨id, live⟩
  simp only [DbusManager.handleRegisterService, Manager.registerService, present,
    if_neg named, found, State.deref, live, List.nil_append]
  rfl

/-- A cached port is registered again without the daemon: the callback is replaced
and the id returned. -/
theorem messageportRegisterPort_hit {manager : MsgPortManager} {name : String} {isTrusted : Bool}
    {visit : List ObjectPath} {path : ObjectPath} {service : MsgPortService} (cb : Callback)
    (connected : manager.proxy = true)
    (hit : manager.services.find visit (MsgPortManager.findService name isTrusted) = some path)
    (found : manager.services.lookup path = some service)
    (fits : FitsInt service.id) :
    messageportRegisterPort manager (some name) isTrusted (some cb) visit =
      .perform (.setMessageHandler service.handle cb) fun _ =>
        .done (service.id.toNat, manager) := by
  have stored : messageportRegisterPort manager (some name) isTrusted (some cb) visit =
      .perform (.setMessageHandler service.handle cb) fun _ =>
        .done (if 0 < service.id.toInt then service.id.toInt
          else MessageportError.none.code, manager) := by
    simp only [messageportRegisterPort, MsgPortManager.registerService, connected, hit,
      Option.bind_some, found]
    rfl
  rw [stored, if_pos (fitsInt_iff.mp fits), fits.toInt_eq]

/-- Any other port is asked of the daemon, and an error changes nothing. -/
theorem messageportRegisterPort_miss {manager : MsgPortManager} {name : String} {isTrusted : Bool}
    {visit : List ObjectPath} (cb : Callback) (connected : manager.proxy = true)
    (missed : manager.services.find visit (MsgPortManager.findService name isTrusted) = none) :
    ∃ resume, messageportRegisterPort manager (some name) isTrusted (some cb) visit =
        .perform (.call (.registerService name isTrusted)) resume ∧
      ∀ error, resume (.error error) = .done ((msgportDaemonErrorToError error).code, manager) := by
  simp only [messageportRegisterPort, MsgPortManager.registerService, connected, missed,
    Option.bind_none]
  exact ⟨_, rfl, fun error => rfl⟩

/-- What a client and the daemon agree on while the client makes no call. -/
structure Agree (daemon : State) (conn : Conn) (manager : MsgPortManager) : Prop where
  ports : ∀ portName isTrusted id,
    HoldsService manager portName isTrusted id ↔ ListsPort daemon conn portName isTrusted id
  /-- A cached port is registered again without the daemon, under the id of the
  port that the daemon would have found. -/
  hit : ∀ portName isTrusted cb visit path service,
    manager.services.find visit (MsgPortManager.findService portName isTrusted) = some path →
    manager.services.lookup path = some service →
    messageportRegisterPort manager (some portName) isTrusted (some cb) visit =
        .perform (.setMessageHandler service.handle cb)
          (fun _ => .done (service.id.toNat, manager)) ∧
      ∀ choices, DbusManager.handleRegisterService daemon conn portName isTrusted choices =
        .ok ⟨daemon, [.ok (objectPathOf service.id)], true,
          [.registered conn portName isTrusted service.id]⟩
  /-- A registration that the daemon rejects, all exports succeeding, leaves both
  as they were. -/
  rejected : ∀ portName isTrusted cb visit choices outcome error,
    manager.services.find visit (MsgPortManager.findService portName isTrusted) = none →
    DbusManager.handleRegisterService daemon conn portName isTrusted choices = .ok outcome →
    false ∉ attempts outcome.events → .error error ∈ outcome.completions →
    outcome.state = daemon ∧ ∃ resume,
      messageportRegisterPort manager (some portName) isTrusted (some cb) visit =
        .perform (.call (.registerService portName isTrusted)) resume ∧
      ∃ status < 0, resume (decodeReply (.error error)) = .done (status, manager)

/-- Between its calls a client has exactly the ports that the daemon has for it. -/
theorem cache_agrees {trace : List WorldEvent} {state : World} (run : world.Runs trace state)
    (reliable : Reliable trace) {conn : Conn} {client : ClientThread}
    (there : state.clients.lookup conn = some client) (idle : client.activity = none) :
    Agree state.daemon conn client.manager := by
  have daemonRun := daemon_of_runs run
  have sound := sound_of_runs daemonRun
  have registry := registry_of_runs daemonRun (reliable.daemon.nodup daemonRun)
  have served := open_of_runs run conn client there
  have mirrors : Mirrors client.manager (Owns state.daemon conn) := by
    have tracks := tracks_of_runs run reliable conn client there
    simp only [Tracks, idle] at tracks
    exact tracks
  constructor
  · intro portName isTrusted id
    rw [mirrors.holds_iff, listsPort_iff sound registry]
  · intro portName isTrusted cb visit path service hit found
    obtain ⟨same, accepted, matched⟩ := HashTable.find_some hit
    obtain rfl := Option.some.inj (accepted.symm.trans found)
    obtain ⟨named, trusted⟩ : same.portName = some portName ∧ same.isTrusted = isTrusted := by
      simpa [MsgPortManager.findService] using matched
    obtain ⟨_, name, named', owned⟩ := mirrors.held found
    obtain rfl := Option.some.inj (named.symm.trans named')
    rw [trusted] at owned
    obtain ⟨addr, live⟩ := id owned
    obtain ⟨_, made, _⟩ := created_of_live daemonRun live
    exact ⟨messageportRegisterPort_hit cb mirrors.connected hit found
        (reliable.daemon.fits daemonRun live),
      handleRegisterService_existing sound registry served (created_named daemonRun made) owned⟩
  · intro portName isTrusted cb visit choices outcome error missed ran exported refused
    cases DbusManager.handleRegisterService_cases sound served ran with
    | rejected =>
        obtain ⟨resume, asked, answered⟩ := messageportRegisterPort_miss cb mirrors.connected missed
        refine ⟨rfl, resume, asked, _, ?_, answered _⟩
        exact MessageportError.code_neg (msgportDaemonErrorToError_ne_none _)
    | exportFailed => exact absurd List.mem_cons_self exported
    | existing => simp at refused
    | created => simp at refused

/-- A client registers a port, and another client connects. -/
def registered : List WorldLabel :=
  [.connect 0 (.pid 1 (some "app")) none,
    .begin 0 (.registerLocalPort (some "port") false (some 7) []),
    .perform 0 ⟨.benign, none, 0⟩, .arrive 0, .perform 0 ⟨.benign, none, 0⟩, .arrive 0,
    .perform 0 ⟨.benign, none, 1⟩, .finish 0, .connect 1 (.pid 2 (some "other")) none]

/-- The first client, as `cache_agrees` reads it. -/
theorem cache_agrees_registered : ∃ trace state, ∃ client : ClientThread, world.Runs trace state ∧
    HoldsService client.manager "port" false 1 ∧ Agree state.daemon 0 client.manager := by
  obtain ⟨trace, state, run, accepted⟩ := @EventSystem.Runs.of_exec _ _ _ world registered
    (fun state trace => attempts (daemonEvents trace) = [true] ∧
      (trace.all fun | .proxyFailed _ => false | _ => true) ∧
      (state.clients.lookup 0).any fun client => client.activity.isNone ∧
        client.manager.services.lookup "/1" = some ⟨0, "/1", 1, some "port", false⟩) (by decide)
  obtain ⟨tries, proxied, held⟩ := of_decide_eq_true accepted
  obtain ⟨client, there, idle, cached⟩ : ∃ client, state.clients.lookup 0 = some client ∧
      client.activity = none ∧
      client.manager.services.lookup "/1" = some ⟨0, "/1", 1, some "port", false⟩ := by
    simpa [Option.any_eq_true] using held
  have reliable : Reliable trace := by
    refine ⟨⟨by rw [tries]; decide, by rw [tries]; decide⟩, fun conn failed => ?_⟩
    exact absurd (List.all_eq_true.mp proxied _ failed) (by simp)
  exact ⟨trace, state, client, run, ⟨_, _, cached, rfl, rfl, rfl⟩,
    cache_agrees run reliable there idle⟩

end MessagePort.Session
