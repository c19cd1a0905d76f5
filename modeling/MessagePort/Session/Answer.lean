import MessagePort.Daemon.Answers
import MessagePort.Safety.Sender
import MessagePort.Session.Delivery
import MessagePort.Session.Mirror

/-!
# Answering a bidirectional message

A bidirectional send is asked for on the path of a local port, which the client finds
in its tables. The message carries the app id of the client and the name and trust
flag of the port, and a lookup by these leads back to the port while the client is
connected.
-/

namespace MessagePort.Session

open Daemon Client Logical Semantics

/-! ## The tables lead to the port -/

/-- The tables correspond, and a service is on the path of its id. -/
structure Lists (manager : MsgPortManager) : Prop where
  linked : manager.Linked
  path : ∀ {path service}, manager.services.lookup path = some service →
    path = objectPathOf service.id

/-- What an operation may be answered, and may do to the ports of the connection, when
the creation of a proxy may fail. -/
def Might (before : Ports) : (operation : Operation) → operation.Answer → Ports → Prop
  | .serviceProxyNew _, .error _, after => after = before
  | operation, answer, after => May before operation answer after

/-- Only a registration changes the ports. -/
theorem might_leaves : Leaves Might :=
  fun other might => may_leaves other might

/-- The service of a new port is stored under its path and id, or there is none. -/
theorem createAndCacheService_might {manager : MsgPortManager} {before after : Ports}
    {name : String} {isTrusted : Bool} {id : Guint} (gains : Gains before name isTrusted id after)
    (cb : Callback) {post : MessageportError × Option Gint × MsgPortManager → Ports → Prop}
    (failed : ∀ status, post (status, none, manager) after)
    (created : ∀ handle, post (.none, some id, { manager with
      services := manager.services.insert (objectPathOf id)
        ⟨handle, objectPathOf id, id, some name, isTrusted⟩
      localServices := manager.localServices.insert (gintToPointer id)
        (objectPathOf id) }) after) :
    (manager.createAndCacheService (objectPathOf id) cb).wp Might post after := by
  have there : after name isTrusted id := (gains.ports _ _ _).mpr (.inr ⟨rfl, rfl, rfl⟩)
  unfold MsgPortManager.createAndCacheService MsgPortService.new
  intro answer last might
  cases answer with
  | error error =>
      obtain rfl := might
      exact failed _
  | ok service =>
      obtain ⟨rfl, given⟩ := might
      obtain ⟨handle, same⟩ := given name isTrusted id there rfl
      obtain rfl := Except.ok.inj same
      rintro _ _ rfl
      dsimp only
      split
      · exact created handle
      · rintro _ _ rfl
        exact created handle

/-- A registration fails, finds a service of the port, or stores the one of a port that the
daemon created for it. -/
theorem registerService_might {manager : MsgPortManager} {ports : Ports} {portName : Option String}
    {isTrusted : Bool} {cb : Option Callback} {visit : List ObjectPath}
    {post : MessageportError × Option Gint × MsgPortManager → Ports → Prop}
    (failed : ∀ status after, post (status, none, manager) after)
    (found : ∀ name path service, portName = some name →
      manager.services.lookup path = some service →
      MsgPortManager.findService name isTrusted service = true →
      post (.none, some service.id, manager) ports)
    (created : ∀ name handle id after, portName = some name → Gains ports name isTrusted id after →
      post (.none, some id, { manager with
        services := manager.services.insert (objectPathOf id)
          ⟨handle, objectPathOf id, id, some name, isTrusted⟩
        localServices := manager.localServices.insert (gintToPointer id)
          (objectPathOf id) }) after) :
    (manager.registerService portName isTrusted cb visit).wp Might post ports := by
  have program := manager.registerService_cases portName isTrusted cb visit
  generalize manager.registerService portName isTrusted cb visit = registers at program ⊢
  cases program with
  | failed _ => exact failed _ _
  | found there matched =>
      rintro _ _ rfl
      exact found _ _ _ rfl there matched
  | @asked name _ messageCb _ =>
      intro answer after might
      cases answer with
      | error error => exact failed _ _
      | ok path =>
          obtain ⟨id, rfl, gains⟩ := might
          exact createAndCacheService_might gains messageCb (fun _ => failed _ _)
            fun handle => created name handle id after rfl gains

/-- The tables keep corresponding when a service is stored under its path and id. -/
theorem Lists.cache {manager : MsgPortManager} (lists : Lists manager) (handle : Handle)
    (id : Guint) (name : Option String) (isTrusted : Bool) :
    Lists { manager with
      services := manager.services.insert (objectPathOf id)
        ⟨handle, objectPathOf id, id, name, isTrusted⟩
      localServices := manager.localServices.insert (gintToPointer id) (objectPathOf id) } := by
  constructor
  · refine @MsgPortManager.Linked.cache manager lists.linked
      ⟨handle, objectPathOf id, id, name, isTrusted⟩ ?_
    intro path held found
    rw [lists.path found]
    exact objectPathOf_inj
  · intro path held found
    rcases HashTable.lookup_insert_some.mp found with ⟨rfl, rfl⟩ | ⟨_, found⟩
    · rfl
    · exact lists.path found

/-- Every public function keeps the tables so. -/
theorem program_lists {manager : MsgPortManager} (lists : Lists manager) (ports : Ports)
    (call : ApiCall) :
    (call.program manager).wp Might (fun out _ => Lists out.2) ports := by
  by_cases registers : ∃ localPort isTrusted callback visit,
      call = .registerLocalPort localPort isTrusted callback visit
  · obtain ⟨localPort, isTrusted, callback, visit, rfl⟩ := registers
    apply Interaction.wp_bind
    apply Interaction.wp_bind
    refine registerService_might (fun _ _ => lists) (fun _ _ _ _ _ _ => lists) ?_
    exact fun name handle id after _ _ => lists.cache handle id (some name) isTrusted
  · refine Interaction.wp_mono ?_
      (program_wp_quiet might_leaves manager ports fun localPort isTrusted callback visit same =>
        registers ⟨localPort, isTrusted, callback, visit, same⟩)
    rintro ⟨returned, left⟩ _ ⟨same | ⟨id, same⟩, _⟩
    · exact same ▸ lists
    · rw [lists.linked.getLocalPort_eq] at same
      exact same ▸ lists

/-- A lookup, or a send on the path of a port. -/
def OnPort (id : Gint) : Operation → Prop
  | .call (.checkForRemoteService _ _ _) => True
  | .call (.serviceSendMessage path _ _) => path = objectPathOf id
  | _ => False

/-- A bidirectional send does nothing but look up and send on the path of its port. -/
theorem sendBidirectionalMessage_only {manager : MsgPortManager} (lists : Lists manager) (id : Gint)
    (appId port : Option String) (isTrusted : Bool) (data : VariantMap) :
    (manager.sendBidirectionalMessage id appId port isTrusted data).Only (OnPort id) := by
  refine MsgPortManager.sendBidirectionalMessage_only (fun _ _ _ => trivial) ?_ appId port isTrusted
  intro service found remoteServiceId
  obtain ⟨stored, rfl⟩ := lists.linked.getLocalPort_some.mp found
  exact lists.path stored

/-- While a bidirectional send is in progress, what is left of it is about its port. -/
def SendsOn : ApiCall → Program (Returned × MsgPortManager) → Prop
  | .sendBidirectionalMessage id _ _ _ _, program => program.Only (OnPort id)
  | _, _ => True

theorem sendsOn_program {manager : MsgPortManager} (lists : Lists manager) (call : ApiCall) :
    SendsOn call (call.program manager) := by
  cases call with
  | sendBidirectionalMessage id appId port isTrusted message =>
      refine Interaction.Only.bind
        (sendBidirectionalMessage_only lists id appId port isTrusted _) ?_
      exact fun _ => trivial
  | _ => trivial

theorem SendsOn.resume {call : ApiCall} {operation : Operation}
    {resume : operation.Answer → Program (Returned × MsgPortManager)}
    (sends : SendsOn call (.perform operation resume)) (answer : operation.Answer) :
    SendsOn call (resume answer) := by
  cases call with
  | sendBidirectionalMessage => exact sends.2 answer
  | _ => trivial

/-- Calls keep the tables, where operations are answered as they might be. -/
theorem lists_keeps : Keeps (fun manager _ => Lists manager)
    (fun call program ports => program.wp Might (fun out _ => Lists out.2) ports ∧
      SendsOn call program) Might where
  new _ := ⟨MsgPortManager.linked_new, fun found => by cases found⟩
  begins call lists := ⟨program_lists lists _ call, sendsOn_program lists call⟩
  performs holds might := ⟨holds.1 _ _ might, holds.2.resume _⟩
  ends holds := holds.1

/-- The daemon answers as it might, where ids are unique and exports succeed. -/
theorem might_of_served {trace : List Event} {state after : State} {conn : Conn}
    {operation : Operation} {answer : operation.Answer} {events : List Event} {outside : Outside}
    (run : system.Runs trace state) (unique : (0 :: createdIds (trace ++ events)).Nodup)
    (exported : false ∉ attempts events)
    (served : serveOperation state conn operation outside = some (answer, events, after)) :
    Might (Owns state conn) operation answer (Owns after conn) := by
  have may (proxied : proxyEvents conn operation answer = []) :=
    may_of_served run unique exported proxied served
  cases operation with
  | serviceProxyNew path =>
      cases answer with
      | error error =>
          have same : state = after := congrArg (·.2.2) (Option.some.inj served)
          rw [same]
          rfl
      | ok service => exact may rfl
  | _ => exact may rfl

/-- An operation does to the ports of its client, and is answered, what it might. -/
theorem might_of_regular {trace : List WorldEvent} {state : World} {conn : Conn}
    {operation : Operation} {outside : Outside} {answer : operation.Answer} {events : List Event}
    {after : State} (run : world.Runs trace state)
    (regular : Regular
      (daemonEvents (trace ++ (events.map .daemon ++ proxyEvents conn operation answer))))
    (served : serveOperation state.daemon conn operation outside = some (answer, events, after)) :
    Might (Owns state.daemon conn) operation answer (Owns after conn) := by
  have daemonRun := daemon_of_runs run
  rw [daemonEvents_append, daemonEvents_performed] at regular
  exact might_of_served daemonRun (regular.nodup (daemonRun.trans (serves_steps ⟨_, served⟩)))
    regular.exported_right served

/-- Every client keeps what its operations keep, when they are answered as they might be. -/
theorem follows_of_regular {between : MsgPortManager → Ports → Prop}
    {during : ApiCall → Program (Returned × MsgPortManager) → Ports → Prop}
    (keeps : Keeps between during Might) {trace : List WorldEvent} {state : World}
    (run : world.Runs trace state) (regular : Regular (daemonEvents trace)) :
    ∀ conn client, state.clients.lookup conn = some client →
      Follows between during state.daemon conn client :=
  @follows_of_runs _ _ Might (fun trace => Regular (daemonEvents trace)) keeps regular_of_append id
    might_of_regular _ _ run regular

/-- The tables of every client lead to its ports, during and between calls. -/
theorem lists_of_runs {trace : List WorldEvent} {state : World} (run : world.Runs trace state)
    (regular : Regular (daemonEvents trace)) :
    ∀ conn client, state.clients.lookup conn = some client →
      Follows (fun manager _ => Lists manager)
        (fun call program ports => program.wp Might (fun out _ => Lists out.2) ports ∧
          SendsOn call program) state.daemon conn client := by
  exact follows_of_regular lists_keeps run regular

/-! ## The port stays -/

/-- A connection has this app id and this port. -/
structure Stands (daemon : State) (conn : Conn) (appId name : String) (isTrusted : Bool)
    (id : Guint) : Prop where
  appId : HasAppId daemon appId conn
  port : Owns daemon conn name isTrusted id

/-- A callback for a connection unregisters no id. -/
theorem not_unregister_of_step {state next : State} {label : Label} {conn : Conn}
    {emitted : List Event} (sound : Sound state)
    (transition : Daemon.step state label = some (next, emitted))
    (labelled : label.conn = some conn) (serviceId : Gint) :
    .unregisterCalled serviceId ∉ emitted := by
  intro member
  rcases subject_of_step sound transition _ member with sending | same
  · exact sending
  · rw [labelled] at same
    cases same

/-- No client unregisters an id, and only a disconnection closes a connection. -/
theorem Moves.spares {before after : World} {label : WorldLabel} {events : List WorldEvent}
    (sound : Sound before.daemon) (moves : Moves before label events after) :
    (∀ serviceId, .unregisterCalled serviceId ∉ daemonEvents events) ∧
      ((∀ conn, label ≠ .disconnect conn) → ∀ conn, .closed conn ∉ daemonEvents events) := by
  cases moves with
  | refused transition =>
      rw [daemonEvents_daemon]
      refine ⟨not_unregister_of_step sound transition rfl, fun _ conn closed => ?_⟩
      obtain ⟨_, _, same⟩ := connect_events transition _ closed
      cases same
  | connected transition _ =>
      rw [daemonEvents_daemon]
      refine ⟨not_unregister_of_step sound transition rfl, fun _ conn closed => ?_⟩
      obtain ⟨_, _, same⟩ := connect_events transition _ closed
      cases same
  | @performed _ _ _ operation _ _ _ _ _ _ _ _ _ served =>
      rw [daemonEvents_performed]
      cases operation with
      | call request =>
          obtain ⟨open_, choices, outcome, _, _, ran, _, _, rfl, _⟩ := serves_call ⟨_, served⟩
          have subjects := subject_of_serve sound open_ ran
          constructor
          · intro serviceId member
            rcases subjects _ member with sending | ⟨same, _⟩
            · exact sending
            · cases same
          · intro _ conn member
            rcases subjects _ member with sending | ⟨_, different⟩
            · exact sending
            · exact different conn rfl
      | _ =>
          obtain ⟨rfl, -⟩ := serves_local (by simp) ⟨_, served⟩
          exact ⟨fun _ => List.not_mem_nil, fun _ _ => List.not_mem_nil⟩
  | disconnected transition =>
      rw [daemonEvents_daemon]
      exact ⟨not_unregister_of_step sound transition rfl, fun other => absurd rfl (other _)⟩
  | _ => exact ⟨fun _ => List.not_mem_nil, fun _ _ => List.not_mem_nil⟩

/-- A step keeps the ports and the app id of a connection that it does not close. -/
theorem Moves.stands {trace events : List WorldEvent} {before after : World} {label : WorldLabel}
    (prior : world.Runs trace before) (moves : Moves before label events after)
    (regular : Regular (daemonEvents (trace ++ events))) {conn : Conn}
    (connected : .daemon (.closed conn) ∉ events) {appId name : String} {isTrusted : Bool}
    {id : Guint} (stands : Stands before.daemon conn appId name isTrusted id) :
    Stands after.daemon conn appId name isTrusted id := by
  have daemonRun := daemon_of_runs prior
  have sound := sound_of_runs daemonRun
  have effect := moves.effect sound
  rw [daemonEvents_append] at regular
  have unique := regular.nodup (daemonRun.trans moves.steps)
  have open_ : .closed conn ∉ daemonEvents events :=
    fun closed => connected (mem_daemonEvents.mp closed)
  constructor
  · obtain ⟨dbusManager, found, same⟩ := stands.appId
    obtain ⟨left, there, kept⟩ := effect.stays found open_
    exact ⟨left, there, kept.trans same⟩
  · exact effect.owns_stays sound (registry_of_runs daemonRun (unique_of_append unique))
      (fun service appId made => created_free daemonRun unique made) open_
      (moves.spares sound).1 stands.port

/-- So does a run. -/
theorem stands_of_steps {trace later : List WorldEvent} {state final : World}
    (run : world.Runs trace state) (steps : world.Steps state later final)
    (regular : Regular (daemonEvents (trace ++ later))) {conn : Conn}
    (connected : .daemon (.closed conn) ∉ later) {appId name : String} {isTrusted : Bool}
    {id : Guint} (stands : Stands state.daemon conn appId name isTrusted id) :
    Stands final.daemon conn appId name isTrusted id := by
  induction steps with
  | refl => exact stands
  | @snoc events middle label next emitted earlier transition ih =>
      rw [← List.append_assoc] at regular
      have there := ih (regular_of_append regular) fun closed =>
        connected (List.mem_append_left _ closed)
      exact (World.step_cases transition).stands (run.trans earlier) regular
        (fun closed => connected (List.mem_append_right _ closed)) there

/-- A callback gets what the message says. -/
theorem handed_of_steps {state final : World} {later : List WorldEvent}
    (steps : world.Steps state later final) {conn : Conn} {message : OnMessage}
    {invocation : Invocation} (handed : .handed conn message invocation ∈ later) :
    ∃ id clientCb, invocation = onGotMessage id clientCb message := by
  induction steps with
  | refl => cases handed
  | snoc _ transition ih =>
      rcases List.mem_append.mp handed with earlier | now
      · exact ih earlier
      · cases World.step_cases transition with
        | handed =>
            cases List.mem_singleton.mp now
            exact ⟨_, _, rfl⟩
        | finished => cases List.mem_singleton.mp now
        | @performed _ _ _ operation _ _ answer =>
            rcases List.mem_append.mp now with daemon | proxy
            · simp at daemon
            · unfold proxyEvents at proxy
              split at proxy <;> simp at proxy
        | refused => simp at now
        | connected => simp at now
        | disconnected => simp at now
        | _ => cases now

/-! ## Answers reach the port -/

/-- The connections that were opened, with their app ids. -/
def openings (trace : List Event) : List (Conn × Option String) :=
  trace.filterMap fun
    | .connected conn appId _ => some (conn, appId)
    | _ => none

/-- Every connection has an app id, which is its own. -/
structure Identified (trace : List Event) : Prop where
  named : ∀ opening ∈ openings trace, opening.2 ≠ none ∧ opening.2 ≠ some ""
  apart : ∀ one ∈ openings trace, ∀ other ∈ openings trace, one.2 = other.2 → one.1 = other.1

theorem mem_openings {trace : List Event} {conn : Conn} {appId : Option String} {validApp : Bool}
    (opened : .connected conn appId validApp ∈ trace) : (conn, appId) ∈ openings trace :=
  List.mem_filterMap.mpr ⟨_, opened, rfl⟩

theorem Identified.of_append {before after : List Event}
    (identified : Identified (before ++ after)) :
    Identified before := by
  have kept {opening} (member : opening ∈ openings before) :
      opening ∈ openings (before ++ after) := by
    rw [openings, List.filterMap_append]
    exact List.mem_append_left _ member
  exact ⟨fun one member => identified.named one (kept member),
    fun one member other member' => identified.apart one (kept member) other (kept member')⟩

/-- An open connection has a nonempty app id. -/
theorem Identified.appId {trace : List Event} {state : State} (run : system.Runs trace state)
    (identified : Identified trace) {conn : Conn} {dbusManager : DbusManager}
    (found : state.dbusManagers.lookup conn = some dbusManager) :
    ∃ appId, dbusManager.appId = some appId ∧ appId ≠ "" := by
  obtain ⟨validApp, opened⟩ := connected_of_runs run found
  obtain ⟨known, named⟩ := identified.named _ (mem_openings opened)
  obtain ⟨appId, same⟩ := Option.ne_none_iff_exists'.mp known
  refine ⟨appId, same, ?_⟩
  rintro rfl
  exact named same

/-- No other open connection has it. -/
theorem Identified.alone {trace : List Event} {state : State} (run : system.Runs trace state)
    (identified : Identified trace) {conn other : Conn} {appId : String}
    (first : HasAppId state appId conn) (second : HasAppId state appId other) : other = conn := by
  obtain ⟨_, found, same⟩ := first
  obtain ⟨_, found', same'⟩ := second
  obtain ⟨_, opened⟩ := connected_of_runs run found
  obtain ⟨_, opened'⟩ := connected_of_runs run found'
  exact identified.apart _ (mem_openings opened') _ (mem_openings opened) (same'.trans same.symm)

/-- A send on a service is emitted on it once, or refused for the certificate. -/
def Answers (service : DbusService) (data : VariantMap) (outcome : Handled Unit) : Prop :=
  (outcome.completions = [.ok ()] ∧ ∃ message, onMessages outcome.events = [message] ∧
    message.service = service ∧ message.data = data) ∨
  (outcome.completions = [.error msgportErrorCertificateMismatchNew] ∧
    onMessages outcome.events = [])

theorem answers_of_verdict {made : List Event} (silent : onMessages made = []) (next : State)
    (accepted : Bool) (message : OnMessage) : Answers message.service message.data
      ⟨next, [if accepted then .ok () else .error msgportErrorCertificateMismatchNew], true,
        if accepted then made ++ [.emitted message] else made⟩ := by
  cases accepted with
  | true =>
      refine .inl ⟨rfl, message, ?_, rfl, rfl⟩
      show onMessages (made ++ [.emitted message]) = [message]
      rw [onMessages_append, silent]
      rfl
  | false => exact .inr ⟨rfl, silent⟩

/-- A lookup finds the service under an app id, and sends reach it. -/
structure ReachedAs (daemon : State) (service : DbusService) (appId : String) : Prop where
  found : ∀ caller choices,
    serve daemon caller (.checkForRemoteService appId service.portName service.isTrusted) choices =
      .ok ⟨daemon, [.ok service.id], true, []⟩
  replied : ∀ caller ∈ daemon.dbusManagers, ∀ data choices, ∃ outcome,
    serve daemon caller (.sendMessage service.id data) choices = .ok outcome ∧
    Answers service data outcome
  /-- A reply that is bidirectional itself is sent on the path of a port. -/
  repliedOn : ∀ caller ∈ daemon.dbusManagers, ∀ path addr,
    daemon.exports.lookup (caller, path) = some addr → ∀ data choices, ∃ outcome,
      serve daemon caller (.serviceSendMessage path service.id data) choices = .ok outcome ∧
        Answers service data outcome

/-- A port of a connection is found by the app id of the connection. -/
theorem reachedAs_of_stands {trace : List Event} {state : State} (run : system.Runs trace state)
    (regular : Regular trace) (identified : Identified trace) {conn : Conn} {appId name : String}
    {isTrusted : Bool} {id : Guint} (stands : Stands state conn appId name isTrusted id) :
    ReachedAs state ⟨id, conn, name, isTrusted⟩ appId := by
  have sound := sound_of_runs run
  have unique := regular.nodup run
  obtain ⟨addr, live⟩ := stands.port
  obtain ⟨_, made, _⟩ := created_of_live run live
  have nonzero : id ≠ 0 := nonzero_of_live run unique live
  have cached := sound.liveCached live
  -- no sender is without an app id
  have hashable {caller : Conn} (open_ : caller ∈ state.dbusManagers) :
      ¬ Unhashable state ⟨id, conn, name, isTrusted⟩
        ((state.dbusManagers.lookup caller).bind (·.appId)) := by
    obtain ⟨dbusManager, found⟩ := HashTable.lookup_isSome_iff.mp open_
    obtain ⟨callerId, known, _⟩ := identified.appId run found
    rw [found, Option.bind_some, known]
    rintro ⟨_, unknown, _⟩
    cases unknown
  constructor
  · intro caller choices
    refine handleCheckForRemoteService_found sound
      ⟨created_named run made, conn, addr, ?_, ?_, live⟩
    · cases visited : DbusManager.getDbusManagerByAppId state appId choices.visit with
      | none => exact absurd stands.appId (getDbusManagerByAppId_eq_none visited conn)
      | some other =>
          rw [identified.alone run stands.appId (getDbusManagerByAppId_iff.mp ⟨_, visited⟩)]
    · exact (Registry.search_some_iff sound (registry_of_runs run unique)).mpr ⟨id, live⟩
  · intro caller open_ data choices
    obtain ⟨next, accepted, made, silent, _, sent, _⟩ :=
      handleSendMessage_target sound open_ nonzero cached live rfl (hashable open_) data choices
    exact ⟨_, sent, answers_of_verdict silent next accepted ⟨_, data, _, "", false⟩⟩
  · intro caller open_ path own exported data choices
    obtain ⟨next, accepted, made, silent, _, _, sent⟩ :=
      handleSendMessage_target sound open_ nonzero cached live rfl (hashable open_) data choices
    obtain ⟨service, there, owner, _⟩ := sound.exported.mp exported
    simp only [serve, exported]
    exact ⟨_, sent own service there owner,
      answers_of_verdict silent next accepted ⟨_, data, _, _, _⟩⟩

/-- What a step of a call emits was asked for with the request of that step. -/
theorem sent_of_perform {trace sent : List WorldEvent} {before next : World}
    (run : world.Runs trace before) {conn : Conn} {client : ClientThread} {call : ApiCall}
    {program : Program (Returned × MsgPortManager)} {outside : Outside}
    (there : before.clients.lookup conn = some client)
    (active : client.activity = some (call, program))
    (moves : Moves before (.perform conn outside) sent next) {message : OnMessage}
    (emitted : .daemon (.emitted message) ∈ sent) :
    ∃ request resume, program = .perform (.call request) resume ∧
      Safety.SentBy before.daemon conn request message := by
  cases moves with
  | @performed _ _ _ operation _ _ _ _ _ there' active' _ _ served =>
      obtain rfl := Option.some.inj (there.symm.trans there')
      obtain ⟨-, rfl⟩ := Prod.mk.inj (Option.some.inj (active.symm.trans active'))
      rw [← mem_daemonEvents, daemonEvents_performed] at emitted
      cases operation with
      | call request =>
          obtain ⟨open_, choices, outcome, _, _, ran, _, _, rfl, _⟩ := serves_call ⟨_, served⟩
          exact ⟨request, _, rfl, Safety.sentBy_of_serve (daemon_of_runs run) open_ ran emitted⟩
      | _ =>
          obtain ⟨rfl, -⟩ := serves_local (by simp) ⟨_, served⟩
          cases emitted

/-- What a bidirectional send emits is sent from its port. -/
theorem sentOn_of_perform {trace sent : List WorldEvent} {before next : World}
    (run : world.Runs trace before) (regular : Regular (daemonEvents trace)) {conn : Conn}
    {client : ClientThread} {id : Gint} {appId port : Option String} {isTrusted : Bool}
    {bundle : Option Bundle} {program : Program (Returned × MsgPortManager)} {outside : Outside}
    (there : before.clients.lookup conn = some client)
    (active : client.activity =
      some (.sendBidirectionalMessage id appId port isTrusted bundle, program))
    (moves : Moves before (.perform conn outside) sent next) {message : OnMessage}
    (emitted : .daemon (.emitted message) ∈ sent) :
    (∃ dbusManager, before.daemon.dbusManagers.lookup conn = some dbusManager ∧
      message.remoteAppId = dbusManager.appId) ∧
      Owns before.daemon conn message.remotePort message.remoteIsTrusted id := by
  obtain ⟨request, resume, rfl, sender, asked⟩ := sent_of_perform run there active moves emitted
  have follows := lists_of_runs run regular conn client there
  simp only [Follows, active] at follows
  have allowed : OnPort id (.call request) := follows.2.1
  refine ⟨sender, ?_⟩
  cases asked with
  | manager => exact allowed.elim
  | @service addr service live owned _ portName isTrusted =>
      obtain rfl : service.id = id := objectPathOf_inj.mp allowed
      rw [portName, isTrusted, ← owned]
      exact ⟨addr, live⟩

/-- The arguments with which every callback for the message was called. -/
def HandsBack (trace : List WorldEvent) (message : OnMessage) (appId name : String)
    (isTrusted : Bool) : Prop :=
  ∀ conn invocation, .handed conn message invocation ∈ trace →
    invocation.remoteAppId = some appId ∧ invocation.remotePort = some name ∧
      invocation.trustedMessage = isTrusted

/-- A message that a bidirectional send emits tells every callback an app id, a port
name and a trust flag, by which the local port of the send is found, and can be
answered, as long as its client is connected. -/
theorem bidirectional_answerable {trace sent : List WorldEvent} {before next : World}
    (run : world.Runs trace before) {conn : Conn} {client : ClientThread} {id : Gint}
    {appId port : Option String} {isTrusted : Bool} {bundle : Option Bundle}
    {program : Program (Returned × MsgPortManager)} {outside : Outside}
    (there : before.clients.lookup conn = some client)
    (active : client.activity =
      some (.sendBidirectionalMessage id appId port isTrusted bundle, program))
    (transition : world.step before (.perform conn outside) = some (next, sent))
    {message : OnMessage} (emitted : .daemon (.emitted message) ∈ sent) :
    ∃ senderId name trust, ∀ later state, world.Steps next later state →
      Regular (daemonEvents (trace ++ (sent ++ later))) →
      Identified (daemonEvents (trace ++ (sent ++ later))) →
      .daemon (.closed conn) ∉ later →
        HandsBack later message senderId name trust ∧
          ReachedAs state.daemon ⟨id, conn, name, trust⟩ senderId := by
  refine ⟨message.remoteAppId.getD "", message.remotePort, message.remoteIsTrusted, ?_⟩
  intro later state steps regular identified connected
  have moves : Moves before (.perform conn outside) sent next := World.step_cases transition
  have whole := (EventSystem.Steps.single transition).trans steps
  have earlier := regular_of_append regular
  obtain ⟨⟨dbusManager, found, sender⟩, owned⟩ :=
    sentOn_of_perform run earlier there active moves emitted
  have sound := sound_of_runs (daemon_of_runs run)
  have still : .daemon (.closed conn) ∉ sent ++ later := by
    intro closed
    rcases List.mem_append.mp closed with now | later
    · exact (moves.spares sound).2 (fun other => WorldLabel.noConfusion) conn
        (mem_daemonEvents.mpr now)
    · exact connected later
  rw [daemonEvents_append] at identified
  obtain ⟨senderId, known, nonempty⟩ := identified.of_append.appId (daemon_of_runs run) found
  rw [← daemonEvents_append] at identified
  have carried : message.remoteAppId.getD "" = senderId := by rw [sender, known, Option.getD_some]
  have stands := stands_of_steps run whole regular still ⟨⟨dbusManager, found, known⟩, owned⟩
  have daemonRun := daemon_of_runs (EventSystem.Steps.trans run whole)
  rw [carried]
  refine ⟨?_, reachedAs_of_stands daemonRun regular identified stands⟩
  intro receiver invocation handed
  obtain ⟨_, _, rfl⟩ := handed_of_steps steps handed
  obtain ⟨_, live⟩ := owned
  obtain ⟨_, made, _⟩ := created_of_live (daemon_of_runs run) live
  refine ⟨?_, if_neg (created_named (daemon_of_runs run) made), rfl⟩
  simp only [onGotMessage, carried]
  exact if_neg nonempty

/-- A receiver and a sender register a port each, and the sender looks up the port of
the receiver for a bidirectional send. -/
def lookedUp : List WorldLabel :=
  [.connect 0 (.pid 1 (some "receiver")) none, .connect 1 (.pid 2 (some "sender")) none,
    .begin 0 (.registerLocalPort (some "port") false (some 7) []),
    .perform 0 ⟨.benign, none, 0⟩, .arrive 0,
    .perform 0 ⟨.benign, none, 0⟩, .arrive 0, .perform 0 ⟨.benign, none, 1⟩, .finish 0,
    .begin 1 (.registerLocalPort (some "reply") false (some 8) []),
    .perform 1 ⟨.benign, none, 0⟩, .arrive 1,
    .perform 1 ⟨.benign, none, 0⟩, .arrive 1, .perform 1 ⟨.benign, none, 1⟩, .finish 1,
    .begin 1 (.sendBidirectionalMessage 2 (some "receiver") (some "port") false none),
    .perform 1 ⟨.benign, none, 1⟩, .arrive 1]

/-- A bidirectional send on this port is in progress. -/
def sendingOn (id : Gint) (client : ClientThread) : Bool :=
  match client.activity with
  | some (.sendBidirectionalMessage other _ _ _ _, _) => other = id
  | _ => false

theorem active_of_sendingOn {id : Gint} {client : ClientThread}
    (sending : sendingOn id client = true) : ∃ appId port isTrusted bundle program,
      client.activity =
        some (.sendBidirectionalMessage id appId port isTrusted bundle, program) := by
  unfold sendingOn at sending
  rcases active : client.activity with _ | ⟨call, program⟩ <;> rw [active] at sending
  · cases sending
  cases call with
  | sendBidirectionalMessage other appId port isTrusted bundle =>
      obtain rfl := of_decide_eq_true sending
      exact ⟨appId, port, isTrusted, bundle, program, rfl⟩
  | _ => cases sending

/-- The message is sent, handed over, and can be answered. -/
theorem bidirectional_answerable_handed :
    ∃ trace before next later state message senderId name trust,
    world.Runs trace before ∧ world.Steps next later state ∧ message ∈ handedBy 0 later ∧
      HandsBack later message senderId name trust ∧
      ReachedAs state.daemon ⟨2, 1, name, trust⟩ senderId := by
  obtain ⟨trace, before, run, accepted⟩ := @EventSystem.Runs.of_exec _ _ _ world lookedUp
    (fun before trace => (before.clients.lookup 1).any (sendingOn 2) ∧
      (world.step before (.perform 1 ⟨.benign, none, 1⟩)).any fun sent =>
        (world.exec sent.1 [.arrive 0, .dispatch 0]).any fun final =>
          (onMessages (daemonEvents sent.2)).any fun message =>
            message ∈ handedBy 0 final.2 ∧
            attempts (daemonEvents (trace ++ (sent.2 ++ final.2))) = [true, true] ∧
            openings (daemonEvents (trace ++ (sent.2 ++ final.2))) =
              [(0, some "receiver"), (1, some "sender")] ∧
            .closed 1 ∉ daemonEvents final.2) (by decide)
  obtain ⟨sending, rest⟩ := of_decide_eq_true accepted
  obtain ⟨client, there, busy⟩ := (Option.any_eq_true _ _).mp sending
  obtain ⟨⟨next, sent⟩, transition, rest⟩ := (Option.any_eq_true _ _).mp rest
  obtain ⟨⟨state, later⟩, executed, rest⟩ := (Option.any_eq_true _ _).mp rest
  obtain ⟨message, emitted, rest⟩ := List.any_eq_true.mp rest
  obtain ⟨handed, tries, opened, closed⟩ := of_decide_eq_true rest
  have steps : world.Steps next later state := EventSystem.Steps.of_exec executed
  obtain ⟨appId, port, isTrusted, bundle, program, active⟩ := active_of_sendingOn busy
  obtain ⟨senderId, name, trust, answerable⟩ := bidirectional_answerable run there active transition
    (mem_daemonEvents.mp (mem_onMessages.mp emitted))
  have regular : Regular (daemonEvents (trace ++ (sent ++ later))) :=
    ⟨by rw [tries]; decide, by rw [tries]; decide⟩
  have identified : Identified (daemonEvents (trace ++ (sent ++ later))) :=
    ⟨by rw [opened]; decide, by rw [opened]; decide⟩
  obtain ⟨back, found⟩ := answerable later state steps regular identified fun member =>
    closed (mem_daemonEvents.mpr member)
  exact ⟨trace, before, next, later, state, message, senderId, name, trust, run, steps,
    handed, back, found⟩

end MessagePort.Session
