import MessagePort.Client.Operations
import MessagePort.Daemon.Answers
import MessagePort.Session.Follow

/-!
# Every call can return

A public function makes its requests one after the other and waits for each reply.
At any time its connection alone can bring it to its end: the daemon replies to every
request that the library makes, and the reply is on the wire behind what was sent
before. Only a sender without app id, or a list of ports that dangles because an id
was handed out twice, can stop it.
-/

namespace MessagePort.Session

open Daemon Client Logical Semantics EventSystem

/-! ## What the public functions ask for -/

/-- The daemon replies to it, or it is nothing to the daemon. -/
def Replied : Operation → Prop
  | .call (.serviceUnregister _) => False
  | _ => True

/-- It is nothing to the daemon. -/
def Local : Operation → Prop
  | .call _ => False
  | _ => True

/-- It may create a port. -/
def CreatesPort : Operation → Prop
  | .call (.registerService _ _) => True
  | _ => False

/-- Every request of the program is replied to, and none follows a registration. -/
def Orderly {Result : Type} : Program Result → Prop
  | .done _ => True
  | .perform operation resume =>
      Replied operation ∧ (CreatesPort operation → ∀ answer, (resume answer).Only Local) ∧
        ∀ answer, Orderly (resume answer)

section Orderly

variable {First Result : Type}

theorem Orderly.of_only {program : Program Result}
    (only : program.Only fun operation => Replied operation ∧ ¬ CreatesPort operation) :
    Orderly program := by
  induction program with
  | done result => trivial
  | perform operation resume ih =>
      exact ⟨only.1.1, fun creates => absurd creates only.1.2,
        fun answer => ih answer (only.2 answer)⟩

theorem Orderly.of_local {program : Program Result} (only : program.Only Local) :
    Orderly program := by
  induction program with
  | done result => trivial
  | perform operation resume ih =>
      refine ⟨?_, fun _ => only.2, fun answer => ih answer (only.2 answer)⟩
      cases operation with
      | call request => exact only.1.elim
      | _ => trivial

/-- What comes after the requests is nothing to the daemon. -/
theorem Orderly.bind {program : Program First} {next : First → Program Result}
    (first : Orderly program) (second : ∀ result, (next result).Only Local) :
    Orderly (program >>= next) := by
  induction program with
  | done result => exact .of_local (second result)
  | perform operation resume ih =>
      exact ⟨first.1, fun creates answer => (first.2.1 creates answer).bind second,
        fun answer => ih answer (first.2.2 answer)⟩

end Orderly

/-- A registration asks at most once, and all else it does is local. -/
theorem registerService_orderly (manager : MsgPortManager) (portName : Option String)
    (isTrusted : Bool) (messageCb : Option Callback) (visit : List ObjectPath) :
    Orderly (manager.registerService portName isTrusted messageCb visit) := by
  have caches (objectPath : ObjectPath) (cb : Callback) :
      (manager.createAndCacheService objectPath cb).Only Local :=
    MsgPortManager.createAndCacheService_only (fun _ => trivial) (fun _ _ => trivial)
      (fun _ => trivial) ..
  have program := manager.registerService_cases portName isTrusted messageCb visit
  generalize manager.registerService portName isTrusted messageCb visit = registers at program ⊢
  cases program with
  | failed _ => trivial
  | found _ _ =>
      apply Orderly.of_local
      apply Interaction.Only.bind
      · exact ⟨trivial, fun _ => trivial⟩
      · exact fun _ => trivial
  | asked _ =>
      refine ⟨trivial, fun _ answer => ?_, fun answer => ?_⟩
      · cases answer with
        | error error => trivial
        | ok objectPath => exact caches objectPath _
      · cases answer with
        | error error => trivial
        | ok objectPath => exact .of_local (caches objectPath _)

theorem program_orderly (manager : MsgPortManager) (call : ApiCall) :
    Orderly (call.program manager) := by
  by_cases asks : ∃ localPort isTrusted callback visit, call =
    .registerLocalPort localPort isTrusted callback visit
  · obtain ⟨localPort, isTrusted, callback, visit, rfl⟩ := asks
    apply Orderly.bind
    · apply Orderly.bind
      · exact registerService_orderly manager localPort isTrusted callback visit
      · exact fun _ => trivial
    · exact fun _ => trivial
  · apply Orderly.of_only
    apply program_only_quiet
    · exact fun _ _ _ => ⟨trivial, id⟩
    · exact fun _ _ => ⟨trivial, id⟩
    · exact fun _ _ _ => ⟨trivial, id⟩
    · exact fun localPort isTrusted callback visit same =>
        asks ⟨localPort, isTrusted, callback, visit, same⟩

/-- What is left of a call is orderly. -/
theorem orderly_of_runs {trace : List WorldEvent} {state : World} (run : world.Runs trace state) :
    ∀ conn client, state.clients.lookup conn = some client → ∀ call program,
      client.activity = some (call, program) → Orderly program := by
  refine @Runs.invariant _ _ _ world (fun _ state => ∀ conn client,
    state.clients.lookup conn = some client → ∀ call program,
      client.activity = some (call, program) → Orderly program) ?_ ?_ _ _ run
  · intro conn client there
    cases there
  intro trace before label after emitted prior ih transition conn found there call program active
  cases (World.step_cases transition).came (open_of_runs prior) there with
  | connected _ _ _ new =>
      rw [new] at active
      cases active
  | stayed there _ activity => exact ih conn _ there call program (activity.symm.trans active)
  | @began client begun _ _ activity =>
      obtain ⟨rfl, rfl⟩ := Prod.mk.inj (Option.some.inj (activity.symm.trans active))
      exact program_orderly client.manager begun
  | @performed _ _ _ _ _ answer _ there busy _ _ activity =>
      obtain ⟨rfl, rfl⟩ := Prod.mk.inj (Option.some.inj (activity.symm.trans active))
      exact (ih conn _ there _ _ busy).2.2 answer
  | finished _ _ idle =>
      rw [idle] at active
      cases active

/-! ## What the daemon replies to -/

/-- A list of live services has nothing to stumble over. -/
theorem not_dangles {state : State} (registry : Registry state) (portName : String)
    (isTrusted : Bool) (owner : Conn) :
    ¬ Dangles state portName isTrusted (state.ownerList owner) := by
  rintro ⟨passed, addr, rest, split, _, dangling⟩
  have listed : addr ∈ state.ownerList owner := by
    rw [split]
    simp
  obtain ⟨service, live, _⟩ := registry.listedLive listed
  rw [live] at dangling
  cases dangling

/-- A sender whose app id is known is looked up wherever it has to be. -/
theorem not_stuck {state : State} {conn : Conn} {appId : String}
    (known : (state.dbusManagers.lookup conn).bind (·.appId) = some appId) (serviceId : Guint) :
    ¬ Stuck state conn serviceId := by
  rintro ⟨service, _, _, unknown, _⟩
  rw [known] at unknown
  cases unknown

/-- A request of such a sender is replied to, when nothing outside the daemon fails. -/
theorem request_replied {state : State} (sound : Sound state) (registry : Registry state)
    {conn : Conn} (served : conn ∈ state.dbusManagers) {appId : String}
    (known : (state.dbusManagers.lookup conn).bind (·.appId) = some appId) {request : Request}
    (replied : Replied (.call request)) :
    ∃ outcome reply rest, serve state conn request .benign = .ok outcome ∧
      outcome.replies request.path = reply :: rest := by
  have once {Answer : Type} {outcome : Handled Answer} {path : ObjectPath}
      (completed : outcome.handled = true ∧ ∃ reply, outcome.completions = [reply]) :
      ∃ reply rest, outcome.replies path = reply :: rest := by
    obtain ⟨handled, reply, completions⟩ := completed
    exact ⟨reply, [], by rw [Handled.replies, if_pos handled, completions]⟩
  cases request with
  | registerService port isTrusted =>
      have ends : ∃ outcome, DbusManager.handleRegisterService state conn port isTrusted
        .benign = .ok outcome :=
        (handleRegisterService_ok_iff sound served).mpr
          (.inr (not_dangles registry port isTrusted conn))
      obtain ⟨outcome, ran⟩ := ends
      obtain ⟨reply, rest, replies⟩ := @once _ outcome "/" (by
        cases DbusManager.handleRegisterService_cases sound served ran <;> exact ⟨rfl, _, rfl⟩)
      exact ⟨outcome, reply, rest, ran, replies⟩
  | checkForRemoteService remoteAppId remotePort isTrusted =>
      obtain ⟨outcome, ran⟩ :=
        handleCheckForRemoteService_total sound registry remoteAppId remotePort isTrusted .benign
      obtain ⟨reply, rfl⟩ := (handleCheckForRemoteService_cases sound ran).reply
      exact ⟨_, reply, [], ran, rfl⟩
  | sendMessage serviceId data =>
      obtain ⟨outcome, ran⟩ := (handleSendMessage_ok_iff sound served data .benign).1.mpr
        (not_stuck known serviceId)
      obtain ⟨reply, rest, replies⟩ :=
        @once _ outcome "/" (DbusManager.handleSendMessage_cases sound served ran).reply
      exact ⟨outcome, reply, rest, ran, replies⟩
  | serviceSendMessage path remoteServiceId data =>
      cases exported : state.exports.lookup (conn, path) with
      | none =>
          exact ⟨⟨state, [], false, []⟩, .error (unknownMethod path),
            [], by simp only [serve, exported], rfl⟩
      | some addr =>
          obtain ⟨service, live, owned, _⟩ := sound.exported.mp exported
          obtain ⟨outcome, ran⟩ :=
            ((handleSendMessage_ok_iff sound served data .benign).2 addr service live
            owned).mpr ⟨not_stuck known remoteServiceId, fun dead => dead.2 rfl⟩
          obtain ⟨reply, rest, replies⟩ :=
            @once _ outcome path (DbusService.handleSendMessage_cases sound live ran).reply
          refine ⟨outcome, reply, rest, ?_, replies⟩
          simp only [serve, exported]
          exact ran
  | serviceUnregister path => exact replied.elim

/-- So an operation of a public function can be carried out. -/
theorem operation_served {state : State} {conn : Conn} (operation : Operation)
    (replied : Replied operation)
    (intact : Local operation ∨ Sound state ∧ Registry state ∧ conn ∈ state.dbusManagers ∧ ∃ appId,
      (state.dbusManagers.lookup conn).bind (·.appId) = some appId)
    (handle : Handle) :
    ∃ answer events after,
      serveOperation state conn operation ⟨.benign, none, handle⟩ =
        some (answer, events, after) := by
  cases operation with
  | call request =>
      obtain ⟨sound, registry, served, appId, known⟩ := intact.resolve_left id
      obtain ⟨outcome, reply, rest, ran, replies⟩ :=
        request_replied sound registry served known replied
      exact ⟨decodeReply reply, outcome.events, outcome.state, by
        simp only [serveOperation, if_pos served, ran, replies]⟩
  | _ => exact ⟨_, _, _, rfl⟩

/-! ## What a connection can do alone -/

/-- While a call waits, its reply is on the wire. -/
theorem reply_of_runs {trace : List WorldEvent} {state : World} (run : world.Runs trace state) :
    ∀ conn client, state.clients.lookup conn = some client → client.waiting = true →
      .reply ∈ client.inbox := by
  refine @Runs.invariant _ _ _ world (fun _ state => ∀ conn client,
    state.clients.lookup conn = some client → client.waiting = true →
    .reply ∈ client.inbox) ?_ ?_ _ _ run
  · intro conn client there
    cases there
  intro trace before label after emitted _ ih transition conn found there waiting
  -- one client is replaced, and keeps the reply if it still waits
  have replaced {other : Conn} {client new : ClientThread}
      (old : before.clients.lookup other = some client)
      (there : (before.set other new).clients.lookup conn = some found)
      (kept : new.waiting = true → client.waiting = true ∧
        (.reply ∈ client.inbox → .reply ∈ new.inbox)) :
      .reply ∈ found.inbox := by
    rcases lookup_set_some.mp there with ⟨rfl, rfl⟩ | ⟨_, there⟩
    · exact (kept waiting).2 (ih _ client old (kept waiting).1)
    · exact ih conn found there waiting
  cases World.step_cases transition with
  | refused => exact ih conn found there waiting
  | connected =>
      rcases HashTable.lookup_insert_some.mp there with ⟨_, rfl⟩ | ⟨_, there⟩
      · cases waiting
      · exact ih conn found there waiting
  | disconnected => exact ih conn found (HashTable.lookup_erase_some.mp there).2 waiting
  | began old => exact replaced old there fun waits => ⟨waits, id⟩
  | finished old => exact replaced old there fun waits => ⟨waits, id⟩
  | replied old => exact replaced old there fun waits => by cases waits
  | arrived old head =>
      refine replaced old there fun waits => ⟨waits, fun reply => ?_⟩
      rw [head] at reply
      simpa using reply
  | handed old => exact replaced old there fun waits => ⟨waits, id⟩
  | dropped old => exact replaced old there fun waits => ⟨waits, id⟩
  | @performed acting client call operation _ _ _ _ _ _ _ ready _ _ clients delivered =>
      subst delivered
      rw [lookup_performed] at there
      split at there
      · obtain rfl := Option.some.inj there
        unfold ClientThread.after at waiting ⊢
        split at waiting
        case isTrue round =>
          simp [round, ClientThread.await]
        · have still : client.waiting = true := waiting
          rw [ready] at still
          cases still
      · obtain ⟨client, old, rfl⟩ := Option.map_eq_some_iff.mp there
        exact List.mem_append_left _ (ih conn client old waiting)

/-- The steps that a connection takes by itself during a call. -/
inductive Own (conn : Conn) : WorldLabel → Prop where
  | perform (outside : Outside) : Own conn (.perform conn outside)
  | arrive : Own conn (.arrive conn)
  | finish : Own conn (.finish conn)

/-- By itself, the connection can bring the call to its end. -/
def CanReturn (state : World) (conn : Conn) (call : ApiCall) : Prop :=
  ∃ labels next events returned, (∀ label ∈ labels, Own conn label) ∧
    world.exec state labels = some (next, events) ∧ .returned conn call returned ∈ events

theorem CanReturn.of_step {state next : World} {conn : Conn} {call : ApiCall} {label : WorldLabel}
    {emitted : List WorldEvent} (own : Own conn label)
    (transition : World.step state label = some (next, emitted)) (rest : CanReturn next conn call) :
    CanReturn state conn call := by
  obtain ⟨labels, final, events, returned, owned, executed, ended⟩ := rest
  refine ⟨label :: labels, final, emitted ++ events, returned,
    List.forall_mem_cons.mpr ⟨own, owned⟩, ?_, List.mem_append_right _ ended⟩
  simp only [exec, world_step, transition, executed]

/-- One step is a run suffix. -/
theorem World.steps_of_step {state next : World} {label : WorldLabel} {emitted : List WorldEvent}
    (transition : World.step state label = some (next, emitted)) : world.Steps state emitted next :=
  @Steps.single _ _ _ world _ _ label _ transition

/-- A call can return if it can once its reply has arrived. -/
theorem CanReturn.of_arrivals {state : World} {conn : Conn} {client : ClientThread} {call : ApiCall}
    {program : Program (Returned × MsgPortManager)}
    (there : state.clients.lookup conn = some client)
    (active : client.activity = some (call, program))
    (replied : client.waiting = true → .reply ∈ client.inbox)
    (ready : ∀ (next : World) (found : ClientThread), next.daemon = state.daemon →
      world.Steps state [] next → next.clients.lookup conn = some found →
      found.activity = some (call, program) → found.waiting = false → CanReturn next conn call) :
    CanReturn state conn call := by
  -- by induction on what is on the wire before the reply
  induction wire : client.inbox generalizing state client with
  | nil =>
      cases waiting : client.waiting with
      | false => exact ready state client rfl .refl there active waiting
      | true =>
          have reply := replied waiting
          rw [wire] at reply
          cases reply
  | cons head rest ih =>
      cases waiting : client.waiting with
      | false => exact ready state client rfl .refl there active waiting
      | true =>
          cases head with
          | reply =>
              have arrives : World.step state (.arrive conn) =
                  some (state.set conn { client with waiting := false, inbox := rest }, []) := by
                simp only [World.step, there, World.arrive, wire]
              exact .of_step .arrive arrives (ready _ _ rfl (World.steps_of_step arrives)
                (AList.lookup_insert _) active rfl)
          | signal message =>
              have arrives : World.step state (.arrive conn) = some (state.set conn { client with
                  inbox := rest
                  pending := client.pending ++
                    (client.listeners message.service.objectPath).map fun handle =>
                    (handle, message) }, []) := by
                simp only [World.step, there, World.arrive, wire]
              refine .of_step .arrive arrives
                (ih (AList.lookup_insert _) active (fun _ => ?_) ?_ rfl)
              · simpa [wire] using replied waiting
              · intro next found same steps
                exact ready next found same
                  (by simpa using (World.steps_of_step arrives).trans steps)

/-- An operation that can be carried out is the next step of its call. -/
theorem perform_enabled {state : World} {conn : Conn} {client : ClientThread} {call : ApiCall}
    {operation : Operation} {resume : operation.Answer → Program (Returned × MsgPortManager)}
    (there : state.clients.lookup conn = some client)
    (active : client.activity = some (call, .perform operation resume))
    (ready : client.waiting = false) {outside : Outside} (fresh : outside.handle ∉ client.objects)
    {answer : operation.Answer} {events : List Event} {daemon : State}
    (served : serveOperation state.daemon conn operation outside = some (answer, events, daemon)) :
    ∃ next found, World.step state (.perform conn outside) =
        some (next, events.map .daemon ++ proxyEvents conn operation answer) ∧
      next.daemon = daemon ∧ next.clients.lookup conn = some found ∧
      found.activity = some (call, resume answer) := by
  let acted := { client with
    activity := some (call, resume answer), objects := client.objectsAfter operation answer }
  let clients := deliver (state.clients.insert conn acted) (onMessages events)
  refine ⟨⟨daemon, if roundTrip operation then clients.modify conn .await else clients⟩,
    acted.after operation ((onMessages events).filter (·.service.owner = conn)), ?_, rfl, ?_, ?_⟩
  · simp only [World.step, there, active, ready, World.perform, if_neg fresh,
      served, clients, acted]
  · exact (lookup_performed ..).trans (if_pos rfl)
  · exact ClientThread.after_activity ..

/-- Only a registration hands out ids. -/
theorem createdIds_of_serves {state after : State} {conn : Conn} {operation : Operation}
    {answer : operation.Answer} {events : List Event} (sound : Sound state)
    (other : ¬ CreatesPort operation) (served : Serves conn state operation answer events after) :
    createdIds events = [] := by
  cases operation with
  | call request =>
      obtain ⟨open_, choices, outcome, _, _, ran, _, _, rfl, _⟩ := serves_call served
      have sending := sending_of_serve sound open_
        (fun port isTrusted same => other (by rw [same]; trivial)) ran
      refine List.filterMap_eq_nil_iff.mpr fun event member => ?_
      cases event with
      | created service appId => exact (sending _ member).elim
      | _ => rfl
  | _ =>
      obtain ⟨rfl, _⟩ := serves_local (by simp) served
      rfl

/-- An operation leaves a connection its app id. -/
theorem appId_of_serves {state after : State} {conn : Conn} {operation : Operation}
    {answer : operation.Answer} {events : List Event} (sound : Sound state)
    (served : Serves conn state operation answer events after) (open_ : conn ∈ state.dbusManagers) :
    (after.dbusManagers.lookup conn).bind (·.appId) =
      (state.dbusManagers.lookup conn).bind (·.appId) := by
  obtain ⟨dbusManager, found⟩ := HashTable.lookup_isSome_iff.mp (serves_open sound served open_)
  have effect := serves_effect sound served
  rcases effect.came found with ⟨earlier, before, same, _⟩ | ⟨validApp, _, opened⟩
  · rw [found, before]
    exact same
  · exact absurd open_ (effect.connected_new opened)

/-- What a call needs of the daemon from now on. -/
def Unhindered (trace : List WorldEvent) (state : World) (conn : Conn)
    (program : Program (Returned × MsgPortManager)) : Prop :=
  program.Only Local ∨ (0 :: createdIds (daemonEvents trace)).Nodup ∧
    ∃ appId, (state.daemon.dbusManagers.lookup conn).bind (·.appId) = some appId

/-- A call that waits for nothing can return. -/
theorem canReturn_ready {conn : Conn} {call : ApiCall}
    (program : Program (Returned × MsgPortManager)) {trace : List WorldEvent} {state : World}
    (run : world.Runs trace state) {client : ClientThread}
    (there : state.clients.lookup conn = some client)
    (active : client.activity = some (call, program)) (ready : client.waiting = false)
    (orderly : Orderly program) (unhindered : Unhindered trace state conn program) :
    CanReturn state conn call := by
  induction program generalizing trace state client with
  | done result =>
      obtain ⟨returned, manager⟩ := result
      have finishes : World.step state (.finish conn) = some (state.set conn
          { client with manager := manager, activity := none },
          [.returned conn call returned]) := by
        simp only [World.step, there, active, ready]
      exact ⟨[.finish conn], _, _, returned, by simpa using .finish, by
        simp only [exec, world_step, finishes]; rfl, by simp⟩
  | perform operation resume ih =>
      have daemonRun := daemon_of_runs run
      have sound := sound_of_runs daemonRun
      have open_ := open_of_runs run conn client there
      obtain ⟨fresh, unused⟩ := Infinite.exists_notMem_finset client.objects.keys.toFinset
      have intact : Local operation ∨ Sound state.daemon ∧ Registry state.daemon ∧
          conn ∈ state.daemon.dbusManagers ∧
          ∃ appId, (state.daemon.dbusManagers.lookup conn).bind (·.appId) = some appId := by
        rcases unhindered with only | ⟨unique, known⟩
        · exact .inl only.1
        · exact .inr ⟨sound, registry_of_runs daemonRun unique, open_, known⟩
      obtain ⟨answer, events, daemon, served⟩ := operation_served operation orderly.1 intact fresh
      obtain ⟨next, found, transition, same, now, activity⟩ :=
        perform_enabled there active ready (by simpa [AList.mem_keys] using unused) served
      have later := run.trans (World.steps_of_step transition)
      refine .of_step (.perform _) transition
        (.of_arrivals now activity (reply_of_runs later conn found now) ?_)
      intro final left unchanged arrivals back continuing free
      refine ih answer (later.trans arrivals) back continuing free (orderly.2.2 answer) ?_
      rcases unhindered with only | ⟨unique, known⟩
      · exact .inl (only.2 answer)
      · by_cases creates : CreatesPort operation
        · exact .inl (orderly.2.1 creates answer)
        · refine .inr ⟨?_, ?_⟩
          · simpa [createdIds_of_serves sound creates ⟨_, served⟩] using unique
          · rw [unchanged, same, appId_of_serves sound ⟨_, served⟩ open_]
            exact known

/-- At any time, a call in progress of a client whose app id is known can return:
its own connection brings it there, whatever the other clients do or do not, as
long as no id was handed out twice. -/
theorem call_returns {trace : List WorldEvent} {state : World} (run : world.Runs trace state)
    (unique : (0 :: createdIds (daemonEvents trace)).Nodup) {conn : Conn} {client : ClientThread}
    (there : state.clients.lookup conn = some client) {call : ApiCall}
    {program : Program (Returned × MsgPortManager)}
    (active : client.activity = some (call, program)) {appId : String}
    (known : (state.daemon.dbusManagers.lookup conn).bind (·.appId) = some appId) :
    CanReturn state conn call := by
  refine .of_arrivals there active (reply_of_runs run conn client there) ?_
  intro next found unchanged arrivals now continuing ready
  have orderly := orderly_of_runs run conn client there call program active
  refine canReturn_ready program (run.trans arrivals) now continuing ready orderly
    (.inr ⟨?_, appId, ?_⟩)
  · simpa using unique
  · rw [unchanged]
    exact known

/-- A client that waits for the reply to a lookup. -/
theorem call_returns_waiting : ∃ trace state client call, world.Runs trace state ∧
    state.clients.lookup 0 = some client ∧ client.waiting = true ∧ CanReturn state 0 call := by
  obtain ⟨trace, state, run, accepted⟩ := @Runs.of_exec _ _ _ world
    [.connect 0 (.pid 1 (some "app")) none,
      .begin 0 (.checkRemotePort (some "app") (some "port") false),
      .perform 0 ⟨.benign, none, 0⟩]
    (fun state trace => (0 :: createdIds (daemonEvents trace)).Nodup ∧
      (state.daemon.dbusManagers.lookup 0).bind (·.appId) = some "app" ∧
      (state.clients.lookup 0).any
        (fun client => client.waiting ∧ client.activity.isSome) = true) (by decide)
  obtain ⟨unique, known, busy⟩ := of_decide_eq_true accepted
  simp only [Option.any_eq_true, decide_eq_true_eq] at busy
  obtain ⟨client, there, waiting, busy⟩ := busy
  obtain ⟨⟨call, program⟩, active⟩ := Option.isSome_iff_exists.mp busy
  exact ⟨trace, state, client, call, run, there, waiting,
    call_returns run unique there active known⟩

end MessagePort.Session
