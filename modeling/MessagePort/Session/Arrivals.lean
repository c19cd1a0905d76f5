import MessagePort.Session.Addressed
import MessagePort.Session.Delivered
import MessagePort.Session.Status

/-!
# Calls that name a port

While a port is there, every call that names it finds it, and a send to it is reported
as it went, whatever other clients do between the steps of the call. A message that is
sent one way to an untrusted port, after the registration of the port has returned,
arrives.
-/

namespace MessagePort.Session

open Daemon Client Logical Semantics

/-- The app id, name and trust flag by which a port is found, and its id. -/
structure PortKey where
  appId : String
  name : String
  isTrusted : Bool
  id : Guint

/-- A send to the port succeeds, and the port was sent to, or is refused for the
certificate. -/
def SendAnswer (port : PortKey) (answer : Except GError Unit) (sent : Bool) : Prop :=
  (answer = .ok () ∧ sent = true) ∨
    (port.isTrusted = true ∧ ∃ error, answer = .error error ∧
      msgportDaemonErrorToError error = .ioError)

/-- How a lookup of the port and a send of the data to it are answered, the latter on a
path of the client if it is bidirectional. The flag is whether the port was sent to. -/
def AnswersFor (port : PortKey) (own : ObjectPath → Prop) (data : VariantMap) (before : Bool) :
    (operation : Operation) → operation.Answer → Bool → Prop
  | .call (.checkForRemoteService appId name isTrusted), answer, after =>
      appId = port.appId ∧ name = port.name ∧ isTrusted = port.isTrusted →
        answer = .ok port.id ∧ after = before
  | .call (.sendMessage serviceId carried), answer, after =>
      serviceId = port.id ∧ carried = data → SendAnswer port answer after
  | .call (.serviceSendMessage path serviceId carried), answer, after =>
      own path ∧ serviceId = port.id ∧ carried = data → SendAnswer port answer after
  | _, _, _ => True

/-- A call that names the port, and to send bidirectionally a local port of its client. -/
def NamesPort (port : PortKey) (manager : MsgPortManager) : ApiCall → Prop
  | .checkRemotePort appId name isTrusted =>
      appId = some port.appId ∧ name = some port.name ∧ isTrusted = port.isTrusted
  | .sendMessage appId name isTrusted _ =>
      appId = some port.appId ∧ name = some port.name ∧ isTrusted = port.isTrusted
  | .sendBidirectionalMessage id appId name isTrusted _ =>
      (appId = some port.appId ∧ name = some port.name ∧ isTrusted = port.isTrusted) ∧
        0 < id.toInt ∧ (manager.getLocalPort id).1.isSome
  | _ => False

/-- What a call that sends has to send. -/
def dataOf (call : ApiCall) : VariantMap :=
  (sendOf call).elim [] fun sends => bundleToVariantMap sends.2

/-- A check finds the port. A send succeeds if the port was sent to, and if not the port
is trusted and the send fails. -/
def Reports (port : PortKey) (call : ApiCall) (returned : Returned) (sent : Prop) : Prop :=
  match call with
  | .checkRemotePort _ _ _ => returned.value = 0 ∧ returned.exist = some true
  | _ => (returned.value = 0 ∧ sent) ∨ (port.isTrusted = true ∧ returned.value = -1)

theorem Reports.mono {port : PortKey} {call : ApiCall} {returned : Returned} {sent other : Prop}
    (reports : Reports port call returned sent) (weaken : sent → other) :
    Reports port call returned other := by
  unfold Reports at *
  split at reports
  · exact reports
  · exact reports.imp_left fun both => ⟨both.1, weaken both.2⟩

/-! ## What the calls do with these answers -/

section Programs

variable {port : PortKey} {own : ObjectPath → Prop} {data : VariantMap} {manager : MsgPortManager}

theorem checkRemoteService_answers (connected : manager.proxy = true) (view : Bool) :
    (manager.checkRemoteService (some port.appId) (some port.name) port.isTrusted).wp
      (AnswersFor port own data) (fun out after => out = (.none, port.id) ∧ after = view) view := by
  unfold MsgPortManager.checkRemoteService
  rw [if_neg (by simp [connected])]
  intro answer after served
  obtain ⟨rfl, rfl⟩ := served ⟨rfl, rfl, rfl⟩
  exact ⟨rfl, rfl⟩

/-- The status of a send, if the port was sent to. -/
def SendStatus (port : PortKey) (status : MessageportError) (sent : Bool) : Prop :=
  (status = .none ∧ sent = true) ∨ (port.isTrusted = true ∧ status = .ioError)

theorem sendMessage_answers (connected : manager.proxy = true) (nonzero : port.id ≠ 0)
    (view : Bool) :
    (manager.sendMessage (some port.appId) (some port.name) port.isTrusted data).wp
      (AnswersFor port own data) (SendStatus port) view := by
  unfold MsgPortManager.sendMessage
  rw [if_neg (by simp [connected]), if_neg (by simp)]
  apply Interaction.wp_bind
  refine Interaction.wp_mono ?_ (checkRemoteService_answers connected view)
  rintro ⟨err, serviceId⟩ after ⟨found, rfl⟩
  obtain ⟨rfl, rfl⟩ := Prod.mk.inj found
  dsimp only
  rw [if_neg nonzero]
  intro answer sent served
  rcases served ⟨rfl, rfl⟩ with ⟨rfl, delivered⟩ | ⟨trusted, error, rfl, reported⟩
  · exact .inl ⟨rfl, delivered⟩
  · exact .inr ⟨trusted, reported⟩

theorem sendBidirectionalMessage_answers (connected : manager.proxy = true) {localPortId : Gint}
    (positive : 0 < localPortId.toInt) {service : MsgPortService}
    (existing : (manager.getLocalPort localPortId).1 = some service) (mine : own service.path)
    (view : Bool) :
    (manager.sendBidirectionalMessage localPortId (some port.appId)
      (some port.name) port.isTrusted data).wp
      (AnswersFor port own data) (fun out sent => SendStatus port out.1 sent) view := by
  have still : (manager.getLocalPort localPortId).2.proxy = true := by
    unfold MsgPortManager.getLocalPort
    split
    · exact connected
    · split <;> exact connected
  unfold MsgPortManager.sendBidirectionalMessage
  rw [if_neg (by simp [connected]), if_neg (by simp [positive])]
  rcases found : manager.getLocalPort localPortId with ⟨_ | other, left⟩
  · rw [found] at existing
    cases existing
  · rw [found] at existing still
    obtain rfl := Option.some.inj existing
    apply Interaction.wp_bind
    refine Interaction.wp_mono ?_ (checkRemoteService_answers still view)
    rintro ⟨err, remoteServiceId⟩ after ⟨looked, rfl⟩
    obtain ⟨rfl, rfl⟩ := Prod.mk.inj looked
    dsimp only
    rw [if_pos rfl]
    apply Interaction.wp_bind
    intro answer sent served
    rcases served ⟨mine, rfl, rfl⟩ with ⟨rfl, delivered⟩ | ⟨trusted, error, rfl, reported⟩
    · exact .inl ⟨rfl, delivered⟩
    · exact .inr ⟨trusted, reported⟩

/-- A call that names the port reports what became of it. -/
theorem program_answers (connected : manager.proxy = true) (nonzero : port.id ≠ 0) {call : ApiCall}
    (names : NamesPort port manager call)
    (mine : ∀ localPortId service, (manager.getLocalPort localPortId).1 = some service →
      own service.path) :
    (call.program manager).wp (AnswersFor port own (dataOf call))
      (fun out sent => Reports port call out.1 (sent = true)) false := by
  have reported {status : MessageportError} {sent : Bool} (ended : SendStatus port status sent) :
      (status.code = 0 ∧ sent = true) ∨ (port.isTrusted = true ∧ status.code = -1) := by
    rcases ended with ⟨rfl, delivered⟩ | ⟨trusted, rfl⟩
    · exact .inl ⟨rfl, delivered⟩
    · exact .inr ⟨trusted, rfl⟩
  cases call with
  | checkRemotePort appId name isTrusted =>
      obtain ⟨rfl, rfl, rfl⟩ := names
      apply Interaction.wp_bind
      apply Interaction.wp_bind
      refine Interaction.wp_mono ?_ (checkRemoteService_answers connected false)
      rintro ⟨res, serviceId⟩ after ⟨found, _⟩
      obtain ⟨rfl, rfl⟩ := Prod.mk.inj found
      exact ⟨rfl, rfl⟩
  | sendMessage appId name isTrusted message =>
      obtain ⟨rfl, rfl, rfl⟩ := names
      apply Interaction.wp_bind
      refine Interaction.wp_mono ?_ (sendMessage_answers connected nonzero false)
      exact fun status sent ended => reported ended
  | sendBidirectionalMessage id appId name isTrusted message =>
      obtain ⟨⟨rfl, rfl, rfl⟩, positive, existing⟩ := names
      obtain ⟨service, existing⟩ := Option.isSome_iff_exists.mp existing
      apply Interaction.wp_bind
      refine Interaction.wp_mono ?_ (sendBidirectionalMessage_answers connected positive existing
        (mine id service existing) false)
      rintro ⟨status, left⟩ sent ended
      exact reported ended
  | _ => exact names.elim

end Programs

/-! ## What the daemon answers -/

/-- The app id under which the daemon knows a connection. -/
def appIdOf (daemon : State) (conn : Conn) : Option String :=
  (daemon.dbusManagers.lookup conn).bind (·.appId)

/-- A request to send to a port that is there is answered so. -/
theorem sendAnswer_of_dispatch {state : State} (sound : Sound state) {port : PortKey} {owner : Conn}
    {addr : Addr}
    (live : state.services.lookup addr = some ⟨port.id, owner, port.name, port.isTrusted⟩)
    (nonzero : port.id ≠ 0) {data : VariantMap} {appId : Option String} {portName : String}
    {isTrusted : Bool} {outcome : Handled Unit}
    (dispatch : Dispatch state port.id data appId portName isTrusted outcome)
    {reply : Except GError Unit} {path : ObjectPath} {rest : List (Except GError Unit)}
    (replied : outcome.replies path = reply :: rest) :
    ∃ sent, SendAnswer port (decodeReply reply) sent ∧
      (sent = true → ∃ message ∈ onMessages outcome.events,
      message.service = ⟨port.id, owner, port.name, port.isTrusted⟩ ∧ message.data = data ∧
        message.remoteAppId = appId) := by
  have cached := sound.liveCached live
  let message : OnMessage :=
    ⟨⟨port.id, owner, port.name, port.isTrusted⟩, data, appId, portName, isTrusted⟩
  cases dispatch with
  | zero zero => exact absurd zero nonzero
  | missing _ missing =>
      rw [missing] at cached
      cases cached
  | @sent found service after result events _ there live' sending =>
      obtain rfl := Option.some.inj (cached.symm.trans there)
      obtain rfl := Option.some.inj (live.symm.trans live')
      obtain ⟨rfl, -⟩ := List.cons.inj replied
      cases sending with
      | untrusted =>
          exact ⟨true, .inl ⟨rfl, rfl⟩,
            fun _ => ⟨message, mem_onMessages.mpr (by simp [message]), rfl, rfl, rfl⟩⟩
      | accepted =>
          exact ⟨true, .inl ⟨rfl, rfl⟩,
            fun _ => ⟨message, mem_onMessages.mpr (by simp [message]), rfl, rfl, rfl⟩⟩
      | refused trusted =>
          exact ⟨false, .inr ⟨trusted, _, rfl, @statusOf_msgport Unit _ _⟩,
            fun none => by cases none⟩

/-- Every operation of a client is answered so, and what was sent to the port was emitted. -/
theorem answersFor_of_served {trace : List Event} {state after : State}
    (run : system.Runs trace state) (regular : Regular trace) (identified : Identified trace)
    {port : PortKey} {owner : Conn}
    (stands : Stands state owner port.appId port.name port.isTrusted port.id) {conn : Conn}
    {own : ObjectPath → Prop} (mine : ∀ path, own path → (state.exports.lookup (conn, path)).isSome)
    {data : VariantMap} {operation : Operation} {answer : operation.Answer} {outside : Outside}
    {events : List Event}
    (served : serveOperation state conn operation outside = some (answer, events, after))
    (before : Bool) :
    ∃ sent, AnswersFor port own data before operation answer sent ∧ (sent = true → before = true ∨
      ∃ message ∈ onMessages events, message.service = ⟨port.id, owner, port.name, port.isTrusted⟩ ∧
        message.data = data ∧ message.remoteAppId = appIdOf state conn) := by
  have sound := sound_of_runs run
  obtain ⟨addr, live⟩ := stands.port
  have nonzero : port.id ≠ 0 := nonzero_of_live run (regular.nodup run) live
  have unsent : before = true → before = true ∨ ∃ message ∈ onMessages events,
      message.service = ⟨port.id, owner, port.name, port.isTrusted⟩ ∧ message.data = data ∧
        message.remoteAppId = appIdOf state conn := .inl
  cases operation with
  | call request =>
      obtain ⟨open_, choices, outcome, reply, rest, ran, replied, rfl, rfl, rfl⟩ :=
        serves_call ⟨outside, served⟩
      cases request with
      | checkForRemoteService appId name isTrusted =>
          refine ⟨before, ?_, unsent⟩
          rintro ⟨rfl, rfl, rfl⟩
          have found := (reachedAs_of_stands run regular identified stands).found conn choices
          obtain rfl := Except.ok.inj (found.symm.trans ran)
          obtain ⟨rfl, -⟩ := List.cons.inj replied
          exact ⟨rfl, rfl⟩
      | sendMessage serviceId carried =>
          by_cases same : serviceId = port.id ∧ carried = data
          · obtain ⟨rfl, rfl⟩ := same
            have dispatch := DbusManager.handleSendMessage_cases sound open_ ran
            obtain ⟨sent, answered, delivered⟩ :=
              sendAnswer_of_dispatch sound live nonzero dispatch replied
            exact ⟨sent, fun _ => answered, fun did => .inr (delivered did)⟩
          · exact ⟨before, fun named => absurd named same, unsent⟩
      | serviceSendMessage path serviceId carried =>
          by_cases same : own path ∧ serviceId = port.id ∧ carried = data
          · obtain ⟨owned, rfl, rfl⟩ := same
            obtain ⟨peer, exported⟩ := Option.isSome_iff_exists.mp (mine path owned)
            obtain ⟨service, there, rfl, _⟩ := sound.exported.mp exported
            simp only [serve, exported] at ran
            have dispatch := DbusService.handleSendMessage_cases sound there ran
            obtain ⟨sent, answered, delivered⟩ :=
              sendAnswer_of_dispatch sound live nonzero dispatch replied
            exact ⟨sent, fun _ => answered, fun did => .inr (delivered did)⟩
          · exact ⟨before, fun named => absurd named same, unsent⟩
      | _ => exact ⟨before, trivial, unsent⟩
  | _ => exact ⟨before, trivial, unsent⟩

/-! ## The client -/

/-- No call takes the proxy of the daemon away. -/
theorem program_connected {manager : MsgPortManager} (connected : manager.proxy = true)
    (ports : Ports) (call : ApiCall) :
    (call.program manager).wp Might (fun out _ => out.2.proxy = true) ports := by
  by_cases registers : ∃ localPort isTrusted callback visit,
      call = .registerLocalPort localPort isTrusted callback visit
  · obtain ⟨localPort, isTrusted, callback, visit, rfl⟩ := registers
    apply Interaction.wp_bind
    apply Interaction.wp_bind
    refine registerService_might ?_ ?_ ?_
    all_goals
      intros
      exact connected
  · refine Interaction.wp_mono ?_
      (program_wp_quiet might_leaves manager ports fun localPort isTrusted callback visit same =>
        registers ⟨localPort, isTrusted, callback, visit, same⟩)
    rintro ⟨returned, left⟩ _ ⟨same | ⟨id, same⟩, _⟩
    · exact same ▸ connected
    · subst same
      unfold MsgPortManager.getLocalPort
      split
      · exact connected
      · split <;> exact connected

/-- A client between calls has its proxy of the daemon. -/
theorem connected_of_runs {trace : List WorldEvent} {state : World} (run : world.Runs trace state)
    (regular : Regular (daemonEvents trace)) :
    ∀ conn client, state.clients.lookup conn = some client →
      Follows (fun manager _ => manager.proxy = true)
      (fun _ program ports => program.wp Might (fun out _ => out.2.proxy = true) ports)
      state.daemon conn client :=
  follows_of_regular ⟨fun _ => rfl, fun call connected => program_connected connected _ call,
    fun holds might => holds _ _ might, fun holds => holds⟩ run regular

/-- A call ends with its return. -/
theorem Changes.returned {before after : State} {conn : Conn} {client found : ClientThread}
    {emitted : List WorldEvent} (changes : Changes before after conn client emitted found)
    (busy : client.activity ≠ none) (idle : found.activity = none) :
    ∃ call returned, .returned conn call returned ∈ emitted := by
  cases changes with
  | finished => exact ⟨_, _, List.mem_singleton_self _⟩
  | began => cases idle
  | performed =>
      rw [ClientThread.after_activity] at idle
      cases idle
  | _ => exact absurd idle busy

/-! ## Along a run -/

/-- A message with the data was emitted on the port, for a sender with this app id. -/
def WasSent (port : PortKey) (owner : Conn) (sender : Option String) (data : VariantMap)
    (events : List WorldEvent) : Prop :=
  ∃ message ∈ emittedFor owner events,
    message.service = ⟨port.id, owner, port.name, port.isTrusted⟩ ∧
    message.data = data ∧ message.remoteAppId = sender

theorem WasSent.append {port : PortKey} {owner : Conn} {sender : Option String} {data : VariantMap}
    {events emitted : List WorldEvent} (sent : WasSent port owner sender data events) :
    WasSent port owner sender data (events ++ emitted) := by
  obtain ⟨message, member, holds⟩ := sent
  refine ⟨message, ?_, holds⟩
  rw [emittedFor_append]
  exact List.mem_append_left _ member

/-- A call that names the port is in progress, and what is left of it will report what
became of it. -/
structure Underway (port : PortKey) (owner conn : Conn) (sender : Option String)
    (own : ObjectPath → Prop) (call : ApiCall) (events : List WorldEvent) (state : World)
    (client : ClientThread) : Prop where
  known : appIdOf state.daemon conn = sender
  mine : ∀ path, own path → ∃ name isTrusted id, Owns state.daemon conn name isTrusted id ∧
    path = objectPathOf id
  left : ∃ program sent, client.activity = some (call, program) ∧
    program.wp (AnswersFor port own (dataOf call))
      (fun out sent => Reports port call out.1 (sent = true)) sent ∧
    (sent = true → WasSent port owner sender (dataOf call) events)

section Steps

variable {trace events : List WorldEvent} {port : PortKey} {owner conn : Conn}
    {sender : Option String} {own : ObjectPath → Prop} {call : ApiCall}

/-- A step leaves a connection that it does not close its app id. -/
theorem Moves.appIdOf_eq {emitted : List WorldEvent} {before after : World} {label : WorldLabel}
    (moves : Moves before label emitted after) (run : world.Runs trace before)
    (open_ : conn ∈ before.daemon.dbusManagers) (connected : .daemon (.closed conn) ∉ emitted) :
    appIdOf after.daemon conn = appIdOf before.daemon conn := by
  obtain ⟨dbusManager, found⟩ := HashTable.lookup_isSome_iff.mp open_
  have effect := moves.effect (sound_of_runs (daemon_of_runs run))
  obtain ⟨left, there, same⟩ := effect.stays found fun closed =>
    connected (mem_daemonEvents.mp closed)
  rw [appIdOf, appIdOf, found, there]
  exact same

/-- A step of the client or of anyone else brings the call to its next operation, or
leaves it as it was. -/
theorem Underway.step {emitted : List WorldEvent} {before after : World} {label : WorldLabel}
    {client found : ClientThread}
    (underway : Underway port owner conn sender own call events before client)
    (run : world.Runs trace before) (regular : Regular (daemonEvents (trace ++ emitted)))
    (identified : Identified (daemonEvents trace))
    (stands : Stands before.daemon owner port.appId port.name port.isTrusted port.id)
    (moves : Moves before label emitted after) (there : before.clients.lookup conn = some client)
    (now : after.clients.lookup conn = some found) (calling : .daemon (.closed conn) ∉ emitted)
    (busy : ∀ ended returned, .returned conn ended returned ∉ emitted) :
    Underway port owner conn sender own call (events ++ emitted) after found := by
  obtain ⟨known, mine, program, sent, active, reports, reached⟩ := underway
  have open_ := open_of_runs run conn client there
  refine ⟨(moves.appIdOf_eq run open_ calling).trans known, fun path owned => ?_, ?_⟩
  · obtain ⟨name, isTrusted, id, owns, place⟩ := mine path owned
    exact ⟨name, isTrusted, id, owns_kept run regular moves there now owns, place⟩
  cases moves.came (open_of_runs run) now with
  | connected connects => exact absurd open_ (connect_fresh connects)
  | stayed was _ activity =>
      obtain rfl := Option.some.inj (there.symm.trans was)
      exact ⟨program, sent, activity.trans active, reports, fun did => (reached did).append⟩
  | began was idle =>
      obtain rfl := Option.some.inj (there.symm.trans was)
      rw [active] at idle
      cases idle
  | @performed _ _ operation resume outside answer made was busy' served all activity =>
      obtain rfl := Option.some.inj (there.symm.trans was)
      obtain ⟨rfl, rfl⟩ := Prod.mk.inj (Option.some.inj (active.symm.trans busy'))
      have daemonRun := daemon_of_runs run
      have earlier := regular_of_append regular
      have exported : ∀ path, own path → (before.daemon.exports.lookup (conn, path)).isSome := by
        intro path owned
        obtain ⟨_, _, _, ⟨addr, live⟩, rfl⟩ := mine path owned
        exact Option.isSome_iff_exists.mpr
          ⟨addr, (sound_of_runs daemonRun).exported.mpr ⟨_, live, rfl, rfl⟩⟩
      obtain ⟨next, answered, delivered⟩ :=
        @answersFor_of_served _ _ _ daemonRun earlier identified _ _ stands _ _
        exported (dataOf call) _ _ _ _ served sent
      refine ⟨resume answer, next, activity, reports answer next answered, fun did => ?_⟩
      rcases delivered did with old | ⟨message, among, service, data, appId⟩
      · exact (reached old).append
      · refine ⟨message, ?_, service, data, appId.trans known⟩
        rw [emittedFor_append, all, emittedFor_append, emittedFor_daemon]
        refine List.mem_append_right _ (List.mem_append_left _ (List.mem_filter.mpr ⟨among, ?_⟩))
        rw [service]
        exact decide_eq_true rfl
  | finished was ended idle =>
      obtain ⟨other, returned, member⟩ :=
        (moves.changes there open_ now).returned (by simp [active]) idle
      exact absurd member (busy other returned)

/-- Until it returns. -/
theorem underway_of_steps {state last : World} {client found : ClientThread}
    (underway : Underway port owner conn sender own call [] state client)
    (run : world.Runs trace state) (onward : world.Steps state events last)
    (regular : Regular (daemonEvents (trace ++ events)))
    (identified : Identified (daemonEvents (trace ++ events)))
    (stands : Stands state.daemon owner port.appId port.name port.isTrusted port.id)
    (connected : .daemon (.closed owner) ∉ events) (calling : .daemon (.closed conn) ∉ events)
    (busy : ∀ ended returned, .returned conn ended returned ∉ events)
    (there : state.clients.lookup conn = some client)
    (now : last.clients.lookup conn = some found) :
    Underway port owner conn sender own call events last found := by
  induction onward generalizing found with
  | refl =>
      obtain rfl := Option.some.inj (there.symm.trans now)
      exact underway
  | @snoc events middle label last emitted prior transition ih =>
      have reached := run.trans prior
      have moves := World.step_cases transition
      rw [← List.append_assoc] at regular identified
      have earlier := regular_of_append regular
      have known : Identified (daemonEvents (trace ++ events)) := by
        rw [daemonEvents_append] at identified
        exact identified.of_append
      have still : .daemon (.closed owner) ∉ events :=
        fun closed => connected (List.mem_append_left _ closed)
      have still' : .daemon (.closed conn) ∉ events :=
        fun closed => calling (List.mem_append_left _ closed)
      obtain ⟨acting, was⟩ := client_of_steps prior there still'
      have before := ih earlier known still still'
        (fun ended returned member => busy ended returned (List.mem_append_left _ member)) was
      exact before.step reached regular known
        (stands_of_steps run prior earlier still stands) moves was now
        (fun closed => calling (List.mem_append_right _ closed)) fun ended returned member =>
          busy ended returned (List.mem_append_right _ member)

end Steps

/-- The object path of a port of the client. -/
def OwnPath (state : State) (conn : Conn) (path : ObjectPath) : Prop :=
  ∃ name isTrusted id, Owns state conn name isTrusted id ∧ path = objectPathOf id

theorem client_of_begin {before state : World} {conn : Conn} {call : ApiCall}
    {emitted : List WorldEvent}
    (begins : world.step before (.begin conn call) = some (state, emitted)) :
    emitted = [] ∧ ∃ client, before.clients.lookup conn = some client := by
  rw [world_step] at begins
  cases World.step_cases begins with
  | began there => exact ⟨rfl, _, there⟩

/-- A call that begins is underway. -/
theorem underway_of_begins {trace : List WorldEvent} {start state : World}
    (run : world.Runs trace start) (regular : Regular (daemonEvents trace)) {port : PortKey}
    {owner : Conn} (stands : Stands start.daemon owner port.appId port.name port.isTrusted port.id)
    {conn : Conn} {client : ClientThread} {call : ApiCall}
    (there : start.clients.lookup conn = some client) (names : NamesPort port client.manager call)
    (begins : world.step start (.begin conn call) = some (state, [])) :
    ∃ calling, state.clients.lookup conn = some calling ∧ state.daemon = start.daemon ∧
      Underway port owner conn (appIdOf start.daemon conn) (OwnPath start.daemon conn) call
        [] state calling := by
  rw [world_step] at begins
  cases World.step_cases begins with
  | began was idle =>
      obtain rfl := Option.some.inj (there.symm.trans was)
      refine ⟨_, lookup_set_some.mpr (.inl ⟨rfl, rfl⟩), rfl, rfl, fun path owned => owned, _, false,
        rfl, ?_, by simp⟩
      obtain ⟨addr, live⟩ := stands.port
      have daemonRun := daemon_of_runs run
      have connected := connected_of_runs run regular conn client there
      simp only [Follows, idle] at connected
      refine program_answers connected
        (nonzero_of_live daemonRun (regular.nodup daemonRun) live) names ?_
      intro localPortId service existing
      obtain ⟨place, ⟨name, owned⟩, _⟩ := localPort_of_idle run regular there idle existing
      exact ⟨name, _, _, owned, place⟩

/-- A call that names a port is underway until it returns, while the port is there. -/
theorem underway_of_named {trace events : List WorldEvent} {start state last : World}
    (run : world.Runs trace start) {port : PortKey} {owner : Conn}
    (stands : Stands start.daemon owner port.appId port.name port.isTrusted port.id) {conn : Conn}
    {client : ClientThread} {call : ApiCall} (there : start.clients.lookup conn = some client)
    (names : NamesPort port client.manager call)
    (begins : world.step start (.begin conn call) = some (state, []))
    (onward : world.Steps state events last)
    (busy : ∀ ended returned, .returned conn ended returned ∉ events)
    (regular : Regular (daemonEvents (trace ++ events)))
    (identified : Identified (daemonEvents (trace ++ events)))
    (connected : .daemon (.closed owner) ∉ events) (calling : .daemon (.closed conn) ∉ events) :
    ∃ found, last.clients.lookup conn = some found ∧
      Underway port owner conn (appIdOf start.daemon conn) (OwnPath start.daemon conn) call events
        last found := by
  have begun : world.Runs (trace ++ []) state := run.snoc begins
  rw [List.append_nil] at begun
  obtain ⟨acting, here, same, underway⟩ :=
    underway_of_begins run (regular_of_append regular) stands there names begins
  obtain ⟨found, now⟩ := client_of_steps onward here calling
  exact ⟨found, now, underway_of_steps underway begun onward regular identified
    (same ▸ stands) connected calling busy here now⟩

/-- Its return reports what became of it. -/
theorem Underway.reports {events : List WorldEvent} {last final : World} {port : PortKey}
    {owner conn : Conn} {sender : Option String} {own : ObjectPath → Prop} {call ended : ApiCall}
    {returned : Returned} {found : ClientThread}
    (underway : Underway port owner conn sender own call events last found)
    (now : last.clients.lookup conn = some found)
    (ends : world.step last (.finish conn) = some (final, [.returned conn ended returned])) :
    ended = call ∧ Reports port call returned (WasSent port owner sender (dataOf call) events) := by
  obtain ⟨_, _, program, sent, active, reports, reached⟩ := underway
  rw [world_step] at ends
  generalize emits : [WorldEvent.returned conn ended returned] = emitted at ends
  cases World.step_cases ends with
  | finished was completes =>
      cases emits
      obtain rfl := Option.some.inj (now.symm.trans was)
      obtain ⟨rfl, rfl⟩ := Prod.mk.inj (Option.some.inj (active.symm.trans completes))
      exact ⟨rfl, Reports.mono reports reached⟩

/-- A call that names a port which is there from its beginning to its end, finds it: a
check succeeds, and a send is emitted on the port with the app id of its client and
succeeds, unless the port is trusted and the send fails. -/
theorem named_port_reached {trace events : List WorldEvent} {start state last final : World}
    (run : world.Runs trace start) {port : PortKey} {owner : Conn}
    (stands : Stands start.daemon owner port.appId port.name port.isTrusted port.id) {conn : Conn}
    {client : ClientThread} {call : ApiCall} (there : start.clients.lookup conn = some client)
    (names : NamesPort port client.manager call)
    (begins : world.step start (.begin conn call) = some (state, []))
    (onward : world.Steps state events last)
    (busy : ∀ ended returned, .returned conn ended returned ∉ events) {ended : ApiCall}
    {returned : Returned}
    (ends : world.step last (.finish conn) = some (final, [.returned conn ended returned]))
    (regular : Regular (daemonEvents (trace ++ events)))
    (identified : Identified (daemonEvents (trace ++ events)))
    (connected : .daemon (.closed owner) ∉ events) (calling : .daemon (.closed conn) ∉ events) :
    ended = call ∧ Reports port call returned
      (WasSent port owner (appIdOf start.daemon conn) (dataOf call) events) := by
  obtain ⟨found, now, underway⟩ :=
    underway_of_named run stands there names begins onward busy regular identified
    connected calling
  exact underway.reports now ends

theorem openings_append (before after : List Event) :
    openings (before ++ after) = openings before ++ openings after :=
  List.filterMap_append

/-- No call returns. -/
def noReturn (events : List WorldEvent) : Bool :=
  events.all fun
    | .returned _ _ _ => false
    | _ => true

theorem not_returned {events : List WorldEvent} (none : noReturn events = true) {conn : Conn} :
    ∀ ended returned, .returned conn ended returned ∉ events := by
  intro ended returned member
  exact absurd (List.all_eq_true.mp none _ member) (by simp)

/-- The sender sends bidirectionally from its port to that of the receiver. -/
def sentFrom : ApiCall := .sendBidirectionalMessage 2 (some "receiver") (some "port") false none

/-- The port is found, and the message is emitted on it. -/
theorem named_port_reached_bidirectional : ∃ returned events, emittedFor 0 events ≠ [] ∧
    Reports ⟨"receiver", "port", false, 1⟩ sentFrom returned
      (WasSent ⟨"receiver", "port", false, 1⟩ 0 (some "sender") [] events) := by
  obtain ⟨trace, start, run, accepted⟩ := @EventSystem.Runs.of_exec _ _ _ world (lookedUp.take 16)
    (fun start trace => attempts (daemonEvents trace) = [true, true] ∧
      openings (daemonEvents trace) = [(0, some "receiver"), (1, some "sender")] ∧
      (start.daemon.dbusManagers.lookup 0).any (·.appId = some "receiver") ∧
      start.daemon.services.lookup 0 = some ⟨1, 0, "port", false⟩ ∧
      appIdOf start.daemon 1 = some "sender" ∧
      (start.clients.lookup 1).any (fun client => (client.manager.getLocalPort 2).1.isSome) ∧
      (world.step start (.begin 1 sentFrom)).any fun begun =>
        (world.exec begun.1 [.perform 1 ⟨.benign, none, 2⟩, .arrive 1,
          .perform 1 ⟨.benign, none, 2⟩, .arrive 1]).any
          fun sending => attempts (daemonEvents sending.2) = [] ∧
          openings (daemonEvents sending.2) = [] ∧
            .closed 0 ∉ daemonEvents sending.2 ∧ .closed 1 ∉ daemonEvents sending.2 ∧
            noReturn sending.2 ∧
            emittedFor 0 sending.2 ≠ [] ∧ (world.step sending.1 (.finish 1)).isSome) (by decide)
  obtain ⟨tries, opened, found, live, sender, existing, rest⟩ := of_decide_eq_true accepted
  obtain ⟨dbusManager, present, named⟩ := (Option.any_eq_true _ _).mp found
  obtain ⟨client, there, existing⟩ := (Option.any_eq_true _ _).mp existing
  obtain ⟨⟨begun, emitted⟩, begins, rest⟩ := (Option.any_eq_true _ _).mp rest
  obtain ⟨⟨last, events⟩, evaluated, rest⟩ := (Option.any_eq_true _ _).mp rest
  obtain ⟨none, unopened, receiving, sending, busy, some, ended⟩ := of_decide_eq_true rest
  obtain ⟨⟨final, emitted⟩, ends⟩ := Option.isSome_iff_exists.mp ended
  obtain ⟨rfl, _⟩ := client_of_begin begins
  obtain ⟨call, returned, rfl⟩ := returned_of_finish ends
  have tried : attempts (daemonEvents (trace ++ events)) = [true, true] := by
    rw [daemonEvents_append, attempts_append, tries, none]
    rfl
  have all : openings (daemonEvents (trace ++ events)) =
      [(0, Option.some "receiver"), (1, Option.some "sender")] := by
    rw [daemonEvents_append, openings_append, opened, unopened]
    rfl
  have names : NamesPort ⟨"receiver", "port", false, 1⟩ client.manager sentFrom :=
    ⟨⟨rfl, rfl, rfl⟩, by decide, existing⟩
  have reached := named_port_reached run ⟨⟨dbusManager, present, of_decide_eq_true named⟩, 0, live⟩
    there names begins
    (EventSystem.Steps.of_exec evaluated) (not_returned busy) ends
    ⟨by rw [tried]; decide, by rw [tried]; decide⟩
    ⟨by rw [all]; decide, by rw [all]; decide⟩
    (fun closed => receiving (mem_daemonEvents.mpr closed))
    fun closed => sending (mem_daemonEvents.mpr closed)
  rw [sender] at reached
  exact ⟨returned, events, some, reached.2⟩

/-- From the return of its registration on, a port is there and heard. -/
theorem registered_stands {trace between : List WorldEvent} {before registered start : World}
    (run : world.Runs trace before) {owner : Conn} {name : String} {isTrusted : Bool}
    {callback : Option Callback} {visit : List ObjectPath} {returned : Returned}
    (returns : world.step before (.finish owner) = some (registered,
      [.returned owner (.registerLocalPort (some name) isTrusted callback visit) returned]))
    (positive : 0 < returned.value) {appId : String}
    (hasAppId : HasAppId registered.daemon appId owner)
    (onward : world.Steps registered between start)
    (regular : Regular (daemonEvents (trace ++ between)))
    (connected : .daemon (.closed owner) ∉ between) :
    ∃ id listening, returned.value = id.toNat ∧ start.clients.lookup owner = some listening ∧
      listening.Hears id ∧ Stands start.daemon owner appId name isTrusted id := by
  have reached := run.snoc returns
  have whole : Regular (daemonEvents
      ((trace ++ [.returned owner (.registerLocalPort (some name) isTrusted callback visit)
        returned]) ++ between)) := by
    simpa [daemonEvents] using regular
  obtain ⟨waiting, here⟩ := client_of_finish returns
  obtain ⟨id, _, named, value, owned, hears⟩ :=
    hears_of_returned run (regular_of_append regular) returns positive here
  obtain rfl := Option.some.inj named
  obtain ⟨listening, there⟩ := client_of_steps onward here connected
  obtain ⟨hearing, _⟩ := heard_of_steps reached onward whole connected here hears there
  exact ⟨id, listening, value, there, hearing,
    stands_of_steps reached onward whole connected ⟨hasAppId, owned⟩⟩

/-- A message that is sent one way to an untrusted port which is heard arrives. -/
theorem sent_to_heard {trace during later : List WorldEvent} {start begun last final next : World}
    (run : world.Runs trace start) {owner : Conn} {appId name : String} {id : Guint}
    {listening : ClientThread} (there : start.clients.lookup owner = some listening)
    (hears : listening.Hears id) (stands : Stands start.daemon owner appId name false id)
    {conn : Conn} {message : Option Bundle}
    (begins : world.step start (.begin conn (.sendMessage (some appId) (some name) false message)) =
      some (begun, [])) (sending : world.Steps begun during last)
    (busy : ∀ ended status, .returned conn ended status ∉ during) {ended : ApiCall}
    {status : Returned}
    (ends : world.step last (.finish conn) = some (final, [.returned conn ended status]))
    (afterwards : world.Steps final later next)
    (regular : Regular (daemonEvents (trace ++ (during ++ later))))
    (identified : Identified (daemonEvents (trace ++ during)))
    (connected : .daemon (.closed owner) ∉ during ++ later)
    (calling : .daemon (.closed conn) ∉ during) :
    status.value = 0 ∧ ∃ sent ∈ emittedFor owner during, sent.service.id = id ∧
      sent.data = bundleToVariantMap message ∧ sent.remoteAppId = appIdOf start.daemon conn ∧
      ∃ labels reached more, (∀ label ∈ labels, MainLoop owner label) ∧
        world.exec next labels = some (reached, more) ∧
        sent ∈ handedBy owner (during ++ (later ++ more)) := by
  let port : PortKey := ⟨appId, name, false, id⟩
  have still : .daemon (.closed owner) ∉ during :=
    fun closed => connected (List.mem_append_left _ closed)
  have sofar : Regular (daemonEvents (trace ++ during)) := by
    rw [← List.append_assoc] at regular
    exact regular_of_append regular
  -- the call finds the port
  obtain ⟨_, client, calls⟩ := client_of_begin begins
  have names : NamesPort port client.manager
    (.sendMessage (some appId) (some name) false message) := ⟨rfl, rfl, rfl⟩
  obtain ⟨found, now, underway⟩ :=
    @underway_of_named _ _ _ _ _ run port owner stands _ _ _ calls names begins
    sending busy sofar identified still calling
  obtain ⟨rfl, succeeded | ⟨trusted, _⟩⟩ := underway.reports now ends
  · obtain ⟨zero, sent, emitted, service, data, sender⟩ := succeeded
    -- and its owner hears it, as it was emitted after the call began
    let said : List WorldEvent :=
      [.returned conn (.sendMessage (some appId) (some name) false message) status]
    have whole : Regular (daemonEvents (trace ++ ([] ++ (during ++ (said ++ later))))) := by
      simpa [said, daemonEvents] using regular
    have open_ : .daemon (.closed owner) ∉ [] ++ (during ++ (said ++ later)) := by
      simpa [said] using connected
    have onward := (EventSystem.Steps.single begins).trans
      (sending.trans ((EventSystem.Steps.single ends).trans afterwards))
    obtain ⟨labels, reached, more, own, evaluated, delivered⟩ :=
      heard_drains run onward whole open_ there hears
    have among : sent ∈ messagesTo id
        (listening.queued ++ emittedFor owner ([] ++ (during ++ (said ++ later)))) := by
      refine List.mem_filter.mpr ⟨List.mem_append_right _ ?_,
        decide_eq_true (congrArg DbusService.id service)⟩
      rw [List.nil_append, emittedFor_append]
      exact List.mem_append_left _ emitted
    rw [← delivered] at among
    simp only [List.nil_append, handedBy_append, List.append_assoc] at among
    refine ⟨zero, sent, emitted, congrArg DbusService.id service, data, sender, labels, reached,
      more, own, evaluated, ?_⟩
    rw [handedBy_append, handedBy_append]
    exact (List.mem_filter.mp among).1
  · cases trusted

/-- A message that is sent one way to an untrusted port whose registration has returned
arrives: the send succeeds, and when it has, the message was handed over to the owner of
the port, or the main loop of the owner will hand it over, as long as the connection of
the owner stays open. -/
theorem sent_arrives {trace between during later : List WorldEvent}
    {before registered start begun last final next : World} (run : world.Runs trace before)
    {owner : Conn} {name : String} {callback : Option Callback} {visit : List ObjectPath}
    {returned : Returned}
    (returns : world.step before (.finish owner) = some (registered,
      [.returned owner (.registerLocalPort (some name) false callback visit) returned]))
    (positive : 0 < returned.value) {appId : String}
    (hasAppId : HasAppId registered.daemon appId owner)
    (onward : world.Steps registered between start) {conn : Conn} {message : Option Bundle}
    (begins : world.step start (.begin conn (.sendMessage (some appId) (some name) false message)) =
      some (begun, []))
    (sending : world.Steps begun during last)
    (busy : ∀ ended status, .returned conn ended status ∉ during) {ended : ApiCall}
    {status : Returned}
    (ends : world.step last (.finish conn) = some (final, [.returned conn ended status]))
    (afterwards : world.Steps final later next)
    (regular : Regular (daemonEvents (trace ++ (between ++ (during ++ later)))))
    (identified : Identified (daemonEvents (trace ++ (between ++ during))))
    (connected : .daemon (.closed owner) ∉ between ++ (during ++ later))
    (calling : .daemon (.closed conn) ∉ during) :
    status.value = 0 ∧ ∃ sent ∈ emittedFor owner during, returned.value = sent.service.id.toNat ∧
      sent.data = bundleToVariantMap message ∧ sent.remoteAppId = appIdOf start.daemon conn ∧
      ∃ labels reached more, (∀ label ∈ labels, MainLoop owner label) ∧
        world.exec next labels = some (reached, more) ∧
        sent ∈ handedBy owner (during ++ (later ++ more)) := by
  have started : Regular (daemonEvents (trace ++ between)) := by
    rw [← List.append_assoc] at regular
    exact regular_of_append regular
  obtain ⟨id, listening, value, there, hears, stands⟩ :=
    registered_stands run returns positive hasAppId onward started
    fun closed => connected (List.mem_append_left _ closed)
  have reached := (run.snoc returns).trans onward
  have quiet : daemonEvents ((trace ++ [.returned owner
      (.registerLocalPort (some name) false callback visit) returned]) ++ between) =
        daemonEvents (trace ++ between) := by
    simp [daemonEvents]
  obtain ⟨zero, sent, emitted, rfl, data, rest⟩ :=
    sent_to_heard reached there hears stands begins sending busy ends
    afterwards
    (by rw [daemonEvents_append, quiet, ← daemonEvents_append, List.append_assoc]; exact regular)
    (by rw [daemonEvents_append, quiet, ← daemonEvents_append, List.append_assoc]; exact identified)
    (fun closed => connected (List.mem_append_right _ closed)) calling
  exact ⟨zero, sent, emitted, value, data, rest⟩

/-- While the port is sent to, its client registers another one. -/
theorem sent_arrives_busy : ∃ next labels reached more sent, (∀ label ∈ labels, MainLoop 0 label) ∧
    world.exec next labels = some (reached, more) ∧
    (next.clients.lookup 0).any (·.activity.isSome) ∧
    ∃ during, sent ∈ handedBy 0 (during ++ ([] ++ more)) := by
  obtain ⟨trace, before, run, accepted⟩ :=
    @EventSystem.Runs.of_exec _ _ _ world (portCreated ++ callbackConnected)
    (fun before trace => attempts (daemonEvents trace) = [true] ∧
      openings (daemonEvents trace) = [(0, some "receiver"), (1, some "sender")] ∧
      (world.step before (.finish 0)).any fun out =>
        registeredAs out.2 = some (some "port", false, 1) ∧
        (out.1.daemon.dbusManagers.lookup 0).any (·.appId = some "receiver") ∧
        (world.step out.1 (.begin 1
          (.sendMessage (some "receiver") (some "port") false none))).any fun begun =>
          (world.exec begun.1 [.perform 1 ⟨.benign, none, 0⟩, .arrive 1,
            .begin 0 (.registerLocalPort (some "other") false (some 8) []),
            .perform 1 ⟨.benign, none, 0⟩, .arrive 1]).any
            fun sending => attempts (daemonEvents sending.2) = [] ∧
              openings (daemonEvents sending.2) = [] ∧
              .closed 0 ∉ daemonEvents sending.2 ∧ .closed 1 ∉ daemonEvents sending.2 ∧
              noReturn sending.2 ∧ (world.step sending.1 (.finish 1)).any fun final =>
                (final.1.clients.lookup 0).any (·.activity.isSome)) (by decide)
  obtain ⟨tries, opened, rest⟩ := of_decide_eq_true accepted
  obtain ⟨⟨registered, emitted⟩, returns, rest⟩ := (Option.any_eq_true _ _).mp rest
  obtain ⟨value, found, rest⟩ := of_decide_eq_true rest
  obtain ⟨dbusManager, present, named⟩ := (Option.any_eq_true _ _).mp found
  obtain ⟨⟨begun, started⟩, begins, rest⟩ := (Option.any_eq_true _ _).mp rest
  obtain ⟨⟨last, events⟩, evaluated, rest⟩ := (Option.any_eq_true _ _).mp rest
  obtain ⟨none, unopened, receiving, sending, busy, rest⟩ := of_decide_eq_true rest
  obtain ⟨⟨final, ended⟩, ends, calling⟩ := (Option.any_eq_true _ _).mp rest
  obtain ⟨rfl, _⟩ := client_of_begin begins
  obtain ⟨call, returned, rfl⟩ := returned_of_finish returns
  obtain ⟨_, status, rfl⟩ := returned_of_finish ends
  have tried : attempts (daemonEvents (trace ++ ([] ++ (events ++ [])))) = [true] := by
    rw [List.nil_append, List.append_nil, daemonEvents_append, attempts_append, tries, none]
    rfl
  have all : openings (daemonEvents (trace ++ ([] ++ events))) =
      [(0, some "receiver"), (1, some "sender")] := by
    rw [List.nil_append, daemonEvents_append, openings_append, opened, unopened]
    rfl
  cases call with
  | registerLocalPort =>
      obtain ⟨rfl, rfl, value⟩ : _ ∧ _ ∧ returned.value = 1 := by simpa [registeredAs] using value
      obtain ⟨_, sent, _, _, _, _, labels, reached, more, own, drained, handed⟩ :=
        sent_arrives run returns (by omega)
        ⟨dbusManager, present, of_decide_eq_true named⟩ .refl begins
        (EventSystem.Steps.of_exec evaluated)
        (not_returned busy) ends .refl ⟨by rw [tried]; decide, by rw [tried]; decide⟩
        ⟨by rw [all]; decide, by rw [all]; decide⟩
        (by rw [List.nil_append, List.append_nil]; exact fun closed =>
          receiving (mem_daemonEvents.mpr closed))
        fun closed => sending (mem_daemonEvents.mpr closed)
      exact ⟨final, labels, reached, more, sent, own, drained, calling, events, handed⟩
  | _ => cases value

end MessagePort.Session
