import MessagePort.Daemon.Frame

/-!
# The sender of a message

A skeleton is exported only for a live service, on the connection of its owner.
A message therefore carries the app id of the connection that asked for it, and
names a port only if that connection owns it.
-/

namespace MessagePort.Safety

open Logical Semantics Daemon

/-- The call with which a connection asked for a message: on its dbus manager,
which has no port, or on a live service of its own. -/
inductive AskedFor (state : State) (conn : Conn) (message : OnMessage) : Request → Prop where
  | manager (noPort : message.remotePort = "") (untrusted : message.remoteIsTrusted = false) :
      AskedFor state conn message (.sendMessage message.service.id message.data)
  | service {addr service} (live : state.services.lookup addr = some service)
      (owned : service.owner = conn) (named : service.portName ≠ "")
      (portName : message.remotePort = service.portName)
      (isTrusted : message.remoteIsTrusted = service.isTrusted) :
      AskedFor state conn message
        (.serviceSendMessage service.objectPath message.service.id message.data)

/-- A message is sent by an open connection: it carries its app id, and the
connection asked for it with this request. -/
structure SentBy (state : State) (conn : Conn) (request : Request) (message : OnMessage) :
    Prop where
  appId : ∃ dbusManager, state.dbusManagers.lookup conn = some dbusManager ∧
    message.remoteAppId = dbusManager.appId
  asked : AskedFor state conn message request

/-- What an answered send emits is the message it was asked for. -/
theorem emitted_of_dispatch {state : State} (sound : Sound state) {serviceId : Guint}
    {data : VariantMap} {appId : Option String} {port : String} {isTrusted : Bool}
    {outcome : Handled Unit} {message : OnMessage}
    (dispatch : Dispatch state serviceId data appId port isTrusted outcome)
    (emitted : .emitted message ∈ outcome.events) :
    message.service.id = serviceId ∧ message.data = data ∧ message.remoteAppId = appId ∧
      message.remotePort = port ∧ message.remoteIsTrusted = isTrusted := by
  have there := mem_onMessages.mpr emitted
  rcases dispatch.onMessages sound with ⟨_, service, _, alone, _, same⟩ | ⟨_, _, silent⟩
  · rw [alone, List.mem_singleton] at there
    rw [there]
    exact ⟨same, rfl, rfl, rfl, rfl⟩
  · rw [silent] at there
    cases there

/-- A request emits only what its connection may send. -/
theorem sentBy_of_serve {trace : List Event} {state : State} (run : system.Runs trace state)
    {conn : Conn} {request : Request} {choices : Choices} {outcome : Handled request.Answer}
    {message : OnMessage} (served : conn ∈ state.dbusManagers)
    (ran : serve state conn request choices = .ok outcome)
    (emitted : .emitted message ∈ outcome.events) : SentBy state conn request message := by
  have sound := sound_of_runs run
  obtain ⟨dbusManager, found⟩ := HashTable.lookup_isSome_iff.mp served
  cases request with
  | registerService port isTrusted =>
      have registration := DbusManager.handleRegisterService_cases sound served ran
      cases registration <;> simp at emitted
  | checkForRemoteService remoteAppId remotePort isTrusted =>
      obtain ⟨_, none⟩ := DbusManager.handleCheckForRemoteService_quiet ran
      rw [none] at emitted
      cases emitted
  | sendMessage serviceId data =>
      have dispatch := DbusManager.handleSendMessage_cases sound served ran
      obtain ⟨rfl, rfl, appId, noPort, untrusted⟩ := emitted_of_dispatch sound dispatch emitted
      refine ⟨⟨dbusManager, found, ?_⟩, .manager noPort untrusted⟩
      rw [appId, found, Option.bind_some]
  | serviceSendMessage path remoteServiceId data =>
      simp only [serve] at ran
      cases exported : state.exports.lookup (conn, path) with
      | none =>
          simp only [exported, Except.ok.injEq] at ran
          subst ran
          cases emitted
      | some addr =>
          obtain ⟨service, live, rfl, rfl⟩ := sound.exported.mp exported
          simp only [exported] at ran
          have dispatch := DbusService.handleSendMessage_cases sound live ran
          obtain ⟨rfl, rfl, appId, portName, isTrusted⟩ :=
            emitted_of_dispatch sound dispatch emitted
          obtain ⟨_, created, _⟩ := created_of_live run live
          refine ⟨⟨dbusManager, found, ?_⟩,
            .service live rfl (created_named run created) portName isTrusted⟩
          rw [appId, found, Option.bind_some]
  | serviceUnregister path =>
      simp only [serve] at ran
      split at ran
      all_goals
        obtain rfl := Except.ok.inj ran
        cases emitted

/-- Every message of a run was emitted for a request of an open connection, which
carries its app id, and names a port of it or none. -/
theorem sender_not_forged {trace : List Event} {state : State} (run : system.Runs trace state) :
    ∀ before message after, trace = before ++ .emitted message :: after →
      ∃ prior there conn request choices next early late,
        system.Runs prior there ∧ conn ∈ there.dbusManagers ∧
        step there (.request conn request choices) =
          some (next, early ++ .emitted message :: late) ∧
        before = prior ++ early ∧ SentBy there conn request message := by
  intro before message after split
  obtain ⟨prior, there, label, next, early, late, _, earlier, transition, _, cause, _⟩ :=
    run.of_event split
  rw [system_step] at transition
  have emitted : .emitted message ∈ early ++ .emitted message :: late := by simp
  by_cases requested : ∃ conn request choices, label = .request conn request choices
  · obtain ⟨conn, request, choices, rfl⟩ := requested
    obtain ⟨served, outcome, ran, _, made⟩ := step_request transition
    rw [← made] at emitted
    exact ⟨prior, there, conn, request, choices, next, early, late, earlier, served,
      transition, cause, sentBy_of_serve earlier served ran emitted⟩
  · have silent := onMessages_of_step transition fun conn request choices same =>
      requested ⟨conn, request, choices, same⟩
    rw [← mem_onMessages, silent] at emitted
    cases emitted

/-- A message sent on a port, and one sent without. -/
theorem sender_not_forged_bothWays : ∃ trace state, system.Runs trace state ∧
    onMessages trace = [⟨⟨1, 0, "port", true⟩, [], some "other", "back", false⟩,
      ⟨⟨2, 1, "back", false⟩, [], some "app", "", false⟩] ∧
    ∀ before message after, trace = before ++ .emitted message :: after →
      ∃ prior there conn request choices next early late,
        system.Runs prior there ∧ conn ∈ there.dbusManagers ∧
        step there (.request conn request choices) =
          some (next, early ++ .emitted message :: late) ∧
        before = prior ++ early ∧ SentBy there conn request message := by
  obtain ⟨trace, state, run, accepted⟩ := @EventSystem.Runs.of_exec _ _ _ system
    [.connect 0 (.pid 1 (some "app")) none, .connect 1 (.pid 2 (some "other")) none,
      .request 0 (.registerService "port" true) .benign,
      .request 1 (.registerService "back" false) { Choices.benign with allocated := 1 },
      .request 1 (.serviceSendMessage "/2" 1 []) .benign, .request 0 (.sendMessage 2 []) .benign]
    (fun _ trace => onMessages trace = [⟨⟨1, 0, "port", true⟩, [], some "other", "back", false⟩,
      ⟨⟨2, 1, "back", false⟩, [], some "app", "", false⟩]) (by decide)
  exact ⟨trace, state, run, of_decide_eq_true accepted, sender_not_forged run⟩

end MessagePort.Safety
