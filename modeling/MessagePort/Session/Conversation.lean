import MessagePort.Session.Arrivals

/-!
# Conversations

A bidirectional message is sent from a port of its sender, which its callback is told.
That port is there and heard when the message is emitted, so an answer to what the
callback is told arrives.
-/

namespace MessagePort.Session

open Daemon Client Logical Semantics

/-- No message is sent on a port. -/
def OffPort (operation : Operation) : Prop :=
  ∀ path remoteServiceId data, operation ≠ .call (.serviceSendMessage path remoteServiceId data)

/-- Without the local port nothing is sent. -/
theorem sendBidirectionalMessage_offPort {manager : MsgPortManager} {id : Gint}
    (missing : (manager.getLocalPort id).1 = none) (appId port : Option String) (isTrusted : Bool)
    (data : VariantMap) :
    (manager.sendBidirectionalMessage id appId port isTrusted data).Only OffPort := by
  unfold MsgPortManager.sendBidirectionalMessage
  split
  · trivial
  split
  · trivial
  rcases found : manager.getLocalPort id with ⟨_ | service, left⟩
  · trivial
  · rw [found] at missing
    cases missing

/-- A bidirectional send is on a port that its client hears, or sends nothing. -/
def SendsHeard (client : ClientThread) : Prop :=
  ∀ id appId port isTrusted message program,
    client.activity = some (.sendBidirectionalMessage id appId port isTrusted message, program) →
      client.Hears id ∨ program.Only OffPort

/-- Every bidirectional send in progress is so. -/
theorem sendsHeard_of_runs {trace : List WorldEvent} {state : World} (run : world.Runs trace state)
    (regular : Regular (daemonEvents trace)) :
    ∀ conn client, state.clients.lookup conn = some client → SendsHeard client := by
  refine @EventSystem.Runs.invariant_of _ _ _ world (fun trace => Regular (daemonEvents trace))
    regular_of_append
    (fun trace state => ∀ conn client, state.clients.lookup conn = some client →
      SendsHeard client) ?_ ?_ _ _ run regular
  · intro conn client there
    cases there
  intro trace before label after emitted prior ih transition regular conn found now id appId port
    isTrusted message program active
  have moves := World.step_cases transition
  have earlier := regular_of_append regular
  have hearing {client : ClientThread} (there : before.clients.lookup conn = some client)
      (hears : client.Hears id) :
      found.Hears id :=
    (moves.changes there (open_of_runs prior conn client there) now).hears
      (accounted_of_runs prior earlier conn client there) hears
  cases moves.came (open_of_runs prior) now with
  | connected _ _ _ new =>
      rw [new] at active
      cases active
  | stayed there _ activity =>
      exact (ih conn _ there _ _ _ _ _ _ (activity.symm.trans active)).imp_left (hearing there)
  | @began client call there idle activity =>
      obtain ⟨rfl, rfl⟩ := Prod.mk.inj (Option.some.inj (activity.symm.trans active))
      cases existing : (client.manager.getLocalPort id).1 with
      | some service =>
          obtain ⟨_, _, hears⟩ := localPort_of_idle prior earlier there idle existing
          exact .inl (hearing there hears)
      | none =>
          refine .inr (Interaction.Only.bind ?_ fun _ => trivial)
          exact sendBidirectionalMessage_offPort existing appId port isTrusted _
  | performed there busy _ _ activity =>
      obtain ⟨rfl, rfl⟩ := Prod.mk.inj (Option.some.inj (activity.symm.trans active))
      exact (ih conn _ there _ _ _ _ _ _ busy).imp (hearing there) fun only => only.2 _
  | finished _ _ idle =>
      rw [idle] at active
      cases active

/-- When a bidirectional message is emitted, the port it is sent from is heard. -/
theorem hears_of_perform {trace sent : List WorldEvent} {before next : World}
    (run : world.Runs trace before) (regular : Regular (daemonEvents trace)) {conn : Conn}
    {client : ClientThread} {id : Gint} {appId port : Option String} {isTrusted : Bool}
    {bundle : Option Bundle} {program : Program (Returned × MsgPortManager)} {outside : Outside}
    (there : before.clients.lookup conn = some client)
    (active : client.activity =
      some (.sendBidirectionalMessage id appId port isTrusted bundle, program))
    (moves : Moves before (.perform conn outside) sent next) {message : OnMessage}
    (emitted : .daemon (.emitted message) ∈ sent) : client.Hears id := by
  rcases sendsHeard_of_runs run regular conn client there _ _ _ _ _ _ active with hears | only
  · exact hears
  obtain ⟨request, resume, rfl, _, asked⟩ := sent_of_perform run there active moves emitted
  have follows := lists_of_runs run regular conn client there
  simp only [Follows, active] at follows
  have allowed : OnPort id (.call request) := follows.2.1
  cases asked with
  | manager => exact allowed.elim
  | service => exact absurd rfl (only.1 _ _ _)

/-- What a callback is told of a bidirectional message finds the port it was sent from,
as long as the connection of its sender is open; and the sender hears that port. -/
theorem told_stands {trace sent between : List WorldEvent} {before next start : World}
    (run : world.Runs trace before) {conn : Conn} {client : ClientThread} {id : Gint}
    {appId port : Option String} {isTrusted : Bool} {bundle : Option Bundle}
    {program : Program (Returned × MsgPortManager)} {outside : Outside}
    (there : before.clients.lookup conn = some client)
    (active : client.activity =
      some (.sendBidirectionalMessage id appId port isTrusted bundle, program))
    (transition : world.step before (.perform conn outside) = some (next, sent))
    {message : OnMessage} (emitted : .daemon (.emitted message) ∈ sent)
    (onward : world.Steps next between start) {receiver : Conn} {invocation : Invocation}
    (handed : .handed receiver message invocation ∈ between)
    (regular : Regular (daemonEvents (trace ++ (sent ++ between))))
    (identified : Identified (daemonEvents trace)) (connected : .daemon (.closed conn) ∉ between) :
    ∃ senderId name listening, invocation.remoteAppId = some senderId ∧
      invocation.remotePort = some name ∧
      Stands start.daemon conn senderId name invocation.trustedMessage id ∧
      start.clients.lookup conn = some listening ∧ listening.Hears id := by
  have moves : Moves before (.perform conn outside) sent next := World.step_cases transition
  have daemonRun := daemon_of_runs run
  have earlier := regular_of_append regular
  obtain ⟨⟨dbusManager, found, sender⟩, owned⟩ :=
    sentOn_of_perform run earlier there active moves emitted
  obtain ⟨senderId, known, nonempty⟩ := identified.appId daemonRun found
  have still : .daemon (.closed conn) ∉ sent ++ between := by
    intro closed
    rcases List.mem_append.mp closed with now | later
    · exact (moves.spares (sound_of_runs daemonRun)).2 (fun other => WorldLabel.noConfusion) conn
        (mem_daemonEvents.mpr now)
    · exact connected later
  have whole := (EventSystem.Steps.single transition).trans onward
  have stands := stands_of_steps run whole regular still ⟨⟨dbusManager, found, known⟩, owned⟩
  have hears := hears_of_perform run earlier there active moves emitted
  obtain ⟨listening, now⟩ := client_of_steps whole there still
  obtain ⟨hearing, _⟩ := heard_of_steps run whole regular still there hears now
  obtain ⟨_, _, rfl⟩ := handed_of_steps onward handed
  obtain ⟨_, live⟩ := owned
  obtain ⟨_, made, _⟩ := created_of_live daemonRun live
  refine ⟨senderId, message.remotePort, listening, ?_, if_neg (created_named daemonRun made),
    stands, now, hearing⟩
  simp only [onGotMessage, sender, known, Option.getD_some]
  exact if_neg nonempty

/-- An answer arrives: a message sent one way to what a callback was told of a
bidirectional message is handed over to the sender of that message, or its main loop
will, if the port it was sent from is untrusted and its connection stays open. -/
theorem answer_arrives {trace sent between during later : List WorldEvent}
    {before next start begun last final state : World} (run : world.Runs trace before) {conn : Conn}
    {client : ClientThread} {id : Gint} {appId port : Option String} {isTrusted : Bool}
    {bundle : Option Bundle} {program : Program (Returned × MsgPortManager)} {outside : Outside}
    (there : before.clients.lookup conn = some client)
    (active : client.activity =
      some (.sendBidirectionalMessage id appId port isTrusted bundle, program))
    (transition : world.step before (.perform conn outside) = some (next, sent))
    {message : OnMessage} (emitted : .daemon (.emitted message) ∈ sent)
    (onward : world.Steps next between start) {receiver : Conn} {invocation : Invocation}
    (handed : .handed receiver message invocation ∈ between)
    (untrusted : invocation.trustedMessage = false) {answering : Conn} {answer : Option Bundle}
    (begins : world.step start (.begin answering
      (.sendMessage invocation.remoteAppId invocation.remotePort false answer)) = some (begun, []))
    (sending : world.Steps begun during last)
    (busy : ∀ ended status, .returned answering ended status ∉ during) {ended : ApiCall}
    {status : Returned}
    (ends : world.step last (.finish answering) = some (final, [.returned answering ended status]))
    (afterwards : world.Steps final later state)
    (regular : Regular (daemonEvents (trace ++ (sent ++ (between ++ (during ++ later))))))
    (identified : Identified (daemonEvents (trace ++ (sent ++ (between ++ during)))))
    (connected : .daemon (.closed conn) ∉ between ++ (during ++ later))
    (calling : .daemon (.closed answering) ∉ during) :
    status.value = 0 ∧ ∃ answered ∈ emittedFor conn during, answered.service.id = id ∧
      answered.data = bundleToVariantMap answer ∧
      answered.remoteAppId = appIdOf start.daemon answering ∧
      ∃ labels reached more, (∀ label ∈ labels, MainLoop conn label) ∧
        world.exec state labels = some (reached, more) ∧
        answered ∈ handedBy conn (during ++ (later ++ more)) := by
  simp only [← List.append_assoc] at regular identified
  have sofar := run.trans ((EventSystem.Steps.single transition).trans onward)
  rw [← List.append_assoc] at sofar
  have known : Identified (daemonEvents trace) := by
    simp only [daemonEvents_append, List.append_assoc] at identified
    exact identified.of_append
  obtain ⟨senderId, name, listening, told, named, stands, now, hears⟩ :=
    told_stands run there active transition emitted onward handed
    (by rw [← List.append_assoc]; exact regular_of_append (regular_of_append regular)) known
    fun closed => connected (List.mem_append_left _ closed)
  rw [told, named] at begins
  rw [untrusted] at stands
  exact sent_to_heard sofar now hears stands begins sending busy ends afterwards
    (by rw [← List.append_assoc]; exact regular) identified
    (fun closed => connected (List.mem_append_right _ closed)) calling

/-- The receiver answers what its callback was told. -/
def answerTo : ApiCall := .sendMessage (some "sender") (some "reply") false none

/-- The answer arrives. -/
theorem answer_arrives_reply :
    ∃ state labels reached more during answered, (∀ label ∈ labels, MainLoop 1 label) ∧
    world.exec state labels = some (reached, more) ∧ answered.service.id = 2 ∧
    answered ∈ handedBy 1 (during ++ ([] ++ more)) := by
  obtain ⟨trace, before, run, accepted⟩ := @EventSystem.Runs.of_exec _ _ _ world lookedUp
    (fun before trace => attempts (daemonEvents trace) = [true, true] ∧
      openings (daemonEvents trace) = [(0, some "receiver"), (1, some "sender")] ∧
      (before.clients.lookup 1).any (sendingOn 2) ∧
      (world.step before (.perform 1 ⟨.benign, none, 1⟩)).any fun sent =>
        (world.exec sent.1 [.arrive 0, .dispatch 0, .arrive 1, .finish 1]).any fun start =>
          ((onMessages (daemonEvents sent.2)).any fun message =>
            (invocationsOf message start.2).any fun invocation =>
              invocation.remoteAppId = some "sender" ∧
              invocation.remotePort = some "reply" ∧ invocation.trustedMessage = false) ∧
          (world.step start.1 (.begin 0 answerTo)).any fun begun =>
            (world.exec begun.1 [.perform 0 ⟨.benign, none, 2⟩, .arrive 0,
              .perform 0 ⟨.benign, none, 2⟩, .arrive 0]).any fun sending =>
                attempts (daemonEvents (sent.2 ++ (start.2 ++ sending.2))) = [] ∧
                openings (daemonEvents (sent.2 ++ (start.2 ++ sending.2))) = [] ∧
                .closed 1 ∉ daemonEvents (start.2 ++ sending.2) ∧
                  .closed 0 ∉ daemonEvents sending.2 ∧
                noReturn sending.2 ∧ (world.step sending.1 (.finish 0)).isSome) (by decide)
  obtain ⟨tries, opened, sending, rest⟩ := of_decide_eq_true accepted
  obtain ⟨client, there, busy⟩ := (Option.any_eq_true _ _).mp sending
  obtain ⟨⟨next, sent⟩, transition, rest⟩ := (Option.any_eq_true _ _).mp rest
  obtain ⟨⟨start, between⟩, executed, rest⟩ := (Option.any_eq_true _ _).mp rest
  obtain ⟨told, rest⟩ := of_decide_eq_true rest
  obtain ⟨message, emitted, told⟩ := List.any_eq_true.mp told
  obtain ⟨invocation, member, told⟩ := List.any_eq_true.mp told
  obtain ⟨appId, port, untrusted⟩ := of_decide_eq_true told
  obtain ⟨receiver, handed⟩ := mem_invocationsOf member
  obtain ⟨⟨begun, started⟩, begins, rest⟩ := (Option.any_eq_true _ _).mp rest
  obtain ⟨⟨last, during⟩, evaluated, rest⟩ := (Option.any_eq_true _ _).mp rest
  obtain ⟨none, unopened, hearing, calling, silent, ended⟩ := of_decide_eq_true rest
  obtain ⟨⟨final, status⟩, ends⟩ := Option.isSome_iff_exists.mp ended
  obtain ⟨rfl, _⟩ := client_of_begin begins
  obtain ⟨_, status, rfl⟩ := returned_of_finish ends
  have tried : attempts (daemonEvents (trace ++ (sent ++ (between ++ (during ++ []))))) =
      [true, true] := by
    rw [List.append_nil, daemonEvents_append, attempts_append, tries, none]
    rfl
  have all : openings (daemonEvents (trace ++ (sent ++ (between ++ during)))) =
      [(0, some "receiver"), (1, some "sender")] := by
    rw [daemonEvents_append, openings_append, opened, unopened]
    rfl
  obtain ⟨_, _, _, _, program, active⟩ := active_of_sendingOn busy
  rw [answerTo, ← appId, ← port] at begins
  obtain ⟨_, answered, _, same, _, _, labels, reached, more, own, drained, arrived⟩ :=
    answer_arrives run there active
    transition (mem_daemonEvents.mp (mem_onMessages.mp emitted))
    (EventSystem.Steps.of_exec executed) handed untrusted
    begins (EventSystem.Steps.of_exec evaluated) (not_returned silent) ends .refl
    ⟨by rw [tried]; decide, by rw [tried]; decide⟩ ⟨by rw [all]; decide, by rw [all]; decide⟩
    (by rw [List.append_nil]; exact fun closed => hearing (mem_daemonEvents.mpr closed))
    fun closed => calling (mem_daemonEvents.mpr closed)
  exact ⟨final, labels, reached, more, during, answered, own, drained, same, arrived⟩

end MessagePort.Session
