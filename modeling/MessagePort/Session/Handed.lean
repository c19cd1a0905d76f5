import MessagePort.Client.Codec
import MessagePort.Session.Callbacks

/-!
# From a send to a callback

Everything that a callback is told was sent to its port by a client: with a call that
names the port, with the data of that call, and under the app id of the sender. The
callback is one that the receiver passed for this port.
-/

namespace MessagePort.Session

open Daemon Client Logical Semantics

/-- A client sent the message, with a call that names its port and the app id under
which the connection is known; the connection was open then and has been since. -/
inductive Sent (trace : List WorldEvent) (state : World) (conn : Conn) (message : OnMessage) :
    Prop where
  | sent {earlier emitted later : List WorldEvent} {before next : World} {sender : Conn}
      {client : ClientThread}
      {call : ApiCall} {program : Program (Returned × MsgPortManager)} {outside : Outside}
      {kind : SendKind} {bundle : Option Bundle} {appId : String} {dbusManager : DbusManager}
      (run : world.Runs earlier before) (there : before.clients.lookup sender = some client)
      (active : client.activity = some (call, program))
      (transition : world.step before (.perform sender outside) = some (next, emitted))
      (member : .daemon (.emitted message) ∈ emitted) (steps : world.Steps next later state)
      (whole : trace = earlier ++ (emitted ++ later)) (sends : sendOf call = some (kind, bundle))
      (target : targetOf call = (some appId, some message.service.portName,
        message.service.isTrusted)) (receiver : HasAppId before.daemon appId conn)
      (still : ∀ event ∈ emitted ++ later, opens conn event = false)
      (data : message.data = bundleToVariantMap bundle)
      (identity : before.daemon.dbusManagers.lookup sender = some dbusManager)
      (carried : message.remoteAppId = dbusManager.appId)
      (anonymous : message.remotePort = "" ↔ kind = .oneWay) : Sent trace state conn message

/-- What was sent stays so, as long as the connection is open. -/
theorem Sent.step {trace emitted : List WorldEvent} {before after : World} {label : WorldLabel}
    {conn : Conn} {message : OnMessage} (sent : Sent trace before conn message)
    (transition : world.step before label = some (after, emitted))
    (quiet : ∀ event ∈ emitted, opens conn event = false) :
    Sent (trace ++ emitted) after conn message := by
  obtain ⟨run, there, active, performs, member, steps, rfl, sends, target, receiver,
    still, data, identity, carried, anonymous⟩ := sent
  refine .sent run there active performs member (steps.snoc transition) ?_ sends target receiver
    ?_ data identity carried anonymous
  · simp only [List.append_assoc]
  · intro event among
    rcases List.mem_append.mp among with now | later
    · exact still event (List.mem_append_left _ now)
    · rcases List.mem_append.mp later with old | new
      · exact still event (List.mem_append_right _ old)
      · exact quiet event new

/-- The port of a message that was sent had been created. -/
theorem Sent.created {trace : List WorldEvent} {state : World} {conn : Conn} {message : OnMessage}
    (sent : Sent trace state conn message) :
    ∃ appId, .created message.service appId ∈ daemonEvents trace := by
  obtain ⟨run, _, _, performs, member, _, rfl, _⟩ := sent
  have daemonRun := daemon_of_runs run
  rw [world_step] at performs
  have effect := (World.step_cases performs).effect (sound_of_runs daemonRun)
  obtain ⟨addr, live⟩ := effect.emitted_live (mem_daemonEvents.mpr member)
  obtain ⟨dbusManager, made, _⟩ := created_of_live daemonRun live
  refine ⟨dbusManager.appId, ?_⟩
  rw [daemonEvents_append]
  exact List.mem_append_left _ made

/-- A message is sent in the step that emits it. -/
theorem sent_of_emitted {trace emitted : List WorldEvent} {before next : World}
    (run : world.Runs trace before) (unique : (0 :: createdIds (daemonEvents trace)).Nodup)
    {sender : Conn} {client : ClientThread} {call : ApiCall}
    {program : Program (Returned × MsgPortManager)} {outside : Outside}
    (there : before.clients.lookup sender = some client)
    (active : client.activity = some (call, program))
    (transition : world.step before (.perform sender outside) = some (next, emitted))
    {message : OnMessage} (member : .daemon (.emitted message) ∈ emitted) :
    Sent (trace ++ emitted) next message.service.owner message := by
  have moves : Moves before (.perform sender outside) emitted next := World.step_cases transition
  have daemonRun := daemon_of_runs run
  have sound := sound_of_runs daemonRun
  obtain ⟨sending, appId, target, made⟩ := addressed_of_perform run unique there active moves member
  obtain ⟨⟨kind, bundle⟩, sends⟩ := Option.isSome_iff_exists.mp sending
  obtain ⟨⟨dbusManager, identity, carried⟩, anonymous, _, data⟩ :=
    carried_of_perform run there active sends moves member
  -- the connection of the port has the app id that the port was created for
  obtain ⟨addr, live⟩ := (moves.effect sound).emitted_live (mem_daemonEvents.mpr member)
  obtain ⟨owner, made', found⟩ := created_of_live daemonRun live
  obtain ⟨_, known⟩ := created_inj (List.nodup_cons.mp unique).2 made made' rfl
  refine .sent run there active transition member .refl (by simp) sends target
    ⟨owner, found, known.symm⟩ ?_ data identity carried anonymous
  rw [List.append_nil]
  exact moves.quiet sound (sound.liveOpen live)

/-! ## The queue of a client -/

/-- At most one object listens on a path. -/
theorem Alone.listeners {client : ClientThread} (alone : Alone client) (path : ObjectPath) :
    (client.listeners path).length ≤ 1 := by
  have distinct : (client.listeners path).Nodup := client.objects.keys_nodup.filter _
  have same {handle other : Handle} (first : handle ∈ client.listeners path)
      (second : other ∈ client.listeners path) : handle = other := by
    obtain ⟨object, there, placed⟩ := (Option.any_eq_true _ _).mp (List.mem_filter.mp first).2
    obtain ⟨found, there', placed'⟩ := (Option.any_eq_true _ _).mp (List.mem_filter.mp second).2
    exact alone handle other object found there there'
      ((of_decide_eq_true placed).trans (of_decide_eq_true placed').symm)
  rcases shape : client.listeners path with _ | ⟨handle, _ | ⟨other, rest⟩⟩
  · exact Nat.zero_le _
  · exact Nat.le_refl _
  · rw [shape] at distinct same
    have equal := same List.mem_cons_self (List.mem_cons_of_mem _ List.mem_cons_self)
    exact absurd (equal ▸ List.mem_cons_self) (List.nodup_cons.mp distinct).1

/-- A step takes messages from the head of the queue of a client, to hand them over or
not, and adds what is emitted for it behind the others. -/
theorem Changes.queued_sublist {before after : State} {conn : Conn} {client found : ClientThread}
    {emitted : List WorldEvent} (changes : Changes before after conn client emitted found)
    (alone : Alone client) :
    (handedBy conn emitted ++ found.queued).Sublist (client.queued ++ emittedFor conn emitted) := by
  cases changes with
  | same past sent =>
      rw [past.handed, sent, List.append_nil]
      exact List.Sublist.refl _
  | received past =>
      rw [past.handed, ClientThread.receive_queued]
      exact List.Sublist.refl _
  | performed =>
      rw [(passesBy_performed _ _ _ _ _).handed, ClientThread.after_queued]
      exact List.Sublist.refl _
  | began => exact List.sublist_append_left _ _
  | finished => exact List.sublist_append_left _ _
  | replied _ head =>
      rw [ClientThread.queued, ClientThread.queued, head]
      exact List.sublist_append_left _ _
  | @arrived message rest _ head =>
      have one := alone.listeners message.service.objectPath
      refine List.Sublist.trans ?_ (List.sublist_append_left _ _)
      simp only [ClientThread.queued, head, Incoming.message, List.map_append, List.map_map,
        List.append_assoc, List.filterMap_cons, handedBy, List.filterMap_nil, List.nil_append]
      -- the signal is queued for the object on its path, if there is one
      rcases shape : client.listeners message.service.objectPath with _ | ⟨_, _ | _⟩
      · exact (List.Sublist.refl _).append (List.sublist_cons_self _ _)
      · exact List.Sublist.refl _
      · rw [shape] at one
        simp at one
  | handed _ head =>
      refine List.Sublist.trans ?_ (List.sublist_append_left _ _)
      simp [ClientThread.queued, head, handedBy]
  | dropped _ head =>
      refine List.Sublist.trans ?_ (List.sublist_append_left _ _)
      rw [ClientThread.queued, ClientThread.queued, head]
      exact List.sublist_cons_self _ _

/-- Messages are handed over in the order in which they were emitted, and none twice.
Some may be lost on the way. -/
theorem handed_in_order {trace : List WorldEvent} {state : World} (run : world.Runs trace state)
    (regular : Regular (daemonEvents trace)) {conn : Conn} {client : ClientThread}
    (there : state.clients.lookup conn = some client) :
    (handedBy conn (sinceOpened conn trace) ++ client.queued).Sublist
      (emittedFor conn (sinceOpened conn trace)) := by
  revert client
  refine @EventSystem.Runs.invariant_of _ _ _ world (fun trace => Regular (daemonEvents trace))
    regular_of_append (fun trace state => ∀ {client}, state.clients.lookup conn = some client →
      (handedBy conn (sinceOpened conn trace) ++ client.queued).Sublist
        (emittedFor conn (sinceOpened conn trace))) ?_ ?_ _ _ run regular
  · intro client there
    cases there
  intro trace before label after emitted prior ih transition regular found now
  have moves := World.step_cases transition
  have sound := sound_of_runs (daemon_of_runs prior)
  cases there : before.clients.lookup conn with
  | some client =>
      have open_ := open_of_runs prior conn client there
      have accounted := accounted_of_runs prior (regular_of_append regular) conn client there
      rw [sinceOpened_append (moves.quiet sound open_), emittedFor_append, handedBy_append,
        List.append_assoc]
      have moved := (moves.changes there open_ now).queued_sublist accounted.alone
      have taken := (List.Sublist.refl (handedBy conn (sinceOpened conn trace))).append moved
      rw [← List.append_assoc _ client.queued] at taken
      exact taken.trans ((ih there).append (List.Sublist.refl _))
  | none =>
      obtain ⟨rfl, some, opened⟩ := moves.appeared prior there now
      rw [sinceOpened_opened some opened]
      exact List.Sublist.refl _

/-- Two messages are sent to a port. The first arrives before the proxy is there. -/
def firstLost : List WorldLabel :=
  portCreated ++ sent ++ [.arrive 0, .arrive 0, .perform 0 ⟨.benign, none, 0⟩, .arrive 0,
    .perform 0 ⟨.benign, none, 1⟩, .arrive 1, .finish 1] ++ sent ++ [.arrive 0, .dispatch 0]

/-- The second is handed over. -/
theorem handed_in_order_firstLost : ∃ trace state, ∃ client : ClientThread, world.Runs trace state ∧
    (emittedFor 0 (sinceOpened 0 trace)).length = 2 ∧
    (handedBy 0 (sinceOpened 0 trace)).length = 1 ∧
    (handedBy 0 (sinceOpened 0 trace) ++ client.queued).Sublist
      (emittedFor 0 (sinceOpened 0 trace)) := by
  obtain ⟨trace, state, run, accepted⟩ := @EventSystem.Runs.of_exec _ _ _ world firstLost
    (fun state trace => attempts (daemonEvents trace) = [true] ∧ (state.clients.lookup 0).isSome ∧
      (emittedFor 0 (sinceOpened 0 trace)).length = 2 ∧
      (handedBy 0 (sinceOpened 0 trace)).length = 1) (by decide)
  obtain ⟨tries, present, emitted, handed⟩ := of_decide_eq_true accepted
  obtain ⟨client, there⟩ := Option.isSome_iff_exists.mp present
  have regular : Regular (daemonEvents trace) := ⟨by rw [tries]; decide, by rw [tries]; decide⟩
  exact ⟨trace, state, client, run, emitted, handed, handed_in_order run regular there⟩

/-! ## Where queued messages come from -/

/-- Only a call sends messages. -/
theorem Moves.emits {before after : World} {label : WorldLabel} {emitted : List WorldEvent}
    (moves : Moves before label emitted after) {message : OnMessage}
    (member : .daemon (.emitted message) ∈ emitted) :
    ∃ conn client call program outside, label = .perform conn outside ∧
      before.clients.lookup conn = some client ∧ client.activity = some (call, program) := by
  have silent {events : List Event} (none : onMessages events = [])
      (member : .daemon (.emitted message) ∈ events.map WorldEvent.daemon) : False := by
    obtain ⟨event, among, same⟩ := List.mem_map.mp member
    obtain rfl := WorldEvent.daemon.inj same
    have there := mem_onMessages.mpr among
    rw [none] at there
    cases there
  cases moves with
  | refused transition => exact (silent (onMessages_of_step transition (by simp)) member).elim
  | connected transition => exact (silent (onMessages_of_step transition (by simp)) member).elim
  | disconnected transition => exact (silent (onMessages_of_step transition (by simp)) member).elim
  | performed there active => exact ⟨_, _, _, _, _, rfl, there, active⟩
  | finished => cases List.mem_singleton.mp member
  | handed => cases List.mem_singleton.mp member
  | _ => cases member

/-- What is queued for a client was sent to it, since its connection was opened. -/
theorem sent_of_runs {trace : List WorldEvent} {state : World} (run : world.Runs trace state)
    (regular : Regular (daemonEvents trace)) :
    ∀ conn client, state.clients.lookup conn = some client → ∀ message ∈ client.queued,
      message.service.owner = conn ∧ Sent trace state conn message := by
  refine @EventSystem.Runs.invariant_of _ _ _ world (fun trace => Regular (daemonEvents trace))
    regular_of_append
    (fun trace state => ∀ conn client, state.clients.lookup conn = some client →
      ∀ message ∈ client.queued,
      message.service.owner = conn ∧ Sent trace state conn message) ?_ ?_ _ _ run regular
  · intro conn client there
    cases there
  intro trace before label after emitted prior ih transition regular conn found now message queued
  have moves := World.step_cases transition
  have earlier := regular_of_append regular
  cases there : before.clients.lookup conn with
  | none =>
      obtain ⟨rfl, _⟩ := moves.appeared prior there now
      cases queued
  | some client =>
      have open_ := open_of_runs prior conn client there
      have quiet := moves.quiet (sound_of_runs (daemon_of_runs prior)) open_
      have alone := (accounted_of_runs prior earlier conn client there).alone
      have among := ((moves.changes there open_ now).queued_sublist alone).subset
        (List.mem_append_right _ queued)
      rcases List.mem_append.mp among with was | emits
      · obtain ⟨owner, sent⟩ := ih conn client there message was
        exact ⟨owner, sent.step transition quiet⟩
      · obtain ⟨member, owner⟩ := List.mem_filter.mp emits
        obtain rfl := of_decide_eq_true owner
        have inside := mem_daemonEvents.mp (mem_onMessages.mp member)
        obtain ⟨sender, acting, call, program, outside, rfl, was, active⟩ := moves.emits inside
        exact ⟨rfl, sent_of_emitted prior (earlier.nodup (daemon_of_runs prior)) was active
          transition inside⟩

/-! ## Callbacks -/

/-- A callback and its arguments, traced back to the registration and to the send. The
bundle has the texts of the one that was sent, in their order. -/
structure Traced (trace : List WorldEvent) (state : World) (conn : Conn) (message : OnMessage)
    (invocation : Invocation) : Prop where
  owner : message.service.owner = conn
  callback : ∃ cb, invocation = onGotMessage message.service.id cb message ∧
    HasPassed trace state conn message.service.portName message.service.isTrusted cb
  sent : Sent trace state conn message
  texts : ∀ bundle, message.data = bundleToVariantMap bundle →
    invocation.message.entries = ((bundle.map (·.entries)).getD []).filter (·.2.isString)

/-- Whenever a callback runs, its client passed it for the port of the message, and
some client sent the message there. -/
theorem handed_traced {trace emitted : List WorldEvent} {before after : World}
    (run : world.Runs trace before) (regular : Regular (daemonEvents trace)) {label : WorldLabel}
    (transition : world.step before label = some (after, emitted)) {conn : Conn}
    {message : OnMessage} {invocation : Invocation}
    (handed : .handed conn message invocation ∈ emitted) :
    Traced trace before conn message invocation := by
  have daemonRun := daemon_of_runs run
  have unique := regular.nodup daemonRun
  have moves := World.step_cases transition
  obtain ⟨client, handle, object, cb, there, head, held, stored, rfl⟩ : ∃ client handle object cb,
      before.clients.lookup conn = some client ∧ (handle, message) ∈ client.pending ∧
        client.objects.lookup handle = some object ∧ object.clientCb = some cb ∧
        invocation = onGotMessage object.id cb message := by
    cases moves with
    | handed there head object =>
        cases List.mem_singleton.mp handed
        exact ⟨_, _, _, _, there, head ▸ List.mem_cons_self, object, rfl, rfl⟩
    | finished => cases List.mem_singleton.mp handed
    | performed =>
        rcases List.mem_append.mp handed with daemon | proxy
        · simp at daemon
        · unfold proxyEvents at proxy
          split at proxy <;> simp at proxy
    | refused => simp at handed
    | connected => simp at handed
    | disconnected => simp at handed
    | _ => cases handed
  have accounted := accounted_of_runs run regular conn client there
  have queued : message ∈ client.queued :=
    List.mem_append_left _ (List.mem_map.mpr ⟨_, head, rfl⟩)
  obtain ⟨owner, sent⟩ := sent_of_runs run regular conn client there message queued
  obtain ⟨path, name, isTrusted, ⟨addr, live⟩, passed⟩ := accounted.heard held stored
  -- the object is on the path of the message, so it is that of the port it was sent to
  obtain ⟨found, present, placed⟩ := accounted.placed _ head
  obtain rfl := Option.some.inj (held.symm.trans present)
  have same : object.id = message.service.id := objectPathOf_inj.mp (path.symm.trans placed)
  obtain ⟨dbusManager, made, _⟩ := created_of_live daemonRun live
  obtain ⟨appId, made'⟩ := sent.created
  obtain ⟨port, _⟩ := created_inj (List.nodup_cons.mp unique).2 made' made same.symm
  refine ⟨owner, ⟨cb, by rw [same], ?_⟩, sent, fun bundle data => ?_⟩
  · rw [port]
    exact passed
  · rw [onGotMessage, data]
    cases bundle with
    | none => rfl
    | some bundle => exact decode_encode bundle

/-- The message of a one-way send is on its way to the callback. -/
def sentOneWay : List WorldLabel := lookedUpOneWay ++ [.perform 1 ⟨.benign, none, 1⟩, .arrive 0]

/-- It is traced back when it is handed over. -/
theorem handed_traced_oneWay : ∃ trace before receiver message invocation,
    invocation.callback = 7 ∧ Traced trace before receiver message invocation := by
  obtain ⟨trace, before, run, accepted⟩ := @EventSystem.Runs.of_exec _ _ _ world sentOneWay
    (fun before trace => attempts (daemonEvents trace) = [true] ∧
      (world.step before (.dispatch 0)).any fun next =>
        (handedBy 0 next.2).any fun message => (invocationsOf message next.2).any fun invocation =>
          invocation.callback = 7) (by decide)
  obtain ⟨tries, rest⟩ := of_decide_eq_true accepted
  obtain ⟨⟨next, emitted⟩, transition, rest⟩ := (Option.any_eq_true _ _).mp rest
  obtain ⟨message, _, rest⟩ := List.any_eq_true.mp rest
  obtain ⟨invocation, member, callback⟩ := List.any_eq_true.mp rest
  obtain ⟨receiver, handed⟩ := mem_invocationsOf member
  have regular : Regular (daemonEvents trace) := ⟨by rw [tries]; decide, by rw [tries]; decide⟩
  exact ⟨trace, before, receiver, message, invocation, of_decide_eq_true callback,
    handed_traced run regular transition handed⟩

end MessagePort.Session
