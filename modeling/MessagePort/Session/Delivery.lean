import Mathlib.Data.List.DropRight
import MessagePort.Session.World

/-!
# Messages on their way to a receiver

A port can be sent to as soon as the daemon has it, but its client hears nothing
before it has created the proxy and connected `on-message`. A message that arrives
too early is discarded. `prompt` excludes the steps at which this happens, and
`none_lost_iff_prompt` says that these are the only ones that lose or repeat a message.
-/

namespace MessagePort.Session

open Daemon Client Logical Semantics

/-- A connection is opened. -/
def opens (conn : Conn) : WorldEvent → Bool
  | .daemon (.connected opened _ _) => opened = conn
  | _ => false

/-- The part of a trace since a connection was last opened. -/
def sinceOpened (conn : Conn) (trace : List WorldEvent) : List WorldEvent :=
  trace.rtakeWhile fun event => !opens conn event

/-- The messages among some events that are for the ports of a connection. The
daemon emits a message in the step in which it replies to the sender with success. -/
def emittedFor (conn : Conn) (events : List WorldEvent) : List OnMessage :=
  (onMessages (daemonEvents events)).filter (·.service.owner = conn)

/-- The messages among some events that were passed to a callback of a client. -/
def handedBy (conn : Conn) (events : List WorldEvent) : List OnMessage :=
  events.filterMap fun
    | .handed receiver message _ => if receiver = conn then some message else none
    | _ => none

/-- The signal on the wire, if it is one. -/
def Incoming.message : Incoming → Option OnMessage
  | .signal message => some message
  | .reply => none

/-- What was sent to a client and has not been handed over, in order. -/
def ClientThread.queued (client : ClientThread) : List OnMessage :=
  client.pending.map Prod.snd ++ client.inbox.filterMap Incoming.message

/-- Each message for a connected client is still queued or was handed over once. -/
def NoneLost (trace : List WorldEvent) (state : World) : Prop :=
  ∀ conn client, state.clients.lookup conn = some client →
    (handedBy conn (sinceOpened conn trace) ++ client.queued).Perm
      (emittedFor conn (sinceOpened conn trace))

/-- A signal that arrives finds exactly one proxy on its path, and one that is
emitted on its proxy finds the object there with `on-message` connected. -/
def prompt (world : World) : WorldLabel → Bool
  | .arrive conn =>
      (world.clients.lookup conn).all fun client =>
        match client.inbox with
        | .signal message :: _ => (client.listeners message.service.objectPath).length = 1
        | _ => true
  | .dispatch conn =>
      (world.clients.lookup conn).all fun client =>
        match client.pending with
        | (handle, _) :: _ => (client.objects.lookup handle).any (·.clientCb.isSome)
        | [] => true
  | _ => true

/-! ## What one step moves -/

@[simp] theorem emittedFor_append (conn : Conn) (first second : List WorldEvent) :
    emittedFor conn (first ++ second) = emittedFor conn first ++ emittedFor conn second := by
  simp [emittedFor]

@[simp] theorem handedBy_append (conn : Conn) (first second : List WorldEvent) :
    handedBy conn (first ++ second) = handedBy conn first ++ handedBy conn second :=
  List.filterMap_append

@[simp] theorem handedBy_daemon (conn : Conn) (events : List Event) :
    handedBy conn (events.map .daemon) = [] := by
  simp [handedBy]

@[simp] theorem handedBy_proxy (conn other : Conn) (operation : Operation)
    (answer : operation.Answer) :
    handedBy conn (proxyEvents other operation answer) = [] := by
  unfold proxyEvents
  split <;> rfl

@[simp] theorem emittedFor_daemon (conn : Conn) (events : List Event) :
    emittedFor conn (events.map .daemon) = (onMessages events).filter (·.service.owner = conn) := by
  simp [emittedFor]

@[simp] theorem emittedFor_proxy (conn other : Conn) (operation : Operation)
    (answer : operation.Answer) :
    emittedFor conn (proxyEvents other operation answer) = [] := by
  simp [emittedFor]

/-- Events that do not open the connection add to what happened since. -/
theorem sinceOpened_append {conn : Conn} {trace events : List WorldEvent}
    (quiet : ∀ event ∈ events, opens conn event = false) :
    sinceOpened conn (trace ++ events) = sinceOpened conn trace ++ events := by
  unfold sinceOpened List.rtakeWhile
  rw [List.reverse_append, List.takeWhile_append_of_pos, List.reverse_append, List.reverse_reverse]
  intro event member
  rw [quiet event (List.mem_reverse.mp member)]
  rfl

/-- Nothing has happened since the connection was opened just now. -/
theorem sinceOpened_opened {conn : Conn} {trace events : List WorldEvent} (some : events ≠ [])
    (opened : ∀ event ∈ events, opens conn event = true) :
    sinceOpened conn (trace ++ events) = [] := by
  rw [sinceOpened, List.rtakeWhile_eq_nil_iff]
  intro nonempty
  rw [List.getLast_append_of_ne_nil nonempty some, opened _ (List.getLast_mem some)]
  simp

/-- A step opens no connection of a client that is there. -/
theorem Moves.quiet {before after : World} {label : WorldLabel} {emitted : List WorldEvent}
    {conn : Conn} (sound : Sound before.daemon) (moves : Moves before label emitted after)
    (open_ : conn ∈ before.daemon.dbusManagers) : ∀ event ∈ emitted, opens conn event = false := by
  intro event member
  cases event with
  | daemon event =>
      cases event with
      | connected opened appId validApp =>
          by_cases same : opened = conn
          · subst same
            have inside : .connected opened appId validApp ∈ daemonEvents emitted :=
              List.mem_filterMap.mpr ⟨_, member, rfl⟩
            exact absurd open_ ((moves.effect sound).connected_new inside)
          · simp [opens, same]
      | _ => rfl
  | _ => rfl

theorem ClientThread.receive_queued (client : ClientThread) (messages : List OnMessage) :
    (client.receive messages).queued = client.queued ++ messages := by
  have signals : (messages.map Incoming.signal).filterMap Incoming.message = messages := by
    simp [List.filterMap_map, Function.comp_def, Incoming.message]
  simp [queued, receive, signals]

theorem ClientThread.after_queued (acted : ClientThread) (operation : Operation)
    (messages : List OnMessage) :
    (acted.after operation messages).queued = acted.queued ++ messages := by
  unfold ClientThread.after
  split
  · rw [← receive_queued]
    simp [queued, await, Incoming.message]
  · exact receive_queued acted messages

/-- A step that is prompt moves messages from the daemon to the queue, and from the
head of the queue to the callback. -/
theorem Moves.queued {before after : World} {label : WorldLabel} {emitted : List WorldEvent}
    {conn : Conn} {client found : ClientThread} (moves : Moves before label emitted after)
    (promptly : prompt before label = true) (there : before.clients.lookup conn = some client)
    (open_ : conn ∈ before.daemon.dbusManagers) (now : after.clients.lookup conn = some found) :
    client.queued ++ emittedFor conn emitted = handedBy conn emitted ++ found.queued := by
  -- the client is as it was, and nothing is for it
  have kept (same : before.clients.lookup conn = some found) (sent : emittedFor conn emitted = [])
      (handed : handedBy conn emitted = []) :
      client.queued ++ emittedFor conn emitted = handedBy conn emitted ++ found.queued := by
    obtain rfl := Option.some.inj (there.symm.trans same)
    rw [sent, handed, List.append_nil, List.nil_append]
  -- a step of one client concerns this one, or leaves it as it was
  have replaced {other : Conn} {old new : ClientThread}
      (was : before.clients.lookup other = some old)
      (left : (before.set other new).clients.lookup conn = some found)
      (sent : emittedFor conn emitted = []) (handed : other ≠ conn → handedBy conn emitted = [])
      (moved : other = conn → old.queued = handedBy conn emitted ++ new.queued) :
      client.queued ++ emittedFor conn emitted = handedBy conn emitted ++ found.queued := by
    rcases lookup_set_some.mp left with ⟨rfl, rfl⟩ | ⟨different, left⟩
    · obtain rfl := Option.some.inj (was.symm.trans there)
      rw [sent, List.append_nil, moved rfl]
    · exact kept left sent (handed fun same => different same.symm)
  cases moves with
  | refused transition =>
      exact kept now (by simp [onMessages_of_step transition]) (handedBy_daemon _ _)
  | connected transition =>
      rw [HashTable.lookup_insert_eq, if_neg] at now
      · exact kept now (by simp [onMessages_of_step transition]) (handedBy_daemon _ _)
      · rintro rfl
        exact connect_fresh transition open_
  | disconnected transition =>
      obtain ⟨_, now⟩ := HashTable.lookup_erase_some.mp now
      exact kept now (by simp [onMessages_of_step transition]) (handedBy_daemon _ _)
  | @performed other acting call operation resume outside answer events daemon old _ _ _ _
      clients delivered =>
      subst delivered
      rw [lookup_performed] at now
      rw [emittedFor_append, emittedFor_daemon, emittedFor_proxy, handedBy_append, handedBy_daemon,
        handedBy_proxy, List.append_nil, List.append_nil, List.nil_append]
      split at now
      case isTrue same =>
        subst same
        obtain rfl := Option.some.inj now
        obtain rfl := Option.some.inj (old.symm.trans there)
        rw [ClientThread.after_queued]
        rfl
      · rw [there] at now
        obtain rfl := Option.some.inj now
        rw [ClientThread.receive_queued]
  | began old => exact replaced old now rfl (fun _ => rfl) fun _ => rfl
  | finished old => exact replaced old now rfl (fun _ => rfl) fun _ => rfl
  | replied old head =>
      refine replaced old now rfl (fun _ => rfl) fun _ => ?_
      rw [ClientThread.queued, head]
      rfl
  | @arrived other _ message rest old head =>
      refine replaced old now rfl (fun _ => rfl) fun _ => ?_
      simp only [prompt, old, head, Option.all_some, decide_eq_true_eq] at promptly
      obtain ⟨handle, one⟩ := List.length_eq_one_iff.mp promptly
      simp [ClientThread.queued, head, one, Incoming.message, handedBy]
  | handed old head =>
      refine replaced old now rfl (fun different => ?_) fun same => ?_
      · simp [handedBy, different]
      · simp [ClientThread.queued, head, handedBy, same]
  | @dropped other dropping handle message rest old head unheard =>
      -- the object would have been there
      simp only [prompt, old, head, Option.all_some, Option.any_eq_true,
        Option.isSome_iff_exists] at promptly
      obtain ⟨⟨path, id, _⟩, object, clientCb, rfl⟩ := promptly
      exact absurd object (unheard path id clientCb)

/-- A client that was not there has just connected. -/
theorem Moves.appeared {trace : List WorldEvent} {before after : World} {label : WorldLabel}
    {emitted : List WorldEvent} {conn : Conn} {found : ClientThread} (run : world.Runs trace before)
    (moves : Moves before label emitted after) (missing : before.clients.lookup conn = none)
    (now : after.clients.lookup conn = some found) :
    found = .new ∧ emitted ≠ [] ∧ ∀ event ∈ emitted, opens conn event = true := by
  have gone {client : ClientThread} (there : before.clients.lookup conn = some client) : False := by
    rw [missing] at there
    cases there
  cases moves.came (open_of_runs run) now with
  | connected connects served all new =>
      subst all
      have sound := sound_of_runs (daemon_of_runs run)
      obtain ⟨dbusManager, managed⟩ := HashTable.lookup_isSome_iff.mp served
      refine ⟨new, ?_, ?_⟩
      · rcases (step_effect sound connects).1.came managed with ⟨_, old, _⟩ | ⟨_, _, opened⟩
        · exact absurd (HashTable.lookup_isSome_iff.mpr ⟨_, old⟩) (connect_fresh connects)
        · simpa using List.ne_nil_of_mem opened
      · intro event member
        obtain ⟨emission, inside, rfl⟩ := List.mem_map.mp member
        obtain ⟨_, _, rfl⟩ := connect_events connects emission inside
        simp [opens]
  | stayed there => exact (gone there).elim
  | began there => exact (gone there).elim
  | performed there => exact (gone there).elim
  | finished there => exact (gone there).elim

/-! ## Runs -/

/-- In a run whose steps are prompt, what was emitted for a client was handed over
up to some point, and the rest is queued in order. -/
theorem in_order_of_runs {trace : List WorldEvent} {state : World}
    (run : (world.restrict prompt).Runs trace state) {conn : Conn} {client : ClientThread}
    (there : state.clients.lookup conn = some client) :
    emittedFor conn (sinceOpened conn trace) =
      handedBy conn (sinceOpened conn trace) ++ client.queued := by
  revert client
  refine @EventSystem.Runs.invariant _ _ _ (world.restrict prompt) (fun trace state => ∀ {client},
    state.clients.lookup conn = some client → emittedFor conn (sinceOpened conn trace) =
      handedBy conn (sinceOpened conn trace) ++ client.queued) ?_ ?_ _ _ run
  · intro client there
    cases there
  intro trace before label after emitted prior ih transition found now
  obtain ⟨promptly, transition⟩ := EventSystem.restrict_step transition
  have moves := World.step_cases transition
  have unrestricted := EventSystem.Steps.of_restrict prior
  have sound := sound_of_runs (daemon_of_runs unrestricted)
  cases there : before.clients.lookup conn with
  | some client =>
      have open_ := open_of_runs unrestricted conn client there
      rw [sinceOpened_append (moves.quiet sound open_), emittedFor_append,
        handedBy_append, ih there, List.append_assoc, List.append_assoc,
        moves.queued promptly there open_ now]
  | none =>
      obtain ⟨rfl, some, opened⟩ := moves.appeared unrestricted there now
      rw [sinceOpened_opened some opened]
      rfl

/-- No message is lost or handed over twice while all steps are prompt. -/
theorem noneLost_of_runs {trace : List WorldEvent} {state : World}
    (run : (world.restrict prompt).Runs trace state) : NoneLost trace state := by
  intro conn client there
  rw [in_order_of_runs run there]

/-- A signal that arrives at any other number of proxies is lost or repeated. -/
theorem listeners_of_noneLost {trace : List WorldEvent} {before : World} {conn : Conn}
    {client : ClientThread} {message : OnMessage} {rest : List Incoming}
    (run : (world.restrict prompt).Runs trace before)
    (there : before.clients.lookup conn = some client)
    (head : client.inbox = .signal message :: rest)
    (kept : NoneLost trace (before.set conn { client with
      inbox := rest
      pending := client.pending ++
        (client.listeners message.service.objectPath).map fun handle => (handle, message) })) :
    (client.listeners message.service.objectPath).length = 1 := by
  have same := (kept conn _ (lookup_set_some.mpr (.inl ⟨rfl, rfl⟩))).length_eq
  rw [in_order_of_runs run there] at same
  simp only [ClientThread.queued, head, Incoming.message, List.filterMap_cons, List.length_append,
    List.length_map, List.length_cons] at same
  omega

/-- A signal that is emitted without a handler is lost. -/
theorem dropped_of_noneLost {trace : List WorldEvent} {before : World} {conn : Conn}
    {client : ClientThread} {handle : Handle} {message : OnMessage}
    {rest : List (Handle × OnMessage)} (run : (world.restrict prompt).Runs trace before)
    (there : before.clients.lookup conn = some client)
    (head : client.pending = (handle, message) :: rest)
    (kept : NoneLost trace (before.set conn { client with pending := rest })) : False := by
  have same := (kept conn _ (lookup_set_some.mpr (.inl ⟨rfl, rfl⟩))).length_eq
  rw [in_order_of_runs run there] at same
  simp only [ClientThread.queued, head, List.map_cons, List.length_append, List.length_map,
    List.length_cons] at same
  omega

/-- No message is lost or handed over twice while all steps are prompt, and the
first step that is not prompt loses one or hands one over twice. -/
theorem none_lost_iff_prompt {trace : List WorldEvent} {state : World}
    (run : (world.restrict prompt).Runs trace state) :
    NoneLost trace state ∧ ∀ label next emitted, world.step state label = some (next, emitted) →
      (NoneLost (trace ++ emitted) next ↔ prompt state label = true) := by
  refine ⟨noneLost_of_runs run, fun label next emitted transition =>
    ⟨fun kept => ?_, fun promptly => ?_⟩⟩
  · cases World.step_cases transition with
    | replied there head => simp [prompt, there, head]
    | arrived there head =>
        rw [List.append_nil] at kept
        simpa [prompt, there, head] using listeners_of_noneLost run there head kept
    | handed there head object => simp [prompt, there, head, object]
    | dropped there head =>
        rw [List.append_nil] at kept
        exact (dropped_of_noneLost run there head kept).elim
    | _ => rfl
  · have permitted : (world.restrict prompt).step state label = some (next, emitted) := by
      simp only [EventSystem.restrict, if_pos promptly, transition]
    exact noneLost_of_runs (run.snoc permitted)

/-- A receiver and a sender connect, and the daemon creates the receiver's port. -/
def portCreated : List WorldLabel :=
  [.connect 0 (.pid 1 (some "receiver")) none, .connect 1 (.pid 2 (some "sender")) none,
    .begin 0 (.registerLocalPort (some "port") false (some 7) []), .perform 0 ⟨.benign, none, 0⟩]

/-- The sender looks the port up and sends to it. -/
def sent : List WorldLabel :=
  [.begin 1 (.sendMessage (some "receiver") (some "port") false none),
    .perform 1 ⟨.benign, none, 0⟩, .arrive 1, .perform 1 ⟨.benign, none, 0⟩]

/-- The receiver gets the reply, creates the proxy and connects `on-message`. -/
def callbackConnected : List WorldLabel :=
  [.arrive 0, .perform 0 ⟨.benign, none, 0⟩, .arrive 0, .perform 0 ⟨.benign, none, 1⟩]

/-- A message that is handed over, as `none_lost_iff_prompt` reads it. -/
theorem none_lost_iff_prompt_handed : ∃ trace state, (world.restrict prompt).Runs trace state ∧
    (handedBy 0 (sinceOpened 0 trace)).length = 1 ∧ NoneLost trace state := by
  obtain ⟨trace, state, run, accepted⟩ := @EventSystem.Runs.of_exec _ _ _ (world.restrict prompt)
    (portCreated ++ callbackConnected ++ sent ++ [.arrive 0, .dispatch 0])
    (fun _ trace => (handedBy 0 (sinceOpened 0 trace)).length = 1) (by decide)
  exact ⟨trace, state, run, of_decide_eq_true accepted, (none_lost_iff_prompt run).1⟩

/-- A message that arrives before the receiver has created its proxy is lost. -/
theorem message_lost : ¬ ∀ trace state, world.Runs trace state → NoneLost trace state := by
  intro none
  obtain ⟨trace, state, run, accepted⟩ := @EventSystem.Runs.of_exec _ _ _ world
    (portCreated ++ sent ++ [.arrive 0, .arrive 0])
    (fun state trace => (handedBy 0 (sinceOpened 0 trace)).length = 0 ∧
      (emittedFor 0 (sinceOpened 0 trace)).length = 1 ∧
      (state.clients.lookup 0).any fun client => client.queued.length = 0) (by decide)
  obtain ⟨handed, emitted, left⟩ := of_decide_eq_true accepted
  obtain ⟨client, there, empty⟩ : ∃ client, state.clients.lookup 0 = some client ∧
      client.queued.length = 0 := by
    simpa only [Option.any_eq_true, decide_eq_true_eq] using left
  have kept := (none trace state run 0 client there).length_eq
  rw [List.length_append] at kept
  omega

end MessagePort.Session
