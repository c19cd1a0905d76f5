import MessagePort.Session.Handed
import MessagePort.Session.Mirror

/-!
# The main loop of an idle client

Between its calls a client has a proxy, a service object and a callback for every port
that it can be sent messages on. Whatever is queued for it then is handed over by its
main loop, in order and once, however arrivals and dispatches follow each other. Only
during a registration can a message be lost.
-/

namespace MessagePort.Session

open Daemon Client Logical Semantics

/-- A step of the main loop of a client, or of the thread that reads its connection. -/
inductive MainLoop (conn : Conn) : WorldLabel → Prop where
  | arrive : MainLoop conn (.arrive conn)
  | dispatch : MainLoop conn (.dispatch conn)

/-- A port is there as long as the connection of its client. -/
theorem owns_kept {trace emitted : List WorldEvent} {before after : World} {label : WorldLabel}
    (run : world.Runs trace before) (regular : Regular (daemonEvents (trace ++ emitted)))
    (moves : Moves before label emitted after) {conn : Conn} {client found : ClientThread}
    (there : before.clients.lookup conn = some client)
    (now : after.clients.lookup conn = some found) {name : String} {isTrusted : Bool} {id : Guint}
    (owned : Owns before.daemon conn name isTrusted id) :
    Owns after.daemon conn name isTrusted id := by
  have daemonRun := daemon_of_runs run
  cases moves.came (open_of_runs run) now with
  | connected connects => exact absurd (open_of_runs run conn client there) (connect_fresh connects)
  | stayed _ _ _ apart =>
      rw [daemonEvents_append] at regular
      exact apart.owns_eq daemonRun (regular.nodup (daemonRun.trans moves.steps)) ▸ owned
  | began _ _ _ same => exact same ▸ owned
  | finished _ _ _ same => exact same ▸ owned
  | performed _ _ served all =>
      subst all
      exact (might_of_regular run regular served).keeps owned

/-- The port of a queued message is there. -/
theorem port_of_runs {trace : List WorldEvent} {state : World} (run : world.Runs trace state)
    (regular : Regular (daemonEvents trace)) :
    ∀ conn client, state.clients.lookup conn = some client → ∀ message ∈ client.queued,
      Owns state.daemon conn message.service.portName message.service.isTrusted
        message.service.id := by
  refine @EventSystem.Runs.invariant_of _ _ _ world (fun trace => Regular (daemonEvents trace)) ?_
    (fun trace state => ∀ conn client, state.clients.lookup conn = some client →
      ∀ message ∈ client.queued,
      Owns state.daemon conn message.service.portName message.service.isTrusted message.service.id)
    ?_ ?_ _ _ run regular
  · exact regular_of_append
  · intro conn client there
    cases there
  intro trace before label after emitted prior ih transition regular conn found now message queued
  have moves := World.step_cases transition
  have earlier := regular_of_append regular
  cases there : before.clients.lookup conn with
  | none =>
      obtain ⟨rfl, _⟩ := moves.appeared prior there now
      cases queued
  | some client =>
      have open_ := open_of_runs prior conn client there
      refine owns_kept prior regular moves there now ?_
      have alone := (accounted_of_runs prior earlier conn client there).alone
      have among := ((moves.changes there open_ now).queued_sublist alone).subset
        (List.mem_append_right _ queued)
      rcases List.mem_append.mp among with was | emits
      · exact ih conn client there message was
      · obtain ⟨member, owner⟩ := List.mem_filter.mp emits
        obtain rfl := of_decide_eq_true owner
        have inside := mem_daemonEvents.mp (mem_onMessages.mp member)
        obtain ⟨addr, live⟩ := (moves.effect (sound_of_runs (daemon_of_runs prior))).emitted_live
          (mem_daemonEvents.mpr inside)
        exact ⟨addr, live⟩

/-- An idle client has one object with a callback on the path of a queued message. -/
theorem listener_of_idle {trace : List WorldEvent} {state : World} (run : world.Runs trace state)
    (reliable : Reliable trace) {conn : Conn} {client : ClientThread}
    (there : state.clients.lookup conn = some client) (idle : client.activity = none)
    {message : OnMessage} (queued : message ∈ client.queued) : ∃ handle id cb,
      client.objects.lookup handle = some ⟨message.service.objectPath, id, some cb⟩ := by
  have owned := port_of_runs run reliable.daemon conn client there message queued
  have tracks := tracks_of_runs run reliable conn client there
  simp only [Tracks, idle] at tracks
  obtain ⟨handle, held⟩ := tracks.cached owned
  have backed := (accounted_of_runs run reliable.daemon conn client there).between idle
  obtain ⟨cb, object⟩ := backed.object held
  exact ⟨handle, message.service.id, cb, object⟩

/-- So no step of its main loop loses a message. -/
theorem prompt_of_idle {trace : List WorldEvent} {state : World} (run : world.Runs trace state)
    (reliable : Reliable trace) {conn : Conn} {client : ClientThread}
    (there : state.clients.lookup conn = some client) (idle : client.activity = none)
    {label : WorldLabel} (own : MainLoop conn label) : prompt state label = true := by
  have accounted := accounted_of_runs run reliable.daemon conn client there
  cases own with
  | arrive =>
      simp only [prompt, there, Option.all_some]
      rcases head : client.inbox with _ | ⟨message | reply, rest⟩
      · rfl
      · have queued : message ∈ client.queued := by
          rw [ClientThread.queued, head]
          exact List.mem_append_right _ List.mem_cons_self
        obtain ⟨handle, id, cb, object⟩ := listener_of_idle run reliable there idle queued
        have listens : handle ∈ client.listeners message.service.objectPath := by
          refine List.mem_filter.mpr ⟨AList.mem_keys.mp
            (HashTable.lookup_isSome_iff.mpr ⟨_, object⟩), ?_⟩
          simp [object]
        have some := List.length_pos_of_mem listens
        have one := accounted.alone.listeners message.service.objectPath
        exact decide_eq_true (by omega)
      · rfl
  | dispatch =>
      simp only [prompt, there, Option.all_some]
      rcases head : client.pending with _ | ⟨⟨handle, message⟩, rest⟩
      · rfl
      · have front : (handle, message) ∈ client.pending := head ▸ List.mem_cons_self
        have queued : message ∈ client.queued :=
          List.mem_append_left _ (List.mem_map.mpr ⟨_, front, rfl⟩)
        obtain ⟨listener, id, cb, object⟩ := listener_of_idle run reliable there idle queued
        obtain ⟨placed, found, path⟩ := accounted.placed _ front
        obtain rfl := accounted.alone handle listener placed _ found object path
        simp [object]

/-- What is left to do for the main loop: each signal arrives and is dispatched. -/
def ClientThread.remaining (client : ClientThread) : Nat :=
  2 * client.inbox.length + client.pending.length

/-- A step of the main loop is one of its client alone, and leaves less to do. -/
theorem mainLoop_less {state next : World} {conn : Conn} {client : ClientThread}
    (there : state.clients.lookup conn = some client) (alone : Alone client) {label : WorldLabel}
    (own : MainLoop conn label) {emitted : List WorldEvent}
    (transition : world.step state label = some (next, emitted)) :
    daemonEvents emitted = [] ∧ (∀ other, .proxyFailed other ∉ emitted) ∧
      ∃ left, next.clients.lookup conn = some left ∧ left.activity = client.activity ∧
        left.objects = client.objects ∧ left.remaining < client.remaining := by
  have here (left : ClientThread) : (state.set conn left).clients.lookup conn = some left :=
    lookup_set_some.mpr (.inl ⟨rfl, rfl⟩)
  rw [world_step] at transition
  have moves := World.step_cases transition
  cases own with
  | arrive =>
      cases moves with
      | replied was head =>
          obtain rfl := Option.some.inj (was.symm.trans there)
          refine ⟨rfl, by simp, _, here _, rfl, rfl, ?_⟩
          simp only [ClientThread.remaining, head, List.length_cons]
          omega
      | @arrived _ _ message _ was head =>
          obtain rfl := Option.some.inj (was.symm.trans there)
          refine ⟨rfl, by simp, _, here _, rfl, rfl, ?_⟩
          have one := alone.listeners message.service.objectPath
          simp only [ClientThread.remaining, head, List.length_cons, List.length_append,
            List.length_map]
          omega
  | dispatch =>
      cases moves with
      | handed was head =>
          obtain rfl := Option.some.inj (was.symm.trans there)
          refine ⟨rfl, by simp, _, here _, rfl, rfl, ?_⟩
          simp only [ClientThread.remaining, head, List.length_cons]
          omega
      | dropped was head =>
          obtain rfl := Option.some.inj (was.symm.trans there)
          refine ⟨rfl, by simp, _, here _, rfl, rfl, ?_⟩
          simp only [ClientThread.remaining, head, List.length_cons]
          omega

/-- One step of the main loop takes the next message to the callback, or closer to it. -/
theorem mainLoop_step {trace : List WorldEvent} {state next : World} (run : world.Runs trace state)
    (reliable : Reliable trace) {conn : Conn} {client : ClientThread}
    (there : state.clients.lookup conn = some client) (idle : client.activity = none)
    {label : WorldLabel} (own : MainLoop conn label) {emitted : List WorldEvent}
    (transition : world.step state label = some (next, emitted)) :
    Reliable (trace ++ emitted) ∧ ∃ left, next.clients.lookup conn = some left ∧
      left.activity = none ∧
      handedBy conn emitted ++ left.queued = client.queued ∧ left.remaining < client.remaining := by
  have alone := (accounted_of_runs run reliable.daemon conn client there).alone
  obtain ⟨silent, proxied, left, now, same, _, less⟩ := mainLoop_less there alone own transition
  have promptly := prompt_of_idle run reliable there idle own
  have moved := (World.step_cases transition).queued promptly there
    (open_of_runs run conn client there) now
  refine ⟨⟨?_, fun other member => ?_⟩, left, now, same.trans idle, ?_, less⟩
  · rw [daemonEvents_append, silent, List.append_nil]
    exact reliable.daemon
  · rcases List.mem_append.mp member with earlier | recent
    · exact reliable.proxied other earlier
    · exact proxied other recent
  · rw [← moved, emittedFor, silent]
    exact List.append_nil _

/-- While something is queued the main loop can go on. -/
theorem mainLoop_enabled {state : World} {conn : Conn} {client : ClientThread}
    (there : state.clients.lookup conn = some client) (queued : client.queued ≠ []) :
    ∃ label, MainLoop conn label ∧ (world.step state label).isSome := by
  by_cases waiting : client.pending = []
  · refine ⟨.arrive conn, .arrive, ?_⟩
    simp only [world_step, World.step, there, World.arrive]
    rcases empty : client.inbox with _ | ⟨_ | _, _⟩
    · simp [ClientThread.queued, waiting, empty] at queued
    · rfl
    · rfl
  · refine ⟨.dispatch conn, .dispatch, ?_⟩
    simp only [world_step, World.step, there, World.dispatch]
    cases empty : client.pending with
    | nil => exact absurd empty waiting
    | cons _ _ => rfl

/-- Any schedule of the main loop hands over the front of the queue. -/
theorem mainLoop_exec {trace : List WorldEvent} {state next : World} (run : world.Runs trace state)
    (reliable : Reliable trace) {conn : Conn} {client : ClientThread}
    (there : state.clients.lookup conn = some client) (idle : client.activity = none)
    {labels : List WorldLabel} (own : ∀ label ∈ labels, MainLoop conn label)
    {events : List WorldEvent} (evaluated : world.exec state labels = some (next, events)) :
    ∃ left, next.clients.lookup conn = some left ∧
      handedBy conn events ++ left.queued = client.queued ∧
      labels.length + left.remaining ≤ client.remaining := by
  induction labels generalizing trace state client events with
  | nil =>
      simp only [EventSystem.exec, Option.some.injEq, Prod.mk.injEq] at evaluated
      obtain ⟨rfl, rfl⟩ := evaluated
      exact ⟨client, there, rfl, by simp⟩
  | cons label labels ih =>
      obtain ⟨middle, emitted, later, transition, remaining, rfl⟩ :=
        EventSystem.exec_cons_inv evaluated
      obtain ⟨still, left, now, free, moved, less⟩ := mainLoop_step run reliable there idle
        (own label List.mem_cons_self) transition
      obtain ⟨last, found, rest, bound⟩ := ih (run.snoc transition) still now free
        (fun other member => own other (List.mem_cons_of_mem _ member)) remaining
      refine ⟨last, found, ?_, ?_⟩
      · rw [handedBy_append, List.append_assoc, rest, moved]
      · rw [List.length_cons]
        omega

/-- Some schedule leaves nothing. -/
theorem mainLoop_drains {state : World} {conn : Conn} {client : ClientThread}
    (there : state.clients.lookup conn = some client) (alone : Alone client) :
    ∃ labels next events left, (∀ label ∈ labels, MainLoop conn label) ∧
      world.exec state labels = some (next, events) ∧ daemonEvents events = [] ∧
      next.clients.lookup conn = some left ∧ left.queued = [] := by
  induction bound : client.remaining using Nat.strongRecOn generalizing state client with
  | ind bound ih =>
      by_cases queued : client.queued = []
      · exact ⟨[], state, [], client, by simp, rfl, rfl, there, queued⟩
      · obtain ⟨label, own, enabled⟩ := mainLoop_enabled there queued
        obtain ⟨⟨middle, emitted⟩, transition⟩ := Option.isSome_iff_exists.mp enabled
        obtain ⟨silent, _, left, now, _, objects, less⟩ := mainLoop_less there alone own transition
        have still : Alone left := by
          unfold Alone
          rw [objects]
          exact alone
        obtain ⟨labels, next, events, last, owned, evaluated, quiet, found, none⟩ :=
          ih left.remaining (bound ▸ less) now still rfl
        refine ⟨label :: labels, next, emitted ++ events, last, ?_, ?_, ?_, found, none⟩
        · exact List.forall_mem_cons.mpr ⟨own, owned⟩
        · simp only [EventSystem.exec, transition, evaluated]
        · rw [daemonEvents_append, silent, quiet, List.append_nil]

/-- What is queued for a client between its calls is handed over by its main loop: every
schedule of arrivals and dispatches hands over the front of the queue, in order and each
message once, can go on while something is left, and ends after a bounded number of steps. -/
theorem idle_hands_over {trace : List WorldEvent} {state : World} (run : world.Runs trace state)
    (reliable : Reliable trace) {conn : Conn} {client : ClientThread}
    (there : state.clients.lookup conn = some client) (idle : client.activity = none) :
    (∀ labels next events, (∀ label ∈ labels, MainLoop conn label) →
      world.exec state labels = some (next, events) →
      labels.length ≤ 2 * client.inbox.length + client.pending.length ∧
      ∃ left, next.clients.lookup conn = some left ∧
        handedBy conn events ++ left.queued = client.queued ∧
        (left.queued ≠ [] → ∃ label, MainLoop conn label ∧ (world.step next label).isSome)) ∧
    ∃ labels next events, (∀ label ∈ labels, MainLoop conn label) ∧
      world.exec state labels = some (next, events) ∧ handedBy conn events = client.queued := by
  constructor
  · intro labels next events own evaluated
    obtain ⟨left, now, handed, bound⟩ := mainLoop_exec run reliable there idle own evaluated
    have short : labels.length ≤ client.remaining := by omega
    exact ⟨short, left, now, handed, mainLoop_enabled now⟩
  · have alone := (accounted_of_runs run reliable.daemon conn client there).alone
    obtain ⟨labels, next, events, last, own, evaluated, _, found, none⟩ :=
      mainLoop_drains there alone
    obtain ⟨left, now, handed, _⟩ := mainLoop_exec run reliable there idle own evaluated
    obtain rfl := Option.some.inj (now.symm.trans found)
    rw [none, List.append_nil] at handed
    exact ⟨labels, next, events, own, evaluated, handed⟩

/-- A port is registered, and then sent to. -/
def sentWhenIdle : List WorldLabel := portCreated ++ callbackConnected ++ [.finish 0] ++ sent

/-- The message is handed over by the main loop. -/
theorem idle_hands_over_sent : ∃ trace state, ∃ client : ClientThread, world.Runs trace state ∧
    client.queued.length = 1 ∧ ∃ labels next events, (∀ label ∈ labels, MainLoop 0 label) ∧
      world.exec state labels = some (next, events) ∧ handedBy 0 events = client.queued := by
  obtain ⟨trace, state, run, accepted⟩ := @EventSystem.Runs.of_exec _ _ _ world sentWhenIdle
    (fun state trace => attempts (daemonEvents trace) = [true] ∧
      (trace.all fun | .proxyFailed _ => false | _ => true) ∧
      (state.clients.lookup 0).any fun client => client.activity.isNone ∧
      client.queued.length = 1) (by decide)
  obtain ⟨tries, proxied, held⟩ := of_decide_eq_true accepted
  obtain ⟨client, there, idle, queued⟩ : ∃ client, state.clients.lookup 0 = some client ∧
      client.activity = none ∧ client.queued.length = 1 := by
    simpa [Option.any_eq_true] using held
  have reliable : Reliable trace := by
    refine ⟨⟨by rw [tries]; decide, by rw [tries]; decide⟩, fun conn failed => ?_⟩
    exact absurd (List.all_eq_true.mp proxied _ failed) (by simp)
  exact ⟨trace, state, client, run, queued, (idle_hands_over run reliable there idle).2⟩

end MessagePort.Session
