import MessagePort.Session.Call

/-!
# Clients and daemon together

Any number of clients, each a thread with a connection of its own, call the public
functions one after the other while the daemon serves them all. What the daemon
sends to a client is first on the wire, in order; a signal that arrives is queued
for every proxy on its path, and the client's main loop hands it over later. The
main loop may be run by another thread, at any time.
-/

namespace MessagePort.Session

open Daemon Client Logical Semantics

/-- What is on the wire to a client. -/
inductive Incoming where
  | signal (message : OnMessage)
  /-- The reply to the client's last round trip. -/
  | reply
deriving DecidableEq

/-- A live `MsgPortService` of a client, with its `client_cb` once `on-message` is
connected. -/
structure ServiceObject where
  path : ObjectPath
  id : Guint
  clientCb : Option Callback
deriving DecidableEq

/-- One client. -/
structure ClientThread where
  /-- The tables as the last finished call left them. -/
  manager : MsgPortManager
  /-- The call in progress, and what is left of it. -/
  activity : Option (ApiCall × Program (Returned × MsgPortManager))
  /-- Whether the call waits for a reply. -/
  waiting : Bool
  objects : HashTable Handle ServiceObject
  inbox : List Incoming
  /-- Arrived signals, each queued for one proxy. -/
  pending : List (Handle × OnMessage)

/-- The daemon and the clients it serves. -/
structure World where
  daemon : State
  clients : HashTable Conn ClientThread

/-- What happens in the world. -/
inductive WorldEvent where
  | daemon (event : Event)
  | proxyFailed (conn : Conn)
  | returned (conn : Conn) (call : ApiCall) (returned : Returned)
  /-- A signal was handed to the callback of a service. -/
  | handed (conn : Conn) (message : OnMessage) (invocation : Invocation)

/-- A round trip of the client to the daemon. -/
def roundTrip : Operation → Bool
  | .call _ => true
  | .serviceProxyNew _ => true
  | _ => false

namespace ClientThread

/-- A client that has just connected. -/
def new : ClientThread := ⟨.new, none, false, ∅, [], []⟩

/-- The service objects after an operation. -/
def objectsAfter (client : ClientThread) : (operation : Operation) → operation.Answer →
    HashTable Handle ServiceObject
  | .call _, _ => client.objects
  | .serviceProxyNew _, .error _ => client.objects
  | .serviceProxyNew _, .ok service =>
      client.objects.insert service.handle ⟨service.path, service.id, none⟩
  | .connectOnMessage handle messageCb, _ =>
      client.objects.modify handle fun object => { object with clientCb := some messageCb }
  | .setMessageHandler handle handler, _ =>
      client.objects.modify handle fun object => { object with clientCb := some handler }
  | .serviceUnref handle, _ => client.objects.erase handle

/-- Signals are sent to the client. -/
def receive (client : ClientThread) (messages : List OnMessage) : ClientThread :=
  { client with inbox := client.inbox ++ messages.map .signal }

/-- A reply is sent to the client, which waits for it. -/
def await (client : ClientThread) : ClientThread :=
  { client with waiting := true, inbox := client.inbox ++ [.reply] }

/-- The service objects whose proxies are on a path. -/
def listeners (client : ClientThread) (path : ObjectPath) : List Handle :=
  client.objects.keys.filter fun handle => (client.objects.lookup handle).any (·.path = path)

end ClientThread

/-- Every signal goes to the client that owns its service. -/
def deliver (clients : HashTable Conn ClientThread) (messages : List OnMessage) :
    HashTable Conn ClientThread :=
  messages.foldl (fun clients message =>
    clients.modify message.service.owner fun client => client.receive [message]) clients

/-- A proxy that could not be created. -/
def proxyEvents (conn : Conn) : (operation : Operation) → operation.Answer → List WorldEvent
  | .serviceProxyNew _, .error _ => [.proxyFailed conn]
  | _, _ => []

/-- What can happen next. -/
inductive WorldLabel where
  | connect (conn : Conn) (credentials : DbusManager.PeerCredentials)
      (exportFailure : Option GError)
  | begin (conn : Conn) (call : ApiCall)
  | perform (conn : Conn) (outside : Outside)
  | finish (conn : Conn)
  | arrive (conn : Conn)
  | dispatch (conn : Conn)
  | disconnect (conn : Conn)

namespace World

/-- Nobody is connected. -/
def initial : World := ⟨.initial, ∅⟩

/-- Replace one client. -/
def set (world : World) (conn : Conn) (client : ClientThread) : World :=
  { world with clients := world.clients.insert conn client }

/-- A client is served, if the daemon serves its connection. -/
def connect (world : World) (conn : Conn) (credentials : DbusManager.PeerCredentials)
    (exportFailure : Option GError) : Option (World × List WorldEvent) :=
  match Daemon.step world.daemon (.connect conn credentials exportFailure) with
  | none => none
  | some (daemon, events) =>
      some (⟨daemon, if conn ∈ daemon.dbusManagers then world.clients.insert conn .new
        else world.clients⟩, events.map .daemon)

/-- The client carries out the next operation of its call. A new object gets an
address that is not in use. -/
def perform (world : World) (conn : Conn) (client : ClientThread) (call : ApiCall)
    (operation : Operation) (resume : operation.Answer → Program (Returned × MsgPortManager))
    (outside : Outside) :
    Option (World × List WorldEvent) :=
  if outside.handle ∈ client.objects then none
  else
    match serveOperation world.daemon conn operation outside with
    | none => none
    | some (answer, events, daemon) =>
        let acted := { client with
          activity := some (call, resume answer), objects := client.objectsAfter operation answer }
        let clients := deliver (world.clients.insert conn acted) (onMessages events)
        some (⟨daemon, if roundTrip operation then clients.modify conn .await else clients⟩,
          events.map .daemon ++ proxyEvents conn operation answer)

/-- The head of the wire arrives. -/
def arrive (world : World) (conn : Conn) (client : ClientThread) :
    Option (World × List WorldEvent) :=
  match client.inbox with
  | [] => none
  | .reply :: rest => some (world.set conn { client with waiting := false, inbox := rest }, [])
  | .signal message :: rest =>
      some (world.set conn { client with
        inbox := rest
        pending := client.pending ++
          (client.listeners message.service.objectPath).map fun handle => (handle, message) }, [])

/-- The main loop emits the first queued signal on its proxy; without the object or
without a handler nothing comes of it. -/
def dispatch (world : World) (conn : Conn) (client : ClientThread) :
    Option (World × List WorldEvent) :=
  match client.pending with
  | [] => none
  | (handle, message) :: rest =>
      some (world.set conn { client with pending := rest },
        match client.objects.lookup handle with
        | some ⟨_, id, some clientCb⟩ => [.handed conn message (onGotMessage id clientCb message)]
        | _ => [])

/-- One step of the world. -/
def step (world : World) : WorldLabel → Option (World × List WorldEvent)
  | .connect conn credentials exportFailure => world.connect conn credentials exportFailure
  | .begin conn call =>
      match world.clients.lookup conn with
      | some client =>
          if client.activity.isNone then
            some (world.set conn
              { client with activity := some (call, call.program client.manager) }, [])
          else none
      | none => none
  | .perform conn outside =>
      match world.clients.lookup conn with
      | some client =>
          match client.activity, client.waiting with
          | some (call, .perform operation resume), false =>
              world.perform conn client call operation resume outside
          | _, _ => none
      | none => none
  | .finish conn =>
      match world.clients.lookup conn with
      | some client =>
          match client.activity, client.waiting with
          | some (call, .done (returned, manager)), false =>
              some (world.set conn { client with manager := manager, activity := none },
                [.returned conn call returned])
          | _, _ => none
      | none => none
  | .arrive conn =>
      match world.clients.lookup conn with
      | some client => world.arrive conn client
      | none => none
  | .dispatch conn =>
      match world.clients.lookup conn with
      | some client => world.dispatch conn client
      | none => none
  | .disconnect conn =>
      match Daemon.step world.daemon (.close conn) with
      | none => none
      | some (daemon, events) => some (⟨daemon, world.clients.erase conn⟩, events.map .daemon)

end World

/-- Clients and daemon. -/
def world : EventSystem World WorldLabel WorldEvent := ⟨World.initial, World.step⟩

@[simp] theorem world_step : world.step = World.step := rfl
@[simp] theorem world_initial : world.initial = World.initial := rfl

/-- The daemon's part of a trace. -/
def daemonEvents (trace : List WorldEvent) : List Event :=
  trace.filterMap fun
    | .daemon event => some event
    | _ => none

@[simp] theorem daemonEvents_append (first second : List WorldEvent) :
    daemonEvents (first ++ second) = daemonEvents first ++ daemonEvents second :=
      List.filterMap_append

theorem mem_daemonEvents {event : Event} {trace : List WorldEvent} :
    event ∈ daemonEvents trace ↔ .daemon event ∈ trace := by
  simp only [daemonEvents, List.mem_filterMap]
  constructor
  · rintro ⟨happened, member, same⟩
    cases happened with
    | daemon other =>
        obtain rfl := Option.some.inj same
        exact member
    | _ => cases same
  · exact fun member => ⟨_, member, rfl⟩

@[simp] theorem daemonEvents_nil : daemonEvents [] = [] := rfl

@[simp] theorem daemonEvents_daemon (events : List Event) :
    daemonEvents (events.map .daemon) = events := by
  induction events with
  | nil => rfl
  | cons event rest ih =>
      simp only [daemonEvents] at ih ⊢
      simp [ih]

@[simp] theorem daemonEvents_proxy (conn : Conn) (operation : Operation)
    (answer : operation.Answer) :
    daemonEvents (proxyEvents conn operation answer) = [] := by
  unfold proxyEvents
  split <;> rfl

/-- The daemon's part of an operation. -/
theorem daemonEvents_performed (events : List Event) (conn : Conn) (operation : Operation)
    (answer : operation.Answer) :
    daemonEvents (events.map .daemon ++ proxyEvents conn operation answer) = events := by
  rw [daemonEvents_append, daemonEvents_daemon, daemonEvents_proxy, List.append_nil]

theorem proxyEvents_eq_nil {conn : Conn} {operation : Operation} {answer : operation.Answer}
    (created : .proxyFailed conn ∉ proxyEvents conn operation answer) :
    proxyEvents conn operation answer = [] := by
  unfold proxyEvents at created ⊢
  split
  · simp at created
  · rfl

/-! ## What one step can do -/

/-- A signal reaches the owner of its service, behind what was sent before. -/
theorem lookup_deliver (clients : HashTable Conn ClientThread) (messages : List OnMessage)
    (conn : Conn) :
    (deliver clients messages).lookup conn =
      (clients.lookup conn).map (·.receive (messages.filter (·.service.owner = conn))) := by
  unfold deliver
  induction messages generalizing clients with
  | nil => cases there : clients.lookup conn <;> simp [there, ClientThread.receive]
  | cons message rest ih =>
      rw [List.foldl_cons, ih, HashTable.lookup_modify_eq]
      by_cases own : message.service.owner = conn
      · subst own
        cases clients.lookup message.service.owner <;> simp [ClientThread.receive]
      · have apart : ¬ conn = message.service.owner := fun same => own same.symm
        simp [own, apart]

/-- What one step does. -/
inductive Moves (before : World) : WorldLabel → List WorldEvent → World → Prop where
  | refused {conn credentials exportFailure daemon events}
      (transition : Daemon.step before.daemon (.connect conn credentials exportFailure) =
        some (daemon, events)) :
      Moves before (.connect conn credentials exportFailure) (events.map .daemon)
        ⟨daemon, before.clients⟩
  | connected {conn credentials exportFailure daemon events}
      (transition : Daemon.step before.daemon (.connect conn credentials exportFailure) =
        some (daemon, events)) (served : conn ∈ daemon.dbusManagers) :
      Moves before (.connect conn credentials exportFailure) (events.map .daemon)
        ⟨daemon, before.clients.insert conn .new⟩
  | began {conn client call} (there : before.clients.lookup conn = some client)
      (idle : client.activity = none) :
      Moves before (.begin conn call) [] (before.set conn
        { client with activity := some (call, call.program client.manager) })
  | performed {conn client call operation resume outside answer events daemon}
      (there : before.clients.lookup conn = some client)
      (active : client.activity = some (call, .perform operation resume))
      (ready : client.waiting = false) (fresh : outside.handle ∉ client.objects)
      (served : serveOperation before.daemon conn operation outside = some (answer, events, daemon))
      {clients} (delivered : clients = deliver (before.clients.insert conn { client with
        activity := some (call, resume answer)
        objects := client.objectsAfter operation answer }) (onMessages events)) :
      Moves before (.perform conn outside) (events.map .daemon ++ proxyEvents conn operation answer)
        ⟨daemon, if roundTrip operation then clients.modify conn .await else clients⟩
  | finished {conn client call returned manager} (there : before.clients.lookup conn = some client)
      (ended : client.activity = some (call, .done (returned, manager))) :
      Moves before (.finish conn) [.returned conn call returned]
        (before.set conn { client with manager := manager, activity := none })
  | replied {conn client rest} (there : before.clients.lookup conn = some client)
      (head : client.inbox = .reply :: rest) :
      Moves before (.arrive conn) []
        (before.set conn { client with waiting := false, inbox := rest })
  | arrived {conn client message rest} (there : before.clients.lookup conn = some client)
      (head : client.inbox = .signal message :: rest) :
      Moves before (.arrive conn) [] (before.set conn { client with
        inbox := rest
        pending := client.pending ++
          (client.listeners message.service.objectPath).map fun handle => (handle, message) })
  | handed {conn client handle message rest path id clientCb}
      (there : before.clients.lookup conn = some client)
      (head : client.pending = (handle, message) :: rest)
      (object : client.objects.lookup handle = some ⟨path, id, some clientCb⟩) :
      Moves before (.dispatch conn) [.handed conn message (onGotMessage id clientCb message)]
        (before.set conn { client with pending := rest })
  | dropped {conn client handle message rest} (there : before.clients.lookup conn = some client)
      (head : client.pending = (handle, message) :: rest)
      (unheard : ∀ path id clientCb, client.objects.lookup handle ≠
        some ⟨path, id, some clientCb⟩) :
      Moves before (.dispatch conn) [] (before.set conn { client with pending := rest })
  | disconnected {conn daemon events}
      (transition : Daemon.step before.daemon (.close conn) = some (daemon, events)) :
      Moves before (.disconnect conn) (events.map .daemon) ⟨daemon, before.clients.erase conn⟩

namespace World

/-- A label of a client is admitted for clients there are. -/
theorem client_of_step {world : World} {conn : Conn} {out : World × List WorldEvent}
    {acts : ClientThread → Option (World × List WorldEvent)}
    (transition : (match world.clients.lookup conn with
      | some client => acts client
      | none => none) = some out) :
    ∃ client, world.clients.lookup conn = some client ∧ acts client = some out := by
  cases there : world.clients.lookup conn with
  | none => simp [there] at transition
  | some client => exact ⟨client, rfl, by simpa [there] using transition⟩

/-- A step does one of these things. -/
theorem step_cases {before next : World} {label : WorldLabel} {emitted : List WorldEvent}
    (transition : step before label = some (next, emitted)) : Moves before label emitted next := by
  cases label with
  | connect conn credentials exportFailure =>
      simp only [step, connect] at transition
      rcases connects : Daemon.step before.daemon (.connect conn credentials exportFailure) with
        _ | ⟨daemon, events⟩
      · simp [connects] at transition
      · rw [connects] at transition
        obtain ⟨rfl, rfl⟩ := Prod.mk.inj (Option.some.inj transition)
        split
        case isTrue served =>
          exact .connected connects served
        · exact .refused connects
  | disconnect conn =>
      simp only [step] at transition
      rcases closes : Daemon.step before.daemon (.close conn) with _ | ⟨daemon, events⟩
      · simp [closes] at transition
      · rw [closes] at transition
        obtain ⟨rfl, rfl⟩ := Prod.mk.inj (Option.some.inj transition)
        exact .disconnected closes
  | begin conn call =>
      obtain ⟨client, there, begins⟩ := client_of_step transition
      split at begins
      case isTrue idle =>
        obtain ⟨rfl, rfl⟩ := Prod.mk.inj (Option.some.inj begins)
        exact .began there (Option.isNone_iff_eq_none.mp idle)
      · cases begins
  | perform conn outside =>
      obtain ⟨client, there, performs⟩ := client_of_step transition
      split at performs
      case h_1 call operation resume active ready =>
        unfold perform at performs
        split at performs
        · cases performs
        case isFalse fresh =>
          rcases served : serveOperation before.daemon conn operation outside with
            _ | ⟨answer, events, daemon⟩
          · simp [served] at performs
          · rw [served] at performs
            obtain ⟨rfl, rfl⟩ := Prod.mk.inj (Option.some.inj performs)
            exact .performed there active ready fresh served rfl
      · cases performs
  | finish conn =>
      obtain ⟨client, there, finishes⟩ := client_of_step transition
      split at finishes
      case h_1 call returned manager ended ready =>
        obtain ⟨rfl, rfl⟩ := Prod.mk.inj (Option.some.inj finishes)
        exact .finished there ended
      · cases finishes
  | arrive conn =>
      obtain ⟨client, there, arrives⟩ := client_of_step transition
      unfold arrive at arrives
      rcases head : client.inbox with _ | ⟨message | reply, rest⟩ <;> rw [head] at arrives
      · cases arrives
      · obtain ⟨rfl, rfl⟩ := Prod.mk.inj (Option.some.inj arrives)
        exact .arrived there head
      · obtain ⟨rfl, rfl⟩ := Prod.mk.inj (Option.some.inj arrives)
        exact .replied there head
  | dispatch conn =>
      obtain ⟨client, there, dispatches⟩ := client_of_step transition
      unfold dispatch at dispatches
      rcases head : client.pending with _ | ⟨⟨handle, message⟩, rest⟩ <;> rw [head] at dispatches
      · cases dispatches
      · obtain ⟨rfl, rfl⟩ := Prod.mk.inj (Option.some.inj dispatches)
        split
        case h_1 path id clientCb object =>
          exact .handed there head object
        case h_2 unheard =>
          exact .dropped there head unheard

end World

/-- What is left of a client after an operation, with what it was sent meanwhile. -/
def ClientThread.after (acted : ClientThread) (operation : Operation) (messages : List OnMessage) :
    ClientThread :=
  if roundTrip operation then (acted.receive messages).await else acted.receive messages

@[simp] theorem ClientThread.after_manager (acted : ClientThread) (operation : Operation)
    (messages : List OnMessage) : (acted.after operation messages).manager = acted.manager := by
  unfold ClientThread.after
  split <;> rfl

@[simp] theorem ClientThread.after_activity (acted : ClientThread) (operation : Operation)
    (messages : List OnMessage) : (acted.after operation messages).activity = acted.activity := by
  unfold ClientThread.after
  split <;> rfl

theorem lookup_set_some {world : World} {conn other : Conn} {client found : ClientThread} :
    (world.set conn client).clients.lookup other = some found ↔
      (other = conn ∧ client = found) ∨ (other ≠ conn ∧ world.clients.lookup other = some found) :=
  HashTable.lookup_insert_some

/-- The clients after one of them carried out an operation. -/
theorem lookup_performed (clients : HashTable Conn ClientThread) (conn other : Conn)
    (acted : ClientThread) (operation : Operation) (messages : List OnMessage) :
    (if roundTrip operation then (deliver (clients.insert conn acted) messages).modify conn .await
      else deliver (clients.insert conn acted) messages).lookup other =
    if other = conn then some (acted.after operation (messages.filter (·.service.owner = conn)))
    else (clients.lookup other).map (·.receive (messages.filter (·.service.owner = other))) := by
  unfold ClientThread.after
  by_cases same : other = conn
  · subst same
    split
    · rw [HashTable.lookup_modify_eq, if_pos rfl, if_pos rfl, lookup_deliver, AList.lookup_insert]
      rfl
    · rw [if_pos rfl, lookup_deliver, AList.lookup_insert]
      rfl
  · rw [if_neg same]
    split
    · rw [HashTable.lookup_modify_eq, if_neg same, lookup_deliver, AList.lookup_insert_ne same]
    · rw [lookup_deliver, AList.lookup_insert_ne same]

/-- The daemon's part of a step is a run of the daemon. -/
theorem Moves.steps {before after : World} {label : WorldLabel} {events : List WorldEvent}
    (moves : Moves before label events after) :
    system.Steps before.daemon (daemonEvents events) after.daemon := by
  cases moves with
  | refused transition =>
      rw [daemonEvents_daemon]
      exact steps_of_step transition
  | connected transition _ =>
      rw [daemonEvents_daemon]
      exact steps_of_step transition
  | performed _ _ _ _ served =>
      rw [daemonEvents_performed]
      exact serves_steps ⟨_, served⟩
  | disconnected transition =>
      rw [daemonEvents_daemon]
      exact steps_of_step transition
  | began => exact .refl
  | finished => exact .refl
  | replied => exact .refl
  | arrived => exact .refl
  | handed => exact .refl
  | dropped => exact .refl

/-- It is one effect. -/
theorem Moves.effect {before after : World} {label : WorldLabel} {events : List WorldEvent}
    (sound : Sound before.daemon) (moves : Moves before label events after) :
    Effect before.daemon (daemonEvents events) after.daemon := by
  cases moves with
  | refused transition =>
      rw [daemonEvents_daemon]
      exact (step_effect sound transition).1
  | connected transition _ =>
      rw [daemonEvents_daemon]
      exact (step_effect sound transition).1
  | performed _ _ _ _ served =>
      rw [daemonEvents_performed]
      exact serves_effect sound ⟨_, served⟩
  | disconnected transition =>
      rw [daemonEvents_daemon]
      exact (step_effect sound transition).1
  | began => exact .quiet (.refl _) rfl
  | finished => exact .quiet (.refl _) rfl
  | replied => exact .quiet (.refl _) rfl
  | arrived => exact .quiet (.refl _) rfl
  | handed => exact .quiet (.refl _) rfl
  | dropped => exact .quiet (.refl _) rfl

/-- The daemon's part of a run of the world is a run of the daemon. -/
theorem daemon_of_runs {trace : List WorldEvent} {state : World} (run : world.Runs trace state) :
    system.Runs (daemonEvents trace) state.daemon := by
  refine @EventSystem.Runs.invariant _ _ _ world
    (fun trace state => system.Runs (daemonEvents trace) state.daemon) .refl ?_ _ _ run
  intro trace state label next emitted _ prior transition
  rw [daemonEvents_append]
  exact prior.trans (World.step_cases transition).steps

/-! ## What a step does to one client -/

/-- What a client that is there after a step was before, and what the daemon did
meanwhile that can concern it. -/
inductive Came (before : World) (emitted : List WorldEvent) (after : World) (conn : Conn)
    (found : ClientThread) : Prop where
  | connected {credentials exportFailure events}
      (connects : Daemon.step before.daemon (.connect conn credentials exportFailure) =
        some (after.daemon, events))
      (served : conn ∈ after.daemon.dbusManagers) (all : emitted = events.map .daemon)
        (new : found = .new)
  /-- In the same call, or in none as before. -/
  | stayed {client} (there : before.clients.lookup conn = some client)
      (manager : found.manager = client.manager) (activity : found.activity = client.activity)
      (apart : Apart conn before.daemon (daemonEvents emitted) after.daemon)
  | began {client call} (there : before.clients.lookup conn = some client)
      (idle : client.activity = none)
      (activity : found.activity = some (call, call.program client.manager))
      (same : after.daemon = before.daemon)
  | performed {client call operation resume outside answer events}
      (there : before.clients.lookup conn = some client)
      (active : client.activity = some (call, .perform operation resume))
      (served : serveOperation before.daemon conn operation outside =
        some (answer, events, after.daemon))
      (all : emitted = events.map .daemon ++ proxyEvents conn operation answer)
      (activity : found.activity = some (call, resume answer))
  | finished {client call returned} (there : before.clients.lookup conn = some client)
      (ended : client.activity = some (call, .done (returned, found.manager)))
      (idle : found.activity = none) (same : after.daemon = before.daemon)

/-- A client that is there after a step came from one of these. -/
theorem Moves.came {before after : World} {label : WorldLabel} {emitted : List WorldEvent}
    (moves : Moves before label emitted after)
    (opened : ∀ conn client, before.clients.lookup conn = some client →
      conn ∈ before.daemon.dbusManagers)
    {conn : Conn} {found : ClientThread} (there : after.clients.lookup conn = some found) :
    Came before emitted after conn found := by
  -- one client is replaced by one with the same tables and call, and the daemon does nothing
  have replaced {other : Conn} {client new : ClientThread}
      (old : before.clients.lookup other = some client)
      {events : List WorldEvent} (quiet : daemonEvents events = [])
      (there : (before.set other new).clients.lookup conn = some found)
      (manager : new.manager = client.manager) (activity : new.activity = client.activity) :
      Came before events (before.set other new) conn found := by
    have still : Apart conn before.daemon (daemonEvents events) before.daemon := by
      rw [quiet]
      exact .idle
    rcases lookup_set_some.mp there with ⟨rfl, rfl⟩ | ⟨_, there⟩
    · exact .stayed old manager activity still
    · exact .stayed there rfl rfl still
  cases moves with
  | @refused other _ _ _ _ connects =>
      refine .stayed there rfl rfl ?_
      rw [daemonEvents_daemon]
      refine .other rfl ?_ connects
      rintro rfl
      exact connect_fresh connects (opened other found there)
  | @connected other _ _ _ _ connects served =>
      rcases HashTable.lookup_insert_some.mp there with ⟨rfl, rfl⟩ | ⟨different, there⟩
      · exact .connected connects served rfl rfl
      · refine .stayed there rfl rfl ?_
        rw [daemonEvents_daemon]
        exact .other rfl different.symm connects
  | @performed other client call operation resume _ answer _ _ old active _ _ served
      clients delivered =>
      subst delivered
      rw [lookup_performed] at there
      split at there
      case isTrue same =>
        obtain rfl := Option.some.inj there
        subst same
        exact .performed old active served rfl (ClientThread.after_activity _ _ _)
      case isFalse different =>
        obtain ⟨base, earlier, rfl⟩ := Option.map_eq_some_iff.mp there
        refine .stayed earlier rfl rfl ?_
        rw [daemonEvents_performed]
        exact serves_apart ⟨_, served⟩ fun same => different same.symm
  | @disconnected other _ _ closes =>
      obtain ⟨different, there⟩ := HashTable.lookup_erase_some.mp there
      refine .stayed there rfl rfl ?_
      rw [daemonEvents_daemon]
      exact .other rfl (fun same => different same.symm) closes
  | @began other client call old idle =>
      rcases lookup_set_some.mp there with ⟨rfl, rfl⟩ | ⟨_, there⟩
      · exact .began old idle rfl rfl
      · exact .stayed there rfl rfl .idle
  | @finished other client call returned manager old ended =>
      rcases lookup_set_some.mp there with ⟨rfl, rfl⟩ | ⟨_, there⟩
      · exact .finished old ended rfl rfl
      · exact .stayed there rfl rfl .idle
  | replied old => exact replaced old rfl there rfl rfl
  | arrived old => exact replaced old rfl there rfl rfl
  | handed old => exact replaced old rfl there rfl rfl
  | dropped old => exact replaced old rfl there rfl rfl

/-- Every client has an open connection. -/
theorem open_of_runs {trace : List WorldEvent} {state : World} (run : world.Runs trace state) :
    ∀ conn client, state.clients.lookup conn = some client → conn ∈ state.daemon.dbusManagers := by
  refine @EventSystem.Runs.invariant _ _ _ world (fun _ state =>
    ∀ conn client, state.clients.lookup conn = some client →
      conn ∈ state.daemon.dbusManagers) ?_ ?_ _ _ run
  · intro conn client there
    cases there
  intro trace before label after emitted prior ih transition conn found there
  have sound := sound_of_runs (daemon_of_runs prior)
  cases (World.step_cases transition).came ih there with
  | connected _ served => exact served
  | stayed there _ _ apart => exact apart.keeps_open sound (ih conn _ there)
  | began there _ _ same => exact same ▸ ih conn _ there
  | performed there _ served => exact serves_open sound ⟨_, served⟩ (ih conn _ there)
  | finished there _ _ same => exact same ▸ ih conn _ there

end MessagePort.Session
