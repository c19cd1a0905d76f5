import MessagePort.Session.Delivery

/-!
# What a step does to one client

A step of the world leaves a client as it was, sends it something, or is one of its own.
What holds of every client along a run is proved by cases of this, whoever the step is of.
-/

namespace MessagePort.Session

open Daemon Client Logical Semantics

/-- Nothing is handed to a client, and none of its calls returns. -/
structure PassesBy (conn : Conn) (emitted : List WorldEvent) : Prop where
  handed : handedBy conn emitted = []
  returned : ∀ call returned, .returned conn call returned ∉ emitted

theorem passesBy_nil (conn : Conn) : PassesBy conn [] := ⟨rfl, fun _ _ => List.not_mem_nil⟩

theorem passesBy_daemon (conn : Conn) (events : List Event) :
    PassesBy conn (events.map .daemon) :=
  ⟨handedBy_daemon conn events, by simp⟩

theorem passesBy_performed (conn : Conn) (events : List Event) (other : Conn)
    (operation : Operation) (answer : operation.Answer) :
    PassesBy conn (events.map .daemon ++ proxyEvents other operation answer) where
  handed := by simp
  returned call returned member := by
    rcases List.mem_append.mp member with daemon | proxy
    · simp at daemon
    · unfold proxyEvents at proxy
      split at proxy <;> simp at proxy

/-- What a step does to a client that is there before and after it, with the events of
the step, and to the daemon. -/
inductive Changes (before after : State) (conn : Conn) (client : ClientThread) :
    List WorldEvent → ClientThread → Prop where
  | same {emitted} (past : PassesBy conn emitted) (sent : emittedFor conn emitted = [])
      (apart : Apart conn before (daemonEvents emitted) after) :
      Changes before after conn client emitted client
  /-- Another client sends to it. -/
  | received {emitted} (past : PassesBy conn emitted)
      (apart : Apart conn before (daemonEvents emitted) after) :
      Changes before after conn client emitted (client.receive (emittedFor conn emitted))
  | performed {call operation resume outside answer events}
      (active : client.activity = some (call, .perform operation resume))
      (fresh : outside.handle ∉ client.objects)
      (served : serveOperation before conn operation outside = some (answer, events, after)) :
      Changes before after conn client (events.map .daemon ++ proxyEvents conn operation answer)
        (ClientThread.after { client with
          activity := some (call, resume answer)
          objects := client.objectsAfter operation answer } operation
          (emittedFor conn (events.map .daemon ++ proxyEvents conn operation answer)))
  | began {call} (quiet : after = before) (idle : client.activity = none) :
      Changes before after conn client []
        { client with activity := some (call, call.program client.manager) }
  | finished {call returned manager} (quiet : after = before)
      (ended : client.activity = some (call, .done (returned, manager))) :
      Changes before after conn client [.returned conn call returned]
        { client with manager := manager, activity := none }
  | replied {rest} (quiet : after = before) (head : client.inbox = .reply :: rest) :
      Changes before after conn client [] { client with waiting := false, inbox := rest }
  | arrived {message rest} (quiet : after = before)
      (head : client.inbox = .signal message :: rest) :
      Changes before after conn client [] { client with
        inbox := rest
        pending := client.pending ++
          (client.listeners message.service.objectPath).map fun handle => (handle, message) }
  | handed {handle message rest path id clientCb} (quiet : after = before)
      (head : client.pending = (handle, message) :: rest)
      (object : client.objects.lookup handle = some ⟨path, id, some clientCb⟩) :
      Changes before after conn client [.handed conn message (onGotMessage id clientCb message)]
        { client with pending := rest }
  | dropped {handle message rest} (quiet : after = before)
      (head : client.pending = (handle, message) :: rest)
      (unheard : ∀ path id clientCb,
        client.objects.lookup handle ≠ some ⟨path, id, some clientCb⟩) :
      Changes before after conn client [] { client with pending := rest }

section Moves

variable {before after : World} {label : WorldLabel} {emitted : List WorldEvent} {conn : Conn}
  {client found : ClientThread}

/-- A client that a step replaces only elsewhere is as it was. -/
theorem changes_replaced {other : Conn} {old new : ClientThread}
    (there : before.clients.lookup conn = some client)
    (was : before.clients.lookup other = some old)
    (now : (before.set other new).clients.lookup conn = some found)
    (quiet : daemonEvents emitted = [])
    (past : other ≠ conn → PassesBy conn emitted)
    (own : other = conn → Changes before.daemon before.daemon conn old emitted new) :
    Changes before.daemon before.daemon conn client emitted found := by
  rcases lookup_set_some.mp now with ⟨rfl, rfl⟩ | ⟨different, left⟩
  · obtain rfl := Option.some.inj (was.symm.trans there)
    exact own rfl
  · obtain rfl := Option.some.inj (there.symm.trans left)
    refine .same (past fun same => different same.symm) (by simp [emittedFor, quiet]) ?_
    rw [quiet]
    exact .idle

/-- A step of the daemon alone does nothing to a client that it leaves there. -/
theorem changes_apart {step : Label} {daemon : State} {events : List Event} {other : Conn}
    (transition : Daemon.step before.daemon step = some (daemon, events))
    (labelled : step.conn = some other) (different : other ≠ conn)
    (requests : ∀ conn request choices, step ≠ .request conn request choices) :
    Changes before.daemon daemon conn client (events.map .daemon) client := by
  refine .same (passesBy_daemon conn events) ?_ ?_
  · rw [emittedFor_daemon, onMessages_of_step transition requests]
    rfl
  · rw [daemonEvents_daemon]
    exact .other labelled different transition

/-- What a step does to a client is one of these. -/
theorem Moves.changes (moves : Moves before label emitted after)
    (there : before.clients.lookup conn = some client) (open_ : conn ∈ before.daemon.dbusManagers)
    (now : after.clients.lookup conn = some found) :
    Changes before.daemon after.daemon conn client emitted found := by
  cases moves with
  | refused transition =>
      obtain rfl := Option.some.inj (there.symm.trans now)
      refine changes_apart transition rfl ?_ (by simp)
      rintro rfl
      exact connect_fresh transition open_
  | connected transition =>
      rcases HashTable.lookup_insert_some.mp now with ⟨rfl, _⟩ | ⟨different, left⟩
      · exact absurd open_ (connect_fresh transition)
      · obtain rfl := Option.some.inj (there.symm.trans left)
        exact changes_apart transition rfl different.symm (by simp)
  | disconnected transition =>
      obtain ⟨different, left⟩ := HashTable.lookup_erase_some.mp now
      obtain rfl := Option.some.inj (there.symm.trans left)
      exact changes_apart transition rfl (fun same => different same.symm) (by simp)
  | @performed other acting call operation resume outside answer events daemon old active _ fresh
      served clients delivered =>
      subst delivered
      have sent : emittedFor conn (events.map .daemon ++ proxyEvents other operation answer) =
          (onMessages events).filter (·.service.owner = conn) := by simp
      rw [lookup_performed, ← sent] at now
      by_cases same : other = conn
      · subst same
        rw [if_pos rfl] at now
        obtain rfl := Option.some.inj now
        obtain rfl := Option.some.inj (old.symm.trans there)
        rw [← sent]
        exact .performed active fresh served
      · rw [if_neg fun equal => same equal.symm, there] at now
        obtain rfl := Option.some.inj now
        refine .received (passesBy_performed _ _ _ _ _) ?_
        rw [daemonEvents_performed]
        exact serves_apart ⟨_, served⟩ same
  | began old idle =>
      exact changes_replaced there old now rfl (fun _ => passesBy_nil _) fun _ => .began rfl idle
  | finished old ended =>
      refine changes_replaced there old now rfl (fun different => ⟨rfl, ?_⟩) ?_
      · intro call returned member
        cases List.mem_singleton.mp member
        exact different rfl
      · rintro rfl
        exact .finished rfl ended
  | replied old head =>
      exact changes_replaced there old now rfl (fun _ => passesBy_nil _) fun _ => .replied rfl head
  | arrived old head =>
      exact changes_replaced there old now rfl (fun _ => passesBy_nil _) fun _ => .arrived rfl head
  | handed old head object =>
      refine changes_replaced there old now rfl (fun different => ⟨?_, by simp⟩) ?_
      · simp [handedBy, different]
      · rintro rfl
        exact .handed rfl head object
  | dropped old head unheard =>
      exact changes_replaced there old now rfl (fun _ => passesBy_nil _) fun _ =>
        .dropped rfl head unheard

end Moves

end MessagePort.Session
