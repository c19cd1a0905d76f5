import Mathlib.Logic.Function.Basic
import MessagePort.Refinement.Ownership
import MessagePort.Session.Handed
import MessagePort.Session.Mirror
import MessagePort.Session.Ports

/-!
# Each client of the world acts as a client by itself

The daemon, with all its other clients, is one way to name ports. What a client of the
world has in its tables after its calls, and what they returned, is what a client by
itself comes to that is answered by names: the steps of the others in the midst of its
calls cannot be told from answers. It is also what a client comes to that has its strings
on the heap.
-/

namespace MessagePort.Refinement

open Daemon Client Logical Semantics Session

/-- The names are those of the ports that were created. -/
def NamesCreated (naming : Naming) (events : List Event) : Prop :=
  ∀ service appId, .created service appId ∈ events →
    naming.ofPath service.objectPath = some (service.portName, service.isTrusted) ∧
      naming.ofId service.id = some (service.portName, service.isTrusted)

/-- The first port created with this property. -/
def firstCreated (events : List Event) (accepts : DbusService → Bool) : Option Port :=
  events.findSome? fun
    | .created service _ =>
        if accepts service then some (service.portName, service.isTrusted) else none
    | _ => none

/-- The names that a run of the daemon gives out. -/
def namingOf (events : List Event) : Naming where
  ofPath path := firstCreated events fun service => service.objectPath = path
  ofId id := if id.toNat < 2 ^ 31 then firstCreated events fun service => service.id = id else none
  small {id port} given := by
    split at given
    · assumption
    · cases given

/-- A service that alone has the property is the first one. -/
theorem firstCreated_eq {events : List Event} {accepts : DbusService → Bool} {service : DbusService}
    {appId : Option String} (made : .created service appId ∈ events)
    (accepted : accepts service = true)
    (alone : ∀ other app, .created other app ∈ events → accepts other = true → other = service) :
    firstCreated events accepts = some (service.portName, service.isTrusted) := by
  unfold firstCreated
  cases found : events.findSome? fun
      | .created service _ =>
          if accepts service then some (service.portName, service.isTrusted) else none
      | _ => none with
  | none =>
      have missed := List.findSome?_eq_none_iff.mp found _ made
      simp [accepted] at missed
  | some port =>
      obtain ⟨event, member, hit⟩ := List.exists_of_findSome?_eq_some found
      split at hit
      case h_1 other app =>
        split at hit
        case isTrue accepted' =>
          obtain rfl := alone other app member accepted'
          exact hit.symm
        · cases hit
      · cases hit

/-- In a regular run these are the names of the ports. -/
theorem namesCreated_of_runs {events : List Event} {state : State} (run : system.Runs events state)
    (regular : Regular events) : NamesCreated (namingOf events) events := by
  have distinct := (List.nodup_cons.mp (regular.nodup run)).2
  intro service appId made
  have alone (other : DbusService) (app : Option String) (made' : .created other app ∈ events)
      (same : other.id = service.id) : other = service := (created_inj distinct made' made same).1
  have small : service.id.toNat < 2 ^ 31 :=
    regular.small run (List.mem_filterMap.mpr ⟨_, made, rfl⟩)
  constructor
  · refine firstCreated_eq made (decide_eq_true rfl) fun other app made' same =>
      alone other app made' ?_
    exact objectPathOf_inj.mp (of_decide_eq_true same)
  · simp only [namingOf, if_pos small]
    exact firstCreated_eq made (decide_eq_true rfl) fun other app made' same =>
      alone other app made' (of_decide_eq_true same)

/-- A port that is owned has its name. -/
theorem NamesCreated.owned {naming : Naming} {events : List Event} {state : State}
    (names : NamesCreated naming events) (run : system.Runs events state) {conn : Conn}
    {name : String} {isTrusted : Bool} {id : Guint} (owned : Owns state conn name isTrusted id) :
    naming.ofPath (objectPathOf id) = some (name, isTrusted) ∧
      naming.ofId id = some (name, isTrusted) := by
  obtain ⟨addr, live⟩ := owned
  obtain ⟨dbusManager, made, _⟩ := created_of_live run live
  obtain ⟨ofPath, ofId⟩ := names _ _ made
  exact ⟨ofPath, ofId⟩

/-- The calls of a client that returned. -/
def callsOf (conn : Conn) (events : List WorldEvent) : List SoloEvent :=
  events.filterMap fun
    | .returned caller call returned =>
        if caller = conn then some (.returned call returned) else none
    | _ => none

@[simp] theorem callsOf_append (conn : Conn) (first second : List WorldEvent) :
    callsOf conn (first ++ second) = callsOf conn first ++ callsOf conn second :=
      List.filterMap_append

/-- What is left of a call: what it comes to, the whole call comes to. -/
def Midway (naming : Naming) (alone : ClientThread) (call : ApiCall)
    (program : Program (Returned × MsgPortManager)) (objects : HashTable Handle ServiceObject) :
    Prop :=
  ∃ earlier : List Reaction, ∀ later result after,
    (∃ log events, program.exec (react naming) { alone with objects := objects } later =
      some (log, events, result, after)) →
    ∃ log events, (call.program alone.manager).exec (react naming) alone (earlier ++ later) =
      some (log, events, result, after)

/-- Some reaction gives any answer. -/
theorem exists_reaction (operation : Operation) (answer : operation.Answer) :
    ∃ reaction : Reaction, reaction operation = answer := by
  classical
  exact ⟨Function.update accepting operation answer, Function.update_self ..⟩

/-- One operation further. -/
theorem Midway.perform {naming : Naming} {alone client : ClientThread} {call : ApiCall}
    {operation : Operation} {resume : operation.Answer → Program (Returned × MsgPortManager)}
    {answer : operation.Answer}
    (midway : Midway naming alone call (.perform operation resume) client.objects)
    (admitted : naming.admits client operation answer = true) :
    Midway naming alone call (resume answer) (client.objectsAfter operation answer) := by
  obtain ⟨earlier, completes⟩ := midway
  obtain ⟨reaction, rfl⟩ := exists_reaction operation answer
  let here : ClientThread := { alone with objects := client.objects }
  have same : here.objects = client.objects := rfl
  rw [← naming.admits_congr same] at admitted
  rw [← ClientThread.objectsAfter_congr same]
  refine ⟨earlier ++ [reaction], fun later result after ⟨log, events, evaluated⟩ => ?_⟩
  rw [List.append_assoc]
  have served : react naming here operation reaction = some (reaction operation, [],
      { here with objects := here.objectsAfter operation (reaction operation) }) := if_pos admitted
  exact completes (reaction :: later) result after ⟨_, _, Interaction.exec_perform served evaluated⟩

/-- What an operation is answered in the world, a client by itself can be answered. -/
theorem admits_of_served {naming : Naming} {trace events : List Event} {state after : State}
    {conn : Conn} {client : ClientThread} {operation : Operation} {outside : Outside}
    {answer : operation.Answer} {passed : Passing} (run : system.Runs trace state)
    (unique : (0 :: createdIds (trace ++ events)).Nodup) (exported : false ∉ attempts events)
    (names : NamesCreated naming (trace ++ events))
    (served : serveOperation state conn operation outside = some (answer, events, after))
    (fresh : outside.handle ∉ client.objects)
    (allows : ClientView.Allows passed ⟨client.objects, Owns state conn⟩ operation) :
    naming.admits client operation answer = true := by
  have might := might_of_served run unique exported served
  have later := run.trans (serves_steps ⟨_, served⟩)
  cases operation with
  | call request =>
      cases request with
      | registerService name isTrusted =>
          cases answer with
          | error error => rfl
          | ok path =>
              obtain ⟨id, rfl, gains⟩ := might
              have owned : Owns after conn name isTrusted id :=
                (gains.ports _ _ _).mpr (.inr ⟨rfl, rfl, rfl⟩)
              exact decide_eq_true (names.owned later owned).1
      | _ => rfl
  | serviceProxyNew path =>
      cases answer with
      | error error => rfl
      | ok service =>
          obtain ⟨⟨name, isTrusted, id, owned, rfl⟩, _⟩ := allows
          obtain ⟨same, created⟩ := might
          obtain ⟨handle, answered⟩ := created name isTrusted id owned rfl
          obtain rfl := Except.ok.inj answered
          rw [← same] at owned
          obtain ⟨ofPath, ofId⟩ := names.owned later owned
          exact decide_eq_true ⟨rfl, ofPath, ofId, (newHandle_of_served served fresh).2⟩
  | _ => rfl

/-- The client is where a client by itself can be, with the same calls behind it. -/
def ActsAlone (naming : Naming) (trace : List WorldEvent) (conn : Conn) (client : ClientThread) :
    Prop :=
  ∃ alone, (solo naming).Runs (callsOf conn (sinceOpened conn trace)) alone ∧
    alone.manager = client.manager ∧ (client.activity = none → alone.objects = client.objects) ∧
    ∀ call program, client.activity = some (call, program) →
      Midway naming alone call program client.objects

/-- A step that returns nothing to the client and leaves its call as it was. -/
theorem ActsAlone.kept {naming : Naming} {trace : List WorldEvent} {conn : Conn}
    {client found : ClientThread} (acts : ActsAlone naming trace conn client)
    {emitted : List WorldEvent} (quiet : ∀ event ∈ emitted, opens conn event = false)
    (silent : callsOf conn emitted = []) (manager : found.manager = client.manager)
    (activity : found.activity = client.activity) (objects : found.objects = client.objects) :
    ActsAlone naming (trace ++ emitted) conn found := by
  obtain ⟨alone, run, same, between, during⟩ := acts
  refine ⟨alone, ?_, same.trans manager.symm, fun idle => ?_, fun call program active => ?_⟩
  · rw [sinceOpened_append quiet, callsOf_append, silent, List.append_nil]
    exact run
  · rw [objects]
    exact between (activity ▸ idle)
  · rw [objects]
    exact during call program (activity ▸ active)

/-- A call begins: nothing of it is done. -/
theorem ActsAlone.began {naming : Naming} {trace : List WorldEvent} {conn : Conn}
    {client : ClientThread} (acts : ActsAlone naming trace conn client)
    (idle : client.activity = none) (call : ApiCall) :
    ActsAlone naming trace conn
      { client with activity := some (call, call.program client.manager) } := by
  obtain ⟨alone, run, same, between, _⟩ := acts
  refine ⟨alone, run, same, (by cases ·), fun called program active => ?_⟩
  obtain ⟨rfl, rfl⟩ := Prod.mk.inj (Option.some.inj active)
  refine ⟨[], fun later result last ends => ?_⟩
  rw [← between idle, ← same] at ends
  exact ends

/-- A call returns: the client by itself makes the whole of it now. -/
theorem ActsAlone.finished {naming : Naming} {trace : List WorldEvent} {conn : Conn}
    {client : ClientThread} (acts : ActsAlone naming trace conn client) {call : ApiCall}
    {returned : Returned} {manager : MsgPortManager}
    (ended : client.activity = some (call, .done (returned, manager))) :
    ActsAlone naming (trace ++ [.returned conn call returned]) conn
      { client with activity := none, manager := manager } := by
  obtain ⟨alone, run, _, _, during⟩ := acts
  obtain ⟨earlier, completes⟩ := during _ _ ended
  obtain ⟨log, events, whole⟩ := completes [] _ _ ⟨[], [], rfl⟩
  have steps : (solo naming).step alone (.call call (earlier ++ [])) = some
      ({ alone with objects := client.objects, manager := manager },
        [.returned call returned]) := by
    simp only [solo, Naming.step, whole]
  refine ⟨{ alone with objects := client.objects, manager := manager }, ?_, rfl, fun _ => rfl,
    fun _ _ active => by cases active⟩
  have quiet : ∀ event ∈ [WorldEvent.returned conn call returned], opens conn event = false := by
    simp [opens]
  have single : callsOf conn [.returned conn call returned] = [.returned call returned] := by
    simp [callsOf]
  rw [sinceOpened_append quiet, callsOf_append, single]
  exact run.snoc steps

/-- An operation of a call is answered as a client by itself can be answered. -/
theorem ActsAlone.performed {naming : Naming} {trace : List WorldEvent} {conn : Conn}
    {client : ClientThread}
    (acts : ActsAlone naming trace conn client) {call : ApiCall} {operation : Operation}
    {resume : operation.Answer → Program (Returned × MsgPortManager)} {answer : operation.Answer}
    {emitted : List WorldEvent} (messages : List OnMessage)
    (active : client.activity = some (call, .perform operation resume))
    (admitted : naming.admits client operation answer = true)
    (quiet : ∀ event ∈ emitted, opens conn event = false) (silent : callsOf conn emitted = []) :
    ActsAlone naming (trace ++ emitted) conn (ClientThread.after { client with
      activity := some (call, resume answer)
      objects := client.objectsAfter operation answer } operation messages) := by
  obtain ⟨alone, run, same, _, during⟩ := acts
  refine ⟨alone, ?_, ?_, fun idle => ?_, fun called program busy => ?_⟩
  · rw [sinceOpened_append quiet, callsOf_append, silent, List.append_nil]
    exact run
  · rw [ClientThread.after_manager]
    exact same
  · rw [ClientThread.after_activity] at idle
    cases idle
  · rw [ClientThread.after_activity] at busy
    obtain ⟨rfl, rfl⟩ := Prod.mk.inj (Option.some.inj busy)
    rw [ClientThread.after_objects]
    exact (during _ _ active).perform admitted

/-- What passes a client by is no return of one of its calls. -/
theorem callsOf_passesBy {conn : Conn} {emitted : List WorldEvent} (past : PassesBy conn emitted) :
    callsOf conn emitted = [] := by
  refine List.filterMap_eq_nil_iff.mpr fun event member => ?_
  cases event with
  | returned caller call returned =>
      refine if_neg ?_
      rintro rfl
      exact past.returned call returned member
  | _ => rfl

/-- Every step leaves a client where one by itself can be. -/
theorem ActsAlone.changed {naming : Naming} {trace emitted : List WorldEvent} {before : World}
    {after : State} {conn : Conn} {client found : ClientThread}
    (acts : ActsAlone naming trace conn client)
    (changes : Changes before.daemon after conn client emitted found)
    (run : system.Runs (daemonEvents trace) before.daemon)
    (steps : system.Steps before.daemon (daemonEvents emitted) after)
    (regular : Regular (daemonEvents trace ++ daemonEvents emitted))
    (names : NamesCreated naming (daemonEvents trace ++ daemonEvents emitted))
    (accounted : Accounted trace before conn client)
    (quiet : ∀ event ∈ emitted, opens conn event = false) :
    ActsAlone naming (trace ++ emitted) conn found := by
  cases changes with
  | same past => exact acts.kept quiet (callsOf_passesBy past) rfl rfl rfl
  | received past => exact acts.kept quiet (callsOf_passesBy past) rfl rfl rfl
  | performed active fresh served =>
      have unique := regular.nodup (run.trans steps)
      rw [daemonEvents_performed] at regular names unique
      have admitted := admits_of_served run unique regular.exported_right names served fresh
        (accounted.during active).2.1
      exact acts.performed _ active admitted quiet (callsOf_passesBy (passesBy_performed _ _ _ _ _))
  | @began call _ idle =>
      rw [List.append_nil]
      exact acts.began idle call
  | finished _ ended => exact acts.finished ended
  | _ => exact acts.kept quiet rfl rfl rfl rfl

/-- Every client of the world acts as one by itself. -/
theorem actsAlone_of_runs {naming : Naming} {trace : List WorldEvent} {state : World}
    (run : world.Runs trace state) (regular : Regular (daemonEvents trace))
    (names : NamesCreated naming (daemonEvents trace)) :
    ∀ conn client, state.clients.lookup conn = some client →
      ActsAlone naming trace conn client := by
  refine @EventSystem.Runs.invariant_of _ _ _ world
    (fun trace => Regular (daemonEvents trace) ∧ NamesCreated naming (daemonEvents trace)) ?_
    (fun trace state => ∀ conn client, state.clients.lookup conn = some client →
      ActsAlone naming trace conn client) ?_ ?_ _ _ run ⟨regular, names⟩
  · rintro before after ⟨regular, names⟩
    rw [daemonEvents_append] at regular names
    exact ⟨regular.of_append, fun service appId made => names service appId
      (List.mem_append_left _ made)⟩
  · intro conn client there
    cases there
  rintro trace before label after emitted prior ih transition ⟨regular, names⟩ conn found now
  have moves := World.step_cases transition
  have daemonRun := daemon_of_runs prior
  cases there : before.clients.lookup conn with
  | none =>
      obtain ⟨rfl, emits, opened⟩ := moves.appeared prior there now
      refine ⟨.new, ?_, rfl, fun _ => rfl, fun _ _ active => by cases active⟩
      rw [sinceOpened_opened emits opened]
      exact .refl
  | some client =>
      have open_ := open_of_runs prior conn client there
      have accounted := accounted_of_runs prior (regular_of_append regular) conn client there
      rw [daemonEvents_append] at regular names
      exact (ih conn client there).changed (moves.changes there open_ now) daemonRun
        moves.steps regular names accounted (moves.quiet (sound_of_runs daemonRun) open_)

/-- Between its calls a client of the world has the tables and the objects that a client
by itself comes to with the same calls, when it is answered with the names of the run; and
so does one that keeps the paths as strings on the heap. -/
theorem clients_refine {trace : List WorldEvent} {state : World} (run : world.Runs trace state)
    (regular : Regular (daemonEvents trace)) :
    ∃ naming, NamesCreated naming (daemonEvents trace) ∧ ∀ conn client,
      state.clients.lookup conn = some client →
      client.activity = none → ∃ alone,
      (solo naming).Runs (callsOf conn (sinceOpened conn trace)) alone ∧
        alone.manager = client.manager ∧ alone.objects = client.objects ∧
        ∃ memory, (memorySystem naming).Runs
          ((callsOf conn (sinceOpened conn trace)).map .solo) memory ∧
          StandsFor memory alone := by
  have names := namesCreated_of_runs (daemon_of_runs run) regular
  refine ⟨_, names, fun conn client there idle => ?_⟩
  obtain ⟨alone, runs, same, between, _⟩ := actsAlone_of_runs run regular names conn client there
  exact ⟨alone, runs, same, between idle, covered_of_runs runs⟩

/-- A client that registered a port, by itself, without its strings and with them. -/
theorem clients_refine_registered :
    ∃ naming calls alone memory, naming.ofId 1 = some ("port", false) ∧
    (solo naming).Runs calls alone ∧ calls.length = 1 ∧ StandsFor memory alone ∧
    alone.manager.services.lookup "/1" = some ⟨0, "/1", 1, some "port", false⟩ := by
  obtain ⟨trace, state, run, accepted⟩ := @EventSystem.Runs.of_exec _ _ _ world registered
    (fun state trace => attempts (daemonEvents trace) = [true] ∧
      (callsOf 0 (sinceOpened 0 trace)).length = 1 ∧
      ((daemonEvents trace).any fun
        | .created service _ =>
            service.id = 1 && service.portName = "port" && service.isTrusted = false
        | _ => false) ∧
      (state.clients.lookup 0).any fun client => client.activity.isNone ∧
        client.manager.services.lookup "/1" = some ⟨0, "/1", 1, some "port", false⟩) (by decide)
  obtain ⟨tries, called, created, held⟩ := of_decide_eq_true accepted
  obtain ⟨client, there, idle, cached⟩ : ∃ client, state.clients.lookup 0 = some client ∧
      client.activity = none ∧
      client.manager.services.lookup "/1" = some ⟨0, "/1", 1, some "port", false⟩ := by
    simpa [Option.any_eq_true] using held
  obtain ⟨naming, names, alone⟩ := clients_refine run ⟨by rw [tries]; decide, by rw [tries]; decide⟩
  obtain ⟨found, runs, same, _, memory, _, stands⟩ := alone 0 client there idle
  obtain ⟨event, made, matched⟩ := List.any_eq_true.mp created
  cases event with
  | created service appId =>
      obtain ⟨⟨id, portName⟩, isTrusted⟩ : (service.id = 1 ∧ service.portName = "port") ∧
          service.isTrusted = false := by simpa using matched
      refine ⟨naming, _, found, memory, ?_, runs, called, stands, same ▸ cached⟩
      rw [← id, (names service appId made).2, portName, isTrusted]
  | _ => cases matched

end MessagePort.Refinement
