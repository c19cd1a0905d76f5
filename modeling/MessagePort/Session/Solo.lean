import MessagePort.Client.Tables
import MessagePort.Session.World

/-!
# A client by itself

One client, and for a daemon anything that gives each port object paths and ids of
its own. Calls follow each other, each answered in any way that such a daemon may
answer, and signals are dispatched between them.
-/

namespace MessagePort.Session

open Daemon Client Logical Semantics

/-- The name and the trust flag of a port. -/
abbrev Port := String × Bool

/-- What the daemon gives out: a path belongs to one port, and so does an id. -/
structure Naming where
  ofPath : ObjectPath → Option Port
  ofId : Guint → Option Port
  small : ∀ {id port}, ofId id = some port → id.toNat < 2 ^ 31

/-- The port whose properties a proxy has cached. -/
def portOf (service : MsgPortService) : Option Port :=
  service.portName.map fun name => (name, service.isTrusted)

/-- What an operation of the client can be answered: a registration gets a path of
the port, the proxy of a path caches its port and an id of the port, and the object
of a proxy is a new one. -/
def Naming.admits (naming : Naming) (client : ClientThread) :
    (operation : Operation) → operation.Answer → Bool
  | .call (.registerService name isTrusted), .ok path => naming.ofPath path = some (name, isTrusted)
  | .serviceProxyNew path, .ok service =>
      service.path = path ∧ naming.ofPath path = portOf service ∧
        naming.ofId service.id = portOf service ∧ service.handle ∉ client.objects
  | _, _ => true

/-- An answer to every operation. -/
abbrev Reaction := (operation : Operation) → operation.Answer

/-- What the client returns, or does with a signal. -/
inductive SoloEvent where
  | returned (call : ApiCall) (returned : Returned)
  | unregistered (serviceId : Gint) (status : MessageportError)
  | dispatched (path : ObjectPath) (message : OnMessage) (invocations : List Invocation)

/-- What the client does next. A signal has the path it is emitted on. -/
inductive SoloLabel where
  | call (call : ApiCall) (reactions : List Reaction)
  | unregister (serviceId : Gint) (reactions : List Reaction)
  | dispatch (path : ObjectPath) (message : OnMessage)

/-- Carry out one operation of the client. -/
def react (naming : Naming) (client : ClientThread) (operation : Operation) (reaction : Reaction) :
    Option (operation.Answer × List SoloEvent × ClientThread) :=
  if naming.admits client operation (reaction operation) then
    some (reaction operation, [],
      { client with objects := client.objectsAfter operation (reaction operation) })
  else none

/-- An operation looks at the objects only. -/
theorem Naming.admits_congr (naming : Naming) {client other : ClientThread}
    (same : client.objects = other.objects) : naming.admits client = naming.admits other := by
  funext operation
  unfold Naming.admits
  rw [same]

theorem ClientThread.objectsAfter_congr {client other : ClientThread}
    (same : client.objects = other.objects) : client.objectsAfter = other.objectsAfter := by
  funext operation answer
  unfold ClientThread.objectsAfter
  rw [same]

/-- The callbacks that a signal on a path runs, one for each proxy on the path. -/
def ClientThread.invocations (client : ClientThread) (path : ObjectPath) (message : OnMessage) :
    List Invocation :=
  (client.listeners path).filterMap fun handle =>
    match client.objects.lookup handle with
    | some ⟨_, id, some clientCb⟩ => some (onGotMessage id clientCb message)
    | _ => none

/-- One step of the client. -/
def Naming.step (naming : Naming) (client : ClientThread) :
    SoloLabel → Option (ClientThread × List SoloEvent)
  | .call call reactions =>
      match (call.program client.manager).exec (react naming) client reactions with
      | none => none
      | some (_, _, (returned, manager), after) =>
          some ({ after with manager := manager }, [.returned call returned])
  | .unregister serviceId reactions =>
      match (client.manager.unregisterServcie serviceId).exec (react naming) client reactions with
      | none => none
      | some (_, _, (status, manager), after) =>
          some ({ after with manager := manager }, [.unregistered serviceId status])
  | .dispatch path message =>
      some (client, [.dispatched path message (client.invocations path message)])

/-- A connected client. -/
def solo (naming : Naming) : EventSystem ClientThread SoloLabel SoloEvent := ⟨.new, naming.step⟩

/-- A registration that returned an id. -/
def Registers (name : String) (isTrusted : Bool) (cb : Callback) (id : Gint) (event : SoloEvent) :
    Prop :=
  ∃ visit returned,
    event = .returned (.registerLocalPort (some name) isTrusted (some cb) visit) returned ∧
    returned.value = id.toInt ∧ 0 ≤ id.toInt

/-- A registration or an unregistration that succeeded. -/
def Succeeds : SoloEvent → Prop
  | .returned (.registerLocalPort _ _ _ _) returned => 0 ≤ returned.value
  | .unregistered _ status => status = .none
  | _ => False

theorem Registers.succeeds {name : String} {isTrusted : Bool} {cb : Callback} {id : Gint}
    {event : SoloEvent} (registers : Registers name isTrusted cb id event) : Succeeds event := by
  obtain ⟨visit, returned, rfl, value, positive⟩ := registers
  show 0 ≤ returned.value
  rw [value]
  exact positive

/-- A registration is one of a port, with a callback and an id. -/
theorem Registers.unique {name other : String} {isTrusted trust : Bool} {cb callback : Callback}
    {id number : Gint} {event : SoloEvent} (registers : Registers name isTrusted cb id event)
    (registers' : Registers other trust callback number event) :
    name = other ∧ isTrusted = trust ∧ cb = callback ∧ id = number := by
  obtain ⟨visit, returned, rfl, value, _⟩ := registers
  obtain ⟨_, _, same, value', _⟩ := registers'
  simp only [SoloEvent.returned.injEq, ApiCall.registerLocalPort.injEq, Option.some.injEq] at same
  obtain ⟨⟨rfl, rfl, rfl, rfl⟩, rfl⟩ := same
  exact ⟨rfl, rfl, rfl, BitVec.eq_of_toInt_eq (value.symm.trans value')⟩

/-! ## What one step can do -/

/-- The tables and the objects of a client agree with each other, and with what the
daemon gave out. -/
structure Coherent (naming : Naming) (client : ClientThread) : Prop where
  connected : client.manager.proxy = true
  linked : client.manager.Linked
  given : ∀ {path service}, client.manager.services.lookup path = some service →
    ∃ port, portOf service = some port ∧ naming.ofPath path = some port ∧
      naming.ofId service.id = some port
  /-- No port has two services. -/
  alone : ∀ {path other service held}, client.manager.services.lookup path = some service →
    client.manager.services.lookup other = some held → portOf held = portOf service → other = path
  heard : ∀ {path service}, client.manager.services.lookup path = some service →
    ∃ cb, client.objects.lookup service.handle = some ⟨path, service.id, some cb⟩
  alive : ∀ {handle object}, client.objects.lookup handle = some object →
    ∃ service, client.manager.services.lookup object.path = some service ∧ service.handle = handle

/-- Store a new service in both tables. -/
def stored (manager : MsgPortManager) (service : MsgPortService) : MsgPortManager :=
  { manager with
    services := manager.services.insert service.path service
    localServices := manager.localServices.insert (gintToPointer service.id) service.path }

/-- The callback of a service object is replaced. -/
def ClientThread.replaceHandler (client : ClientThread) (handle : Handle) (cb : Callback) :
    ClientThread :=
  { client with objects := client.objects.modify handle fun object =>
    { object with clientCb := some cb } }

/-- A service is stored and heard. -/
def ClientThread.addService (client : ClientThread) (service : MsgPortService) (cb : Callback) :
    ClientThread :=
  { client with
    manager := stored client.manager service
    objects := client.objects.insert service.handle ⟨service.path, service.id, some cb⟩ }

/-- A service is removed from both tables, and released. -/
def ClientThread.removeService (client : ClientThread) (path : ObjectPath)
    (service : MsgPortService) :
    ClientThread :=
  { client with
    manager := { client.manager with
      localServices := client.manager.localServices.erase (gintToPointer service.id)
      services := client.manager.services.erase path }
    objects := client.objects.erase service.handle }

section Updates

variable (client : ClientThread) (service : MsgPortService) (cb : Callback)

theorem replaceHandler_objects (handle other : Handle) :
    (client.replaceHandler handle cb).objects.lookup other =
      if other = handle then
        (client.objects.lookup handle).map fun object => { object with clientCb := some cb }
      else client.objects.lookup other :=
  HashTable.lookup_modify_eq _ _ _ _

variable {path place : ObjectPath} {held : MsgPortService} {handle : Handle}
    {object : ServiceObject}

theorem addService_services :
    (client.addService service cb).manager.services.lookup path = some held ↔
    (path = service.path ∧ service = held) ∨
      (path ≠ service.path ∧ client.manager.services.lookup path = some held) :=
  HashTable.lookup_insert_some

theorem addService_objects : (client.addService service cb).objects.lookup handle = some object ↔
    (handle = service.handle ∧ ⟨service.path, service.id, some cb⟩ = object) ∨
      (handle ≠ service.handle ∧ client.objects.lookup handle = some object) :=
  HashTable.lookup_insert_some

theorem removeService_services :
    (client.removeService place service).manager.services.lookup path = some held ↔
    path ≠ place ∧ client.manager.services.lookup path = some held :=
  HashTable.lookup_erase_some

theorem removeService_objects :
    (client.removeService place service).objects.lookup handle = some object ↔
    handle ≠ service.handle ∧ client.objects.lookup handle = some object :=
  HashTable.lookup_erase_some

end Updates

/-- A service of a port that the client has not got, with what the daemon gave out. -/
structure Fresh (naming : Naming) (client : ClientThread) (service : MsgPortService) (port : Port) :
    Prop where
  matched : portOf service = some port
  missed : ∀ {path held}, client.manager.services.lookup path = some held → portOf held ≠ some port
  path : naming.ofPath service.path = some port
  id : naming.ofId service.id = some port
  handle : service.handle ∉ client.objects

/-- How a registration can end. -/
inductive RegistrationEnds (naming : Naming) (before : ClientThread) :
    Option String → Bool → Option Callback →
    MessageportError × Option Gint × MsgPortManager → ClientThread → Prop where
  | failed {name isTrusted cb status} (failure : status ≠ .none) :
      RegistrationEnds naming before name isTrusted cb (status, none, before.manager) before
  | existing {name isTrusted cb path service}
      (found : before.manager.services.lookup path = some service)
      (matched : portOf service = some (name, isTrusted)) :
      RegistrationEnds naming before (some name) isTrusted (some cb)
        (.none, some service.id, before.manager) (before.replaceHandler service.handle cb)
  | created {name isTrusted cb service} (fresh : Fresh naming before service (name, isTrusted)) :
      RegistrationEnds naming before (some name) isTrusted (some cb)
        (.none, some service.id, stored before.manager service)
        { before with
          objects := before.objects.insert service.handle ⟨service.path, service.id, some cb⟩ }

/-- What an operation may be answered, and what it does to the client. -/
def Reacts (naming : Naming) (before : ClientThread) (operation : Operation)
    (answer : operation.Answer) (after : ClientThread) : Prop :=
  naming.admits before operation answer = true ∧
    after = { before with objects := before.objectsAfter operation answer }

theorem reacts_of_react {naming : Naming} {before after : ClientThread} {operation : Operation}
    {reaction : Reaction} {answer : operation.Answer} {events : List SoloEvent}
    (reacted : react naming before operation reaction = some (answer, events, after)) :
    Reacts naming before operation answer after := by
  unfold react at reacted
  split at reacted
  case isTrue admitted =>
    simp only [Option.some.injEq, Prod.mk.injEq] at reacted
    obtain ⟨rfl, _, rfl⟩ := reacted
    exact ⟨admitted, rfl⟩
  · cases reacted

/-- What holds after every execution holds after one. -/
theorem holds_of_exec {Result : Type} {naming : Naming} {program : Program Result}
    {before after : ClientThread} {reactions : List Reaction}
    {log : List (Interaction.Exchange ClientThread SoloEvent Operation Operation.Answer)}
    {events : List SoloEvent} {result : Result} {post : Result → ClientThread → Prop}
    (holds : program.wp (Reacts naming) post before)
    (evaluated : program.exec (react naming) before reactions = some (log, events, result, after)) :
    post result after := by
  refine Interaction.wp_of_exec ?_ holds evaluated
  exact reacts_of_react

/-- No method call does anything to the client. -/
theorem reacts_leaves (naming : Naming) : Leaves (Reacts naming) := by
  rintro client request answer after _ ⟨_, rfl⟩
  rfl

/-- A service is created for a path that the daemon gave out for a new port. -/
theorem createAndCacheService_reacts {naming : Naming} {client : ClientThread}
    (coherent : Coherent naming client) {name : String} {isTrusted : Bool} {objectPath : ObjectPath}
    (missed : ∀ {path held}, client.manager.services.lookup path = some held →
      portOf held ≠ some (name, isTrusted))
    (given : naming.ofPath objectPath = some (name, isTrusted)) (cb : Callback) :
    (client.manager.createAndCacheService objectPath cb).wp (Reacts naming)
      (RegistrationEnds naming client (some name) isTrusted (some cb)) client := by
  unfold MsgPortManager.createAndCacheService MsgPortService.new
  rintro answer _ ⟨admitted, rfl⟩
  cases answer with
  | error error => exact .failed (by simp)
  | ok service =>
      obtain ⟨rfl, path, id, fresh⟩ : service.path = objectPath ∧
          naming.ofPath objectPath = portOf service ∧
          naming.ofId service.id = portOf service ∧ service.handle ∉ client.objects := by
        simpa [Naming.admits] using admitted
      rintro _ _ ⟨_, rfl⟩
      have matched := path.symm.trans given
      have new : client.manager.services.lookup service.path = none := by
        rw [Option.eq_none_iff_forall_ne_some]
        intro held found
        obtain ⟨port, of, ofPath, _⟩ := coherent.given found
        exact missed found (of.trans (ofPath.symm.trans given))
      have created : RegistrationEnds naming client (some name) isTrusted (some cb)
          (.none, some service.id, stored client.manager service) { client with
            objects := HashTable.modify
              (client.objects.insert service.handle ⟨service.path, service.id, none⟩)
              service.handle fun object => { object with clientCb := some cb } } := by
        rw [HashTable.modify_insert]
        exact .created ⟨matched, missed, given, id.trans matched, fresh⟩
      dsimp only
      split
      · exact created
      case h_2 held found =>
        rw [new] at found
        cases found

theorem findService_iff {name : String} {isTrusted : Bool} {service : MsgPortService} :
    MsgPortManager.findService name isTrusted service = true ↔
      portOf service = some (name, isTrusted) := by
  simp only [MsgPortManager.findService, Bool.decide_and, Bool.and_eq_true,
    decide_eq_true_eq, portOf, Option.map_eq_some_iff, Prod.mk.injEq]
  constructor
  · rintro ⟨named, trusted⟩
    exact ⟨name, named, rfl, trusted⟩
  · rintro ⟨_, named, rfl, trusted⟩
    exact ⟨named, trusted⟩

/-- A registration ends in one of three ways. -/
theorem registerService_reacts {naming : Naming} {client : ClientThread}
    (coherent : Coherent naming client) (portName : Option String) (isTrusted : Bool)
    (cb : Option Callback) (visit : List ObjectPath) :
    (client.manager.registerService portName isTrusted cb visit).wp (Reacts naming)
      (RegistrationEnds naming client portName isTrusted cb) client := by
  have program := client.manager.registerService_cases portName isTrusted cb visit
  generalize client.manager.registerService portName isTrusted cb visit = registers at program ⊢
  cases program with
  | failed failure => exact .failed failure
  | found there matched =>
      rintro _ _ ⟨_, rfl⟩
      exact .existing there (findService_iff.mp matched)
  | @asked name _ messageCb missed =>
      rintro answer _ ⟨admitted, rfl⟩
      cases answer with
      | error error => exact .failed (msgportDaemonErrorToError_ne_none error)
      | ok path =>
          refine createAndCacheService_reacts coherent (fun found matched => ?_)
            (by simpa [Naming.admits] using admitted) messageCb
          have refused := missed _ _ found
          rw [findService_iff.mpr matched] at refused
          cases refused

/-- What one step does to the tables and the objects. -/
inductive Acts (naming : Naming) (before : ClientThread) : SoloEvent → ClientThread → Prop where
  | kept {event} (failed : ¬ Succeeds event) : Acts naming before event before
  | replaced {event name isTrusted cb path service}
      (registers : Registers name isTrusted cb service.id event)
      (found : before.manager.services.lookup path = some service)
      (matched : portOf service = some (name, isTrusted)) :
      Acts naming before event (before.replaceHandler service.handle cb)
  | cached {event name isTrusted cb service}
      (registers : Registers name isTrusted cb service.id event)
      (fresh : Fresh naming before service (name, isTrusted)) :
      Acts naming before event (before.addService service cb)
  | removed {path service} (found : before.manager.services.lookup path = some service) :
      Acts naming before (.unregistered service.id .none) (before.removeService path service)

/-- An id that is given out is no error code. -/
theorem Naming.toInt_nonneg {naming : Naming} {id : Guint} {port : Port}
    (given : naming.ofId id = some port) :
    0 ≤ id.toInt := by
  have small := naming.small given
  rw [BitVec.toInt_eq_toNat_cond, if_pos (by omega)]
  omega

/-- What a registration returns tells whether it succeeded. -/
theorem RegistrationEnds.acts {naming : Naming} {before after : ClientThread}
    (coherent : Coherent naming before) {name : Option String} {isTrusted : Bool}
    {cb : Option Callback} {status : MessageportError} {out : Option Gint} {left : MsgPortManager}
    (visit : List ObjectPath)
    (registration : RegistrationEnds naming before name isTrusted cb (status, out, left) after) :
    Acts naming before (.returned (.registerLocalPort name isTrusted cb visit)
      ⟨if 0 < (out.getD 0).toInt then (out.getD 0).toInt else status.code, none, none, none⟩)
      { after with manager := left } := by
  have registers {name cb} {id : Gint} {port : Port} (given : naming.ofId id = some port) :
      Registers name isTrusted cb id
        (.returned (.registerLocalPort (some name) isTrusted (some cb) visit)
        ⟨if 0 < id.toInt then id.toInt else MessageportError.none.code, none, none, none⟩) := by
    have positive := naming.toInt_nonneg given
    refine ⟨visit, _, rfl, ?_, positive⟩
    dsimp only
    split
    · rfl
    · simp only [MessageportError.code]
      omega
  cases registration with
  | failed failure =>
      refine .kept ?_
      have negative := MessageportError.code_neg failure
      simp [Succeeds]
      omega
  | existing found matched =>
      obtain ⟨_, _, _, given⟩ := coherent.given found
      exact .replaced (registers given) found matched
  | created fresh => exact .cached (registers fresh.id) fresh

/-- An unregistration removes a service, or fails. -/
theorem unregisterServcie_reacts {naming : Naming} {client : ClientThread}
    (coherent : Coherent naming client) (serviceId : Gint) :
    (client.manager.unregisterServcie serviceId).wp (Reacts naming)
      (fun out after => Acts naming client (.unregistered serviceId out.1)
        { after with manager := out.2 }) client := by
  unfold MsgPortManager.unregisterServcie
  rw [if_neg (by simp [coherent.connected]), coherent.linked.getLocalPort_eq]
  cases leads : client.manager.localServices.lookup (gintToPointer serviceId) with
  | none => exact .kept (by simp [Succeeds])
  | some path =>
      obtain ⟨service, found, ids⟩ := coherent.linked.leads leads
      obtain rfl := gintToPointer_inj.mp ids
      simp only [Option.bind_some, found]
      rintro answer _ ⟨_, rfl⟩
      cases answer with
      | error error => exact .kept (by simp [Succeeds])
      | ok _ =>
          rintro _ _ ⟨_, rfl⟩
          simp only [leads, Option.elim_some]
          exact .removed found

/-- A call that returns was carried out. -/
theorem Naming.step_call {naming : Naming} {before after : ClientThread} {call : ApiCall}
    {reactions : List Reaction} {events : List SoloEvent}
    (transition : naming.step before (.call call reactions) = some (after, events)) :
    ∃ log emitted returned manager final,
      (call.program before.manager).exec (react naming) before reactions =
        some (log, emitted, (returned, manager), final) ∧
      after = { final with manager := manager } ∧ events = [.returned call returned] := by
  rw [step] at transition
  rcases evaluated : (call.program before.manager).exec (react naming) before reactions with
    _ | ⟨log, emitted, ⟨returned, manager⟩, final⟩ <;> rw [evaluated] at transition
  · cases transition
  · obtain ⟨rfl, rfl⟩ := Prod.mk.inj (Option.some.inj transition)
    exact ⟨log, emitted, returned, manager, final, rfl, rfl, rfl⟩

/-- So was an unregistration. -/
theorem Naming.step_unregister {naming : Naming} {before after : ClientThread} {serviceId : Gint}
    {reactions : List Reaction} {events : List SoloEvent}
    (transition : naming.step before (.unregister serviceId reactions) = some (after, events)) :
    ∃ log emitted status manager final,
      (before.manager.unregisterServcie serviceId).exec (react naming) before reactions =
        some (log, emitted, (status, manager), final) ∧
      after = { final with manager := manager } ∧ events = [.unregistered serviceId status] := by
  rw [step] at transition
  rcases evaluated : (before.manager.unregisterServcie serviceId).exec (react naming) before
    reactions with _ | ⟨log, emitted, ⟨status, manager⟩, final⟩ <;> rw [evaluated] at transition
  · cases transition
  · obtain ⟨rfl, rfl⟩ := Prod.mk.inj (Option.some.inj transition)
    exact ⟨log, emitted, status, manager, final, rfl, rfl, rfl⟩

/-- One step gives one event, and does what `Acts` says. -/
theorem Naming.step_acts {naming : Naming} {before after : ClientThread} {label : SoloLabel}
    {events : List SoloEvent} (coherent : Coherent naming before)
    (transition : naming.step before label = some (after, events)) :
    ∃ event, events = [event] ∧ Acts naming before event after := by
  cases label with
  | dispatch path message =>
      obtain ⟨rfl, rfl⟩ := Prod.mk.inj (Option.some.inj transition)
      exact ⟨_, rfl, .kept (by simp [Succeeds])⟩
  | unregister serviceId reactions =>
      obtain ⟨log, emitted, status, manager, final, evaluated, rfl, rfl⟩ :=
        step_unregister transition
      have acts := holds_of_exec (unregisterServcie_reacts coherent serviceId) evaluated
      exact ⟨_, rfl, acts⟩
  | call call reactions =>
      obtain ⟨log, emitted, returned, manager, final, evaluated, rfl, rfl⟩ :=
        step_call transition
      refine ⟨_, rfl, ?_⟩
      by_cases registers : ∃ localPort isTrusted callback visit,
          call = .registerLocalPort localPort isTrusted callback visit
      · obtain ⟨localPort, isTrusted, callback, visit, rfl⟩ := registers
        refine @holds_of_exec _ naming _ before _ _ _ _ _
          (fun (out : Returned × MsgPortManager) after =>
          Acts naming before (.returned _ out.1) { after with manager := out.2 }) ?_ evaluated
        apply Interaction.wp_bind
        apply Interaction.wp_bind
        refine Interaction.wp_mono ?_
          (registerService_reacts coherent localPort isTrusted callback visit)
        rintro ⟨status, out, left⟩ after registration
        exact registration.acts coherent visit
      · obtain ⟨left, rfl⟩ := holds_of_exec
          (program_wp_quiet (reacts_leaves naming) before.manager before
          fun localPort isTrusted callback visit same =>
            registers ⟨localPort, isTrusted, callback, visit, same⟩) evaluated
        have same : manager = final.manager := by
          rcases left with rfl | ⟨id, rfl⟩
          · rfl
          · rw [coherent.linked.getLocalPort_eq]
        rw [same]
        refine .kept ?_
        cases call with
        | registerLocalPort localPort isTrusted callback visit =>
            exact absurd ⟨_, _, _, _, rfl⟩ registers
        | _ => exact id

/-- A connected client has no ports. -/
theorem coherent_new (naming : Naming) : Coherent naming .new where
  connected := rfl
  linked := MsgPortManager.linked_new
  given found := by cases found
  alone found := by cases found
  heard found := by cases found
  alive found := by cases found

/-- The object of a new service is no service's object yet. -/
theorem Fresh.handle_ne {naming : Naming} {client : ClientThread} {service held : MsgPortService}
    {port : Port} {path : ObjectPath} (fresh : Fresh naming client service port)
    (coherent : Coherent naming client) (found : client.manager.services.lookup path = some held) :
    held.handle ≠ service.handle := by
  intro same
  obtain ⟨cb, object⟩ := coherent.heard found
  exact fresh.handle (same ▸ HashTable.lookup_isSome_iff.mpr ⟨_, object⟩)

/-- Its path is no service's path yet. -/
theorem Fresh.path_ne {naming : Naming} {client : ClientThread} {service held : MsgPortService}
    {port : Port} {path : ObjectPath} (fresh : Fresh naming client service port)
    (coherent : Coherent naming client) (found : client.manager.services.lookup path = some held) :
    path ≠ service.path := by
  rintro rfl
  obtain ⟨_, matched, given, _⟩ := coherent.given found
  exact fresh.missed found (matched.trans (given.symm.trans fresh.path))

/-- Its id is no service's id yet. -/
theorem Fresh.id_ne {naming : Naming} {client : ClientThread} {service held : MsgPortService}
    {port : Port} {path : ObjectPath} (fresh : Fresh naming client service port)
    (coherent : Coherent naming client) (found : client.manager.services.lookup path = some held) :
    held.id ≠ service.id := by
  intro same
  obtain ⟨_, matched, _, given⟩ := coherent.given found
  exact fresh.missed found (matched.trans (given.symm.trans (same ▸ fresh.id)))

/-- Two services have two objects. -/
theorem Coherent.path_of_handle {naming : Naming} {client : ClientThread}
    (coherent : Coherent naming client) {path other : ObjectPath} {service held : MsgPortService}
    (found : client.manager.services.lookup path = some service)
    (found' : client.manager.services.lookup other = some held)
    (same : held.handle = service.handle) :
    other = path := by
  obtain ⟨_, object⟩ := coherent.heard found
  obtain ⟨_, object'⟩ := coherent.heard found'
  rw [same, object, Option.some.injEq, ServiceObject.mk.injEq] at object'
  exact object'.1.symm

namespace Coherent

variable {naming : Naming} {client : ClientThread} {service : MsgPortService} {path : ObjectPath}

theorem replaceHandler (coherent : Coherent naming client) (handle : Handle) (cb : Callback) :
    Coherent naming (client.replaceHandler handle cb) where
  connected := coherent.connected
  linked := coherent.linked
  given := coherent.given
  alone := coherent.alone
  heard {place held} found := by
    obtain ⟨old, object⟩ := coherent.heard found
    rw [replaceHandler_objects]
    split
    case isTrue same =>
      rw [← same, object]
      exact ⟨cb, rfl⟩
    · exact ⟨old, object⟩
  alive {other object} there := by
    rw [replaceHandler_objects] at there
    split at there
    case isTrue same =>
      obtain ⟨old, earlier, rfl⟩ := Option.map_eq_some_iff.mp there
      obtain ⟨held, found, own⟩ := coherent.alive earlier
      exact ⟨held, found, own.trans same.symm⟩
    · exact coherent.alive there

theorem addService (coherent : Coherent naming client) {port : Port}
    (fresh : Fresh naming client service port) (cb : Callback) :
    Coherent naming (client.addService service cb) where
  connected := coherent.connected
  linked := coherent.linked.cache fun found =>
    iff_of_false (fresh.path_ne coherent found) (fresh.id_ne coherent found)
  given {place held} found := by
    rcases (addService_services _ _ _).mp found with ⟨rfl, rfl⟩ | ⟨_, found⟩
    · exact ⟨_, fresh.matched, fresh.path, fresh.id⟩
    · exact coherent.given found
  alone {place other held held'} found found' same := by
    rcases (addService_services _ _ _).mp found with ⟨rfl, rfl⟩ | ⟨_, found⟩
    · rcases (addService_services _ _ _).mp found' with ⟨rfl, rfl⟩ | ⟨_, found'⟩
      · rfl
      · exact absurd (same.trans fresh.matched) (fresh.missed found')
    · rcases (addService_services _ _ _).mp found' with ⟨rfl, rfl⟩ | ⟨_, found'⟩
      · exact absurd (same.symm.trans fresh.matched) (fresh.missed found)
      · exact coherent.alone found found' same
  heard {place held} found := by
    rcases (addService_services _ _ _).mp found with ⟨rfl, rfl⟩ | ⟨_, found⟩
    · exact ⟨cb, (addService_objects _ _ _).mpr (.inl ⟨rfl, rfl⟩)⟩
    · obtain ⟨old, object⟩ := coherent.heard found
      exact ⟨old, (addService_objects _ _ _).mpr (.inr ⟨fresh.handle_ne coherent found, object⟩)⟩
  alive {handle object} there := by
    rcases (addService_objects _ _ _).mp there with ⟨rfl, rfl⟩ | ⟨_, there⟩
    · exact ⟨service, (addService_services _ _ _).mpr (.inl ⟨rfl, rfl⟩), rfl⟩
    · obtain ⟨held, found, same⟩ := coherent.alive there
      exact ⟨held, (addService_services _ _ _).mpr
        (.inr ⟨fresh.path_ne coherent found, found⟩), same⟩

theorem removeService (coherent : Coherent naming client)
    (found : client.manager.services.lookup path = some service) :
    Coherent naming (client.removeService path service) where
  connected := coherent.connected
  linked := coherent.linked.remove (coherent.linked.listed found)
  given found' := coherent.given ((removeService_services _ _).mp found').2
  alone found' found'' :=
    coherent.alone ((removeService_services _ _).mp found').2
      ((removeService_services _ _).mp found'').2
  heard {other held} found' := by
    obtain ⟨different, found'⟩ := (removeService_services _ _).mp found'
    obtain ⟨cb, object⟩ := coherent.heard found'
    refine ⟨cb, (removeService_objects _ _).mpr ⟨fun same => ?_, object⟩⟩
    exact different (coherent.path_of_handle found found' same)
  alive {handle object} there := by
    obtain ⟨different, there⟩ := (removeService_objects _ _).mp there
    obtain ⟨held, found', same⟩ := coherent.alive there
    refine ⟨held, (removeService_services _ _).mpr ⟨?_, found'⟩, same⟩
    intro place
    rw [place, found, Option.some.injEq] at found'
    exact different (same.symm.trans (congrArg MsgPortService.handle found'.symm))

end Coherent

/-- Every step keeps tables and objects coherent. -/
theorem Coherent.acts {naming : Naming} {before after : ClientThread} {event : SoloEvent}
    (coherent : Coherent naming before) (acts : Acts naming before event after) :
    Coherent naming after := by
  cases acts with
  | kept => exact coherent
  | replaced => exact coherent.replaceHandler _ _
  | cached _ fresh => exact coherent.addService fresh _
  | removed found => exact coherent.removeService found

/-- The tables and objects of a client are coherent in every run. -/
theorem coherent_of_runs {naming : Naming} {trace : List SoloEvent} {client : ClientThread}
    (run : (solo naming).Runs trace client) : Coherent naming client := by
  refine @EventSystem.Runs.invariant _ _ _ (solo naming) (fun _ client => Coherent naming client)
    (coherent_new naming) ?_ _ _ run
  intro trace before label after emitted _ coherent transition
  obtain ⟨event, rfl, acts⟩ := Naming.step_acts coherent transition
  exact coherent.acts acts

end MessagePort.Session
