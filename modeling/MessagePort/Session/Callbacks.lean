import MessagePort.Session.Addressed
import MessagePort.Session.Changes
import MessagePort.Session.Register

/-!
# Where callbacks come from

A callback runs for a message because its client passed it for the port of the
message, and for no other port. The client's tables and service objects are followed
through every operation of a registration: no object is released while another one
may get its address, and none is connected for a port of another name.
-/

namespace MessagePort.Session

open Daemon Client Logical Semantics

/-- What the operations of a client see and change. -/
structure ClientView where
  objects : HashTable Handle ServiceObject
  /-- The ports of its connection. -/
  ports : Ports

/-- The callbacks that a client passed, each for a port name and a trust flag. -/
abbrev Passing := String → Bool → Callback → Prop

/-- A new proxy gets an object of its own. -/
def NewHandle (objects : HashTable Handle ServiceObject) :
    (operation : Operation) → operation.Answer → Prop
  | .serviceProxyNew path, .ok service => service.path = path ∧ service.handle ∉ objects
  | _, _ => True

/-- How an operation may be answered, and what it does. -/
structure ClientView.May (before : ClientView) (operation : Operation) (answer : operation.Answer)
    (after : ClientView) : Prop where
  ports : Might before.ports operation answer after.ports
  handle : NewHandle before.objects operation answer
  objects : ∃ client : ClientThread, client.objects = before.objects ∧
    after.objects = client.objectsAfter operation answer

/-- The object is that of a port of the client, for which it passed the callback. -/
def Vouched (passed : Passing) (ports : Ports) (object : ServiceObject) (cb : Callback) : Prop :=
  object.path = objectPathOf object.id ∧
    ∃ name isTrusted, ports name isTrusted object.id ∧ passed name isTrusted cb

/-- Callbacks are stored only where they belong, a proxy is created for a port that has
none yet, and no object is released. -/
def ClientView.Allows (passed : Passing) (view : ClientView) : Operation → Prop
  | .connectOnMessage handle cb => ∀ object, view.objects.lookup handle = some object →
      Vouched passed view.ports object cb
  | .setMessageHandler handle cb => ∀ object, view.objects.lookup handle = some object →
      Vouched passed view.ports object cb
  | .serviceProxyNew path =>
      (∃ name isTrusted id, view.ports name isTrusted id ∧ path = objectPathOf id) ∧
      ∀ handle object, view.objects.lookup handle = some object → object.path ≠ path
  | .serviceUnref _ => False
  | .call _ => True

/-- Every service is one of the client's ports, and its object is there with a callback;
there are no others. -/
structure Backed (manager : MsgPortManager) (view : ClientView) : Prop where
  port : ∀ {path service}, manager.services.lookup path = some service →
    path = objectPathOf service.id ∧
    ∃ name, service.portName = some name ∧ view.ports name service.isTrusted service.id
  object : ∀ {path service}, manager.services.lookup path = some service →
    ∃ cb, view.objects.lookup service.handle = some ⟨path, service.id, some cb⟩
  covered : ∀ {handle object}, view.objects.lookup handle = some object →
    ∃ service, manager.services.lookup object.path = some service

theorem Backed.leftBy {manager left : MsgPortManager} {view : ClientView}
    (backed : Backed manager view) (leftBy : LeftBy manager left) : Backed left view := by
  rcases leftBy with rfl | ⟨id, rfl⟩
  · exact backed
  · unfold MsgPortManager.getLocalPort
    split
    · exact backed
    · split
      · exact ⟨backed.port, backed.object, backed.covered⟩
      · exact backed

/-- More ports do not matter. -/
theorem Backed.gains {manager : MsgPortManager} {objects : HashTable Handle ServiceObject}
    {before after : Ports} {name : String} {isTrusted : Bool} {id : Guint}
    (backed : Backed manager ⟨objects, before⟩) (gains : Gains before name isTrusted id after) :
    Backed manager ⟨objects, after⟩ where
  port found := by
    obtain ⟨same, port, named, owned⟩ := backed.port found
    exact ⟨same, port, named, (gains.ports _ _ _).mpr (.inl owned)⟩
  object := backed.object
  covered := backed.covered

/-- A replaced callback does not matter. -/
theorem Backed.modify {manager : MsgPortManager} {objects : HashTable Handle ServiceObject}
    {ports : Ports} (backed : Backed manager ⟨objects, ports⟩) (handle : Handle) (cb : Callback) :
    Backed manager ⟨objects.modify handle fun object =>
      { object with clientCb := some cb }, ports⟩ where
  port := backed.port
  object found := by
    obtain ⟨old, there⟩ := backed.object found
    rw [HashTable.lookup_modify_eq]
    split
    case isTrue same =>
      dsimp only at there
      rw [← same, there]
      exact ⟨cb, rfl⟩
    · exact ⟨old, there⟩
  covered found := by
    rw [HashTable.lookup_modify_eq] at found
    split at found
    · obtain ⟨old, there, rfl⟩ := Option.map_eq_some_iff.mp found
      obtain ⟨service, held⟩ := backed.covered there
      exact ⟨service, held⟩
    · exact backed.covered found

/-- A new service with its object. -/
theorem Backed.store {manager : MsgPortManager}
    {objects : HashTable Handle ServiceObject} {ports : Ports}
    (backed : Backed manager ⟨objects, ports⟩) {service : MsgPortService} {name : String}
    (named : service.portName = some name) (owned : ports name service.isTrusted service.id)
    (place : service.path = objectPathOf service.id) (fresh : service.handle ∉ objects)
    {cb : Callback} (localServices : HashTable Gpointer ObjectPath) :
    Backed { manager with
      services := manager.services.insert service.path service, localServices := localServices }
      ⟨objects.insert service.handle ⟨service.path, service.id, some cb⟩, ports⟩ where
  port found := by
    rcases HashTable.lookup_insert_some.mp found with ⟨rfl, rfl⟩ | ⟨_, found⟩
    · exact ⟨place, name, named, owned⟩
    · exact backed.port found
  object found := by
    rcases HashTable.lookup_insert_some.mp found with ⟨rfl, rfl⟩ | ⟨_, found⟩
    · exact ⟨cb, AList.lookup_insert _⟩
    · obtain ⟨held, there⟩ := backed.object found
      refine ⟨held, HashTable.lookup_insert_some.mpr (.inr ⟨?_, there⟩)⟩
      rintro same
      exact fresh (same ▸ HashTable.lookup_isSome_iff.mpr ⟨_, there⟩)
  covered {handle object} found := by
    rcases HashTable.lookup_insert_some.mp found with ⟨_, rfl⟩ | ⟨_, found⟩
    · exact ⟨service, AList.lookup_insert _⟩
    · obtain ⟨held, there⟩ := backed.covered found
      by_cases same : object.path = service.path
      · exact ⟨service, HashTable.lookup_insert_some.mpr (.inl ⟨same, rfl⟩)⟩
      · exact ⟨held, HashTable.lookup_insert_some.mpr (.inr ⟨same, there⟩)⟩

/-! ## What each public function stores -/

section Programs

variable {passed : Passing}

/-- The callback goes into the object of the port that was just registered. -/
theorem createAndCacheService_backed {manager : MsgPortManager}
    {objects : HashTable Handle ServiceObject} {before ports : Ports} {name : String}
    {isTrusted : Bool} {id : Guint} {cb : Callback} (backed : Backed manager ⟨objects, before⟩)
    (gains : Gains before name isTrusted id ports)
    (missed : ∀ path service, manager.services.lookup path = some service →
      MsgPortManager.findService name isTrusted service = false)
    (passes : passed name isTrusted cb) :
    (manager.createAndCacheService (objectPathOf id) cb).safely ClientView.May
      (ClientView.Allows passed) (fun out view => Backed out.2.2 view) ⟨objects, ports⟩ := by
  have owned : ports name isTrusted id := (gains.ports _ _ _).mpr (.inr ⟨rfl, rfl, rfl⟩)
  -- a service on the path would have been found by its name
  have absent (old : MsgPortService)
      (found : manager.services.lookup (objectPathOf id) = some old) : False := by
    obtain ⟨place, other, named, held⟩ := backed.port found
    obtain rfl := objectPathOf_inj.mp place
    obtain ⟨rfl, trust⟩ := gains.alone _ _ ((gains.ports _ _ _).mpr (.inl held))
    have passedOver := missed _ old found
    simp [MsgPortManager.findService, named, trust] at passedOver
  unfold MsgPortManager.createAndCacheService MsgPortService.new
  refine ⟨⟨⟨name, isTrusted, id, owned, rfl⟩, ?_⟩, fun answer after may => ?_⟩
  · intro handle object there same
    obtain ⟨old, found⟩ := backed.covered there
    exact absent old (same ▸ found)
  obtain ⟨after, left⟩ := after
  obtain ⟨might, fresh, client, same, made⟩ := may
  dsimp only at might fresh same made
  cases answer with
  | error error =>
      obtain rfl := might
      rw [ClientThread.objectsAfter, same] at made
      subst made
      exact backed.gains gains
  | ok service =>
      obtain ⟨rfl, created⟩ := might
      obtain ⟨handle, answered⟩ := created name isTrusted id owned rfl
      obtain rfl := Except.ok.inj answered
      rw [ClientThread.objectsAfter, same] at made
      subst made
      refine ⟨fun object there => ?_, fun _ last may => ?_⟩
      · dsimp only at there
        rw [AList.lookup_insert] at there
        obtain rfl := Option.some.inj there
        exact ⟨rfl, name, isTrusted, owned, passes⟩
      · obtain ⟨last, left⟩ := last
        obtain ⟨rfl, _, client, same, made⟩ := may
        dsimp only at same made
        rw [ClientThread.objectsAfter, same, HashTable.modify_insert] at made
        subst made
        have stored := @Backed.store manager objects left (backed.gains gains)
          ⟨handle, objectPathOf id, id, some name, isTrusted⟩ name rfl owned rfl fresh.2 cb
          (manager.localServices.insert (gintToPointer id) (objectPathOf id))
        dsimp only
        split
        · exact stored
        case h_2 old found =>
          exact (absent old found).elim

/-- A registration stores the callback for the port it names. -/
theorem registerService_backed {manager : MsgPortManager} {view : ClientView}
    (backed : Backed manager view) (portName : Option String) (isTrusted : Bool)
    (messageCb : Option Callback) (visit : List ObjectPath)
    (passes : ∀ name cb, portName = some name → messageCb = some cb → passed name isTrusted cb) :
    (manager.registerService portName isTrusted messageCb visit).safely ClientView.May
      (ClientView.Allows passed) (fun out view => Backed out.2.2 view) view := by
  obtain ⟨objects, ports⟩ := view
  have program := manager.registerService_cases portName isTrusted messageCb visit
  generalize manager.registerService portName isTrusted messageCb visit = registers at program ⊢
  cases program with
  | failed _ => exact backed
  | @found name _ cb path service there matched =>
      obtain ⟨named, trusted⟩ : service.portName = some name ∧ service.isTrusted = isTrusted := by
        simpa [MsgPortManager.findService] using matched
      obtain ⟨place, port, named', owned⟩ := backed.port there
      obtain rfl := Option.some.inj (named.symm.trans named')
      refine ⟨fun object held => ?_, fun _ after may => ?_⟩
      · obtain ⟨clientCb, held'⟩ := backed.object there
        obtain rfl := Option.some.inj (held.symm.trans held')
        exact ⟨place, name, isTrusted, trusted ▸ owned, passes name cb rfl rfl⟩
      · obtain ⟨after, left⟩ := after
        obtain ⟨rfl, _, client, same, made⟩ := may
        dsimp only at same made
        rw [ClientThread.objectsAfter, same] at made
        subst made
        exact backed.modify _ cb
  | @asked name _ cb missed =>
      refine ⟨trivial, fun answer after may => ?_⟩
      obtain ⟨after, left⟩ := after
      obtain ⟨might, _, client, same, made⟩ := may
      dsimp only at might same made
      rw [ClientThread.objectsAfter, same] at made
      subst made
      cases answer with
      | error error =>
          obtain rfl := might
          exact backed
      | ok path =>
          obtain ⟨id, rfl, gains⟩ := might
          exact createAndCacheService_backed backed gains missed (passes name cb rfl rfl)

/-- Only a registration is noticed. -/
theorem clientView_leaves : Leaves ClientView.May := by
  intro view request answer next other may
  obtain ⟨objects, ports⟩ := next
  obtain ⟨might, _, client, same, made⟩ := may
  have left := might_leaves other might
  dsimp only at left made
  rw [ClientThread.objectsAfter, same] at made
  rw [left, made]

/-- Every public function keeps the services backed, and stores the callback it is
given for the port it is given for. -/
theorem program_backed {manager : MsgPortManager} {view : ClientView} (backed : Backed manager view)
    (call : ApiCall) (passes : ∀ name isTrusted cb visit,
      call = .registerLocalPort (some name) isTrusted (some cb) visit → passed name isTrusted cb) :
    (call.program manager).safely ClientView.May (ClientView.Allows passed)
      (fun out view => Backed out.2 view) view := by
  by_cases registers : ∃ localPort isTrusted callback visit,
      call = .registerLocalPort localPort isTrusted callback visit
  · obtain ⟨localPort, isTrusted, callback, visit, rfl⟩ := registers
    apply Interaction.safely_bind
    apply Interaction.safely_bind
    refine Interaction.safely_mono ?_
      (registerService_backed backed localPort isTrusted callback visit ?_)
    · rintro ⟨res, stored, left⟩ after kept
      exact kept
    · rintro name cb rfl rfl
      exact passes name isTrusted cb visit rfl
  · have quiet : ∀ localPort isTrusted callback visit,
        call ≠ .registerLocalPort localPort isTrusted callback visit :=
      fun localPort isTrusted callback visit same =>
        registers ⟨localPort, isTrusted, callback, visit, same⟩
    apply Interaction.safely_of_only
    · exact program_only_quiet (fun _ _ _ _ => trivial) (fun _ _ _ => trivial)
        (fun _ _ _ _ => trivial) manager quiet
    · refine Interaction.wp_mono ?_ (program_wp_quiet clientView_leaves manager view quiet)
      rintro ⟨returned, left⟩ _ ⟨forgets, rfl⟩
      exact backed.leftBy forgets

end Programs

/-! ## Along a run -/

/-- The client is in a registration of the port with the callback. -/
def Registering (conn : Conn) (name : String) (isTrusted : Bool) (cb : Callback) (state : World) :
    Prop :=
  ∃ client visit program, state.clients.lookup conn = some client ∧
    client.activity = some (.registerLocalPort (some name) isTrusted (some cb) visit, program)

/-- The client was in such a registration since its connection was opened. -/
def HasPassed (trace : List WorldEvent) (state : World) (conn : Conn) : Passing :=
  fun name isTrusted cb =>
    world.Once (fun event => opens conn event = true)
      (Registering conn name isTrusted cb) trace state

/-- What a client sees of the world. -/
def viewOf (state : World) (conn : Conn) (client : ClientThread) : ClientView :=
  ⟨client.objects, Owns state.daemon conn⟩

/-- A signal that is queued for an object is on its path. -/
def Placed (client : ClientThread) : Prop :=
  ∀ queued ∈ client.pending, ∃ object, client.objects.lookup queued.1 = some object ∧
    object.path = queued.2.service.objectPath

/-- No two objects are on one path. -/
def Alone (client : ClientThread) : Prop :=
  ∀ handle other object found, client.objects.lookup handle = some object →
    client.objects.lookup other = some found → object.path = found.path → handle = other

/-- Every callback of the client is vouched for, and will be. -/
structure Accounted (trace : List WorldEvent) (state : World) (conn : Conn)
    (client : ClientThread) : Prop where
  heard : ∀ {handle object cb}, client.objects.lookup handle = some object →
    object.clientCb = some cb →
    Vouched (HasPassed trace state conn) (Owns state.daemon conn) object cb
  placed : Placed client
  alone : Alone client
  between : client.activity = none → Backed client.manager (viewOf state conn client)
  during : ∀ {call program}, client.activity = some (call, program) →
    (∀ name isTrusted cb visit, call = .registerLocalPort (some name) isTrusted (some cb) visit →
      HasPassed trace state conn name isTrusted cb) ∧
    program.safely ClientView.May (ClientView.Allows (HasPassed trace state conn))
      (fun out view => Backed out.2 view) (viewOf state conn client)

/-- What was passed before a step was passed after it. -/
def Widens (trace emitted : List WorldEvent) (before after : World) (conn : Conn) : Prop :=
  ∀ name isTrusted cb, HasPassed trace before conn name isTrusted cb →
    HasPassed (trace ++ emitted) after conn name isTrusted cb

theorem Vouched.mono {passed wider : Passing} {ports : Ports} {object : ServiceObject}
    {cb : Callback} (vouched : Vouched passed ports object cb)
    (widen : ∀ name isTrusted cb, passed name isTrusted cb → wider name isTrusted cb) :
    Vouched wider ports object cb := by
  obtain ⟨path, name, isTrusted, owned, passes⟩ := vouched
  exact ⟨path, name, isTrusted, owned, widen name isTrusted cb passes⟩

theorem ClientView.Allows.mono {passed wider : Passing}
    (widen : ∀ name isTrusted cb, passed name isTrusted cb → wider name isTrusted cb)
    (view : ClientView) (operation : Operation) (allows : view.Allows passed operation) :
    view.Allows wider operation := by
  cases operation with
  | connectOnMessage handle cb => exact fun object there => (allows object there).mono widen
  | setMessageHandler handle cb => exact fun object there => (allows object there).mono widen
  | serviceProxyNew path => exact allows
  | serviceUnref handle => exact allows.elim
  | call request => trivial

/-- A step that does not concern the client, nor its ports. -/
theorem Accounted.kept {trace emitted : List WorldEvent} {before after : World} {conn : Conn}
    {client found : ClientThread} (accounted : Accounted trace before conn client)
    (widen : Widens trace emitted before after conn)
    (ports : Owns after.daemon conn = Owns before.daemon conn)
    (manager : found.manager = client.manager) (activity : found.activity = client.activity)
    (objects : found.objects = client.objects) (placed : Placed found) :
    Accounted (trace ++ emitted) after conn found where
  heard there stored := by
    rw [objects] at there
    rw [ports]
    exact (accounted.heard there stored).mono widen
  placed := placed
  alone := by
    unfold Alone
    rw [objects]
    exact accounted.alone
  between idle := by
    rw [manager, viewOf, objects, ports]
    exact accounted.between (activity ▸ idle)
  during active := by
    obtain ⟨passes, safe⟩ := accounted.during (activity ▸ active)
    rw [viewOf, objects, ports]
    exact ⟨fun name isTrusted cb visit same => widen _ _ _ (passes name isTrusted cb visit same),
      Interaction.safely_weaken (ClientView.Allows.mono widen) safe⟩

/-! ## The client that acts -/

/-- No operation takes a port away. -/
theorem Might.keeps {before after : Ports} {operation : Operation} {answer : operation.Answer}
    (might : Might before operation answer after) {name : String} {isTrusted : Bool} {id : Guint}
    (owned : before name isTrusted id) : after name isTrusted id := by
  cases operation with
  | call request =>
      cases request with
      | registerService port trust =>
          cases answer with
          | error error =>
              obtain rfl := might
              exact owned
          | ok path =>
              obtain ⟨_, _, gains⟩ := might
              exact (gains.ports _ _ _).mpr (.inl owned)
      | _ =>
          obtain rfl := might
          exact owned
  | serviceProxyNew path =>
      cases answer with
      | error error =>
          obtain rfl := might
          exact owned
      | ok service =>
          obtain ⟨rfl, _⟩ := might
          exact owned
  | _ =>
      obtain rfl := might
      exact owned

/-- A proxy is on the path that was asked for, and its object at the address that was free. -/
theorem newHandle_of_served {state after : State} {conn : Conn} {operation : Operation}
    {outside : Outside} {answer : operation.Answer} {events : List Event}
    {objects : HashTable Handle ServiceObject}
    (served : serveOperation state conn operation outside = some (answer, events, after))
    (fresh : outside.handle ∉ objects) : NewHandle objects operation answer := by
  cases operation with
  | serviceProxyNew path =>
      simp only [serveOperation, Option.some.injEq] at served
      obtain ⟨rfl, -, -⟩ := served
      split
      · trivial
      · refine ⟨?_, (proxyProperties_handle state conn path outside.handle).symm ▸ fresh⟩
        unfold proxyProperties
        split <;> rfl
  | _ => trivial

/-- The objects stay where they are, on their paths, unless one is released. -/
theorem ClientThread.objectsAfter_path {client : ClientThread} {operation : Operation}
    {answer : operation.Answer} (fresh : NewHandle client.objects operation answer)
    (kept : ∀ handle, operation ≠ .serviceUnref handle) {handle : Handle} {object : ServiceObject}
    (there : client.objects.lookup handle = some object) :
    ∃ left, (client.objectsAfter operation answer).lookup handle = some left ∧
      left.path = object.path := by
  have modified (changed : Handle) (cb : Callback) : ∃ left,
      (client.objects.modify changed fun object =>
        { object with clientCb := some cb }).lookup handle =
        some left ∧ left.path = object.path := by
    rw [HashTable.lookup_modify_eq]
    split
    case isTrue same =>
      rw [← same, there]
      exact ⟨_, rfl, rfl⟩
    · exact ⟨object, there, rfl⟩
  cases operation with
  | call request => exact ⟨object, there, rfl⟩
  | serviceProxyNew path =>
      cases answer with
      | error error => exact ⟨object, there, rfl⟩
      | ok service =>
          refine ⟨object, HashTable.lookup_insert_some.mpr (.inr ⟨?_, there⟩), rfl⟩
          rintro rfl
          exact fresh.2 (HashTable.lookup_isSome_iff.mpr ⟨_, there⟩)
  | connectOnMessage changed cb => exact modified changed cb
  | setMessageHandler changed cb => exact modified changed cb
  | serviceUnref released => exact absurd rfl (kept released)

/-- A callback that an operation stores is vouched for, as the others were. -/
theorem ClientThread.objectsAfter_heard {passed : Passing} {ports : Ports} {client : ClientThread}
    {operation : Operation} {answer : operation.Answer}
    (allows : ClientView.Allows passed ⟨client.objects, ports⟩ operation)
    (heard : ∀ {handle object cb}, client.objects.lookup handle = some object →
      object.clientCb = some cb → Vouched passed ports object cb)
    {handle : Handle} {object : ServiceObject} {cb : Callback}
    (there : (client.objectsAfter operation answer).lookup handle = some object)
    (stored : object.clientCb = some cb) : Vouched passed ports object cb := by
  have modified {changed : Handle} {handler : Callback}
      (allowed : ∀ object, client.objects.lookup changed = some object →
        Vouched passed ports object handler) (there : (client.objects.modify changed fun object =>
        { object with clientCb := some handler }).lookup handle = some object) :
      Vouched passed ports object cb := by
    rw [HashTable.lookup_modify_eq] at there
    split at there
    · obtain ⟨old, found, rfl⟩ := Option.map_eq_some_iff.mp there
      obtain rfl := Option.some.inj stored
      exact allowed old found
    · exact heard there stored
  cases operation with
  | call request => exact heard there stored
  | serviceProxyNew path =>
      cases answer with
      | error error => exact heard there stored
      | ok service =>
          rcases HashTable.lookup_insert_some.mp there with ⟨_, rfl⟩ | ⟨_, there⟩
          · cases stored
          · exact heard there stored
  | connectOnMessage changed handler => exact modified allows there
  | setMessageHandler changed handler => exact modified allows there
  | serviceUnref released => exact allows.elim

/-- A new object is on a path where there was none. -/
theorem Alone.performed {passed : Passing} {ports : Ports} {client : ClientThread}
    {operation : Operation} {answer : operation.Answer} (alone : Alone client)
    (allows : ClientView.Allows passed ⟨client.objects, ports⟩ operation)
    (fresh : NewHandle client.objects operation answer) :
    Alone { client with objects := client.objectsAfter operation answer } := by
  have modified (changed : Handle) (cb : Callback) : Alone { client with
      objects := client.objects.modify changed fun object =>
        { object with clientCb := some cb } } := by
    have came {handle : Handle} {object : ServiceObject}
        (there : (client.objects.modify changed fun object =>
        { object with clientCb := some cb }).lookup handle = some object) :
        ∃ old, client.objects.lookup handle = some old ∧ old.path = object.path := by
      rw [HashTable.lookup_modify_eq] at there
      split at there
      case isTrue same =>
        obtain ⟨old, found, rfl⟩ := Option.map_eq_some_iff.mp there
        exact ⟨old, same ▸ found, rfl⟩
      · exact ⟨object, there, rfl⟩
    intro handle other object found there there' same
    obtain ⟨old, was, path⟩ := came there
    obtain ⟨old', was', path'⟩ := came there'
    exact alone handle other old old' was was' (path.trans (same.trans path'.symm))
  cases operation with
  | call request => exact alone
  | serviceProxyNew path =>
      cases answer with
      | error error => exact alone
      | ok service =>
          obtain ⟨rfl, _⟩ := fresh
          intro handle other object found there there' same
          rcases HashTable.lookup_insert_some.mp there with ⟨rfl, rfl⟩ | ⟨_, was⟩
          · rcases HashTable.lookup_insert_some.mp there' with ⟨rfl, _⟩ | ⟨_, was'⟩
            · rfl
            · exact absurd same.symm (allows.2 other found was')
          · rcases HashTable.lookup_insert_some.mp there' with ⟨rfl, rfl⟩ | ⟨_, was'⟩
            · exact absurd same (allows.2 handle object was)
            · exact alone handle other object found was was' same
  | connectOnMessage changed cb => exact modified changed cb
  | setMessageHandler changed cb => exact modified changed cb
  | serviceUnref released => exact allows.elim

@[simp] theorem ClientThread.after_objects (acted : ClientThread) (operation : Operation)
    (messages : List OnMessage) : (acted.after operation messages).objects = acted.objects := by
  unfold ClientThread.after
  split <;> rfl

@[simp] theorem ClientThread.after_pending (acted : ClientThread) (operation : Operation)
    (messages : List OnMessage) : (acted.after operation messages).pending = acted.pending := by
  unfold ClientThread.after
  split <;> rfl

/-- An operation of a call keeps the client accounted for. -/
theorem Accounted.performed {trace emitted : List WorldEvent} {before after : World} {conn : Conn}
    {client found : ClientThread} {call : ApiCall} {operation : Operation}
    {resume : operation.Answer → Program (Returned × MsgPortManager)} {answer : operation.Answer}
    (accounted : Accounted trace before conn client)
    (widen : Widens trace emitted before after conn)
    (active : client.activity = some (call, .perform operation resume))
    (might : Might (Owns before.daemon conn) operation answer (Owns after.daemon conn))
    (fresh : NewHandle client.objects operation answer)
    (activity : found.activity = some (call, resume answer))
    (objects : found.objects = client.objectsAfter operation answer)
    (pending : found.pending = client.pending) : Accounted (trace ++ emitted) after conn found := by
  obtain ⟨passes, allows, serves⟩ := accounted.during active
  constructor
  · intro handle object cb there stored
    rw [objects] at there
    obtain ⟨path, name, isTrusted, owned, passed⟩ :=
      ClientThread.objectsAfter_heard allows accounted.heard there stored
    exact ⟨path, name, isTrusted, might.keeps owned, widen name isTrusted cb passed⟩
  · intro queued member
    rw [pending] at member
    obtain ⟨object, there, path⟩ := accounted.placed queued member
    have kept (handle : Handle) : operation ≠ .serviceUnref handle := by
      rintro rfl
      exact allows.elim
    obtain ⟨left, there, same⟩ := ClientThread.objectsAfter_path fresh kept there
    exact ⟨left, objects ▸ there, same.trans path⟩
  · unfold Alone
    rw [objects]
    exact accounted.alone.performed allows fresh
  · intro idle
    rw [idle] at activity
    cases activity
  · intro other program busy
    obtain ⟨rfl, rfl⟩ := Prod.mk.inj (Option.some.inj (activity.symm.trans busy))
    refine ⟨fun name isTrusted cb visit same =>
      widen _ _ _ (passes name isTrusted cb visit same), ?_⟩
    refine Interaction.safely_weaken (ClientView.Allows.mono widen)
      (serves answer _ ⟨might, fresh, client, rfl, ?_⟩)
    exact objects

/-! ## Every client -/

/-- What was passed stays passed, as long as the connection is open. -/
theorem HasPassed.step {trace emitted : List WorldEvent} {before after : World} {label : WorldLabel}
    (prior : world.Runs trace before) (transition : world.step before label = some (after, emitted))
    {conn : Conn} (open_ : conn ∈ before.daemon.dbusManagers) {name : String} {isTrusted : Bool}
    {cb : Callback} (passed : HasPassed trace before conn name isTrusted cb) :
    HasPassed (trace ++ emitted) after conn name isTrusted cb := by
  refine EventSystem.Once.step passed transition fun event member => ?_
  rw [(World.step_cases transition).quiet (sound_of_runs (daemon_of_runs prior)) open_ event member]
  exact Bool.false_ne_true

/-- A new client has nothing to account for. -/
theorem Accounted.new {trace : List WorldEvent} {state : World} {conn : Conn} :
    Accounted trace state conn .new where
  heard there := by cases there
  placed _ member := by cases member
  alone _ _ _ _ there := by cases there
  between _ := ⟨(by cases ·), (by cases ·), (by cases ·)⟩
  during active := by cases active

section Steps

variable {trace emitted : List WorldEvent} {before after : World} {conn : Conn}
    {client : ClientThread}

/-- A call begins, and a registration passes its callback from now on. -/
theorem Accounted.began (accounted : Accounted trace before conn client)
    (widen : Widens trace emitted before after conn)
    (ports : Owns after.daemon conn = Owns before.daemon conn) (idle : client.activity = none)
    (call : ApiCall)
    (passes : ∀ name isTrusted cb visit, call = .registerLocalPort (some name) isTrusted
      (some cb) visit → HasPassed (trace ++ emitted) after conn name isTrusted cb) :
    Accounted (trace ++ emitted) after conn
      { client with activity := some (call, call.program client.manager) } := by
  have view : viewOf after conn client = viewOf before conn client := congrArg _ ports
  refine ⟨fun there stored => ?_, accounted.placed, accounted.alone, (by cases ·), fun busy => ?_⟩
  · rw [ports]
    exact (accounted.heard there stored).mono widen
  · obtain ⟨rfl, rfl⟩ := Prod.mk.inj (Option.some.inj busy)
    exact ⟨passes, program_backed (view ▸ accounted.between idle) call passes⟩

/-- A call returns, and its tables are the client's. -/
theorem Accounted.finished (accounted : Accounted trace before conn client)
    (widen : Widens trace emitted before after conn)
    (ports : Owns after.daemon conn = Owns before.daemon conn) {call : ApiCall}
    {returned : Returned} {manager : MsgPortManager}
    (ended : client.activity = some (call, .done (returned, manager))) :
    Accounted (trace ++ emitted) after conn
      { client with manager := manager, activity := none } := by
  have view : viewOf after conn client = viewOf before conn client := congrArg _ ports
  refine ⟨fun there stored => ?_, accounted.placed, accounted.alone, fun _ => ?_, (by cases ·)⟩
  · rw [ports]
    exact (accounted.heard there stored).mono widen
  · exact view ▸ (accounted.during ended).2

/-- A signal is queued for the objects on its path. -/
theorem Placed.arrived (placed : Placed client) (message : OnMessage) (inbox : List Incoming) :
    Placed { client with
      inbox := inbox
      pending := client.pending ++ (client.listeners message.service.objectPath).map fun handle =>
        (handle, message) } := by
  intro queued member
  rcases List.mem_append.mp member with earlier | now
  · exact placed queued earlier
  · obtain ⟨handle, listens, rfl⟩ := List.mem_map.mp now
    obtain ⟨object, found, path⟩ := (Option.any_eq_true _ _).mp (List.mem_filter.mp listens).2
    exact ⟨object, found, of_decide_eq_true path⟩

/-- Handing over the first signal leaves the others where they were. -/
theorem Placed.rest (placed : Placed client) {first : Handle × OnMessage}
    {rest : List (Handle × OnMessage)} (head : client.pending = first :: rest) :
    Placed { client with pending := rest } :=
  fun queued member => placed queued (head ▸ List.mem_cons_of_mem _ member)

/-- Every step keeps a client accounted for. -/
theorem Accounted.changed {found : ClientThread} (accounted : Accounted trace before conn client)
    (changes : Changes before.daemon after.daemon conn client emitted found)
    (run : system.Runs (daemonEvents trace) before.daemon)
    (steps : system.Steps before.daemon (daemonEvents emitted) after.daemon)
    (regular : Regular (daemonEvents trace ++ daemonEvents emitted))
    (widen : Widens trace emitted before after conn)
    (passes : ∀ name isTrusted cb visit program, found.activity =
      some (.registerLocalPort (some name) isTrusted (some cb) visit, program) →
      client.activity = none → HasPassed (trace ++ emitted) after conn name isTrusted cb) :
    Accounted (trace ++ emitted) after conn found := by
  have unique := regular.nodup (run.trans steps)
  cases changes with
  | same _ _ apart =>
      exact accounted.kept widen (apart.owns_eq run unique) rfl rfl rfl accounted.placed
  | received _ apart =>
      exact accounted.kept widen (apart.owns_eq run unique) rfl rfl rfl accounted.placed
  | performed active fresh served =>
      rw [daemonEvents_performed] at regular unique
      have might := might_of_served run unique regular.exported_right served
      exact accounted.performed widen active might (newHandle_of_served served fresh)
        (ClientThread.after_activity _ _ _) (ClientThread.after_objects _ _ _)
        (ClientThread.after_pending _ _ _)
  | @began call quiet idle =>
      refine accounted.began widen (by rw [quiet]) idle call fun name isTrusted cb visit same => ?_
      subst same
      exact passes name isTrusted cb visit _ rfl idle
  | finished quiet ended => exact accounted.finished widen (by rw [quiet]) ended
  | replied quiet => exact accounted.kept widen (by rw [quiet]) rfl rfl rfl accounted.placed
  | @arrived message rest quiet =>
      exact accounted.kept widen (by rw [quiet]) rfl rfl rfl (accounted.placed.arrived message rest)
  | handed quiet head =>
      exact accounted.kept widen (by rw [quiet]) rfl rfl rfl (accounted.placed.rest head)
  | dropped quiet head =>
      exact accounted.kept widen (by rw [quiet]) rfl rfl rfl (accounted.placed.rest head)

end Steps

/-- Every callback of every client is vouched for, where ids are unique and exports succeed. -/
theorem accounted_of_runs {trace : List WorldEvent} {state : World} (run : world.Runs trace state)
    (regular : Regular (daemonEvents trace)) :
    ∀ conn client, state.clients.lookup conn = some client → Accounted trace state conn client := by
  refine @EventSystem.Runs.invariant_of _ _ _ world (fun trace => Regular (daemonEvents trace))
    regular_of_append (fun trace state => ∀ conn client, state.clients.lookup conn = some client →
      Accounted trace state conn client) ?_ ?_ _ _ run regular
  · intro conn client there
    cases there
  intro trace before label after emitted prior ih transition regular conn found now
  have moves := World.step_cases transition
  cases there : before.clients.lookup conn with
  | none =>
      obtain ⟨rfl, _⟩ := moves.appeared prior there now
      exact .new
  | some client =>
      have open_ := open_of_runs prior conn client there
      rw [daemonEvents_append] at regular
      refine (ih conn client there).changed (moves.changes there open_ now)
        (daemon_of_runs prior) moves.steps
        regular (fun _ _ _ passed => passed.step prior transition open_) ?_
      -- a registration has passed its callback from the moment on at which it begins
      intro name isTrusted cb visit program active idle
      exact .now (prior.snoc transition) ⟨_, visit, _, now, active⟩

end MessagePort.Session
