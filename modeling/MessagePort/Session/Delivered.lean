import MessagePort.Session.Idle

/-!
# Messages to a registered port

Once its registration has returned, a port is heard until its connection is closed: the
client keeps a service object with a callback for it, in and between its calls. No
message to the port is lost meanwhile, and the main loop alone hands over what is left.
-/

namespace MessagePort.Session

open Daemon Client Logical Semantics

/-- The client has a service object for the port, with a callback. -/
def ClientThread.Hears (client : ClientThread) (id : Guint) : Prop :=
  ∃ handle cb, client.objects.lookup handle = some ⟨objectPathOf id, id, some cb⟩

/-- The messages for one port. -/
def messagesTo (id : Guint) (messages : List OnMessage) : List OnMessage :=
  messages.filter (·.service.id = id)

@[simp] theorem messagesTo_append (id : Guint) (first second : List OnMessage) :
    messagesTo id (first ++ second) = messagesTo id first ++ messagesTo id second :=
  List.filter_append ..

theorem messagesTo_other {id : Guint} {message : OnMessage} (other : message.service.id ≠ id) :
    messagesTo id [message] = [] := by
  simp [messagesTo, other]

/-! ## What one step does to the port -/

/-- An operation that releases no object leaves each with a callback. -/
theorem ClientThread.Hears.performed {client found : ClientThread} {id : Guint}
    {operation : Operation} {answer : operation.Answer} (hears : client.Hears id)
    (fresh : NewHandle client.objects operation answer)
    (kept : ∀ handle, operation ≠ .serviceUnref handle)
    (objects : found.objects = client.objectsAfter operation answer) : found.Hears id := by
  obtain ⟨handle, cb, there⟩ := hears
  have modified (changed : Handle) (handler : Callback) (same : found.objects =
      client.objects.modify changed fun object => { object with clientCb := some handler }) :
      found.Hears id := by
    refine ⟨handle, ?_⟩
    rw [same, HashTable.lookup_modify_eq]
    split
    case isTrue here =>
      rw [← here, there]
      exact ⟨handler, rfl⟩
    · exact ⟨cb, there⟩
  cases operation with
  | call request => exact ⟨handle, cb, objects ▸ there⟩
  | serviceProxyNew path =>
      cases answer with
      | error error => exact ⟨handle, cb, objects ▸ there⟩
      | ok service =>
          refine ⟨handle, cb, ?_⟩
          rw [objects]
          refine HashTable.lookup_insert_some.mpr (.inr ⟨?_, there⟩)
          rintro rfl
          exact fresh.2 (HashTable.lookup_isSome_iff.mpr ⟨_, there⟩)
  | connectOnMessage changed handler => exact modified changed handler objects
  | setMessageHandler changed handler => exact modified changed handler objects
  | serviceUnref released => exact absurd rfl (kept released)

/-- A port that is heard stays so. -/
theorem Changes.hears {trace emitted : List WorldEvent} {before : World} {after : State}
    {conn : Conn} {client found : ClientThread} {id : Guint}
    (changes : Changes before.daemon after conn client emitted found)
    (accounted : Accounted trace before conn client) (hears : client.Hears id) :
    found.Hears id := by
  cases changes with
  | performed active fresh served =>
      refine hears.performed (newHandle_of_served served fresh) (fun handle released => ?_)
        (ClientThread.after_objects _ _ _)
      subst released
      exact (accounted.during active).2.1
  | _ => exact hears

/-- A step takes the messages for a port that is heard from the head of the queue, to hand
them over, and adds what is emitted for it behind the others. -/
theorem Changes.queued_messagesTo {before after : State} {emitted : List WorldEvent} {conn : Conn}
    {client found : ClientThread} {id : Guint}
    (changes : Changes before after conn client emitted found) (placed : Placed client)
    (alone : Alone client) (hears : client.Hears id) :
    messagesTo id (handedBy conn emitted ++ found.queued) =
      messagesTo id (client.queued ++ emittedFor conn emitted) := by
  obtain ⟨hearing, cb, object⟩ := hears
  cases changes with
  | same past sent => rw [past.handed, sent, List.nil_append, List.append_nil]
  | received past => rw [past.handed, ClientThread.receive_queued, List.nil_append]
  | performed =>
      rw [(passesBy_performed _ _ _ _ _).handed, ClientThread.after_queued, List.nil_append]
      rfl
  | began => simp [handedBy, emittedFor, ClientThread.queued]
  | finished => simp [handedBy, emittedFor, daemonEvents, ClientThread.queued]
  | replied _ head =>
      simp [handedBy, emittedFor, ClientThread.queued, head, List.filterMap_cons, Incoming.message]
  | @arrived message rest _ head =>
      have one := alone.listeners message.service.objectPath
      rw [ClientThread.queued, ClientThread.queued, head]
      simp only [handedBy, emittedFor, daemonEvents_nil, onMessages, List.filter_nil,
        List.append_nil, List.filterMap_nil, List.nil_append, List.map_append, List.map_map,
        List.filterMap_cons, Incoming.message, messagesTo_append, List.append_assoc]
      rw [← List.singleton_append, messagesTo_append]
      congr 2
      -- the signal is queued for the object on its path, which is there if the port is this one
      rcases shape : client.listeners message.service.objectPath with _ | ⟨_, _ | _⟩
      · refine (messagesTo_other fun same => ?_).symm
        have listens : hearing ∈ client.listeners message.service.objectPath := by
          refine List.mem_filter.mpr
            ⟨AList.mem_keys.mp (HashTable.lookup_isSome_iff.mpr ⟨_, object⟩), ?_⟩
          simp [object, DbusService.objectPath, same]
        rw [shape] at listens
        cases listens
      · rfl
      · rw [shape] at one
        simp at one
  | handed _ head => simp [ClientThread.queued, head, handedBy, emittedFor, daemonEvents]
  | @dropped handle message rest _ head unheard =>
      -- the object of the port would have been the one it was queued for
      have other : message.service.id ≠ id := by
        intro same
        obtain ⟨found, present, path⟩ := placed (handle, message) (head ▸ List.mem_cons_self)
        obtain rfl := alone handle hearing found _ present object
          (path.trans (congrArg objectPathOf same))
        exact unheard _ _ _ object
      have sent : emittedFor conn [] = [] := rfl
      rw [ClientThread.queued, ClientThread.queued, head, sent, List.append_nil]
      simp only [handedBy, List.filterMap_nil, List.nil_append, List.map_cons, List.cons_append]
      rw [← List.singleton_append, messagesTo_append id [message], messagesTo_other other,
        List.nil_append]

/-! ## Along a run -/

/-- A client stays until its connection is closed. -/
theorem Moves.remains {before after : World} {label : WorldLabel} {emitted : List WorldEvent}
    {conn : Conn} {client : ClientThread} (moves : Moves before label emitted after)
    (there : before.clients.lookup conn = some client)
    (connected : .daemon (.closed conn) ∉ emitted) :
    ∃ found, after.clients.lookup conn = some found := by
  have inserted (other : Conn) (new : ClientThread) :
      ∃ found, (before.clients.insert other new).lookup conn = some found := by
    rw [HashTable.lookup_insert_eq]
    split
    · exact ⟨new, rfl⟩
    · exact ⟨client, there⟩
  cases moves with
  | refused => exact ⟨client, there⟩
  | connected => exact inserted _ _
  | disconnected transition =>
      refine ⟨client, HashTable.lookup_erase_some.mpr ⟨?_, there⟩⟩
      rintro rfl
      cases step_cases transition with
      | close => exact connected List.mem_cons_self
  | performed _ _ _ _ _ delivered =>
      subst delivered
      rw [lookup_performed, there]
      split <;> exact ⟨_, rfl⟩
  | _ => exact inserted _ _

theorem client_of_steps {events : List WorldEvent} {state next : World}
    (onward : world.Steps state events next) {conn : Conn} {client : ClientThread}
    (there : state.clients.lookup conn = some client)
    (connected : .daemon (.closed conn) ∉ events) :
    ∃ left, next.clients.lookup conn = some left := by
  induction onward with
  | refl => exact ⟨client, there⟩
  | snoc _ transition ih =>
      obtain ⟨acting, was⟩ := ih fun closed => connected (List.mem_append_left _ closed)
      exact (World.step_cases transition).remains was fun closed =>
        connected (List.mem_append_right _ closed)

/-- While the connection of a port that is heard stays open, what was handed over and
what is queued is what was queued and what was emitted, in this order. -/
theorem heard_of_steps {trace events : List WorldEvent} {state next : World}
    (run : world.Runs trace state) (onward : world.Steps state events next)
    (regular : Regular (daemonEvents (trace ++ events))) {conn : Conn}
    (connected : .daemon (.closed conn) ∉ events) {client left : ClientThread} {id : Guint}
    (there : state.clients.lookup conn = some client) (hears : client.Hears id)
    (now : next.clients.lookup conn = some left) :
    left.Hears id ∧
      messagesTo id (handedBy conn events ++ left.queued) =
        messagesTo id (client.queued ++ emittedFor conn events) := by
  induction onward generalizing left with
  | refl =>
      obtain rfl := Option.some.inj (there.symm.trans now)
      exact ⟨hears, by simp [handedBy, emittedFor]⟩
  | @snoc events middle label next emitted prior transition ih =>
      have reached := run.trans prior
      have moves := World.step_cases transition
      rw [← List.append_assoc] at regular
      have earlier := regular_of_append regular
      have still : .daemon (.closed conn) ∉ events :=
        fun closed => connected (List.mem_append_left _ closed)
      obtain ⟨acting, was⟩ := client_of_steps prior there still
      obtain ⟨hearing, moved⟩ := ih earlier still was
      have accounted := accounted_of_runs reached earlier conn acting was
      have changes := moves.changes was (open_of_runs reached conn acting was) now
      have taken := changes.queued_messagesTo accounted.placed accounted.alone hearing
      refine ⟨changes.hears accounted hearing, ?_⟩
      simp only [messagesTo_append, handedBy_append, emittedFor_append,
        List.append_assoc] at moved taken ⊢
      rw [taken, ← List.append_assoc, moved, List.append_assoc]

/-- And the main loop alone can hand over what is queued. -/
theorem heard_drains {trace events : List WorldEvent} {state next : World}
    (run : world.Runs trace state) (onward : world.Steps state events next)
    (regular : Regular (daemonEvents (trace ++ events))) {conn : Conn}
    (connected : .daemon (.closed conn) ∉ events) {client : ClientThread} {id : Guint}
    (there : state.clients.lookup conn = some client) (hears : client.Hears id) :
    ∃ labels last more, (∀ label ∈ labels, MainLoop conn label) ∧
      world.exec next labels = some (last, more) ∧
      messagesTo id (handedBy conn (events ++ more)) =
        messagesTo id (client.queued ++ emittedFor conn events) := by
  obtain ⟨left, now⟩ := client_of_steps onward there connected
  have alone := (accounted_of_runs (run.trans onward) regular conn left now).alone
  obtain ⟨labels, last, more, final, own, evaluated, silent, found, empty⟩ :=
    mainLoop_drains now alone
  have whole : Regular (daemonEvents (trace ++ (events ++ more))) := by
    rw [← List.append_assoc, daemonEvents_append, silent, List.append_nil]
    exact regular
  have still : .daemon (.closed conn) ∉ events ++ more := by
    intro closed
    rcases List.mem_append.mp closed with old | new
    · exact connected old
    · have inside := mem_daemonEvents.mpr new
      rw [silent] at inside
      cases inside
  obtain ⟨_, drained⟩ := heard_of_steps run (onward.trans (EventSystem.Steps.of_exec evaluated))
    whole still there hears found
  have none : emittedFor conn more = [] := by
    rw [emittedFor, silent]
    rfl
  rw [empty, List.append_nil, emittedFor_append, none, List.append_nil] at drained
  exact ⟨labels, last, more, own, evaluated, drained⟩

/-- Between its calls a client owns and hears the ports of its tables. -/
theorem localPort_of_idle {trace : List WorldEvent} {state : World} (run : world.Runs trace state)
    (regular : Regular (daemonEvents trace)) {conn : Conn} {client : ClientThread}
    (there : state.clients.lookup conn = some client) (idle : client.activity = none) {id : Gint}
    {service : MsgPortService} (existing : (client.manager.getLocalPort id).1 = some service) :
    service.path = objectPathOf id ∧ (∃ name, Owns state.daemon conn name service.isTrusted id) ∧
      client.Hears id := by
  have lists := lists_of_runs run regular conn client there
  simp only [Follows, idle] at lists
  have backed := (accounted_of_runs run regular conn client there).between idle
  obtain ⟨stored, rfl⟩ := lists.linked.getLocalPort_some.mp existing
  obtain ⟨_, name, _, owned⟩ := backed.port stored
  obtain ⟨cb, object⟩ := backed.object stored
  have place := lists.path stored
  rw [place] at object
  exact ⟨place, ⟨name, owned⟩, service.handle, cb, object⟩

/-- What a call returns: a registration that returns a positive value has stored a
service of its port with this id. -/
def ReturnsPort (call : ApiCall) (out : Returned × MsgPortManager) : Prop :=
  match call with
  | .registerLocalPort portName isTrusted _ _ => 0 < out.1.value → ∃ path service,
      out.2.services.lookup path = some service ∧ service.portName = portName ∧
      service.isTrusted = isTrusted ∧ out.1.value = service.id.toNat
  | _ => True

/-- The service whose id a registration returns is that of its port. -/
theorem registerService_stores (manager : MsgPortManager) (ports : Ports) (portName : Option String)
    (isTrusted : Bool) (cb : Option Callback) (visit : List ObjectPath) :
    (manager.registerService portName isTrusted cb visit).wp Might
      (fun out _ => ∀ stored, out.2.1 = some stored →
      ∃ path service, out.2.2.services.lookup path = some service ∧ service.portName = portName ∧
        service.isTrusted = isTrusted ∧ service.id = stored) ports := by
  refine registerService_might ?_ ?_ ?_
  · rintro status after stored ⟨⟩
  · rintro name path service rfl there matched stored same
    obtain ⟨named, trusted⟩ : service.portName = some name ∧ service.isTrusted = isTrusted := by
      simpa [MsgPortManager.findService] using matched
    exact ⟨path, service, there, named, trusted, Option.some.inj same⟩
  · rintro name handle id after rfl gains stored same
    exact ⟨_, _, AList.lookup_insert _, rfl, rfl, Option.some.inj same⟩

/-- Whatever it is called for, a public function returns the id of a port that it stored, or
no id. -/
theorem program_returnsPort (manager : MsgPortManager) (ports : Ports) (call : ApiCall) :
    (call.program manager).wp Might (fun out _ => ReturnsPort call out) ports := by
  cases call with
  | registerLocalPort portName isTrusted callback visit =>
      apply Interaction.wp_bind
      apply Interaction.wp_bind
      refine Interaction.wp_mono ?_
        (registerService_stores manager ports portName isTrusted callback visit)
      rintro ⟨status, stored, left⟩ after found
      intro positive
      dsimp only at positive found ⊢
      by_cases fits : 0 < (stored.getD 0).toInt
      · cases stored with
        | none => cases fits
        | some id =>
            obtain ⟨path, service, there, named, trusted, rfl⟩ := found id rfl
            refine ⟨path, service, there, named, trusted, ?_⟩
            rw [if_pos fits]
            exact (fitsInt_iff.mpr fits).toInt_eq
      · rw [if_neg fits] at positive
        by_cases failed : status = .none
        · subst failed
          cases positive
        · have negative := MessageportError.code_neg failed
          omega
  | _ => exact Interaction.wp_mono (fun _ _ _ => trivial) Interaction.wp_true

/-- What is left of a call in a run returns so. -/
theorem returnsPort_of_runs {trace : List WorldEvent} {state : World} (run : world.Runs trace state)
    (regular : Regular (daemonEvents trace)) :
    ∀ conn client, state.clients.lookup conn = some client → Follows (fun _ _ => True)
      (fun call program ports => program.wp Might (fun out _ => ReturnsPort call out) ports)
      state.daemon conn client :=
  follows_of_regular ⟨fun _ => trivial, fun call _ => program_returnsPort _ _ call,
    fun holds might => holds _ _ might, fun _ => trivial⟩ run regular

/-- A return is all that happens when a call ends. -/
theorem returned_of_finish {before state : World} {conn : Conn} {emitted : List WorldEvent}
    (returns : world.step before (.finish conn) = some (state, emitted)) :
    ∃ call returned, emitted = [.returned conn call returned] := by
  rw [world_step] at returns
  cases World.step_cases returns with
  | finished => exact ⟨_, _, rfl⟩

theorem client_of_finish {before state : World} {conn : Conn} {emitted : List WorldEvent}
    (returns : world.step before (.finish conn) = some (state, emitted)) :
    ∃ client, state.clients.lookup conn = some client := by
  rw [world_step] at returns
  cases World.step_cases returns with
  | finished => exact ⟨_, lookup_set_some.mpr (.inl ⟨rfl, rfl⟩)⟩

/-- A registration that returned a port id left the port heard. -/
theorem hears_of_returned {trace : List WorldEvent} {before state : World}
    (run : world.Runs trace before) (regular : Regular (daemonEvents trace)) {conn : Conn}
    {portName : Option String} {isTrusted : Bool} {callback : Option Callback}
    {visit : List ObjectPath} {returned : Returned}
    (returns : world.step before (.finish conn) = some (state,
      [.returned conn (.registerLocalPort portName isTrusted callback visit) returned]))
    (positive : 0 < returned.value) {client : ClientThread}
    (there : state.clients.lookup conn = some client) :
    ∃ id name, portName = some name ∧ returned.value = id.toNat ∧
      Owns state.daemon conn name isTrusted id ∧ client.Hears id := by
  have run' : world.Runs
      (trace ++ [.returned conn (.registerLocalPort portName isTrusted callback visit) returned])
      state := run.snoc returns
  have regular' : Regular (daemonEvents
      (trace ++ [.returned conn (.registerLocalPort portName isTrusted callback visit)
        returned])) := by
    rw [daemonEvents_append]
    simpa [daemonEvents] using regular
  rw [world_step] at returns
  generalize events :
    [WorldEvent.returned conn (.registerLocalPort portName isTrusted callback visit) returned] =
    emitted at returns
  cases World.step_cases returns with
  | @finished _ acting call value manager was ended =>
      cases events
      rcases lookup_set_some.mp there with ⟨_, rfl⟩ | ⟨other, _⟩
      · have follows := returnsPort_of_runs run regular conn acting was
        simp only [Follows, ended] at follows
        obtain ⟨path, service, held, named, trusted, same⟩ := follows positive
        have backed := (accounted_of_runs run' regular' conn _ there).between rfl
        obtain ⟨place, name, known, owned⟩ := backed.port held
        obtain ⟨cb, object⟩ := backed.object held
        refine ⟨service.id, name, named.symm.trans known, same, trusted ▸ owned,
          service.handle, cb, ?_⟩
        rw [← place]
        exact object
      · exact absurd rfl other

/-- From the return of its registration on, as long as its connection stays open, a port
loses no message: whatever the client and the others do, the messages for it that were
handed over and those still queued are, in this order, those that were queued and those
that were emitted. And wherever it has got to, the main loop alone hands over the rest. -/
theorem registered_delivers {trace events : List WorldEvent} {before state next : World}
    (run : world.Runs trace before) {conn : Conn} {portName : Option String} {isTrusted : Bool}
    {callback : Option Callback} {visit : List ObjectPath} {returned : Returned}
    (returns : world.step before (.finish conn) = some (state,
      [.returned conn (.registerLocalPort portName isTrusted callback visit) returned]))
    (positive : 0 < returned.value) (onward : world.Steps state events next)
    (regular : Regular (daemonEvents (trace ++ events)))
    (connected : .daemon (.closed conn) ∉ events) {client left : ClientThread}
    (there : state.clients.lookup conn = some client) (now : next.clients.lookup conn = some left) :
    ∃ id name, portName = some name ∧ returned.value = id.toNat ∧
      Owns state.daemon conn name isTrusted id ∧
      messagesTo id (handedBy conn events) ++ messagesTo id left.queued =
        messagesTo id client.queued ++ messagesTo id (emittedFor conn events) ∧
      ∃ labels last more, (∀ label ∈ labels, MainLoop conn label) ∧
        world.exec next labels = some (last, more) ∧
        messagesTo id (handedBy conn (events ++ more)) =
          messagesTo id client.queued ++ messagesTo id (emittedFor conn events) := by
  have reached := run.snoc returns
  have whole : Regular (daemonEvents
      ((trace ++ [.returned conn (.registerLocalPort portName isTrusted callback visit)
        returned]) ++ events)) := by
    simpa [daemonEvents] using regular
  obtain ⟨id, name, named, value, owned, hears⟩ :=
    hears_of_returned run (regular_of_append regular) returns positive there
  obtain ⟨_, moved⟩ := heard_of_steps reached onward whole connected there hears now
  obtain ⟨labels, last, more, own, evaluated, drained⟩ :=
    heard_drains reached onward whole connected there hears
  rw [messagesTo_append, messagesTo_append] at moved
  rw [messagesTo_append id client.queued] at drained
  exact ⟨id, name, named, value, owned, moved, labels, last, more, own, evaluated, drained⟩

/-- What a registration was for and returned, if this is the return of one. -/
def registeredAs : List WorldEvent → Option (Option String × Bool × Int)
  | [.returned _ (.registerLocalPort portName isTrusted _ _) returned] =>
      some (portName, isTrusted, returned.value)
  | _ => none

/-- The port is sent to while its client registers another one. -/
def sentWhenBusy :
    List WorldLabel := .begin 0 (.registerLocalPort (some "other") false (some 8) []) :: sent

/-- The main loop hands the message over. -/
theorem registered_delivers_busy :
    ∃ events next left labels last more, next.clients.lookup 0 = some left ∧
    left.activity.isSome ∧ handedBy 0 events = [] ∧ (∀ label ∈ labels, MainLoop 0 label) ∧
    world.exec next labels = some (last, more) ∧
      (messagesTo 1 (handedBy 0 (events ++ more))).length = 1 := by
  obtain ⟨trace, before, run, accepted⟩ :=
    @EventSystem.Runs.of_exec _ _ _ world (portCreated ++ callbackConnected)
    (fun before trace => attempts (daemonEvents trace) = [true] ∧
      (world.step before (.finish 0)).any fun out =>
        registeredAs out.2 = some (some "port", false, 1) ∧
        (out.1.clients.lookup 0).any fun client => client.queued = [] ∧
          (world.exec out.1 sentWhenBusy).any fun sending =>
            attempts (daemonEvents sending.2) = [] ∧
            handedBy 0 sending.2 = [] ∧ .closed 0 ∉ daemonEvents sending.2 ∧
            (messagesTo 1 (emittedFor 0 sending.2)).length = 1 ∧
            (sending.1.clients.lookup 0).any fun left => left.activity.isSome) (by decide)
  obtain ⟨tries, rest⟩ := of_decide_eq_true accepted
  obtain ⟨⟨state, emitted⟩, returns, rest⟩ := (Option.any_eq_true _ _).mp rest
  obtain ⟨value, rest⟩ := of_decide_eq_true rest
  obtain ⟨client, there, rest⟩ := (Option.any_eq_true _ _).mp rest
  obtain ⟨empty, rest⟩ := of_decide_eq_true rest
  obtain ⟨⟨next, events⟩, evaluated, rest⟩ := (Option.any_eq_true _ _).mp rest
  obtain ⟨none, handed, open_, one, rest⟩ := of_decide_eq_true rest
  obtain ⟨left, now, busy⟩ := (Option.any_eq_true _ _).mp rest
  have tried : attempts (daemonEvents (trace ++ events)) = [true] := by
    rw [daemonEvents_append, attempts_append, tries, none]
    rfl
  have regular : Regular (daemonEvents (trace ++ events)) :=
    ⟨by rw [tried]; decide, by rw [tried]; decide⟩
  have connected : .daemon (.closed 0) ∉ events := fun closed => open_ (mem_daemonEvents.mpr closed)
  obtain ⟨call, returned, rfl⟩ := returned_of_finish returns
  cases call with
  | registerLocalPort =>
      obtain ⟨_, _, value⟩ : _ ∧ _ ∧ returned.value = 1 := by simpa [registeredAs] using value
      obtain ⟨id, _, _, same, _, _, labels, last, more, own, drained, delivered⟩ :=
        registered_delivers run returns (by omega) (EventSystem.Steps.of_exec evaluated) regular
          connected there now
      obtain rfl : id = 1 := by
        rw [value] at same
        exact BitVec.eq_of_toNat_eq (by simpa using same.symm)
      refine ⟨events, next, left, labels, last, more, now, busy, handed, own, drained, ?_⟩
      rw [delivered, empty]
      exact one
  | _ => cases value

end MessagePort.Session
