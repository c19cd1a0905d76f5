import MessagePort.Semantics.Since
import MessagePort.Session.Solo

/-!
# The ports a client has registered

What a client by itself answers about its ports, and which callback it runs for a
signal, is read from the history of its calls: a port belongs to the id and the
callback of its last registration, until that id is unregistered.
-/

namespace MessagePort.Session

open Daemon Client Logical Semantics

/-- An id was unregistered. -/
def RemovesId (id : Gint) (event : SoloEvent) : Prop :=
  event = .unregistered id .none

/-- A registration of a port returned the id, which was not unregistered since. -/
def RegisteredAs (name : String) (isTrusted : Bool) (id : Gint) (trace : List SoloEvent) : Prop :=
  Since (RemovesId id) (fun event => ∃ cb, Registers name isTrusted cb id event) trace

/-- The last registration of a port had this callback and returned the id, which was
not unregistered since. -/
def Latest (name : String) (isTrusted : Bool) (cb : Callback) (id : Gint) (trace : List SoloEvent) :
    Prop :=
  Since (fun event => (∃ callback number, Registers name isTrusted callback number event) ∨
    RemovesId id event) (Registers name isTrusted cb id) trace

/-- The client has a service for the port. -/
def Has (client : ClientThread) (name : String) (isTrusted : Bool) (id : Gint) : Prop :=
  ∃ path service, client.manager.services.lookup path = some service ∧
    portOf service = some (name, isTrusted) ∧ service.id = id

/-- Its service runs this callback. -/
def RunsCallback (client : ClientThread) (name : String) (isTrusted : Bool) (cb : Callback)
    (id : Gint) : Prop :=
  ∃ path service, client.manager.services.lookup path = some service ∧
    portOf service = some (name, isTrusted) ∧ service.id = id ∧
      client.objects.lookup service.handle = some ⟨path, id, some cb⟩

theorem RemovesId.succeeds {id : Gint} {event : SoloEvent} (removes : RemovesId id event) :
    Succeeds event := by
  subst removes
  rfl

theorem Registers.not_removes {name : String} {isTrusted : Bool} {cb : Callback} {id number : Gint}
    {event : SoloEvent} (registers : Registers name isTrusted cb id event) :
    ¬ RemovesId number event := by
  obtain ⟨_, _, rfl, _⟩ := registers
  exact SoloEvent.noConfusion

theorem not_registers_unregistered {name : String} {isTrusted : Bool} {cb : Callback}
    {id number : Gint} {status : MessageportError} :
    ¬ Registers name isTrusted cb id (.unregistered number status) := by
  rintro ⟨_, _, same, _⟩
  cases same

/-! ## What one step changes -/

section Tables

variable {naming : Naming} {before : ClientThread} {name : String} {isTrusted : Bool}
    {cb : Callback} {id : Gint}

/-- A new callback for a service is the callback of its port. -/
theorem hears_replaced (coherent : Coherent naming before) {path : ObjectPath}
    {service : MsgPortService} {port : Port}
    (found : before.manager.services.lookup path = some service)
    (matched : portOf service = some port) (callback : Callback) :
    RunsCallback (before.replaceHandler service.handle callback) name isTrusted cb id ↔
      (port = (name, isTrusted) ∧ callback = cb ∧ service.id = id) ∨
        (RunsCallback before name isTrusted cb id ∧ port ≠ (name, isTrusted)) := by
  constructor
  · rintro ⟨other, held, found', matched', rfl, object⟩
    rw [replaceHandler_objects] at object
    split at object
    case isTrue same =>
      obtain rfl := coherent.path_of_handle found found' same
      obtain rfl := Option.some.inj (found.symm.trans found')
      obtain ⟨old, _, replaced⟩ := Option.map_eq_some_iff.mp object
      have callbacks : some callback = some cb := congrArg ServiceObject.clientCb replaced
      exact .inl ⟨Option.some.inj (matched.symm.trans matched'), Option.some.inj callbacks, rfl⟩
    case isFalse different =>
      refine .inr ⟨⟨other, held, found', matched', rfl, object⟩, ?_⟩
      rintro rfl
      obtain rfl := coherent.alone found found' (matched'.trans matched.symm)
      obtain rfl := Option.some.inj (found.symm.trans found')
      exact different rfl
  · rintro (⟨rfl, rfl, rfl⟩ | ⟨⟨other, held, found', matched', rfl, object⟩, different⟩)
    · obtain ⟨old, object⟩ := coherent.heard found
      refine ⟨path, service, found, matched, rfl, ?_⟩
      rw [replaceHandler_objects, if_pos rfl, object]
      rfl
    · refine ⟨other, held, found', matched', rfl, ?_⟩
      rw [replaceHandler_objects, if_neg, object]
      intro same
      obtain rfl := coherent.path_of_handle found found' same
      obtain rfl := Option.some.inj (found.symm.trans found')
      exact different (Option.some.inj (matched.symm.trans matched'))

/-- A new service has a port of its own. -/
theorem has_cached (coherent : Coherent naming before) {service : MsgPortService} {port : Port}
    (fresh : Fresh naming before service port) (callback : Callback) :
    Has (before.addService service callback) name isTrusted id ↔
      (port = (name, isTrusted) ∧ service.id = id) ∨ Has before name isTrusted id := by
  constructor
  · rintro ⟨path, held, found, matched, rfl⟩
    rcases (addService_services _ _ _).mp found with ⟨rfl, rfl⟩ | ⟨_, found⟩
    · exact .inl ⟨Option.some.inj (fresh.matched.symm.trans matched), rfl⟩
    · exact .inr ⟨path, held, found, matched, rfl⟩
  · rintro (⟨rfl, rfl⟩ | ⟨path, held, found, matched, rfl⟩)
    · exact ⟨_, _, (addService_services _ _ _).mpr (.inl ⟨rfl, rfl⟩), fresh.matched, rfl⟩
    · exact ⟨path, held, (addService_services _ _ _).mpr
        (.inr ⟨fresh.path_ne coherent found, found⟩), matched, rfl⟩

/-- Its callback is the callback of that port. -/
theorem hears_cached (coherent : Coherent naming before) {service : MsgPortService} {port : Port}
    (fresh : Fresh naming before service port) (callback : Callback) :
    RunsCallback (before.addService service callback) name isTrusted cb id ↔
      (port = (name, isTrusted) ∧ callback = cb ∧ service.id = id) ∨
        (RunsCallback before name isTrusted cb id ∧ port ≠ (name, isTrusted)) := by
  constructor
  · rintro ⟨path, held, found, matched, rfl, object⟩
    rcases (addService_services _ _ _).mp found with ⟨rfl, rfl⟩ | ⟨_, found⟩
    · rcases (addService_objects _ _ _).mp object with ⟨_, same⟩ | ⟨different, _⟩
      · have callbacks : some callback = some cb := congrArg ServiceObject.clientCb same
        exact .inl ⟨Option.some.inj (fresh.matched.symm.trans matched),
          Option.some.inj callbacks, rfl⟩
      · exact absurd rfl different
    · rcases (addService_objects _ _ _).mp object with ⟨same, _⟩ | ⟨_, object⟩
      · exact absurd same (fresh.handle_ne coherent found)
      · refine .inr ⟨⟨path, held, found, matched, rfl, object⟩, ?_⟩
        rintro rfl
        exact fresh.missed found matched
  · rintro (⟨rfl, rfl, rfl⟩ | ⟨⟨path, held, found, matched, rfl, object⟩, _⟩)
    · exact ⟨_, _, (addService_services _ _ _).mpr (.inl ⟨rfl, rfl⟩), fresh.matched, rfl,
        (addService_objects _ _ _).mpr (.inl ⟨rfl, rfl⟩)⟩
    · exact ⟨path, held, (addService_services _ _ _).mpr
        (.inr ⟨fresh.path_ne coherent found, found⟩), matched, rfl,
        (addService_objects _ _ _).mpr (.inr ⟨fresh.handle_ne coherent found, object⟩)⟩

/-- A service that is removed takes the port with its id along. -/
theorem has_removed (coherent : Coherent naming before) {path : ObjectPath}
    {service : MsgPortService} (found : before.manager.services.lookup path = some service) :
    Has (before.removeService path service) name isTrusted id ↔
      Has before name isTrusted id ∧ service.id ≠ id := by
  constructor
  · rintro ⟨other, held, found', matched, rfl⟩
    obtain ⟨different, found'⟩ := (removeService_services _ _).mp found'
    exact ⟨⟨other, held, found', matched, rfl⟩, fun same =>
      different (coherent.linked.path_of_id found' found same.symm)⟩
  · rintro ⟨⟨other, held, found', matched, rfl⟩, different⟩
    refine ⟨other, held, (removeService_services _ _).mpr ⟨?_, found'⟩, matched, rfl⟩
    rintro rfl
    exact different (congrArg MsgPortService.id (Option.some.inj (found.symm.trans found')))

/-- No other callback goes with it. -/
theorem hears_removed (coherent : Coherent naming before) {path : ObjectPath}
    {service : MsgPortService} (found : before.manager.services.lookup path = some service) :
    RunsCallback (before.removeService path service) name isTrusted cb id ↔
      RunsCallback before name isTrusted cb id ∧ service.id ≠ id := by
  constructor
  · rintro ⟨other, held, found', matched, rfl, object⟩
    obtain ⟨different, found'⟩ := (removeService_services _ _).mp found'
    obtain ⟨_, object⟩ := (removeService_objects _ _).mp object
    exact ⟨⟨other, held, found', matched, rfl, object⟩, fun same =>
      different (coherent.linked.path_of_id found' found same.symm)⟩
  · rintro ⟨⟨other, held, found', matched, rfl, object⟩, apart⟩
    have different : other ≠ path := by
      rintro rfl
      exact apart (congrArg MsgPortService.id (Option.some.inj (found.symm.trans found')))
    refine ⟨other, held, (removeService_services _ _).mpr ⟨different, found'⟩, matched, rfl,
      (removeService_objects _ _).mpr ⟨?_, object⟩⟩
    exact fun same => different (coherent.path_of_handle found found' same)

end Tables

/-- A port is there after a step if it is registered now, or was there and is not
unregistered. -/
theorem Acts.has_iff {naming : Naming} {before after : ClientThread} {event : SoloEvent}
    (coherent : Coherent naming before) (acts : Acts naming before event after) {name : String}
    {isTrusted : Bool} {id : Gint} :
    Has after name isTrusted id ↔
      (∃ cb, Registers name isTrusted cb id event) ∨
      (Has before name isTrusted id ∧ ¬ RemovesId id event) := by
  cases acts with
  | kept failed =>
      have quiet : ¬ ∃ cb, Registers name isTrusted cb id event := fun ⟨_, registers⟩ =>
        failed registers.succeeds
      have still : ¬ RemovesId id event := fun removes => failed removes.succeeds
      exact ⟨fun has => .inr ⟨has, still⟩, fun either => (either.resolve_left quiet).1⟩
  | replaced registers found matched =>
      refine ⟨fun has => .inr ⟨has, registers.not_removes⟩, ?_⟩
      rintro (⟨_, again⟩ | ⟨has, _⟩)
      · obtain ⟨rfl, rfl, _, rfl⟩ := registers.unique again
        exact ⟨_, _, found, matched, rfl⟩
      · exact has
  | cached registers fresh =>
      rw [has_cached coherent fresh]
      constructor
      · rintro (⟨same, rfl⟩ | has)
        · obtain ⟨rfl, rfl⟩ := Prod.mk.inj same
          exact .inl ⟨_, registers⟩
        · exact .inr ⟨has, registers.not_removes⟩
      · rintro (⟨_, again⟩ | ⟨has, _⟩)
        · obtain ⟨rfl, rfl, _, rfl⟩ := registers.unique again
          exact .inl ⟨rfl, rfl⟩
        · exact .inr has
  | removed found =>
      rw [has_removed coherent found]
      constructor
      · exact fun ⟨has, different⟩ =>
          .inr ⟨has, fun removes => different (SoloEvent.unregistered.inj removes).1⟩
      · rintro (⟨_, registers⟩ | ⟨has, still⟩)
        · exact absurd registers not_registers_unregistered
        · exact ⟨has, fun same => still (congrArg (SoloEvent.unregistered · .none) same)⟩

/-- A registration is the last one for its port. -/
theorem Registers.latest_iff {name : String} {isTrusted : Bool} {cb : Callback} {id : Gint}
    {event : SoloEvent} (registers : Registers name isTrusted cb id event) {other : String}
    {trust : Bool} {callback : Callback} {number : Gint} {hears : Prop} :
    Registers other trust callback number event ∨ (hears ∧
        ¬ ((∃ callback number, Registers other trust callback number event) ∨
          RemovesId number event)) ↔
      ((name, isTrusted) = (other, trust) ∧ cb = callback ∧ id = number) ∨
        (hears ∧ (name, isTrusted) ≠ (other, trust)) := by
  have same : Registers other trust callback number event ↔
      (name, isTrusted) = (other, trust) ∧ cb = callback ∧ id = number := by
    constructor
    · intro again
      obtain ⟨rfl, rfl, rfl, rfl⟩ := registers.unique again
      exact ⟨rfl, rfl, rfl⟩
    · rintro ⟨port, rfl, rfl⟩
      obtain ⟨rfl, rfl⟩ := Prod.mk.inj port
      exact registers
  have some_ : (∃ callback number, Registers other trust callback number event) ↔
      (name, isTrusted) = (other, trust) := by
    constructor
    · rintro ⟨_, _, again⟩
      obtain ⟨rfl, rfl, _⟩ := registers.unique again
      rfl
    · intro port
      obtain ⟨rfl, rfl⟩ := Prod.mk.inj port
      exact ⟨cb, id, registers⟩
  rw [same, some_, or_iff_left registers.not_removes]

/-- The callback of a port after a step is the one registered now, or the one it had
if the step neither registers nor unregisters it. -/
theorem Acts.hears_iff {naming : Naming} {before after : ClientThread} {event : SoloEvent}
    (coherent : Coherent naming before) (acts : Acts naming before event after) {name : String}
    {isTrusted : Bool} {cb : Callback} {id : Gint} :
    RunsCallback after name isTrusted cb id ↔ Registers name isTrusted cb id event ∨
      (RunsCallback before name isTrusted cb id ∧
        ¬ ((∃ callback number, Registers name isTrusted callback number event) ∨
          RemovesId id event)) := by
  cases acts with
  | kept failed =>
      have quiet : ¬ Registers name isTrusted cb id event :=
        fun registers => failed registers.succeeds
      have still : ¬ ((∃ callback number, Registers name isTrusted callback number event) ∨
          RemovesId id event) := by
        rintro (⟨_, _, registers⟩ | removes)
        · exact failed registers.succeeds
        · exact failed removes.succeeds
      exact ⟨fun hears => .inr ⟨hears, still⟩, fun either => (either.resolve_left quiet).1⟩
  | replaced registers found matched =>
      rw [registers.latest_iff, hears_replaced coherent found matched]
  | cached registers fresh =>
      rw [registers.latest_iff, hears_cached coherent fresh]
  | removed found =>
      rw [hears_removed coherent found]
      constructor
      · rintro ⟨hears, different⟩
        refine .inr ⟨hears, ?_⟩
        rintro (⟨_, _, registers⟩ | removes)
        · exact not_registers_unregistered registers
        · exact different (SoloEvent.unregistered.inj removes).1
      · rintro (registers | ⟨hears, still⟩)
        · exact absurd registers not_registers_unregistered
        · exact ⟨hears, fun same => still (.inr (congrArg (SoloEvent.unregistered · .none) same))⟩

/-! ## Whole runs -/

/-- A client has the ports that are registered. -/
theorem has_of_runs {naming : Naming} {trace : List SoloEvent} {client : ClientThread}
    (run : (solo naming).Runs trace client) (name : String) (isTrusted : Bool) (id : Gint) :
    Has client name isTrusted id ↔ RegisteredAs name isTrusted id trace := by
  refine @EventSystem.Runs.invariant _ _ _ (solo naming) (fun trace client =>
    Has client name isTrusted id ↔ RegisteredAs name isTrusted id trace) ?_ ?_ _ _ run
  · refine iff_of_false ?_ not_since_nil
    rintro ⟨path, service, found, _⟩
    cases found
  · intro trace before label after emitted prior ih transition
    have coherent := coherent_of_runs prior
    obtain ⟨event, rfl, acts⟩ := Naming.step_acts coherent transition
    rw [acts.has_iff coherent, ih, RegisteredAs, RegisteredAs, since_concat]

/-- A client runs the callback of the last registration. -/
theorem hears_of_runs {naming : Naming} {trace : List SoloEvent} {client : ClientThread}
    (run : (solo naming).Runs trace client) (name : String) (isTrusted : Bool) (cb : Callback)
    (id : Gint) :
    RunsCallback client name isTrusted cb id ↔ Latest name isTrusted cb id trace := by
  refine @EventSystem.Runs.invariant _ _ _ (solo naming) (fun trace client =>
    RunsCallback client name isTrusted cb id ↔ Latest name isTrusted cb id trace) ?_ ?_ _ _ run
  · refine iff_of_false ?_ not_since_nil
    rintro ⟨path, service, found, _⟩
    cases found
  · intro trace before label after emitted prior ih transition
    have coherent := coherent_of_runs prior
    obtain ⟨event, rfl, acts⟩ := Naming.step_acts coherent transition
    rw [acts.hears_iff coherent, ih, Latest, Latest, since_concat]

/-! ## Queries -/

/-- Ids and services are in one-to-one correspondence. -/
structure OneToOne (manager : MsgPortManager) : Prop where
  ids : ∀ key path, manager.localServices.lookup key = some path →
    ∃ service, manager.services.lookup path = some service ∧ gintToPointer service.id = key
  services : ∀ path service, manager.services.lookup path = some service →
    ∃! key, manager.localServices.lookup key = some path

/-- The name and the trust flag of an id are these. -/
structure QueriesTell (manager : MsgPortManager) (id : Gint) (name : String) (isTrusted : Bool) :
    Prop where
  name : (ApiCall.getLocalPortName id true).program manager =
    .done (⟨MessageportError.none.code, none, some (some name), none⟩, manager)
  isTrusted : (ApiCall.checkTrustedLocalPort id true).program manager =
    .done (⟨MessageportError.none.code, none, none, some isTrusted⟩, manager)

/-- An id has no name and no trust flag. -/
structure Unknown (manager : MsgPortManager) (id : Gint) : Prop where
  name : (ApiCall.getLocalPortName id true).program manager =
    .done (⟨MessageportError.messageportNotFound.code, none, none, none⟩, manager)
  isTrusted : (ApiCall.checkTrustedLocalPort id true).program manager =
    .done (⟨MessageportError.messageportNotFound.code, none, none, none⟩, manager)

/-- A service that is found answers for its id. -/
theorem queriesTell_of_found {manager : MsgPortManager} {id : Gint} {service : MsgPortService}
    {name : String} {isTrusted : Bool} (connected : manager.proxy = true) (nonzero : id ≠ 0)
    (found : manager.getLocalPort id = (some service, manager))
    (matched : portOf service = some (name, isTrusted)) :
    QueriesTell manager id name isTrusted := by
  obtain ⟨_, named, same⟩ := Option.map_eq_some_iff.mp matched
  obtain ⟨rfl, rfl⟩ := Prod.mk.inj same
  constructor
  · simp only [ApiCall.program, MsgPortManager.getServiceName, connected, found, named]
    rw [if_neg (by simp), if_neg (by simpa using nonzero)]
  · simp only [ApiCall.program, MsgPortManager.getServiceIsTrusted, connected, found]
    rw [if_neg (by simp), if_neg (by simpa using nonzero)]

/-- Without a service there is no answer. -/
theorem unknown_of_not_found {manager : MsgPortManager} {id : Gint}
    (connected : manager.proxy = true) (nonzero : id ≠ 0)
    (missed : manager.getLocalPort id = (none, manager)) : Unknown manager id := by
  constructor
  · simp only [ApiCall.program, MsgPortManager.getServiceName, connected, missed]
    rw [if_neg (by simp), if_neg (by simpa using nonzero)]
  · simp only [ApiCall.program, MsgPortManager.getServiceIsTrusted, connected, missed]
    rw [if_neg (by simp), if_neg (by simpa using nonzero)]

/-- A step that does not succeed leaves the client as it was. -/
theorem kept_of_failed {naming : Naming} {trace events : List SoloEvent}
    {client next : ClientThread} {label : SoloLabel} (run : (solo naming).Runs trace client)
    (transition : (solo naming).step client label = some (next, events))
    (failed : ∀ event ∈ events, ¬ Succeeds event) : next = client := by
  obtain ⟨event, rfl, acts⟩ := Naming.step_acts (coherent_of_runs run) transition
  have failed := failed event (List.mem_singleton.mpr rfl)
  cases acts with
  | kept => rfl
  | replaced registers => exact absurd registers.succeeds failed
  | cached registers => exact absurd registers.succeeds failed
  | removed => exact absurd rfl failed

/-- In every run the tables correspond, an id has the name and the trust flag of the
registration that returned it, until it is unregistered, and registrations and
unregistrations that fail change nothing. -/
theorem queries_invert_registration {naming : Naming} {trace : List SoloEvent}
    {client : ClientThread} (run : (solo naming).Runs trace client) :
    OneToOne client.manager ∧
    (∀ id ≠ 0, (∀ name isTrusted, RegisteredAs name isTrusted id trace →
      QueriesTell client.manager id name isTrusted) ∧
      ((∀ name isTrusted, ¬ RegisteredAs name isTrusted id trace) → Unknown client.manager id)) ∧
    ∀ label next events, (solo naming).step client label = some (next, events) →
      (∀ event ∈ events, ¬ Succeeds event) → next.manager = client.manager := by
  have coherent := coherent_of_runs run
  have linked := coherent.linked
  refine ⟨⟨fun _ _ => linked.leads, fun _ _ => linked.unique⟩, fun id nonzero => ⟨?_, ?_⟩, ?_⟩
  · intro name isTrusted registered
    obtain ⟨path, service, found, matched, rfl⟩ :=
      (has_of_runs run name isTrusted id).mpr registered
    refine queriesTell_of_found coherent.connected nonzero ?_ matched
    rw [linked.getLocalPort_eq, linked.listed found, Option.bind_some, found]
  · intro unregistered
    refine unknown_of_not_found coherent.connected nonzero ?_
    rw [linked.getLocalPort_eq, Prod.mk.injEq, and_iff_left rfl, Option.bind_eq_none_iff]
    intro path leads
    obtain ⟨service, found, ids⟩ := linked.leads leads
    obtain ⟨⟨name, isTrusted⟩, matched, _⟩ := coherent.given found
    exact absurd ((has_of_runs run name isTrusted id).mp
      ⟨path, service, found, matched, gintToPointer_inj.mp ids⟩)
      (unregistered name isTrusted)
  · intro label next events transition failed
    rw [kept_of_failed run transition failed]

/-- A daemon that knows one port. -/
def onePort : Naming where
  ofPath path := if path = "/1" then some ("port", false) else none
  ofId id := if id = 1 then some ("port", false) else none
  small {id port} given := by
    split at given
    case isTrue same =>
      subst same
      decide
    · cases given

/-- It gives the port out, and creates its proxy. -/
def accepting : Reaction
  | .call (.registerService _ _) => .ok "/1"
  | .call (.checkForRemoteService _ _ _) => .ok (1 : Guint)
  | .call (.sendMessage _ _) => .ok ()
  | .call (.serviceSendMessage _ _ _) => .ok ()
  | .call (.serviceUnregister _) => .ok ()
  | .serviceProxyNew path => .ok ⟨0, path, 1, some "port", false⟩
  | .connectOnMessage _ _ => ()
  | .setMessageHandler _ _ => ()
  | .serviceUnref _ => ()

/-- The port is registered twice, with two callbacks. -/
def registeredTwice : List SoloLabel :=
  [.call (.registerLocalPort (some "port") false (some 7) []) [accepting, accepting, accepting],
    .call (.registerLocalPort (some "port") false (some 8) []) [accepting]]

/-- The client has the port, and runs the second callback for it. -/
theorem registeredTwice_run : ∃ trace client, (solo onePort).Runs trace client ∧
    Has client "port" false 1 ∧ RunsCallback client "port" false 8 1 := by
  obtain ⟨trace, client, run, accepted⟩ :=
    @EventSystem.Runs.of_exec _ _ _ (solo onePort) registeredTwice
    (fun client _ => client.manager.services.lookup "/1" = some ⟨0, "/1", 1, some "port", false⟩ ∧
      client.objects.lookup 0 = some ⟨"/1", 1, some 8⟩) (by decide)
  obtain ⟨found, object⟩ := of_decide_eq_true accepted
  exact ⟨trace, client, run, ⟨_, _, found, rfl, rfl⟩, ⟨_, _, found, rfl, rfl, object⟩⟩

/-- The id of the registered port tells its name. -/
theorem queries_invert_registration_registered : ∃ trace client, (solo onePort).Runs trace client ∧
    QueriesTell client.manager 1 "port" false := by
  obtain ⟨trace, client, run, has, _⟩ := registeredTwice_run
  have registered := (has_of_runs run "port" false 1).mp has
  exact ⟨trace, client, run, ((queries_invert_registration run).2.1 1 (by decide)).1 "port"
    false registered⟩

/-! ## Callbacks -/

/-- The one path of a port. -/
def Naming.PathOf (naming : Naming) (path : ObjectPath) (port : Port) : Prop :=
  naming.ofPath path = some port ∧ ∀ other, naming.ofPath other = some port → other = path

/-- A text is handed to a callback, as `NULL` if it is empty. -/
def HandedAs (text : String) (argument : Option String) : Prop :=
  (argument = none ↔ text = "") ∧ ∀ given, argument = some given → given = text

theorem handedAs_nullIfEmpty (text : String) : HandedAs text (nullIfEmpty text) := by
  unfold nullIfEmpty
  split
  case isTrue empty =>
    exact ⟨iff_of_true rfl empty, fun given same => by cases same⟩
  case isFalse full =>
    exact ⟨iff_of_false (by simp) full, fun given same => (Option.some.inj same).symm⟩

/-- A callback runs for a message, under an id. -/
structure HandsOver (message : OnMessage) (cb : Callback) (id : Gint) (invocation : Invocation) :
    Prop where
  callback : invocation.callback = cb
  id : invocation.id = id.toInt
  bundle : invocation.message = bundleFromVariantMap message.data
  isTrusted : invocation.trustedMessage = message.remoteIsTrusted
  appId : HandedAs (message.remoteAppId.getD "") invocation.remoteAppId
  port : HandedAs message.remotePort invocation.remotePort

theorem handsOver_onGotMessage (id : Guint) (cb : Callback) (message : OnMessage) :
    HandsOver message cb id (onGotMessage id cb message) where
  callback := rfl
  id := rfl
  bundle := rfl
  isTrusted := rfl
  appId := handedAs_nullIfEmpty _
  port := handedAs_nullIfEmpty _

/-- One object listens on the path of a service. -/
theorem Coherent.listeners {naming : Naming} {client : ClientThread}
    (coherent : Coherent naming client) {path : ObjectPath} {service : MsgPortService}
    (found : client.manager.services.lookup path = some service) :
    client.listeners path = [service.handle] := by
  have same : (client.listeners path).Perm [service.handle] := by
    refine (List.perm_ext_iff_of_nodup (client.objects.keys_nodup.filter _)
      (List.nodup_singleton _)).mpr ?_
    intro handle
    simp only [List.mem_filter, AList.mem_keys.symm, Option.any_eq_true,
      decide_eq_true_eq, List.mem_singleton]
    constructor
    · rintro ⟨_, object, there, rfl⟩
      obtain ⟨held, found', own⟩ := coherent.alive there
      obtain rfl := Option.some.inj (found.symm.trans found')
      exact own.symm
    · rintro rfl
      obtain ⟨cb, object⟩ := coherent.heard found
      exact ⟨HashTable.lookup_isSome_iff.mpr ⟨_, object⟩, _, object, rfl⟩
  exact List.perm_singleton.mp same

/-- Its callback runs once. -/
theorem Coherent.invocations {naming : Naming} {client : ClientThread}
    (coherent : Coherent naming client) {path : ObjectPath} {service : MsgPortService}
    {cb : Callback} (found : client.manager.services.lookup path = some service)
    (object : client.objects.lookup service.handle = some ⟨path, service.id, some cb⟩)
    (message : OnMessage) :
    client.invocations path message = [onGotMessage service.id cb message] := by
  rw [ClientThread.invocations, coherent.listeners found]
  simp [object]

/-- A step has one event, and a dispatched signal runs the callbacks there are. -/
theorem Naming.step_dispatched {naming : Naming} {before after : ClientThread} {label : SoloLabel}
    {events : List SoloEvent} (transition : naming.step before label = some (after, events)) :
    ∃ event, events = [event] ∧ ∀ path message invocations,
      event = .dispatched path message invocations →
      invocations = before.invocations path message := by
  cases label with
  | dispatch place signal =>
      obtain ⟨rfl, rfl⟩ := Prod.mk.inj (Option.some.inj transition)
      refine ⟨_, rfl, fun path message invocations same => ?_⟩
      obtain ⟨rfl, rfl, rfl⟩ := SoloEvent.dispatched.inj same
      rfl
  | call call reactions =>
      simp only [step] at transition
      split at transition
      · cases transition
      · obtain ⟨_, rfl⟩ := Prod.mk.inj (Option.some.inj transition)
        exact ⟨_, rfl, fun _ _ _ => SoloEvent.noConfusion⟩
  | unregister serviceId reactions =>
      simp only [step] at transition
      split at transition
      · cases transition
      · obtain ⟨_, rfl⟩ := Prod.mk.inj (Option.some.inj transition)
        exact ⟨_, rfl, fun _ _ _ => SoloEvent.noConfusion⟩

/-- A signal on the path of a port runs the callback of its last registration, once,
and a registration that fails changes no callback. -/
theorem dispatched_to_latest {naming : Naming} {trace : List SoloEvent} {client : ClientThread}
    (run : (solo naming).Runs trace client) :
    (∀ before path message invocations after,
      trace = before ++ .dispatched path message invocations :: after →
      ∀ name isTrusted cb id, naming.PathOf path (name, isTrusted) →
        Latest name isTrusted cb id before →
        ∃ invocation, invocations = [invocation] ∧ HandsOver message cb id invocation) ∧
    ∀ label next name isTrusted cb visit returned, (solo naming).step client label =
        some (next, [.returned (.registerLocalPort name isTrusted cb visit) returned]) →
      returned.value < 0 → next.objects = client.objects := by
  constructor
  · intro before path message invocations after split name isTrusted cb id pathOf latest
    obtain ⟨prior, state, label, next, early, late, rest, earlier, transition, _, rfl, rfl⟩ :=
      run.of_event split
    obtain ⟨event, single, ran⟩ := Naming.step_dispatched transition
    obtain rfl : early = [] := by
      cases early with
      | nil => rfl
      | cons head tail => simp at single
    rw [List.append_nil] at latest
    obtain ⟨place, service, found, matched, rfl, object⟩ :=
      (hears_of_runs earlier _ _ _ _).mpr latest
    have coherent := coherent_of_runs earlier
    obtain ⟨port, same, given, _⟩ := coherent.given found
    obtain rfl := pathOf.2 place (given.trans (same.symm.trans matched))
    have single := List.head_eq_of_cons_eq single
    rw [ran _ _ _ single.symm, coherent.invocations found object]
    exact ⟨_, rfl, handsOver_onGotMessage _ _ _⟩
  · intro label next name isTrusted cb visit returned transition negative
    rw [kept_of_failed run transition]
    rintro event member
    obtain rfl := List.mem_singleton.mp member
    exact not_le.mpr negative

/-- A message of an unnamed sender. -/
def unnamed : OnMessage := ⟨⟨0, 1, "port", false⟩, [], none, "", false⟩

/-- A signal on the path runs the second callback. -/
theorem dispatched_to_latest_second : ∃ trace client invocation,
    (solo onePort).Runs (trace ++ [.dispatched "/1" unnamed [invocation]]) client ∧
      HandsOver unnamed 8 1 invocation := by
  obtain ⟨trace, client, run, _, hears⟩ := registeredTwice_run
  have latest := (hears_of_runs run "port" false 8 1).mp hears
  have dispatched : (solo onePort).Runs
      (trace ++ [.dispatched "/1" unnamed (client.invocations "/1" unnamed)])
      client := @EventSystem.Steps.snoc _ _ _ _ _ _ _ (.dispatch "/1" unnamed) _ _ run rfl
  have path : onePort.PathOf "/1" ("port", false) := by
    refine ⟨rfl, fun other given => ?_⟩
    simp only [onePort] at given
    split at given
    · assumption
    · cases given
  obtain ⟨invocation, single, handsOver⟩ :=
    (dispatched_to_latest dispatched).1 trace "/1" unnamed _ [] rfl
    "port" false 8 1 path latest
  rw [single] at dispatched
  exact ⟨trace, client, invocation, dispatched, handsOver⟩

end MessagePort.Session
