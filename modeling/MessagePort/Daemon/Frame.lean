import MessagePort.Daemon.Lookup

/-!
# What a step leaves alone

Each event of a step is about the connection that the step is for, or is part of a
send. An effect that does not close a connection keeps it open, and one that is
about another connection keeps what it owns; a request to send emits the message
it is answered for, or none.
-/

namespace MessagePort.Daemon

open Logical Semantics

/-- The connection whose manager or services an event changes or reports. -/
def Event.subject : Event → Option Conn
  | .connected conn _ _ => some conn
  | .closed conn => some conn
  | .created service _ => some service.owner
  | .exportFailed conn => some conn
  | .registered owner _ _ _ => some owner
  | .unregisterCalled _ => none
  | .compared _ _ _ => none
  | .emitted _ => none

/-- The events of a send, which change no service. -/
def Event.Sending : Event → Prop
  | .compared _ _ _ => True
  | .emitted _ => True
  | _ => False

/-- The events with which services come and go. -/
def Event.ChangesServices : Event → Prop
  | .created _ _ => True
  | .unregisterCalled _ => True
  | .closed _ => True
  | _ => False

/-- A check of a certificate is part of a send. -/
theorem sending_of_validated {owner : Conn} {dbusManager next : DbusManager}
    {peerAppId : Option String} {comparison : CertComparison} {accepted : Bool} {made : List Event}
    (verdict : DbusManager.validatePeerCertificate owner dbusManager peerAppId comparison =
      .ok (next, accepted, made)) : ∀ event ∈ made, event.Sending := by
  intro event member
  rcases DbusManager.validatePeerCertificate_made verdict with rfl | ⟨peer, _, rfl⟩
  · cases member
  · rw [List.mem_singleton.mp member]
    trivial

/-- The messages of a trace, in the order they were emitted. -/
def onMessages (trace : List Event) : List OnMessage :=
  trace.filterMap fun
    | .emitted message => some message
    | _ => none

@[simp] theorem onMessages_nil : onMessages [] = [] := rfl

@[simp] theorem onMessages_append (first second : List Event) :
    onMessages (first ++ second) = onMessages first ++ onMessages second := List.filterMap_append

theorem mem_onMessages {trace : List Event} {message : OnMessage} :
    message ∈ onMessages trace ↔ .emitted message ∈ trace := by
  unfold onMessages
  rw [List.mem_filterMap]
  constructor
  · rintro ⟨event, member, picked⟩
    split at picked
    · cases picked
      exact member
    · cases picked
  · exact fun member => ⟨_, member, rfl⟩

/-- A check of a certificate emits nothing. -/
theorem onMessages_validated {owner : Conn} {dbusManager next : DbusManager}
    {peerAppId : Option String} {comparison : CertComparison} {accepted : Bool} {made : List Event}
    (verdict : DbusManager.validatePeerCertificate owner dbusManager peerAppId comparison =
      .ok (next, accepted, made)) : onMessages made = [] := by
  rcases DbusManager.validatePeerCertificate_made verdict with rfl | ⟨peer, _, rfl⟩ <;> rfl

/-- A request to send emits one message, on the live service of this id, or is
answered with an error. -/
theorem Dispatch.onMessages {before : State} (sound : Sound before) {serviceId : Guint}
    {data : VariantMap} {appId : Option String} {port : String} {isTrusted : Bool}
    {outcome : Handled Unit}
    (dispatch : Dispatch before serviceId data appId port isTrusted outcome) :
    (∃ addr service, outcome.completions = [.ok ()] ∧
      onMessages outcome.events = [⟨service, data, appId, port, isTrusted⟩] ∧
      before.services.lookup addr = some service ∧ service.id = serviceId) ∨
    ∃ error, outcome.completions = [.error error] ∧ onMessages outcome.events = [] := by
  cases dispatch with
  | zero => exact .inr ⟨_, rfl, rfl⟩
  | missing => exact .inr ⟨_, rfl, rfl⟩
  | @sent addr service _ _ _ _ found live sending =>
      obtain ⟨cached, there, key⟩ := sound.cachedLive found
      obtain rfl := Option.some.inj (live.symm.trans there)
      have keyed := (guintToPointer_inj.mp key).symm
      cases sending with
      | untrusted => exact .inl ⟨addr, service, rfl, rfl, live, keyed⟩
      | accepted _ _ _ verdict =>
          refine .inl ⟨addr, service, rfl, ?_, live, keyed⟩
          rw [onMessages_append, onMessages_validated verdict]
          rfl
      | refused _ _ _ verdict => exact .inr ⟨_, rfl, onMessages_validated verdict⟩

/-- A request to send has no other events. -/
theorem Dispatch.sending {before : State} {serviceId : Guint} {data : VariantMap}
    {appId : Option String} {port : String} {isTrusted : Bool} {outcome : Handled Unit}
    (dispatch : Dispatch before serviceId data appId port isTrusted outcome) :
    ∀ event ∈ outcome.events, event.Sending := by
  intro event member
  cases dispatch with
  | zero => cases member
  | missing => cases member
  | sent _ _ _ sending =>
      cases sending with
      | untrusted =>
          rw [List.mem_singleton.mp member]
          trivial
      | accepted _ _ _ verdict =>
          rcases List.mem_append.mp member with early | last
          · exact sending_of_validated verdict event early
          · rw [List.mem_singleton.mp last]
            trivial
      | refused _ _ _ verdict => exact sending_of_validated verdict event member

/-- Only a registration has other events. -/
theorem sending_of_serve {state : State} {conn : Conn} {request : Request} {choices : Choices}
    {outcome : Handled request.Answer} (sound : Sound state) (served : conn ∈ state.dbusManagers)
    (other : ∀ port isTrusted, request ≠ .registerService port isTrusted)
    (ran : serve state conn request choices = .ok outcome) :
    ∀ event ∈ outcome.events, event.Sending := by
  intro event member
  cases request with
  | registerService port isTrusted => exact absurd rfl (other port isTrusted)
  | checkForRemoteService remoteAppId remotePort isTrusted =>
      obtain ⟨_, none⟩ := DbusManager.handleCheckForRemoteService_quiet ran
      rw [none] at member
      cases member
  | sendMessage serviceId data =>
      exact (DbusManager.handleSendMessage_cases sound served ran).sending event member
  | serviceSendMessage path remoteServiceId data =>
      simp only [serve] at ran
      cases exported : state.exports.lookup (conn, path) with
      | none =>
          simp only [exported, Except.ok.injEq] at ran
          subst ran
          cases member
      | some addr =>
          obtain ⟨dbusService, live, _⟩ := sound.exported.mp exported
          simp only [exported] at ran
          exact (DbusService.handleSendMessage_cases sound live ran).sending event member
  | serviceUnregister path =>
      simp only [serve] at ran
      split at ran
      all_goals
        obtain rfl := Except.ok.inj ran
        cases member

/-- A request is about its own connection, and closes none. -/
theorem subject_of_serve {state : State} {conn : Conn} {request : Request} {choices : Choices}
    {outcome : Handled request.Answer} (sound : Sound state) (served : conn ∈ state.dbusManagers)
    (ran : serve state conn request choices = .ok outcome) :
    ∀ event ∈ outcome.events, event.Sending ∨
      (event.subject = some conn ∧ ∀ other, event ≠ .closed other) := by
  intro event member
  by_cases registers : ∃ port isTrusted, request = .registerService port isTrusted
  · obtain ⟨port, isTrusted, rfl⟩ := registers
    have registration := DbusManager.handleRegisterService_cases sound served ran
    cases registration with
    | rejected => cases member
    | existing =>
        rw [List.mem_singleton.mp member]
        exact .inr ⟨rfl, by simp⟩
    | exportFailed =>
        rw [List.mem_singleton.mp member]
        exact .inr ⟨rfl, by simp⟩
    | created =>
        simp only [List.mem_cons, List.not_mem_nil, or_false] at member
        rcases member with rfl | rfl <;> exact .inr ⟨rfl, by simp⟩
  · have other (port isTrusted) (same : request = .registerService port isTrusted) : False :=
      registers ⟨port, isTrusted, same⟩
    exact .inl (sending_of_serve sound served other ran event member)

/-- A new connection has a name that is not in use. -/
theorem connect_fresh {state next : State} {conn : Conn} {credentials : DbusManager.PeerCredentials}
    {exportFailure : Option GError} {emitted : List Event}
    (transition : step state (.connect conn credentials exportFailure) = some (next, emitted)) :
    conn ∉ state.dbusManagers := by
  cases step_cases transition with
  | connect new _ => exact new

/-- A new connection has at most the event that it is served. -/
theorem connect_events {state next : State} {conn : Conn}
    {credentials : DbusManager.PeerCredentials} {exportFailure : Option GError}
    {emitted : List Event}
    (transition : step state (.connect conn credentials exportFailure) = some (next, emitted)) :
    ∀ event ∈ emitted, ∃ appId validApp, event = .connected conn appId validApp := by
  intro event member
  cases step_cases transition with
  | connect _ ran =>
      unfold DbusManager.new at ran
      cases exportFailure with
      | none =>
          obtain ⟨-, rfl⟩ := Prod.mk.inj (Except.ok.inj ran)
          rw [List.mem_singleton.mp member]
          exact ⟨_, _, rfl⟩
      | some error =>
          dsimp only at ran
          split at ran
          · cases ran
          · obtain ⟨-, rfl⟩ := Prod.mk.inj (Except.ok.inj ran)
            cases member

/-- Only a request emits messages. -/
theorem onMessages_of_step {state next : State} {label : Label} {emitted : List Event}
    (transition : step state label = some (next, emitted))
    (other : ∀ conn request choices, label ≠ .request conn request choices) :
    onMessages emitted = [] := by
  cases step_cases transition with
  | connect =>
      apply List.filterMap_eq_nil_iff.mpr
      intro event member
      obtain ⟨_, _, rfl⟩ := connect_events transition event member
      rfl
  | request => exact absurd rfl (other _ _ _)
  | unregisterService => rfl
  | close => rfl

/-- An event of a step is part of a send, or about the connection of the label. -/
theorem subject_of_step {state next : State} {label : Label} {emitted : List Event}
    (sound : Sound state) (transition : step state label = some (next, emitted)) :
    ∀ event ∈ emitted, event.Sending ∨ event.subject = label.conn := by
  intro event member
  cases step_cases transition with
  | connect =>
      obtain ⟨_, _, rfl⟩ := connect_events transition event member
      exact .inr rfl
  | request served ran => exact (subject_of_serve sound served ran event member).imp_right And.left
  | unregisterService =>
      rw [List.mem_singleton.mp member]
      exact .inr rfl
  | close =>
      rw [List.mem_singleton.mp member]
      exact .inr rfl

/-! ## What an effect does to the ports -/

section Ports

variable {before after : State} {owner : Conn} {portName : String} {isTrusted : Bool} {id : Guint}

/-- A creation under a free id adds one port. -/
theorem Creates.owns_iff {conn : Conn} {name : String} {trust : Bool} {new : Guint} {addr : Addr}
    (creates : Creates before addr ⟨new, conn, name, trust⟩ after)
    (free : before.cached (guintToPointer new) = none) :
    Owns after owner portName isTrusted id ↔ Owns before owner portName isTrusted id ∨
      (owner = conn ∧ portName = name ∧ isTrusted = trust ∧ id = new) := by
  have services := Registry.creates_services free creates
  constructor
  · rintro ⟨there, live⟩
    rw [services] at live
    by_cases same : there = addr
    · rw [if_pos same, Option.some.injEq, DbusService.mk.injEq] at live
      obtain ⟨rfl, rfl, rfl, rfl⟩ := live
      exact .inr ⟨rfl, rfl, rfl, rfl⟩
    · rw [if_neg same] at live
      exact .inl ⟨there, live⟩
  · rintro (⟨there, live⟩ | ⟨rfl, rfl, rfl, rfl⟩)
    · refine ⟨there, ?_⟩
      rw [services, if_neg, live]
      rintro rfl
      rw [creates.fresh] at live
      cases live
    · exact ⟨addr, creates.live⟩

/-- A removal takes the port of this id away. -/
theorem Removes.owns_iff {addr : Addr} {service : DbusService} (sound : Sound before)
    (removes : Removes before addr service after) :
    Owns after owner portName isTrusted id ↔
      Owns before owner portName isTrusted id ∧ id ≠ service.id := by
  constructor
  · rintro ⟨there, live⟩
    obtain ⟨earlier, different⟩ := (removes.tables.services _ _).mp live
    exact ⟨⟨there, earlier⟩, fun same => different (sound.addr_of_id earlier removes.live same)⟩
  · rintro ⟨⟨there, live⟩, different⟩
    refine ⟨there, (removes.tables.services _ _).mpr ⟨live, ?_⟩⟩
    rintro rfl
    obtain rfl := Option.some.inj (live.symm.trans removes.live)
    exact different rfl

/-- A close takes the ports of its connection away. -/
theorem Closes.owns_iff {conn : Conn} (sound : Sound before) (registry : Registry before)
    (closes : Closes before conn after) :
    Owns after owner portName isTrusted id ↔
      Owns before owner portName isTrusted id ∧ owner ≠ conn := by
  constructor
  · rintro ⟨there, live⟩
    obtain ⟨earlier, spared⟩ := (closes.tables.services _ _).mp live
    refine ⟨⟨there, earlier⟩, ?_⟩
    rintro rfl
    exact spared (sound.listed earlier)
  · rintro ⟨⟨there, live⟩, different⟩
    refine ⟨there, (closes.tables.services _ _).mpr ⟨live, fun listed => ?_⟩⟩
    obtain ⟨service, live', owned⟩ := registry.listedLive listed
    obtain rfl := Option.some.inj (live.symm.trans live')
    exact different owned

end Ports

namespace Effect

variable {before after : State} {events : List Event} {conn : Conn}

/-- Only a connection that was not open is opened. -/
theorem connected_new (effect : Effect before events after) {appId : Option String}
    {validApp : Bool} (opened : .connected conn appId validApp ∈ events) :
    conn ∉ before.dbusManagers := by
  cases effect with
  | connected new =>
      cases List.mem_singleton.mp opened
      exact new
  | validated _ _ _ _ verdict =>
      -- the events of a send
      split at opened
      · rcases List.mem_append.mp opened with made | emitted
        · exact (sending_of_validated verdict _ made).elim
        · cases List.mem_singleton.mp emitted
      · exact (sending_of_validated verdict _ opened).elim
  | _ => simp at opened

/-- A message is emitted on a live service. -/
theorem emitted_live (effect : Effect before events after) {message : OnMessage}
    (emitted : .emitted message ∈ events) :
    ∃ addr, before.services.lookup addr = some message.service := by
  cases effect with
  | sent live =>
      cases List.mem_singleton.mp emitted
      exact ⟨_, live⟩
  | validated live _ _ _ verdict =>
      have there := mem_onMessages.mpr emitted
      split at there
      · rw [onMessages_append, onMessages_validated verdict, List.nil_append] at there
        obtain rfl := List.mem_singleton.mp there
        exact ⟨_, live⟩
      · rw [onMessages_validated verdict] at there
        cases there
  | _ => simp at emitted

/-- An effect without events that change a service changes none. -/
theorem services_eq (effect : Effect before events after)
    (still : ∀ event ∈ events, ¬ event.ChangesServices) : after.services = before.services := by
  cases effect with
  | quiet registry => exact registry.services
  | connected _ registry => exact registry.services
  | exportFailed => rfl
  | created => exact absurd trivial (still _ List.mem_cons_self)
  | existing => rfl
  | sent => rfl
  | validated => rfl
  | unknownId => rfl
  | removed => exact absurd trivial (still _ List.mem_cons_self)
  | closed => exact absurd trivial (still _ List.mem_cons_self)

/-- What a connection owns is kept by an effect about other connections, in which no
id is reused and no service is unregistered. -/
theorem owns_eq (effect : Effect before events after) (sound : Sound before)
    (registry : Registry before)
    (free : ∀ service appId, .created service appId ∈ events →
      before.cached (guintToPointer service.id) = none)
    (elsewhere : ∀ event ∈ events, event.Sending ∨ ∃ other,
      event.subject = some other ∧ other ≠ conn) :
    Owns after conn = Owns before conn := by
  have unchanged (services : after.services = before.services) :
      Owns after conn = Owns before conn := by
    funext portName isTrusted id
    simp only [Owns, services]
  -- the connection that a port was created for, or that was closed
  have apart {owner : Conn} {event : Event} (member : event ∈ events) (own : ¬ event.Sending)
      (subject : event.subject = some owner) : conn ≠ owner := by
    rintro rfl
    rcases elsewhere event member with sending | ⟨other, same, different⟩
    · exact own sending
    · exact different (Option.some.inj (same.symm.trans subject))
  cases effect with
  | quiet same => exact unchanged same.services
  | connected _ same => exact unchanged same.services
  | exportFailed => exact unchanged rfl
  | created _ _ _ creates =>
      have different := apart List.mem_cons_self not_false rfl
      ext portName isTrusted id
      rw [creates.owns_iff (free _ _ List.mem_cons_self)]
      exact or_iff_left fun created => different created.1
  | existing => exact unchanged rfl
  | sent => exact unchanged rfl
  | validated => exact unchanged rfl
  | unknownId => exact unchanged rfl
  | removed =>
      rcases elsewhere _ List.mem_cons_self with sending | ⟨other, same, _⟩
      · exact sending.elim
      · cases same
  | closed _ closes =>
      have different := apart List.mem_cons_self not_false rfl
      ext portName isTrusted id
      rw [closes.owns_iff sound registry]
      exact and_iff_left different

/-- A port stays until its connection is closed or its id is unregistered. -/
theorem owns_stays (effect : Effect before events after) (sound : Sound before)
    (registry : Registry before)
    (free : ∀ service appId, .created service appId ∈ events →
      before.cached (guintToPointer service.id) = none)
    (open_ : .closed conn ∉ events) (kept : ∀ serviceId, .unregisterCalled serviceId ∉ events)
    {portName : String} {isTrusted : Bool} {id : Guint}
    (owned : Owns before conn portName isTrusted id) :
    Owns after conn portName isTrusted id := by
  have unchanged (services : after.services = before.services) :
      Owns after conn portName isTrusted id := by
    obtain ⟨addr, live⟩ := owned
    exact ⟨addr, services ▸ live⟩
  cases effect with
  | quiet same => exact unchanged same.services
  | connected _ same => exact unchanged same.services
  | exportFailed => exact unchanged rfl
  | created _ _ _ creates =>
      exact (creates.owns_iff (free _ _ List.mem_cons_self)).mpr (.inl owned)
  | existing => exact owned
  | sent => exact owned
  | validated => exact unchanged rfl
  | unknownId => exact owned
  | removed => exact absurd List.mem_cons_self (kept _)
  | closed _ closes =>
      refine (closes.owns_iff sound registry).mpr ⟨owned, ?_⟩
      rintro rfl
      exact open_ List.mem_cons_self

end Effect

/-- A request leaves every connection open. -/
theorem serve_open {state : State} {conn other : Conn} {request : Request} {choices : Choices}
    {outcome : Handled request.Answer} (sound : Sound state) (served : conn ∈ state.dbusManagers)
    (ran : serve state conn request choices = .ok outcome) (open_ : other ∈ state.dbusManagers) :
    other ∈ outcome.state.dbusManagers := by
  obtain ⟨dbusManager, found⟩ := HashTable.lookup_isSome_iff.mp open_
  have still : .closed other ∉ outcome.events := by
    intro closed
    rcases subject_of_serve sound served ran _ closed with sending | ⟨_, different⟩
    · exact sending
    · exact different other rfl
  obtain ⟨left, there, _⟩ := (serve_effect sound served ran).1.stays found still
  exact HashTable.lookup_isSome_iff.mpr ⟨left, there⟩

/-- A connection stays open until it is closed itself. -/
theorem step_open {state next : State} {label : Label} {emitted : List Event} {conn : Conn}
    (sound : Sound state) (transition : step state label = some (next, emitted))
    (open_ : conn ∈ state.dbusManagers) (different : label ≠ .close conn) :
    conn ∈ next.dbusManagers := by
  obtain ⟨dbusManager, found⟩ := HashTable.lookup_isSome_iff.mp open_
  have still : .closed conn ∉ emitted := by
    intro closed
    cases step_cases transition with
    | connect =>
        obtain ⟨_, _, same⟩ := connect_events transition _ closed
        cases same
    | request served ran =>
        rcases subject_of_serve sound served ran _ closed with sending | ⟨_, apart⟩
        · exact sending
        · exact apart conn rfl
    | unregisterService => cases List.mem_singleton.mp closed
    | close =>
        cases List.mem_singleton.mp closed
        exact different rfl
  obtain ⟨left, there, _⟩ := (step_effect sound transition).1.stays found still
  exact HashTable.lookup_isSome_iff.mpr ⟨left, there⟩

/-- A step for another connection keeps what this one owns. -/
theorem owns_elsewhere {trace : List Event} {state next : State} {label : Label}
    {emitted : List Event} {conn other : Conn} (run : system.Runs trace state)
    (unique : (0 :: createdIds (trace ++ emitted)).Nodup)
    (transition : step state label = some (next, emitted)) (labelled : label.conn = some other)
    (different : other ≠ conn) : Owns next conn = Owns state conn := by
  have sound := sound_of_runs run
  apply (step_effect sound transition).1.owns_eq sound
    (registry_of_runs run (unique_of_append unique))
  · exact fun service appId made => created_free run unique made
  · intro event member
    rcases subject_of_step sound transition event member with sending | same
    · exact .inl sending
    · exact .inr ⟨other, same.trans labelled, different⟩

/-- A new connection owns nothing. -/
theorem connect_owns {state next : State} {conn : Conn} {credentials : DbusManager.PeerCredentials}
    {exportFailure : Option GError} {emitted : List Event} (sound : Sound state)
    (transition : step state (.connect conn credentials exportFailure) = some (next, emitted))
    {portName : String} {isTrusted : Bool} {id : Guint} :
    ¬ Owns next conn portName isTrusted id := by
  rintro ⟨addr, live⟩
  have same : next.services = state.services := by
    apply (step_effect sound transition).1.services_eq
    intro event member
    obtain ⟨_, _, rfl⟩ := connect_events transition event member
    exact not_false
  exact connect_fresh transition (sound.liveOpen (same ▸ live))

namespace DbusManager

/-- The certificate of a peer with an app id can be checked. -/
theorem validatePeerCertificate_total (owner : Conn) (dbusManager : DbusManager) (peer : String)
    (comparison : CertComparison) :
    ∃ judged, validatePeerCertificate owner dbusManager (some peer) comparison = .ok judged := by
  unfold validatePeerCertificate
  split
  · exact ⟨_, rfl⟩
  · dsimp only
    split
    · exact ⟨_, rfl⟩
    · split <;> exact ⟨_, rfl⟩

end DbusManager

/-- A sender with an app id can send on every live service. -/
theorem DbusService.sendMessage_total {state : State} (sound : Sound state) {addr : Addr}
    {service : DbusService} (live : state.services.lookup addr = some service) (data : VariantMap)
    (appId port : String) (isTrusted : Bool) (comparison : CertComparison) :
    ∃ sent, DbusService.sendMessage state addr data
      (some appId) port isTrusted comparison = .ok sent := by
  simp only [sendMessage, State.deref, live]
  split
  · obtain ⟨owner, found⟩ := HashTable.lookup_isSome_iff.mp (sound.liveOpen live)
    obtain ⟨⟨next, accepted, made⟩, verdict⟩ :=
      DbusManager.validatePeerCertificate_total service.owner owner appId comparison
    simp only [found, verdict]
    split <;> exact ⟨_, rfl⟩
  · exact ⟨_, rfl⟩

/-- A request to send on a connection with an app id is answered. -/
theorem DbusManager.handleSendMessage_total {state : State} (sound : Sound state) {conn : Conn}
    {dbusManager : DbusManager} (found : state.dbusManagers.lookup conn = some dbusManager)
    {appId : String} (resolved : dbusManager.appId = some appId) (serviceId : Guint)
    (data : VariantMap) (choices : Choices) :
    ∃ outcome, DbusManager.handleSendMessage state conn serviceId data choices = .ok outcome := by
  obtain ⟨manager, present⟩ := sound.registry (HashTable.lookup_isSome_iff.mpr ⟨_, found⟩)
  simp only [handleSendMessage, Manager.getServiceById_eq present, found,
    Option.bind_some, resolved]
  split
  · exact ⟨_, rfl⟩
  case h_2 peer _ cached =>
    split at cached
    · cases cached
    · obtain ⟨service, live, _⟩ := sound.cachedLive (Prod.mk.inj cached).1
      obtain ⟨⟨next, result, events⟩, sent⟩ :=
        DbusService.sendMessage_total sound live data appId "" false choices.comparison
      simp only [sent]
      cases result <;> exact ⟨_, rfl⟩

/-- An open connection has the app id it was opened with. -/
theorem connected_of_runs {trace : List Event} {state : State} (run : system.Runs trace state) :
    ∀ {conn dbusManager}, state.dbusManagers.lookup conn = some dbusManager →
      ∃ validApp, .connected conn dbusManager.appId validApp ∈ trace := by
  refine @runs_invariant (fun trace state => ∀ {conn dbusManager},
    state.dbusManagers.lookup conn = some dbusManager →
      ∃ validApp, .connected conn dbusManager.appId validApp ∈ trace) ?_ ?_ _ _ run
  · simp [State.initial]
  · intro trace state emitted next _ ih effect conn left found
    rcases effect.came found with ⟨dbusManager, before, same, _⟩ | ⟨validApp, _, made⟩
    · obtain ⟨validApp, made⟩ := ih before
      exact ⟨validApp, same ▸ List.mem_append_left _ made⟩
    · exact ⟨validApp, List.mem_append_right _ made⟩

/-- Where every connection's app id could be determined, every open connection has one. -/
theorem appId_of_runs {trace : List Event} {state : State} (run : system.Runs trace state)
    (known : ∀ conn validApp, .connected conn none validApp ∉ trace) :
    ∀ {conn dbusManager}, state.dbusManagers.lookup conn = some dbusManager →
      ∃ appId, dbusManager.appId = some appId := by
  intro conn dbusManager found
  obtain ⟨validApp, made⟩ := connected_of_runs run found
  cases resolved : dbusManager.appId with
  | some appId => exact ⟨appId, rfl⟩
  | none =>
      rw [resolved] at made
      exact absurd made (known conn validApp)

end MessagePort.Daemon
