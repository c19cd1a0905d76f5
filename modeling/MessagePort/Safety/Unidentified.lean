import MessagePort.Daemon.Answers

/-!
# Connections without an app id

A connection whose peer credentials are not available has a null app id. Such an
owner counts as one without a certificate and is never compared; as a sender the
null app id goes wherever the send goes.
-/

namespace MessagePort.Safety

open Logical Semantics Daemon

/-- No null app id is used while a request is handled: not as a key of `peer_certs`,
not in a comparison of certificates, and not as an argument of a signal. -/
structure NullUnused {Answer : Type} (state : State) (result : Except Fault (Handled Answer)) :
    Prop where
  hashed : result ≠ .error .nullKey
  compared : ∀ outcome, result = .ok outcome → ∀ owner peer comparison,
    .compared owner peer comparison ∈ outcome.events →
      ∃ appId, (state.dbusManagers.lookup owner).bind (·.appId) = some appId
  emitted : ∀ outcome, result = .ok outcome → ∀ message, .emitted message ∈ outcome.events →
    ∃ appId, message.remoteAppId = some appId

/-- The service id that a request asks the daemon to send to; a call on a path
without a service asks for nothing. -/
def sendsTo (state : State) (conn : Conn) : Request → Option Guint
  | .sendMessage serviceId _ => some serviceId
  | .serviceSendMessage path remoteServiceId _ =>
      (state.exports.lookup (conn, path)).map fun _ => remoteServiceId
  | _ => none

/-- A connection without an app id asks to send to a live service. -/
def SendsUnidentified (state : State) (conn : Conn) (request : Request) : Prop :=
  (state.dbusManagers.lookup conn).bind (·.appId) = none ∧
    ∃ serviceId service, sendsTo state conn request = some serviceId ∧
      Targets state serviceId service

/-- No null app id is used for the request; where one would be, the reply is an error. -/
structure NullSafe (state : State) (conn : Conn) (request : Request) (choices : Choices) :
    Prop where
  unused : NullUnused state (serve state conn request choices)
  refused : SendsUnidentified state conn request → ∃ outcome error,
    serve state conn request choices = .ok outcome ∧ outcome.replies request.path = [.error error]

/-! ## Owners without an app id -/

/-- An app that could not be looked up is not an installed one. -/
theorem getAppIdFromConnection_unknown {credentials : DbusManager.PeerCredentials}
    (unknown : (DbusManager.getAppIdFromConnection credentials).1 = none) :
    (DbusManager.getAppIdFromConnection credentials).2 = false := by
  cases credentials with
  | missing => rfl
  | noPid => rfl
  | pid peerPid resolved => cases resolved <;> cases unknown

/-- A connection that is opened without an app id is not that of an installed app. -/
theorem connected_unknown {state next : State} {label : Label} {emitted : List Event}
    (sound : Sound state) (transition : step state label = some (next, emitted)) {conn : Conn}
    {validApp : Bool} (opened : .connected conn none validApp ∈ emitted) : validApp = false := by
  cases step_cases transition with
  | @connect other credentials exportFailure _ _ _ ran =>
      unfold DbusManager.new at ran
      cases exportFailure with
      | none =>
          obtain ⟨-, rfl⟩ := Prod.mk.inj (Except.ok.inj ran)
          simp only [List.mem_singleton, Event.connected.injEq] at opened
          obtain ⟨_, unknown, rfl⟩ := opened
          exact getAppIdFromConnection_unknown unknown.symm
      | some error =>
          dsimp only at ran
          split at ran
          · cases ran
          · obtain ⟨-, rfl⟩ := Prod.mk.inj (Except.ok.inj ran)
            cases opened
  | request served ran =>
      rcases subject_of_serve sound served ran _ opened with sending | ⟨same, _⟩
      · exact sending.elim
      · obtain rfl := Option.some.inj same
        exact absurd served ((serve_effect sound served ran).1.connected_new opened)
  | unregisterService => simp at opened
  | close => simp at opened

/-- An owner without an app id counts as one without a certificate. -/
theorem flagged_of_unknown {trace : List Event} {state : State} (run : system.Runs trace state) :
    ∀ {conn dbusManager}, state.dbusManagers.lookup conn = some dbusManager →
      dbusManager.appId = none → dbusManager.isNullCert = true := by
  refine @EventSystem.Runs.invariant _ _ _ system (fun _ state => ∀ {conn dbusManager},
    state.dbusManagers.lookup conn = some dbusManager →
      dbusManager.appId = none → dbusManager.isNullCert = true) ?_ ?_ _ _ run
  · simp [State.initial]
  · intro trace state label next emitted prior ih transition conn left found unknown
    have sound := sound_of_runs prior
    rcases (step_effect sound transition).1.came found with
      ⟨dbusManager, before, same, kept⟩ | ⟨validApp, flag, opened⟩
    · exact kept (ih before (same ▸ unknown))
    · rw [unknown] at opened
      rw [flag, connected_unknown sound transition opened]
      rfl

/-- Certificates are compared for the owner only, and only while it may have one. -/
theorem compared_of_verdict {owner : Conn} {dbusManager next : DbusManager}
    {peerAppId : Option String} {comparison : CertComparison} {accepted : Bool} {made : List Event}
    (verdict : DbusManager.validatePeerCertificate owner dbusManager peerAppId comparison =
      .ok (next, accepted, made)) {other : Conn} {peer : String} {result : CertComparison}
    (compared : .compared other peer result ∈ made) :
    other = owner ∧ dbusManager.isNullCert = false := by
  rcases DbusManager.validatePeerCertificate_made verdict with rfl | ⟨_, _, rfl⟩
  · cases compared
  · simp only [List.mem_singleton, Event.compared.injEq] at compared
    refine ⟨compared.1, Bool.eq_false_iff.mpr fun flagged => ?_⟩
    cases (DbusManager.validatePeerCertificate_flagged verdict flagged).2.2

/-! ## What each request uses -/

section Uses

variable {state : State} {conn : Conn} {serviceId : Guint} {data : VariantMap}
    {appId : Option String} {port : String} {isTrusted : Bool} {outcome : Handled Unit}

/-- A comparison for a send is made for an owner that may have a certificate. -/
theorem compared_of_dispatch (dispatch : Dispatch state serviceId data appId port isTrusted outcome)
    {owner : Conn} {peer : String} {comparison : CertComparison}
    (compared : .compared owner peer comparison ∈ outcome.events) :
    ∃ dbusManager, state.dbusManagers.lookup owner = some dbusManager ∧
      dbusManager.isNullCert = false := by
  cases dispatch with
  | zero => cases compared
  | missing => cases compared
  | sent _ _ _ sending =>
      cases sending with
      | untrusted => simp at compared
      | accepted _ owned _ verdict =>
          simp only [List.mem_append, List.mem_singleton, reduceCtorEq, or_false] at compared
          obtain ⟨rfl, certified⟩ := compared_of_verdict verdict compared
          exact ⟨_, owned, certified⟩
      | refused _ owned _ verdict =>
          obtain ⟨rfl, certified⟩ := compared_of_verdict verdict compared
          exact ⟨_, owned, certified⟩

/-- A message for a send goes to the live service of the id, from the sender. -/
theorem emitted_of_sending (sound : Sound state)
    (dispatch : Dispatch state serviceId data appId port isTrusted outcome) {message : OnMessage}
    (emitted : .emitted message ∈ outcome.events) :
    Targets state serviceId message.service ∧ message.remoteAppId = appId := by
  have there := mem_onMessages.mpr emitted
  cases dispatch with
  | zero => cases there
  | missing => cases there
  | @sent addr service _ _ _ nonzero found live sending =>
      obtain ⟨_, live', keyed⟩ := sound.cachedLive found
      obtain rfl := Option.some.inj (live.symm.trans live')
      have only : message = ⟨service, data, appId, port, isTrusted⟩ := by
        cases sending with
        | untrusted => simpa using emitted
        | accepted _ _ _ verdict =>
            rw [onMessages_append, onMessages_validated verdict, List.nil_append] at there
            simpa [onMessages] using there
        | refused _ _ _ verdict =>
            rw [onMessages_validated verdict] at there
            cases there
      rw [only]
      exact ⟨⟨nonzero, (guintToPointer_inj.mp keyed).symm, addr, live⟩, rfl⟩

/-- A send uses no null app id, unless its sender has none and it comes to a service. -/
theorem nullUnused_of_dispatch (sound : Sound state)
    (flagged : ∀ {conn dbusManager}, state.dbusManagers.lookup conn = some dbusManager →
      dbusManager.appId = none → dbusManager.isNullCert = true)
    {result : Except Fault (Handled Unit)} (unhashed : result ≠ .error .nullKey)
    (dispatch : ∀ outcome, result = .ok outcome →
      Dispatch state serviceId data appId port isTrusted outcome)
    (identified : ∀ service, Targets state serviceId service → appId ≠ none) :
    NullUnused state result where
  hashed := unhashed
  compared := by
    intro outcome ran owner peer comparison compared
    obtain ⟨dbusManager, owned, certified⟩ := compared_of_dispatch (dispatch outcome ran) compared
    cases known : dbusManager.appId with
    | some appId => exact ⟨appId, by rw [owned, Option.bind_some, known]⟩
    | none =>
        rw [flagged owned known] at certified
        cases certified
  emitted := by
    intro outcome ran message emitted
    obtain ⟨targets, same⟩ := emitted_of_sending sound (dispatch outcome ran) emitted
    rw [same]
    exact Option.ne_none_iff_exists'.mp (identified _ targets)

/-- A request that is no part of a send uses no app id of a sender. -/
theorem nullUnused_of_silent {Answer : Type} {result : Except Fault (Handled Answer)}
    (unhashed : result ≠ .error .nullKey)
    (silent : ∀ outcome, result = .ok outcome → ∀ event ∈ outcome.events, ¬ event.Sending) :
    NullUnused state result where
  hashed := unhashed
  compared := fun outcome ran _ _ _ compared => (silent outcome ran _ compared trivial).elim
  emitted := fun outcome ran _ emitted => (silent outcome ran _ emitted trivial).elim

end Uses

/-! ## Faults of the other handlers -/

section Faults

variable {state : State} {conn : Conn} {portName : String} {isTrusted : Bool} {choices : Choices}
  {fault : Fault}

theorem deref_fault {addr : Addr} (faults : state.deref addr = .error fault) :
    fault = .useAfterFree := by
  unfold State.deref at faults
  split at faults
  · cases faults
  · exact (Except.error.inj faults).symm

/-- A search faults only at a dangling pointer. -/
theorem getServiceInternal_fault {list : List Addr}
    (faults : Manager.getServiceInternal state portName isTrusted list = .error fault) :
    fault = .useAfterFree := by
  induction list with
  | nil => cases faults
  | cons head next ih =>
      simp only [Manager.getServiceInternal] at faults
      split at faults
      case h_1 dangling =>
        obtain rfl := Except.error.inj faults
        exact deref_fault dangling
      · split at faults
        · cases faults
        · exact ih faults

/-- So does a registration. -/
theorem handleRegisterService_fault
    (faults : DbusManager.handleRegisterService state conn portName isTrusted
      choices = .error fault) :
    fault = .useAfterFree := by
  unfold DbusManager.handleRegisterService at faults
  split at faults
  case h_1 registers =>
    obtain rfl := Except.error.inj faults
    unfold Manager.registerService at registers
    split at registers
    · cases registers
    split at registers
    · cases registers
    split at registers
    case h_1 search =>
      obtain rfl := Except.error.inj registers
      exact getServiceInternal_fault search
    · cases registers
    split at registers
    · cases registers
    split at registers
    · cases registers
    · exact (Except.error.inj registers).symm
  · split at faults
    case h_1 dangling =>
      obtain rfl := Except.error.inj faults
      exact deref_fault dangling
    · cases faults
  · cases faults

/-- So does a lookup. -/
theorem handleCheckForRemoteService_fault {appId : String}
    (faults : DbusManager.handleCheckForRemoteService state appId portName isTrusted
      choices = .error fault) :
    fault = .useAfterFree := by
  unfold DbusManager.handleCheckForRemoteService at faults
  split at faults
  · cases faults
  split at faults
  case h_1 looks =>
    obtain rfl := Except.error.inj faults
    unfold Manager.getService at looks
    split at looks
    · cases looks
    split at looks
    · cases looks
    split at looks
    case h_1 search =>
      obtain rfl := Except.error.inj looks
      exact getServiceInternal_fault search
    · cases looks
    · cases looks
  · cases faults
  · split at faults
    case h_1 dangling =>
      obtain rfl := Except.error.inj faults
      exact deref_fault dangling
    · cases faults

/-- A registration is no part of a send. -/
theorem handleRegisterService_silent (sound : Sound state) (served : conn ∈ state.dbusManagers)
    {outcome : Handled ObjectPath}
    (ran : DbusManager.handleRegisterService state conn portName isTrusted choices = .ok outcome) :
    ∀ event ∈ outcome.events, ¬ event.Sending := by
  intro event member sending
  cases DbusManager.handleRegisterService_cases sound served ran with
  | rejected => cases member
  | existing =>
      rw [List.mem_singleton.mp member] at sending
      exact sending
  | exportFailed =>
      rw [List.mem_singleton.mp member] at sending
      exact sending
  | created =>
      simp only [List.mem_cons, List.not_mem_nil, or_false] at member
      rcases member with rfl | rfl <;> exact sending

end Faults

/-! ## Sends -/

section Sends

variable {state : State} {conn : Conn} {serviceId : Guint}

/-- A sender that has an app id, or comes to no service, is never looked up as null. -/
theorem handleSendMessage_unhashed (sound : Sound state) (served : conn ∈ state.dbusManagers)
    (identified : ∀ service, Targets state serviceId service →
      (state.dbusManagers.lookup conn).bind (·.appId) ≠ none)
    (data : VariantMap) (choices : Choices) :
    DbusManager.handleSendMessage state conn serviceId data choices ≠ .error .nullKey ∧
    ∀ addr dbusService, state.services.lookup addr = some dbusService → dbusService.owner = conn →
      DbusService.handleSendMessage state addr serviceId data choices ≠ .error .nullKey := by
  cases aim sound serviceId with
  | zero zero =>
      subst zero
      obtain ⟨manager, service⟩ := handleSendMessage_zero sound served data choices
      refine ⟨by rw [manager]; simp, fun addr dbusService live _ => ?_⟩
      rw [service addr dbusService live]
      simp
  | missing nonzero missing =>
      obtain ⟨manager, service⟩ := handleSendMessage_missing sound served nonzero
        missing data choices
      refine ⟨by simp [manager], fun addr dbusService live _ => ?_⟩
      rw [service addr dbusService live]
      split <;> simp
  | @target peer service nonzero found live same =>
      have known := identified service ⟨nonzero, same, peer, live⟩
      obtain ⟨next, accepted, made, _, _, manager, other⟩ :=
        handleSendMessage_target sound served nonzero
        found live rfl (fun unhashable => known unhashable.2.1) data choices
      refine ⟨by simp [manager], fun addr dbusService there owned => ?_⟩
      simp [other addr dbusService there owned]

/-- A sender without an app id that comes to a service is looked up as null, or its
null app id is sent on. -/
theorem handleSendMessage_unidentified (sound : Sound state) (served : conn ∈ state.dbusManagers)
    (unknown : (state.dbusManagers.lookup conn).bind (·.appId) = none) {service : DbusService}
    (targets : Targets state serviceId service) (data : VariantMap) (choices : Choices) :
    ¬ NullUnused state (DbusManager.handleSendMessage state conn serviceId data choices) ∧
    ∀ addr dbusService, state.services.lookup addr = some dbusService → dbusService.owner = conn →
      ¬ NullUnused state (DbusService.handleSendMessage state addr serviceId data choices) := by
  obtain ⟨nonzero, same, peer, live⟩ := targets
  have found : state.cached (guintToPointer serviceId) = some peer := same ▸ sound.liveCached live
  by_cases unhashable : Unhashable state service none
  · obtain ⟨manager, other⟩ :=
      handleSendMessage_fault sound served nonzero found live (unknown ▸ unhashable) data choices
    exact ⟨fun unused => unused.hashed manager,
      fun addr dbusService there owned unused => unused.hashed (other addr dbusService there owned)⟩
  · obtain ⟨next, accepted, made, _, admits, manager, other⟩ :=
      handleSendMessage_target sound served nonzero found live unknown unhashable data choices
    -- without a certificate the owner of the service lets everyone through
    have through : accepted = true := by
      refine admits.mpr fun trusted => ?_
      obtain ⟨owner, owned⟩ := HashTable.lookup_isSome_iff.mp (sound.liveOpen live)
      refine ⟨owner, owned, .inl ?_⟩
      cases certified : owner.isNullCert with
      | true => rfl
      | false => exact absurd ⟨trusted, rfl, owner, owned, certified⟩ unhashable
    subst through
    constructor
    · intro unused
      obtain ⟨appId, carried⟩ := unused.emitted _ manager ⟨service, data, none, "", false⟩ (by simp)
      cases carried
    · intro addr dbusService there owned unused
      obtain ⟨appId, carried⟩ := unused.emitted _ (other addr dbusService there owned)
        ⟨service, data, none, dbusService.portName, dbusService.isTrusted⟩ (by simp)
      cases carried

end Sends

/-- A send from a connection without an app id to a live service uses the null app id. -/
theorem used_of_sendsUnidentified {state : State} {conn : Conn} {request : Request}
    {choices : Choices} (sound : Sound state) (served : conn ∈ state.dbusManagers)
    (unidentified : SendsUnidentified state conn request) :
    ¬ NullUnused state (serve state conn request choices) := by
  obtain ⟨unknown, serviceId, service, aimed, targets⟩ := unidentified
  cases request with
  | sendMessage id data =>
      obtain rfl := Option.some.inj aimed
      exact (handleSendMessage_unidentified sound served unknown targets data choices).1
  | serviceSendMessage path id data =>
      obtain ⟨addr, exported, rfl⟩ := Option.map_eq_some_iff.mp aimed
      obtain ⟨dbusService, live, owned, _⟩ := sound.exported.mp exported
      simp only [serve, exported]
      exact (handleSendMessage_unidentified sound served unknown targets data choices).2
        addr dbusService live owned
  | _ => cases aimed

/-- No other request uses one. -/
theorem unused_of_identified {trace : List Event} {state : State} (run : system.Runs trace state)
    {conn : Conn} (served : conn ∈ state.dbusManagers) {request : Request} (choices : Choices)
    (identified : ¬ SendsUnidentified state conn request) :
    NullUnused state (serve state conn request choices) := by
  have sound := sound_of_runs run
  have known {serviceId : Guint} (aimed : sendsTo state conn request = some serviceId) :
      ∀ service, Targets state serviceId service →
        (state.dbusManagers.lookup conn).bind (·.appId) ≠ none :=
    fun service targets unknown => identified ⟨unknown, serviceId, service, aimed, targets⟩
  cases request with
  | registerService port isTrusted =>
      apply nullUnused_of_silent
      · intro faults
        cases handleRegisterService_fault faults
      · exact fun outcome ran => handleRegisterService_silent sound served ran
  | checkForRemoteService remoteAppId remotePort isTrusted =>
      apply nullUnused_of_silent
      · intro faults
        cases handleCheckForRemoteService_fault faults
      · intro outcome ran event member
        rw [(DbusManager.handleCheckForRemoteService_quiet ran).2] at member
        cases member
  | sendMessage serviceId data =>
      exact nullUnused_of_dispatch sound (flagged_of_unknown run)
        (handleSendMessage_unhashed sound served (known rfl) data choices).1
        (fun outcome ran => DbusManager.handleSendMessage_cases sound served ran) (known rfl)
  | serviceSendMessage path remoteServiceId data =>
      simp only [serve]
      cases exported : state.exports.lookup (conn, path) with
      | none =>
          apply nullUnused_of_silent (by simp)
          intro outcome ran event member
          obtain rfl := Except.ok.inj ran
          cases member
      | some addr =>
          obtain ⟨dbusService, live, rfl, _⟩ := sound.exported.mp exported
          have aimed : sendsTo state dbusService.owner
              (.serviceSendMessage path remoteServiceId data) =
              some remoteServiceId := by simp [sendsTo, exported]
          exact nullUnused_of_dispatch sound (flagged_of_unknown run)
            ((handleSendMessage_unhashed sound served (known aimed) data choices).2 addr
              dbusService live rfl)
            (fun outcome ran => DbusService.handleSendMessage_cases sound live ran) (known aimed)
  | serviceUnregister path =>
      simp only [serve]
      split
      all_goals
        apply nullUnused_of_silent (by simp)
        intro outcome ran event member
        obtain rfl := Except.ok.inj ran
        cases member

/-- In every reachable state a request uses no null app id, exactly if it does not come
from a connection without one that asks to send to a live service. -/
theorem nullSafe_iff {trace : List Event} {state : State} (run : system.Runs trace state)
    {conn : Conn} (served : conn ∈ state.dbusManagers) (request : Request) (choices : Choices) :
    NullSafe state conn request choices ↔ ¬ SendsUnidentified state conn request := by
  constructor
  · exact fun safe unidentified => used_of_sendsUnidentified
      (sound_of_runs run) served unidentified safe.unused
  · exact fun identified => ⟨unused_of_identified run served choices identified,
      fun unidentified => absurd unidentified identified⟩

/-- A trusted port, and a connection whose peer credentials are missing. -/
theorem unidentified_run : ∃ trace state, system.Runs trace state ∧ 1 ∈ state.dbusManagers ∧
    state.services.lookup 0 = some ⟨1, 0, "port", true⟩ ∧
    (state.dbusManagers.lookup 1).bind (·.appId) = none := by
  obtain ⟨trace, state, run, accepted⟩ := @EventSystem.Runs.of_exec _ _ _ system
    [.connect 0 (.pid 1 (some "app")) none, .connect 1 .missing none,
      .request 0 (.registerService "port" true) .benign]
    (fun state _ => 1 ∈ state.dbusManagers ∧
      state.services.lookup 0 = some ⟨1, 0, "port", true⟩ ∧
      (state.dbusManagers.lookup 1).bind (·.appId) = none) (by decide)
  exact ⟨trace, state, run, of_decide_eq_true accepted⟩

/-- The connection may register ports, and its sends to ids of no service are refused. -/
theorem nullSafe_iff_refused : ∃ trace state, system.Runs trace state ∧
    (state.dbusManagers.lookup 1).bind (·.appId) = none ∧
    NullSafe state 1 (.sendMessage 0 []) .benign := by
  obtain ⟨trace, state, run, served, _, unknown⟩ := unidentified_run
  refine ⟨trace, state, run, unknown, (nullSafe_iff run served (.sendMessage 0 []) .benign).mpr ?_⟩
  rintro ⟨_, serviceId, service, aimed, targets⟩
  exact targets.1 (Option.some.inj aimed).symm

/-- Its send to the port is not safe. -/
theorem nullKey_hashed : ¬ ∀ trace state, system.Runs trace state → ∀ conn ∈ state.dbusManagers,
    ∀ request choices, NullSafe state conn request choices := by
  intro safe
  obtain ⟨trace, state, run, served, live, unknown⟩ := unidentified_run
  have unidentified : SendsUnidentified state 1 (.sendMessage 1 []) :=
    ⟨unknown, 1, ⟨1, 0, "port", true⟩, rfl, by decide, rfl, 0, live⟩
  exact used_of_sendsUnidentified (sound_of_runs run) served unidentified
    (safe trace state run 1 served (.sendMessage 1 []) .benign).unused

end MessagePort.Safety
