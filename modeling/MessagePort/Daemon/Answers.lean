import MessagePort.Daemon.Frame

/-!
# Which requests end

A handler ends unless it follows a pointer that leads nowhere or hashes a null
string. For each handler the condition is exact, and read off the state before;
the verdict of a certificate check is the same whatever else the message carries.
-/

namespace MessagePort.Daemon

open Logical

/-! ## One check of a certificate -/

/-- The verdict of a comparison alone: the certificates match, or the owner has none. -/
def plainVerdict : CertComparison → Bool
  | .ok .match => true
  | .ok .lhsNoCert => true
  | .ok .bothNoCert => true
  | _ => false

/-- A comparison found that the owner has no certificate. -/
def LacksOwn (comparison : CertComparison) : Prop :=
  comparison = .ok .lhsNoCert ∨ comparison = .ok .bothNoCert

/-- The verdict on a peer: every one is accepted by an owner without a
certificate, and any other verdict is that of the first comparison that did not fail. -/
def verdictOn (dbusManager : DbusManager) (peer : String) (comparison : CertComparison) : Bool :=
  dbusManager.isNullCert || (dbusManager.peerCerts.lookup peer).getD (plainVerdict comparison)

/-- A check returns this verdict, and remembers what the comparison said. -/
theorem validatePeerCertificate_some (owner : Conn) (dbusManager : DbusManager) (peer : String)
    (comparison : CertComparison) : ∃ next made,
      DbusManager.validatePeerCertificate owner dbusManager (some peer) comparison =
        .ok (next, verdictOn dbusManager peer comparison, made) ∧
      (next.isNullCert = true ↔ dbusManager.isNullCert = true ∨
        (dbusManager.peerCerts.lookup peer = none ∧ LacksOwn comparison)) ∧
      ∀ other isValidCert, next.peerCerts.lookup other = some isValidCert →
        dbusManager.peerCerts.lookup other = some isValidCert ∨
          (other = peer ∧ ¬ LacksOwn comparison ∧ isValidCert = plainVerdict comparison) := by
  unfold DbusManager.validatePeerCertificate verdictOn
  cases flagged : dbusManager.isNullCert with
  | true => exact ⟨_, _, rfl, by simp [flagged], fun _ _ => .inl⟩
  | false =>
      simp only [Bool.false_eq_true, if_false, Bool.false_or, false_or]
      cases cached : dbusManager.peerCerts.lookup peer with
      | some isValidCert => exact ⟨_, _, rfl, by simp [flagged], fun _ _ => .inl⟩
      | none =>
          -- only an answer that is remembered for the peer changes its cache
          have remembered (result : CertCompareResult) (lacks : ¬ LacksOwn (.ok result))
              (verdict : decide (result = .match) = plainVerdict (.ok result)) (other : String)
              (isValidCert : Bool)
              (found : (dbusManager.peerCerts.insert peer (decide (result = .match))).lookup other =
                some isValidCert) :
              dbusManager.peerCerts.lookup other = some isValidCert ∨
                (other = peer ∧ ¬ LacksOwn (.ok result) ∧
                  isValidCert = plainVerdict (.ok result)) := by
            rcases HashTable.lookup_insert_some.mp found with ⟨same, rfl⟩ | ⟨_, found⟩
            · exact .inr ⟨same, lacks, verdict⟩
            · exact .inl found
          cases comparison with
          | error error => exact ⟨_, _, rfl, by simp [LacksOwn, flagged], fun _ _ => .inl⟩
          | ok result =>
              cases result with
              | lhsNoCert => exact ⟨_, _, rfl, by simp [LacksOwn], fun _ _ => .inl⟩
              | bothNoCert => exact ⟨_, _, rfl, by simp [LacksOwn], fun _ _ => .inl⟩
              | «match» =>
                  exact ⟨_, _, rfl, by simp [LacksOwn], remembered .match (by simp [LacksOwn]) rfl⟩
              | mismatch =>
                  exact ⟨_, _, rfl, by simp [LacksOwn],
                    remembered .mismatch (by simp [LacksOwn]) rfl⟩
              | rhsNoCert =>
                  exact ⟨_, _, rfl, by simp [LacksOwn],
                    remembered .rhsNoCert (by simp [LacksOwn]) rfl⟩

/-! ## Sending on a service -/

/-- The sender has no app id, and it would be looked up among the peers of the owner. -/
def Unhashable (state : State) (service : DbusService) (appId : Option String) : Prop :=
  service.isTrusted = true ∧ appId = none ∧
    ∃ owner, state.dbusManagers.lookup service.owner = some owner ∧ owner.isNullCert = false

/-- A service lets a message of this sender through: it is untrusted, or the
certificate check of its owner accepts the sender. -/
def Admits (state : State) (service : DbusService) (appId : Option String)
    (comparison : CertComparison) : Prop :=
  service.isTrusted = true → ∃ owner, state.dbusManagers.lookup service.owner = some owner ∧
    (owner.isNullCert = true ∨ ∃ peer, appId = some peer ∧ verdictOn owner peer comparison = true)

namespace DbusService

/-- A sender that cannot be looked up ends the daemon. -/
theorem sendMessage_fault {state : State} {addr : Addr} {service : DbusService}
    {appId : Option String} (live : state.services.lookup addr = some service)
    (unhashable : Unhashable state service appId) (data : VariantMap) (port : String)
    (isTrusted : Bool) (comparison : CertComparison) :
    sendMessage state addr data appId port isTrusted comparison = .error .nullKey := by
  obtain ⟨trusted, rfl, owner, owned, certified⟩ := unhashable
  simp [sendMessage, State.deref, live, trusted, owned,
    DbusManager.validatePeerCertificate, certified]

/-- Any other send on a live service ends, with a verdict and a state that do not
depend on the port that it names. -/
theorem sendMessage_uniform {state : State} (sound : Sound state) {addr : Addr}
    {service : DbusService} {appId : Option String}
    (live : state.services.lookup addr = some service) (hashable : ¬ Unhashable state service appId)
    (data : VariantMap) (comparison : CertComparison) :
    ∃ (next : State) (accepted : Bool) (made : List Event), onMessages made = [] ∧
      (accepted = true ↔ Admits state service appId comparison) ∧ ∀ port isTrusted,
      sendMessage state addr data appId port isTrusted comparison =
        .ok (next, if accepted then .ok () else .error msgportErrorCertificateMismatchNew,
          if accepted then made ++ [.emitted ⟨service, data, appId, port, isTrusted⟩]
          else made) := by
  simp only [sendMessage, State.deref, live]
  cases trusted : service.isTrusted with
  | false => exact ⟨state, true, [], rfl, by simp [Admits, trusted], fun _ _ => rfl⟩
  | true =>
      obtain ⟨owner, owned⟩ := HashTable.lookup_isSome_iff.mp (sound.liveOpen live)
      have ends {next : DbusManager} {accepted : Bool} {made : List Event}
          (verdict : DbusManager.validatePeerCertificate service.owner owner appId comparison =
            .ok (next, accepted, made)) (port : String) (isTrusted : Bool) :
          sendMessage state addr data appId port isTrusted comparison =
            .ok ({ state with dbusManagers := state.dbusManagers.insert service.owner next },
              if accepted then .ok () else .error msgportErrorCertificateMismatchNew,
              if accepted then made ++ [.emitted ⟨service, data, appId, port, isTrusted⟩]
              else made) := by
        simp only [sendMessage, State.deref, live, trusted, owned, verdict, if_true]
        cases accepted <;> rfl
      simp only [sendMessage, State.deref, live, trusted] at ends
      cases certified : owner.isNullCert with
      | true =>
          have verdict : DbusManager.validatePeerCertificate service.owner owner appId comparison =
              .ok (owner, true, []) := by
            simp only [DbusManager.validatePeerCertificate, certified, if_true]
          exact ⟨_, true, [], rfl, by simp [Admits, owned, certified], ends verdict⟩
      | false =>
          cases appId with
          | none => exact absurd ⟨trusted, rfl, owner, owned, certified⟩ hashable
          | some peer =>
              obtain ⟨next, made, verdict, _⟩ :=
                validatePeerCertificate_some service.owner owner peer comparison
              exact ⟨_, _, made, onMessages_validated verdict,
                by simp [Admits, trusted, owned, certified], ends verdict⟩

end DbusService

/-! ## Requests to send -/

/-- What a request to send to an id finds. -/
inductive Aim (state : State) (serviceId : Guint) : Prop where
  | zero (zero : serviceId = 0)
  | missing (nonzero : serviceId ≠ 0) (missing : state.cached (guintToPointer serviceId) = none)
  | target {peer service} (nonzero : serviceId ≠ 0)
      (found : state.cached (guintToPointer serviceId) = some peer)
      (live : state.services.lookup peer = some service) (same : service.id = serviceId)

theorem aim {state : State} (sound : Sound state) (serviceId : Guint) : Aim state serviceId := by
  by_cases zero : serviceId = 0
  · exact .zero zero
  · cases found : state.cached (guintToPointer serviceId) with
    | none => exact .missing zero found
    | some peer =>
        obtain ⟨service, live, keyed⟩ := sound.cachedLive found
        exact .target zero found live (guintToPointer_inj.mp keyed).symm

/-- The live service that a nonzero id stands for. -/
def Targets (state : State) (serviceId : Guint) (service : DbusService) : Prop :=
  serviceId ≠ 0 ∧ service.id = serviceId ∧ ∃ addr, state.services.lookup addr = some service

/-- A nonzero id stands for no live service. -/
def Dead (state : State) (serviceId : Guint) : Prop :=
  serviceId ≠ 0 ∧ ∀ service, ¬ Targets state serviceId service

section Targets

variable {state : State} {serviceId : Guint}

theorem dead_of_missing (sound : Sound state) (nonzero : serviceId ≠ 0)
    (missing : state.cached (guintToPointer serviceId) = none) : Dead state serviceId := by
  refine ⟨nonzero, ?_⟩
  rintro service ⟨_, rfl, addr, live⟩
  rw [sound.liveCached live] at missing
  cases missing

theorem targets_unique (sound : Sound state) {one other : DbusService}
    (first : Targets state serviceId one) (second : Targets state serviceId other) :
    one = other := by
  obtain ⟨_, same, addr, live⟩ := first
  obtain ⟨_, same', addr', live'⟩ := second
  obtain rfl := sound.addr_of_id live live' (same.trans same'.symm)
  exact Option.some.inj (live.symm.trans live')

end Targets

section Handlers

variable {state : State} {conn : Conn} {addr : Addr} {dbusService : DbusService} {serviceId : Guint}

/-- Both handlers refuse the id zero. -/
theorem handleSendMessage_zero (sound : Sound state) (served : conn ∈ state.dbusManagers)
    (data : VariantMap) (choices : Choices) :
    DbusManager.handleSendMessage state conn 0 data choices =
      .ok ⟨state, [.error (msgportErrorAssertion "service_id != 0")], true, []⟩ ∧
    ∀ addr dbusService, state.services.lookup addr = some dbusService →
      DbusService.handleSendMessage state addr 0 data choices =
        .ok ⟨state, [.error (msgportErrorAssertion "service_id != 0")], true, []⟩ := by
  obtain ⟨manager, present⟩ := sound.registry served
  constructor
  · simp [DbusManager.handleSendMessage, Manager.getServiceById_eq present]
  · intro addr dbusService live
    simp [DbusService.handleSendMessage, State.deref, live, Manager.getServiceById_eq present]

/-- Without a service the one handler says so, and the other reads its stack. -/
theorem handleSendMessage_missing (sound : Sound state) (served : conn ∈ state.dbusManagers)
    (nonzero : serviceId ≠ 0) (missing : state.cached (guintToPointer serviceId) = none)
    (data : VariantMap) (choices : Choices) :
    DbusManager.handleSendMessage state conn serviceId data choices =
      .ok ⟨state, [.error msgportErrorUnknownNew], true, []⟩ ∧
    ∀ addr dbusService, state.services.lookup addr = some dbusService →
      DbusService.handleSendMessage state addr serviceId data choices =
        if choices.stackWord = 0 then .ok ⟨state, [.error msgportErrorUnknownNew], true, []⟩
        else .error .wildPointer := by
  obtain ⟨manager, present⟩ := sound.registry served
  constructor
  · simp only [DbusManager.handleSendMessage, Manager.getServiceById_eq present,
      if_neg nonzero, missing, Option.getD_none]
  · intro addr dbusService live
    simp only [DbusService.handleSendMessage, State.deref, live, Manager.getServiceById_eq present,
      if_neg nonzero, missing]

/-- A sender that the owner of the service cannot look up ends both handlers. -/
theorem handleSendMessage_fault (sound : Sound state) (served : conn ∈ state.dbusManagers)
    {peer : Addr} {service : DbusService} (nonzero : serviceId ≠ 0)
    (found : state.cached (guintToPointer serviceId) = some peer)
    (live : state.services.lookup peer = some service)
    (unhashable : Unhashable state service ((state.dbusManagers.lookup conn).bind (·.appId)))
    (data : VariantMap) (choices : Choices) :
    DbusManager.handleSendMessage state conn serviceId data choices = .error .nullKey ∧
    ∀ addr dbusService, state.services.lookup addr = some dbusService → dbusService.owner = conn →
      DbusService.handleSendMessage state addr serviceId data choices = .error .nullKey := by
  obtain ⟨manager, present⟩ := sound.registry served
  constructor
  · simp only [DbusManager.handleSendMessage, Manager.getServiceById_eq present,
      if_neg nonzero, found, DbusService.sendMessage_fault live unhashable]
  · rintro addr dbusService there rfl
    simp only [DbusService.handleSendMessage, State.deref, there, Manager.getServiceById_eq present,
      if_neg nonzero, found, DbusService.sendMessage_fault live unhashable]

/-- Any other sender gets the same verdict from both handlers, and leaves the same state. -/
theorem handleSendMessage_target (sound : Sound state) (served : conn ∈ state.dbusManagers)
    {peer : Addr} {service : DbusService} (nonzero : serviceId ≠ 0)
    (found : state.cached (guintToPointer serviceId) = some peer)
    (live : state.services.lookup peer = some service) {appId : Option String}
    (resolved : (state.dbusManagers.lookup conn).bind (·.appId) = appId)
    (hashable : ¬ Unhashable state service appId) (data : VariantMap) (choices : Choices) :
    ∃ (next : State) (accepted : Bool) (made : List Event), onMessages made = [] ∧
      (accepted = true ↔ Admits state service appId choices.comparison) ∧
      DbusManager.handleSendMessage state conn serviceId data choices =
        .ok ⟨next, [if accepted then .ok () else .error msgportErrorCertificateMismatchNew], true,
          if accepted then made ++ [.emitted ⟨service, data, appId, "", false⟩] else made⟩ ∧
      ∀ addr dbusService, state.services.lookup addr = some dbusService → dbusService.owner = conn →
        DbusService.handleSendMessage state addr serviceId data choices =
          .ok ⟨next, [if accepted then .ok () else .error msgportErrorCertificateMismatchNew], true,
            if accepted then
              made ++ [.emitted ⟨service, data, appId, dbusService.portName, dbusService.isTrusted⟩]
            else made⟩ := by
  obtain ⟨manager, present⟩ := sound.registry served
  obtain ⟨next, accepted, made, silent, admits, sent⟩ :=
    DbusService.sendMessage_uniform sound live hashable data choices.comparison
  refine ⟨next, accepted, made, silent, admits, ?_, ?_⟩
  · simp only [DbusManager.handleSendMessage, Manager.getServiceById_eq present,
      if_neg nonzero, found, resolved, sent]
    cases accepted <;> rfl
  · rintro addr dbusService there rfl
    simp only [DbusService.handleSendMessage, State.deref, there, Manager.getServiceById_eq present,
      if_neg nonzero, found, resolved, sent]
    cases accepted <;> rfl

/-- Whether a request to send comes to a sender that cannot be looked up. -/
def Stuck (state : State) (conn : Conn) (serviceId : Guint) : Prop :=
  ∃ service, Targets state serviceId service ∧
    Unhashable state service ((state.dbusManagers.lookup conn).bind (·.appId))

/-- A request on a dbus manager ends unless the sender is stuck; one on a service
must not meet a dead id and a stack word that is not null either. -/
theorem handleSendMessage_ok_iff (sound : Sound state) (served : conn ∈ state.dbusManagers)
    (data : VariantMap) (choices : Choices) :
    ((∃ outcome, DbusManager.handleSendMessage state conn serviceId data choices = .ok outcome) ↔
      ¬ Stuck state conn serviceId) ∧
    ∀ addr dbusService, state.services.lookup addr = some dbusService → dbusService.owner = conn →
      ((∃ outcome, DbusService.handleSendMessage state addr serviceId data choices = .ok outcome) ↔
        ¬ Stuck state conn serviceId ∧ ¬ (Dead state serviceId ∧ choices.stackWord ≠ 0)) := by
  cases aim sound serviceId with
  | zero zero =>
      subst zero
      obtain ⟨manager, service⟩ := handleSendMessage_zero sound served data choices
      have free : ¬ Stuck state conn 0 := fun ⟨_, targets, _⟩ => targets.1 rfl
      have alive : ¬ Dead state 0 := fun dead => dead.1 rfl
      simp only [manager, free, alive, false_and, not_false_iff, and_self, iff_true]
      exact ⟨⟨_, rfl⟩, fun addr dbusService live _ => ⟨_, service addr dbusService live⟩⟩
  | missing nonzero missing =>
      obtain ⟨manager, service⟩ := handleSendMessage_missing sound served nonzero
        missing data choices
      have dead := dead_of_missing sound nonzero missing
      have free : ¬ Stuck state conn serviceId := fun ⟨other, targets, _⟩ => dead.2 other targets
      simp only [manager, free, dead, true_and, not_false_iff, iff_true]
      refine ⟨⟨_, rfl⟩, fun addr dbusService live _ => ?_⟩
      rw [service addr dbusService live]
      split
      case isTrue null =>
        simp [null]
      case isFalse wild =>
        simpa using wild
  | @target peer service nonzero found live same =>
      have targets : Targets state serviceId service := ⟨nonzero, same, peer, live⟩
      have alive : ¬ Dead state serviceId := fun dead => dead.2 service targets
      simp only [alive, false_and, not_false_iff, and_true]
      by_cases unhashable : Unhashable state service
        ((state.dbusManagers.lookup conn).bind (·.appId))
      · obtain ⟨manager, other⟩ :=
          handleSendMessage_fault sound served nonzero found live unhashable data choices
        have stuck : Stuck state conn serviceId := ⟨service, targets, unhashable⟩
        simp only [manager, stuck, not_true, iff_false]
        refine ⟨by simp, fun addr dbusService there owned => ?_⟩
        rw [other addr dbusService there owned]
        simp
      · obtain ⟨next, accepted, made, _, _, manager, other⟩ :=
          handleSendMessage_target sound served nonzero found live rfl unhashable data choices
        have free : ¬ Stuck state conn serviceId := by
          rintro ⟨another, targets', stuck⟩
          obtain rfl := targets_unique sound targets targets'
          exact unhashable stuck
        simp only [manager, free, not_false_iff, iff_true]
        exact ⟨⟨_, rfl⟩, fun addr dbusService there owned =>
          ⟨_, other addr dbusService there owned⟩⟩

end Handlers

/-! ## Searches -/

/-- A search of a list comes to a dangling pointer before it ends. -/
def Dangles (state : State) (portName : String) (isTrusted : Bool) (list : List Addr) : Prop :=
  ∃ passed addr rest, list = passed ++ addr :: rest ∧
    (∀ other ∈ passed, Passed state portName isTrusted other) ∧ state.services.lookup addr = none

section Searches

variable {state : State} {portName : String} {isTrusted : Bool}

/-- Where the first entry is passed, the rest decides. -/
theorem dangles_cons {head : Addr} {next : List Addr} :
    Dangles state portName isTrusted (head :: next) ↔
    state.services.lookup head = none ∨
      (Passed state portName isTrusted head ∧ Dangles state portName isTrusted next) := by
  constructor
  · rintro ⟨passed, addr, rest, equal, earlier, dangling⟩
    cases passed with
    | nil =>
        obtain ⟨rfl, _⟩ := List.cons.inj equal
        exact .inl dangling
    | cons first passed =>
        obtain ⟨rfl, rfl⟩ := List.cons.inj equal
        obtain ⟨passes, earlier⟩ := List.forall_mem_cons.mp earlier
        exact .inr ⟨passes, passed, addr, rest, rfl, earlier, dangling⟩
  · rintro (dangling | ⟨passes, passed, addr, rest, rfl, earlier, dangling⟩)
    · exact ⟨[], head, next, rfl, by simp, dangling⟩
    · exact ⟨head :: passed, addr, rest, rfl, List.forall_mem_cons.mpr ⟨passes, earlier⟩, dangling⟩

/-- A search ends unless it comes to a dangling pointer. -/
theorem getServiceInternal_ok_iff {list : List Addr} :
    (∃ found, Manager.getServiceInternal state portName isTrusted list = .ok found) ↔
      ¬ Dangles state portName isTrusted list := by
  induction list with
  | nil => simp [Manager.getServiceInternal, Dangles]
  | cons head next ih =>
      rw [dangles_cons, not_or, not_and, ← ih]
      simp only [Manager.getServiceInternal, State.deref, Passed]
      cases live : state.services.lookup head with
      | none => simp
      | some service =>
          by_cases same : portName = service.portName ∧ isTrusted = service.isTrusted
          · obtain ⟨rfl, rfl⟩ := same
            simp
          · have different : ¬ (service.portName = portName ∧ service.isTrusted = isTrusted) :=
              fun equal => same ⟨equal.1.symm, equal.2.symm⟩
            simp only [if_neg same, Option.some.injEq, exists_eq_left', different, reduceCtorEq,
              not_false_eq_true, true_and, forall_const]

variable {conn : Conn} {choices : Choices}

/-- A registration ends unless its search does not. -/
theorem handleRegisterService_ok_iff (sound : Sound state) (served : conn ∈ state.dbusManagers) :
    (∃ outcome, DbusManager.handleRegisterService state conn portName isTrusted
      choices = .ok outcome) ↔
      portName = "" ∨ ¬ Dangles state portName isTrusted (state.ownerList conn) := by
  obtain ⟨manager, present⟩ := sound.registry served
  unfold DbusManager.handleRegisterService Manager.registerService
  simp only [present]
  by_cases named : portName = ""
  · simp [named]
  simp only [if_neg named]
  rw [or_iff_right named, ← getServiceInternal_ok_iff]
  cases search : Manager.getServiceInternal state portName isTrusted (state.ownerList conn) with
  | error fault => simp
  | ok existing =>
      cases existing with
      | some addr =>
          obtain ⟨_, service, live, _⟩ := Manager.getServiceInternal_some search
          simp [State.deref, live]
      | none =>
          cases new : DbusService.new state conn portName isTrusted choices with
          | mk created rest =>
              obtain ⟨result, events⟩ := rest
              cases result with
              | error error => simp
              | ok addr =>
                  obtain ⟨constructs, rfl⟩ := DbusService.new_ok named new
                  have kept : created.manager = some manager := constructs.manager.trans present
                  obtain ⟨creates, _⟩ := Manager.cacheInsert_creates sound.toObjects
                    present constructs
                  have deref : created.deref addr =
                      .ok ⟨state.objectConter + 1, conn, portName, isTrusted⟩ := by
                    simp [State.deref, constructs.services]
                  simp only [deref, kept]
                  simp only [State.deref, creates.live, Except.ok.injEq, exists_eq']

/-- A lookup ends unless its search of the connection visited first does not. -/
theorem handleCheckForRemoteService_ok_iff (sound : Sound state) {appId : String} :
    (∃ outcome,
      DbusManager.handleCheckForRemoteService state appId portName isTrusted
        choices = .ok outcome) ↔
      ∀ other, DbusManager.getDbusManagerByAppId state appId choices.visit = some other →
        portName = "" ∨ ¬ Dangles state portName isTrusted (state.ownerList other) := by
  cases visited : DbusManager.getDbusManagerByAppId state appId choices.visit with
  | none => simp [DbusManager.handleCheckForRemoteService, visited]
  | some other =>
      simp only [Option.some.injEq, forall_eq']
      by_cases named : portName = ""
      · obtain ⟨dbusManager, there, _⟩ := getDbusManagerByAppId_iff.mp ⟨_, visited⟩
        obtain ⟨manager, present⟩ := sound.registry (HashTable.lookup_isSome_iff.mpr ⟨_, there⟩)
        simp [DbusManager.handleCheckForRemoteService, visited, Manager.getService, present, named]
      · rw [handleCheckForRemoteService_eq sound named visited, ← getServiceInternal_ok_iff]
        simp only [named, false_or]
        cases search : Manager.getServiceInternal state portName isTrusted
            (state.ownerList other) with
        | error fault => simp
        | ok found =>
            cases found with
            | none => simp
            | some addr =>
                obtain ⟨_, service, live, _⟩ := Manager.getServiceInternal_some search
                simp [State.deref, live]

/-- The live service that a lookup comes to, on the connection visited first. -/
def LooksUp (state : State) (appId portName : String) (isTrusted : Bool) (visit : List Conn)
    (service : DbusService) : Prop :=
  portName ≠ "" ∧ ∃ other addr, DbusManager.getDbusManagerByAppId state appId visit = some other ∧
    Manager.getServiceInternal state portName isTrusted (state.ownerList other) = .ok (some addr) ∧
    state.services.lookup addr = some service

theorem LooksUp.unique {appId : String} {visit : List Conn} {one other : DbusService}
    (first : LooksUp state appId portName isTrusted visit one)
    (second : LooksUp state appId portName isTrusted visit other) : one = other := by
  obtain ⟨_, conn, addr, visited, search, live⟩ := first
  obtain ⟨_, conn', addr', visited', search', live'⟩ := second
  obtain rfl := Option.some.inj (visited.symm.trans visited')
  rw [search, Except.ok.injEq, Option.some.injEq] at search'
  subst search'
  exact Option.some.inj (live.symm.trans live')

/-- A lookup that comes to a service is answered with its id. -/
theorem handleCheckForRemoteService_found (sound : Sound state) {appId : String}
    {service : DbusService} (found : LooksUp state appId portName isTrusted choices.visit service) :
    DbusManager.handleCheckForRemoteService state appId portName isTrusted choices =
      .ok ⟨state, [.ok service.id], true, []⟩ := by
  obtain ⟨named, other, addr, visited, search, live⟩ := found
  rw [handleCheckForRemoteService_eq sound named visited, search]
  simp only [State.deref, live]

/-- Any other lookup is answered with an error, if it ends. -/
theorem handleCheckForRemoteService_unfound (sound : Sound state) {appId : String}
    (unfound : ∀ service, ¬ LooksUp state appId portName isTrusted choices.visit service)
    {outcome : Handled Guint}
    (ran : DbusManager.handleCheckForRemoteService state appId portName isTrusted
      choices = .ok outcome) :
    ∃ error, outcome = ⟨state, [.error error], true, []⟩ := by
  cases visited : DbusManager.getDbusManagerByAppId state appId choices.visit with
  | none =>
      simp only [DbusManager.handleCheckForRemoteService, visited, Except.ok.injEq] at ran
      exact ⟨_, ran.symm⟩
  | some other =>
      by_cases named : portName = ""
      · cases handleCheckForRemoteService_cases sound ran with
        | found different => exact absurd named different
        | _ => exact ⟨_, rfl⟩
      · rw [handleCheckForRemoteService_eq sound named visited] at ran
        cases search : Manager.getServiceInternal state portName isTrusted
            (state.ownerList other) with
        | error fault => simp [search] at ran
        | ok found =>
            cases found with
            | none =>
                simp only [search, Except.ok.injEq] at ran
                exact ⟨_, ran.symm⟩
            | some addr =>
                obtain ⟨_, service, live, _⟩ := Manager.getServiceInternal_some search
                exact absurd ⟨named, other, addr, visited, search, live⟩ (unfound service)

end Searches

end MessagePort.Daemon
