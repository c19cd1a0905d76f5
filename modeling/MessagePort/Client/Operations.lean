import MessagePort.Client.Api

/-!
# The operations of a call

A send looks the remote port up and then sends, on the dbus manager or on the path
of the local port that it found in its tables. A registration asks once, or replaces
the handler of a service that it found. Neither comes to another operation, whatever
it is answered.
-/

namespace MessagePort.Client

open Daemon Logical Semantics

namespace MsgPortManager

variable {allowed : Operation → Prop}

/-- A lookup asks for one thing, if for any. -/
theorem checkRemoteService_only
    (lookup : ∀ appId port isTrusted, allowed (.call (.checkForRemoteService appId port isTrusted)))
    (manager : MsgPortManager) (appId port : Option String) (isTrusted : Bool) :
    (manager.checkRemoteService appId port isTrusted).Only allowed := by
  unfold checkRemoteService
  split
  · trivial
  split
  · refine ⟨lookup _ _ _, fun answer => ?_⟩
    cases answer <;> trivial
  · trivial

/-- A one-way send looks up and sends its data. -/
theorem sendMessage_only
    (lookup : ∀ appId port isTrusted, allowed (.call (.checkForRemoteService appId port isTrusted)))
    {data : VariantMap} (send : ∀ serviceId, allowed (.call (.sendMessage serviceId data)))
    (manager : MsgPortManager) (appId port : Option String) (isTrusted : Bool) :
    (manager.sendMessage appId port isTrusted data).Only allowed := by
  unfold sendMessage
  split
  · trivial
  split
  · trivial
  · apply Interaction.Only.bind (checkRemoteService_only lookup manager appId port isTrusted)
    rintro ⟨err, serviceId⟩
    dsimp only
    split
    · trivial
    · refine ⟨send serviceId, fun answer => ?_⟩
      cases answer <;> trivial

/-- A bidirectional send does so on the path of the service that it found. -/
theorem sendBidirectionalMessage_only {manager : MsgPortManager} {id : Gint}
    (lookup : ∀ appId port isTrusted, allowed (.call (.checkForRemoteService appId port isTrusted)))
    {data : VariantMap} (send : ∀ service, (manager.getLocalPort id).1 = some service →
      ∀ serviceId, allowed (.call (.serviceSendMessage service.path serviceId data)))
    (appId port : Option String) (isTrusted : Bool) :
    (manager.sendBidirectionalMessage id appId port isTrusted data).Only allowed := by
  unfold sendBidirectionalMessage
  split
  · trivial
  split
  · trivial
  rcases found : manager.getLocalPort id with ⟨_ | service, left⟩
  · trivial
  · apply Interaction.Only.bind (checkRemoteService_only lookup left appId port isTrusted)
    rintro ⟨err, remoteServiceId⟩
    dsimp only
    split
    · apply Interaction.Only.bind
      · refine ⟨send service (by rw [found]) remoteServiceId, fun answer => ?_⟩
        cases answer <;> trivial
      · exact fun status => trivial
    · trivial

/-- What a new service comes to. -/
theorem createAndCacheService_only (proxy : ∀ path, allowed (.serviceProxyNew path))
    (connect : ∀ handle cb, allowed (.connectOnMessage handle cb))
    (unref : ∀ handle, allowed (.serviceUnref handle)) (manager : MsgPortManager)
    (objectPath : ObjectPath) (cb : Callback) :
    (manager.createAndCacheService objectPath cb).Only allowed := by
  unfold createAndCacheService
  apply Interaction.Only.bind
  · refine ⟨proxy objectPath, fun answer => ?_⟩
    cases answer with
    | error error => trivial
    | ok service => exact ⟨connect service.handle cb, fun _ => trivial⟩
  · intro created
    cases created with
    | none => trivial
    | some service =>
        dsimp only
        split
        · trivial
        · apply Interaction.Only.bind
          · exact ⟨unref _, fun _ => trivial⟩
          · exact fun _ => trivial

/-- What a registration is: it fails in the client, replaces the handler of the service that
it finds, or asks the daemon for one that it does not find. -/
inductive RegisterProgram (manager : MsgPortManager) : Option String → Bool → Option Callback →
    Program (MessageportError × Option Gint × MsgPortManager) → Prop where
  | failed {portName isTrusted messageCb status} (failure : status ≠ .none) :
      RegisterProgram manager portName isTrusted messageCb (.done (status, none, manager))
  | found {name isTrusted cb path service} (there : manager.services.lookup path = some service)
      (matched : findService name isTrusted service = true) :
      RegisterProgram manager (some name) isTrusted (some cb)
        (service.setMessageHandler cb >>= fun _ => .done (.none, some service.id, manager))
  | asked {name isTrusted cb} (missed : ∀ path service,
        manager.services.lookup path = some service → findService name isTrusted service = false) :
      RegisterProgram manager (some name) isTrusted (some cb)
        (.perform (.call (.registerService name isTrusted)) fun
          | .error error => .done (msgportDaemonErrorToError error, none, manager)
          | .ok objectPath => manager.createAndCacheService objectPath cb)

theorem registerService_cases (manager : MsgPortManager) (portName : Option String)
    (isTrusted : Bool) (messageCb : Option Callback) (visit : List ObjectPath) :
    RegisterProgram manager portName isTrusted messageCb
      (manager.registerService portName isTrusted messageCb visit) := by
  unfold registerService
  by_cases proxy : manager.proxy = false
  · rw [if_pos proxy]
    exact .failed (by simp)
  rw [if_neg proxy]
  cases portName with
  | none => exact .failed (by simp)
  | some name =>
  cases messageCb with
  | none => exact .failed (by simp)
  | some cb =>
  dsimp only
  cases hit : manager.services.find visit (findService name isTrusted) with
  | none =>
      have asks := @RegisterProgram.asked manager name isTrusted cb (HashTable.find_eq_none.mp hit)
      refine (congrArg (RegisterProgram manager _ _ _)
        (congrArg (Interaction.perform _) ?_)).mp asks
      funext answer
      cases answer <;> rfl
  | some path =>
      obtain ⟨service, there, matched⟩ := HashTable.find_some hit
      rw [Option.bind_some, there]
      exact .found there matched

/-- A registration asks at most once, and otherwise deals with its own objects. -/
theorem registerService_only
    (register : ∀ name isTrusted, allowed (.call (.registerService name isTrusted)))
    (proxy : ∀ path, allowed (.serviceProxyNew path))
    (connect : ∀ handle cb, allowed (.connectOnMessage handle cb))
    (replace : ∀ handle cb, allowed (.setMessageHandler handle cb))
    (unref : ∀ handle, allowed (.serviceUnref handle)) (manager : MsgPortManager)
    (portName : Option String) (isTrusted : Bool) (messageCb : Option Callback)
    (visit : List ObjectPath) :
    (manager.registerService portName isTrusted messageCb visit).Only allowed := by
  have program := manager.registerService_cases portName isTrusted messageCb visit
  generalize manager.registerService portName isTrusted messageCb visit = registers at program ⊢
  cases program with
  | failed _ => trivial
  | found _ _ =>
      apply Interaction.Only.bind
      · exact ⟨replace _ _, fun _ => trivial⟩
      · exact fun _ => trivial
  | asked _ =>
      refine ⟨register _ _, fun answer => ?_⟩
      cases answer with
      | error error => trivial
      | ok objectPath => exact createAndCacheService_only proxy connect unref manager objectPath _

end MsgPortManager

/-- Any call but a registration looks up and sends, at most. -/
theorem program_only_quiet {allowed : Operation → Prop}
    (lookup : ∀ appId port isTrusted, allowed (.call (.checkForRemoteService appId port isTrusted)))
    (send : ∀ serviceId data, allowed (.call (.sendMessage serviceId data)))
    (sendOn : ∀ path serviceId data, allowed (.call (.serviceSendMessage path serviceId data)))
    (manager : MsgPortManager) {call : ApiCall}
    (quiet : ∀ localPort isTrusted callback visit,
      call ≠ .registerLocalPort localPort isTrusted callback visit) :
    (call.program manager).Only allowed := by
  cases call with
  | registerLocalPort => exact absurd rfl (quiet _ _ _ _)
  | checkRemotePort remoteAppId remotePort isTrusted =>
      apply Interaction.Only.bind
      · apply Interaction.Only.bind
        · exact MsgPortManager.checkRemoteService_only lookup manager remoteAppId
            remotePort isTrusted
        · exact fun _ => trivial
      · exact fun _ => trivial
  | sendMessage remoteAppId remotePort isTrusted message =>
      apply Interaction.Only.bind
      · exact MsgPortManager.sendMessage_only lookup (fun _ => send _ _) manager remoteAppId
          remotePort isTrusted
      · exact fun _ => trivial
  | sendBidirectionalMessage id remoteAppId remotePort isTrusted message =>
      apply Interaction.Only.bind
      · exact MsgPortManager.sendBidirectionalMessage_only lookup (fun _ _ _ => sendOn _ _ _)
          remoteAppId remotePort isTrusted
      · exact fun _ => trivial
  | getLocalPortName => trivial
  | checkTrustedLocalPort => trivial

end MessagePort.Client
