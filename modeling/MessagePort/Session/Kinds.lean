import MessagePort.Safety.Sender
import MessagePort.Session.Answer

/-!
# One-way and bidirectional messages

The callback of a receiver is told the app id of every sender, whether the message
was sent one way or asks for an answer, and the port of the sender only for an answer.
The two kinds are therefore told apart by the port and not by the app id.
-/

namespace MessagePort.Session

open Daemon Client Logical Semantics

/-- The two kinds of sends. -/
inductive SendKind where
  | oneWay
  | bidirectional
deriving DecidableEq

/-- What a public function sends, if it sends, and how. -/
def sendOf : ApiCall → Option (SendKind × Option Bundle)
  | .sendMessage _ _ _ message => some (.oneWay, message)
  | .sendBidirectionalMessage _ _ _ _ message => some (.bidirectional, message)
  | _ => none

/-! ## What a send asks of the daemon -/

/-- A lookup, or a send of this kind and with this data. -/
def SendsAs (kind : SendKind) (data : VariantMap) : Operation → Prop
  | .call (.checkForRemoteService _ _ _) => True
  | .call (.sendMessage _ sent) => kind = .oneWay ∧ sent = data
  | .call (.serviceSendMessage _ _ sent) => kind = .bidirectional ∧ sent = data
  | _ => False

/-- A call that sends asks for nothing but lookups and sends of its kind and data. -/
def Asks (call : ApiCall) (operation : Operation) : Prop :=
  ∀ kind message, sendOf call = some (kind, message) →
    SendsAs kind (bundleToVariantMap message) operation

theorem program_asks (manager : MsgPortManager) (call : ApiCall) :
    (call.program manager).Only (Asks call) := by
  cases call with
  | sendMessage appId port isTrusted message =>
      apply Interaction.Only.bind
      · apply MsgPortManager.sendMessage_only
        · rintro _ _ _ kind _ ⟨⟩
          trivial
        · rintro _ kind _ ⟨⟩
          exact ⟨rfl, rfl⟩
      · exact fun status => trivial
  | sendBidirectionalMessage id appId port isTrusted message =>
      apply Interaction.Only.bind
      · apply MsgPortManager.sendBidirectionalMessage_only
        · rintro _ _ _ kind _ ⟨⟩
          trivial
        · rintro _ _ _ kind _ ⟨⟩
          exact ⟨rfl, rfl⟩
      · exact fun _ => trivial
  | _ =>
      apply Interaction.only_of_forall
      rintro operation kind message ⟨⟩

/-! ## What reaches a callback -/

/-- In some run a callback ran for a message that the daemon emitted for this send of a
client with this app id. -/
inductive Reaches (kind : SendKind) (message : Option Bundle) (appId : String)
    (invocation : Invocation) :
    Prop where
  | handed {trace sent later : List WorldEvent} {before next state : World} {conn receiver : Conn}
      {client : ClientThread} {call : ApiCall} {program : Program (Returned × MsgPortManager)}
      {outside : Outside} {dbusManager : DbusManager} {onMessage : OnMessage}
      (run : world.Runs trace before) (there : before.clients.lookup conn = some client)
      (active : client.activity = some (call, program)) (sends : sendOf call = some (kind, message))
      (found : before.daemon.dbusManagers.lookup conn = some dbusManager)
      (known : dbusManager.appId = some appId)
      (transition : world.step before (.perform conn outside) = some (next, sent))
      (emitted : .daemon (.emitted onMessage) ∈ sent) (steps : world.Steps next later state)
      (handed : .handed receiver onMessage invocation ∈ later) :
      Reaches kind message appId invocation

/-- The arguments of a callback, but for the id of its own port. -/
structure Told (kind : SendKind) (message : Option Bundle) (appId : String)
    (invocation : Invocation) :
    Prop where
  remoteAppId : invocation.remoteAppId = nullIfEmpty appId
  remotePort : invocation.remotePort = none ↔ kind = .oneWay
  oneWay : kind = .oneWay → invocation.trustedMessage = false
  data : invocation.message = bundleFromVariantMap (bundleToVariantMap message)

/-- What a step of a send emits carries the app id of its client, and its kind and data. -/
theorem carried_of_perform {trace sent : List WorldEvent} {before next : World} {conn : Conn}
    {client : ClientThread} {call : ApiCall} {program : Program (Returned × MsgPortManager)}
    {outside : Outside} {kind : SendKind} {message : Option Bundle} (run : world.Runs trace before)
    (there : before.clients.lookup conn = some client)
    (active : client.activity = some (call, program)) (sends : sendOf call = some (kind, message))
    (moves : Moves before (.perform conn outside) sent next) {onMessage : OnMessage}
    (emitted : .daemon (.emitted onMessage) ∈ sent) :
    (∃ dbusManager, before.daemon.dbusManagers.lookup conn = some dbusManager ∧
      onMessage.remoteAppId = dbusManager.appId) ∧
    (onMessage.remotePort = "" ↔ kind = .oneWay) ∧
    (kind = .oneWay → onMessage.remoteIsTrusted = false) ∧
      onMessage.data = bundleToVariantMap message := by
  obtain ⟨request, resume, rfl, sender, asked⟩ := sent_of_perform run there active moves emitted
  have asks : Asks call (.call request) :=
    (only_of_runs program_asks run conn client there _ _ active).1
  have allowed := asks kind message sends
  refine ⟨sender, ?_⟩
  cases asked with
  | manager noPort untrusted =>
      obtain ⟨rfl, data⟩ := allowed
      exact ⟨iff_of_true noPort rfl, fun _ => untrusted, data⟩
  | service _ _ named portName _ =>
      obtain ⟨rfl, data⟩ := allowed
      exact ⟨iff_of_false (portName ▸ named) (by simp), by simp, data⟩

/-- So do the arguments of every callback for it. -/
theorem Reaches.told {kind : SendKind} {message : Option Bundle} {appId : String}
    {invocation : Invocation} (reaches : Reaches kind message appId invocation) :
    Told kind message appId invocation := by
  obtain ⟨run, there, active, sends, found, known, transition, emitted, steps, handed⟩ := reaches
  obtain ⟨⟨dbusManager, found', carried⟩, port, trust, data⟩ :=
    carried_of_perform run there active sends (World.step_cases transition) emitted
  obtain rfl := Option.some.inj (found.symm.trans found')
  obtain ⟨id, clientCb, rfl⟩ := handed_of_steps steps handed
  constructor
  · simp only [onGotMessage, carried, known, Option.getD_some]
  · simpa [onGotMessage, nullIfEmpty] using port
  · exact trust
  · simp only [onGotMessage, data]

/-! ## What the receiver can tell -/

/-- The sender of a one-way message is not told, and that of a bidirectional one is. -/
def Documented (invocation : Invocation) : SendKind → Prop
  | .oneWay => invocation.remoteAppId = none ∧ invocation.remotePort = none
  | .bidirectional => invocation.remoteAppId ≠ none ∧ invocation.remotePort ≠ none

/-- What a callback is told besides the id of its own port. -/
structure SameArguments (first second : Invocation) : Prop where
  remoteAppId : first.remoteAppId = second.remoteAppId
  remotePort : first.remotePort = second.remotePort
  trustedMessage : first.trustedMessage = second.trustedMessage
  message : first.message = second.message

/-- Two messages, of any senders, are told of as documented: those of one data sent
one way alike, and those of different kinds apart by either argument. -/
structure ToldApart (kind other : SendKind) (message data : Option Bundle)
    (first second : Invocation) :
    Prop where
  documented : Documented first kind
  documented' : Documented second other
  anonymous : kind = .oneWay → other = .oneWay → message = data → SameArguments first second
  apart : kind ≠ other → (first.remoteAppId = none ↔ second.remoteAppId ≠ none) ∧
    (first.remotePort = none ↔ second.remotePort ≠ none)

/-- A message is told of as documented if its sender has an empty app id just in case
it is sent one way. -/
theorem Told.documented_iff {kind : SendKind} {message : Option Bundle} {appId : String}
    {invocation : Invocation} (told : Told kind message appId invocation) :
    Documented invocation kind ↔ (kind = .oneWay ↔ appId = "") := by
  have empty : invocation.remoteAppId = none ↔ appId = "" := by
    rw [told.remoteAppId, nullIfEmpty]
    split <;> simp [*]
  have port := told.remotePort
  cases kind with
  | oneWay =>
      simp only [iff_true] at port
      simp [Documented, empty, port]
  | bidirectional =>
      simp only [reduceCtorEq, iff_false] at port
      simp [Documented, empty, port]

/-- Callbacks are told of any two messages as documented, exactly if each sender has an
empty app id just in case it sends one way. -/
theorem toldApart_iff {kind other : SendKind} {message data : Option Bundle}
    {appId otherId : String} {first second : Invocation}
    (reaches : Reaches kind message appId first) (reaches' : Reaches other data otherId second) :
    ToldApart kind other message data first second ↔
      (kind = .oneWay ↔ appId = "") ∧ (other = .oneWay ↔ otherId = "") := by
  have told := reaches.told
  have told' := reaches'.told
  rw [← told.documented_iff, ← told'.documented_iff]
  constructor
  · exact fun toldApart => ⟨toldApart.documented, toldApart.documented'⟩
  · rintro ⟨documented, documented'⟩
    refine ⟨documented, documented', ?_, ?_⟩
    · rintro rfl rfl rfl
      refine ⟨documented.1.trans documented'.1.symm, documented.2.trans documented'.2.symm, ?_, ?_⟩
      · rw [told.oneWay rfl, told'.oneWay rfl]
      · rw [told.data, told'.data]
    · intro different
      cases kind with
      | oneWay =>
          cases other with
          | oneWay => exact absurd rfl different
          | bidirectional =>
              exact ⟨iff_of_true documented.1 documented'.1, iff_of_true documented.2 documented'.2⟩
      | bidirectional =>
          cases other with
          | oneWay =>
              exact ⟨iff_of_false documented.1 (not_not_intro documented'.1),
                iff_of_false documented.2 (not_not_intro documented'.2)⟩
          | bidirectional => exact absurd rfl different

/-! ## Two runs -/

/-- A send of this kind, without data, is in progress. -/
def sendingAs (kind : SendKind) (client : ClientThread) : Bool :=
  match client.activity.map fun active => sendOf active.1 with
  | some (some (sending, none)) => sending = kind
  | _ => false

/-- The runs of callbacks for a message. -/
def invocationsOf (message : OnMessage) (trace : List WorldEvent) : List Invocation :=
  trace.filterMap fun
    | .handed _ handed invocation => if handed = message then some invocation else none
    | _ => none

theorem mem_invocationsOf {message : OnMessage} {trace : List WorldEvent} {invocation : Invocation}
    (member : invocation ∈ invocationsOf message trace) :
    ∃ receiver, .handed receiver message invocation ∈ trace := by
  obtain ⟨event, there, picked⟩ := List.mem_filterMap.mp member
  split at picked
  · split at picked
    case isTrue same =>
      obtain rfl := Option.some.inj picked
      exact ⟨_, same ▸ there⟩
    · cases picked
  · cases picked

/-- An evaluated run in which a send is handed over, to a callback that is told this. -/
theorem reaches_of_exec {labels after : List WorldLabel} {conn : Conn} {outside : Outside}
    {kind : SendKind} {appId : String} {accepts : Invocation → Bool}
    (evaluated : (world.exec world.initial labels).any
      (fun out => (out.1.clients.lookup conn).any (sendingAs kind) ∧
        (out.1.daemon.dbusManagers.lookup conn).bind (·.appId) = some appId ∧
        (world.step out.1 (.perform conn outside)).any fun sent =>
          (world.exec sent.1 after).any fun final => (onMessages (daemonEvents sent.2)).any
            fun message => (invocationsOf message final.2).any accepts) = true) :
    ∃ invocation, Reaches kind none appId invocation ∧ accepts invocation = true := by
  obtain ⟨trace, before, run, accepted⟩ := @EventSystem.Runs.of_exec _ _ _ world labels
    (fun before _ => (before.clients.lookup conn).any (sendingAs kind) ∧
      (before.daemon.dbusManagers.lookup conn).bind (·.appId) = some appId ∧
      (world.step before (.perform conn outside)).any fun sent =>
        (world.exec sent.1 after).any fun final =>
          (onMessages (daemonEvents sent.2)).any fun message =>
            (invocationsOf message final.2).any accepts) evaluated
  obtain ⟨sending, identified, rest⟩ := of_decide_eq_true accepted
  obtain ⟨client, there, busy⟩ := (Option.any_eq_true _ _).mp sending
  obtain ⟨dbusManager, found, known⟩ := Option.bind_eq_some_iff.mp identified
  obtain ⟨⟨next, sent⟩, transition, rest⟩ := (Option.any_eq_true _ _).mp rest
  obtain ⟨⟨state, later⟩, executed, rest⟩ := (Option.any_eq_true _ _).mp rest
  obtain ⟨message, emitted, rest⟩ := List.any_eq_true.mp rest
  obtain ⟨invocation, member, accepted⟩ := List.any_eq_true.mp rest
  obtain ⟨receiver, handed⟩ := mem_invocationsOf member
  obtain ⟨call, program, active, sends⟩ : ∃ call program,
      client.activity = some (call, program) ∧ sendOf call = some (kind, none) := by
    unfold sendingAs at busy
    rcases same : client.activity.map (fun active => sendOf active.1) with
      _ | _ | ⟨sending, _ | data⟩ <;> rw [same] at busy
    · cases busy
    · cases busy
    · obtain ⟨⟨call, program⟩, active, sends⟩ := Option.map_eq_some_iff.mp same
      obtain rfl := of_decide_eq_true busy
      exact ⟨call, program, active, sends⟩
    · cases busy
  exact ⟨invocation, .handed run there active sends found known transition
    (mem_daemonEvents.mp (mem_onMessages.mp emitted)) (EventSystem.Steps.of_exec executed)
    handed, accepted⟩

/-- A bidirectional message tells its sender. -/
theorem bidirectional_reaches : ∃ invocation, Reaches .bidirectional none "sender" invocation := by
  obtain ⟨invocation, reaches, _⟩ :=
    @reaches_of_exec lookedUp [.arrive 0, .dispatch 0] 1 ⟨.benign, none, 1⟩
    .bidirectional "sender" (fun _ => true) (by decide)
  exact ⟨invocation, reaches⟩

/-- Two bidirectional messages are told of as documented. -/
theorem toldApart_iff_bidirectional : ∃ first second,
    ToldApart .bidirectional .bidirectional none none first second := by
  obtain ⟨invocation, reaches⟩ := bidirectional_reaches
  exact ⟨invocation, invocation, (toldApart_iff reaches reaches).mpr ⟨by decide, by decide⟩⟩

/-- A receiver registers a port, and a sender looks it up for a one-way send. -/
def lookedUpOneWay : List WorldLabel :=
  [.connect 0 (.pid 1 (some "receiver")) none, .connect 1 (.pid 2 (some "sender")) none,
    .begin 0 (.registerLocalPort (some "port") false (some 7) []),
    .perform 0 ⟨.benign, none, 0⟩, .arrive 0,
    .perform 0 ⟨.benign, none, 0⟩, .arrive 0, .perform 0 ⟨.benign, none, 1⟩, .finish 0,
    .begin 1 (.sendMessage (some "receiver") (some "port") false none),
    .perform 1 ⟨.benign, none, 1⟩, .arrive 1]

/-- A one-way message tells its sender too. -/
theorem oneWay_told : ¬ ∀ kind other message data appId otherId first second,
    Reaches kind message appId first → Reaches other data otherId second →
      ToldApart kind other message data first second := by
  intro toldApart
  obtain ⟨invocation, reaches, told⟩ := @reaches_of_exec lookedUpOneWay [.arrive 0, .dispatch 0] 1
    ⟨.benign, none, 1⟩ .oneWay "sender"
    (fun invocation => invocation.remoteAppId = some "sender") (by decide)
  have anonymous := (toldApart _ _ _ _ _ _ _ _ reaches reaches).documented.1
  rw [of_decide_eq_true told] at anonymous
  cases anonymous

end MessagePort.Session
