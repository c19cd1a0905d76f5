import MessagePort.Client.Operations
import MessagePort.Daemon.Lookup
import MessagePort.Session.Call

/-!
# Sending a message

A send is a lookup and then a request to send to the id found, with anything
happening elsewhere in between. `Sends` lists how it can go; that ids are not
reused makes the second request mean the port that the first one found.
-/

namespace MessagePort.Session

open Daemon Client Logical Semantics

/-- The status of a call for a reply of the daemon. -/
def statusOf {Answer : Type} (reply : Except GError Answer) : MessageportError :=
  match decodeReply reply with
  | .error error => msgportDaemonErrorToError error
  | .ok _ => .none

/-- How a send that reaches the daemon can go: its log, and its status. -/
inductive Sends (conn : Conn) (start : State) (appId port : String) (isTrusted : Bool)
    (data : VariantMap) : Log → List Event → MessageportError → Prop where
  /-- The lookup fails. -/
  | unresolved {early middle error late} (before : system.Steps start early middle)
      (checked : Checked middle appId port isTrusted ⟨middle, [.error error], true, []⟩) :
      Sends conn start appId port isTrusted data
        [⟨middle, .call (.checkForRemoteService appId port isTrusted),
          decodeReply (.error error : Except GError Guint), [], middle⟩]
        (early ++ late) (statusOf (.error error : Except GError Guint))
  /-- The lookup returns the id zero, and nothing is sent. -/
  | zero {early middle late} (before : system.Steps start early middle)
      (checked : Checked middle appId port isTrusted ⟨middle, [.ok 0], true, []⟩) :
      Sends conn start appId port isTrusted data
        [⟨middle, .call (.checkForRemoteService appId port isTrusted),
          decodeReply (.ok 0 : Except GError Guint), [], middle⟩] (early ++ late) .none
  /-- The message is sent to the id found, and there is one reply. -/
  | dispatched {early middle id between last outcome reply late}
      (before : system.Steps start early middle)
      (checked : Checked middle appId port isTrusted ⟨middle, [.ok id], true, []⟩)
      (nonzero : id ≠ 0) (meanwhile : system.Steps middle between last)
      (dispatch : Dispatch last id data ((last.dbusManagers.lookup conn).bind (·.appId))
        "" false outcome) (replied : outcome.completions = [reply]) :
      Sends conn start appId port isTrusted data
        [⟨middle, .call (.checkForRemoteService appId port isTrusted),
          decodeReply (.ok id : Except GError Guint), [], middle⟩,
         ⟨last, .call (.sendMessage id data), decodeReply reply, outcome.events, outcome.state⟩]
        (early ++ (between ++ (outcome.events ++ late))) (statusOf reply)

/-- A call of the public send functions either stays in the client, and fails
there, or goes one of the ways of `Sends`. -/
theorem send_cases {trace : List Event} {state final : State} (run : system.Runs trace state)
    {conn : Conn} {manager : MsgPortManager} {appId port : Option String} {isTrusted : Bool}
    {message : Option Bundle} {log : Log} {events : List Event} {status : MessageportError}
    (call : Calls conn state (messageportSendMessage manager appId port isTrusted message)
      log events status final) :
    (log = [] ∧ status ≠ .none) ∨ ∃ app name, appId = some app ∧ port = some name ∧
      Sends conn state app name isTrusted (bundleToVariantMap message) log events status := by
  unfold messageportSendMessage MsgPortManager.sendMessage at call
  by_cases proxy : manager.proxy = false
  · rw [if_pos proxy] at call
    obtain ⟨rfl, rfl, _⟩ := call.done_inv
    exact .inl ⟨rfl, by simp⟩
  rw [if_neg proxy] at call
  by_cases given : appId.isNone ∨ port.isNone
  · rw [if_pos given] at call
    obtain ⟨rfl, rfl, _⟩ := call.done_inv
    exact .inl ⟨rfl, by simp⟩
  rw [if_neg given] at call
  cases appId with
  | none => simp at given
  | some app =>
  cases port with
  | none => simp at given
  | some name =>
  refine .inr ⟨app, name, rfl, rfl, ?_⟩
  simp only [MsgPortManager.checkRemoteService, if_neg proxy, Interaction.perform_bind] at call
  obtain ⟨early, middle, answer, emitted, after, log', events', others, served, rest, rfl, rfl⟩ :=
    call.perform_inv
  have before := elsewhere_steps others
  obtain ⟨_, choices, outcome, reply, rest', ran, replied, rfl, rfl, rfl⟩ := serves_call served
  have checked := handleCheckForRemoteService_cases (sound_of_runs (run.trans before)) ran
  obtain ⟨only, rfl⟩ := checked.reply
  obtain ⟨rfl, -⟩ := List.cons.inj replied
  cases only with
  | error error =>
      obtain ⟨rfl, rfl, _⟩ := rest.done_inv
      exact .unresolved before checked
  | ok id =>
      by_cases zero : id = 0
      · subst zero
        obtain ⟨rfl, rfl, _⟩ := rest.done_inv
        exact .zero before checked
      · simp only [decodeReply, Except.mapError, Interaction.done_bind, if_neg zero] at rest
        obtain ⟨between, last, answer, emitted, after, log', late, others', served',
          ending, rfl, rfl⟩ := rest.perform_inv
        have meanwhile := elsewhere_steps others'
        obtain ⟨open', choices', outcome, reply, rest'', ran', replied', rfl, rfl, rfl⟩ :=
          serves_call served'
        have dispatch := DbusManager.handleSendMessage_cases
          (sound_of_runs ((run.trans before).trans meanwhile)) open' ran'
        obtain ⟨handled, only, completions⟩ := dispatch.reply
        rw [Handled.replies, if_pos handled, completions] at replied'
        obtain ⟨rfl, -⟩ := List.cons.inj replied'
        cases only with
        | error error =>
            obtain ⟨rfl, rfl, _⟩ := ending.done_inv
            exact .dispatched before checked zero meanwhile dispatch completions
        | ok sent =>
            obtain ⟨rfl, rfl, _⟩ := ending.done_inv
            exact .dispatched before checked zero meanwhile dispatch completions

/-! ## What a send emits -/

/-- The messages emitted for a call, with the states they were emitted in. -/
def emissions (log : Log) : List (State × OnMessage) :=
  log.flatMap fun exchange => (onMessages exchange.events).map fun message =>
    (exchange.before, message)

@[simp] theorem emissions_nil : emissions [] = [] := rfl

@[simp] theorem emissions_cons
    (exchange : Interaction.Exchange State Event Operation Operation.Answer) (log : Log) :
    emissions (exchange :: log) =
      (onMessages exchange.events).map (fun message => (exchange.before, message)) ++
        emissions log := rfl

/-- A message emitted in this state is on a live port of the app id, name and
trust flag, and carries the data. -/
structure Delivers (before : State) (message : OnMessage) (appId port : String) (isTrusted : Bool)
    (data : VariantMap) : Prop where
  live : ∃ addr, before.services.lookup addr = some message.service
  hasAppId : HasAppId before appId message.service.owner
  portName : message.service.portName = port
  isTrusted : message.service.isTrusted = isTrusted
  data : message.data = data

/-- An error reply is never a success. -/
theorem statusOf_error {Answer : Type} (error : GError) :
    statusOf (.error error : Except GError Answer) ≠ .none :=
  msgportDaemonErrorToError_ne_none _

/-- While ids are unique, an id looked up in an earlier state of the run still means
the same port, if any. -/
theorem sameService {trace between : List Event} {middle last : State}
    (run : system.Runs trace middle) (meanwhile : system.Steps middle between last)
    (unique : (createdIds (trace ++ between)).Nodup) {first second : Addr}
    {found target : DbusService} (live : middle.services.lookup first = some found)
    (live' : last.services.lookup second = some target) (same : target.id = found.id)
    {appId : String} (hasAppId : HasAppId middle appId found.owner) :
    target = found ∧ HasAppId last appId found.owner := by
  obtain ⟨dbusManager, made, owned⟩ := created_of_live run live
  obtain ⟨left, made', owned'⟩ := created_of_live (run.trans meanwhile) live'
  obtain ⟨rfl, sameApp⟩ := created_inj unique made' (List.mem_append_left _ made) same
  obtain ⟨other, owner, resolved⟩ := hasAppId
  obtain rfl := Option.some.inj (owned.symm.trans owner)
  exact ⟨rfl, left, owned', sameApp.trans resolved⟩

/-- What a lookup returns is the nonzero id of a live port of the app. -/
theorem found_of_checked {trace : List Event} {middle : State} (run : system.Runs trace middle)
    (unique : (0 :: createdIds trace).Nodup) {appId port : String} {isTrusted : Bool} {id : Guint}
    (checked : Checked middle appId port isTrusted ⟨middle, [.ok id], true, []⟩) :
    id ≠ 0 ∧ ∃ addr owner, middle.services.lookup addr = some ⟨id, owner, port, isTrusted⟩ ∧
      HasAppId middle appId owner := by
  cases checked with
  | @found conn addr _ owner named hasAppId listed live =>
      obtain ⟨service, there, owned⟩ := (registry_of_runs run unique).listedLive listed
      obtain rfl := Option.some.inj (live.symm.trans there)
      exact ⟨nonzero_of_live run unique live, addr, owner, live, by rwa [← owned] at hasAppId⟩

/-- A send that reaches the daemon is exact. -/
theorem Sends.exact {trace : List Event} {state : State} (run : system.Runs trace state)
    {conn : Conn} {appId port : String} {isTrusted : Bool} {data : VariantMap} {log : Log}
    {events : List Event} {status : MessageportError}
    (sends : Sends conn state appId port isTrusted data log events status)
    (unique : (0 :: createdIds (trace ++ events)).Nodup) :
    (status = .none ∧ ∃ before message, emissions log = [(before, message)] ∧
      Delivers before message appId port isTrusted data) ∨
    (status ≠ .none ∧ emissions log = []) := by
  cases sends with
  | unresolved => exact .inr ⟨statusOf_error _, rfl⟩
  | zero before checked =>
      rw [← List.append_assoc] at unique
      obtain ⟨nonzero, _⟩ := found_of_checked (run.trans before) (unique_of_append unique) checked
      exact absurd rfl nonzero
  | @dispatched early middle id between last outcome reply late before checked nonzero meanwhile
      dispatch replied =>
      rw [← List.append_assoc, ← List.append_assoc] at unique
      have later := unique_of_append unique
      obtain ⟨_, addr, owner, live, hasAppId⟩ :=
        found_of_checked (run.trans before) (unique_of_append later) checked
      have sound := sound_of_runs ((run.trans before).trans meanwhile)
      rcases dispatch.onMessages sound with
        ⟨target, service, answered, emitted, there, same⟩ | ⟨error, answered, emitted⟩
      · obtain rfl := List.head_eq_of_cons_eq (replied.symm.trans answered)
        obtain ⟨rfl, resolved⟩ := sameService (run.trans before) meanwhile
          (List.nodup_cons.mp later).2 live there same hasAppId
        refine .inl ⟨rfl, last, ⟨⟨id, owner, port, isTrusted⟩, data,
          (last.dbusManagers.lookup conn).bind (·.appId), "", false⟩, ?_, ⟨target, there⟩,
          resolved, rfl, rfl, rfl⟩
        simp [emitted]
      · obtain rfl := List.head_eq_of_cons_eq (replied.symm.trans answered)
        exact .inr ⟨statusOf_error _, by simp [emitted]⟩

/-! ## A send can always go on -/

/-- The requests that a send makes. -/
def SendRequest : Operation → Prop
  | .call (.checkForRemoteService _ _ _) => True
  | .call (.sendMessage _ _) => True
  | _ => False

/-- A send makes no other requests. -/
theorem messageportSendMessage_only (manager : MsgPortManager) (appId port : Option String)
    (isTrusted : Bool) (message : Option Bundle) :
    (messageportSendMessage manager appId port isTrusted message).Only SendRequest :=
  MsgPortManager.sendMessage_only (fun _ _ _ => trivial)
    (fun _ => trivial) manager appId port isTrusted

/-- Both requests are answered, whatever is decided outside. -/
theorem sendRequest_answered {trace : List Event} {state : State} (run : system.Runs trace state)
    (unique : (0 :: createdIds trace).Nodup)
    (known : ∀ conn validApp, .connected conn none validApp ∉ trace) {conn : Conn}
    (served : conn ∈ state.dbusManagers) {operation : Operation} (allowed : SendRequest operation)
    (outside : Outside) : (serveOperation state conn operation outside).isSome := by
  have sound := sound_of_runs run
  cases operation with
  | call request =>
      simp only [serveOperation, if_pos served]
      cases request with
      | checkForRemoteService appId port isTrusted =>
          obtain ⟨outcome, ran⟩ := handleCheckForRemoteService_total sound
            (registry_of_runs run unique) appId port isTrusted outside.choices
          obtain ⟨reply, rfl⟩ := (handleCheckForRemoteService_cases sound ran).reply
          simp only [serve, ran]
          rfl
      | sendMessage serviceId data =>
          obtain ⟨dbusManager, found⟩ := HashTable.lookup_isSome_iff.mp served
          obtain ⟨appId, resolved⟩ := appId_of_runs run known found
          obtain ⟨outcome, ran⟩ := DbusManager.handleSendMessage_total sound found
            resolved serviceId data outside.choices
          obtain ⟨handled, reply, only⟩ :=
            (DbusManager.handleSendMessage_cases sound served ran).reply
          simp only [serve, ran, Handled.replies, handled, only]
          rfl
      | _ => cases allowed
  | _ => cases allowed

/-- A send is exact under every interleaving: it reports success if and only if it
emitted one message, on a live port of the app id, name and trust flag asked for,
and emits nothing otherwise; and wherever it has got to, it has ended or its next
request is answered. -/
theorem send_exact {trace : List Event} {state : State} (run : system.Runs trace state)
    {conn : Conn} (served : conn ∈ state.dbusManagers) (manager : MsgPortManager)
    (appId port : Option String) (isTrusted : Bool) (message : Option Bundle) :
    (∀ {log events status final},
      Calls conn state (messageportSendMessage manager appId port isTrusted message)
        log events status final →
      false ∉ attempts (trace ++ events) → (attempts (trace ++ events)).length < 2 ^ 32 - 1 →
      (status = .none ↔ ∃ app name before emitted, appId = some app ∧ port = some name ∧
        emissions log = [(before, emitted)] ∧
        Delivers before emitted app name isTrusted (bundleToVariantMap message)) ∧
      (status ≠ .none → emissions log = [])) ∧
    ∀ {log events reached left},
      Proceeds conn state (messageportSendMessage manager appId port isTrusted message)
        log events reached left →
      false ∉ attempts (trace ++ events) → (attempts (trace ++ events)).length < 2 ^ 32 - 1 →
      (∀ other validApp, .connected other none validApp ∉ trace ++ events) →
      (∃ status, left = .done status) ∨ ∃ operation resume, left = .perform operation resume ∧
        ∀ outside, (serveOperation reached conn operation outside).isSome := by
  constructor
  · intro log events status final call exported bounded
    obtain ⟨steps, _⟩ := proceeds_steps run served call
    have unique := createdIds_nodup (run.trans steps) exported bounded
    rcases send_cases run call with ⟨rfl, failed⟩ | ⟨app, name, rfl, rfl, sends⟩
    · refine ⟨⟨fun succeeded => absurd succeeded failed, ?_⟩, fun _ => rfl⟩
      rintro ⟨_, _, _, _, _, _, emitted, _⟩
      cases emitted
    · rcases sends.exact run unique with ⟨rfl, before, emitted, once, delivers⟩ | ⟨failed, none⟩
      · exact ⟨⟨fun _ => ⟨app, name, before, emitted, rfl, rfl, once, delivers⟩, fun _ => rfl⟩,
          fun failed => absurd rfl failed⟩
      · refine ⟨⟨fun succeeded => absurd succeeded failed, ?_⟩, fun _ => none⟩
        rintro ⟨_, _, _, _, _, _, emitted, _⟩
        rw [none] at emitted
        cases emitted
  · intro log events reached left proceeds exported bounded known
    obtain ⟨steps, still⟩ := proceeds_steps run served proceeds
    have unique := createdIds_nodup (run.trans steps) exported bounded
    have only := proceeds.only (messageportSendMessage_only manager appId port isTrusted message)
    cases left with
    | done status => exact .inl ⟨status, rfl⟩
    | perform operation resume =>
        exact .inr ⟨operation, resume, rfl,
          sendRequest_answered (run.trans steps) unique known still only.1⟩

/-- A send to a trusted port whose owner has no certificate. -/
theorem send_exact_trusted : ∃ trace state log events final, system.Runs trace state ∧
    Calls 1 state (messageportSendMessage .new (some "app") (some "port") true none)
      log events .none final ∧
    ∃ app name before emitted, some "app" = some app ∧ some "port" = some name ∧
      emissions log = [(before, emitted)] ∧ Delivers before emitted app name true [] := by
  let nothing : Outside := ⟨Choices.benign, none, 0⟩
  obtain ⟨trace, state, log, events, status, final, run, call, accepted⟩ := @Calls.of_exec _ 1
    [.connect 0 (.pid 1 (some "app")) none, .connect 1 (.pid 2 (some "other")) none,
      .request 0 (.registerService "port" true) .benign]
    (messageportSendMessage .new (some "app") (some "port") true none)
    [nothing, { nothing with choices := { Choices.benign with comparison := .ok .lhsNoCert } }]
    (fun state trace _ events status _ =>
      1 ∈ state.dbusManagers ∧ attempts (trace ++ events) = [true] ∧ status = .none) (by decide)
  simp only [decide_eq_true_eq] at accepted
  obtain ⟨open_, tries, rfl⟩ := accepted
  have exact_ := (send_exact run open_ .new (some "app") (some "port") true none).1 call
    (by rw [tries]; decide) (by rw [tries]; decide)
  exact ⟨trace, state, log, events, final, run, call, exact_.1.mp rfl⟩

end MessagePort.Session
