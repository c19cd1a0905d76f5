import MessagePort.Session.Send

/-!
# What a failing send reports

The daemon names its reason with a code of its own error domain. No code of the
library registers that domain, so the client decodes every such reply to the same
generic error, and reports the same status for all of them.
-/

namespace MessagePort.Session

open Daemon Client Logical Semantics

/-- The status that names why a send failed, if it did. -/
inductive Reason (appId port : String) (isTrusted : Bool) (data : VariantMap) :
    Log → MessageportError → Prop where
  /-- No live port matches at the lookup. -/
  | unmatched {middle answer events after}
      (accepted : port ≠ "" ∨ ∀ conn, ¬ HasAppId middle appId conn)
      (absent : ¬ SomeOwns middle appId port isTrusted) :
      Reason appId port isTrusted data
        [⟨middle, .call (.checkForRemoteService appId port isTrusted), answer, events, after⟩]
        .messageportNotFound
  /-- The lookup is rejected for its empty port name. -/
  | rejected {middle conn answer events after} (unnamed : port = "")
      (hasAppId : HasAppId middle appId conn) :
      Reason appId port isTrusted data
        [⟨middle, .call (.checkForRemoteService appId port isTrusted), answer, events, after⟩]
        .invalidParameter
  /-- The port that was looked up is gone at the send. -/
  | gone {lookup last id answer events after}
      (gone : ∀ addr service, last.services.lookup addr = some service → service.id ≠ id) :
      Reason appId port isTrusted data
        [lookup, ⟨last, .call (.sendMessage id data), answer, events, after⟩] .messageportNotFound
  /-- The port is there at the send and trusted, so it refused the certificate. -/
  | refused {lookup last id addr service answer events after}
      (live : last.services.lookup addr = some service) (identified : service.id = id)
      (trusted : service.isTrusted = true) :
      Reason appId port isTrusted data
        [lookup, ⟨last, .call (.sendMessage id data), answer, events, after⟩] .certificateNotMatch

/-- No reason is an I/O error. -/
theorem Reason.ne_ioError {appId port : String} {isTrusted : Bool} {data : VariantMap} {log : Log}
    {expected : MessageportError} (reason : Reason appId port isTrusted data log expected) :
    expected ≠ .ioError := by
  cases reason <;> simp

/-- Every error of the daemon's own domain is reported as an I/O error. -/
theorem statusOf_msgport {Answer : Type} (id : MsgPortError) (message : String) :
    statusOf (.error (msgportErrorNew id message) : Except GError Answer) = .ioError := by
  simp only [statusOf, decodeReply, Except.mapError, decodeError_unregistered]
  exact msgportDaemonErrorToError_dbusError _ _

/-- The error of a failing lookup is one of the daemon's. -/
theorem checked_error {state : State} {appId port : String} {isTrusted : Bool} {error : GError}
    (checked : Checked state appId port isTrusted ⟨state, [.error error], true, []⟩) :
    ∃ id message, error = msgportErrorNew id message := by
  cases checked <;> exact ⟨_, _, rfl⟩

/-- The error of a failing request to send is one of the daemon's. -/
theorem dispatch_error {before : State} {serviceId : Guint} {data : VariantMap}
    {appId : Option String} {port : String} {isTrusted : Bool} {outcome : Handled Unit}
    {error : GError} (dispatch : Dispatch before serviceId data appId port isTrusted outcome)
    (failed : outcome.completions = [.error error]) :
    ∃ id message, error = msgportErrorNew id message := by
  cases dispatch with
  | zero =>
      obtain rfl := Except.error.inj (List.head_eq_of_cons_eq failed)
      exact ⟨_, _, rfl⟩
  | missing =>
      obtain rfl := Except.error.inj (List.head_eq_of_cons_eq failed)
      exact ⟨_, _, rfl⟩
  | sent _ _ _ sending =>
      cases sending with
      | refused =>
          obtain rfl := Except.error.inj (List.head_eq_of_cons_eq failed)
          exact ⟨_, _, rfl⟩
      | _ => cases List.head_eq_of_cons_eq failed

/-- A send that the daemon fails is reported as an I/O error. -/
theorem Sends.ioError {conn : Conn} {start : State} {appId port : String} {isTrusted : Bool}
    {data : VariantMap} {log : Log} {events : List Event} {status : MessageportError}
    (sends : Sends conn start appId port isTrusted data log events status)
    (failed : status ≠ .none) :
    status = .ioError := by
  cases sends with
  | unresolved _ checked =>
      obtain ⟨id, message, rfl⟩ := checked_error checked
      exact statusOf_msgport id message
  | zero => exact absurd rfl failed
  | @dispatched _ _ _ _ _ _ reply _ _ _ _ _ dispatch replied =>
      cases reply with
      | error error =>
          obtain ⟨id, message, rfl⟩ := dispatch_error dispatch replied
          exact statusOf_msgport id message
      | ok sent => exact absurd rfl failed

/-- A failing send never reports its reason: whatever the daemon answered, it is
reported as an I/O error. -/
theorem status_unnamed {trace : List Event} {state final : State} (run : system.Runs trace state)
    {conn : Conn} {manager : MsgPortManager} {appId port : Option String} {isTrusted : Bool}
    {message : Option Bundle} {log : Log} {events : List Event} {status : MessageportError}
    (call : Calls conn state (messageportSendMessage manager appId port isTrusted message)
      log events status final) (failed : status ≠ .none) :
    (log ≠ [] → status = .ioError) ∧
    ∀ app name expected, appId = some app → port = some name →
      Reason app name isTrusted (bundleToVariantMap message) log expected → status ≠ expected := by
  have reported : log ≠ [] → status = .ioError := by
    intro asked
    rcases send_cases run call with ⟨none, _⟩ | ⟨app, name, rfl, rfl, sends⟩
    · exact absurd none asked
    · exact sends.ioError failed
  refine ⟨reported, ?_⟩
  rintro app name expected rfl rfl reason same
  have asked : log ≠ [] := by
    rintro rfl
    cases reason
  exact reason.ne_ioError (same ▸ reported asked)

/-- A send to an app that is not there: no port matches at its lookup. -/
theorem unknownApp_call : ∃ trace state log events final, system.Runs trace state ∧
    Calls 0 state (messageportSendMessage .new (some "nobody") (some "port") false none)
      log events .ioError final ∧
    Reason "nobody" "port" false [] log .messageportNotFound := by
  obtain ⟨trace, state, log, events, status, final, run, call, accepted⟩ := @Calls.of_exec _ 0
    [.connect 0 (.pid 1 (some "app")) none]
    (messageportSendMessage .new (some "nobody") (some "port") false none)
    [⟨Choices.benign, none, 0⟩]
    (fun _ _ log _ status _ => log.map (·.before.services.entries) = [[]] ∧
      status = .ioError) (by decide)
  simp only [decide_eq_true_eq] at accepted
  obtain ⟨empty, rfl⟩ := accepted
  refine ⟨trace, state, log, events, final, run, call, ?_⟩
  rcases send_cases run call with ⟨rfl, _⟩ | ⟨app, name, sameApp, sameName, sends⟩
  · cases empty
  · obtain rfl := Option.some.inj sameApp
    obtain rfl := Option.some.inj sameName
    generalize named : MessageportError.ioError = status at sends
    cases sends with
    | unresolved before checked =>
        refine .unmatched (.inl (by decide)) ?_
        rintro ⟨conn, id, _, addr, live⟩
        simp only [List.map_cons, List.map_nil, List.cons.injEq, and_true] at empty
        simp [AList.lookup, empty] at live
    | zero => cases named
    | dispatched => simp at empty

/-- A failing send of this kind, as `status_unnamed` reads it. -/
theorem status_unnamed_unknownApp :
    ∃ log status, Reason "nobody" "port" false [] log .messageportNotFound ∧
    (log ≠ [] → status = MessageportError.ioError) ∧ status ≠ .messageportNotFound := by
  obtain ⟨trace, state, log, events, final, run, call, reason⟩ := unknownApp_call
  obtain ⟨reported, unnamed⟩ := status_unnamed run call (by decide)
  exact ⟨log, .ioError, reason, reported, unnamed _ _ _ rfl rfl reason⟩

/-- A send to an app that is not there is not reported as such. -/
theorem status_misnamed : ¬ ∀ trace state, system.Runs trace state →
    ∀ conn manager appId port isTrusted message log events status final expected,
      Calls conn state (messageportSendMessage manager (some appId) (some port) isTrusted message)
        log events status final →
      status ≠ .none → Reason appId port isTrusted (bundleToVariantMap message) log expected →
      status = expected := by
  intro named
  obtain ⟨trace, state, log, events, final, run, call, reason⟩ := unknownApp_call
  have same := named trace state run 0 .new "nobody" "port" false none log events .ioError final _
    call (by decide) reason
  cases same

end MessagePort.Session
