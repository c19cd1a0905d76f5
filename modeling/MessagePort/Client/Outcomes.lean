import MessagePort.Client.Manager

/-!
# What the two kinds of send report

A unidirectional send decides on the id that its lookup stored, a bidirectional
one on whether the lookup succeeded, and then returns one status for every error
of it. Both are given the same answer to the lookup, and to the send one answer or,
as two handlers of the daemon receive it, one each.
-/

namespace MessagePort.Client

open Daemon Logical Semantics

/-- The daemon or the transport answers the lookup and the send like this; a send
performs no other operation. -/
def answering (lookup : Except GError Guint) (send : Except GError Unit) :
    (operation : Operation) → operation.Answer
  | .call (.checkForRemoteService _ _ _) => lookup
  | .call (.sendMessage _ _) => send
  | .call (.serviceSendMessage _ _ _) => send
  | .call (.registerService _ _) => (.error msgportErrorUnknownNew : Except GError ObjectPath)
  | .call (.serviceUnregister _) => (.error msgportErrorUnknownNew : Except GError Unit)
  | .serviceProxyNew _ => (.error msgportErrorUnknownNew : Except GError MsgPortService)
  | .connectOnMessage _ _ => ()
  | .setMessageHandler _ _ => ()
  | .serviceUnref _ => ()

/-- The status of a request for its answer. -/
def sendStatus (send : Except GError Unit) : MessageportError :=
  match send with
  | .error error => msgportDaemonErrorToError error
  | .ok _ => .none

theorem sendStatus_eq_none {send : Except GError Unit} :
    sendStatus send = .none ↔ send = .ok () := by
  cases send with
  | error error => simp [sendStatus, msgportDaemonErrorToError_ne_none error]
  | ok sent => simp [sendStatus]

theorem sendStatus_eq_invalidParameter {send : Except GError Unit} :
    sendStatus send = .invalidParameter ↔
      ∃ error, send = .error error ∧ msgportDaemonErrorToError error = .invalidParameter := by
  cases send with
  | error error => simp [sendStatus]
  | ok sent => simp [sendStatus]

namespace MsgPortManager

variable {manager : MsgPortManager} {appId port : String} {isTrusted : Bool} {data : VariantMap}
  {lookup : Except GError Guint} {send : Except GError Unit}

/-- What a lookup returns and stores. -/
theorem checkRemoteService_status (proxy : manager.proxy = true) :
    (manager.checkRemoteService (some appId) (some port) isTrusted).evaluate
      (answering lookup send) = match lookup with
      | .error error => (msgportDaemonErrorToError error, 0)
      | .ok serviceId => (.none, serviceId) := by
  simp only [checkRemoteService, proxy, Bool.true_eq_false, if_false, Interaction.evaluate]
  cases lookup <;> rfl

/-- What a unidirectional send returns. -/
theorem sendMessage_status : (manager.sendMessage (some appId) (some port) isTrusted data).evaluate
    (answering lookup send) =
      if manager.proxy = false then .ioError
      else
        match lookup with
        | .error error => msgportDaemonErrorToError error
        | .ok serviceId => if serviceId = 0 then .none else sendStatus send := by
  unfold sendMessage
  cases proxy : manager.proxy with
  | false => rfl
  | true =>
      simp only [Bool.true_eq_false, Option.isNone_some, Bool.false_eq_true, or_self, if_false,
        Interaction.evaluate_bind, checkRemoteService_status proxy]
      cases lookup with
      | error error => rfl
      | ok serviceId =>
          by_cases zero : serviceId = 0
          · simp only [if_pos zero, Interaction.evaluate]
          · simp only [if_neg zero, Interaction.evaluate, answering, sendStatus]
            cases send <;> rfl

/-- What a bidirectional send on an existing port returns. -/
theorem sendBidirectionalMessage_status {localPortId : Gint} {service : MsgPortService}
    {left : MsgPortManager} (existing : manager.getLocalPort localPortId = (some service, left)) :
    ((manager.sendBidirectionalMessage localPortId (some appId) (some port) isTrusted data).evaluate
      (answering lookup send)).1 =
      if manager.proxy = false then .ioError
      else if 0 < localPortId.toInt then
        match lookup with
        | .error _ => .messageportNotFound
        | .ok _ => sendStatus send
      else .invalidParameter := by
  unfold sendBidirectionalMessage
  cases proxy : manager.proxy with
  | false => rfl
  | true =>
      have proxy' : left.proxy = true := by
        unfold getLocalPort at existing
        split at existing
        · cases existing
        · split at existing
          · cases existing
          · cases existing
            exact proxy
      by_cases positive : 0 < localPortId.toInt
      · simp only [Bool.true_eq_false, positive, not_true_eq_false, Option.isNone_some,
          Bool.false_eq_true, or_self, if_false, if_true, existing, Interaction.evaluate_bind,
          checkRemoteService_status proxy']
        cases lookup with
        | error error =>
            simp only [if_neg (msgportDaemonErrorToError_ne_none error), Interaction.evaluate]
        | ok serviceId =>
            simp only [if_true, Interaction.evaluate_bind, MsgPortService.sendMessage,
              Interaction.evaluate, answering, sendStatus]
            cases send <;> rfl
      · simp only [Bool.true_eq_false, positive, not_false_eq_true, true_or, if_false, if_true,
          Interaction.evaluate]

/-- The answers for which both sends report one status, where the one on a local port is
given an answer of its own. -/
def ReportsAlikeApart (proxy : Bool) (localPortId : Gint) (lookup : Except GError Guint)
    (send serviceSend : Except GError Unit) : Prop :=
  proxy = false ∨
    if 0 < localPortId.toInt then
      (∀ error, lookup = .error error → msgportDaemonErrorToError error = .messageportNotFound) ∧
        ∀ serviceId, lookup = .ok serviceId →
          sendStatus serviceSend = if serviceId = 0 then .none else sendStatus send
    else
      (∀ error, lookup = .error error → msgportDaemonErrorToError error = .invalidParameter) ∧
        ∀ serviceId, lookup = .ok serviceId → serviceId ≠ 0 ∧ sendStatus send = .invalidParameter

/-- Both sends report one status exactly for these answers. -/
theorem send_statuses_agree_apart_iff {localPortId : Gint} {service : MsgPortService}
    {serviceSend : Except GError Unit}
    (existing : (manager.getLocalPort localPortId).1 = some service) :
    ((manager.sendBidirectionalMessage localPortId (some appId) (some port) isTrusted data).evaluate
      (answering lookup serviceSend)).1 =
      (manager.sendMessage (some appId) (some port) isTrusted data).evaluate
        (answering lookup send) ↔
    ReportsAlikeApart manager.proxy localPortId lookup send serviceSend := by
  obtain ⟨left, found⟩ : ∃ left, manager.getLocalPort localPortId = (some service, left) :=
    ⟨_, Prod.ext existing rfl⟩
  rw [sendBidirectionalMessage_status found, sendMessage_status, ReportsAlikeApart]
  cases manager.proxy with
  | false => simp
  | true =>
      simp only [Bool.true_eq_false, if_false, false_or]
      by_cases positive : 0 < localPortId.toInt
      · simp only [if_pos positive]
        cases lookup with
        | error error =>
            simp only [Except.error.injEq, forall_eq', reduceCtorEq, false_imp_iff,
              implies_true, and_true]
            exact eq_comm
        | ok serviceId => simp
      · simp only [if_neg positive]
        cases lookup with
        | error error =>
            simp only [Except.error.injEq, forall_eq', reduceCtorEq, false_imp_iff,
              implies_true, and_true]
            exact eq_comm
        | ok serviceId =>
            simp only [reduceCtorEq, false_imp_iff, implies_true, true_and,
              Except.ok.injEq, forall_eq']
            by_cases zero : serviceId = 0
            · rw [if_pos zero]
              exact iff_of_false (by simp) fun both => both.1 zero
            · rw [if_neg zero, eq_comm]
              exact (and_iff_right zero).symm

/-- The answers for which both sends report one status: without a connection, or
where the lookup and the send fail as this local port id makes them report. -/
def ReportsAlike (proxy : Bool) (localPortId : Gint) (lookup : Except GError Guint)
    (send : Except GError Unit) : Prop :=
  proxy = false ∨
    if 0 < localPortId.toInt then
      (∀ error, lookup = .error error → msgportDaemonErrorToError error = .messageportNotFound) ∧
        (lookup = .ok 0 → send = .ok ())
    else
      (∀ error, lookup = .error error → msgportDaemonErrorToError error = .invalidParameter) ∧
        ∀ serviceId, lookup = .ok serviceId → serviceId ≠ 0 ∧
          ∃ error, send = .error error ∧ msgportDaemonErrorToError error = .invalidParameter

/-- One answer for both is a case of this. -/
theorem reportsAlikeApart_self {proxy : Bool} {localPortId : Gint} :
    ReportsAlikeApart proxy localPortId lookup send send ↔
      ReportsAlike proxy localPortId lookup send := by
  unfold ReportsAlikeApart ReportsAlike
  refine or_congr_right ?_
  by_cases positive : 0 < localPortId.toInt
  · rw [if_pos positive, if_pos positive]
    refine and_congr_right fun _ => ⟨fun alike zero => ?_, fun sent serviceId found => ?_⟩
    · exact sendStatus_eq_none.mp (alike 0 zero)
    · by_cases zero : serviceId = 0
      · subst zero
        rw [if_pos rfl, sendStatus_eq_none]
        exact sent found
      · rw [if_neg zero]
  · rw [if_neg positive, if_neg positive]
    simp only [sendStatus_eq_invalidParameter]

/-- Given the same answers, both sends report one status exactly for these. -/
theorem send_statuses_agree_iff {localPortId : Gint} {service : MsgPortService}
    (existing : (manager.getLocalPort localPortId).1 = some service) :
    ((manager.sendBidirectionalMessage localPortId (some appId) (some port) isTrusted data).evaluate
      (answering lookup send)).1 =
      (manager.sendMessage (some appId) (some port) isTrusted data).evaluate
        (answering lookup send) ↔
    ReportsAlike manager.proxy localPortId lookup send :=
  (send_statuses_agree_apart_iff existing).trans reportsAlikeApart_self

/-- A unidirectional send to nobody, as a client receives the daemon's error. -/
def unregisteredError : GError := ⟨.gIoError, gIoErrorDbusError, "port not found"⟩

/-- A client with one port. -/
def onePort : MsgPortManager :=
  ⟨true, (∅ : HashTable ObjectPath MsgPortService).insert "/1" ⟨0, "/1", 1, some "port", false⟩,
    (∅ : HashTable Gpointer ObjectPath).insert (gintToPointer 1) "/1"⟩

/-- A lookup that succeeds and a send that does not are reported alike. -/
theorem send_statuses_agree_iff_refused :
    ((onePort.sendBidirectionalMessage 1 (some "app") (some "port") true []).evaluate
      (answering (.ok 2) (.error unregisteredError))).1 =
      (onePort.sendMessage (some "app") (some "port") true []).evaluate
        (answering (.ok 2) (.error unregisteredError)) := by
  have existing : (onePort.getLocalPort 1).1 = some ⟨0, "/1", 1, some "port", false⟩ := by decide
  refine (send_statuses_agree_iff existing).mpr (.inr ?_)
  rw [if_pos (by decide)]
  exact ⟨by simp, by simp⟩

/-- A lookup that fails is reported as an I/O error by one, and as a port that was
not found by the other. -/
theorem send_statuses_differ : ¬ ∀ (manager : MsgPortManager) (localPortId : Gint) service,
    (manager.getLocalPort localPortId).1 = some service →
    ∀ appId port isTrusted data lookup send,
      ((manager.sendBidirectionalMessage localPortId (some appId)
        (some port) isTrusted data).evaluate (answering lookup send)).1 =
        (manager.sendMessage (some appId) (some port) isTrusted data).evaluate
          (answering lookup send) := by
  intro agree
  have same := agree onePort 1 ⟨0, "/1", 1, some "port", false⟩ (by decide) "app" "port" false []
    (.error unregisteredError) (.ok ())
  revert same
  decide

end MsgPortManager

end MessagePort.Client
