import MessagePort.Daemon.Answers

/-!
# Every request has one reply

Each handler that ends completes its invocation once, except that of a port's
`unregister`, which claims the invocation and leaves it.
-/

namespace MessagePort.Safety

open Logical Semantics Daemon

/-- A request is replied to once, and a port whose `unregister` succeeded is gone. -/
def AnsweredOnce (state : State) (conn : Conn) (request : Request) (choices : Choices) : Prop :=
  ∃ outcome reply, serve state conn request choices = .ok outcome ∧
    outcome.replies request.path = [reply] ∧
    ∀ path answer, request = .serviceUnregister path → reply = .ok answer →
      ∀ addr, state.exports.lookup (conn, path) = some addr → addr ∉ outcome.state.services

/-- What it takes for a request to be replied to: no search comes to a dangling
pointer, no sender without app id to a port that checks it, no null error is
expected on a stack that has none, and no port of its own is to be unregistered. -/
def Answerable (state : State) (conn : Conn) : Request → Choices → Prop
  | .registerService port isTrusted, _ =>
      port = "" ∨ ¬ Dangles state port isTrusted (state.ownerList conn)
  | .checkForRemoteService remoteAppId remotePort isTrusted, choices =>
      ∀ other, DbusManager.getDbusManagerByAppId state remoteAppId choices.visit = some other →
        remotePort = "" ∨ ¬ Dangles state remotePort isTrusted (state.ownerList other)
  | .sendMessage serviceId _, _ => ¬ Stuck state conn serviceId
  | .serviceSendMessage path remoteServiceId _, choices =>
      (conn, path) ∈ state.exports → ¬ Stuck state conn remoteServiceId ∧
        ¬ (Dead state remoteServiceId ∧ choices.stackWord ≠ 0)
  | .serviceUnregister path, _ => (conn, path) ∉ state.exports

/-- A handler that completes its invocation once is answered once. -/
theorem answeredOnce_iff {state : State} {conn : Conn} {request : Request} {choices : Choices}
    (once : ∀ outcome, serve state conn request choices = .ok outcome →
      outcome.handled = true ∧ ∃ reply, outcome.completions = [reply])
    (other : ∀ path, request ≠ .serviceUnregister path) :
    AnsweredOnce state conn request choices ↔
      ∃ outcome, serve state conn request choices = .ok outcome := by
  constructor
  · rintro ⟨outcome, _, ran, _⟩
    exact ⟨outcome, ran⟩
  · rintro ⟨outcome, ran⟩
    obtain ⟨handled, reply, completed⟩ := once outcome ran
    refine ⟨outcome, reply, ran, by rw [Handled.replies, if_pos handled, completed], ?_⟩
    exact fun path _ same => absurd same (other path)

/-- GDBus answers a call on a path without a service. -/
theorem answeredOnce_unexported {state : State} {conn : Conn} {request : Request}
    {choices : Choices} (ran : serve state conn request choices = .ok ⟨state, [], false, []⟩) :
    AnsweredOnce state conn request choices := by
  refine ⟨_, .error (unknownMethod request.path), ran, rfl, ?_⟩
  intro _ _ _ refused
  cases refused

/-- A port's `unregister` gets no reply. -/
theorem unregister_unreplied {state : State} {conn : Conn} {path : ObjectPath} {choices : Choices}
    {outcome : Handled (Request.serviceUnregister path).Answer}
    (exported : (conn, path) ∈ state.exports)
    (ran : serve state conn (.serviceUnregister path) choices = .ok outcome) :
    outcome.replies (Request.serviceUnregister path).path = [] := by
  obtain ⟨addr, there⟩ := HashTable.lookup_isSome_iff.mp exported
  simp only [serve, there] at ran
  obtain rfl := Except.ok.inj ran
  rfl

/-- In every reachable state a request of an open connection has exactly one reply
if and only if it is answerable. -/
theorem answeredOnce_iff_answerable {trace : List Event} {state : State}
    (run : system.Runs trace state) {conn : Conn} (served : conn ∈ state.dbusManagers)
    (request : Request) (choices : Choices) :
    AnsweredOnce state conn request choices ↔ Answerable state conn request choices := by
  have sound := sound_of_runs run
  cases request with
  | registerService port isTrusted =>
      rw [answeredOnce_iff _ (by simp)]
      · exact handleRegisterService_ok_iff sound served
      · intro outcome ran
        cases DbusManager.handleRegisterService_cases sound served ran <;> exact ⟨rfl, _, rfl⟩
  | checkForRemoteService remoteAppId remotePort isTrusted =>
      rw [answeredOnce_iff _ (by simp)]
      · exact handleCheckForRemoteService_ok_iff sound
      · intro outcome ran
        obtain ⟨reply, rfl⟩ := (handleCheckForRemoteService_cases sound ran).reply
        exact ⟨rfl, reply, rfl⟩
  | sendMessage serviceId data =>
      rw [answeredOnce_iff _ (by simp)]
      · exact (handleSendMessage_ok_iff sound served data choices).1
      · exact fun outcome ran => (DbusManager.handleSendMessage_cases sound served ran).reply
  | serviceSendMessage path remoteServiceId data =>
      simp only [Answerable]
      cases exported : state.exports.lookup (conn, path) with
      | none =>
          have absent : (conn, path) ∉ state.exports := AList.lookup_eq_none.mp exported
          simp only [absent, false_imp_iff, iff_true]
          exact answeredOnce_unexported (by simp only [serve, exported])
      | some addr =>
          obtain ⟨service, live, owned, _⟩ := sound.exported.mp exported
          have there : (conn, path) ∈ state.exports :=
            HashTable.lookup_isSome_iff.mpr ⟨addr, exported⟩
          simp only [there, forall_const]
          rw [answeredOnce_iff _ (by simp)]
          · simp only [serve, exported]
            exact (handleSendMessage_ok_iff sound served data choices).2 addr service live owned
          · intro outcome ran
            simp only [serve, exported] at ran
            exact (DbusService.handleSendMessage_cases sound live ran).reply
  | serviceUnregister path =>
      simp only [Answerable]
      cases exported : state.exports.lookup (conn, path) with
      | none =>
          have absent : (conn, path) ∉ state.exports := AList.lookup_eq_none.mp exported
          simp only [absent, not_false_iff, iff_true]
          exact answeredOnce_unexported (by simp only [serve, exported])
      | some addr =>
          have there : (conn, path) ∈ state.exports :=
            HashTable.lookup_isSome_iff.mpr ⟨addr, exported⟩
          simp only [there, not_true, iff_false]
          rintro ⟨outcome, reply, ran, replied, _⟩
          rw [unregister_unreplied there ran] at replied
          cases replied

/-- A client with one port. -/
theorem onePort_run : ∃ trace state, system.Runs trace state ∧ 0 ∈ state.dbusManagers ∧
    (0, "/1") ∈ state.exports := by
  obtain ⟨trace, state, run, accepted⟩ := @EventSystem.Runs.of_exec _ _ _ system
    [.connect 0 (.pid 1 (some "app")) none, registerLabel 0 "port" .benign]
    (fun state _ => 0 ∈ state.dbusManagers ∧ (0, "/1") ∈ state.exports) (by decide)
  exact ⟨trace, state, run, of_decide_eq_true accepted⟩

/-- The request to unregister that port is not answered, as `answeredOnce_iff_answerable`
reads it. -/
theorem answeredOnce_iff_answerable_onePort : ∃ trace state, system.Runs trace state ∧
    ¬ AnsweredOnce state 0 (.serviceUnregister "/1") .benign := by
  obtain ⟨trace, state, run, served, exported⟩ := onePort_run
  refine ⟨trace, state, run, ?_⟩
  rw [answeredOnce_iff_answerable run served]
  exact fun absent => absent exported

/-- Not every request is answered. -/
theorem unregister_unanswered :
    ¬ ∀ trace state, system.Runs trace state → ∀ conn ∈ state.dbusManagers,
    ∀ request choices, AnsweredOnce state conn request choices := by
  intro answered
  obtain ⟨trace, state, run, served, exported⟩ := onePort_run
  obtain ⟨outcome, reply, ran, replied, _⟩ :=
    answered trace state run 0 served (.serviceUnregister "/1") .benign
  rw [unregister_unreplied exported ran] at replied
  cases replied

end MessagePort.Safety
