import MessagePort.Daemon.Answers

/-!
# The two ways to send

`Manager.sendMessage` and `Service.sendMessage` are handled by separate copies of
one sequence of steps. `sendPaths_agree_iff` says from which states they agree.
-/

namespace MessagePort.Refinement

open Logical Semantics Daemon

/-- Both requests emit one message on the target, or both are refused with one code. -/
inductive AnsweredAlike (service : DbusService) (serviceId : Guint) (data : VariantMap)
    (appId : Option String) (onService onManager : Handled Unit) : Prop where
  | sent {target} (addressed : target.id = serviceId)
      (accepted : onService.completions = [.ok ()]) (accepted' : onManager.completions = [.ok ()])
      (emitted : onMessages onService.events =
        [⟨target, data, appId, service.portName, service.isTrusted⟩])
      (emitted' : onMessages onManager.events = [⟨target, data, appId, "", false⟩])
  | refused {error error'} (same : error.domain = error'.domain ∧ error.code = error'.code)
      (refused : onService.completions = [.error error])
      (refused' : onManager.completions = [.error error'])
      (silent : onMessages onService.events = []) (silent' : onMessages onManager.events = [])

/-- Sending to an id on a service and on the dbus manager of its owner, from one
state, is answered alike and leaves one state. -/
def SendPathsAgree (state : State) (service : DbusService) (serviceId : Guint) (data : VariantMap)
    (choices : Choices) : Prop :=
  ∃ onService onManager,
    serve state service.owner (.serviceSendMessage service.objectPath serviceId data) choices =
      .ok onService ∧
    serve state service.owner (.sendMessage serviceId data) choices = .ok onManager ∧
    onService.handled = true ∧ onManager.handled = true ∧
    AnsweredAlike service serviceId data ((state.dbusManagers.lookup service.owner).bind (·.appId))
      onService onManager ∧
    onService.state = onManager.state

/-- A live service is reached at its path on the connection of its owner. -/
theorem serve_serviceSendMessage {state : State} (sound : Sound state) {addr : Addr}
    {service : DbusService} (live : state.services.lookup addr = some service) (serviceId : Guint)
    (data : VariantMap) (choices : Choices) :
    serve state service.owner (.serviceSendMessage service.objectPath serviceId data) choices =
      DbusService.handleSendMessage state addr serviceId data choices := by
  simp only [serve, sound.exported.mpr ⟨service, live, rfl, rfl⟩]
  rfl

/-- The two ways to send agree unless the id is dead and the uninitialised error is
not null, or the sender cannot be looked up and no request is answered at all. -/
theorem sendPaths_agree_iff {trace : List Event} {state : State} (run : system.Runs trace state)
    {addr : Addr} {service : DbusService} (live : state.services.lookup addr = some service)
    (serviceId : Guint) (data : VariantMap) (choices : Choices) :
    SendPathsAgree state service serviceId data choices ↔
      ¬ Stuck state service.owner serviceId ∧ ¬ (Dead state serviceId ∧ choices.stackWord ≠ 0) := by
  have sound := sound_of_runs run
  have served := sound.liveOpen live
  rw [← (handleSendMessage_ok_iff sound served data choices).2 addr service live rfl]
  simp only [SendPathsAgree, serve_serviceSendMessage sound live]
  constructor
  · rintro ⟨onService, _, ran, _⟩
    exact ⟨onService, ran⟩
  · rintro ⟨onService, ran⟩
    cases aim sound serviceId with
    | zero zero =>
        subst zero
        obtain ⟨manager, other⟩ := handleSendMessage_zero sound served data choices
        exact ⟨_, _, other addr service live, manager, rfl, rfl,
          .refused ⟨rfl, rfl⟩ rfl rfl rfl rfl, rfl⟩
    | missing nonzero missing =>
        obtain ⟨manager, other⟩ := handleSendMessage_missing sound served nonzero
          missing data choices
        rw [other addr service live] at ran ⊢
        split at ran
        case isTrue null =>
          rw [if_pos null]
          exact ⟨_, _, rfl, manager, rfl, rfl, .refused ⟨rfl, rfl⟩ rfl rfl rfl rfl, rfl⟩
        · cases ran
    | @target _ target nonzero found there same =>
        have hashable : ¬ Unhashable state target
            ((state.dbusManagers.lookup service.owner).bind (·.appId)) := by
          intro unhashable
          rw [(handleSendMessage_fault sound served nonzero found there unhashable data choices).2
            addr service live rfl] at ran
          cases ran
        obtain ⟨next, accepted, made, silent, _, manager, other⟩ :=
          handleSendMessage_target sound served nonzero found there rfl hashable data choices
        refine ⟨_, _, other addr service live rfl, manager, rfl, rfl, ?_, rfl⟩
        cases accepted with
        | true =>
            refine .sent same rfl rfl ?_ ?_
            all_goals
              simp only [if_true, onMessages_append, silent]
              rfl
        | false => exact .refused ⟨rfl, rfl⟩ rfl rfl silent silent

/-- A service with an id that is dead. -/
theorem deadTarget_run : ∃ trace state, system.Runs trace state ∧
    state.services.lookup 0 = some ⟨1, 0, "port", false⟩ ∧
    state.cached (guintToPointer 2) = none ∧
    (state.dbusManagers.lookup 0).bind (·.appId) = some "app" := by
  obtain ⟨trace, state, run, accepted⟩ := @EventSystem.Runs.of_exec _ _ _ system
    [.connect 0 (.pid 1 (some "app")) none, registerLabel 0 "port" .benign]
    (fun state _ => state.services.lookup 0 = some ⟨1, 0, "port", false⟩ ∧
      state.cached (guintToPointer 2) = none ∧
      (state.dbusManagers.lookup 0).bind (·.appId) = some "app") (by decide)
  exact ⟨trace, state, run, of_decide_eq_true accepted⟩

/-- With a null stack word, a send to a dead id fails alike on both ways. -/
theorem sendPaths_agree_iff_nullWord : ∃ trace state, system.Runs trace state ∧
    SendPathsAgree state ⟨1, 0, "port", false⟩ 2 [] .benign := by
  obtain ⟨trace, state, run, live, _, known⟩ := deadTarget_run
  refine ⟨trace, state, run, (sendPaths_agree_iff run live 2 [] .benign).mpr ⟨?_, ?_⟩⟩
  · rintro ⟨_, _, _, unknown, _⟩
    rw [known] at unknown
    cases unknown
  · exact fun wild => wild.2 rfl

/-- With another stack word it fails on one way, and ends the daemon on the other. -/
theorem sendPaths_differ : ¬ ∀ trace state, system.Runs trace state →
    ∀ addr service, state.services.lookup addr = some service → ∀ serviceId data choices,
      SendPathsAgree state service serviceId data choices := by
  intro agree
  obtain ⟨trace, state, run, live, missing, _⟩ := deadTarget_run
  have sound := sound_of_runs run
  obtain ⟨_, _, ran, _⟩ := agree trace state run 0 _ live 2 []
    { Choices.benign with stackWord := 1 }
  rw [serve_serviceSendMessage sound live] at ran
  rw [(handleSendMessage_missing sound (sound.liveOpen live) (by decide) missing [] _).2
    0 _ live] at ran
  cases ran

end MessagePort.Refinement
