import MessagePort.Daemon.Lookup
import MessagePort.Daemon.Answers
import MessagePort.Daemon.Shutdown

/-!
# When the daemon ends

While ids are unique no callback of the daemon follows a pointer to a released object.
A fault can only come from a send: of a sender without app id, whose certificate would
have to be looked up, or to a dead id on a service, by the word on the stack.
-/

namespace MessagePort.Safety

open Daemon Logical Semantics

/-- A callback that can come: for an open connection, or for a new one. -/
def CanCome (state : State) : Label → Prop
  | .connect conn _ _ => conn ∉ state.dbusManagers
  | .request conn _ _ => conn ∈ state.dbusManagers
  | .unregisterService _ => True
  | .close conn => conn ∈ state.dbusManagers

/-- A callback that ends the daemon. -/
inductive Crashes (state : State) : Label → Prop where
  | nullKey {conn serviceId data choices} (stuck : Stuck state conn serviceId) :
      Crashes state (.request conn (.sendMessage serviceId data) choices)
  | nullKeyOn {conn path serviceId data choices} (exported : (conn, path) ∈ state.exports)
      (stuck : Stuck state conn serviceId) :
      Crashes state (.request conn (.serviceSendMessage path serviceId data) choices)
  /-- The error that is taken was never stored. -/
  | wildPointer {conn path serviceId data choices} (exported : (conn, path) ∈ state.exports)
      (dead : Dead state serviceId) (garbage : choices.stackWord ≠ 0) :
      Crashes state (.request conn (.serviceSendMessage path serviceId data) choices)

section Callbacks

variable {state : State} {conn : Conn}

/-- A request ends unless it crashes the daemon. -/
theorem serve_ok_iff (sound : Sound state) (registry : Registry state)
    (served : conn ∈ state.dbusManagers) (request : Request) (choices : Choices) :
    (∃ outcome, serve state conn request choices = .ok outcome) ↔
      ¬ Crashes state (.request conn request choices) := by
  cases request with
  | registerService port isTrusted =>
      refine iff_of_true ((handleRegisterService_ok_iff sound served).mpr (.inr ?_)) (by rintro ⟨⟩)
      rintro ⟨passed, addr, rest, split, _, dangling⟩
      obtain ⟨service, live, _⟩ := registry.listedLive
        (show addr ∈ state.ownerList conn by simp [split])
      rw [live] at dangling
      cases dangling
  | checkForRemoteService remoteAppId remotePort isTrusted =>
      exact iff_of_true
        (handleCheckForRemoteService_total sound registry remoteAppId remotePort isTrusted choices)
        (by rintro ⟨⟩)
  | sendMessage serviceId data =>
      refine (handleSendMessage_ok_iff sound served data choices).1.trans (not_congr ⟨.nullKey, ?_⟩)
      rintro ⟨stuck⟩
      exact stuck
  | serviceSendMessage path remoteServiceId data =>
      cases exported : state.exports.lookup (conn, path) with
      | none =>
          refine iff_of_true ⟨⟨state, [], false, []⟩, by simp only [serve, exported]⟩ ?_
          have missing : (conn, path) ∉ state.exports := AList.lookup_eq_none.mp exported
          rintro (_ | ⟨there, _⟩ | ⟨there, _, _⟩)
          · exact missing there
          · exact missing there
      | some addr =>
          obtain ⟨service, live, owned, _⟩ := sound.exported.mp exported
          have there : (conn, path) ∈ state.exports :=
            HashTable.lookup_isSome_iff.mpr ⟨addr, exported⟩
          have ends : (∃ outcome,
              DbusService.handleSendMessage state addr remoteServiceId data choices = .ok outcome) ↔
                ¬ Stuck state conn remoteServiceId ∧
                ¬ (Dead state remoteServiceId ∧ choices.stackWord ≠ 0) :=
            (handleSendMessage_ok_iff sound served data choices).2 addr service live owned
          simp only [serve, exported]
          refine ends.trans ⟨?_, fun sane => ⟨fun stuck => sane (.nullKeyOn there stuck),
            fun unset => sane (.wildPointer there unset.1 unset.2)⟩⟩
          rintro ⟨hashed, stored⟩ (_ | ⟨_, stuck⟩ | ⟨_, dead, garbage⟩)
          · exact hashed stuck
          · exact stored ⟨dead, garbage⟩
  | serviceUnregister path =>
      refine iff_of_true ?_ (by rintro ⟨⟩)
      simp only [serve]
      split
      · exact ⟨_, rfl⟩
      · exact ⟨_, rfl⟩

/-- A new connection is always taken or refused. -/
theorem new_total (sound : Sound state) (new : conn ∉ state.dbusManagers)
    (credentials : DbusManager.PeerCredentials) (exportFailure : Option GError) :
    ∃ outcome, DbusManager.new state conn credentials exportFailure = .ok outcome := by
  cases exportFailure with
  | none => exact ⟨_, rfl⟩
  | some error =>
      have empty : (Manager.new state).ownerList conn = [] := by
        rw [(Manager.new_registry state).ownerList]
        by_contra nonempty
        exact new (sound.listOpen nonempty)
      simp only [DbusManager.new, DbusManager.dispose, Manager.unregisterServices, if_pos empty]
      exact ⟨_, rfl⟩

/-- A service is unregistered by its id, or refused. -/
theorem unregisterService_total (sound : Sound state) (serviceId : Gint) :
    ∃ outcome, Manager.unregisterService state serviceId = .ok outcome := by
  cases present : state.manager with
  | none =>
      simp only [Manager.unregisterService, present]
      exact ⟨_, rfl⟩
  | some manager =>
      cases found : state.cached (gintToPointer serviceId) with
      | none => exact ⟨_, Manager.unregisterService_missing present found⟩
      | some addr =>
          obtain ⟨service, live, _⟩ := sound.cachedLive found
          obtain ⟨after, done, _⟩ := Manager.unregisterService_found sound present found live
          exact ⟨_, done⟩

end Callbacks

/-- In every run with unique ids, a callback that can come ends the daemon if and only if it
is one of these sends: no list, cache entry or connection ever leads to a released object. -/
theorem crashes_iff {trace : List Event} {state : State} (run : system.Runs trace state)
    (unique : (0 :: createdIds trace).Nodup) {label : Label} (comes : CanCome state label) :
    system.step state label = none ↔ Crashes state label := by
  have sound := sound_of_runs run
  have registry := registry_of_runs run unique
  cases label with
  | connect conn credentials exportFailure =>
      obtain ⟨outcome, ran⟩ := new_total sound comes credentials exportFailure
      have taken : conn ∉ state.dbusManagers := comes
      refine iff_of_false ?_ (by rintro ⟨⟩)
      simp only [system_step, step, if_neg taken, ran]
      exact Option.some_ne_none _
  | request conn request choices =>
      have served : conn ∈ state.dbusManagers := comes
      rw [← not_iff_not, ← serve_ok_iff sound registry served]
      simp only [system_step, step, if_pos served]
      cases ran : serve state conn request choices with
      | error fault => simp
      | ok outcome => simp
  | unregisterService serviceId =>
      obtain ⟨⟨next, result⟩, ran⟩ := unregisterService_total sound serviceId
      refine iff_of_false ?_ (by rintro ⟨⟩)
      simp only [system_step, step, ran]
      exact Option.some_ne_none _
  | close conn =>
      have served : conn ∈ state.dbusManagers := comes
      obtain ⟨next, ran⟩ := onConnectionClosed_total sound registry conn
      refine iff_of_false ?_ (by rintro ⟨⟩)
      simp only [system_step, step, if_pos served, ran]
      exact Option.some_ne_none _

/-- A client with a trusted port, and one whose peer credentials are missing. -/
theorem crashes_iff_unidentified : ∃ trace state, system.Runs trace state ∧
    system.step state (.request 1 (.sendMessage 1 []) .benign) = none ∧
    system.step state (.request 1 (.sendMessage 2 []) .benign) ≠ none := by
  obtain ⟨trace, state, run, accepted⟩ := @EventSystem.Runs.of_exec _ _ _ system
    [.connect 0 (.pid 1 (some "app")) none, .connect 1 .missing none,
      .request 0 (.registerService "port" true) .benign]
    (fun state trace => 1 ∈ state.dbusManagers ∧ (0 :: createdIds trace).Nodup ∧
      state.services.keys = [0] ∧ state.services.lookup 0 = some ⟨1, 0, "port", true⟩ ∧
      (state.dbusManagers.lookup 1).bind (·.appId) = none ∧
      (state.dbusManagers.lookup 0).any fun owner => !owner.isNullCert) (by decide)
  obtain ⟨served, unique, alone, live, unknown, certified⟩ := of_decide_eq_true accepted
  obtain ⟨owner, there, flag⟩ := (Option.any_eq_true _ _).mp certified
  have comes (serviceId : Guint) :
    CanCome state (.request 1 (.sendMessage serviceId []) .benign) := served
  refine ⟨trace, state, run, (crashes_iff run unique (comes 1)).mpr (.nullKey ?_), fun ended => ?_⟩
  · exact ⟨⟨1, 0, "port", true⟩, ⟨by decide, rfl, 0, live⟩, rfl, unknown, owner,
      there, by simpa using flag⟩
  · cases (crashes_iff run unique (comes 2)).mp ended with
    | nullKey stuck =>
        obtain ⟨service, ⟨_, same, addr, found⟩, _⟩ := stuck
        have member : addr ∈ state.services.keys :=
          AList.mem_keys.mp (HashTable.lookup_isSome_iff.mpr ⟨_, found⟩)
        rw [alone, List.mem_singleton] at member
        rw [member, live] at found
        obtain rfl := Option.some.inj found
        exact absurd same (by decide)

end MessagePort.Safety
