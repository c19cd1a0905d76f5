import MessagePort.Daemon.Answers
import MessagePort.Session.Call

/-!
# Checking a trusted port

The check asks the daemon only whether the port is there; a send to it also has
its owner check the certificate of the sender. Both are carried out alone, from
one state, with the lookup of both deciding alike.
-/

namespace MessagePort.Session

open Daemon Client Logical Semantics

/-- `messageport_check_trusted_remote_port` returns success. -/
def CheckSucceeds (state : State) (conn : Conn) (manager : MsgPortManager)
    (appId port : Option String) (outsides : List Outside) : Prop :=
  ∃ log events exist final, (messageportCheckRemotePort manager appId port true).exec
    (fun state => serveOperation state conn) state outsides =
      some (log, events, (.none, exist), final)

/-- `messageport_send_trusted_message` returns success. -/
def SendSucceeds (state : State) (conn : Conn) (manager : MsgPortManager)
    (appId port : Option String) (message : Option Bundle) (outsides : List Outside) : Prop :=
  ∃ log events final, (messageportSendMessage manager appId port true message).exec
    (fun state => serveOperation state conn) state outsides = some (log, events, .none, final)

section Requests

variable {state : State} {conn : Conn} {outside : Outside}

/-- A lookup that comes to a service is answered with its id. -/
theorem serveOperation_found (sound : Sound state) (served : conn ∈ state.dbusManagers)
    {appId port : String} {isTrusted : Bool} {service : DbusService}
    (found : LooksUp state appId port isTrusted outside.choices.visit service) :
    serveOperation state conn (.call (.checkForRemoteService appId port isTrusted)) outside =
      some ((.ok service.id : Except GError Guint), [], state) := by
  simp only [serveOperation, if_pos served, serve, handleCheckForRemoteService_found sound found]
  rfl

/-- Any other lookup is answered with an error, if it is answered. -/
theorem serveOperation_unfound (sound : Sound state) {appId port : String} {isTrusted : Bool}
    (unfound : ∀ service, ¬ LooksUp state appId port isTrusted outside.choices.visit service) :
    serveOperation state conn (.call (.checkForRemoteService appId port isTrusted)) outside = none ∨
      ∃ error, serveOperation state conn
        (.call (.checkForRemoteService appId port isTrusted)) outside =
        some ((.error error : Except GError Guint), [], state) := by
  simp only [serveOperation, serve]
  by_cases served : conn ∈ state.dbusManagers
  · simp only [if_pos served]
    cases ran : DbusManager.handleCheckForRemoteService state appId port isTrusted
        outside.choices with
    | error fault => exact .inl rfl
    | ok outcome =>
        obtain ⟨error, rfl⟩ := handleCheckForRemoteService_unfound sound unfound ran
        exact .inr ⟨_, rfl⟩
  · exact .inl (if_neg served)

/-- A send to a service that was found succeeds if the service lets the sender through. -/
theorem serveOperation_send (sound : Sound state) (served : conn ∈ state.dbusManagers)
    {addr : Addr} {service : DbusService} (live : state.services.lookup addr = some service)
    (nonzero : service.id ≠ 0) (data : VariantMap) :
    (∃ events after, serveOperation state conn (.call (.sendMessage service.id data)) outside =
      some ((.ok () : Except GError Unit), events, after)) ↔
      Admits state service ((state.dbusManagers.lookup conn).bind (·.appId))
        outside.choices.comparison := by
  have found := sound.liveCached live
  simp only [serveOperation, if_pos served, serve]
  by_cases unhashable : Unhashable state service ((state.dbusManagers.lookup conn).bind (·.appId))
  · rw [(handleSendMessage_fault sound served nonzero found live unhashable data outside.choices).1]
    simp only [reduceCtorEq, exists_false, false_iff]
    obtain ⟨trusted, unknown, owner, owned, certified⟩ := unhashable
    intro admits
    obtain ⟨other, owned', accepts⟩ := admits trusted
    obtain rfl := Option.some.inj (owned.symm.trans owned')
    rcases accepts with flagged | ⟨peer, known, _⟩
    · rw [certified] at flagged
      cases flagged
    · rw [unknown] at known
      cases known
  · obtain ⟨next, accepted, made, _, admits, ran, _⟩ :=
      handleSendMessage_target sound served nonzero found live rfl unhashable data outside.choices
    rw [ran, ← admits]
    cases accepted with
    | true => exact ⟨fun _ => rfl, fun _ => ⟨_, _, rfl⟩⟩
    | false =>
        constructor
        · rintro ⟨events, after, answered⟩
          cases answered
        · intro refused
          cases refused

end Requests

section Outcomes

variable {state : State} {conn : Conn} {manager : MsgPortManager} {appId port : Option String}
  {first second : Outside}

/-- A program that gives up on a port that is not there returns this only if the port is. -/
theorem lookup_returns {Result : Type} {app name : String} {isTrusted : Bool} {rest : List Outside}
    {resume : (Operation.call (.checkForRemoteService app name isTrusted)).Answer → Program Result}
    {result : Result} (sound : Sound state) (served : conn ∈ state.dbusManagers)
    (refuses : ∀ error : GError, ¬ (resume (.error error : Except GError Guint)).Returns
      (fun state => serveOperation state conn) state rest result) :
    (Interaction.perform (.call (.checkForRemoteService app name isTrusted)) resume).Returns
      (fun state => serveOperation state conn) state (first :: rest) result ↔
      ∃ service, LooksUp state app name isTrusted first.choices.visit service ∧
        (resume (.ok service.id : Except GError Guint)).Returns
          (fun state => serveOperation state conn) state rest result := by
  rw [Interaction.returns_perform]
  by_cases found : ∃ service, LooksUp state app name isTrusted first.choices.visit service
  · obtain ⟨service, found⟩ := found
    rw [serveOperation_found sound served found]
    constructor
    · rintro ⟨_, _, _, same, remaining⟩
      cases same
      exact ⟨service, found, remaining⟩
    · rintro ⟨other, found', remaining⟩
      obtain rfl := found'.unique found
      exact ⟨_, _, _, rfl, remaining⟩
  · rw [not_exists] at found
    simp only [found, false_and, exists_false, iff_false]
    rintro ⟨answer, events, after, answered, remaining⟩
    rcases serveOperation_unfound sound found with stuck | ⟨error, refused⟩
    · rw [stuck] at answered
      cases answered
    · rw [refused] at answered
      cases answered
      exact refuses error remaining

/-- A check succeeds if the port is there. -/
theorem checkSucceeds_iff (sound : Sound state) (served : conn ∈ state.dbusManagers) :
    CheckSucceeds state conn manager appId port [first] ↔ manager.proxy = true ∧
      ∃ app name service, appId = some app ∧ port = some name ∧
        LooksUp state app name true first.choices.visit service := by
  have returns : CheckSucceeds state conn manager appId port [first] ↔
      ∃ exist, (messageportCheckRemotePort manager appId port true).Returns
        (fun state => serveOperation state conn) state [first] (.none, exist) :=
    ⟨fun ⟨log, events, exist, final, ended⟩ => ⟨exist, log, events, final, ended⟩,
      fun ⟨exist, log, events, final, ended⟩ => ⟨log, events, exist, final, ended⟩⟩
  rw [returns]
  unfold messageportCheckRemotePort MsgPortManager.checkRemoteService
  cases manager.proxy with
  | false => simp
  | true =>
      cases appId with
      | none => simp
      | some app =>
          cases port with
          | none => simp
          | some name =>
              simp only [Bool.true_eq_false, if_false, Interaction.perform_bind, Option.some.injEq,
                exists_and_left, exists_eq_left', true_and]
              refine (exists_congr fun exist =>
                lookup_returns sound served fun error ended => ?_).trans ?_
              · exact msgportDaemonErrorToError_ne_none error
                  (Prod.mk.inj (Interaction.returns_done.mp ended)).1
              · simp

/-- A send succeeds if the port is there and lets the sender through; to a port
with the id zero nothing is sent, and that is reported as a success. -/
theorem sendSucceeds_iff (sound : Sound state) (served : conn ∈ state.dbusManagers)
    {message : Option Bundle} :
    SendSucceeds state conn manager appId port message [first, second] ↔ manager.proxy = true ∧
      ∃ app name service, appId = some app ∧ port = some name ∧
        LooksUp state app name true first.choices.visit service ∧
        (service.id = 0 ∨ Admits state service ((state.dbusManagers.lookup conn).bind (·.appId))
          second.choices.comparison) := by
  have returns : SendSucceeds state conn manager appId port message [first, second] ↔
      (messageportSendMessage manager appId port true message).Returns
        (fun state => serveOperation state conn) state [first, second] .none := Iff.rfl
  rw [returns]
  unfold messageportSendMessage MsgPortManager.sendMessage MsgPortManager.checkRemoteService
  cases manager.proxy with
  | false => simp
  | true =>
      cases appId with
      | none => simp
      | some app =>
          cases port with
          | none => simp
          | some name =>
              simp only [Bool.true_eq_false, if_false, Option.isNone_some,
                Bool.false_eq_true, or_self, Interaction.perform_bind, Option.some.injEq,
                exists_and_left, exists_eq_left', true_and]
              refine (lookup_returns sound served fun error ended =>
                msgportDaemonErrorToError_ne_none error
                  (Interaction.returns_done.mp ended)).trans ?_
              refine exists_congr fun service => and_congr_right fun found => ?_
              obtain ⟨_, _, addr, _, _, live⟩ := found
              simp only [Interaction.done_bind]
              by_cases zero : service.id = 0
              · simp [zero]
              · rw [if_neg zero, Interaction.returns_perform, or_iff_right zero,
                  ← serveOperation_send sound served live zero (bundleToVariantMap message)]
                constructor
                · rintro ⟨answer, events, after, answered, ended⟩
                  cases answer with
                  | ok sent => exact ⟨events, after, answered⟩
                  | error error =>
                      exact absurd (Interaction.returns_done.mp ended)
                        (msgportDaemonErrorToError_ne_none error)
                · rintro ⟨events, after, answered⟩
                  exact ⟨_, events, after, answered, Interaction.returns_done.mpr rfl⟩

/-- The check and the send agree exactly where the port that the lookup comes to, if
there is one, has the id zero or lets the caller through. -/
theorem check_agrees_iff {trace : List Event} (run : system.Runs trace state)
    (served : conn ∈ state.dbusManagers) (message : Option Bundle) :
    (CheckSucceeds state conn manager appId port [first] ↔
      SendSucceeds state conn manager appId port message [first, second]) ↔
    (manager.proxy = true → ∀ app name service, appId = some app → port = some name →
      LooksUp state app name true first.choices.visit service →
      service.id = 0 ∨ Admits state service ((state.dbusManagers.lookup conn).bind (·.appId))
        second.choices.comparison) := by
  have sound := sound_of_runs run
  rw [checkSucceeds_iff sound served, sendSucceeds_iff sound served]
  constructor
  · rintro agree proxy app name service rfl rfl found
    obtain ⟨_, app, name, other, sameApp, sameName, found', outcome⟩ :=
      agree.mp ⟨proxy, app, name, service, rfl, rfl, found⟩
    obtain rfl := Option.some.inj sameApp
    obtain rfl := Option.some.inj sameName
    exact found'.unique found ▸ outcome
  · intro lets
    constructor
    · rintro ⟨proxy, app, name, service, rfl, rfl, found⟩
      exact ⟨proxy, app, name, service, rfl, rfl, found, lets proxy app name service rfl rfl found⟩
    · rintro ⟨proxy, app, name, service, rfl, rfl, found, _⟩
      exact ⟨proxy, app, name, service, rfl, rfl, found⟩

end Outcomes

/-- What a program of connection 1 returns when it is carried out alone. -/
def returned {Result : Type} (program : Program Result) (state : State) (outsides : List Outside) :
    Option Result :=
  (program.exec (fun state => serveOperation state 1) state outsides).map (·.2.2.1)

/-- Nothing fails outside, and a comparison of certificates says this. -/
def comparing (comparison : CertComparison) : Outside :=
  ⟨{ Choices.benign with comparison := comparison }, none, 0⟩

/-- An app with a trusted port, and another app that may check it or send to it. -/
def trustedPort : List Label :=
  [.connect 0 (.pid 1 (some "app")) none, .connect 1 (.pid 2 (some "other")) none,
    .request 0 (.registerService "port" true) .benign]

/-- Certificates match, so the check and the send succeed, and the port lets the caller through. -/
theorem check_agrees_iff_matching : ∃ trace state, system.Runs trace state ∧
    ∀ app name service, some "app" = some app → some "port" = some name →
      LooksUp state app name true [] service →
      service.id = 0 ∨ Admits state service ((state.dbusManagers.lookup 1).bind (·.appId))
        (.ok .match) := by
  obtain ⟨trace, state, run, accepted⟩ := @EventSystem.Runs.of_exec _ _ _ system trustedPort
    (fun state _ => 1 ∈ state.dbusManagers ∧
      returned (messageportCheckRemotePort .new (some "app") (some "port") true) state
        [comparing (.ok .match)] = some (.none, true) ∧
      returned (messageportSendMessage .new (some "app") (some "port") true none) state
        [comparing (.ok .match), comparing (.ok .match)] = some .none) (by decide)
  obtain ⟨served, checked, sent⟩ := of_decide_eq_true accepted
  obtain ⟨⟨log, events, _, final⟩, check, rfl⟩ := Option.map_eq_some_iff.mp checked
  obtain ⟨⟨log', events', _, final'⟩, send, rfl⟩ := Option.map_eq_some_iff.mp sent
  exact ⟨trace, state, run, (@check_agrees_iff _ _ _ _ _ (comparing (.ok .match))
    (comparing (.ok .match)) _ run served none).mp
    ⟨fun _ => ⟨log', events', final', send⟩, fun _ => ⟨log, events, true, final, check⟩⟩ rfl⟩

/-- Certificates do not match: the check succeeds and the send fails. -/
theorem check_disagrees : ¬ ∀ trace state, system.Runs trace state → ∀ conn ∈ state.dbusManagers,
    ∀ manager appId port message first second,
      (CheckSucceeds state conn manager appId port [first] ↔
        SendSucceeds state conn manager appId port message [first, second]) := by
  intro agree
  obtain ⟨trace, state, run, accepted⟩ := @EventSystem.Runs.of_exec _ _ _ system trustedPort
    (fun state _ => 1 ∈ state.dbusManagers ∧
      returned (messageportCheckRemotePort .new (some "app") (some "port") true) state
        [comparing (.ok .mismatch)] = some (.none, true) ∧
      returned (messageportSendMessage .new (some "app") (some "port") true none) state
        [comparing (.ok .mismatch), comparing (.ok .mismatch)] = some .ioError) (by decide)
  obtain ⟨served, checked, sent⟩ := of_decide_eq_true accepted
  obtain ⟨⟨log, events, _, final⟩, check, rfl⟩ := Option.map_eq_some_iff.mp checked
  obtain ⟨log', events', final', send⟩ :=
    (agree trace state run 1 served .new (some "app") (some "port")
    none (comparing (.ok .mismatch)) (comparing (.ok .mismatch))).mp
    ⟨log, events, true, final, check⟩
  simp only [returned, send, Option.map_some, Option.some.injEq] at sent
  cases sent

end MessagePort.Session
