import MessagePort.Session.Kinds

/-!
# Messages go where they are addressed

A send looks up its target and sends to the id that it was told. Other clients may
come and go in between, but an id stands for one port for good: the message reaches
the port that the call names or none.
-/

namespace MessagePort.Session

open Daemon Client Logical Semantics

/-- The app id, port name and trust flag that a public function sends to. -/
def targetOf : ApiCall → Option String × Option String × Bool
  | .sendMessage remoteAppId remotePort isTrusted _ => (remoteAppId, remotePort, isTrusted)
  | .sendBidirectionalMessage _ remoteAppId remotePort isTrusted _ =>
      (remoteAppId, remotePort, isTrusted)
  | _ => (none, none, false)

/-- The id that an operation asks the daemon to send to. -/
def recipientOf : Operation → Option Guint
  | .call (.sendMessage serviceId _) => some serviceId
  | .call (.serviceSendMessage _ remoteServiceId _) => some remoteServiceId
  | _ => none

/-- What a client knows of ids: this one is that of a port of this name and trust flag,
created for an app id. -/
abbrev Knowledge := String → String → Bool → Guint → Prop

/-- A lookup that succeeds tells an id. -/
def Learns (known : Knowledge) : (operation : Operation) → operation.Answer → Prop
  | .call (.checkForRemoteService appId port isTrusted), .ok id => known appId port isTrusted id
  | _, _ => True

theorem Learns.mono {known other : Knowledge} {operation : Operation} {answer : operation.Answer}
    (learns : Learns known operation answer)
    (knows : ∀ {appId port isTrusted id}, known appId port isTrusted id →
      other appId port isTrusted id) :
    Learns other operation answer := by
  unfold Learns at *
  split at learns
  · exact knows learns
  · trivial

/-- What is sent by a call is sent to an id that is known for the target of the call. -/
def Addressed (known : Knowledge) (call : ApiCall) (operation : Operation) : Prop :=
  ∀ id, recipientOf operation = some id → (sendOf call).isSome ∧ ∃ appId port isTrusted,
    targetOf call = (some appId, some port, isTrusted) ∧ known appId port isTrusted id

/-- A program that sends to known ids only. -/
abbrev Careful {Result : Type} (known : Knowledge) (call : ApiCall) (program : Program Result)
    (post : Result → Prop) : Prop :=
  program.safely (fun (_ : Unit) operation answer _ => Learns known operation answer)
    (fun _ operation => Addressed known call operation) (fun result _ => post result) ()

section Programs

variable {known : Knowledge} {call : ApiCall}

theorem addressed_of_silent {operation : Operation} (silent : recipientOf operation = none) :
    Addressed known call operation := by
  intro id sends
  rw [silent] at sends
  cases sends

/-- A lookup that says so, or stores an id, found the port. -/
theorem checkRemoteService_careful (manager : MsgPortManager) (appId port : Option String)
    (isTrusted : Bool) :
    Careful known call (manager.checkRemoteService appId port isTrusted) fun (err, id) =>
      err = .none ∨ id ≠ 0 → ∃ app name, appId = some app ∧ port = some name ∧
        known app name isTrusted id := by
  unfold MsgPortManager.checkRemoteService Careful
  split
  · exact fun found => by simp at found
  split
  case h_1 app name =>
    refine ⟨addressed_of_silent rfl, fun answer _ learns => ?_⟩
    cases answer with
    | error error => exact fun found => absurd found (by simp [msgportDaemonErrorToError_ne_none])
    | ok id => exact fun _ => ⟨app, name, rfl, rfl, learns⟩
  · exact fun found => by simp at found

theorem sendMessage_careful (manager : MsgPortManager) (appId port : Option String)
    (isTrusted : Bool) (data : VariantMap) (sends : (sendOf call).isSome)
    (target : targetOf call = (appId, port, isTrusted)) :
    Careful known call (manager.sendMessage appId port isTrusted data) fun _ => True := by
  unfold MsgPortManager.sendMessage
  split
  · trivial
  split
  · trivial
  · apply Interaction.safely_bind
    refine Interaction.safely_mono ?_ (checkRemoteService_careful manager appId port isTrusted)
    rintro ⟨err, serviceId⟩ _ found
    dsimp only
    split
    · trivial
    case isFalse nonzero =>
      obtain ⟨app, name, rfl, rfl, learned⟩ := found (.inr nonzero)
      refine ⟨?_, fun answer _ _ => ?_⟩
      · rintro id ⟨⟩
        exact ⟨sends, app, name, isTrusted, target, learned⟩
      · cases answer <;> trivial

theorem sendBidirectionalMessage_careful (manager : MsgPortManager) (id : Gint)
    (appId port : Option String) (isTrusted : Bool) (data : VariantMap)
    (sends : (sendOf call).isSome) (target : targetOf call = (appId, port, isTrusted)) :
    Careful known call (manager.sendBidirectionalMessage id appId port isTrusted data)
      fun _ => True := by
  unfold MsgPortManager.sendBidirectionalMessage
  split
  · trivial
  split
  · trivial
  rcases manager.getLocalPort id with ⟨_ | service, left⟩
  · trivial
  · apply Interaction.safely_bind
    refine Interaction.safely_mono ?_ (checkRemoteService_careful left appId port isTrusted)
    rintro ⟨err, remoteServiceId⟩ _ found
    dsimp only
    split
    case isTrue succeeded =>
      obtain ⟨app, name, rfl, rfl, learned⟩ := found (.inl succeeded)
      apply Interaction.safely_bind
      refine ⟨?_, fun answer _ _ => ?_⟩
      · rintro id ⟨⟩
        exact ⟨sends, app, name, isTrusted, target, learned⟩
      · cases answer <;> trivial
    · trivial

/-- Every public function sends to what it looked up. -/
theorem program_careful (manager : MsgPortManager) (call : ApiCall) :
    Careful known call (call.program manager) fun _ => True := by
  cases call with
  | sendMessage appId port isTrusted message =>
      apply Interaction.safely_bind
      refine Interaction.safely_mono (fun _ _ _ => trivial)
        (sendMessage_careful manager appId port isTrusted _ rfl rfl)
  | sendBidirectionalMessage id appId port isTrusted message =>
      apply Interaction.safely_bind
      refine Interaction.safely_mono (fun _ _ _ => trivial)
        (sendBidirectionalMessage_careful manager id appId port isTrusted _ rfl rfl)
  | registerLocalPort localPort isTrusted callback visit =>
      refine Interaction.safely_of_only ?_ Interaction.wp_true
      apply Interaction.Only.bind
      · apply Interaction.Only.bind
        · exact MsgPortManager.registerService_only (fun _ _ _ => addressed_of_silent rfl)
            (fun _ _ => addressed_of_silent rfl) (fun _ _ _ => addressed_of_silent rfl)
            (fun _ _ _ => addressed_of_silent rfl) (fun _ _ => addressed_of_silent rfl) ..
        · exact fun _ => trivial
      · exact fun _ => trivial
  | checkRemotePort appId port isTrusted =>
      apply Interaction.safely_bind
      apply Interaction.safely_bind
      exact Interaction.safely_mono (fun _ _ _ => trivial)
        (checkRemoteService_careful manager appId port isTrusted)
  | getLocalPortName => trivial
  | checkTrustedLocalPort => trivial

end Programs

/-! ## What the daemon tells -/

/-- What a trace says of an id. -/
def Known (trace : List Event) : Knowledge :=
  fun appId port isTrusted id => ∃ owner, .created ⟨id, owner, port, isTrusted⟩ (some appId) ∈ trace

theorem Known.append {before after : List Event} {appId port : String} {isTrusted : Bool}
    {id : Guint} (known : Known before appId port isTrusted id) :
    Known (before ++ after) appId port isTrusted id := by
  obtain ⟨owner, made⟩ := known
  exact ⟨owner, List.mem_append_left _ made⟩

/-- A lookup tells the truth. -/
theorem learns_of_served {trace : List Event} {state after : State} (run : system.Runs trace state)
    (unique : (0 :: createdIds trace).Nodup) {conn : Conn} {operation : Operation}
    {answer : operation.Answer} {events : List Event}
    (served : Serves conn state operation answer events after) :
    Learns (Known trace) operation answer := by
  have sound := sound_of_runs run
  have registry := registry_of_runs run unique
  cases operation with
  | call request =>
      obtain ⟨open_, choices, outcome, reply, rest, ran, replied, rfl, rfl, rfl⟩ :=
        serves_call served
      cases request with
      | checkForRemoteService appId port isTrusted =>
          cases handleCheckForRemoteService_cases sound ran with
          | @found conn addr id owner named hasAppId listed live =>
              obtain rfl := List.head_eq_of_cons_eq replied
              obtain ⟨service, there, owned⟩ := registry.listedLive listed
              obtain rfl := Option.some.inj (live.symm.trans there)
              obtain ⟨dbusManager, made, open_⟩ := created_of_live run live
              obtain ⟨same, present, known⟩ := hasAppId
              dsimp only at owned
              subst owned
              obtain rfl := Option.some.inj (present.symm.trans open_)
              exact ⟨_, known ▸ made⟩
          | _ =>
              obtain rfl := List.head_eq_of_cons_eq replied
              trivial
      | _ => trivial
  | _ => trivial

/-- Calls in progress send to what they looked up, and go on doing so with all that
becomes known. -/
theorem careful_of_runs {trace : List WorldEvent} {state : World} (run : world.Runs trace state)
    (unique : (0 :: createdIds (daemonEvents trace)).Nodup) :
    ∀ conn client, state.clients.lookup conn = some client → ∀ call program,
      client.activity = some (call, program) → ∀ known : Knowledge,
        (∀ {appId port isTrusted id}, Known (daemonEvents trace) appId port isTrusted id →
          known appId port isTrusted id) → Careful known call program fun _ => True := by
  refine @EventSystem.Runs.invariant_of _ _ _ world
    (fun trace => (0 :: createdIds (daemonEvents trace)).Nodup) ?_
    (fun trace state => ∀ conn client,
      state.clients.lookup conn = some client →
      ∀ call program, client.activity = some (call, program) →
        ∀ known : Knowledge,
          (∀ {appId port isTrusted id}, Known (daemonEvents trace) appId port isTrusted id →
          known appId port isTrusted id) → Careful known call program fun _ => True) ?_
            ?_ _ _ run unique
  · intro before after unique
    rw [daemonEvents_append] at unique
    exact unique_of_append unique
  · intro conn client there
    cases there
  intro trace before label after emitted prior ih transition unique conn found there call program
    active known knows
  have earlier {appId port : String} {isTrusted : Bool} {id : Guint}
      (was : Known (daemonEvents trace) appId port isTrusted id) :
      known appId port isTrusted id := by
    apply knows
    rw [daemonEvents_append]
    exact was.append
  cases (World.step_cases transition).came (open_of_runs prior) there with
  | connected _ _ _ new =>
      rw [new] at active
      cases active
  | stayed there _ activity =>
      exact ih conn _ there call program (activity.symm.trans active) known earlier
  | @began client begun _ _ activity =>
      obtain ⟨rfl, rfl⟩ := Prod.mk.inj (Option.some.inj (activity.symm.trans active))
      exact program_careful client.manager begun
  | @performed _ _ _ _ _ answer _ there busy served _ activity =>
      obtain ⟨rfl, rfl⟩ := Prod.mk.inj (Option.some.inj (activity.symm.trans active))
      have careful := ih conn _ there _ _ busy known earlier
      refine careful.2 answer () ?_
      rw [daemonEvents_append] at unique
      exact (learns_of_served (daemon_of_runs prior) (unique_of_append unique)
        ⟨_, served⟩).mono earlier
  | finished _ _ idle =>
      rw [idle] at active
      cases active

/-- A message was sent to the port that it reached: by a call that names the app id
of the connection, the name and the trust flag of the port. -/
theorem addressed_of_perform {trace sent : List WorldEvent} {before next : World}
    (run : world.Runs trace before) (unique : (0 :: createdIds (daemonEvents trace)).Nodup)
    {conn : Conn} {client : ClientThread} {call : ApiCall}
    {program : Program (Returned × MsgPortManager)} {outside : Outside}
    (there : before.clients.lookup conn = some client)
    (active : client.activity = some (call, program))
    (moves : Moves before (.perform conn outside) sent next) {message : OnMessage}
    (emitted : .daemon (.emitted message) ∈ sent) :
    (sendOf call).isSome ∧ ∃ appId,
      targetOf call = (some appId, some message.service.portName, message.service.isTrusted) ∧
      .created message.service (some appId) ∈ daemonEvents trace := by
  obtain ⟨request, resume, rfl, _, asked⟩ := sent_of_perform run there active moves emitted
  have careful := careful_of_runs run unique conn client there call _ active _ id
  have addressed : Addressed (Known (daemonEvents trace)) call (.call request) := careful.1
  have aimed : recipientOf (.call request) = some message.service.id := by
    cases asked <;> rfl
  obtain ⟨sends, appId, port, isTrusted, target, owner, made⟩ := addressed _ aimed
  have daemonRun := daemon_of_runs run
  have sound := sound_of_runs daemonRun
  obtain ⟨addr, live⟩ := (moves.effect sound).emitted_live (mem_daemonEvents.mpr emitted)
  obtain ⟨dbusManager, made', _⟩ := created_of_live daemonRun live
  obtain ⟨same, _⟩ := created_inj (List.nodup_cons.mp unique).2 made made' rfl
  rw [← same]
  exact ⟨sends, appId, target, made⟩

end MessagePort.Session
