import MessagePort.Client.Api
import MessagePort.Daemon.Frame

/-!
# One call of a client

A client's operation is carried out by the daemon or by the client's own GDBus
objects; `Calls` runs a program of the client on its connection while the daemon
handles whatever other connections do in between.
-/

namespace MessagePort.Session

open Daemon Client Logical Semantics

/-- What is decided outside the programs while one operation is carried out. -/
structure Outside where
  choices : Choices
  /-- Why the proxy of a service cannot be created, if it cannot. -/
  proxyFailure : Option GError
  /-- The address of a new service object. -/
  handle : Handle

/-- The reply as the client's call returns it: no code of the library registers
the daemon's error domain in the client's process. -/
def decodeReply {Answer : Type} (reply : Except GError Answer) : Except GError Answer :=
  reply.mapError fun error => decodeError false (encodeError error)

/-- The properties a new proxy caches: those of the skeleton exported at its path
on the connection, none if there is no skeleton. -/
def proxyProperties (state : State) (conn : Conn) (path : ObjectPath) (handle : Handle) :
    MsgPortService :=
  match (state.exports.lookup (conn, path)).bind state.services.lookup with
  | none => ⟨handle, path, 0, none, false⟩
  | some service => ⟨handle, path, service.id, some service.portName, service.isTrusted⟩

/-- Carry out one operation of the client on a connection: its answer, and what
the daemon did. A call that is never replied to has no answer. -/
def serveOperation (state : State) (conn : Conn) :
    (operation : Operation) → Outside → Option (operation.Answer × List Event × State)
  | .call request, outside =>
      if conn ∈ state.dbusManagers then
        match serve state conn request outside.choices with
        | .error _ => none
        | .ok outcome =>
            match outcome.replies request.path with
            | [] => none
            | reply :: _ => some (decodeReply reply, outcome.events, outcome.state)
      else none
  | .serviceProxyNew path, outside =>
      let answer : Except GError MsgPortService :=
        match outside.proxyFailure with
        | some error => .error error
        | none => .ok (proxyProperties state conn path outside.handle)
      some (answer, [], state)
  | .connectOnMessage _ _, _ => some ((), [], state)
  | .setMessageHandler _ _, _ => some ((), [], state)
  | .serviceUnref _, _ => some ((), [], state)

/-- An operation of the client is carried out, whatever is decided outside. -/
def Serves (conn : Conn) (state : State) (operation : Operation) (answer : operation.Answer)
    (events : List Event) (after : State) : Prop :=
  ∃ outside, serveOperation state conn operation outside = some (answer, events, after)

/-- A step of the daemon that is not for this connection. -/
def Elsewhere (conn : Conn) (state : State) (events : List Event) (after : State) : Prop :=
  ∃ label, label.conn ≠ some conn ∧ step state label = some (after, events)

/-- A run of a client's program on its connection. -/
abbrev Calls {Result : Type} (conn : Conn) :=
  @Interaction.Interleaved Operation Operation.Answer Result State Event (Serves conn)
    (Elsewhere conn)

/-- A run of a client's program that may not have reached its end. -/
abbrev Proceeds {Result : Type} (conn : Conn) :=
  @Interaction.Advances Operation Operation.Answer Result State Event (Serves conn) (Elsewhere conn)

/-- The operations of a program with what they were answered. -/
abbrev Log := List (Interaction.Exchange State Event Operation Operation.Answer)

/-- The proxy of an exported service has its properties. -/
theorem proxyProperties_exported {state : State} {conn : Conn} {path : ObjectPath} {addr : Addr}
    {service : DbusService} (exported : state.exports.lookup (conn, path) = some addr)
    (live : state.services.lookup addr = some service) (handle : Handle) :
    proxyProperties state conn path handle =
      ⟨handle, path, service.id, some service.portName, service.isTrusted⟩ := by
  simp only [proxyProperties, exported, Option.bind_some, live]

/-- A decided property of an evaluated call, after an evaluated run, holds of some call. -/
theorem Calls.of_exec {Result : Type} {conn : Conn} {labels : List Label} {program : Program Result}
    {outsides : List Outside}
    {accepts : State → List Event → Log → List Event → Result → State → Bool}
    (evaluated : (system.exec system.initial labels).any
      (fun before => (program.exec (fun state => serveOperation state conn) before.1 outsides).any
        fun out => accepts before.1 before.2 out.1 out.2.1 out.2.2.1 out.2.2.2) = true) :
    ∃ trace state log events result final, system.Runs trace state ∧
      Calls conn state program log events result final ∧
      accepts state trace log events result final = true := by
  obtain ⟨trace, state, run, accepted⟩ := @EventSystem.Runs.of_exec _ _ _ system labels
    (fun state trace => (program.exec (fun state => serveOperation state conn) state outsides).any
      fun out => accepts state trace out.1 out.2.1 out.2.2.1 out.2.2.2) evaluated
  cases outcome : program.exec (fun state => serveOperation state conn) state outsides with
  | none => simp [outcome] at accepted
  | some out =>
      obtain ⟨log, events, result, final⟩ := out
      exact ⟨trace, state, log, events, result, final, run, Interaction.Interleaved.of_exec outcome,
        by simpa [outcome] using accepted⟩

/-- A method call that returns was served, and answered with the first reply. -/
theorem serves_call {conn : Conn} {state after : State} {request : Request}
    {answer : Except GError request.Answer} {events : List Event}
    (served : Serves conn state (.call request) answer events after) :
    conn ∈ state.dbusManagers ∧ ∃ choices outcome reply rest,
      serve state conn request choices = .ok outcome ∧
      outcome.replies request.path = reply :: rest ∧
      answer = decodeReply reply ∧ events = outcome.events ∧ after = outcome.state := by
  obtain ⟨outside, served⟩ := served
  simp only [serveOperation] at served
  split at served
  case isTrue open_ =>
    refine ⟨open_, outside.choices, ?_⟩
    cases ran : serve state conn request outside.choices with
    | error fault => simp [ran] at served
    | ok outcome =>
        cases replied : outcome.replies request.path with
        | nil => simp [ran, replied] at served
        | cons reply rest =>
            simp only [ran, replied, Option.some.injEq] at served
            obtain ⟨rfl, rfl, rfl⟩ := served
            exact ⟨outcome, reply, rest, rfl, replied, rfl, rfl, rfl⟩
  · cases served

/-- Any other operation is nothing to the daemon. -/
theorem serves_local {conn : Conn} {state after : State} {operation : Operation}
    {answer : operation.Answer} {events : List Event} (own : ∀ request, operation ≠ .call request)
    (served : Serves conn state operation answer events after) : events = [] ∧ after = state := by
  obtain ⟨outside, served⟩ := served
  cases operation with
  | call request => exact absurd rfl (own request)
  | _ =>
      simp only [serveOperation, Option.some.injEq] at served
      obtain ⟨-, rfl, rfl⟩ := served
      exact ⟨rfl, rfl⟩

/-- A new proxy caches what is exported at its path. -/
theorem serves_serviceProxyNew {conn : Conn} {state after : State} {path : ObjectPath}
    {service : MsgPortService} {events : List Event}
    (served : Serves conn state (.serviceProxyNew path) (.ok service) events after) :
    ∃ handle, service = proxyProperties state conn path handle := by
  obtain ⟨outside, served⟩ := served
  simp only [serveOperation, Option.some.injEq] at served
  obtain ⟨answered, _⟩ := Prod.mk.inj served
  cases failure : outside.proxyFailure with
  | some error =>
      rw [failure] at answered
      cases answered
  | none =>
      rw [failure] at answered
      exact ⟨outside.handle, (Except.ok.inj answered).symm⟩

/-- An operation is at most one step of the daemon. -/
theorem serves_steps {conn : Conn} {state after : State} {operation : Operation}
    {answer : operation.Answer} {events : List Event}
    (served : Serves conn state operation answer events after) :
    system.Steps state events after := by
  cases operation with
  | call request =>
      obtain ⟨open_, choices, outcome, _, _, ran, _, _, rfl, rfl⟩ := serves_call served
      have transition : step state (.request conn request choices) =
          some (outcome.state, outcome.events) := by
        simp only [step, if_pos open_, ran]
      exact steps_of_step transition
  | _ =>
      obtain ⟨rfl, rfl⟩ := serves_local (by simp) served
      exact .refl

/-- An operation is at most one effect. -/
theorem serves_effect {conn : Conn} {state after : State} {operation : Operation}
    {answer : operation.Answer} {events : List Event} (sound : Sound state)
    (served : Serves conn state operation answer events after) : Effect state events after := by
  cases operation with
  | call request =>
      obtain ⟨open_, choices, outcome, _, _, ran, _, _, rfl, rfl⟩ := serves_call served
      exact (serve_effect sound open_ ran).1
  | _ =>
      obtain ⟨rfl, rfl⟩ := serves_local (by simp) served
      exact .quiet (.refl _) rfl

/-- What happens elsewhere is a run of the daemon. -/
theorem elsewhere_steps {conn : Conn} {state after : State} {events : List Event}
    (others : Interaction.Others (Elsewhere conn) state events after) :
    system.Steps state events after := by
  induction others with
  | refl => exact .refl
  | step transition _ ih =>
      obtain ⟨label, _, transition⟩ := transition
      exact (steps_of_step transition).trans ih

/-- What happens elsewhere creates no service of a connection. -/
theorem elsewhere_live {trace : List Event} {conn : Conn} {state after : State}
    {events : List Event} (run : system.Runs trace state)
    (others : Interaction.Others (Elsewhere conn) state events after) {addr : Addr}
    {service : DbusService} (owned : service.owner = conn)
    (live : after.services.lookup addr = some service) :
    state.services.lookup addr = some service := by
  induction others generalizing trace with
  | refl => exact live
  | step transition _ ih =>
      obtain ⟨label, different, transition⟩ := transition
      have sound := sound_of_runs run
      rcases (step_effect sound transition).1.live_before sound (ih (run.snoc transition) live) with
        ⟨before, _⟩ | ⟨dbusManager, _, created⟩
      · exact before
      · have subjects := subject_of_step sound transition
        rw [created] at subjects
        rcases subjects _ List.mem_cons_self with sending | subject
        · exact sending.elim
        · exact absurd (subject.symm.trans (congrArg some owned)) different

/-- A connection stays open whatever happens elsewhere. -/
theorem elsewhere_open {conn : Conn} {state after : State} {events : List Event}
    (sound : Sound state) (served : conn ∈ state.dbusManagers)
    (elsewhere : Elsewhere conn state events after) :
    conn ∈ after.dbusManagers := by
  obtain ⟨label, different, transition⟩ := elsewhere
  apply step_open sound transition served
  rintro rfl
  exact different rfl

/-- Every connection stays open while an operation is carried out. -/
theorem serves_open {conn other : Conn} {state after : State} {operation : Operation}
    {answer : operation.Answer} {events : List Event} (sound : Sound state)
    (served : Serves conn state operation answer events after)
    (open_ : other ∈ state.dbusManagers) :
    other ∈ after.dbusManagers := by
  cases operation with
  | call request =>
      obtain ⟨calling, choices, outcome, _, _, ran, _, _, rfl, rfl⟩ := serves_call served
      exact serve_open sound calling ran open_
  | _ =>
      obtain ⟨-, rfl⟩ := serves_local (by simp) served
      exact open_

/-- Nothing happens, or one step for another connection. -/
inductive Apart (conn : Conn) (before : State) : List Event → State → Prop where
  | idle : Apart conn before [] before
  | other {label : Label} {other events after} (labelled : label.conn = some other)
      (different : other ≠ conn) (transition : step before label = some (after, events)) :
      Apart conn before events after

/-- An operation of a client is apart from every other connection. -/
theorem serves_apart {conn other : Conn} {state after : State} {operation : Operation}
    {answer : operation.Answer} {events : List Event}
    (served : Serves other state operation answer events after) (different : other ≠ conn) :
    Apart conn state events after := by
  cases operation with
  | call request =>
      obtain ⟨calling, choices, outcome, _, _, ran, _, _, rfl, rfl⟩ := serves_call served
      refine @Apart.other conn state (.request other request choices) other _ _ rfl different ?_
      simp only [step, if_pos calling, ran]
  | _ =>
      obtain ⟨rfl, rfl⟩ := serves_local (by simp) served
      exact .idle

namespace Apart

variable {conn : Conn} {before after : State} {events : List Event}

/-- It keeps the connection open. -/
theorem keeps_open (apart : Apart conn before events after) (sound : Sound before)
    (served : conn ∈ before.dbusManagers) : conn ∈ after.dbusManagers := by
  cases apart with
  | idle => exact served
  | other labelled different transition =>
      apply step_open sound transition served
      rintro rfl
      exact different (Option.some.inj labelled).symm

/-- It keeps what the connection owns. -/
theorem owns_eq (apart : Apart conn before events after) {trace : List Event}
    (run : system.Runs trace before) (unique : (0 :: createdIds (trace ++ events)).Nodup) :
    Owns after conn = Owns before conn := by
  cases apart with
  | idle => rfl
  | other labelled different transition =>
      exact owns_elsewhere run unique transition labelled different

end Apart

/-- A client's program is carried out in a run of the daemon, in which its
connection stays open. -/
theorem proceeds_steps {Result : Type} {trace : List Event} {conn : Conn} {state after : State}
    {program left : Program Result} {log : Log} {events : List Event}
    (run : system.Runs trace state) (served : conn ∈ state.dbusManagers)
    (proceeds : Proceeds conn state program log events after left) :
    system.Steps state events after ∧ conn ∈ after.dbusManagers := by
  induction proceeds generalizing trace with
  | stay => exact ⟨.refl, served⟩
  | other transition _ ih =>
      have open_ := elsewhere_open (sound_of_runs run) served transition
      obtain ⟨label, _, transition⟩ := transition
      obtain ⟨steps, still⟩ := ih (run.snoc transition) open_
      exact ⟨(steps_of_step transition).trans steps, still⟩
  | perform serves _ ih =>
      have open_ := serves_open (sound_of_runs run) serves served
      obtain ⟨steps, still⟩ := ih (run.trans (serves_steps serves)) open_
      exact ⟨(serves_steps serves).trans steps, still⟩

end MessagePort.Session
