import MessagePort.Session.World

/-!
# Invariants of single clients

What is kept by every client of a world, and speaks of the client's tables, its call
in progress and the ports of its connection, follows from what one operation may be
answered: no other client touches any of these.
-/

namespace MessagePort.Session

open Daemon Client Logical Semantics

theorem regular_of_append {first second : List WorldEvent}
    (regular : Regular (daemonEvents (first ++ second))) :
    Regular (daemonEvents first) := by
  rw [daemonEvents_append] at regular
  exact regular.of_append

/-- The ports of one connection, by name, trust flag and id. -/
abbrev Ports := String → Bool → Guint → Prop

section Clients

variable (between : MsgPortManager → Ports → Prop)
  (during : ApiCall → Program (Returned × MsgPortManager) → Ports → Prop)

/-- One property of the tables between calls, and one of the call in progress. -/
def Follows (daemon : State) (conn : Conn) (client : ClientThread) : Prop :=
  match client.activity with
  | none => between client.manager (Owns daemon conn)
  | some (call, program) => during call program (Owns daemon conn)

/-- Both hand over to each other, when operations are answered as they may be. -/
structure Keeps (may : Ports → (operation : Operation) → operation.Answer → Ports → Prop) :
    Prop where
  new : ∀ {ports}, (∀ name isTrusted id, ¬ ports name isTrusted id) → between .new ports
  begins : ∀ {manager ports} (call : ApiCall), between manager ports →
    during call (call.program manager) ports
  performs : ∀ {call operation resume answer before after},
    during call (.perform operation resume) before →
    may before operation answer after → during call (resume answer) after
  ends : ∀ {call returned manager ports}, during call (.done (returned, manager)) ports →
    between manager ports

variable {between during}

variable {may : Ports → (operation : Operation) → operation.Answer → Ports → Prop}
  {assumed : List WorldEvent → Prop}

/-- Every client keeps what its own operations keep. -/
theorem follows_of_runs (keeps : Keeps between during may)
    (ofAppend : ∀ {before after}, assumed (before ++ after) → assumed before)
    (regular : ∀ {trace}, assumed trace → Regular (daemonEvents trace))
    (bounded : ∀ {trace state conn operation outside answer events after}, world.Runs trace state →
      assumed (trace ++ (events.map .daemon ++ proxyEvents conn operation answer)) →
      serveOperation state.daemon conn operation outside = some (answer, events, after) →
      may (Owns state.daemon conn) operation answer (Owns after conn))
    {trace : List WorldEvent} {state : World} (run : world.Runs trace state)
    (given : assumed trace) :
    ∀ conn client, state.clients.lookup conn = some client →
      Follows between during state.daemon conn client := by
  refine @EventSystem.Runs.invariant_of _ _ _ world assumed ofAppend (fun _ state =>
    ∀ conn client, state.clients.lookup conn = some client →
      Follows between during state.daemon conn client) ?_ ?_ _ _ run given
  · intro conn client there
    cases there
  intro trace before label after emitted prior ih transition given conn found there
  have moves := World.step_cases transition
  have daemonRun := daemon_of_runs prior
  have unique : (0 :: createdIds (daemonEvents trace ++ daemonEvents emitted)).Nodup := by
    have whole := regular given
    rw [daemonEvents_append] at whole
    exact whole.nodup (daemonRun.trans moves.steps)
  unfold Follows
  cases moves.came (open_of_runs prior) there with
  | connected connects _ _ new =>
      subst new
      exact keeps.new fun name isTrusted id => connect_owns (sound_of_runs daemonRun) connects
  | stayed there manager activity apart =>
      rw [manager, activity, apart.owns_eq daemonRun unique]
      exact ih conn _ there
  | @began client call there idle activity same =>
      rw [activity, same]
      have follows := ih conn client there
      simp only [Follows, idle] at follows
      exact keeps.begins call follows
  | @performed client _ _ _ _ _ _ there active served all activity =>
      subst all
      rw [activity]
      have follows := ih conn client there
      simp only [Follows, active] at follows
      exact keeps.performs follows (bounded prior given served)
  | @finished client _ _ there ended idle same =>
      rw [idle, same]
      have follows := ih conn client there
      simp only [Follows, ended] at follows
      exact keeps.ends follows

end Clients

/-- What every program asks for when it starts, what is left of it asks for in every world. -/
theorem only_of_runs {allowed : ApiCall → Operation → Prop}
    (starts : ∀ manager (call : ApiCall), (call.program manager).Only (allowed call))
    {trace : List WorldEvent} {state : World} (run : world.Runs trace state) :
    ∀ conn client, state.clients.lookup conn = some client → ∀ call program,
      client.activity = some (call, program) → program.Only (allowed call) := by
  refine @EventSystem.Runs.invariant _ _ _ world (fun _ state => ∀ conn client,
    state.clients.lookup conn = some client → ∀ call program,
      client.activity = some (call, program) → program.Only (allowed call)) ?_ ?_ _ _ run
  · intro conn client there
    cases there
  intro trace before label after emitted prior ih transition conn found there call program active
  cases (World.step_cases transition).came (open_of_runs prior) there with
  | connected _ _ _ new =>
      rw [new] at active
      cases active
  | stayed there _ activity => exact ih conn _ there call program (activity.symm.trans active)
  | @began client begun _ _ activity =>
      obtain ⟨rfl, rfl⟩ := Prod.mk.inj (Option.some.inj (activity.symm.trans active))
      exact starts client.manager begun
  | @performed _ _ _ _ _ answer _ there busy _ _ activity =>
      obtain ⟨rfl, rfl⟩ := Prod.mk.inj (Option.some.inj (activity.symm.trans active))
      exact (ih conn _ there _ _ busy).2 answer
  | finished _ _ idle =>
      rw [idle] at active
      cases active

end MessagePort.Session
