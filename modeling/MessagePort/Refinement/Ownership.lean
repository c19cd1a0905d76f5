import MessagePort.Refinement.Memory
import MessagePort.Session.Ports

/-!
# Object paths over whole runs

One client with its strings, against a daemon that names ports. Every run is a run of
the client without strings, and nothing is misused on the way. When the client is
disposed of, each port is unregistered once, each object released once and each string
freed once, and nothing is left.
-/

namespace MessagePort.Refinement

open Daemon Client Logical Semantics Session

/-- A client whose manager has its strings, and its service objects. -/
structure MemoryClient where
  manager : Client.Memory.MsgPortManager
  objects : HashTable Handle ServiceObject

/-- What the client returns, or the misuse that ended a function. -/
inductive MemoryEvent where
  | solo (event : SoloEvent)
  | misused (misuse : Misuse)

/-- What the client does next. A registration visits `services` in some order, and has
a string allocated somewhere. -/
inductive MemoryLabel where
  | call (call : ApiCall) (visit : List Pointer) (allocated : Pointer) (reactions : List Reaction)
  | unregister (serviceId : Gint) (reactions : List Reaction)
  | dispatch (path : ObjectPath) (message : OnMessage)

/-- The client as an operation sees it: it looks at the objects only. -/
def MemoryClient.seen (client : MemoryClient) : ClientThread :=
  { ClientThread.new with objects := client.objects }

/-- The client after a function. -/
def MemoryClient.after {Result : Type} (client : MemoryClient) (event : Result → SoloEvent) :
    Except Misuse (Result × Client.Memory.MsgPortManager) → ClientThread →
      MemoryClient × List MemoryEvent
  | .error misuse, thread => (⟨client.manager, thread.objects⟩, [.misused misuse])
  | .ok (result, manager), thread => (⟨manager, thread.objects⟩, [.solo (event result)])

/-- One step of the client. -/
def memoryStep (naming : Naming) (client : MemoryClient) :
    MemoryLabel → Option (MemoryClient × List MemoryEvent)
  | .call call visit allocated reactions =>
      match (client.manager.program visit allocated call).exec
        (react naming) client.seen reactions with
      | none => none
      | some (_, _, out, thread) => some (client.after (.returned call) out thread)
  | .unregister serviceId reactions =>
      match (client.manager.unregisterServcie serviceId).exec
        (react naming) client.seen reactions with
      | none => none
      | some (_, _, out, thread) => some (client.after (.unregistered serviceId) out thread)
  | .dispatch path message =>
      some (client, [.solo (.dispatched path message (client.seen.invocations path message))])

/-- A connected client. -/
def memorySystem (naming : Naming) : EventSystem MemoryClient MemoryLabel MemoryEvent :=
  ⟨⟨.new, ∅⟩, memoryStep naming⟩

/-- The client stands for one without strings. -/
structure StandsFor (memory : MemoryClient) (client : ClientThread) : Prop where
  manager : HeapRepresents memory.manager client.manager
  objects : memory.objects = client.objects

/-- Two clients have the same objects. -/
def SameObjects (client other : ClientThread) : Prop := client.objects = other.objects

/-- An operation is carried out on them in the same way. -/
theorem react_same {naming : Naming} {client other after : ClientThread} {operation : Operation}
    {reaction : Reaction} {answer : operation.Answer} {events : List SoloEvent}
    (alike : SameObjects client other)
    (reacted : react naming client operation reaction = some (answer, events, after)) :
    ∃ next, react naming other operation reaction = some (answer, events, next) ∧
      Reacts naming other operation answer next ∧ SameObjects after next := by
  unfold react at reacted
  rw [naming.admits_congr alike, ClientThread.objectsAfter_congr alike] at reacted
  split at reacted
  case isTrue admitted =>
    simp only [Option.some.injEq, Prod.mk.injEq] at reacted
    obtain ⟨rfl, rfl, rfl⟩ := reacted
    exact ⟨_, if_pos admitted, ⟨admitted, rfl⟩, rfl⟩
  · cases reacted

/-- The other way round. -/
theorem react_same' {naming : Naming} {client other next : ClientThread} {operation : Operation}
    {reaction : Reaction} {answer : operation.Answer} {events : List SoloEvent}
    (alike : SameObjects client other)
    (reacted : react naming other operation reaction = some (answer, events, next)) :
    ∃ after, react naming client operation reaction = some (answer, events, after) ∧
      Reacts naming other operation answer next ∧ SameObjects after next := by
  obtain ⟨after, reacted', _, same⟩ := react_same (Eq.symm alike) reacted
  exact ⟨after, reacted', reacts_of_react reacted, Eq.symm same⟩

/-- What a function evaluates to with strings, the one that it matches does without. -/
theorem StandsFor.exec {naming : Naming} {memory : MemoryClient} {client : ClientThread}
    {Result : Type} (stands : StandsFor memory client)
    {program : Program (Except Misuse (Result × Client.Memory.MsgPortManager))}
    {other : Program (Result × MsgPortManager)}
    (matched : Interaction.Matches (Reacts naming) Finished program other client)
    {reactions : List Reaction}
    {log : List (Interaction.Exchange ClientThread SoloEvent Operation Operation.Answer)}
    {events : List SoloEvent} {out : Except Misuse (Result × Client.Memory.MsgPortManager)}
    {thread : ClientThread}
    (evaluated : program.exec (react naming) memory.seen reactions =
      some (log, events, out, thread)) (event : Result → SoloEvent) :
    ∃ log' result manager after, other.exec (react naming) client reactions =
        some (log', events, (result, manager), after) ∧
      (memory.after event out thread).2 = [.solo (event result)] ∧
      StandsFor (memory.after event out thread).1 { after with manager := manager } := by
  obtain ⟨log', ⟨result, manager⟩, after, evaluated', ⟨left, rfl, represents⟩, together⟩ :=
    matched.exec react_same (show SameObjects memory.seen client from stands.objects) evaluated
  exact ⟨log', result, manager, after, evaluated', rfl, represents, together⟩

/-- And what a function evaluates to without strings, the one that it matches does with them. -/
theorem StandsFor.exec_of {naming : Naming} {memory : MemoryClient} {client : ClientThread}
    {Result : Type} (stands : StandsFor memory client)
    {program : Program (Except Misuse (Result × Client.Memory.MsgPortManager))}
    {other : Program (Result × MsgPortManager)}
    (matched : Interaction.Matches (Reacts naming) Finished program other client)
    {reactions : List Reaction}
    {log : List (Interaction.Exchange ClientThread SoloEvent Operation Operation.Answer)}
    {events : List SoloEvent} {result : Result} {manager : MsgPortManager} {after : ClientThread}
    (evaluated : other.exec (react naming) client reactions =
      some (log, events, (result, manager), after)) (event : Result → SoloEvent) :
    ∃ log' out thread, program.exec
      (react naming) memory.seen reactions = some (log', events, out, thread) ∧
      (memory.after event out thread).2 = [.solo (event result)] ∧
      StandsFor (memory.after event out thread).1 { after with manager := manager } := by
  obtain ⟨log', out, thread, evaluated', ⟨left, rfl, represents⟩, together⟩ :=
    matched.exec_of react_same' (show SameObjects memory.seen client from stands.objects) evaluated
  exact ⟨log', _, thread, evaluated', rfl, represents, together⟩

/-- A step with strings is one without. -/
theorem memoryStep_simulates {naming : Naming} {memory next : MemoryClient} {client : ClientThread}
    {label : MemoryLabel} {emitted : List MemoryEvent} (coherent : Coherent naming client)
    (stands : StandsFor memory client)
    (transition : memoryStep naming memory label = some (next, emitted)) :
    ∃ label' event after, naming.step client label' = some (after, [event]) ∧
      emitted = [.solo event] ∧ StandsFor next after := by
  cases label with
  | dispatch path message =>
      obtain ⟨rfl, rfl⟩ := Prod.mk.inj (Option.some.inj transition)
      have same : memory.seen.invocations path message = client.invocations path message := by
        unfold ClientThread.invocations ClientThread.listeners MemoryClient.seen
        rw [stands.objects]
      rw [same]
      exact ⟨.dispatch path message, _, client, rfl, rfl, stands⟩
  | call call visit allocated reactions =>
      rw [memoryStep] at transition
      rcases evaluated : (memory.manager.program visit allocated call).exec (react naming)
        memory.seen reactions with _ | ⟨log, events, out, thread⟩ <;> rw [evaluated] at transition
      · cases transition
      · obtain ⟨log', returned, manager, after, evaluated', single, rest⟩ := stands.exec
          (program_matches coherent stands.manager visit allocated call) evaluated (.returned call)
        rw [Option.some.inj transition] at single rest
        exact ⟨.call call reactions, _, _, by simp only [Naming.step, evaluated'], single, rest⟩
  | unregister serviceId reactions =>
      rw [memoryStep] at transition
      rcases evaluated : (memory.manager.unregisterServcie serviceId).exec (react naming)
        memory.seen reactions with _ | ⟨log, events, out, thread⟩ <;> rw [evaluated] at transition
      · cases transition
      · obtain ⟨log', status, manager, after, evaluated', single, rest⟩ := stands.exec
          (unregisterServcie_matches stands.manager coherent.linked serviceId client) evaluated
          (.unregistered serviceId)
        rw [Option.some.inj transition] at single rest
        refine ⟨.unregister serviceId reactions, _, _, ?_, single, rest⟩
        simp only [Naming.step, evaluated']

/-- Every run of a client with strings is one of a client without them. -/
theorem stands_of_runs {naming : Naming} {trace : List MemoryEvent} {memory : MemoryClient}
    (run : (memorySystem naming).Runs trace memory) :
    ∃ events client, (solo naming).Runs events client ∧ trace = events.map .solo ∧
      StandsFor memory client := by
  refine @EventSystem.Runs.invariant _ _ _ (memorySystem naming) (fun trace memory =>
    ∃ events client, (solo naming).Runs events client ∧ trace = events.map .solo ∧
      StandsFor memory client)
    ⟨[], .new, .refl, rfl, .new, rfl⟩ ?_ _ _ run
  rintro _ before label next emitted _ ⟨events, client, earlier, rfl, stands⟩ transition
  obtain ⟨label', event, after, transition', rfl, rest⟩ :=
    memoryStep_simulates (coherent_of_runs earlier) stands transition
  exact ⟨events ++ [event], after, earlier.snoc transition', by simp, rest⟩

/-- A step without strings is one with them, whatever `services` visits first and wherever
a string is allocated. -/
theorem memoryStep_covers {naming : Naming} {memory : MemoryClient} {client after : ClientThread}
    {label : SoloLabel} {emitted : List SoloEvent} (coherent : Coherent naming client)
    (stands : StandsFor memory client)
    (transition : naming.step client label = some (after, emitted)) (visit : List Pointer)
    (allocated : Pointer) :
    ∃ label' next, memoryStep naming memory label' = some (next, emitted.map .solo) ∧
      StandsFor next after := by
  cases label with
  | dispatch path message =>
      obtain ⟨rfl, rfl⟩ := Prod.mk.inj (Option.some.inj transition)
      have same : memory.seen.invocations path message = client.invocations path message := by
        unfold ClientThread.invocations ClientThread.listeners MemoryClient.seen
        rw [stands.objects]
      refine ⟨.dispatch path message, memory, ?_, stands⟩
      rw [memoryStep, same]
      rfl
  | call call reactions =>
      obtain ⟨log, events, returned, manager, thread, evaluated, rfl, rfl⟩ :=
        Naming.step_call transition
      obtain ⟨log', out, left, evaluated', single, rest⟩ := stands.exec_of
        (program_matches coherent stands.manager visit allocated call) evaluated (.returned call)
      refine ⟨.call call visit allocated reactions, _, ?_, rest⟩
      rw [memoryStep, evaluated']
      exact congrArg some (Prod.ext rfl single)
  | unregister serviceId reactions =>
      obtain ⟨log, events, status, manager, thread, evaluated, rfl, rfl⟩ :=
        Naming.step_unregister transition
      obtain ⟨log', out, left, evaluated', single, rest⟩ := stands.exec_of
        (unregisterServcie_matches stands.manager coherent.linked serviceId client) evaluated
        (.unregistered serviceId)
      refine ⟨.unregister serviceId reactions, _, ?_, rest⟩
      rw [memoryStep, evaluated']
      exact congrArg some (Prod.ext rfl single)

/-- Every run of a client without strings is one of a client with them. -/
theorem covered_of_runs {naming : Naming} {trace : List SoloEvent} {client : ClientThread}
    (run : (solo naming).Runs trace client) :
    ∃ memory, (memorySystem naming).Runs (trace.map .solo) memory ∧ StandsFor memory client := by
  refine @EventSystem.Runs.invariant _ _ _ (solo naming) (fun trace client =>
    ∃ memory, (memorySystem naming).Runs (trace.map .solo) memory ∧ StandsFor memory client)
    ⟨_, .refl, .new, rfl⟩ ?_ _ _ run
  rintro trace before label after emitted prior ⟨memory, earlier, stands⟩ transition
  obtain ⟨label', next, transition', rest⟩ :=
    memoryStep_covers (coherent_of_runs prior) stands transition [] 0
  refine ⟨next, ?_, rest⟩
  rw [List.map_append]
  exact earlier.snoc transition'

/-- A stored key is a string that is there, and no string is lost. -/
theorem HeapRepresents.strings_iff {memory : Client.Memory.MsgPortManager}
    {manager : MsgPortManager} (represents : HeapRepresents memory manager) (objectPath : Pointer) :
    objectPath ∈ memory.strings ↔ objectPath ∈ memory.services := by
  constructor
  · exact represents.owned
  · intro member
    obtain ⟨text, there⟩ := represents.services.live member
    exact HashTable.lookup_isSome_iff.mpr ⟨text, there⟩

/-- In every run no string is read or freed after it was freed, every one is freed or still
a key of `services`, `local_services` has addresses of such keys only, and the client does
what one does that keeps the paths as texts. -/
theorem strings_refine {naming : Naming} {trace : List MemoryEvent} {memory : MemoryClient}
    (run : (memorySystem naming).Runs trace memory) :
    (∀ misuse, .misused misuse ∉ trace) ∧
    (∀ objectPath, objectPath ∈ memory.manager.strings ↔ objectPath ∈ memory.manager.services) ∧
    (∀ id objectPath, memory.manager.localServices.lookup id = some objectPath →
      objectPath ∈ memory.manager.strings) ∧
    ∃ events client, (solo naming).Runs events client ∧ trace = events.map .solo ∧
      StandsFor memory client := by
  obtain ⟨events, client, earlier, rfl, stands⟩ := stands_of_runs run
  have owned := stands.manager.strings_iff
  refine ⟨fun misuse member => ?_, owned, fun id objectPath found => ?_, events, client,
    earlier, rfl, stands⟩
  · obtain ⟨event, _, same⟩ := List.mem_map.mp member
    cases same
  · exact (owned objectPath).mpr (stands.manager.borrowed found)

/-- A port is registered, registered again, asked for and unregistered. -/
def registeredAndUnregistered : List MemoryLabel :=
  [.call (.registerLocalPort (some "port") false (some 7) []) [] 5
    [accepting, accepting, accepting],
    .call (.registerLocalPort (some "port") false (some 8) []) [5] 5 [accepting],
    .call (.getLocalPortName 1 true) [] 0 [], .unregister 1 [accepting, accepting]]

/-- Its string is gone at the end. -/
theorem strings_refine_unregistered : ∃ trace memory, (memorySystem onePort).Runs trace memory ∧
    trace.length = 4 ∧ memory.manager.strings.keys = [] ∧ (∀ misuse, .misused misuse ∉ trace) := by
  obtain ⟨trace, memory, run, accepted⟩ := @EventSystem.Runs.of_exec _ _ _ (memorySystem onePort)
    registeredAndUnregistered
    (fun memory trace => trace.length = 4 ∧ memory.manager.strings.keys = []) (by decide)
  obtain ⟨four, gone⟩ := of_decide_eq_true accepted
  exact ⟨trace, memory, run, four, gone, (strings_refine run).1⟩

/-! ## Disposal -/

/-- The operations of a program, in order. -/
def operations
    (log : List (Interaction.Exchange ClientThread SoloEvent Operation Operation.Answer)) :
    List Operation :=
  log.map (·.operation)

section Disposal

variable {naming : Naming} {memory : Client.Memory.MsgPortManager} {manager : MsgPortManager}
  {thread after : ClientThread} {reactions : List Reaction} {events : List SoloEvent}
  {log : List (Interaction.Exchange ClientThread SoloEvent Operation Operation.Answer)}

/-- The operation that a program performs is asked for, and then the rest. -/
theorem operations_perform {Result : Type} {operation : Operation}
    {resume : operation.Answer → Program Result} {result : Result}
    (evaluated : (Interaction.perform operation resume).exec (react naming) thread reactions =
      some (log, events, result, after)) :
    ∃ answer rest log' events', (resume answer).exec (react naming)
        { thread with objects := thread.objectsAfter operation answer }
        rest = some (log', events', result, after) ∧
      operations log = operation :: operations log' := by
  obtain ⟨reaction, rest, answer, emitted, middle, log', events', _, served, remaining, rfl, _⟩ :=
    Interaction.exec_perform_inv evaluated
  obtain ⟨_, rfl⟩ := reacts_of_react served
  exact ⟨answer, rest, log', events', remaining, rfl⟩

/-- A service is unregistered, whether or not the daemon agrees. -/
theorem unregisterServiceCb_exec (represents : HeapRepresents memory manager)
    (linked : manager.Linked) {objectPath : Pointer} {path : ObjectPath} {service : MsgPortService}
    (there : memory.strings.lookup objectPath = some path)
    (found : manager.services.lookup path = some service) {out : Except Misuse Unit}
    (evaluated : (memory.unregisterServiceCb objectPath).exec (react naming) thread reactions =
      some (log, events, out, after)) :
    out = .ok () ∧ after = thread ∧ operations log = [.call (.serviceUnregister path)] := by
  rcases represents.services.lookup_ok there with ⟨missing, _⟩ | ⟨stored, held, found', _, _, hit⟩
  · rw [missing] at found
    cases found
  obtain rfl := Option.some.inj (found'.symm.trans found)
  unfold Client.Memory.MsgPortManager.unregisterServiceCb at evaluated
  rw [hit, Client.Memory.ensuring_ok] at evaluated
  obtain ⟨answer, rest, log', events', remaining, asked⟩ := operations_perform evaluated
  rw [linked.placed found] at asked
  cases answer with
  | error error =>
      obtain ⟨rfl, _, rfl, rfl⟩ := Interaction.exec_done_inv remaining
      exact ⟨rfl, rfl, asked⟩
  | ok _ =>
      obtain ⟨rfl, _, rfl, rfl⟩ := Interaction.exec_done_inv remaining
      exact ⟨rfl, rfl, asked⟩

/-- Each service with an id in the list is unregistered. -/
theorem unregisterAll_exec (represents : HeapRepresents memory manager) (linked : manager.Linked)
    {ids : List Gpointer} {out : Except Misuse Unit}
    (evaluated : (memory.unregisterAll ids).exec (react naming) thread reactions =
      some (log, events, out, after)) :
    out = .ok () ∧ after = thread ∧
      operations log =
        (ids.filterMap manager.localServices.lookup).map fun path =>
          .call (.serviceUnregister path) := by
  induction ids generalizing thread reactions log events out with
  | nil =>
      obtain ⟨rfl, _, rfl, rfl⟩ := Interaction.exec_done_inv evaluated
      exact ⟨rfl, rfl, rfl⟩
  | cons id next ih =>
      unfold Client.Memory.MsgPortManager.unregisterAll at evaluated
      rw [List.filterMap_cons, represents.locals]
      cases found : memory.localServices.lookup id with
      | none =>
          simp only [found] at evaluated
          exact ih evaluated
      | some objectPath =>
          obtain ⟨path, service, there, _, _, holding⟩ := represents.leads found
          simp only [found] at evaluated
          obtain ⟨early, late, first, middle, log', log'', events', events'', begun, ended,
            rfl, rfl, rfl⟩ := Interaction.exec_bind_inv evaluated
          obtain ⟨rfl, rfl, asked⟩ := unregisterServiceCb_exec represents linked there holding begun
          rw [Client.Memory.ensuring_ok] at ended
          obtain ⟨rfl, rfl, others⟩ := ih ended
          refine ⟨rfl, rfl, ?_⟩
          rw [Option.bind_some, there, List.map_cons, ← others, operations, List.map_append]
          exact congrArg (· ++ operations log'') asked

/-- The objects of the services under these keys. -/
def handlesOf (services : HashTable Pointer MsgPortService) (keys : List Pointer) : List Handle :=
  keys.filterMap fun key => (services.lookup key).map (·.handle)

/-- Each key is freed and each service released. -/
theorem unrefServices_exec {strings : Strings} {services : HashTable Pointer MsgPortService}
    {keys : List Pointer} (once : keys.Nodup) (there : ∀ key ∈ keys, key ∈ services)
    (live : ∀ key ∈ keys, key ∈ strings)
    {out : Except Misuse (Strings × HashTable Pointer MsgPortService)}
    (evaluated : (Client.Memory.MsgPortManager.unrefServices strings services keys).exec
      (react naming) thread reactions = some (log, events, out, after)) :
    ∃ left rest, out = .ok (left, rest) ∧
      (∀ pointer, pointer ∈ left ↔ pointer ∈ strings ∧ pointer ∉ keys) ∧
      (∀ pointer, pointer ∈ rest ↔ pointer ∈ services ∧ pointer ∉ keys) ∧
      operations log = (handlesOf services keys).map .serviceUnref ∧
      ∀ handle, handle ∈ after.objects ↔
        handle ∈ thread.objects ∧ handle ∉ handlesOf services keys := by
  induction keys generalizing strings services thread reactions log events out with
  | nil =>
      obtain ⟨rfl, _, rfl, rfl⟩ := Interaction.exec_done_inv evaluated
      exact ⟨strings, services, rfl, by simp, by simp, rfl, by simp [handlesOf]⟩
  | cons key next ih =>
      obtain ⟨apart, rest⟩ := List.nodup_cons.mp once
      obtain ⟨service, found⟩ := HashTable.lookup_isSome_iff.mp (there key List.mem_cons_self)
      have later {other : Pointer} (member : other ∈ next) : other ≠ key :=
        fun same => apart (same ▸ member)
      have others : handlesOf (services.erase key) next = handlesOf services next :=
        List.filterMap_congr fun other member => by rw [AList.lookup_erase_ne (later member)]
      have handles : handlesOf services (key :: next) =
          service.handle :: handlesOf services next := by
        rw [handlesOf, List.filterMap_cons, found]
        rfl
      unfold Client.Memory.MsgPortManager.unrefServices at evaluated
      simp only [found, Strings.free_ok (live key List.mem_cons_self),
        Client.Memory.ensuring_ok] at evaluated
      obtain ⟨_, _, log', events', remaining, asked⟩ := operations_perform evaluated
      obtain ⟨left, kept, rfl, freed, emptied, asked', released⟩ := ih rest
        (fun other member => AList.mem_erase.mpr
          ⟨later member, there other (List.mem_cons_of_mem _ member)⟩)
        (fun other member => AList.mem_erase.mpr
          ⟨later member, live other (List.mem_cons_of_mem _ member)⟩) remaining
      rw [others] at asked' released
      refine ⟨left, kept, rfl, fun pointer => ?_, fun pointer => ?_, ?_, fun handle => ?_⟩
      · rw [freed, AList.mem_erase, List.mem_cons]
        tauto
      · rw [emptied, AList.mem_erase, List.mem_cons]
        tauto
      · rw [asked, asked', handles, List.map_cons]
      · have erased : handle ∈ thread.objects.erase service.handle ↔
            handle ≠ service.handle ∧ handle ∈ thread.objects := AList.mem_erase
        rw [released, handles, List.mem_cons]
        show handle ∈ thread.objects.erase service.handle ∧ _ ↔ _
        rw [erased]
        tauto

/-- What a disposal asks for. -/
inductive Disposes : Operation → Prop where
  | unregister {path : ObjectPath} : Disposes (.call (.serviceUnregister path))
  | unref {handle : Handle} : Disposes (.serviceUnref handle)

theorem ensuring_only {allowed : Operation → Prop} {First Result : Type}
    {outcome : Except Misuse First} {next : First → Program (Except Misuse Result)}
    (second : ∀ first, (next first).Only allowed) :
    (Client.Memory.ensuring outcome next).Only allowed := by
  cases outcome with
  | error misuse => trivial
  | ok first => exact second first

theorem unregisterServiceCb_only (objectPath : Pointer) :
    (memory.unregisterServiceCb objectPath).Only Disposes := by
  refine ensuring_only fun found => ?_
  cases found with
  | none => trivial
  | some entry =>
      refine ⟨.unregister, fun answer => ?_⟩
      cases answer <;> trivial

theorem unregisterAll_only (ids : List Gpointer) : (memory.unregisterAll ids).Only Disposes := by
  induction ids with
  | nil => trivial
  | cons id next ih =>
      unfold Client.Memory.MsgPortManager.unregisterAll
      cases memory.localServices.lookup id with
      | none => exact ih
      | some objectPath =>
          exact (unregisterServiceCb_only objectPath).bind fun out => ensuring_only fun _ => ih

theorem unrefServices_only (strings : Strings) (services : HashTable Pointer MsgPortService)
    (keys : List Pointer) :
    (Client.Memory.MsgPortManager.unrefServices strings services keys).Only Disposes := by
  induction keys generalizing strings services with
  | nil => trivial
  | cons key next ih =>
      unfold Client.Memory.MsgPortManager.unrefServices
      cases services.lookup key with
      | none => exact ih strings services
      | some service => exact ensuring_only fun left => ⟨.unref, fun _ => ih left _⟩

/-- Whatever is answered, and however the tables are ordered, a disposal comes to its end. -/
theorem dispose_completes (visit : List Gpointer) (release : List Pointer)
    (reactions : Nat → Reaction) :
    ∃ count log events out after, (memory.dispose visit release).exec (react naming) thread
      ((List.range count).map reactions) = some (log, events, out, after) := by
  have only : (memory.dispose visit release).Only Disposes :=
    (unregisterAll_only _).bind fun _ => ensuring_only fun _ =>
      (unrefServices_only _ _ _).bind fun _ => ensuring_only fun _ => trivial
  refine Interaction.exec_completes ?_ only thread reactions
  rintro state operation reaction disposes
  refine ⟨reaction operation, [], _, if_pos ?_⟩
  cases disposes <;> rfl

end Disposal

/-- Two addresses do not lead to one object. -/
theorem StandsFor.handle_inj {naming : Naming} {memory : MemoryClient} {client : ClientThread}
    (stands : StandsFor memory client) (coherent : Coherent naming client) {first second : Pointer}
    {handle : Handle} (one : (memory.manager.services.lookup first).map (·.handle) = some handle)
    (two : (memory.manager.services.lookup second).map (·.handle) = some handle) :
    first = second := by
  obtain ⟨service, found, rfl⟩ := Option.map_eq_some_iff.mp one
  obtain ⟨held, found', same⟩ := Option.map_eq_some_iff.mp two
  have holds := stands.manager.services
  obtain ⟨path, there, holding⟩ := holds.entry found
  obtain ⟨other, there', holding'⟩ := holds.entry found'
  obtain rfl := coherent.path_of_handle holding holding' same
  exact holds.alone (HashTable.lookup_isSome_iff.mpr ⟨_, found⟩)
    (HashTable.lookup_isSome_iff.mpr ⟨_, found'⟩) there there'

/-- The objects of a client are those of its services. -/
theorem StandsFor.mem_handles {naming : Naming} {memory : MemoryClient} {client : ClientThread}
    (stands : StandsFor memory client) (coherent : Coherent naming client) {keys : List Pointer}
    (all : ∀ key, key ∈ memory.manager.services → key ∈ keys) (handle : Handle) :
    handle ∈ handlesOf memory.manager.services keys ↔ handle ∈ memory.objects := by
  rw [handlesOf, List.mem_filterMap, stands.objects]
  have holds := stands.manager.services
  constructor
  · rintro ⟨key, _, owned⟩
    obtain ⟨service, found, rfl⟩ := Option.map_eq_some_iff.mp owned
    obtain ⟨path, _, holding⟩ := holds.entry found
    obtain ⟨cb, object⟩ := coherent.heard holding
    exact HashTable.lookup_isSome_iff.mpr ⟨_, object⟩
  · intro member
    obtain ⟨object, there⟩ := HashTable.lookup_isSome_iff.mp member
    obtain ⟨service, holding, rfl⟩ := coherent.alive there
    obtain ⟨key, _, found⟩ := holds.covered holding
    exact ⟨key, all key (HashTable.lookup_isSome_iff.mpr ⟨_, found⟩), by rw [found]; rfl⟩

/-- The paths that the local ids lead to are those of the services, each once. -/
theorem StandsFor.paths {naming : Naming} {memory : MemoryClient} {client : ClientThread}
    (stands : StandsFor memory client) (coherent : Coherent naming client) {ids : List Gpointer}
    (once : ids.Nodup) (all : ∀ id, id ∈ memory.manager.localServices → id ∈ ids) :
    (ids.filterMap client.manager.localServices.lookup).Nodup ∧
      ∀ path, path ∈ ids.filterMap client.manager.localServices.lookup ↔ ∃ objectPath service,
        memory.manager.services.lookup objectPath = some service ∧ service.path = path := by
  have linked := coherent.linked
  have holds := stands.manager.services
  constructor
  · refine once.filterMap fun first second path one two => ?_
    obtain ⟨service, found, _⟩ := linked.leads one
    exact (linked.unique found).unique one two
  · intro path
    rw [List.mem_filterMap]
    constructor
    · rintro ⟨id, _, found⟩
      obtain ⟨service, holding, _⟩ := linked.leads found
      obtain ⟨objectPath, _, stored⟩ := holds.covered holding
      exact ⟨objectPath, service, stored, linked.placed holding⟩
    · rintro ⟨objectPath, service, stored, rfl⟩
      obtain ⟨path, _, holding⟩ := holds.entry stored
      rw [linked.placed holding]
      have listed := linked.listed holding
      refine ⟨_, all _ ?_, listed⟩
      rw [stands.manager.locals, Option.bind_eq_some_iff] at listed
      obtain ⟨borrowed, found, _⟩ := listed
      exact HashTable.lookup_isSome_iff.mpr ⟨borrowed, found⟩

/-- A disposal unregisters each port once, releases each service object once and frees each
string once, and nothing is left. -/
theorem dispose_releases {naming : Naming} {trace : List MemoryEvent} {memory : MemoryClient}
    {visit : List Gpointer} {release : List Pointer} {reactions : List Reaction}
    {log : List (Interaction.Exchange ClientThread SoloEvent Operation Operation.Answer)}
    {events : List SoloEvent} {out : Except Misuse Client.Memory.MsgPortManager}
    {after : ClientThread} (run : (memorySystem naming).Runs trace memory)
    (evaluated : (memory.manager.dispose visit release).exec (react naming) memory.seen reactions =
      some (log, events, out, after)) :
    out = .ok ⟨false, ∅, ∅, ∅⟩ ∧ after.objects = ∅ ∧
    ∃ (paths : List ObjectPath) (handles : List Handle), operations log =
        paths.map (fun path => .call (.serviceUnregister path)) ++ handles.map .serviceUnref ∧
      paths.Nodup ∧
      (∀ path, path ∈ paths ↔ ∃ objectPath service,
        memory.manager.services.lookup objectPath = some service ∧ service.path = path) ∧
      handles.Nodup ∧ ∀ handle, handle ∈ handles ↔ handle ∈ memory.objects := by
  obtain ⟨_, client, earlier, rfl, stands⟩ := stands_of_runs run
  have coherent := coherent_of_runs earlier
  have represents := stands.manager
  unfold Client.Memory.MsgPortManager.dispose at evaluated
  obtain ⟨_, _, _, _, log', _, _, _, begun, ended, _, rfl, _⟩ := Interaction.exec_bind_inv evaluated
  obtain ⟨rfl, rfl, asked⟩ := unregisterAll_exec represents coherent.linked begun
  rw [Client.Memory.ensuring_ok] at ended
  obtain ⟨_, _, _, _, log'', _, _, _, begun', ended', _, rfl, _⟩ := Interaction.exec_bind_inv ended
  -- The keys that are freed are all the keys there are, and all the strings.
  have order := memory.manager.services.visitOrder_perm release
  have every (key : Pointer) : key ∈ memory.manager.services.visitOrder release ↔
    key ∈ memory.manager.services :=
    HashTable.mem_visitOrder
  obtain ⟨left, rest, rfl, freed, emptied, asked', released⟩ := unrefServices_exec
    (order.nodup_iff.mpr memory.manager.services.keys_nodup)
    (fun key member => (every key).mp member)
    (fun key member => (represents.strings_iff key).mpr ((every key).mp member)) begun'
  have handles := stands.mem_handles coherent fun key member => (every key).mpr member
  rw [Client.Memory.ensuring_ok] at ended'
  obtain ⟨rfl, _, rfl, rfl⟩ := Interaction.exec_done_inv ended'
  have strings : left = ∅ := HashTable.eq_empty_of_mem fun key member => by
    obtain ⟨there, kept⟩ := (freed key).mp member
    exact kept ((every key).mpr (represents.owned there))
  have services : rest = ∅ := HashTable.eq_empty_of_mem fun key member => by
    obtain ⟨there, kept⟩ := (emptied key).mp member
    exact kept ((every key).mpr there)
  have objects : after.objects = ∅ := HashTable.eq_empty_of_mem fun handle member => by
    obtain ⟨there, kept⟩ := (released handle).mp member
    exact kept ((handles handle).mpr there)
  obtain ⟨once, ports⟩ := stands.paths coherent
    ((memory.manager.localServices.visitOrder_perm visit).nodup_iff.mpr
      memory.manager.localServices.keys_nodup) fun id member => HashTable.mem_visitOrder.mpr member
  subst strings services
  refine ⟨rfl, objects, _, _, ?_, once, ports, ?_, handles⟩
  · rw [List.append_nil, operations, List.map_append]
    exact congrArg₂ (· ++ ·) asked asked'
  · refine (order.nodup_iff.mpr memory.manager.services.keys_nodup).filterMap
      fun first second handle one two => ?_
    exact stands.handle_inj coherent one two

/-- After any run the client can be disposed of, whatever the daemon answers: each port is
unregistered once, each service object released once and each string freed once, in any
order of the tables, and nothing is left. -/
theorem disposed_once {naming : Naming} {trace : List MemoryEvent} {memory : MemoryClient}
    (run : (memorySystem naming).Runs trace memory) (visit : List Gpointer)
    (release : List Pointer) :
    (∀ reactions : Nat → Reaction, ∃ count log events out after,
      (memory.manager.dispose visit release).exec (react naming) memory.seen
        ((List.range count).map reactions) = some (log, events, out, after)) ∧
    ∀ reactions log events out after,
      (memory.manager.dispose visit release).exec (react naming) memory.seen reactions =
        some (log, events, out, after) →
      out = .ok ⟨false, ∅, ∅, ∅⟩ ∧ after.objects = ∅ ∧
      ∃ (paths : List ObjectPath) (handles : List Handle), operations log =
          paths.map (fun path => .call (.serviceUnregister path)) ++ handles.map .serviceUnref ∧
        paths.Nodup ∧
        (∀ path, path ∈ paths ↔ ∃ objectPath service,
          memory.manager.services.lookup objectPath = some service ∧ service.path = path) ∧
        handles.Nodup ∧ ∀ handle, handle ∈ handles ↔ handle ∈ memory.objects :=
  ⟨dispose_completes visit release, fun _ _ _ _ _ => dispose_releases run⟩

/-- A daemon that knows two ports. -/
def twoPorts : Naming where
  ofPath path :=
    if path = "/1" then some ("port", false) else if path = "/2" then some ("other", true) else none
  ofId id := if id = 1 then some ("port", false) else if id = 2 then some ("other", true) else none
  small {id port} given := by
    by_cases first : id = 1
    · subst first
      decide
    · by_cases second : id = 2
      · subst second
        decide
      · rw [if_neg first, if_neg second] at given
        cases given

/-- It gives the second port out. -/
def acceptingOther : Reaction
  | .call (.registerService _ _) => .ok "/2"
  | .serviceProxyNew path => .ok ⟨1, path, 2, some "other", true⟩
  | operation => accepting operation

/-- Both ports are registered. -/
def registeredBoth : List MemoryLabel :=
  [.call (.registerLocalPort (some "port") false (some 7) []) [] 5
    [accepting, accepting, accepting],
    .call (.registerLocalPort (some "other") true (some 8) []) [5] 6
      [acceptingOther, acceptingOther, acceptingOther]]

/-- The client is disposed of with its two ports. -/
theorem disposed_once_registered : ∃ trace memory, (memorySystem twoPorts).Runs trace memory ∧
    memory.objects.keys.length = 2 ∧ ∃ count log events out after,
      (memory.manager.dispose [] []).exec (react twoPorts) memory.seen
        ((List.range count).map fun _ => accepting) = some (log, events, out, after) ∧
      out = .ok ⟨false, ∅, ∅, ∅⟩ ∧ after.objects = ∅ := by
  obtain ⟨trace, memory, run, accepted⟩ := @EventSystem.Runs.of_exec _ _ _ (memorySystem twoPorts)
    registeredBoth (fun memory _ => memory.objects.keys.length = 2) (by decide)
  obtain ⟨completes, releases⟩ := disposed_once run [] []
  obtain ⟨count, log, events, out, after, evaluated⟩ := completes fun _ => accepting
  obtain ⟨emptied, released, _⟩ := releases _ _ _ _ _ evaluated
  exact ⟨trace, memory, run, of_decide_eq_true accepted, count, log, events, out, after,
    evaluated, emptied, released⟩

end MessagePort.Refinement
