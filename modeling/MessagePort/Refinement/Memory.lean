import MessagePort.Client.Memory
import MessagePort.Semantics.Matching
import MessagePort.Session.Solo

/-!
# Who owns an object path

A client whose object paths are strings on the heap does what the client does that
keeps them as texts. Its strings are just the keys of `services`, which
`local_services` borrows, so that nothing is used after it was freed, freed twice or
lost.
-/

namespace MessagePort.Refinement

open Daemon Client Logical Semantics Session
open Client.Memory (ensuring ensuring_ok)

/-- Tables with strings stand for tables of texts. -/
structure HeapRepresents (memory : Client.Memory.MsgPortManager) (manager : MsgPortManager) :
    Prop where
  proxy : memory.proxy = manager.proxy
  services : OwnedTable.Holds memory.strings memory.services manager.services
  locals : ∀ id, manager.localServices.lookup id =
    (memory.localServices.lookup id).bind memory.strings.lookup
  /-- An address in `local_services` is a key of `services`. -/
  borrowed : ∀ {id objectPath}, memory.localServices.lookup id = some objectPath →
    objectPath ∈ memory.services
  /-- No string is lost. -/
  owned : ∀ {objectPath}, objectPath ∈ memory.strings → objectPath ∈ memory.services

namespace HeapRepresents

variable {memory : Client.Memory.MsgPortManager} {manager : MsgPortManager}

theorem new : HeapRepresents .new .new where
  proxy := rfl
  services := .empty
  locals _ := rfl
  borrowed found := by cases found
  owned there := by simp [Client.Memory.MsgPortManager.new] at there

/-- An id leads to a key of `services`, and to its text. -/
theorem leads (represents : HeapRepresents memory manager) {id : Gpointer} {objectPath : Pointer}
    (found : memory.localServices.lookup id = some objectPath) :
    ∃ path service, memory.strings.lookup objectPath = some path ∧
      memory.services.lookup objectPath = some service ∧
      manager.localServices.lookup id = some path ∧
      manager.services.lookup path = some service := by
  obtain ⟨service, stored⟩ := HashTable.lookup_isSome_iff.mp (represents.borrowed found)
  obtain ⟨path, there, holding⟩ := represents.services.entry stored
  exact ⟨path, service, there, stored, by rw [represents.locals, found, Option.bind_some, there],
    holding⟩

/-- The two lookups find the same service, and forget no id. -/
theorem getLocalPort (represents : HeapRepresents memory manager) (serviceId : Gint) :
    ∃ found, memory.getLocalPort serviceId = .ok (found, memory) ∧
      manager.getLocalPort serviceId = (found, manager) ∧
      ∀ service, found = some service → ∃ objectPath path,
        memory.localServices.lookup (gintToPointer serviceId) = some objectPath ∧
        memory.strings.lookup objectPath = some path ∧
        manager.localServices.lookup (gintToPointer serviceId) = some path ∧
        manager.services.lookup path = some service := by
  unfold Client.Memory.MsgPortManager.getLocalPort MsgPortManager.getLocalPort
  cases found : memory.localServices.lookup (gintToPointer serviceId) with
  | none =>
      refine ⟨none, rfl, ?_, fun service same => by cases same⟩
      rw [represents.locals, found, Option.bind_none]
  | some objectPath =>
      obtain ⟨path, service, there, _, named, holding⟩ := represents.leads found
      rcases represents.services.lookup_ok there with ⟨missing, _⟩ | ⟨_, held, found', _, _, hit⟩
      · rw [missing] at holding
        cases holding
      · obtain rfl := Option.some.inj (found'.symm.trans holding)
        refine ⟨some held, by simp only [hit], by simp only [named, holding],
          fun service same => ?_⟩
        obtain rfl := Option.some.inj same
        exact ⟨objectPath, path, rfl, there, named, holding⟩

/-- A string of its own is there for a path. -/
theorem placed (represents : HeapRepresents memory manager) {objectPath : Pointer}
    {path : ObjectPath} (fresh : objectPath ∉ memory.strings) :
    OwnedTable.Holds (memory.strings.insert objectPath path) memory.services manager.services ∧
      ∀ id, (memory.localServices.lookup id).bind (memory.strings.insert objectPath path).lookup =
        manager.localServices.lookup id := by
  constructor
  · refine represents.services.mono fun {key text} there => ?_
    refine HashTable.lookup_insert_some.mpr (.inr ⟨?_, there⟩)
    rintro rfl
    exact fresh (HashTable.lookup_isSome_iff.mpr ⟨_, there⟩)
  · intro id
    rw [represents.locals]
    cases found : memory.localServices.lookup id with
    | none => rfl
    | some other =>
        obtain ⟨text, _, there, _⟩ := represents.leads found
        refine AList.lookup_insert_ne ?_
        rintro rfl
        exact fresh (HashTable.lookup_isSome_iff.mpr ⟨_, there⟩)

/-- It is freed again if there is no service for it. -/
theorem freed (represents : HeapRepresents memory manager) {objectPath : Pointer}
    {path : ObjectPath} (fresh : objectPath ∉ memory.strings) :
    HeapRepresents { memory with
      strings := AList.erase objectPath (memory.strings.insert objectPath path) } manager := by
  have same (pointer : Pointer) :
      (AList.erase objectPath (memory.strings.insert objectPath path)).lookup pointer =
      memory.strings.lookup pointer := by
    by_cases own : pointer = objectPath
    · rw [own, AList.lookup_erase, AList.lookup_eq_none.mpr fresh]
    · rw [AList.lookup_erase_ne own, AList.lookup_insert_ne own]
  constructor
  · exact represents.proxy
  · exact represents.services.mono fun there => (same _).trans there
  · intro id
    rw [represents.locals, funext same]
  · exact represents.borrowed
  · intro pointer there
    obtain ⟨text, found⟩ := HashTable.lookup_isSome_iff.mp there
    exact represents.owned (HashTable.lookup_isSome_iff.mpr ⟨text, (same pointer).symm.trans found⟩)

/-- A service is cached under a path that was not there: the string becomes a key. -/
theorem cache (represents : HeapRepresents memory manager) {objectPath : Pointer}
    {path : ObjectPath}
    (fresh : objectPath ∉ memory.strings) (missing : manager.services.lookup path = none)
    (service : MsgPortService) :
    HeapRepresents { memory with
      strings := memory.strings.insert objectPath path
      services := memory.services.insert objectPath service
      localServices := memory.localServices.insert (gintToPointer service.id) objectPath }
      { manager with
        services := manager.services.insert path service
        localServices := manager.localServices.insert (gintToPointer service.id) path } := by
  obtain ⟨holds, locals⟩ := represents.placed fresh
  constructor
  · exact represents.proxy
  · exact (holds.insert_new service (AList.lookup_insert _) missing).2
  · intro id
    by_cases own : id = gintToPointer service.id
    · rw [own, AList.lookup_insert, AList.lookup_insert, Option.bind_some, AList.lookup_insert]
    · rw [AList.lookup_insert_ne own, AList.lookup_insert_ne own, locals]
  · intro id pointer found
    rcases HashTable.lookup_insert_some.mp found with ⟨_, rfl⟩ | ⟨_, found⟩
    · exact (AList.mem_insert _).mpr (.inl rfl)
    · exact (AList.mem_insert _).mpr (.inr (represents.borrowed found))
  · intro pointer there
    rcases (AList.mem_insert _).mp there with rfl | there
    · exact (AList.mem_insert _).mpr (.inl rfl)
    · exact (AList.mem_insert _).mpr (.inr (represents.owned there))

/-- A service is removed with the id that borrows its key. -/
theorem remove (represents : HeapRepresents memory manager)
    (linked : manager.Linked) {id : Gpointer}
    {objectPath : Pointer} {path : ObjectPath}
    (found : memory.localServices.lookup id = some objectPath)
    (there : memory.strings.lookup objectPath = some path) :
    ∃ removed, OwnedTable.remove memory.strings memory.services objectPath =
        .ok (memory.strings.erase objectPath, memory.services.erase objectPath, some removed) ∧
      manager.services.lookup path = some removed ∧
      HeapRepresents { memory with
        strings := memory.strings.erase objectPath
        services := memory.services.erase objectPath
        localServices := memory.localServices.erase id }
        { manager with
          localServices := manager.localServices.erase id
          services := manager.services.erase path } := by
  obtain ⟨text, service, there', _, named, holding⟩ := represents.leads found
  obtain rfl := Option.some.inj (there'.symm.trans there)
  obtain ⟨stored, member, equal, removed, holds⟩ := represents.services.remove_found there holding
  obtain rfl := represents.services.alone member (represents.borrowed found) equal there
  have apart {other : Gpointer} {pointer : Pointer} (different : other ≠ id)
      (leads : memory.localServices.lookup other = some pointer) : pointer ≠ stored := by
    rintro rfl
    obtain ⟨same, _, present, _, also, _⟩ := represents.leads leads
    obtain rfl := Option.some.inj (present.symm.trans there)
    exact different ((linked.unique holding).unique also named)
  refine ⟨service, removed, holding, ?_⟩
  constructor
  · exact represents.proxy
  · exact holds
  · intro other
    by_cases own : other = id
    · rw [own, AList.lookup_erase, AList.lookup_erase, Option.bind_none]
    · rw [AList.lookup_erase_ne own, AList.lookup_erase_ne own, represents.locals]
      cases leads : memory.localServices.lookup other with
      | none => rfl
      | some pointer =>
          rw [Option.bind_some, Option.bind_some, AList.lookup_erase_ne (apart own leads)]
  · intro other pointer left
    obtain ⟨different, leads⟩ := HashTable.lookup_erase_some.mp left
    exact AList.mem_erase.mpr ⟨apart different leads, represents.borrowed leads⟩
  · intro pointer left
    obtain ⟨different, kept⟩ := AList.mem_erase.mp left
    exact AList.mem_erase.mpr ⟨different, represents.owned kept⟩

end HeapRepresents

/-! ## The functions match -/

section Functions

/-- A registration ends without misuse, and like the other one. -/
def SameRegistration
    (out : Except Misuse (MessageportError × Option Gint × Client.Memory.MsgPortManager))
    (other : MessageportError × Option Gint × MsgPortManager) : Prop :=
  ∃ left, out = .ok (other.1, other.2.1, left) ∧ HeapRepresents left other.2.2

/-- A function ends without misuse, and like the other one. -/
def Finished {Result : Type} (out : Except Misuse (Result × Client.Memory.MsgPortManager))
    (other : Result × MsgPortManager) : Prop :=
  ∃ left, out = .ok (other.1, left) ∧ HeapRepresents left other.2

variable {memory : Client.Memory.MsgPortManager} {manager : MsgPortManager} {View : Type}
  {may : View → (operation : Operation) → operation.Answer → View → Prop}

/-- A service is created for a path that was not there. -/
theorem createAndCacheService_matches (represents : HeapRepresents memory manager)
    {objectPath : Pointer} {path : ObjectPath} (fresh : objectPath ∉ memory.strings)
    (missing : manager.services.lookup path = none) (cb : Callback) (view : View) :
    Interaction.Matches may SameRegistration
      (Client.Memory.MsgPortManager.createAndCacheService
        { memory with strings := memory.strings.insert objectPath path } objectPath cb)
      (manager.createAndCacheService path cb) view := by
  unfold Client.Memory.MsgPortManager.createAndCacheService MsgPortManager.createAndCacheService
  have there : (memory.strings.insert objectPath path).lookup objectPath = some path :=
    AList.lookup_insert _
  rw [Strings.read_ok there, ensuring_ok]
  apply Interaction.Matches.bind (Interaction.Matches.refl _ view)
  rintro created _ view rfl
  cases created with
  | none =>
      have live : objectPath ∈ memory.strings.insert objectPath path :=
        HashTable.lookup_isSome_iff.mpr ⟨_, there⟩
      simp only [Strings.free_ok live, ensuring_ok]
      exact .done ⟨_, rfl, represents.freed fresh⟩
  | some service =>
      have inserted := ((represents.placed fresh).1.insert_new service there missing).1
      simp only [inserted, ensuring_ok, missing]
      exact .done ⟨_, rfl, represents.cache fresh missing service⟩

/-- The service of a port is found in either table, in whatever order. -/
theorem find_eq {naming : Naming} {client : ClientThread} (coherent : Coherent naming client)
    (represents : HeapRepresents memory client.manager) (name : String) (isTrusted : Bool)
    (visit : List Pointer) (visit' : List ObjectPath) :
    (memory.services.find visit (MsgPortManager.findService name isTrusted)).bind
      memory.services.lookup =
      (client.manager.services.find visit' (MsgPortManager.findService name isTrusted)).bind
        client.manager.services.lookup := by
  cases hit : client.manager.services.find visit' (MsgPortManager.findService name isTrusted) with
  | none =>
      have missed : memory.services.find visit
          (MsgPortManager.findService name isTrusted) = none := by
        refine HashTable.find_eq_none.mpr fun objectPath service found => ?_
        obtain ⟨path, _, holding⟩ := represents.services.entry found
        exact HashTable.find_eq_none.mp hit path service holding
      rw [missed]
      rfl
  | some path =>
      obtain ⟨service, found, matched⟩ := HashTable.find_some hit
      cases hit' : memory.services.find visit (MsgPortManager.findService name isTrusted) with
      | none =>
          obtain ⟨objectPath, _, stored⟩ := represents.services.covered found
          have missed := HashTable.find_eq_none.mp hit' objectPath service stored
          rw [matched] at missed
          cases missed
      | some objectPath =>
          obtain ⟨held, stored, matched'⟩ := HashTable.find_some hit'
          obtain ⟨other, _, holding⟩ := represents.services.entry stored
          have same := (findService_iff.mp matched').trans (findService_iff.mp matched).symm
          obtain rfl := coherent.alone found holding same
          rw [Option.bind_some, Option.bind_some, stored, holding]

/-- The path of a port without a service is not there. -/
theorem missing_of_find {naming : Naming} {client : ClientThread}
    (coherent : Coherent naming client) {name : String} {isTrusted : Bool} {visit : List ObjectPath}
    {path : ObjectPath}
    (missed : client.manager.services.find visit (MsgPortManager.findService name isTrusted) = none)
    (given : naming.ofPath path = some (name, isTrusted)) :
    client.manager.services.lookup path = none := by
  rw [Option.eq_none_iff_forall_ne_some]
  intro held found
  obtain ⟨port, matched, given', _⟩ := coherent.given found
  have refused := HashTable.find_eq_none.mp missed path held found
  rw [findService_iff.mpr (matched.trans (given'.symm.trans given))] at refused
  cases refused

/-- A registration that the daemon answers with the path of a new port. -/
theorem registerService_matches {naming : Naming} {client : ClientThread}
    (coherent : Coherent naming client) (represents : HeapRepresents memory client.manager)
    (portName : Option String) (isTrusted : Bool) (cb : Option Callback) (visit : List Pointer)
    (visit' : List ObjectPath) (allocated : Pointer) :
    Interaction.Matches (Reacts naming) SameRegistration
      (memory.registerService portName isTrusted cb visit allocated)
      (client.manager.registerService portName isTrusted cb visit') client := by
  have connected := coherent.connected
  unfold Client.Memory.MsgPortManager.registerService MsgPortManager.registerService
  rw [if_neg (by simp [represents.proxy, connected]), if_neg (by simp [connected])]
  cases portName with
  | none => exact .done ⟨memory, rfl, represents⟩
  | some name =>
      cases cb with
      | none => exact .done ⟨memory, rfl, represents⟩
      | some messageCb =>
          simp only [find_eq coherent represents name isTrusted visit visit']
          cases hit : client.manager.services.find visit'
              (MsgPortManager.findService name isTrusted) with
          | some path =>
              obtain ⟨service, found, _⟩ := HashTable.find_some hit
              simp only [Option.bind_some, found]
              exact .perform fun answer after _ => .done ⟨memory, rfl, represents⟩
          | none =>
              refine .perform fun answer after reacts => ?_
              cases answer with
              | error error => exact .done ⟨memory, rfl, represents⟩
              | ok path =>
                  have missing := missing_of_find coherent hit
                    (by simpa [Naming.admits] using reacts.1)
                  exact createAndCacheService_matches represents
                    (Strings.place_fresh _ _) missing messageCb after

/-- An unregistration removes one service, its key and the id that borrowed it. -/
theorem unregisterServcie_matches (represents : HeapRepresents memory manager)
    (linked : manager.Linked) (serviceId : Gint) (view : View) :
    Interaction.Matches may Finished (memory.unregisterServcie serviceId)
      (manager.unregisterServcie serviceId) view := by
  unfold Client.Memory.MsgPortManager.unregisterServcie MsgPortManager.unregisterServcie
  rw [represents.proxy]
  split
  · exact .done ⟨memory, rfl, represents⟩
  obtain ⟨found, here, there, leads⟩ := represents.getLocalPort serviceId
  rw [here, there, ensuring_ok]
  cases found with
  | none => exact .done ⟨memory, rfl, represents⟩
  | some service =>
      obtain ⟨objectPath, path, borrowed, text, named, holding⟩ := leads service rfl
      apply Interaction.Matches.bind (Interaction.Matches.refl _ view)
      rintro unregistered _ view rfl
      cases unregistered with
      | false => exact .done ⟨memory, rfl, represents⟩
      | true =>
          obtain ⟨removed, freed, holding', rest⟩ := represents.remove linked borrowed text
          obtain rfl := Option.some.inj (holding'.symm.trans holding)
          simp only [borrowed, named, freed, ensuring_ok, Option.elim_some]
          exact .perform fun answer after _ => .done ⟨_, rfl, rest⟩

/-- Without the tables a lookup does the same. -/
theorem checkRemoteService_untabled (represents : HeapRepresents memory manager)
    (appId port : Option String) (isTrusted : Bool) :
    memory.untabled.checkRemoteService appId port isTrusted =
      manager.checkRemoteService appId port isTrusted := by
  unfold MsgPortManager.checkRemoteService
  rw [← represents.proxy]
  rfl

/-- So does a one-way send. -/
theorem sendMessage_untabled (represents : HeapRepresents memory manager)
    (appId port : Option String) (isTrusted : Bool) (data : VariantMap) :
    memory.untabled.sendMessage appId port isTrusted data =
      manager.sendMessage appId port isTrusted data := by
  unfold MsgPortManager.sendMessage
  rw [checkRemoteService_untabled represents, ← represents.proxy]
  rfl

/-- A bidirectional send looks the local port up. -/
theorem sendBidirectionalMessage_matches (represents : HeapRepresents memory manager)
    (localPortId : Gint) (remoteAppId remotePort : Option String) (isTrusted : Bool)
    (data : VariantMap) (view : View) :
    Interaction.Matches may Finished
      (memory.sendBidirectionalMessage localPortId remoteAppId remotePort isTrusted data)
      (manager.sendBidirectionalMessage localPortId remoteAppId remotePort isTrusted data)
      view := by
  unfold Client.Memory.MsgPortManager.sendBidirectionalMessage
    MsgPortManager.sendBidirectionalMessage
  rw [represents.proxy]
  split
  · exact .done ⟨memory, rfl, represents⟩
  split
  · exact .done ⟨memory, rfl, represents⟩
  obtain ⟨found, here, there, _⟩ := represents.getLocalPort localPortId
  rw [here, there, ensuring_ok]
  cases found with
  | none => exact .done ⟨memory, rfl, represents⟩
  | some service =>
      dsimp only
      rw [checkRemoteService_untabled represents]
      apply Interaction.Matches.bind (Interaction.Matches.refl _ view)
      rintro ⟨err, remoteServiceId⟩ _ view rfl
      dsimp only
      split
      · apply Interaction.Matches.bind (Interaction.Matches.refl _ view)
        rintro status _ view rfl
        exact .done ⟨memory, rfl, represents⟩
      · exact .done ⟨memory, rfl, represents⟩

/-- A query looks the local port up. -/
theorem getServiceName_ok (represents : HeapRepresents memory manager) (serviceId : Gint)
    (nameOut : Bool) :
    ∃ status name, memory.getServiceName serviceId nameOut = .ok (status, name, memory) ∧
      manager.getServiceName serviceId nameOut = (status, name, manager) := by
  unfold Client.Memory.MsgPortManager.getServiceName MsgPortManager.getServiceName
  rw [represents.proxy]
  split
  · exact ⟨_, _, rfl, rfl⟩
  split
  · exact ⟨_, _, rfl, rfl⟩
  obtain ⟨found, here, there, _⟩ := represents.getLocalPort serviceId
  rw [here, there]
  cases found with
  | none => exact ⟨_, _, rfl, rfl⟩
  | some service => exact ⟨_, _, rfl, rfl⟩

theorem getServiceIsTrusted_ok (represents : HeapRepresents memory manager) (serviceId : Gint)
    (isTrustedOut : Bool) :
    ∃ status isTrusted, memory.getServiceIsTrusted serviceId
      isTrustedOut = .ok (status, isTrusted, memory) ∧
      manager.getServiceIsTrusted serviceId isTrustedOut = (status, isTrusted, manager) := by
  unfold Client.Memory.MsgPortManager.getServiceIsTrusted MsgPortManager.getServiceIsTrusted
  rw [represents.proxy]
  split
  · exact ⟨_, _, rfl, rfl⟩
  split
  · exact ⟨_, _, rfl, rfl⟩
  obtain ⟨found, here, there, _⟩ := represents.getLocalPort serviceId
  rw [here, there]
  cases found with
  | none => exact ⟨_, _, rfl, rfl⟩
  | some service => exact ⟨_, _, rfl, rfl⟩

/-- Every public function matches. -/
theorem program_matches {naming : Naming} {client : ClientThread}
    (coherent : Coherent naming client) (represents : HeapRepresents memory client.manager)
    (visit : List Pointer) (allocated : Pointer) (call : ApiCall) :
    Interaction.Matches (Reacts naming) Finished (memory.program visit allocated call)
      (call.program client.manager) client := by
  cases call with
  | registerLocalPort localPort isTrusted callback visit' =>
      have register : Interaction.Matches (Reacts naming) Finished
          (memory.messageportRegisterPort localPort isTrusted callback visit allocated)
          (messageportRegisterPort client.manager localPort isTrusted callback visit') client := by
        apply Interaction.Matches.bind
          (registerService_matches coherent represents localPort isTrusted callback
          visit visit' allocated)
        rintro _ ⟨res, stored, manager⟩ view ⟨left, rfl, rest⟩
        exact .done ⟨left, rfl, rest⟩
      apply Interaction.Matches.bind register
      rintro _ ⟨value, manager⟩ view ⟨left, rfl, rest⟩
      exact .done ⟨left, rfl, rest⟩
  | checkRemotePort remoteAppId remotePort isTrusted =>
      simp only [Client.Memory.MsgPortManager.program, ApiCall.program, messageportCheckRemotePort,
        checkRemoteService_untabled represents]
      apply Interaction.Matches.bind (Interaction.Matches.refl _ client)
      rintro ⟨status, found⟩ _ view rfl
      exact .done ⟨memory, rfl, represents⟩
  | sendMessage remoteAppId remotePort isTrusted message =>
      simp only [Client.Memory.MsgPortManager.program, ApiCall.program, messageportSendMessage,
        sendMessage_untabled represents]
      apply Interaction.Matches.bind (Interaction.Matches.refl _ client)
      rintro status _ view rfl
      exact .done ⟨memory, rfl, represents⟩
  | sendBidirectionalMessage id remoteAppId remotePort isTrusted message =>
      apply Interaction.Matches.bind
        (sendBidirectionalMessage_matches represents id remoteAppId remotePort
        isTrusted (bundleToVariantMap message) client)
      rintro _ ⟨status, manager⟩ view ⟨left, rfl, rest⟩
      exact .done ⟨left, rfl, rest⟩
  | getLocalPortName id nameOut =>
      obtain ⟨status, name, here, there⟩ := getServiceName_ok represents id nameOut
      simp only [Client.Memory.MsgPortManager.program, ApiCall.program, here, there, ensuring_ok]
      exact .done ⟨memory, rfl, represents⟩
  | checkTrustedLocalPort id isTrustedOut =>
      obtain ⟨status, isTrusted, here, there⟩ := getServiceIsTrusted_ok represents id isTrustedOut
      simp only [Client.Memory.MsgPortManager.program, ApiCall.program, here, there, ensuring_ok]
      exact .done ⟨memory, rfl, represents⟩

end Functions

end MessagePort.Refinement
