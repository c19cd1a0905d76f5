import MessagePort.Client.Operations

/-!
# The two tables of ports

`services` finds a service by its object path, and `local_services` a path by the
id of its service. Both are written together when a service is cached and when it
is unregistered, and must correspond all the time.
-/

namespace MessagePort.Client

open Daemon Logical Semantics

namespace MsgPortManager

/-- The tables correspond, and a service is stored under its own path. -/
structure Linked (manager : MsgPortManager) : Prop where
  /-- A local id leads to a service that has this id. -/
  leads : ∀ {key path}, manager.localServices.lookup key = some path →
    ∃ service, manager.services.lookup path = some service ∧ gintToPointer service.id = key
  /-- The id of a service leads to it. -/
  listed : ∀ {path service}, manager.services.lookup path = some service →
    manager.localServices.lookup (gintToPointer service.id) = some path
  placed : ∀ {path service}, manager.services.lookup path = some service → service.path = path

/-- A client starts without ports. -/
theorem linked_new : Linked new where
  leads found := by cases found
  listed found := by cases found
  placed found := by cases found

namespace Linked

variable {manager : MsgPortManager}

/-- A service has exactly one local id. -/
theorem unique (linked : Linked manager) {path : ObjectPath} {service : MsgPortService}
    (found : manager.services.lookup path = some service) :
    ∃! key, manager.localServices.lookup key = some path := by
  refine ⟨gintToPointer service.id, linked.listed found, fun key leads => ?_⟩
  obtain ⟨same, found', rfl⟩ := linked.leads leads
  obtain rfl := Option.some.inj (found.symm.trans found')
  rfl

/-- Two services with one id are one. -/
theorem path_of_id (linked : Linked manager) {first second : ObjectPath}
    {service other : MsgPortService} (found : manager.services.lookup first = some service)
    (found' : manager.services.lookup second = some other) (same : service.id = other.id) :
    first = second := by
  have leads := linked.listed found
  rw [same, linked.listed found'] at leads
  exact (Option.some.inj leads).symm

/-- A service is cached whose path is new together with its id, or known together with it. -/
theorem cache (linked : Linked manager) {service : MsgPortService}
    (apart : ∀ {path held}, manager.services.lookup path = some held →
      (path = service.path ↔ held.id = service.id)) :
    Linked { manager with
      services := manager.services.insert service.path service
      localServices := manager.localServices.insert (gintToPointer service.id) service.path } where
  leads {key path} leads := by
    rcases HashTable.lookup_insert_some.mp leads with ⟨rfl, rfl⟩ | ⟨_, leads⟩
    · exact ⟨service, AList.lookup_insert _, rfl⟩
    · obtain ⟨held, found, rfl⟩ := linked.leads leads
      by_cases same : path = service.path
      · exact ⟨service, same ▸ AList.lookup_insert _, by rw [(apart found).mp same]⟩
      · exact ⟨held, (AList.lookup_insert_ne same).trans found, rfl⟩
  listed {path held} found := by
    rcases HashTable.lookup_insert_some.mp found with ⟨rfl, rfl⟩ | ⟨different, found⟩
    · exact AList.lookup_insert _
    · have other : gintToPointer held.id ≠ gintToPointer service.id := by
        rw [Ne, gintToPointer_inj, ← apart found]
        exact different
      exact (AList.lookup_insert_ne other).trans (linked.listed found)
  placed {path held} found := by
    rcases HashTable.lookup_insert_some.mp found with ⟨rfl, rfl⟩ | ⟨_, found⟩
    · rfl
    · exact linked.placed found

/-- A local id is removed together with its service. -/
theorem remove (linked : Linked manager) {key : Gpointer} {path : ObjectPath}
    (leads : manager.localServices.lookup key = some path) :
    Linked { manager with
      localServices := manager.localServices.erase key
      services := manager.services.erase path } where
  leads {other place} left := by
    obtain ⟨different, kept⟩ := HashTable.lookup_erase_some.mp left
    obtain ⟨service, found, ids⟩ := linked.leads kept
    refine ⟨service, HashTable.lookup_erase_some.mpr ⟨?_, found⟩, ids⟩
    rintro rfl
    exact different ((linked.unique found).unique kept leads)
  listed {place service} found := by
    obtain ⟨different, found⟩ := HashTable.lookup_erase_some.mp found
    have leads' := linked.listed found
    refine HashTable.lookup_erase_some.mpr ⟨?_, leads'⟩
    rintro rfl
    exact different (Option.some.inj (leads'.symm.trans leads))
  placed found := linked.placed (HashTable.lookup_erase_some.mp found).2

/-- No id is ever forgotten by a lookup. -/
theorem getLocalPort_eq (linked : Linked manager) (serviceId : Gint) :
    manager.getLocalPort serviceId =
      ((manager.localServices.lookup (gintToPointer serviceId)).bind
        manager.services.lookup, manager) := by
  unfold getLocalPort
  cases leads : manager.localServices.lookup (gintToPointer serviceId) with
  | none => rfl
  | some path =>
      obtain ⟨service, found, _⟩ := linked.leads leads
      simp only [found, Option.bind_some]

/-- A lookup finds the service that has the id. -/
theorem getLocalPort_some (linked : Linked manager) {serviceId : Gint} {service : MsgPortService} :
    (manager.getLocalPort serviceId).1 = some service ↔
      manager.services.lookup service.path = some service ∧ service.id = serviceId := by
  rw [linked.getLocalPort_eq, Option.bind_eq_some_iff]
  constructor
  · rintro ⟨path, leads, found⟩
    obtain ⟨same, found', ids⟩ := linked.leads leads
    obtain rfl := Option.some.inj (found.symm.trans found')
    rw [linked.placed found]
    exact ⟨found, gintToPointer_inj.mp ids⟩
  · rintro ⟨found, rfl⟩
    exact ⟨_, linked.listed found, found⟩

end Linked

end MsgPortManager

/-! ## What calls leave -/

/-- Only a registration can be noticed in the view. -/
def Leaves {View : Type} (may : View → (operation : Operation) → operation.Answer → View → Prop) :
    Prop :=
  ∀ {view request answer next}, (∀ name isTrusted, request ≠ .registerService name isTrusted) →
    may view (.call request) answer next → next = view

/-- The tables are left alone, but for an id that a lookup may forget. -/
def LeftBy (manager left : MsgPortManager) : Prop :=
  left = manager ∨ ∃ id, left = (manager.getLocalPort id).2

theorem getServiceName_left (manager : MsgPortManager) (serviceId : Gint) (nameOut : Bool) :
    LeftBy manager (manager.getServiceName serviceId nameOut).2.2 := by
  unfold MsgPortManager.getServiceName
  split
  · exact .inl rfl
  split
  · exact .inl rfl
  refine .inr ⟨serviceId, ?_⟩
  rcases manager.getLocalPort serviceId with ⟨_ | service, left⟩ <;> rfl

theorem getServiceIsTrusted_left (manager : MsgPortManager) (serviceId : Gint)
    (isTrustedOut : Bool) :
    LeftBy manager (manager.getServiceIsTrusted serviceId isTrustedOut).2.2 := by
  unfold MsgPortManager.getServiceIsTrusted
  split
  · exact .inl rfl
  split
  · exact .inl rfl
  refine .inr ⟨serviceId, ?_⟩
  rcases manager.getLocalPort serviceId with ⟨_ | service, left⟩ <;> rfl

section View

variable {View : Type} {may : View → (operation : Operation) → operation.Answer → View → Prop}

/-- A lookup is not noticed. -/
theorem checkRemoteService_wp (leaves : Leaves may) (manager : MsgPortManager) (view : View)
    (appId port : Option String) (isTrusted : Bool) :
    (manager.checkRemoteService appId port isTrusted).wp may
      (fun _ after => after = view) view := by
  unfold MsgPortManager.checkRemoteService
  split
  · rfl
  split
  · intro answer after may
    obtain rfl := leaves (by simp) may
    cases answer <;> rfl
  · rfl

/-- Nor is a send. -/
theorem sendMessage_wp (leaves : Leaves may) (manager : MsgPortManager) (view : View)
    (appId port : Option String) (isTrusted : Bool) (data : VariantMap) :
    (manager.sendMessage appId port isTrusted data).wp may (fun _ after => after = view) view := by
  unfold MsgPortManager.sendMessage
  split
  · rfl
  split
  · rfl
  apply Interaction.wp_bind
  refine Interaction.wp_mono ?_ (checkRemoteService_wp leaves manager view appId port isTrusted)
  rintro ⟨err, serviceId⟩ _ rfl
  dsimp only
  split
  · rfl
  · intro answer after may
    obtain rfl := leaves (by simp) may
    cases answer <;> rfl

/-- A bidirectional send is not noticed either, and may forget an id. -/
theorem sendBidirectionalMessage_wp (leaves : Leaves may) (manager : MsgPortManager) (view : View)
    (id : Gint) (appId port : Option String) (isTrusted : Bool) (data : VariantMap) :
    (manager.sendBidirectionalMessage id appId port isTrusted data).wp may
      (fun out after => LeftBy manager out.2 ∧ after = view) view := by
  unfold MsgPortManager.sendBidirectionalMessage
  split
  · exact ⟨.inl rfl, rfl⟩
  split
  · exact ⟨.inl rfl, rfl⟩
  have forgets : LeftBy manager (manager.getLocalPort id).2 := .inr ⟨id, rfl⟩
  rcases found : manager.getLocalPort id with ⟨_ | service, left⟩
  · rw [found] at forgets
    exact ⟨forgets, rfl⟩
  · rw [found] at forgets
    apply Interaction.wp_bind
    refine Interaction.wp_mono ?_ (checkRemoteService_wp leaves left view appId port isTrusted)
    rintro ⟨err, remoteServiceId⟩ _ rfl
    dsimp only
    split
    · intro answer after may
      obtain rfl := leaves (by simp) may
      cases answer <;> exact ⟨forgets, rfl⟩
    · exact ⟨forgets, rfl⟩

/-- A call that is no registration is not noticed. -/
theorem program_wp_quiet (leaves : Leaves may) (manager : MsgPortManager) (view : View)
    {call : ApiCall}
    (quiet : ∀ localPort isTrusted callback visit,
      call ≠ .registerLocalPort localPort isTrusted callback visit) :
    (call.program manager).wp may (fun out after => LeftBy manager out.2 ∧ after = view) view := by
  cases call with
  | registerLocalPort localPort isTrusted callback visit => exact absurd rfl (quiet _ _ _ _)
  | checkRemotePort remoteAppId remotePort isTrusted =>
      apply Interaction.wp_bind
      apply Interaction.wp_bind
      refine Interaction.wp_mono ?_
        (checkRemoteService_wp leaves manager view remoteAppId remotePort isTrusted)
      rintro ⟨res, serviceId⟩ _ rfl
      exact ⟨.inl rfl, rfl⟩
  | sendMessage remoteAppId remotePort isTrusted message =>
      apply Interaction.wp_bind
      refine Interaction.wp_mono ?_
        (sendMessage_wp leaves manager view remoteAppId remotePort isTrusted _)
      rintro status _ rfl
      exact ⟨.inl rfl, rfl⟩
  | sendBidirectionalMessage id remoteAppId remotePort isTrusted message =>
      apply Interaction.wp_bind
      refine Interaction.wp_mono ?_
        (sendBidirectionalMessage_wp leaves manager view id remoteAppId remotePort isTrusted _)
      rintro ⟨status, left⟩ after forgets
      exact forgets
  | getLocalPortName id nameOut => exact ⟨getServiceName_left manager id nameOut, rfl⟩
  | checkTrustedLocalPort id isTrustedOut =>
      exact ⟨getServiceIsTrusted_left manager id isTrustedOut, rfl⟩

end View

end MessagePort.Client
