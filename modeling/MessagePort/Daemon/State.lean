import MessagePort.Common.DbusError
import MessagePort.Common.Pointer
import MessagePort.Common.Variant
import MessagePort.Logical.HashTable

/-!
# The daemon's state

One value holds what the daemon's objects and static variables hold. A
`MsgPortDbusManager` serves exactly one connection for all of its life, so both
are named by the connection; a name is used again only after the connection was
closed. A `MsgPortDbusService` is named by its address: tables and lists store
addresses, and an address without a live object is a dangling pointer.
-/

namespace MessagePort.Daemon

open Logical

/-- A client connection and the dbus manager serving it. -/
abbrev Conn := Nat

/-- The address of a `MsgPortDbusService`. -/
abbrev Addr := Nat

/-- A D-Bus object path. -/
abbrev ObjectPath := String

/-- `struct _MsgPortDbusServicePrivate`, with its skeleton in `State.exports`. -/
structure DbusService where
  id : Guint
  owner : Conn
  portName : String
  isTrusted : Bool
deriving DecidableEq, Repr

/-- The path `/%u` a service is exported at. -/
def objectPathOf (id : Guint) : ObjectPath := "/" ++ toString id.toNat

/-- `msgport_dbus_service_get_object_path`. -/
def DbusService.objectPath (service : DbusService) : ObjectPath := objectPathOf service.id

/-- `struct _MsgPortDbusManagerPrivate`; its connection is its name, and its
registry and server are the only ones there are. -/
structure DbusManager where
  appId : Option String
  isNullCert : Bool
  peerCerts : HashTable String Bool
deriving DecidableEq

/-- `struct _MsgPortManagerPrivate`, the registry, with the references held to it. -/
structure Manager where
  refCount : Nat
  /-- `service_cache`: the service stored under an id used as a pointer. -/
  serviceCache : HashTable Gpointer Addr
  /-- `owner_service_map`: `[]` is the null list, which a key may map to. -/
  ownerServiceMap : HashTable Conn (List Addr)
deriving DecidableEq

/-- The daemon between two callbacks of its main loop. -/
structure State where
  /-- The static counter of `msgport_dbus_service_new`. -/
  objectConter : Guint
  /-- The live `MsgPortDbusService` objects. -/
  services : HashTable Addr DbusService
  /-- The service skeletons exported on each connection. -/
  exports : HashTable (Conn × ObjectPath) Addr
  /-- The static weak pointer of `msgport_manager_new`. -/
  manager : Option Manager
  /-- `dbus_managers` of the server. -/
  dbusManagers : HashTable Conn DbusManager
deriving DecidableEq

/-- The daemon when it starts. -/
def State.initial : State := ⟨0, ∅, ∅, none, ∅⟩

/-- `pkgmgrinfo_cert_compare_result_type_e`. -/
inductive CertCompareResult where
  | match
  | mismatch
  | lhsNoCert
  | rhsNoCert
  | bothNoCert
deriving DecidableEq, Repr

/-- What `pkgmgrinfo_pkginfo_compare_app_cert_info` returns: a result, or an
error other than `PMINFO_R_OK`. -/
abbrev CertComparison := Except Int CertCompareResult

/-- The arguments of one `onMessage` signal, and the service it is emitted on. -/
structure OnMessage where
  service : DbusService
  data : VariantMap
  remoteAppId : Option String
  remotePort : String
  remoteIsTrusted : Bool
deriving DecidableEq, Repr

/-- What the daemon does that its clients, or the system around it, can notice. -/
inductive Event where
  /-- A dbus manager serves a new connection, whose app id was or was not
  resolved to an installed application. -/
  | connected (conn : Conn) (appId : Option String) (validApp : Bool)
  | closed (conn : Conn)
  /-- `msgport_dbus_service_new` returned a new service of an owner with this app id. -/
  | created (service : DbusService) (appId : Option String)
  /-- `msgport_dbus_service_new` failed to export its skeleton. -/
  | exportFailed (conn : Conn)
  /-- A registration was answered with the path of this id. -/
  | registered (owner : Conn) (portName : String) (isTrusted : Bool) (id : Guint)
  /-- `msgport_manager_unregister_service` was called with this id. -/
  | unregisterCalled (serviceId : Gint)
  /-- Certificates were compared for an owner with a peer. -/
  | compared (owner : Conn) (peerAppId : String) (comparison : CertComparison)
  | emitted (message : OnMessage)
deriving DecidableEq

/-- How the daemon can go wrong. -/
inductive Fault where
  /-- A pointer to a released object was followed. -/
  | useAfterFree
  /-- A null string was hashed. -/
  | nullKey
  /-- An uninitialised pointer was followed. -/
  | wildPointer
deriving DecidableEq, Repr

/-- What is decided outside the program while it handles one request. -/
structure Choices where
  /-- The address proposed by the allocator. -/
  allocated : Addr
  /-- The error with which GDBus refuses to export a skeleton, if it does. -/
  exportFailure : Option GError
  /-- The order in which `g_hash_table_find` visits the connections. -/
  visit : List Conn
  /-- The package manager's answer to a comparison of certificates. -/
  comparison : CertComparison
  /-- The stack word under an uninitialised local. -/
  stackWord : Gpointer

/-- Nothing outside the program fails, and certificates match. -/
def Choices.benign : Choices := ⟨0, none, [], .ok .match, 0⟩

namespace State

/-- The service stored in `service_cache` under a key. -/
def cached (state : State) (key : Gpointer) : Option Addr :=
  state.manager.bind fun manager => manager.serviceCache.lookup key

/-- The list stored in `owner_service_map` for an owner; a missing key reads as
the null list. -/
def ownerList (state : State) (owner : Conn) : List Addr :=
  match state.manager with
  | none => []
  | some manager => (manager.ownerServiceMap.lookup owner).getD []

/-- Follow a pointer to a service. -/
def deref (state : State) (addr : Addr) : Except Fault DbusService :=
  match state.services.lookup addr with
  | some service => .ok service
  | none => .error .useAfterFree

/-- The address of a new object: the allocator's, unless an object lives there. -/
def freshAddr (state : State) (allocated : Addr) : Addr :=
  if allocated ∈ state.services then state.services.keys.max?.getD 0 + 1 else allocated

theorem freshAddr_not_live (state : State) (allocated : Addr) :
    state.services.lookup (state.freshAddr allocated) = none := by
  rw [AList.lookup_eq_none]
  unfold freshAddr
  split
  · intro live
    have bound := List.le_max?_getD_of_mem (k := 0) (AList.mem_keys.mp live)
    omega
  · assumption

end State

/-- Distinct ids are exported at distinct paths. -/
theorem objectPathOf_injective : Function.Injective objectPathOf := by
  intro first second same
  have digits : toString first.toNat = toString second.toNat := by
    simpa [objectPathOf] using same
  have numbers := congrArg (fun text : String => Nat.ofDigitChars 10 text.toList 0) digits
  simp only [Nat.toString_eq_repr, Nat.toList_repr, Nat.ofDigitChars_ten_toDigits] at numbers
  exact BitVec.eq_of_toNat_eq numbers

@[simp] theorem objectPathOf_inj {first second : Guint} :
    objectPathOf first = objectPathOf second ↔ first = second :=
  objectPathOf_injective.eq_iff

end MessagePort.Daemon
