import MessagePort.Client.Utils
import MessagePort.Daemon.Server
import MessagePort.Semantics.Interaction

/-!
# Client services

`lib/msgport-service.c`, and the operations of the client library that reach
beyond its own tables. Library code is a sequential program of such operations:
it stops at each of them for its answer.
-/

namespace MessagePort.Client

open Daemon Semantics

/-- A `messageport_message_cb`, by its address. -/
abbrev Callback := Nat

/-- The address of a `MsgPortService` object of a client. -/
abbrev Handle := Nat

/-- A `MsgPortService` with what its proxy has cached: the path and the three
properties, which no one changes. The callback is in the object itself. -/
structure MsgPortService where
  handle : Handle
  path : ObjectPath
  id : Guint
  portName : Option String
  isTrusted : Bool
deriving DecidableEq, Repr

/-- What library code does besides computing on its own tables. -/
inductive Operation where
  /-- A synchronous method call. -/
  | call (request : Request)
  /-- `msgport_dbus_glue_service_proxy_new_sync`. -/
  | serviceProxyNew (path : ObjectPath)
  /-- Store the callback in a new service object and connect it to `on-message`. -/
  | connectOnMessage (handle : Handle) (messageCb : Callback)
  /-- Store another callback in a service object. -/
  | setMessageHandler (handle : Handle) (handler : Callback)
  /-- Drop the only reference to a service object. -/
  | serviceUnref (handle : Handle)

/-- The type of the answer to an operation. -/
def Operation.Answer : Operation → Type
  | .call request => Except GError request.Answer
  | .serviceProxyNew _ => Except GError MsgPortService
  | .connectOnMessage _ _ => Unit
  | .setMessageHandler _ _ => Unit
  | .serviceUnref _ => Unit

/-- Library code that ends in a value. -/
abbrev Program (Result : Type) := Interaction Operation Operation.Answer Result

/-- `g_object_unref` of a service. -/
def serviceUnref (handle : Handle) : Program Unit :=
  .perform (.serviceUnref handle) .done

namespace MsgPortService

/-- `msgport_service_new`. -/
def new (path : ObjectPath) (messageCb : Callback) : Program (Option MsgPortService) :=
  .perform (.serviceProxyNew path) fun
    | .error _ => .done none
    | .ok service => .perform (.connectOnMessage service.handle messageCb) fun _ =>
        .done (some service)

/-- `msgport_service_set_message_handler`. -/
def setMessageHandler (service : MsgPortService) (handler : Callback) : Program Unit :=
  .perform (.setMessageHandler service.handle handler) .done

/-- `msgport_service_unregister`: whether the call was answered. -/
def unregister (service : MsgPortService) : Program Bool :=
  .perform (.call (.serviceUnregister service.path)) fun
    | .error _ => .done false
    | .ok _ => .done true

/-- `msgport_service_send_message`; the message, a new variant, is never null. -/
def sendMessage (service : MsgPortService) (remoteServiceId : Guint) (message : VariantMap) :
    Program MessageportError :=
  .perform (.call (.serviceSendMessage service.path remoteServiceId message)) fun
    | .error error => .done (msgportDaemonErrorToError error)
    | .ok _ => .done .none

end MsgPortService

/-- The arguments of one run of a callback. -/
structure Invocation where
  callback : Callback
  id : Int
  remoteAppId : Option String
  remotePort : Option String
  trustedMessage : Bool
  message : Bundle

/-- An empty string is handed over as `NULL`. -/
def nullIfEmpty (text : String) : Option String :=
  if text = "" then none else some text

/-- `_on_got_message` of a service with this id; a null app id travels as an
empty string. -/
def onGotMessage (id : Guint) (clientCb : Callback) (message : OnMessage) : Invocation :=
  ⟨clientCb, id.toInt, nullIfEmpty (message.remoteAppId.getD ""), nullIfEmpty message.remotePort,
    message.remoteIsTrusted, bundleFromVariantMap message.data⟩

end MessagePort.Client
