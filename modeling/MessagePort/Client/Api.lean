import MessagePort.Client.Manager

/-!
# The public functions

`lib/message-port.c`, for a thread that has its manager. `ApiCall` collects the
functions with their arguments, and `ApiCall.program` is what one of them does.
-/

namespace MessagePort.Client

open Daemon Semantics

/-- `_messageport_register_port`: the id if it is positive, the status otherwise. -/
def messageportRegisterPort (manager : MsgPortManager) (name : Option String) (isTrusted : Bool)
    (cb : Option Callback) (visit : List ObjectPath) : Program (Int × MsgPortManager) :=
  manager.registerService name isTrusted cb visit >>= fun (res, stored, left) =>
    let portId : Gint := stored.getD 0
    .done (if 0 < portId.toInt then portId.toInt else res.code, left)

/-- `_messageport_check_remote_port`, and what it stored through `exists`. -/
def messageportCheckRemotePort (manager : MsgPortManager) (appId port : Option String)
    (isTrusted : Bool) : Program (MessageportError × Bool) :=
  manager.checkRemoteService appId port isTrusted >>= fun (res, _) => .done (res, res = .none)

/-- `_messageport_send_message`. -/
def messageportSendMessage (manager : MsgPortManager) (appId port : Option String)
    (isTrusted : Bool) (message : Option Bundle) : Program MessageportError :=
  manager.sendMessage appId port isTrusted (bundleToVariantMap message)

/-- `_messageport_send_bidirectional_message`. -/
def messageportSendBidirectionalMessage (manager : MsgPortManager) (id : Gint)
    (remoteAppId remotePort : Option String) (isTrusted : Bool) (message : Option Bundle) :
    Program (MessageportError × MsgPortManager) :=
  manager.sendBidirectionalMessage id remoteAppId remotePort isTrusted (bundleToVariantMap message)

/-- A call of a public function; the trusted variants differ in `isTrusted`. -/
inductive ApiCall where
  | registerLocalPort (localPort : Option String) (isTrusted : Bool) (callback : Option Callback)
      (visit : List ObjectPath)
  | checkRemotePort (remoteAppId remotePort : Option String) (isTrusted : Bool)
  | sendMessage (remoteAppId remotePort : Option String) (isTrusted : Bool)
      (message : Option Bundle)
  | sendBidirectionalMessage (id : Gint) (remoteAppId remotePort : Option String) (isTrusted : Bool)
      (message : Option Bundle)
  | getLocalPortName (id : Gint) (nameOut : Bool)
  | checkTrustedLocalPort (id : Gint) (isTrustedOut : Bool)

/-- What a public function returns and stores. -/
structure Returned where
  value : Int
  /-- Stored through `exist`. -/
  exist : Option Bool
  /-- Stored through `name_out`. -/
  name : Option (Option String)
  /-- Stored through `is_trusted_out`. -/
  isTrusted : Option Bool

/-- The program of a call: what it returns, and the tables it leaves. -/
def ApiCall.program (manager : MsgPortManager) : ApiCall → Program (Returned × MsgPortManager)
  | .registerLocalPort localPort isTrusted callback visit =>
      messageportRegisterPort manager localPort isTrusted callback visit >>= fun (value, left) =>
        .done (⟨value, none, none, none⟩, left)
  | .checkRemotePort remoteAppId remotePort isTrusted =>
      messageportCheckRemotePort manager remoteAppId remotePort isTrusted >>= fun (status, found) =>
        .done (⟨status.code, some found, none, none⟩, manager)
  | .sendMessage remoteAppId remotePort isTrusted message =>
      messageportSendMessage manager remoteAppId remotePort isTrusted message >>= fun status =>
        .done (⟨status.code, none, none, none⟩, manager)
  | .sendBidirectionalMessage id remoteAppId remotePort isTrusted message =>
      messageportSendBidirectionalMessage manager id remoteAppId remotePort isTrusted message >>=
        fun (status, left) => .done (⟨status.code, none, none, none⟩, left)
  | .getLocalPortName id nameOut =>
      let (status, name, left) := manager.getServiceName id nameOut
      .done (⟨status.code, none, name, none⟩, left)
  | .checkTrustedLocalPort id isTrustedOut =>
      let (status, isTrusted, left) := manager.getServiceIsTrusted id isTrustedOut
      .done (⟨status.code, none, none, isTrusted⟩, left)

end MessagePort.Client
