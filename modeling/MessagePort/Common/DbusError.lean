import Mathlib.Data.List.Basic

/-!
# Daemon errors and their names on the bus

`common/dbus-error.c` registers one D-Bus error name for each code of the daemon's
error domain. GDBus sends an error of a registered domain under its registered
name; the receiver gets the domain and code back only if it has registered the
domain too, and `G_IO_ERROR_DBUS_ERROR` otherwise.
-/

namespace MessagePort

/-- `enum _MsgPortError`. -/
inductive MsgPortError where
  | ioError
  | outOfMemory
  | invalidParams
  | notFound
  | alreadyExisting
  | certificateMismatch
  | unknown
deriving DecidableEq, Repr

/-- The numeric values, which start at 100. -/
def MsgPortError.code : MsgPortError → Int
  | .ioError => 100
  | .outOfMemory => 101
  | .invalidParams => 102
  | .notFound => 103
  | .alreadyExisting => 104
  | .certificateMismatch => 105
  | .unknown => 106

/-- The error domains that reach a D-Bus reply. -/
inductive ErrorDomain where
  | msgport
  | gIoError
  | gDbusError
deriving DecidableEq, Repr

/-- `GError`. -/
structure GError where
  domain : ErrorDomain
  code : Int
  message : String
deriving DecidableEq, Repr

/-- `msgport_error_new`. -/
def msgportErrorNew (id : MsgPortError) (message : String) : GError :=
  ⟨.msgport, id.code, message⟩

/-- A possibly null string as `printf` writes it for `%s`. -/
def printString : Option String → String
  | none => "(null)"
  | some text => text

/-- `msgport_error_port_not_found`. -/
def msgportErrorPortNotFound (appId : Option String) (portName : String) : GError :=
  msgportErrorNew .notFound
    ("port not found with name '" ++ portName ++ "' on application '" ++ printString appId ++ "'")

/-- `msgport_error_port_id_not_found_new`. -/
def msgportErrorPortIdNotFoundNew (serviceId : Int) : GError :=
  msgportErrorNew .notFound ("no port found with id '" ++ toString serviceId ++ "'")

/-- `msgport_error_certificate_mismatch_new`. -/
def msgportErrorCertificateMismatchNew : GError :=
  msgportErrorNew .certificateMismatch "cerficates not matched"

/-- `msgport_error_unknown_new`. -/
def msgportErrorUnknownNew : GError :=
  msgportErrorNew .unknown "unknown"

/-- What `msgport_return_val_if_fail_with_error` stores when `expr` is false. -/
def msgportErrorAssertion (expr : String) : GError :=
  msgportErrorNew .invalidParams ("assert(" ++ expr ++ ")")

/-- `__msgport_errors`. -/
def msgportErrors : List (MsgPortError × String) :=
  [(.ioError, "org.tizen.MessagePort.Error.IOError"),
   (.invalidParams, "org.tizen.MessagePort.Error.InvalidParams"),
   (.outOfMemory, "org.tizen.MessagePort.Error.OutOfMemory"),
   (.notFound, "org.tizen.MessagePort.Error.NotFound"),
   (.alreadyExisting, "org.tizen.MessagePort.Error.AlreadyExisting"),
   (.certificateMismatch, "org.tizen.MessagePort.Error.CertificateMismatch"),
   (.unknown, "org.tizen.MessagePort.Error.Unknown")]

/-- The error name of a reply: a registered one, or GDBus's own spelling of a
domain and code, which every process decodes. -/
inductive ErrorName where
  | registered (name : String)
  | spelled (domain : ErrorDomain) (code : Int)
deriving DecidableEq, Repr

/-- An error reply. -/
structure DBusError where
  name : ErrorName
  message : String
deriving DecidableEq, Repr

/-- The name GDBus sends for an error of the daemon, which has registered its
domain by the time it creates one. -/
def encodeError (error : GError) : DBusError :=
  match error.domain, msgportErrors.find? fun entry => entry.1.code = error.code with
  | .msgport, some entry => ⟨.registered entry.2, error.message⟩
  | domain, _ => ⟨.spelled domain error.code, error.message⟩

/-- `G_IO_ERROR_DBUS_ERROR`. -/
def gIoErrorDbusError : Int := 36

/-- The error a client call returns for a reply, in a process that has or has not
run `msgport_error_quark`. GDBus also writes the error name before the text; no
caller reads it. -/
def decodeError (quarkRegistered : Bool) (reply : DBusError) : GError :=
  match reply.name with
  | .spelled domain code => ⟨domain, code, reply.message⟩
  | .registered name =>
      match quarkRegistered, msgportErrors.find? fun entry => entry.2 = name with
      | true, some entry => ⟨.msgport, entry.1.code, reply.message⟩
      | _, _ => ⟨.gIoError, gIoErrorDbusError, reply.message⟩

/-- Every error of the daemon is the same one to a process that has not registered the domain. -/
theorem decodeError_unregistered (id : MsgPortError) (message : String) :
    decodeError false (encodeError (msgportErrorNew id message)) =
      ⟨.gIoError, gIoErrorDbusError, message⟩ := by
  cases id <;> rfl

end MessagePort
