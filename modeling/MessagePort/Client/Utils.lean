import Mathlib.Data.List.Nodup
import MessagePort.Common.DbusError
import MessagePort.Common.Variant

/-!
# Client statuses and bundles

`messageport_error_e`, and `lib/msgport-utils.c`: the translation of errors to
statuses and of bundles to the `a{sv}` values that carry them.
-/

namespace MessagePort.Client

/-- `messageport_error_e`. -/
inductive MessageportError where
  | none
  | ioError
  | outOfMemory
  | invalidParameter
  | messageportNotFound
  | certificateNotMatch
  | maxExceeded
deriving DecidableEq, Repr

/-- The numeric values: zero for success, negative for every error. -/
def MessageportError.code : MessageportError → Int
  | .none => 0
  | .ioError => -1
  | .outOfMemory => -2
  | .invalidParameter => -3
  | .messageportNotFound => -4
  | .certificateNotMatch => -5
  | .maxExceeded => -6

/-- Whatever is not a success is negative. -/
theorem MessageportError.code_neg {status : MessageportError} (failed : status ≠ .none) :
    status.code < 0 := by
  cases status with
  | none => exact absurd rfl failed
  | _ => simp [MessageportError.code]

/-- `msgport_daemon_error_to_error`, which looks at the code and not at the domain. -/
def msgportDaemonErrorToError (error : GError) : MessageportError :=
  if error.code = MsgPortError.outOfMemory.code then .outOfMemory
  else if error.code = MsgPortError.notFound.code then .messageportNotFound
  else if error.code = MsgPortError.invalidParams.code then .invalidParameter
  else if error.code = MsgPortError.certificateMismatch.code then .certificateNotMatch
  else .ioError

/-- An error never becomes a success. -/
theorem msgportDaemonErrorToError_ne_none (error : GError) :
    msgportDaemonErrorToError error ≠ .none := by
  unfold msgportDaemonErrorToError
  split
  · simp
  split
  · simp
  split
  · simp
  split <;> simp

/-- The code that a daemon error has in a process without the error domain means
an I/O error. -/
theorem msgportDaemonErrorToError_dbusError (domain : ErrorDomain) (message : String) :
    msgportDaemonErrorToError ⟨domain, gIoErrorDbusError, message⟩ = .ioError := rfl

/-! ## Bundles -/

/-- The value of a bundle's entry: a string, or one of the types the library skips. -/
inductive BundleValue where
  | string (value : String)
  | other (type : Int) (bytes : List UInt8)
deriving DecidableEq, Repr

/-- A bundle: entries in the order they were added, under distinct nonempty keys. -/
structure Bundle where
  entries : List (String × BundleValue)
  distinct : (entries.map Prod.fst).Nodup
  nonempty : "" ∉ entries.map Prod.fst

namespace Bundle

/-- `bundle_create`. -/
def create : Bundle := ⟨[], by simp, by simp⟩

/-- `bundle_add`, which changes nothing for an empty key, a key that is there
already or a null value. -/
def add (bundle : Bundle) (key : String) (value : Option String) : Bundle :=
  match value with
  | none => bundle
  | some text =>
      if fresh : key ≠ "" ∧ key ∉ bundle.entries.map Prod.fst then
        { entries := bundle.entries ++ [(key, .string text)]
          distinct := by
            rw [List.map_append, List.nodup_append_comm]
            exact List.nodup_cons.mpr ⟨fresh.2, bundle.distinct⟩
          nonempty := by
            rw [List.map_append, List.mem_append]
            rintro (early | late)
            · exact bundle.nonempty early
            · exact fresh.1 (List.mem_singleton.mp late).symm }
      else bundle

end Bundle

/-- `bundle_to_variant_map`; a null bundle has no entries. -/
def bundleToVariantMap (bundle : Option Bundle) : VariantMap :=
  (bundle.elim [] (·.entries)).filterMap fun
    | (key, .string value) => some (key, .string value)
    | (_, .other _ _) => none

/-- `bundle_from_variant_map`. -/
def bundleFromVariantMap (data : VariantMap) : Bundle :=
  data.foldl (fun bundle entry => bundle.add entry.1 entry.2.getString) .create

end MessagePort.Client
