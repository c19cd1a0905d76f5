import Mathlib.Data.List.Basic

/-!
# Message data

The `a{sv}` value that carries a message. The daemon passes it on unread; the
client library builds it from a bundle and reads it back.
-/

namespace MessagePort

/-- A `GVariant` as far as the library tells values apart: the three types with
string content, and every other type. -/
inductive Variant where
  | string (value : String)
  | objectPath (value : String)
  | signature (value : String)
  | other (typeString : String) (bytes : List UInt8)
deriving DecidableEq, Repr

/-- A value of type `a{sv}`; keys may repeat. -/
abbrev VariantMap := List (String × Variant)

/-- `g_variant_get_string`, which is `NULL` for a value without string content. -/
def Variant.getString : Variant → Option String
  | .string value => some value
  | .objectPath value => some value
  | .signature value => some value
  | .other _ _ => none

end MessagePort
