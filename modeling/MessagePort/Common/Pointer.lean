import Mathlib.Data.BitVec

/-!
# Integers as hash keys

Ids are stored in direct-hashed tables through `GINT_TO_POINTER`, which on a
64-bit build is a conversion to `glong`: a `guint` argument is zero-extended and
a `gint` argument is sign-extended.
-/

namespace MessagePort

/-- `guint`. -/
abbrev Guint := BitVec 32

/-- `gint`; its value is `BitVec.toInt`. -/
abbrev Gint := BitVec 32

/-- `gpointer`, as the word a direct-hashed table compares. -/
abbrev Gpointer := BitVec 64

/-- `GINT_TO_POINTER` of a `guint`. -/
def guintToPointer (value : Guint) : Gpointer := value.setWidth 64

/-- `GINT_TO_POINTER` of a `gint`. -/
def gintToPointer (value : Gint) : Gpointer := value.signExtend 64

theorem guintToPointer_toNat (value : Guint) : (guintToPointer value).toNat = value.toNat := by
  have small := value.isLt
  simp only [guintToPointer, BitVec.toNat_setWidth]
  omega

theorem guintToPointer_injective : Function.Injective guintToPointer := by
  intro first second same
  have numbers := congrArg BitVec.toNat same
  rw [guintToPointer_toNat, guintToPointer_toNat] at numbers
  exact BitVec.eq_of_toNat_eq numbers

@[simp] theorem guintToPointer_inj {first second : Guint} :
    guintToPointer first = guintToPointer second ↔ first = second :=
  guintToPointer_injective.eq_iff

theorem gintToPointer_injective : Function.Injective gintToPointer := by
  intro first second same
  have numbers := congrArg BitVec.toInt same
  rw [gintToPointer, gintToPointer, BitVec.toInt_signExtend_of_le (by omega),
    BitVec.toInt_signExtend_of_le (by omega)] at numbers
  exact BitVec.eq_of_toInt_eq numbers

@[simp] theorem gintToPointer_inj {first second : Gint} :
    gintToPointer first = gintToPointer second ↔ first = second :=
  gintToPointer_injective.eq_iff

/-- The two conversions agree below the sign bit. -/
theorem gintToPointer_of_small {value : Gint} (small : value.toNat < 2 ^ 31) :
    gintToPointer value = guintToPointer value := by
  unfold gintToPointer guintToPointer
  apply BitVec.signExtend_eq_setWidth_of_msb_false
  rw [BitVec.msb_eq_decide]
  simpa using small

/-- A key built from a `gint` is that of the `guint` with the same bits, if of any. -/
theorem eq_of_gintToPointer {value : Gint} {id : Guint}
    (same : gintToPointer value = guintToPointer id) :
    value = id := by
  have numbers := congrArg BitVec.toNat same
  rw [guintToPointer_toNat, gintToPointer, BitVec.toNat_signExtend,
    BitVec.toNat_setWidth] at numbers
  have bound := value.isLt
  have bound' := id.isLt
  apply BitVec.eq_of_toNat_eq
  split at numbers <;> omega

/-- From the sign bit on, a key built from a `gint` is that of no `guint`. -/
theorem gintToPointer_ne_of_large {value : Gint} (large : 2 ^ 31 ≤ value.toNat) (id : Guint) :
    gintToPointer value ≠ guintToPointer id := by
  intro same
  have negative : value.msb = true := by
    rw [BitVec.msb_eq_decide]
    simpa using large
  have numbers := congrArg BitVec.toNat same
  rw [guintToPointer_toNat, gintToPointer, BitVec.toNat_signExtend, BitVec.toNat_setWidth, negative,
    if_pos rfl] at numbers
  have bound := id.isLt
  omega

/-- A `guint` that is a positive number as a `gint` too. -/
structure FitsInt (value : Guint) : Prop where
  positive : 0 < value.toNat
  small : value.toNat < 2 ^ 31

theorem FitsInt.toInt_eq {value : Guint} (fits : FitsInt value) : value.toInt = value.toNat := by
  have small := fits.small
  rw [BitVec.toInt_eq_toNat_cond, if_pos (by omega)]

theorem fitsInt_iff {value : Guint} : FitsInt value ↔ 0 < value.toInt := by
  constructor
  · intro fits
    have positive := fits.positive
    rw [fits.toInt_eq]
    omega
  · intro positive
    have bound := value.isLt
    rw [BitVec.toInt_eq_toNat_cond] at positive
    split at positive
    · exact ⟨by omega, by omega⟩
    · omega

end MessagePort
