import CatalogSearch.Number.Numeral

/-! # Single-precision numbers

Numbers of 32 bits, kept as their bit patterns:

* **`Single`**: sign bit, exponent and mantissa in one word;
* **`Single.ofValue`**: the single nearest to a numeral's value, infinite beyond the largest;
* **`Single.key`**: the number by which singles are ordered, infinities and both zeros included;
* **`Single.numeral?`**: the shortest written form; infinities have none. -/

namespace CatalogSearch

/-- **A single-precision number**, as its bit pattern. -/
structure Single where
  bits : UInt32
  deriving DecidableEq, Repr

namespace Single

/-- The value of the sign bit. -/
def signBit : Nat := 0x80000000

/-- The value of the lowest bit of the exponent. -/
def exponentBit : Nat := 0x800000

/-- The bit pattern of infinity. -/
def infinityBits : Nat := 0x7F800000

/-- The bits of a single without its sign. -/
def magnitude (x : Single) : Nat := x.bits.toNat % signBit

/-- The sign bit. -/
def negative (x : Single) : Bool := signBit ≤ x.bits.toNat

/-- The single of a sign and the bits of a magnitude. -/
def ofBits (negative : Bool) (magnitude : Nat) : Single :=
  ⟨UInt32.ofNat ((if negative then signBit else 0) + magnitude)⟩

/-- The bits of a rounded value: the exponent counts from its least value and carries the leading
bit of the mantissa. -/
def magnitudeOf : Option Binary → Nat
  | none => infinityBits
  | some x =>
    let place := (x.exponent - Binary.single.minExponent).toNat
    min infinityBits (place * exponentBit + x.mantissa)

/-- The single nearest to the ratio `num / den`. -/
def ofRatio (negative : Bool) (num den : Nat) : Single :=
  ofBits negative (magnitudeOf (Binary.single.round num den))

/-- **The single a numeral's value is rounded to**; a value out of range has none. -/
def ofValue? : Numeral.Value → Option Single
  | .whole n => some (ofRatio (n < 0) n.natAbs 1)
  | .real negative x => some (ofRatio negative x.num x.den)
  | .outOfRange => none

/-- The value of a finite magnitude. -/
def toBinary (x : Single) : Binary :=
  let e := x.magnitude / exponentBit
  let m := x.magnitude % exponentBit
  if e = 0 then ⟨m, Binary.single.minExponent⟩
  else ⟨exponentBit + m, Binary.single.minExponent + (e - 1 : Nat)⟩

/-- The shortest written form of a finite single. -/
def numeral? (x : Single) : Option Numeral :=
  if infinityBits ≤ x.magnitude then none
  else some (Numeral.ofDecimal .single x.negative (Binary.shortest Binary.single x.toBinary))

/-- **The place of a single in the total order**: negative numbers descend with their magnitude, and
negative zero stands just below zero. -/
def key (x : Single) : Int := if x.negative then -(x.magnitude : Int) - 1 else x.magnitude

/-- Singles are ordered by their keys. -/
def compare (x y : Single) : Ordering := Ord.compare x.key y.key

/-- The bits of a single of the given sign and magnitude. -/
theorem toNat_bits_ofBits (negative : Bool) {m : Nat} (h : m < signBit) :
    (ofBits negative m).bits.toNat = (if negative then signBit else 0) + m := by
  unfold signBit at *
  cases negative <;> simp only [ofBits, signBit, UInt32.toNat_ofNat'] <;> split <;> omega

/-- The key of a single of the given sign and magnitude. -/
theorem key_ofBits (negative : Bool) {m : Nat} (h : m < signBit) :
    (ofBits negative m).key = if negative then -(m : Int) - 1 else m := by
  unfold key magnitude Single.negative
  rw [toNat_bits_ofBits negative h]
  cases negative
  · have h₁ : ¬ signBit ≤ 0 + m := by omega
    have h₂ : (0 + m) % signBit = m := by rw [Nat.zero_add, Nat.mod_eq_of_lt h]
    simp only [Bool.false_eq_true, if_false, h₁, decide_false, h₂]
  · have h₁ : signBit ≤ signBit + m := by omega
    have h₂ : (signBit + m) % signBit = m := by rw [Nat.add_mod_left, Nat.mod_eq_of_lt h]
    simp only [if_true, h₁, decide_true, h₂]

end Single

end CatalogSearch
