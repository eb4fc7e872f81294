/-! # Binary floating point

Non-negative floating-point values as exact numbers `mantissa · 2 ^ exponent`, and the rounding of
ratios to them:

* **`twoTo`**, **`tenTo`**: powers of two and ten;
* **`Binary`**: a finite value;
* **`Binary.Format`**: how many bits the mantissa has and which exponents exist;
* **`roundDiv num den`**: the nearest whole number to a ratio, ties to the even neighbour;
* **`Format.round num den`**: the nearest value of a format to a ratio, `none` beyond the largest;
* **`Format.mul x y`**, **`Format.div x y`**: product and quotient, each rounded once. -/

namespace CatalogSearch

/-- A power of two. -/
def twoTo (k : Nat) : Nat := Nat.pow 2 k

/-- A power of ten. -/
def tenTo (k : Nat) : Nat := Nat.pow 10 k

/-- **A finite floating-point value**, `mantissa · 2 ^ exponent`, the sign apart. -/
structure Binary where
  mantissa : Nat
  exponent : Int
  deriving DecidableEq, Repr

namespace Binary

/-- The numerator of a value as a ratio of whole numbers. -/
def num (x : Binary) : Nat := x.mantissa * twoTo x.exponent.toNat

/-- The denominator of a value as a ratio of whole numbers. -/
def den (x : Binary) : Nat := twoTo (-x.exponent).toNat

/-- The nearest whole number to `num / den`; of two equally near ones the even one. -/
def roundDiv (num den : Nat) : Nat :=
  let q := num / den
  let r := num % den
  if den < 2 * r || (den == 2 * r && q % 2 == 1) then q + 1 else q

/-- **A floating-point format**: the bits of a mantissa and the range of exponents. -/
structure Format where
  precision : Nat
  minExponent : Int
  maxExponent : Int

/-- Single precision. -/
def single : Format := ⟨24, -149, 104⟩

/-- Double precision. -/
def double : Format := ⟨53, -1074, 971⟩

/-- The exponent at which the ratio `num / den` fills the mantissa, or the least one there is. -/
def Format.exponentFor (f : Format) (num den : Nat) : Int :=
  let e : Int := (num.log2 : Int) - den.log2 - f.precision
  -- The logarithms are rounded down, so the quotient may have one bit more than the mantissa.
  let q := num * twoTo (-e).toNat / (den * twoTo e.toNat)
  max f.minExponent (if twoTo f.precision ≤ q then e + 1 else e)

/-- **The nearest value of a format to `num / den`**, ties to the even mantissa. A ratio that rounds
beyond the largest value has none. -/
def Format.round (f : Format) (num den : Nat) : Option Binary :=
  let e := if num = 0 then f.minExponent else f.exponentFor num den
  let m := roundDiv (num * twoTo (-e).toNat) (den * twoTo e.toNat)
  -- Rounding up may carry into a further bit.
  let x : Binary := if m = twoTo f.precision then ⟨twoTo (f.precision - 1), e + 1⟩ else ⟨m, e⟩
  if f.maxExponent < x.exponent then none else some x

/-- The product of two values, rounded once. -/
def Format.mul (f : Format) (x y : Binary) : Option Binary :=
  f.round (x.num * y.num) (x.den * y.den)

/-- The quotient of two values, rounded once. -/
def Format.div (f : Format) (x y : Binary) : Option Binary :=
  f.round (x.num * y.den) (x.den * y.num)

end Binary

end CatalogSearch
