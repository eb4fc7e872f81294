import CatalogSearch.Number.Binary

/-! # Shortest decimals

The decimal text of a floating-point value is the shortest one that still rounds to that value. The
numbers that do form an interval around it; on the grid of decimals with a given number of digits
only the two neighbours of the value have to be looked at:

* **`Decimal`**: a number `digits · 10 ^ exponent`;
* **`Binary.reach f x`**: the ends of the interval, in quarters of the last mantissa bit;
* **`Binary.onGrid? f x k`**: the nearer neighbour on the grid of `10 ^ k` inside the interval;
* **`Binary.shortest f x`**: the first hit, from coarse grids to fine ones. -/

namespace CatalogSearch

/-- **A decimal**, `digits · 10 ^ exponent`. -/
structure Decimal where
  digits : Nat
  exponent : Int
  deriving DecidableEq, Repr

/-- A decimal whose last digit is not zero, of the same value. -/
def Decimal.normalize (d : Decimal) : Decimal :=
  if h : d.digits = 0 then ⟨0, 0⟩
  else if d.digits % 10 = 0 then Decimal.normalize ⟨d.digits / 10, d.exponent + 1⟩
  else d
termination_by d.digits
decreasing_by omega

/-- The normal form of zero. -/
@[simp] theorem Decimal.normalize_zero (e : Int) : Decimal.normalize ⟨0, e⟩ = ⟨0, 0⟩ := by
  rw [Decimal.normalize]
  simp

namespace Binary

/-- The interval of numbers that round to `x`, in quarters of its last bit. Below a power of two the
values stand twice as close. -/
def reach (f : Format) (x : Binary) : Nat × Nat :=
  let down := if x.mantissa = twoTo (f.precision - 1) ∧ f.minExponent < x.exponent then 1 else 2
  (4 * x.mantissa - down, 4 * x.mantissa + 2)

/-- Whether `n · 10 ^ k` rounds to `x`: it lies inside the interval, or on its edge and the mantissa
is even. -/
def reaches (f : Format) (x : Binary) (n : Nat) (k : Int) : Bool :=
  let scaled := n * tenTo k.toNat * twoTo (2 - x.exponent).toNat
  let unit := tenTo (-k).toNat * twoTo (x.exponent - 2).toNat
  let (lo, hi) := reach f x
  if x.mantissa % 2 = 0 then lo * unit ≤ scaled && scaled ≤ hi * unit
  else lo * unit < scaled && scaled < hi * unit

/-- The nearer of the two neighbours of `x` on the grid of `10 ^ k` that round to `x`. -/
def onGrid? (f : Format) (x : Binary) (k : Int) : Option Decimal :=
  let num := x.num * tenTo (-k).toNat
  let den := x.den * tenTo k.toNat
  let below := num / den
  let near := roundDiv num den
  -- The interval is not symmetric below a power of two: the farther neighbour may reach where the
  -- nearer one does not.
  if reaches f x near k then some ⟨near, k⟩
  else if reaches f x below k then some ⟨below, k⟩
  else if reaches f x (below + 1) k then some ⟨below + 1, k⟩
  else none

/-- The power of ten of the first digit of `x`, or one less. -/
def leading (x : Binary) : Int :=
  if x.den ≤ x.num then (Nat.toDigits 10 (x.num / x.den)).length - 1
  else -((Nat.toDigits 10 (x.den / x.num)).length : Int)

/-- How many digits are enough to tell any two values of either format apart. -/
def enoughDigits : Nat := 18

/-- **The shortest decimal that rounds to `x`**, of several the nearest one. -/
def shortest (f : Format) (x : Binary) : Decimal :=
  if x.mantissa = 0 then ⟨0, 0⟩
  else
    let hit := (List.range enoughDigits).findSome? fun i => onGrid? f x (leading x - (i : Nat))
    (hit.getD ⟨x.num / x.den, 0⟩).normalize

end Binary

end CatalogSearch
