import CatalogSearch.Number.Shortest
import CatalogSearch.Text.Digit

/-! # Numerals

A number the way data formats write it, digit for digit, and the two readings it has:

* **`Numeral`**: sign, digits before and after the point, exponent;
* **`Numeral.text`**: the written form;
* **`Numeral.value`**: a whole number of the 64-bit ranges, else a double, unless it is too large;
* **`Numeral.ofNat`**, **`Numeral.ofDecimal`**: numerals to be written.

A double is read in two steps, each rounded on its own: the leading digits that fit 64 bits, then
one product or quotient with a power of ten. -/

namespace CatalogSearch

/-- **A number as it is written.** An empty `fraction` stands for no decimal point. -/
structure Numeral where
  negative : Bool
  whole : List Char
  fraction : List Char
  exponent : Option Int
  deriving DecidableEq, Repr

/-- What a numeral stands for. -/
inductive Numeral.Value where
  /-- A whole number written without point and exponent. -/
  | whole (n : Int)
  /-- A double and its sign. -/
  | real (negative : Bool) (x : Binary)
  /-- Beyond the largest double. -/
  | outOfRange
  deriving DecidableEq, Repr

namespace Numeral

/-! ## The written form -/

/-- The exponent part of a numeral. -/
def exponentText : Option Int → List Char
  | none => []
  | some e => 'e' :: (if e < 0 then ['-'] else []) ++ Text.natDigits e.natAbs

/-- The written form of a numeral. -/
def text (n : Numeral) : List Char :=
  (if n.negative then ['-'] else []) ++ n.whole ++
    (if n.fraction.isEmpty then [] else '.' :: n.fraction) ++ exponentText n.exponent

/-- The numeral of a natural number. -/
def ofNat (n : Nat) : Numeral := ⟨false, Text.natDigits n, [], none⟩

/-- The numeral of a whole number. -/
def ofInt (n : Int) : Numeral := ⟨n < 0, Text.natDigits n.natAbs, [], none⟩

@[simp] theorem text_ofNat (n : Nat) : (ofNat n).text = Text.natDigits n := by
  simp [text, ofNat, exponentText]

/-- **How a floating-point value is written**: from which power of ten on, and down to which one, it
has an exponent. -/
structure Layout where
  /-- Numbers below `10 ^ most` are written out. -/
  most : Int
  /-- Numbers from `10 ^ least` on are written out. -/
  least : Int

/-- Singles are written out from `0.000001` to below ten trillion. -/
def Layout.single : Layout := ⟨13, -6⟩

/-- Doubles are written out from `0.00001` to below ten quadrillion. -/
def Layout.double : Layout := ⟨16, -5⟩

/-- The numeral of a decimal, always with a point or an exponent. -/
def ofDecimal (layout : Layout) (negative : Bool) (d : Decimal) : Numeral :=
  let digits := Text.natDigits d.digits
  let point : Int := digits.length + d.exponent
  if d.digits = 0 then ⟨negative, ['0'], ['0'], none⟩
  else if 0 ≤ d.exponent ∧ point ≤ layout.most then
    ⟨negative, digits ++ List.replicate d.exponent.toNat '0', ['0'], none⟩
  else if 0 < point ∧ point ≤ layout.most then
    ⟨negative, digits.take point.toNat, digits.drop point.toNat, none⟩
  else if layout.least < point ∧ point ≤ 0 then
    ⟨negative, ['0'], List.replicate (-point).toNat '0' ++ digits, none⟩
  else ⟨negative, digits.take 1, digits.drop 1, some (point - 1)⟩

/-! ## The value -/

/-- The largest number of 64 bits. -/
def wordMax : Nat := UInt64.size - 1

/-- The value of a digit character, zero for any other. -/
def digit (c : Char) : Nat := (Text.digitValue? c).getD 0

/-- The number that the leading digits add to `acc` as long as it fits 64 bits, and how many digits
are left over. -/
def leadingDigits (acc : Nat) : List Char → Nat × Nat
  | [] => (acc, 0)
  | c :: cs =>
    if wordMax < acc * 10 + digit c then (acc, cs.length + 1)
    else leadingDigits (acc * 10 + digit c) cs

@[simp] theorem leadingDigits_nil (acc : Nat) : leadingDigits acc [] = (acc, 0) := rfl

/-- The largest power of ten that is a double. -/
def largestPower : Nat := 308

/-- A power of ten as a double. -/
def powerOfTen (k : Nat) : Binary := (Binary.double.round (tenTo k) 1).getD ⟨0, 0⟩

/-- The double `x · 10 ^ e`: one step by a power of ten that is a double, after as many steps by the
largest one as a small number needs. -/
def scale (x : Binary) (e : Int) : Option Binary :=
  if e.natAbs ≤ largestPower then
    if 0 ≤ e then Binary.double.mul x (powerOfTen e.natAbs)
    else Binary.double.div x (powerOfTen e.natAbs)
  -- A power of ten this large is no double: zero stays zero, and all else is too large or goes on.
  else if x.mantissa = 0 then some x
  else if _h : 0 ≤ e then none
  else
    (Binary.double.div x (powerOfTen largestPower)).bind fun y => scale y (e + largestPower)
termination_by (-e).toNat
decreasing_by
  simp only [largestPower]
  omega

/-- The double a numeral stands for. -/
def real? (n : Numeral) : Option Binary :=
  let (lead, dropped) := leadingDigits 0 n.whole
  let (all, unread) := leadingDigits lead n.fraction
  let e : Int := dropped - (n.fraction.length - unread : Nat) + n.exponent.getD 0
  (Binary.double.round all 1).bind fun x => scale x e

/-- **The value of a numeral.** Without point and exponent it is a whole number of 64 bits, signed
if there is a minus; `-0` and everything beyond those ranges is a double. -/
def value (n : Numeral) : Value :=
  let (size, unread) := leadingDigits 0 n.whole
  if n.fraction.isEmpty ∧ n.exponent = none ∧ unread = 0 ∧
      (n.negative = false ∨ 0 < size ∧ size ≤ UInt64.size / 2) then
    .whole (if n.negative then -(size : Int) else size)
  else
    match n.real? with
    | some x => .real n.negative x
    | none => .outOfRange

/-- **The text a value has on its own**: the digits of a whole number, else the shortest decimal. -/
def Value.text : Value → List Char
  | .whole n => (ofInt n).text
  | .real negative x =>
    (ofDecimal .double negative (Binary.shortest Binary.double x)).text
  | .outOfRange => []

end Numeral

end CatalogSearch
