/-! # Punycode

Labels of domain names in ASCII. The ASCII characters of a label come first; the others follow as
numbers, each telling how far the next insertion is from the one before, in the order of their code
points.

* **`Punycode.encode`**, **`Punycode.decode?`**: a label in ASCII, and back;
* **`Punycode.encodeNumber`**, **`Punycode.decodeNumber?`**: one number, in digits whose weights
  depend on a bias;
* **`Punycode.adapt`**: the bias for the next number. -/

namespace CatalogSearch.Punycode

/-! ## Numbers -/

/-- The number of digits. -/
def base : Nat := 36

/-- From which value on a digit at place `k` is not the last one. -/
def threshold (bias k : Nat) : Nat := min 26 (max 1 (k - bias))

/-- Thresholds lie between the bounds of the format. -/
theorem threshold_bounds (bias k : Nat) : 1 ≤ threshold bias k ∧ threshold bias k ≤ 26 := by
  unfold threshold
  omega

/-- A digit: letters, then numerals. -/
def digit (n : Nat) : Char := if n < 26 then Char.ofNat (0x61 + n) else Char.ofNat (0x30 + (n - 26))

/-- The value of a digit, in either case. -/
def digitValue? (c : Char) : Option Nat :=
  if c.isLower then some (c.toNat - 0x61)
  else if c.isUpper then some (c.toNat - 0x41)
  else if c.isDigit then some (c.toNat - 0x30 + 26)
  else none

/-- **A number in digits**, from place `k` on. -/
def encodeNumber (bias k n : Nat) : List Char :=
  let t := threshold bias k
  if n < t then [digit n]
  else digit (t + (n - t) % (base - t)) :: encodeNumber bias (k + base) ((n - t) / (base - t))
termination_by n
decreasing_by
  have h := threshold_bounds bias k
  have := Nat.div_le_self (n - threshold bias k) (base - threshold bias k)
  omega

/-- **The number at the start of some digits**, from place `k` of weight `w` on, and what follows;
weights have 32 bits. -/
def decodeNumber? (bias k w : Nat) : List Char → Option (Nat × List Char)
  | [] => none
  | c :: cs =>
    (digitValue? c).bind fun d =>
      let t := threshold bias k
      if d < t then some (d * w, cs)
      else if UInt32.size ≤ w * (base - t) then none
      else
        (decodeNumber? bias (k + base) (w * (base - t)) cs).map fun (n, rest) => (d * w + n, rest)

/-- How often a number has to be divided to become small, in steps of the base, and what it
becomes. -/
def reduce (k n : Nat) : Nat × Nat :=
  -- 455 is the largest number that a single step of the bias covers: 35 · 26 / 2.
  if 455 < n then reduce (k + base) (n / 35) else (k, n)
termination_by n

/-- **The bias after a number**, which was the `count`-th. -/
def adapt (n count : Nat) (first : Bool) : Nat :=
  -- The first number is damped more: it spans the gap from ASCII to the script of the label.
  let n := if first then n / 700 else n / 2
  let (k, n) := reduce 0 (n + n / count)
  k + base * n / (n + 38)

/-- The bias at first. -/
def firstBias : Nat := 72

/-! ## Labels -/

/-- The characters ASCII has. -/
def isBasic (c : Char) : Bool := c.toNat < 0x80

/-- What has been written: the digits, the distance since the last insertion, the bias, and how many
characters of the label are there. -/
structure State where
  digits : List Char := []
  distance : Nat := 0
  bias : Nat := firstBias
  count : Nat
  isFirst : Bool := true

/-- One character of the label passed by, while those of code point `n` are inserted. -/
def State.pass (n : Nat) (s : State) (c : Char) : State :=
  if c.toNat < n then { s with distance := s.distance + 1 }
  else if c.toNat = n then
    { digits := s.digits ++ encodeNumber s.bias base s.distance
      distance := 0
      bias := adapt s.distance (s.count + 1) s.isFirst
      count := s.count + 1
      isFirst := false }
  else s

/-- Inserts all characters of the given code points, in order. All below `n` are there. -/
def insertAll (label : List Char) (s : State) (n : Nat) : List Nat → State
  | [] => s
  | m :: ms =>
    -- Each code point in between could have stood at any place of the label so far.
    let s := { s with distance := s.distance + (m - n) * (s.count + 1) }
    let s := label.foldl (State.pass m) s
    insertAll label { s with distance := s.distance + 1 } (m + 1) ms

/-- **A label in ASCII.** -/
def encode (label : List Char) : List Char :=
  let basic := label.filter isBasic
  let others := (label.filter (!isBasic ·)).map Char.toNat
  let state := insertAll label { count := basic.length } 0x80 (others.mergeSort.eraseDups)
  (if basic.isEmpty then [] else basic ++ ['-']) ++ state.digits

/-- Reads insertions: the next one is counted from place `place` and code point `n`, in 32 bits. -/
def decodeFrom? (label : List Char) (n place bias : Nat) (isFirst : Bool) (cs : List Char) :
    Option (List Char) :=
  match cs with
  | [] => some label
  | c :: rest =>
    match decodeNumber? bias base 1 (c :: rest) with
    | none => none
    | some (distance, rest') =>
      let size := label.length + 1
      let sum := place + distance
      let n := n + sum / size
      let place := sum % size
      let next := label.take place ++ Char.ofNat n :: label.drop place
      if _h : rest'.length ≤ rest.length then
        if sum < UInt32.size ∧ n.isValidChar then
          decodeFrom? next n (place + 1) (adapt distance size isFirst) false rest'
        else none
      else none
termination_by cs.length

/-- **The label that a text in ASCII stands for.** -/
def decode? (cs : List Char) : Option (List Char) :=
  -- The last hyphen ends the ASCII characters; they may contain others, but there are some.
  if cs.contains '-' then
    let basic := (cs.reverse.dropWhile (· != '-')).drop 1
    let digits := (cs.reverse.takeWhile (· != '-')).reverse
    if basic.isEmpty then none else decodeFrom? basic.reverse 0x80 0 firstBias true digits
  else decodeFrom? [] 0x80 0 firstBias true cs

end CatalogSearch.Punycode
