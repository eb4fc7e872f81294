import CatalogSearch.Calendar.Date
import CatalogSearch.Number.Numeral
import CatalogSearch.Text.Split
import CatalogSearch.Toml.Value

/-! # TOML scalars

Values written without quotes: truth values, numbers, dates and times.

* **`Toml.readInteger?`**: whole numbers, in four bases;
* **`Toml.readReal?`**, **`Toml.isFinite`**: numbers with a fraction or an exponent, and those that
  are not too large;
* **`Toml.isFloat`**: such numbers, infinities and `nan`;
* **`Toml.isMoment`**: dates and times;
* **`Toml.ofWord?`**: the value of a word. -/

namespace CatalogSearch.Toml

/-! ## Numbers -/

/-- Digits that underscores may stand between. -/
def readUnderscored? (isDigit : Char → Bool) (cs : List Char) : Option (List Char) :=
  let groups := Text.splitOn (· == '_') cs
  if groups.all fun g => !g.isEmpty && g.all isDigit then some groups.flatten else none

/-- A text without its sign, and whether that is a minus. -/
def readSign : List Char → Bool × List Char
  | '+' :: cs => (false, cs)
  | '-' :: cs => (true, cs)
  | cs => (false, cs)

/-- A digit of the given base. -/
def isDigitOf (base : Nat) (c : Char) : Bool := (Text.hexValue? c).any (· < base)

/-- The number of some underscored digits in the given base. -/
def readBase? (base : Nat) (cs : List Char) : Option Nat :=
  (readUnderscored? (isDigitOf base) cs).bind (Text.readDigits? Text.hexValue? base 0)

/-- Underscored decimal digits, the first of which is no zero unless it is the only one. -/
def readWhole? (cs : List Char) : Option (List Char) :=
  (readUnderscored? (isDigitOf 10) cs).filter fun ds => ds.head? != some '0' || ds.length == 1

/-- The least whole number that is kept. -/
def minInteger : Int := -(UInt64.size * (UInt64.size / 2) : Nat)

/-- The largest whole number that is kept. -/
def maxInteger : Int := (UInt64.size * UInt64.size - 1 : Nat)

/-- **A whole number.** The base is ten, unless the number has no sign and starts with `0x`, `0o` or
`0b`. -/
def readInteger? (cs : List Char) : Option Int :=
  let found : Option Int :=
    match cs with
    | '0' :: 'x' :: cs => (readBase? 16 cs).map Int.ofNat
    | '0' :: 'o' :: cs => (readBase? 8 cs).map Int.ofNat
    | '0' :: 'b' :: cs => (readBase? 2 cs).map Int.ofNat
    | cs =>
      let (negative, cs) := readSign cs
      ((readWhole? cs).bind Text.readNat?).map fun n => if negative then -(n : Int) else n
  found.filter fun n => minInteger ≤ n ∧ n ≤ maxInteger

/-- The mark of an exponent. -/
def isExponentMark (c : Char) : Bool := c == 'e' || c == 'E'

/-- **A number with a fraction or an exponent**, without its sign. -/
def readReal? (cs : List Char) : Option Numeral := do
  let mantissa := cs.takeWhile (!isExponentMark ·)
  let exponent ←
    match cs.dropWhile (!isExponentMark ·) with
    | [] => some none
    | _ :: cs =>
      let (negative, cs) := readSign cs
      ((readUnderscored? (isDigitOf 10) cs).bind Text.readNat?).map fun n =>
        some (if negative then -(n : Int) else n)
  match Text.splitOn (· == '.') mantissa with
  -- Without point and exponent it would be a whole number.
  | [whole] =>
    if exponent.isSome then (readWhole? whole).map fun whole => ⟨false, whole, [], exponent⟩
    else none
  | [whole, fraction] =>
    let whole ← readWhole? whole
    let fraction ← readUnderscored? (isDigitOf 10) fraction
    return ⟨false, whole, fraction, exponent⟩
  | _ => none

/-- **A number that is near a finite double**: rounded once, it does not pass the largest one. -/
def isFinite (n : Numeral) : Bool :=
  let digits := (n.whole ++ n.fraction).dropWhile (· == '0')
  let e : Int := n.exponent.getD 0 - n.fraction.length
  -- The number is below `10 ^ point`, and not below a tenth of that.
  let point := digits.length + e
  if digits.isEmpty || point ≤ 0 then true
  else if Numeral.largestPower + 1 < point then false
  else
    let d := (Text.readNat? digits).getD 0
    (Binary.double.round (d * tenTo e.toNat) (tenTo (-e).toNat)).isSome

/-- **A finite number with a fraction or an exponent**, an infinity or `nan`. -/
def isFloat (cs : List Char) : Bool :=
  let cs := (readSign cs).2
  cs == "inf".toList || cs == "nan".toList || (readReal? cs).any isFinite

/-! ## Dates and times -/

/-- The number of the first `n` characters, all of them digits, and what follows. -/
def readFixed? (n : Nat) (cs : List Char) : Option (Nat × List Char) :=
  let ds := cs.take n
  if ds.length = n then (Text.readNat? ds).map fun k => (k, cs.drop n) else none

/-- What follows a given character. -/
def skipChar? (c : Char) : List Char → Option (List Char)
  | d :: cs => if d = c then some cs else none
  | [] => none

/-- What follows a date. -/
def skipDate? (cs : List Char) : Option (List Char) := do
  let (year, cs) ← readFixed? 4 cs
  let cs ← skipChar? '-' cs
  let (month, cs) ← readFixed? 2 cs
  let cs ← skipChar? '-' cs
  let (day, cs) ← readFixed? 2 cs
  if IsDay year month day then some cs else none

/-- What follows hours and minutes. -/
def skipMinutes? (cs : List Char) : Option (List Char) := do
  let (hour, cs) ← readFixed? 2 cs
  let cs ← skipChar? ':' cs
  let (minute, cs) ← readFixed? 2 cs
  if hour ≤ 23 ∧ minute ≤ 59 then some cs else none

/-- What follows the fraction of a second, if there is one. -/
def skipFraction? : List Char → Option (List Char)
  | '.' :: cs =>
    let rest := cs.dropWhile (isDigitOf 10)
    if rest.length < cs.length then some rest else none
  | cs => some cs

/-- What follows a time. The seconds may be left out. -/
def skipTime? (cs : List Char) : Option (List Char) := do
  match ← skipMinutes? cs with
  | ':' :: cs =>
    let (second, cs) ← readFixed? 2 cs
    if second ≤ 60 then skipFraction? cs else none
  | cs => some cs

/-- What follows the offset of a time, if there is one. -/
def skipOffset? : List Char → Option (List Char)
  | 'Z' :: cs | 'z' :: cs => some cs
  | '+' :: cs | '-' :: cs => skipMinutes? cs
  | cs => some cs

/-- **A date, a time, or both** with `T` or a blank between them. -/
def isMoment (cs : List Char) : Bool :=
  match skipDate? cs with
  | some [] => true
  | some (c :: rest) =>
    (c == 'T' || c == 't' || c == ' ') && (skipTime? rest).bind skipOffset? == some []
  | none => skipTime? cs == some []

/-! ## Words -/

/-- **The value of a word.** -/
def ofWord? (cs : List Char) : Option Toml :=
  if cs = "true".toList then some (.boolean true)
  else if cs = "false".toList then some (.boolean false)
  else
    match readInteger? cs with
    | some n => some (.integer n)
    | none =>
      if isFloat cs then some (.float cs) else if isMoment cs then some (.moment cs) else none

/-- The characters of words. -/
def isWordChar (c : Char) : Bool :=
  c.isAlphanum || c == '_' || c == '-' || c == '+' || c == '.' || c == ':'

/-- The word at the start of a text, and what follows it. A time that follows a date after one blank
belongs to its word. -/
def scanWord (cs : List Char) : List Char × List Char :=
  let word := cs.takeWhile isWordChar
  match cs.dropWhile isWordChar with
  | ' ' :: c :: rest =>
    if skipDate? word = some [] ∧ isDigitOf 10 c then
      (word ++ ' ' :: (c :: rest).takeWhile isWordChar, (c :: rest).dropWhile isWordChar)
    else (word, ' ' :: c :: rest)
  | rest => (word, rest)

end CatalogSearch.Toml
