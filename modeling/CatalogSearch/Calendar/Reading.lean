import CatalogSearch.Calendar.Date

/-! # Reading dates

A written date is year, month and day with `-` between them. White space may stand before each
number. The year has up to four digits, or any number of them after a sign; month and day have one
or two. `Date.Gaps` says whether white space may also stand before a `-` and at the end.

* **`Date.read? gaps cs`**: the date a whole text stands for;
* **`Date.ofLead? cs`**: the date the first ten bytes of a text stand for;
* **`Date.ofTriple? y m d`**: the date of three numbers as they come in a list, month and day taken
  modulo 2 ^ 32. -/

namespace CatalogSearch.Date

/-- Whether white space may stand before a `-` and at the end of a written date. -/
inductive Gaps where
  | allowed
  | refused
  deriving DecidableEq, Repr

/-- The number that the digits at the start of a text stand for, at most `width` of them, and what
follows. -/
def readDigits? (width : Nat) (cs : List Char) : Option (Nat × List Char) :=
  let digits := (cs.take width).takeWhile fun c => (Text.digitValue? c).isSome
  (Text.readNat? digits).map fun n => (n, cs.drop digits.length)

/-- A year: after a sign as long as its digits go, else up to four of them. -/
def readYear? (cs : List Char) : Option (Int × List Char) :=
  match Text.trimStart cs with
  -- After a sign nothing limits the digits.
  | '-' :: rest => (readDigits? rest.length rest).map fun (n, rest) => (-(n : Int), rest)
  | '+' :: rest => (readDigits? rest.length rest).map fun (n, rest) => ((n : Int), rest)
  | rest => (readDigits? 4 rest).map fun (n, rest) => ((n : Int), rest)

/-- A month or a day. -/
def readPart? (cs : List Char) : Option (Nat × List Char) := readDigits? 2 (Text.trimStart cs)

/-- A text without the white space a gap may have. -/
def Gaps.skip : Gaps → List Char → List Char
  | .allowed, cs => Text.trimStart cs
  | .refused, cs => cs

/-- What follows the `-` between two parts. -/
def readDash? (gaps : Gaps) (cs : List Char) : Option (List Char) :=
  match gaps.skip cs with
  | '-' :: rest => some rest
  | _ => none

/-- **The date a whole text stands for.** -/
def read? (gaps : Gaps) (cs : List Char) : Option Date := do
  let (year, cs) ← readYear? cs
  let cs ← readDash? gaps cs
  let (month, cs) ← readPart? cs
  let cs ← readDash? gaps cs
  let (day, cs) ← readPart? cs
  if (gaps.skip cs).isEmpty then of? year month day else none

/-- The characters of the first `n` bytes of a text; none if it is shorter or the cut would split a
character. -/
def leadBytes? : List Char → Nat → Option (List Char)
  | _, 0 => some []
  | [], _ + 1 => none
  | c :: cs, n + 1 =>
    if c.utf8Size ≤ n + 1 then (leadBytes? cs (n + 1 - c.utf8Size)).map (c :: ·) else none

/-- How many bytes a written date takes. -/
def writtenSize : Nat := 10

/-- **The date at the start of a text**, read from its first ten bytes and nothing else. -/
def ofLead? (cs : List Char) : Option Date := (leadBytes? cs writtenSize).bind (read? .refused)

/-- The date of three numbers from a list. The year has to fit 32 bits, of month and day only the
low 32 bits count. -/
def ofTriple? (year : Int) (month day : Nat) : Option Date :=
  if -(UInt32.size / 2 : Nat) ≤ year ∧ year < (UInt32.size / 2 : Nat) then
    of? year (month % UInt32.size) (day % UInt32.size)
  else none

end CatalogSearch.Date
