import CatalogSearch.Text.WhiteSpace
import CatalogSearch.Text.Digit

/-! # Tables of code points

A property that many characters have is written as one text: entries with blanks between them, every
number in hexadecimal. An entry is a code point `AD`, a range `300-36F`, or every second one of a
range, `100-12E/2`. It may go on with what its first code point stands for, `DF=73.73`; along the
entry, the last code point of that moves as well.

* **`CodeRun`**, **`CodeRun.read?`**: an entry, and the entry of a text;
* **`CodeTable.ofText`**: the table of a text;
* **`CodeTable.contains`**, **`CodeTable.image?`**: whether a character is in a table, and what it
  stands for there;
* **`CodeTable.preimage?`**: the character that stands for a text. -/

namespace CatalogSearch.Text

/-- **An entry**: every `step`-th code point from `first` to `last`, and what the first one stands
for. -/
structure CodeRun where
  first : Nat
  last : Nat
  step : Nat
  image : List Nat
  deriving DecidableEq, Repr

namespace CodeRun

/-- A number in hexadecimal. -/
def readHex? : List Char → Option Nat
  | [] => none
  | cs => readDigits? hexValue? 16 0 cs

/-- **The entry of a text.** -/
def read? (cs : List Char) : Option CodeRun := do
  let (points, image) ←
    match splitOn (· == '=') cs with
    | [points] => some (points, [])
    | [points, image] =>
      ((splitOn (· == '.') image).mapM readHex?).map fun image => (points, image)
    | _ => none
  let (range, step) ←
    match splitOn (· == '/') points with
    | [range] => some (range, 1)
    | [range, step] => (readHex? step).map fun step => (range, step)
    | _ => none
  match ← (splitOn (· == '-') range).mapM readHex? with
  | [n] => some ⟨n, n, step, image⟩
  | [first, last] => some ⟨first, last, step, image⟩
  | _ => none

/-- The code points of an entry. -/
def covers (r : CodeRun) (n : Nat) : Bool :=
  r.first ≤ n && n ≤ r.last && (n - r.first) % r.step == 0

/-- An entry that is not turned around starts with its first code point. -/
theorem covers_first {r : CodeRun} (h : r.first ≤ r.last) : r.covers r.first = true := by
  simp [covers, h]

/-- What a code point of an entry stands for. -/
def imageAt (r : CodeRun) (n : Nat) : List Char :=
  match r.image.getLast? with
  | none => []
  | some last => (r.image.dropLast ++ [last + (n - r.first)]).map Char.ofNat

/-- The code point of an entry that stands for a text. -/
def preimage? (r : CodeRun) (cs : List Char) : Option Char :=
  match r.image.getLast?, cs.getLast? with
  | some last, some c =>
    let n := r.first + (c.toNat - last)
    if last ≤ c.toNat ∧ r.covers n ∧ r.image.dropLast = cs.dropLast.map Char.toNat then
      some (Char.ofNat n)
    else none
  | _, _ => none

end CodeRun

/-- **A table of code points.** -/
structure CodeTable where
  runs : List CodeRun
  deriving Repr

namespace CodeTable

/-- **The table of a text.** What is no entry is left out. -/
def ofText (s : String) : CodeTable := ⟨(words s.toList).filterMap CodeRun.read?⟩

/-- Whether a character is in a table. -/
def contains (t : CodeTable) (c : Char) : Bool := t.runs.any (·.covers c.toNat)

/-- **What a character stands for**, if it is in a table. -/
def image? (t : CodeTable) (c : Char) : Option (List Char) :=
  (t.runs.find? (·.covers c.toNat)).map (·.imageAt c.toNat)

/-- **The character that stands for a text**, if there is one in a table. -/
def preimage? (t : CodeTable) (cs : List Char) : Option Char :=
  t.runs.findSome? (·.preimage? cs)

/-- The characters of a table are those that stand for something there. -/
theorem isSome_image? (t : CodeTable) (c : Char) : (t.image? c).isSome = t.contains c := by
  rw [Bool.eq_iff_iff]
  simp [image?, contains]

end CodeTable

end CatalogSearch.Text
