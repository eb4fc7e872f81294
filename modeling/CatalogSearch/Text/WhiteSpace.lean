import CatalogSearch.Text.Split

/-! # White space

The characters with the `White_Space` property, and what the rest of the library does with them:

* **`isWhite c`**: the property itself;
* **`trimStart cs`**, **`trim cs`**: a text without the white space at its start, or at both ends;
* **`words cs`**: the maximal runs of other characters;
* **`isBlank cs`**: nothing but white space.

Texts are lists of characters here; `blank` and `trimmed` read the same off a `String`. -/

namespace CatalogSearch.Text

/-- The property `White_Space`, as ranges of code points. -/
def whiteRanges : List (Nat × Nat) :=
  [(0x09, 0x0D), (0x20, 0x20), (0x85, 0x85), (0xA0, 0xA0), (0x1680, 0x1680), (0x2000, 0x200A),
   (0x2028, 0x2029), (0x202F, 0x202F), (0x205F, 0x205F), (0x3000, 0x3000)]

/-- Membership in a list of inclusive ranges. -/
def inRanges (ranges : List (Nat × Nat)) (n : Nat) : Bool :=
  ranges.any fun (lo, hi) => lo ≤ n && n ≤ hi

/-- White space in the sense of the property `White_Space`. -/
def isWhite (c : Char) : Bool := inRanges whiteRanges c.toNat

/-- White space of the ASCII range is white space. -/
theorem isWhite_of_isWhitespace {c : Char} (h : c.isWhitespace = true) : isWhite c = true := by
  simp only [Char.isWhitespace, Bool.or_eq_true, decide_eq_true_eq] at h
  rcases h with ((h | h) | h) | h <;> subst h <;> rfl

/-- A text without its leading white space. -/
def trimStart (cs : List Char) : List Char := cs.dropWhile isWhite

@[simp] theorem trimStart_nil : trimStart [] = [] := rfl

/-- Cons reading of `trimStart`: a white character is dropped, any other ends the search. -/
theorem trimStart_cons (c : Char) (cs : List Char) :
    trimStart (c :: cs) = if isWhite c then trimStart cs else c :: cs := by
  simp only [trimStart, List.dropWhile_cons]

/-- A text without the white space at its ends. -/
def trim (cs : List Char) : List Char := (trimStart (trimStart cs).reverse).reverse

@[simp] theorem trim_nil : trim [] = [] := rfl

/-- Nothing but white space. -/
def isBlank (cs : List Char) : Bool := cs.all isWhite

@[simp] theorem isBlank_nil : isBlank [] = true := rfl

@[simp] theorem isBlank_cons (c : Char) (cs : List Char) :
    isBlank (c :: cs) = (isWhite c && isBlank cs) := by simp [isBlank]

/-- **The words of a text**: its maximal runs of characters that are not white space. -/
def words (cs : List Char) : List (List Char) := (splitOn isWhite cs).filter fun w => !w.isEmpty

@[simp] theorem words_nil : words [] = [] := rfl

/-- No word is empty. -/
theorem ne_nil_of_mem_words {w cs : List Char} (h : w ∈ words cs) : w ≠ [] := by
  simp only [words, List.mem_filter] at h
  simpa using h.2

/-- A `String` without the white space at its ends. -/
def trimmed (s : String) : String := String.ofList (trim s.toList)

/-- A `String` of nothing but white space. -/
def blank (s : String) : Bool := isBlank s.toList

end CatalogSearch.Text
