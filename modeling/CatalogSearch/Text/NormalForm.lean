import CatalogSearch.Text.CombiningClass
import CatalogSearch.Text.Composite

/-! # The composed normal form

Texts that look and mean the same have one normal form: every character is taken apart, marks on one
letter are put in the order of their classes, and what can be put together is put together again.

* **`parts c`**: a character taken apart;
* **`join? c d`**: a character put together from one and the part behind it;
* **`orderMarks cs`**: marks in the order of their classes;
* **`compose cs`**: all that can be put together;
* **`normalForm cs`**: the three steps.

A text in ASCII is its own normal form (`normalForm_of_ascii`). -/

namespace CatalogSearch.Text

/-! ## Korean syllables

A syllable has a lead and a vowel, and it may have a tail. The syllables stand in the order of these
three. -/

/-- The first lead. -/
def firstLead : Nat := 0x1100

/-- The first vowel. -/
def firstVowel : Nat := 0x1161

/-- The code point before the first tail. -/
def beforeTails : Nat := 0x11A7

/-- The first syllable. -/
def firstSyllable : Nat := 0xAC00

/-- How many leads there are. -/
def leadCount : Nat := 19

/-- How many vowels there are. -/
def vowelCount : Nat := 21

/-- How many tails there are, where none counts as one. -/
def tailCount : Nat := 28

/-- The place of a syllable among all. -/
def syllablePlace? (n : Nat) : Option Nat :=
  if firstSyllable ≤ n ∧ n < firstSyllable + leadCount * vowelCount * tailCount then
    some (n - firstSyllable)
  else none

/-- A syllable taken apart. -/
def syllableParts (place : Nat) : List Char :=
  let lead := firstLead + place / (vowelCount * tailCount)
  let vowel := firstVowel + place / tailCount % vowelCount
  let tail := place % tailCount
  ([lead, vowel] ++ if tail = 0 then [] else [beforeTails + tail]).map Char.ofNat

/-- The syllable of a lead and a vowel, or of a syllable without tail and a tail. -/
def joinSyllable? (n m : Nat) : Option Char :=
  if firstLead ≤ n ∧ n < firstLead + leadCount ∧ firstVowel ≤ m ∧ m < firstVowel + vowelCount then
    let place := ((n - firstLead) * vowelCount + (m - firstVowel)) * tailCount
    some (Char.ofNat (firstSyllable + place))
  else if beforeTails < m ∧ m < beforeTails + tailCount then
    ((syllablePlace? n).filter (· % tailCount = 0)).map fun _ => Char.ofNat (n + (m - beforeTails))
  else none

/-! ## Taking apart and putting together -/

/-- The first composite character. -/
def firstComposite : Nat := 0xC0

/-- **A character taken apart.** -/
def parts (c : Char) : List Char :=
  if c.toNat < firstComposite then [c]
  else
    match syllablePlace? c.toNat with
    | some place => syllableParts place
    | none => (composites.image? c).getD [c]

/-- **The character of one and the part behind it**: its parts are those of the first and the
second. -/
def join? (c d : Char) : Option Char :=
  if d.toNat < firstMark then none
  else (joinSyllable? c.toNat d.toNat).or (composites.preimage? (parts c ++ [d]))

/-! ## The order of marks -/

/-- Whether a character stands behind another one in the order of their classes. -/
def comesAfter (c d : Char) : Bool :=
  combiningClass d != 0 && combiningClass d < combiningClass c

/-- A character put in front of a text, or behind the marks that it comes after. -/
def putMark (c : Char) : List Char → List Char
  | [] => [c]
  | d :: cs => if comesAfter c d then d :: putMark c cs else c :: d :: cs

/-- **Marks in the order of their classes**; no mark passes a character that has no class. -/
def orderMarks (cs : List Char) : List Char := cs.foldr putMark []

/-- Ordering loses nothing. -/
theorem putMark_perm (c : Char) (cs : List Char) : (putMark c cs).Perm (c :: cs) := by
  induction cs with
  | nil => exact List.Perm.refl _
  | cons d cs ih =>
    rw [putMark]
    split
    · exact (ih.cons d).trans (List.Perm.swap c d cs)
    · exact List.Perm.refl _

/-- **Ordering loses nothing.** -/
theorem orderMarks_perm (cs : List Char) : (orderMarks cs).Perm cs := by
  induction cs with
  | nil => exact List.Perm.refl _
  | cons c cs ih => exact (putMark_perm c _).trans (ih.cons c)

/-! ## Composition -/

/-- Whether the marks since the last character without a class, last first, keep a character from
it. -/
def isBlocked (marks : List Char) (c : Char) : Bool :=
  match marks with
  | [] => false
  | d :: _ => combiningClass c ≤ combiningClass d

/-- What can be put together from a character without a class on: `marks` are those behind it that
did not join it, last first. -/
def composeFrom (lead : Char) (marks : List Char) : List Char → List Char
  | [] => lead :: marks.reverse
  | c :: cs =>
    match if isBlocked marks c then none else join? lead c with
    | some joined => composeFrom joined marks cs
    | none =>
      if combiningClass c = 0 then lead :: marks.reverse ++ composeFrom c [] cs
      else composeFrom lead (c :: marks) cs

/-- **All that can be put together.** Marks without a letter stay. -/
def compose : List Char → List Char
  | [] => []
  | c :: cs => if combiningClass c = 0 then composeFrom c [] cs else c :: compose cs

/-- **The composed normal form of a text.** -/
def normalForm (cs : List Char) : List Char := compose (orderMarks (cs.flatMap parts))

/-! ## Texts in ASCII -/

/-- A text below the first composite character stays apart. -/
theorem flatMap_parts {cs : List Char} (h : ∀ c ∈ cs, c.toNat < firstComposite) :
    cs.flatMap parts = cs := by
  induction cs with
  | nil => rfl
  | cons c cs ih =>
    rw [List.flatMap_cons, ih fun d hd => h d (by simp [hd]), parts, if_pos (h c (by simp))]
    rfl

/-- A text without marks is in order. -/
theorem orderMarks_eq_self {cs : List Char} (h : ∀ c ∈ cs, c.toNat < firstMark) :
    orderMarks cs = cs := by
  induction cs with
  | nil => rfl
  | cons c cs ih =>
    rw [orderMarks, List.foldr_cons]
    change putMark c (orderMarks cs) = _
    rw [ih fun d hd => h d (by simp [hd])]
    cases cs with
    | nil => rfl
    | cons d cs => simp [putMark, comesAfter, combiningClass_of_lt (h d (by simp))]

/-- Nothing joins where there are no marks. -/
theorem composeFrom_eq_cons {lead : Char} {cs : List Char} (h : ∀ c ∈ cs, c.toNat < firstMark) :
    composeFrom lead [] cs = lead :: cs := by
  induction cs generalizing lead with
  | nil => rfl
  | cons c cs ih =>
    have hc := h c (by simp)
    rw [composeFrom, isBlocked, join?, if_pos hc]
    simp [combiningClass_of_lt hc, ih fun d hd => h d (by simp [hd])]

/-- **A text in ASCII is its own normal form.** -/
theorem normalForm_of_ascii {cs : List Char} (h : ∀ c ∈ cs, c.toNat < 0x80) :
    normalForm cs = cs := by
  have hm : ∀ c ∈ cs, c.toNat < firstMark := fun c hc => Nat.lt_trans (h c hc) (by decide)
  rw [normalForm, flatMap_parts fun c hc => Nat.lt_trans (h c hc) (by decide),
    orderMarks_eq_self hm]
  cases cs with
  | nil => rfl
  | cons c cs =>
    rw [compose, if_pos (combiningClass_of_lt (hm c (by simp))),
      composeFrom_eq_cons fun d hd => hm d (by simp [hd])]

end CatalogSearch.Text
