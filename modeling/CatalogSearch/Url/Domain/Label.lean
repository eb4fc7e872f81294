import CatalogSearch.Text.Direction
import CatalogSearch.Text.Joining
import CatalogSearch.Url.Domain.Spelling
import CatalogSearch.Url.Punycode

/-! # Labels of domain names

A domain name consists of labels. One in Punycode means another one, outside ASCII.

* **`Label.meant?`**: the label that is meant;
* **`Label.isWellFormed`**: whether a label may stand in a name, by its marks and joiners;
* **`Label.isDirected`**: whether a label can be read from one side to the other, next to labels
  that are written from right to left;
* **`Label.toAscii`**: a label in ASCII. -/

namespace CatalogSearch.Domain.Label

open Text

/-! ## Punycode -/

/-- The start of a label in Punycode. -/
def punycodeMark : List Char := "xn--".toList

/-- How many characters of a label in Punycode are read. -/
def maxCoded : Nat := 2000

/-- How many characters a label outside ASCII has at most. -/
def maxLength : Nat := 1000

/-- The label that a text in Punycode means. Another spelling than the one that is kept means
nothing, and no label in ASCII is written in this way. -/
def readPunycode? (cs : List Char) : Option (List Char) :=
  if cs.all Punycode.isBasic ∧ cs ≠ [] ∧ cs.getLast? ≠ some '-' ∧ cs.length ≤ maxCoded then
    (Punycode.decode? cs).filter isSpelled
  else none

/-- **The label that is meant**, if there is one. -/
def meant? (label : List Char) : Option (List Char) :=
  match stripPrefix? punycodeMark label with
  | some rest => readPunycode? rest
  | none => some label

/-- **A label in ASCII.** -/
def toAscii (label : List Char) : List Char :=
  if label.all Punycode.isBasic then label else punycodeMark ++ Punycode.encode label

/-! ## Marks and joiners -/

/-- The sign that keeps letters from joining. -/
def nonJoiner : Char := '\u200c'

/-- The sign that makes letters join. -/
def joiner : Char := '\u200d'

/-- Whether the first character that is not passed over joins in one of the given ways. -/
def joins (ways : List Joining) (cs : List Char) : Bool :=
  match cs.find? fun c => Joining.ofChar c != .transparent with
  | some c => ways.contains (Joining.ofChar c)
  | none => false

/-- Whether a joiner has a meaning between what stands before it, last first, and what stands behind
it: after a sign that takes the vowel from a letter, or where it keeps two letters apart. -/
def joinerFits (c : Char) (before after : List Char) : Bool :=
  (before.head?.any fun d => combiningClass d == viramaClass) ||
    (c == nonJoiner && joins [.left, .dual] before && joins [.right, .dual] after)

/-- Whether all joiners have a meaning; `before` is what stands before the text, last first. -/
def joinersFit (before : List Char) : List Char → Bool
  | [] => true
  | c :: cs =>
    (!(c == nonJoiner || c == joiner) || joinerFits c before cs) && joinersFit (c :: before) cs

/-- A label that is in ASCII or not too long. -/
def isShort (label : List Char) : Bool :=
  label.all Punycode.isBasic || label.length ≤ maxLength

/-- **A label that may stand in a name.** It does not start with a mark, and its joiners have a
meaning. -/
def isWellFormed (label : List Char) : Bool :=
  !label.head?.any isMark && joinersFit [] label && isShort label

/-! ## Directions -/

/-- The classes whose characters bring in the right-to-left direction. -/
def turns : Direction → Bool
  | .rightToLeft | .arabicLetter | .arabicNumber => true
  | _ => false

/-- The first character of a script that is written from right to left. -/
def firstTurning : Nat := 0x590

/-- Whether a label has a character that brings in the right-to-left direction. -/
def hasTurn (label : List Char) : Bool :=
  label.any fun c => firstTurning ≤ c.toNat && turns (Direction.ofChar c)

/-- The classes that labels of both directions may have. -/
def isCommon : Direction → Bool
  | .europeanNumber | .europeanSeparator | .europeanTerminator | .commonSeparator
  | .nonspacingMark | .boundaryNeutral | .otherNeutral => true
  | _ => false

/-- Labels from left to right have letters of this direction and end in one or in a number. -/
def isLeftToRight (ds : List Direction) (last : Direction) : Bool :=
  (ds.all fun d => d == .leftToRight || isCommon d) &&
    (last == .leftToRight || last == .europeanNumber)

/-- Labels from right to left have letters of this direction and end in one or in a number, and
their numbers are all of one kind. -/
def isRightToLeft (ds : List Direction) (last : Direction) : Bool :=
  (ds.all fun d => turns d || isCommon d) && (turns last || last == .europeanNumber) &&
    !(ds.contains .europeanNumber && ds.contains .arabicNumber)

/-- **Whether a label can be read from one side to the other.** Its first character tells from
which; marks at its end do not count as the end. -/
def isDirected (label : List Char) : Bool :=
  let ds := label.map Direction.ofChar
  match ds.head?, ds.reverse.find? (· != .nonspacingMark) with
  | none, _ => true
  | some .leftToRight, some last => isLeftToRight ds last
  | some .rightToLeft, some last | some .arabicLetter, some last => isRightToLeft ds last
  | _, _ => false

end CatalogSearch.Domain.Label
