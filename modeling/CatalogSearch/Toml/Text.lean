import CatalogSearch.Text.Digit

/-! # TOML strings

Strings in single or double quotes, on one line or, in three quotes, on many. Only double quotes let
characters be escaped.

* **`Toml.skipBlanks`**, **`Toml.skipBreak?`**: blanks of a line, and a line break;
* **`Toml.scanEscape?`**: an escaped character;
* **`Toml.scanBasic`**, **`Toml.scanLiteral`**: the rest of a string after its opening quotes. -/

namespace CatalogSearch.Toml

/-! ## Blanks -/

/-- A blank within a line. -/
def isBlankChar (c : Char) : Bool := c == ' ' || c == '\t'

/-- A text without its leading blanks. -/
def skipBlanks (cs : List Char) : List Char := cs.dropWhile isBlankChar

/-- What follows a line break. -/
def skipBreak? : List Char → Option (List Char)
  | '\n' :: cs => some cs
  | '\r' :: '\n' :: cs => some cs
  | _ => none

/-- A text without its leading blanks and line breaks. -/
def skipSpace : List Char → List Char
  | '\r' :: '\n' :: cs => skipSpace cs
  | c :: cs => if isBlankChar c || c == '\n' then skipSpace cs else c :: cs
  | [] => []

/-! ## Characters -/

/-- A character that may stand in a string as it is. -/
def isTextChar (c : Char) : Bool := c == '\t' || (0x20 ≤ c.toNat && c.toNat != 0x7F)

/-- The character of so many hexadecimal digits, and what follows them. -/
def scanCode? (n : Nat) (cs : List Char) : Option (Char × List Char) :=
  let ds := cs.take n
  if ds.length = n then
    (Text.readDigits? Text.hexValue? 16 0 ds).bind fun k =>
      if k.isValidChar then some (Char.ofNat k, cs.drop n) else none
  else none

/-- **The character that a backslash and what follows it stand for.** -/
def scanEscape? : List Char → Option (Char × List Char)
  | 'b' :: cs => some ('\x08', cs)
  | 't' :: cs => some ('\t', cs)
  | 'n' :: cs => some ('\n', cs)
  | 'f' :: cs => some ('\x0c', cs)
  | 'r' :: cs => some ('\r', cs)
  | 'e' :: cs => some ('\x1b', cs)
  | '"' :: cs => some ('"', cs)
  | '\\' :: cs => some ('\\', cs)
  | 'x' :: cs => scanCode? 2 cs
  | 'u' :: cs => scanCode? 4 cs
  | 'U' :: cs => scanCode? 8 cs
  | _ => none

/-! ## Strings -/

/-- The closing quotes of a string on many lines, when the first of them has been read: the quotes
before them that belong to the string, and what follows. -/
def closeLines? (quote : Char) (cs : List Char) : Option (List Char × List Char) :=
  -- Two of the quotes close the string; up to two more before them belong to it.
  let quotes := (cs.takeWhile (· == quote)).take 4
  if quotes.length < 2 then none else some (quotes.drop 2, cs.drop quotes.length)

/-- **The rest of a string in double quotes**, on one line or on many, and what follows it. On many
lines, breaks stand for themselves, and a backslash at the end of a line takes the blanks and breaks
behind it away. -/
def scanBasic (many : Bool) : List Char → Option (List Char × List Char)
  | [] => none
  | '"' :: cs =>
    if many then
      match closeLines? '"' cs with
      | some found => some found
      | none => (scanBasic many cs).map fun (s, rest) => ('"' :: s, rest)
    else some ([], cs)
  | '\\' :: cs =>
    if many && (skipBreak? (skipBlanks cs)).isSome then
      if _h : (skipSpace cs).length < cs.length then scanBasic many (skipSpace cs) else none
    else
      match scanEscape? cs with
      | none => none
      | some (c, rest) =>
        if _h : rest.length < cs.length then
          (scanBasic many rest).map fun (s, rest) => (c :: s, rest)
        else none
  | '\r' :: '\n' :: cs =>
    if many then (scanBasic many cs).map fun (s, rest) => ('\r' :: '\n' :: s, rest) else none
  | c :: cs =>
    if isTextChar c || (many && c == '\n') then
      (scanBasic many cs).map fun (s, rest) => (c :: s, rest)
    else none
termination_by cs => cs.length
decreasing_by all_goals simp only [List.length_cons]; omega

/-- **The rest of a string in single quotes**, on one line or on many, and what follows it. -/
def scanLiteral (many : Bool) : List Char → Option (List Char × List Char)
  | [] => none
  | '\'' :: cs =>
    if many then
      match closeLines? '\'' cs with
      | some found => some found
      | none => (scanLiteral many cs).map fun (s, rest) => ('\'' :: s, rest)
    else some ([], cs)
  | '\r' :: '\n' :: cs =>
    if many then (scanLiteral many cs).map fun (s, rest) => ('\r' :: '\n' :: s, rest) else none
  | c :: cs =>
    if isTextChar c || (many && c == '\n') then
      (scanLiteral many cs).map fun (s, rest) => (c :: s, rest)
    else none

/-- A text without the line break that may follow three opening quotes. -/
def skipFirstBreak (cs : List Char) : List Char := (skipBreak? cs).getD cs

/-- **The string at the start of a text**, on one line or on many, and what follows it. -/
def scanString? : List Char → Option (String × List Char)
  | '"' :: '"' :: '"' :: cs =>
    (scanBasic true (skipFirstBreak cs)).map fun (s, rest) => (String.ofList s, rest)
  | '"' :: cs => (scanBasic false cs).map fun (s, rest) => (String.ofList s, rest)
  | '\'' :: '\'' :: '\'' :: cs =>
    (scanLiteral true (skipFirstBreak cs)).map fun (s, rest) => (String.ofList s, rest)
  | '\'' :: cs => (scanLiteral false cs).map fun (s, rest) => (String.ofList s, rest)
  | _ => none

end CatalogSearch.Toml
