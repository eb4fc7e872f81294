import CatalogSearch.Json.Value

/-! # Writing JSON

Two layouts of the same text: everything on one line, or one item a line with two blanks for each
level.

* **`Json.escape c`**: a character inside a string;
* **`Json.compact spell v`**: the text on one line, numbers as `spell` writes them;
* **`Json.text v`**: the same with numbers the way they stand in the tree;
* **`Json.freeText v`**: the same with numbers written anew from their values;
* **`Json.pretty v`**: the text with line breaks. -/

namespace CatalogSearch.Json

/-- One character as it stands inside a string. Only quote, backslash and controls are escaped. -/
def escape (c : Char) : List Char :=
  match c with
  | '"' => ['\\', '"']
  | '\\' => ['\\', '\\']
  | '\x08' => ['\\', 'b']
  | '\x0c' => ['\\', 'f']
  | '\n' => ['\\', 'n']
  | '\r' => ['\\', 'r']
  | '\t' => ['\\', 't']
  | c =>
    if c.toNat < 0x20 then
      ['\\', 'u', '0', '0'] ++ (if c.toNat < 0x10 then ['0'] else []) ++ Text.hexDigits c.toNat
    else [c]

/-- A string with its quotes. -/
def stringText (s : String) : List Char := '"' :: s.toList.flatMap escape ++ ['"']

/-- A truth value. -/
def boolText (b : Bool) : List Char := (if b then "true" else "false").toList

/-- The text of null, which also stands for whatever cannot be written. -/
def nullText : List Char := "null".toList

/-! ## One line -/

mutual

/-- **The text of a value on one line**, numbers as `spell` writes them. -/
def compact (spell : Numeral → List Char) : Json → List Char
  | .null => nullText
  | .bool b => boolText b
  | .number n => spell n
  | .string s => stringText s
  | .array items => '[' :: compactItems spell items ++ [']']
  | .object members => '\x7b' :: compactMembers spell members ++ ['\x7d']
  | .fault _ => nullText

/-- Items with commas between them. -/
def compactItems (spell : Numeral → List Char) : List Json → List Char
  | [] => []
  | [item] => compact spell item
  | item :: next :: items =>
    compact spell item ++ ',' :: compactItems spell (next :: items)

/-- Members with commas between them. -/
def compactMembers (spell : Numeral → List Char) : List (String × Json) → List Char
  | [] => []
  | [(name, value)] => stringText name ++ ':' :: compact spell value
  | (name, value) :: next :: members =>
    stringText name ++ ':' :: compact spell value ++ ',' :: compactMembers spell (next :: members)

end

/-- The text of a value on one line, numbers the way they stand in the tree. -/
def text (v : Json) : List Char := compact Numeral.text v

/-- **The text of a value on one line**, numbers written anew from their values: whole numbers of 64
bits by their digits, all others as doubles. Members stay in the order of the text, repeated names
included. This makes no difference where the text is looked up as the label of a term: no label is
the text of an object. -/
def freeText (v : Json) : List Char := compact (fun n => n.value.text) v

/-! ## Many lines -/

/-- A line break and the blanks of a level. -/
def newline (level : Nat) : List Char := '\n' :: List.replicate (2 * level) ' '

mutual

/-- The text of a value with line breaks, `level` containers deep. -/
def prettyAt (level : Nat) : Json → List Char
  | .null => nullText
  | .bool b => boolText b
  | .number n => n.text
  | .string s => stringText s
  | .array [] => ['[', ']']
  | .array (item :: items) =>
    '[' :: prettyItems (level + 1) (item :: items) ++ newline level ++ [']']
  | .object [] => ['\x7b', '\x7d']
  | .object (member :: members) =>
    '\x7b' :: prettyMembers (level + 1) (member :: members) ++ newline level ++ ['\x7d']
  | .fault _ => nullText

/-- Items, each on a line of its own. -/
def prettyItems (level : Nat) : List Json → List Char
  | [] => []
  | [item] => newline level ++ prettyAt level item
  | item :: next :: items =>
    newline level ++ prettyAt level item ++ ',' :: prettyItems level (next :: items)

/-- Members, each on a line of its own. -/
def prettyMembers (level : Nat) : List (String × Json) → List Char
  | [] => []
  | [(name, value)] => newline level ++ stringText name ++ ':' :: ' ' :: prettyAt level value
  | (name, value) :: next :: members =>
    newline level ++ stringText name ++ ':' :: ' ' :: prettyAt level value ++
      ',' :: prettyMembers level (next :: members)

end

/-- **The text of a value with line breaks.** -/
def pretty (v : Json) : String := String.ofList (prettyAt 0 v)

end CatalogSearch.Json
