import CatalogSearch.Toml.Scalar
import CatalogSearch.Toml.Table
import CatalogSearch.Toml.Text

/-! # Reading TOML

* **`Toml.scanKey?`**: the dotted key at the start of a text;
* **`Toml.scanValue?`**: the value at the start of a text, read with a stack of the arrays and
  inline tables that are still open;
* **`Toml.Statement`**: what a line says;
* **`Toml.read?`**: the table of a whole text. -/

namespace CatalogSearch.Toml

/-! ## Keys -/

/-- A character of a key without quotes. -/
def isBareChar (c : Char) : Bool := c.isAlphanum || c == '_' || c == '-'

/-- One name of a key: bare, or a string on one line. -/
def scanName? : List Char → Option (String × List Char)
  | '"' :: cs => (scanBasic false cs).map fun (s, rest) => (String.ofList s, rest)
  | '\'' :: cs => (scanLiteral false cs).map fun (s, rest) => (String.ofList s, rest)
  | cs =>
    let name := cs.takeWhile isBareChar
    if name.isEmpty then none else some (String.ofList name, cs.dropWhile isBareChar)

/-- The names at the start of a text, with points between them, and what follows them and their
blanks. -/
def scanNames? (cs : List Char) : Option (List String × List Char) :=
  match scanName? cs with
  | none => none
  | some (name, rest) =>
    match skipBlanks rest with
    | '.' :: next =>
      let next := skipBlanks next
      if _h : next.length < cs.length then
        (scanNames? next).map fun (names, rest) => (name :: names, rest)
      else none
    | rest => some ([name], rest)
termination_by cs.length

/-- How deep a text may go: names in a key, and arrays and inline tables that are open at once. -/
def maxDepth : Nat := 80

/-- **The dotted key at the start of a text**, and what follows it and its blanks. -/
def scanKey? (cs : List Char) : Option (List String × List Char) :=
  (scanNames? cs).filter fun (names, _) => names.length ≤ maxDepth

/-! ## Values -/

/-- A text without the comment it starts with. -/
def skipComment : List Char → List Char
  | '#' :: cs => cs.dropWhile isTextChar
  | cs => cs

/-- A text without leading blanks, line breaks and comments. -/
def skipLines (cs : List Char) : List Char :=
  let rest := skipComment (skipSpace cs)
  if _h : rest.length < cs.length then skipLines rest else rest
termination_by cs.length

/-- **An array or inline table that is still open**: the items so far, last first, or the members so
far and the key whose value comes next. -/
inductive Frame where
  | array (done : List Toml)
  | table (done : Members) (key : List String)
  deriving Repr

/-- What may come next. -/
inductive Turn where
  /-- A value. -/
  | value
  /-- A value, or the end of the array. -/
  | item
  /-- A key, or the end of the inline table. -/
  | member
  /-- The sign between a key and its value. -/
  | equals
  /-- A comma, or the end of the innermost open array or inline table. -/
  | next
  deriving DecidableEq, Repr

/-- A text at the place where something may come next: on the same line as long as nothing is
open. -/
def skipTo (stack : List Frame) (cs : List Char) : List Char :=
  if stack.isEmpty then skipBlanks cs else skipLines cs

/-- **The value at the start of a text**, and what follows it, with the frames of `stack` open and
`turn` to come. -/
def scanValue? (stack : List Frame) (turn : Turn) (text : List Char) : Option (Toml × List Char) :=
  let cs := skipTo stack text
  /- Reading goes on behind what has been read. -/
  let continue? (stack : List Frame) (turn : Turn) (rest : List Char) : Option (Toml × List Char) :=
    if _h : rest.length < text.length then scanValue? stack turn rest else none
  /- A value is complete: it is the answer or goes into the innermost frame. -/
  let complete (v : Toml) (stack : List Frame) (rest : List Char) : Option (Toml × List Char) :=
    match stack with
    | [] => some (v, rest)
    | .array done :: stack => continue? (.array (v :: done) :: stack) .next rest
    | .table done key :: stack =>
      (insert? v key done).bind fun done => continue? (.table done [] :: stack) .next rest
  let start (frame : Frame) (turn : Turn) (rest : List Char) : Option (Toml × List Char) :=
    if stack.length < maxDepth then continue? (frame :: stack) turn rest else none
  match turn, cs, stack with
  -- An array ends after an item, or where one could begin; so a comma may end it, too.
  | .item, ']' :: rest, .array done :: stack => complete (.array done.reverse) stack rest
  | .next, ']' :: rest, .array done :: stack => complete (.array done.reverse) stack rest
  | .next, ',' :: rest, .array done :: stack => continue? (.array done :: stack) .item rest
  -- The same holds of inline tables.
  | .member, '}' :: rest, .table done _ :: stack => complete (.table (finish done)) stack rest
  | .next, '}' :: rest, .table done _ :: stack => complete (.table (finish done)) stack rest
  | .next, ',' :: rest, .table done _ :: stack => continue? (.table done [] :: stack) .member rest
  | .next, _, _ => none
  | .member, cs, .table done _ :: stack =>
    (scanKey? cs).bind fun (key, rest) => continue? (.table done key :: stack) .equals rest
  | .equals, '=' :: rest, stack => continue? stack .value rest
  | .member, _, _ | .equals, _, _ => none
  -- What is left are values.
  | _, '[' :: rest, _ => start (.array []) .item rest
  | _, '{' :: rest, _ => start (.table [] []) .member rest
  | _, cs, stack =>
    match scanString? cs with
    | some (s, rest) => complete (.string s) stack rest
    | none =>
      let (word, rest) := scanWord cs
      (ofWord? word).bind fun v => complete v stack rest
termination_by text.length

/-! ## Statements -/

/-- **What a line says.** -/
inductive Statement where
  /-- The header of a table. -/
  | table (path : List String)
  /-- The header of an element of a list of tables. -/
  | element (path : List String)
  | assign (key : List String) (v : Toml)
  deriving Repr

/-- The statement at the start of a line, and what follows it. -/
def scanStatement? (cs : List Char) : Option (Statement × List Char) :=
  match cs with
  | '[' :: '[' :: cs =>
    match scanKey? (skipBlanks cs) with
    | some (path, ']' :: ']' :: rest) => some (.element path, rest)
    | _ => none
  | '[' :: cs =>
    match scanKey? (skipBlanks cs) with
    | some (path, ']' :: rest) => some (.table path, rest)
    | _ => none
  | cs =>
    match scanKey? cs with
    | some (key, '=' :: rest) =>
      (scanValue? [] .value rest).map fun (v, rest) => (.assign key v, rest)
    | _ => none

/-- What follows a line, from the end of its statement. -/
def skipLineEnd? (cs : List Char) : Option (List Char) :=
  match skipComment (skipBlanks cs) with
  | [] => some []
  | rest => skipBreak? rest

/-- **What the lines of a text say.** -/
def scanStatements? (text : List Char) : Option (List Statement) :=
  match skipLines text with
  | [] => some []
  | cs =>
    (scanStatement? cs).bind fun (s, rest) =>
      (skipLineEnd? rest).bind fun rest =>
        if _h : rest.length < text.length then (scanStatements? rest).map (s :: ·) else none
termination_by text.length

/-! ## Tables -/

/-- A text under construction: the table built so far, and the path that the last header gave. -/
structure Draft where
  members : Members := []
  path : List String := []
  deriving Repr

/-- A path as the way to a table and the name of a part of it. -/
def splitLast? (path : List String) : Option (List String × String) :=
  path.getLast?.map fun name => (path.dropLast, name)

/-- **One statement carried out.** -/
def Draft.step? (d : Draft) : Statement → Option Draft
  | .table path =>
    (splitLast? path).bind fun (way, name) =>
      (modify? (define? name) way d.members).map fun ms => ⟨ms, path⟩
  | .element path =>
    (splitLast? path).bind fun (way, name) =>
      (modify? (extend? name) way d.members).map fun ms => ⟨ms, path⟩
  | .assign key v =>
    (modify? (insert? v key) d.path d.members).map fun ms => { d with members := ms }

/-- A text without a byte order mark. -/
def skipMark : List Char → List Char
  | '\ufeff' :: cs => cs
  | cs => cs

/-- **The table of a whole text.** -/
def read? (cs : List Char) : Option Table := do
  let statements ← scanStatements? (skipMark cs)
  let draft ← statements.foldlM Draft.step? {}
  return finish draft.members

end CatalogSearch.Toml
