import CatalogSearch.Json.Token
import CatalogSearch.Text.Utf8

/-! # Reading JSON

The tokens of a text are read one by one with a stack of the arrays and objects that are still open.
A token that cannot come next ends the reading: the open ones are closed around a `Json.fault`.

* **`Json.Frame`**: an open array or object;
* **`Json.Turn`**: what may come next;
* **`Json.Document`**: the value a text starts with, and whether anything follows it;
* **`Json.read cs`**: the document of a text;
* **`Json.readBytes bs`**: the document of some bytes, which need not be a text throughout. -/

namespace CatalogSearch.Json

/-- **An array or object that is still open**, with what it holds so far, last first. An object also
keeps the name of the member being read, none if it spells no text. -/
inductive Frame where
  | array (done : List Json)
  | object (done : List (String × Json)) (name : Option String)
  deriving Repr

/-- What may come next. -/
inductive Turn where
  /-- A value. -/
  | value
  /-- A value, or the end of the array just begun. -/
  | item
  /-- A name. -/
  | name
  /-- A name, or the end of the object just begun. -/
  | member
  /-- The colon after a name. -/
  | colon
  /-- A comma or the end of the innermost open array or object. -/
  | next
  deriving DecidableEq, Repr

/-- **The value a text starts with**, and whether anything follows it. -/
structure Document where
  root : Json
  trailing : Bool
  deriving Repr

/-- A member; one whose name spells no text has no value either. -/
def member : Option String → Json → String × Json
  | some name, v => (name, v)
  | none, _ => ("", .fault .name)

/-- An open array or object closed after one more value. -/
def Frame.close (v : Json) : Frame → Json
  | .array done => .array (v :: done).reverse
  | .object done name => .object ((name.getD "", v) :: done).reverse

/-- What is left when the reading ends early: the open frames closed around a fault. -/
def broken (stack : List Frame) : Document :=
  ⟨stack.foldl Frame.close (.fault .broken), false⟩

/-- **The document of some tokens**, with the frames of `stack` open and `turn` to come. -/
def readTokens (stack : List Frame) (turn : Turn) : List Token → Document
  | [] => broken stack
  | t :: ts =>
    /- A value is complete: it ends the document or goes into the innermost frame. -/
    let complete (v : Json) (stack : List Frame) : Document :=
      match stack with
      | [] => ⟨v, !ts.isEmpty⟩
      | .array done :: stack => readTokens (.array (v :: done) :: stack) .next ts
      | .object done name :: stack =>
        readTokens (.object (member name v :: done) none :: stack) .next ts
    let isValue := turn = .value ∨ turn = .item
    let mayEnd := turn = .next ∨ turn = .item ∨ turn = .member
    match t, stack with
    | .scalar v, stack => if isValue then complete v stack else broken stack
    -- Within an object a string is a name or a value, as the turn has it.
    | .text s, .object done name :: stack =>
      if turn = .name ∨ turn = .member then readTokens (.object done s :: stack) .colon ts
      else if isValue then
        complete ((s.map Json.string).getD (.fault .string)) (.object done name :: stack)
      else broken (.object done name :: stack)
    | .text s, stack =>
      if isValue then complete ((s.map Json.string).getD (.fault .string)) stack else broken stack
    | .beginArray, stack =>
      if isValue then readTokens (.array [] :: stack) .item ts else broken stack
    | .beginObject, stack =>
      if isValue then readTokens (.object [] none :: stack) .member ts else broken stack
    | .endArray, .array done :: stack =>
      if mayEnd then complete (.array done.reverse) stack else broken (.array done :: stack)
    | .endObject, .object done name :: stack =>
      if mayEnd then complete (.object done.reverse) stack else broken (.object done name :: stack)
    | .comma, .array done :: stack =>
      if turn = .next then readTokens (.array done :: stack) .value ts
      else broken (.array done :: stack)
    | .comma, .object done name :: stack =>
      if turn = .next then readTokens (.object done name :: stack) .name ts
      else broken (.object done name :: stack)
    | .colon, stack => if turn = .colon then readTokens stack .value ts else broken stack
    | _, stack => broken stack

/-- **The document of a text.** -/
def read (cs : List Char) : Document := readTokens [] .value (textTokens cs)

/-- **The document of some bytes.** Those that belong to no character are not refused as such: where
one stands in a string, this is a string that spells no text. -/
def readBytes (bs : List UInt8) : Document := readTokens [] .value (tokens (Text.Utf8.legible bs))

/-- The bytes of a text are read as the text is. -/
theorem readBytes_encode (cs : List Char) : readBytes (Text.Utf8.encode cs) = read cs := by
  rw [readBytes, Text.Utf8.legible_encode, read, textTokens]

end CatalogSearch.Json
