import CatalogSearch.Json.Reader
import CatalogSearch.Json.Writer

/-! # Values as JSON

A codec says how a kind of value is written as JSON and read back. Decoding walks the tree in the
order of the text and stops at the first thing wrong:

* **`DecodeError`**: a vocabulary value that does not exist, or anything else;
* **`Codec`**: the two directions for one type;
* **`Codec.text`**, **`Codec.word bound`**, **`Codec.optional`**, **`Codec.list`**, …: codecs of
  plain values;
* **`Field`**, **`Codec.record`**: records as objects, or as arrays of their fields in order;
* **`Codec.readDocument`**: whole documents;
* **`Codec.readText`**, **`Codec.readBytes`**, **`Codec.writeText`**: whole texts, and bytes that
  need not be a text throughout.

The number passed to `decode` counts the arrays and objects around a value. -/

namespace CatalogSearch

/-- Why a JSON value does not decode. -/
inductive DecodeError where
  /-- A string that is no term of the vocabulary `kind`. -/
  | unsupported (kind raw : String)
  /-- Anything else: wrong shape, wrong type, not JSON. -/
  | malformed
  deriving DecidableEq, Repr

/-- The wording of an error, where it has one of its own. -/
def DecodeError.message? : DecodeError → Option String
  | .unsupported kind raw => some s!"unsupported {kind} value: {raw}"
  | .malformed => none

/-- The result of decoding. -/
abbrev Decoded (α : Type) := Except DecodeError α

/-- **A type as JSON**, in both directions. -/
structure Codec (α : Type) where
  encode : α → Json
  decode : Nat → Json → Decoded α

namespace Codec

variable {α β σ : Type}

/-- A codec reads `a` back from what it writes, wherever it stands. -/
def Restores (c : Codec α) (a : α) : Prop := ∀ around, c.decode around (c.encode a) = .ok a

/-! ## Plain values -/

/-- Strings. -/
def text : Codec String where
  encode := .string
  decode _
    | .string s => .ok s
    | _ => .error .malformed

/-- Truth values. -/
def flag : Codec Bool where
  encode := .bool
  decode _
    | .bool b => .ok b
    | _ => .error .malformed

/-- The natural number up to `bound` that a value stands for. -/
def readNat (bound : Nat) : Json → Decoded Nat
  | .number n =>
    match n.value with
    | .whole n => if 0 ≤ n ∧ n ≤ bound then .ok n.toNat else .error .malformed
    | _ => .error .malformed
  | _ => .error .malformed

/-- Numbers of 32 bits. -/
def word32 : Codec UInt32 where
  encode n := .ofNat n.toNat
  decode _ v := (readNat (UInt32.size - 1) v).map UInt32.ofNat

/-- Numbers of 64 bits. -/
def word64 : Codec UInt64 where
  encode n := .ofNat n.toNat
  decode _ v := (readNat (UInt64.size - 1) v).map UInt64.ofNat

/-- Values that may be missing; null stands for none. -/
def optional (c : Codec α) : Codec (Option α) where
  encode
    | none => .null
    | some a => c.encode a
  decode around
    | .null => .ok none
    | v => (c.decode around v).map some

/-- Lists, element by element. -/
def list (c : Codec α) : Codec (List α) where
  encode as := .array (as.map c.encode)
  decode around
    | .array items => items.mapM (c.decode (around + 1))
    | _ => .error .malformed

/-- A codec through which null also reads, as the default of the type. -/
def nullable [Inhabited α] (c : Codec α) : Codec α where
  encode := c.encode
  decode around
    | .null => .ok default
    | v => c.decode around v

/-- Names of alternatives: a string, or an object with the name as its only member and null as its
value. -/
def oneOf (options : List α) (name : α → String) : Codec α where
  encode a := .string (name a)
  decode _
    | .string s => ((options.find? fun a => name a == s).map Except.ok).getD (.error .malformed)
    | .object [(s, .null)] =>
      ((options.find? fun a => name a == s).map Except.ok).getD (.error .malformed)
    | _ => .error .malformed

/-! ## Records -/

/-- Where a field may be left out. -/
inductive Absence where
  /-- Nowhere. -/
  | never
  /-- Where fields have names, but not where they stand in order. -/
  | named
  /-- Everywhere. -/
  | always
  deriving DecidableEq, Repr

/-- **A field of a record**: its name, where it may be left out, how it is written, and how a value
read for it is put into the record. -/
structure Field (σ : Type) where
  name : String
  absence : Absence
  encode : σ → Json
  decode : Nat → Json → Decoded (σ → σ)

/-- The field with the given name, codec, getter and setter. -/
def Field.of (name : String) (absence : Absence) (c : Codec α) (get : σ → α) (set : α → σ → σ) :
    Field σ where
  name := name
  absence := absence
  encode s := c.encode (get s)
  decode around v := (c.decode around v).map set

/-- Reads the members of an object into a record. The names in `seen` are taken: a field may be
given only once. Members of other names are passed over. -/
def readMembers (fields : List (Field σ)) (around : Nat) (seen : List String) (s : σ) :
    List (String × Json) → Decoded (List String × σ)
  | [] => .ok (seen, s)
  -- Where the text breaks off, the last member may have no name yet.
  | (_, .fault .broken) :: _ => .error .malformed
  | (_, .fault .name) :: _ => .error .malformed
  | (name, v) :: members =>
    match fields.find? fun f => f.name == name with
    | none =>
      if v.isWhole then readMembers fields around seen s members else .error .malformed
    | some f =>
      if seen.contains name then .error .malformed
      else
        (f.decode around v).bind fun set =>
          readMembers fields around (name :: seen) (set s) members

/-- Reads the items of an array into a record, field by field. -/
def readItems (around : Nat) : List (Field σ) → σ → List Json → Decoded σ
  | [], s, [] => .ok s
  | [], _, _ :: _ => .error .malformed
  | f :: fields, s, [] =>
    if f.absence = .always then readItems around fields s [] else .error .malformed
  | f :: fields, s, v :: items =>
    (f.decode around v).bind fun set => readItems around fields (set s) items

/-- **Records**: objects with the fields as members, or arrays of the fields in order. Fields that
are left out keep their value in `start`. -/
def record (fields : List (Field σ)) (start : σ) : Codec σ where
  encode s := .object (fields.map fun f => (f.name, f.encode s))
  decode around
    | .object members =>
      (readMembers fields (around + 1) [] start members).bind fun (seen, s) =>
        if fields.all fun f => f.absence != .never || seen.contains f.name then .ok s
        else .error .malformed
    | .array items => readItems (around + 1) fields start items
    | _ => .error .malformed

/-! ## Whole texts -/

/-- **The value a document stands for**, if nothing follows it. -/
def readDocument (c : Codec α) (doc : Json.Document) : Decoded α :=
  (c.decode 0 doc.root).bind fun a => if doc.trailing then .error .malformed else .ok a

/-- **The value a whole text stands for.** -/
def readText (c : Codec α) (cs : List Char) : Decoded α := c.readDocument (Json.read cs)

/-- **The value that some bytes stand for.** Only strings that are looked at have to be texts. -/
def readBytes (c : Codec α) (bs : List UInt8) : Decoded α := c.readDocument (Json.readBytes bs)

/-- The bytes of a text stand for what the text stands for. -/
theorem readBytes_encode (c : Codec α) (cs : List Char) :
    c.readBytes (Text.Utf8.encode cs) = c.readText cs := by
  rw [readBytes, Json.readBytes_encode, readText]

/-- The text of a value, on one line. -/
def writeText (c : Codec α) (a : α) : List Char := (c.encode a).text

end Codec

end CatalogSearch
