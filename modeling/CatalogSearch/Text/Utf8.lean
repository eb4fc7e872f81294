/-! # UTF-8

Texts as bytes and back. Decoding names the first place where bytes are no text, the way a strict
reader reports it:

* **`Utf8.encode cs`**: the bytes of a text;
* **`Utf8.decode bs`**: the text of some bytes, or a `Utf8.Fault`;
* **`Utf8.follow b`**: which bytes may come after a first byte;
* **`Utf8.firstFault bs`**: where the first sequence that is no character starts;
* **`Utf8.legible bs`**: the characters of some bytes, and the places of those that are of none.

Decoding undoes encoding (`Utf8.decode_encode`), and the bytes of a text are legible throughout
(`Utf8.legible_encode`). -/

namespace CatalogSearch.Text.Utf8

/-- The bytes of a text. -/
def encode (cs : List Char) : List UInt8 := cs.flatMap String.utf8EncodeChar

@[simp] theorem encode_nil : encode [] = [] := rfl

@[simp] theorem encode_cons (c : Char) (cs : List Char) :
    encode (c :: cs) = String.utf8EncodeChar c ++ encode cs := by simp [encode]

@[simp] theorem encode_append (cs ds : List Char) : encode (cs ++ ds) = encode cs ++ encode ds := by
  simp [encode]

/-- Why some bytes are no text. -/
inductive Fault where
  /-- From index `start` on, `length` bytes start a sequence that the next byte breaks. -/
  | invalid (start length : Nat)
  /-- The bytes end inside the sequence that starts at index `start`. -/
  | incomplete (start : Nat)
  deriving DecidableEq, Repr

/-- A fault in words. -/
def Fault.message : Fault → String
  | .invalid start length => s!"invalid utf-8 sequence of {length} bytes from index {start}"
  | .incomplete start => s!"incomplete utf-8 byte sequence from index {start}"

/-- **The bytes that may follow a first byte**: a range for each, none for an ASCII byte. Overlong
forms, surrogates and numbers beyond the last code point are left out. -/
def follow (b : UInt8) : Option (List (UInt8 × UInt8)) :=
  if b < 0x80 then some []
  else if b < 0xC2 then none
  else if b < 0xE0 then some [(0x80, 0xBF)]
  else if b = 0xE0 then some [(0xA0, 0xBF), (0x80, 0xBF)]
  else if b = 0xED then some [(0x80, 0x9F), (0x80, 0xBF)]
  else if b < 0xF0 then some [(0x80, 0xBF), (0x80, 0xBF)]
  else if b = 0xF0 then some [(0x90, 0xBF), (0x80, 0xBF), (0x80, 0xBF)]
  else if b < 0xF4 then some [(0x80, 0xBF), (0x80, 0xBF), (0x80, 0xBF)]
  else if b = 0xF4 then some [(0x80, 0x8F), (0x80, 0xBF), (0x80, 0xBF)]
  else none

/-- The first fault, when the sequence from index `start` has had `length` bytes so far and still
needs bytes of the ranges `due`. -/
def faultAfter (due : List (UInt8 × UInt8)) (start length : Nat) : List UInt8 → Option Fault
  | [] => if due.isEmpty then none else some (.incomplete start)
  | b :: bs =>
    match due with
    | [] =>
      match follow b with
      | none => some (.invalid start 1)
      | some [] => faultAfter [] (start + 1) 0 bs
      | some due => faultAfter due start 1 bs
    | (lo, hi) :: due =>
      if lo ≤ b && b ≤ hi then
        if due.isEmpty then faultAfter [] (start + length + 1) 0 bs
        else faultAfter due start (length + 1) bs
      else some (.invalid start length)

/-- Where the first sequence that is no character starts. -/
def firstFault (bs : List UInt8) : Option Fault := faultAfter [] 0 0 bs

/-- **The text of some bytes**, or the first fault. -/
def decode (bs : List UInt8) : Except Fault (List Char) :=
  match bs.toByteArray.utf8Decode? with
  | some cs => .ok cs.toList
  | none => .error ((firstFault bs).getD (.incomplete 0))

/-- **Decoding undoes encoding.** -/
theorem decode_encode (cs : List Char) : decode (encode cs) = .ok cs := by
  have h : (encode cs).toByteArray = cs.utf8Encode := rfl
  simp [decode, h, List.utf8Decode?_utf8Encode]

/-! ## Bytes that need not be a text -/

/-- The character that some bytes start with, if they start with one. -/
def first? (bs : List UInt8) : Option Char := (bs.take 4).toByteArray.utf8DecodeChar? 0

/-- The characters of some bytes, the first `rest` of which end a character that is already told. -/
def legibleAfter : Nat → List UInt8 → List (Option Char)
  | _, [] => []
  | rest + 1, _ :: bs => legibleAfter rest bs
  | 0, b :: bs =>
    match first? (b :: bs) with
    | some c => some c :: legibleAfter (c.utf8Size - 1) bs
    | none => none :: legibleAfter 0 bs

/-- **The characters of some bytes**, and none for each byte that belongs to no character. -/
def legible (bs : List UInt8) : List (Option Char) := legibleAfter 0 bs

/-- Bytes start with the character that comes first. -/
theorem first?_encodeChar_append (c : Char) (bs : List UInt8) :
    first? (String.utf8EncodeChar c ++ bs) = some c := by
  have hsize : (String.utf8EncodeChar c).length ≤ 4 := by
    rw [String.length_utf8EncodeChar]
    exact c.utf8Size_le_four
  rw [first?, List.take_append, List.take_of_length_le hsize, List.toByteArray_append]
  exact ByteArray.utf8DecodeChar?_utf8EncodeChar_append

/-- The bytes at the end of a character are passed over. -/
theorem legibleAfter_append (front bs : List UInt8) :
    legibleAfter front.length (front ++ bs) = legible bs := by
  induction front with
  | nil => rfl
  | cons b front ih => exact ih

/-- A character is told once, whatever follows. -/
theorem legible_encodeChar_append (c : Char) (bs : List UInt8) :
    legible (String.utf8EncodeChar c ++ bs) = some c :: legible bs := by
  have hfirst := first?_encodeChar_append c bs
  have hsize := String.length_utf8EncodeChar c
  -- The first byte tells the character, and those that are left of it are passed over.
  cases hc : String.utf8EncodeChar c with
  | nil => exact absurd hc String.utf8EncodeChar_ne_nil
  | cons b front =>
    rw [hc] at hfirst hsize
    have hrest : c.utf8Size - 1 = front.length := by
      rw [← hsize, List.length_cons, Nat.add_sub_cancel]
    rw [List.cons_append] at hfirst ⊢
    rw [legible, legibleAfter, hfirst]
    show some c :: legibleAfter (c.utf8Size - 1) (front ++ bs) = _
    rw [hrest, legibleAfter_append]

/-- **The bytes of a text are legible throughout**: as its characters. -/
theorem legible_encode (cs : List Char) : legible (encode cs) = cs.map some := by
  induction cs with
  | nil => rfl
  | cons c cs ih => rw [encode_cons, legible_encodeChar_append, ih, List.map_cons]

end CatalogSearch.Text.Utf8
