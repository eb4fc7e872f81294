import CatalogSearch.Json.Value

/-! # JSON tokens

The marks, literals, numbers and strings of a JSON text. What is read need not be a text throughout:
it is made of characters and of bytes that belong to none, which stand as `none`. Such a byte may
stand in a string, which then spells no text, and nowhere else.

* **`Json.Token`**: a mark, literal, number or string, or `stray` where none starts;
* **`Json.scanString cs`**, **`Json.scanNumber cs`**: the string after its opening quote, and the
  number, at the start of `cs`, with what follows;
* **`Json.Token.scan`**: the token that starts with a character;
* **`Json.tokens cs`**: all tokens up to the first stray one;
* **`Json.textTokens cs`**: those of a text, where every byte belongs to a character. -/

namespace CatalogSearch.Json

/-- A piece of a JSON text. -/
inductive Token where
  | beginArray
  | endArray
  | beginObject
  | endObject
  | comma
  | colon
  /-- A literal or a number. -/
  | scalar (v : Json)
  /-- A string, or none if its escapes or bytes spell no text. -/
  | text (s : Option String)
  /-- No token starts here. -/
  | stray
  deriving Repr, Inhabited

/-! ## Strings -/

/-- An element of a string: a character, a 16-bit unit given by its code, or a byte that belongs to
no character. -/
inductive Unit where
  | char (c : Char)
  | code (n : Nat)
  | illegible
  deriving DecidableEq, Repr

/-- The text that units spell: a high and a low surrogate make one character, alone they make
none. -/
def spell : List Unit → Option (List Char)
  | [] => some []
  | .char c :: us => (spell us).map (c :: ·)
  | .illegible :: _ => none
  | .code n :: us =>
    if 0xD800 ≤ n ∧ n < 0xDC00 then
      match us with
      | .code m :: vs =>
        if 0xDC00 ≤ m ∧ m < 0xE000 then
          (spell vs).map (Char.ofNat (0x10000 + (n - 0xD800) * 0x400 + (m - 0xDC00)) :: ·)
        else none
      | _ => none
    else if 0xDC00 ≤ n ∧ n < 0xE000 then none
    else (spell us).map (Char.ofNat n :: ·)

/-- The number of four hexadecimal digits. -/
def hexUnit? (a b c d : Char) : Option Nat := Text.readDigits? Text.hexValue? 16 0 [a, b, c, d]

/-- The character of a one-letter escape. -/
def escaped? : Char → Option Char
  | '"' => some '"'
  | '\\' => some '\\'
  | '/' => some '/'
  | 'b' => some '\x08'
  | 'f' => some '\x0c'
  | 'n' => some '\n'
  | 'r' => some '\r'
  | 't' => some '\t'
  | _ => none

/-- **The string after an opening quote**: its units and what follows the closing one. Control
characters have to be escaped, and an escape is made of characters. -/
def scanString : List (Option Char) → Option (List Unit × List (Option Char))
  | [] => none
  | some '"' :: rest => some ([], rest)
  | some '\\' :: some 'u' :: some a :: some b :: some c :: some d :: rest =>
    (hexUnit? a b c d).bind fun n => (scanString rest).map fun (us, rest) => (.code n :: us, rest)
  | some '\\' :: some e :: rest =>
    (escaped? e).bind fun c => (scanString rest).map fun (us, rest) => (.char c :: us, rest)
  | some c :: rest =>
    if c == '\\' || c.toNat < 0x20 then none
    else (scanString rest).map fun (us, rest) => (.char c :: us, rest)
  | none :: rest => (scanString rest).map fun (us, rest) => (.illegible :: us, rest)

/-- A string takes at least its closing quote. -/
theorem length_lt_of_scanString {cs rest : List (Option Char)} {us : List Unit}
    (h : scanString cs = some (us, rest)) : rest.length < cs.length := by
  fun_induction scanString cs generalizing us rest with
  | case1 => cases h
  | case2 rest' =>
    cases h
    simp
  | case3 a b c d rest' ih =>
    obtain ⟨n, -, h⟩ := Option.bind_eq_some_iff.1 h
    obtain ⟨⟨us', rest''⟩, h', heq⟩ := Option.map_eq_some_iff.1 h
    cases heq
    have := ih h'
    simp only [List.length_cons]
    omega
  | case4 e rest' _ ih =>
    obtain ⟨n, -, h⟩ := Option.bind_eq_some_iff.1 h
    obtain ⟨⟨us', rest''⟩, h', heq⟩ := Option.map_eq_some_iff.1 h
    cases heq
    have := ih h'
    simp only [List.length_cons]
    omega
  | case5 => cases h
  | case6 c rest' _ _ _ _ ih | case7 rest' ih =>
    obtain ⟨⟨us', rest''⟩, h', heq⟩ := Option.map_eq_some_iff.1 h
    cases heq
    have := ih h'
    simp only [List.length_cons]
    omega

/-! ## Numbers -/

/-- An ASCII digit. -/
def isDigit (c : Char) : Bool := (Text.digitValue? c).isSome

/-- The digits at the start and what follows. -/
def spanDigits : List (Option Char) → List Char × List (Option Char)
  | some c :: cs =>
    if isDigit c then
      let (digits, rest) := spanDigits cs
      (c :: digits, rest)
    else ([], some c :: cs)
  | cs => ([], cs)

/-- The digits after a decimal point, at least one, if there is a point. -/
def scanFraction : List (Option Char) → Option (List Char × List (Option Char))
  | some '.' :: cs => some (spanDigits cs) |>.filter fun (digits, _) => !digits.isEmpty
  | cs => some ([], cs)

/-- The digits of an exponent, at least one. -/
def scanPower (negative : Bool) (cs : List (Option Char)) :
    Option (Option Int × List (Option Char)) :=
  let (digits, rest) := spanDigits cs
  (Text.readNat? digits).map fun n => (some (if negative then -(n : Int) else n), rest)

/-- An exponent, if there is one. -/
def scanExponent : List (Option Char) → Option (Option Int × List (Option Char))
  | some c :: cs =>
    if c == 'e' || c == 'E' then
      match cs with
      | some '-' :: cs => scanPower true cs
      | some '+' :: cs => scanPower false cs
      | cs => scanPower false cs
    else some (none, some c :: cs)
  | cs => some (none, cs)

/-- Whether there is a minus at the start, and what follows that. -/
def scanSign : List (Option Char) → Bool × List (Option Char)
  | some '-' :: cs => (true, cs)
  | cs => (false, cs)

/-- **The number at the start.** A leading zero stands alone. -/
def scanNumber (cs : List (Option Char)) : Option (Numeral × List (Option Char)) :=
  let (negative, cs) := scanSign cs
  let (whole, cs) := spanDigits cs
  if whole.isEmpty || (whole.head? == some '0' && 1 < whole.length) then none
  else do
    let (fraction, cs) ← scanFraction cs
    let (exponent, cs) ← scanExponent cs
    some (⟨negative, whole, fraction, exponent⟩, cs)

/-- Digits and what follows them are the whole text. -/
theorem length_spanDigits (cs : List (Option Char)) :
    (spanDigits cs).1.length + (spanDigits cs).2.length = cs.length := by
  fun_induction spanDigits cs with
  | case1 c cs _ digits rest heq ih =>
    rw [heq] at ih
    simp only [List.length_cons] at *
    omega
  | case2 => exact Nat.zero_add _
  | case3 => exact Nat.zero_add _

/-- What follows a sign is no longer than the text. -/
theorem length_scanSign_le (cs : List (Option Char)) : (scanSign cs).2.length ≤ cs.length := by
  unfold scanSign
  split <;> simp

/-- What follows a fraction is no longer than the text. -/
theorem length_le_of_scanFraction {cs rest : List (Option Char)} {digits : List Char}
    (h : scanFraction cs = some (digits, rest)) : rest.length ≤ cs.length := by
  unfold scanFraction at h
  split at h
  · next cs =>
    have hlen := length_spanDigits cs
    obtain ⟨heq, -⟩ := Option.filter_eq_some_iff.1 h
    rw [Option.some.inj heq] at hlen
    simp only [List.length_cons] at *
    omega
  · cases h
    exact Nat.le_refl _

/-- What follows the digits of an exponent is no longer than the text. -/
theorem length_le_of_scanPower {negative : Bool} {cs rest : List (Option Char)} {e : Option Int}
    (h : scanPower negative cs = some (e, rest)) : rest.length ≤ cs.length := by
  obtain ⟨n, -, heq⟩ := Option.map_eq_some_iff.1 h
  cases heq
  have := length_spanDigits cs
  omega

/-- What follows an exponent is no longer than the text. -/
theorem length_le_of_scanExponent {cs rest : List (Option Char)} {e : Option Int}
    (h : scanExponent cs = some (e, rest)) : rest.length ≤ cs.length := by
  unfold scanExponent at h
  split at h
  · split at h
    · split at h <;>
      · have := length_le_of_scanPower h
        simp only [List.length_cons] at *
        omega
    · cases h
      exact Nat.le_refl _
  · cases h
    exact Nat.le_refl _

/-- A number takes at least one digit. -/
theorem length_lt_of_scanNumber {cs rest : List (Option Char)} {n : Numeral}
    (h : scanNumber cs = some (n, rest)) : rest.length < cs.length := by
  have hsign := length_scanSign_le cs
  have hspan := length_spanDigits (scanSign cs).2
  simp only [scanNumber] at h
  split at h
  · cases h
  · next hwhole =>
    obtain ⟨⟨fraction, cs₁⟩, hfraction, h⟩ := Option.bind_eq_some_iff.1 h
    obtain ⟨⟨exponent, cs₂⟩, hexponent, h⟩ := Option.bind_eq_some_iff.1 h
    cases h
    have h₁ : cs₁.length ≤ _ := length_le_of_scanFraction hfraction
    have h₂ : cs₂.length ≤ cs₁.length := length_le_of_scanExponent hexponent
    have hpos : (spanDigits (scanSign cs).2).1 ≠ [] := by
      intro he
      simp [he] at hwhole
    have := List.length_pos_iff.2 hpos
    show cs₂.length < cs.length
    omega

/-! ## Tokens -/

/-- The blanks between tokens. -/
def isSpace (c : Char) : Bool := c == ' ' || c == '\t' || c == '\n' || c == '\r'

/-- The token that starts with `c` and what follows it. -/
def Token.scan (c : Char) (cs : List (Option Char)) : Token × List (Option Char) :=
  match c with
  | '[' => (.beginArray, cs)
  | ']' => (.endArray, cs)
  | '{' => (.beginObject, cs)
  | '}' => (.endObject, cs)
  | ',' => (.comma, cs)
  | ':' => (.colon, cs)
  | '"' =>
    match scanString cs with
    | some (us, rest) => (.text ((spell us).map String.ofList), rest)
    | none => (.stray, [])
  | c =>
    match some c :: cs with
    | some 'n' :: some 'u' :: some 'l' :: some 'l' :: rest => (.scalar .null, rest)
    | some 't' :: some 'r' :: some 'u' :: some 'e' :: rest => (.scalar (.bool true), rest)
    | some 'f' :: some 'a' :: some 'l' :: some 's' :: some 'e' :: rest =>
      (.scalar (.bool false), rest)
    | cs =>
      match scanNumber cs with
      | some (n, rest) => (.scalar (.number n), rest)
      | none => (.stray, [])

/-- What follows a token is no longer than the text after its first character. -/
theorem Token.length_scan_le (c : Char) (cs : List (Option Char)) :
    (Token.scan c cs).2.length ≤ cs.length := by
  unfold Token.scan
  split
  case h_7 =>
    split
    · next h => exact Nat.le_of_lt (length_lt_of_scanString h)
    · exact Nat.zero_le _
  case h_8 =>
    split
    · next h =>
      rw [(List.cons.inj h).2]
      simp only [List.length_cons]
      omega
    · next h =>
      rw [(List.cons.inj h).2]
      simp only [List.length_cons]
      omega
    · next h =>
      rw [(List.cons.inj h).2]
      simp only [List.length_cons]
      omega
    · split
      · next h => exact Nat.le_of_lt_succ (length_lt_of_scanNumber h)
      · exact Nat.zero_le _
  all_goals exact Nat.le_refl _

/-- **All tokens**, up to the first stray one. -/
def tokens : List (Option Char) → List Token
  | [] => []
  | none :: _ => [.stray]
  | some c :: cs =>
    if isSpace c then tokens cs
    else
      match _h : Token.scan c cs with
      | (t, rest) => t :: tokens rest
termination_by cs => cs.length
decreasing_by
  · exact Nat.lt_succ_self _
  · have hlen := Token.length_scan_le c cs
    rw [_h] at hlen
    exact Nat.lt_succ_of_le hlen

/-- **The tokens of a text.** -/
def textTokens (cs : List Char) : List Token := tokens (cs.map some)

end CatalogSearch.Json
