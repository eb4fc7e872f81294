import CatalogSearch.Text.Digit
import CatalogSearch.Text.Utf8

/-! # Percent-encoding

Text carried in URLs. A character outside the kept set is written as its UTF-8 bytes, each as `%`
and two upper-case hexadecimal digits:

* **`percentEncode keep cs`**: the encoding that keeps the characters satisfying `keep`;
* **`isUnreserved c`**: the set kept in a query value;
* **`percentBytes cs`**: the bytes a text stands for; a `%` without two digits stands for itself;
* **`percentDecode cs`**: those bytes as a text.

Decoding undoes encoding as long as `%` itself is not kept (`percentDecode_percentEncode`). -/

namespace CatalogSearch.Text

/-- Letters, digits and `- . _ ~`: the characters that no URL gives a meaning. -/
def isUnreserved (c : Char) : Bool :=
  c.isAlphanum || c == '-' || c == '.' || c == '_' || c == '~'

/-- A byte as `%` and two hexadecimal digits. -/
def percentByte (b : UInt8) : List Char := '%' :: hexByte b

/-- One character, as it is or as its bytes. -/
def percentChar (keep : Char → Bool) (c : Char) : List Char :=
  if keep c then [c] else (String.utf8EncodeChar c).flatMap percentByte

/-- **The encoding that keeps the characters satisfying `keep`.** -/
def percentEncode (keep : Char → Bool) (cs : List Char) : List Char :=
  cs.flatMap (percentChar keep)

@[simp] theorem percentEncode_nil (keep : Char → Bool) : percentEncode keep [] = [] := rfl

/-- Cons reading of `percentEncode`. -/
@[simp] theorem percentEncode_cons (keep : Char → Bool) (c : Char) (cs : List Char) :
    percentEncode keep (c :: cs) = percentChar keep c ++ percentEncode keep cs := by
  simp [percentEncode]

/-- **The bytes a text stands for.** A `%` with two hexadecimal digits behind it is one byte, every
other character its UTF-8 bytes. -/
def percentBytes : List Char → List UInt8
  | [] => []
  | [c] => String.utf8EncodeChar c
  | [c, d] => String.utf8EncodeChar c ++ String.utf8EncodeChar d
  | c :: d :: e :: cs =>
    match c == '%', hexValue? d, hexValue? e with
    | true, some hi, some lo => UInt8.ofNat (16 * hi + lo) :: percentBytes cs
    | _, _, _ => String.utf8EncodeChar c ++ percentBytes (d :: e :: cs)

/-- The text that the bytes of a percent-encoded text spell. -/
def percentDecode (cs : List Char) : Except Utf8.Fault (List Char) := Utf8.decode (percentBytes cs)

/-! ## Decoding undoes encoding -/

/-- The digits of a byte are read back. -/
theorem hexValue?_hexByte (b : UInt8) :
    ∃ d e hi lo, hexByte b = [d, e] ∧ hexValue? d = some hi ∧ hexValue? e = some lo ∧
      UInt8.ofNat (16 * hi + lo) = b := by
  have h : ∀ n : Fin 256, ∃ d e, hexByte (UInt8.ofNat n) = [d, e] ∧
      (hexValue? d).isSome ∧ (hexValue? e).isSome ∧
      UInt8.ofNat (16 * (hexValue? d).getD 0 + (hexValue? e).getD 0) = UInt8.ofNat n := by
    intro n
    refine ⟨_, _, rfl, ?_⟩
    revert n
    decide +kernel
  obtain ⟨d, e, h₁, h₂, h₃, h₄⟩ := h ⟨b.toNat, b.toNat_lt⟩
  rw [UInt8.ofNat_toNat] at h₁ h₄
  obtain ⟨hi, hhi⟩ := Option.isSome_iff_exists.1 h₂
  obtain ⟨lo, hlo⟩ := Option.isSome_iff_exists.1 h₃
  exact ⟨d, e, hi, lo, h₁, hhi, hlo, by simpa [hhi, hlo] using h₄⟩

/-- A written byte is read back. -/
theorem percentBytes_percentByte_append (b : UInt8) (cs : List Char) :
    percentBytes (percentByte b ++ cs) = b :: percentBytes cs := by
  obtain ⟨d, e, hi, lo, h, hd, he, hb⟩ := hexValue?_hexByte b
  simp [percentByte, h, percentBytes, hd, he, hb]

/-- A character other than `%` stands for its own bytes. -/
theorem percentBytes_cons_of_ne {c : Char} (h : c ≠ '%') (cs : List Char) :
    percentBytes (c :: cs) = String.utf8EncodeChar c ++ percentBytes cs := by
  match cs with
  | [] => simp [percentBytes]
  | [d] => simp [percentBytes]
  | d :: e :: cs => simp [percentBytes, h]

/-- One encoded character is read back as its bytes. -/
theorem percentBytes_percentChar_append {keep : Char → Bool} (h : keep '%' = false) (c : Char)
    (cs : List Char) :
    percentBytes (percentChar keep c ++ cs) = String.utf8EncodeChar c ++ percentBytes cs := by
  unfold percentChar
  split
  · next hc => exact percentBytes_cons_of_ne (fun e => by simp [e, h] at hc) cs
  · generalize String.utf8EncodeChar c = bs
    induction bs with
    | nil => rfl
    | cons b bs ih =>
      rw [List.flatMap_cons, List.append_assoc, percentBytes_percentByte_append, ih]
      rfl

/-- An encoded text is read back as its bytes. -/
theorem percentBytes_percentEncode {keep : Char → Bool} (h : keep '%' = false) (cs : List Char) :
    percentBytes (percentEncode keep cs) = Utf8.encode cs := by
  induction cs with
  | nil => rfl
  | cons c cs ih =>
    rw [percentEncode_cons, percentBytes_percentChar_append h, ih, Utf8.encode_cons]

/-- **Decoding undoes encoding** when `%` is not kept. -/
theorem percentDecode_percentEncode {keep : Char → Bool} (h : keep '%' = false) (cs : List Char) :
    percentDecode (percentEncode keep cs) = .ok cs := by
  rw [percentDecode, percentBytes_percentEncode h, Utf8.decode_encode]

end CatalogSearch.Text
