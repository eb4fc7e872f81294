import CatalogSearch.Text.Percent

/-! # Percent-encoded texts

What an encoded text is made of, and what it spells.

* **`Text.IsPercentEncoded`**: texts of unreserved characters and percent-encoded bytes;
* **`Text.isPercentEncoded_percentEncode`**: encoded texts are of this kind;
* **`Text.toNat_of_isUnreserved`**: unreserved characters are visible;
* **`Text.percentDecode_of_forall_ne`**: a text without percent signs spells itself. -/

namespace CatalogSearch.Text

/-! ## Characters -/

/-- A text of characters that are kept is its own encoding. -/
theorem percentEncode_of_forall {keep : Char → Bool} {cs : List Char}
    (h : ∀ c ∈ cs, keep c = true) : percentEncode keep cs = cs := by
  induction cs with
  | nil => rfl
  | cons c cs ih =>
    rw [percentEncode_cons, percentChar, if_pos (h c List.mem_cons_self),
      ih fun d hd => h d (List.mem_cons_of_mem c hd)]
    rfl

/-- The digits of a byte are unreserved. -/
theorem isUnreserved_of_mem_hexByte {c : Char} {b : UInt8} (h : c ∈ hexByte b) :
    isUnreserved c = true := by
  have hbytes : ∀ n : Fin 256, (hexByte (UInt8.ofNat n)).all isUnreserved = true := by
    decide +kernel
  have hb := hbytes ⟨b.toNat, b.toNat_lt⟩
  rw [UInt8.ofNat_toNat] at hb
  exact List.all_eq_true.mp hb c h

/-- An encoded text has unreserved characters and percent signs. -/
theorem mem_percentEncode {c : Char} {cs : List Char} (h : c ∈ percentEncode isUnreserved cs) :
    isUnreserved c = true ∨ c = '%' := by
  obtain ⟨d, -, hc⟩ := List.mem_flatMap.mp h
  rw [percentChar] at hc
  by_cases hd : isUnreserved d
  · rw [if_pos hd, List.mem_singleton] at hc
    rw [hc]
    exact Or.inl hd
  · rw [if_neg hd] at hc
    obtain ⟨b, -, hc⟩ := List.mem_flatMap.mp hc
    rcases List.mem_cons.mp hc with rfl | hc
    · exact Or.inr rfl
    · exact Or.inl (isUnreserved_of_mem_hexByte hc)

/-- Digits are unreserved. -/
theorem isUnreserved_of_isDigit {c : Char} (h : c.isDigit = true) : isUnreserved c = true := by
  rw [isUnreserved, Char.isAlphanum, h, Bool.or_true]
  rfl

/-- Letters and digits stand in three ranges of ASCII. -/
theorem toNat_of_isAlphanum {c : Char} (h : c.isAlphanum = true) :
    (0x41 ≤ c.toNat ∧ c.toNat ≤ 0x5A) ∨ (0x61 ≤ c.toNat ∧ c.toNat ≤ 0x7A) ∨
      (0x30 ≤ c.toNat ∧ c.toNat ≤ 0x39) := by
  rcases Bool.or_eq_true_iff.mp h with h | h
  · rcases Bool.or_eq_true_iff.mp h with h | h
    · have hrange : 'A'.val ≤ c.val ∧ c.val ≤ 'Z'.val := of_decide_eq_true h
      exact Or.inl hrange
    · obtain ⟨hlow, hhigh⟩ := Bool.and_eq_true_iff.mp h
      exact Or.inr (Or.inl ⟨of_decide_eq_true hlow, of_decide_eq_true hhigh⟩)
  · obtain ⟨hlow, hhigh⟩ := Bool.and_eq_true_iff.mp h
    exact Or.inr (Or.inr ⟨of_decide_eq_true hlow, of_decide_eq_true hhigh⟩)

/-- Unreserved characters are visible ASCII characters. -/
theorem toNat_of_isUnreserved {c : Char} (h : isUnreserved c = true) :
    0x20 < c.toNat ∧ c.toNat < 0x7F := by
  simp only [isUnreserved, Bool.or_eq_true, beq_iff_eq] at h
  rcases h with (((h | rfl) | rfl) | rfl) | rfl
  · have hword := toNat_of_isAlphanum h
    omega
  · decide
  · decide
  · decide
  · decide

/-! ## Encoded texts -/

/-- **A text of unreserved characters and percent-encoded bytes.** -/
inductive IsPercentEncoded : List Char → Prop where
  | nil : IsPercentEncoded []
  | unreserved {c : Char} {cs : List Char} (hc : isUnreserved c = true) (h : IsPercentEncoded cs) :
    IsPercentEncoded (c :: cs)
  | byte {hi lo : Char} {cs : List Char} (hhi : (hexValue? hi).isSome = true)
      (hlo : (hexValue? lo).isSome = true) (h : IsPercentEncoded cs) :
    IsPercentEncoded ('%' :: hi :: lo :: cs)

/-- Encoded bytes may stand in front of an encoded text. -/
theorem IsPercentEncoded.flatMap_percentByte_append {cs : List Char} (h : IsPercentEncoded cs)
    (bytes : List UInt8) : IsPercentEncoded (bytes.flatMap percentByte ++ cs) := by
  induction bytes with
  | nil => exact h
  | cons b bytes ih =>
    obtain ⟨hi, lo, m, n, hb, hhi, hlo, -⟩ := hexValue?_hexByte b
    rw [List.flatMap_cons, List.append_assoc, percentByte, hb]
    exact .byte (Option.isSome_of_mem hhi) (Option.isSome_of_mem hlo) ih

/-- **An encoded text** has unreserved characters and percent-encoded bytes only. -/
theorem isPercentEncoded_percentEncode (cs : List Char) :
    IsPercentEncoded (percentEncode isUnreserved cs) := by
  induction cs with
  | nil => exact .nil
  | cons c cs ih =>
    rw [percentEncode_cons, percentChar]
    by_cases hc : isUnreserved c = true
    · rw [if_pos hc]
      exact .unreserved hc ih
    · rw [if_neg hc]
      exact ih.flatMap_percentByte_append _

/-! ## What a text spells -/

/-- A text without percent signs spells itself. -/
theorem percentDecode_of_forall_ne {cs : List Char} (h : ∀ c ∈ cs, c ≠ '%') :
    percentDecode cs = .ok cs := by
  have hbytes : percentBytes cs = Utf8.encode cs := by
    induction cs with
    | nil => rfl
    | cons c cs ih =>
      obtain ⟨hc, hcs⟩ := List.forall_mem_cons.mp h
      rw [percentBytes_cons_of_ne hc, ih hcs, Utf8.encode_cons]
  rw [percentDecode, hbytes, Utf8.decode_encode]

end CatalogSearch.Text
