import CatalogSearch.Text.Digit

/-! # Decimal digits are read back

* **`Text.readNat?_natDigits`**: the digits of a number are read as the number;
* **`Text.isDigit_of_mem_natDigits`**: they are digits;
* **`Text.readNat?_padNat`**, **`Text.length_padNat`**: the same with zeros in front;
* **`Text.readNat?_eq_ofDigitChars`**: what digits are read as;
* **`Text.exists_digits_of_readNat?`**: only digits are read as a number. -/

namespace CatalogSearch.Text

/-- A digit has its value. -/
theorem digitValue?_digitChar {n : Nat} (h : n < 10) : digitValue? n.digitChar = some n := by
  have hdigits : ∀ d : Fin 10, digitValue? (Nat.digitChar d) = some d.val := by decide
  exact hdigits ⟨n, h⟩

/-- Digits are read one after another. -/
theorem readDigits?_append (value? : Char → Option Nat) (base acc : Nat) (cs ds : List Char) :
    readDigits? value? base acc (cs ++ ds) =
      (readDigits? value? base acc cs).bind fun n => readDigits? value? base n ds := by
  induction cs generalizing acc with
  | nil => rfl
  | cons c cs ih =>
    rw [List.cons_append, readDigits?, readDigits?]
    cases value? c with
    | none => rfl
    | some d => exact ih (acc * base + d)

/-- A text that is not empty is read from its first digit on. -/
theorem readNat?_of_ne_nil {cs : List Char} (h : cs ≠ []) :
    readNat? cs = readDigits? digitValue? 10 0 cs := by
  cases cs with
  | nil => exact absurd rfl h
  | cons => rfl

/-- **The digits of a number are read as the number.** -/
theorem readNat?_natDigits (n : Nat) : readNat? (natDigits n) = some n := by
  unfold natDigits
  rw [readNat?_of_ne_nil Nat.toDigits_ne_nil]
  induction n using Nat.strongRecOn with
  | ind n ih =>
    have hlast : n % 10 < 10 := Nat.mod_lt n (by decide)
    by_cases hn : n < 10
    · rw [Nat.toDigits_of_lt_base hn, readDigits?, digitValue?_digitChar hn, Option.bind_some,
        readDigits?, Nat.zero_mul, Nat.zero_add]
    · have hdiv : n / 10 < n := Nat.div_lt_self (by omega) (by decide)
      rw [Nat.toDigits_of_base_le (by decide) (Nat.not_lt.mp hn), readDigits?_append,
        ih (n / 10) hdiv, Option.bind_some, readDigits?, digitValue?_digitChar hlast,
        Option.bind_some, readDigits?, Nat.mul_comm, Nat.div_add_mod]

/-- Digits of numbers are digits. -/
theorem isDigit_of_mem_natDigits {c : Char} {n : Nat} (h : c ∈ natDigits n) : c.isDigit = true :=
  Nat.isDigit_of_mem_toDigits (by decide) (by decide) h

/-- **A number with zeros in front is read as the number.** -/
theorem readNat?_padNat (width n : Nat) : readNat? (padNat width n) = some n := by
  have hne : natDigits n ≠ [] := Nat.toDigits_ne_nil
  have hread := readNat?_natDigits n
  rw [readNat?_of_ne_nil hne] at hread
  rw [padNat, readNat?_of_ne_nil (List.append_ne_nil_of_right_ne_nil _ hne), readDigits?_append]
  have hzeros : ∀ k, readDigits? digitValue? 10 0 (List.replicate k '0') = some 0 := by
    intro k
    induction k with
    | zero => rfl
    | succ k ih => exact ih
  rw [hzeros]
  exact hread

/-- A number that has no more digits than there is room for fills it. -/
theorem length_padNat {width n : Nat} (hwidth : 0 < width) (h : n < Nat.pow 10 width) :
    (padNat width n).length = width := by
  have hlen : (natDigits n).length ≤ width :=
    (Nat.length_toDigits_le_iff (by decide) hwidth).mpr h
  rw [padNat, List.length_append, List.length_replicate]
  omega

/-- The value of a digit is its place after zero. -/
theorem digitValue?_eq (c : Char) :
    digitValue? c = if c.isDigit then some (c.toNat - '0'.toNat) else none := by
  have hdigit : c.isDigit = true ↔ '0' ≤ c ∧ c ≤ '9' := by simp [Char.isDigit, Char.le_def]
  simp only [digitValue?, hdigit]

/-- Digits are read for what they are worth behind the number before them. -/
theorem readDigits?_eq_ofDigitChars (acc : Nat) (cs : List Char) :
    readDigits? digitValue? 10 acc cs =
      if cs.all Char.isDigit then some (Nat.ofDigitChars 10 cs acc) else none := by
  induction cs generalizing acc with
  | nil => rfl
  | cons c cs ih =>
    rw [readDigits?, digitValue?_eq, List.all_cons]
    cases c.isDigit with
    | false => rfl
    | true =>
      rw [if_pos rfl, Option.bind_some, ih, Bool.true_and, Nat.ofDigitChars_cons, Nat.mul_comm]

/-- **ASCII digits, and nothing else, are read as a number**, which is what they are worth. -/
theorem readNat?_eq_ofDigitChars {cs : List Char} (h : cs ≠ []) :
    readNat? cs = if cs.all Char.isDigit then some (Nat.ofDigitChars 10 cs 0) else none := by
  rw [readNat?_of_ne_nil h, readDigits?_eq_ofDigitChars]

/-- **Only digits are read as a number**, and at least one. -/
theorem exists_digits_of_readNat? {cs : List Char} {n : Nat} (h : readNat? cs = some n) :
    cs ≠ [] ∧ ∀ c ∈ cs, (digitValue? c).isSome = true := by
  have hne : cs ≠ [] := by
    rintro rfl
    cases h
  refine ⟨hne, ?_⟩
  rw [readNat?_of_ne_nil hne] at h
  generalize 0 = acc at h
  clear hne
  induction cs generalizing acc with
  | nil => exact fun c hc => absurd hc List.not_mem_nil
  | cons c cs ih =>
    obtain ⟨d, hd, hrest⟩ := Option.bind_eq_some_iff.mp h
    rw [List.forall_mem_cons]
    exact ⟨Option.isSome_of_eq_some hd, ih _ hrest⟩

end CatalogSearch.Text
