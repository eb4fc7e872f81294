import CatalogSearch.Number.Numeral
import CatalogSearch.Proofs.Text.Decimal

/-! # Integers

Numerals without point and exponent are integers. Those of 64 bits, signed or not, keep their value;
all others are doubles, and so is zero after a minus.

* **`Numeral.IsInteger`**, **`Numeral.IsNegativeZero`**: the integer that a numeral is, and zero
  after a minus;
* **`Numeral.leadingDigits_of_le`**, **`Numeral.leadingDigits_of_lt`**: digits that fit 64 bits, and
  digits that do not;
* **`Numeral.IsInteger.value_eq_whole_iff`**: which integers keep their value. -/

namespace CatalogSearch

namespace Text

/-- A number is not made less by further digits. -/
theorem le_of_readDigits? {base acc n : Nat} (hbase : 0 < base) {value? : Char → Option Nat}
    {cs : List Char} (h : readDigits? value? base acc cs = some n) : acc ≤ n := by
  induction cs generalizing acc with
  | nil => exact Nat.le_of_eq (Option.some.inj h)
  | cons c cs ih =>
    obtain ⟨d, -, hrest⟩ := Option.bind_eq_some_iff.mp h
    calc
      acc ≤ acc * base := Nat.le_mul_of_pos_right acc hbase
      _ ≤ acc * base + d := Nat.le_add_right _ d
      _ ≤ n := ih hrest

end Text

namespace Numeral

/-- **A numeral is an integer** if it has no point and no exponent. -/
structure IsInteger (n : Numeral) (i : Int) : Prop where
  fraction : n.fraction = []
  exponent : n.exponent = none
  whole : Text.readNat? n.whole = some i.natAbs
  sign : i = if n.negative then -(i.natAbs : Int) else i.natAbs

/-- A numeral for zero with a minus in front. -/
def IsNegativeZero (n : Numeral) (i : Int) : Prop := n.negative = true ∧ i = 0

instance (n : Numeral) (i : Int) : Decidable (n.IsNegativeZero i) := by
  unfold IsNegativeZero
  infer_instance

/-- A digit has its value. -/
theorem digit_of_digitValue? {c : Char} {d : Nat} (h : Text.digitValue? c = some d) :
    digit c = d := by rw [digit, h, Option.getD_some]

/-- Digits that fit 64 bits are all read. -/
theorem leadingDigits_of_le {acc n : Nat} {cs : List Char}
    (h : Text.readDigits? Text.digitValue? 10 acc cs = some n) (hn : n ≤ wordMax) :
    leadingDigits acc cs = (n, 0) := by
  induction cs generalizing acc with
  | nil => rw [leadingDigits_nil, Option.some.inj h]
  | cons c cs ih =>
    obtain ⟨d, hd, hrest⟩ := Option.bind_eq_some_iff.mp h
    have hacc := Text.le_of_readDigits? (by decide) hrest
    rw [leadingDigits, digit_of_digitValue? hd, if_neg (by omega)]
    exact ih hrest

/-- Of digits that do not fit 64 bits, some are left over. -/
theorem leadingDigits_of_lt {acc n : Nat} {cs : List Char} (hacc : acc ≤ wordMax)
    (h : Text.readDigits? Text.digitValue? 10 acc cs = some n) (hn : wordMax < n) :
    (leadingDigits acc cs).2 ≠ 0 := by
  induction cs generalizing acc with
  | nil =>
    have hn' : acc = n := Option.some.inj h
    omega
  | cons c cs ih =>
    obtain ⟨d, hd, hrest⟩ := Option.bind_eq_some_iff.mp h
    rw [leadingDigits, digit_of_digitValue? hd]
    by_cases hfull : wordMax < acc * 10 + d
    · rw [if_pos hfull]
      exact Nat.succ_ne_zero _
    · rw [if_neg hfull]
      exact ih (by omega) hrest

/-- **An integer keeps its value** if it has 64 bits, signed or not, and is no zero after a
minus. -/
theorem IsInteger.value_eq_whole_iff {n : Numeral} {i j : Int} (h : n.IsInteger i) :
    n.value = .whole j ↔
      j = i ∧ -(UInt64.size / 2 : Nat) ≤ i ∧ i < UInt64.size ∧ ¬ n.IsNegativeZero i := by
  obtain ⟨hfraction, hexponent, hwhole, hsign⟩ := h
  have hread := hwhole
  rw [Text.readNat?_of_ne_nil (Text.exists_digits_of_readNat? hwhole).1] at hread
  have hword : wordMax + 1 = UInt64.size := rfl
  -- Digits that fit a word may still be no signed one, after a minus.
  by_cases hfits : i.natAbs ≤ wordMax
  · rw [value, leadingDigits_of_le hread hfits]
    simp only [hfraction, hexponent, List.isEmpty_nil, true_and]
    cases hneg : n.negative with
    | false =>
      rw [hneg, if_neg Bool.false_ne_true] at hsign
      simp only [true_or, if_true, Bool.false_eq_true, if_false, Value.whole.injEq, IsNegativeZero,
        hneg, false_and, not_false_eq_true, and_true]
      omega
    | true =>
      rw [hneg, if_pos rfl] at hsign
      simp only [Bool.true_eq_false, false_or, if_true, IsNegativeZero, hneg, true_and]
      by_cases hsmall : 0 < i.natAbs ∧ i.natAbs ≤ UInt64.size / 2
      · rw [if_pos hsmall, Value.whole.injEq]
        omega
      · -- What does not keep its value is a double, or out of range.
        rw [if_neg hsmall]
        refine iff_of_false ?_ (by omega)
        split
        · exact Value.noConfusion
        · exact Value.noConfusion
  · have hleft := leadingDigits_of_lt (Nat.zero_le _) hread (Nat.lt_of_not_le hfits)
    rw [value]
    simp only [hleft, false_and, and_false, if_false]
    refine iff_of_false ?_ ?_
    · split
      · exact Value.noConfusion
      · exact Value.noConfusion
    · rintro ⟨-, hlo, hhi, -⟩
      split at hsign <;> omega

end Numeral

end CatalogSearch
