import CatalogSearch.Number.Single

/-! # The total order of singles

Bit patterns are put into one order by reading them as signed words, after all bits but the sign of
negative numbers are turned over. Singles are ordered by their keys, and this is the same order:
both zeros, the infinities and what is no number have their places in it.

* **`Single.totalWord`**: the signed word of a bit pattern;
* **`Single.toInt_totalWord`**: it is the key of the single;
* **`Single.totalCompare`**: the order of bit patterns;
* **`Single.compare_eq_totalCompare`**: it is the order of singles. -/

namespace CatalogSearch.Single

/-- **The signed word of a bit pattern.** The sign, spread over the whole word and moved on by one
bit, turns over all bits but itself. -/
def totalWord (x : Single) : Int32 :=
  let word := x.bits.toInt32
  word ^^^ ((word >>> 31).toUInt32 >>> 1).toInt32

/-- **The order of bit patterns**, by their signed words. -/
def totalCompare (x y : Single) : Ordering := Ord.compare x.totalWord.toInt y.totalWord.toInt

/-- The bits of the signed word. -/
theorem toBitVec_totalWord (x : Single) :
    x.totalWord.toBitVec = x.bits.toBitVec ^^^ (x.bits.toBitVec.sshiftRight 31 >>> 1) := rfl

/-- The bits of a number that is not negative stay. -/
theorem toBitVec_totalWord_of_msb_eq_false {x : Single} (h : x.bits.toBitVec.msb = false) :
    x.totalWord.toBitVec = x.bits.toBitVec := by
  have hsign : x.bits.toBitVec.sshiftRight 31 >>> 1 = 0#32 := by
    rw [BitVec.sshiftRight_eq_of_msb_false h, ← BitVec.shiftRight_add]
    exact BitVec.ushiftRight_eq_zero (Nat.le_refl 32)
  rw [toBitVec_totalWord, hsign, BitVec.xor_zero]

/-- The bits of a negative number are turned over, but for its sign. -/
theorem toBitVec_totalWord_of_msb_eq_true {x : Single} (h : x.bits.toBitVec.msb = true) :
    x.totalWord.toBitVec = x.bits.toBitVec ^^^ 0x7FFFFFFF#32 := by
  have hone : ~~~x.bits.toBitVec >>> 31 = 0#32 := by
    have hbits := BitVec.msb_eq_decide x.bits.toBitVec
    apply BitVec.eq_of_toNat_eq
    rw [BitVec.toNat_ushiftRight, BitVec.toNat_not, Nat.shiftRight_eq_div_pow]
    rw [h, eq_comm, decide_eq_true_eq] at hbits
    exact Nat.div_eq_of_lt (by omega)
  rw [toBitVec_totalWord, BitVec.sshiftRight_eq_of_msb_true h, hone]
  rfl

/-- Turning over the lower bits of a word takes them from the largest number they make. -/
theorem toNat_xor_lower {w : BitVec 32} (h : w.msb = true) :
    (w ^^^ 0x7FFFFFFF#32).toNat = signBit + (signBit - 1 - w.toNat % signBit) := by
  have hmsb : (w ^^^ 0x7FFFFFFF#32).msb = true := by
    rw [BitVec.msb_xor, h]
    rfl
  have hlow : (w ^^^ 0x7FFFFFFF#32).setWidth 31 = ~~~(w.setWidth 31) := by
    rw [BitVec.setWidth_xor, ← BitVec.xor_allOnes]
    rfl
  have hlow' := congrArg BitVec.toNat hlow
  rw [BitVec.toNat_setWidth, BitVec.toNat_not, BitVec.toNat_setWidth] at hlow'
  rw [BitVec.msb_eq_decide, decide_eq_true_eq] at hmsb
  have hlt := (w ^^^ 0x7FFFFFFF#32).isLt
  unfold signBit
  omega

/-- **The signed word of a bit pattern is the key of the single.** -/
theorem toInt_totalWord (x : Single) : x.totalWord.toInt = x.key := by
  have hbits := BitVec.msb_eq_decide x.bits.toBitVec
  rw [Int32.toInt, key, magnitude, negative]
  cases hmsb : x.bits.toBitVec.msb with
  | false =>
    have hsign : ¬ signBit ≤ x.bits.toNat := by
      rw [hmsb, eq_comm, decide_eq_false_iff_not] at hbits
      exact hbits
    rw [toBitVec_totalWord_of_msb_eq_false hmsb, BitVec.toInt_eq_msb_cond, hmsb,
      decide_eq_false hsign, Nat.mod_eq_of_lt (Nat.lt_of_not_le hsign)]
    rfl
  | true =>
    have hsign : signBit ≤ x.bits.toNat := by
      rw [hmsb, eq_comm, decide_eq_true_eq] at hbits
      exact hbits
    have hword := toNat_xor_lower hmsb
    have hlow : x.bits.toNat % signBit < signBit := Nat.mod_lt _ (by decide)
    have hneg : (x.bits.toBitVec ^^^ 0x7FFFFFFF#32).msb = true := by
      rw [BitVec.msb_xor, hmsb]
      rfl
    rw [toBitVec_totalWord_of_msb_eq_true hmsb, BitVec.toInt_eq_msb_cond, hneg, if_pos rfl, hword,
      decide_eq_true hsign, if_pos rfl]
    unfold signBit at *
    change ((_ + (_ - 1 - x.bits.toNat % _) : Nat) : Int) - _ = _
    omega

/-- **Singles are ordered as their bit patterns are.** -/
theorem compare_eq_totalCompare (x y : Single) : compare x y = totalCompare x y := by
  rw [compare, totalCompare, toInt_totalWord, toInt_totalWord]

/-- The negative zero comes before the other one. -/
example : compare ⟨0x80000000⟩ ⟨0⟩ = .lt := by decide

end CatalogSearch.Single
