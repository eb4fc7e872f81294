import Mathlib.Data.List.Induction
import Mathlib.Data.List.Nodup
import Mathlib.Logic.Function.Basic

/-! # Lists without their repetitions

Values that are given several times count once, at their first place.

* **`nodup_eraseDups`**, **`map_eraseDups`**: what is left of a list without its repetitions, and of
  the images of its elements;
* **`eraseDups_concat`**, **`pairwise_idxOf_eraseDups`**: one more value counts if it is new, and
  what is left is in the order of first places;
* **`one_lt_length_iff`**: a list without repetitions has several elements if it has different
  ones. -/

namespace CatalogSearch

variable {α β : Type}

/-- Without its repetitions a list has none. -/
theorem nodup_eraseDups [BEq α] [LawfulBEq α] (l : List α) : l.eraseDups.Nodup := by
  match l with
  | [] =>
    rw [List.eraseDups_nil]
    exact List.nodup_nil
  | a :: l =>
    rw [List.eraseDups_cons, List.nodup_cons]
    constructor
    · intro ha
      have hne := (List.mem_filter.mp (List.mem_eraseDups.mp ha)).2
      simp at hne
    · exact nodup_eraseDups _
termination_by l.length
decreasing_by
  exact Nat.lt_succ_of_le (List.length_filter_le ..)

/-- Repetitions are found in the images of values as in the values, if no two values share an
image. -/
theorem map_eraseDups [BEq α] [LawfulBEq α] [BEq β] [LawfulBEq β] {f : α → β}
    (hf : Function.Injective f) (l : List α) : l.eraseDups.map f = (l.map f).eraseDups := by
  match l with
  | [] => rfl
  | a :: l =>
    have hfilter : (l.filter fun b => !b == a).map f = (l.map f).filter fun b => !b == f a := by
      rw [List.filter_map]
      refine congrArg (List.map f) (List.filter_congr fun b _ => ?_)
      simp [hf.beq_eq]
    rw [List.map_cons, List.eraseDups_cons, List.eraseDups_cons, List.map_cons,
      map_eraseDups hf, hfilter]
termination_by l.length
decreasing_by
  exact Nat.lt_succ_of_le (List.length_filter_le ..)

/-- **One more value counts if it is new.** -/
theorem eraseDups_concat [BEq α] [LawfulBEq α] (l : List α) (a : α) [Decidable (a ∈ l)] :
    (l ++ [a]).eraseDups = if a ∈ l then l.eraseDups else l.eraseDups ++ [a] := by
  rw [List.eraseDups_append]
  by_cases ha : a ∈ l
  · rw [if_pos ha]
    simp [List.removeAll, ha]
  · rw [if_neg ha]
    simp [List.removeAll, ha, List.eraseDups_cons]

/-- **What is left of a list is in the order of the first places.** -/
theorem pairwise_idxOf_eraseDups [DecidableEq α] (l : List α) :
    l.eraseDups.Pairwise fun a b => l.idxOf a < l.idxOf b := by
  induction l using List.reverseRecOn with
  | nil =>
    rw [List.eraseDups_nil]
    exact List.Pairwise.nil
  | append_singleton l c ih =>
    -- The values there were before stay at their places.
    have hbefore : l.eraseDups.Pairwise fun a b => (l ++ [c]).idxOf a < (l ++ [c]).idxOf b := by
      refine ih.imp_of_mem fun ha hb hab => ?_
      rw [List.idxOf_append_of_mem (List.mem_eraseDups.mp ha),
        List.idxOf_append_of_mem (List.mem_eraseDups.mp hb)]
      exact hab
    rw [eraseDups_concat]
    by_cases hc : c ∈ l
    · rw [if_pos hc]
      exact hbefore
    · rw [if_neg hc, List.pairwise_append]
      refine ⟨hbefore, List.pairwise_singleton _ c, fun a ha b hb => ?_⟩
      obtain rfl := List.mem_singleton.mp hb
      have ha := List.mem_eraseDups.mp ha
      rw [List.idxOf_append_of_mem ha, List.idxOf_append_of_notMem hc]
      exact Nat.lt_add_right _ (List.idxOf_lt_length_of_mem ha)

/-- In a list without repetitions there are several elements if there is another one beside a given
one. -/
theorem one_lt_length_iff {l : List α} (h : l.Nodup) {a : α} (ha : a ∈ l) :
    1 < l.length ↔ ∃ b ∈ l, a ≠ b := by
  constructor
  · intro hlength
    match l, h with
    | b :: c :: l, h =>
      have hbc : b ≠ c := fun hbc => (List.nodup_cons.mp h).1 (hbc ▸ List.mem_cons_self)
      by_cases hab : a = b
      · exact ⟨c, List.mem_cons_of_mem b List.mem_cons_self, hab ▸ hbc⟩
      · exact ⟨b, List.mem_cons_self, hab⟩
  · rintro ⟨b, hb, hne⟩
    match l, ha, hb with
    | [c], ha, hb =>
      exact absurd ((List.mem_singleton.mp ha).trans (List.mem_singleton.mp hb).symm) hne
    | _ :: _ :: l, _, _ => exact Nat.succ_lt_succ (Nat.succ_pos l.length)

end CatalogSearch
