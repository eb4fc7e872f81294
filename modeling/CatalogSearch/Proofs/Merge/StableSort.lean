import Mathlib.Data.List.Forall2
import Mathlib.Data.List.Sort

/-! # Stable sorting and prefixes

`List.mergeSort` puts equal elements in the order of the list. For an `Ordering` that is transitive
and oriented, this says where each single element goes, and how little of a list its first sorted
elements depend on:

* **`mergeSort_cons_eq_orderedInsert`**: sorting a list inserts its head into its sorted tail;
* **`StablySorts`**, **`stablySorts_mergeSort`**: what sorting does to a list;
* **`forall₂_of_ties`**: what relates the ties of two ordered lists relates the lists;
* **`exists_mergeSort_append_cons`**: where an element from the middle of a list ends up;
* **`take_mergeSort_flatten`**: the first `n` sorted elements of some sorted lists are among the
  first `n` elements of each. -/

namespace CatalogSearch

open List

variable {α : Type}

/-! ## Insertion into two parts -/

section Insertion

variable {r : α → α → Prop} [DecidableRel r] {a : α}

/-- An element that is not above some element of the first part goes there. -/
theorem orderedInsert_append_of_exists {l₁ : List α} (h : ∃ b ∈ l₁, r a b) (l₂ : List α) :
    (l₁ ++ l₂).orderedInsert r a = l₁.orderedInsert r a ++ l₂ := by
  induction l₁ with
  | nil => simp at h
  | cons c l₁ ih =>
    rw [cons_append, orderedInsert_cons, orderedInsert_cons]
    by_cases hc : r a c
    · rw [if_pos hc, if_pos hc, cons_append, cons_append]
    · rw [if_neg hc, if_neg hc, cons_append, ih]
      obtain ⟨b, hb, hab⟩ := h
      rcases mem_cons.mp hb with rfl | hb
      · exact absurd hab hc
      · exact ⟨b, hb, hab⟩

/-- An element that is above the whole first part goes into the second. -/
theorem orderedInsert_append_of_forall {l₁ : List α} (h : ∀ b ∈ l₁, ¬ r a b) (l₂ : List α) :
    (l₁ ++ l₂).orderedInsert r a = l₁ ++ l₂.orderedInsert r a := by
  induction l₁ with
  | nil => rfl
  | cons c l₁ ih =>
    rw [cons_append, orderedInsert_of_not_le r _ (h c mem_cons_self),
      ih fun b hb => h b (mem_cons_of_mem c hb), cons_append]

/-- An element that is not above any element of a list goes to its front. -/
theorem orderedInsert_of_forall {l : List α} (h : ∀ b ∈ l, r a b) :
    l.orderedInsert r a = a :: l := by
  cases l with
  | nil => rfl
  | cons b l => exact orderedInsert_cons_of_le r l (h b mem_cons_self)

end Insertion

/-! ## Sorting as insertion -/

variable (cmp : α → α → Ordering) [Std.TransCmp cmp]

/-- Of two elements one is not greater. -/
theorem isLE_total (a b : α) : ((cmp a b).isLE || (cmp b a).isLE) = true := by
  have hswap : cmp b a = (cmp a b).swap := Std.OrientedCmp.eq_swap
  rw [hswap]
  cases cmp a b <;> rfl

/-- A sorted list is ordered. -/
theorem pairwise_mergeSort_isLE (l : List α) :
    (l.mergeSort fun a b => (cmp a b).isLE).Pairwise fun a b => (cmp a b).isLE :=
  pairwise_mergeSort (fun _ _ _ => Std.TransCmp.isLE_trans) (isLE_total cmp) l

/-- Elements that are equal to one another stay in the order of the list. -/
theorem filter_mergeSort_eq (x : α) (l : List α) :
    (l.mergeSort fun a b => (cmp a b).isLE).filter (fun a => cmp x a = .eq) =
      l.filter fun a => cmp x a = .eq := by
  have hordered : (l.filter fun a => cmp x a = .eq).Pairwise fun a b => (cmp a b).isLE := by
    apply pairwise_of_forall_mem_list
    intro a ha b hb
    have hxa : cmp x a = .eq := by simpa using (mem_filter.mp ha).2
    have hxb : cmp x b = .eq := by simpa using (mem_filter.mp hb).2
    have hab : cmp a b = .eq :=
      Std.TransCmp.eq_trans (Std.OrientedCmp.eq_comm.mp hxa) hxb
    rw [hab]
    rfl
  have hsublist : (l.filter fun a => cmp x a = .eq).Sublist
      (l.mergeSort fun a b => (cmp a b).isLE) :=
    sublist_mergeSort (fun _ _ _ => Std.TransCmp.isLE_trans) (isLE_total cmp) hordered
      filter_sublist
  -- Both sides have as many elements, so the smaller one is all of the other.
  have hfiltered := hsublist.filter fun a => cmp x a = .eq
  rw [filter_filter] at hfiltered
  simp only [Bool.and_self] at hfiltered
  have hperm := (mergeSort_perm l fun a b => (cmp a b).isLE).filter fun a => cmp x a = .eq
  have hlength := hperm.length_eq
  exact (hfiltered.eq_of_length hlength.symm).symm

/-- **A list sorted stably**: it has the same elements in order, and equal ones as they were. -/
structure StablySorts (cmp : α → α → Ordering) (sorted l : List α) : Prop where
  perm : sorted.Perm l
  ordered : sorted.Pairwise fun a b => (cmp a b).isLE
  ties : ∀ x, sorted.filter (fun a => cmp x a = .eq) = l.filter fun a => cmp x a = .eq

/-- **Sorting is stable.** -/
theorem stablySorts_mergeSort (l : List α) :
    StablySorts cmp (l.mergeSort fun a b => (cmp a b).isLE) l where
  perm := mergeSort_perm l _
  ordered := pairwise_mergeSort_isLE cmp l
  ties x := filter_mergeSort_eq cmp x l

namespace StablySorts

variable {β : Type} {cmp : β → β → Ordering}

/-- Of a list sorted stably, any part is. -/
theorem filter {sorted l : List β} (h : StablySorts cmp sorted l) (p : β → Bool) :
    StablySorts cmp (sorted.filter p) (l.filter p) where
  perm := h.perm.filter p
  ordered := h.ordered.filter p
  ties x := by
    rw [filter_filter, filter_filter]
    simp only [Bool.and_comm _ (p _)]
    rw [← filter_filter, ← filter_filter, h.ties x]

/-- The values of a list that is sorted stably by them are, if everything is the value of
something. -/
theorem map {f : α → β} (hf : Function.Surjective f) {sorted l : List α}
    (h : StablySorts (fun a b => cmp (f a) (f b)) sorted l) :
    StablySorts cmp (sorted.map f) (l.map f) where
  perm := h.perm.map f
  ordered := pairwise_map.mpr h.ordered
  ties x := by
    obtain ⟨a, rfl⟩ := hf x
    rw [filter_map, filter_map]
    exact congrArg (List.map f) (h.ties a)

end StablySorts

/-- **Sorting a list inserts its head into its sorted tail**, before the first element that is not
below it. -/
theorem mergeSort_cons_eq_orderedInsert (a : α) (l : List α) :
    ((a :: l).mergeSort fun a b => (cmp a b).isLE) =
      (l.mergeSort fun a b => (cmp a b).isLE).orderedInsert (fun a b => (cmp a b).isLE) a := by
  obtain ⟨before, after, hcons, htail, hbefore⟩ :=
    mergeSort_cons (fun _ _ _ => Std.TransCmp.isLE_trans) (isLE_total cmp) a l
  have hsorted := pairwise_mergeSort_isLE cmp (a :: l)
  rw [hcons, pairwise_append, pairwise_cons] at hsorted
  rw [hcons, htail, orderedInsert_append_of_forall (by simpa using hbefore),
    orderedInsert_of_forall hsorted.2.1.1]

/-! ## Ordered lists and their ties -/

section Ties

variable {cmp}

/-- In an ordered list nothing is below the first element. -/
theorem isLE_of_mem_cons {a c : α} {l : List α} (h : (a :: l).Pairwise fun a b => (cmp a b).isLE)
    (hc : c ∈ a :: l) : (cmp a c).isLE := by
  rcases mem_cons.mp hc with rfl | hc
  · exact Std.ReflCmp.isLE_rfl
  · exact (pairwise_cons.mp h).1 c hc

/-- The first element of an ordered list is not above what is equal to any element. -/
theorem isLE_of_eq_of_mem_cons {a c x : α} {l : List α}
    (h : (a :: l).Pairwise fun a b => (cmp a b).isLE) (hc : c ∈ a :: l) (hxc : cmp x c = .eq) :
    (cmp a x).isLE := by
  have hcx : cmp c x = .eq := Std.OrientedCmp.eq_comm.mp hxc
  exact Std.TransCmp.isLE_trans (isLE_of_mem_cons h hc) (by rw [hcx]; rfl)

omit [Std.TransCmp cmp] in
/-- The ties of an element begin with the first element that is one. -/
theorem filter_tied_cons {x a : α} (h : cmp x a = .eq) (l : List α) :
    (a :: l).filter (fun a => cmp x a = .eq) = a :: l.filter fun a => cmp x a = .eq :=
  filter_cons_of_pos (decide_eq_true h)

omit [Std.TransCmp cmp] in
/-- An element that is no tie is not among them. -/
theorem filter_untied_cons {x a : α} (h : cmp x a ≠ .eq) (l : List α) :
    (a :: l).filter (fun a => cmp x a = .eq) = l.filter fun a => cmp x a = .eq :=
  filter_cons_of_neg fun hp => h (of_decide_eq_true hp)

/-- The first elements of ordered lists are equal if each has an equal in the other list. -/
theorem eq_of_mem_cons {a b c d : α} {l l' : List α}
    (hl : (a :: l).Pairwise fun a b => (cmp a b).isLE)
    (hl' : (b :: l').Pairwise fun a b => (cmp a b).isLE)
    (hc : c ∈ (b :: l').filter fun c => cmp a c = .eq)
    (hd : d ∈ (a :: l).filter fun d => cmp b d = .eq) : cmp a b = .eq := by
  obtain ⟨hc, hac⟩ := mem_filter.mp hc
  obtain ⟨hd, hbd⟩ := mem_filter.mp hd
  exact Std.OrientedCmp.isLE_antisymm (isLE_of_eq_of_mem_cons hl hd (of_decide_eq_true hbd))
    (isLE_of_eq_of_mem_cons hl' hc (of_decide_eq_true hac))

/-- **What relates the ties of two ordered lists relates the lists**, place by place, and what
stands at the same place is equal. -/
theorem forall₂_of_ties {R : α → α → Prop} {l l' : List α}
    (hl : l.Pairwise fun a b => (cmp a b).isLE) (hl' : l'.Pairwise fun a b => (cmp a b).isLE)
    (h : ∀ x, Forall₂ R (l.filter fun a => cmp x a = .eq) (l'.filter fun a => cmp x a = .eq)) :
    Forall₂ (fun a b => cmp a b = .eq ∧ R a b) l l' := by
  induction l generalizing l' with
  | nil =>
    cases l' with
    | nil => exact .nil
    | cons b l' =>
      have hb := h b
      rw [filter_tied_cons Std.ReflCmp.compare_self] at hb
      cases hb
  | cons a l ih =>
    have ha := h a
    rw [filter_tied_cons Std.ReflCmp.compare_self] at ha
    cases l' with
    | nil => cases ha
    | cons b l' =>
      have hb := h b
      rw [filter_tied_cons Std.ReflCmp.compare_self l'] at hb
      -- Each first element is related to a tie of its own in the other list.
      have hab : cmp a b = .eq := by
        obtain ⟨c, cs, -, -, hc⟩ := forall₂_cons_left_iff.mp ha
        obtain ⟨d, ds, -, -, hd⟩ := forall₂_cons_right_iff.mp hb
        exact eq_of_mem_cons hl hl' (hc ▸ mem_cons_self) (hd ▸ mem_cons_self)
      rw [filter_tied_cons hab, forall₂_cons] at ha
      refine .cons ⟨hab, ha.1⟩ (ih (pairwise_cons.mp hl).2 (pairwise_cons.mp hl').2 fun x => ?_)
      -- The first elements are both ties of an element, or both not.
      have hx := h x
      by_cases hxa : cmp x a = .eq
      · rw [filter_tied_cons hxa, filter_tied_cons (Std.TransCmp.eq_trans hxa hab),
          forall₂_cons] at hx
        exact hx.2
      · have hxb : cmp x b ≠ .eq := fun hxb =>
          hxa (Std.TransCmp.eq_trans hxb (Std.OrientedCmp.eq_comm.mp hab))
        rwa [filter_untied_cons hxa, filter_untied_cons hxb] at hx

end Ties

/-! ## One element more or less -/

/-- **Where an element from the middle of a list ends up**: the others are sorted as if it were not
there, and it comes after all that precede it in the list and are not above it. -/
theorem exists_mergeSort_append_cons (front : List α) (x : α) (back : List α) :
    ∃ before after,
      ((front ++ x :: back).mergeSort fun a b => (cmp a b).isLE) = before ++ x :: after ∧
      ((front ++ back).mergeSort fun a b => (cmp a b).isLE) = before ++ after ∧
      front.countP (fun a => (cmp a x).isLE) ≤ before.length := by
  induction front with
  | nil =>
    obtain ⟨before, after, hwith, hwithout, -⟩ :=
      mergeSort_cons (fun _ _ _ => Std.TransCmp.isLE_trans) (isLE_total cmp) x back
    exact ⟨before, after, hwith, hwithout, Nat.zero_le _⟩
  | cons p front ih =>
    obtain ⟨before, after, hwith, hwithout, hcount⟩ := ih
    have hsorted := pairwise_mergeSort_isLE cmp (front ++ x :: back)
    rw [hwith, pairwise_append, pairwise_cons] at hsorted
    rw [cons_append, cons_append, mergeSort_cons_eq_orderedInsert, mergeSort_cons_eq_orderedInsert,
      hwith, hwithout, countP_cons]
    by_cases hbefore : ∃ b ∈ before, (cmp p b).isLE
    · -- `p` goes before `x` in both lists.
      rw [orderedInsert_append_of_exists hbefore, orderedInsert_append_of_exists hbefore]
      refine ⟨_, _, rfl, rfl, ?_⟩
      rw [orderedInsert_length]
      split <;> omega
    · have hbefore' : ∀ b ∈ before, ¬ (cmp p b).isLE := fun b hb hle => hbefore ⟨b, hb, hle⟩
      rw [orderedInsert_append_of_forall hbefore', orderedInsert_append_of_forall hbefore',
        orderedInsert_cons]
      by_cases hpx : (cmp p x).isLE
      · -- `p` stands right before `x`, which is not above what follows.
        have hafter : ∀ b ∈ after, (cmp p b).isLE :=
          fun b hb => Std.TransCmp.isLE_trans hpx (hsorted.2.1.1 b hb)
        rw [if_pos hpx, orderedInsert_of_forall hafter]
        refine ⟨before ++ [p], after, by simp, by simp, ?_⟩
        rw [if_pos hpx, length_append, length_singleton]
        omega
      · -- `p` is above `x` and is not counted.
        rw [if_neg hpx, if_neg hpx]
        exact ⟨before, _, rfl, rfl, hcount⟩

variable {cmp}

/-- An element with `n` others before it that are not above it is not needed for the first `n`. -/
theorem take_mergeSort_append_cons {n : Nat} {front : List α} {x : α}
    (h : n ≤ front.countP fun a => (cmp a x).isLE) (back : List α) :
    ((front ++ x :: back).mergeSort fun a b => (cmp a b).isLE).take n =
      ((front ++ back).mergeSort fun a b => (cmp a b).isLE).take n := by
  obtain ⟨before, after, hwith, hwithout, hcount⟩ := exists_mergeSort_append_cons cmp front x back
  have hn : n ≤ before.length := Nat.le_trans h hcount
  rw [hwith, hwithout, take_append_of_le_length hn, take_append_of_le_length hn]

/-! ## Sorted lists cut off -/

/-- What follows `n` elements of a sorted list is not needed for the first `n` of a larger one. -/
theorem take_mergeSort_append_run {n : Nat} {run tail : List α} (front back : List α)
    (hn : n ≤ run.length) (h : (run ++ tail).Pairwise fun a b => (cmp a b).isLE) :
    ((front ++ run ++ tail ++ back).mergeSort fun a b => (cmp a b).isLE).take n =
      ((front ++ run ++ back).mergeSort fun a b => (cmp a b).isLE).take n := by
  induction tail with
  | nil => rw [append_nil]
  | cons y tail ih =>
    have hrun : ∀ a ∈ run, (cmp a y).isLE :=
      fun a ha => (pairwise_append.mp h).2.2 a ha y mem_cons_self
    have hcount : n ≤ (front ++ run).countP fun a => (cmp a y).isLE := by
      rw [countP_append, countP_eq_length.mpr hrun]
      omega
    rw [append_assoc, cons_append, take_mergeSort_append_cons hcount, ← append_assoc]
    exact ih (h.sublist ((sublist_cons_self y tail).append_left run))

/-- The same for a list cut off after `n` elements. -/
theorem take_mergeSort_append_take {l : List α} (h : l.Pairwise fun a b => (cmp a b).isLE) (n : Nat)
    (front back : List α) :
    ((front ++ l.take n ++ back).mergeSort fun a b => (cmp a b).isLE).take n =
      ((front ++ l ++ back).mergeSort fun a b => (cmp a b).isLE).take n := by
  rcases Nat.le_total l.length n with hlen | hlen
  · rw [take_of_length_le hlen]
  · have hsplit : (l.take n ++ l.drop n).Pairwise fun a b => (cmp a b).isLE := by
      rwa [take_append_drop]
    rw [← take_mergeSort_append_run front back (by simpa using hlen) hsplit, append_assoc front,
      take_append_drop]

/-- **The first `n` sorted elements of some sorted lists are among the first `n` of each**, ties
included. -/
theorem take_mergeSort_flatten {lists : List (List α)}
    (h : ∀ l ∈ lists, l.Pairwise fun a b => (cmp a b).isLE) (n : Nat) :
    ((lists.map (take n)).flatten.mergeSort fun a b => (cmp a b).isLE).take n =
      (lists.flatten.mergeSort fun a b => (cmp a b).isLE).take n := by
  -- The lists already cut off stand in front of the rest.
  suffices hfront : ∀ front : List α,
      ((front ++ (lists.map (take n)).flatten).mergeSort fun a b => (cmp a b).isLE).take n =
        ((front ++ lists.flatten).mergeSort fun a b => (cmp a b).isLE).take n from hfront []
  induction lists with
  | nil =>
    intro front
    rfl
  | cons l lists ih =>
    intro front
    have ih' := ih (fun l' hl' => h l' (mem_cons_of_mem l hl')) (front ++ l.take n)
    rw [map_cons, flatten_cons, flatten_cons, ← append_assoc, ih',
      take_mergeSort_append_take (h l mem_cons_self), append_assoc]

end CatalogSearch
