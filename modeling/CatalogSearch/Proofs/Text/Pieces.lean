import CatalogSearch.Text.Split
import CatalogSearch.Text.WhiteSpace
import Mathlib.Data.List.TakeWhile

/-! # Pieces of texts

What is known of the pieces of a text from the way they are cut out of it.

* **`Text.takeWhile_append_of_head?`**, **`Text.takeWhile_dropWhile_append_cons`**,
  **`Text.cut_of_dropWhile_eq_cons`**: a text is cut at the first character of a kind;
* **`Text.eq_false_of_mem_splitOn`**: pieces have no separators;
* **`Text.joinWith_splitOn`**: joining undoes splitting;
* **`Text.splitOn_append_separator`**, **`Text.splitOn_joinWith_eq_flatMap`**: the pieces of texts
  put together at a separator;
* **`Text.words_trim`**: white space at the ends of a text makes no difference to its words;
* **`Text.isBlank_trim`**, **`Text.isBlank_of_mem_words`**: what is left without white space at its
  ends, and words, are not blank;
* **`Text.trimmed_eq_empty_iff`**: nothing is left of a blank text. -/

namespace CatalogSearch.Text

/-- What stands before the first character that does not satisfy `p`, or before the end. -/
theorem takeWhile_append_of_head? {p : Char → Bool} {front rest : List Char}
    (hfront : ∀ x ∈ front, p x = true) (hrest : ∀ x ∈ rest.head?, p x = false) :
    (front ++ rest).takeWhile p = front := by
  rw [List.takeWhile_append_of_pos hfront]
  cases rest with
  | nil => exact List.append_nil front
  | cons x rest =>
    rw [List.takeWhile_cons_of_neg (by simp [hrest x rfl]), List.append_nil]

/-- A text is cut at the first character that does not satisfy `p`. -/
theorem takeWhile_dropWhile_append_cons {p : Char → Bool} {front : List Char} {ch : Char}
    (hfront : ∀ x ∈ front, p x = true) (hch : p ch = false) (rest : List Char) :
    (front ++ ch :: rest).takeWhile p = front ∧
      (front ++ ch :: rest).dropWhile p = ch :: rest := by
  refine ⟨takeWhile_append_of_head? hfront ?_, ?_⟩
  · intro x hx
    rwa [← Option.some.inj hx]
  · rw [List.dropWhile_append_of_pos hfront, List.dropWhile_cons_of_neg (by simp [hch])]

/-- Where a text is cut, a character stands that does not satisfy `p`, after others that do. -/
theorem cut_of_dropWhile_eq_cons {p : Char → Bool} {cs rest : List Char} {ch : Char}
    (h : cs.dropWhile p = ch :: rest) :
    p ch = false ∧ (∀ x ∈ cs.takeWhile p, p x = true) ∧ cs = cs.takeWhile p ++ ch :: rest := by
  refine ⟨?_, fun x hx => List.mem_takeWhile_imp hx, ?_⟩
  · simpa [h] using List.head_dropWhile_not p (l := cs) (by simp [h])
  · rw [← h, List.takeWhile_append_dropWhile]

/-- A piece of a text has none of the characters that it is split at. -/
theorem eq_false_of_mem_splitOn {p : Char → Bool} {cs piece : List Char}
    (h : piece ∈ splitOn p cs) : ∀ c ∈ piece, p c = false := by
  induction cs generalizing piece with
  | nil =>
    rw [splitOn_nil, List.mem_singleton] at h
    rw [h]
    exact fun c hc => absurd hc List.not_mem_nil
  | cons c cs ih =>
    rw [splitOn] at h
    by_cases hc : p c
    · rw [if_pos hc] at h
      rcases List.mem_cons.mp h with rfl | h
      · exact fun c hc => absurd hc List.not_mem_nil
      · exact ih h
    · rw [if_neg hc] at h
      have hc' : p c = false := by simpa using hc
      cases hsplit : splitOn p cs with
      | nil => exact absurd hsplit (splitOn_ne_nil p cs)
      | cons first pieces =>
        rw [hsplit] at h ih
        rcases List.mem_cons.mp h with rfl | h
        · intro x hx
          rcases List.mem_cons.mp hx with rfl | hx
          · exact hc'
          · exact ih List.mem_cons_self x hx
        · exact ih (List.mem_cons_of_mem first h)

/-! ## Pieces put together again -/

/-- What stands in a piece stands in the joined text. -/
theorem mem_joinWith_of_mem {sep piece : List Char} {pieces : List (List Char)} {c : Char}
    (hpiece : piece ∈ pieces) (hc : c ∈ piece) : c ∈ joinWith sep pieces := by
  induction pieces with
  | nil => exact absurd hpiece List.not_mem_nil
  | cons first pieces ih =>
    cases pieces with
    | nil =>
      rw [List.mem_singleton] at hpiece
      rwa [joinWith_singleton, ← hpiece]
    | cons next pieces =>
      rw [joinWith_cons_cons, List.mem_append, List.mem_append]
      rcases List.mem_cons.mp hpiece with rfl | hpiece
      · exact Or.inl (Or.inl hc)
      · exact Or.inr (ih hpiece)

/-- **Joining undoes splitting** at one character. -/
theorem joinWith_splitOn (d : Char) (cs : List Char) :
    joinWith [d] (splitOn (· == d) cs) = cs := by
  induction cs with
  | nil => rfl
  | cons c cs ih =>
    rw [splitOn]
    cases hsplit : splitOn (· == d) cs with
    | nil => exact absurd hsplit (splitOn_ne_nil _ cs)
    | cons piece pieces =>
      rw [hsplit] at ih
      by_cases hc : c = d
      · subst hc
        rw [if_pos (beq_self_eq_true c), joinWith_cons_cons, ih]
        rfl
      · rw [if_neg (by simpa using hc)]
        cases pieces with
        | nil => exact congrArg (c :: ·) ih
        | cons next pieces => exact congrArg (c :: ·) ih

/-! ## Pieces of texts put together -/

/-- **Texts put together at a separator** have the pieces of both. -/
theorem splitOn_append_separator {p : Char → Bool} {d : Char} (hd : p d = true)
    (front rest : List Char) :
    splitOn p (front ++ d :: rest) = splitOn p front ++ splitOn p rest := by
  induction front with
  | nil =>
    show splitOn p (d :: rest) = [] :: splitOn p rest
    rw [splitOn, if_pos hd]
  | cons c front ih =>
    rw [List.cons_append, splitOn, splitOn, ih]
    by_cases hc : p c
    · rw [if_pos hc, if_pos hc, List.cons_append]
    · rw [if_neg hc, if_neg hc]
      cases hsplit : splitOn p front with
      | nil => exact absurd hsplit (splitOn_ne_nil p front)
      | cons piece pieces => rfl

/-- **Joined texts have the pieces of all of them.** -/
theorem splitOn_joinWith_eq_flatMap (d : Char) {texts : List (List Char)} (hne : texts ≠ []) :
    splitOn (· == d) (joinWith [d] texts) = texts.flatMap (splitOn (· == d)) := by
  induction texts with
  | nil => exact absurd rfl hne
  | cons text texts ih =>
    cases texts with
    | nil => rw [joinWith_singleton, List.flatMap_singleton]
    | cons next texts =>
      rw [joinWith_cons_cons, List.append_assoc, List.singleton_append,
        splitOn_append_separator (p := (· == d)) (beq_self_eq_true d),
        ih (List.cons_ne_nil next texts)]
      rfl

/-- Texts are their own pieces if none of them has the separator, and only then. -/
theorem flatMap_splitOn_eq_self_iff {d : Char} {texts : List (List Char)} :
    texts.flatMap (splitOn (· == d)) = texts ↔ ∀ text ∈ texts, d ∉ text := by
  constructor
  · intro h text htext hd
    rw [← h] at htext
    obtain ⟨whole, -, hpiece⟩ := List.mem_flatMap.mp htext
    have hno := eq_false_of_mem_splitOn hpiece d hd
    rw [beq_self_eq_true] at hno
    cases hno
  · intro h
    have hpieces : ∀ text ∈ texts, splitOn (· == d) text = [text] := by
      intro text htext
      refine splitOn_eq_singleton fun c hc => ?_
      have hne : c ≠ d := by
        rintro rfl
        exact h text htext hc
      simpa using hne
    rw [List.flatMap_def, List.map_congr_left hpieces, ← List.flatMap_def,
      List.flatMap_singleton']

/-! ## Words -/

/-- White space parts words. -/
theorem words_append_white {c : Char} (hc : isWhite c = true) (front rest : List Char) :
    words (front ++ c :: rest) = words front ++ words rest := by
  rw [words, splitOn_append_separator hc, List.filter_append]
  rfl

/-- A blank text has no words. -/
theorem words_of_isBlank {cs : List Char} (h : isBlank cs = true) : words cs = [] := by
  induction cs with
  | nil => rfl
  | cons c cs ih =>
    rw [isBlank_cons, Bool.and_eq_true] at h
    rw [← List.nil_append (c :: cs), words_append_white h.1, ih h.2]
    rfl

/-- White space after a text has no words. -/
theorem words_append_blank {blank : List Char} (h : isBlank blank = true) (cs : List Char) :
    words (cs ++ blank) = words cs := by
  cases blank with
  | nil => rw [List.append_nil]
  | cons c blank =>
    rw [isBlank_cons, Bool.and_eq_true] at h
    rw [words_append_white h.1, words_of_isBlank h.2, List.append_nil]

/-- White space before a text has no words. -/
theorem words_blank_append {blank : List Char} (h : isBlank blank = true) (cs : List Char) :
    words (blank ++ cs) = words cs := by
  induction blank with
  | nil => rfl
  | cons c blank ih =>
    rw [isBlank_cons, Bool.and_eq_true] at h
    rw [List.cons_append, ← List.nil_append (c :: (blank ++ cs)), words_append_white h.1, ih h.2]
    rfl

/-- What is cut off the ends of a text is blank. -/
theorem exists_eq_append_trim (cs : List Char) :
    ∃ front back, isBlank front = true ∧ isBlank back = true ∧ cs = front ++ (trim cs ++ back) := by
  have hblank (ds : List Char) : isBlank (ds.takeWhile isWhite) = true :=
    List.all_eq_true.mpr fun _ hc => List.mem_takeWhile_imp hc
  refine ⟨cs.takeWhile isWhite, ((trimStart cs).reverse.takeWhile isWhite).reverse, hblank cs, ?_,
    ?_⟩
  · rw [isBlank, List.all_reverse]
    exact hblank _
  · have hback : trim cs ++ ((trimStart cs).reverse.takeWhile isWhite).reverse = trimStart cs := by
      rw [trim, ← List.reverse_append, trimStart, trimStart, List.takeWhile_append_dropWhile,
        List.reverse_reverse]
    rw [hback, trimStart, List.takeWhile_append_dropWhile]

/-- **White space at the ends of a text makes no difference to its words.** -/
theorem words_trim (cs : List Char) : words (trim cs) = words cs := by
  obtain ⟨front, back, hfront, hback, hcs⟩ := exists_eq_append_trim cs
  have hwords : words (front ++ (trim cs ++ back)) = words (trim cs) := by
    rw [words_blank_append hfront, words_append_blank hback]
  rw [← hcs] at hwords
  exact hwords.symm

/-! ## Texts that are not blank -/

/-- A text with a character that is not white is not blank. -/
theorem isBlank_eq_false_of_mem {cs : List Char} {c : Char} (hc : c ∈ cs) (h : isWhite c = false) :
    isBlank cs = false := by
  rw [isBlank, List.all_eq_false]
  exact ⟨c, hc, by simp [h]⟩

/-- What is left of a text without its leading white space is not blank. -/
theorem isBlank_trimStart {cs : List Char} (h : trimStart cs ≠ []) :
    isBlank (trimStart cs) = false := by
  induction cs with
  | nil => exact absurd rfl h
  | cons c cs ih =>
    rw [trimStart_cons] at h ⊢
    by_cases hc : isWhite c
    · rw [if_pos hc] at h ⊢
      exact ih h
    · rw [if_neg hc]
      exact isBlank_eq_false_of_mem List.mem_cons_self (by simpa using hc)

/-- What is left of a text without the white space at its ends is not blank. -/
theorem isBlank_trim {cs : List Char} (h : trim cs ≠ []) : isBlank (trim cs) = false := by
  have hne : trimStart (trimStart cs).reverse ≠ [] := fun he => h (by rw [trim, he]; rfl)
  have hblank := isBlank_trimStart hne
  rw [isBlank, ← List.all_reverse] at hblank
  exact hblank

/-- Nothing is left of a blank text, and something of any other. -/
theorem trim_eq_nil_iff {cs : List Char} : trim cs = [] ↔ isBlank cs = true := by
  have hstart {ds : List Char} : trimStart ds = [] ↔ isBlank ds = true := by
    rw [trimStart, List.dropWhile_eq_nil_iff, isBlank, List.all_eq_true]
  constructor
  · intro h
    rw [trim, List.reverse_eq_nil_iff, hstart, isBlank, List.all_reverse] at h
    by_contra hblank
    rw [← hstart] at hblank
    exact ne_true_of_eq_false (isBlank_trimStart hblank) h
  · intro h
    rw [trim, hstart.mpr h]
    rfl

/-- A `String` is trimmed to nothing if it is blank. -/
theorem trimmed_eq_empty_iff {s : String} : trimmed s = "" ↔ blank s = true := by
  rw [trimmed, String.ofList_eq_empty_iff, trim_eq_nil_iff, blank]

/-- A word is not blank. -/
theorem isBlank_of_mem_words {w cs : List Char} (h : w ∈ words cs) : isBlank w = false := by
  obtain ⟨c, hc⟩ := List.exists_mem_of_ne_nil w (ne_nil_of_mem_words h)
  rw [words, List.mem_filter] at h
  exact isBlank_eq_false_of_mem hc (eq_false_of_mem_splitOn h.1 c hc)

end CatalogSearch.Text
