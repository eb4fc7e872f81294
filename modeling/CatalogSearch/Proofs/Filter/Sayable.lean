import CatalogSearch.Filter.Clause
import CatalogSearch.Proofs.Text.Pieces
import Mathlib.Data.List.Basic

/-! # Clauses that can be said

A clause can be said in a filter when nothing in it could be taken for a mark: no operator in its
key, no quote in its values, no comma inside a choice. Such clauses are read back as they were
written, whatever else stands in them.

* **`Clause.Sayable`**: the condition;
* **`Clause.scan_text_append`**: the first clause of a text is read back;
* **`Clause.parse_render`**: a whole filter is read back. -/

namespace CatalogSearch.Clause

/-- **A clause that can be said in a filter.** -/
structure Sayable (c : Clause) : Prop where
  key_plain : ∀ ch ∈ c.key, isOperator ch = false
  values_plain : ∀ v ∈ c.values, quote ∉ v
  /-- A choice has values, and no comma parts one of them. -/
  of_choice : c.orGroup = true → c.values ≠ [] ∧ ∀ v ∈ c.values, comma ∉ v
  /-- Any other clause has one value. -/
  of_single : c.orGroup = false → ∃ v, c.values = [v]

/-! ## One clause -/

/-- The operators are operators. -/
theorem isOperator_operator (orGroup : Bool) : isOperator (operator orGroup) = true := by
  cases orGroup <;> rfl

/-- Joined values have no quote if none of them has one. -/
theorem quote_not_mem_joinWith {values : List (List Char)} (h : ∀ v ∈ values, quote ∉ v) :
    quote ∉ Text.joinWith [comma] values := by
  induction values with
  | nil => exact List.not_mem_nil
  | cons v values ih =>
    have hv := h v List.mem_cons_self
    have hvalues := ih fun w hw => h w (List.mem_cons_of_mem v hw)
    cases values with
    | nil => exact hv
    | cons w values =>
      rw [Text.joinWith_cons_cons, List.mem_append, List.mem_append]
      rintro ((hq | hq) | hq)
      · exact hv hq
      · exact absurd (List.mem_singleton.mp hq) (by decide)
      · exact hvalues hq

/-- The value of a sayable clause is taken apart as it was put together. -/
theorem Sayable.splitOn_joinWith {c : Clause} (h : c.Sayable) :
    (if c.orGroup then Text.splitOn (· == comma) (Text.joinWith [comma] c.values)
      else [Text.joinWith [comma] c.values]) = c.values := by
  cases horGroup : c.orGroup with
  | true =>
    obtain ⟨hne, hcomma⟩ := h.of_choice horGroup
    rw [if_pos rfl]
    refine Text.splitOn_joinWith (by simp) hne ?_
    intro v hv ch hch
    have hne : ch ≠ comma := fun heq => hcomma v hv (heq ▸ hch)
    simpa using hne
  | false =>
    obtain ⟨v, hv⟩ := h.of_single horGroup
    rw [hv]
    rfl

/-- **The clause of a key, an operator and a quoted value**, and what follows it. -/
theorem scan_append {key value : List Char} {op : Char} (hkey : ∀ ch ∈ key, isOperator ch = false)
    (hop : isOperator op = true) (hvalue : quote ∉ value) (rest : List Char) :
    scan (key ++ op :: quote :: (value ++ quote :: rest)) =
      .ok (⟨key, op == operator true,
        if op == operator true then Text.splitOn (· == comma) value else [value]⟩, rest) := by
  have hkey' : ∀ ch ∈ key, (!isOperator ch) = true := fun ch hch => by rw [hkey ch hch]; rfl
  have hvalue' : ∀ ch ∈ value, (ch != quote) = true := fun ch hch => by
    have hne : ch ≠ quote := fun heq => hvalue (heq ▸ hch)
    simpa using hne
  obtain ⟨htakeKey, hdropKey⟩ := Text.takeWhile_dropWhile_append_cons hkey' (by rw [hop]; rfl)
    (quote :: (value ++ quote :: rest))
  obtain ⟨htakeValue, hdropValue⟩ :=
    Text.takeWhile_dropWhile_append_cons hvalue' (bne_self_eq_false quote) rest
  unfold scan
  rw [hdropKey, htakeKey]
  -- The quote after the operator opens the value.
  simp only [quote] at hdropValue htakeValue ⊢
  rw [hdropValue, htakeValue]

/-- **The first clause of a text is read back**, and what follows it is left. -/
theorem scan_text_append {c : Clause} (h : c.Sayable) (rest : List Char) :
    scan (c.text ++ rest) = .ok (c, rest) := by
  have htext : c.text ++ rest = c.key ++ operator c.orGroup :: quote ::
      (Text.joinWith [comma] c.values ++ quote :: rest) := by
    simp [text]
  have hoperator : (operator c.orGroup == operator true) = c.orGroup := by
    cases c.orGroup <;> rfl
  rw [htext, scan_append h.key_plain (isOperator_operator c.orGroup)
    (quote_not_mem_joinWith h.values_plain), hoperator, h.splitOn_joinWith]

/-! ## Whole filters -/

/-- A text with a clause at its start is not empty. -/
theorem isEmpty_eq_false_of_scan {cs rest : List Char} {c : Clause} (h : scan cs = .ok (c, rest)) :
    cs.isEmpty = false := by
  cases cs with
  | nil => cases h
  | cons => rfl

/-- A filter of one clause. -/
theorem parse_of_scan_nil {cs : List Char} {c : Clause} (h : scan cs = .ok (c, [])) :
    parse cs = .ok [c] := by
  rw [parse, isEmpty_eq_false_of_scan h, if_neg Bool.false_ne_true]
  split
  · next fault hscan =>
    rw [h] at hscan
    cases hscan
  · next c' hscan =>
    rw [h] at hscan
    cases hscan
    rfl
  · next c' rest hne hscan =>
    rw [h] at hscan
    cases hscan
    exact absurd rfl hne

/-- A filter of a clause and more clauses. -/
theorem parse_of_scan_separator {cs next : List Char} {c : Clause}
    (h : scan cs = .ok (c, separator ++ next)) : parse cs = (parse next).map (c :: ·) := by
  rw [parse, isEmpty_eq_false_of_scan h, if_neg Bool.false_ne_true]
  split
  · next fault hscan =>
    rw [h] at hscan
    cases hscan
  · next c' hscan =>
    rw [h] at hscan
    cases hscan
  · next c' rest hne hscan =>
    rw [h] at hscan
    cases hscan
    have hstrip : Text.stripPrefix? separator (separator ++ next) = some next :=
      Text.stripPrefix?_eq_some_iff.mpr rfl
    split
    · next hnone =>
      rw [hstrip] at hnone
      cases hnone
    · next next' hsome =>
      rw [hstrip] at hsome
      cases hsome
      rfl

/-- **A filter is read back** when all its clauses can be said. -/
theorem parse_render {clauses : List Clause} (h : ∀ c ∈ clauses, c.Sayable) :
    parse (render clauses) = .ok clauses := by
  induction clauses with
  | nil => rw [render_nil, parse]; rfl
  | cons c clauses ih =>
    have hc := h c List.mem_cons_self
    cases clauses with
    | nil =>
      have hscan := scan_text_append hc []
      rw [List.append_nil] at hscan
      rw [render_singleton, parse_of_scan_nil hscan]
    | cons d clauses =>
      have hscan := scan_text_append hc (separator ++ render (d :: clauses))
      rw [render_cons_cons, List.append_assoc, parse_of_scan_separator hscan,
        ih fun e he => h e (List.mem_cons_of_mem c he)]
      rfl

end CatalogSearch.Clause
