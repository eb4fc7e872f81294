import CatalogSearch.Proofs.Filter.Keyed

/-! # Filters of the two dialects

A request has the same filter in both dialects, but for two things. Where the common dialect
searches for free text, the DUF searches names for it as well; and it has labels of its own for
types of school and of learning resource. So the clauses in the dialect of the DUF can be told from
the common ones, without a look at the request.

* **`Clause.inDuf`**: what a clause becomes in the dialect of the DUF;
* **`FilterField.inDuf_clauses`**, **`FilterField.inDuf_clauses_all`**: the fields in both dialects;
* **`clauses_duf_eq_map_inDuf`**: a request in both dialects, and as it is read back. -/

namespace CatalogSearch

/-! ## The dialect of the DUF, clause by clause -/

namespace Clause

/-- **A value as the label that its term has in the DUF.** What is the label of no term stays. -/
def relabelled {α : Type} [Vocabulary α] (labelIn : Dialect → α → String) (value : List Char) :
    List Char :=
  match Vocabulary.ofLabel? (String.ofList value) with
  | some t => (labelIn .duf t).toList
  | none => value

/-- The label of a term becomes its label in the DUF. -/
theorem relabelled_label {α : Type} [Vocabulary α] [Vocabulary.Lawful α]
    (labelIn : Dialect → α → String) (t : α) :
    relabelled labelIn (Vocabulary.label t).toList = (labelIn .duf t).toList := by
  rw [relabelled, String.ofList_toList, Vocabulary.Lawful.ofLabel?_label]

/-- **What a clause becomes in the dialect of the DUF.** After the clause for free text there is one
for names, with the same values. The values of the two vocabularies with labels of their own are
those labels. Every other clause stays as it is. -/
def inDuf (c : Clause) : List Clause :=
  if c.key = "search".toList then [c, { c with key := "name".toList }]
  else if c.key = "schoolType".toList then
    [{ c with values := c.values.map (relabelled SchoolType.labelIn) }]
  else if c.key = "learningResourceType".toList then
    [{ c with values := c.values.map (relabelled LearningResourceType.labelIn) }]
  else [c]

end Clause

/-! ## One field -/

namespace FilterField

/-- The clauses of a field in a request: one or none. -/
def clauses (f : FilterField) (d : Dialect) (r : SearchRequest) : List Clause :=
  (f.plainClause (f.values d r)).toList

variable (r : SearchRequest)

/-- A field that is neither free text nor one of the two vocabularies is the same in both dialects,
if its values are. -/
theorem inDuf_clauses_of_values {f : FilterField}
    (hkey : f.key ∉ ["search", "schoolType", "learningResourceType"])
    (hvalues : f.values .common r = f.values .duf r) :
    (f.clauses .common r).flatMap Clause.inDuf = f.clauses .duf r := by
  simp only [List.mem_cons, List.not_mem_nil, or_false, not_or, ← String.toList_inj] at hkey
  rw [clauses, clauses, ← hvalues]
  cases hc : f.plainClause (f.values .common r) with
  | none => rfl
  | some c =>
    rw [Option.toList_some, List.flatMap_singleton, Clause.inDuf, key_of_mem_plainClause hc,
      if_neg hkey.1, if_neg hkey.2.1, if_neg hkey.2.2]

/-- A field for a vocabulary with labels of the DUF has these labels in its clause. -/
theorem inDuf_clauses_of_labels {α : Type} [Vocabulary α] [Vocabulary.Lawful α]
    {labelIn : Dialect → α → String} (hcommon : ∀ t, labelIn .common t = Vocabulary.label t)
    {key : String} (get : SearchRequest → Option α)
    (hkey : ∀ v, Clause.inDuf ⟨key.toList, false, [v]⟩ =
      [⟨key.toList, false, [Clause.relabelled labelIn v]⟩]) :
    let f : FilterField := ⟨key, .one fun d r => (get r).map (labelIn d)⟩
    (f.clauses .common r).flatMap Clause.inDuf = f.clauses .duf r := by
  intro f
  simp only [clauses, f, values_one]
  cases get r with
  | none => rfl
  | some t =>
    rw [Option.map_some, Option.map_some, hcommon]
    exact (List.flatMap_singleton _ _).trans
      ((hkey _).trans (by rw [Clause.relabelled_label]; rfl))

/-- **A field after free text and names has the clause of the DUF in its place.** -/
theorem inDuf_clauses {f : FilterField} (hf : f ∈ all.drop 2) :
    (f.clauses .common r).flatMap Clause.inDuf = f.clauses .duf r := by
  have hall : ∀ f ∈ all.drop 2, (f.clauses .common r).flatMap Clause.inDuf = f.clauses .duf r := by
    simp only [all, List.drop_succ_cons, List.drop_zero, List.forall_mem_cons]
    and_intros
    -- All but two fields have no regard to the dialect.
    any_goals exact inDuf_clauses_of_values r (by decide) rfl
    · exact inDuf_clauses_of_labels r LearningResourceType.labelIn_common _ fun v => rfl
    · exact inDuf_clauses_of_labels r SchoolType.labelIn_common _ fun v => rfl
    · exact fun f hf => absurd hf List.not_mem_nil
  exact hall f hf

/-- **Free text and names together**: where there is free text, the DUF has it twice. -/
theorem inDuf_clauses_search :
    (search.clauses .common r ++ name.clauses .common r).flatMap Clause.inDuf =
      search.clauses .duf r ++ name.clauses .duf r := by
  simp only [clauses, search, name, values_one]
  cases r.search.bind searchValue? with
  | none => rfl
  | some v => rfl

/-- **All fields together.** -/
theorem inDuf_clauses_all :
    (all.flatMap (·.clauses .common r)).flatMap Clause.inDuf = all.flatMap (·.clauses .duf r) := by
  have hsplit (d : Dialect) : all.flatMap (·.clauses d r) =
      search.clauses d r ++ name.clauses d r ++ (all.drop 2).flatMap (·.clauses d r) := by
    rw [all_eq, List.flatMap_cons, List.flatMap_cons, List.append_assoc]
    rfl
  rw [hsplit, hsplit, List.flatMap_append, inDuf_clauses_search, List.flatMap_assoc]
  exact congrArg _ (List.flatMap_congr fun f hf => inDuf_clauses r hf)

end FilterField

/-! ## Requests -/

/-- A request is refused for the same field and value in every dialect. -/
theorem SearchRequest.clauses_eq_error_iff_of_dialects (d d' : Dialect) (r : SearchRequest)
    (e : EncodingFault) : r.clauses d = .error e ↔ r.clauses d' = .error e :=
  clausesOf_eq_error_iff.trans
    ((FilterField.firstFault_iff_of_dialects d d' r).trans clausesOf_eq_error_iff.symm)

/-- **Both dialects carry the same restriction.** A request has a filter in the dialect of the DUF
if it has a common one, and is refused alike if not. The clauses of the former are those of the
latter, in their places, with two differences: right after the clause for free text, if there is
one, stands one for names with the same value, and types of school and of learning resource have the
label of the same term in the DUF. In both dialects these clauses are what the filter is read back
as. -/
theorem clauses_duf_eq_map_inDuf (r : SearchRequest) :
    r.clauses .duf = (r.clauses .common).map (List.flatMap Clause.inDuf) ∧
      ∀ d, (r.filter d).map Clause.parse = (r.clauses d).map Except.ok := by
  constructor
  · -- Refusals have no regard to the dialect, so there are clauses in both of them or in none.
    cases hcommon : r.clauses .common with
    | error e => exact (r.clauses_eq_error_iff_of_dialects .duf .common e).mpr hcommon
    | ok common =>
      cases hduf : r.clauses .duf with
      | error e =>
        have hrefused := (r.clauses_eq_error_iff_of_dialects .duf .common e).mp hduf
        cases hcommon.symm.trans hrefused
      | ok duf =>
        have hclauses := FilterField.inDuf_clauses_all r
        simp only [FilterField.clauses, ← SearchRequest.clauses_eq_flatMap hcommon,
          ← SearchRequest.clauses_eq_flatMap hduf] at hclauses
        exact congrArg Except.ok hclauses.symm
  · intro d
    rw [SearchRequest.filter, map_map]
    cases hclauses : r.clauses d with
    | error e => rfl
    | ok clauses =>
      exact congrArg Except.ok (Clause.parse_render (clauses_eq_statedClauses hclauses).2)

/-- A type of school by its label in the DUF, names after free text, all else as it is. -/
example :
    ({ search := some "a b", schoolType := some .integrierteGesamtschule, author := some "c" } :
        SearchRequest).filter .duf =
      .ok "search='a,b' AND name='a,b' AND schoolType='Gymnasium' AND author='c'".toList := by
  decide +kernel

end CatalogSearch
