import CatalogSearch.Proofs.Filter.RoundTrip

/-! # Clauses of one key

The clauses of a request have different keys, those of their fields. So what a filter states for a
key is found by a search for the key.

* **`Clause.value?`**: the value that a filter states for a key;
* **`SearchRequest.clauses_eq_flatMap`**: the clauses of a request, field by field;
* **`SearchRequest.filter_key_clauses`**: the clauses of the key of a field are that of the field;
* **`SearchRequest.parse_filter_value?`**: what a filter states for a field, read back. -/

namespace CatalogSearch

/-- **The value that a filter states for a key**, if it has a clause of it. -/
def Clause.value? (key : String) (clauses : List Clause) : Option String :=
  (clauses.find? (·.key = key.toList)).bind fun c => c.values.head?.map String.ofList

/-! ## The clause of one field -/

namespace FilterField

variable {f : FilterField} {d : Dialect} {r : SearchRequest}

/-- The clause of a field has its key. -/
theorem key_of_mem_plainClause {values : List String} {c : Clause} (h : c ∈ f.plainClause values) :
    c.key = f.key.toList := by
  rw [plainClause, clause.plain] at h
  split at h
  · cases h
  · cases h
    rfl

/-- The clause of a field states the first of its values. -/
theorem value_plainClause (f : FilterField) (values : List String) :
    (f.plainClause values).toList.head?.bind (fun c => c.values.head?.map String.ofList) =
      values.head? := by
  cases values with
  | nil => rfl
  | cons v values => exact congrArg some String.ofList_toList

/-- No two fields have the same key. -/
theorem nodup_keys : (all.map (·.key)).Nodup := by
  decide +kernel

end FilterField

namespace SearchRequest

variable {f : FilterField} {d : Dialect} {r : SearchRequest} {clauses : List Clause}

/-- **The clauses of a request are those of its fields**, in order. -/
theorem clauses_eq_flatMap (h : r.clauses d = .ok clauses) :
    clauses = FilterField.all.flatMap fun f => (f.plainClause (f.values d r)).toList := by
  obtain ⟨rfl, -⟩ := clausesOf_eq_ok h
  rw [List.reduceOption, List.filterMap_map, List.filterMap_eq_flatMap_toList]
  rfl

/-- **The clauses of one key** are those of its field. -/
theorem filter_key_clauses (hf : f ∈ FilterField.all) (h : r.clauses d = .ok clauses) :
    clauses.filter (·.key = f.key.toList) = (f.plainClause (f.values d r)).toList := by
  obtain ⟨before, after, hall⟩ := List.append_of_mem hf
  have hkeys := FilterField.nodup_keys
  rw [hall, List.map_append, List.map_cons, List.nodup_middle, List.nodup_cons,
    ← List.map_append] at hkeys
  -- The clauses of the other fields have other keys.
  have hothers : ∀ fields, fields ⊆ before ++ after →
      (fields.flatMap fun g => (g.plainClause (g.values d r)).toList).filter
        (·.key = f.key.toList) = [] := by
    intro fields hfields
    refine List.filter_eq_nil_iff.mpr fun c hc => ?_
    obtain ⟨g, hg, hc⟩ := List.mem_flatMap.mp hc
    rw [FilterField.key_of_mem_plainClause (Option.mem_toList.mp hc), decide_eq_true_eq,
      String.toList_inj]
    exact fun hkey => hkeys.1 (hkey ▸ List.mem_map_of_mem (hfields hg))
  have hown : (f.plainClause (f.values d r)).toList.filter (·.key = f.key.toList) =
      (f.plainClause (f.values d r)).toList :=
    List.filter_eq_self.mpr fun c hc =>
      decide_eq_true (FilterField.key_of_mem_plainClause (Option.mem_toList.mp hc))
  rw [clauses_eq_flatMap h, hall, List.flatMap_append, List.flatMap_cons, List.filter_append,
    List.filter_append, hothers before (List.subset_append_left _ _),
    hothers after (List.subset_append_right _ _), hown, List.append_nil, List.nil_append]

/-- **What a filter states for a field** is the first of its values. -/
theorem parse_filter_value? {text : List Char} (hf : f ∈ FilterField.all)
    (h : r.filter d = .ok text) :
    ∃ clauses, Clause.parse text = .ok clauses ∧
      Clause.value? f.key clauses = (f.values d r).head? := by
  obtain ⟨clauses, hclauses, rfl⟩ := map_eq_ok_iff.mp h
  refine ⟨clauses, Clause.parse_render (clauses_eq_statedClauses hclauses).2, ?_⟩
  rw [Clause.value?, ← List.head?_filter, filter_key_clauses hf hclauses]
  exact FilterField.value_plainClause f (f.values d r)

end SearchRequest

end CatalogSearch
