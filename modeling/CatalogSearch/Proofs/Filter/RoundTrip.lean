import CatalogSearch.Proofs.Filter.Refused
import CatalogSearch.Proofs.Filter.Sayable

/-! # Filters are read back as they were meant

A request that has a filter states one clause for each field that it gives a value to. Its filter,
plain or percent-encoded, is read as exactly these clauses, whatever characters the values have.

* **`SearchRequest.statedClauses`**: the clauses that a request states;
* **`clauses_eq_statedClauses`**: they are the clauses of its filter, and can all be said;
* **`parse_filter_eq_statedClauses`**: they are read back. -/

namespace CatalogSearch

/-- The clause that states the given values of a field, if they state any. -/
def FilterField.statedClause (f : FilterField) (given : List String) : Option Clause :=
  if stated given = [] then none
  else
    some
      { key := f.key.toList
        orGroup := f.isChoice && 1 < (stated given).length
        values := (stated given).map (·.toList) }

/-- **The clauses that a request states**: one for each field that it gives a value to, in the
order of the fields. -/
def SearchRequest.statedClauses (d : Dialect) (r : SearchRequest) : List Clause :=
  (List.zipWith FilterField.statedClause FilterField.all (r.given d)).reduceOption

/-! ## One field -/

namespace FilterField

/-- The clause of a field, when a filter can say its values. -/
def plainClause (f : FilterField) (values : List String) : Option Clause :=
  clause.plain f values (f.isChoice && 1 < values.length)

/-- A field that has a clause or none has the plain one. No value has a quote then, and no value of
a choice a comma. -/
theorem clause_ok {f : FilterField} {values : List String} {c : Option Clause}
    (h : f.clause values = .ok c) :
    c = f.plainClause values ∧
      (∀ v ∈ values, Clause.quote ∉ v.toList) ∧
      ((f.isChoice && 1 < values.length) = true → ∀ v ∈ values, Clause.comma ∉ v.toList) := by
  simp only [clause] at h
  split at h
  · cases h
  · next bad hquote hcomma =>
    split at h
    · cases h
    · next hgroup =>
      cases h
      exact ⟨rfl, firstWith?_eq_none_iff.mp hquote, fun hgroup' => absurd hgroup' hgroup⟩
  · next hquote hcomma =>
    cases h
    exact ⟨rfl, firstWith?_eq_none_iff.mp hquote, fun _ => firstWith?_eq_none_iff.mp hcomma⟩

/-- Keys of fields have no operator. -/
theorem key_plain {f : FilterField} (hf : f ∈ all) :
    ∀ ch ∈ f.key.toList, Clause.isOperator ch = false := by
  have hkeys : (all.all fun f => f.key.toList.all fun ch => !Clause.isOperator ch) = true := by
    decide +kernel
  intro ch hch
  have hkey := List.all_eq_true.mp (List.all_eq_true.mp hkeys f hf) ch hch
  rwa [Bool.not_eq_true'] at hkey

/-- **The clause of a field can be said.** -/
theorem sayable_of_clause {f : FilterField} {d : Dialect} {r : SearchRequest} {c : Clause}
    (hf : f ∈ all) (h : f.clause (f.values d r) = .ok (some c)) : c.Sayable := by
  obtain ⟨hc, hquote, hcomma⟩ := clause_ok h
  simp only [plainClause, clause.plain] at hc
  by_cases hvalues : (f.values d r).isEmpty
  · rw [if_pos hvalues] at hc
    cases hc
  · rw [if_neg hvalues] at hc
    obtain rfl := Option.some.inj hc
    have hne : f.values d r ≠ [] := fun he => hvalues (by rw [he]; rfl)
    refine
      { key_plain := key_plain hf
        values_plain := ?_
        of_choice := ?_
        of_single := ?_ }
    · intro v hv
      obtain ⟨s, hs, rfl⟩ := List.mem_map.mp hv
      exact hquote s hs
    · intro hgroup
      refine ⟨fun he => hne (List.map_eq_nil_iff.mp he), fun v hv => ?_⟩
      obtain ⟨s, hs, rfl⟩ := List.mem_map.mp hv
      exact hcomma hgroup s hs
    · intro hgroup
      -- Without a choice there is at most one value, and there is one.
      have hle : (f.values d r).length ≤ 1 := by
        cases hchoice : f.isChoice with
        | false => exact length_values_le_one hchoice d r
        | true => simpa [hchoice] using hgroup
      have hlength : (f.values d r).length = 1 :=
        Nat.le_antisymm hle (List.length_pos_iff.mpr hne)
      obtain ⟨s, hs⟩ := List.length_eq_one_iff.mp hlength
      exact ⟨s.toList, by rw [hs]; rfl⟩

/-- The plain clause of what is stated is the stated clause. -/
theorem plainClause_stated (f : FilterField) (given : List String) :
    f.plainClause (stated given) = f.statedClause given := by
  rw [plainClause, clause.plain, statedClause]
  by_cases h : stated given = []
  · rw [if_pos h, h]
    rfl
  · rw [if_neg h, if_neg (by simpa using h)]

end FilterField

/-! ## All fields -/

/-- **Fields that have clauses have the plain ones**, each of which can be made. -/
theorem SearchRequest.clausesOf_eq_ok {d : Dialect} {r : SearchRequest} {fields : List FilterField}
    {clauses : List Clause} (h : r.clausesOf d fields = .ok clauses) :
    clauses = (fields.map fun f => f.plainClause (f.values d r)).reduceOption ∧
      ∀ f ∈ fields, f.clause (f.values d r) = .ok (f.plainClause (f.values d r)) := by
  rw [clausesOf_eq_mapM] at h
  obtain ⟨all, hall, rfl⟩ := map_eq_ok_iff.mp h
  have hfields := mapM_eq_ok_iff.mp hall
  obtain rfl : fields.map (fun f => f.plainClause (f.values d r)) = all := by
    rw [← List.forall₂_eq_eq_eq, List.forall₂_map_left_iff]
    exact hfields.imp fun f c hc => (FilterField.clause_ok hc).1.symm
  rw [List.forall₂_map_right_iff, List.forall₂_same] at hfields
  exact ⟨rfl, hfields⟩

/-- **The clauses of a request are those that it states**, and can all be said. -/
theorem clauses_eq_statedClauses {d : Dialect} {r : SearchRequest} {clauses : List Clause}
    (h : r.clauses d = .ok clauses) : clauses = r.statedClauses d ∧ ∀ c ∈ clauses, c.Sayable := by
  obtain ⟨rfl, hfields⟩ := SearchRequest.clausesOf_eq_ok h
  constructor
  · have hpairs := congrArg (List.map fun p => p.1.plainClause p.2)
      (SearchRequest.map_values_eq_map_stated d r)
    simp only [List.map_map, Function.comp_def, FilterField.plainClause_stated] at hpairs
    rw [hpairs, SearchRequest.statedClauses, ← List.map_uncurry_zip_eq_zipWith]
    rfl
  · intro c hc
    obtain ⟨f, hf, hclause⟩ := List.mem_map.mp (List.reduceOption_mem_iff.mp hc)
    exact FilterField.sayable_of_clause hf ((hfields f hf).trans (congrArg _ hclause))

/-- **A filter is read back as its request meant it**, plain and percent-encoded: as one clause for
each field that the request gives a value to. -/
theorem parse_filter_eq_statedClauses {d : Dialect} {r : SearchRequest} {encoded : List Char}
    (h : r.encodedFilter d = .ok encoded) :
    (∃ text, r.filter d = .ok text ∧ Clause.parse text = .ok (r.statedClauses d)) ∧
      Clause.parseEncoded encoded = .ok (r.statedClauses d) := by
  obtain ⟨text, hfilter, rfl⟩ := map_eq_ok_iff.mp h
  obtain ⟨clauses, hclauses, rfl⟩ := map_eq_ok_iff.mp hfilter
  obtain ⟨hstated, hsayable⟩ := clauses_eq_statedClauses hclauses
  have hparse : Clause.parse (Clause.render clauses) = .ok (r.statedClauses d) := by
    rw [Clause.parse_render hsayable, hstated]
  refine ⟨⟨Clause.render clauses, hfilter, hparse⟩, ?_⟩
  rw [Clause.parseEncoded_percentEncode, hparse]
  rfl

/-- A request with marks of filters, a line break and letters with diacritics in its values. -/
def markedRequest : SearchRequest where
  search := some "\"a AND b=\" \" ~%\""
  subject := [.mathematik, .physik, .mathematik]
  id := ["a=1", " ", "ü\n~", "a=1"]
  author := some "x AND name=~%41"
  publisher := some " "

/-- Its filter, percent-encoded. -/
def markedFilter : List Char :=
  ("search%3D%27a%20AND%20b%3D%2C~%25%27%20AND%20subject~%27Mathematik%2CPhysik%27%20AND%20" ++
    "id~%27a%3D1%2C%C3%BC%0A~%27%20AND%20author%3D%27x%20AND%20name%3D~%2541%27").toList

/-- Values with marks in them are read back. -/
theorem parse_filter_markedRequest :
    markedRequest.encodedFilter .common = .ok markedFilter ∧
      Clause.parseEncoded markedFilter =
        .ok
          [ ⟨"search".toList, false, ["a AND b=,~%".toList]⟩,
            ⟨"subject".toList, true, ["Mathematik".toList, "Physik".toList]⟩,
            ⟨"id".toList, true, ["a=1".toList, "ü\n~".toList]⟩,
            ⟨"author".toList, false, ["x AND name=~%41".toList]⟩ ] := by
  have hfilter : markedRequest.encodedFilter .common = .ok markedFilter := by decide +kernel
  refine ⟨hfilter, ?_⟩
  rw [(parse_filter_eq_statedClauses hfilter).2]
  decide +kernel

end CatalogSearch
