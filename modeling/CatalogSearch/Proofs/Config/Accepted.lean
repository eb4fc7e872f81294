import CatalogSearch.Config.Layers

/-! # Configurations that are accepted

A configuration is accepted if its sources can be told apart and can be asked, and if they have time
for an answer.

* **`SourceConfig.Complete`**: a source that says where it is asked;
* **`Config.sourceFault?_eq_none_iff`**: sources with which nothing is wrong;
* **`Config.validate_eq_ok_iff`**: configurations that are accepted. -/

namespace CatalogSearch

/-- **A source that says where it is asked**: no URL that it gives is blank. -/
structure SourceConfig.Complete (s : SourceConfig) : Prop where
  searchUrl : ¬ Text.blank s.searchUrl = true
  detailsUrl : ¬ s.detailsUrl.any Text.blank = true

namespace Config

/-- **Nothing is wrong with sources** if they say where they are asked, have different ids, and none
of an earlier source. -/
theorem sourceFault?_eq_none_iff {seen : List String} {ss : List SourceConfig} :
    sourceFault? seen ss = none ↔
      (ss.map (·.id)).Nodup ∧ (∀ s ∈ ss, s.id ∉ seen) ∧ ∀ s ∈ ss, s.Complete := by
  induction ss generalizing seen with
  | nil => simp [sourceFault?]
  | cons s ss ih =>
    rw [sourceFault?]
    by_cases hid : s.id ∈ seen
    · rw [if_pos hid]
      constructor
      · rintro ⟨⟩
      · rintro ⟨-, hseen, -⟩
        exact absurd hid (hseen s List.mem_cons_self)
    · rw [if_neg hid]
      by_cases hsearch : Text.blank s.searchUrl = true
      · rw [if_pos hsearch]
        constructor
        · rintro ⟨⟩
        · rintro ⟨-, -, hcomplete⟩
          exact absurd hsearch (hcomplete s List.mem_cons_self).searchUrl
      · rw [if_neg hsearch]
        by_cases hdetails : s.detailsUrl.any Text.blank = true
        · rw [if_pos hdetails]
          constructor
          · rintro ⟨⟩
          · rintro ⟨-, -, hcomplete⟩
            exact absurd hdetails (hcomplete s List.mem_cons_self).detailsUrl
        · -- The id of the first source is taken for all others.
          rw [if_neg hdetails, ih]
          have hfirst : s.Complete := ⟨hsearch, hdetails⟩
          rw [List.map_cons, List.nodup_cons, List.forall_mem_cons, List.forall_mem_cons]
          simp only [List.mem_map, List.mem_cons, not_or, not_exists, not_and]
          constructor
          · rintro ⟨hnodup, hseen, hcomplete⟩
            exact ⟨⟨fun t ht => (hseen t ht).1, hnodup⟩, ⟨hid, fun t ht => (hseen t ht).2⟩, hfirst,
              hcomplete⟩
          · rintro ⟨⟨hnew, hnodup⟩, ⟨-, hseen⟩, -, hcomplete⟩
            exact ⟨hnodup, fun t ht => ⟨hnew t ht, hseen t ht⟩, hcomplete⟩

/-- **A configuration is accepted** if its sources have time for an answer, have different ids, and
say where they are asked. -/
theorem validate_eq_ok_iff {c : Config} :
    c.validate = .ok () ↔
      c.requestTimeoutSecs ≠ 0 ∧ (c.sources.map (·.id)).Nodup ∧ ∀ s ∈ c.sources, s.Complete := by
  have hfault : c.validate = .ok () ↔ c.fault? = none := by
    rw [validate]
    cases c.fault? with
    | none => simp
    | some fault => simp
  rw [hfault, fault?]
  by_cases htimeout : c.requestTimeoutSecs = 0
  · simp [htimeout]
  · rw [if_neg htimeout, sourceFault?_eq_none_iff]
    simp [htimeout]

end Config

end CatalogSearch
