import CatalogSearch.Proofs.Federation.Outcome
import CatalogSearch.Proofs.Filter.Keyed

/-! # The publisher of a request

The publisher that a request names counts twice: it selects the sources that are searched, and it is
a clause of the filter that they get. The filter states it as it was given, while sources are
selected without the white space around it. Both mean the same sources unless this white space makes
a difference between their ids.

* **`Federation.named`**: the sources that a filter names;
* **`Federation.selected_eq_named_iff`**: when these are the sources that are searched. -/

namespace CatalogSearch

/-! ## Sources -/

/-- The active sources with an id. -/
def Registry.activeWith (r : Registry) (id : String) : List Source := r.active.filter (·.id = id)

namespace Federation

variable {f : Federation} {d : Dialect} {r : SearchRequest}

/-- **The sources that a filter names**: the active ones with the id that it states for the
publisher, or all active ones if it states none. -/
def named (f : Federation) (clauses : List Clause) : List Source :=
  (Clause.value? "publisher" clauses).elim f.registry.active f.registry.activeWith

/-- A request is for the sources that its publisher names without the white space around it. -/
theorem selected_eq_elim (f : Federation) (r : SearchRequest) :
    f.selected r = ((FilterField.filled r.publisher).map Text.trimmed).elim f.registry.active
      f.registry.activeWith := by
  unfold selected
  cases r.publisher with
  | none => rfl
  | some id =>
    rw [FilterField.filled, Option.filter_some, Option.map_some]
    dsimp only
    by_cases hblank : Text.blank id = true
    · rw [if_pos (Text.trimmed_eq_empty_iff.mpr hblank), hblank]
      rfl
    · rw [if_neg (Text.trimmed_eq_empty_iff.not.mpr hblank), eq_false_of_ne_true hblank]
      rfl

/-- Sources selected by two names are the same if the names are, or if neither is the id of an
active source. -/
theorem activeWith_eq_iff {registry : Registry} {id other : String} :
    registry.activeWith id = registry.activeWith other ↔
      id = other ∨ ∀ s ∈ registry.active, s.id ≠ id ∧ s.id ≠ other := by
  constructor
  · intro h
    by_cases hid : id = other
    · exact Or.inl hid
    · refine Or.inr fun s hs => ⟨fun hs' => hid ?_, fun hs' => hid ?_⟩
      · have hmem : s ∈ registry.activeWith id := List.mem_filter.mpr ⟨hs, decide_eq_true hs'⟩
        rw [h, Registry.activeWith, List.mem_filter, decide_eq_true_eq] at hmem
        exact hs'.symm.trans hmem.2
      · have hmem : s ∈ registry.activeWith other := List.mem_filter.mpr ⟨hs, decide_eq_true hs'⟩
        rw [← h, Registry.activeWith, List.mem_filter, decide_eq_true_eq] at hmem
        exact hmem.2.symm.trans hs'
  · rintro (rfl | h)
    · rfl
    · exact List.filter_congr fun s hs => by
        rw [decide_eq_false (h s hs).1, decide_eq_false (h s hs).2]

/-- **The sources that are searched are those that the filter names**, unless white space is in the
way. Let a request have a filter. This is read as clauses. If none of them is for the publisher, all
active sources are searched, and otherwise those whose id is the publisher without the white space
around it. So these are the sources with the id that the filter states if there is no such white
space, or if no active source has the publisher for an id, be it with this white space or
without. -/
theorem selected_eq_named_iff {text : List Char} (h : r.filter d = .ok text) :
    ∃ clauses, Clause.parse text = .ok clauses ∧
      f.selected r = ((Clause.value? "publisher" clauses).map Text.trimmed).elim f.registry.active
        f.registry.activeWith ∧
      (f.selected r = f.named clauses ↔
        ∀ id, Clause.value? "publisher" clauses = some id →
          Text.trimmed id = id ∨ ∀ s ∈ f.registry.active, s.id ≠ Text.trimmed id ∧ s.id ≠ id) := by
  have hfield : FilterField.text "publisher" (·.publisher) ∈ FilterField.all :=
    List.mem_of_getElem? (i := 17) rfl
  obtain ⟨clauses, hparse, hvalue⟩ := SearchRequest.parse_filter_value? hfield h
  rw [FilterField.text, FilterField.values_one, Option.head?_toList] at hvalue
  refine ⟨clauses, hparse, ?_, ?_⟩
  · rw [selected_eq_elim, hvalue]
  · rw [selected_eq_elim, named, hvalue]
    cases FilterField.filled r.publisher with
    | none => simp
    | some id => simp [activeWith_eq_iff]

/-- Active sources whose ids differ in white space only, and one that is not active. -/
def spacedSources : Federation where
  registry := ⟨
    [ ⟨{ Source.ofHost "a" with id := "a" }, true⟩,
      ⟨{ Source.ofHost "a" with id := " a " }, true⟩,
      ⟨{ Source.ofHost "b" with id := "b" }, false⟩ ]⟩
  gateway := ⟨{}, .offline⟩

/-- A request for one of them, with a text that looks like a clause for another. -/
def clauseLikeRequest : SearchRequest where
  author := some "b AND publisher=b"
  publisher := some "a"

/-- Its filter. -/
def clauseLikeFilter : List Char := "author='b AND publisher=b' AND publisher='a'".toList

/-- A publisher without white space around it selects the source that the filter names. -/
theorem selected_eq_named_clauseLike :
    clauseLikeRequest.filter .common = .ok clauseLikeFilter ∧
      ∃ clauses, Clause.parse clauseLikeFilter = .ok clauses ∧
        spacedSources.selected clauseLikeRequest = spacedSources.named clauses ∧
        (spacedSources.named clauses).map (·.id) = ["a"] := by
  have hfilter : clauseLikeRequest.filter .common = .ok clauseLikeFilter := by decide +kernel
  have hread : Clause.parse clauseLikeFilter =
      .ok [⟨"author".toList, false, ["b AND publisher=b".toList]⟩,
        ⟨"publisher".toList, false, [['a']]⟩] := by
    decide +kernel
  obtain ⟨clauses, hparse, -, hnamed⟩ := selected_eq_named_iff (f := spacedSources) hfilter
  obtain rfl := Except.ok.inj (hparse.symm.trans hread)
  refine ⟨hfilter, _, hparse, hnamed.mpr fun id hid => Or.inl ?_, by decide +kernel⟩
  obtain rfl : "a" = id := Option.some.inj hid
  decide

/-- **White space around a publisher selects another source** than the filter names. -/
theorem selected_ne_named_spaced :
    ({ publisher := some " a " } : SearchRequest).filter .common = .ok "publisher=' a '".toList ∧
      ∃ clauses, Clause.parse "publisher=' a '".toList = .ok clauses ∧
        (spacedSources.selected { publisher := some " a " }).map (·.id) = ["a"] ∧
        (spacedSources.named clauses).map (·.id) = [" a "] := by
  refine ⟨by decide +kernel, [⟨"publisher".toList, false, [" a ".toList]⟩], ?_, ?_, ?_⟩
  · decide +kernel
  · decide +kernel
  · decide +kernel

end Federation

end CatalogSearch
