import CatalogSearch.Filter.Field
import CatalogSearch.Proofs.Repetition
import CatalogSearch.Proofs.Text.Pieces
import CatalogSearch.Proofs.Vocabulary.Lawful
import Mathlib.Data.List.Basic

/-! # What a request states

A request gives texts for the fields of a filter, as its caller put them there. Blank texts state
nothing, and a text that is repeated is stated once.

* **`SearchRequest.given`**: the texts given for each field, in the order of the fields;
* **`stated`**: what given texts state;
* **`values_eq_stated`**: the values of all fields are what the request states. -/

namespace CatalogSearch

/-! ## Free text -/

/-- A search term is not blank. -/
theorem isBlank_of_mem_searchTerms {t cs : List Char} (h : t ∈ searchTerms cs) :
    Text.isBlank t = false := by
  have hne := ne_nil_of_mem_searchTerms h
  simp only [searchTerms] at h
  split at h
  · obtain ⟨piece, -, rfl⟩ := List.mem_map.mp (List.mem_filter.mp h).1
    exact Text.isBlank_trim hne
  · exact Text.isBlank_of_mem_words h

/-- The search terms as one value are not blank. -/
theorem blank_of_searchValue? {s v : String} (h : searchValue? s = some v) :
    Text.blank v = false := by
  simp only [searchValue?] at h
  split at h
  · cases h
  · next hne =>
    rw [← Option.some.inj h, Text.blank, String.toList_ofList]
    cases hterms : searchTerms s.toList with
    | nil => exact absurd (by rw [hterms]; rfl) hne
    | cons t terms =>
      have ht : t ∈ searchTerms s.toList := by rw [hterms]; exact List.mem_cons_self
      cases terms with
      | nil => exact isBlank_of_mem_searchTerms ht
      | cons t' terms =>
        -- With more than one term there is a comma.
        rw [Text.joinWith_cons_cons]
        exact Text.isBlank_eq_false_of_mem (c := ',') (by simp) (by decide)

/-- A date is not blank. -/
theorem Date.blank_text (d : Date) : Text.blank (String.ofList d.text) = false := by
  rw [Text.blank, String.toList_ofList]
  exact Text.isBlank_eq_false_of_mem (c := '-') (by simp [Date.text]) (by decide)

/-! ## What given texts state -/

/-- **What given texts state**: those that are not blank, each at its first place. -/
def stated (given : List String) : List String := (given.filter fun s => !Text.blank s).eraseDups

/-- Texts that are not blank are all stated. -/
theorem stated_of_filled {given : List String} (h : ∀ s ∈ given, Text.blank s = false) :
    stated given = given.eraseDups := by
  rw [stated, List.filter_eq_self.mpr fun s hs => by rw [h s hs]; rfl]

/-- A text that may be missing is stated if it is not blank. -/
theorem stated_toList (s : Option String) : stated s.toList = (FilterField.filled s).toList := by
  cases s with
  | none => rfl
  | some s =>
    rw [stated, FilterField.filled, Option.filter_some, Option.toList_some]
    by_cases hs : Text.blank s
    · simp [hs]
    · simp [hs, List.eraseDups_cons]

/-- A text that may be missing and is not blank is stated. -/
theorem stated_toList_of_filled {s : Option String} (h : ∀ v ∈ s, Text.blank v = false) :
    stated s.toList = s.toList := by
  rw [stated_toList, FilterField.filled]
  cases s with
  | none => rfl
  | some s => rw [Option.filter_some, h s rfl]; rfl

/-- Terms are stated by their labels. -/
theorem stated_labels {α : Type} [Vocabulary α] [Vocabulary.Lawful α] [BEq α] [LawfulBEq α]
    (ts : List α) : stated (ts.map Vocabulary.label) = ts.eraseDups.map Vocabulary.label := by
  rw [map_eraseDups Vocabulary.label_injective]
  refine stated_of_filled fun s hs => ?_
  obtain ⟨t, -, rfl⟩ := List.mem_map.mp hs
  exact Vocabulary.Lawful.blank_label t

/-! ## What a request gives -/

/-- **The texts that a request gives for each field**, in the order of the fields, as its caller
put them there. Free text is given as its terms, and terms of a vocabulary by their labels. -/
def SearchRequest.given (d : Dialect) (r : SearchRequest) : List (List String) :=
  let objective (get : LearningObjectives → Option String) := (get r.learningObjectives).toList
  [ (r.search.bind searchValue?).toList,
    if d = .duf then (r.search.bind searchValue?).toList else [],
    r.subject.map Vocabulary.label,
    r.id,
    (r.learningResourceType.map (·.labelIn d)).toList,
    r.language.toList,
    (r.schoolType.map (·.labelIn d)).toList,
    (r.typicalAgeRange.map Vocabulary.label).toList,
    r.textComplexity.toList,
    objective (·.alignmentType),
    objective (·.educationalFramework),
    objective (·.targetDescription),
    objective (·.targetName),
    objective (·.targetUrl),
    objective (·.caseItemUri),
    objective (·.caseItemGuid),
    r.author.toList,
    r.publisher.toList,
    r.timeRequired.toList,
    r.technicalFormat.map Vocabulary.label,
    r.educationalAudience.toList,
    r.accessibilityApi.toList,
    r.accessibilityInputMethods.toList,
    r.accessMode.toList,
    (r.publishDate.map fun day => String.ofList day.text).toList,
    (r.rating.map Vocabulary.label).toList,
    r.federalStates.map Vocabulary.label,
    (r.schoolBook.map Vocabulary.label).toList,
    (r.grade.map Vocabulary.label).toList ]

namespace FilterField

variable (d : Dialect) (r : SearchRequest)

/-- The values of a field for one value. -/
theorem values_one (key : String) (read : Dialect → SearchRequest → Option String) :
    (⟨key, .one read⟩ : FilterField).values d r = (read d r).toList := rfl

/-- The values of a field for a choice. -/
theorem values_anyOf (key : String) (read : SearchRequest → List String) :
    (⟨key, .anyOf read⟩ : FilterField).values d r = read r := rfl

/-- The values of a field for a text are what the text states. -/
theorem values_text (key : String) (get : SearchRequest → Option String) :
    (text key get).values d r = stated (get r).toList :=
  (stated_toList (get r)).symm

/-- The values of a field for a learning objective are what its text states. -/
theorem values_objective (key : String) (get : LearningObjectives → Option String) :
    (objective key get).values d r = stated (get r.learningObjectives).toList :=
  values_text d r _ _

/-- The values of a field for a choice of terms are what their labels state. -/
theorem values_terms {α : Type} [Vocabulary α] [Vocabulary.Lawful α] [BEq α] [LawfulBEq α]
    (key : String) (get : SearchRequest → List α) :
    (terms key get).values d r = stated ((get r).map Vocabulary.label) :=
  (stated_labels (get r)).symm

end FilterField

/-- A value read off a part of a request is stated, if such values are never blank. -/
theorem stated_map {α : Type} {read : α → String} (h : ∀ a, Text.blank (read a) = false)
    (part : Option α) : stated (part.map read).toList = (part.map read).toList := by
  refine stated_toList_of_filled fun v hv => ?_
  obtain ⟨a, -, rfl⟩ := Option.map_eq_some_iff.mp hv
  exact h a

/-- Free text is stated by its terms. -/
theorem stated_searchValue? (search : Option String) :
    stated (search.bind searchValue?).toList = (search.bind searchValue?).toList := by
  refine stated_toList_of_filled fun v hv => ?_
  obtain ⟨s, -, hs⟩ := Option.bind_eq_some_iff.mp hv
  exact blank_of_searchValue? hs

/-- **The values of all fields are what the request states.** -/
theorem values_eq_stated (d : Dialect) (r : SearchRequest) :
    FilterField.all.map (·.values d r) = (r.given d).map stated := by
  have hname : (if d = .duf then r.search.bind searchValue? else none).toList =
      stated (if d = .duf then (r.search.bind searchValue?).toList else []) := by
    by_cases hd : d = .duf
    · rw [if_pos hd, if_pos hd, stated_searchValue?]
    · rw [if_neg hd, if_neg hd]
      rfl
  simp only [FilterField.all, SearchRequest.given, List.map_cons, List.map_nil,
    FilterField.values_text, FilterField.values_objective, FilterField.values_terms,
    FilterField.term, FilterField.values_one, FilterField.values_anyOf, hname,
    stated_searchValue?, stated_map Vocabulary.Lawful.blank_label, stated_map Date.blank_text,
    stated_map (SchoolType.blank_labelIn d), stated_map (LearningResourceType.blank_labelIn d)]
  rfl

end CatalogSearch
