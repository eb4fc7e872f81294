import CatalogSearch.Filter.Terms
import CatalogSearch.Request

/-! # Filter fields

The parts of a request that narrow a search, in the order in which a filter lists them:

* **`FilterField`**: the key of such a part, and how its values are read off a request;
* **`FilterField.values`**: the values of a field in a request, in the dialect of a source;
* **`FilterField.all`**: all fields, in order. -/

namespace CatalogSearch

/-- How the values of a field are read off a request. -/
inductive FilterField.Content where
  /-- At most one value. -/
  | one (read : Dialect → SearchRequest → Option String)
  /-- A choice of values. -/
  | anyOf (read : SearchRequest → List String)

/-- **A part of a request that narrows the search.** -/
structure FilterField where
  key : String
  content : FilterField.Content

namespace FilterField

/-- A field that offers a choice of values. -/
def isChoice (f : FilterField) : Bool :=
  match f.content with
  | .one _ => false
  | .anyOf _ => true

/-- **The values of a field in a request.** -/
def values (f : FilterField) (d : Dialect) (r : SearchRequest) : List String :=
  match f.content with
  | .one read => (read d r).toList
  | .anyOf read => read r

/-- A field without a choice has at most one value. -/
theorem length_values_le_one {f : FilterField} (h : f.isChoice = false) (d : Dialect)
    (r : SearchRequest) : (f.values d r).length ≤ 1 := by
  unfold isChoice at h
  unfold values
  split at h
  · next read _ => cases read d r <;> simp
  · cases h

/-! ## Reading values

Repeated values of a choice count once, at their first place. -/

/-- A text that is not blank. -/
def filled (s : Option String) : Option String := s.filter fun s => !Text.blank s

/-- A field for a text. -/
def text (key : String) (get : SearchRequest → Option String) : FilterField :=
  ⟨key, .one fun _ r => filled (get r)⟩

/-- A field for a text of the learning objectives. -/
def objective (key : String) (get : LearningObjectives → Option String) : FilterField :=
  text ("learningObject." ++ key) fun r => get r.learningObjectives

/-- A field for a term. -/
def term {α : Type} [Vocabulary α] (key : String) (get : SearchRequest → Option α) : FilterField :=
  ⟨key, .one fun _ r => (get r).map Vocabulary.label⟩

/-- A field for a choice of terms. -/
def terms {α : Type} [Vocabulary α] [BEq α] (key : String) (get : SearchRequest → List α) :
    FilterField :=
  ⟨key, .anyOf fun r => (get r).eraseDups.map Vocabulary.label⟩

/-! ## The fields -/

/-- **All fields, in order.** The DUF searches names, and has labels of its own for two
vocabularies. -/
def all : List FilterField :=
  [ ⟨"search", .one fun _ r => r.search.bind searchValue?⟩,
    ⟨"name", .one fun d r => if d = .duf then r.search.bind searchValue? else none⟩,
    terms "subject" (·.subject),
    ⟨"id", .anyOf fun r => (r.id.filter fun s => !Text.blank s).eraseDups⟩,
    ⟨"learningResourceType", .one fun d r => r.learningResourceType.map (·.labelIn d)⟩,
    text "language" (·.language),
    ⟨"schoolType", .one fun d r => r.schoolType.map (·.labelIn d)⟩,
    term "typicalAgeRange" (·.typicalAgeRange),
    text "textComplexity" (·.textComplexity),
    objective "alignmentType" (·.alignmentType),
    objective "educationalFramework" (·.educationalFramework),
    objective "targetDescription" (·.targetDescription),
    objective "targetName" (·.targetName),
    objective "targetURL" (·.targetUrl),
    objective "caseItemURI" (·.caseItemUri),
    objective "caseItemGUID" (·.caseItemGuid),
    text "author" (·.author),
    text "publisher" (·.publisher),
    text "timeRequired" (·.timeRequired),
    terms "technicalFormat" (·.technicalFormat),
    text "educationalAudience" (·.educationalAudience),
    text "accessibilityAPI" (·.accessibilityApi),
    text "accessibilityInputMethods" (·.accessibilityInputMethods),
    text "accessMode" (·.accessMode),
    ⟨"publishDate", .one fun _ r => r.publishDate.map fun d => String.ofList d.text⟩,
    term "rating" (·.rating),
    terms "federalStates" (·.federalStates),
    term "schoolBook" (·.schoolBook),
    term "grade" (·.grade) ]

end FilterField

end CatalogSearch
