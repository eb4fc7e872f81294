import CatalogSearch.Calendar.Reading
import CatalogSearch.Vocabulary.Material
import CatalogSearch.Vocabulary.School
import CatalogSearch.Vocabulary.Subject

/-! # Search requests

What a caller searches for. Every part is optional; what is left out does not narrow the search.

* **`LearningObjectives`**: the objectives a resource is aligned to;
* **`SearchRequest`**: the whole request;
* **`SearchRequest.codec`**: requests as JSON;
* **`SearchRequest.withSearch`** and its kin: requests built step by step. -/

namespace CatalogSearch

/-- The part of a request about **learning objectives**. -/
structure LearningObjectives where
  alignmentType : Option String := none
  educationalFramework : Option String := none
  targetDescription : Option String := none
  targetName : Option String := none
  targetUrl : Option String := none
  caseItemUri : Option String := none
  caseItemGuid : Option String := none
  deriving DecidableEq, Repr, Inhabited

/-- **A search request.** -/
structure SearchRequest where
  /-- Free text: words, or phrases in double quotes. -/
  search : Option String := none
  subject : List Subject := []
  /-- Ids of single resources. -/
  id : List String := []
  learningResourceType : Option LearningResourceType := none
  language : Option String := none
  schoolType : Option SchoolType := none
  typicalAgeRange : Option StudyYear := none
  textComplexity : Option String := none
  learningObjectives : LearningObjectives := {}
  author : Option String := none
  /-- The id of the only source to search. -/
  publisher : Option String := none
  timeRequired : Option String := none
  technicalFormat : List MediaType := []
  educationalAudience : Option String := none
  accessibilityApi : Option String := none
  accessibilityInputMethods : Option String := none
  accessMode : Option String := none
  publishDate : Option Date := none
  rating : Option Rating := none
  federalStates : List FederalState := []
  schoolBook : Option SchoolBook := none
  grade : Option Grade := none
  deriving DecidableEq, Repr, Inhabited

/-- Dates as JSON, in their written form. -/
def Date.codec : Codec Date where
  encode d := .string (String.ofList d.text)
  decode _
    | .string s =>
      match Date.read? .allowed s.toList with
      | some d => .ok d
      | none => .error .malformed
    | _ => .error .malformed

/-- A field for an optional text. -/
def textField {σ : Type} (name : String) (get : σ → Option String) (set : Option String → σ → σ) :
    Codec.Field σ :=
  .of name .always (.optional .text) get set

/-- A field for an optional term. -/
def termField {σ α : Type} [Vocabulary α] (name : String) (get : σ → Option α)
    (set : Option α → σ → σ) : Codec.Field σ :=
  .of name .always (.optional Vocabulary.codec) get set

/-- A field for a list of terms. -/
def termsField {σ α : Type} [Vocabulary α] (name : String) (get : σ → List α)
    (set : List α → σ → σ) : Codec.Field σ :=
  .of name .always (.list Vocabulary.codec) get set

namespace LearningObjectives

/-- The fields of learning objectives, in order. -/
def fields : List (Codec.Field LearningObjectives) :=
  [ textField "alignmentType" (·.alignmentType) fun v o => { o with alignmentType := v },
    textField "educationalFramework" (·.educationalFramework) fun v o =>
      { o with educationalFramework := v },
    textField "targetDescription" (·.targetDescription) fun v o =>
      { o with targetDescription := v },
    textField "targetName" (·.targetName) fun v o => { o with targetName := v },
    textField "targetURL" (·.targetUrl) fun v o => { o with targetUrl := v },
    textField "caseItemURI" (·.caseItemUri) fun v o => { o with caseItemUri := v },
    textField "caseItemGUID" (·.caseItemGuid) fun v o => { o with caseItemGuid := v } ]

/-- Learning objectives as JSON. -/
def codec : Codec LearningObjectives := Codec.record fields {}

end LearningObjectives

namespace SearchRequest

/-- The fields of a request, in order. -/
def fields : List (Codec.Field SearchRequest) :=
  [ textField "search" (·.search) fun v r => { r with search := v },
    termsField "subject" (·.subject) fun v r => { r with subject := v },
    .of "id" .always (.list .text) (·.id) fun v r => { r with id := v },
    termField "learningResourceType" (·.learningResourceType) fun v r =>
      { r with learningResourceType := v },
    textField "language" (·.language) fun v r => { r with language := v },
    termField "schoolType" (·.schoolType) fun v r => { r with schoolType := v },
    termField "typicalAgeRange" (·.typicalAgeRange) fun v r => { r with typicalAgeRange := v },
    textField "textComplexity" (·.textComplexity) fun v r => { r with textComplexity := v },
    .of "learningObjectives" .always LearningObjectives.codec (·.learningObjectives) fun v r =>
      { r with learningObjectives := v },
    textField "author" (·.author) fun v r => { r with author := v },
    textField "publisher" (·.publisher) fun v r => { r with publisher := v },
    textField "timeRequired" (·.timeRequired) fun v r => { r with timeRequired := v },
    termsField "technicalFormat" (·.technicalFormat) fun v r => { r with technicalFormat := v },
    textField "educationalAudience" (·.educationalAudience) fun v r =>
      { r with educationalAudience := v },
    textField "accessibilityAPI" (·.accessibilityApi) fun v r => { r with accessibilityApi := v },
    textField "accessibilityInputMethods" (·.accessibilityInputMethods) fun v r =>
      { r with accessibilityInputMethods := v },
    textField "accessMode" (·.accessMode) fun v r => { r with accessMode := v },
    .of "publishDate" .always (.optional Date.codec) (·.publishDate) fun v r =>
      { r with publishDate := v },
    termField "rating" (·.rating) fun v r => { r with rating := v },
    termsField "federalStates" (·.federalStates) fun v r => { r with federalStates := v },
    termField "schoolBook" (·.schoolBook) fun v r => { r with schoolBook := v },
    termField "grade" (·.grade) fun v r => { r with grade := v } ]

/-- **Requests as JSON.** -/
def codec : Codec SearchRequest := Codec.record fields {}

/-! ## Requests built step by step -/

/-- A request for the given free text. -/
def withSearch (text : String) (r : SearchRequest) : SearchRequest := { r with search := some text }

/-- A request with one more subject. -/
def withSubject (s : Subject) (r : SearchRequest) : SearchRequest :=
  { r with subject := r.subject ++ [s] }

/-- A request with one more technical format. -/
def withTechnicalFormat (m : MediaType) (r : SearchRequest) : SearchRequest :=
  { r with technicalFormat := r.technicalFormat ++ [m] }

/-- A request to the source with the given id alone. -/
def withPublisher (id : String) (r : SearchRequest) : SearchRequest :=
  { r with publisher := some id }

end SearchRequest

end CatalogSearch
