import CatalogSearch.Resource.Key
import CatalogSearch.Resource.Lenient
import CatalogSearch.Vocabulary.Material
import CatalogSearch.Vocabulary.School
import CatalogSearch.Vocabulary.Subject

/-! # Resources

Learning resources as sources deliver them and as callers receive them:

* **`Resource`**: one resource;
* **`Resource.key?`**: its key, once it is known which source it is from;
* **`Resource.codec`**: resources as JSON, read leniently;
* **`ResourceSet`**: what a source answers to a search;
* **`ResourceDetails`**: a resource with what one user and all users together think of it. -/

namespace CatalogSearch

/-- **A learning resource.** -/
structure Resource where
  id : String := ""
  name : String := ""
  description : Option String := none
  subject : List Subject := []
  url : Option String := none
  thumbnailUrl : Option String := none
  learningResourceType : List LearningResourceType := []
  language : List String := []
  typicalAgeRange : Option String := none
  author : List String := []
  /-- The name of the source. -/
  publisher : Option String := none
  /-- The id of the source. -/
  publisherId : Option String := none
  useRightsUrl : Option String := none
  timeRequired : Option String := none
  technicalFormat : Option MediaType := none
  publishDate : Option Date := none
  rating : Option Rating := none
  relevance : Option Single := none
  schoolType : List SchoolType := []
  pageFrom : Option String := none
  pageTo : Option String := none
  deriving DecidableEq, Repr, Inhabited

namespace Resource

/-- The key of a resource; one of no source has none. -/
def key? (r : Resource) : Option ItemKey := r.publisherId.map fun id => ⟨id, r.id⟩

/-- The key by which a resource is looked up in a list of keys; the empty id stands for no
source. -/
def sortingKey (r : Resource) : ItemKey := ⟨r.publisherId.getD "", r.id⟩

/-- A resource of a known source is looked up by its key. -/
theorem sortingKey_of_key? {r : Resource} {k : ItemKey} (h : r.key? = some k) :
    r.sortingKey = k := by
  simp only [key?, Option.map_eq_some_iff] at h
  obtain ⟨id, hid, rfl⟩ := h
  simp [sortingKey, hid]

/-- A field for an optional text. -/
def textField (name : String) (get : Resource → Option String)
    (set : Option String → Resource → Resource) : Codec.Field Resource :=
  .of name .always (.optional .text) get set

/-- A field for a list of terms. -/
def termsField {α : Type} [Vocabulary α] (name : String) (get : Resource → List α)
    (set : List α → Resource → Resource) : Codec.Field Resource :=
  .of name .always .terms get set

/-- The fields of a resource, in order. -/
def fields : List (Codec.Field Resource) :=
  [ .of "id" .always (.nullable .text) (·.id) fun v r => { r with id := v },
    .of "name" .always (.nullable .text) (·.name) fun v r => { r with name := v },
    textField "description" (·.description) fun v r => { r with description := v },
    termsField "subject" (·.subject) fun v r => { r with subject := v },
    textField "url" (·.url) fun v r => { r with url := v },
    textField "thumbnailUrl" (·.thumbnailUrl) fun v r => { r with thumbnailUrl := v },
    termsField "learningResourceType" (·.learningResourceType) fun v r =>
      { r with learningResourceType := v },
    .of "language" .always (.nullable (.list .text)) (·.language) fun v r =>
      { r with language := v },
    textField "typicalAgeRange" (·.typicalAgeRange) fun v r => { r with typicalAgeRange := v },
    .of "author" .always (.nullable (.list .text)) (·.author) fun v r => { r with author := v },
    textField "publisher" (·.publisher) fun v r => { r with publisher := v },
    textField "publisherId" (·.publisherId) fun v r => { r with publisherId := v },
    textField "useRightsURL" (·.useRightsUrl) fun v r => { r with useRightsUrl := v },
    textField "timeRequired" (·.timeRequired) fun v r => { r with timeRequired := v },
    .of "technicalFormat" .always .term (·.technicalFormat) fun v r =>
      { r with technicalFormat := v },
    .of "publishDate" .always .date (·.publishDate) fun v r => { r with publishDate := v },
    .of "rating" .always .term (·.rating) fun v r => { r with rating := v },
    .of "relevance" .always .relevance (·.relevance) fun v r => { r with relevance := v },
    termsField "schoolType" (·.schoolType) fun v r => { r with schoolType := v },
    textField "pageFrom" (·.pageFrom) fun v r => { r with pageFrom := v },
    textField "pageTo" (·.pageTo) fun v r => { r with pageTo := v } ]

/-- **Resources as JSON.** -/
def codec : Codec Resource := Codec.record fields {}

end Resource

/-- **What a source answers to a search.** -/
structure ResourceSet where
  resources : List Resource := []
  deriving DecidableEq, Repr, Inhabited

namespace ResourceSet

/-- The only field of an answer to a search. -/
def fields : List (Codec.Field ResourceSet) :=
  [ .of "resources" .always (.nullable (.list Resource.codec)) (·.resources) fun v s =>
      { s with resources := v } ]

/-- Answers to a search as JSON. -/
def codec : Codec ResourceSet := Codec.record fields {}

end ResourceSet

/-- **A resource with what users think of it.** -/
structure ResourceDetails where
  resource : Resource
  /-- The user keeps it as a favorite. -/
  favorite : Bool
  /-- The user has rated it. -/
  rated : Bool
  /-- How many users have rated it. -/
  totalRatingsCount : Nat
  /-- The mean of all ratings with one decimal; none without ratings. -/
  currentRating : Option String
  deriving DecidableEq, Repr

/-- The JSON value of details: the members of the resource, then those about users. -/
def ResourceDetails.toJson (d : ResourceDetails) : Json :=
  .object <| Resource.fields.map (fun f => (f.name, f.encode d.resource)) ++
    [ ("favorite", .bool d.favorite),
      ("rated", .bool d.rated),
      ("totalRatingsCount", .ofNat d.totalRatingsCount),
      ("currentRating", (d.currentRating.map Json.string).getD .null) ]

end CatalogSearch
