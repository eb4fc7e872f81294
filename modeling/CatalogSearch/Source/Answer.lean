import CatalogSearch.Resource.AgeRange
import CatalogSearch.Resource.Basic
import CatalogSearch.Source.Basic

/-! # Answers of sources

What a source answers says nothing about the source. From here on its resources carry its name and
id.

* **`SourceAnswer`**: what a source answers to a search;
* **`Resource.stamp`**: a resource as one of a given source;
* **`SourceResult`**: an answer with the source it is from;
* **`SourceResult.ofAnswer`**, **`SourceResult.empty`**: the result of an answer, and of none. -/

namespace CatalogSearch

/-- **What a source answers to a search.** -/
structure SourceAnswer where
  resources : List Resource := []
  /-- How many resources the source says match in all. -/
  declaredTotal : UInt64 := 0
  deriving DecidableEq, Repr, Inhabited

/-- **A resource as one of a given source**: the publisher is the source, ages are years at
school. -/
def Resource.stamp (s : Source) (r : Resource) : Resource :=
  { r with
    publisher := some s.displayName
    publisherId := some s.id
    typicalAgeRange := r.typicalAgeRange.map fun t => String.ofList (schoolYears t.toList) }

/-- The key of a stamped resource. -/
@[simp] theorem Resource.key?_stamp (s : Source) (r : Resource) :
    (r.stamp s).key? = some ⟨s.id, r.id⟩ := rfl

/-- **An answer with the source it is from.** -/
structure SourceResult where
  sourceId : String
  sourceName : String
  totalElements : UInt64
  items : List Resource
  deriving DecidableEq, Repr

namespace SourceResult

/-- The result of an answer. -/
def ofAnswer (s : Source) (a : SourceAnswer) : SourceResult :=
  ⟨s.id, s.displayName, a.declaredTotal, a.resources.map (Resource.stamp s)⟩

/-- The result of a source that gave no answer. -/
def empty (s : Source) : SourceResult := ofAnswer s {}

/-- A source that gave no answer has no items. -/
@[simp] theorem items_empty (s : Source) : (empty s).items = [] := rfl

/-- Results as JSON. -/
def codec : Codec SourceResult := Codec.record
  [ .of "sourceId" .never .text (·.sourceId) fun v r => { r with sourceId := v },
    .of "sourceName" .never .text (·.sourceName) fun v r => { r with sourceName := v },
    .of "totalElements" .never .word64 (·.totalElements) fun v r => { r with totalElements := v },
    .of "items" .never (.list Resource.codec) (·.items) fun v r => { r with items := v } ]
  ⟨"", "", 0, []⟩

end SourceResult

end CatalogSearch
