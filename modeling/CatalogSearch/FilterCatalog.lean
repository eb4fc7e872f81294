import CatalogSearch.Source.Basic
import CatalogSearch.Vocabulary.Material
import CatalogSearch.Vocabulary.School
import CatalogSearch.Vocabulary.Subject

/-! # The catalog of filters

What callers can choose from: the terms of all vocabularies, and the active sources. Subjects come
in groups, and only those that some source has.

* **`SubjectGroup`**: the groups of subjects;
* **`FilterCatalog`**: the catalog;
* **`FilterCatalog.build`**: the catalog for some subjects and sources. -/

namespace CatalogSearch

/-! ## Groups of subjects -/

/-- **A group of subjects.** -/
structure SubjectGroup where
  name : String
  members : List Subject
  deriving DecidableEq, Repr

namespace SubjectGroup

/-- All groups with all their subjects, in order. -/
def all : List SubjectGroup :=
  [ ⟨"LANGUAGES",
      [ .deutsch, .deutschAlsZweitsprache, .englisch, .franzoesisch, .griechisch, .italienisch,
        .latein, .russisch, .sonstige, .spanisch, .tuerkisch ]⟩,
    ⟨"STEM",
      [ .biologie, .chemie, .informatikItb, .mathematik, .physik, .sachunterricht, .umwelt ]⟩,
    ⟨"SOCIAL_SCIENCES", [.geografie, .geschichte, .politischeBildung, .wirtschaftskunde]⟩,
    ⟨"ARTS", [.bildendeKunst, .musik]⟩,
    ⟨"ETHICS_PHILOSOPHY_RELIGION", [.ethik, .philosophie, .religion]⟩,
    ⟨"SPORTS", [.sport]⟩,
    ⟨"OTHERS",
      [ .arbeitslehre, .beruflicheBildung, .elementarbereichVorschulerziehung, .freizeit,
        .gesundheit, .grundschule, .heimatraumRegion, .interkulturelleBildung,
        .kinderUndJugendbildung, .medienpaedagogik, .paedagogik, .praxisorientierteFaecher,
        .psychologie, .rettenHelfenSchuetzen, .spielUndDokumentarfilm, .suchtUndPraevention,
        .uebergreifendeThemen, .verkehrserziehung, .weiterbildung ]⟩ ]

/-- A group with only the subjects whose labels are among some names. -/
def restrict (names : List String) (g : SubjectGroup) : SubjectGroup :=
  { g with members := g.members.filter fun s => Vocabulary.label s ∈ names }

end SubjectGroup

/-! ## The catalog -/

/-- **What callers can choose from.** -/
structure FilterCatalog where
  subjects : List SubjectGroup
  mediaTypes : List MediaType
  learningResourceTypes : List LearningResourceType
  schoolTypes : List SchoolType
  studyYears : List StudyYear
  /-- Ids and names of the sources. -/
  publishers : List (String × String)
  federalStates : List FederalState
  schoolBooks : List SchoolBook
  grades : List Grade
  deriving DecidableEq, Repr

namespace FilterCatalog

/-- **The catalog for the subjects that sources have**, given by their names, and for some
sources. -/
def build (names : List String) (sources : List Source) : FilterCatalog where
  subjects := SubjectGroup.all.map (SubjectGroup.restrict names)
  mediaTypes := Vocabulary.terms
  learningResourceTypes := Vocabulary.terms
  schoolTypes := Vocabulary.terms
  studyYears := Vocabulary.terms
  publishers := sources.map fun s => (s.id, s.displayName)
  federalStates := Vocabulary.terms
  schoolBooks := Vocabulary.terms
  grades := Vocabulary.terms

/-- Labels of terms as a JSON value. -/
def labels {α : Type} [Vocabulary α] (ts : List α) : Json :=
  .array (ts.map fun t => .string (Vocabulary.label t))

/-- The JSON value of a catalog. -/
def toJson (c : FilterCatalog) : Json :=
  .object
    [ ("subjects", .array (c.subjects.map fun g =>
        .object [("name", .string g.name), ("items", labels g.members)])),
      ("mediaTypes", labels c.mediaTypes),
      ("learningResourceTypes", labels c.learningResourceTypes),
      ("schoolTypes", labels c.schoolTypes),
      ("studyYears", labels c.studyYears),
      ("publishers", .array (c.publishers.map fun p =>
        .object [("id", .string p.1), ("name", .string p.2)])),
      ("federalStates", labels c.federalStates),
      ("schoolBooks", labels c.schoolBooks),
      ("grades", labels c.grades) ]

end FilterCatalog

end CatalogSearch
