import CatalogSearch.Vocabulary.Basic

/-! # Material

The vocabularies that describe a resource as material: its technical format, what it is for in
teaching, and its rating. Sources of the DUF dialect have labels of their own for three kinds of
assessment (`LearningResourceType.labelIn`). -/

namespace CatalogSearch

/-- The **technical format** of a resource. -/
inductive MediaType where
  | interactiveAnimation
  | interactiveSimulation
  | interactiveWhiteboard
  | mediaAudio
  | mediaImagesVisuals
  | mediaVideo
  | textBook
  | textChapter
  | textDocument
  | textPassage
  | textReference
  | textWebsite
  deriving DecidableEq, Repr

namespace MediaType

/-- The terms in the order they are listed in. -/
def terms : List MediaType :=
  [.interactiveAnimation, .interactiveSimulation, .interactiveWhiteboard, .mediaAudio,
   .mediaImagesVisuals, .mediaVideo, .textBook, .textChapter, .textDocument, .textPassage,
   .textReference, .textWebsite]

/-- The two spellings of a term. -/
def term : MediaType → Term
  | .interactiveAnimation => ⟨"INTERACTIVE_ANIMATION", "Interactive/Animation"⟩
  | .interactiveSimulation => ⟨"INTERACTIVE_SIMULATION", "Interactive/Simulation"⟩
  | .interactiveWhiteboard => ⟨"INTERACTIVE_WHITEBOARD", "Interactive/Whiteboard"⟩
  | .mediaAudio => ⟨"MEDIA_AUDIO", "Media/Audio"⟩
  | .mediaImagesVisuals => ⟨"MEDIA_IMAGES_VISUALS", "Media/Images/Visuals"⟩
  | .mediaVideo => ⟨"MEDIA_VIDEO", "Media/Video"⟩
  | .textBook => ⟨"TEXT_BOOK", "Text/Book"⟩
  | .textChapter => ⟨"TEXT_CHAPTER", "Text/Chapter"⟩
  | .textDocument => ⟨"TEXT_DOCUMENT", "Text/Document"⟩
  | .textPassage => ⟨"TEXT_PASSAGE", "Text/Passage"⟩
  | .textReference => ⟨"TEXT_REFERENCE", "Text/Reference"⟩
  | .textWebsite => ⟨"TEXT_WEBSITE", "Text/Website"⟩

/-- Every term is listed. -/
theorem mem_terms (t : MediaType) : t ∈ terms := by cases t <;> decide

instance : Vocabulary MediaType where
  kind := "MediaType"
  terms := terms
  term := term

end MediaType

/-- What **a resource is for** in teaching. -/
inductive LearningResourceType where
  | activityExperiment
  | activityLearning
  | activityWorksheet
  | assessmentFormative
  | assessmentInterim
  | assessmentItem
  | assessmentPreparation
  | assessmentRubric
  | collectionCourse
  | collectionCurriculumGuide
  | collectionLesson
  | collectionUnit
  | game
  | lecture
  deriving DecidableEq, Repr

namespace LearningResourceType

/-- The terms in the order they are listed in. -/
def terms : List LearningResourceType :=
  [.activityExperiment, .activityLearning, .activityWorksheet, .assessmentFormative,
   .assessmentInterim, .assessmentItem, .assessmentPreparation, .assessmentRubric,
   .collectionCourse, .collectionCurriculumGuide, .collectionLesson, .collectionUnit, .game,
   .lecture]

/-- The two spellings of a term. -/
def term : LearningResourceType → Term
  | .activityExperiment => ⟨"ACTIVITY_EXPERIMENT", "Activity/Experiment"⟩
  | .activityLearning => ⟨"ACTIVITY_LEARNING", "Activity/Learning"⟩
  | .activityWorksheet => ⟨"ACTIVITY_WORKSHEET", "Activity/Worksheet"⟩
  | .assessmentFormative => ⟨"ASSESSMENT_FORMATIVE", "Assessment/Formative"⟩
  | .assessmentInterim => ⟨"ASSESSMENT_INTERIM", "Assessment/Interim"⟩
  | .assessmentItem => ⟨"ASSESSMENT_ITEM", "Assessment/Item"⟩
  | .assessmentPreparation => ⟨"ASSESSMENT_PREPARATION", "Assessment/Preparation"⟩
  | .assessmentRubric => ⟨"ASSESSMENT_RUBRIC", "Assessment/Rubric"⟩
  | .collectionCourse => ⟨"COLLECTION_COURSE", "Collection/Course"⟩
  | .collectionCurriculumGuide => ⟨"COLLECTION_CURRICULUM_GUIDE", "Collection/Curriculum Guide"⟩
  | .collectionLesson => ⟨"COLLECTION_LESSON", "Collection/Lesson"⟩
  | .collectionUnit => ⟨"COLLECTION_UNIT", "Collection/Unit"⟩
  | .game => ⟨"GAME", "Game"⟩
  | .lecture => ⟨"LECTURE", "Lecture"⟩

/-- Every term is listed. -/
theorem mem_terms (t : LearningResourceType) : t ∈ terms := by cases t <;> decide

instance : Vocabulary LearningResourceType where
  kind := "LearningResourceType"
  terms := terms
  term := term

/-- The label of a type of resource in a dialect. -/
def labelIn : Dialect → LearningResourceType → String
  | .duf, .assessmentFormative => "Überblicksdiagnose"
  | .duf, .assessmentInterim => "Detaildiagnose"
  | .duf, .assessmentPreparation => "Test zum Thema"
  | _, t => t.term.label

/-- The common dialect has the listed labels. -/
@[simp] theorem labelIn_common (t : LearningResourceType) : labelIn .common t = t.term.label := rfl

end LearningResourceType

/-- A **star rating**, one to five. -/
inductive Rating where
  | one
  | two
  | three
  | four
  | five
  deriving DecidableEq, Repr

namespace Rating

/-- The terms in the order they are listed in. -/
def terms : List Rating :=
  [.one, .two, .three, .four, .five]

/-- The two spellings of a term. -/
def term : Rating → Term
  | .one => ⟨"1", "1"⟩
  | .two => ⟨"2", "2"⟩
  | .three => ⟨"3", "3"⟩
  | .four => ⟨"4", "4"⟩
  | .five => ⟨"5", "5"⟩

/-- Every term is listed. -/
theorem mem_terms (t : Rating) : t ∈ terms := by cases t <;> decide

instance : Vocabulary Rating where
  kind := "Rating"
  terms := terms
  term := term

/-- How many stars a rating gives. -/
def stars : Rating → Nat
  | .one => 1
  | .two => 2
  | .three => 3
  | .four => 4
  | .five => 5

/-- A rating gives one to five stars. -/
theorem stars_pos_and_le (r : Rating) : 1 ≤ r.stars ∧ r.stars ≤ 5 := by cases r <;> decide

end Rating

end CatalogSearch
