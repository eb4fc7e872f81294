import CatalogSearch.Text.WhiteSpace
import CatalogSearch.Vocabulary.Material
import CatalogSearch.Vocabulary.School
import CatalogSearch.Vocabulary.Subject
import Mathlib.Logic.Function.Defs

/-! # Labels name their terms

In every vocabulary a label belongs to one term only and is more than white space. Terms can
therefore be exchanged for their labels without loss.

* **`Vocabulary.Lawful`**: the two laws;
* **`Vocabulary.label_injective`**: different terms have different labels;
* **`SchoolType.blank_labelIn`** and its kin: labels of a dialect are not blank either. -/

namespace CatalogSearch

namespace Vocabulary

/-- **A vocabulary whose labels name its terms.** -/
class Lawful (α : Type) [Vocabulary α] : Prop where
  ofLabel?_label (t : α) : ofLabel? (label t) = some t
  blank_label (t : α) : Text.blank (label t) = false

/-- **Different terms have different labels.** -/
theorem label_injective {α : Type} [Vocabulary α] [Lawful α] :
    Function.Injective (label : α → String) := by
  intro s t h
  have hs := Lawful.ofLabel?_label s
  rw [h, Lawful.ofLabel?_label t] at hs
  exact (Option.some.inj hs).symm

/-- The laws of a vocabulary are those of the terms it lists, if it lists them all. -/
theorem Lawful.of_terms {α : Type} [Vocabulary α] (hmem : ∀ t : α, t ∈ terms)
    (h : ∀ t ∈ (terms : List α), ofLabel? (label t) = some t ∧ Text.blank (label t) = false) :
    Lawful α where
  ofLabel?_label t := (h t (hmem t)).1
  blank_label t := (h t (hmem t)).2

instance : Lawful Subject := .of_terms Subject.mem_terms (by decide +kernel)

instance : Lawful SchoolType := .of_terms SchoolType.mem_terms (by decide +kernel)

instance : Lawful FederalState := .of_terms FederalState.mem_terms (by decide +kernel)

instance : Lawful Grade := .of_terms Grade.mem_terms (by decide +kernel)

instance : Lawful StudyYear := .of_terms StudyYear.mem_terms (by decide +kernel)

instance : Lawful SchoolBook := .of_terms SchoolBook.mem_terms (by decide +kernel)

instance : Lawful MediaType := .of_terms MediaType.mem_terms (by decide +kernel)

instance : Lawful LearningResourceType :=
  .of_terms LearningResourceType.mem_terms (by decide +kernel)

instance : Lawful Rating := .of_terms Rating.mem_terms (by decide +kernel)

end Vocabulary

/-- Types of school are not blank in any dialect. -/
theorem SchoolType.blank_labelIn (d : Dialect) (t : SchoolType) :
    Text.blank (t.labelIn d) = false := by
  unfold labelIn
  split
  · decide +kernel
  · decide +kernel
  · exact Vocabulary.Lawful.blank_label t

/-- Types of learning resource are not blank in any dialect. -/
theorem LearningResourceType.blank_labelIn (d : Dialect) (t : LearningResourceType) :
    Text.blank (t.labelIn d) = false := by
  unfold labelIn
  split
  · decide +kernel
  · decide +kernel
  · decide +kernel
  · exact Vocabulary.Lawful.blank_label t

end CatalogSearch
