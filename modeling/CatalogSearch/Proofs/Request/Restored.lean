import CatalogSearch.Proofs.Calendar.Spelling
import CatalogSearch.Proofs.Json.Restored
import CatalogSearch.Proofs.Vocabulary.Lawful
import CatalogSearch.Request

/-! # Requests are read back from their texts

Every part of a request is a text, a term, a date or a list of these. Each is written in words from
which it is read back, and so is the request.

* **`Vocabulary.codec_keeps`**, **`Date.codec_keeps`**: terms and dates;
* **`LearningObjectives.codec_keeps`**, **`SearchRequest.codec_keeps`**,
  **`SearchRequest.codec_restores`**: the two records;
* **`SearchRequest.reads_written_request`**: requests and their texts. -/

namespace CatalogSearch

/-! ## Terms and dates -/

/-- **Terms are kept**: a label names its term. -/
theorem Vocabulary.codec_keeps {α : Type} [Vocabulary α] [Lawful α] (around : Nat) (t : α) :
    Vocabulary.codec.Keeps around t where
  wordy := .string _
  decode_encode := by simp only [codec, Lawful.ofLabel?_label]

/-- **Dates are kept**, in every year there is. -/
theorem Date.codec_keeps (around : Nat) (d : Date) : Date.codec.Keeps around d where
  wordy := .string _
  decode_encode := by
    simp only [codec, String.toList_ofList, read?_of_spells .allowed (spells_text d)]

namespace Codec.Keeps

variable {α : Type} [Vocabulary α] [Vocabulary.Lawful α]

/-- Optional terms are kept. -/
theorem optionalTerm (around : Nat) (t : Option α) :
    (Codec.optional Vocabulary.codec).Keeps around t :=
  .optional (fun b _ => Vocabulary.codec_keeps around b) fun _ => Json.noConfusion

/-- Lists of terms are kept, with repeated ones. -/
theorem termList (around : Nat) (ts : List α) : (Codec.list Vocabulary.codec).Keeps around ts :=
  .list fun t _ => Vocabulary.codec_keeps (around + 1) t

/-- Optional dates are kept. -/
theorem optionalDate (around : Nat) (d : Option Date) :
    (Codec.optional Date.codec).Keeps around d :=
  .optional (fun b _ => Date.codec_keeps around b) fun _ => Json.noConfusion

end Codec.Keeps

/-! ## Records -/

open Codec.Keeps

/-- **Learning objectives are kept**, field by field. -/
theorem LearningObjectives.codec_keeps (around : Nat) (o : LearningObjectives) :
    codec.Keeps around o := by
  refine .record (by decide +kernel) ?_
  refine .of (optionalText _ o.alignmentType) <| .of (optionalText _ o.educationalFramework) <|
    .of (optionalText _ o.targetDescription) <| .of (optionalText _ o.targetName) <|
    .of (optionalText _ o.targetUrl) <| .of (optionalText _ o.caseItemUri) <|
    .of (optionalText _ o.caseItemGuid) ?_
  exact .nil

/-- **Requests are kept**, field by field. -/
theorem SearchRequest.codec_keeps (around : Nat) (r : SearchRequest) : codec.Keeps around r := by
  refine .record (by decide +kernel) ?_
  refine .of (optionalText _ r.search) <| .of (termList _ r.subject) <| .of (texts _ r.id) <|
    .of (optionalTerm _ r.learningResourceType) <| .of (optionalText _ r.language) <|
    .of (optionalTerm _ r.schoolType) <| .of (optionalTerm _ r.typicalAgeRange) <|
    .of (optionalText _ r.textComplexity) ?_
  refine .of (LearningObjectives.codec_keeps _ r.learningObjectives) ?_
  refine .of (optionalText _ r.author) <| .of (optionalText _ r.publisher) <|
    .of (optionalText _ r.timeRequired) <| .of (termList _ r.technicalFormat) <|
    .of (optionalText _ r.educationalAudience) <| .of (optionalText _ r.accessibilityApi) <|
    .of (optionalText _ r.accessibilityInputMethods) <| .of (optionalText _ r.accessMode) ?_
  refine .of (optionalDate _ r.publishDate) ?_
  refine .of (optionalTerm _ r.rating) <| .of (termList _ r.federalStates) <|
    .of (optionalTerm _ r.schoolBook) <| .of (optionalTerm _ r.grade) ?_
  exact .nil

/-- **Requests are restored** wherever they stand in a value. -/
theorem SearchRequest.codec_restores (r : SearchRequest) : codec.Restores r :=
  Codec.restores_of_keeps fun around => codec_keeps around r

/-- **Requests are read back from their texts.** Every request is read from the text that it is
written as, on one line or with line breaks, just as it was. -/
theorem SearchRequest.reads_written_request (r : SearchRequest) :
    codec.readText (codec.writeText r) = .ok r ∧
      codec.readText (codec.encode r).pretty.toList = .ok r := by
  have hkeeps := codec_keeps 0 r
  exact ⟨hkeeps.readText_writeText, hkeeps.readText_pretty⟩

end CatalogSearch
