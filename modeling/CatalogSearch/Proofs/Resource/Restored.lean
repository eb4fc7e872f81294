import CatalogSearch.Proofs.Calendar.Lead
import CatalogSearch.Proofs.Json.Restored
import CatalogSearch.Proofs.Resource.Leniency

/-! # Resources are read back from their texts

Lenient reading takes any value there is. Of the values that a resource is written as it makes what
the resource holds: a term of its label, a date of its written form, and nothing of null.

* **`Codec.Keeps.term`**, **`Codec.Keeps.terms`**, **`Codec.Keeps.date`**: lenient values;
* **`Resource.codec_keeps`**, **`Resource.reads_written_resource`**: resources and their texts. -/

namespace CatalogSearch

namespace Codec.Keeps

variable {α : Type} {around : Nat}

/-! ## Lenient values -/

/-- **What is read leniently is kept** if it is written as null or as a string from which it is
read. -/
theorem free {encode : α → Json} {read : Json → α} {a : α} (haround : around ≤ Json.maxDepth)
    (hencode : encode a = .null ∨ ∃ s, encode a = .string s) (hread : read (encode a) = a) :
    (Codec.free encode read).Keeps around a := by
  have hwords : (encode a).Wordy ∧ (encode a).isFree around = true := by
    rcases hencode with h | ⟨s, h⟩
    · rw [h]
      exact ⟨.null, decide_eq_true haround⟩
    · rw [h]
      exact ⟨.string s, decide_eq_true haround⟩
  refine ⟨hwords.1, (free_eq_ok hwords.2).trans ?_⟩
  exact congrArg Except.ok hread

section Terms

variable [Vocabulary α] [Vocabulary.Lawful α]

/-- **At most one term is kept.** -/
theorem term (haround : around ≤ Json.maxDepth) (t : Option α) : Codec.term.Keeps around t := by
  cases t with
  | none => exact free haround (Or.inl rfl) rfl
  | some t =>
    refine free haround (Or.inr ⟨_, rfl⟩) ?_
    exact termOf?_termValue (Vocabulary.Lawful.ofLabel?_label t)

/-- **Lists of terms are kept**, with repeated ones. -/
theorem terms (haround : around < Json.maxDepth) (ts : List α) : Codec.terms.Keeps around ts where
  wordy := by
    refine .array fun v hv => ?_
    obtain ⟨t, -, rfl⟩ := List.mem_map.mp hv
    exact .string _
  decode_encode := by
    have hfree : ∀ v ∈ ts.map termValue, v.isFree (around + 1) = true := by
      intro v hv
      obtain ⟨t, -, rfl⟩ := List.mem_map.mp hv
      exact decide_eq_true haround
    have hterms : ∀ t : α, termOf? (termValue t) = some t := fun t =>
      termOf?_termValue (Vocabulary.Lawful.ofLabel?_label t)
    refine (terms_eq_ok hfree).trans ?_
    rw [List.filterMap_map, Function.comp_def]
    simp only [hterms, List.filterMap_some]

end Terms

/-- **A date is kept** if its year is written in four digits. -/
theorem date (haround : around ≤ Json.maxDepth) {d : Option Date}
    (hyear : ∀ e, d = some e → 0 ≤ e.year ∧ e.year ≤ 9999) : Codec.date.Keeps around d := by
  cases d with
  | none => exact free haround (Or.inl rfl) rfl
  | some d =>
    refine free haround (Or.inr ⟨_, rfl⟩) ?_
    have hlead := Date.ofLead?_append (Date.spellsInFull_text (hyear d rfl)) []
    rw [List.append_nil] at hlead
    show Date.ofLead? (String.ofList d.text).toList = some d
    rw [String.toList_ofList, hlead]

end Codec.Keeps

namespace Resource

/-! ## Resources -/

open Codec.Keeps

/-- **Resources are kept**, field by field, if there is no relevance in them, and the year of their
date is written in four digits. -/
theorem codec_keeps {around : Nat} (haround : around + 1 < Json.maxDepth) {r : Resource}
    (hrelevance : r.relevance = none)
    (hyear : ∀ d, r.publishDate = some d → 0 ≤ d.year ∧ d.year ≤ 9999) :
    codec.Keeps around r := by
  refine .record independentFields.names ?_
  have htext (s : String) : (Codec.nullable Codec.text).Keeps (around + 1) s :=
    .nullable (.text _ s) Json.noConfusion
  have htexts (ss : List String) : (Codec.nullable (Codec.list Codec.text)).Keeps (around + 1) ss :=
    .nullable (.texts _ ss) Json.noConfusion
  have hnone : Codec.relevance.Keeps (around + 1) r.relevance := by
    rw [hrelevance]
    exact ⟨.null, rfl⟩
  have hterm := Nat.le_of_lt haround
  refine .of (htext r.id) <| .of (htext r.name) <| .of (optionalText _ r.description) <|
    .of (terms haround r.subject) <| .of (optionalText _ r.url) <|
    .of (optionalText _ r.thumbnailUrl) <| .of (terms haround r.learningResourceType) <|
    .of (htexts r.language) <| .of (optionalText _ r.typicalAgeRange) <| .of (htexts r.author) ?_
  refine .of (optionalText _ r.publisher) <| .of (optionalText _ r.publisherId) <|
    .of (optionalText _ r.useRightsUrl) <| .of (optionalText _ r.timeRequired) <|
    .of (term hterm r.technicalFormat) ?_
  refine .of (date hterm hyear) <| .of (term hterm r.rating) <| .of hnone ?_
  refine .of (terms haround r.schoolType) <| .of (optionalText _ r.pageFrom) <|
    .of (optionalText _ r.pageTo) ?_
  exact .nil

/-- **Resources are read back from their texts.** A resource without a relevance, and with a date
between the years 0 and 9999 if it has one, is read from the text that it is written as, on one line
or with line breaks, just as it was. -/
theorem reads_written_resource {r : Resource} (hrelevance : r.relevance = none)
    (hyear : ∀ d, r.publishDate = some d → 0 ≤ d.year ∧ d.year ≤ 9999) :
    codec.readText (codec.writeText r) = .ok r ∧
      codec.readText (codec.encode r).pretty.toList = .ok r := by
  have hkeeps : codec.Keeps 0 r := codec_keeps (by decide) hrelevance hyear
  exact ⟨hkeeps.readText_writeText, hkeeps.readText_pretty⟩

/-- A resource with quotes in its name, a repeated subject and a date. -/
def quotedResource : Resource :=
  { id := "a1", name := "\"Optik\"\n", subject := [.physik, .physik], rating := some .five,
    publishDate := some ⟨1999, 12, 31, by decide⟩ }

/-- It is read back from its texts. -/
theorem reads_written_resource_quoted :
    quotedResource.relevance = none ∧
      (∀ d, quotedResource.publishDate = some d → 0 ≤ d.year ∧ d.year ≤ 9999) ∧
      codec.readText (codec.writeText quotedResource) = .ok quotedResource ∧
      codec.readText (codec.encode quotedResource).pretty.toList = .ok quotedResource := by
  have hyear : ∀ d, quotedResource.publishDate = some d → 0 ≤ d.year ∧ d.year ≤ 9999 := by
    intro d hd
    obtain rfl := Option.some.inj hd
    decide
  exact ⟨rfl, hyear, reads_written_resource rfl hyear⟩

end Resource

end CatalogSearch
