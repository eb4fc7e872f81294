import CatalogSearch.Proofs.Json.Overlooked
import CatalogSearch.Source.Answer

/-! # Resources without their signatures

A resource may say in its answer which source it is from: in two texts, its signature. Nobody relies
on them, because every resource is stamped with the source that has sent it.

* **`Resource.Attributed`**, **`Resource.attributed_iff`**: what a stamp says, and what it leaves;
* **`Resource.anonymous`**: a resource whose signature is gone; its stamp is the same;
* **`Resource.unsigned`**, **`ResourceSet.unsigned`**: JSON values of resources without signatures;
* **`Resource.overlooks_codec`**, **`ResourceSet.overlooks_codec`**: but for the signatures, they
  are read as before. -/

namespace CatalogSearch

/-! ## Stamps -/

namespace Resource

/-- **A resource that is attributed to a source**: it carries the name and the id of the source, its
ages are converted once, and everything else is left as it was. -/
structure Attributed (s : Source) (r item : Resource) : Prop where
  publisher : item.publisher = some s.displayName
  publisherId : item.publisherId = some s.id
  ages : item.typicalAgeRange = r.typicalAgeRange.map fun t => String.ofList (schoolYears t.toList)
  others : { item with
    publisher := r.publisher
    publisherId := r.publisherId
    typicalAgeRange := r.typicalAgeRange } = r

/-- **A stamp attributes a resource to a source**, and nothing else does. -/
theorem attributed_iff {s : Source} {r item : Resource} :
    r.Attributed s item ↔ item = r.stamp s := by
  constructor
  · rintro ⟨hpublisher, hid, hages, hothers⟩
    rw [stamp, ← hpublisher, ← hid, ← hages, ← hothers]
  · rintro rfl
    exact ⟨rfl, rfl, rfl, rfl⟩

/-- A resource that says nothing about its source. -/
def anonymous (r : Resource) : Resource := { r with publisher := none, publisherId := none }

/-- **A stamp does not depend on what a resource says about its source.** -/
theorem stamp_anonymous (s : Source) (r : Resource) : r.anonymous.stamp s = r.stamp s := rfl

end Resource

/-- The result of an answer does not depend on what its resources say about their source. -/
theorem SourceResult.ofAnswer_congr (s : Source) {a a' : SourceAnswer}
    (htotal : a.declaredTotal = a'.declaredTotal)
    (hresources : a.resources.map Resource.anonymous = a'.resources.map Resource.anonymous) :
    ofAnswer s a = ofAnswer s a' := by
  have hstamped : ∀ l : List Resource,
      l.map (Resource.stamp s) = (l.map Resource.anonymous).map (Resource.stamp s) := by
    intro l
    rw [List.map_map]
    rfl
  rw [ofAnswer, ofAnswer, htotal, hstamped a.resources, hstamped a'.resources, hresources]

/-! ## Signatures -/

/-- A value without the text that it is. -/
def Json.untold : Json → Json
  | .string _ => .null
  | v => v

/-- Nothing is broken that was not. -/
theorem Json.untold_eq_fault_iff {v : Json} {x : Json.Fault} :
    v.untold = .fault x ↔ v = .fault x := by
  cases v with
  | string s =>
    constructor
    · rintro ⟨⟩
    · rintro ⟨⟩
  | _ => rfl

namespace Resource

/-- The fields in which a resource says which source it is from. -/
def signature : List String := ["publisher", "publisherId"]

/-- A field without the text in it, if it is one of the signature. -/
def unsignedField (name : String) (v : Json) : Json := if name ∈ signature then v.untold else v

/-- **The JSON value of a resource without its signature.** -/
def unsigned : Json → Json := Codec.changeFields fields unsignedField

/-- Texts that may be missing are still read when they are missing. -/
theorem overlooks_untold : (Codec.optional Codec.text).Overlooks (fun _ => ()) Json.untold := by
  intro around v
  cases v with
  | string s => rfl
  | _ => rfl

/-- Fields outside of the signature are read as before. -/
theorem overlooks_unsignedField {α : Type} {name : String} {absence : Codec.Absence} {c : Codec α}
    {get : Resource → α} {set : α → Resource → Resource} (hname : name ∉ signature)
    (hset : ∀ a r, (set a r).anonymous = set a r.anonymous) :
    (Codec.Field.of name absence c get set).Overlooks anonymous (unsignedField name) := by
  have hsame : c.Overlooks (fun a => a) (unsignedField name) := by
    intro around v
    rw [unsignedField, if_neg hname]
  refine hsame.field ?_
  rintro a _ r t rfl hrt
  rw [hset, hset, hrt]

/-- Fields of the signature are read, but not seen. -/
theorem overlooks_signatureField {name : String} {get : Resource → Option String}
    {set : Option String → Resource → Resource} (hname : name ∈ signature)
    (hset : ∀ a r, (set a r).anonymous = r.anonymous) :
    (textField name get set).Overlooks anonymous (unsignedField name) := by
  have hunseen : (Codec.optional Codec.text).Overlooks (fun _ => ()) (unsignedField name) := by
    intro around v
    rw [unsignedField, if_pos hname]
    exact overlooks_untold around v
  refine hunseen.field fun a b r t _ hrt => ?_
  rw [hset, hset, hrt]

/-- **But for its signature, a resource has all its fields.** -/
theorem overlookedFields : Codec.OverlookedFields fields anonymous unsignedField where
  others name hname v := by
    have hunsigned : name ∉ signature := by
      intro hsigned
      have hfields : ∀ n ∈ signature, n ∈ fields.map (·.name) := by decide
      obtain ⟨f, hf, hfname⟩ := List.mem_map.mp (hfields name hsigned)
      exact hname f hf hfname
    rw [unsignedField, if_neg hunsigned]
  faults name v x := by
    unfold unsignedField
    split
    · exact Json.untold_eq_fault_iff
    · rfl
  fields := by
    simp only [Resource.fields, List.forall_mem_cons]
    refine ⟨?_, ?_, ?_, ?_, ?_, ?_, ?_, ?_, ?_, ?_, ?_, ?_, ?_, ?_, ?_, ?_, ?_, ?_, ?_, ?_, ?_, ?_⟩
    all_goals
      first
        | exact overlooks_signatureField (by decide) fun _ _ => rfl
        | exact overlooks_unsignedField (by decide) fun _ _ => rfl
        | exact fun f hf => absurd hf List.not_mem_nil

/-- **But for the signature, a resource is read as before.** -/
theorem overlooks_codec : codec.Overlooks anonymous unsigned := overlookedFields.overlooks_record {}

end Resource

/-! ## Sets of resources -/

namespace ResourceSet

/-- Resources that say nothing about their sources. -/
def anonymous (set : ResourceSet) : ResourceSet := ⟨set.resources.map Resource.anonymous⟩

/-- The resources of an answer without their signatures. -/
def unsignedField (name : String) (v : Json) : Json :=
  if name = "resources" then Codec.changeItems Resource.unsigned v else v

/-- **The JSON value of an answer to a search**, its resources without their signatures. -/
def unsigned : Json → Json := Codec.changeFields fields unsignedField

/-- **But for the signatures, an answer to a search has all its resources.** -/
theorem overlookedFields : Codec.OverlookedFields fields anonymous unsignedField where
  others name hname v := by
    rw [unsignedField, if_neg fun h => hname _ List.mem_cons_self h.symm]
  faults name v x := by
    unfold unsignedField
    split
    · exact Codec.changeItems_eq_iff fun _ => Json.noConfusion
    · rfl
  fields := by
    have hlist : (Codec.nullable (Codec.list Resource.codec)).Overlooks
        (List.map Resource.anonymous) (unsignedField "resources") :=
      Resource.overlooks_codec.list.nullable fun v =>
        Codec.changeItems_eq_iff fun _ => Json.noConfusion
    simp only [fields, List.forall_mem_cons]
    refine ⟨hlist.field fun a b s t hab _ => ?_, fun f hf => absurd hf List.not_mem_nil⟩
    exact congrArg ResourceSet.mk hab

/-- **But for the signatures, an answer to a search is read as before.** -/
theorem overlooks_codec : codec.Overlooks anonymous unsigned := overlookedFields.overlooks_record {}

end ResourceSet

end CatalogSearch
