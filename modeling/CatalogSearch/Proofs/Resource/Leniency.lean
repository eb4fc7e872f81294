import CatalogSearch.Proofs.Json.OneField
import CatalogSearch.Proofs.Json.Replaced
import CatalogSearch.Proofs.Resource.Unsigned
import CatalogSearch.Proofs.Vocabulary.Lawful

/-! # No lenient value costs a resource

Dates and terms of vocabularies are taken as they come. Whatever value stands for one of them, the
resource is read, with nothing changed but the field of this value, and so are all others in the
same answer.

* **`Json.spoken?`**, **`TermsOf`**: what a value says, and the terms that some values stand for;
* **`Resource.Takes`**: the values that may stand for a lenient field;
* **`Resource.WithField`**: a resource with such a field set to a value;
* **`Resource.independentFields`**: the fields of a resource do not interfere;
* **`ResourceSet.DifferAt`**: answers to a search that differ in one resource;
* **`decodes_with_lenient_field`**: resources, and answers to a search, with a lenient field set to
  any value. -/

namespace CatalogSearch

/-! ## Terms -/

/-- **The text that a value says**: none for null, a string itself, and any other value its text on
one line. -/
def Json.spoken? : Json → Option String
  | .null => none
  | .string s => some s
  | v => some (String.ofList v.freeText)

/-- **The terms that some values stand for**: those whose label is what a value says, in the order
of the values and as often as they come. A value that says no label stands for none. -/
inductive TermsOf {α : Type} [Vocabulary α] : List Json → List α → Prop where
  | nil : TermsOf [] []
  | term {v : Json} {t : α} {values : List Json} {ts : List α}
    (h : v.spoken? = some (Vocabulary.label t)) (rest : TermsOf values ts) :
    TermsOf (v :: values) (t :: ts)
  | noTerm {v : Json} {values : List Json} {ts : List α}
    (h : ∀ t : α, v.spoken? ≠ some (Vocabulary.label t)) (rest : TermsOf values ts) :
    TermsOf (v :: values) ts

section Terms

variable {α : Type} [Vocabulary α] [Vocabulary.Lawful α]

/-- The term of a value is that whose label it says. -/
theorem termOf?_eq_some_iff {v : Json} {t : α} :
    termOf? v = some t ↔ v.spoken? = some (Vocabulary.label t) := by
  have hspoken : (termOf? v : Option α) = v.spoken?.bind Vocabulary.ofLabel? := by
    cases v with
    | _ => rfl
  rw [hspoken, Option.bind_eq_some_iff]
  constructor
  · rintro ⟨s, hs, ht⟩
    rw [hs, Vocabulary.label_of_ofLabel? ht]
  · intro h
    exact ⟨_, h, Vocabulary.Lawful.ofLabel?_label t⟩

/-- **Values are read as the terms that they stand for.** -/
theorem termsOf_filterMap (values : List Json) :
    TermsOf values (values.filterMap termOf? : List α) := by
  induction values with
  | nil => exact .nil
  | cons v values ih =>
    cases ht : (termOf? v : Option α) with
    | none =>
      rw [List.filterMap_cons_none ht]
      refine .noTerm (fun t hspoken => ?_) ih
      rw [termOf?_eq_some_iff.mpr hspoken] at ht
      cases ht
    | some t =>
      rw [List.filterMap_cons_some ht]
      exact .term (termOf?_eq_some_iff.mp ht) ih

/-- One value is read as the term that it stands for, if it stands for one. -/
theorem termsOf_singleton (v : Json) : TermsOf [v] (termOf? v : Option α).toList := by
  have hterms := termsOf_filterMap (α := α) [v]
  cases ht : (termOf? v : Option α) with
  | none => rwa [List.filterMap_cons_none ht] at hterms
  | some t => rwa [List.filterMap_cons_some ht] at hterms

end Terms

/-! ## Lenient codecs -/

namespace Codec

variable {α : Type} {around : Nat}

/-- A codec that takes any value reads it. -/
theorem free_eq_ok {encode : α → Json} {read : Json → α} {v : Json} (h : v.isFree around = true) :
    (free encode read).decode around v = .ok (read v) := if_pos h

/-- **Lists of terms are read from any values.** -/
theorem terms_eq_ok [Vocabulary α] {values : List Json}
    (h : ∀ v ∈ values, v.isFree (around + 1) = true) :
    (terms : Codec (List α)).decode around (.array values) = .ok (values.filterMap termOf?) := by
  have hvalues : values.mapM ((free id id).decode (around + 1)) = .ok values := by
    rw [mapM_eq_ok_iff, List.forall₂_same]
    exact fun v hv => free_eq_ok (h v hv)
  show (values.mapM ((free id id).decode (around + 1))).map _ = _
  rw [hvalues]
  rfl

end Codec

namespace Resource

/-! ## Lenient fields -/

/-- **The values that may stand for a lenient field**, with some arrays and objects around them: for
a date or for one term, any value that is not nested too deep, and for a list of terms, any array of
such values. -/
inductive Takes (around : Nat) : String → Json → Prop where
  | value {name : String} {v : Json} (hname : name ∈ ["publishDate", "rating", "technicalFormat"])
    (hv : v.isFree around = true) : Takes around name v
  | array {name : String} {values : List Json}
    (hname : name ∈ ["subject", "learningResourceType", "schoolType"])
    (hvalues : ∀ v ∈ values, v.isFree (around + 1) = true) : Takes around name (.array values)

/-- **A resource with a lenient field set to a value**, and nothing else changed. -/
inductive WithField (r : Resource) : String → Json → Resource → Prop where
  | publishDate (v : Json) : WithField r "publishDate" v { r with publishDate := dateOf? v }
  | rating {v : Json} {t : Option Rating} (h : TermsOf [v] t.toList) :
    WithField r "rating" v { r with rating := t }
  | technicalFormat {v : Json} {t : Option MediaType} (h : TermsOf [v] t.toList) :
    WithField r "technicalFormat" v { r with technicalFormat := t }
  | subject {values : List Json} {ts : List Subject} (h : TermsOf values ts) :
    WithField r "subject" (.array values) { r with subject := ts }
  | learningResourceType {values : List Json} {ts : List LearningResourceType}
    (h : TermsOf values ts) :
    WithField r "learningResourceType" (.array values) { r with learningResourceType := ts }
  | schoolType {values : List Json} {ts : List SchoolType} (h : TermsOf values ts) :
    WithField r "schoolType" (.array values) { r with schoolType := ts }

variable {around : Nat} {name : String} {v : Json}

/-- A value that a lenient field takes is a value. -/
theorem Takes.ne_fault (h : Takes around name v) (x : Json.Fault) : v ≠ .fault x := by
  rintro rfl
  cases h with
  | value hname hv => cases hv

/-- **A lenient field is set by every value that it takes**, to what the value stands for. -/
theorem Takes.exists_set (h : Takes around name v) :
    ∃ f ∈ fields, f.name = name ∧
      ∃ u, f.decode around v = .ok u ∧ ∀ r, WithField r name v (u r) := by
  cases h with
  | value hname hv =>
    simp only [List.mem_cons, List.not_mem_nil, or_false] at hname
    rcases hname with rfl | rfl | rfl
    · refine ⟨_, List.mem_of_getElem? (i := 15) rfl, rfl, _,
        Codec.Field.decode_of (Codec.free_eq_ok hv), ?_⟩
      exact fun r => .publishDate v
    · refine ⟨_, List.mem_of_getElem? (i := 16) rfl, rfl, _,
        Codec.Field.decode_of (Codec.free_eq_ok hv), ?_⟩
      exact fun r => .rating (termsOf_singleton v)
    · refine ⟨_, List.mem_of_getElem? (i := 14) rfl, rfl, _,
        Codec.Field.decode_of (Codec.free_eq_ok hv), ?_⟩
      exact fun r => .technicalFormat (termsOf_singleton v)
  | @array values hname hvalues =>
    simp only [List.mem_cons, List.not_mem_nil, or_false] at hname
    rcases hname with rfl | rfl | rfl
    · refine ⟨_, List.mem_of_getElem? (i := 3) rfl, rfl, _,
        Codec.Field.decode_of (Codec.terms_eq_ok hvalues), ?_⟩
      exact fun r => .subject (termsOf_filterMap values)
    · refine ⟨_, List.mem_of_getElem? (i := 6) rfl, rfl, _,
        Codec.Field.decode_of (Codec.terms_eq_ok hvalues), ?_⟩
      exact fun r => .learningResourceType (termsOf_filterMap values)
    · refine ⟨_, List.mem_of_getElem? (i := 18) rfl, rfl, _,
        Codec.Field.decode_of (Codec.terms_eq_ok hvalues), ?_⟩
      exact fun r => .schoolType (termsOf_filterMap values)

/-- **The fields of a resource do not interfere.** -/
theorem independentFields : Codec.IndependentFields fields where
  names := by decide +kernel
  overwrites := by
    simp only [fields, List.forall_mem_cons]
    and_intros
    all_goals
      first
        | exact Codec.Field.overwrites_of fun _ _ _ => rfl
        | exact fun f hf => absurd hf List.not_mem_nil
  commutes := by
    simp only [fields, List.pairwise_cons, List.forall_mem_cons]
    and_intros
    all_goals
      first
        | exact Codec.Field.commutes_of fun _ _ _ => rfl
        | exact fun f hf => absurd hf List.not_mem_nil
        | exact List.Pairwise.nil

/-- **An object that is read as a resource still is with a lenient field set** to any value that it
takes, and nothing changes but this field. -/
theorem codec_object_put {members members' : List (String × Json)} {r : Resource}
    (hr : codec.decode around (.object members) = .ok r) (hv : Takes (around + 1) name v)
    (hputs : Json.Puts name v members members') :
    ∃ r', codec.decode around (.object members') = .ok r' ∧ WithField r name v r' := by
  obtain ⟨f, hf, rfl, u, hset, hu⟩ := hv.exists_set
  exact ⟨u r, Codec.record_object_put independentFields hf hset hv.ne_fault hputs hr, hu r⟩

end Resource

namespace ResourceSet

/-! ## Answers to a search -/

/-- **Answers to a search that differ in nothing but one resource**, that at place `i`. -/
inductive DifferAt (i : Nat) (v v' : Json) : Json → Json → Prop where
  | member (before after : List (String × Json)) (front back : List Json) (hi : front.length = i) :
    DifferAt i v v' (.object (before ++ ("resources", .array (front ++ v :: back)) :: after))
      (.object (before ++ ("resources", .array (front ++ v' :: back)) :: after))
  | item (front back : List Json) (hi : front.length = i) :
    DifferAt i v v' (.array [.array (front ++ v :: back)]) (.array [.array (front ++ v' :: back)])

/-- The only field of an answer does not interfere with any other. -/
theorem independentFields : Codec.IndependentFields fields where
  names := List.nodup_singleton _
  overwrites := List.forall_mem_singleton.mpr (Codec.Field.overwrites_of fun _ _ _ => rfl)
  commutes := List.pairwise_singleton _ _

/-- **An answer in which one resource is replaced** is read as the same answer with this resource
replaced. -/
theorem codec_differAt {around i : Nat} {v v' answer answer' : Json} {set : ResourceSet}
    (hdiffer : DifferAt i v v' answer answer') (h : codec.decode around answer = .ok set) :
    ∃ r, set.resources[i]? = some r ∧ Resource.codec.decode (around + 2) v = .ok r ∧
      ∀ r', Resource.codec.decode (around + 2) v' = .ok r' →
        codec.decode around answer' = .ok ⟨set.resources.set i r'⟩ := by
  -- An answer is an object with a member for its resources, or these alone in order.
  cases hdiffer with
  | member before after front back hi =>
    subst hi
    obtain ⟨u, hu, hset⟩ := Codec.record_object_member independentFields List.mem_cons_self
      (fun x => Json.noConfusion) h
    obtain ⟨resources, hresources, rfl⟩ := map_eq_ok_iff.mp hu
    obtain rfl : ⟨resources⟩ = set := hset
    obtain ⟨r, hr, hv, hreplaced⟩ := Codec.list_array_replaced hresources
    refine ⟨r, hr, hv, fun r' hr' => ?_⟩
    have hread : (Codec.nullable (Codec.list Resource.codec)).decode (around + 1)
        (.array (front ++ v' :: back)) = .ok (resources.set front.length r') :=
      hreplaced v' r' hr'
    exact Codec.record_object_put independentFields List.mem_cons_self
      (Codec.Field.decode_of hread) (fun x => Json.noConfusion) (.replaced before after _) h
  | item front back hi =>
    subst hi
    rcases Codec.record_one_array_eq_ok_iff.mp h with ⟨hnil, -⟩ | ⟨w, u, hw, hu, rfl⟩
    · cases hnil
    · obtain rfl := List.singleton_inj.mp hw
      obtain ⟨resources, hresources, rfl⟩ := map_eq_ok_iff.mp hu
      obtain ⟨r, hr, hv, hreplaced⟩ := Codec.list_array_replaced hresources
      refine ⟨r, hr, hv, fun r' hr' => Codec.record_one_array_eq_ok_iff.mpr (Or.inr ?_)⟩
      exact ⟨_, _, rfl, Codec.Field.decode_of (hreplaced v' r' hr'), rfl⟩

end ResourceSet

/-- **A lenient value never costs a resource.** Let an object be read as a resource, and set a date
or a single term in it to any value that is not nested too deep, or a list of terms to any array of
such values. It still is read, as the same resource with only this field changed: a list of terms
has the terms whose labels the values say, in their order and as often as they come. An answer to a
search that has this object among its resources is still read as well, with all its other
resources. -/
theorem decodes_with_lenient_field {name : String} {v : Json}
    {members members' : List (String × Json)}
    (hputs : Json.Puts name v members members') (around : Nat) :
    (∀ r, Resource.codec.decode around (.object members) = .ok r →
        Resource.Takes (around + 1) name v →
          ∃ r', Resource.codec.decode around (.object members') = .ok r' ∧ r.WithField name v r') ∧
      ∀ i answer answer' set,
        ResourceSet.DifferAt i (.object members) (.object members') answer answer' →
          ResourceSet.codec.decode around answer = .ok set → Resource.Takes (around + 3) name v →
            ∃ r r', set.resources[i]? = some r ∧ r.WithField name v r' ∧
              ResourceSet.codec.decode around answer' = .ok ⟨set.resources.set i r'⟩ ∧
              (set.resources.set i r').length = set.resources.length := by
  refine ⟨fun r hr hv => Resource.codec_object_put hr hv hputs, ?_⟩
  intro i answer answer' set hdiffer hanswer hv
  obtain ⟨r, hi, hr, hreplaced⟩ := ResourceSet.codec_differAt hdiffer hanswer
  obtain ⟨r', hr', hfield⟩ := Resource.codec_object_put hr hv hputs
  exact ⟨r, r', hi, hfield, hreplaced r' hr', List.length_set⟩

/-- A resource with a rating. -/
def ratedResource : Resource := { id := "a1", rating := some .five }

/-- Its members. -/
def ratedMembers : List (String × Json) := [("id", .string "a1"), ("rating", .string "5")]

/-- Values of which two say the label of a subject. -/
def mixedValues : List Json :=
  [.string "Physik", .null, .ofNat 4, .array [.string "Chemie"], .string "physik", .string "Physik"]

/-- The members with these values for subjects. -/
def mixedMembers : List (String × Json) := ratedMembers ++ [("subject", .array mixedValues)]

/-- An answer to a search with a resource of these members, and another one. -/
def answerWith (members : List (String × Json)) : Json :=
  .object [("resources", .array [.object [("id", .string "a0")], .object members])]

/-- The two subjects are found, and both resources are kept. -/
theorem decodes_with_lenient_field_mixed :
    Json.Puts "subject" (.array mixedValues) ratedMembers mixedMembers ∧
      Resource.codec.decode 0 (.object mixedMembers) =
        .ok { ratedResource with subject := [.physik, .physik] } ∧
      ratedResource.WithField "subject" (.array mixedValues)
        { ratedResource with subject := [.physik, .physik] } ∧
      ResourceSet.codec.decode 0 (answerWith ratedMembers) =
        .ok ⟨[{ id := "a0" }, ratedResource]⟩ ∧
      ∃ r, ResourceSet.codec.decode 0 (answerWith mixedMembers) = .ok ⟨[{ id := "a0" }, r]⟩ := by
  have hputs : Json.Puts "subject" (.array mixedValues) ratedMembers mixedMembers :=
    .added ratedMembers [] (by decide)
  have htakes (around : Nat) (haround : around ≤ 3) :
      Resource.Takes around "subject" (.array mixedValues) := by
    have hvalues : ∀ around ≤ 3, ∀ v ∈ mixedValues, v.isFree (around + 1) = true := by
      decide +kernel
    exact .array (by decide) (hvalues around haround)
  obtain ⟨hresource, hanswer⟩ := decodes_with_lenient_field hputs 0
  have hmixed : Resource.codec.decode 0 (.object mixedMembers) =
      .ok { ratedResource with subject := [.physik, .physik] } := by
    rfl
  have hset : ResourceSet.codec.decode 0 (answerWith ratedMembers) =
      .ok ⟨[{ id := "a0" }, ratedResource]⟩ := by
    rfl
  obtain ⟨r, hr, hfield⟩ := hresource ratedResource rfl (htakes 1 (by decide))
  obtain rfl := Except.ok.inj (hr.symm.trans hmixed)
  obtain ⟨-, r, -, -, hr, -⟩ := hanswer 1 _ _ _
    (.member [] [] [.object [("id", .string "a0")]] [] rfl) hset (htakes 3 (by decide))
  exact ⟨hputs, hmixed, hfield, hset, r, hr⟩

end CatalogSearch
