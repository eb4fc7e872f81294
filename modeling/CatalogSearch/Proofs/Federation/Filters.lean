import CatalogSearch.Proofs.Federation.Outcome
import CatalogSearch.Proofs.Gateway.SubjectList
import CatalogSearch.Proofs.Vocabulary.Lawful

/-! # What there is to choose from

The catalog of filters offers a subject if some active source reports it. Nothing else counts: not
the order of the sources, not how often a name is reported, and not the names that are no subjects.

* **`Federation.Reported`**: subjects that active sources report;
* **`Federation.Offers`**: a catalog of these subjects;
* **`SubjectGroup.map_restrict_congr`**, **`SubjectGroup.nodup_restrict`**: groups with some of
  their subjects;
* **`Federation.filters_offer_reported`**: what is offered is what is reported. -/

namespace CatalogSearch

/-! ## Groups -/

namespace SubjectGroup

/-- Every subject is listed once. -/
theorem nodup_all : (all.flatMap (·.members)).Nodup := by decide +kernel

/-- What holds of every group and its restriction holds of all of them, one by one. -/
theorem forall₂_map_restrict {R : SubjectGroup → SubjectGroup → Prop} {names : List String}
    (h : ∀ g, R (restrict names g) g) : List.Forall₂ R (all.map (restrict names)) all := by
  rw [List.forall₂_map_left_iff, List.forall₂_same]
  exact fun g _ => h g

/-- **No subject is listed twice** among some of them. -/
theorem nodup_restrict (names : List String) :
    ((all.map (restrict names)).flatMap (·.members)).Nodup := by
  have hfilter : (all.map (restrict names)).flatMap (·.members) =
      (all.flatMap (·.members)).filter fun t => Vocabulary.label t ∈ names := by
    rw [List.filter_flatMap, List.flatMap_map]
    rfl
  rw [hfilter]
  exact nodup_all.filter _

/-- **Only known names count**, and only whether they are there. -/
theorem map_restrict_congr {names names' : List String}
    (h : ∀ t : Subject, Vocabulary.label t ∈ names ↔ Vocabulary.label t ∈ names') :
    all.map (restrict names) = all.map (restrict names') := by
  refine List.map_congr_left fun g _ => ?_
  rw [restrict, restrict]
  simp only [h]

end SubjectGroup

namespace Federation

/-! ## Reported subjects -/

/-- **A subject that some active source reports**, by its label. -/
def Reported (f : Federation) (t : Subject) : Prop :=
  ∃ s ∈ f.registry.active, f.gateway.Reports s (Vocabulary.label t)

/-- **All active sources can be asked for their subjects.** -/
def Askable (f : Federation) : Prop :=
  ∀ s ∈ f.registry.active, ∃ url, s.subjectsUrl f.gateway.settings = .ok url

instance (f : Federation) : Decidable f.Askable := by
  unfold Askable
  infer_instance

/-- **What a catalog should offer**: all groups, each with those of its subjects that are reported,
and all active sources. -/
structure Offers (f : Federation) (c : FilterCatalog) : Prop where
  /-- All groups are there, and each has its subjects in their order. -/
  groups : List.Forall₂ (fun g full => g.name = full.name ∧ g.members.Sublist full.members)
    c.subjects SubjectGroup.all
  /-- A subject stands in its group if it is reported. -/
  members : List.Forall₂
    (fun g full => ∀ t : Subject, t ∈ g.members ↔ t ∈ full.members ∧ f.Reported t)
    c.subjects SubjectGroup.all
  /-- No subject is listed twice. -/
  nodup : (c.subjects.flatMap (·.members)).Nodup
  /-- All active sources are there, whether they answer or not. -/
  publishers : c.publishers = f.registry.active.map fun s => (s.id, s.displayName)

variable {f : Federation}

/-- A catalog of the names that are reported offers what it should. -/
theorem offers_build {names : List String}
    (h : ∀ t : Subject, Vocabulary.label t ∈ names ↔ f.Reported t) :
    f.Offers (.build names f.registry.active) where
  groups := SubjectGroup.forall₂_map_restrict fun _ => ⟨rfl, List.filter_sublist⟩
  members := by
    refine SubjectGroup.forall₂_map_restrict fun g t => ?_
    rw [SubjectGroup.restrict, List.mem_filter, decide_eq_true_eq, h]
  nodup := SubjectGroup.nodup_restrict names
  publishers := rfl

/-- **Sources that can be asked make a catalog** of the names that they report. -/
theorem exists_filters (h : f.Askable) :
    ∃ names, (f.filters none).result = .ok (.build names f.registry.active) ∧
      ∀ t : Subject, Vocabulary.label t ∈ names ↔ f.Reported t := by
  obtain ⟨names, hnames, hreports⟩ := Gateway.exists_subjects h
  refine ⟨names, ?_, fun t => hreports _ (Vocabulary.Lawful.blank_label t)⟩
  rw [filters, Run.result_bind_pure, hnames]
  rfl

/-- **The catalog offers what sources report.** If all active sources can be asked and nobody
cancels, there is a catalog. It has all groups of subjects in their order, each with those of its
subjects that some active source reports; no subject twice; and all active sources in their order.
Its subjects are the same wherever the same subjects are reported: for the same sources in another
order, and whatever else they report. A list of subjects alone and one under `subjects` come to the
same. -/
theorem filters_offer_reported (f : Federation) (h : f.Askable) :
    ∃ c, (f.filters none).result = .ok c ∧ f.Offers c ∧
      (∀ f' : Federation, f'.Askable → (∀ t, f'.Reported t ↔ f.Reported t) →
        ∃ c', (f'.filters none).result = .ok c' ∧ c'.subjects = c.subjects) ∧
      (∀ f' : Federation, f'.gateway = f.gateway → f'.registry.active.Perm f.registry.active →
        ∃ c', (f'.filters none).result = .ok c' ∧ c'.subjects = c.subjects) ∧
      ∀ members items, (Json.object members).isFree 0 = true →
        Json.OnlyMember members "subjects" (.array items) → ∀ trailing name,
          SubjectList.Offers ⟨.object members, trailing⟩ name ↔
            SubjectList.Offers ⟨.array items, trailing⟩ name := by
  obtain ⟨names, hresult, hnames⟩ := exists_filters h
  have hsame : ∀ f' : Federation, f'.Askable → (∀ t, f'.Reported t ↔ f.Reported t) →
      ∃ c', (f'.filters none).result = .ok c' ∧
        c'.subjects = (FilterCatalog.build names f.registry.active).subjects := by
    intro f' h' hreported
    obtain ⟨names', hresult', hnames'⟩ := exists_filters h'
    refine ⟨_, hresult', SubjectGroup.map_restrict_congr fun t => ?_⟩
    rw [hnames', hreported, hnames]
  refine ⟨_, hresult, offers_build hnames, hsame, ?_, fun _ _ hfree honly _ _ =>
    SubjectList.offers_wrapped_iff hfree honly⟩
  intro f' hgateway hperm
  refine hsame f' ?_ ?_
  · intro s hs
    rw [hgateway]
    exact h s (hperm.mem_iff.mp hs)
  · intro t
    unfold Reported
    rw [hgateway]
    exact exists_congr fun s => and_congr_left fun _ => hperm.mem_iff

/-- Sources at some hosts. The first of three answers with a list of subjects, the second with one
under `subjects`, and the third breaks off. -/
def subjectHosts (hosts : List String) : Federation :=
  .ofHosts hosts (.ofRoutes
    [ { url := "http://a/subjects"
        response := { status := ⟨200⟩, body := some (Text.Utf8.encode
          "[\x7b\"name\":\"Mathematik\"\x7d,\x7b\"name\":null\x7d,\x7b\x7d]".toList) } },
      { url := "http://b/subjects"
        response := { status := ⟨203⟩, body := some (Text.Utf8.encode
          "\x7b\"subjects\":[[\"Musik\"],[\"Mathematik\"],[\"Astronomie\"]]\x7d".toList) } },
      { url := "http://c/subjects"
        response := { status := ⟨200⟩, body := some (Text.Utf8.encode "[[\"Sport\"]]".toList) }
        manner := .truncates } ])

/-- The catalog has two subjects, in whatever order the sources are registered, and has room for
the third source. -/
theorem filters_offer_reported_subjectHosts :
    (subjectHosts ["a", "b", "c"]).Askable ∧
      ∃ c, ((subjectHosts ["a", "b", "c"]).filters none).result = .ok c ∧
        (subjectHosts ["a", "b", "c"]).Offers c ∧
        c.subjects.map (·.members) = [[], [.mathematik], [], [.musik], [], [], []] ∧
        c.publishers = [("a", "a"), ("b", "b"), ("c", "c")] ∧
        ∃ c', ((subjectHosts ["c", "b", "a"]).filters none).result = .ok c' ∧
          c'.subjects = c.subjects := by
  have hurls : (subjectHosts ["a", "b", "c"]).Askable := by decide +kernel
  obtain ⟨c, hc, hoffers, -, horder, -⟩ := filters_offer_reported _ hurls
  obtain ⟨c', hc', hsame⟩ := horder (subjectHosts ["c", "b", "a"]) rfl (by decide +kernel)
  have hsubjects : ∃ c, ((subjectHosts ["a", "b", "c"]).filters none).result = .ok c ∧
      c.subjects.map (·.members) = [[], [.mathematik], [], [.musik], [], [], []] := by
    decide +kernel
  obtain ⟨_, hc₂, hmembers⟩ := hsubjects
  cases hc.symm.trans hc₂
  exact ⟨hurls, c, hc, hoffers, hmembers, hoffers.publishers, c', hc', hsame⟩

end Federation

end CatalogSearch
