import CatalogSearch.Proofs.Federation.Provenance
import CatalogSearch.Proofs.Filter.Keyed
import CatalogSearch.Proofs.Gateway.Parameters
import CatalogSearch.Proofs.Merge.Pages
import CatalogSearch.Proofs.Resource.AgeRange

/-! # The age that is asked for, and the ages that are shown

Callers ask for a year at school, and items show years at school. Sources give ages in years of
life, so what they answer is converted; what they are asked for is not. A source that is sent a year
and answers with items of just this age is therefore shown with items for younger ones: its items
show the year less the age at which school starts.

* **`Url.sentValue?`**: what a search sends for a key of its filter;
* **`Gateway.EchoesAges`**: sources whose items have the age that was sent;
* **`ResultPage.ShowsAge`**: pages whose items show an age;
* **`Federation.echoedAges_shown`**: what items show if sources echo the age;
* **`Federation.not_showsAge_fiveYearsOld`**: this is not the year that was asked for. -/

namespace CatalogSearch

/-! ## Years -/

namespace StudyYear

/-- **The number of a year at school.** Years are listed from the first one on. -/
def number (y : StudyYear) : Nat := terms.idxOf y + 1

/-- The label of a year is its number. -/
theorem label_eq (y : StudyYear) :
    Vocabulary.label y = String.ofList (Text.natDigits y.number) := by
  have hall : ∀ y ∈ terms, Vocabulary.label y = String.ofList (Text.natDigits y.number) := by
    decide +kernel
  exact hall y (mem_terms y)

/-- A year can be converted, as any age can. -/
theorem number_le_maxAge (y : StudyYear) : y.number ≤ maxAge := by
  have hlast := List.idxOf_lt_length_of_mem (mem_terms y)
  have hlength : terms.length ≤ maxAge := by decide
  rw [number]
  omega

/-- **A year that is taken for an age shows another year.** -/
theorem schoolYears_number_ne (y : StudyYear) :
    schoolYears (Text.natDigits y.number) ≠ Text.natDigits y.number := by
  intro h
  have hage := (schoolYears_natDigits_eq_iff y.number_le_maxAge (Nat.succ_pos _)).mp h
  exact absurd hage (Nat.ne_of_lt (Nat.lt_add_of_pos_right (by decide)))

end StudyYear

/-! ## What is sent -/

/-- **The value that a URL sends for a key of its filter**, if it has a filter with such a key. -/
def Url.sentValue? (u : Url) (key : String) : Option String := do
  let filters ← u.parameter? "filters"
  let clauses ← (Clause.parseEncoded filters).toOption
  Clause.value? key clauses

/-- **A search sends the values of its request**, the first one where there are several. -/
theorem Source.sentValue_of_searchUrl {f : FilterField} {st : Gateway.Settings}
    {page : PageRequest} {s : Source} {r : SearchRequest} {u : Url} (hf : f ∈ FilterField.all)
    (h : s.searchUrl st page r = .ok u) :
    u.sentValue? f.key = (f.values s.dialect r).head? := by
  obtain ⟨filters, hfilters, hparams⟩ := parameters_of_searchUrl h
  obtain ⟨text, htext, rfl⟩ := map_eq_ok_iff.mp hfilters
  obtain ⟨clauses, hparse, hvalue⟩ := SearchRequest.parse_filter_value? hf htext
  have hsent : u.parameter? "filters" = some (Text.percentEncode Text.isUnreserved text) := by
    rw [Url.parameter?, hparams]
    rfl
  rw [Url.sentValue?, hsent, Option.bind_eq_bind, Option.bind_some,
    Clause.parseEncoded_percentEncode, hparse]
  exact hvalue

/-- A search for a year sends the label of the year. -/
theorem Source.sentAge_of_searchUrl {st : Gateway.Settings} {page : PageRequest} {s : Source}
    {r : SearchRequest} {u : Url} (h : s.searchUrl st page r = .ok u) :
    u.sentValue? "typicalAgeRange" = r.typicalAgeRange.map Vocabulary.label := by
  have hfield : FilterField.term "typicalAgeRange" (·.typicalAgeRange) ∈ FilterField.all :=
    List.mem_of_getElem? (i := 7) rfl
  have hsent := sentValue_of_searchUrl hfield h
  rwa [FilterField.term, FilterField.values_one, Option.head?_toList] at hsent

/-! ## What is answered -/

namespace Gateway

variable {g : Gateway} {page : PageRequest} {cancel : Cancellation}
  {queries : List (Source × SearchRequest)}

/-- **Sources that echo the age they are sent**: what they answer to some queries is items whose age
range is the value that was sent for it. -/
def EchoesAges (g : Gateway) (page : PageRequest) (cancel : Cancellation)
    (queries : List (Source × SearchRequest)) : Prop :=
  ∀ q ∈ queries, ∀ c, g.searchCall page q = .ok c → ∀ a, g.Answers cancel c a →
    ∀ r ∈ a.resources, r.typicalAgeRange = c.url.sentValue? "typicalAgeRange"

instance (g : Gateway) (page : PageRequest) (cancel : Cancellation)
    (queries : List (Source × SearchRequest)) : Decidable (g.EchoesAges page cancel queries) :=
  decidable_of_iff
    (∀ q ∈ queries, ∀ c, g.searchCall page q = .ok c → g.inTime cancel c = true →
      ∀ a, (g.response c).bind (readAnswer c) = .ok a →
        ∀ r ∈ a.resources, r.typicalAgeRange = c.url.sentValue? "typicalAgeRange") <| by
    simp only [EchoesAges, Answers, and_imp, forall_comm (α := _ = true)]

/-- **The year that the items of such sources show**, if all queries are for the same one. -/
theorem EchoesAges.showsAge {asked : List Url} {items : List Resource} {y : StudyYear}
    (h : g.EchoesAges page cancel queries)
    (hyear : ∀ q ∈ queries, q.2.typicalAgeRange = some y)
    (hitems : g.Accounts page cancel asked queries items) :
    ∀ item ∈ items,
      item.typicalAgeRange = some (String.ofList (schoolYears (Text.natDigits y.number))) := by
  intro item hitem
  -- Every item is the stamped resource of an answer to a query, and the query was for the year.
  obtain ⟨origins, -, hsent⟩ := hitems
  obtain ⟨i, hi, rfl⟩ := List.getElem_of_mem hitem
  obtain ⟨q, r, hq, ⟨c, a, hcall, -, hanswers, hr⟩, hstamp⟩ := hsent.get hi (hsent.length_eq ▸ hi)
  have hmem := List.mem_of_getElem? hq
  have hage := h q hmem c hcall a hanswers r (List.mem_of_getElem? hr)
  rw [Source.sentAge_of_searchUrl (searchCall_eq_ok hcall).2, hyear q hmem, Option.map_some,
    StudyYear.label_eq] at hage
  rw [List.get_eq_getElem] at hstamp
  rw [hstamp, Resource.stamp, hage, Option.map_some, String.toList_ofList]

end Gateway

/-! ## What is shown -/

/-- **A page that shows an age**: all its items have it. -/
def ResultPage.ShowsAge (p : ResultPage) (age : String) : Prop :=
  ∀ item ∈ p.items, item.typicalAgeRange = some age

/-- **A page that shows another year than the one asked for**: the number of the year less the age
at which school starts, or zero. It shows the year asked for only if it has no items. -/
structure ResultPage.MissesYear (p : ResultPage) (y : StudyYear) : Prop where
  shows : p.ShowsAge (String.ofList (Text.natDigits (y.number - schoolAge)))
  shows_iff : p.ShowsAge (Vocabulary.label y) ↔ p.items = []

/-- Items that show a year taken for an age miss the year. -/
theorem ResultPage.missesYear_of_forall {p : ResultPage} {y : StudyYear}
    (h : p.ShowsAge (String.ofList (schoolYears (Text.natDigits y.number)))) : p.MissesYear y := by
  refine ⟨schoolYears_natDigits y.number_le_maxAge ▸ h, fun hyear => ?_, fun hitems => ?_⟩
  · refine List.eq_nil_iff_forall_not_mem.mpr fun item hitem => y.schoolYears_number_ne ?_
    have hsame := Option.some.inj ((h item hitem).symm.trans (hyear item hitem))
    rwa [StudyYear.label_eq, String.ofList_inj] at hsame
  · rw [ShowsAge, hitems]
    exact List.forall_mem_nil _

namespace Federation

variable {f : Federation} {r : SearchRequest} {y : StudyYear}

/-- **Sources that echo the age they are sent are shown with another one.** Let a request be for a
year at school, and let the sources it goes to answer only with items whose age range is the value
that they were sent, which is this year. Then all items on the page, of a search or of a search for
known items, show the year less the age at which school starts; none of them shows the year that was
asked for. -/
theorem echoedAges_shown (f : Federation) (cancel : Cancellation)
    (hyear : r.typicalAgeRange = some y) :
    (∀ page p, f.gateway.EchoesAges page cancel (f.searchQueries r) →
        (f.search r page cancel).result = .ok p → p.MissesYear y) ∧
      ∀ keys page order p,
        f.gateway.EchoesAges { page with number := 0 } cancel (f.idQueries keys r) →
          (f.searchByIds keys r page order cancel).result = .ok p → p.MissesYear y := by
  constructor
  · intro page p hechoes hp
    have hqueries : ∀ q ∈ f.searchQueries r, q.2.typicalAgeRange = some y := by
      intro q hq
      obtain ⟨s, -, rfl⟩ := List.mem_map.mp hq
      exact hyear
    exact ResultPage.missesYear_of_forall (hechoes.showsAge hqueries (accounts_search hp))
  · intro keys page order p hechoes hp
    have hqueries : ∀ q ∈ f.idQueries keys r, q.2.typicalAgeRange = some y := by
      intro q hq
      obtain ⟨k, -, -, hq'⟩ := mem_idQueries.mp hq
      rw [hq']
      exact hyear
    exact ResultPage.missesYear_of_forall (hechoes.showsAge hqueries (accounts_searchByIds hp))

/-- A request for the fifth year. -/
def fifthYear : SearchRequest := { typicalAgeRange := some .year5 }

/-- A source with one item, for the age of five. -/
def fiveYearsOld : Federation :=
  .ofHosts ["a"]
    (.ofRoutes
      [ .ofHost "a"
          "\x7b\"resources\":[\x7b\"id\":\"a1\",\"typicalAgeRange\":\"5\"\x7d]\x7d" .answers ])

/-- This source has the age that it is sent. -/
theorem echoesAges_fiveYearsOld :
    fiveYearsOld.gateway.EchoesAges {} none (fiveYearsOld.searchQueries fifthYear) := by
  decide +kernel

/-- The item is shown for year zero, in a search and in a search for this item. -/
theorem echoedAges_shown_fiveYearsOld :
    fiveYearsOld.gateway.EchoesAges {} none (fiveYearsOld.searchQueries fifthYear) ∧
      (∃ p, (fiveYearsOld.search fifthYear {} none).result = .ok p ∧ p.ShowsAge "0") ∧
      fiveYearsOld.gateway.EchoesAges {} none (fiveYearsOld.idQueries [⟨"a", "a1"⟩] fifthYear) ∧
      ∃ p, (fiveYearsOld.searchByIds [⟨"a", "a1"⟩] fifthYear {} .external none).result = .ok p ∧
        p.ShowsAge "0" := by
  have hzero : String.ofList (Text.natDigits (StudyYear.year5.number - schoolAge)) = "0" := by
    decide +kernel
  have hsearch := echoesAges_fiveYearsOld
  have hknown : fiveYearsOld.gateway.EchoesAges {} none
      (fiveYearsOld.idQueries [⟨"a", "a1"⟩] fifthYear) := by
    decide +kernel
  obtain ⟨p, hp⟩ : ∃ p, (fiveYearsOld.search fifthYear {} none).result = .ok p := by
    decide +kernel
  obtain ⟨p', hp'⟩ : ∃ p,
      (fiveYearsOld.searchByIds [⟨"a", "a1"⟩] fifthYear {} .external none).result = .ok p := by
    decide +kernel
  have hshown := fiveYearsOld.echoedAges_shown none (r := fifthYear) (y := .year5) rfl
  refine ⟨hsearch, ⟨p, hp, ?_⟩, hknown, p', hp', ?_⟩
  · rw [← hzero]
    exact (hshown.1 {} p hsearch hp).shows
  · rw [← hzero]
    exact (hshown.2 [⟨"a", "a1"⟩] {} .external p' hknown hp').shows

/-- **An item of the age that was sent does not show the year that was asked for.** -/
theorem not_showsAge_fiveYearsOld :
    fiveYearsOld.gateway.EchoesAges {} none (fiveYearsOld.searchQueries fifthYear) ∧
      ∃ p, (fiveYearsOld.search fifthYear {} none).result = .ok p ∧ p.items.length = 1 ∧
        ¬ p.ShowsAge (Vocabulary.label StudyYear.year5) := by
  have hechoes := echoesAges_fiveYearsOld
  have hprepared : fiveYearsOld.gateway.Prepared {} (fiveYearsOld.searchQueries fifthYear) := by
    decide +kernel
  have hp := result_search (by decide) hprepared none
  have hcount : (((fiveYearsOld.searchQueries fifthYear).map
      (fiveYearsOld.gateway.outcome {} none)).flatMap (·.items)).length = 1 := by
    decide +kernel
  have hlength : (merge ((fiveYearsOld.searchQueries fifthYear).map
      (fiveYearsOld.gateway.outcome {} none)) {} .external).items.length = 1 := by
    rw [length_items_merge_external, hcount]
    rfl
  refine ⟨hechoes, _, hp, hlength, fun hyear => ?_⟩
  -- If the item showed the year, there would be no item.
  have hmisses := ResultPage.missesYear_of_forall
    (hechoes.showsAge (y := .year5) (by decide) (accounts_search hp))
  rw [hmisses.shows_iff.mp hyear] at hlength
  cases hlength

end Federation

end CatalogSearch
