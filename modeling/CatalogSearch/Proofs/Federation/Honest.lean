import CatalogSearch.Proofs.Federation.Outcome
import CatalogSearch.Proofs.Gateway.Parameters
import CatalogSearch.Proofs.Merge.Window

/-! # Honest sources

An honest source has a catalog and answers as it is asked: with the first items of the catalog, in
the order that the URL asks for.

* **`Url.Sorts`**, **`Url.limit?`**: the order and the number of items that a URL asks for;
* **`Gateway.Serves`**: an honest answer;
* **`Federation.Honest`**: sources that answer honestly for every page of a search;
* **`Federation.result_search_of_honest`**: what their pages are cut out of;
* **`Federation.honest_serving`**: hosts that serve a catalog are honest. -/

namespace CatalogSearch

/-! ## The order that a URL asks for -/

/-- The order of values in a direction. -/
def inDirection {α : Type} (direction : List Char) (cmp : α → α → Ordering) (a b : α) : Ordering :=
  if direction = "desc".toList then cmp b a else cmp a b

namespace Resource

/-- The name of a resource, if it has one: where a source leaves it out, the empty name is read. -/
def name? (r : Resource) : Option String := if r.name = "" then none else some r.name

/-- **The order by a property in a direction**, missing values last. -/
def compareBy (property direction : List Char) (a b : Resource) : Ordering :=
  if property = "name".toList then missingLast (inDirection direction Text.compare) a.name? b.name?
  else if property = "relevance".toList then
    missingLast (inDirection direction Single.compare) a.relevance b.relevance
  else if property = "publishDate".toList then
    missingLast (inDirection direction Date.compare) a.publishDate b.publishDate
  else .eq

end Resource

/-- **A catalog in the order that a URL asks for**; any order does if it asks for none. -/
def Url.Sorts (u : Url) (catalog : List Resource) : Prop :=
  ∀ property ∈ u.parameter? "sort", ∀ direction ∈ u.parameter? "orderBy",
    catalog.Pairwise fun a b => (Resource.compareBy property direction a b).isLE

/-- The number of items that a URL asks for. -/
def Url.limit? (u : Url) : Option Nat := (u.parameter? "limit").bind Text.readNat?

/-- **An honest answer**: the first items of a catalog in the order that the URL asks for, as many
as it asks for. -/
structure Gateway.Serves (g : Gateway) (cancel : Cancellation) (catalog : List Resource)
    (c : Call) : Prop where
  sorted : c.url.Sorts catalog
  answers : ∃ limit a, c.url.limit? = some limit ∧ g.Answers cancel c a ∧
    a.resources = catalog.take limit

namespace Federation

variable {f : Federation} {r : SearchRequest} {size : UInt32} {sort : Option SortKey}
  {cancel : Cancellation} {catalog : Source → List Resource}

/-- **Sources that answer honestly** for every page of a search, each from its catalog. A catalog is
made of resources as they are read, and in order by what is read of them: a date that cannot be read
counts as missing there, and so does an empty name. -/
def Honest (f : Federation) (r : SearchRequest) (size : UInt32) (sort : Option SortKey)
    (cancel : Cancellation) (catalog : Source → List Resource) : Prop :=
  ∀ (number : UInt32), ∀ s ∈ f.selected r,
    ∃ c, f.gateway.searchCall ⟨number, size, sort⟩ (s, r) = .ok c ∧
      f.gateway.Serves cancel (catalog s) c

/-- The result of a whole catalog. -/
def catalogResult (catalog : Source → List Resource) (s : Source) : SourceResult :=
  .ofAnswer s { resources := catalog s }

/-- An honest source is asked for its items up to the end of the page, and brings these. -/
theorem items_outcome_of_serves {g : Gateway} {page : PageRequest} {s : Source} {c : Gateway.Call}
    (hcall : g.searchCall page (s, r) = .ok c) (h : g.Serves cancel (catalog s) c) :
    (g.outcome page cancel (s, r)).items =
      ((catalogResult catalog s).truncate page.reach).items := by
  obtain ⟨limit, a, hlimit, hanswers, hitems⟩ := h.answers
  rw [Url.limit?, Source.limit_of_searchUrl (Gateway.searchCall_eq_ok hcall).2, Option.bind_some,
    Text.readNat?_natDigits] at hlimit
  obtain rfl := Option.some.inj hlimit
  rw [Gateway.outcome, hcall]
  show (SourceResult.ofAnswer s (g.yielded cancel Gateway.readAnswer c)).items = _
  rw [Gateway.yielded_of_answers hanswers, SourceResult.items_truncate]
  show a.resources.map (Resource.stamp s) = ((catalog s).map (Resource.stamp s)).take page.reach
  rw [hitems, List.map_take]

/-- **The first items of all catalogs**, merged into one order. -/
def mergedCatalogs (f : Federation) (r : SearchRequest) (catalog : Source → List Resource)
    (sort : Option SortKey) (n : Nat) : List Resource :=
  mergedItems (((f.selected r).map (catalogResult catalog)).map (·.truncate n)) sort .external

/-- **The pages of honest sources** are cut out of the merged items up to the end of the page. -/
theorem result_search_of_honest (hsize : size ≠ 0) (h : f.Honest r size sort cancel catalog)
    (number : UInt32) :
    ∃ p, (f.search r ⟨number, size, sort⟩ cancel).result = .ok p ∧
      p.items = ((f.mergedCatalogs r catalog sort ((number.toNat + 1) * size.toNat)).drop
        (number.toNat * size.toNat)).take size.toNat := by
  have hpage : PageRequest.HasItems ⟨number, size, sort⟩ := hsize
  have hprepared : f.gateway.Prepared ⟨number, size, sort⟩ (f.searchQueries r) := by
    intro q hq
    obtain ⟨s, hs, rfl⟩ := List.mem_map.mp hq
    obtain ⟨c, hcall, -⟩ := h number s hs
    exact ⟨c, hcall⟩
  refine ⟨_, result_search hpage hprepared cancel, ?_⟩
  have hitems : ((f.searchQueries r).map
        (f.gateway.outcome ⟨number, size, sort⟩ cancel)).flatMap (·.items) =
      (((f.selected r).map (catalogResult catalog)).map
        (·.truncate ((number.toNat + 1) * size.toNat))).flatMap (·.items) := by
    rw [searchQueries, List.map_map, List.map_map, List.flatMap_map, List.flatMap_map]
    refine List.flatMap_congr fun s hs => ?_
    obtain ⟨c, hcall, hserves⟩ := h number s hs
    exact items_outcome_of_serves hcall hserves
  unfold merge mergedCatalogs mergedItems
  rw [hitems]
  rfl

end Federation

/-! ## A network that serves a catalog -/

/-- A set of resources as JSON, from JSON for each of them. -/
def ResourceSet.textOf (items : List String) : List Char :=
  "\x7b\"resources\":[".toList ++ Text.joinWith [','] (items.map (·.toList)) ++ "]\x7d".toList

/-- **A network that serves a catalog** wherever it is asked, as far as it is asked. -/
def Network.serving (items : List String) : Network := fun u =>
  .answered 0
    { status := ⟨200⟩
      body := some (Text.Utf8.encode (ResourceSet.textOf (items.take (u.limit?.getD 0)))) }

/-- Texts can be read as far as any of them are taken, if they can as far as they go. -/
theorem ResourceSet.readText_textOf {items : List String} {catalog : List Resource}
    (hlength : items.length = catalog.length)
    (h : ∀ n ≤ items.length, codec.readText (textOf (items.take n)) = .ok ⟨catalog.take n⟩)
    (n : Nat) : codec.readText (textOf (items.take n)) = .ok ⟨catalog.take n⟩ := by
  by_cases hn : n ≤ items.length
  · exact h n hn
  · have hitems : items.length ≤ n := Nat.le_of_not_le hn
    have hwhole := h items.length (Nat.le_refl _)
    rw [List.take_length, hlength, List.take_length] at hwhole
    rw [List.take_of_length_le hitems, List.take_of_length_le (hlength ▸ hitems), hwhole]

/-- What such a network answers can be read if its texts can. -/
theorem Network.answers_serving {items : List String} {catalog : List Resource} {c : Gateway.Call}
    {n : Nat} (hread : ResourceSet.codec.readText (ResourceSet.textOf (items.take n)) =
      .ok ⟨catalog.take n⟩)
    (hurl : c.url.isReachable = true) (hlimit : c.url.limit? = some n) :
    ∃ a, Gateway.Answers ⟨{}, serving items⟩ none c a ∧ a.resources = catalog.take n := by
  -- Servers get to see the query as it is.
  have hseen : c.url.requested.limit? = some n := hlimit
  have hreply : serving items c.url.requested =
      .answered 0
        { status := ⟨200⟩
          body := some (Text.Utf8.encode (ResourceSet.textOf (items.take n))) } := by
    rw [serving, hseen]
    rfl
  refine ⟨_, ⟨rfl, Gateway.response_bind_eq_ok_iff.mpr ⟨hurl, 0, _, hreply, Nat.zero_le _,
    Gateway.readAnswer_eq_ok_iff.mpr
      ⟨rfl, _, _, rfl, (Codec.readBytes_encode _ _).trans hread, rfl⟩⟩⟩, rfl⟩

/-- The query of a search is not much longer than its filter. -/
theorem Source.length_searchQuery_le (filter : List Char) (page : PageRequest) :
    (searchQuery filter page).length ≤ filter.length + 100 := by
  have hlimit : (Text.natDigits page.reach).length ≤ 20 :=
    (Nat.length_toDigits_le_iff (by decide) (by decide)).mpr
      (Nat.lt_trans page.reach_lt_size (by decide))
  have hsort : (sortParameters page.sort).length ≤ 30 := by
    cases page.sort with
    | none => exact Nat.zero_le 30
    | some k => cases k <;> decide +kernel
  have hmarks : "limit=".toList.length = 6 ∧ "&filters=".toList.length = 9 ∧
      "&offset=0".toList.length = 9 ∧ "&fields=".toList.length = 8 := ⟨rfl, rfl, rfl, rfl⟩
  unfold searchQuery
  simp only [List.length_append, hmarks]
  omega

/-- A search with a short filter can be asked for wherever its endpoint can. -/
theorem Source.isReachable_of_searchUrl {st : Gateway.Settings} {page : PageRequest} {s : Source}
    {r : SearchRequest} {u : Url} (h : s.searchUrl st page r = .ok u)
    (hfilter : ∀ filter, r.encodedFilter s.dialect = .ok filter → filter.length ≤ 1000)
    (hendpoint : ∀ e, s.endpoint s.searchBaseUrl st.searchPath = .ok e →
      e.isReachable = true ∧ e.withoutUser.text.length ≤ 1000) : u.isReachable = true := by
  obtain ⟨filter, e, hfilter', hendpoint', rfl⟩ := query_of_searchUrl h
  obtain ⟨hreachable, hlength⟩ := hendpoint e hendpoint'
  have hquery := length_searchQuery_le filter page
  have hshort := hfilter filter hfilter'
  simp only [Url.isReachable, Bool.and_eq_true, decide_eq_true_eq] at hreachable ⊢
  refine ⟨hreachable.1, ?_⟩
  have htext : ({ e with query := some (searchQuery filter page) } : Url).withoutUser.text =
      e.withoutUser.base ++ '?' :: searchQuery filter page ++ Url.markedText '#' e.fragment := rfl
  have hparts : e.withoutUser.text =
      e.withoutUser.base ++ Url.markedText '?' e.query ++ Url.markedText '#' e.fragment := rfl
  rw [hparts] at hlength
  rw [htext, Url.maxRequested]
  simp only [List.length_append, List.length_cons] at hlength ⊢
  omega

namespace Federation

/-- **A federation of hosts that all serve one catalog.** -/
def serving (hosts items : List String) : Federation := .ofHosts hosts (.serving items)

/-- The sources that a search for everything is for. -/
theorem selected_serving (hosts items : List String) :
    (serving hosts items).selected {} = hosts.map .ofHost := by
  have hactive : (serving hosts items).selected {} = (serving hosts items).registry.active := rfl
  rw [hactive]
  simp [serving, ofHosts, Registry.active, List.filter_map, Function.comp_def]

/-- **Hosts that serve a catalog are honest** if the catalog is in the order that is asked for, and
what they write can be read. -/
theorem honest_serving {hosts items : List String} {catalog : List Resource} {size : UInt32}
    {sort : Option SortKey}
    (hread : ∀ n, ResourceSet.codec.readText (ResourceSet.textOf (items.take n)) =
      .ok ⟨catalog.take n⟩)
    (hsorted : ∀ k ∈ sort, catalog.Pairwise fun a b =>
      (Resource.compareBy k.property.toList k.direction.toList a b).isLE)
    (hhosts : ∀ host ∈ hosts,
      (∃ e, (Source.ofHost host).endpoint ("http://" ++ host) "/resources" = .ok e) ∧
        ∀ e, (Source.ofHost host).endpoint ("http://" ++ host) "/resources" = .ok e →
          e.isReachable = true ∧ e.withoutUser.text.length ≤ 1000) :
    (serving hosts items).Honest {} size sort none fun _ => catalog := by
  intro number s hs
  rw [selected_serving] at hs
  obtain ⟨host, hhost, rfl⟩ := List.mem_map.mp hs
  obtain ⟨⟨e, hendpoint⟩, hasked⟩ := hhosts host hhost
  have hfilter : ({} : SearchRequest).encodedFilter .common = .ok [] := by decide +kernel
  have hurl : (Source.ofHost host).searchUrl {} ⟨number, size, sort⟩ {} =
      .ok (e.setQuery (Source.searchQuery [] ⟨number, size, sort⟩)) := by
    unfold Source.searchUrl
    show (do
      let filter ← (({} : SearchRequest).encodedFilter .common).mapError Failure.encoding
      let url ← (Source.ofHost host).endpoint ("http://" ++ host) "/resources"
      return url.setQuery (Source.searchQuery filter ⟨number, size, sort⟩)) = _
    rw [hfilter, hendpoint]
    rfl
  have hreach : (e.setQuery (Source.searchQuery [] ⟨number, size, sort⟩)).isReachable = true := by
    refine Source.isReachable_of_searchUrl hurl (fun filter h => ?_) hasked
    obtain rfl := Except.ok.inj (hfilter.symm.trans h)
    exact Nat.zero_le 1000
  -- The URL says how many items there should be, and the host sends just as many.
  have hlimit : (e.setQuery (Source.searchQuery [] ⟨number, size, sort⟩)).limit? =
      some (PageRequest.reach ⟨number, size, sort⟩) := by
    rw [Url.limit?, Source.limit_of_searchUrl hurl, Option.bind_some, Text.readNat?_natDigits]
  obtain ⟨hsort, horder⟩ := Source.order_of_searchUrl hurl
  refine ⟨⟨.ofHost host, e.setQuery (Source.searchQuery [] ⟨number, size, sort⟩)⟩, ?_, ?_⟩
  · rw [Gateway.searchCall]
    exact congrArg (Except.map _) hurl
  · obtain ⟨a, hanswers, hitems⟩ :=
      Network.answers_serving (c := ⟨.ofHost host, _⟩) (hread _) hreach hlimit
    refine { sorted := ?_, answers := ⟨_, a, hlimit, hanswers, hitems⟩ }
    intro property hproperty direction hdirection
    rw [hsort] at hproperty
    rw [horder] at hdirection
    -- Both come from one key, the one that the page is sorted by.
    obtain ⟨k, hk, rfl⟩ := Option.map_eq_some_iff.mp hproperty
    obtain ⟨k', hk', rfl⟩ := Option.map_eq_some_iff.mp hdirection
    obtain rfl := Option.some.inj (hk.symm.trans hk')
    exact hsorted k hk

end Federation

end CatalogSearch
