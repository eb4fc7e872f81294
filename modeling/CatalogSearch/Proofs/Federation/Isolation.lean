import CatalogSearch.Proofs.Federation.Outcome

/-! # Sources that fail leave no trace

A page is the same whether a source fails or is not registered at all. It does not matter in which
way sources fail, how many of them do, or when each of them ends.

* **`Federation.without`**: a federation that does not know some sources;
* **`merge_map_filter`**: results with nothing in them do not count in a page;
* **`Gateway.Lost`**: queries whose calls all fail;
* **`Federation.page_eq_page_without`**: what they return does not depend on these sources. -/

namespace CatalogSearch

/-! ## Fewer sources -/

namespace Registry

/-- A registry without some sources. -/
def without (gone : Source → Bool) (r : Registry) : Registry :=
  ⟨r.entries.filter fun e => !gone e.source⟩

/-- **A registry whose sources have different ids.** -/
def Distinct (r : Registry) : Prop := (r.entries.map (·.source.id)).Nodup

instance (r : Registry) : Decidable r.Distinct := by
  unfold Distinct
  infer_instance

variable (gone : Source → Bool)

/-- The active sources that are left. -/
theorem active_without (r : Registry) :
    (r.without gone).active = r.active.filter fun s => !gone s := by
  rw [active, active, without, List.filter_map, List.filter_filter, List.filter_filter]
  refine congrArg (List.map _) (List.filter_congr fun e _ => ?_)
  exact Bool.and_comm ..

/-- **The source of an id is left** unless it is gone, if no other one has the id. -/
theorem source?_without {r : Registry} (h : r.Distinct) (id : String) :
    (r.without gone).source? id = (r.source? id).filter fun s => !gone s := by
  obtain ⟨entries⟩ := r
  unfold source? without
  unfold Distinct at h
  induction entries with
  | nil => rfl
  | cons e entries ih =>
    obtain ⟨hnew, hrest⟩ := List.nodup_cons.mp h
    by_cases hid : e.source.id = id
    · -- Nobody else has the id of the first one.
      have hnone : (entries.filter fun e => !gone e.source).find? (fun e => e.source.id == id) =
          none := by
        rw [List.find?_eq_none]
        intro e' he' hid'
        have hsame : e'.source.id = e.source.id := by
          rw [hid]
          simpa using hid'
        exact hnew (List.mem_map.mpr ⟨e', (List.mem_filter.mp he').1, hsame⟩)
      rw [List.find?_cons_of_pos (by simpa using hid), Option.map_some, Option.filter_some]
      by_cases hgone : gone e.source
      · rw [List.filter_cons_of_neg (by simpa using hgone), hnone, hgone]
        rfl
      · rw [List.filter_cons_of_pos (by simpa using hgone),
          List.find?_cons_of_pos (by simpa using hid), if_pos (by simpa using hgone)]
        rfl
    · rw [List.find?_cons_of_neg (by simpa using hid), ← ih hrest]
      by_cases hgone : gone e.source
      · rw [List.filter_cons_of_neg (by simpa using hgone)]
      · rw [List.filter_cons_of_pos (by simpa using hgone),
          List.find?_cons_of_neg (by simpa using hid)]

end Registry

namespace Federation

/-- **A federation that does not know some sources.** -/
def without (gone : Source → Bool) (f : Federation) : Federation :=
  { f with registry := f.registry.without gone }

variable (gone : Source → Bool) (f : Federation)

/-- The queries of a search that are left. -/
theorem searchQueries_without (r : SearchRequest) :
    (f.without gone).searchQueries r = (f.searchQueries r).filter fun q => !gone q.1 := by
  have hselected : (f.without gone).selected r = (f.selected r).filter fun s => !gone s := by
    unfold selected without
    rw [Registry.active_without]
    cases r.publisher.map Text.trimmed with
    | none => rfl
    | some id =>
      by_cases hid : id = ""
      · simp only [if_pos hid]
      · simp only [if_neg hid, List.filter_filter, Bool.and_comm]
  rw [searchQueries, searchQueries, hselected, List.filter_map]
  rfl

/-- The queries for known items that are left. -/
theorem idQueries_without {f : Federation} (h : f.registry.Distinct) (keys : List ItemKey)
    (base : SearchRequest) :
    (f.without gone).idQueries keys base =
      (f.idQueries keys base).filter fun q => !gone q.1 := by
  unfold idQueries
  rw [List.filter_filterMap]
  refine List.filterMap_congr fun group _ => ?_
  show ((f.registry.without gone).source? group.sourceId).map _ = _
  rw [Registry.source?_without gone h group.sourceId, groupQuery?]
  cases f.registry.source? group.sourceId with
  | none => rfl
  | some s =>
    rw [Option.filter_some, Option.map_some, Option.filter_some]
    by_cases hs : gone s
    · simp [hs]
    · simp [hs]

end Federation

/-! ## Fewer results -/

/-- A result with nothing in it. -/
def SourceResult.IsEmpty (r : SourceResult) : Prop := r.items = [] ∧ r.totalElements = 0

/-- **Results with nothing in them do not count in a page.** -/
theorem merge_map_filter {α : Type} {result : α → SourceResult} {keep : α → Bool} {queries : List α}
    (h : ∀ q ∈ queries, keep q = false → (result q).IsEmpty) (page : PageRequest)
    (order : MergeOrder) :
    merge ((queries.filter keep).map result) page order =
      merge (queries.map result) page order := by
  have hboth : ((queries.filter keep).map result).flatMap (·.items) =
        (queries.map result).flatMap (·.items) ∧
      (((queries.filter keep).map result).map (·.totalElements.toNat)).foldr (· + ·) 0 =
        ((queries.map result).map (·.totalElements.toNat)).foldr (· + ·) 0 := by
    induction queries with
    | nil => exact ⟨rfl, rfl⟩
    | cons q queries ih =>
      obtain ⟨hitems, htotal⟩ := ih fun p hp => h p (List.mem_cons_of_mem q hp)
      cases hq : keep q with
      | true =>
        rw [List.filter_cons_of_pos hq]
        simp only [List.map_cons, List.flatMap_cons, List.foldr_cons, hitems, htotal, and_self]
      | false =>
        obtain ⟨hnone, hzero⟩ := h q List.mem_cons_self hq
        rw [List.filter_cons_of_neg (by rw [hq]; exact Bool.false_ne_true)]
        simp only [List.map_cons, List.flatMap_cons, List.foldr_cons, hitems, htotal, hnone, hzero,
          List.nil_append, UInt64.toNat_zero, Nat.zero_add, and_self]
  unfold merge mergedItems declaredTotal
  rw [hboth.1, hboth.2]

/-! ## Failures -/

/-- **Queries whose calls fail**, each in its own way: those to the sources that are gone. -/
def Gateway.Lost (g : Gateway) (page : PageRequest) (cancel : Cancellation) (gone : Source → Bool)
    (queries : List (Source × SearchRequest)) : Prop :=
  ∀ q ∈ queries, gone q.1 = true → ∀ c, g.searchCall page q = .ok c → g.Fails cancel c

instance (g : Gateway) (page : PageRequest) (cancel : Cancellation) (gone : Source → Bool)
    (queries : List (Source × SearchRequest)) : Decidable (g.Lost page cancel gone queries) := by
  unfold Gateway.Lost
  infer_instance

/-- A query whose call fails has a result with nothing in it. -/
theorem Gateway.isEmpty_outcome {g : Gateway} {page : PageRequest} {cancel : Cancellation}
    {q : Source × SearchRequest} (h : ∀ c, g.searchCall page q = .ok c → g.Fails cancel c) :
    (g.outcome page cancel q).IsEmpty := by
  rw [outcome]
  cases hcall : g.searchCall page q with
  | error e => exact ⟨rfl, rfl⟩
  | ok c =>
    simp only [yielded_of_fails (h c hcall)]
    exact ⟨rfl, rfl⟩

/-- The queries that are left are as well prepared as all of them. -/
theorem Gateway.Prepared.filter {g : Gateway} {page : PageRequest}
    {queries : List (Source × SearchRequest)} (h : g.Prepared page queries)
    (keep : Source × SearchRequest → Bool) : g.Prepared page (queries.filter keep) :=
  fun q hq => h q (List.mem_filter.mp hq).1

/-- The page of the outcomes does not depend on queries whose calls fail. -/
theorem Gateway.Lost.merge_eq {g : Gateway} {page : PageRequest} {cancel : Cancellation}
    {gone : Source → Bool} {queries : List (Source × SearchRequest)}
    (h : g.Lost page cancel gone queries) (order : MergeOrder) :
    merge ((queries.filter fun q => !gone q.1).map (g.outcome page cancel)) page order =
      merge (queries.map (g.outcome page cancel)) page order := by
  refine merge_map_filter (fun q hq hgone => isEmpty_outcome (h q hq ?_)) page order
  simpa using hgone

/-- **A page does not depend on sources that fail.** Of a registry whose sources have different ids,
let any be gone. When nothing is wrong with a request and all queries to these sources fail, in
whichever way and at whatever time, the page is the one of a registry without them: for a search,
and for items known by their keys in any order. -/
theorem Federation.page_eq_page_without (f : Federation) (gone : Source → Bool)
    (cancel : Cancellation) (hids : f.registry.Distinct) :
    (∀ r page, page.HasItems → f.gateway.Prepared page (f.searchQueries r) →
        f.gateway.Lost page cancel gone (f.searchQueries r) →
        ∃ p, (f.search r page cancel).result = .ok p ∧
          ((f.without gone).search r page cancel).result = .ok p) ∧
      ∀ keys base page order, page.HasItems → checkKeys keys = .ok () →
        f.gateway.Prepared { page with number := 0 } (f.idQueries keys base) →
        f.gateway.Lost { page with number := 0 } cancel gone (f.idQueries keys base) →
        ∃ p, (f.searchByIds keys base page order cancel).result = .ok p ∧
          ((f.without gone).searchByIds keys base page order cancel).result = .ok p := by
  constructor
  · intro r page hpage hprepared hlost
    have hwithout := hprepared.filter fun q => !gone q.1
    rw [← searchQueries_without] at hwithout
    refine ⟨_, result_search hpage hprepared cancel, ?_⟩
    rw [result_search (f := f.without gone) hpage hwithout, searchQueries_without]
    exact congrArg Except.ok (hlost.merge_eq .external)
  · intro keys base page order hpage hkeys hprepared hlost
    have hwithout := hprepared.filter fun q => !gone q.1
    rw [← idQueries_without gone hids] at hwithout
    refine ⟨_, result_searchByIds hpage hkeys hprepared cancel, ?_⟩
    rw [result_searchByIds (f := f.without gone) hpage hkeys hwithout, idQueries_without gone hids]
    have hmerge := hlost.merge_eq order
    exact congrArg (fun p => Except.ok { p with pageNumber := page.number }) hmerge

/-- What the source at a host answers: a body, after seven matches have been declared. -/
def Network.Route.ofHost (host body : String) (manner : Network.Manner) : Network.Route where
  url := "http://" ++ host ++ "/resources"
  response :=
    { status := ⟨200⟩
      headers := [("X-Total-Count", "7")]
      body := some (Text.Utf8.encode body.toList) }
  manner := manner

/-- Four sources: one answers, one breaks off, one answers nonsense and one never answers. -/
def fourSources : Federation :=
  .ofHosts ["a", "b", "c", "d"]
    (.ofRoutes
      [ .ofHost "a" "\x7b\"resources\":[\x7b\"id\":\"a1\"\x7d]\x7d" .answers,
        .ofHost "b" "\x7b\"resources\":[\x7b\"id\":\"b1\"\x7d]\x7d" .truncates,
        .ofHost "c" "\x7b\"resources\":[\x7b\"id\":\"c1\"" .answers,
        .ofHost "d" "" .hangs ])

/-- Only the seven matches of the source that answers count. -/
theorem page_eq_page_without_three :
    (∃ p, (fourSources.search {} {} none).result = .ok p ∧
        ((fourSources.without (·.id != "a")).search {} {} none).result = .ok p ∧
        p.totalElements = 7) ∧
      ∃ p, (fourSources.searchByIds [⟨"c", "c1"⟩, ⟨"a", "a1"⟩] {} {} (.remembered []) none).result =
          .ok p ∧
        ((fourSources.without (·.id != "a")).searchByIds [⟨"c", "c1"⟩, ⟨"a", "a1"⟩] {} {}
            (.remembered []) none).result = .ok p := by
  have hids : fourSources.registry.Distinct := by decide +kernel
  obtain ⟨hsearch, hknown⟩ :=
    fourSources.page_eq_page_without (fun s => s.id != "a") none hids
  constructor
  · obtain ⟨p, hall, hleft⟩ :=
      hsearch {} {} (by decide) (by decide +kernel) (by decide +kernel)
    have htotal :
        (fourSources.search {} {} none).result.toOption.map (·.totalElements) = some 7 := by
      decide +kernel
    rw [hall] at htotal
    exact ⟨p, hall, hleft, Option.some.inj htotal⟩
  · exact hknown [⟨"c", "c1"⟩, ⟨"a", "a1"⟩] {} {} (.remembered []) (by decide) rfl
      (by decide +kernel) (by decide +kernel)

end CatalogSearch
