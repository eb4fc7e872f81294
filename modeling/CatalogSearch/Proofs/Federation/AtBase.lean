import CatalogSearch.Proofs.Federation.ItemUrl
import CatalogSearch.Proofs.Gateway.Parameters
import CatalogSearch.Proofs.Url.Seam

/-! # Requests at the base of a source

A source is asked at a base, to which a path is put as text. For a base of a server and a plain
path, all that is asked of the source stays at its base if the two meet at a single slash, and none
of it does otherwise.

* **`Source.PlainSite`**: a base of a server and a plain path;
* **`Source.exists_endpoint_staysAt_iff`**: the URL of base and path stays at the base if they meet
  at a single slash;
* **`Source.asks_at_base_iff_seam`**: so do searches, lists of subjects, and single items. -/

namespace CatalogSearch

namespace UrlPath

variable {all : List (List Char)} {cs : List Char}

/-- A text that adds something is written with a name of its own. -/
theorem isNamed_written (h : addsNothing cs = false) : IsNamed (written .server cs) := by
  have hnot : cs ≠ ['.'] ∧ cs ≠ ['.', '.'] := by simpa [addsNothing] using h
  exact ⟨Bool.eq_false_iff.mpr fun hdot => hnot.1 (eq_of_isDot_written hdot),
    Bool.eq_false_iff.mpr fun hdots => hnot.2 (eq_of_isDoubleDot_written hdots)⟩

/-- Without an empty one at their end segments are the first of what they were, and as bare. -/
theorem dropEmptyLast_isPrefix (all : List (List Char)) :
    dropEmptyLast all <+: all ∧ bare (dropEmptyLast all) = bare all := by
  unfold dropEmptyLast
  split
  · next hlast =>
    refine ⟨List.dropLast_prefix all, ?_⟩
    conv_rhs => rw [← List.dropLast_append_getLast? _ hlast.2]
    exact (bare_concat_nil _).symm
  · exact ⟨List.prefix_refl all, rfl⟩

/-- **A segment that is added on a server** follows the first ones of the others, and leaves out
none but empty ones. -/
theorem exists_push?_eq (h : addsNothing cs = false) (hkeeps : ∀ c ∈ cs, isDropped c = false)
    (all : List (List Char)) :
    ∃ front, push? .server cs (.segments all) = some (.segments (front ++ [written .server cs])) ∧
      front <+: all ∧ bare front = bare all := by
  obtain ⟨hpre, hbare⟩ := dropEmptyLast_isPrefix all
  refine ⟨if dropEmptyLast all = [[]] then [] else dropEmptyLast all, ?_, ?_⟩
  · rw [push?_of_adds h, filter_not_isDropped_eq_self_iff.mpr hkeeps,
      addSegment_of_isNamed (isNamed_written h)]
    rfl
  · split
    · next hone =>
      rw [hone] at hbare
      exact ⟨List.nil_prefix, hbare⟩
    · exact ⟨hpre, hbare⟩

/-- Behind bare segments a segment that is added on a server follows all of them. -/
theorem push?_of_bare (h : addsNothing cs = false) (hkeeps : ∀ c ∈ cs, isDropped c = false)
    (hbare : bare all = all) :
    push? .server cs (.segments all) = some (.segments (all ++ [written .server cs])) := by
  obtain ⟨front, hpush, hpre, hfront⟩ := exists_push?_eq h hkeeps all
  have hback : all <+: front := by
    rw [← hbare, ← hfront]
    exact bare_isPrefix front
  rw [hpush, hpre.eq_of_length_le hback.length_le]

end UrlPath

namespace Url

variable {b e u : Url} {path seg cs : List Char} {segs : List (List Char)}

/-- Another query leaves a URL where it is. -/
theorem staysAt_query_iff {query : Option (List Char)} :
    ({ e with query } : Url).StaysAt b segs ↔ e.StaysAt b segs :=
  ⟨fun h => ⟨h.host, h.port, h.path⟩, fun h => ⟨h.host, h.port, h.path⟩⟩

/-- **A segment that is added to a URL at another one** stays there, and spells its text. -/
theorem StaysAt.exists_pushSegment? (h : e.StaysAt b segs) (hkind : e.kind = .server)
    (hpath : UrlPath.IsPlainPath path segs) (hadds : UrlPath.addsNothing cs = false)
    (hkeeps : ∀ c ∈ cs, UrlPath.isDropped c = false) :
    ∃ u, e.pushSegment? cs = some u ∧
      ∃ seg, Text.percentDecode seg = .ok cs ∧ u.StaysAt b (segs ++ [seg]) := by
  have hbare : UrlPath.bare (UrlPath.bare b.segments ++ segs) = UrlPath.bare b.segments ++ segs :=
    UrlPath.bare_append_of_isPlain hpath.ne_nil hpath.plain _
  let all := UrlPath.bare b.segments ++ segs ++ [UrlPath.written .server cs]
  refine ⟨{ e with path := .segments all }, ?_, UrlPath.written .server cs,
    UrlPath.percentDecode_written_iff.mpr rfl, h.host, h.port, ?_⟩
  · rw [pushSegment?, hkind, h.path, UrlPath.push?_of_bare hadds hkeeps hbare]
    rfl
  · exact congrArg UrlPath.segments (List.append_assoc _ _ _)

/-- **A URL is at another one, up to empty segments, if a segment that is added to it is there.** -/
theorem StaysAt.bare_segments_of_pushSegment? (h : u.StaysAt b (segs ++ [seg]))
    (hpush : e.pushSegment? cs = some u) (hkind : e.kind = .server)
    (hpath : UrlPath.IsPlainPath path segs) (hadds : UrlPath.addsNothing cs = false)
    (hkeeps : ∀ c ∈ cs, UrlPath.isDropped c = false) :
    UrlPath.bare e.segments = UrlPath.bare b.segments ++ segs := by
  obtain ⟨path', hpath', rfl⟩ := Option.map_eq_some_iff.mp hpush
  obtain rfl : path' = _ := h.path
  rw [hkind] at hpath'
  rw [segments]
  cases hall : e.path with
  | plain text =>
    rw [hall] at hpath'
    cases hpath'
  | segments all =>
    obtain ⟨front, hfront, -, hbare⟩ := UrlPath.exists_push?_eq hadds hkeeps all
    rw [hall, hfront] at hpath'
    have hsegs := UrlPath.segments.inj (Option.some.inj hpath')
    rw [← List.append_assoc] at hsegs
    change UrlPath.bare all = _
    rw [← hbare, (List.append_inj' hsegs rfl).1]
    exact UrlPath.bare_append_of_isPlain hpath.ne_nil hpath.plain _

end Url

namespace Source

variable {st : Gateway.Settings} {s : Source} {b e u : Url} {base path itemId : String}
  {segs : List (List Char)}

/-- **A plain site**: a base with the URL of a server, and a plain path. -/
structure PlainSite (base path : String) (b : Url) (segs : List (List Char)) : Prop where
  read : Url.read base.toList = .ok b
  kind : b.kind = .server
  plain : UrlPath.IsPlainPath path.toList segs

/-- A base and a path that meet at a single slash. -/
abbrev Seam (base path : String) (b : Url) : Prop := Url.Seam base.toList path.toList b

/-- **The URL of base and path stays at the base** exactly if the two meet at a single slash. -/
theorem exists_endpoint_staysAt_iff (h : PlainSite base path b segs) :
    (∃ e, s.endpoint base path = .ok e ∧ e.StaysAt b segs) ↔ Seam base path b := by
  simp only [endpoint, mapError_eq_ok_iff]
  exact Url.exists_staysAt_iff_seam h.read h.kind h.plain

/-- A URL of a plain site is that of a server, and if it has the segments of the base with those of
the path, the two meet at a single slash. -/
theorem PlainSite.of_endpoint (h : PlainSite base path b segs) (he : s.endpoint base path = .ok e) :
    e.kind = .server ∧
      (UrlPath.bare e.segments = UrlPath.bare b.segments ++ segs → Seam base path b) := by
  obtain ⟨hscheme, hseam⟩ := Url.seam_of_read h.read h.kind h.plain (mapError_eq_ok_iff.mp he)
  refine ⟨?_, hseam⟩
  rw [Url.kind, hscheme]
  exact h.kind

/-- The URL of a search is that of its endpoint, but for the query. -/
theorem exists_searchUrl_staysAt_iff (h : PlainSite s.searchBaseUrl st.searchPath b segs)
    {page : PageRequest} {r : SearchRequest} {filter : List Char}
    (hfilter : r.encodedFilter s.dialect = .ok filter) :
    (∃ u, s.searchUrl st page r = .ok u ∧ u.StaysAt b segs) ↔
      Seam s.searchBaseUrl st.searchPath b := by
  rw [← exists_endpoint_staysAt_iff (s := s) h]
  constructor
  · rintro ⟨u, hu, hstays⟩
    obtain ⟨_, e, -, he, hquery⟩ := query_of_searchUrl hu
    rw [hquery, Url.staysAt_query_iff] at hstays
    exact ⟨e, he, hstays⟩
  · rintro ⟨e, he, hstays⟩
    refine ⟨e.setQuery (searchQuery filter page), ?_, Url.staysAt_query_iff.mpr hstays⟩
    rw [searchUrl, mapError_eq_ok_iff.mpr hfilter, he]
    rfl

/-- The URL of an item is that of its endpoint with one more segment. -/
theorem detailsUrl_eq_ok_iff :
    s.detailsUrl st itemId = .ok u ↔
      ∃ e, s.endpoint s.detailsBaseUrl st.detailsPath = .ok e ∧
        e.pushSegment? itemId.toList = some u := by
  constructor
  · intro hu
    obtain ⟨e, he, -⟩ := bind_eq_ok_iff.mp hu
    refine ⟨e, he, ?_⟩
    rw [← toOption_detailsUrl he, toOption_eq_some_iff]
    exact hu
  · rintro ⟨e, he, hpush⟩
    rw [← toOption_eq_some_iff, toOption_detailsUrl he]
    exact hpush

/-- The URL of an item stays at the base if that of its endpoint does. -/
theorem exists_detailsUrl_staysAt_iff (h : PlainSite s.detailsBaseUrl st.detailsPath b segs)
    (hadds : UrlPath.addsNothing itemId.toList = false)
    (hkeeps : ∀ c ∈ itemId.toList, UrlPath.isDropped c = false) :
    (∃ u, s.detailsUrl st itemId = .ok u ∧
      ∃ seg, Text.percentDecode seg = .ok itemId.toList ∧ u.StaysAt b (segs ++ [seg])) ↔
        Seam s.detailsBaseUrl st.detailsPath b := by
  constructor
  · rintro ⟨u, hu, seg, -, hstays⟩
    obtain ⟨e, he, hpush⟩ := detailsUrl_eq_ok_iff.mp hu
    obtain ⟨hkind, hseam⟩ := h.of_endpoint he
    exact hseam (hstays.bare_segments_of_pushSegment? hpush hkind h.plain hadds hkeeps)
  · intro hseam
    obtain ⟨e, he, hstays⟩ := (exists_endpoint_staysAt_iff (s := s) h).mpr hseam
    obtain ⟨u, hpush, seg, hspells, hstays⟩ :=
      hstays.exists_pushSegment? (h.of_endpoint he).1 h.plain hadds hkeeps
    exact ⟨u, detailsUrl_eq_ok_iff.mpr ⟨e, he, hpush⟩, seg, hspells, hstays⟩

/-- **All that a source is asked stays at its base exactly if base and path meet at a single
slash.** For bases with the URL of a server and plain paths, the URL of every search whose filter
can be said, that of the subjects, and that of every item whose id means no step of its own and has
no characters that are dropped, has the host and port of the base and its path, without the slashes
at the end, with the segments of the path behind it, and then the one that spells the id. -/
theorem asks_at_base_iff_seam (st : Gateway.Settings) (s : Source) :
    (∀ b segs, PlainSite s.searchBaseUrl st.searchPath b segs →
      ∀ page r filter, r.encodedFilter s.dialect = .ok filter →
        ((∃ u, s.searchUrl st page r = .ok u ∧ u.StaysAt b segs) ↔
          Seam s.searchBaseUrl st.searchPath b)) ∧
    (∀ b segs, PlainSite s.searchBaseUrl st.subjectPath b segs →
      ((∃ u, s.subjectsUrl st = .ok u ∧ u.StaysAt b segs) ↔
        Seam s.searchBaseUrl st.subjectPath b)) ∧
    ∀ b segs, PlainSite s.detailsBaseUrl st.detailsPath b segs →
      ∀ itemId : String, UrlPath.addsNothing itemId.toList = false →
        (∀ c ∈ itemId.toList, UrlPath.isDropped c = false) →
          ((∃ u, s.detailsUrl st itemId = .ok u ∧
            ∃ seg, Text.percentDecode seg = .ok itemId.toList ∧ u.StaysAt b (segs ++ [seg])) ↔
              Seam s.detailsBaseUrl st.detailsPath b) :=
  ⟨fun _ _ hsite _ _ _ hfilter => exists_searchUrl_staysAt_iff hsite hfilter,
    fun _ _ hsite => exists_endpoint_staysAt_iff hsite,
    fun _ _ hsite _ hadds hkeeps => exists_detailsUrl_staysAt_iff hsite hadds hkeeps⟩

/-- A source with one base for all that it is asked. -/
def atBase (base : String) : Source where
  id := "a"
  displayName := "A"
  searchBaseUrl := base
  detailsBaseUrl := base

/-- Settings with one path for all that sources are asked. -/
def onePath (path : String) : Gateway.Settings where
  searchPath := path
  detailsPath := path
  subjectPath := path

/-- The one segment of a path. -/
def resources : List Char := "resources".toList

/-- A path of this segment is plain, with or without a slash in front. -/
theorem isPlainPath_resources {path : String}
    (hpath : path = "resources" ∨ path = "/resources") :
    UrlPath.IsPlainPath path.toList [resources] where
  ne_nil := List.cons_ne_nil _ _
  plain := List.forall_mem_singleton.mpr ⟨by decide, List.all_eq_true.mp (by decide)⟩
  text := by rcases hpath with rfl | rfl <;> decide

/-- The API of a host. -/
def apiUrl : Url where
  scheme := "http"
  authority := some ⟨[], .domain "s.test".toList, none⟩
  path := .segments ["api".toList, []]
  query := none
  fragment := none

/-- A slash at the end of a base and one in front of a path are a single one. -/
theorem asks_at_base_iff_seam_api :
    (∃ u, (atBase "http://s.test/api/").searchUrl (onePath "/resources") {} {} = .ok u ∧
        u.StaysAt apiUrl [resources]) ∧
      (∃ u, (atBase "http://s.test/api/").subjectsUrl (onePath "/resources") = .ok u ∧
        u.StaysAt apiUrl [resources]) ∧
      ∃ u, (atBase "http://s.test/api/").detailsUrl (onePath "/resources") "a/b" = .ok u ∧
        ∃ seg, Text.percentDecode seg = .ok "a/b".toList ∧
          u.StaysAt apiUrl ([resources] ++ [seg]) := by
  obtain ⟨hsearch, hsubjects, hdetails⟩ :=
    asks_at_base_iff_seam (onePath "/resources") (atBase "http://s.test/api/")
  have hsite : PlainSite "http://s.test/api/" "/resources" apiUrl [resources] :=
    ⟨by decide +kernel, by decide, isPlainPath_resources (Or.inr rfl)⟩
  have hseam : Seam "http://s.test/api/" "/resources" apiUrl := by decide +kernel
  have hkeeps : ∀ c ∈ "a/b".toList, UrlPath.isDropped c = false :=
    UrlPath.filter_not_isDropped_eq_self_iff.mp (by decide)
  obtain ⟨filter, hfilter⟩ :
      ∃ filter, ({} : SearchRequest).encodedFilter .common = .ok filter := by
    decide +kernel
  exact ⟨(hsearch _ _ hsite _ _ filter hfilter).mpr hseam, (hsubjects _ _ hsite).mpr hseam,
    (hdetails _ _ hsite "a/b" (by decide) hkeeps).mpr hseam⟩

/-- **A search is led away from its base**, to another URL or to none, although the base has the URL
of a server and the path is plain. -/
def LeadsAway (base path : String) (found : Option String) : Prop :=
  UrlPath.IsPlainPath path.toList [resources] ∧
    ∃ b, Url.read base.toList = .ok b ∧ b.scheme = "http" ∧
      ((atBase base).searchUrl (onePath path) {} {}).toOption.map Url.base =
        found.map String.toList ∧
      ¬ ∃ u, (atBase base).searchUrl (onePath path) {} {} = .ok u ∧ u.StaysAt b [resources]

/-- **Not all bases and plain paths meet.** Without a slash the path goes on with the host or spoils
the port, behind a query nothing is a path, and two slashes or a blank at the end of a base stay in
front of it. -/
theorem searches_elsewhere :
    LeadsAway "http://a.test" "resources" (some "http://a.testresources/") ∧
      LeadsAway "http://a.test:8080" "resources" none ∧
      LeadsAway "http://a.test/api?key=1" "/resources" (some "http://a.test/api") ∧
      LeadsAway "http://a.test/api//" "resources" (some "http://a.test/api//resources") ∧
      LeadsAway "http://a.test/api " "/resources" (some "http://a.test/api%20/resources") := by
  have hplain := isPlainPath_resources (Or.inl rfl)
  have hplain' := isPlainPath_resources (Or.inr rfl)
  exact ⟨⟨hplain, by decide +kernel⟩, ⟨hplain, by decide +kernel⟩, ⟨hplain', by decide +kernel⟩,
    ⟨hplain, by decide +kernel⟩, ⟨hplain', by decide +kernel⟩⟩

end Source

end CatalogSearch
