import CatalogSearch.Proofs.Federation.Outcome
import CatalogSearch.Proofs.Gateway.Dispatch
import CatalogSearch.Proofs.Url.Segment

/-! # The URL of an item

One item is asked for at the URL of its source, with its id as one more segment. For most ids the
segment spells the id, and no other item is asked for at this URL. The ids of which this cannot be
said are those that URLs do not tell: `.` and `..`, which mean steps of their own, and ids with tabs
or line breaks, which are dropped.

* **`Url.Names`**: a URL whose last segment spells the id of an item;
* **`Url.Tells`**: the ids that can be told behind a URL;
* **`Federation.names_item_iff_tells`**: an item is asked for by its name if its id can be told. -/

namespace CatalogSearch

namespace Url

/-- **A URL names an item behind another one** if its path has one more segment, which spells the id
of the item, and all else is the same. -/
def Names (u e : Url) (itemId : String) : Prop :=
  ∃ all seg, e.path = .segments all ∧ u = { e with path := .segments (UrlPath.stem all ++ [seg]) } ∧
    Text.percentDecode seg = .ok itemId.toList

/-- **The ids that can be told behind a URL.** -/
def Tells (e : Url) (itemId : String) : Prop :=
  match e.path with
  | .segments all => UrlPath.Tells e.kind all itemId.toList
  | .plain _ => False

instance (e : Url) (itemId : String) : Decidable (e.Tells itemId) :=
  match h : e.path with
  | .segments all =>
    decidable_of_iff (UrlPath.Tells e.kind all itemId.toList) (by rw [Tells, h])
  | .plain _ => isFalse (by rw [Tells, h]; exact id)

variable {e u v : Url} {itemId other : String}

/-- **A segment names an item if its id can be told**, and only then. -/
theorem names_pushSegment?_iff {cs : List Char} (hread : read cs = .ok e) (hid : itemId ≠ "") :
    (∃ u, e.pushSegment? itemId.toList = some u ∧ u.Names e itemId) ↔ e.Tells itemId := by
  cases hpath : e.path with
  | plain text =>
    have htells : ¬ e.Tells itemId := by
      rw [Tells, hpath]
      exact id
    refine iff_of_false ?_ htells
    rintro ⟨u, -, all, seg, hall, -⟩
    rw [hpath] at hall
    cases hall
  | segments all =>
    have htells : e.Tells itemId ↔ UrlPath.Tells e.kind all itemId.toList := by rw [Tells, hpath]
    rw [htells]
    constructor
    · rintro ⟨u, hpush, all', seg, hall, rfl, hdecode⟩
      obtain rfl := UrlPath.segments.inj (hpath.symm.trans hall)
      obtain ⟨path, hpath', hu⟩ := Option.map_eq_some_iff.mp hpush
      rw [hpath] at hpath'
      obtain rfl := congrArg Url.path hu
      exact UrlPath.tells_of_push? (fun h => hid (String.toList_eq_nil_iff.mp h)) hpath' hdecode
    · intro h
      refine ⟨_, ?_, all, UrlPath.written e.kind itemId.toList, hpath, rfl,
        UrlPath.percentDecode_written_iff.mpr rfl⟩
      rw [pushSegment?, hpath, UrlPath.push?_of_tells (settle_of_read hread hpath) h]
      rfl

/-- A segment can be read off what servers get to see. -/
theorem eq_of_text_requested {front : List (List Char)} {a b : List Char}
    (h : ({ e with path := .segments (front ++ [a]) } : Url).requested.text =
      ({ e with path := .segments (front ++ [b]) } : Url).requested.text) : a = b := by
  simp only [text, base, requested, withoutUser, UrlPath.startsWithHost_append front a b,
    UrlPath.text, List.flatMap_append, List.flatMap_singleton, List.append_cancel_right_eq] at h
  exact (List.cons.inj (List.append_cancel_left (List.append_cancel_left h))).2

/-- **Different items have different URLs**, also for those who see no more than servers do. -/
theorem eq_of_names (hu : u.Names e itemId) (hv : v.Names e other)
    (htext : u.requested.text = v.requested.text) : itemId = other := by
  obtain ⟨all, seg, hall, rfl, hseg⟩ := hu
  obtain ⟨all', seg', hall', rfl, hseg'⟩ := hv
  obtain rfl := UrlPath.segments.inj (hall.symm.trans hall')
  obtain rfl := eq_of_text_requested htext
  exact String.toList_inj.mp (Except.ok.inj (hseg.symm.trans hseg'))

end Url

namespace Source

variable {st : Gateway.Settings} {s : Source} {e : Url}

/-- The URL of an endpoint has been read. -/
theorem exists_read_of_endpoint {base path : String} (h : s.endpoint base path = .ok e) :
    ∃ cs, Url.read cs = .ok e :=
  ⟨_, mapError_eq_ok_iff.mp h⟩

/-- The URL of an item is that of its source with one more segment. -/
theorem toOption_detailsUrl (he : s.endpoint s.detailsBaseUrl st.detailsPath = .ok e)
    (itemId : String) : (s.detailsUrl st itemId).toOption = e.pushSegment? itemId.toList := by
  rw [detailsUrl, he]
  simp only [bind, Except.bind]
  cases e.pushSegment? itemId.toList with
  | none => rfl
  | some u => rfl

end Source

namespace Federation

variable {f : Federation} {sourceId itemId : String} {s : Source} {e : Url}

/-- **What is asked for an item**: the URL of its source with one more segment, if there is such a
URL, and nothing else. -/
theorem asked_details (hs : f.registry.source? sourceId = some s)
    (he : s.endpoint s.detailsBaseUrl f.gateway.settings.detailsPath = .ok e)
    (hid : Text.blank itemId = false) (user : Option String) :
    (f.details sourceId itemId user).asked = (e.pushSegment? itemId.toList).toList := by
  rw [details, if_neg (ne_true_of_eq_false hid), requireSource, hs, Run.ofExcept_ok_bind,
    Run.asked_bind_pure, Gateway.asked_details, Source.toOption_detailsUrl he]

/-- One URL is asked for, and it names the item, if the id of the item can be told. -/
theorem exists_names_iff (hs : f.registry.source? sourceId = some s)
    (he : s.endpoint s.detailsBaseUrl f.gateway.settings.detailsPath = .ok e)
    (hid : Text.blank itemId = false) (user : Option String) :
    (∃ u, (f.details sourceId itemId user).asked = [u] ∧ u.Names e itemId) ↔ e.Tells itemId := by
  obtain ⟨cs, hread⟩ := Source.exists_read_of_endpoint he
  have hne : itemId ≠ "" := by
    rintro rfl
    cases hid
  rw [← Url.names_pushSegment?_iff hread hne, asked_details hs he hid]
  simp only [Option.toList_eq_singleton_iff]

/-- **The URL of an item names it if its id can be told, and only then.** Let a source be known and
its URL be read. For an id that is not blank, the path that is asked for is that of the source,
without an empty segment at its end, with exactly one more segment, which spells the id, just if the
id can be told: it is neither `.` nor `..`, it has no tab and no line break, it is not written as
another drive where a file's path starts, and the path of the source is not but two slashes. Servers
see different URLs for any two such ids. -/
theorem names_item_iff_tells (hs : f.registry.source? sourceId = some s)
    (he : s.endpoint s.detailsBaseUrl f.gateway.settings.detailsPath = .ok e) :
    (∀ itemId user, Text.blank itemId = false →
      ((∃ u, (f.details sourceId itemId user).asked = [u] ∧ u.Names e itemId) ↔ e.Tells itemId)) ∧
      ∀ a b user user', Text.blank a = false → Text.blank b = false → e.Tells a → e.Tells b →
        ∀ u ∈ (f.details sourceId a user).asked, ∀ v ∈ (f.details sourceId b user').asked,
          u.requested.text = v.requested.text → a = b := by
  refine ⟨fun itemId user hid => exists_names_iff hs he hid user, ?_⟩
  intro a b user user' ha hb htells htells' u hu v hv htext
  obtain ⟨u', hasked, hnames⟩ := (exists_names_iff hs he ha user).mpr htells
  obtain ⟨v', hasked', hnames'⟩ := (exists_names_iff hs he hb user').mpr htells'
  rw [hasked, List.mem_singleton] at hu
  rw [hasked', List.mem_singleton] at hv
  subst hu hv
  exact Url.eq_of_names hnames hnames' htext

/-- A source at one host. -/
def oneHost : Federation := .ofHosts ["a"] (.ofRoutes [])

/-- Where its items are. -/
def itemsUrl : Url where
  scheme := "http"
  authority := some ⟨[], .domain ['a'], none⟩
  path := .segments ["resources".toList]
  query := none
  fragment := none

/-- The source is known, and its URL can be read. -/
theorem endpoint_oneHost :
    oneHost.registry.source? "a" = some (.ofHost "a") ∧
      (Source.ofHost "a").endpoint "http://a" "/resources" = .ok itemsUrl := by
  decide +kernel

/-- Two ids that look like one another once they are written are asked for at different URLs. -/
theorem names_item_iff_tells_slash :
    oneHost.registry.source? "a" = some (.ofHost "a") ∧
      (Source.ofHost "a").endpoint "http://a" "/resources" = .ok itemsUrl ∧
      (∃ u, (oneHost.details "a" "ä/?#" none).asked = [u] ∧ u.Names itemsUrl "ä/?#") ∧
      (∃ u, (oneHost.details "a" "ä%2F?#" none).asked = [u] ∧ u.Names itemsUrl "ä%2F?#") ∧
      ∀ u ∈ (oneHost.details "a" "ä/?#" none).asked,
        ∀ v ∈ (oneHost.details "a" "ä%2F?#" none).asked, u.requested.text ≠ v.requested.text := by
  obtain ⟨hs, he⟩ := endpoint_oneHost
  have hslash : Text.blank "ä/?#" = false ∧ itemsUrl.Tells "ä/?#" := by decide +kernel
  have hpercent : Text.blank "ä%2F?#" = false ∧ itemsUrl.Tells "ä%2F?#" := by decide +kernel
  obtain ⟨hnames, hdiffer⟩ := names_item_iff_tells (f := oneHost) hs he
  refine ⟨hs, he, (hnames _ none hslash.1).mpr hslash.2,
    (hnames _ none hpercent.1).mpr hpercent.2, fun u hu v hv htext => ?_⟩
  have heq := hdiffer _ _ none none hslash.1 hpercent.1 hslash.2 hpercent.2 u hu v hv htext
  exact absurd heq (by decide)

/-- **Not all ids can be told.** A tab is dropped, so that another item is asked for, and a dot is
all of the source's items. -/
theorem items_at_one_url :
    oneHost.registry.source? "a" = some (.ofHost "a") ∧
      (Source.ofHost "a").endpoint "http://a" "/resources" = .ok itemsUrl ∧
      Text.blank "x\ty" = false ∧ Text.blank "xy" = false ∧ Text.blank "." = false ∧
      (oneHost.details "a" "x\ty" none).asked = (oneHost.details "a" "xy" none).asked ∧
      (oneHost.details "a" "xy" none).asked.map Url.text = ["http://a/resources/xy".toList] ∧
      (oneHost.details "a" "." none).asked = [itemsUrl] ∧
      (¬ ∃ u, (oneHost.details "a" "x\ty" none).asked = [u] ∧ u.Names itemsUrl "x\ty") ∧
      ¬ ∃ u, (oneHost.details "a" "." none).asked = [u] ∧ u.Names itemsUrl "." := by
  obtain ⟨hs, he⟩ := endpoint_oneHost
  have hblank : Text.blank "x\ty" = false ∧ Text.blank "xy" = false ∧ Text.blank "." = false := by
    decide +kernel
  have hasked :
      (oneHost.details "a" "x\ty" none).asked = (oneHost.details "a" "xy" none).asked ∧
        (oneHost.details "a" "xy" none).asked.map Url.text = ["http://a/resources/xy".toList] ∧
        (oneHost.details "a" "." none).asked = [itemsUrl] := by
    decide +kernel
  have htells : ¬ itemsUrl.Tells "x\ty" ∧ ¬ itemsUrl.Tells "." := by decide +kernel
  refine ⟨hs, he, hblank.1, hblank.2.1, hblank.2.2, hasked.1, hasked.2.1, hasked.2.2, ?_, ?_⟩
  · rw [exists_names_iff (f := oneHost) hs he hblank.1]
    exact htells.1
  · rw [exists_names_iff (f := oneHost) hs he hblank.2.2]
    exact htells.2

end Federation

end CatalogSearch
