import CatalogSearch.Proofs.Federation.Outcome
import CatalogSearch.Proofs.Federation.Queries

/-! # Known items, grouped by their sources

Every key of a known source is asked for once, and only there.

* **`Federation.Groups`**: queries that ask each known source for its items;
* **`Federation.perm_queryKeys`**: the keys that the queries are about;
* **`Federation.idQueries_group_keys`**: the queries for known items are those of the groups. -/

namespace CatalogSearch

/-! ## Queries -/

namespace Federation

variable {f : Federation} {keys : List ItemKey} {base : SearchRequest}
  {queries queries' : List (Source × SearchRequest)}

/-- **Queries that ask each known source for its items** among some keys. -/
structure Groups (f : Federation) (keys : List ItemKey) (base : SearchRequest)
    (queries : List (Source × SearchRequest)) : Prop where
  /-- Those sources are asked that are named and known, whether they are active or not. -/
  asked_iff : ∀ id, id ∈ queries.map (·.1.id) ↔
    (∃ k ∈ keys, k.sourceId = id) ∧ f.registry.Knows id
  /-- Each is asked once, in the order in which they are named first. -/
  in_order : (queries.map (·.1.id)).Pairwise fun a b =>
    (keys.map (·.sourceId)).idxOf a < (keys.map (·.sourceId)).idxOf b
  /-- They are asked as the registry has them. -/
  source_eq : ∀ q ∈ queries, f.registry.source? q.1.id = some q.1
  /-- Each is asked for the items that are named there, in their order and as often. -/
  ids_eq : ∀ q ∈ queries, q.2.id = (keys.filter (·.sourceId = q.1.id)).map (·.itemId)
  /-- All else is asked for as it was. -/
  rest_eq : ∀ q ∈ queries, q.2 = { base with id := q.2.id }

/-- **The queries for known items** ask each known source for its own. -/
theorem groups_idQueries (f : Federation) (keys : List ItemKey) (base : SearchRequest) :
    f.Groups keys base (f.idQueries keys base) where
  asked_iff id := by
    rw [ids_idQueries, List.mem_filter, List.mem_eraseDups, List.mem_map,
      Registry.isSome_source?_iff]
  in_order := by
    rw [ids_idQueries]
    exact (pairwise_idxOf_eraseDups _).sublist List.filter_sublist
  source_eq q hq := by
    obtain ⟨k, -, hs, -⟩ := mem_idQueries.mp hq
    rw [Registry.id_of_source? hs, hs]
  ids_eq q hq := by
    obtain ⟨k, -, hs, hr⟩ := mem_idQueries.mp hq
    rw [hr, Registry.id_of_source? hs]
    rfl
  rest_eq q hq := by
    obtain ⟨k, -, -, hr⟩ := mem_idQueries.mp hq
    rw [hr]

namespace Groups

/-- No source is asked twice. -/
theorem nodup_ids (h : f.Groups keys base queries) : (queries.map (·.1.id)).Nodup := by
  refine h.in_order.imp fun {a b} hlt he => ?_
  rw [he] at hlt
  exact Nat.lt_irrefl _ hlt

/-- The sources to ask are determined by the keys. -/
theorem ids_eq_ids (h : f.Groups keys base queries) (h' : f.Groups keys base queries') :
    queries.map (·.1.id) = queries'.map (·.1.id) := by
  have hperm : (queries.map (·.1.id)).Perm (queries'.map (·.1.id)) := by
    rw [List.perm_ext_iff_of_nodup h.nodup_ids h'.nodup_ids]
    intro id
    rw [h.asked_iff, h'.asked_iff]
  -- They are the same sources, and there is but one order of first places.
  refine hperm.eq_of_pairwise (fun a b _ _ hab hba => ?_) h.in_order h'.in_order
  exact absurd hab (Nat.lt_asymm hba)

/-- The query of a source is determined by the keys. -/
theorem eq_filterMap (h : f.Groups keys base queries) :
    queries = (queries.map (·.1.id)).filterMap fun id =>
      f.groupQuery? base ⟨id, idsAt keys id⟩ := by
  have hquery : ∀ q ∈ queries, f.groupQuery? base ⟨q.1.id, idsAt keys q.1.id⟩ = some q := by
    intro q hq
    have hr : ({ base with id := idsAt keys q.1.id } : SearchRequest) = q.2 := by
      rw [h.rest_eq q hq, h.ids_eq q hq]
      rfl
    rw [groupQuery?, h.source_eq q hq, Option.map_some, hr]
  rw [List.filterMap_map]
  exact ((List.filterMap_congr hquery).trans List.filterMap_some).symm

/-- There are no other such queries. -/
theorem unique (h : f.Groups keys base queries) (h' : f.Groups keys base queries') :
    queries = queries' := by
  rw [h.eq_filterMap, h'.eq_filterMap, h.ids_eq_ids h']

end Groups

/-- The keys that a query is about. -/
def queryKeys (q : Source × SearchRequest) : List ItemKey := q.2.id.map (ItemKey.mk q.1.id)

/-- A query for known items is about those of its source. -/
theorem queryKeys_of_mem {q : Source × SearchRequest} (hq : q ∈ f.idQueries keys base) :
    queryKeys q = keys.filter (·.sourceId = q.1.id) := by
  rw [queryKeys, (groups_idQueries f keys base).ids_eq q hq, List.map_map]
  refine (List.map_congr_left fun k hk => ?_).trans (List.map_id _)
  rw [Function.comp_apply, ← of_decide_eq_true (List.mem_filter.mp hk).2]
  rfl

/-- **Nothing is lost and nothing is mixed**: the queries are about the keys of known sources. -/
theorem perm_queryKeys (f : Federation) (keys : List ItemKey) (base : SearchRequest) :
    ((f.idQueries keys base).flatMap queryKeys).Perm
      (keys.filter fun k => f.registry.Knows k.sourceId) := by
  -- Only known sources are asked, so that keys of others are in no group.
  have hgroup : ∀ q ∈ f.idQueries keys base, queryKeys q =
      (keys.filter fun k => f.registry.Knows k.sourceId).filter (·.sourceId = q.1.id) := by
    intro q hq
    have hknown : f.registry.Knows q.1.id :=
      (((groups_idQueries f keys base).asked_iff _).mp (List.mem_map_of_mem hq)).2
    rw [queryKeys_of_mem hq, List.filter_filter]
    refine List.filter_congr fun k _ => ?_
    by_cases hk : k.sourceId = q.1.id
    · simp [hk, hknown]
    · simp [hk]
  have hnames : ∀ k ∈ keys.filter fun k => f.registry.Knows k.sourceId,
      k.sourceId ∈ (f.idQueries keys base).map (·.1.id) := by
    intro k hk
    obtain ⟨hk, hknown⟩ := List.mem_filter.mp hk
    exact ((groups_idQueries f keys base).asked_iff _).mpr
      ⟨⟨k, hk, rfl⟩, of_decide_eq_true hknown⟩
  have hperm := perm_flatMap_filter ItemKey.sourceId (nodup_ids_idQueries f keys base) hnames
  rw [List.flatMap_map] at hperm
  rw [List.flatMap_congr hgroup]
  exact hperm

/-- A key of a known source is in one query. -/
theorem existsUnique_query {k : ItemKey} (hk : k ∈ keys) (hknown : f.registry.Knows k.sourceId) :
    ∃! q, q ∈ f.idQueries keys base ∧ k ∈ queryKeys q := by
  have hgroups := groups_idQueries f keys base
  obtain ⟨q, hq, hid⟩ := List.mem_map.mp ((hgroups.asked_iff _).mpr ⟨⟨k, hk, rfl⟩, hknown⟩)
  refine ⟨q, ⟨hq, ?_⟩, ?_⟩
  · rw [queryKeys_of_mem hq, List.mem_filter]
    exact ⟨hk, decide_eq_true hid.symm⟩
  · rintro q' ⟨hq', hkq'⟩
    rw [queryKeys_of_mem hq', List.mem_filter] at hkq'
    have hid' : q'.1.id = q.1.id := (of_decide_eq_true hkq'.2).symm.trans hid.symm
    exact List.inj_on_of_nodup_map (nodup_ids_idQueries f keys base) hq' hq hid'

/-- Which sources are active makes no difference. -/
theorem idQueries_congr {reg : Registry}
    (h : reg.entries.map (·.source) = f.registry.entries.map (·.source)) :
    ({ f with registry := reg } : Federation).idQueries keys base = f.idQueries keys base := by
  have hsource : ∀ id, reg.source? id = f.registry.source? id := by
    intro id
    rw [Registry.source?, Registry.source?]
    have hfind := congrArg (List.find? fun s : Source => s.id == id) h
    rw [List.find?_map, List.find?_map] at hfind
    exact hfind
  have hgroup : ({ f with registry := reg } : Federation).groupQuery? base =
      f.groupQuery? base := by
    funext group
    rw [groupQuery?, groupQuery?, hsource]
  rw [idQueries, idQueries, hgroup]

/-- **Known items are grouped by their sources**, and nothing is lost or mixed. There is one query
for each source that is named and known, active or not, in the order in which they are named first.
It asks for the items that are named there, in their order and as often, and for all else as it was.
No other queries are like this; they are those of the groups that are made key by key. Every key of
a known source is in one query, the queries have these keys just as often, and no others. -/
theorem idQueries_group_keys (f : Federation) (keys : List ItemKey) (base : SearchRequest) :
    (∀ queries, f.Groups keys base queries ↔ queries = f.idQueries keys base) ∧
      f.idQueries keys base = (KeyGroup.ofKeys keys).filterMap (f.groupQuery? base) ∧
      ((f.idQueries keys base).flatMap queryKeys).Perm
        (keys.filter fun k => f.registry.Knows k.sourceId) ∧
      (∀ k ∈ keys, f.registry.Knows k.sourceId →
        ∃! q, q ∈ f.idQueries keys base ∧ k ∈ queryKeys q) ∧
      ∀ reg : Registry, reg.entries.map (·.source) = f.registry.entries.map (·.source) →
        ({ f with registry := reg } : Federation).idQueries keys base = f.idQueries keys base := by
  have hgroups := groups_idQueries f keys base
  refine ⟨?_, rfl, perm_queryKeys f keys base, ?_, ?_⟩
  · intro queries
    constructor
    · intro h
      exact h.unique hgroups
    · rintro rfl
      exact hgroups
  · intro k hk hknown
    exact existsUnique_query hk hknown
  · intro reg hsources
    exact idQueries_congr hsources

/-- Keys of two sources and of an unknown one, one after another and one of them twice. -/
def interleavedKeys : List ItemKey :=
  [⟨"b", "1"⟩, ⟨"x", "2"⟩, ⟨"a", "1"⟩, ⟨"b", "3"⟩, ⟨"b", "1"⟩, ⟨"a", "2"⟩]

/-- Both sources are asked for their items, also when one of them is switched off; the other key is
in no query. -/
theorem idQueries_group_keys_interleavedKeys :
    let f : Federation := .ofHosts ["a", "b"] .offline
    let reg : Registry := ⟨[⟨.ofHost "a", true⟩, ⟨.ofHost "b", false⟩]⟩
    f.Groups interleavedKeys {}
        [(.ofHost "b", { id := ["1", "3", "1"] }), (.ofHost "a", { id := ["1", "2"] })] ∧
      ({ f with registry := reg } : Federation).idQueries interleavedKeys {} =
        f.idQueries interleavedKeys {} ∧
      (∃! q, q ∈ f.idQueries interleavedKeys {} ∧ ⟨"b", "1"⟩ ∈ queryKeys q) ∧
      ∀ q ∈ f.idQueries interleavedKeys {}, ⟨"x", "2"⟩ ∉ queryKeys q := by
  intro f reg
  obtain ⟨hgroups, -, hperm, hunique, hcongr⟩ := idQueries_group_keys f interleavedKeys {}
  refine ⟨(hgroups _).mpr (by decide), hcongr reg rfl, hunique _ (by decide) (by decide), ?_⟩
  intro q hq hkey
  have hknown := hperm.mem_iff.mp (List.mem_flatMap.mpr ⟨q, hq, hkey⟩)
  exact absurd hknown (by decide)

end Federation

end CatalogSearch
