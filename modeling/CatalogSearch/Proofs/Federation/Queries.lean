import CatalogSearch.Federation
import CatalogSearch.Proofs.Repetition
import Mathlib.Data.List.Perm.Basic

/-! # The queries for known items

Keys name the sources to ask, and the items to ask them for. They are taken one after another: each
goes to the group of its source, or starts a new one at the end. Every source that is known is asked
once, for its own items and for no others.

* **`perm_flatMap_filter`**: lists taken apart into groups;
* **`Registry.Knows`**: the ids of sources, active or not;
* **`KeyGroup.add_groups`**, **`KeyGroup.ofKeys_eq`**: one more key in the groups of some keys, and
  all groups: each source that is named has one, with all its items;
* **`Federation.idQueries_eq_filterMap`**: the queries, source by source;
* **`Federation.ids_idQueries`**: one query for each known source, in the order of the keys;
* **`Federation.mem_idQueries`**: what it asks for. -/

namespace CatalogSearch

/-! ## Groups -/

/-- **A list is made up of its groups**: the elements of each name, if there are no other names. -/
theorem perm_flatMap_filter {α β : Type} [DecidableEq β] (name : α → β) {names : List β}
    {l : List α} (hnames : names.Nodup) (h : ∀ a ∈ l, name a ∈ names) :
    (names.flatMap fun b => l.filter fun a => name a = b).Perm l := by
  induction names generalizing l with
  | nil =>
    have hl : l = [] := by
      rw [List.eq_nil_iff_forall_not_mem]
      intro a ha
      exact List.not_mem_nil (h a ha)
    rw [hl, List.flatMap_nil]
  | cons b names ih =>
    obtain ⟨hb, hnames⟩ := List.nodup_cons.mp hnames
    -- The elements of other names are those that are left without the first group.
    have hrest : ∀ c ∈ names, (l.filter fun a => name a = c) =
        (l.filter fun a => !decide (name a = b)).filter fun a => name a = c := by
      intro c hc
      rw [List.filter_filter]
      refine List.filter_congr fun a _ => ?_
      by_cases hac : name a = c
      · have hcb : c ≠ b := by
          rintro rfl
          exact hb hc
        simp [hac, hcb]
      · simp [hac]
    have hleft : ∀ a ∈ l.filter (fun a => !decide (name a = b)), name a ∈ names := by
      intro a ha
      obtain ⟨hal, hab⟩ := List.mem_filter.mp ha
      have hne : name a ≠ b := by simpa using hab
      exact List.mem_of_ne_of_mem hne (h a hal)
    rw [List.flatMap_cons, List.flatMap_congr hrest]
    exact ((ih hnames hleft).append_left _).trans (List.filter_append_perm _ l)

/-! ## Known sources -/

/-- **The ids that a registry knows**: those of its sources, active or not. -/
def Registry.Knows (reg : Registry) (id : String) : Prop := ∃ e ∈ reg.entries, e.source.id = id

instance (reg : Registry) (id : String) : Decidable (reg.Knows id) := by
  unfold Registry.Knows
  infer_instance

/-- An id is known if it finds a source. -/
theorem Registry.isSome_source?_iff {reg : Registry} {id : String} :
    (reg.source? id).isSome = true ↔ reg.Knows id := by
  simp only [source?, Option.isSome_map, List.find?_isSome, beq_iff_eq, Knows]

/-- An id that is not known finds no source. -/
theorem Registry.source?_eq_none_iff {reg : Registry} {id : String} :
    reg.source? id = none ↔ ¬ reg.Knows id := by
  rw [← isSome_source?_iff, Bool.not_eq_true, Option.isSome_eq_false_iff, Option.isNone_iff_eq_none]

/-! ## Groups of keys -/

/-- The ids of the items that some keys name at one source. -/
def Federation.idsAt (keys : List ItemKey) (sourceId : String) : List String :=
  (keys.filter (·.sourceId = sourceId)).map (·.itemId)

namespace KeyGroup

variable {k : ItemKey} {ids : List String} {items : String → List String}

/-- A key of a new source has a group of its own. -/
theorem add_of_not_mem (h : k.sourceId ∉ ids) :
    add k (ids.map fun id => ⟨id, items id⟩) =
      (ids.map fun id => ⟨id, items id⟩) ++ [⟨k.sourceId, [k.itemId]⟩] := by
  induction ids with
  | nil => rfl
  | cons id ids ih =>
    have hne : id ≠ k.sourceId := (List.ne_of_not_mem_cons h).symm
    rw [List.map_cons, add, if_neg hne, ih (List.not_mem_of_not_mem_cons h)]
    rfl

/-- The groups of other sources stay as they are. -/
theorem map_append_of_not_mem (h : k.sourceId ∉ ids) :
    (ids.map fun id => (⟨id, items id ++ if k.sourceId = id then [k.itemId] else []⟩ : KeyGroup)) =
      ids.map fun id => ⟨id, items id⟩ := by
  refine List.map_congr_left fun id hid => ?_
  have hne : k.sourceId ≠ id := by
    rintro rfl
    exact h hid
  rw [if_neg hne, List.append_nil]

/-- A key of a source with a group belongs there, and to no other group. -/
theorem add_of_mem (hids : ids.Nodup) (h : k.sourceId ∈ ids) :
    add k (ids.map fun id => ⟨id, items id⟩) =
      ids.map fun id => ⟨id, items id ++ if k.sourceId = id then [k.itemId] else []⟩ := by
  induction ids with
  | nil => exact absurd h List.not_mem_nil
  | cons id ids ih =>
    obtain ⟨hid, hids⟩ := List.nodup_cons.mp hids
    rw [List.map_cons, List.map_cons, add]
    by_cases hk : id = k.sourceId
    · -- The groups that follow are of other sources.
      have hrest : k.sourceId ∉ ids := by rwa [← hk]
      rw [if_pos hk, if_pos hk.symm, map_append_of_not_mem hrest]
    · have hmem := List.mem_of_ne_of_mem (Ne.symm hk) h
      rw [if_neg hk, if_neg (Ne.symm hk), List.append_nil, ih hids hmem]

/-- The items of a source, with one more key. -/
theorem idsAt_concat (keys : List ItemKey) (k : ItemKey) (id : String) :
    Federation.idsAt (keys ++ [k]) id =
      Federation.idsAt keys id ++ if k.sourceId = id then [k.itemId] else [] := by
  rw [Federation.idsAt, List.filter_append, List.map_append, List.filter_singleton]
  by_cases hk : k.sourceId = id
  · simp only [hk, decide_true, if_pos, cond_true]
    rfl
  · simp only [hk, decide_false, if_neg, not_false_eq_true, cond_false]
    rfl

/-- **One more key** makes of the groups of some keys those of the keys with this one. -/
theorem add_groups (keys : List ItemKey) (k : ItemKey) :
    add k ((keys.map (·.sourceId)).eraseDups.map fun id => ⟨id, Federation.idsAt keys id⟩) =
      ((keys ++ [k]).map (·.sourceId)).eraseDups.map fun id =>
        ⟨id, Federation.idsAt (keys ++ [k]) id⟩ := by
  have hids := nodup_eraseDups (keys.map (·.sourceId))
  simp only [idsAt_concat]
  rw [List.map_append, List.map_singleton, eraseDups_concat]
  by_cases hk : k.sourceId ∈ keys.map (·.sourceId)
  · rw [if_pos hk, add_of_mem hids (List.mem_eraseDups.mpr hk)]
  · -- The key is of none of the sources so far, and has no items before it.
    have hnew : k.sourceId ∉ (keys.map (·.sourceId)).eraseDups := fun h =>
      hk (List.mem_eraseDups.mp h)
    have hnone : Federation.idsAt keys k.sourceId = [] := by
      rw [Federation.idsAt, List.map_eq_nil_iff, List.filter_eq_nil_iff]
      intro k' hk' he
      exact hk (List.mem_map.mpr ⟨k', hk', of_decide_eq_true he⟩)
    rw [if_neg hk, add_of_not_mem hnew, List.map_append, map_append_of_not_mem hnew,
      List.map_singleton, hnone, if_pos rfl, List.nil_append]

/-- **The groups of some keys**: each source that they name has one, where it is named first, with
all its items. -/
theorem ofKeys_eq (keys : List ItemKey) :
    ofKeys keys =
      (keys.map (·.sourceId)).eraseDups.map fun id => ⟨id, Federation.idsAt keys id⟩ := by
  -- By induction on the last key, since each step is about the keys before it.
  induction keys using List.reverseRecOn with
  | nil =>
    rw [List.map_nil, List.eraseDups_nil]
    rfl
  | append_singleton keys k ih =>
    rw [ofKeys, List.foldl_append, List.foldl_cons, List.foldl_nil, ← add_groups, ← ih]
    rfl

end KeyGroup

/-! ## Queries -/

namespace Federation

variable {f : Federation} {keys : List ItemKey} {base : SearchRequest}

/-- **The queries for known items, source by source**: one for each that is named and known. -/
theorem idQueries_eq_filterMap (f : Federation) (keys : List ItemKey) (base : SearchRequest) :
    f.idQueries keys base = ((keys.map (·.sourceId)).eraseDups).filterMap fun id =>
      f.groupQuery? base ⟨id, idsAt keys id⟩ := by
  rw [idQueries, KeyGroup.ofKeys_eq, List.filterMap_map]
  rfl

/-- **The sources that known items are asked for**: those of the keys that are known, each where it
is named first. -/
theorem ids_idQueries (f : Federation) (keys : List ItemKey) (base : SearchRequest) :
    (f.idQueries keys base).map (·.1.id) =
      ((keys.map (·.sourceId)).eraseDups).filter fun id => (f.registry.source? id).isSome := by
  rw [idQueries_eq_filterMap, List.map_filterMap, ← List.filterMap_eq_filter]
  refine List.filterMap_congr fun id _ => ?_
  rw [groupQuery?]
  cases hs : f.registry.source? id with
  | none => simp [Option.guard, hs]
  | some s => simp [Option.guard, hs, Registry.id_of_source? hs]

/-- No source is asked twice. -/
theorem nodup_ids_idQueries (f : Federation) (keys : List ItemKey) (base : SearchRequest) :
    ((f.idQueries keys base).map (·.1.id)).Nodup := by
  rw [ids_idQueries]
  exact (nodup_eraseDups _).filter _

/-- **What a source is asked for**: its items among the keys. -/
theorem mem_idQueries {q : Source × SearchRequest} :
    q ∈ f.idQueries keys base ↔
      ∃ k ∈ keys, f.registry.source? k.sourceId = some q.1 ∧
        q.2 = { base with id := idsAt keys k.sourceId } := by
  rw [idQueries_eq_filterMap, List.mem_filterMap]
  constructor
  · rintro ⟨id, hid, hq⟩
    obtain ⟨k, hk, rfl⟩ := List.mem_map.mp (List.mem_eraseDups.mp hid)
    obtain ⟨s, hs, rfl⟩ := Option.map_eq_some_iff.mp hq
    exact ⟨k, hk, hs, rfl⟩
  · rintro ⟨k, hk, hs, hr⟩
    refine ⟨k.sourceId, List.mem_eraseDups.mpr (List.mem_map.mpr ⟨k, hk, rfl⟩), ?_⟩
    rw [groupQuery?, hs, Option.map_some, ← hr]

end Federation

end CatalogSearch
