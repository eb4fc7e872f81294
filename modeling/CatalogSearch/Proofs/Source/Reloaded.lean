import CatalogSearch.Proofs.Config.Accepted
import CatalogSearch.Proofs.Federation.Dispatch
import CatalogSearch.Proofs.Merge.Comparison
import CatalogSearch.Proofs.Merge.StableSort
import Mathlib.Data.List.DropRight

/-! # Registries that are reloaded and switched

A registry is loaded, its sources are switched on and off, and all of them are replaced, over and
over. What it holds is always what was loaded last, with the switches since. That each source is
found by its id is due to the ids being different, which configurations are checked for.

* **`Registry.Load`**, **`Registry.Change`**, **`Registry.after`**: how a registry is loaded, what
  happens to it then, and what comes of it;
* **`Registry.lastLoad`**, **`Registry.lastSwitch?`**: what was loaded last, and how a source was
  switched since;
* **`Registry.entries_after`**: the entries of the last load, each as it was switched last;
* **`Registry.Reflects`**: what callers see of a registry that holds certain sources;
* **`Registry.reflects_last_load`**: registries reflect their last load. -/

namespace CatalogSearch

/-- The order of sources: by display name. -/
def Source.compareName (s t : Source) : Ordering := Text.compare s.displayName t.displayName

instance transCmp_sourceCompareName : Std.TransCmp Source.compareName :=
  transCmp_comap Source.displayName Text.compare

/-- **An entry for a source of a configuration**: what is left out is as usual, and the source whose
name is that of the DUF speaks its dialect. -/
structure Config.Describes (c : Config) (s : SourceConfig) (e : Registry.Entry) : Prop where
  id_eq : e.source.id = s.id
  displayName_eq : e.source.displayName = s.name
  searchBaseUrl_eq : e.source.searchBaseUrl = s.searchUrl
  detailsBaseUrl_eq : e.source.detailsBaseUrl = s.detailsUrl.getD s.searchUrl
  dialect_eq_duf_iff : e.source.dialect = .duf ↔ c.dufProviderName = some s.name
  active_eq : e.active = s.active

namespace Registry

/-! ## Runs -/

/-- **How a registry is loaded**: from a configuration, or from a list. Sources without anything
else are a list of active ones. -/
inductive Load where
  | config (c : Config)
  | list (entries : List Entry)

/-- The entries that are loaded. -/
def Load.entries : Load → List Entry
  | .config c => c.sources.map fun s => ⟨s.toSource (c.dialectOf s.name), s.active⟩
  | .list entries => entries

/-- The registry that is loaded. -/
def Load.registry : Load → Registry
  | .config c => c.registry
  | .list entries => ofList entries

/-- **Loads that are accepted**: configurations that can be used, and lists of different ids. -/
inductive Load.Accepted : Load → Prop where
  | config (c : Config) (h : c.validate = .ok ()) : Accepted (.config c)
  | list (entries : List Entry) (h : (entries.map (·.source.id)).Nodup) : Accepted (.list entries)

/-- **What happens to a registry.** -/
inductive Change where
  | setActive (id : String) (active : Bool)
  | replace (entries : List Entry)

/-- **Changes that are accepted**: all switches, and lists of different ids. -/
inductive Change.Accepted : Change → Prop where
  | setActive (id : String) (active : Bool) : Accepted (.setActive id active)
  | replace (entries : List Entry) (h : (entries.map (·.source.id)).Nodup) :
    Accepted (.replace entries)

/-- A registry after a change. To switch a source that there is not is no change. -/
def perform (r : Registry) : Change → Registry
  | .setActive id active => (r.setActive? id active).getD r
  | .replace entries => ofList entries

/-- **A registry after many changes**, the first one first. -/
def after (r : Registry) (changes : List Change) : Registry := changes.foldl perform r

/-- The entries that a change loads. -/
def Change.load? : Change → Option (List Entry)
  | .setActive .. => none
  | .replace entries => some entries

/-- How a change switches a source. -/
def Change.switch? (id : String) : Change → Option Bool
  | .setActive other active => if id = other then some active else none
  | .replace _ => none

/-- **What was loaded last**, at first some entries. -/
def lastLoad (entries : List Entry) (changes : List Change) : List Entry :=
  ((changes.filterMap Change.load?).getLast?).getD entries

/-- **How a source was switched last** since the last load. -/
def lastSwitch? (changes : List Change) (id : String) : Option Bool :=
  ((changes.rtakeWhile fun c => c.load?.isNone).filterMap (Change.switch? id)).getLast?

/-- An entry as it was switched, or else as it was loaded. -/
def Entry.switched (switch? : String → Option Bool) (e : Entry) : Entry :=
  { e with active := (switch? e.source.id).getD e.active }

/-- **What callers see of a registry** that holds some entries, loaded so and switched so. -/
structure Reflects (r : Registry) (loaded : List Entry) (switch? : String → Option Bool) :
    Prop where
  /-- A source is found by its id, active or not. -/
  source?_eq_some_iff : ∀ id s, r.source? id = some s ↔ ∃ e ∈ loaded, e.source = s ∧ s.id = id
  /-- The ids of sources are those that were loaded. -/
  isSome_source?_iff : ∀ id, (r.source? id).isSome = true ↔ id ∈ loaded.map (·.source.id)
  /-- The active sources come in the order of their names, and those of one name as loaded. -/
  active_sorts : StablySorts Source.compareName r.active
    ((loaded.filter fun e => (switch? e.source.id).getD e.active).map (·.source))
  /-- Each of them comes once. -/
  nodup_active : (r.active.map (·.id)).Nodup
  /-- Sources can be switched if they were loaded. -/
  setActive?_eq_none_iff : ∀ id active,
    r.setActive? id active = none ↔ id ∉ loaded.map (·.source.id)
  /-- To switch anything else changes nothing. -/
  perform_setActive_of_notMem : ∀ id active, id ∉ loaded.map (·.source.id) →
    r.perform (.setActive id active) = r

/-! ## One change more -/

/-- Changes go on with one more. -/
theorem after_concat (r : Registry) (changes : List Change) (c : Change) :
    r.after (changes ++ [c]) = (r.after changes).perform c := by
  rw [after, List.foldl_append]
  rfl

/-- What happened before everything is replaced is forgotten. -/
theorem after_append_replace (r : Registry) (earlier : List Change) (entries : List Entry)
    (changes : List Change) :
    r.after (earlier ++ .replace entries :: changes) = (ofList entries).after changes := by
  rw [after, List.foldl_append]
  rfl

/-- A switch loads nothing. -/
theorem lastLoad_concat_setActive (entries : List Entry) (changes : List Change) (id : String)
    (active : Bool) :
    lastLoad entries (changes ++ [.setActive id active]) = lastLoad entries changes := by
  simp [lastLoad, Change.load?]

/-- What replaces everything was loaded last. -/
theorem lastLoad_concat_replace (entries : List Entry) (changes : List Change)
    (new : List Entry) : lastLoad entries (changes ++ [.replace new]) = new := by
  simp [lastLoad, Change.load?]

/-- The last switch of a source counts, and for other sources it does not. -/
theorem lastSwitch?_concat_setActive (changes : List Change) (id : String) (active : Bool)
    (id' : String) :
    lastSwitch? (changes ++ [.setActive id active]) id' =
      if id' = id then some active else lastSwitch? changes id' := by
  have hsince : (changes ++ [Change.setActive id active]).rtakeWhile (fun c => c.load?.isNone) =
      (changes.rtakeWhile fun c => c.load?.isNone) ++ [Change.setActive id active] :=
    List.rtakeWhile_concat_pos _ _ _ rfl
  rw [lastSwitch?, hsince, List.filterMap_append, List.getLast?_append]
  by_cases hid : id' = id
  · simp [Change.switch?, hid]
  · simp [Change.switch?, hid, lastSwitch?]

/-- After everything has been replaced, nothing has been switched. -/
theorem lastSwitch?_concat_replace (changes : List Change) (entries : List Entry) (id : String) :
    lastSwitch? (changes ++ [.replace entries]) id = none := by
  rw [lastSwitch?, List.rtakeWhile_concat_neg _ _ _ (by simp [Change.load?])]
  rfl

/-! ## Different ids -/

/-- What an accepted load brings has different ids. -/
theorem Load.Accepted.nodup {load : Load} (h : load.Accepted) :
    (load.entries.map (·.source.id)).Nodup := by
  cases h with
  | config c hvalid =>
    have hids := (Config.validate_eq_ok_iff.mp hvalid).2.1
    rw [Load.entries, List.map_map]
    exact hids
  | list entries hids => exact hids

/-- What was loaded last has different ids. -/
theorem nodup_lastLoad {entries : List Entry} (h : (entries.map (·.source.id)).Nodup)
    {changes : List Change} (hchanges : ∀ c ∈ changes, c.Accepted) :
    ((lastLoad entries changes).map (·.source.id)).Nodup := by
  rw [lastLoad]
  cases hlast : (changes.filterMap Change.load?).getLast? with
  | none => exact h
  | some new =>
    obtain ⟨c, hc, hload⟩ := List.mem_filterMap.mp (List.mem_of_getLast? hlast)
    cases hchanges c hc with
    | setActive id active => cases hload
    | replace entries' hnodup =>
      cases hload
      exact hnodup

/-- The ids of a registry are different if those in its list are. -/
theorem distinct_ofList {entries : List Entry} (h : (entries.map (·.source.id)).Nodup) :
    (ofList entries).Distinct :=
  ((perm_entries_ofList entries).map _).nodup_iff.mpr h

/-! ## Switches -/

/-- An entry, switched if it has the given id. -/
def Entry.switch (id : String) (active : Bool) (e : Entry) : Entry :=
  if e.source.id = id then { e with active := active } else e

/-- A switch leaves entries of other ids. -/
theorem Entry.switch_of_ne {id : String} {e : Entry} (h : e.source.id ≠ id) (active : Bool) :
    e.switch id active = e := if_neg h

/-- **A source is switched where it stands**, if no other one has its id. -/
theorem switch?_of_nodup {entries : List Entry} (h : (entries.map (·.source.id)).Nodup)
    (id : String) (active : Bool) :
    switch? id active entries =
      if id ∈ entries.map (·.source.id) then some (entries.map (Entry.switch id active))
      else none := by
  induction entries with
  | nil => rfl
  | cons e entries ih =>
    obtain ⟨hnew, hrest⟩ := List.nodup_cons.mp h
    rw [switch?, List.map_cons, List.map_cons]
    by_cases hid : e.source.id = id
    · -- Nobody else has the id of the first one.
      have hothers : entries.map (Entry.switch id active) = entries := by
        have hsame : ∀ e' ∈ entries, e'.switch id active = e' := by
          intro e' he'
          refine Entry.switch_of_ne (fun hid' => hnew ?_) active
          show e.source.id ∈ _
          rw [hid, ← hid']
          exact List.mem_map_of_mem he'
        rw [List.map_congr_left hsame, List.map_id']
      rw [if_pos hid, hothers, if_pos (hid ▸ List.mem_cons_self), Entry.switch, if_pos hid]
    · rw [if_neg hid, ih hrest, Entry.switch_of_ne hid]
      have hmem : id ∈ e.source.id :: entries.map (·.source.id) ↔
          id ∈ entries.map (·.source.id) := by
        rw [List.mem_cons]
        exact or_iff_right fun heq => hid heq.symm
      by_cases hknown : id ∈ entries.map (·.source.id)
      · rw [if_pos hknown, if_pos (hmem.mpr hknown)]
        rfl
      · rw [if_neg hknown, if_neg fun hmem' => hknown (hmem.mp hmem')]
        rfl

/-- **How a registry of different ids is switched.** -/
theorem setActive?_of_distinct {r : Registry} (h : r.Distinct) (id : String) (active : Bool) :
    r.setActive? id active =
      if id ∈ r.entries.map (·.source.id) then some ⟨r.entries.map (Entry.switch id active)⟩
      else none := by
  rw [setActive?, switch?_of_nodup h]
  split
  · rfl
  · rfl

/-- An unknown source cannot be switched. -/
theorem setActive?_eq_none_iff {r : Registry} (h : r.Distinct) (id : String) (active : Bool) :
    r.setActive? id active = none ↔ id ∉ r.entries.map (·.source.id) := by
  rw [setActive?_of_distinct h]
  split
  · next hknown => simp [hknown]
  · next hunknown => simp [hunknown]

/-- A source that is switched once more is switched so. -/
theorem Entry.switch_switched {switch? switch?' : String → Option Bool} {id : String}
    {active : Bool} (h : ∀ id', switch?' id' = if id' = id then some active else switch? id')
    (e : Entry) : (e.switched switch?).switch id active = e.switched switch?' := by
  rw [Entry.switch, Entry.switched, Entry.switched, h]
  by_cases hid : e.source.id = id
  · rw [if_pos hid, if_pos hid]
    rfl
  · rw [if_neg hid, if_neg hid]

/-! ## All changes -/

variable {entries : List Entry} {changes : List Change} {switch? : String → Option Bool}

/-- Switches leave the ids as they are. -/
theorem ids_map_switched (entries : List Entry) (switch? : String → Option Bool) :
    (entries.map (Entry.switched switch?)).map (·.source.id) = entries.map (·.source.id) := by
  rw [List.map_map]
  rfl

/-- A switch of a registry that was switched before. -/
theorem entries_perform_setActive {r : Registry} {switch?' : String → Option Bool}
    (hnodup : (entries.map (·.source.id)).Nodup)
    (hr : r.entries = entries.map (Entry.switched switch?)) (id : String) (active : Bool)
    (h : ∀ id', switch?' id' = if id' = id then some active else switch? id') :
    (r.perform (.setActive id active)).entries = entries.map (Entry.switched switch?') := by
  have hids : r.entries.map (·.source.id) = entries.map (·.source.id) := by
    rw [hr, ids_map_switched]
  have hdistinct : r.Distinct := by
    rw [Distinct, hids]
    exact hnodup
  rw [perform, setActive?_of_distinct hdistinct, hids]
  by_cases hknown : id ∈ entries.map (·.source.id)
  · rw [if_pos hknown, Option.getD_some]
    show r.entries.map _ = _
    rw [hr, List.map_map]
    exact List.map_congr_left fun e _ => Entry.switch_switched h e
  · -- No entry has the id, so each is as it was switched before.
    rw [if_neg hknown, Option.getD_none, hr]
    refine List.map_congr_left fun e he => ?_
    have hid : (e.switched switch?).source.id ≠ id := fun heq =>
      hknown (List.mem_map.mpr ⟨e, he, heq⟩)
    rw [← Entry.switch_switched h e, Entry.switch_of_ne hid]

/-- **What a registry holds after many changes**: the entries of the last load in order, each as it
was switched last. -/
theorem entries_after (hentries : (entries.map (·.source.id)).Nodup)
    (hchanges : ∀ c ∈ changes, c.Accepted) :
    ((ofList entries).after changes).entries =
      (ofList (lastLoad entries changes)).entries.map (Entry.switched (lastSwitch? changes)) := by
  induction changes using List.reverseRecOn with
  | nil => exact (List.map_id' _).symm
  | append_singleton changes c ih =>
    have hearlier : ∀ c ∈ changes, c.Accepted := fun c hc =>
      hchanges c (List.mem_append_left _ hc)
    rw [after_concat]
    cases c with
    | setActive id active =>
      rw [lastLoad_concat_setActive]
      exact entries_perform_setActive (distinct_ofList (nodup_lastLoad hentries hearlier))
        (ih hearlier) id active (lastSwitch?_concat_setActive changes id active)
    | replace new =>
      have hnone : lastSwitch? (changes ++ [.replace new]) = fun _ => none :=
        funext fun id => lastSwitch?_concat_replace changes new id
      rw [lastLoad_concat_replace, hnone]
      exact (List.map_id' _).symm

/-! ## What callers see -/

/-- **A source is found by its id** in a registry of different ids. -/
theorem source?_eq_some_iff {r : Registry} (h : r.Distinct) {id : String} {s : Source} :
    r.source? id = some s ↔ ∃ e ∈ r.entries, e.source = s ∧ s.id = id := by
  rw [source?, Option.map_eq_some_iff]
  constructor
  · rintro ⟨e, he, rfl⟩
    have hid := List.find?_some he
    rw [beq_iff_eq] at hid
    exact ⟨e, List.mem_of_find?_eq_some he, rfl, hid⟩
  · rintro ⟨e, he, rfl, hid⟩
    cases hfind : r.entries.find? fun e => e.source.id == id with
    | none =>
      have hne := List.find?_eq_none.mp hfind e he
      simp [hid] at hne
    | some e' =>
      -- Two entries of the same id are one.
      have hid' := List.find?_some hfind
      rw [beq_iff_eq] at hid'
      have hsame : e' = e :=
        List.inj_on_of_nodup_map h (List.mem_of_find?_eq_some hfind) he (hid'.trans hid.symm)
      exact ⟨e', rfl, by rw [hsame]⟩

/-- A list of entries in the order of their names. -/
theorem stablySorts_ofList (entries : List Entry) :
    StablySorts (fun a b : Entry => a.source.compareName b.source) (ofList entries).entries
      entries :=
  haveI := transCmp_comap Entry.source Source.compareName
  stablySorts_mergeSort (fun a b : Entry => a.source.compareName b.source) entries

/-- **The active sources in order**, if some entries were loaded and switched. -/
theorem stablySorts_active {r : Registry}
    (hr : r.entries = (ofList entries).entries.map (Entry.switched switch?)) :
    StablySorts Source.compareName r.active
      ((entries.filter fun e => (switch? e.source.id).getD e.active).map (·.source)) := by
  have hactive : r.active = ((ofList entries).entries.filter fun e =>
      (switch? e.source.id).getD e.active).map (·.source) := by
    rw [active, hr, List.filter_map, List.map_map]
    rfl
  rw [hactive]
  refine ((stablySorts_ofList entries).filter _).map ?_
  intro s
  exact ⟨⟨s, true⟩, rfl⟩

/-- **A registry reflects what it holds.** -/
theorem reflects_of_entries {r : Registry} (hnodup : (entries.map (·.source.id)).Nodup)
    (hr : r.entries = (ofList entries).entries.map (Entry.switched switch?)) :
    r.Reflects entries switch? := by
  have hperm := perm_entries_ofList entries
  have hids : (r.entries.map (·.source.id)).Perm (entries.map (·.source.id)) := by
    rw [hr, ids_map_switched]
    exact hperm.map _
  have hdistinct : r.Distinct := hids.nodup_iff.mpr hnodup
  have hsource : ∀ id s, r.source? id = some s ↔ ∃ e ∈ entries, e.source = s ∧ s.id = id := by
    intro id s
    rw [source?_eq_some_iff hdistinct, hr]
    simp only [List.mem_map, hperm.mem_iff]
    constructor
    · rintro ⟨-, ⟨e, he, rfl⟩, hs⟩
      exact ⟨e, he, hs⟩
    · rintro ⟨e, he, hs⟩
      exact ⟨_, ⟨e, he, rfl⟩, hs⟩
  have hunknown : ∀ id active, r.setActive? id active = none ↔
      id ∉ entries.map (·.source.id) := by
    intro id active
    rw [setActive?_eq_none_iff hdistinct, hids.mem_iff]
  exact
    { source?_eq_some_iff := hsource
      isSome_source?_iff := by
        intro id
        rw [Option.isSome_iff_exists, List.mem_map]
        constructor
        · rintro ⟨s, hs⟩
          obtain ⟨e, he, rfl, hid⟩ := (hsource id s).mp hs
          exact ⟨e, he, hid⟩
        · rintro ⟨e, he, hid⟩
          exact ⟨e.source, (hsource id _).mpr ⟨e, he, rfl, hid⟩⟩
      active_sorts := stablySorts_active hr
      nodup_active := Distinct.nodup_active hdistinct
      setActive?_eq_none_iff := hunknown
      perform_setActive_of_notMem := by
        intro id active hid
        rw [perform, (hunknown id active).mpr hid, Option.getD_none] }

/-! ## The order of loading -/

/-- **Sources of different names can be loaded in any order.** -/
theorem ofList_congr {entries' : List Entry} (hperm : entries'.Perm entries)
    (hnames : (entries.map (·.source.displayName)).Nodup) : ofList entries' = ofList entries := by
  have hsorted := stablySorts_ofList entries
  have hsorted' := stablySorts_ofList entries'
  refine congrArg Registry.mk ?_
  refine List.Perm.eq_of_pairwise ?_ hsorted'.ordered hsorted.ordered
    (hsorted'.perm.trans (hperm.trans hsorted.perm.symm))
  -- Of two entries neither of which comes after the other, the names are equal.
  intro a b ha hb hab hba
  have heq : Text.compare a.source.displayName b.source.displayName = .eq :=
    Std.OrientedCmp.isLE_antisymm hab hba
  have hname : a.source.displayName.toList = b.source.displayName.toList :=
    Std.LawfulEqCmp.eq_of_compare heq
  exact List.inj_on_of_nodup_map hnames (hperm.mem_iff.mp (hsorted'.perm.mem_iff.mp ha))
    (hsorted.perm.mem_iff.mp hb) (String.toList_inj.mp hname)

/-! ## Loads -/

/-- What is loaded is the registry of its entries. -/
theorem Load.registry_eq (load : Load) : load.registry = ofList load.entries := by
  cases load with
  | config c => rfl
  | list entries => rfl

/-- The entries of a configuration are for its sources, one by one. -/
theorem describes_entries (c : Config) :
    List.Forall₂ c.Describes c.sources (Load.config c).entries := by
  rw [Load.entries, List.forall₂_map_right_iff, List.forall₂_same]
  intro s _
  refine ⟨rfl, rfl, rfl, rfl, ?_, rfl⟩
  show c.dialectOf s.name = .duf ↔ _
  rw [Config.dialectOf]
  split
  · next hname => simp [hname]
  · next hname => simp [hname]

/-- **Registries reflect their last load.** Whatever happens to a registry: its sources are those of
the last load, found by their ids; active are those that were switched on last, or were loaded so
and not switched since, in the order of their names; and what is unknown cannot be switched. The
sources of a configuration are as it describes them. Entries of different names can be loaded in any
order, at first or later. -/
theorem reflects_last_load (load : Load) (changes : List Change) (hload : load.Accepted)
    (hchanges : ∀ c ∈ changes, c.Accepted) :
    (load.registry.after changes).Reflects (lastLoad load.entries changes)
        (lastSwitch? changes) ∧
      (∀ c, load = .config c → List.Forall₂ c.Describes c.sources load.entries) ∧
      ∀ load' : Load, load'.entries.Perm load.entries →
        (load.entries.map (·.source.displayName)).Nodup →
          load'.registry.after changes = load.registry.after changes ∧
            ∀ r earlier, after r (earlier ++ .replace load'.entries :: changes) =
              load.registry.after changes := by
  refine ⟨?_, ?_, ?_⟩
  · rw [load.registry_eq]
    exact reflects_of_entries (nodup_lastLoad hload.nodup hchanges)
      (entries_after hload.nodup hchanges)
  · rintro c rfl
    exact describes_entries c
  · intro load' hperm hnames
    have hsame := ofList_congr hperm hnames
    rw [load'.registry_eq, load.registry_eq, hsame]
    refine ⟨rfl, fun r earlier => ?_⟩
    rw [after_append_replace, hsame]

/-- Three publishers, one of which speaks the dialect of the DUF, and one of which is off. -/
def threePublishers : Config where
  dufProviderName := some "DUF"
  sources :=
    [ { id := "1", name := "Westermann", searchUrl := "http://w", active := false },
      { id := "2", name := "DUF", searchUrl := "http://d", detailsUrl := some "http://d/details" },
      { id := "3", name := "Cornelsen", searchUrl := "http://c" } ]

/-- The first publisher is switched on, the last one off, and so is one that nobody knows. -/
def threeSwitches : List Change :=
  [.setActive "1" true, .setActive "3" true, .setActive "4" true, .setActive "3" false]

/-- They are loaded in the wrong order. -/
theorem registry_threePublishers :
    (Load.config threePublishers).registry = ⟨(Load.config threePublishers).entries.reverse⟩ := by
  have hsorted : (Load.config threePublishers).entries.reverse.Pairwise fun a b =>
      Entry.le a b = true := by
    decide +kernel
  rw [Load.registry_eq, ← ofList_congr (List.reverse_perm _) (by decide +kernel), ofList,
    List.mergeSort_of_pairwise hsorted]

/-- The publishers that are on are found in the order of their names, in whatever order they are
loaded. -/
theorem reflects_last_load_threePublishers :
    ((Load.config threePublishers).registry.after threeSwitches).Reflects
        (Load.config threePublishers).entries (lastSwitch? threeSwitches) ∧
      ((Load.config threePublishers).registry.after threeSwitches).active.map (·.id) = ["2", "1"] ∧
      (Load.list (Load.config threePublishers).entries.reverse).registry.after threeSwitches =
        (Load.config threePublishers).registry.after threeSwitches := by
  have hload : (Load.config threePublishers).Accepted := .config _ (by decide +kernel)
  have hchanges : ∀ c ∈ threeSwitches, c.Accepted := by
    simp [threeSwitches, Change.Accepted.setActive]
  obtain ⟨hreflects, -, horder⟩ := reflects_last_load _ threeSwitches hload hchanges
  have hnames : ((Load.config threePublishers).entries.map (·.source.displayName)).Nodup := by
    decide +kernel
  obtain ⟨hsame, -⟩ := horder (.list (Load.config threePublishers).entries.reverse)
    (List.reverse_perm _) hnames
  refine ⟨hreflects, ?_, hsame⟩
  rw [registry_threePublishers]
  decide +kernel

end Registry

end CatalogSearch
