import CatalogSearch.Proofs.Config.Accepted

/-! # What is wrong with a configuration

A configuration that is not accepted is told one fault: a missing timeout before all others, and
else that of the first faulty source, in the order of the sources.

* **`SourceConfig.Faulty`**: what is wrong with a source, when some ids are taken;
* **`Config.FirstFaulty`**: what is wrong with the first faulty one of some sources;
* **`Config.sourceFault?_eq_some_iff`**: this is the fault of sources that is told;
* **`Config.validate_eq_error_iff`**: the fault of a configuration that is told. -/

namespace CatalogSearch

namespace SourceConfig

variable {taken other : List String} {s : SourceConfig} {fault : ConfigFault}

/-- **What is wrong with a source**, when some ids are taken. Of several faults the first one
counts, in this order: its id is taken, its search URL is blank, the details URL that it gives is
blank. -/
def Faulty (taken : List String) (s : SourceConfig) (fault : ConfigFault) : Prop :=
  s.id ∈ taken ∧ fault = .duplicateSource s.id ∨
    s.id ∉ taken ∧ Text.blank s.searchUrl = true ∧ fault = .blankSearchUrl s.id ∨
      s.id ∉ taken ∧ ¬ Text.blank s.searchUrl = true ∧ s.detailsUrl.any Text.blank = true ∧
        fault = .blankDetailsUrl s.id

/-- Which ids are taken counts, not their order. -/
theorem faulty_congr (h : ∀ id, id ∈ taken ↔ id ∈ other) :
    s.Faulty taken fault ↔ s.Faulty other fault := by
  rw [Faulty, Faulty, h]

/-- A source that says where it is asked, in other words. -/
theorem complete_iff :
    s.Complete ↔ ¬ Text.blank s.searchUrl = true ∧ ¬ s.detailsUrl.any Text.blank = true :=
  ⟨fun h => ⟨h.searchUrl, h.detailsUrl⟩, fun h => ⟨h.1, h.2⟩⟩

end SourceConfig

namespace Config

variable {seen : List String} {ss : List SourceConfig} {fault : ConfigFault}

/-- **The first faulty source**: those before it have different ids and say where they are asked,
and what is wrong with it is told. -/
def FirstFaulty (ss : List SourceConfig) (fault : ConfigFault) : Prop :=
  ∃ front s rest, ss = front ++ s :: rest ∧ (front.map (·.id)).Nodup ∧ (∀ t ∈ front, t.Complete) ∧
    s.Faulty (front.map (·.id)) fault

/-- The fault of some sources is that of the first one, or of those after a first one without
fault. -/
theorem sourceFault?_cons_eq_some_iff (s : SourceConfig) :
    sourceFault? seen (s :: ss) = some fault ↔
      s.Faulty seen fault ∨
        (s.id ∉ seen ∧ s.Complete) ∧ sourceFault? (s.id :: seen) ss = some fault := by
  rw [sourceFault?, SourceConfig.Faulty, SourceConfig.complete_iff]
  by_cases hid : s.id ∈ seen
  · simp [hid, @eq_comm _ fault]
  · by_cases hsearch : Text.blank s.searchUrl = true
    · simp [hid, hsearch, @eq_comm _ fault]
    · by_cases hdetails : s.detailsUrl.any Text.blank = true
      · simp [hid, hsearch, hdetails, @eq_comm _ fault]
      · simp [hid, hsearch, hdetails]

/-- A source without fault leaves the others as they are, but that its id is taken. -/
theorem sourceFault?_cons_eq_none_iff (s : SourceConfig) :
    sourceFault? seen (s :: ss) = none ↔
      (s.id ∉ seen ∧ s.Complete) ∧ sourceFault? (s.id :: seen) ss = none := by
  rw [sourceFault?, SourceConfig.complete_iff]
  by_cases hid : s.id ∈ seen
  · simp [hid]
  · by_cases hsearch : Text.blank s.searchUrl = true
    · simp [hid, hsearch]
    · by_cases hdetails : s.detailsUrl.any Text.blank = true
      · simp [hid, hsearch, hdetails]
      · simp [hid, hsearch, hdetails]

/-- **The fault of some sources** is that of one after others without fault, whose ids are taken. -/
theorem sourceFault?_eq_some_iff :
    sourceFault? seen ss = some fault ↔
      ∃ front s rest, ss = front ++ s :: rest ∧ sourceFault? seen front = none ∧
        s.Faulty (front.map (·.id) ++ seen) fault := by
  induction ss generalizing seen with
  | nil =>
    constructor
    · rintro ⟨⟩
    · rintro ⟨front, s, rest, hss, -⟩
      simp at hss
  | cons s ss ih =>
    rw [sourceFault?_cons_eq_some_iff, ih]
    -- An id that is taken by an earlier source counts as one that has been seen.
    have hswap : ∀ (front : List SourceConfig) (t : SourceConfig),
        t.Faulty (front.map (·.id) ++ s.id :: seen) fault ↔
          t.Faulty ((s :: front).map (·.id) ++ seen) fault := by
      intro front t
      refine SourceConfig.faulty_congr fun id => ?_
      simp only [List.mem_append, List.mem_cons, List.map_cons]
      rw [or_assoc, or_left_comm]
    constructor
    · rintro (hfaulty | ⟨hs, front, t, rest, rfl, hfront, hfaulty⟩)
      · exact ⟨[], s, ss, rfl, rfl, hfaulty⟩
      · refine ⟨s :: front, t, rest, rfl, ?_, (hswap front t).mp hfaulty⟩
        exact (sourceFault?_cons_eq_none_iff s).mpr ⟨hs, hfront⟩
    · rintro ⟨front, t, rest, hss, hfront, hfaulty⟩
      cases front with
      | nil =>
        obtain ⟨rfl, rfl⟩ := List.cons.inj hss
        exact Or.inl hfaulty
      | cons s' front =>
        obtain ⟨rfl, rfl⟩ := List.cons.inj hss
        obtain ⟨hs, hrest⟩ := (sourceFault?_cons_eq_none_iff s).mp hfront
        exact Or.inr ⟨hs, front, t, rest, rfl, hrest, (hswap front t).mpr hfaulty⟩

/-- Of some sources alone, the first faulty one is told. -/
theorem sourceFault?_nil_eq_some_iff : sourceFault? [] ss = some fault ↔ FirstFaulty ss fault := by
  rw [sourceFault?_eq_some_iff, FirstFaulty]
  simp only [sourceFault?_eq_none_iff, List.append_nil, List.not_mem_nil, not_false_eq_true,
    implies_true, true_and, and_assoc]

/-- **The fault of a configuration that is told**: that there is no time for an answer, or else what
is wrong with the first faulty source. -/
theorem validate_eq_error_iff {c : Config} :
    c.validate = .error fault ↔
      c.requestTimeoutSecs = 0 ∧ fault = .zeroTimeout ∨
        c.requestTimeoutSecs ≠ 0 ∧ FirstFaulty c.sources fault := by
  have hfault : c.validate = .error fault ↔ c.fault? = some fault := by
    rw [validate]
    cases c.fault? with
    | none => simp
    | some other => simp
  rw [hfault, fault?, ← sourceFault?_nil_eq_some_iff]
  by_cases htimeout : c.requestTimeoutSecs = 0
  · rw [if_pos htimeout]
    simp [htimeout, @eq_comm _ fault]
  · rw [if_neg htimeout]
    simp [htimeout]

end Config

end CatalogSearch
